import AuthServer.Proofs.Endpoint.Frame
import AuthServer.Proofs.Routes.FullChain

/-!
Visits: requests as they come to the server. What the server answers to a visit is what comes of it
inside its chain, with its trace and with what the router adds to the response.
-/

namespace AuthServer

/-- A request at the server, with the service as it is then and with what the world adds. -/
structure Visit where
  service : Service
  arrival : Arrival
  request : Request

namespace Visit

variable (visit : Visit) (state : State)

def answer : Answer :=
  Router.server.answer visit.service visit.arrival visit.request state

def destination : Destination :=
  .ofPath (Target.path visit.request.target)

def isFull : Bool :=
  !visit.destination.isProbe

def exchange : Exchange :=
  .arriving visit.service visit.arrival visit.request (.ofSegments visit.destination.values)

def inside : Answer :=
  visit.destination.inside visit.request.method visit.exchange.entered state

/-- A response as it leaves the server: with its trace, and with what the router adds. -/
def deliver (response : Response) : Response :=
  visit.destination.dress visit.request.method
    (response.setHeader "x-trace-id" visit.arrival.traceId)

/-! ## Delivery -/

theorem deliver_cases (response : Response) :
    visit.deliver response = Router.finish visit.request.method
        (response.setHeader "x-trace-id" visit.arrival.traceId) ∨
      ∃ methods, visit.deliver response = Router.finish visit.request.method
        ((response.setHeader "x-trace-id" visit.arrival.traceId).setHeader "allow" methods) := by
  rcases Destination.allow_cases visit.destination.verb? visit.request.method
    (response.setHeader "x-trace-id" visit.arrival.traceId) with same | ⟨methods, same⟩
  · exact .inl (congrArg (Router.finish visit.request.method) same)
  · exact .inr ⟨methods, congrArg (Router.finish visit.request.method) same⟩

@[simp] theorem status_deliver (response : Response) :
    (visit.deliver response).status = response.status := by
  rcases visit.deliver_cases response with same | ⟨methods, same⟩ <;> simp [same]

@[simp] theorem record_deliver (response : Response) :
    (visit.deliver response).record = response.record := by
  rcases visit.deliver_cases response with same | ⟨methods, same⟩ <;> simp [same]

theorem body_deliver (response : Response) :
    (visit.deliver response).body =
      if visit.request.method = "HEAD" then "" else response.body := by
  rcases visit.deliver_cases response with same | ⟨methods, same⟩ <;>
    simp [same, Response.body_finish]

theorem values_deliver (response : Response) :
    (visit.deliver response).values "x-trace-id" = [visit.arrival.traceId] := by
  rcases visit.deliver_cases response with same | ⟨methods, same⟩ <;>
    simp [same, Response.values_congr (Response.headers_finish _ _), Response.values_setHeader_self,
      Response.values_setHeader_of_ne]

theorem dresses_deliver (whole : visit.request.method ≠ "HEAD") (response : Response) :
    (visit.deliver response).Dresses response :=
  (visit.destination.dresses_dress whole _).trans (.setHeader (by decide) _ response)

/-! ## The full chain -/

/-- A visit to the full chain is refused with a problem, or handed over to an endpoint: one that is
open to everyone, or one whose guards know the caller and admit it. -/
theorem inside_cases :
    (∃ problem : Problem, visit.inside state = .respond problem.response state) ∨
      (∃ route, visit.destination = .anyone route ∧ visit.request.method = "POST" ∧
        visit.inside state = route.endpoint.handler visit.exchange.entered state) ∨
      ∃ route values claims, visit.destination = .guarded route values ∧
        route.verb.accepts visit.request.method = true ∧
        visit.request.caller visit.service.authenticator visit.arrival.now = .ok claims ∧
        Stage.applyRule route.rule (.verified visit.service visit.arrival visit.request
          (.ofSegments values) claims) = .ok () ∧
        visit.inside state = route.endpoint.handler (.verified visit.service visit.arrival
          visit.request (.ofSegments values) claims) state := by
  unfold inside Destination.inside
  cases leads : visit.destination with
  | anyone route =>
      by_cases posted : visit.request.method = "POST"
      · simp only [if_pos posted]
        exact .inr (.inl ⟨route, rfl, posted, rfl⟩)
      · simp only [if_neg posted]
        exact .inl ⟨.methodNotAllowed, rfl⟩
  | guarded route values =>
      by_cases supported : route.verb.accepts visit.request.method = true
      · simp only [if_pos supported, exchange, leads, Destination.values]
        rcases Stage.guarded_cases route.rule route.endpoint.handler state with
          refused | ⟨claims, known, admitted, handed⟩
        · exact .inl refused
        · exact .inr (.inr ⟨route, values, claims, rfl, supported, known, admitted, handed⟩)
      · simp only [if_neg supported]
        exact .inl ⟨.methodNotAllowed, rfl⟩
  | probe | nowhere => exact .inl ⟨.notFound "route not found", rfl⟩

theorem isInner_inside : (visit.inside state).IsInner state := by
  rcases visit.inside_cases state with
    ⟨problem, refused⟩ | ⟨route, -, -, handed⟩ | ⟨route, values, claims, -, -, -, -, handed⟩
  · rw [refused]
    exact Answer.isInner_of_no_events _ state
  · rw [handed]
    exact route.isInner _ state
  · rw [handed]
    exact route.isInner _ state

theorem metrics_inside : (visit.inside state).state.metrics = state.metrics :=
  (visit.isInner_inside state).metrics

variable {visit} in
theorem answer_of_full (full : visit.isFull = true) :
    visit.answer state =
      { outcome := .ok (visit.deliver (visit.inside state.entered).contained)
        events := (visit.inside state.entered).events.map
            (fun event => { event with span := some (Stage.spanOf visit.exchange.entered) }) ++
          [Stage.completion visit.exchange.entered (visit.inside state.entered).contained]
        state := ⟨(visit.inside state.entered).state.directory,
          (visit.inside state.entered).counted⟩ } := by
  have staged : visit.answer state =
      (Stage.full (visit.destination.inside visit.request.method) visit.exchange state).mapResponse
        (visit.destination.dress visit.request.method) :=
    Router.server_answer_of_full _ _ _ _ (by simpa [isFull, destination] using full)
  rw [staged, Stage.full_eq]
  rfl

variable {visit} in
theorem status?_of_full (full : visit.isFull = true) :
    (visit.answer state).status? = some (visit.inside state.entered).contained.status := by
  rw [answer_of_full state full, Answer.status?]
  exact congrArg some (visit.status_deliver _)

end Visit

/-! ## The reduced chain -/

def ProbeRoute.statuses : List Nat :=
  [200, 303, 400, 404, 405, 503]

structure Response.IsProbed (response : Response) : Prop where
  status : response.status ∈ ProbeRoute.statuses
  record : response.record = none

theorem Response.isProbed {status : Nat} (listed : status ∈ ProbeRoute.statuses)
    (headers : List (String × String)) (body : String) :
    (Response.mk status headers body none).IsProbed :=
  ⟨listed, rfl⟩

theorem ProbeRoute.responds (route : ProbeRoute) (exchange : Exchange) (state : State) :
    ∃ response, (route.handler exchange.entered state).outcome = .ok response ∧
      response.IsProbed := by
  cases route with
  | liveness | metrics | redirect | description =>
      exact ⟨_, rfl, Response.isProbed (by decide) _ _⟩
  | readiness =>
      change ∃ response, (Endpoint.readiness.handler exchange.entered state).outcome =
        .ok response ∧ response.IsProbed
      have asked : ∃ reply, Endpoint.readiness exchange.entered state.directory = .ok reply ∧
          reply.response.IsProbed := by
        unfold Endpoint.readiness
        rw [show exchange.entered.requireContext = .ok _ from rfl]
        dsimp only [Endpoint.orStop, mapError_ok, ok_bind]
        split <;> exact ⟨_, rfl, Response.isProbed (by decide) _ _⟩
      rcases asked with ⟨reply, done, isProbed⟩
      refine ⟨reply.response, ?_, isProbed⟩
      rw [Endpoint.handler, done]
  | index | page =>
      change ∃ response, (Endpoint.documentation exchange.entered state).outcome = .ok response ∧
        response.IsProbed
      unfold Endpoint.documentation
      split
      · exact ⟨_, rfl, Response.isProbed (by decide) _ _⟩
      · split <;> exact ⟨_, rfl, Response.isProbed (by decide) _ _⟩

theorem Handler.responds_status {status : Nat} (listed : status ∈ ProbeRoute.statuses)
    (exchange : Exchange) (state : State) :
    ∃ response, (Handler.status status exchange state).outcome = .ok response ∧
      response.IsProbed :=
  ⟨_, rfl, Response.isProbed listed _ _⟩

namespace Visit

variable {visit : Visit} (state : State)

theorem answer_of_reduced {probe : ProbeRoute} {values : List (String × String)}
    (leads : visit.destination = .probe probe values) :
    visit.answer state =
      ((if Verb.get.accepts visit.request.method then probe.handler else .status 405)
        visit.exchange.entered state).mapResponse visit.deliver := by
  have met : visit.exchange =
      .arriving visit.service visit.arrival visit.request (.ofSegments values) := by
    rw [exchange, leads]
    rfl
  have traced : ∀ inner : Handler, Stage.reduced inner visit.exchange state =
      (inner visit.exchange.entered state).mapResponse
        (Response.setHeader "x-trace-id" visit.arrival.traceId) := fun _ => rfl
  rw [answer, Router.server_answer_of_probe _ _ _ _ leads, ← met, traced,
    Answer.mapResponse_mapResponse, ← leads]
  rfl

/-- The reduced chain always responds, and it leaves counting and completion to the other one. -/
theorem of_reduced (reduced : visit.isFull = false) :
    ∃ response, (visit.answer state).outcome = .ok (visit.deliver response) ∧
      response.IsProbed ∧ (visit.answer state).IsInner state := by
  cases leads : visit.destination with
  | anyone | guarded | nowhere => simp [isFull, leads, Destination.isProbe] at reduced
  | probe probe values =>
      have isInner : Handler.IsInner
          (if Verb.get.accepts visit.request.method then probe.handler else .status 405) := by
        split
        · exact probe.isInner
        · exact Handler.isInner_status 405
      have responds : ∃ response,
          ((if Verb.get.accepts visit.request.method then probe.handler else .status 405)
            visit.exchange.entered state).outcome = .ok response ∧ response.IsProbed := by
        split
        · exact probe.responds visit.exchange state
        · exact Handler.responds_status (by decide) _ state
      rcases responds with ⟨response, outcome, isProbed⟩
      rw [answer_of_reduced state leads]
      refine ⟨response, ?_, isProbed, (isInner _ state).metrics, (isInner _ state).events⟩
      rw [Answer.mapResponse, outcome]
      rfl

theorem metrics_of_reduced (reduced : visit.isFull = false) :
    (visit.answer state).state.metrics = state.metrics := by
  rcases of_reduced state reduced with ⟨_, -, -, isInner⟩
  exact isInner.metrics

theorem shows_metrics {values : List (String × String)}
    (leads : visit.destination = .probe .metrics values) (got : visit.request.method = "GET") :
    ∃ response, (visit.answer state).outcome = .ok response ∧ response.status = 200 ∧
      response.body = state.metrics.exposition := by
  have dresses := visit.dresses_deliver (show visit.request.method ≠ "HEAD" by rw [got]; decide)
    (.ofBody 200 "text/plain; version=0.0.4" state.metrics.exposition)
  refine ⟨_, ?_, dresses.status, dresses.body⟩
  rw [answer_of_reduced state leads, got]
  rfl

end Visit

end AuthServer
