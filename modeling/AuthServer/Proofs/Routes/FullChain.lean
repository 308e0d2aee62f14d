import AuthServer.Proofs.Routes.Gate

/-!
What the full chain answers, by where a path leads: the response of the handler inside, in which
stages change headers only.
-/

namespace AuthServer

/-- A response that differs from another one in headers that do not tell its type. -/
structure Response.Dresses (outer inner : Response) : Prop where
  status : outer.status = inner.status
  body : outer.body = inner.body
  record : outer.record = inner.record
  typed : ∀ type, ("content-type", type) ∈ inner.headers → ("content-type", type) ∈ outer.headers

namespace Response.Dresses

theorem refl (response : Response) : response.Dresses response :=
  ⟨rfl, rfl, rfl, fun _ typed => typed⟩

theorem trans {outer middle inner : Response} (outside : outer.Dresses middle)
    (inside : middle.Dresses inner) : outer.Dresses inner where
  status := outside.status.trans inside.status
  body := outside.body.trans inside.body
  record := outside.record.trans inside.record
  typed type typed := outside.typed type (inside.typed type typed)

theorem setHeader {name : String} (other : name ≠ "content-type") (value : String)
    (response : Response) : (response.setHeader name value).Dresses response where
  status := rfl
  body := rfl
  record := rfl
  typed type typed := by simp [Response.setHeader, typed, other.symm]

theorem finish {method : String} (whole : method ≠ "HEAD") (response : Response) :
    (Router.finish method response).Dresses response := by
  rw [Router.finish, if_neg whole]
  exact setHeader (by decide) _ response

end Response.Dresses

def Destination.inside (destination : Destination) (method : String) : Handler :=
  match destination with
  | .anyone route =>
      if method = "POST" then route.endpoint.handler else .refuse .methodNotAllowed
  | .guarded route _ =>
      if route.verb.accepts method then Stage.guarded route.rule route.endpoint.handler
      else .refuse .methodNotAllowed
  | .probe _ _ | .nowhere => .refuse (.notFound "route not found")

def Destination.values : Destination → List (String × String)
  | .guarded _ values | .probe _ values => values
  | .anyone _ | .nowhere => []

/-- An answer that responds like another one, but for headers and crashes, and remembers the same
directory. -/
structure Answer.Wraps (outer inner : Answer) : Prop where
  responds : ∃ response, outer.outcome = .ok response ∧ response.Dresses inner.contained
  directory : outer.state.directory = inner.state.directory

theorem Answer.Wraps.mapResponse {outer inner : Answer} (wraps : outer.Wraps inner)
    {change : Response → Response} (changes : ∀ response, (change response).Dresses response) :
    (outer.mapResponse change).Wraps inner where
  responds := by
    rcases wraps.responds with ⟨response, outcome, dresses⟩
    refine ⟨change response, ?_, (changes response).trans dresses⟩
    rw [Answer.mapResponse, outcome]
    rfl
  directory := wraps.directory

theorem Stage.wraps_full (inner : Handler) (exchange : Exchange) (state : State) :
    (full inner exchange state).Wraps (inner exchange.entered state.entered) where
  responds := ⟨_, outcome_full inner exchange state, .setHeader (by decide) _ _⟩
  directory := directory_full inner exchange state

namespace Destination

def isProbe : Destination → Bool
  | .probe _ _ => true
  | .anyone _ | .guarded _ _ | .nowhere => false

def verb? : Destination → Option Verb
  | .anyone _ => some .post
  | .guarded route _ => some route.verb
  | .probe _ _ => some .get
  | .nowhere => none

def allow (verb : Option Verb) (method : String) (response : Response) : Response :=
  match verb with
  | some verb =>
      if verb.accepts method then response else response.setHeader "allow" verb.allowed
  | none => response

def dress (destination : Destination) (method : String) (response : Response) : Response :=
  Router.finish method (allow destination.verb? method response)

theorem allow_cases (verb : Option Verb) (method : String) (response : Response) :
    allow verb method response = response ∨
      ∃ methods, allow verb method response = response.setHeader "allow" methods := by
  unfold allow
  split
  · split
    · exact .inl rfl
    · exact .inr ⟨_, rfl⟩
  · exact .inl rfl

theorem isProbe_eq_false_iff {destination : Destination} :
    destination.isProbe = false ↔ ∀ probe values, destination ≠ .probe probe values := by
  cases destination <;> simp [isProbe]

theorem dresses_dress (destination : Destination) {method : String} (whole : method ≠ "HEAD")
    (response : Response) : (destination.dress method response).Dresses response := by
  refine (Response.Dresses.finish whole _).trans ?_
  rcases allow_cases destination.verb? method response with same | ⟨methods, same⟩
  · rw [same]
    exact .refl response
  · rw [same]
    exact .setHeader (by decide) methods response

end Destination

theorem Answer.mapResponse_mapResponse (first second : Response → Response) (answer : Answer) :
    (answer.mapResponse first).mapResponse second =
      answer.mapResponse fun response => second (first response) := by
  unfold mapResponse
  cases answer.outcome <;> rfl

namespace Router

variable {service : Service} {arrival : Arrival} {request : Request} {state : State}

/-- What a route within some stages answers, to methods that it supports and to others. -/
theorem answer_of_staged {router : Router} (stage : Stage) {pattern : Pattern} {verb : Verb}
    {inner other : Handler} {values : List (String × String)}
    (found : router.find? (Target.path request.target) =
      some (⟨pattern, verb, stage inner, stage other⟩, values)) :
    router.answer service arrival request state =
      (stage (if verb.accepts request.method then inner else other)
        (.arriving service arrival request (.ofSegments values)) state).mapResponse
          fun response =>
            finish request.method (Destination.allow (some verb) request.method response) := by
  rw [answer_of_find? found]
  simp only [Destination.allow]
  by_cases supported : verb.accepts request.method = true
  · simp only [if_pos supported]
  · simp only [if_neg supported, Answer.mapResponse_mapResponse]

variable (service arrival request state)

theorem server_answer_of_full
    (full : (Destination.ofPath (Target.path request.target)).isProbe = false) :
    server.answer service arrival request state =
      (Stage.full ((Destination.ofPath (Target.path request.target)).inside request.method)
        (.arriving service arrival request
          (.ofSegments (Destination.ofPath (Target.path request.target)).values))
        state).mapResponse
          ((Destination.ofPath (Target.path request.target)).dress request.method) := by
  have found := find?_server (Target.path request.target)
  cases leads : Destination.ofPath (Target.path request.target) with
  | probe probe values => simp [leads, Destination.isProbe] at full
  | anyone route =>
      rw [leads] at found
      have inside : (Destination.anyone route).inside request.method =
          if Verb.post.accepts request.method then route.endpoint.handler
          else .refuse .methodNotAllowed :=
        ite_congr (propext beq_iff_eq.symm) (fun _ => rfl) fun _ => rfl
      rw [inside]
      exact answer_of_staged Stage.full found
  | guarded route values =>
      rw [leads] at found
      exact answer_of_staged Stage.full found
  | nowhere =>
      rw [leads] at found
      unfold answer
      simp only [found, Destination.route?]
      rfl

/-- Whatever is asked of the full chain, the server answers as the handler inside it does. -/
theorem server_wraps (whole : request.method ≠ "HEAD")
    (full : ∀ probe values, Destination.ofPath (Target.path request.target) ≠ .probe probe values) :
    (server.answer service arrival request state).Wraps
      ((Destination.ofPath (Target.path request.target)).inside request.method
        (Exchange.arriving service arrival request (.ofSegments
          (Destination.ofPath (Target.path request.target)).values)).entered
        state.entered) := by
  rw [server_answer_of_full service arrival request state
    (Destination.isProbe_eq_false_iff.mpr full)]
  exact (Stage.wraps_full _ _ state).mapResponse (Destination.dresses_dress _ whole)

theorem server_answer_of_probe {probe : ProbeRoute} {values : List (String × String)}
    (leads : Destination.ofPath (Target.path request.target) = .probe probe values) :
    server.answer service arrival request state =
      (Stage.reduced (if Verb.get.accepts request.method then probe.handler else .status 405)
        (.arriving service arrival request (.ofSegments values)) state).mapResponse
          ((Destination.probe probe values).dress request.method) := by
  have found := find?_server (Target.path request.target)
  rw [leads] at found
  exact answer_of_staged Stage.reduced found

end Router

end AuthServer
