import AuthServer.Http.Router
import AuthServer.Stage.Chain

/-!
What a chain of stages keeps of the answer inside it: the full chain changes nothing of a response
but its headers, makes a response of a crash, and leaves the directory alone. It adds one event to
the log, and it counts the answer.
-/

namespace AuthServer

namespace Response

@[simp] theorem status_setHeader (name value : String) (response : Response) :
    (response.setHeader name value).status = response.status := rfl

@[simp] theorem body_setHeader (name value : String) (response : Response) :
    (response.setHeader name value).body = response.body := rfl

@[simp] theorem record_setHeader (name value : String) (response : Response) :
    (response.setHeader name value).record = response.record := rfl

@[simp] theorem status_finish (method : String) (response : Response) :
    (Router.finish method response).status = response.status := by
  unfold Router.finish
  split <;> rfl

@[simp] theorem record_finish (method : String) (response : Response) :
    (Router.finish method response).record = response.record := by
  unfold Router.finish
  split <;> rfl

theorem body_finish (method : String) (response : Response) :
    (Router.finish method response).body = if method = "HEAD" then "" else response.body := by
  unfold Router.finish
  split <;> rfl

theorem headers_finish (method : String) (response : Response) :
    (Router.finish method response).headers =
      (response.setHeader "content-length" (toString response.body.utf8ByteSize)).headers := by
  unfold Router.finish
  split <;> rfl

def values (response : Response) (name : String) : List String :=
  (response.headers.filter (·.1 == name)).map Prod.snd

theorem values_congr {first second : Response} (same : first.headers = second.headers)
    (name : String) : first.values name = second.values name := by
  rw [values, values, same]

theorem values_setHeader_self (name value : String) (response : Response) :
    (response.setHeader name value).values name = [value] := by
  simp [values, setHeader, List.filter_append, List.filter_filter]

theorem values_setHeader_of_ne {name other : String} (different : other ≠ name) (value : String)
    (response : Response) :
    (response.setHeader other value).values name = response.values name := by
  have kept : ∀ header : String × String,
      (header.1 == name && header.1 != other) = (header.1 == name) := by
    intro header
    by_cases same : header.1 = name
    · simp [same, different.symm]
    · simp [same]
  simp [values, setHeader, List.filter_append, List.filter_filter, kept, different]

end Response

@[simp] theorem Problem.status_response (problem : Problem) :
    problem.response.status = problem.status := rfl

namespace Exchange

def entered (exchange : Exchange) : Exchange :=
  { exchange with context := some ⟨exchange.arrival.traceId, exchange.arrival.now, none⟩ }

end Exchange

def State.entered (state : State) : State :=
  { state with metrics := state.metrics.enter }

namespace Answer

def contained (answer : Answer) : Response :=
  match answer.outcome with
  | .ok response => response
  | .error crash => crash.problem.response

/-- What is counted once an answer has come out of the full chain. A crash passes the stage that
counts problems before it becomes one. -/
def counted (answer : Answer) : Metrics :=
  match answer.outcome with
  | .ok response =>
      (if response.record.isSome then answer.state.metrics.countError
        else answer.state.metrics).leave
  | .error _ => answer.state.metrics.leave.countCrash

def status? (answer : Answer) : Option Nat :=
  match answer.outcome with
  | .ok response => some response.status
  | .error _ => none

theorem of_status? {answer : Answer} {status : Nat} (found : answer.status? = some status) :
    ∃ response, answer.outcome = .ok response ∧ response.status = status := by
  unfold status? at found
  cases outcome : answer.outcome with
  | ok response =>
      rw [outcome] at found
      exact ⟨response, rfl, Option.some.inj found⟩
  | error crash =>
      rw [outcome] at found
      cases found

theorem status?_mapResponse {change : Response → Response}
    (kept : ∀ response, (change response).status = response.status) (answer : Answer) :
    (answer.mapResponse change).status? = answer.status? := by
  unfold mapResponse status?
  cases answer.outcome with
  | ok response => simp [Except.map, kept]
  | error crash => rfl

end Answer

namespace Stage

variable (inner : Handler) (exchange : Exchange) (state : State)

theorem full_eq :
    full inner exchange state =
      { outcome := .ok ((inner exchange.entered state.entered).contained.setHeader "x-trace-id"
          exchange.arrival.traceId)
        events := (inner exchange.entered state.entered).events.map
            (fun event => { event with span := some (spanOf exchange.entered) }) ++
          [completion exchange.entered (inner exchange.entered state.entered).contained]
        state := ⟨(inner exchange.entered state.entered).state.directory,
          (inner exchange.entered state.entered).counted⟩ } := by
  unfold full inContext logged contained metered Answer.mapResponse Answer.contained Answer.counted
  cases outcome : (inner exchange.entered state.entered).outcome with
  | ok response =>
      simp only [Exchange.entered, State.entered] at outcome
      simp [outcome, Except.map, Exchange.entered, State.entered]
  | error crash =>
      simp only [Exchange.entered, State.entered] at outcome
      simp [outcome, Except.map, recover, Exchange.entered, State.entered]

section

variable {inner exchange state} {otherInner : Handler} {other : Exchange}
variable (arrival : other.arrival = exchange.arrival)
  (method : other.request.method = exchange.request.method) (path : other.path = exchange.path)

include arrival method path

theorem spanOf_congr : spanOf other.entered = spanOf exchange.entered := by
  simp only [spanOf, Exchange.entered, arrival, method, path]

theorem completion_congr (response : Response) :
    completion other.entered response = completion exchange.entered response := by
  have latency : other.entered.arrival.latency = exchange.entered.arrival.latency :=
    congrArg Arrival.latency arrival
  simp only [completion, spanOf_congr arrival method path, latency]

theorem full_congr
    (same : inner exchange.entered state.entered = otherInner other.entered state.entered) :
    full inner exchange state = full otherInner other state := by
  rw [full_eq, full_eq, same, spanOf_congr arrival method path,
    completion_congr arrival method path, arrival]

end

theorem outcome_full :
    (full inner exchange state).outcome =
      .ok ((inner exchange.entered state.entered).contained.setHeader "x-trace-id"
        exchange.arrival.traceId) := by
  rw [full_eq]

theorem status?_full :
    (full inner exchange state).status? =
      some (inner exchange.entered state.entered).contained.status := by
  rw [full_eq]
  rfl

theorem directory_full :
    (full inner exchange state).state.directory =
      (inner exchange.entered state.entered).state.directory := by
  rw [full_eq]

end Stage

end AuthServer
