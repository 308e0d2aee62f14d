import AuthServer.Exchange

/-!
Chains of stages. Every chain sets up the context of a request and names its trace in the response;
the full chain also logs its completion, contains crashes and counts it.
-/

namespace AuthServer.Stage

def inContext : Stage := fun inner exchange state =>
  let arrival := exchange.arrival
  let context : Context := ⟨arrival.traceId, arrival.now, none⟩
  (inner { exchange with context := some context } state).mapResponse
    (Response.setHeader "x-trace-id" arrival.traceId)

/-! ## Completion -/

def spanOf (exchange : Exchange) : LogSpan where
  traceId := exchange.context.elim "" Context.traceId
  method := exchange.request.method
  path := exchange.path

def completion (exchange : Exchange) (response : Response) : LogEvent :=
  let facts := [("status", LogValue.number response.status),
    ("latency_ms", .number exchange.arrival.latency)]
  let event (level : LogLevel) (message : String) (fields : List (String × LogValue)) : LogEvent :=
    { level, source := .requests, message, fields, span := some (spanOf exchange) }
  match response.record with
  | none => event .info "request completed" facts
  | some record =>
      let fields := facts ++ [("kind", .quoted record.kind), ("error", .plain record.detail)]
      if response.isServerError then event .error "request failed" fields
      else event .info "request completed" fields

def logged : Stage := fun inner exchange state =>
  let answer := inner exchange state
  let inside := answer.events.map fun event => { event with span := some (spanOf exchange) }
  match answer.outcome with
  | .ok response => { answer with events := inside ++ [completion exchange response] }
  | .error _ => { answer with events := inside }

/-! ## Counting -/

/-- Answer a crash as a problem and count it. -/
def recover (crash : Crash) (metrics : Metrics) : Response × Metrics :=
  (crash.problem.response, metrics.countCrash)

def contained : Stage := fun inner exchange state =>
  let answer := inner exchange state
  match answer.outcome with
  | .ok _ => answer
  | .error crash =>
      let (response, metrics) := recover crash answer.state.metrics
      { answer with outcome := .ok response, state := { answer.state with metrics } }

def metered : Stage := fun inner exchange state =>
  let answer := inner exchange { state with metrics := state.metrics.enter }
  let isProblem :=
    match answer.outcome with
    | .ok response => response.record.isSome
    | .error _ => false
  let metrics := if isProblem then answer.state.metrics.countError else answer.state.metrics
  { answer with state := { answer.state with metrics := metrics.leave } }

/-! ## Chains -/

def full : Stage := fun inner =>
  inContext (logged (contained (metered inner)))

def reduced : Stage := inContext

end AuthServer.Stage
