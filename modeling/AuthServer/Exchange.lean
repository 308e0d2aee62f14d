import AuthServer.Http.Message
import AuthServer.Log
import AuthServer.Service

/-!
Exchanges: a request together with all that is known while it is answered, and the answer. Handlers
answer exchanges; stages are put around handlers. Endpoints are the handlers at the centre, which
may be interrupted by a problem or a crash.
-/

namespace AuthServer

/-- What the world adds to a request. -/
structure Arrival where
  now : Instant
  traceId : String
  freshId : String
  /-- How long the answer takes, in milliseconds. -/
  latency : Nat

structure Context where
  traceId : String
  now : Instant
  claims : Option Claims

/-- The path parameters, or the name of the first one that stands for no text. -/
abbrev Params := Except String (List (String × String))

structure Exchange where
  service : Service
  arrival : Arrival
  request : Request
  path : String
  params : Params
  context : Option Context

namespace Exchange

def illFormedParam (param : String) : String :=
  s!"Invalid UTF-8 in `{param}`"

def requireContext (exchange : Exchange) : Except Problem Context :=
  exchange.context.elim (.error (.internal "request context missing")) .ok

/-- Verify the token in the authorization header. A header that is not printable ASCII is
malformed. -/
def authenticate (exchange : Exchange) (context : Context) : Except Problem Claims :=
  let header : Except AuthError (Option String) :=
    match exchange.request.header? "authorization" with
    | none => .ok none
    | some value => (headerText? value).elim (.error .malformedToken) fun text => .ok (some text)
  (header.bind fun header =>
    exchange.service.authenticator.authenticate header context.now).mapError Problem.ofAuthError

/-- The claims of the caller: those that a guard has verified, or else those of its token. -/
def claims (exchange : Exchange) : Except Problem Claims :=
  exchange.requireContext.bind fun context =>
    match context.claims with
    | some claims => .ok claims
    | none => exchange.authenticate context

end Exchange

/-- What comes of an exchange: a response or a crash, what was logged, and what is remembered. -/
structure Answer where
  outcome : Except Crash Response
  events : List LogEvent
  state : State

abbrev Handler := Exchange → State → Answer

abbrev Stage := Handler → Handler

namespace Answer

def respond (response : Response) (state : State) : Answer :=
  ⟨.ok response, [], state⟩

def mapResponse (change : Response → Response) (answer : Answer) : Answer :=
  { answer with outcome := answer.outcome.map change }

end Answer

def Handler.refuse (problem : Problem) : Handler := fun _ state =>
  .respond problem.response state

def Handler.status (status : Nat) : Handler := fun _ state =>
  .respond (.ofStatus status) state

/-! ## Endpoints -/

structure Reply where
  response : Response
  events : List LogEvent
  directory : Directory

abbrev Endpoint := Exchange → Directory → Except Interruption Reply

namespace Endpoint

def orStop {α : Type} (result : Except Problem α) : Except Interruption α :=
  result.mapError .problem

/-- Whatever interrupts an endpoint leaves the directory as it was. -/
def handler (endpoint : Endpoint) : Handler := fun exchange state =>
  match endpoint exchange state.directory with
  | .ok reply => ⟨.ok reply.response, reply.events, { state with directory := reply.directory }⟩
  | .error (.problem problem) => .respond problem.response state
  | .error (.crash crash) => ⟨.error crash, [], state⟩

def plain (respond : Exchange → Except Problem Response) : Endpoint := fun exchange directory =>
  (orStop (respond exchange)).map fun response => ⟨response, [], directory⟩

end Endpoint

end AuthServer
