import AuthServer.Listener
import AuthServer.Routes
import AuthServer.Stage.Origin
import AuthServer.Startup

/-!
A server from its start to its end: it starts its service, listens, answers the requests of its
clients, and stops when shutdown is asked for. Answers that cannot be written are judged like every
other failure of the transport.
-/

namespace AuthServer

structure Server where
  service : Service
  router : Router
  state : State
  signal : Shutdown
  /-- How long it waits for requests in flight once shutdown is asked for, in seconds. -/
  patience : Nat
  isConnected : Bool
  /-- Whether everything that is written to the network is lost. -/
  isCutOff : Bool
  /-- Whether a request is in flight that will never be complete. -/
  isHeldUp : Bool

namespace Router

def behind (policy : OriginPolicy) (router : Router) : Router × List LogEvent :=
  let (gate, events) := OriginGate.ofPolicy policy
  (router.layer gate.stage, events)

end Router

namespace Server

/-! ## Start -/

/-- Start a server and let it listen, unless its address cannot be taken. The events are those up to
the failure, if there is one. -/
def launch (config : Config) (surroundings : Surroundings) (bindFailure : Option IoError) :
    List LogEvent × Except StartupError Server :=
  let (started, result) := Service.start config surroundings
  match result with
  | .error error => (started, .error error)
  | .ok (service, state) =>
      let (router, warnings) := Router.server.behind config.origins
      match bindFailure with
      | some error => (started ++ warnings, .error (.bind config.bindAddress error))
      | none =>
          let listening : LogEvent := .plain .info .server
            "startupers-api listening (docs at /docs)" [("addr", .plain config.bindAddress)]
          (started ++ warnings ++ [listening],
            .ok {
              service, router, state, signal := .idle, patience := config.shutdownTimeout
              isConnected := false, isCutOff := false, isHeldUp := false })

/-! ## Requests -/

/-- Let a client connect, after some failures to accept. Once shutdown is asked for nobody can. -/
def connect (server : Server) (failures : List IoError) : Server × List LogEvent :=
  if server.signal.triggered then ({ server with isConnected := false }, [])
  else
    let acceptance := server.signal.accept failures
    ({ server with isConnected := acceptance.isAccepted, signal := acceptance.signal },
      acceptance.events)

def hears (server : Server) : Bool :=
  server.isConnected && !server.isCutOff && !server.signal.triggered

/-- Answer a request of the connected client. The client gets no response if the request does not
arrive, or if the answer cannot be written because of `failure`; then it is no longer connected. -/
def answer (server : Server) (arrival : Arrival) (request : Request) (failure : Option IoError) :
    Option Response × Server × List LogEvent :=
  if !server.hears then (none, { server with isConnected := false }, [])
  else
    let answer := server.router.answer server.service arrival request.trimmed server.state
    let server := { server with state := answer.state }
    match answer.outcome, failure with
    | .ok response, none => (some response, server, answer.events)
    | .ok _, some error =>
        let (_, signal, events) := server.signal.escalate error
        (none, { server with signal, isConnected := false, isCutOff := true },
          answer.events ++ events)
    | .error _, _ => (none, { server with isConnected := false }, answer.events)

def holdUp (server : Server) : Server :=
  { server with isHeldUp := server.isHeldUp || !(server.isCutOff || server.signal.triggered) }

/-! ## End -/

def farewell (server : Server) : LogEvent :=
  if server.isHeldUp then
    .plain .warn .server "Graceful shutdown timed out; abandoning in-flight requests"
      [("timeout_secs", .number server.patience)]
  else .plain .info .server "Server stopped" []

def stop (server : Server) (signal : Option String) : List LogEvent :=
  signal.elim [] (fun reason => (server.signal.trigger reason).2) ++ [server.farewell]

end Server

end AuthServer
