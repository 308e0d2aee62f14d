import AuthServer.Shutdown

/-!
Listening: the failures that come before a connection are passed over, waited out, or end the
listening for good.
-/

namespace AuthServer

structure Acceptance where
  isAccepted : Bool
  signal : Shutdown
  events : List LogEvent
  ahead : List IoError
deriving DecidableEq, Repr

namespace Shutdown

/-- Wait for a connection, before which the listener reports some failures. Nobody waits for a
resource once shutdown is asked for, and nobody accepts after a failure of the listener itself. -/
def accept (signal : Shutdown) : List IoError → Acceptance
  | [] => ⟨true, signal, [], []⟩
  | error :: ahead =>
      match error.acceptFailure with
      | .connection => signal.accept ahead
      | .exhausted =>
          let event : LogEvent := .plain .warn .server "Accept failed; backing off"
            [("error", .plain error.message)]
          if signal.triggered then ⟨false, signal, [event], ahead⟩
          else
            let acceptance := signal.accept ahead
            { acceptance with events := event :: acceptance.events }
      | .fatal =>
          let (signal, events) := signal.trigger "listener failed"
          let event : LogEvent := .plain .error .server "Listener failed"
            [("error", .plain error.message), ("kind", .plain error.kind.name)]
          ⟨false, signal, event :: events, ahead⟩

end Shutdown

end AuthServer
