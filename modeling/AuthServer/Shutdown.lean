import AuthServer.IoError
import AuthServer.Log

/-!
Orderly shutdown. A signal is triggered once and for all, by the operating system or by a failure of
the transport that is no mere disconnect; failures to accept a connection fall into three classes.
-/

namespace AuthServer

namespace IoErrorKind

/-- The kinds that only say that the peer went away or cannot be reached. -/
def isDisconnect : IoErrorKind → Bool
  | .brokenPipe | .connectionReset | .connectionAborted | .notConnected | .timedOut
  | .hostUnreachable | .networkUnreachable | .unexpectedEof | .interrupted => true
  | _ => false

end IoErrorKind

inductive AcceptFailure where
  /-- One connection failed: accept the next. -/
  | connection
  /-- Descriptors or buffers ran out: wait a little and try again. -/
  | exhausted
  /-- The listener cannot be used any more. -/
  | fatal
deriving DecidableEq, Repr

namespace IoError

def exhaustionNumbers : List Int := [24, 23, 105, 12]

def isExhaustion : IoError → Bool
  | .system number => exhaustionNumbers.contains number
  | _ => false

def acceptFailure (error : IoError) : AcceptFailure :=
  if error.kind.isDisconnect || error.kind == .wouldBlock then .connection
  else if error.kind == .outOfMemory || error.isExhaustion then .exhausted
  else .fatal

end IoError

structure Shutdown where
  triggered : Bool
deriving DecidableEq, Repr

namespace Shutdown

def idle : Shutdown := ⟨false⟩

/-- Ask for shutdown. Only the first call is logged. -/
def trigger (signal : Shutdown) (reason : String) : Shutdown × List LogEvent :=
  (⟨true⟩,
    if signal.triggered then []
    else [.plain .info .shutdown "Shutdown requested" [("reason", .quoted reason)]])

/-- Judge a failed write: a disconnect is passed over, with an event for debugging that is left out
here, and anything else is logged and asks for shutdown. The flag says which it was. -/
def escalate (signal : Shutdown) (error : IoError) : Bool × Shutdown × List LogEvent :=
  if error.kind.isDisconnect then (false, signal, [])
  else
    let (signal, events) := signal.trigger "transport error"
    (true, signal,
      .plain .error .shutdown "Transport write failed"
        [("error", .plain error.message), ("kind", .plain error.kind.name)] :: events)

end Shutdown

end AuthServer
