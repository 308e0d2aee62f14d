import AuthServer.Authenticator
import AuthServer.Metrics
import AuthServer.Users.Directory

/-!
The service behind the routes: what it is made of, what it remembers, and what its collaborators do.
The directory may be out of reach, and the code that reaches for it may crash; a readiness probe may
keep silent.
-/

namespace AuthServer

inductive Crash where
  | text (message : String)
  | other
deriving DecidableEq, Repr

namespace Crash

def message : Crash → String
  | .text message => message
  | .other => "non-string panic payload"

def problem (crash : Crash) : Problem :=
  .internal s!"panic: {crash.message}"

end Crash

inductive Interruption where
  | problem (problem : Problem)
  | crash (crash : Crash)
deriving DecidableEq, Repr

inductive Availability where
  | available
  | unavailable (reason : String)
  | crashing (crash : Crash)
deriving DecidableEq, Repr

def Availability.call {α : Type} (availability : Availability)
    (result : Except DirectoryError α) : Except Interruption α :=
  match availability with
  | .available => result.mapError fun error => .problem error.problem
  | .unavailable reason => .error (.problem (DirectoryError.unavailable reason).problem)
  | .crashing crash => .error (.crash crash)

inductive Readiness where
  | ready
  | failing (reason : String)
  | silent
deriving DecidableEq, Repr

structure Service where
  authenticator : Authenticator
  availability : Availability
  readiness : Readiness
  /-- How long a readiness check may take, in milliseconds. -/
  readinessTimeout : Nat

structure State where
  directory : Directory
  metrics : Metrics
deriving DecidableEq

def State.empty : State := ⟨.empty, .zero⟩

end AuthServer
