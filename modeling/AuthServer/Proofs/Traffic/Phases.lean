import AuthServer.Proofs.Routes.Visit
import Mathlib.Algebra.BigOperators.Group.Finset.Basic
import Mathlib.Data.Fintype.Card

/-!
Visits that overlap. A visit to the full chain is counted, and then holds a guard that stands for it
in the count of visits in flight until it leaves: with a response, with a crash that goes on to the
stage that contains it, or because the client went away while a handler was at work. Between any two
steps of a visit the others may go on. The directory is reached in one step, since its calls come to
the same as calls made one at a time.
-/

namespace AuthServer

namespace Metrics

def countRequest (metrics : Metrics) : Metrics :=
  { metrics with requests := metrics.requests + 1 }

def occupy (metrics : Metrics) : Metrics :=
  { metrics with inFlight := metrics.inFlight + 1 }

end Metrics

def State.count (state : State) (change : Metrics → Metrics) : State :=
  { state with metrics := change state.metrics }

namespace Traffic

/-! ## The steps of a visit -/

inductive Phase where
  | arrived
  | counted
  | working
  | handled (response : Response)
  | tallied (response : Response)
  | answered (response : Response)
  | crashed (crash : Crash)
  | unwound (crash : Crash)
  | contained (crash : Crash)
  | abandoned
  | missed
  | probed (response : Response)

namespace Phase

def hasEntered : Phase → Bool
  | arrived | missed | probed _ => false
  | _ => true

def isInside : Phase → Bool
  | working | handled _ | tallied _ | crashed _ => true
  | _ => false

/-- The visit has entered the stage that counts and not left it, with its guard or without. -/
def isWithin : Phase → Bool
  | counted | working | handled _ | tallied _ | crashed _ => true
  | _ => false

/-- The visit has done one thing that is counted together with another one, and not yet the other:
it was counted without its guard, or has crashed without having been contained. -/
def isBetween : Phase → Bool
  | counted | crashed _ | unwound _ => true
  | _ => false

def hasCrashed : Phase → Bool
  | crashed _ | unwound _ | contained _ => true
  | _ => false

def isUnwinding : Phase → Bool
  | crashed _ | unwound _ => true
  | _ => false

def isContained : Phase → Bool
  | contained _ => true
  | _ => false

def hasErred : Phase → Bool
  | tallied _ => true
  | answered response => response.record.isSome
  | _ => false

def response? (visit : Visit) : Phase → Option Response
  | answered response => some (visit.deliver response)
  | contained crash => some (visit.deliver crash.problem.response)
  | probed response => some response
  | _ => none

end Phase

/-- One step of a visit: the state and the phase that it finds, and the phase and the state that it
leaves. -/
inductive Move (visit : Visit) (state : State) : Phase → Phase → State → Prop where
  | count (full : visit.isFull = true) :
      Move visit state .arrived .counted (state.count .countRequest)
  | occupy :
      Move visit state .counted .working (state.count .occupy)
  | respond {response : Response} (outcome : (visit.inside state).outcome = .ok response) :
      Move visit state .working (.handled response) (visit.inside state).state
  | tally {response : Response} (problem : response.record.isSome = true) :
      Move visit state (.handled response) (.tallied response) (state.count .countError)
  | leave {response : Response} (plain : response.record.isSome = false) :
      Move visit state (.handled response) (.answered response) (state.count .leave)
  | leaveTallied {response : Response} (problem : response.record.isSome = true) :
      Move visit state (.tallied response) (.answered response) (state.count .leave)
  | crash {crash : Crash} (outcome : (visit.inside state).outcome = .error crash) :
      Move visit state .working (.crashed crash) (visit.inside state).state
  | unwind {crash : Crash} :
      Move visit state (.crashed crash) (.unwound crash) (state.count .leave)
  | contain {crash : Crash} :
      Move visit state (.unwound crash) (.contained crash) (state.count .countCrash)
  | abandon :
      Move visit state .working .abandoned (state.count .leave)
  | discard {response : Response} :
      Move visit state (.handled response) .abandoned (state.count .leave)
  | miss :
      Move visit state .arrived .missed state
  | probe {response : Response} (reduced : visit.isFull = false)
      (outcome : (visit.answer state).outcome = .ok response) :
      Move visit state .arrived (.probed response) (visit.answer state).state

/-! ## Visits that overlap -/

structure System (Caller : Type) where
  state : State
  phases : Caller → Phase

variable {Caller : Type} [DecidableEq Caller]

def System.advance (system : System Caller) (caller : Caller) (phase : Phase) (state : State) :
    System Caller :=
  ⟨state, Function.update system.phases caller phase⟩

def System.count [Fintype Caller] (system : System Caller) (counts : Phase → Bool) : Nat :=
  (Finset.univ.filter fun caller => counts (system.phases caller) = true).card

inductive Run (visits : Caller → Visit) (start : State) : System Caller → Prop where
  | start : Run visits start ⟨start, fun _ => .arrived⟩
  | step {system : System Caller} (run : Run visits start system) (caller : Caller) {phase : Phase}
      {state : State}
      (move : Move (visits caller) system.state (system.phases caller) phase state) :
      Run visits start (system.advance caller phase state)

end Traffic

end AuthServer
