import AuthServer.Proofs.Routes.Failure

/-!
What is counted of visits that come one after another. The stage that counts problems looks at the
responses that come back through it. A crash goes past it on its way to the stage that contains it,
so that its response reports a problem that only the count of crashes tells of.
-/

namespace AuthServer

structure Served where
  visit : Visit
  before : State

namespace Served

variable (served : Served)

def answer : Answer :=
  served.visit.answer served.before

def isTranslated : Bool :=
  match served.answer.outcome with
  | .ok response => response.record.isSome
  | .error _ => false

def hasCrashed : Bool :=
  served.visit.isFull &&
    match (served.visit.inside served.before.entered).outcome with
    | .ok _ => false
    | .error _ => true

theorem isTranslated_of_full (full : served.visit.isFull = true) :
    served.isTranslated =
      (served.visit.inside served.before.entered).contained.record.isSome := by
  rw [isTranslated, answer, Visit.answer_of_full served.before full]
  exact congrArg Option.isSome (served.visit.record_deliver _)

theorem isTranslated_of_reduced (reduced : served.visit.isFull = false) :
    served.isTranslated = false := by
  rcases Visit.of_reduced served.before reduced with ⟨response, outcome, isProbed, -⟩
  rw [isTranslated, answer, outcome]
  simp [isProbed.record]

theorem metrics_answer :
    served.answer.state.metrics =
      { requests := served.before.metrics.requests + served.visit.isFull.toNat
        errors := served.before.metrics.errors +
          (served.isTranslated && !served.hasCrashed).toNat
        crashes := served.before.metrics.crashes + served.hasCrashed.toNat
        inFlight := served.before.metrics.inFlight } := by
  cases full : served.visit.isFull with
  | false =>
      rw [answer, Visit.metrics_of_reduced served.before full,
        served.isTranslated_of_reduced full, hasCrashed, full]
      rfl
  | true =>
      have kept := served.visit.metrics_inside served.before.entered
      rw [served.isTranslated_of_full full, answer, Visit.answer_of_full served.before full,
        Answer.counted, hasCrashed, full, Answer.contained, kept]
      cases outcome : (served.visit.inside served.before.entered).outcome with
      | ok response =>
          cases recorded : response.record with
          | none => simp [recorded, Metrics.leave, State.entered, Metrics.enter]
          | some record =>
              simp [recorded, Metrics.leave, Metrics.countError, State.entered, Metrics.enter]
      | error crash =>
          -- The crash makes a problem only after it has gone past the count of problems.
          simp [Problem.response, Metrics.leave, Metrics.countCrash, State.entered, Metrics.enter]

theorem isTranslated_of_hasCrashed (crashed : served.hasCrashed = true) :
    served.isTranslated = true := by
  rw [hasCrashed, Bool.and_eq_true] at crashed
  rw [served.isTranslated_of_full crashed.1, Answer.contained]
  cases outcome : (served.visit.inside served.before.entered).outcome with
  | ok response => simp [outcome] at crashed
  | error crash => rfl

end Served

namespace Visit

def serve : List Visit → State → List Served
  | [], _ => []
  | visit :: later, state => ⟨visit, state⟩ :: serve later (visit.answer state).state

def stateAfter (visits : List Visit) (start : State) : State :=
  visits.foldl (fun state visit => (visit.answer state).state) start

theorem metrics_stateAfter (visits : List Visit) (start : State) :
    (stateAfter visits start).metrics =
      { requests := start.metrics.requests +
          (serve visits start).countP fun served => served.visit.isFull
        errors := start.metrics.errors +
          (serve visits start).countP fun served => served.isTranslated && !served.hasCrashed
        crashes := start.metrics.crashes + (serve visits start).countP Served.hasCrashed
        inFlight := start.metrics.inFlight } := by
  induction visits generalizing start with
  | nil => rfl
  | cons visit later induction =>
      have weighs : ∀ counts : Bool, counts.toNat = if counts = true then 1 else 0 := by decide
      have counted : (visit.answer start).state.metrics = _ := Served.metrics_answer ⟨visit, start⟩
      rw [stateAfter, List.foldl_cons, ← stateAfter, induction, counted]
      simp only [serve, List.countP_cons, weighs, Metrics.mk.injEq]
      exact ⟨by omega, by omega, by omega, trivial⟩

theorem countP_isTranslated (visits : List Visit) (start : State) :
    (serve visits start).countP Served.isTranslated =
      ((serve visits start).countP fun served => served.isTranslated && !served.hasCrashed) +
        (serve visits start).countP Served.hasCrashed := by
  have crashes : ((serve visits start).countP fun served =>
      served.isTranslated && served.hasCrashed) =
        (serve visits start).countP Served.hasCrashed := by
    apply List.countP_congr
    intro served _
    rw [Bool.and_eq_true]
    exact ⟨And.right, fun crashed => ⟨served.isTranslated_of_hasCrashed crashed, crashed⟩⟩
  rw [List.countP_eq_countP_filter_add _ _ Served.hasCrashed, List.countP_filter,
    List.countP_filter, crashes, Nat.add_comm]

/-- After visits one after another, the problems that were counted are those that clients were told
of but for crashes, each of which was counted as a crash. So every response that reports a problem
was counted as one exactly if no visit has crashed. -/
theorem errors_of_visits (visits : List Visit) (start : State) :
    (stateAfter visits start).metrics.errors = start.metrics.errors +
        (serve visits start).countP (fun served => served.isTranslated && !served.hasCrashed) ∧
      (stateAfter visits start).metrics.crashes = start.metrics.crashes +
        (serve visits start).countP Served.hasCrashed ∧
      (serve visits start).countP Served.isTranslated =
        (serve visits start).countP (fun served => served.isTranslated && !served.hasCrashed) +
          (serve visits start).countP Served.hasCrashed ∧
      ((stateAfter visits start).metrics.errors = start.metrics.errors +
          (serve visits start).countP Served.isTranslated ↔
        ∀ served ∈ serve visits start, served.hasCrashed = false) := by
  have counted := metrics_stateAfter visits start
  have translated := countP_isTranslated visits start
  refine ⟨congrArg Metrics.errors counted, congrArg Metrics.crashes counted, translated, ?_⟩
  have unharmed : (serve visits start).countP Served.hasCrashed = 0 ↔
      ∀ served ∈ serve visits start, served.hasCrashed = false := by
    simp [List.countP_eq_zero]
  rw [counted, translated, ← unharmed]
  dsimp only
  omega

theorem errors_uncounted :
    (∀ visit ∈ [Visit.mk .fragile .sample .sampleRegistration], visit.isFull = true) ∧
      (serve [⟨.fragile, .sample, .sampleRegistration⟩] .empty).countP Served.isTranslated = 1 ∧
      (stateAfter [⟨.fragile, .sample, .sampleRegistration⟩] .empty).metrics.errors = 0 := by
  decide +kernel

end Visit

end AuthServer
