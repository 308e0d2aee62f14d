/-!
Steps that may fail, one after another: the first failure is the outcome, and a success means that
every step succeeded.
-/

namespace AuthServer

section

variable {ε ε' α β : Type}

@[simp] theorem ok_bind (value : α) (next : α → Except ε β) :
    (Except.ok value >>= next) = next value := rfl

@[simp] theorem error_bind (error : ε) (next : α → Except ε β) :
    (Except.error error >>= next) = .error error := rfl

@[simp] theorem pure_eq_ok (value : α) : (pure value : Except ε α) = .ok value := rfl

@[simp] theorem throw_eq_error (error : ε) : (throw error : Except ε α) = .error error := rfl

@[simp] theorem mapError_ok (value : α) (map : ε → ε') :
    (Except.ok value).mapError map = .ok value := rfl

@[simp] theorem mapError_error (error : ε) (map : ε → ε') :
    (Except.error error : Except ε α).mapError map = .error (map error) := rfl

theorem of_bind {step : Except ε α} {next : α → Except ε β} {value : β}
    (done : (step >>= next) = .ok value) :
    ∃ middle, step = .ok middle ∧ next middle = .ok value := by
  cases step with
  | error error => cases done
  | ok middle => exact ⟨middle, rfl, done⟩

theorem of_map {step : Except ε α} {change : α → β} {value : β}
    (done : step.map change = .ok value) : ∃ middle, step = .ok middle ∧ change middle = value := by
  cases step with
  | error error => cases done
  | ok middle =>
      cases done
      exact ⟨middle, rfl, rfl⟩

theorem map_eq_error_iff {step : Except ε α} {change : α → β} {error : ε} :
    step.map change = .error error ↔ step = .error error := by
  cases step <;> simp [Except.map]

theorem map_const_eq_ok_iff {step : Except ε Unit} {value : β} :
    (step.map fun _ => value) = .ok value ↔ step = .ok () := by
  cases step <;> simp [Except.map]

theorem of_mapError {step : Except ε α} {map : ε → ε'} {value : α}
    (done : step.mapError map = .ok value) : step = .ok value := by
  cases step with
  | error error => cases done
  | ok other =>
      cases done
      rfl

theorem of_elim {found : Option α} {error : ε} {value : α}
    (done : found.elim (.error error) .ok = Except.ok value) : found = some value := by
  cases found with
  | none => cases done
  | some other =>
      cases done
      rfl

/-! ## Steps without values -/

theorem discarded_bind (step : Except ε α) (next : Except ε β) :
    (step.map (fun _ => ()) >>= fun _ => next) = step >>= fun _ => next := by
  cases step <;> rfl

theorem bind_discarded (step : Except ε α) (next : α → Except ε β) :
    (step >>= next).map (fun _ => ()) = step >>= fun value => (next value).map fun _ => () := by
  cases step <;> rfl

theorem discarded_eq_ok_iff {step : Except ε α} :
    (step.map fun _ => ()) = .ok () ↔ ∃ value, step = .ok value := by
  cases step <;> simp [Except.map]

theorem forM_eq_ok_iff {checks : List α} {run : α → Except ε Unit} :
    forM checks run = .ok () ↔ ∀ check ∈ checks, run check = .ok () := by
  induction checks with
  | nil => simp
  | cons check checks induction =>
      rw [List.forM_cons, List.forall_mem_cons]
      cases run check with
      | error error => simp
      | ok value => simpa using induction

theorem forM_eq_error_iff {checks : List α} {run : α → Except ε Unit} {error : ε} :
    forM checks run = .error error ↔
      ∃ before check after, checks = before ++ check :: after ∧
        (∀ earlier ∈ before, run earlier = .ok ()) ∧ run check = .error error := by
  induction checks with
  | nil => simp
  | cons first rest induction =>
      rw [List.forM_cons]
      constructor
      · intro failed
        cases outcome : run first with
        | error other =>
            rw [outcome] at failed
            exact ⟨[], first, rest, rfl, by simp, outcome.trans failed⟩
        | ok value =>
            rw [outcome] at failed
            rcases induction.mp failed with ⟨before, check, after, rfl, passed, fails⟩
            exact ⟨first :: before, check, after, rfl,
              List.forall_mem_cons.mpr ⟨outcome, passed⟩, fails⟩
      · rintro ⟨before, check, after, split, passed, fails⟩
        cases before with
        | nil =>
            cases split
            rw [fails, error_bind]
        | cons other before =>
            cases split
            rw [passed first (by simp), ok_bind]
            exact induction.mpr ⟨before, check, after, rfl,
              fun earlier member => passed earlier (List.mem_cons_of_mem _ member), fails⟩

/-! ## Failures -/

def FailsWith (condition : ε → Prop) (step : Except ε α) : Prop :=
  ∀ error, step = .error error → condition error

namespace FailsWith

variable {condition : ε → Prop}

theorem ok (value : α) : FailsWith condition (.ok value : Except ε α) :=
  fun _ failed => by cases failed

theorem error {error : ε} (holds : condition error) :
    FailsWith condition (.error error : Except ε α) :=
  fun _ failed => by
    cases failed
    exact holds

theorem mono {weaker : ε → Prop} {step : Except ε α} (fails : FailsWith condition step)
    (weakens : ∀ error, condition error → weaker error) : FailsWith weaker step :=
  fun failure failed => weakens failure (fails failure failed)

theorem bind {step : Except ε α} {next : α → Except ε β} (first : FailsWith condition step)
    (later : ∀ value, FailsWith condition (next value)) : FailsWith condition (step >>= next) := by
  cases step with
  | error failure => exact error (first failure rfl)
  | ok value => exact later value

theorem mapError {step : Except ε' α} {map : ε' → ε} (holds : ∀ error, condition (map error)) :
    FailsWith condition (step.mapError map) := by
  cases step with
  | error failure => exact error (holds failure)
  | ok value => exact ok value

theorem elim {found : Option α} {failure : ε} (holds : condition failure) :
    FailsWith condition (found.elim (.error failure) .ok) := by
  cases found with
  | none => exact error holds
  | some value => exact ok value

end FailsWith

/-! ## Pairs of steps -/

/-- Two steps that fail with the same error, or give values that agree in a relation. -/
inductive EndAlike (related : α → α → Prop) : Except ε α → Except ε α → Prop
  | failed (error : ε) : EndAlike related (.error error) (.error error)
  | done {first second : α} (agree : related first second) :
      EndAlike related (.ok first) (.ok second)

namespace EndAlike

variable {related : α → α → Prop} {result : β → β → Prop}

theorem bind {step other : Except ε α} {next otherNext : α → Except ε β}
    (steps : EndAlike related step other)
    (alike : ∀ first second, related first second →
      EndAlike result (next first) (otherNext second)) :
    EndAlike result (step >>= next) (other >>= otherNext) := by
  cases steps with
  | failed error => exact .failed error
  | done agree => exact alike _ _ agree

theorem bind_same (step : Except ε α) {next other : α → Except ε β}
    (alike : ∀ value, step = .ok value → EndAlike result (next value) (other value)) :
    EndAlike result (step >>= next) (step >>= other) := by
  cases step with
  | error error => exact .failed error
  | ok value => exact alike value rfl

theorem mapError {step other : Except ε α} (steps : EndAlike related step other)
    (change : ε → ε') : EndAlike related (step.mapError change) (other.mapError change) := by
  cases steps with
  | failed error => exact .failed (change error)
  | done agree => exact .done agree

theorem map {step other : Except ε α} {change otherChange : α → β}
    (steps : EndAlike related step other)
    (alike : ∀ first second, related first second → result (change first) (otherChange second)) :
    EndAlike result (step.map change) (other.map otherChange) := by
  cases steps with
  | failed error => exact .failed error
  | done agree => exact .done (alike _ _ agree)

end EndAlike

end

end AuthServer
