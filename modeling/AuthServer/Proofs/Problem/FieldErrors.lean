import AuthServer.Http.Message
import AuthServer.Proofs.Problem.Envelope

/-!
Field errors reach the client. What was recorded while input was checked is read back from the body
of the response, complete and in the order in which it was recorded; of any other problem the client
reads a text and no fields.
-/

namespace AuthServer

namespace FieldErrors

/-! ## Recording -/

theorem errors_check (found : FieldErrors) (isValid : Bool) (field error : String) :
    (found.check isValid field error).errors =
      found.errors ++ if isValid then [] else [⟨field, error⟩] := by
  cases isValid <;> simp [check, push]

theorem result_cases (found : FieldErrors) :
    found.errors = [] ∧ found.result = .ok () ∨
      found.errors ≠ [] ∧ found.result = .error (.validation found.errors) := by
  rw [result]
  cases found.errors with
  | nil => exact .inl ⟨rfl, rfl⟩
  | cons error others => exact .inr ⟨List.cons_ne_nil _ _, rfl⟩

/-- Steps that record one error each, or none, record theirs behind those that were found before. -/
theorem errors_foldl {α : Type} {step : FieldErrors → α → FieldErrors} {isRecorded : α → Bool}
    {error : α → FieldError}
    (records : ∀ found item, (step found item).errors =
      found.errors ++ if isRecorded item then [error item] else [])
    (items : List α) (found : FieldErrors) :
    (items.foldl step found).errors =
      found.errors ++ (items.filter isRecorded).map error := by
  induction items generalizing found with
  | nil => simp
  | cons item items induction =>
      rw [List.foldl_cons, induction, records]
      cases recorded : isRecorded item <;> simp [recorded]

/-! ## Calls -/

inductive Call where
  | push (field error : String)
  | check (isValid : Bool) (field error : String)
deriving DecidableEq, Repr

namespace Call

def apply (found : FieldErrors) : Call → FieldErrors
  | .push field error => found.push field error
  | .check isValid field error => found.check isValid field error

/-- A check that holds leaves no trace. -/
def isRecorded : Call → Bool
  | .push _ _ => true
  | .check isValid _ _ => !isValid

def error : Call → FieldError
  | .push field error => ⟨field, error⟩
  | .check _ field error => ⟨field, error⟩

theorem errors_apply (found : FieldErrors) (call : Call) : (call.apply found).errors =
    found.errors ++ if call.isRecorded then [call.error] else [] := by
  cases call with
  | push field error => rfl
  | check isValid field error =>
      rw [apply, errors_check]
      cases isValid <;> rfl

end Call

def perform (calls : List Call) : FieldErrors :=
  calls.foldl Call.apply .empty

theorem errors_perform (calls : List Call) :
    (perform calls).errors = (calls.filter Call.isRecorded).map Call.error := by
  rw [perform, errors_foldl Call.errors_apply]
  rfl

theorem errors_perform_eq_nil_iff {calls : List Call} : (perform calls).errors = [] ↔
    ∀ call ∈ calls, ∃ field error, call = .check true field error := by
  have unrecorded (call : Call) :
      call.isRecorded = false ↔ ∃ field error, call = .check true field error := by
    cases call with
    | push field error => simp [Call.isRecorded]
    | check isValid field error => simp [Call.isRecorded]
  rw [errors_perform, List.map_eq_nil_iff, List.filter_eq_nil_iff]
  simp only [Bool.not_eq_true, unrecorded]

end FieldErrors

namespace Problem

def Tells (problem : Problem) (envelope : Envelope) : Prop :=
  Envelope.ofJson (Utf8.encode problem.response.body) = .ok envelope

theorem tells_envelope (problem : Problem) : problem.Tells problem.envelope :=
  problem.envelope.ofJson_json

end Problem

/-- Input without field errors passes, and with any the client is told all of them in their order.
Of a problem of another kind the client is told a text alone, which is the reason if that is meant
for the client, and the same text for all reasons if not. -/
theorem FieldErrors.reach_client (calls : List Call) :
    ((perform calls).result = .ok () ↔
      ∀ call ∈ calls, ∃ field error, call = .check true field error) ∧
    ((perform calls).result ≠ .ok () → ∃ problem, (perform calls).result = .error problem ∧
      problem.response.status = 400 ∧
      problem.Tells
        ⟨"data validation error", some ((calls.filter Call.isRecorded).map Call.error)⟩) ∧
    (∀ reason, (Problem.notFound reason).Tells ⟨reason, none⟩) ∧
    (∀ reason, (Problem.conflict reason).Tells ⟨reason, none⟩) ∧
    (∀ error, (Problem.unauthenticated error).Tells ⟨"Unauthorized", none⟩) ∧
    (∀ reason, (Problem.forbidden reason).Tells ⟨"Forbidden", none⟩) ∧
    Problem.methodNotAllowed.Tells ⟨"method not allowed", none⟩ ∧
    ∀ reason, (Problem.internal reason).Tells ⟨"Internal Server Error", none⟩ := by
  refine ⟨?_, ?_, fun _ => Problem.tells_envelope _, fun _ => Problem.tells_envelope _,
    fun _ => Problem.tells_envelope _, fun _ => Problem.tells_envelope _,
    Problem.tells_envelope _, fun _ => Problem.tells_envelope _⟩
  · rw [← errors_perform_eq_nil_iff]
    rcases (perform calls).result_cases with ⟨none, passed⟩ | ⟨some, failed⟩
    · exact iff_of_true passed none
    · exact iff_of_false (by simp [failed]) some
  · intro refused
    rcases (perform calls).result_cases with ⟨-, passed⟩ | ⟨-, failed⟩
    · exact absurd passed refused
    · rw [← errors_perform]
      exact ⟨_, failed, rfl, Problem.tells_envelope _⟩

theorem FieldErrors.reach_client_sample :
    ∃ problem, (perform [.push "name" "\"\n", .check true "email" "é", .check false "email" "é",
        .push "name" "\"\n"]).result = .error problem ∧
      problem.response.status = 400 ∧
      problem.Tells ⟨"data validation error",
        some [⟨"name", "\"\n"⟩, ⟨"email", "é"⟩, ⟨"name", "\"\n"⟩]⟩ := by
  rcases reach_client [.push "name" "\"\n", .check true "email" "é", .check false "email" "é",
    .push "name" "\"\n"] with ⟨-, told, -⟩
  exact told (fun passed => by cases passed)

end AuthServer
