import AuthServer.Endpoint.Accounts
import AuthServer.Proofs.Json.Record
import AuthServer.Proofs.Users.Email

/-!
What the checks of a body let pass. The checks of registrations and of logins agree on addresses:
under every spelling of an address that was registered one may log in.
-/

namespace AuthServer

open Json

theorem JsonBody.read_eq_ok_iff {α : Type} {reader : (depth : Nat) → Reader α} {request : Request}
    {value : α} : JsonBody.read reader request = .ok value ↔
      isDeclared request = true ∧ request.body.length ≤ lengthLimit ∧
        readDocument reader request.body = .ok value := by
  unfold JsonBody.read
  cases declared : isDeclared request with
  | false => simp
  | true =>
      by_cases long : lengthLimit < request.body.length
      · simp [long, Nat.not_le_of_lt long]
      · cases readDocument reader request.body <;> simp [long, Nat.le_of_not_lt long]

theorem JsonBody.isDeclared_of_header {request : Request}
    (header : request.header? "content-type" = some (Utf8.encode "application/json")) :
    isDeclared request = true := by
  rw [isDeclared, header]
  decide +kernel

namespace FieldErrors

@[simp] theorem result_empty : empty.result = .ok () := rfl

@[simp] theorem result_check {found : FieldErrors} {isValid : Bool} {field error : String} :
    (found.check isValid field error).result = .ok () ↔ found.result = .ok () ∧ isValid = true := by
  unfold check
  cases isValid with
  | true => simp
  | false => simp [push, result]

end FieldErrors

namespace RegisterRequest

variable {request : RegisterRequest}

theorem result_eq_ok_iff : request.fieldErrors.result = .ok () ↔
    Text.isBlankText request.name = false ∧ Email.isValid (Text.trim request.email) = true ∧
      leastPasswordLength ≤ request.password.length ∧
      request.password = request.passwordConfirm := by
  simp [fieldErrors, and_assoc]

theorem password_ne_empty (passed : request.fieldErrors.result = .ok ()) :
    request.password ≠ "" := by
  rcases result_eq_ok_iff.mp passed with ⟨-, -, long, -⟩
  rintro empty
  rw [empty] at long
  exact absurd long (by decide)

end RegisterRequest

namespace LoginRequest

variable {request : LoginRequest}

theorem result_eq_ok_iff : request.fieldErrors.result = .ok () ↔
    Email.isValid (Text.trim request.email) = true ∧ request.password ≠ "" := by
  simp [fieldErrors]

/-- A login passes under every spelling of an address that a registration passed with. -/
theorem result_of_registered {registered : RegisterRequest}
    (passed : registered.fieldErrors.result = .ok ())
    (same : Email.normalize request.email = Email.normalize registered.email)
    (some : request.password ≠ "") : request.fieldErrors.result = .ok () := by
  rcases RegisterRequest.result_eq_ok_iff.mp passed with ⟨-, valid, -⟩
  exact result_eq_ok_iff.mpr ⟨(Email.isValid_trim_congr same).trans valid, some⟩

/-- Of a login with a password the address alone can be wrong. -/
theorem result_of_invalid (invalid : Email.isValid (Text.trim request.email) = false)
    (some : request.password ≠ "") :
    request.fieldErrors.result = .error (.ofField "email" "invalid email format") := by
  have given : (!request.password.isEmpty) = true := by simpa using some
  rw [fieldErrors, invalid, given]
  rfl

def json (login : LoginRequest) : String :=
  objectText [("email", stringText login.email), ("password", stringText login.password)]

theorem fills (login : LoginRequest) (depth : Nat) :
    shape.Fills depth shape.start
      [("email", stringText login.email), ("password", stringText login.password)]
      ⟨some login.email, some login.password⟩ := by
  apply Shape.Fills.optional rfl rfl fun rest _ => readText_written "a string" login.email rest
  apply Shape.Fills.optional rfl rfl fun rest _ => readText_written "a string" login.password rest
  exact .done _

theorem read_json {sent : Request} {login : LoginRequest} (declared : JsonBody.isDeclared sent)
    (body : sent.body = Utf8.encode login.json) (short : sent.body.length ≤ JsonBody.lengthLimit) :
    JsonBody.read shape.read sent = .ok login := by
  have readBack : readDocument shape.read (Utf8.encode login.json) = .ok login := by
    have read := Shape.read_written (by decide : 1 < depthLimit)
      (login.fills (depthLimit - 1)) rfl []
    exact readDocument_written (by simpa [json] using read)
  rw [← body] at readBack
  exact JsonBody.read_eq_ok_iff.mpr ⟨declared, short, readBack⟩

end LoginRequest

def Request.sampleRegistration : Request where
  method := "POST"
  target := "/users/register"
  headers := [("content-type", Utf8.encode "application/json")]
  body := Utf8.encode ("\x7b\"name\":\"Ada\",\"email\":\"Ada@x.org\"," ++
    "\"password\":\"passw0rd\",\"password_confirm\":\"passw0rd\"\x7d")

end AuthServer
