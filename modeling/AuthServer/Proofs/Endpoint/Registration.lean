import AuthServer.Proofs.Endpoint.Effect
import AuthServer.Proofs.Endpoint.Validation
import AuthServer.Proofs.Problem.FieldErrors

/-!
How a registration ends at its endpoint. It is refused with all its faults, in one order and each of
them once; or its address is taken; or there is a new account.
-/

namespace AuthServer

namespace RegisterRequest

/-! ## Faults -/

inductive Fault where
  | name
  | email
  | password
  | passwordConfirm
deriving DecidableEq, Repr

namespace Fault

def all : List Fault := [.name, .email, .password, .passwordConfirm]

/-- Whether a registration has a fault: it gives no name, no valid address, too short a password, or
another password the second time. -/
def IsOf (request : RegisterRequest) : Fault → Prop
  | .name => Text.trim request.name = ""
  | .email => Email.isValid (Text.trim request.email) = false
  | .password => request.password.toList.length < 8
  | .passwordConfirm => request.password ≠ request.passwordConfirm

instance (request : RegisterRequest) : DecidablePred (IsOf request)
  | .name => inferInstanceAs (Decidable (_ = _))
  | .email => inferInstanceAs (Decidable (_ = _))
  | .password => inferInstanceAs (Decidable (_ < _))
  | .passwordConfirm => inferInstanceAs (Decidable (_ ≠ _))

def error : Fault → FieldError
  | .name => ⟨"name", "name is required"⟩
  | .email => ⟨"email", "invalid email format"⟩
  | .password => ⟨"password", "password must be at least 8 characters"⟩
  | .passwordConfirm => ⟨"password_confirm", "passwords do not match"⟩

end Fault

variable (request : RegisterRequest)

def faults : List Fault :=
  Fault.all.filter fun fault => fault.IsOf request

/-- Everything can be wrong at once; the seven letters of the password are nine bytes. -/
example : faults ⟨" ", "a@b", "éé34567", ""⟩ = Fault.all := by decide +kernel

def look (found : FieldErrors) (fault : Fault) : FieldErrors :=
  found.check (¬fault.IsOf request) fault.error.field fault.error.error

theorem fieldErrors_eq_foldl : request.fieldErrors = Fault.all.foldl request.look .empty := by
  have name : (!Text.isBlankText request.name) = decide (¬Fault.name.IsOf request) := by
    rw [Bool.eq_iff_iff, Bool.not_eq_true', decide_eq_true_iff, ← Bool.not_eq_true,
      Text.isBlankText_iff]
    rfl
  have email : Email.isValid (Text.trim request.email) = decide (¬Fault.email.IsOf request) := by
    rw [Bool.eq_iff_iff, decide_eq_true_iff, ← Bool.not_eq_false]
    rfl
  have password : decide (leastPasswordLength ≤ request.password.length) =
      decide (¬Fault.password.IsOf request) := by
    rw [decide_eq_decide, ← Nat.not_lt]
    rfl
  have passwordConfirm : (request.password == request.passwordConfirm) =
      decide (¬Fault.passwordConfirm.IsOf request) := by
    rw [Bool.eq_iff_iff, beq_iff_eq, decide_eq_true_iff]
    exact not_not.symm
  rw [fieldErrors, name, email, password, passwordConfirm]
  rfl

theorem errors_foldl_look (faults : List Fault) (found : FieldErrors) :
    (faults.foldl request.look found).errors =
      found.errors ++ (faults.filter fun fault => fault.IsOf request).map Fault.error := by
  apply FieldErrors.errors_foldl
  intro found fault
  rw [look, FieldErrors.errors_check]
  by_cases isOf : fault.IsOf request <;> simp [isOf]

/-- The checks find the faults, all of them and no others. -/
theorem errors_fieldErrors : request.fieldErrors.errors = request.faults.map Fault.error := by
  rw [fieldErrors_eq_foldl, errors_foldl_look]
  rfl

theorem result_fieldErrors : request.fieldErrors.result =
    if request.faults = [] then .ok ()
    else .error (.validation (request.faults.map Fault.error)) := by
  rw [FieldErrors.result, errors_fieldErrors]
  by_cases faultless : request.faults = [] <;> simp [faultless]

/-! ## The account -/

def account (id : String) (now : Instant) : Account where
  user := {
    id
    name := Text.trim request.name
    email := Email.normalize request.email
    roles := .ofList [.user]
    createdAt := .ofInstant now }
  password := request.password

variable {request}

theorem register_newUser {directory : Directory}
    (free : directory.accountOf? (Email.normalize request.email) = none) (id : String)
    (now : Instant) :
    directory.register request.newUser id now =
      .ok ((request.account id now).user, directory.insert id (request.account id now)) := by
  have same : Email.normalize request.newUser.email = Email.normalize request.email :=
    Email.normalize_trim request.email
  rw [Directory.register_eq_ok_iff, same]
  exact ⟨free, rfl, rfl⟩

theorem register_newUser_of_taken {directory : Directory} {other : Account}
    (taken : directory.accountOf? (Email.normalize request.email) = some other) (id : String)
    (now : Instant) : directory.register request.newUser id now = .error .duplicateEmail := by
  have same : Email.normalize request.newUser.email = Email.normalize request.email :=
    Email.normalize_trim request.email
  simp only [Directory.register, same, taken]

end RegisterRequest

/-! ## The endpoint -/

namespace Endpoint

variable {exchange : Exchange} {directory : Directory} {context : Context}
variable {asked : RegisterRequest}

section

variable (entered : exchange.requireContext = .ok context)
  (read : JsonBody.read RegisterRequest.shape.read exchange.request = .ok asked)

include entered read

theorem register_of_faults (faulty : asked.faults ≠ []) :
    register exchange directory =
      .error (.problem (.validation (asked.faults.map RegisterRequest.Fault.error))) := by
  simp only [register, orStop, entered, mapError_ok, ok_bind, read, asked.result_fieldErrors,
    if_neg faulty, mapError_error, error_bind]

variable (faultless : asked.faults = []) (available : exchange.service.availability = .available)

include faultless available

theorem register_of_taken {other : Account}
    (taken : directory.accountOf? (Email.normalize asked.email) = some other) :
    register exchange directory =
      .error (.problem (.conflict "email already in use")) := by
  simp only [register, orStop, entered, mapError_ok, ok_bind, read, asked.result_fieldErrors,
    if_pos faultless, available, Availability.call,
    RegisterRequest.register_newUser_of_taken taken, mapError_error, error_bind]
  rfl

theorem register_of_free
    (free : directory.accountOf? (Email.normalize asked.email) = none) :
    ∃ events, register exchange directory =
      .ok {
        response := .ofJson 201 (asked.account exchange.arrival.freshId context.now).user.json
        events
        directory := directory.insert exchange.arrival.freshId
          (asked.account exchange.arrival.freshId context.now) } := by
  apply Exists.intro
  simp only [register, orStop, entered, mapError_ok, ok_bind, read, asked.result_fieldErrors,
    if_pos faultless, available, Availability.call, RegisterRequest.register_newUser free]
  rfl

end

end Endpoint

end AuthServer
