import AuthServer.Claims.Codec
import AuthServer.Exchange
import AuthServer.Http.JsonBody

/-!
Endpoints for accounts: logging in, registering, and looking at an account.
-/

namespace AuthServer

open Json

/-! ## Bodies -/

/-- Who wants to log in. Both fields may be left out, and are empty then. -/
structure LoginRequest where
  email : String
  password : String
deriving DecidableEq, Repr

namespace LoginRequest

structure Draft where
  email : Option String
  password : Option String

def shape : Shape Draft LoginRequest where
  name := "LoginRequest"
  fields := [
    (RecordField.of "email" (·.email) (fun value draft => { draft with email := some value })
      (fun _ => readText "a string")).optional,
    (RecordField.of "password" (·.password)
      (fun value draft => { draft with password := some value })
      (fun _ => readText "a string")).optional]
  passOver := skipValue
  start := ⟨none, none⟩
  finish draft := .ok { email := draft.email.getD "", password := draft.password.getD "" }

end LoginRequest

/-- Who wants an account. All fields may be left out, and are empty then. -/
structure RegisterRequest where
  name : String
  email : String
  password : String
  passwordConfirm : String
deriving DecidableEq, Repr

namespace RegisterRequest

structure Draft where
  name : Option String
  email : Option String
  password : Option String
  passwordConfirm : Option String

def shape : Shape Draft RegisterRequest where
  name := "RegisterRequest"
  fields := [
    (RecordField.of "name" (·.name) (fun value draft => { draft with name := some value })
      (fun _ => readText "a string")).optional,
    (RecordField.of "email" (·.email) (fun value draft => { draft with email := some value })
      (fun _ => readText "a string")).optional,
    (RecordField.of "password" (·.password)
      (fun value draft => { draft with password := some value })
      (fun _ => readText "a string")).optional,
    (RecordField.of "password_confirm" (·.passwordConfirm)
      (fun value draft => { draft with passwordConfirm := some value })
      (fun _ => readText "a string")).optional]
  passOver := skipValue
  start := ⟨none, none, none, none⟩
  finish draft := .ok {
    name := draft.name.getD ""
    email := draft.email.getD ""
    password := draft.password.getD ""
    passwordConfirm := draft.passwordConfirm.getD "" }

def leastPasswordLength : Nat := 8

def fieldErrors (request : RegisterRequest) : FieldErrors :=
  FieldErrors.empty
    |>.check (!Text.isBlankText request.name) "name" "name is required"
    |>.check (Email.isValid (Text.trim request.email)) "email" "invalid email format"
    |>.check (leastPasswordLength ≤ request.password.length) "password"
      "password must be at least 8 characters"
    |>.check (request.password == request.passwordConfirm) "password_confirm"
      "passwords do not match"

def newUser (request : RegisterRequest) : NewUser where
  name := Text.trim request.name
  email := Text.trim request.email
  password := request.password
  roles := .ofList [.user]

end RegisterRequest

def LoginRequest.fieldErrors (request : LoginRequest) : FieldErrors :=
  FieldErrors.empty
    |>.check (Email.isValid (Text.trim request.email)) "email" "invalid email format"
    |>.check (!request.password.isEmpty) "password" "password is required"

def tokenJson (token : String) : String :=
  objectText [("token", stringText token)]

namespace Endpoint

/-! ## Endpoints -/

def login : Endpoint := fun exchange directory => do
  let context ← orStop exchange.requireContext
  let request ← orStop (JsonBody.read LoginRequest.shape.read exchange.request)
  orStop request.fieldErrors.result
  let principal ← exchange.service.availability.call
    (directory.authenticate (Text.trim request.email) request.password)
  let authenticator := exchange.service.authenticator
  let claims := authenticator.claimsFor principal context.now
  let token ← orStop ((authenticator.issue authenticator.activeKid claims).mapError .ofAuthError)
  return {
    response := .ofJson 200 (tokenJson token)
    events := [.plain .info .accounts "Token issued" [("trace_id", .plain context.traceId),
      ("user_id", .plain principal.id), ("kid", .plain authenticator.activeKid)]]
    directory }

def register : Endpoint := fun exchange directory => do
  let context ← orStop exchange.requireContext
  let request ← orStop (JsonBody.read RegisterRequest.shape.read exchange.request)
  orStop request.fieldErrors.result
  let (user, directory) ← exchange.service.availability.call
    (directory.register request.newUser exchange.arrival.freshId context.now)
  return {
    response := .ofJson 201 user.json
    events := [.plain .info .accounts "User registered"
      [("trace_id", .plain context.traceId), ("user_id", .plain user.id)]]
    directory }

def me : Endpoint := plain fun exchange =>
  exchange.claims.map fun claims => .ofJson 200 claims.selfJson

/-- Take the value of a path parameter. One that stands for no text is answered in plain text. -/
def withParam (exchange : Exchange) (param : String) (directory : Directory)
    (proceed : String → Except Interruption Reply) : Except Interruption Reply :=
  match exchange.params with
  | .error illFormed =>
      .ok ⟨.ofText 400 s!"Invalid URL: {Exchange.illFormedParam illFormed}", [], directory⟩
  | .ok params => proceed ((params.lookup param).getD "")

def account : Endpoint := fun exchange directory =>
  withParam exchange "user_id" directory fun id => do
    let user ← exchange.service.availability.call (directory.find id)
    return ⟨.ofJson 200 user.json, [], directory⟩

end Endpoint

end AuthServer
