import AuthServer.Json.Typed
import AuthServer.Json.Writer
import AuthServer.Rule
import AuthServer.Token.Error

/-!
Problems: everything that keeps a request from being answered as asked. A problem has a status, a
text that the client may see, a detail for the log, and an envelope in JSON that carries the text.
-/

namespace AuthServer

open Json

structure FieldError where
  field : String
  error : String
deriving DecidableEq, Repr

inductive Problem where
  | validation (fields : List FieldError)
  | unauthenticated (error : AuthError)
  | forbidden (reason : String)
  | notFound (reason : String)
  | methodNotAllowed
  | conflict (reason : String)
  | internal (reason : String)
deriving DecidableEq, Repr

structure ProblemRecord where
  kind : String
  detail : String
deriving DecidableEq, Repr

structure Envelope where
  error : String
  fields : Option (List FieldError)
deriving DecidableEq, Repr

/-! ## Collecting field errors -/

/-- The errors found so far while input is checked, in the order of the checks. -/
structure FieldErrors where
  errors : List FieldError
deriving DecidableEq, Repr

namespace FieldErrors

def empty : FieldErrors := ⟨[]⟩

def push (found : FieldErrors) (field error : String) : FieldErrors :=
  ⟨found.errors ++ [⟨field, error⟩]⟩

def check (found : FieldErrors) (isValid : Bool) (field error : String) : FieldErrors :=
  if isValid then found else found.push field error

def result (found : FieldErrors) : Except Problem Unit :=
  if found.errors.isEmpty then .ok () else .error (.validation found.errors)

end FieldErrors

namespace Problem

/-! ## Where problems come from -/

def ofField (field error : String) : Problem :=
  .validation [⟨field, error⟩]

/-- A caller's own failure is reported as such, a failure to sign as the server's. -/
def ofAuthError (error : AuthError) : Problem :=
  if error.isCredentialFailure then .unauthenticated error else .internal error.message

def ofDenied (denied : Denied) : Problem :=
  .forbidden denied.message

/-! ## What is said about them -/

def status : Problem → Nat
  | .validation _ => 400
  | .unauthenticated _ => 401
  | .forbidden _ => 403
  | .notFound _ => 404
  | .methodNotAllowed => 405
  | .conflict _ => 409
  | .internal _ => 500

def kind : Problem → String
  | .validation _ => "validation"
  | .unauthenticated _ => "auth"
  | .forbidden _ => "forbidden"
  | .notFound _ => "not_found"
  | .methodNotAllowed => "method_not_allowed"
  | .conflict _ => "conflict"
  | .internal _ => "internal"

def message : Problem → String
  | .validation _ => "data validation error"
  | .unauthenticated error => s!"authentication failed: {error.message}"
  | .forbidden reason => s!"forbidden: {reason}"
  | .notFound reason => reason
  | .methodNotAllowed => "method not allowed"
  | .conflict reason => reason
  | .internal reason => s!"internal error: {reason}"

/-- What the client may see: the causes of refusals and internal failures stay hidden. -/
def publicMessage : Problem → String
  | .validation _ => "data validation error"
  | .unauthenticated _ => "Unauthorized"
  | .forbidden _ => "Forbidden"
  | .notFound reason => reason
  | .methodNotAllowed => "method not allowed"
  | .conflict reason => reason
  | .internal _ => "Internal Server Error"

def detail : Problem → String
  | .validation fields =>
      ", ".intercalate (fields.map fun field => s!"{field.field}: {field.error}")
  | .unauthenticated error => s!"{error.message} ({error.code})"
  | problem => problem.message

def record (problem : Problem) : ProblemRecord :=
  ⟨problem.kind, problem.detail⟩

def envelope (problem : Problem) : Envelope where
  error := problem.publicMessage
  fields :=
    match problem with
    | .validation fields => some fields
    | _ => none

end Problem

/-! ## The envelope in JSON -/

namespace FieldError

structure Draft where
  field : Option String
  error : Option String

def shape : Shape Draft FieldError where
  name := "FieldError"
  fields := [
    .of "field" (·.field) (fun value draft => { draft with field := some value })
      (fun _ => readText "a string"),
    .of "error" (·.error) (fun value draft => { draft with error := some value })
      (fun _ => readText "a string")]
  passOver := skipValue
  start := ⟨none, none⟩
  finish draft := do
    return { field := ← required "field" draft.field, error := ← required "error" draft.error }

def json (error : FieldError) : String :=
  objectText [("field", stringText error.field), ("error", stringText error.error)]

end FieldError

namespace Envelope

structure Draft where
  error : Option String
  fields : Option (Option (List FieldError))

def shape : Shape Draft Envelope where
  name := "ErrorBody"
  fields := [
    .of "error" (·.error) (fun value draft => { draft with error := some value })
      (fun _ => readText "a string"),
    (RecordField.of "fields" (·.fields) (fun value draft => { draft with fields := some value })
      (fun depth => readOptional (readList FieldError.shape.read depth))).optional]
  passOver := skipValue
  start := ⟨none, none⟩
  finish draft := do
    return { error := ← required "error" draft.error, fields := draft.fields.getD none }

def ofJson (document : List UInt8) : Except Failure Envelope :=
  readDocument shape.read document

/-- An envelope as it is written: the fields are left out when there are none to name. -/
def json (envelope : Envelope) : String :=
  objectText (("error", stringText envelope.error) ::
    (envelope.fields.elim [] fun fields => [("fields", listText (fields.map FieldError.json))]))

end Envelope

end AuthServer
