import AuthServer.Claims
import AuthServer.Role.Codec

/-!
Claims in JSON. The members are written in one order and read in any; unknown members are passed
over, and a missing name is the empty one.
-/

namespace AuthServer.Claims

open Json

structure Draft where
  subject : Option String
  issuer : Option String
  issuedAt : Option Int64
  expiresAt : Option Int64
  roles : Option Roles
  name : Option String

def shape : Shape Draft Claims where
  name := "Claims"
  fields := [
    .of "sub" (·.subject) (fun value draft => { draft with subject := some value })
      (fun _ => readText "a string"),
    .of "iss" (·.issuer) (fun value draft => { draft with issuer := some value })
      (fun _ => readText "a string"),
    .of "iat" (·.issuedAt) (fun value draft => { draft with issuedAt := some value })
      (fun _ => readInt64),
    .of "exp" (·.expiresAt) (fun value draft => { draft with expiresAt := some value })
      (fun _ => readInt64),
    .of "roles" (·.roles) (fun value draft => { draft with roles := some value }) Roles.read,
    (RecordField.of "name" (·.name) (fun value draft => { draft with name := some value })
      (fun _ => readText "a string")).optional]
  passOver := skipValue
  start := ⟨none, none, none, none, none, none⟩
  finish draft := do
    return {
      subject := ← required "sub" draft.subject
      issuer := ← required "iss" draft.issuer
      issuedAt := ← required "iat" draft.issuedAt
      expiresAt := ← required "exp" draft.expiresAt
      roles := ← required "roles" draft.roles
      name := draft.name.getD "" }

def ofJson (document : List UInt8) : Except Failure Claims :=
  readDocument shape.read document

def json (claims : Claims) : String :=
  objectText [
    ("sub", stringText claims.subject),
    ("iss", stringText claims.issuer),
    ("iat", toString claims.issuedAt.toInt),
    ("exp", toString claims.expiresAt.toInt),
    ("roles", claims.roles.json),
    ("name", stringText claims.name)]

/-- What a caller is told about the claims of its own token. -/
def selfJson (claims : Claims) : String :=
  objectText [
    ("user_id", stringText claims.subject),
    ("name", stringText claims.name),
    ("roles", claims.roles.json),
    ("issuer", stringText claims.issuer),
    ("expires_at", toString claims.expiresAt.toInt)]

end AuthServer.Claims
