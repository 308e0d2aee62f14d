import AuthServer.Claims
import AuthServer.Json.Typed
import AuthServer.Role.Codec
import AuthServer.Text.Quoted
import AuthServer.Time.Timestamp

/-!
Accounts: what is stored about a user, what is needed to make one, and the form in JSON.
-/

namespace AuthServer

open Json

structure User where
  id : String
  name : String
  email : String
  roles : Roles
  createdAt : Timestamp
deriving DecidableEq

structure NewUser where
  name : String
  email : String
  password : String
  roles : Roles
deriving DecidableEq, Repr

def NewUser.redacted (user : NewUser) : String :=
  "NewUser \x7b name: " ++ Text.quote user.name ++ ", email: " ++ Text.quote user.email ++
    ", roles: \x7b" ++ ", ".intercalate (user.roles.toList.map Role.label) ++ "\x7d, .. \x7d"

namespace User

def principal (user : User) : Principal :=
  ⟨user.id, user.roles, user.name⟩

structure Draft where
  id : Option String
  name : Option String
  email : Option String
  roles : Option Roles
  createdAt : Option Timestamp

def readTimestamp : Reader Timestamp := fun bytes =>
  match readText "an RFC 3339 formatted date and time string" bytes with
  | .error failure => .error failure
  | .ok (text, rest) =>
      match Timestamp.read text with
      | .ok timestamp => .ok (timestamp, rest)
      | .error problem => failBefore (.refused problem.message) rest

def shape : Shape Draft User where
  name := "User"
  fields := [
    .of "id" (·.id) (fun value draft => { draft with id := some value })
      (fun _ => readText "a string"),
    .of "name" (·.name) (fun value draft => { draft with name := some value })
      (fun _ => readText "a string"),
    .of "email" (·.email) (fun value draft => { draft with email := some value })
      (fun _ => readText "a string"),
    .of "roles" (·.roles) (fun value draft => { draft with roles := some value }) Roles.read,
    .of "created_at" (·.createdAt) (fun value draft => { draft with createdAt := some value })
      (fun _ => readTimestamp)]
  passOver := skipValue
  start := ⟨none, none, none, none, none⟩
  finish draft := do
    return {
      id := ← required "id" draft.id
      name := ← required "name" draft.name
      email := ← required "email" draft.email
      roles := ← required "roles" draft.roles
      createdAt := ← required "created_at" draft.createdAt }

def ofJson (document : List UInt8) : Except Failure User :=
  readDocument shape.read document

def json (user : User) : String :=
  objectText [
    ("id", stringText user.id),
    ("name", stringText user.name),
    ("email", stringText user.email),
    ("roles", user.roles.json),
    ("created_at", stringText user.createdAt.text)]

end User

end AuthServer
