import AuthServer.Claims.Codec
import AuthServer.Proofs.Json.Record

/-!
Claims that were written are read back with every field unchanged, whatever characters their texts
have, whatever their times are, and whichever roles they grant.
-/

namespace AuthServer

open Json

namespace Role

@[simp] theorem ofText?_text (role : Role) : ofText? role.text = some role := by
  cases role <;> rfl

theorem read_written (role : Role) (depth : Nat) (rest : List UInt8) :
    choice.read depth (Utf8.encode (stringText role.text) ++ rest) = .ok (role, rest) :=
  Choice.read_written (ofText?_text role) depth rest

end Role

namespace Roles

theorem read_written (roles : Roles) (depth : Nat) (levels : 1 < depth) (rest : List UInt8) :
    read depth (Utf8.encode roles.json ++ rest) = .ok (roles, rest) := by
  have list := readList_written Role.choice.read depth levels
    (fun role : Role => stringText role.text) id roles.toList
    (fun role _ => startsValue_stringText role.text)
    (fun role _ rest _ => Role.read_written role (depth - 1) rest) rest
  simp only [read, json, list, List.map_id, ofList_toList]

end Roles

namespace Claims

def members (claims : Claims) : List (String × String) := [
  ("sub", stringText claims.subject),
  ("iss", stringText claims.issuer),
  ("iat", toString claims.issuedAt.toInt),
  ("exp", toString claims.expiresAt.toInt),
  ("roles", claims.roles.json),
  ("name", stringText claims.name)]

theorem json_eq_objectText (claims : Claims) : claims.json = objectText claims.members := rfl

theorem fills_members (claims : Claims) (depth : Nat) (levels : 1 < depth) :
    shape.Fills depth shape.start claims.members
      ⟨claims.subject, claims.issuer, claims.issuedAt, claims.expiresAt, claims.roles,
        claims.name⟩ := by
  apply Shape.Fills.required rfl rfl fun rest _ => readText_written "a string" claims.subject rest
  apply Shape.Fills.required rfl rfl fun rest _ => readText_written "a string" claims.issuer rest
  apply Shape.Fills.required rfl rfl fun rest after => readInt64_written claims.issuedAt after
  apply Shape.Fills.required rfl rfl fun rest after => readInt64_written claims.expiresAt after
  apply Shape.Fills.required rfl rfl fun rest _ => Roles.read_written claims.roles depth levels rest
  apply Shape.Fills.optional rfl rfl fun rest _ => readText_written "a string" claims.name rest
  exact .done _

/-- Written claims are read back at every depth that leaves room for their list of roles. -/
theorem read_written (claims : Claims) (depth : Nat) (levels : 2 < depth) (rest : List UInt8) :
    shape.read depth (Utf8.encode claims.json ++ rest) = .ok (claims, rest) :=
  Shape.read_written (by omega) (fills_members claims (depth - 1) (by omega)) rfl rest

@[simp] theorem ofJson_json (claims : Claims) : ofJson (Utf8.encode claims.json) = .ok claims :=
  readDocument_written (by simpa using read_written claims depthLimit (by decide) [])

end Claims

end AuthServer
