import AuthServer.Json.Typed
import AuthServer.Json.Writer
import AuthServer.Role

/-!
Roles in JSON: a role is written as its name, a set of roles as the list of its members in order.
A role is also read from an object that has its name as its only key, with no value.
-/

namespace AuthServer

open Json

namespace Role

def choice : Choice Role where
  ofName? := ofText?
  nameOf := text
  names := "`ADMIN` or `USER`"

end Role

namespace Roles

/-- Read a set of roles from a list, in which a role may be repeated. -/
def read (depth : Nat) : Reader Roles := fun bytes =>
  match readList Role.choice.read depth bytes with
  | .error failure => .error failure
  | .ok (roles, rest) => .ok (ofList roles, rest)

def json (roles : Roles) : String :=
  listText (roles.toList.map fun role => stringText role.text)

end Roles

end AuthServer
