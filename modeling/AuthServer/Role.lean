/-!
Roles, the privileges they carry, and sets of roles.
-/

namespace AuthServer

inductive Role where
  | admin
  | user
deriving DecidableEq, Repr

namespace Role

/-- An admin has every privilege; a user has a user's only. -/
def hasPrivilege (role required : Role) : Bool :=
  role == .admin || required == .user

def text : Role → String
  | .admin => "ADMIN"
  | .user => "USER"

/-- The role of a name; case counts. -/
def ofText? : String → Option Role
  | "ADMIN" => some .admin
  | "USER" => some .user
  | _ => none

def label : Role → String
  | .admin => "Admin"
  | .user => "User"

end Role

/-- A set of roles, kept as one answer per role. -/
structure Roles where
  admin : Bool
  user : Bool
deriving DecidableEq, Repr

namespace Roles

def none : Roles := ⟨false, false⟩

def insert (roles : Roles) : Role → Roles
  | .admin => { roles with admin := true }
  | .user => { roles with user := true }

def contains (roles : Roles) : Role → Bool
  | .admin => roles.admin
  | .user => roles.user

def ofList (roles : List Role) : Roles :=
  roles.foldl insert .none

def toList (roles : Roles) : List Role :=
  (if roles.admin then [.admin] else []) ++ (if roles.user then [.user] else [])

def isEmpty (roles : Roles) : Bool :=
  !roles.admin && !roles.user

example : (ofList [.user, .admin, .user]).toList = [.admin, .user] := rfl

@[simp] theorem ofList_toList (roles : Roles) : ofList roles.toList = roles := by
  rcases roles with ⟨_ | _, _ | _⟩ <;> rfl

end Roles

end AuthServer
