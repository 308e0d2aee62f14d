import AuthServer.Claims

/-!
Rules say who may pass: admins, any user, or the owner of what a path parameter names.
-/

namespace AuthServer

inductive Rule where
  | adminOnly
  /-- Every user passes, unless an owner is named, who must then be the caller. -/
  | userOnly
  /-- The path parameter names the owner, who must be the caller. -/
  | owner (param : String)
deriving DecidableEq, Repr

structure Denied where
  rule : Rule
  subject : String
deriving DecidableEq, Repr

namespace Rule

def ownerParam : Rule → Option String
  | .owner param => some param
  | _ => none

def text : Rule → String
  | .adminOnly => "admin-only"
  | .userOnly => "user-only"
  | .owner param => s!"user-only({param})"

/-- The rule of a name. An owner rule has no name, since it belongs to a route. -/
def ofText? : String → Option Rule
  | "admin-only" => some .adminOnly
  | "user-only" => some .userOnly
  | _ => none

def unknownMessage (name : String) : String :=
  s!"unknown rule: {name}"

end Rule

namespace Rule

def check (claims : Claims) (rule : Rule) (owner : Option String) : Except Denied Unit :=
  let allowed :=
    match rule, owner with
    | .adminOnly, _ => claims.hasRole .admin
    | .userOnly, none => true
    | .userOnly, some owner | .owner _, some owner => claims.ownsOrAdmin owner
    | .owner _, none => claims.isAdmin
  if allowed then .ok () else .error ⟨rule, claims.subject⟩

end Rule

def Denied.message (denied : Denied) : String :=
  s!"rule {denied.rule.text} denied subject {denied.subject}"

end AuthServer
