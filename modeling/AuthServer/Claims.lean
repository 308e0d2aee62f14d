import AuthServer.Role
import AuthServer.Time.Instant

/-!
Claims, the statements about a subject that a token carries, and the principal they are made for.
-/

namespace AuthServer

/-- An identity that has shown its password. -/
structure Principal where
  id : String
  roles : Roles
  name : String
deriving DecidableEq, Repr

/-- What a token says about its bearer. Times are whole seconds since the Unix epoch, stored in
signed words of 64 bits. -/
structure Claims where
  subject : String
  issuer : String
  issuedAt : Int64
  expiresAt : Int64
  roles : Roles
  name : String
deriving DecidableEq, Repr

namespace Claims

def defaultLifetime : Span := Span.ofSeconds 3600

/-- The claims of a principal who logged in at `now`. An expiry that the calendar does not reach is
replaced by the last instant. -/
def forPrincipal (principal : Principal) (issuer : String) (now : Instant) (lifetime : Span) :
    Claims where
  subject := principal.id
  issuer := issuer
  issuedAt := Int64.ofInt now.seconds
  expiresAt := Int64.ofInt ((now.add? lifetime).getD .last).seconds
  roles := principal.roles
  name := principal.name

def hasRole (claims : Claims) (required : Role) : Bool :=
  claims.roles.toList.any (·.hasPrivilege required)

def isAdmin (claims : Claims) : Bool :=
  claims.roles.contains .admin

/-- Whether the subject is the owner, or an admin, who stands in for every owner. -/
def ownsOrAdmin (claims : Claims) (owner : String) : Bool :=
  claims.subject == owner || claims.isAdmin

end Claims

end AuthServer
