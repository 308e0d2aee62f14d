import AuthServer.Keys.Store
import AuthServer.Token.Bearer
import AuthServer.Token.Codec

/-!
Authenticators issue tokens with the keys of a store and verify the tokens that callers present.
-/

namespace AuthServer

structure Authenticator where
  keys : KeyStore
  issuer : String
  lifetime : Span

namespace Authenticator

def rotate (authenticator : Authenticator) (kid : String) : Except KeyError Authenticator :=
  (authenticator.keys.withActive kid).map fun keys => { authenticator with keys }

def activeKid (authenticator : Authenticator) : String :=
  authenticator.keys.activeKid

def claimsFor (authenticator : Authenticator) (principal : Principal) (now : Instant) : Claims :=
  Claims.forPrincipal principal authenticator.issuer now authenticator.lifetime

def issue (authenticator : Authenticator) (kid : String) (claims : Claims) :
    Except AuthError String :=
  match authenticator.keys.signing kid with
  | .ok key => Token.encode kid claims key
  | .error _ => .error (.keyNotFound kid)

/-- The claims of whoever presents a header. A success leaves an event for debugging, which is left
out here. -/
def authenticate (authenticator : Authenticator) (header : Option String) (now : Instant) :
    Except AuthError Claims := do
  let token ← Bearer.token header
  let kid ← Token.signingKid token
  let key ← (authenticator.keys.verifying kid).mapError fun _ => .unknownKey kid
  Token.decode token key authenticator.issuer now

end Authenticator

end AuthServer
