import AuthServer.Claims.Codec
import AuthServer.Crypto.Rsa
import AuthServer.Encoding.Base64
import AuthServer.Text.Blank
import AuthServer.Text.Utf8
import AuthServer.Token.Error
import AuthServer.Token.Header

/-!
Signed tokens: a header, a payload and a signature, each in base 64, between dots. The signature
covers the text of the first two. The lifetime is judged by the payload as it stands, before the
signature is looked at.
-/

namespace AuthServer

open Json

structure Lifetime where
  issuedAt : Int64
  expiresAt : Int64
deriving DecidableEq, Repr

namespace Lifetime

structure Draft where
  issuedAt : Option Int64
  expiresAt : Option Int64

def shape : Shape Draft Lifetime where
  name := "TemporalClaims"
  fields := [
    .of "iat" (·.issuedAt) (fun value draft => { draft with issuedAt := some value })
      (fun _ => readInt64),
    .of "exp" (·.expiresAt) (fun value draft => { draft with expiresAt := some value })
      (fun _ => readInt64)]
  passOver := skipValue
  start := ⟨none, none⟩
  finish draft := do
    return {
      issuedAt := ← required "iat" draft.issuedAt
      expiresAt := ← required "exp" draft.expiresAt }

def ofJson (document : List UInt8) : Except Failure Lifetime :=
  readDocument shape.read document

/-- How far, in seconds, a token may come from the future. -/
def leeway : Int := 60

/-- Judge a lifetime at an instant: an expired token is expired even if it is also too young. -/
def check (lifetime : Lifetime) (now : Instant) : Except AuthError Unit :=
  if lifetime.expiresAt.toInt < now.seconds then .error .expired
  else if now.seconds + leeway < lifetime.issuedAt.toInt then .error .notYetValid
  else .ok ()

end Lifetime

/-! Two more registered claims are not used, but they must not be repeated, and reading must get
past them. -/

namespace RegisteredClaims

structure Draft where
  notBefore : Option Unit
  audience : Option Unit

/-- Go on after a scalar. One that cannot be read ends where reading stopped. -/
def goOn {α : Type} (bytes : List UInt8) : Except Failure (α × List UInt8) → Unit × List UInt8
  | .ok (_, rest) => ((), rest)
  | .error failure => ((), bytes.drop (bytes.length - failure.unread))

/-- Read a scalar of any type. It may be a number out of range or a string that is no text. -/
def readScalar : Reader Unit := fun bytes =>
  match bytes with
  | 0x22 :: rest => .ok (goOn bytes (readStringBytes rest.length [] rest))
  | byte :: _ =>
      if startsNumber byte then .ok (goOn bytes (readNumber bytes))
      else (skipValue bytes).map ((), ·)
  | [] => failAt .unfinishedValue []

/-- Read a value that should be a number: a container must be empty. -/
def readNotBefore : Reader Unit := fun bytes =>
  match skipBlanks bytes with
  | 0x5B :: rest =>
      match skipBlanks rest with
      | 0x5D :: after => .ok ((), after)
      | rest => failAt .expectedValue rest
  | 0x7B :: rest =>
      match skipBlanks rest with
      | 0x7D :: after => .ok ((), after)
      | rest => failAt .expectedValue rest
  | rest => readScalar rest

/-- Read a value of any type: a container must be readable as a whole. -/
def readAudience (depth : Nat) : Reader Unit := fun bytes =>
  match skipBlanks bytes with
  | 0x5B :: _ | 0x7B :: _ => (Value.read depth bytes).map fun (_, rest) => ((), rest)
  | rest => readScalar rest

def shape : Shape Draft Unit where
  name := "RegisteredClaims"
  fields := [
    .of "nbf" (·.notBefore) (fun value draft => { draft with notBefore := some value })
      (fun _ => readNotBefore),
    .of "aud" (·.audience) (fun value draft => { draft with audience := some value })
      readAudience]
  passOver := skipValue
  start := ⟨none, none⟩
  finish _ := .ok ()

def areValid (document : List UInt8) : Bool :=
  (readDocument shape.read document).isOk

end RegisteredClaims

namespace Token

/-- The three segments of a token. A token is cut at its last two dots. -/
structure Segments where
  header : List Char
  payload : List Char
  signature : List Char
deriving DecidableEq, Repr

def splitLast (chars : List Char) : Option (List Char × List Char) :=
  (Text.splitOnce '.' chars.reverse).map fun (after, before) => (before.reverse, after.reverse)

def segments (token : String) : Option Segments := do
  let (message, signature) ← splitLast token.toList
  let (header, payload) ← splitLast message
  return { header, payload, signature }

def message (header payload : List Char) : List Char :=
  header ++ '.' :: payload

def messageBytes (header payload : List Char) : List UInt8 :=
  Utf8.encode (String.ofList (message header payload))

/-! ## Signing -/

def encode (kid : String) (claims : Claims) (key : Rsa.PrivateKey) : Except AuthError String :=
  let header := Base64.encode .urlSafe (Utf8.encode (TokenHeader.json kid))
  let payload := Base64.encode .urlSafe (Utf8.encode claims.json)
  match key.sign (messageBytes header payload) with
  | none => .error (.signing "message too long")
  | some signature =>
      .ok (String.ofList (message header payload ++ '.' :: Base64.encode .urlSafe signature))

/-! ## Verifying -/

def document (segment : List Char) : Except AuthError (List UInt8) :=
  (Base64.decode .urlSafe segment).elim (.error .malformedToken) .ok

def header (segment : List Char) : Except AuthError TokenHeader := do
  (TokenHeader.ofJson (← document segment)).mapError fun _ => .malformedToken

def signingKid (token : String) : Except AuthError String := do
  let segments ← (segments token).elim (.error .malformedToken) .ok
  let header ← header segments.header
  if header.algorithm ≠ .rs256 then throw (.unsupportedAlgorithm header.algorithm.name)
  header.kid.elim (.error .malformedToken) .ok

def checkSignature (segments : Segments) (key : Rsa.PublicKey) : Except AuthError Unit := do
  let signature ← document segments.signature
  if key.verify (messageBytes segments.header segments.payload) signature then return ()
  else throw .badSignature

def checkClaims (document : List UInt8) (claims : Claims) (issuer : String) :
    Except AuthError Unit :=
  if claims.expiresAt.toInt < 0 ∨ !RegisteredClaims.areValid document then .error .malformedToken
  else if claims.issuer ≠ issuer then .error .issuerMismatch
  else if claims.roles.isEmpty then .error .malformedToken
  else .ok ()

/-- Verify a token with a key and return its claims. Its header is read but its key id is not
looked at. -/
def decode (token : String) (key : Rsa.PublicKey) (issuer : String) (now : Instant) :
    Except AuthError Claims := do
  let segments ← (segments token).elim (.error .malformedToken) .ok
  let header ← header segments.header
  let payload ← document segments.payload
  let lifetime ← (Lifetime.ofJson payload).mapError fun _ => .malformedToken
  lifetime.check now
  if header.algorithm ≠ .rs256 then throw (.unsupportedAlgorithm "mismatched key algorithm")
  checkSignature segments key
  let claims ← (Claims.ofJson payload).mapError fun _ => .malformedToken
  checkClaims payload claims issuer
  return claims

end Token

end AuthServer
