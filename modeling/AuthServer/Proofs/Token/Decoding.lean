import AuthServer.Authenticator
import AuthServer.Proofs.Outcome

/-!
Verifying a token in three parts: what is read of it before anything is checked, the one question to
the clock, and what is examined after it.
-/

namespace AuthServer

namespace Lifetime

variable {lifetime : Lifetime} {now : Instant}

theorem check_eq_ok_iff : lifetime.check now = .ok () ↔
    now.seconds ≤ lifetime.expiresAt.toInt ∧ lifetime.issuedAt.toInt - 60 ≤ now.seconds := by
  unfold check leeway
  split
  · grind
  · split <;> grind

theorem check_eq_expired_iff :
    lifetime.check now = .error .expired ↔ lifetime.expiresAt.toInt < now.seconds := by
  unfold check
  split
  · grind
  · split <;> grind

theorem check_eq_notYetValid_iff :
    lifetime.check now = .error .notYetValid ↔
      now.seconds ≤ lifetime.expiresAt.toInt ∧ now.seconds + 60 < lifetime.issuedAt.toInt := by
  unfold check leeway
  split
  · grind
  · split <;> grind

end Lifetime

namespace Token

structure ReadsAs (token : String) (parts : Segments) (header : TokenHeader)
    (payload : List UInt8) (lifetime : Lifetime) : Prop where
  cut : segments token = some parts
  headerRead : Token.header parts.header = .ok header
  payloadFound : document parts.payload = .ok payload
  lifetimeRead : Lifetime.ofJson payload = .ok lifetime

def examine (parts : Segments) (header : TokenHeader) (payload : List UInt8) (key : Rsa.PublicKey)
    (issuer : String) : Except AuthError Claims := do
  if header.algorithm ≠ .rs256 then throw (.unsupportedAlgorithm "mismatched key algorithm")
  checkSignature parts key
  let claims ← (Claims.ofJson payload).mapError fun _ => .malformedToken
  checkClaims payload claims issuer
  return claims

variable {token issuer : String} {key : Rsa.PublicKey} {now : Instant} {parts : Segments}
variable {header : TokenHeader} {payload : List UInt8} {lifetime : Lifetime} {claims : Claims}

theorem ReadsAs.decode_eq (reads : ReadsAs token parts header payload lifetime)
    (key : Rsa.PublicKey) (issuer : String) (now : Instant) :
    decode token key issuer now =
      (lifetime.check now >>= fun _ => examine parts header payload key issuer) := by
  simp only [decode, reads.cut, Option.elim_some, ok_bind, reads.headerRead,
    reads.payloadFound, reads.lifetimeRead, mapError_ok]
  rfl

theorem reads_of_decode (decoded : decode token key issuer now = .ok claims) :
    ∃ parts header payload lifetime, ReadsAs token parts header payload lifetime ∧
      lifetime.check now = .ok () ∧ examine parts header payload key issuer = .ok claims := by
  rcases of_bind decoded with ⟨parts, cut, decoded⟩
  rcases of_bind decoded with ⟨header, headerRead, decoded⟩
  rcases of_bind decoded with ⟨payload, payloadFound, decoded⟩
  rcases of_bind decoded with ⟨lifetime, lifetimeRead, decoded⟩
  rcases of_bind decoded with ⟨⟨⟩, timely, examined⟩
  exact ⟨parts, header, payload, lifetime,
    ⟨of_elim cut, headerRead, payloadFound, of_mapError lifetimeRead⟩, timely, examined⟩

theorem of_examine (examined : examine parts header payload key issuer = .ok claims) :
    checkSignature parts key = .ok () ∧ Claims.ofJson payload = .ok claims ∧
      checkClaims payload claims issuer = .ok () := by
  unfold examine at examined
  split at examined
  · cases examined
  rcases of_bind examined with ⟨⟨⟩, signaturePassed, examined⟩
  rcases of_bind examined with ⟨found, claimsRead, examined⟩
  rcases of_bind examined with ⟨⟨⟩, claimsPassed, examined⟩
  cases examined
  exact ⟨signaturePassed, of_mapError claimsRead, claimsPassed⟩

end Token

end AuthServer
