import AuthServer.Proofs.Token.Soundness

/-!
The two readings of a payload. Verification reads the lifetime before the signature is checked and
the claims after it, with readers that know different members. Claims in an object always show their
lifetime, and claims in an array never do, so that the lifetime which was judged is that of the
claims which are returned.
-/

namespace AuthServer

open Json

def Json.IsObject (document : List UInt8) : Prop :=
  (skipBlanks document).head? = some 0x7B
deriving Decidable

def Json.IsArray (document : List UInt8) : Prop :=
  (skipBlanks document).head? = some 0x5B
deriving Decidable

theorem Json.IsArray.not_isObject {document : List UInt8} (array : IsArray document) :
    ¬IsObject document := by
  intro object
  cases array.symm.trans object

namespace Lifetime

variable {document : List UInt8} {claims : Claims} {lifetime : Lifetime}

theorem ofJson_of_object (object : IsObject document) (read : Claims.ofJson document = .ok claims) :
    ofJson document = .ok ⟨claims.issuedAt, claims.expiresAt⟩ := by
  rcases readDocument_eq_ok_iff.mp read with ⟨rest, whole, nothing⟩
  rcases List.head?_eq_some_iff.mp object with ⟨inner, first⟩
  exact readDocument_eq_ok_iff.mpr ⟨rest, read_of_object first whole, nothing⟩

theorem isObject_of_both (read : Claims.ofJson document = .ok claims)
    (lifetimeRead : ofJson document = .ok lifetime) : IsObject document := by
  rcases readDocument_eq_ok_iff.mp read with ⟨_, whole, -⟩
  rcases readDocument_eq_ok_iff.mp lifetimeRead with ⟨_, part, -⟩
  rcases read_of_claims whole part with ⟨inner, first, -, -⟩
  rw [IsObject, first, List.head?_cons]

end Lifetime

namespace Token

variable {token issuer : String} {parts : Segments} {payload : List UInt8} {key : Rsa.PublicKey}
variable {now : Instant} {claims : Claims}

theorem both_of_decode (cut : segments token = some parts)
    (decoded : Base64.decode .urlSafe parts.payload = some payload)
    (accepted : decode token key issuer now = .ok claims) :
    Claims.ofJson payload = .ok claims ∧ ∃ lifetime, Lifetime.ofJson payload = .ok lifetime ∧
      lifetime.check now = .ok () := by
  rcases reads_of_decode accepted with ⟨_, header, _, lifetime, reads, timely, examined⟩
  cases cut.symm.trans reads.cut
  cases decoded.symm.trans (of_elim reads.payloadFound)
  exact ⟨(of_examine examined).2.1, lifetime, reads.lifetimeRead, timely⟩

/-- The two readings of a payload agree. Claims in an object come with their lifetime, and wherever
there are both, the lifetime is that of the claims. No array has both, so that none is ever
accepted, and the claims that are returned passed the check of the lifetime themselves. -/
theorem readings_agree (payload : List UInt8) :
    (∀ claims, IsObject payload → Claims.ofJson payload = .ok claims →
      Lifetime.ofJson payload = .ok ⟨claims.issuedAt, claims.expiresAt⟩) ∧
    (∀ claims lifetime, Claims.ofJson payload = .ok claims →
      Lifetime.ofJson payload = .ok lifetime →
        lifetime.issuedAt = claims.issuedAt ∧ lifetime.expiresAt = claims.expiresAt) ∧
    (IsArray payload → ∀ claims lifetime,
      ¬(Claims.ofJson payload = .ok claims ∧ Lifetime.ofJson payload = .ok lifetime)) ∧
    ∀ token parts key issuer now claims, segments token = some parts →
      Base64.decode .urlSafe parts.payload = some payload →
      decode token key issuer now = .ok claims →
        ¬IsArray payload ∧ Claims.ofJson payload = .ok claims ∧
          Lifetime.check ⟨claims.issuedAt, claims.expiresAt⟩ now = .ok () := by
  refine ⟨fun _ => Lifetime.ofJson_of_object, ?_, ?_, ?_⟩
  · intro claims lifetime read lifetimeRead
    rw [Lifetime.ofJson_of_claims read lifetimeRead]
    exact ⟨rfl, rfl⟩
  · rintro array claims lifetime ⟨read, lifetimeRead⟩
    exact array.not_isObject (Lifetime.isObject_of_both read lifetimeRead)
  · intro token parts key issuer now claims cut decoded accepted
    rcases both_of_decode cut decoded accepted with ⟨read, lifetime, lifetimeRead, timely⟩
    refine ⟨fun array => array.not_isObject (Lifetime.isObject_of_both read lifetimeRead), read, ?_⟩
    rwa [Lifetime.ofJson_of_claims read lifetimeRead] at timely

/-- An object whose members come in another order, one of them under an escaped key and one that
neither reader knows; claims in an array; and a payload that is accepted. -/
theorem readings_agree_sample :
    Lifetime.ofJson (Utf8.encode ("\x7b\"exp\":2,\"x\":[[]],\"sub\":\"é\",\"\\u0069at\":1," ++
      "\"iss\":\"i\",\"roles\":[\x7b\"USER\":null\x7d]\x7d")) = .ok ⟨1, 2⟩ ∧
    (∀ lifetime, Lifetime.ofJson (Utf8.encode "[\"s\",\"i\",1,2,[]]") ≠ .ok lifetime) ∧
    ∃ token parts payload, segments token = some parts ∧
      Base64.decode .urlSafe parts.payload = some payload ∧ ¬IsArray payload := by
  refine ⟨(readings_agree _).1 ⟨"é", "i", 1, 2, ⟨false, true⟩, ""⟩ (by decide +kernel)
    (by decide +kernel), ?_, ?_⟩
  · intro lifetime lifetimeRead
    exact (readings_agree _).2.2.1 (by decide +kernel) ⟨"s", "i", 1, 2, .none, ""⟩ lifetime
      ⟨by decide +kernel, lifetimeRead⟩
  · rcases Authenticator.exists_issue_sample with ⟨token, issued⟩
    rcases Authenticator.of_authenticate (Authenticator.authenticate_sample issued) with
      ⟨token, kid, key, -, -, -, accepted⟩
    rcases of_decode accepted with ⟨parts, _, payload, cut, -, -, decoded, -⟩
    have single := (readings_agree payload).2.2.2 token parts key _ _ _ cut decoded accepted
    exact ⟨token, parts, payload, cut, decoded, single.1⟩

end Token

end AuthServer
