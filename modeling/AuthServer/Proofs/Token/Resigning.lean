import AuthServer.Proofs.Token.Soundness

/-!
Tokens for the claims of a token. Once a token is accepted, at no other instant can anything but the
clock speak against it; and the same goes for every token that is issued for its claims, however
differently the two are laid out.
-/

namespace AuthServer

/-- What becomes of claims that nothing but the clock can speak against. -/
def Claims.during (claims : Claims) (now : Instant) : Except AuthError Claims :=
  if claims.expiresAt.toInt < now.seconds then .error .expired
  else if now.seconds + 60 < claims.issuedAt.toInt then .error .notYetValid
  else .ok claims

namespace Claims

variable {claims : Claims} {issuer : String} {now : Instant}

theorem during_eq_check (claims : Claims) (now : Instant) :
    claims.during now =
      (Lifetime.check ⟨claims.issuedAt, claims.expiresAt⟩ now).map fun _ => claims := by
  unfold during Lifetime.check Lifetime.leeway
  split
  · rfl
  split <;> rfl

theorem verdict_eq_during {start : Instant} (acceptable : claims.Acceptable issuer start)
    (now : Instant) : claims.verdict true issuer now = claims.during now := by
  rcases acceptable with ⟨same, powerful, plain, -, -⟩
  have positive : ¬claims.expiresAt.toInt < 0 := by omega
  simp [verdict, during, same, powerful, positive]

theorem of_during {others : Claims} (accepted : claims.during now = .ok others) :
    others = claims := by
  rw [during_eq_check] at accepted
  rcases of_map accepted with ⟨-, -, same⟩
  exact same.symm

end Claims

/-- Verification looks at the clock in one place only, and there at the times of the claims. -/
theorem Token.decode_eq_during {token issuer : String} {key : Rsa.PublicKey} {start : Instant}
    {claims : Claims} (decoded : decode token key issuer start = .ok claims) (now : Instant) :
    decode token key issuer now = claims.during now := by
  rcases reads_of_decode decoded with ⟨parts, header, payload, lifetime, reads, -, examined⟩
  rcases of_examine examined with ⟨-, claimsRead, -⟩
  -- The times that are checked before the signature are those of the claims read after it.
  have agree := Lifetime.ofJson_of_claims claimsRead reads.lifetimeRead
  rw [reads.decode_eq, examined, Claims.during_eq_check, ← agree]
  cases lifetime.check now <;> rfl

def KeyRing.IsGenuine (ring : KeyRing) : Prop :=
  ∀ kid entry, ring.find? kid = some entry → entry.IsGenuine

namespace Authenticator

variable {authenticator : Authenticator} {header : Option String} {start : Instant}
variable {claims : Claims}

theorem token_of_issue {kid token : String} (issued : authenticator.issue kid claims = .ok token) :
    Bearer.token (some ("Bearer " ++ token)) = .ok token := by
  rcases of_issue issued with ⟨entry, key, -, -, encoded⟩
  rcases Token.toList_encode encoded with ⟨notEmpty, trimmed⟩
  exact Bearer.token_of_isTrimmed notEmpty trimmed

theorem authenticate_congr {other : Option String} {token : String}
    (borne : Bearer.token header = .ok token) (borneByOther : Bearer.token other = .ok token)
    (now : Instant) : authenticator.authenticate other now =
      authenticator.authenticate header now := by
  rw [authenticate, authenticate, borne, borneByOther]

theorem acceptable_of_authenticate
    (accepted : authenticator.authenticate header start = .ok claims) :
    claims.Acceptable authenticator.issuer start := by
  rcases of_authenticate accepted with ⟨token, kid, key, -, -, -, decoded⟩
  rcases Token.of_decode decoded with ⟨-, -, -, -, -, -, -, -, acceptable⟩
  exact acceptable

/-- A header that is accepted once is judged by the clock alone. -/
theorem authenticate_eq_during
    (accepted : authenticator.authenticate header start = .ok claims) (now : Instant) :
    authenticator.authenticate header now = claims.during now := by
  rcases of_authenticate accepted with ⟨token, kid, key, borne, named, loaded, decoded⟩
  rw [authenticate_eq_decode borne named loaded, Token.decode_eq_during decoded now]

theorem authenticate_resigned (genuine : authenticator.keys.ring.IsGenuine)
    (accepted : authenticator.authenticate header start = .ok claims) {kid again : String}
    (issued : authenticator.issue kid claims = .ok again) (now : Instant) :
    authenticator.authenticate (some ("Bearer " ++ again)) now = claims.during now := by
  rcases of_issue issued with ⟨entry, -, loaded, -, -⟩
  rw [authenticate_of_genuine issued loaded loaded (genuine kid entry loaded)]
  exact Claims.verdict_eq_during (acceptable_of_authenticate accepted) now

end Authenticator

end AuthServer
