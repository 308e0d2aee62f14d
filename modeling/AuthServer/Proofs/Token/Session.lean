import AuthServer.Proofs.Claims.Expiry
import AuthServer.Proofs.Token.Payload

/-!
The token of a login: what it says of its times, and that it is accepted for as long as it lives.
-/

namespace AuthServer

namespace Claims

variable {principal : Principal} {issuer : String} {now : Instant} {lifetime : Int}

theorem expiresAt_of_nonneg (later : 0 ≤ now.seconds + lifetime) :
    (forPrincipal principal issuer now (.ofSeconds lifetime)).expiresAt.toInt =
      min (now.seconds + lifetime) Instant.last.seconds :=
  expiresAt_ofSeconds (le_trans (by decide) later)

theorem acceptable_forPrincipal (powerful : principal.roles.isEmpty = false)
    (later : 0 ≤ now.seconds + lifetime) {instant : Instant}
    (started : now.seconds - 60 ≤ instant.seconds)
    (alive : instant.seconds ≤ min (now.seconds + lifetime) Instant.last.seconds) :
    (forPrincipal principal issuer now (.ofSeconds lifetime)).Acceptable issuer instant where
  issuer := rfl
  roles := powerful
  expiry := by
    rw [expiresAt_of_nonneg later]
    exact le_min later (by decide)
  started := by
    rw [issuedAt_forPrincipal]
    exact started
  alive := by
    rw [expiresAt_of_nonneg later]
    exact alive

end Claims

namespace Authenticator

def HasSoundKey (authenticator : Authenticator) : Prop :=
  ∃ entry key, authenticator.keys.ring.find? authenticator.activeKid = some entry ∧
    entry.signing = some key ∧ 62 ≤ key.publicKey.size ∧ entry.IsGenuine

/-- A token for a principal who logged in at `now`. It says who that is and for how many seconds it
lives, and is accepted from a minute before it was issued up to its expiry. -/
structure IsSession (authenticator : Authenticator) (principal : Principal) (now : Instant)
    (lifetime : Int) (token : String) (claims : Claims) : Prop where
  carries : Token.Carries token claims
  subject : claims.subject = principal.id
  name : claims.name = principal.name
  roles : claims.roles = principal.roles
  issuer : claims.issuer = authenticator.issuer
  issuedAt : claims.issuedAt.toInt = now.seconds
  expiresAt : claims.expiresAt.toInt = min (now.seconds + lifetime) Instant.last.seconds
  printable : ∀ char ∈ ("Bearer " ++ token).toList, IsPrintable char
  accepted : ∀ instant, claims.issuedAt.toInt - 60 ≤ instant.seconds →
    instant.seconds ≤ claims.expiresAt.toInt →
    authenticator.authenticate (some ("Bearer " ++ token)) instant = .ok claims

variable {authenticator : Authenticator} {principal : Principal} {now : Instant} {lifetime : Int}

theorem HasSoundKey.exists_session (sound : authenticator.HasSoundKey)
    (lives : authenticator.lifetime = .ofSeconds lifetime)
    (powerful : principal.roles.isEmpty = false) (later : 0 ≤ now.seconds + lifetime) :
    ∃ token, authenticator.issue authenticator.activeKid (authenticator.claimsFor principal now) =
        .ok token ∧
      authenticator.IsSession principal now lifetime token
        (authenticator.claimsFor principal now) := by
  rcases sound with ⟨entry, key, loaded, signs, size, genuine⟩
  rcases exists_issue loaded signs size (authenticator.claimsFor principal now) with
    ⟨token, issued⟩
  rcases of_issue issued with ⟨sameEntry, sameKey, -, -, encoded⟩
  have issuedAt : (authenticator.claimsFor principal now).issuedAt.toInt = now.seconds :=
    Claims.issuedAt_forPrincipal _
  have expiresAt : (authenticator.claimsFor principal now).expiresAt.toInt =
      min (now.seconds + lifetime) Instant.last.seconds := by
    rw [claimsFor, lives]
    exact Claims.expiresAt_of_nonneg later
  refine ⟨token, issued, ?_⟩
  exact {
    carries := carries_of_issue issued
    subject := rfl
    name := rfl
    roles := rfl
    issuer := rfl
    issuedAt
    expiresAt
    printable := Token.isPrintable_encode encoded
    accepted := by
      intro instant started alive
      rw [authenticate_of_genuine issued loaded loaded genuine]
      apply Claims.verdict_of_acceptable
      rw [issuedAt] at started
      rw [expiresAt] at alive
      rw [claimsFor, lives]
      exact Claims.acceptable_forPrincipal powerful later started alive }

end Authenticator

end AuthServer
