import AuthServer.Proofs.Settings
import AuthServer.Proofs.Token.Resigning
import AuthServer.Proofs.Token.Session

/-!
For how long the token of a login is valid. Its times are the second of the login and the one that
lies the lifetime of the settings later, or the last second of the calendar; and it is accepted from
a minute before the first of them to the end of the other, at no instant earlier or later.
-/

namespace AuthServer

namespace Claims

variable {claims : Claims} {now : Instant}

theorem during_eq_ok_iff : claims.during now = .ok claims ↔
    claims.issuedAt.toInt - 60 ≤ now.seconds ∧ now.seconds ≤ claims.expiresAt.toInt := by
  rw [during_eq_check, map_const_eq_ok_iff, Lifetime.check_eq_ok_iff]
  exact and_comm

theorem during_eq_expired_iff :
    claims.during now = .error .expired ↔ claims.expiresAt.toInt < now.seconds := by
  rw [during_eq_check, map_eq_error_iff, Lifetime.check_eq_expired_iff]

theorem during_eq_notYetValid_iff
    (ordered : claims.issuedAt.toInt - 60 ≤ claims.expiresAt.toInt) :
    claims.during now = .error .notYetValid ↔ now.seconds < claims.issuedAt.toInt - 60 := by
  rw [during_eq_check, map_eq_error_iff, Lifetime.check_eq_notYetValid_iff]
  dsimp only
  omega

end Claims

namespace Authenticator

/-- What becomes of a token: before its first second it is not yet valid, up to the end of its last
one it is accepted with its claims, and then it has expired. -/
structure AcceptsBetween (authenticator : Authenticator) (token : String) (claims : Claims)
    (first last : Int) : Prop where
  accepted_iff : ∀ instant,
    authenticator.authenticate (some ("Bearer " ++ token)) instant = .ok claims ↔
      first ≤ instant.seconds ∧ instant.seconds ≤ last
  expired_iff : ∀ instant,
    authenticator.authenticate (some ("Bearer " ++ token)) instant = .error .expired ↔
      last < instant.seconds
  notYetValid_iff : ∀ instant,
    authenticator.authenticate (some ("Bearer " ++ token)) instant = .error .notYetValid ↔
      instant.seconds < first

variable {authenticator : Authenticator} {kid token : String} {claims : Claims} {start : Instant}

theorem acceptsBetween_of_issue (issued : authenticator.issue kid claims = .ok token)
    (genuine : ∀ entry, authenticator.keys.ring.find? kid = some entry → entry.IsGenuine)
    (acceptable : claims.Acceptable authenticator.issuer start) :
    authenticator.AcceptsBetween token claims (claims.issuedAt.toInt - 60)
      claims.expiresAt.toInt := by
  rcases of_issue issued with ⟨entry, -, loaded, -, -⟩
  have judged (instant : Instant) :
      authenticator.authenticate (some ("Bearer " ++ token)) instant = claims.during instant := by
    rw [authenticate_of_genuine issued loaded loaded (genuine entry loaded)]
    exact Claims.verdict_eq_during acceptable instant
  constructor <;> intro instant <;> rw [judged instant]
  · exact Claims.during_eq_ok_iff
  · exact Claims.during_eq_expired_iff
  · exact Claims.during_eq_notYetValid_iff (le_trans acceptable.started acceptable.alive)

/-- With a lifetime from the settings, a token whose expiry is not negative is valid from a minute
before the login up to its expiry, and so for the whole lifetime and not a second more. Its times
are exact, also as signed words of 64 bits, and so is the sum that the younger of them is compared
with. -/
theorem validity_window {lookup : String → Option String} {config : Config}
    (read : Config.read lookup = .ok config) {authenticator : Authenticator}
    (lives : authenticator.lifetime = .ofSeconds config.tokenLifetime)
    (genuine : ∀ entry, authenticator.keys.ring.find? authenticator.activeKid = some entry →
      entry.IsGenuine)
    {principal : Principal} (powerful : principal.roles.isEmpty = false) (now : Instant)
    {claims : Claims} (made : authenticator.claimsFor principal now = claims) :
    (1 ≤ config.tokenLifetime ∧ config.tokenLifetime ≤ 31536000) ∧
    claims.issuedAt.toInt = now.seconds ∧
    claims.expiresAt.toInt = min (now.seconds + config.tokenLifetime) 8210266876799 ∧
    claims.issuedAt.toInt ≤ claims.expiresAt.toInt ∧
    (∀ instant : Instant, (Int64.ofInt (instant.seconds + Lifetime.leeway)).toInt =
      instant.seconds + Lifetime.leeway) ∧
    ∀ token, authenticator.issue authenticator.activeKid claims = .ok token →
      0 ≤ claims.expiresAt.toInt →
      authenticator.AcceptsBetween token claims (claims.issuedAt.toInt - 60)
        claims.expiresAt.toInt ∧
      ∀ instant : Instant,
        (now.nanos ≤ instant.nanos →
          instant.nanos ≤ now.nanos + (Span.ofSeconds config.tokenLifetime).nanos →
          authenticator.authenticate (some ("Bearer " ++ token)) instant = .ok claims) ∧
        (now.nanos + (Span.ofSeconds (config.tokenLifetime + 1)).nanos ≤ instant.nanos →
          authenticator.authenticate (some ("Bearer " ++ token)) instant = .error .expired) := by
  rcases Config.of_read read with ⟨shortest, longest, -⟩
  have firstSecond := now.first_le_seconds
  have lastSecond := now.seconds_le_last
  have issuedAt : claims.issuedAt.toInt = now.seconds := by
    rw [← made]
    exact Claims.issuedAt_forPrincipal _
  have expiresAt : claims.expiresAt.toInt =
      min (now.seconds + config.tokenLifetime) Instant.last.seconds := by
    rw [← made, claimsFor, lives]
    exact Claims.expiresAt_ofSeconds (by omega)
  have ordered : now.seconds ≤ claims.expiresAt.toInt := by omega
  refine ⟨⟨shortest, longest⟩, issuedAt, expiresAt, issuedAt ▸ ordered,
    fun instant => instant.toInt_seconds_add (by decide) (by decide), ?_⟩
  intro token issued positive
  -- At the login nothing speaks against the claims, so that only the clock can do so later.
  have acceptable : claims.Acceptable authenticator.issuer now := by
    rw [expiresAt] at positive
    rw [← made, claimsFor, lives]
    exact Claims.acceptable_forPrincipal powerful (le_trans positive (min_le_left _ _)) (by omega)
      (le_min (by omega) lastSecond)
  have window := acceptsBetween_of_issue issued genuine acceptable
  refine ⟨window, fun instant => ⟨fun started alive => ?_, fun late => ?_⟩⟩
  · rw [window.accepted_iff, issuedAt, expiresAt]
    have later := Instant.seconds_mono started
    have inTime : instant.seconds ≤ now.seconds + config.tokenLifetime := by
      rw [← now.ediv_add_ofSeconds]
      exact Int.ediv_le_ediv (by decide) alive
    exact ⟨by omega, le_min inTime instant.seconds_le_last⟩
  · rw [window.expired_iff, expiresAt]
    have past : now.seconds + (config.tokenLifetime + 1) ≤ instant.seconds := by
      rw [← now.ediv_add_ofSeconds]
      exact Int.ediv_le_ediv (by decide) late
    exact lt_of_le_of_lt (min_le_left _ _) (by omega)

end Authenticator

/-! ## A year from just before the epoch -/

def Config.yearLookup (key : String) : Option String :=
  if key = "AUTH_ACTIVEKID" then some "k"
  else if key = "AUTH_TOKEN_TTL_SECS" then some "31536000"
  else none

def Config.year : Config where
  host := .v4 ⟨0, 0, 0, 0⟩
  port := 3000
  keysFolder := "zarf/keys/"
  activeKid := "k"
  issuer := "BackEnd"
  tokenLifetime := 31536000
  shutdownTimeout := 60
  origins := .any
  readinessTimeout := 1000
  seedAdmin := none
  logFormat := .pretty

def Instant.preEpoch : Instant := ⟨-1, by decide, by decide⟩

namespace Authenticator

def yearSample : Authenticator :=
  ofKey "k" "BackEnd" Rsa.mersenneKey (.ofSeconds Config.year.tokenLifetime)

theorem validity_window_sample :
    ∃ token, yearSample.issue "k" (yearSample.claimsFor .sample .preEpoch) = .ok token ∧
      yearSample.AcceptsBetween token (yearSample.claimsFor .sample .preEpoch) (-61) 31535999 := by
  have read : Config.read Config.yearLookup = .ok .year := by decide +kernel
  have genuine : ∀ entry, yearSample.keys.ring.find? yearSample.activeKid = some entry →
      entry.IsGenuine := by
    intro entry loaded
    cases loaded
    exact isGenuine_sample
  have issuable : ∃ token, yearSample.issue "k" (yearSample.claimsFor .sample .preEpoch) =
      .ok token :=
    exists_issue rfl rfl (by rw [Rsa.size_mersenneKey]; decide) _
  rcases issuable with ⟨token, issued⟩
  rcases validity_window read rfl genuine (show Principal.sample.roles.isEmpty = false by decide)
    .preEpoch rfl with ⟨-, -, -, -, -, valid⟩
  exact ⟨token, issued, (valid token issued (by decide)).1⟩

end Authenticator

end AuthServer
