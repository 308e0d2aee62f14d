import AuthServer.Config
import AuthServer.Proofs.Outcome

/-!
What is known of settings that were read: a value is never blank, tokens live for a second at least
and a year at most, and the seeded account consists of its two variables as they were set.
-/

namespace AuthServer.Config

variable {lookup : String → Option String} {config : Config}

theorem not_blank_of_setting {key value : String} (set : setting lookup key = some value) :
    Text.isBlankText value = false := by
  rcases Option.filter_eq_some_iff.mp set with ⟨-, kept⟩
  simpa using kept

/-! ## Single settings -/

section Single

variable {α : Type} {key : String} {read : String → Option α} {default value : α}

theorem settingOr_eq_ok_iff : settingOr lookup key read default = .ok value ↔
    setting lookup key = none ∧ value = default ∨
      ∃ text, setting lookup key = some text ∧ read (Text.trim text) = some value := by
  unfold settingOr
  cases setting lookup key with
  | none => simpa using eq_comm
  | some text => cases found : read (Text.trim text) <;> simp [found]

theorem settingOr_eq_error_iff {error : ConfigError} :
    settingOr lookup key read default = .error error ↔
      ∃ text, setting lookup key = some text ∧ read (Text.trim text) = none ∧
        error = .invalid key text := by
  unfold settingOr
  cases setting lookup key with
  | none => simp
  | some text => cases found : read (Text.trim text) <;> simp [found, eq_comm]

theorem settingOrMissing_eq_ok_iff {text : String} :
    settingOrMissing lookup key = .ok text ↔ setting lookup key = some text := by
  unfold settingOrMissing
  cases setting lookup key <;> simp

end Single

/-- Within a year neither the signed word nor the span that is made of it overflows. -/
theorem lifetime?_eq_some_iff {seconds lifetime : Nat} : lifetime? seconds = some lifetime ↔
    lifetime = seconds ∧ 1 ≤ seconds ∧ seconds ≤ longestTokenLifetime := by
  unfold lifetime?
  by_cases inRange : 1 ≤ seconds ∧ seconds ≤ longestTokenLifetime
  · have most : seconds ≤ 31536000 := inRange.2
    have signed : (Int64.ofNat seconds).toInt = seconds := Int64.toInt_ofNat_of_lt (by omega)
    have stored : Span.ofSeconds? (Int64.ofNat seconds) = some (.ofSeconds seconds) := by
      rw [Span.ofSeconds?, signed]
      apply if_pos
      simp only [Span.shortest, Span.longest, Span.ofSeconds, nanosPerSecond]
      omega
    have whole : (Span.ofSeconds seconds).wholeSeconds = seconds :=
      Int.mul_tdiv_cancel _ (by decide)
    rw [if_pos inRange, stored, Option.map_some, whole]
    simp [inRange, eq_comm]
  · rw [if_neg inRange]
    simp [inRange]

theorem lifetimeOf_eq_ok_iff {seconds lifetime : Nat} : lifetimeOf seconds = .ok lifetime ↔
    lifetime = seconds ∧ 1 ≤ seconds ∧ seconds ≤ longestTokenLifetime := by
  rw [← lifetime?_eq_some_iff, lifetimeOf]
  cases lifetime? seconds <;> simp

/-! ## All settings -/

theorem read_eq_ok_iff : read lookup = .ok config ↔
    settingOr lookup "HOST" IpAddress.read (.v4 ⟨0, 0, 0, 0⟩) = .ok config.host ∧
    settingOr lookup "PORT" (Text.readNumeralBelow UInt16.size) 3000 = .ok config.port ∧
    (setting lookup "AUTH_KEYS_FOLDER").getD "zarf/keys/" = config.keysFolder ∧
    settingOrMissing lookup "AUTH_ACTIVEKID" = .ok config.activeKid ∧
    (setting lookup "AUTH_ISSUER").getD "BackEnd" = config.issuer ∧
    (∃ seconds, settingOr lookup "AUTH_TOKEN_TTL_SECS" (Text.readNumeralBelow UInt64.size) 3600 =
      .ok seconds ∧ lifetimeOf seconds = .ok config.tokenLifetime) ∧
    settingOr lookup "SHUTDOWN_TIMEOUT_SECS" (Text.readNumeralBelow UInt64.size) 60 =
      .ok config.shutdownTimeout ∧
    settingOr lookup "READINESS_TIMEOUT_MS" (Text.readNumeralBelow UInt64.size)
      defaultReadinessTimeout = .ok config.readinessTimeout ∧
    originsOf (setting lookup "CORS_ALLOWED_ORIGINS") = .ok config.origins ∧
    seedOf (setting lookup "SEED_ADMIN_EMAIL") (setting lookup "SEED_ADMIN_PASSWORD") =
      .ok config.seedAdmin ∧
    LogFormat.ofSetting (setting lookup "LOG_FORMAT") = config.logFormat := by
  constructor
  · intro done
    rcases of_bind done with ⟨host, hostRead, done⟩
    rcases of_bind done with ⟨port, portRead, done⟩
    rcases of_bind done with ⟨activeKid, kidRead, done⟩
    rcases of_bind done with ⟨seconds, secondsRead, done⟩
    rcases of_bind done with ⟨tokenLifetime, lifetimeRead, done⟩
    rcases of_bind done with ⟨shutdownTimeout, shutdownRead, done⟩
    rcases of_bind done with ⟨readinessTimeout, readinessRead, done⟩
    rcases of_bind done with ⟨origins, originsRead, done⟩
    rcases of_bind done with ⟨seedAdmin, seedRead, done⟩
    cases done
    exact ⟨hostRead, portRead, rfl, kidRead, rfl, ⟨seconds, secondsRead, lifetimeRead⟩,
      shutdownRead, readinessRead, originsRead, seedRead, rfl⟩
  · rintro ⟨host, port, keysFolder, activeKid, issuer, ⟨seconds, secondsRead, lifetime⟩, shutdown,
      readiness, origins, seed, logFormat⟩
    simp only [read, host, port, keysFolder, activeKid, issuer, secondsRead, lifetime, shutdown,
      readiness, origins, seed, logFormat, ok_bind, pure_eq_ok]

theorem of_read (done : read lookup = .ok config) :
    1 ≤ config.tokenLifetime ∧ config.tokenLifetime ≤ longestTokenLifetime ∧
      seedOf (setting lookup "SEED_ADMIN_EMAIL") (setting lookup "SEED_ADMIN_PASSWORD") =
        .ok config.seedAdmin := by
  rcases read_eq_ok_iff.mp done with ⟨-, -, -, -, -, ⟨seconds, -, lifetime⟩, -, -, -, seed, -⟩
  rcases lifetimeOf_eq_ok_iff.mp lifetime with ⟨same, inRange⟩
  rw [same]
  exact ⟨inRange.1, inRange.2, seed⟩

theorem seedAdmin_of_read {email password : String} (done : read lookup = .ok config)
    (emailSet : setting lookup "SEED_ADMIN_EMAIL" = some email)
    (passwordSet : setting lookup "SEED_ADMIN_PASSWORD" = some password) :
    config.seedAdmin = some ⟨email, password⟩ := by
  rcases of_read done with ⟨-, -, found⟩
  rw [emailSet, passwordSet] at found
  exact (Except.ok.inj found).symm

end AuthServer.Config
