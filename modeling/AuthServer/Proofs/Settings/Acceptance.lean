import AuthServer.Proofs.Settings
import AuthServer.Proofs.Stage.Origin
import AuthServer.Proofs.Text.Blank
import AuthServer.Proofs.Text.Numeral
import Mathlib.Algebra.Group.Nat.Defs

/-!
Which settings are accepted. Every variable has its own condition; settings are accepted if all of
them hold, with the values that the variables stand for, and else the first variable that fails is
the one reported. No other variable matters, and a blank value is the same as none.
-/

namespace AuthServer

namespace Config

variable {lookup : String → Option String}

/-! ## Checks -/

/-- What settings are checked for. The two variables of the seed are checked together. -/
inductive Check where
  | host
  | port
  | activeKid
  | tokenLifetime
  | shutdownTimeout
  | readinessTimeout
  | origins
  | seed
deriving DecidableEq, Repr

def IfSet (lookup : String → Option String) (key : String) (holds : String → Prop) : Prop :=
  ∀ text, setting lookup key = some text → holds (Text.trim text)

namespace Check

def all : List Check :=
  [.host, .port, .activeKid, .tokenLifetime, .shutdownTimeout, .readinessTimeout, .origins, .seed]

def Passes (lookup : String → Option String) : Check → Prop
  | .host => IfSet lookup "HOST" fun text => ∃ address, IpAddress.read text = some address
  | .port => IfSet lookup "PORT" fun text => ∃ value < 2 ^ 16, Text.IsNumeral text value
  | .activeKid => ∃ text, setting lookup "AUTH_ACTIVEKID" = some text
  | .tokenLifetime => IfSet lookup "AUTH_TOKEN_TTL_SECS" fun text =>
      ∃ value, Text.IsNumeral text value ∧ 1 ≤ value ∧ value ≤ 31536000
  | .shutdownTimeout => IfSet lookup "SHUTDOWN_TIMEOUT_SECS" fun text =>
      ∃ value < 2 ^ 64, Text.IsNumeral text value
  | .readinessTimeout => IfSet lookup "READINESS_TIMEOUT_MS" fun text =>
      ∃ value < 2 ^ 64, Text.IsNumeral text value
  | .origins => ∀ text, setting lookup "CORS_ALLOWED_ORIGINS" = some text →
      ∃ policy, OriginPolicy.ofSetting text = .ok policy
  | .seed => setting lookup "SEED_ADMIN_EMAIL" = none ↔ setting lookup "SEED_ADMIN_PASSWORD" = none

def written (lookup : String → Option String) (key : String) : String :=
  (setting lookup key).getD ""

/-- How a check is reported when it fails. A lifetime that is a number is shown as that number, a
list of origins is shown trimmed, and of the seed the missing variable is named. -/
def error (lookup : String → Option String) : Check → ConfigError
  | .host => .invalid "HOST" (written lookup "HOST")
  | .port => .invalid "PORT" (written lookup "PORT")
  | .activeKid => .missing "AUTH_ACTIVEKID"
  | .tokenLifetime =>
      let text := written lookup "AUTH_TOKEN_TTL_SECS"
      .invalid "AUTH_TOKEN_TTL_SECS"
        ((Text.readNumeralBelow (2 ^ 64) (Text.trim text)).elim text toString)
  | .shutdownTimeout => .invalid "SHUTDOWN_TIMEOUT_SECS" (written lookup "SHUTDOWN_TIMEOUT_SECS")
  | .readinessTimeout => .invalid "READINESS_TIMEOUT_MS" (written lookup "READINESS_TIMEOUT_MS")
  | .origins =>
      .invalid "CORS_ALLOWED_ORIGINS" (Text.trim (written lookup "CORS_ALLOWED_ORIGINS"))
  | .seed =>
      .missing (if setting lookup "SEED_ADMIN_EMAIL" = none then "SEED_ADMIN_EMAIL"
        else "SEED_ADMIN_PASSWORD")

def run (lookup : String → Option String) : Check → Except ConfigError Unit
  | .host => (settingOr lookup "HOST" IpAddress.read (.v4 ⟨0, 0, 0, 0⟩)).map fun _ => ()
  | .port => (settingOr lookup "PORT" (Text.readNumeralBelow UInt16.size) 3000).map fun _ => ()
  | .activeKid => (settingOrMissing lookup "AUTH_ACTIVEKID").map fun _ => ()
  | .tokenLifetime =>
      (settingOr lookup "AUTH_TOKEN_TTL_SECS" (Text.readNumeralBelow UInt64.size) 3600 >>=
        lifetimeOf).map fun _ => ()
  | .shutdownTimeout =>
      (settingOr lookup "SHUTDOWN_TIMEOUT_SECS" (Text.readNumeralBelow UInt64.size) 60).map
        fun _ => ()
  | .readinessTimeout =>
      (settingOr lookup "READINESS_TIMEOUT_MS" (Text.readNumeralBelow UInt64.size)
        defaultReadinessTimeout).map fun _ => ()
  | .origins => (originsOf (setting lookup "CORS_ALLOWED_ORIGINS")).map fun _ => ()
  | .seed => (seedOf (setting lookup "SEED_ADMIN_EMAIL")
      (setting lookup "SEED_ADMIN_PASSWORD")).map fun _ => ()

end Check

theorem discarded_read (lookup : String → Option String) :
    (read lookup).map (fun _ => ()) = forM Check.all (Check.run lookup) := by
  simp only [Check.all, List.forM_cons, List.forM_nil, Check.run, read, discarded_bind,
    bind_discarded, bind_assoc]
  rfl

/-! ## Single variables -/

section Single

variable {α : Type} {key text : String} {read : String → Option α} {default : α}

theorem written_of_setting (set : setting lookup key = some text) :
    Check.written lookup key = text := by
  rw [Check.written, set, Option.getD_some]

theorem ifSet_iff_of_setting {holds : String → Prop} (set : setting lookup key = some text) :
    IfSet lookup key holds ↔ holds (Text.trim text) := by
  rw [IfSet, set]
  simp

theorem ifSet_of_unset {holds : String → Prop} (unset : setting lookup key = none) :
    IfSet lookup key holds := by
  intro text set
  rw [unset] at set
  cases set

theorem settingOr_cases {holds : String → Prop}
    (readable : ∀ text, (∃ value, read text = some value) ↔ holds text) :
    (settingOr lookup key read default).map (fun _ => ()) = .ok () ∧ IfSet lookup key holds ∨
      (settingOr lookup key read default).map (fun _ => ()) =
          .error (.invalid key (Check.written lookup key)) ∧ ¬IfSet lookup key holds := by
  cases step : settingOr lookup key read default with
  | ok value =>
      refine .inl ⟨rfl, ?_⟩
      rcases settingOr_eq_ok_iff.mp step with ⟨unset, -⟩ | ⟨text, set, found⟩
      · exact ifSet_of_unset unset
      · rw [ifSet_iff_of_setting set, ← readable]
        exact ⟨value, found⟩
  | error error =>
      rcases settingOr_eq_error_iff.mp step with ⟨text, set, missing, rfl⟩
      rw [written_of_setting set, ifSet_iff_of_setting set, ← readable]
      exact .inr ⟨rfl, by simp [missing]⟩

theorem exists_numeralBelow_iff (bound : Nat) (text : String) :
    (∃ value, Text.readNumeralBelow bound text = some value) ↔
      ∃ value < bound, Text.IsNumeral text value := by
  simp only [Text.readNumeralBelow_eq_some_iff, and_comm]

theorem lifetimeOf_eq_error {seconds : Nat}
    (outside : ¬(1 ≤ seconds ∧ seconds ≤ longestTokenLifetime)) :
    lifetimeOf seconds = .error (.invalid "AUTH_TOKEN_TTL_SECS" (toString seconds)) := by
  rw [lifetimeOf, lifetime?, if_neg outside]
  rfl

end Single

/-! ## Checks one by one -/

namespace Check

theorem run_tokenLifetime_cases (lookup : String → Option String) :
    run lookup .tokenLifetime = .ok () ∧ Passes lookup .tokenLifetime ∨
      run lookup .tokenLifetime = .error (error lookup .tokenLifetime) ∧
        ¬Passes lookup .tokenLifetime := by
  rw [run, error, Passes]
  cases step : settingOr lookup "AUTH_TOKEN_TTL_SECS" (Text.readNumeralBelow UInt64.size) 3600 with
  | error error =>
      rcases settingOr_eq_error_iff.mp step with ⟨text, set, missing, rfl⟩
      rw [written_of_setting set, ifSet_iff_of_setting set]
      refine .inr ⟨?_, ?_⟩
      · rw [show Text.readNumeralBelow (2 ^ 64) (Text.trim text) = none from missing]
        rfl
      · rintro ⟨value, numeral, -, most⟩
        have found : Text.readNumeralBelow UInt64.size (Text.trim text) = some value :=
          Text.readNumeralBelow_eq_some_iff.mpr ⟨numeral, Nat.lt_of_le_of_lt most (by decide)⟩
        rw [missing] at found
        cases found
  | ok seconds =>
      rcases settingOr_eq_ok_iff.mp step with ⟨unset, rfl⟩ | ⟨text, set, found⟩
      · have lives : lifetimeOf 3600 = .ok 3600 :=
          lifetimeOf_eq_ok_iff.mpr ⟨rfl, by decide, by decide⟩
        exact .inl ⟨discarded_eq_ok_iff.mpr ⟨3600, lives⟩, ifSet_of_unset unset⟩
      · rw [written_of_setting set, ifSet_iff_of_setting set]
        rcases Text.readNumeralBelow_eq_some_iff.mp found with ⟨numeral, -⟩
        by_cases inRange : 1 ≤ seconds ∧ seconds ≤ longestTokenLifetime
        · have lives := lifetimeOf_eq_ok_iff.mpr ⟨rfl, inRange⟩
          exact .inl ⟨discarded_eq_ok_iff.mpr ⟨seconds, lives⟩, seconds, numeral, inRange⟩
        · refine .inr ⟨?_, ?_⟩
          · rw [show Text.readNumeralBelow (2 ^ 64) (Text.trim text) = some seconds from found]
            exact map_eq_error_iff.mpr (lifetimeOf_eq_error inRange)
          · rintro ⟨value, other, bounds⟩
            cases other.unique numeral
            exact inRange bounds

theorem run_cases (lookup : String → Option String) (check : Check) :
    check.run lookup = .ok () ∧ check.Passes lookup ∨
      check.run lookup = .error (check.error lookup) ∧ ¬check.Passes lookup := by
  cases check with
  | host => exact settingOr_cases fun text => Iff.rfl
  | port => exact settingOr_cases (exists_numeralBelow_iff UInt16.size)
  | activeKid =>
      rw [run, error, Passes, settingOrMissing]
      cases set : setting lookup "AUTH_ACTIVEKID" with
      | none => exact .inr ⟨rfl, by simp⟩
      | some text => exact .inl ⟨rfl, text, rfl⟩
  | tokenLifetime => exact run_tokenLifetime_cases lookup
  | shutdownTimeout => exact settingOr_cases (exists_numeralBelow_iff UInt64.size)
  | readinessTimeout => exact settingOr_cases (exists_numeralBelow_iff UInt64.size)
  | origins =>
      rw [run, error, Passes, originsOf, written]
      cases set : setting lookup "CORS_ALLOWED_ORIGINS" with
      | none => exact .inl ⟨rfl, by simp⟩
      | some text =>
          rw [Option.elim_some, Option.getD_some]
          cases step : OriginPolicy.ofSetting text with
          | ok policy => exact .inl ⟨rfl, by simpa using ⟨policy, step⟩⟩
          | error error =>
              rcases OriginPolicy.ofSetting_eq_error_iff.mp step with ⟨-, -, rfl⟩
              exact .inr ⟨rfl, by simp [step]⟩
  | seed =>
      rw [run, error, Passes]
      cases setting lookup "SEED_ADMIN_EMAIL" with
      | none =>
          cases setting lookup "SEED_ADMIN_PASSWORD" with
          | none => exact .inl ⟨rfl, by simp⟩
          | some password => exact .inr ⟨rfl, by simp⟩
      | some email =>
          cases setting lookup "SEED_ADMIN_PASSWORD" with
          | none => exact .inr ⟨rfl, by simp⟩
          | some password => exact .inl ⟨rfl, by simp⟩

theorem run_eq_ok_iff {check : Check} : check.run lookup = .ok () ↔ check.Passes lookup := by
  rcases run_cases lookup check with ⟨done, passes⟩ | ⟨failed, fails⟩
  · exact iff_of_true done passes
  · exact iff_of_false (by simp [failed]) fails

theorem run_eq_error_iff {check : Check} {error : ConfigError} :
    check.run lookup = .error error ↔ ¬check.Passes lookup ∧ error = check.error lookup := by
  rcases run_cases lookup check with ⟨done, passes⟩ | ⟨failed, fails⟩
  · exact iff_of_false (by simp [done]) fun both => both.1 passes
  · rw [failed, Except.error.injEq]
    exact ⟨fun same => ⟨fails, same.symm⟩, fun both => both.2.symm⟩

end Check

/-! ## Accepted settings -/

/-- The value of a variable: the default if it is unset, and else what its trimmed text denotes. -/
def StandsFor {α : Type} (lookup : String → Option String) (key : String)
    (denotes : String → α → Prop) (default value : α) : Prop :=
  setting lookup key = none ∧ value = default ∨
    ∃ text, setting lookup key = some text ∧ denotes (Text.trim text) value

/-- The settings that variables stand for. Only addresses and numbers are trimmed. -/
structure IsRead (lookup : String → Option String) (config : Config) : Prop where
  host : StandsFor lookup "HOST" (fun text address => IpAddress.read text = some address)
    (.v4 ⟨0, 0, 0, 0⟩) config.host
  port : StandsFor lookup "PORT" (fun text value => Text.IsNumeral text value ∧ value < 2 ^ 16)
    3000 config.port
  keysFolder : config.keysFolder = (setting lookup "AUTH_KEYS_FOLDER").getD "zarf/keys/"
  activeKid : setting lookup "AUTH_ACTIVEKID" = some config.activeKid
  issuer : config.issuer = (setting lookup "AUTH_ISSUER").getD "BackEnd"
  tokenLifetime : StandsFor lookup "AUTH_TOKEN_TTL_SECS"
    (fun text value => Text.IsNumeral text value ∧ 1 ≤ value ∧ value ≤ 31536000)
    3600 config.tokenLifetime
  shutdownTimeout : StandsFor lookup "SHUTDOWN_TIMEOUT_SECS"
    (fun text value => Text.IsNumeral text value ∧ value < 2 ^ 64) 60 config.shutdownTimeout
  readinessTimeout : StandsFor lookup "READINESS_TIMEOUT_MS"
    (fun text value => Text.IsNumeral text value ∧ value < 2 ^ 64) 1000 config.readinessTimeout
  origins : setting lookup "CORS_ALLOWED_ORIGINS" = none ∧ config.origins = .any ∨
    ∃ text, setting lookup "CORS_ALLOWED_ORIGINS" = some text ∧
      OriginPolicy.ofSetting text = .ok config.origins
  seedEmail : config.seedAdmin.map SeedAdmin.email = setting lookup "SEED_ADMIN_EMAIL"
  seedPassword : config.seedAdmin.map SeedAdmin.password = setting lookup "SEED_ADMIN_PASSWORD"
  logFormat : config.logFormat = LogFormat.ofSetting (setting lookup "LOG_FORMAT")

theorem settingOr_eq_ok_iff_standsFor {α : Type} {key : String} {read : String → Option α}
    {default value : α} {denotes : String → α → Prop}
    (meaning : ∀ text value, read text = some value ↔ denotes text value) :
    settingOr lookup key read default = .ok value ↔
      StandsFor lookup key denotes default value := by
  simp only [settingOr_eq_ok_iff, StandsFor, meaning]

theorem tokenLifetime_iff_standsFor {lifetime : Nat} :
    (∃ seconds, settingOr lookup "AUTH_TOKEN_TTL_SECS" (Text.readNumeralBelow UInt64.size) 3600 =
        .ok seconds ∧ lifetimeOf seconds = .ok lifetime) ↔
      StandsFor lookup "AUTH_TOKEN_TTL_SECS"
        (fun text value => Text.IsNumeral text value ∧ 1 ≤ value ∧ value ≤ 31536000)
        3600 lifetime := by
  constructor
  · rintro ⟨seconds, read, lives⟩
    rcases lifetimeOf_eq_ok_iff.mp lives with ⟨rfl, inRange⟩
    rcases settingOr_eq_ok_iff.mp read with ⟨unset, default⟩ | ⟨text, set, found⟩
    · exact .inl ⟨unset, default⟩
    · exact .inr ⟨text, set, (Text.readNumeralBelow_eq_some_iff.mp found).1, inRange⟩
  · rintro (⟨unset, rfl⟩ | ⟨text, set, numeral, least, most⟩)
    · exact ⟨3600, settingOr_eq_ok_iff.mpr (.inl ⟨unset, rfl⟩),
        lifetimeOf_eq_ok_iff.mpr ⟨rfl, by decide, by decide⟩⟩
    · have fits : lifetime < UInt64.size := Nat.lt_of_le_of_lt most (by decide)
      have found := Text.readNumeralBelow_eq_some_iff.mpr ⟨numeral, fits⟩
      exact ⟨lifetime, settingOr_eq_ok_iff.mpr (.inr ⟨text, set, found⟩),
        lifetimeOf_eq_ok_iff.mpr ⟨rfl, least, most⟩⟩

theorem originsOf_eq_ok_iff {value : Option String} {policy : OriginPolicy} :
    originsOf value = .ok policy ↔
      value = none ∧ policy = .any ∨
        ∃ text, value = some text ∧ OriginPolicy.ofSetting text = .ok policy := by
  cases value with
  | none => simpa [originsOf] using eq_comm
  | some text => simp [originsOf]

theorem seedOf_eq_ok_iff {email password : Option String} {seed : Option SeedAdmin} :
    seedOf email password = .ok seed ↔
      seed.map SeedAdmin.email = email ∧ seed.map SeedAdmin.password = password := by
  constructor
  · intro done
    cases email <;> cases password <;> cases done <;> exact ⟨rfl, rfl⟩
  · rintro ⟨rfl, rfl⟩
    cases seed <;> rfl

theorem read_eq_ok_iff_isRead {config : Config} :
    read lookup = .ok config ↔ IsRead lookup config := by
  have address (key : String) (default value : IpAddress) :
      settingOr lookup key IpAddress.read default = .ok value ↔
        StandsFor lookup key (fun text address => IpAddress.read text = some address)
          default value :=
    settingOr_eq_ok_iff_standsFor fun _ _ => Iff.rfl
  have number (key : String) (bound default value : Nat) :
      settingOr lookup key (Text.readNumeralBelow bound) default = .ok value ↔
        StandsFor lookup key (fun text value => Text.IsNumeral text value ∧ value < bound)
          default value :=
    settingOr_eq_ok_iff_standsFor fun _ _ => Text.readNumeralBelow_eq_some_iff
  rw [read_eq_ok_iff, tokenLifetime_iff_standsFor, settingOrMissing_eq_ok_iff, originsOf_eq_ok_iff,
    seedOf_eq_ok_iff]
  simp only [address, number]
  constructor
  · rintro ⟨host, port, keysFolder, activeKid, issuer, tokenLifetime, shutdown, readiness, origins,
      ⟨email, password⟩, logFormat⟩
    exact ⟨host, port, keysFolder.symm, activeKid, issuer.symm, tokenLifetime, shutdown, readiness,
      origins, email, password, logFormat.symm⟩
  · rintro ⟨host, port, keysFolder, activeKid, issuer, tokenLifetime, shutdown, readiness, origins,
      email, password, logFormat⟩
    exact ⟨host, port, keysFolder.symm, activeKid, issuer.symm, tokenLifetime, shutdown, readiness,
      origins, ⟨email, password⟩, logFormat.symm⟩

/-! ## Influence -/

def keys : List String :=
  ["HOST", "PORT", "AUTH_KEYS_FOLDER", "AUTH_ACTIVEKID", "AUTH_ISSUER", "AUTH_TOKEN_TTL_SECS",
    "SHUTDOWN_TIMEOUT_SECS", "READINESS_TIMEOUT_MS", "CORS_ALLOWED_ORIGINS", "SEED_ADMIN_EMAIL",
    "SEED_ADMIN_PASSWORD", "LOG_FORMAT"]

def IsUnset (value : Option String) : Prop :=
  ∀ text, value = some text → ∀ char ∈ text.toList, Text.isBlank char = true

theorem setting_eq_none_iff {key : String} : setting lookup key = none ↔ IsUnset (lookup key) := by
  rw [setting, Option.filter_eq_none_iff, IsUnset]
  apply forall_congr'
  intro text
  simp [Text.isBlankText]

theorem setting_congr {other : String → Option String} {key : String}
    (alike : other key = lookup key ∨ IsUnset (other key) ∧ IsUnset (lookup key)) :
    setting other key = setting lookup key := by
  rcases alike with same | ⟨otherUnset, unset⟩
  · rw [setting, setting, same]
  · rw [setting_eq_none_iff.mpr otherUnset, setting_eq_none_iff.mpr unset]

theorem read_congr {other : String → Option String}
    (alike : ∀ key ∈ keys, setting other key = setting lookup key) :
    read other = read lookup := by
  simp only [keys, List.forall_mem_cons] at alike
  rcases alike with ⟨host, port, keysFolder, activeKid, issuer, tokenLifetime, shutdown, readiness,
    origins, seedEmail, seedPassword, logFormat, -⟩
  simp only [read, settingOr, settingOrMissing, host, port, keysFolder, activeKid, issuer,
    tokenLifetime, shutdown, readiness, origins, seedEmail, seedPassword, logFormat]

/-! ## Acceptance -/

theorem exists_read_eq_ok_iff :
    (∃ config, read lookup = .ok config) ↔ ∀ check ∈ Check.all, check.Passes lookup := by
  rw [← discarded_eq_ok_iff, discarded_read, forM_eq_ok_iff]
  simp only [Check.run_eq_ok_iff]

theorem read_eq_error_iff {error : ConfigError} : read lookup = .error error ↔
    ∃ before check after, Check.all = before ++ check :: after ∧
      (∀ earlier ∈ before, earlier.Passes lookup) ∧ ¬check.Passes lookup ∧
      error = check.error lookup := by
  have discarded : (read lookup).map (fun _ => ()) = .error error ↔ read lookup = .error error :=
    map_eq_error_iff
  rw [← discarded, discarded_read, forM_eq_error_iff]
  simp only [Check.run_eq_ok_iff, Check.run_eq_error_iff]

/-- Settings are accepted exactly if all checks pass, then with the values that the variables stand
for, and refused with the error of the first check that fails. Variables that are not looked up do
not matter, and blanks in place of no value do not either. -/
theorem read_exact (lookup : String → Option String) :
    (∀ config, read lookup = .ok config ↔ IsRead lookup config) ∧
    ((∃ config, read lookup = .ok config) ↔ ∀ check : Check, check.Passes lookup) ∧
    (∀ error, read lookup = .error error ↔
      ∃ before check after, Check.all = before ++ check :: after ∧
        (∀ earlier ∈ before, earlier.Passes lookup) ∧ ¬check.Passes lookup ∧
        error = check.error lookup) ∧
    ∀ other, (∀ key ∈ keys,
        other key = lookup key ∨ IsUnset (other key) ∧ IsUnset (lookup key)) →
      read other = read lookup := by
  have complete (check : Check) : check ∈ Check.all := by cases check <;> decide
  refine ⟨fun config => read_eq_ok_iff_isRead, ?_, fun error => read_eq_error_iff,
    fun other alike => read_congr fun key member => setting_congr (alike key member)⟩
  rw [exists_read_eq_ok_iff]
  exact ⟨fun passes check => passes check (complete check), fun passes check _ => passes check⟩

def sampleLookup (port lifetime : String) : String → Option String :=
  fun key => [("HOST", " \t"), ("PORT", port), ("AUTH_ACTIVEKID", " kid "),
    ("AUTH_TOKEN_TTL_SECS", lifetime), ("SHUTDOWN_TIMEOUT_SECS", "18446744073709551615"),
    ("PATH", "/bin")].lookup key

/-- Numbers at their bounds, a port and a lifetime that are both too great, and a blank host that is
left out together with a variable that is not looked up. -/
theorem read_exact_sample :
    (∃ config, IsRead (sampleLookup " +0080 " "31536000") config ∧ config.port = 80 ∧
      config.tokenLifetime = 31536000 ∧ config.shutdownTimeout = 2 ^ 64 - 1) ∧
    read (sampleLookup "65536" "31536001") = .error (.invalid "PORT" "65536") ∧
    read (fun key => if key = "HOST" ∨ key = "PATH" then none
        else sampleLookup " +0080 " "31536000" key) =
      read (sampleLookup " +0080 " "31536000") := by
  rcases read_exact (sampleLookup " +0080 " "31536000") with ⟨isRead, accepted, -, influence⟩
  rcases read_exact (sampleLookup "65536" "31536001") with ⟨-, -, refused, -⟩
  have passes (check : Check) : check.Passes (sampleLookup " +0080 " "31536000") := by
    apply Check.run_eq_ok_iff.mp
    cases check <;> rfl
  have hostPasses : Check.host.Passes (sampleLookup "65536" "31536001") :=
    Check.run_eq_ok_iff.mp rfl
  have portRun : Check.port.run (sampleLookup "65536" "31536001") =
      .error (.invalid "PORT" "65536") := rfl
  refine ⟨?_, ?_, influence _ fun key member => ?_⟩
  · rcases accepted.mpr passes with ⟨config, found⟩
    have numbers : (read (sampleLookup " +0080 " "31536000")).map (fun config =>
        (config.port, config.tokenLifetime, config.shutdownTimeout)) =
          .ok (80, 31536000, 2 ^ 64 - 1) := rfl
    rw [found] at numbers
    rcases Prod.mk.inj (Except.ok.inj numbers) with ⟨port, times⟩
    exact ⟨config, (isRead config).mp found, port, Prod.mk.inj times⟩
  · exact (refused _).mpr ⟨[.host], .port, _, rfl, by simpa using hostPasses,
      Check.run_eq_error_iff.mp portRun⟩
  · by_cases left : key = "HOST" ∨ key = "PATH"
    · rcases left with rfl | rfl
      · exact .inr ⟨by simp [IsUnset], setting_eq_none_iff.mp (by decide +kernel)⟩
      · exact absurd member (by decide +kernel)
    · exact .inl (if_neg left)

end Config

end AuthServer
