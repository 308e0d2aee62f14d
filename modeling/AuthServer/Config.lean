import AuthServer.IpAddress
import AuthServer.OriginPolicy
import AuthServer.Text.Quoted
import AuthServer.Time.Instant

/-!
Settings, read once from named variables. A variable with a blank value counts as unset; the first
variable that is missing or unreadable, in one fixed order, is the one reported.
-/

namespace AuthServer

inductive LogFormat where
  | json
  | pretty
deriving DecidableEq, Repr

structure SeedAdmin where
  email : String
  password : String
deriving DecidableEq, Repr

structure Config where
  host : IpAddress
  port : Nat
  keysFolder : String
  activeKid : String
  issuer : String
  /-- How long a token lives, in seconds. -/
  tokenLifetime : Nat
  /-- How long a graceful shutdown may take, in seconds. -/
  shutdownTimeout : Nat
  origins : OriginPolicy
  /-- How long a readiness check may take, in milliseconds. -/
  readinessTimeout : Nat
  seedAdmin : Option SeedAdmin
  logFormat : LogFormat
deriving DecidableEq, Repr

inductive ConfigError where
  | missing (key : String)
  | invalid (key value : String)
deriving DecidableEq, Repr

def ConfigError.message : ConfigError → String
  | .missing key => s!"missing configuration: {key}"
  | .invalid key value => s!"invalid configuration: {key}={value}"

def OriginPolicy.ofSetting (value : String) : Except ConfigError OriginPolicy :=
  (OriginPolicy.read value).mapError (.invalid "CORS_ALLOWED_ORIGINS")

def SeedAdmin.redacted (seed : SeedAdmin) : String :=
  "SeedAdmin \x7b email: " ++ Text.quote seed.email ++ ", password: \"<redacted>\" \x7d"

def LogFormat.ofSetting (value : Option String) : LogFormat :=
  if value.map Text.lowerAscii = some "json" then .json else .pretty

namespace Config

def longestTokenLifetime : Nat := 365 * 24 * 60 * 60

/-- The lifetime that a number of seconds stands for. The number comes as an unsigned word of 64
bits and is kept as a signed one. -/
def lifetime? (seconds : Nat) : Option Nat :=
  if 1 ≤ seconds ∧ seconds ≤ longestTokenLifetime then
    (Span.ofSeconds? (Int64.ofNat seconds)).map fun span => span.wholeSeconds.toNat
  else none

def defaultReadinessTimeout : Nat := 1000

/-- The value of a variable, if it is set and not blank. -/
def setting (lookup : String → Option String) (key : String) : Option String :=
  (lookup key).filter fun value => !Text.isBlankText value

def settingOr {α : Type} (lookup : String → Option String) (key : String)
    (read : String → Option α) (default : α) : Except ConfigError α :=
  match setting lookup key with
  | none => .ok default
  | some value =>
      match read (Text.trim value) with
      | some result => .ok result
      | none => .error (.invalid key value)

def settingOrMissing (lookup : String → Option String) (key : String) : Except ConfigError String :=
  (setting lookup key).elim (.error (.missing key)) .ok

def lifetimeOf (seconds : Nat) : Except ConfigError Nat :=
  (lifetime? seconds).elim (.error (.invalid "AUTH_TOKEN_TTL_SECS" (toString seconds))) .ok

def originsOf (value : Option String) : Except ConfigError OriginPolicy :=
  value.elim (.ok .any) OriginPolicy.ofSetting

/-- The seeded account needs both its variables or neither. -/
def seedOf (email password : Option String) : Except ConfigError (Option SeedAdmin) :=
  match email, password with
  | some email, some password => .ok (some ⟨email, password⟩)
  | none, none => .ok none
  | some _, none => .error (.missing "SEED_ADMIN_PASSWORD")
  | none, some _ => .error (.missing "SEED_ADMIN_EMAIL")

def read (lookup : String → Option String) : Except ConfigError Config := do
  let host ← settingOr lookup "HOST" IpAddress.read (.v4 ⟨0, 0, 0, 0⟩)
  let port ← settingOr lookup "PORT" (Text.readNumeralBelow UInt16.size) 3000
  let keysFolder := (setting lookup "AUTH_KEYS_FOLDER").getD "zarf/keys/"
  let activeKid ← settingOrMissing lookup "AUTH_ACTIVEKID"
  let issuer := (setting lookup "AUTH_ISSUER").getD "BackEnd"
  let tokenSeconds ←
    settingOr lookup "AUTH_TOKEN_TTL_SECS" (Text.readNumeralBelow UInt64.size) 3600
  let tokenLifetime ← lifetimeOf tokenSeconds
  let shutdownTimeout ←
    settingOr lookup "SHUTDOWN_TIMEOUT_SECS" (Text.readNumeralBelow UInt64.size) 60
  let readinessTimeout ←
    settingOr lookup "READINESS_TIMEOUT_MS" (Text.readNumeralBelow UInt64.size)
      defaultReadinessTimeout
  let origins ← originsOf (setting lookup "CORS_ALLOWED_ORIGINS")
  let seedAdmin ← seedOf (setting lookup "SEED_ADMIN_EMAIL") (setting lookup "SEED_ADMIN_PASSWORD")
  return {
    host, port, keysFolder, activeKid, issuer, tokenLifetime, shutdownTimeout, origins,
    readinessTimeout, seedAdmin
    logFormat := LogFormat.ofSetting (setting lookup "LOG_FORMAT") }

def bindAddress (config : Config) : String :=
  config.host.withPort config.port

end Config

end AuthServer
