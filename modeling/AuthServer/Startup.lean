import AuthServer.Config
import AuthServer.Keys.Folder
import AuthServer.Service

/-!
Starting the service: its keys are loaded from their folder, and the first account is made if the
settings name one.
-/

namespace AuthServer

inductive StartupError where
  | keys (error : KeyError)
  | seed (error : DirectoryError)
  | bind (address : String) (error : IoError)
  | serve (error : IoError)
  | task (reason : String)
deriving DecidableEq, Repr

namespace StartupError

def cause : StartupError → Option String
  | .keys error => some error.message
  | .seed error => some error.message
  | .bind _ error | .serve error => some error.message
  | .task _ => none

def message : StartupError → String
  | .keys error => s!"failed to load signing keys: {error.message}"
  | .seed error => s!"failed to seed admin account: {error.message}"
  | .bind address error => s!"failed to bind {address}: {error.message}"
  | .serve error => s!"server error: {error.message}"
  | .task reason => s!"server task failed: {reason}"

end StartupError

structure Surroundings where
  files : FileTree
  keysFolder : List UInt8
  now : Instant
  freshId : String

namespace SeedAdmin

def account (seed : SeedAdmin) : NewUser where
  name := "admin"
  email := seed.email
  password := seed.password
  roles := .ofList [.admin, .user]

def plant (seed : SeedAdmin) (directory : Directory) (id : String) (now : Instant) :
    Except DirectoryError (Directory × List LogEvent) :=
  (directory.register seed.account id now).map fun (user, directory) =>
    (directory, [.plain .info .server "Seeded admin account"
      [("user_id", .plain user.id), ("email", .plain user.email)]])

end SeedAdmin

namespace Service

def ofConfig (config : Config) (keys : KeyStore) : Service where
  authenticator := ⟨keys, config.issuer, .ofSeconds config.tokenLifetime⟩
  availability := .available
  readiness := .ready
  readinessTimeout := config.readinessTimeout

def start (config : Config) (surroundings : Surroundings) :
    List LogEvent × Except StartupError (Service × State) :=
  match KeyFolder.load surroundings.files surroundings.keysFolder config.keysFolder
      config.activeKid with
  | .error error => ([], .error (.keys error))
  | .ok (keys, loaded) =>
      let service := ofConfig config keys
      match config.seedAdmin with
      | none => (loaded, .ok (service, .empty))
      | some seed =>
          match seed.plant .empty surroundings.freshId surroundings.now with
          | .error error => (loaded, .error (.seed error))
          | .ok (directory, seeded) =>
              (loaded ++ seeded, .ok (service, { State.empty with directory }))

end Service

end AuthServer
