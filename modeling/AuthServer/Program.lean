import AuthServer.Server

/-!
The program around the server: what it says when it starts and when it fails, and how it ends.
-/

namespace AuthServer.Program

def refusal (error : ConfigError) : LogEvent :=
  .plain .error .program "Invalid configuration" [("error", .plain error.message)]

def greeting (config : Config) : LogEvent :=
  .plain .info .program "Starting startupers-api" [
    ("keys_folder", .plain config.keysFolder), ("active_kid", .plain config.activeKid),
    ("issuer", .plain config.issuer)]

def complaint (error : StartupError) : LogEvent :=
  .plain .error .program "Server failed" [("error", .plain error.message)]

inductive Outcome where
  | success
  | failure
deriving DecidableEq, Repr

def Outcome.code : Outcome → Nat
  | .success => 0
  | .failure => 1

def start (settings : Except ConfigError Config) (surroundings : Surroundings)
    (bindFailure : Option IoError) : List LogEvent × Option Server :=
  match settings with
  | .error error => ([refusal error], none)
  | .ok config =>
      let (events, result) := Server.launch config surroundings bindFailure
      match result with
      | .error error => (greeting config :: events ++ [complaint error], none)
      | .ok server => (greeting config :: events, some server)

def idleRun (settings : Except ConfigError Config) (surroundings : Surroundings)
    (bindFailure : Option IoError) (signal : String) : List LogEvent × Outcome :=
  let (events, server) := start settings surroundings bindFailure
  match server with
  | none => (events, .failure)
  | some server => (events ++ server.stop (some signal), .success)

end AuthServer.Program
