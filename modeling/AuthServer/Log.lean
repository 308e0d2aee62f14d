/-!
Log events: what is written down about the server's work, for people and for machines. Events for
debugging are left out: that a request began, that a caller or a token was verified, that a client
went away, that a file was passed over, and where a crash came from.
-/

namespace AuthServer

/-- The levels above debugging. -/
inductive LogLevel where
  | error
  | warn
  | info
deriving DecidableEq, Repr

def LogLevel.text : LogLevel → String
  | .error => "ERROR"
  | .warn => "WARN"
  | .info => "INFO"

inductive LogSource where
  | program
  | server
  | shutdown
  | keys
  | origins
  | requests
  | accounts
  | tokens
  | probes
deriving DecidableEq, Repr

def LogSource.name : LogSource → String
  | .program => "startupers_api"
  | .server => "startupers_api::server"
  | .shutdown => "startupers_api::shutdown"
  | .keys => "startupers_api::auth::keys"
  | .origins => "startupers_api::api"
  | .requests => "startupers_api::pipeline::logging"
  | .accounts => "startupers_api::api::users"
  | .tokens => "startupers_api::api::auth"
  | .probes => "startupers_api::api::health"

inductive LogValue where
  | number (value : Int)
  | plain (text : String)
  | quoted (text : String)
deriving DecidableEq, Repr

structure LogSpan where
  traceId : String
  method : String
  path : String
deriving DecidableEq, Repr

structure LogEvent where
  level : LogLevel
  source : LogSource
  message : String
  fields : List (String × LogValue)
  span : Option LogSpan
deriving DecidableEq, Repr

def LogEvent.plain (level : LogLevel) (source : LogSource) (message : String)
    (fields : List (String × LogValue)) : LogEvent :=
  { level, source, message, fields, span := none }

end AuthServer
