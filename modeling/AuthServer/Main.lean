import AuthServer.Http.Wire
import AuthServer.Log.Console
import AuthServer.Log.Filter
import AuthServer.Program
import AuthServer.Text.Uuid
import Std.Async.Signal
import Std.Async.TCP

/-!
The command line. The settings are environment variables, and the arguments name the files of the
folder of keys. The server runs until it is told to stop.
-/

namespace AuthServer

open Std.Async

structure Console where
  filter : LogFilter
  format : LogFormat

namespace Console

def write (console : Console) (events : List LogEvent) : IO Unit := do
  for event in events do
    if console.filter.shows event then IO.println (console.format.line event)
  (← IO.getStdout).flush

end Console

def clock : IO Instant := do
  let now ← Std.Time.Timestamp.now
  return (Instant.ofNanos? now.toNanosecondsSinceUnixEpoch.val).getD .epoch

def freshId : IO String := do
  return Uuid.ofBytes (← IO.getRandomBytes 16).toList

def arrival (start : Nat) : IO Arrival := do
  return {
    now := ← clock, traceId := ← freshId, freshId := ← freshId
    latency := (← IO.monoMsNow) - start }

def variableNames : List String := [
  "HOST", "PORT", "AUTH_KEYS_FOLDER", "AUTH_ACTIVEKID", "AUTH_ISSUER", "AUTH_TOKEN_TTL_SECS",
  "SHUTDOWN_TIMEOUT_SECS", "READINESS_TIMEOUT_MS", "CORS_ALLOWED_ORIGINS", "SEED_ADMIN_EMAIL",
  "SEED_ADMIN_PASSWORD", "LOG_FORMAT", "RUST_LOG"]

def environment : IO (List (String × String)) := do
  let pairs ← variableNames.mapM fun name => do
    return (← IO.getEnv name).map fun value => (name, value)
  return pairs.filterMap id

/-- The number of a failure, which may come with its sign turned in 32 bits. -/
def failureNumber (code : UInt32) : Int :=
  if code < 0x80000000 then code.toNat else 0x100000000 - code.toNat

def failureOf : IO.Error → IoError
  | .resourceBusy code _ | .resourceVanished code _ | .otherError code _ | .hardwareFault code _
  | .unsupportedOperation code _ | .permissionDenied _ code _ | .timeExpired code _
  | .noFileOrDirectory _ code _ =>
      .system (failureNumber code)
  | error => .described .other error.toString

def keyFiles (folder : String) (names : List String) : IO FileTree := do
  let nodes ← names.mapM fun name => do
    let path := folder ++ "/" ++ name
    let node : FolderNode ←
      try pure (.file (← IO.FS.readBinFile path).toList)
      catch error => pure (.unreadable (failureOf error))
    return (Utf8.encode name, node)
  return ⟨nodes⟩

def listenAt (config : Config) : IO TCP.Socket.Server := do
  let socket ← TCP.Socket.Server.mk
  let port := config.port.toUInt16
  match config.host with
  | .v4 ⟨first, second, third, fourth⟩ =>
      socket.bind (.v4 ⟨.ofParts first second third fourth, port⟩)
  | .v6 groups eight => socket.bind (.v6 ⟨⟨⟨groups.toArray, by simpa using eight⟩⟩, port⟩)
  socket.listen 128
  return socket

partial def converse (console : Console) (server : IO.Ref Server) (client : TCP.Socket.Client)
    (pending : List UInt8) (start : Nat) : Async Unit := do
  match Wire.read pending with
  | .incomplete =>
      match ← client.recv? 65536 with
      | none => return
      | some bytes =>
          let start ← if pending.isEmpty then IO.monoMsNow else pure start
          converse console server client (pending ++ bytes.toList) start
  | .malformed =>
      client.send ⟨(Wire.render (.ofStatus 400)).toArray⟩
      client.shutdown
  | .request request rest =>
      let arrival ← arrival start
      let (response, events) ← server.modifyGet fun server =>
        let (response, later, events) :=
          { server with isConnected := true }.answer arrival request none
        ((response, events), later)
      console.write events
      match response with
      | none => client.shutdown
      | some response =>
          client.send ⟨(Wire.render response).toArray⟩
          converse console server client rest (← IO.monoMsNow)

def judge (console : Console) (server : IO.Ref Server) (error : IO.Error) : IO Unit := do
  let events ← server.modifyGet fun server =>
    let (_, signal, events) := server.signal.escalate (failureOf error)
    (events, { server with signal })
  console.write events

partial def listen (console : Console) (server : IO.Ref Server) (socket : TCP.Socket.Server)
    (interrupt terminate : Signal.Waiter) : Async (Option String) := do
  if (← server.get).signal.triggered then return none
  let next : Option String ⊕ TCP.Socket.Client ← Selectable.one #[
    .case interrupt.selector fun _ => return .inl (some "SIGINT"),
    .case terminate.selector fun _ => return .inl (some "SIGTERM"),
    .case socket.acceptSelector fun client => return .inr client]
  match next with
  | .inl signal => return signal
  | .inr client =>
      background do
        try converse console server client [] 0
        catch error => judge console server error
      listen console server socket interrupt terminate

def run (files : List String) : IO Program.Outcome := do
  let values ← environment
  let value (name : String) : Option String := values.lookup name
  let settings := Config.read value
  let console : Console := ⟨.ofSetting (value "RUST_LOG"), .ofSetting (value "LOG_FORMAT")⟩
  let folder := settings.toOption.elim "" Config.keysFolder
  let surroundings : Surroundings := {
    files := ← keyFiles folder files, keysFolder := [], now := ← clock, freshId := ← freshId }
  let socket : Except IoError (Option TCP.Socket.Server) ←
    match settings with
    | .error _ => pure (.ok none)
    | .ok config =>
        try pure (.ok (some (← listenAt config)))
        catch error => pure (.error (failureOf error))
  let bindFailure := match socket with
    | .error error => some error
    | .ok _ => none
  let (events, server) := Program.start settings surroundings bindFailure
  console.write events
  match server, socket with
  | some server, .ok (some socket) =>
      let shared ← IO.mkRef server
      let signal ← (do
        listen console shared socket (← Signal.Waiter.mk .sigint false)
          (← Signal.Waiter.mk .sigterm false) : Async (Option String)).block
      console.write ((← shared.get).stop signal)
      return .success
  | _, _ => return .failure

end AuthServer

def main (arguments : List String) : IO UInt32 := do
  return (← AuthServer.run arguments).code.toUInt32
