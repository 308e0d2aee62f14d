import AuthServer.Listener

/-!
Connections as the two sides see them: what one side writes the other reads, each side may end while
the other goes on, and the listener hands out connections in the order in which clients made them.
-/

namespace AuthServer

structure Side where
  inbox : List UInt8
  isOpen : Bool
  isWriting : Bool
  /-- Whether what this side wrote was lost unread. -/
  isReset : Bool
deriving DecidableEq, Repr

namespace Side

def fresh : Side := ⟨[], true, true, false⟩

/-- Write to the other side, which cannot be done once either side has ended. -/
def write (side other : Side) (bytes : List UInt8) : Except IoErrorKind Side :=
  if side.isWriting && other.isOpen then .ok { other with inbox := other.inbox ++ bytes }
  else .error .brokenPipe

/-- Read some bytes at most. What was lost unread on the other side is reported once, after
everything else. -/
def read (side : Side) (count : Nat) : Except IoErrorKind (List UInt8) × Side :=
  if side.inbox.isEmpty && side.isReset && 0 < count then
    (.error .connectionReset, { side with isReset := false })
  else (.ok (side.inbox.take count), { side with inbox := side.inbox.drop count })

def leave (side other : Side) : Side × Side :=
  ({ side with isOpen := false, isWriting := false, inbox := [] },
    { other with isReset := other.isReset || (side.isOpen && !side.inbox.isEmpty) })

end Side

structure Connection where
  server : Side
  client : Side
deriving DecidableEq, Repr

namespace Connection

def fresh : Connection := ⟨.fresh, .fresh⟩

def dropClient (connection : Connection) : Connection :=
  let (client, server) := connection.client.leave connection.server
  ⟨server, client⟩

def dropServer (connection : Connection) : Connection :=
  let (server, client) := connection.server.leave connection.client
  ⟨server, client⟩

end Connection

/-- A listener with the connections that were made to it. The newest client and the newest accepted
connection need not belong together: a connection that was not accepted waits for its turn. -/
structure Transport where
  signal : Shutdown
  failures : List IoError
  connections : List Connection
  accepted : Nat
  serverPlace : Option Nat
  clientPlace : Option Nat
  writeFault : Option IoError
deriving DecidableEq, Repr

namespace Transport

def idle : Transport := ⟨.idle, [], [], 0, none, none, none⟩

def at? (transport : Transport) (place : Option Nat) : Option Connection :=
  place.bind fun place => transport.connections[place]?

def change (transport : Transport) (place : Option Nat) (change : Connection → Connection) :
    Transport :=
  match place with
  | none => transport
  | some place => { transport with connections := transport.connections.modify place change }

def closeClient (transport : Transport) : Transport :=
  { transport.change transport.clientPlace Connection.dropClient with clientPlace := none }

def closeServer (transport : Transport) : Transport :=
  { transport.change transport.serverPlace Connection.dropServer with serverPlace := none }

/-- Let a client connect and the server accept, before which the listener reports failures. If the
server does not accept, the client leaves. What kept the server from writing is over. -/
def accept (transport : Transport) (failures : List IoError) :
    Bool × Transport × List LogEvent :=
  let transport := transport.closeClient.closeServer
  let acceptance := transport.signal.accept (transport.failures ++ failures)
  let transport := { transport with
    signal := acceptance.signal
    failures := acceptance.ahead
    connections := transport.connections ++ [Connection.fresh]
    clientPlace := some transport.connections.length
    writeFault := none }
  if acceptance.isAccepted then
    (true, { transport with
      serverPlace := some transport.accepted, accepted := transport.accepted + 1 },
      acceptance.events)
  else (false, transport.closeClient, acceptance.events)

def write (transport : Transport) (bytes : List UInt8) :
    Option (Except IoErrorKind Nat) × Transport × List LogEvent :=
  match transport.at? transport.serverPlace, transport.writeFault with
  | none, _ => (none, transport, [])
  | some _, some error =>
      let (_, signal, events) := transport.signal.escalate error
      (some (.error error.kind), { transport with signal }, events)
  | some connection, none =>
      match connection.server.write connection.client bytes with
      | .ok client =>
          (some (.ok bytes.length),
            transport.change transport.serverPlace fun connection => { connection with client },
            [])
      | .error kind =>
          let (_, signal, events) := transport.signal.escalate (.simple kind)
          (some (.error kind), { transport with signal }, events)

def read (transport : Transport) (count : Nat) :
    Option (Except IoErrorKind (List UInt8)) × Transport :=
  match transport.at? transport.serverPlace with
  | none => (none, transport)
  | some connection =>
      let (result, server) := connection.server.read count
      (some result,
        transport.change transport.serverPlace fun connection => { connection with server })

def finish (transport : Transport) : Transport :=
  transport.change transport.serverPlace fun connection =>
    { connection with server := { connection.server with isWriting := false } }

def clientWrite (transport : Transport) (bytes : List UInt8) :
    Option (Except IoErrorKind Nat) × Transport :=
  match transport.at? transport.clientPlace with
  | none => (none, transport)
  | some connection =>
      match connection.client.write connection.server bytes with
      | .error kind => (some (.error kind), transport)
      | .ok server =>
          (some (.ok bytes.length),
            transport.change transport.clientPlace fun connection => { connection with server })

def clientRead (transport : Transport) (count : Nat) :
    Option (Except IoErrorKind (List UInt8)) × Transport :=
  match transport.at? transport.clientPlace with
  | none => (none, transport)
  | some connection =>
      let (result, client) := connection.client.read count
      (some result,
        transport.change transport.clientPlace fun connection => { connection with client })

end Transport

end AuthServer
