import Mathlib.Logic.Function.Basic
import VibeConnect.AgentChannels
import VibeConnect.FrameReaders
import VibeConnect.Python.Tasks
import VibeConnect.TunnelAuthenticator
import VibeConnect.TunnelState

/-! The server's tunnel broker. Its tables are functions from keys; a
connection object is named by its connection id and a stream object by its
connection and channel, so that a table entry or a suspended call can go on
referring to an object after another table has dropped it. The blocks on the
tables come first, then the coroutines that run them between awaits. -/
namespace VibeConnect.TunnelBroker
open Python.Text Python.JsonCodec Python.Values Python.Coroutine Python.Tasks Models TunnelProtocol
open TunnelState TunnelAuthenticator AgentChannels

abbrev ConnectionId := Str

structure BrokerTunnelStream where
  agentId : Uuid
  buffer : Bytes
  closed : Bool
  dataReady : Bool

structure BrokerTunnelConnection where
  agent : AgentTunnelRecord
  channels : TunnelChannelRegistry
  heartbeat : HeartbeatState
  adapters : Finset ChannelId

/-- A frame handed to the writer of a connection. -/
structure Sent where
  connection : ConnectionId
  frame : OutgoingFrame

structure Broker where
  active : Uuid → Option ConnectionId
  connections : Uuid → Option ConnectionId
  channelAgents : ChannelId → Option Uuid
  objects : ConnectionId → Option BrokerTunnelConnection
  streams : ConnectionId → ChannelId → Option BrokerTunnelStream
  wire : List Sent

def Broker.empty : Broker :=
  ⟨fun _ => none, fun _ => none, fun _ => none, fun _ => none, fun _ _ => none, []⟩

structure BrokerConfig where
  maxSessionsPerAgent : Int
  heartbeatSeconds : Int
  maxFrameBytes : Int
  positive : 0 < maxFrameBytes

namespace BrokerTunnelStream

def feedData (payload : Bytes) (stream : BrokerTunnelStream) : BrokerTunnelStream :=
  { stream with buffer := stream.buffer ++ payload, dataReady := true }

def feedEof (stream : BrokerTunnelStream) : BrokerTunnelStream :=
  { stream with closed := true, dataReady := true }

end BrokerTunnelStream

namespace Broker

/-- Follow a reference to a connection object. References are only made to
objects, so the other branch is never taken. -/
def object (broker : Broker) (connectionId : ConnectionId) : Except Exc BrokerTunnelConnection :=
  match broker.objects connectionId with
  | some connection => .ok connection
  | none => .error .otherException

def setObject (broker : Broker) (connectionId : ConnectionId) (connection : BrokerTunnelConnection) :
    Broker :=
  { broker with objects := Function.update broker.objects connectionId (some connection) }

def setStream (broker : Broker) (connectionId : ConnectionId) (channelId : ChannelId)
    (stream : BrokerTunnelStream) : Broker :=
  let streams := Function.update (broker.streams connectionId) channelId (some stream)
  { broker with streams := Function.update broker.streams connectionId streams }

/-- A change of the stream object that `adapters[channel_id]` refers to. -/
def onAdapter (broker : Broker) (connectionId : ConnectionId) (connection : BrokerTunnelConnection)
    (channelId : ChannelId) (change : BrokerTunnelStream → BrokerTunnelStream) : Except Exc Broker :=
  if channelId ∈ connection.adapters then
    match broker.streams connectionId channelId with
    | some stream => .ok (broker.setStream connectionId channelId (change stream))
    | none => .error .otherException
  else .error .keyError

/-- `ActiveTunnelRegistry.connect`. -/
def registryConnect (broker : Broker) (agentId : Uuid) (connectionId : ConnectionId) :
    Except Exc Broker :=
  if (broker.active agentId).any (· ≠ connectionId) then
    .error (.tunnelStateError "duplicate active tunnel")
  else .ok { broker with active := Function.update broker.active agentId (some connectionId) }

/-- `ActiveTunnelRegistry.disconnect`. -/
def registryDisconnect (broker : Broker) (agentId : Uuid) (connectionId : ConnectionId) : Broker :=
  if broker.active agentId = some connectionId then
    { broker with active := Function.update broker.active agentId none }
  else broker

/-- A new connection object, seen now. -/
def newConnection (config : BrokerConfig) (record : AgentTunnelRecord) (connectionId : ConnectionId)
    (seenAt : DateTime) (broker : Broker) : Except Exc Broker := do
  let channels ← TunnelChannelRegistry.new config.maxSessionsPerAgent
  let heartbeat ← HeartbeatState.new config.heartbeatSeconds
  .ok (broker.setObject connectionId ⟨record, channels, heartbeat.markSeen seenAt, ∅⟩)

/-- The registry and the connection map, in one go. -/
def register (agentId : Uuid) (connectionId : ConnectionId) (broker : Broker) : Except Exc Broker := do
  let broker ← broker.registryConnect agentId connectionId
  .ok { broker with connections := Function.update broker.connections agentId (some connectionId) }

def markSeen (connectionId : ConnectionId) (seenAt : DateTime) (broker : Broker) : Except Exc Broker := do
  let connection ← broker.object connectionId
  .ok (broker.setObject connectionId
    { connection with heartbeat := connection.heartbeat.markSeen seenAt })

/-- `_require_connection`. -/
def requireConnection (broker : Broker) (agentId : Uuid) (channelId : ChannelId) :
    Except Exc ConnectionId :=
  if channelId = [] then .error (.tunnelStateError "channel_id is required")
  else match broker.connections agentId with
    | some connectionId => .ok connectionId
    | none => .error (.tunnelStateError "agent tunnel is not connected")

/-- `_require_channel_connection`. The subscript may raise `KeyError`. -/
def requireChannelConnection (broker : Broker) (channelId : ChannelId) : Except Exc ConnectionId :=
  match broker.channelAgents channelId with
  | none => .error (.tunnelStateError "channel is not open")
  | some agentId => match broker.connections agentId with
    | some connectionId => .ok connectionId
    | none => .error .keyError

/-- The connection of a channel that must be open on it. -/
def openConnection (broker : Broker) (channelId : ChannelId) : Except Exc ConnectionId := do
  let connectionId ← broker.requireChannelConnection channelId
  let connection ← broker.object connectionId
  connection.channels.requireOpen channelId
  .ok connectionId

/-- `_retire_channel`. -/
def retireChannel (connectionId : ConnectionId) (channelId : ChannelId) (broker : Broker) :
    Except Exc Broker := do
  let connection ← broker.object connectionId
  let channels ← applyChannelFrame connection.channels .CLOSE_SESSION (some channelId)
  let broker := broker.setObject connectionId
    { connection with channels := channels, adapters := connection.adapters.erase channelId }
  .ok { broker with channelAgents := Function.update broker.channelAgents channelId none }

/-- `_drop_connection`: only the connection that still owns the slot is taken
out, with EOF for its streams; the registry is left by its own id either way. -/
def dropConnection (agentId : Uuid) (connectionId : ConnectionId) (broker : Broker) : Broker :=
  match broker.connections agentId with
  | some current =>
      if current ≠ connectionId then broker.registryDisconnect agentId connectionId
      else
        let adapters := match broker.objects current with
          | some connection => connection.adapters
          | none => ∅
        let dropped := { broker with
          connections := Function.update broker.connections agentId none
          streams := Function.update broker.streams current fun channelId =>
            if channelId ∈ adapters then (broker.streams current channelId).map BrokerTunnelStream.feedEof
            else broker.streams current channelId
          channelAgents := fun channelId =>
            if channelId ∈ adapters then none else broker.channelAgents channelId }
        dropped.registryDisconnect agentId connectionId
  | none => broker.registryDisconnect agentId connectionId

/-- `_handle_agent_frame`. -/
def handleAgentFrame (connectionId : ConnectionId) (decoded : DecodedTunnelFrame) (broker : Broker) :
    Except Exc Broker :=
  match decoded.frame.type, decoded.frame.channelId with
  | .HEARTBEAT, _ => .ok broker
  | .SESSION_DATA, none | .CLOSE_SESSION, none => .error (.tunnelStateError "channel_id is required")
  | .SESSION_DATA, some channelId => do
      let connection ← broker.object connectionId
      connection.channels.requireOpen channelId
      broker.onAdapter connectionId connection channelId (·.feedData decoded.payload)
  | .CLOSE_SESSION, some channelId => do
      let connection ← broker.object connectionId
      connection.channels.requireOpen channelId
      let broker ← broker.onAdapter connectionId connection channelId (·.feedEof)
      broker.retireChannel connectionId channelId
  | _, _ => .error (.tunnelProtocolError "agent frame type is not accepted")

/-- The tables' part of `open_session`, up to the frame it sends. -/
def openChannel (agentId : Uuid) (channelId : ChannelId) (nodeSshHostPublicKey username : Str)
    (certificateUsername : Str) (now : DateTime) (broker : Broker) :
    Except Exc (Broker × ConnectionId) := do
  if certificateUsername ≠ username then
    .error (.tunnelStateError "user certificate principal mismatch")
  else if nodeSshHostPublicKey = [] then
    .error (.tunnelStateError "node sshd host key is not pinned")
  else do
    let connectionId ← broker.requireConnection agentId channelId
    let connection ← broker.object connectionId
    if ¬connection.heartbeat.allowsNewJump now then
      .error (.tunnelStateError "agent heartbeat is stale")
    else do
      let channels ← applyChannelFrame connection.channels .OPEN_SESSION (some channelId)
      let broker := broker.setObject connectionId
        { connection with channels := channels, adapters := insert channelId connection.adapters }
      let broker := broker.setStream connectionId channelId ⟨agentId, [], false, false⟩
      .ok ({ broker with channelAgents := Function.update broker.channelAgents channelId (some agentId) },
        connectionId)

/-- `connector_for_agent`: the stream object of an open channel. -/
def connectorForAgent (broker : Broker) (agentId : Uuid) (channelId : ChannelId) :
    Except Exc (ConnectionId × ChannelId) := do
  let connectionId ← broker.requireConnection agentId channelId
  let connection ← broker.object connectionId
  if channelId ∈ connection.adapters then .ok (connectionId, channelId)
  else .error (.tunnelStateError "channel is not open")

/-! What each block can do, said once. -/
section Specs
variable {broker after : Broker} {connectionId : ConnectionId} {channelId : ChannelId} {agentId : Uuid}

theorem object_ok {connection : BrokerTunnelConnection} :
    broker.object connectionId = .ok connection ↔ broker.objects connectionId = some connection := by
  unfold object
  cases broker.objects connectionId <;> simp

theorem newConnection_ok {config : BrokerConfig} {record : AgentTunnelRecord} {seenAt : DateTime}
    (created : newConnection config record connectionId seenAt broker = .ok after) :
    ∃ connection, after = broker.setObject connectionId connection ∧ connection.agent = record ∧
      connection.channels.openChannels = ∅ ∧ connection.channels.retiredChannels = ∅ ∧
      connection.channels.maxSessions = config.maxSessionsPerAgent ∧ connection.adapters = ∅ := by
  obtain ⟨channels, limited, created⟩ := bind_ok.mp created
  obtain ⟨heartbeat, -, created⟩ := bind_ok.mp created
  unfold TunnelChannelRegistry.new at limited
  split at limited
  · cases limited
    cases created
    exact ⟨_, rfl, rfl, rfl, rfl, rfl, rfl⟩
  · cases limited

theorem register_ok (registered : register agentId connectionId broker = .ok after) :
    (∀ current, broker.active agentId = some current → current = connectionId) ∧
      after = { broker with
        active := Function.update broker.active agentId (some connectionId)
        connections := Function.update broker.connections agentId (some connectionId) } := by
  obtain ⟨middle, connected, registered⟩ := bind_ok.mp registered
  unfold registryConnect at connected
  split at connected
  · cases connected
  rename_i free
  cases connected
  cases registered
  refine ⟨fun current held => ?_, rfl⟩
  rw [held] at free
  simpa using free

theorem markSeen_ok {seenAt : DateTime} (marked : markSeen connectionId seenAt broker = .ok after) :
    ∃ connection, broker.objects connectionId = some connection ∧ after = broker.setObject connectionId
      { connection with heartbeat := connection.heartbeat.markSeen seenAt } := by
  obtain ⟨connection, found, marked⟩ := bind_ok.mp marked
  cases marked
  exact ⟨connection, object_ok.mp found, rfl⟩

theorem onAdapter_ok {connection : BrokerTunnelConnection} {change : BrokerTunnelStream → BrokerTunnelStream}
    (changed : broker.onAdapter connectionId connection channelId change = .ok after) :
    ∃ stream, channelId ∈ connection.adapters ∧ broker.streams connectionId channelId = some stream ∧
      after = broker.setStream connectionId channelId (change stream) := by
  unfold onAdapter at changed
  split at changed
  · rename_i attached
    split at changed
    · rename_i stream found
      cases changed
      exact ⟨stream, attached, found, rfl⟩
    · cases changed
  · cases changed

/-- The broker after a channel of a connection was retired. -/
def retired (broker : Broker) (connectionId : ConnectionId) (connection : BrokerTunnelConnection)
    (channels : TunnelChannelRegistry) (channelId : ChannelId) : Broker :=
  { broker.setObject connectionId
      { connection with channels := channels, adapters := connection.adapters.erase channelId } with
    channelAgents := Function.update broker.channelAgents channelId none }

theorem retireChannel_ok (closed : retireChannel connectionId channelId broker = .ok after) :
    ∃ connection channels, broker.objects connectionId = some connection ∧
      connection.channels.closeChannel channelId = .ok channels ∧
      after = broker.retired connectionId connection channels channelId := by
  obtain ⟨connection, found, closed⟩ := bind_ok.mp closed
  obtain ⟨channels, applied, closed⟩ := bind_ok.mp closed
  obtain ⟨_, -, applied⟩ := bind_ok.mp applied
  cases closed
  exact ⟨connection, channels, object_ok.mp found, applied, rfl⟩

/-- The three ways an agent's frame is accepted. -/
theorem handleAgentFrame_ok {decoded : DecodedTunnelFrame}
    (handled : handleAgentFrame connectionId decoded broker = .ok after) :
    after = broker ∨
    (∃ channelId connection stream, decoded.frame.channelId = some channelId ∧
      broker.objects connectionId = some connection ∧
      channelId ∈ connection.channels.openChannels ∧ channelId ∈ connection.adapters ∧
      broker.streams connectionId channelId = some stream ∧
      after = broker.setStream connectionId channelId (stream.feedData decoded.payload)) ∨
    (∃ channelId connection channels stream, decoded.frame.channelId = some channelId ∧
      broker.objects connectionId = some connection ∧
      connection.channels.closeChannel channelId = .ok channels ∧
      broker.streams connectionId channelId = some stream ∧
      after = (broker.setStream connectionId channelId stream.feedEof).retired connectionId connection
        channels channelId) := by
  unfold handleAgentFrame at handled
  split at handled
  · cases handled
    exact .inl rfl
  · cases handled
  · cases handled
  · rename_i channelId _ named
    obtain ⟨connection, found, handled⟩ := bind_ok.mp handled
    obtain ⟨_, isOpen, handled⟩ := bind_ok.mp handled
    obtain ⟨stream, attached, streams, same⟩ := onAdapter_ok handled
    exact .inr (.inl ⟨channelId, connection, stream, named, object_ok.mp found,
      TunnelChannelRegistry.requireOpen_ok.mp isOpen, attached, streams, same⟩)
  · rename_i channelId _ named
    obtain ⟨connection, found, handled⟩ := bind_ok.mp handled
    obtain ⟨_, isOpen, handled⟩ := bind_ok.mp handled
    obtain ⟨middle, fed, handled⟩ := bind_ok.mp handled
    obtain ⟨stream, attached, streams, same⟩ := onAdapter_ok fed
    subst same
    obtain ⟨other, channels, foundAgain, closed, last⟩ := retireChannel_ok handled
    have unmoved : broker.objects connectionId = some other := foundAgain
    cases (object_ok.mp found).symm.trans unmoved
    exact .inr (.inr ⟨channelId, connection, channels, stream, named, object_ok.mp found, closed,
      streams, last⟩)
  · cases handled

theorem requireConnection_ok (required : broker.requireConnection agentId channelId = .ok connectionId) :
    broker.connections agentId = some connectionId := by
  unfold requireConnection at required
  split at required
  · cases required
  split at required
  · cases required
    assumption
  · cases required

theorem openConnection_ok (opened : broker.openConnection channelId = .ok connectionId) :
    ∃ agentId connection, broker.channelAgents channelId = some agentId ∧
      broker.connections agentId = some connectionId ∧
      broker.objects connectionId = some connection ∧
      channelId ∈ connection.channels.openChannels := by
  obtain ⟨found, required, opened⟩ := bind_ok.mp opened
  obtain ⟨connection, object, opened⟩ := bind_ok.mp opened
  obtain ⟨_, isOpen, opened⟩ := bind_ok.mp opened
  cases opened
  unfold requireChannelConnection at required
  split at required
  · cases required
  rename_i agentId mapped
  split at required
  · cases required
    rename_i held
    exact ⟨agentId, connection, mapped, held, object_ok.mp object,
      TunnelChannelRegistry.requireOpen_ok.mp isOpen⟩
  · cases required

/-- The broker after a channel was opened on a connection. -/
def opened (broker : Broker) (connectionId : ConnectionId) (connection : BrokerTunnelConnection)
    (channels : TunnelChannelRegistry) (channelId : ChannelId) (agentId : Uuid) : Broker :=
  { (broker.setObject connectionId
      { connection with
        channels := channels, adapters := insert channelId connection.adapters }).setStream
        connectionId channelId ⟨agentId, [], false, false⟩ with
    channelAgents := Function.update broker.channelAgents channelId (some agentId) }

theorem openChannel_ok {hostKey username certificateUsername : Str} {now : DateTime}
    (done : openChannel agentId channelId hostKey username certificateUsername now broker =
      .ok (after, connectionId)) :
    ∃ connection channels, broker.connections agentId = some connectionId ∧
      broker.objects connectionId = some connection ∧
      connection.heartbeat.allowsNewJump now = true ∧
      connection.channels.openChannel channelId = .ok channels ∧
      after = broker.opened connectionId connection channels channelId agentId := by
  unfold openChannel at done
  split at done
  · cases done
  split at done
  · cases done
  obtain ⟨found, required, done⟩ := bind_ok.mp done
  obtain ⟨connection, object, done⟩ := bind_ok.mp done
  split at done
  · cases done
  rename_i fresh
  obtain ⟨channels, applied, done⟩ := bind_ok.mp done
  cases done
  exact ⟨connection, channels, requireConnection_ok required, object_ok.mp object,
    not_not.mp fresh, applied, rfl⟩

/-- A channel that was just opened is open on its connection. -/
theorem openChannel_isOpen {hostKey username certificateUsername : Str} {now : DateTime}
    (done : openChannel agentId channelId hostKey username certificateUsername now broker =
      .ok (after, connectionId)) : after.openConnection channelId = .ok connectionId := by
  obtain ⟨connection, channels, held, object, -, added, rfl⟩ := openChannel_ok done
  have member : channelId ∈ channels.openChannels := by
    rw [(TunnelChannelRegistry.openChannel_ok added).2.1]
    exact Finset.mem_insert_self _ _
  have mapped : (broker.opened connectionId connection channels channelId agentId).channelAgents
      channelId = some agentId := Function.update_self ..
  have required : (broker.opened connectionId connection channels channelId
      agentId).requireChannelConnection channelId = .ok connectionId := by
    unfold requireChannelConnection
    rw [mapped]
    dsimp only
    rw [show (broker.opened connectionId connection channels channelId agentId).connections agentId =
      some connectionId from held]
  have placed : (broker.opened connectionId connection channels channelId agentId).object
      connectionId = .ok { connection with
        channels := channels, adapters := insert channelId connection.adapters } :=
    object_ok.mpr (Function.update_self ..)
  refine bind_ok.mpr ⟨connectionId, required, bind_ok.mpr ⟨_, placed, bind_ok.mpr ⟨(), ?_, rfl⟩⟩⟩
  exact TunnelChannelRegistry.requireOpen_ok.mpr member

/-- Leaving the registry only ever takes the id's own entry out. -/
theorem registryDisconnect_eq (broker : Broker) (agentId : Uuid) (connectionId : ConnectionId) :
    broker.registryDisconnect agentId connectionId = { broker with
      active := fun other => if other = agentId ∧ broker.active other = some connectionId then none
        else broker.active other } := by
  unfold registryDisconnect
  by_cases owns : broker.active agentId = some connectionId
  · rw [if_pos owns]
    congr 1
    funext other
    by_cases same : other = agentId
    · rw [same, Function.update_self, if_pos ⟨rfl, owns⟩]
    · rw [Function.update_of_ne same, if_neg fun both => same both.1]
  · rw [if_neg owns]
    have unchanged : broker.active = fun other =>
        if other = agentId ∧ broker.active other = some connectionId then none
        else broker.active other := by
      funext other
      by_cases both : other = agentId ∧ broker.active other = some connectionId
      · exact absurd (both.1 ▸ both.2) owns
      · rw [if_neg both]
    rw [← unchanged]

/-- A connection that does not own the slot only leaves the registry. -/
theorem dropConnection_apart (apart : broker.connections agentId ≠ some connectionId) :
    broker.dropConnection agentId connectionId = broker.registryDisconnect agentId connectionId := by
  unfold dropConnection
  cases held : broker.connections agentId with
  | none => rfl
  | some current =>
      have differs : current ≠ connectionId := fun same => apart (same ▸ held)
      exact if_pos differs

/-- The broker after a connection that owned its slot was dropped. -/
def dropped (broker : Broker) (agentId : Uuid) (connectionId : ConnectionId)
    (connection : BrokerTunnelConnection) : Broker :=
  { broker with
    connections := Function.update broker.connections agentId none
    streams := Function.update broker.streams connectionId fun channelId =>
      if channelId ∈ connection.adapters then
        (broker.streams connectionId channelId).map BrokerTunnelStream.feedEof
      else broker.streams connectionId channelId
    channelAgents := fun channelId =>
      if channelId ∈ connection.adapters then none else broker.channelAgents channelId }

theorem dropConnection_own {connection : BrokerTunnelConnection}
    (owns : broker.connections agentId = some connectionId)
    (object : broker.objects connectionId = some connection) :
    broker.dropConnection agentId connectionId =
      (broker.dropped agentId connectionId connection).registryDisconnect agentId connectionId := by
  unfold dropConnection
  rw [owns]
  dsimp only
  rw [if_neg (not_not.mpr rfl), object]
  rfl

/-- Dropping takes its own connection out of the map and no other. -/
theorem dropConnection_connections (broker : Broker) (agentId : Uuid) (connectionId : ConnectionId)
    {other : Uuid} {held : ConnectionId}
    (kept : (broker.dropConnection agentId connectionId).connections other = some held) :
    broker.connections other = some held := by
  unfold dropConnection at kept
  split at kept
  · split at kept
    · rw [registryDisconnect_eq] at kept
      exact kept
    · rw [registryDisconnect_eq] at kept
      by_cases same : other = agentId
      · subst same
        have gone : (none : Option ConnectionId) = some held :=
          (Function.update_self other none broker.connections).symm.trans kept
        cases gone
      · exact (Function.update_of_ne same none broker.connections).symm.trans kept
  · rw [registryDisconnect_eq] at kept
    exact kept
end Specs

end Broker

/-- What a read of a stream returned, and what it left of the stream. -/
structure StreamRead where
  data : Bytes
  closed : Bool
  left : Bytes

/-! Coroutines. The world they run in holds the broker, the clock, the stored
agent rows, the reads of each stream, and the agents' ends of the connections. A
link is what one end has written beside what the other has read of it; `crossed`
says that an agent's data met the closing of its channel on a link. -/
structure TunnelWorld where
  broker : Broker
  clock : DateTime
  agents : Uuid → Option AgentTunnelRecord
  reads : ConnectionId → ChannelId → List StreamRead
  received : ConnectionId → List OutgoingFrame
  handled : ConnectionId → List OutgoingFrame
  agentSide : ConnectionId → AgentSide
  crossed : Bool

/-- What the coroutines of the tunnel wait for. -/
inductive TunnelCall where
  | readexactly (count : Nat)
  | readFrame
  | getAgent (agentId : Uuid)
  | updateLastSeen (agentId : Uuid) (now : DateTime)
  | drain
  | waitClosed
  | dataReady
  | connectLocal
  | sleep
  | localRead (number count : Nat)
  | localDrain (number : Nat)
  | joinForwarder (number : Nat)
  | localWaitClosed (number : Nat)
  | never

abbrev TunnelResult : TunnelCall → Type
  | .readexactly _ => Bytes
  | .readFrame => Option DecodedTunnelFrame
  | .getAgent _ => Option AgentTunnelRecord
  | .localRead _ _ => Bytes
  | _ => Unit

abbrev TunnelTask := Task TunnelWorld TunnelResult Exc

def wait (call : TunnelCall) : TunnelTask (TunnelResult call) := await call

def TunnelWorld.onBroker (world : TunnelWorld) (broker : Broker) : TunnelWorld :=
  { world with broker := broker }

/-- `writer.write(encode_frame(...))` on the writer of a connection. -/
def TunnelWorld.send (world : TunnelWorld) (connectionId : ConnectionId) (frame : OutgoingFrame) :
    TunnelWorld :=
  { world with broker := { world.broker with wire := world.broker.wire ++ [⟨connectionId, frame⟩] } }

section Coroutines
variable (library : Library) (config : BrokerConfig)

/-- A block on the broker that raises without a change or succeeds. -/
def onBroker (block : Broker → Except Exc Broker) : TunnelTask Unit :=
  attempt fun world => do
    let broker ← block world.broker
    .ok (world.onBroker broker)

/-- `_write_frame`. -/
def writeFrame (connectionId : ConnectionId) (frame : OutgoingFrame) (maxFrameBytes : Int) :
    TunnelTask Unit := do
  attempt fun world => do
    let _ ← frame.encode library.json maxFrameBytes
    .ok (world.send connectionId frame)
  wait .drain

/-- `_best_effort_error`. -/
def bestEffortError (connectionId : ConnectionId) (requestId : Str) : TunnelTask Unit :=
  tryCatch (writeFrame library connectionId ⟨.ERROR, requestId, none, []⟩ (1024 * 1024)) fun raised =>
    if raised.isException then pure () else throw raised

/-- The two `except` clauses of `handle_stream`. -/
def streamFault (connectionId : ConnectionId) (errorRequestId : Str) : Exc → TunnelTask Unit
  | .eofError | .incompleteReadError _ | .timeoutError => pure ()
  | .tunnelAuthError _ | .tunnelProtocolError _ | .tunnelStateError _ =>
      bestEffortError library connectionId errorRequestId
  | raised => throw raised

/-- The `finally` clause of `handle_stream`. -/
def streamCleanup (authenticated : Option AgentTunnelRecord) (connectionId : ConnectionId) :
    TunnelTask Unit := do
  match authenticated with
  | some record => onBroker fun broker => .ok (broker.dropConnection record.agentId connectionId)
  | none => pure ()
  wait .waitClosed

/-- The `try` statement of `handle_stream` around what is left of its body. -/
def guarded (authenticated : Option AgentTunnelRecord) (connectionId : ConnectionId)
    (errorRequestId : Str) (body : TunnelTask Unit) : TunnelTask Unit :=
  Coro.finallyDo (tryCatch body (streamFault library connectionId errorRequestId))
    (streamCleanup authenticated connectionId)

/-- `TunnelAuthenticator.authenticate`. -/
def authenticate (request : TunnelAuthRequest) (now : DateTime) : TunnelTask AgentTunnelRecord := do
  let row ← wait (.getAgent request.agentId)
  Coro.ofAnswer (checkRecord library request row now)

/-- `handle_stream` up to the authenticated row. -/
def admission (readOneFrame : TunnelTask DecodedTunnelFrame) (peer : PeerCertificateBinding)
    (now : Option DateTime) : TunnelTask (DecodedTunnelFrame × AgentTunnelRecord) := do
  let first ← readOneFrame
  if first.frame.type ≠ .AUTH then throw (.tunnelAuthError "tunnel must start with auth")
  else
    let request ← Coro.ofAnswer (decodeAuthPayload library first.payload)
    Coro.ofAnswer (verifyPeerCertificateBinding request peer)
    let world ← look
    let record ← authenticate library request (now.getD world.clock)
    pure (first, record)

/-- One turn of the dispatch loop. -/
def dispatchOne (readOneFrame : TunnelTask DecodedTunnelFrame) (connectionId : ConnectionId)
    (agentId : Uuid) : TunnelTask Unit := do
  let decoded ← readOneFrame
  let world ← look
  onBroker (Broker.markSeen connectionId world.clock)
  wait (.updateLastSeen agentId world.clock)
  onBroker (Broker.handleAgentFrame connectionId decoded)

/-- `handle_stream` from the authenticated row on. -/
def serve (readOneFrame : TunnelTask DecodedTunnelFrame) (connectionId : ConnectionId)
    (first : DecodedTunnelFrame) (record : AgentTunnelRecord) (turns : Nat) : TunnelTask Unit := do
  let world ← look
  onBroker (Broker.newConnection config record connectionId world.clock)
  wait (.updateLastSeen record.agentId world.clock)
  onBroker (Broker.register record.agentId connectionId)
  writeFrame library connectionId ⟨.AUTH_OK, first.frame.requestId, none, []⟩ config.maxFrameBytes
  forever (wait .never) (dispatchOne readOneFrame connectionId record.agentId) turns

def handleStream (readOneFrame : TunnelTask DecodedTunnelFrame) (peer : PeerCertificateBinding)
    (now : Option DateTime) (connectionId : ConnectionId) (errorRequestId : Str) (turns : Nat) :
    TunnelTask Unit := do
  match ← Coro.outcome (admission library readOneFrame peer now) with
  | .error raised => guarded library none connectionId errorRequestId (throw raised)
  | .ok (first, record) =>
      guarded library (some record) connectionId errorRequestId
        (serve library config readOneFrame connectionId first record turns)

/-- The server's reader on the connection's own stream. -/
def readStream : TunnelTask DecodedTunnelFrame :=
  FrameReaders.Server.readOneFrame library.json (fun count => wait (.readexactly count))
    config.maxFrameBytes

def openSession (agentId : Uuid) (channelId : ChannelId) (nodeName nodeSshHostPublicKey username : Str)
    (certificateUsername requestId : Str) : TunnelTask Unit := do
  let world ← look
  let (broker, connectionId) ← Coro.ofAnswer (world.broker.openChannel agentId channelId
    nodeSshHostPublicKey username certificateUsername world.clock)
  update fun world => world.onBroker broker
  let payload := library.json.dumps
    (.object [(lit "node_name", .str nodeName), (lit "username", .str username)])
  match encode payload with
  | none => throw .unicodeEncodeError
  | some payload =>
      writeFrame library connectionId ⟨.OPEN_SESSION, requestId, some channelId, payload⟩
        config.maxFrameBytes

def sendData (channelId : ChannelId) (payload : Bytes) (requestId : Str) : TunnelTask Unit := do
  let world ← look
  let connectionId ← Coro.ofAnswer (world.broker.openConnection channelId)
  writeFrame library connectionId ⟨.SESSION_DATA, requestId, some channelId, payload⟩
    config.maxFrameBytes

def resizePty (channelId : ChannelId) (width height : Int) (requestId : Str) : TunnelTask Unit := do
  let world ← look
  let connectionId ← Coro.ofAnswer (world.broker.openConnection channelId)
  match encode (library.json.dumps (.object [(lit "width", .int width), (lit "height", .int height)])) with
  | none => throw .unicodeEncodeError
  | some payload =>
      writeFrame library connectionId ⟨.RESIZE_PTY, requestId, some channelId, payload⟩
        config.maxFrameBytes

def closeSession (channelId : ChannelId) (requestId : Str) : TunnelTask Unit := do
  let world ← look
  let connectionId ← Coro.ofAnswer (world.broker.openConnection channelId)
  writeFrame library connectionId ⟨.CLOSE_SESSION, requestId, some channelId, []⟩ config.maxFrameBytes
  onBroker (Broker.retireChannel connectionId channelId)

def connectorForAgent (agentId : Uuid) (channelId : ChannelId) : TunnelTask (ConnectionId × ChannelId) := do
  let world ← look
  Coro.ofAnswer (world.broker.connectorForAgent agentId channelId)
end Coroutines

end VibeConnect.TunnelBroker
