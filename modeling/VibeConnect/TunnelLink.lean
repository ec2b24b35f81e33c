import VibeConnect.AgentIsolation
import VibeConnect.BrokerCalls

/-! One agent's tunnel from end to end: the server's dispatch loop, the calls of
the jump code and the streams it reads, the agent's loop and forwarders, and
between the two ends two links that lose and reorder nothing. The links carry
frames, as `stream_round_trip` allows: whatever the chunks, both readers give
back the frames that were encoded. -/
namespace VibeConnect.TunnelLink
open Python.Text Python.Values Python.Coroutine Python.Tasks Models TunnelProtocol TunnelState
open TunnelAuthenticator TunnelBroker TunnelAdmission AgentChannels AgentTunnel

/-- The end of `read`: what it returns, and the stream it leaves. -/
def taken (n : Int) (stream : BrokerTunnelStream) : Bytes × BrokerTunnelStream :=
  if n < 0 ∨ n ≥ stream.buffer.length then (stream.buffer, { stream with buffer := [] })
  else (stream.buffer.take n.toNat, { stream with buffer := stream.buffer.drop n.toNat })

theorem taken_append (n : Int) (stream : BrokerTunnelStream) :
    (taken n stream).1 ++ (taken n stream).2.buffer = stream.buffer := by
  unfold taken
  split
  · exact List.append_nil _
  · exact List.take_append_drop _ _

/-- Only a read of nothing returns nothing while bytes are buffered. -/
theorem taken_empty {n : Int} {stream : BrokerTunnelStream} (some : n ≠ 0)
    (empty : (taken n stream).1 = []) : stream.buffer = [] := by
  unfold taken at empty
  split at empty
  · exact empty
  · rename_i short
    rcases List.take_eq_nil_iff.mp empty with zero | none
    · omega
    · exact none

section Streams
variable (connectionId : ConnectionId) (channelId : ChannelId)

/-- Follow a reference to a stream object. -/
def streamOf (broker : Broker) : Except Exc BrokerTunnelStream :=
  match broker.streams connectionId channelId with
  | some stream => .ok stream
  | none => .error .otherException

def onStream (change : BrokerTunnelStream → BrokerTunnelStream) (broker : Broker) : Except Exc Broker := do
  let stream ← streamOf connectionId channelId broker
  .ok (broker.setStream connectionId channelId (change stream))

/-- The stream was read: the bytes are out of its buffer, and the read is noted. -/
def noteRead (left : BrokerTunnelStream) (read : StreamRead) (world : TunnelWorld) : TunnelWorld :=
  let reads := Function.update (world.reads connectionId) channelId
    (world.reads connectionId channelId ++ [read])
  { world.onBroker (world.broker.setStream connectionId channelId left) with
    reads := Function.update world.reads connectionId reads }

def takeNow (n : Int) (world : TunnelWorld) : Except Exc Bytes × TunnelWorld :=
  match streamOf connectionId channelId world.broker with
  | .error fault => (.error fault, world)
  | .ok stream =>
      let left := (taken n stream).2
      (.ok (taken n stream).1,
        noteRead connectionId channelId left ⟨(taken n stream).1, stream.closed, left.buffer⟩ world)

/-- The `while` loop of `read`, unrolled. -/
def awaitData : Nat → TunnelTask Unit
  | 0 => wait .never
  | turns + 1 => do
      let world ← look
      let stream ← Coro.ofAnswer (streamOf connectionId channelId world.broker)
      Coro.onlyIf (decide (stream.buffer = []) && !stream.closed) do
        wait .dataReady
        onBroker (onStream connectionId channelId fun stream => { stream with dataReady := false })
        awaitData turns

/-- `BrokerTunnelStream.read`. -/
def read (n : Int) (turns : Nat) : TunnelTask Bytes := do
  awaitData connectionId channelId turns
  change (takeNow connectionId channelId n)

/-- `BrokerTunnelStream.close`. -/
def closeStream (library : Library) (config : BrokerConfig) (requestId : Str) : TunnelTask Unit := do
  let world ← look
  let stream ← Coro.ofAnswer (streamOf connectionId channelId world.broker)
  Coro.onlyIf (!stream.closed) do
    onBroker (onStream connectionId channelId fun stream => { stream with closed := true })
    closeSession library config channelId requestId
end Streams

section Dispatcher
variable (library : Library) (connectionId : ConnectionId)

/-- The server's reader on the link: the end of the stream is a short read. -/
def readNext : TunnelTask DecodedTunnelFrame := do
  match ← wait .readFrame with
  | some decoded => pure decoded
  | none => throw (.incompleteReadError [])

/-- `handle_stream` of an admitted agent, from its loop on. -/
def dispatcher (record : AgentTunnelRecord) (errorRequestId : Str) (turns : Nat) : TunnelTask Unit :=
  guarded library (some record) connectionId errorRequestId
    (forever (wait .never) (dispatchOne readNext connectionId record.agentId) turns)
end Dispatcher

/-! The two links, and how the calls of each task are answered. -/

/-- The frames on their way to the agent, from the first one. -/
def sent (connectionId : ConnectionId) (world : TunnelWorld) : List DecodedTunnelFrame :=
  (sentOn connectionId world).map (·.decoded)

def emitted (connectionId : ConnectionId) (world : TunnelWorld) : List OutgoingFrame :=
  (world.agentSide connectionId).emitted

/-- Data of the channel that the agent has sent is not handled yet. -/
def InFlight (connectionId : ConnectionId) (channelId : ChannelId) (world : TunnelWorld) : Prop :=
  ∃ frame ∈ (emitted connectionId world).drop (world.handled connectionId).length,
    frame.type = .SESSION_DATA ∧ frame.channelId = some channelId

def Retired (connectionId : ConnectionId) (channelId : ChannelId) (world : TunnelWorld) : Prop :=
  ∃ connection, world.broker.objects connectionId = some connection ∧
    channelId ∈ connection.channels.retiredChannels

/-- The local sshd goes on sending on a channel that the server has retired. -/
def Late (connectionId : ConnectionId) (number : Nat) (payload : Bytes) (world : TunnelWorld) : Prop :=
  payload ≠ [] ∧ ∃ channelId, (loopOf connectionId world).created[number]? = some channelId ∧
    Retired connectionId channelId world

def cross (world : TunnelWorld) : TunnelWorld := { world with crossed := true }

/-- A frame of the agent comes off the link. -/
def arrive (connectionId : ConnectionId) (frame : OutgoingFrame) (world : TunnelWorld) : TunnelWorld :=
  let frames := world.received connectionId ++ [frame]
  { world with received := Function.update world.received connectionId frames }

/-- What has come off the link is being handled. -/
def takeUp (connectionId : ConnectionId) (world : TunnelWorld) : TunnelWorld :=
  let frames := world.received connectionId
  { world with handled := Function.update world.handled connectionId frames }

inductive LinkTask where
  | dispatcher
  | call (serial : Nat)
  | closing (channelId : ChannelId) (serial : Nat)
  | reading (serial : Nat)
  | clock (serial : Nat)
  | agent (task : AgentTask)
  deriving DecidableEq

section Worlds
variable (connectionId : ConnectionId)

/-- Any answer at any time, and nothing changes. -/
def plainWorld : World TunnelWorld TunnelResult Exc
  | .never, .ok _, _, _ => False
  | _, _, before, after => after = before

/-- A frame arrives in its turn; once its sender's row is updated it is handled.
Any call can fail, and the link can end. -/
def dispatcherWorld : World TunnelWorld TunnelResult Exc
  | .readFrame, .ok (some decoded), before, after => ∃ frame,
      before.received connectionId ++ [frame] <+: emitted connectionId before ∧
        decoded = frame.decoded ∧ after = arrive connectionId frame before
  | .updateLastSeen _ _, .ok _, before, after => after = takeUp connectionId before
  | call, answer, before, after => plainWorld call answer before after

/-- A close goes on to retire its channel when the writer has drained; the agent
may still have data of the channel on the link. -/
def closingWorld (channelId : ChannelId) : World TunnelWorld TunnelResult Exc
  | .drain, .ok _, before, after =>
      (InFlight connectionId channelId before ∧ after = cross before) ∨
        (¬ InFlight connectionId channelId before ∧ after = before)
  | call, answer, before, after => plainWorld call answer before after

def linkLoopWorld : World TunnelWorld TunnelResult Exc
  | .readFrame, .ok (some decoded), before, after =>
      (loopOf connectionId before).frames ++ [decoded] <+: sent connectionId before ∧
        loopWorld connectionId .readFrame (.ok (some decoded)) before after
  | call, answer, before, after => loopWorld connectionId call answer before after

def linkForwarderWorld (number : Nat) : World TunnelWorld TunnelResult Exc
  | .localRead serial count, .ok payload, before, after =>
      (Late connectionId number payload before ∧
        forwarderWorld connectionId number (.localRead serial count) (.ok payload) (cross before) after) ∨
      (¬ Late connectionId number payload before ∧
        forwarderWorld connectionId number (.localRead serial count) (.ok payload) before after)
  | call, answer, before, after => forwarderWorld connectionId number call answer before after

def linkWorld : LinkTask → World TunnelWorld TunnelResult Exc
  | .dispatcher => dispatcherWorld connectionId
  | .closing channelId _ => closingWorld connectionId channelId
  | .agent .loop => linkLoopWorld connectionId
  | .agent (.forwarder number) => linkForwarderWorld connectionId number
  | .call _ | .reading _ | .clock _ | .agent (.breaking _) => plainWorld
end Worlds

/-- The calls that leave every channel as open as it was, or open one. -/
inductive LinkCall (library : Library) (config : BrokerConfig) : TunnelTask Unit → Prop where
  | openSession (agentId channelId nodeName hostKey username certificateUsername requestId) :
      LinkCall library config (openSession library config agentId channelId nodeName hostKey username
        certificateUsername requestId)
  | sendData (channelId payload requestId) :
      LinkCall library config (sendData library config channelId payload requestId)
  | resizePty (channelId width height requestId) :
      LinkCall library config (resizePty library config channelId width height requestId)

section Programs
variable (library : Library) (config : BrokerConfig) (connectionId : ConnectionId) (maxFrameBytes : Int)

def linkPrograms (task : LinkTask) (program : TunnelTask Unit) (world : TunnelWorld) : Prop :=
  match task with
  | .dispatcher => ∃ record errorRequestId turns,
      program = dispatcher library connectionId record errorRequestId turns
  | .call _ => LinkCall library config program
  | .closing channelId _ => ∃ requestId,
      program = closeSession library config channelId requestId ∨
        program = closeStream connectionId channelId library config requestId
  | .reading _ => ∃ channelId n turns, n ≠ 0 ∧
      program = read connectionId channelId n turns >>= fun _ => pure ()
  | .clock _ => ∃ now, program = update fun world => { world with clock := now }
  | .agent task => agentPrograms connectionId library maxFrameBytes task program world

abbrev LinkPool := Pool LinkTask TunnelWorld TunnelResult Exc

def LinkReachable (start : TunnelWorld) (pool : LinkPool) : Prop :=
  Reachable (linkWorld connectionId) (linkPrograms library config connectionId maxFrameBytes) start pool
end Programs

/-- A tunnel right after its agent was admitted. -/
structure Established (connectionId : ConnectionId) (world : TunnelWorld) : Prop where
  object : ∃ connection, world.broker.objects connectionId = some connection ∧
    connection.channels.known = ∅ ∧ connection.adapters = ∅
  streams : ∀ channelId, world.broker.streams connectionId channelId = none
  reads : ∀ channelId, world.reads connectionId channelId = []
  unaddressed : ∀ frame ∈ sentOn connectionId world, frame.channelId = none
  received : world.received connectionId = []
  handled : world.handled connectionId = []
  agentSide : world.agentSide connectionId = .empty

end VibeConnect.TunnelLink
