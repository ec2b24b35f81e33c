import VibeConnect.TunnelBroker

/-! `handle_agent_tunnel_stream`: the agent's loop over the server's frames and
the forwarding task of each local connection. Local connections are numbered in
the order they are made. -/
namespace VibeConnect.AgentTunnel
open Python.Text Python.JsonCodec Python.Coroutine Python.Tasks Models TunnelProtocol TunnelState
open TunnelAuthenticator TunnelBroker AgentChannels

section Sides
variable (connectionId : ConnectionId)

def onSide (change : AgentSide → AgentSide) (world : TunnelWorld) : TunnelWorld :=
  { world with
    agentSide := Function.update world.agentSide connectionId (change (world.agentSide connectionId)) }

def loopOf (world : TunnelWorld) : AgentLoop := (world.agentSide connectionId).loop

def onLoop (change : AgentLoop → AgentLoop) : TunnelWorld → TunnelWorld :=
  onSide connectionId fun side => { side with loop := change side.loop }

def onForwarder (number : Nat) (change : LocalForwarder → LocalForwarder) : TunnelWorld → TunnelWorld :=
  onSide connectionId fun side =>
    { side with forwarders := Function.update side.forwarders number (change (side.forwarders number)) }

/-- A frame handed to the tunnel's writer. -/
def emit (frame : OutgoingFrame) : TunnelWorld → TunnelWorld :=
  onSide connectionId fun side => { side with emitted := side.emitted ++ [frame] }

variable {connectionId}

@[simp] theorem onSide_same {change : AgentSide → AgentSide} {world : TunnelWorld} :
    (onSide connectionId change world).agentSide connectionId =
      change (world.agentSide connectionId) :=
  Function.update_self ..

@[simp] theorem loopOf_onLoop {change : AgentLoop → AgentLoop} {world : TunnelWorld} :
    loopOf connectionId (onLoop connectionId change world) = change (loopOf connectionId world) := by
  unfold loopOf onLoop
  rw [onSide_same]

@[simp] theorem loopOf_onForwarder {number : Nat} {change : LocalForwarder → LocalForwarder}
    {world : TunnelWorld} :
    loopOf connectionId (onForwarder connectionId number change world) = loopOf connectionId world := by
  unfold loopOf onForwarder
  rw [onSide_same]

@[simp] theorem loopOf_emit {frame : OutgoingFrame} {world : TunnelWorld} :
    loopOf connectionId (emit connectionId frame world) = loopOf connectionId world := by
  unfold loopOf emit
  rw [onSide_same]
end Sides

/-- `_require_channel_id`: an empty id is refused like a missing one. -/
def requireChannelId : Option Str → Except Exc ChannelId
  | some (code :: rest) => .ok (code :: rest)
  | _ => .error (.agentTunnelError "tunnel channel_id is required")

theorem requireChannelId_ok {field : Option Str} {channelId : ChannelId}
    (required : requireChannelId field = .ok channelId) : field = some channelId := by
  unfold requireChannelId at required
  split at required
  · cases required
    rfl
  · cases required

section Coroutines
variable (library : Library) (connectionId : ConnectionId) (maxFrameBytes : Int)

/-- `_write_frame`. -/
def writeFrame (frame : OutgoingFrame) (bound : Int) : TunnelTask Unit := do
  attempt fun world => do
    let _ ← frame.encode library.json bound
    .ok (emit connectionId frame world)
  wait .drain

/-- `writer.write(payload)` on a local connection. -/
def writeLocal (number : Nat) (payload : Bytes) (world : TunnelWorld) :
    Except Exc Unit × TunnelWorld :=
  match (world.agentSide connectionId).broken number with
  | some fault => (.error fault, onLoop connectionId (·.fail true) world)
  | none => (.ok (), onLoop connectionId (·.write number payload) world)

/-- `_close_channel`. -/
def closeChannel (number : Nat) : TunnelTask Unit := do
  update (onLoop connectionId (·.cancel number))
  tryCatch (wait (.joinForwarder number)) fun raised =>
    if raised = .cancelledError then pure () else throw raised
  update (onLoop connectionId (·.closeWriter number))
  wait (.localWaitClosed number)

/-- One frame of the server, by its type. -/
def handleFrame (decoded : DecodedTunnelFrame) : TunnelTask Unit :=
  match decoded.frame.type with
  | .AUTH_OK => pure ()
  | .HEARTBEAT =>
      writeFrame library connectionId ⟨.HEARTBEAT, decoded.frame.requestId, none, []⟩
        DEFAULT_FRAME_MAX_BYTES
  | .OPEN_SESSION => do
      let channelId ← Coro.ofAnswer (requireChannelId decoded.frame.channelId)
      let world ← look
      match (loopOf connectionId world).find channelId with
      | some _ => throw (.agentTunnelError "tunnel channel reuse rejected")
      | none =>
          wait .connectLocal
          update (onLoop connectionId (·.create channelId))
          wait .sleep
  | .SESSION_DATA => do
      let channelId ← Coro.ofAnswer (requireChannelId decoded.frame.channelId)
      let world ← look
      match (loopOf connectionId world).find channelId with
      | none => throw (.agentTunnelError "session_data for unknown tunnel channel")
      | some number =>
          change (writeLocal connectionId number decoded.payload)
          wait (.localDrain number)
  | .RESIZE_PTY => do
      let channelId ← Coro.ofAnswer (requireChannelId decoded.frame.channelId)
      let world ← look
      match (loopOf connectionId world).find channelId with
      | none => throw (.agentTunnelError "resize_pty for unknown tunnel channel")
      | some _ => pure ()
  | .CLOSE_SESSION => do
      let channelId ← Coro.ofAnswer (requireChannelId decoded.frame.channelId)
      let world ← look
      match (loopOf connectionId world).find channelId with
      | none => pure ()
      | some number =>
          update (onLoop connectionId (·.pop channelId))
          closeChannel connectionId number
  | unsupported =>
      throw (.agentTunnelError ("unsupported agent tunnel frame: " ++ unsupported.value))

/-- The `while` loop, unrolled; the end of the stream returns from it. -/
def frameLoop : Nat → TunnelTask Unit
  | 0 => wait .never
  | turns + 1 => do
      match ← wait .readFrame with
      | none => pure ()
      | some decoded =>
          handleFrame library connectionId decoded
          frameLoop turns

/-- The `finally` clause over what is left in the table. -/
def closeEach : List (ChannelId × Nat) → TunnelTask Unit
  | [] => pure ()
  | entry :: rest => do
      closeChannel connectionId entry.2
      closeEach rest

def handleAgentTunnelStream (turns : Nat) : TunnelTask Unit :=
  Coro.finallyDo (frameLoop library connectionId turns) do
    let world ← look
    closeEach connectionId (loopOf connectionId world).channels

/-- `_forward_local_to_tunnel`. -/
def forwardLocalToTunnel (number : Nat) (channelId : ChannelId) : Nat → TunnelTask Unit
  | 0 => wait .never
  | turns + 1 => do
      let payload ← wait (.localRead number 65536)
      if payload = [] then pure ()
      else
        writeFrame library connectionId
          ⟨.SESSION_DATA, channelId ++ lit ":data", some channelId, payload⟩ maxFrameBytes
        forwardLocalToTunnel number channelId turns

/-- The task around it keeps the outcome for whoever awaits the task. -/
def forwarder (number : Nat) (channelId : ChannelId) (turns : Nat) : TunnelTask Unit := do
  let ended ← Coro.outcome
    (forwardLocalToTunnel library connectionId maxFrameBytes number channelId turns)
  update (onForwarder connectionId number fun forwarder => { forwarder with outcome := some ended })
end Coroutines

/-! The tasks of one agent, and how the calls they make are answered. -/
inductive AgentTask where
  | loop
  | forwarder (number : Nat)
  | breaking (serial : Nat)
  deriving DecidableEq

/-- What an answer says about the tunnel and the local connections. -/
def noted {α : Type} (locally : Bool) (answer : Except Exc α) (loop : AgentLoop) : AgentLoop :=
  match answer with
  | .ok _ => loop
  | .error fault => loop.fail (locally && decide (fault ≠ .cancelledError))

section Worlds
variable (connectionId : ConnectionId)

/-- Answers to the loop. Any frame can arrive, and every call can fail. A
forwarder is awaited until it has ended; a cancellation is suppressed there, and
elsewhere it comes from whoever stops the agent. -/
def loopWorld : World TunnelWorld TunnelResult Exc
  | .readFrame, .ok (some decoded), before, after =>
      after = onLoop connectionId (·.receive decoded) before
  | .readFrame, _, before, after => after = onLoop connectionId (·.fail false) before
  | .joinForwarder number, answer, before, after =>
      (answer = .error .cancelledError ∧ after = before) ∨
      answer ≠ .error .cancelledError ∧
        ((before.agentSide connectionId).forwarders number).outcome = some answer ∧
        after = onLoop connectionId
          (noted ((before.agentSide connectionId).forwarders number).readFault answer) before
  | .connectLocal, answer, before, after => after = onLoop connectionId (noted true answer) before
  | .localDrain _, answer, before, after => after = onLoop connectionId (noted true answer) before
  | .localWaitClosed _, answer, before, after => after = onLoop connectionId (noted true answer) before
  | .never, .ok _, _, _ => False
  | _, answer, before, after => after = onLoop connectionId (noted false answer) before

/-- Answers to a forwarder. -/
def forwarderWorld (number : Nat) : World TunnelWorld TunnelResult Exc
  | .localRead _ count, .ok payload, before, after => payload.length ≤ count ∧
      after = onForwarder connectionId number
        (fun forwarder => { forwarder with read := forwarder.read ++ payload }) before
  | .localRead _ _, .error fault, before, after => after = onForwarder connectionId number
      (fun forwarder => { forwarder with readFault := decide (fault ≠ .cancelledError) }) before
  | .never, .ok _, _, _ => False
  | _, _, before, after => after = before

def agentWorld : AgentTask → World TunnelWorld TunnelResult Exc
  | .loop => loopWorld connectionId
  | .forwarder number => forwarderWorld connectionId number
  | .breaking _ => fun _ _ before after => after = before

/-- The loop once, a forwarder for each local connection once that is made, and
changes of what writes to local connections do. -/
def agentPrograms (library : Library) (maxFrameBytes : Int) (task : AgentTask)
    (program : TunnelTask Unit) (world : TunnelWorld) : Prop :=
  match task with
  | .loop => ∃ turns, program = handleAgentTunnelStream library connectionId turns
  | .forwarder number => ∃ channelId turns,
      (loopOf connectionId world).created[number]? = some channelId ∧
        program = forwarder library connectionId maxFrameBytes number channelId turns
  | .breaking _ => ∃ broken, program = update (onSide connectionId fun side => { side with broken := broken })

abbrev AgentPool := Pool AgentTask TunnelWorld TunnelResult Exc

def AgentReachable (library : Library) (maxFrameBytes : Int) (start : TunnelWorld) (pool : AgentPool) :
    Prop :=
  Reachable (agentWorld connectionId) (agentPrograms connectionId library maxFrameBytes) start pool
end Worlds

end VibeConnect.AgentTunnel
