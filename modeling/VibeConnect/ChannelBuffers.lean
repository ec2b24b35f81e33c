import VibeConnect.FrameBounds
import VibeConnect.RevocationRuns

/-! The bytes that the server holds for a channel. An agent logs in, a channel is opened on its
connection, and nobody reads it: every frame of data is added to the buffer of the stream. -/
namespace VibeConnect.ChannelBuffers
open Python.Text Python.JsonCodec Python.Values Python.Coroutine Python.Tasks Models TunnelProtocol
open TunnelState TunnelAuthenticator AgentChannels TunnelBroker BrokerCalls TunnelAdmission
open BrokerInvariant BrokerRuns TunnelLink Revocation FrameBounds

/-- What a stream reads is a frame that its agent could encode; the tables change by the broker's
own code only. -/
def framedWorld (library : Library) (config : BrokerConfig) : World TunnelWorld TunnelResult Exc
  | .readFrame, answer, before, after => after.broker = before.broker ∧
      ∀ decoded, answer = .ok (some decoded) →
        ∃ frame : OutgoingFrame, decoded = frame.decoded ∧ Encodes library config frame
  | _, _, before, after => after.broker = before.broker

abbrev FramedReachable (library : Library) (config : BrokerConfig) (start : TunnelWorld) :
    BrokerPool → Prop :=
  Reachable (fun _ => framedWorld library config) (revocablePrograms library config) start

/-- No channel ever holds more bytes than the bound. -/
def HeldWithin (library : Library) (config : BrokerConfig) (start : TunnelWorld) (bound : Nat) : Prop :=
  ∀ pool, FramedReachable library config start pool → ∀ connectionId channelId stream,
    pool.state.broker.streams connectionId channelId = some stream → stream.buffer.length ≤ bound

section Tables
variable {broker : Broker} {connectionId : ConnectionId} {agentId : Uuid} {channelId : ChannelId}

/-- A broker of an accepted configuration takes a connection, fresh and without channels. -/
theorem newConnection_accepted (config : TunnelConfig) (record : AgentTunnelRecord)
    (connectionId : ConnectionId) (seenAt : DateTime) (broker : Broker) : ∃ connection,
    Broker.newConnection config.broker record connectionId seenAt broker =
      .ok (broker.setObject connectionId connection) ∧
    connection.agent = record ∧ connection.channels.openChannels = ∅ ∧
    connection.channels.retiredChannels = ∅ ∧
    connection.channels.maxSessions = config.maxSessionsPerAgent ∧ connection.adapters = ∅ ∧
    connection.heartbeat.allowsNewJump seenAt = true := by
  have sessions : 0 < config.broker.maxSessionsPerAgent := by
    have least := config.sessions
    show 0 < config.maxSessionsPerAgent
    omega
  have seconds : 0 < config.broker.heartbeatSeconds := by
    have least := config.heartbeat
    show 0 < config.heartbeatSeconds
    omega
  unfold Broker.newConnection TunnelChannelRegistry.new HeartbeatState.new
  rw [dif_pos sessions, dif_pos seconds]
  refine ⟨_, rfl, rfl, rfl, rfl, rfl, rfl, ?_⟩
  apply (HeartbeatState.allowsNewJump_iff _ _).mpr
  refine ⟨seenAt.asUtc, rfl, ?_⟩
  show seenAt.instant < seenAt.asUtc.instant + 2 * config.broker.heartbeatSeconds * 1000000
  rw [DateTime.instant_asUtc]
  omega

/-- The first channel of a connection that was just seen is opened. -/
theorem openChannel_accepted {connection : BrokerTunnelConnection} {hostKey username : Str}
    {now : DateTime} (pinned : hostKey ≠ []) (named : channelId ≠ [])
    (held : broker.connections agentId = some connectionId)
    (object : broker.objects connectionId = some connection)
    (fresh : connection.heartbeat.allowsNewJump now = true)
    (none : connection.channels.openChannels = ∅)
    (retired : connection.channels.retiredChannels = ∅) : ∃ channels,
    connection.channels.openChannel channelId = .ok channels ∧
    broker.openChannel agentId channelId hostKey username username now =
      .ok (broker.opened connectionId connection channels channelId agentId, connectionId) := by
  have unused : ¬(channelId ∈ connection.channels.openChannels ∨
      channelId ∈ connection.channels.retiredChannels) := by simp [none, retired]
  have room : ¬(connection.channels.openChannels.card : Int) ≥ connection.channels.maxSessions := by
    rw [none]
    exact not_le.mpr connection.channels.positive
  obtain ⟨channels, added⟩ : ∃ channels, connection.channels.openChannel channelId = .ok channels := by
    unfold TunnelChannelRegistry.openChannel
    rw [dif_neg named, dif_neg unused, dif_neg room]
    exact ⟨_, rfl⟩
  have required : broker.requireConnection agentId channelId = .ok connectionId := by
    unfold Broker.requireConnection
    rw [if_neg named, held]
  have found : broker.object connectionId = .ok connection := Broker.object_ok.mpr object
  refine ⟨channels, added, ?_⟩
  unfold Broker.openChannel
  rw [if_neg (not_not.mpr rfl), if_neg pinned]
  refine bind_ok.mpr ⟨connectionId, required, bind_ok.mpr ⟨connection, found, ?_⟩⟩
  rw [if_neg (not_not.mpr fresh)]
  exact bind_ok.mpr ⟨channels, added, rfl⟩
end Tables

/-! One agent on a broker of any accepted configuration. -/
section Flood
variable {config : TunnelConfig}

/-- What fits the smallest buffer of a test fits every accepted one. -/
theorem encodes_accepted {frame : OutgoingFrame} (config : TunnelConfig)
    (encodes : Encodes libraryOne streamOne.config frame) : Encodes libraryOne config.broker frame := by
  obtain ⟨bytes, encoded⟩ := encodes.ok
  have fits := (encode_payload encoded).2
  have least := config.frames.1
  have larger : (frame.payload.length : Int) ≤ config.frameMaxBytes := by
    have small : streamOne.config.maxFrameBytes = 4096 := rfl
    omega
  unfold Encodes
  rw [show config.broker.maxFrameBytes = config.frameMaxBytes from rfl,
    encode_bound encoded config.positive larger]
  rfl

theorem flood_frames : Encodes libraryOne streamOne.config loginFrame ∧
    Encodes libraryOne streamOne.config keyOne := by
  decide +kernel

/-- The dispatch loop waits for a frame, with turns left after it, and the channel of the agent holds
some bytes. -/
structure Flooding (turns held : Nat) (pool : BrokerPool) : Prop where
  listens : ∃ read, pool.tasks (.stream (lit "c1")) = some (.call (.await .readFrame) read) ∧
    ∀ decoded after broker, Broker.markSeen (lit "c1") after.clock after.broker = .ok broker →
      settle (read (.ok (some decoded))) after =
        (.call (.await (.updateLastSeen rowOne.agentId after.clock)) fun answer =>
          guarded libraryOne (some rowOne) (lit "c1") (lit "e1")
            ((Coro.ofAnswer answer >>= fun _ => onBroker (Broker.handleAgentFrame (lit "c1") decoded)) >>=
              fun _ => forever (wait .never) (dispatchOne readNext (lit "c1") rowOne.agentId) turns),
          after.onBroker broker)
  channel : ∃ connection stream, pool.state.broker.objects (lit "c1") = some connection ∧
    lit "a" ∈ connection.channels.openChannels ∧ lit "a" ∈ connection.adapters ∧
    pool.state.broker.streams (lit "c1") (lit "a") = some stream ∧ stream.buffer.length = held

/-- One more frame of data, one more byte held. -/
theorem Flooding.step {turns held : Nat} {pool : BrokerPool}
    (reached : FramedReachable libraryOne config.broker worldOne pool)
    (flooding : Flooding (turns + 1) held pool) : ∃ later,
    FramedReachable libraryOne config.broker worldOne later ∧ Flooding turns (held + 1) later := by
  obtain ⟨⟨read, waiting, dispatched⟩, connection, stream, object, isOpen, attached, there, length⟩ :=
    flooding
  have encodes := encodes_accepted config flood_frames.2
  have marked := markSeen_spec pool.state.clock object
  obtain ⟨typed, reached, state, tasks⟩ := reached.resumed (.stream (lit "c1")) waiting
    (.ok (some keyOne.decoded)) ⟨rfl, fun decoded same => ⟨keyOne, by cases same; rfl, encodes⟩⟩
    (dispatched _ _ _ marked)
  have delivered : Broker.handleAgentFrame (lit "c1") keyOne.decoded typed.state.broker =
      .ok (typed.state.broker.setStream (lit "c1") (lit "a") (stream.feedData [108])) := by
    rw [state]
    exact key_handled (objects_setObject.mpr (.inl ⟨rfl, rfl⟩)) isOpen attached there
  obtain ⟨resume, again, next⟩ := @settle_turn libraryOne (lit "c1") (lit "e1") (some rowOne)
    (typed.state.onBroker (typed.state.broker.setStream (lit "c1") (lit "a") (stream.feedData [108])))
    rowOne.agentId turns
  obtain ⟨later, reached, last, waits⟩ := reached.resumed (.stream (lit "c1"))
    (by rw [tasks]; exact Function.update_self ..) (.ok ()) (by exact rfl)
    ((settle_handled delivered).trans again)
  refine ⟨later, reached, ⟨resume, ?_, next⟩, ?_⟩
  · rw [waits]
    exact Function.update_self ..
  · rw [last]
    refine ⟨{ connection with heartbeat := connection.heartbeat.markSeen pool.state.clock },
      stream.feedData [108], ?_, isOpen, attached, ?_, ?_⟩
    · show typed.state.broker.objects (lit "c1") = _
      rw [state]
      exact objects_setObject.mpr (.inl ⟨rfl, rfl⟩)
    · exact streams_setStream.trans (if_pos ⟨rfl, rfl⟩)
    · show (stream.buffer ++ [108]).length = held + 1
      rw [List.length_append, length]
      rfl

theorem Flooding.run (turns held : Nat) {pool : BrokerPool}
    (reached : FramedReachable libraryOne config.broker worldOne pool)
    (flooding : Flooding turns held pool) : ∃ later,
    FramedReachable libraryOne config.broker worldOne later ∧ Flooding 0 (held + turns) later := by
  induction turns generalizing held pool with
  | zero => exact ⟨pool, reached, flooding⟩
  | succ turns ih =>
      obtain ⟨later, reached, flooding⟩ := flooding.step reached
      have done := ih (held + 1) reached flooding
      rwa [Nat.add_right_comm] at done

/-- The agent logs in, and a channel is opened that nobody reads. -/
theorem flooding_start (config : TunnelConfig) (turns : Nat) : ∃ pool,
    FramedReachable libraryOne config.broker worldOne pool ∧ Flooding turns 0 pool := by
  obtain ⟨decodes, bound, -, admits⟩ := login_facts
  have fresh : FramedReachable libraryOne config.broker worldOne ⟨fun _ => none, worldOne⟩ := .start
  have unused : Unused (lit "c1") worldOne.broker := by
    refine ⟨fun agentId held => ?_, rfl⟩
    cases held
  obtain ⟨asked, started, answered⟩ := @settle_login libraryOne config.broker (lit "c1") (lit "e1")
    worldOne streamOne.peer none (turns + 1) loginFrame.decoded requestOne rowOne rfl decodes bound
  obtain ⟨_, looked, admitted⟩ := answered worldOne
  obtain ⟨reading, reached, state, alone⟩ := fresh.spawned (.stream (lit "c1")) rfl
    ⟨streamOne.peer, none, lit "e1", turns + 1, rfl, unused⟩ started
  have login := encodes_accepted config flood_frames.1
  obtain ⟨asking, reached, state, alone⟩ := reached.resumed_beside alone (.ok (some loginFrame.decoded))
    (by rw [state]; exact ⟨rfl, fun decoded same => ⟨loginFrame, by cases same; rfl, login⟩⟩) looked
  obtain ⟨connection, created, agent, none, retired, limit, empty, seen⟩ :=
    newConnection_accepted config rowOne (lit "c1") worldOne.clock worldOne.broker
  obtain ⟨admitting, reached, state, alone⟩ := reached.resumed_beside alone (.ok (some rowOne))
    (by rw [state]; exact rfl) (admitted worldOne _ rowOne_admitted created)
  obtain ⟨broker, registered⟩ : ∃ broker, Broker.register rowOne.agentId (lit "c1")
      (worldOne.broker.setObject (lit "c1") connection) = .ok broker := ⟨_, rfl⟩
  obtain ⟨telling, reached, state, alone⟩ := reached.resumed_beside alone (.ok ())
    (by rw [state]; exact rfl) (settle_registered registered (encodes_accepted config admits))
  obtain ⟨read, listening, dispatched⟩ := @settle_turn libraryOne (lit "c1") (lit "e1") (some rowOne)
    telling.state rowOne.agentId turns
  obtain ⟨listens, reached, still, alone⟩ := reached.resumed_beside alone (.ok ()) (by exact rfl) listening
  rw [state] at still
  obtain ⟨-, rfl⟩ := Broker.register_ok registered
  -- the channel
  have object : listens.state.broker.objects (lit "c1") = some connection := by
    rw [still]
    show (worldOne.broker.setObject (lit "c1") connection).objects (lit "c1") = _
    exact objects_setObject.mpr (.inl ⟨rfl, rfl⟩)
  have held : listens.state.broker.connections agentOne = some (lit "c1") := by
    rw [still]
    exact Function.update_self agentOne (some (lit "c1")) worldOne.broker.connections
  have clock : listens.state.clock = worldOne.clock := by
    rw [still]
    rfl
  have unseen : Unseen (lit "a") listens.state.broker := by
    intro other found there member
    rw [still] at there
    rcases objects_setObject.mp there with ⟨-, rfl⟩ | ⟨-, there⟩
    · rw [TunnelChannelRegistry.known, none, retired] at member
      cases member
    · cases there
  obtain ⟨channels, added, opened⟩ := @openChannel_accepted listens.state.broker (lit "c1") agentOne
    (lit "a") connection (lit "key") (lit "alice") listens.state.clock (by decide) (by decide) held object
    (by rw [clock]; exact seen) none retired
  obtain ⟨frame, made, encodes⟩ := WireDiscipline.openFrameOne
  have asks := @settle_openSession libraryOne config.broker listens.state (lit "c1") (lit "a") agentOne
    (lit "n") (lit "key") (lit "alice") (lit "alice") (lit "r") _ frame opened made
    (encodes_accepted config encodes)
  obtain ⟨pool, reached, last, began⟩ := reached.spawned (.opening (lit "a")) (by rw [alone]; rfl)
    ⟨agentOne, _, _, _, _, _, rfl, unseen⟩ asks
  refine ⟨pool, reached, ⟨read, ?_, dispatched⟩, ?_⟩
  · rw [began, Function.update_of_ne (by simp), alone]
    exact Function.update_self ..
  · rw [last]
    have member : lit "a" ∈ channels.openChannels := by
      rw [(TunnelChannelRegistry.openChannel_ok added).2.1]
      exact Finset.mem_insert_self _ _
    refine ⟨{ connection with channels := channels, adapters := insert (lit "a") connection.adapters },
      ⟨agentOne, [], false, false⟩, ?_, member, Finset.mem_insert_self _ _, ?_, rfl⟩
    · show (listens.state.broker.setObject (lit "c1") _).objects (lit "c1") = _
      exact objects_setObject.mpr (.inl ⟨rfl, rfl⟩)
    · show (listens.state.broker.opened (lit "c1") connection channels (lit "a") agentOne).streams
        (lit "c1") (lit "a") = _
      exact opened_stream

/-- For every accepted configuration and every number of bytes, a run that holds more. -/
theorem flooded (config : TunnelConfig) (bound : Nat) : ∃ pool,
    FramedReachable libraryOne config.broker worldOne pool ∧ ∃ stream,
      pool.state.broker.streams (lit "c1") (lit "a") = some stream ∧ bound < stream.buffer.length := by
  obtain ⟨first, reached, flooding⟩ := flooding_start config (bound + 1)
  obtain ⟨pool, reached, -, connection, stream, -, -, -, there, length⟩ := flooding.run (bound + 1) 0 reached
  exact ⟨pool, reached, stream, there, by omega⟩

/-- No accepted configuration bounds what is held for a channel. -/
theorem buffers_unbounded (config : TunnelConfig) :
    ¬∃ bound, HeldWithin libraryOne config.broker worldOne bound := by
  rintro ⟨bound, within⟩
  obtain ⟨pool, reached, stream, there, more⟩ := flooded config bound
  exact absurd (within pool reached _ _ stream there) (not_le.mpr more)
end Flood

/-- The default settings. -/
theorem buffers_unbounded_default : ∃ config, validateTunnelBounds 64 30 1048576 2222 = .ok config ∧
    ¬∃ bound, HeldWithin libraryOne config.broker worldOne bound := by
  refine ⟨_, rfl, ?_⟩
  rintro ⟨bound, within⟩
  obtain ⟨pool, reached, stream, there, more⟩ := flooded _ bound
  exact absurd (within pool reached _ _ stream there) (not_le.mpr more)

end VibeConnect.ChannelBuffers
