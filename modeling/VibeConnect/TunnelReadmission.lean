import VibeConnect.RevocationRuns

/-! A new tunnel of an agent whose old one is dead. The old connection keeps the slot of the agent for
as long as its own `handle_stream` waits for a frame, however long ago it was heard from; a new stream
of the agent gets in when nobody else holds the slot. -/
namespace VibeConnect.TunnelReadmission
open Python.Text Python.JsonCodec Python.Values Python.Coroutine Python.Tasks Models TunnelProtocol
open TunnelState TunnelAuthenticator TunnelBroker BrokerCalls TunnelAdmission BrokerInvariant BrokerRuns
open Revocation (settle_onBroker settle_ownFrame loginFrame requestOne login_facts)

/-! Who left its slot has fed its sessions their end. -/
section Tables
variable {config : BrokerConfig} {broker after : Broker} {connectionId : ConnectionId}
  {channelId : ChannelId} {agentId : Uuid}

/-- The attached streams of a connection that runs are those of one that holds a slot. -/
def Drained (broker : Broker) : Prop :=
  ∀ connectionId connection channelId stream, broker.objects connectionId = some connection →
    channelId ∈ connection.adapters → broker.streams connectionId channelId = some stream →
    stream.closed = false → ∃ agentId, broker.connections agentId = some connectionId

structure Cleared (config : BrokerConfig) (broker : Broker) : Prop where
  represented : Represented config broker
  drained : Drained broker

theorem Cleared.empty (config : BrokerConfig) : Cleared config .empty :=
  ⟨.empty config, fun _ _ _ _ object => by cases object⟩

/-- A step that attaches nothing new and reopens nothing, and takes nobody out of a slot. -/
theorem Cleared.step (holds : Cleared config broker) (represented : Represented config after)
    (slots : ∀ agentId connectionId, broker.connections agentId = some connectionId →
      ∃ agentId, after.connections agentId = some connectionId)
    (fewer : ∀ connectionId connection channelId stream, after.objects connectionId = some connection →
      channelId ∈ connection.adapters → after.streams connectionId channelId = some stream →
      stream.closed = false → ∃ earlier was, broker.objects connectionId = some earlier ∧
        channelId ∈ earlier.adapters ∧ broker.streams connectionId channelId = some was ∧
        was.closed = false) : Cleared config after := by
  refine ⟨represented, fun other connection second stream object member there running => ?_⟩
  obtain ⟨earlier, was, placed, attached, found, ran⟩ :=
    fewer other connection second stream object member there running
  obtain ⟨agentId, held⟩ := holds.drained other earlier second was placed attached found ran
  exact slots agentId other held

theorem Cleared.setObject {connection changed : BrokerTunnelConnection} (holds : Cleared config broker)
    (represented : Represented config (broker.setObject connectionId changed))
    (object : broker.objects connectionId = some connection)
    (adapters : changed.adapters ⊆ connection.adapters) :
    Cleared config (broker.setObject connectionId changed) := by
  apply holds.step represented
  · exact fun agentId _ held => ⟨agentId, held⟩
  · intro other found second stream there member running still
    rcases objects_setObject.mp there with ⟨rfl, rfl⟩ | ⟨-, same⟩
    · exact ⟨connection, stream, object, adapters member, running, still⟩
    · exact ⟨found, stream, same, member, running, still⟩

theorem Cleared.setStream {stream changed : BrokerTunnelStream} (holds : Cleared config broker)
    (found : broker.streams connectionId channelId = some stream)
    (agent : changed.agentId = stream.agentId)
    (ended : changed.closed = false → stream.closed = false) :
    Cleared config (broker.setStream connectionId channelId changed) := by
  apply holds.step (holds.represented.setStream found agent)
  · exact fun agentId _ held => ⟨agentId, held⟩
  · intro other connection second given object member there running
    rw [streams_setStream] at there
    split at there
    · rename_i same
      obtain ⟨rfl, rfl⟩ := same
      cases there
      exact ⟨connection, stream, object, member, found, ended running⟩
    · exact ⟨connection, given, object, member, there, running⟩

theorem Cleared.retired {connection : BrokerTunnelConnection} {channels : TunnelChannelRegistry}
    (holds : Cleared config broker) (object : broker.objects connectionId = some connection)
    (closed : connection.channels.closeChannel channelId = .ok channels) :
    Cleared config (broker.retired connectionId connection channels channelId) := by
  apply holds.step (holds.represented.retired object closed)
  · exact fun agentId _ held => ⟨agentId, held⟩
  · intro other found second stream there member running still
    rcases objects_setObject.mp there with ⟨rfl, rfl⟩ | ⟨-, same⟩
    · exact ⟨connection, stream, object, Finset.erase_subset _ _ member, running, still⟩
    · exact ⟨found, stream, same, member, running, still⟩

/-- A channel is attached to a connection that holds its slot. -/
theorem Cleared.opened {connection : BrokerTunnelConnection} {channels : TunnelChannelRegistry}
    (holds : Cleared config broker)
    (represented : Represented config (broker.opened connectionId connection channels channelId agentId))
    (held : broker.connections agentId = some connectionId) :
    Cleared config (broker.opened connectionId connection channels channelId agentId) := by
  refine ⟨represented, fun other found second stream there member running still => ?_⟩
  by_cases same : other = connectionId
  · exact ⟨agentId, same ▸ held⟩
  · have elsewhere : broker.objects other = some found :=
      (Function.update_of_ne same _ broker.objects).symm.trans there
    have unfed : broker.streams other second = some stream :=
      (congrFun (Function.update_of_ne same _ broker.streams) second).symm.trans running
    exact holds.drained other found second stream elsewhere member unfed still

theorem Cleared.register (holds : Cleared config broker) (represented : Represented config after)
    (registered : Broker.register agentId connectionId broker = .ok after) : Cleared config after := by
  obtain ⟨free, rfl⟩ := Broker.register_ok registered
  apply holds.step represented
  · intro owner other held
    by_cases same : owner = agentId
    · -- the slot was free or its own
      subst same
      rw [← holds.represented.registered] at held
      cases free other held
      exact ⟨owner, Function.update_self ..⟩
    · exact ⟨owner, (Function.update_of_ne same _ broker.connections).trans held⟩
  · exact fun other found second stream there member running still =>
      ⟨found, stream, there, member, running, still⟩

theorem Cleared.dropConnection (holds : Cleared config broker) (agentId : Uuid)
    (connectionId : ConnectionId)
    (represented : Represented config (broker.dropConnection agentId connectionId)) :
    Cleared config (broker.dropConnection agentId connectionId) := by
  by_cases held : broker.connections agentId = some connectionId
  · obtain ⟨connection, object, -⟩ := holds.represented.live _ _ held
    have gone := gone_dropped holds.represented held object
    rw [Broker.dropConnection_own held object, Broker.registryDisconnect_eq] at *
    refine ⟨represented, fun other found second stream there member running still => ?_⟩
    by_cases same : other = connectionId
    · subst same
      have ended := gone.eof found second stream there member running
      rw [ended] at still
      cases still
    · have unfed : broker.streams other second = some stream :=
        (congrFun (Function.update_of_ne same _ broker.streams) second).symm.trans running
      obtain ⟨owner, slot⟩ := holds.drained other found second stream there member unfed still
      have differs : owner ≠ agentId := by
        rintro rfl
        exact same (Option.some.inj (slot.symm.trans held))
      exact ⟨owner, (Function.update_of_ne differs _ broker.connections).trans slot⟩
  · rw [Broker.dropConnection_apart held, unregistered (holds.represented.registered ▸ held)]
    exact holds
end Tables

section Runs
variable {library : Library} {config : BrokerConfig} {start : TunnelWorld} {pool : BrokerPool}

theorem cleared_upheld (config : BrokerConfig) : Upheld config (Cleared config) where
  represented _ holds := holds.represented
  created broker after connectionId record seenAt holds unused created := by
    have kept := (represented_upheld config).created _ _ _ _ _ holds.represented unused created
    obtain ⟨fresh, rfl, -, -, -, -, empty⟩ := Broker.newConnection_ok created
    apply holds.step kept
    · exact fun agentId _ held => ⟨agentId, held⟩
    · intro other found second stream there member running still
      rcases objects_setObject.mp there with ⟨-, rfl⟩ | ⟨-, same⟩
      · rw [empty] at member
        cases member
      · exact ⟨found, stream, same, member, running, still⟩
  registered broker after connectionId record holds prepared registered :=
    holds.register ((represented_upheld config).registered _ _ _ _ holds.represented prepared registered)
      registered
  seen broker after connectionId seenAt holds marked := by
    have kept := (represented_upheld config).seen _ _ _ _ holds.represented marked
    obtain ⟨connection, object, rfl⟩ := Broker.markSeen_ok marked
    exact holds.setObject kept object subset_rfl
  handled broker after connectionId decoded holds handled := by
    rcases Broker.handleAgentFrame_ok handled with rfl |
      ⟨channelId, connection, stream, -, -, -, -, found, rfl⟩ |
      ⟨channelId, connection, channels, stream, -, object, closed, found, rfl⟩
    · exact holds
    · exact holds.setStream found rfl id
    · have fed : Cleared config (broker.setStream connectionId channelId stream.feedEof) :=
        holds.setStream found rfl fun running => by cases running
      exact fed.retired object closed
  dropped broker connectionId record holds along :=
    holds.dropConnection record.agentId connectionId
      ((represented_upheld config).dropped _ _ _ holds.represented along)
  told world connectionId frame holds unaddressed :=
    ⟨(represented_upheld config).told world connectionId frame holds.represented unaddressed, holds.drained⟩

theorem cleared_called (config : BrokerConfig) : UpheldByCalls (Cleared config) where
  sent world channelId connectionId frame holds isOpen named :=
    ⟨(represented_called config).sent world _ _ _ holds.represented isOpen named, holds.drained⟩
  opened world broker agentId channelId hostKey username certificateUsername connectionId holds unseen
      opened := by
    obtain ⟨represented, announced⟩ :=
      (represented_called config).opened _ _ _ _ _ _ _ _ holds.represented unseen opened
    obtain ⟨connection, channels, held, object, -, -, rfl⟩ := Broker.openChannel_ok opened
    have kept := holds.opened represented held
    exact ⟨kept, fun frame named => ⟨announced frame named, kept.drained⟩⟩
  retired world broker connectionId channelId holds closed := by
    obtain ⟨connection, channels, object, done, rfl⟩ := Broker.retireChannel_ok closed
    exact holds.retired object done

theorem reachable_cleared (empty : start.broker = .empty)
    (reached : BrokerReachable library config start pool) : Cleared config pool.state.broker := by
  refine (pool_keeps (cleared_upheld config) (cleared_called config) ?_ reached).1
  rw [empty]
  exact .empty config
end Runs

/-! The step that lets a stream in, or not. -/
section Registering
variable (library : Library) (config : BrokerConfig)

/-- `handle_stream` of an authenticated agent from the update of its row on. -/
def registering (connectionId : ConnectionId) (errorRequestId : Str) (first : DecodedTunnelFrame)
    (record : AgentTunnelRecord) (turns : Nat) (answer : Except Exc Unit) : TunnelTask Unit :=
  guarded library (some record) connectionId errorRequestId (Coro.ofAnswer answer >>= fun _ => do
    onBroker (Broker.register record.agentId connectionId)
    writeFrame library connectionId ⟨.AUTH_OK, first.frame.requestId, none, []⟩ config.maxFrameBytes
    forever (wait .never) (dispatchOne (readStream library config) connectionId record.agentId) turns)

variable {library config} {connectionId : ConnectionId} {errorRequestId : Str}
  {first : DecodedTunnelFrame} {record : AgentTunnelRecord} {turns : Nat} {world : TunnelWorld}

/-- A stream that has its row comes to stand there. -/
theorem settle_serve {broker : Broker}
    (created : Broker.newConnection config record connectionId world.clock world.broker = .ok broker) :
    settle (guarded library (some record) connectionId errorRequestId
        (serve library config (readStream library config) connectionId first record turns)) world =
      (.call (.await (.updateLastSeen record.agentId world.clock))
        (registering library config connectionId errorRequestId first record turns),
        world.onBroker broker) :=
  settle_onBroker created

/-- The stream is in: it is registered for its agent and was told so, and the sessions of the agent's
other connections had been fed EOF. -/
structure Readmitted (connectionId : ConnectionId) (agentId : Uuid) (requestId : Str)
    (before after : TunnelWorld) : Prop where
  registered : after.broker.active agentId = some connectionId
  connected : after.broker.connections agentId = some connectionId
  answered : sentOn connectionId after =
    sentOn connectionId before ++ [⟨.AUTH_OK, requestId, none, []⟩]
  ended : ∀ other connection channelId stream, other ≠ connectionId →
    before.broker.objects other = some connection → connection.agent.agentId = agentId →
    channelId ∈ connection.adapters → before.broker.streams other channelId = some stream →
    stream.closed = true

theorem sentOn_dropConnection {agentId : Uuid} :
    sentOn connectionId (world.onBroker (world.broker.dropConnection agentId connectionId)) =
      sentOn connectionId world := by
  have same : (world.broker.dropConnection agentId connectionId).wire = world.broker.wire := by
    unfold Broker.dropConnection
    split
    · split
      · rw [Broker.registryDisconnect_eq]
      · rw [Broker.registryDisconnect_eq]
    · rw [Broker.registryDisconnect_eq]
  unfold sentOn TunnelWorld.onBroker
  rw [same]

/-- The ERROR frame goes out if it can be encoded; if not, the stream cleans up without it. -/
theorem settle_bestEffortError {after : TunnelWorld} {rest : TunnelTask Unit}
    (settled : settle (Coro.finallyDo (bestEffortError library connectionId errorRequestId)
      (streamCleanup (some record) connectionId)) world = (rest, after)) :
    after = world.send connectionId ⟨.ERROR, errorRequestId, none, []⟩ ∨
      after = world.onBroker (world.broker.dropConnection record.agentId connectionId) := by
  let around : TunnelTask Unit → TunnelTask Unit := fun body => Coro.finallyDo
    (tryCatch body fun raised => if raised.isException then pure () else throw raised)
    (streamCleanup (some record) connectionId)
  have hands : ∀ op resume, around (.call op resume) = .call op fun answer => around (resume answer) :=
    fun _ _ => rfl
  have cleaned : ∀ fault : Exc, (settle (around (.raise fault)) world).2 =
      world.onBroker (world.broker.dropConnection record.agentId connectionId) := by
    intro fault
    show (settle (Coro.finallyDo (if fault.isException then pure () else throw fault)
      (streamCleanup (some record) connectionId)) world).2 = _
    split <;> rfl
  cases encoded : (OutgoingFrame.mk .ERROR errorRequestId none []).encode library.json (1024 * 1024) with
  | ok bytes =>
      have written : (do
          let _ ← (OutgoingFrame.mk .ERROR errorRequestId none []).encode library.json (1024 * 1024)
          .ok (world.send connectionId ⟨.ERROR, errorRequestId, none, []⟩) : Except Exc TunnelWorld) =
            .ok (world.send connectionId ⟨.ERROR, errorRequestId, none, []⟩) := by
        rw [encoded]
        rfl
      have sent : settle (around (writeFrame library connectionId ⟨.ERROR, errorRequestId, none, []⟩
          (1024 * 1024))) world = settle (around (wait .drain)) _ := settle_attempt_within hands written
      have same : _ = _ := settled.symm.trans sent
      cases same
      exact .inl rfl
  | error fault =>
      have unwritten : (do
          let _ ← (OutgoingFrame.mk .ERROR errorRequestId none []).encode library.json (1024 * 1024)
          .ok (world.send connectionId ⟨.ERROR, errorRequestId, none, []⟩) : Except Exc TunnelWorld) =
            .error fault := by
        rw [encoded]
        rfl
      have quiet : settle (around (writeFrame library connectionId ⟨.ERROR, errorRequestId, none, []⟩
          (1024 * 1024))) world = settle (around (.raise fault)) world :=
        settle_attempt_error_within hands unwritten
      have last := cleaned fault
      rw [← quiet] at last
      exact .inr ((congrArg Prod.snd settled).symm.trans last)

/-- Whatever ends a stream, it writes no more than one ERROR frame before it next waits. -/
theorem settle_faulted {raised : Exc} {after : TunnelWorld} {rest : TunnelTask Unit}
    (settled : settle (guarded library (some record) connectionId errorRequestId (.raise raised)) world =
      (rest, after)) :
    sentOn connectionId after = sentOn connectionId world ∨
      sentOn connectionId after =
        sentOn connectionId world ++ [⟨.ERROR, errorRequestId, none, []⟩] := by
  have silent : ∀ handled : TunnelTask Unit, (handled = .done () ∨ ∃ fault, handled = .raise fault) →
      settle (Coro.finallyDo handled (streamCleanup (some record) connectionId)) world = (rest, after) →
        sentOn connectionId after = sentOn connectionId world := by
    rintro handled (rfl | ⟨fault, rfl⟩) same
    · cases same
      exact sentOn_dropConnection
    · cases same
      exact sentOn_dropConnection
  have told : settle (Coro.finallyDo (bestEffortError library connectionId errorRequestId)
        (streamCleanup (some record) connectionId)) world = (rest, after) →
      sentOn connectionId after = sentOn connectionId world ∨
        sentOn connectionId after =
          sentOn connectionId world ++ [⟨.ERROR, errorRequestId, none, []⟩] := by
    intro settled
    rcases settle_bestEffortError settled with rfl | rfl
    · exact .inr (sentOn_send ..)
    · exact .inl sentOn_dropConnection
  change settle (Coro.finallyDo (streamFault library connectionId errorRequestId raised)
    (streamCleanup (some record) connectionId)) world = (rest, after) at settled
  unfold streamFault at settled
  split at settled
  · exact .inl (silent _ (.inl rfl) settled)
  · exact .inl (silent _ (.inl rfl) settled)
  · exact .inl (silent _ (.inl rfl) settled)
  · exact told settled
  · exact told settled
  · exact told settled
  · exact .inl (silent _ (.inr ⟨_, rfl⟩) settled)

/-- A stream that is ended was not let in. -/
theorem not_readmitted {raised : Exc} {agentId : Uuid} {requestId : Str} {before : TunnelWorld}
    (wire : sentOn connectionId world = sentOn connectionId before) :
    ¬Readmitted connectionId agentId requestId before
      (settle (guarded library (some record) connectionId errorRequestId (.raise raised)) world).2 := by
  intro readmitted
  have answered := readmitted.answered
  rcases settled : settle (guarded library (some record) connectionId errorRequestId
    (.raise raised)) world with ⟨rest, after⟩
  rw [settled, ← wire] at answered
  rcases settle_faulted settled with silent | told
  · have shorter := congrArg List.length (silent.symm.trans answered)
    simp at shorter
  · have same := List.append_cancel_left (told.symm.trans answered)
    cases same

theorem settle_refused {block : Broker → Except Exc Broker} {next : Unit → TunnelTask Unit} {fault : Exc}
    (failed : block world.broker = .error fault) :
    settle (guarded library (some record) connectionId errorRequestId (onBroker block >>= next)) world =
      settle (guarded library (some record) connectionId errorRequestId (.raise fault)) world := by
  apply settle_attempt_error_within
  · exact fun _ _ => rfl
  · rw [failed]
    rfl

theorem settle_unwritten {frame : OutgoingFrame} {next : Unit → TunnelTask Unit} {fault : Exc}
    (failed : frame.encode library.json config.maxFrameBytes = .error fault) :
    settle (guarded library (some record) connectionId errorRequestId
        (writeFrame library connectionId frame config.maxFrameBytes >>= next)) world =
      settle (guarded library (some record) connectionId errorRequestId (.raise fault)) world := by
  have unwritten : (do
      let _ ← frame.encode library.json config.maxFrameBytes
      .ok (world.send connectionId frame) : Except Exc TunnelWorld) = .error fault := by
    rw [failed]
    rfl
  unfold writeFrame
  rw [bind_assoc]
  exact settle_attempt_error_within (fun _ _ => rfl) unwritten

/-- Whoever finds the slot of its agent free, or its own, gets it. -/
theorem register_free {broker : Broker} {agentId : Uuid}
    (free : ∀ other, broker.active agentId = some other → other = connectionId) :
    ∃ after, Broker.register agentId connectionId broker = .ok after := by
  unfold Broker.register Broker.registryConnect
  cases held : broker.active agentId with
  | none => exact ⟨_, rfl⟩
  | some other =>
      cases free other held
      rw [if_neg (by simp)]
      exact ⟨_, rfl⟩

/-- The old connections of the agent hold no slot, so their sessions have ended. -/
theorem Cleared.ended {agentId : Uuid} (holds : Cleared config world.broker)
    (free : ∀ other, world.broker.connections agentId = some other → other = connectionId)
    {other : ConnectionId} {connection : BrokerTunnelConnection} {channelId : ChannelId}
    {stream : BrokerTunnelStream} (differs : other ≠ connectionId)
    (object : world.broker.objects other = some connection) (named : connection.agent.agentId = agentId)
    (member : channelId ∈ connection.adapters)
    (there : world.broker.streams other channelId = some stream) : stream.closed = true := by
  by_contra running
  obtain ⟨owner, held⟩ :=
    holds.drained other connection channelId stream object member there (by simpa using running)
  obtain ⟨again, placed, own⟩ := holds.represented.live owner other held
  cases object.symm.trans placed
  exact differs (free other ((own.symm.trans named) ▸ held))

theorem settle_registering (holds : Cleared config world.broker) {answer : Except Exc Unit} :
    Readmitted connectionId record.agentId first.frame.requestId world
      (settle (registering library config connectionId errorRequestId first record turns answer) world).2 ↔
    answer = .ok () ∧
      (∀ other, world.broker.connections record.agentId = some other → other = connectionId) ∧
      Encodes library config ⟨.AUTH_OK, first.frame.requestId, none, []⟩ := by
  constructor
  · intro readmitted
    cases answer with
    | error fault => exact absurd readmitted (not_readmitted rfl)
    | ok _ =>
    cases registered : Broker.register record.agentId connectionId world.broker with
    | error fault =>
        have refused : settle (registering library config connectionId errorRequestId first record turns
          (.ok ())) world = _ := settle_refused registered
        rw [refused] at readmitted
        exact absurd readmitted (not_readmitted rfl)
    | ok broker =>
    obtain ⟨free, same⟩ := Broker.register_ok registered
    rw [holds.represented.registered] at free
    refine ⟨rfl, free, ?_⟩
    cases encoded : (OutgoingFrame.mk .AUTH_OK first.frame.requestId none []).encode library.json
        config.maxFrameBytes with
    | error fault =>
        have stopped : settle (registering library config connectionId errorRequestId first record turns
          (.ok ())) world = _ := (settle_onBroker registered).trans (settle_unwritten encoded)
        rw [stopped] at readmitted
        have wire : sentOn connectionId (world.onBroker broker) = sentOn connectionId world := by
          rw [same]
          rfl
        exact absurd readmitted (not_readmitted wire)
    | ok bytes =>
        unfold Encodes
        rw [encoded]
        rfl
  · rintro ⟨rfl, free, encodes⟩
    obtain ⟨broker, registered⟩ : ∃ broker, Broker.register record.agentId connectionId world.broker =
        .ok broker := register_free fun other held => free other (holds.represented.registered ▸ held)
    have told : settle (registering library config connectionId errorRequestId first record turns
      (.ok ())) world = _ := (settle_onBroker registered).trans (settle_ownFrame encodes)
    obtain ⟨-, rfl⟩ := Broker.register_ok registered
    rw [told]
    constructor
    · exact Function.update_self record.agentId (some connectionId) world.broker.active
    · exact Function.update_self record.agentId (some connectionId) world.broker.connections
    · exact sentOn_send ..
    · exact fun _ _ _ _ differs object named member there =>
        holds.ended free differs object named member there
end Registering

/-- In every run, at every answer to a stream that comes to register: it is let in if and only if its
row was stored, nobody else is registered for its agent, and its AUTH_OK frame can be encoded. How long
ago the other one was heard from does not count. -/
theorem new_tunnel_let_in (library : Library) (config : BrokerConfig) {start : TunnelWorld}
    {pool : BrokerPool} {connectionId : ConnectionId} {errorRequestId : Str} {first : DecodedTunnelFrame}
    {record : AgentTunnelRecord} {turns : Nat} {seenAt : DateTime} {answer : Except Exc Unit}
    {world : TunnelWorld} (empty : start.broker = .empty)
    (reached : BrokerReachable library config start pool)
    (waiting : pool.tasks (.stream connectionId) = some (.call (.await (.updateLastSeen record.agentId seenAt))
      (registering library config connectionId errorRequestId first record turns)))
    (given : brokerWorld (.updateLastSeen record.agentId seenAt) answer pool.state world) : ∃ next,
    next = pool.advance (.stream connectionId)
      (registering library config connectionId errorRequestId first record turns answer) world ∧
    BrokerReachable library config start next ∧
    (Readmitted connectionId record.agentId first.frame.requestId world next.state ↔
      answer = .ok () ∧
      (∀ other, pool.state.broker.connections record.agentId = some other → other = connectionId) ∧
      Encodes library config ⟨.AUTH_OK, first.frame.requestId, none, []⟩) := by
  have same : world.broker = pool.state.broker := given
  have holds : Cleared config world.broker := same ▸ reachable_cleared empty reached
  refine ⟨_, rfl, reached.resume _ waiting answer world given, ?_⟩
  rw [← same]
  exact settle_registering holds

/-! An agent whose tunnel died logs in again. -/
section Login
variable {stream : AgentStream} {turns : Nat} {state : TunnelWorld} {bytes headerPrefix header : Bytes}
  {fields : List (Str × Json)} {first : DecodedTunnelFrame} {request : TunnelAuthRequest}
  {record : AgentTunnelRecord}

/-- The login of a stream, from one read to the next and on to the update of its row. -/
theorem settle_handle
    (read : IsFrame stream.library.json stream.config.maxFrameBytes bytes headerPrefix header fields first)
    (auth : first.frame.type = .AUTH)
    (decodes : decodeAuthPayload stream.library first.payload = .ok request)
    (bound : verifyPeerCertificateBinding request stream.peer = .ok ()) : ∃ opening,
    settle (stream.handle turns) state = (.call (.await (.readexactly 4)) opening, state) ∧
    ∀ one, ∃ heading, settle (opening (.ok headerPrefix)) one =
      (.call (.await (.readexactly (unpackLength headerPrefix))) heading, one) ∧
    ∀ two, ∃ filling, settle (heading (.ok header)) two =
      (.call (.await (.readexactly first.frame.payloadLength.toNat)) filling, two) ∧
    ∀ three, ∃ asking, settle (filling (.ok first.payload)) three =
      (.call (.await (.getAgent request.agentId)) asking, three) ∧
    ∀ given broker, checkRecord stream.library request (some record) (stream.now.getD three.clock) =
        .ok record →
      Broker.newConnection stream.config record stream.connectionId given.clock given.broker =
        .ok broker →
      settle (asking (.ok (some record))) given =
        (.call (.await (.updateLastSeen record.agentId given.clock))
          (registering stream.library stream.config stream.connectionId stream.errorRequestId first record
            turns), given.onBroker broker) := by
  have sized : ¬(unpackLength headerPrefix = 0 ∨ unpackLength headerPrefix > FRAME_HEADER_MAX_BYTES) := by
    have nonempty := read.nonempty
    have bounded := read.bounded
    omega
  obtain ⟨field, nonnegative, bounded⟩ := frameOfHeader_length read.accepted
  have small : ¬(first.frame.payloadLength < 0 ∨ first.frame.payloadLength > stream.config.maxFrameBytes) := by
    omega
  have decoded : decodeFrame stream.library.json (headerPrefix ++ header ++ first.payload)
      stream.config.maxFrameBytes = .ok first := by
    rw [← read.cut]
    exact decodeFrame_iff.mpr ⟨headerPrefix, header, fields, read⟩
  refine ⟨_, rfl, fun one => ?_⟩
  change ∃ heading, settle (Coro.outcome ((if unpackLength headerPrefix = 0 ∨
      unpackLength headerPrefix > FRAME_HEADER_MAX_BYTES then _ else _) >>= _) >>= _) one = _ ∧ _
  rw [if_neg sized]
  refine ⟨_, rfl, fun two => ?_⟩
  change ∃ filling, settle (Coro.outcome ((Coro.ofAnswer (loadFrameHeader stream.library.json header) >>=
      _) >>= _) >>= _) two = _ ∧ _
  rw [read.loaded]
  change ∃ filling, settle (Coro.outcome ((Coro.ofAnswer (integerField _
      (lookup (lit "payload_length") fields)) >>= _) >>= _) >>= _) two = _ ∧ _
  rw [field]
  change ∃ filling, settle (Coro.outcome ((if first.frame.payloadLength < 0 ∨
      first.frame.payloadLength > stream.config.maxFrameBytes then _ else _) >>= _) >>= _) two = _ ∧ _
  rw [if_neg small]
  refine ⟨_, rfl, fun three => ?_⟩
  change ∃ asking, settle (Coro.outcome (Coro.ofAnswer (decodeFrame stream.library.json
      (headerPrefix ++ header ++ first.payload) stream.config.maxFrameBytes) >>= _) >>= _) three = _ ∧ _
  rw [decoded]
  change ∃ asking, settle (Coro.outcome (if first.frame.type ≠ .AUTH then _ else do
      let request ← Coro.ofAnswer (decodeAuthPayload stream.library first.payload)
      Coro.ofAnswer (verifyPeerCertificateBinding request stream.peer)
      let world ← look
      let record ← authenticate stream.library request (stream.now.getD world.clock)
      pure (first, record)) >>= _) three = _ ∧ _
  rw [if_neg (not_not.mpr auth), decodes]
  change ∃ asking, settle (Coro.outcome (do
      Coro.ofAnswer (verifyPeerCertificateBinding request stream.peer)
      let world ← look
      let record ← authenticate stream.library request (stream.now.getD world.clock)
      pure (first, record)) >>= _) three = _ ∧ _
  rw [bound]
  refine ⟨_, rfl, fun given broker checked created => ?_⟩
  change settle (Coro.outcome (do
      let record ← Coro.ofAnswer (checkRecord stream.library request (some record)
        (stream.now.getD three.clock))
      pure (first, record)) >>= _) given = _
  rw [checked]
  exact settle_serve created

/-- From every state a stream whose login is checked comes to register. -/
theorem BrokerReachable.logged_in {start : TunnelWorld} {pool : BrokerPool} {broker : Broker}
    (reached : BrokerReachable stream.library stream.config start pool)
    (free : pool.tasks (.stream stream.connectionId) = none)
    (unused : Unused stream.connectionId pool.state.broker)
    (read : IsFrame stream.library.json stream.config.maxFrameBytes bytes headerPrefix header fields first)
    (auth : first.frame.type = .AUTH)
    (decodes : decodeAuthPayload stream.library first.payload = .ok request)
    (bound : verifyPeerCertificateBinding request stream.peer = .ok ())
    (checked : checkRecord stream.library request (some record) (stream.now.getD pool.state.clock) =
      .ok record)
    (created : Broker.newConnection stream.config record stream.connectionId pool.state.clock
      pool.state.broker = .ok broker) : ∃ next,
    BrokerReachable stream.library stream.config start next ∧ next.state = pool.state.onBroker broker ∧
    next.tasks = Function.update pool.tasks (.stream stream.connectionId)
      (some (.call (.await (.updateLastSeen record.agentId pool.state.clock))
        (registering stream.library stream.config stream.connectionId stream.errorRequestId first record
          turns))) := by
  obtain ⟨opening, started, reads⟩ := @settle_handle stream turns pool.state bytes headerPrefix header
    fields first request record read auth decodes bound
  obtain ⟨heading, opened, reads⟩ := reads pool.state
  obtain ⟨filling, headed, reads⟩ := reads pool.state
  obtain ⟨asking, filled, admits⟩ := reads pool.state
  obtain ⟨one, reached, state, tasks⟩ := reached.spawned (.stream stream.connectionId) free
    ⟨stream, turns, rfl, rfl, rfl, rfl, unused⟩ started
  obtain ⟨two, reached, state, tasks⟩ :=
    reached.resumed_beside tasks (.ok headerPrefix) (by exact congrArg _ state.symm) opened
  obtain ⟨three, reached, state, tasks⟩ :=
    reached.resumed_beside tasks (.ok header) (by exact congrArg _ state.symm) headed
  obtain ⟨four, reached, state, tasks⟩ :=
    reached.resumed_beside tasks (.ok first.payload) (by exact congrArg _ state.symm) filled
  exact reached.resumed_beside tasks (.ok (some record)) (by exact congrArg _ state.symm)
    (admits pool.state broker checked created)
end Login

/-- A row whose certificate is valid for long. -/
def rowLasting : AgentTunnelRecord := { rowOne with certExpiresAt := ⟨1000000000000, some 0⟩ }

/-- The agent's next stream. -/
def streamTwo : AgentStream := { streamOne with connectionId := lit "c2", errorRequestId := lit "e2" }

/-- Long after the first one was heard from. -/
def lateAt : DateTime := ⟨1000000000, some 0⟩

theorem relogin_facts : Encodes libraryOne streamOne.config loginFrame ∧
    (checkRecord libraryOne requestOne (some rowLasting) worldOne.clock).isOk = true ∧
    (checkRecord libraryOne requestOne (some rowLasting) lateAt).isOk = true := by
  decide +kernel

theorem rowLasting_admitted {now : DateTime}
    (admitted : (checkRecord libraryOne requestOne (some rowLasting) now).isOk = true) :
    checkRecord libraryOne requestOne (some rowLasting) now = .ok rowLasting := by
  cases checked : checkRecord libraryOne requestOne (some rowLasting) now with
  | error fault =>
      rw [checked] at admitted
      cases admitted
  | ok record =>
      have same := (checkRecord_ok _ checked).1
      rw [Option.some.inj same]

theorem login_read : ∃ bytes headerPrefix header fields,
    IsFrame libraryOne.json streamOne.config.maxFrameBytes bytes headerPrefix header fields
      loginFrame.decoded := by
  obtain ⟨bytes, encoded⟩ := relogin_facts.1.ok
  have scalar : loginFrame.ScalarIds := ⟨(lit_ascii (by decide)).scalarText, trivial⟩
  obtain ⟨headerPrefix, header, fields, frame⟩ := encode_isFrame scalar encoded
  exact ⟨bytes, headerPrefix, header, fields, frame⟩

/-- The connection of the first stream, last seen when it logged in. -/
def connectionLasting : BrokerTunnelConnection := { connectionOne with agent := rowLasting }

/-- The first stream of the agent comes to register. -/
theorem first_login : ∃ pool, BrokerReachable libraryOne streamOne.config worldOne pool ∧
    pool.state = worldOne.onBroker (Broker.empty.setObject (lit "c1") connectionLasting) ∧
    pool.tasks = Function.update (fun _ => none) (.stream (lit "c1"))
      (some (.call (.await (.updateLastSeen rowLasting.agentId worldOne.clock))
        (registering libraryOne streamOne.config (lit "c1") (lit "e1") loginFrame.decoded rowLasting 1))) := by
  obtain ⟨bytes, headerPrefix, header, fields, read⟩ := login_read
  obtain ⟨decodes, bound, -, -⟩ := login_facts
  have fresh : BrokerReachable libraryOne streamOne.config worldOne ⟨fun _ => none, worldOne⟩ := .start
  have unused : Unused (lit "c1") worldOne.broker := by
    refine ⟨fun agentId held => ?_, rfl⟩
    cases held
  exact @BrokerReachable.logged_in streamOne 1 bytes headerPrefix header fields loginFrame.decoded
    requestOne rowLasting worldOne _ _ fresh rfl unused read rfl decodes bound
    (rowLasting_admitted relogin_facts.2.1) rfl

/-- It finds the slot free. -/
theorem new_tunnel_let_in_first : ∃ pool next : BrokerPool,
    pool.state.broker.connections agentOne = none ∧
    BrokerReachable libraryOne streamOne.config worldOne next ∧
    Readmitted (lit "c1") agentOne loginFrame.decoded.frame.requestId pool.state next.state := by
  obtain ⟨pool, reached, state, tasks⟩ := first_login
  have waiting : pool.tasks (.stream (lit "c1")) = some (.call (.await (.updateLastSeen rowLasting.agentId
      worldOne.clock)) (registering libraryOne streamOne.config (lit "c1") (lit "e1") loginFrame.decoded
        rowLasting 1)) := by
    rw [tasks]
    exact Function.update_self ..
  have free : pool.state.broker.connections agentOne = none := by
    rw [state]
    rfl
  obtain ⟨next, -, later, readmitted⟩ := @new_tunnel_let_in libraryOne streamOne.config worldOne pool
    (lit "c1") (lit "e1") loginFrame.decoded rowLasting 1 worldOne.clock (.ok ()) pool.state rfl reached
    waiting rfl
  refine ⟨pool, next, free, later, readmitted.mpr ⟨rfl, fun other held => ?_, login_facts.2.2.2⟩⟩
  cases free.symm.trans held

/-- The first stream holds the slot, and waits for a frame that never comes. -/
theorem first_blocked : ∃ pool, BrokerReachable libraryOne streamOne.config worldOne pool ∧
    pool.state.clock = lateAt ∧
    pool.state.broker.connections agentOne = some (lit "c1") ∧
    pool.state.broker.objects (lit "c1") = some connectionLasting ∧
    Unused (lit "c2") pool.state.broker ∧ pool.tasks (.stream (lit "c2")) = none := by
  obtain ⟨pool, reached, state, tasks⟩ := first_login
  have registered : Broker.register rowLasting.agentId (lit "c1")
      (Broker.empty.setObject (lit "c1") connectionLasting) = .ok
        { Broker.empty.setObject (lit "c1") connectionLasting with
          active := Function.update (fun _ => none) agentOne (some (lit "c1"))
          connections := Function.update (fun _ => none) agentOne (some (lit "c1")) } := rfl
  obtain ⟨told, reached, state, tasks⟩ := reached.resumed_beside tasks (.ok ())
    (by exact congrArg _ state.symm) ((settle_onBroker registered).trans
      (settle_ownFrame login_facts.2.2.2))
  obtain ⟨resume, reading⟩ : ∃ resume, settle (guarded libraryOne (some rowLasting) (lit "c1") (lit "e1")
      (Coro.ofAnswer (.ok ()) >>= fun _ => forever (wait .never) (dispatchOne
        (readStream libraryOne streamOne.config) (lit "c1") rowLasting.agentId) 1))
      { told.state with clock := lateAt } =
        (.call (.await (.readexactly 4)) resume, { told.state with clock := lateAt }) := ⟨_, rfl⟩
  obtain ⟨late, reached, last, tasks⟩ := reached.resumed_beside tasks (.ok ()) (by exact rfl) reading
  have broker : late.state.broker = told.state.broker := (congrArg TunnelWorld.broker last).trans rfl
  rw [state] at broker
  have clock : late.state.clock = lateAt := (congrArg TunnelWorld.clock last).trans rfl
  refine ⟨late, reached, clock, ?_, ?_, ⟨fun agentId held => ?_, ?_⟩, ?_⟩
  · rw [broker]
    rfl
  · rw [broker]
    rfl
  · rw [broker] at held
    have slot : Function.update (fun _ => none) agentOne (some (lit "c1")) agentId = some (lit "c2") := held
    by_cases same : agentId = agentOne
    · rw [same, Function.update_self] at slot
      revert slot
      decide
    · rw [Function.update_of_ne same] at slot
      cases slot
  · rw [broker]
    rfl
  · rw [tasks]
    rfl

/-- The agent whose tunnel died logs in again and is refused. -/
theorem stale_tunnel_locks_out : ∃ pool connection,
    BrokerReachable libraryOne streamOne.config worldOne pool ∧
    pool.state.broker.connections agentOne = some (lit "c1") ∧
    pool.state.broker.objects (lit "c1") = some connection ∧
    connection.heartbeat.allowsNewJump pool.state.clock = false ∧
    pool.tasks (.stream (lit "c2")) = some (.call (.await (.updateLastSeen agentOne pool.state.clock))
      (registering libraryOne streamOne.config (lit "c2") (lit "e2") loginFrame.decoded rowLasting 1)) ∧
    BrokerReachable libraryOne streamOne.config worldOne (pool.advance (.stream (lit "c2"))
      (registering libraryOne streamOne.config (lit "c2") (lit "e2") loginFrame.decoded rowLasting 1
        (.ok ())) pool.state) ∧
    ¬Readmitted (lit "c2") agentOne loginFrame.decoded.frame.requestId pool.state
      (pool.advance (.stream (lit "c2")) (registering libraryOne streamOne.config (lit "c2") (lit "e2")
        loginFrame.decoded rowLasting 1 (.ok ())) pool.state).state := by
  obtain ⟨bytes, headerPrefix, header, fields, read⟩ := login_read
  obtain ⟨decodes, bound, -, -⟩ := login_facts
  obtain ⟨late, reached, clock, held, object, unused, free⟩ := first_blocked
  have created : ∃ broker, Broker.newConnection streamTwo.config rowLasting (lit "c2") late.state.clock
      late.state.broker = .ok broker := ⟨_, rfl⟩
  obtain ⟨broker, created⟩ := created
  obtain ⟨fresh, made, -⟩ := Broker.newConnection_ok created
  obtain ⟨pool, reached, state, tasks⟩ := @BrokerReachable.logged_in streamTwo 1 bytes headerPrefix header
    fields loginFrame.decoded requestOne rowLasting worldOne late broker reached free unused read rfl decodes
    bound (by rw [clock]; exact rowLasting_admitted relogin_facts.2.2) created
  have waiting : pool.tasks (.stream (lit "c2")) = some (.call (.await (.updateLastSeen agentOne
      late.state.clock)) (registering libraryOne streamOne.config (lit "c2") (lit "e2") loginFrame.decoded
        rowLasting 1)) := by
    rw [tasks]
    exact Function.update_self ..
  have later : pool.state.clock = late.state.clock := by
    rw [state]
    rfl
  have slot : pool.state.broker.connections agentOne = some (lit "c1") := by
    rw [state, made]
    exact held
  refine ⟨pool, connectionLasting, reached, slot, ?_, ?_, ?_, ?_, ?_⟩
  · rw [state, made]
    exact objects_setObject.mpr (.inr ⟨by decide, object⟩)
  · rw [later, clock]
    decide
  · rw [later]
    exact waiting
  · exact reached.resume _ waiting (.ok ()) pool.state rfl
  · intro readmitted
    have holds : Cleared streamOne.config pool.state.broker := reachable_cleared rfl reached
    obtain ⟨-, alone, -⟩ := (@settle_registering libraryOne streamOne.config (lit "c2") (lit "e2")
      loginFrame.decoded rowLasting 1 pool.state holds (.ok ())).mp readmitted
    have same : lit "c1" = lit "c2" := alone (lit "c1") slot
    revert same
    decide

end VibeConnect.TunnelReadmission
