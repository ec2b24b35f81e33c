import VibeConnect.Revocation
import VibeConnect.WireDiscipline

/-! Revocation over whole runs. A stream that reads a frame of a revoked agent
must end where its row is updated or where the frame is handled, and so reads no
other. Then the runs in which each such frame ends its tunnel cut the agent off;
the runs of the code go on with it. -/
namespace VibeConnect.Revocation
open Python.Text Python.JsonCodec Python.Values Python.Coroutine Python.Tasks Models TunnelProtocol
open TunnelState TunnelAuthenticator TunnelBroker BrokerCalls TunnelAdmission BrokerInvariant BrokerRuns
open TunnelLink (readNext arrive)

section Runs
variable {library : Library} {config : BrokerConfig} {connectionId : ConnectionId}
  {fact : TunnelWorld → Prop} {state : TunnelWorld}

abbrev Runs (config : BrokerConfig) (connectionId : ConnectionId) {α : Type} (program : TunnelTask α)
    (post : Except Exc α → TunnelWorld → Prop) (state : TunnelWorld) : Prop :=
  program.wp (answered (cutWorld (.stream connectionId)) (Cut config) (expects (some connectionId)))
    (obliged (Cut config) (promises (some connectionId))) post state

theorem wait_runs {call : TunnelCall} (unread : call ≠ .readFrame) (stable : Stable connectionId fact)
    (cut : Cut config state) (known : fact state) :
    Runs config connectionId (wait call) (fun _ after => Cut config after ∧ fact after) state := by
  apply call_safe cut
  intro answer resumed after expected still given
  have elsewhere := watchedWorld_elsewhere unread (cutWorld_watched given)
  exact ⟨elsewhere.cut still, stable.elsewhere _ _ elsewhere (stable.expected _ _ expected known)⟩

/-- Whoever goes on after the update of the row is about to be cut off. -/
theorem updateLastSeen_runs {agentId : Uuid} {now : DateTime} (stable : Stable connectionId fact)
    (cut : Cut config state) (known : fact state) :
    Runs config connectionId (wait (.updateLastSeen agentId now))
      (Coro.either (fun _ after => (Cut config after ∧ fact after) ∧ Cuts connectionId agentId after)
        fun _ after => Cut config after ∧ fact after) state := by
  apply call_safe cut
  intro answer resumed after expected still given
  have elsewhere := watchedWorld_elsewhere (by simp) (cutWorld_watched given)
  have kept := stable.elsewhere _ _ elsewhere (stable.expected _ _ expected known)
  cases answer with
  | error fault => exact ⟨elsewhere.cut still, kept⟩
  | ok _ =>
      have cuts : Cuts connectionId agentId resumed := And.left given
      exact ⟨⟨elsewhere.cut still, kept⟩, elsewhere.cuts cuts⟩

theorem onBroker_runs {block : Broker → Except Exc Broker} {next : TunnelWorld → Prop}
    (cut : Cut config state) (known : fact state)
    (changed : ∀ broker, block state.broker = .ok broker →
      Fair config (some connectionId) state (state.onBroker broker) ∧ next (state.onBroker broker)) :
    Runs config connectionId (onBroker block) (Coro.either (fun _ after => Cut config after ∧ next after)
      fun _ after => Cut config after ∧ fact after) state := by
  refine attempt_safe (promises_refl _ state) ?_ ?_
  · intro after done
    obtain ⟨broker, applied, done⟩ := bind_ok.mp done
    cases done
    obtain ⟨fair, reached⟩ := changed broker applied
    exact ⟨fair.promised, fair.cut, reached⟩
  · exact fun _ _ => ⟨cut, known⟩

/-- A frame of the stream's own. -/
theorem fair_send {frame : OutgoingFrame} (cut : Cut config state) (unaddressed : frame.channelId = none) :
    Fair config (some connectionId) state (state.send connectionId frame) := by
  refine fair_of cut (fun other apart => apart_send (.inl (not_owner apart))) ?_ rfl onward_send
    fun _ _ _ => id
  exact (represented_upheld config).told _ _ _ cut.represented unaddressed

theorem ownFrame_runs {frame : OutgoingFrame} {maxFrameBytes : Int} (stable : Stable connectionId fact)
    (cut : Cut config state) (known : fact state) (unmoved : fact (state.send connectionId frame))
    (unaddressed : frame.channelId = none) :
    Runs config connectionId (writeFrame library connectionId frame maxFrameBytes)
      (fun _ after => Cut config after ∧ fact after) state := by
  refine Coro.wp_bind (attempt_safe (promises_refl _ state) ?_ ?_)
  · intro after written
    obtain ⟨_, -, written⟩ := bind_ok.mp written
    cases written
    obtain ⟨promised, still⟩ := fair_send cut unaddressed
    exact ⟨promised, wait_runs (by simp) stable still unmoved⟩
  · exact fun _ _ => ⟨cut, known⟩

/-- What can be noted of a frame that was read. -/
def Noted (decoded : DecodedTunnelFrame) (frames : List OutgoingFrame) : Prop :=
  frames = [] ∨ ∃ frame, OutgoingFrame.decoded frame = decoded ∧ frames = [frame]

/-- The first frame after a revocation is noted, and it is the only one so far. -/
theorem readNext_runs {tables : Broker → Prop} (steady : Steady (some connectionId) tables)
    (owned : ∀ broker connection, Represented config broker → tables broker →
      broker.objects connectionId = some connection →
      broker.connections connection.agent.agentId = some connectionId)
    (cut : Cut config state) (known : Standing connectionId tables [] state) :
    Runs config connectionId readNext
      (Coro.either (fun decoded after => Cut config after ∧ ∃ frames,
          Standing connectionId tables frames after ∧ Noted decoded frames)
        fun _ after => Cut config after ∧ Standing connectionId tables [] after) state := by
  have stable := stable_standing steady []
  refine Coro.wp_bind (call_safe cut ?_)
  intro answer resumed after expected still given
  have known := stable.expected _ _ expected known
  have given : watchedWorld connectionId .readFrame answer resumed after := cutWorld_watched given
  rcases answer with fault | _ | decoded
  · have elsewhere : Elsewhere resumed after := given
    exact ⟨elsewhere.cut still, stable.elsewhere _ _ elsewhere known⟩
  · have elsewhere : Elsewhere resumed after := given
    exact ⟨elsewhere.cut still, stable.elsewhere _ _ elsewhere known⟩
  obtain ⟨frame, middle, same, elsewhere, ⟨⟨connection, object, revoked⟩, rfl⟩ | ⟨-, rfl⟩⟩ := given
  · have held := owned _ _ still.represented known.1 object
    have before := elsewhere.cut still
    have empty : middle.received connectionId = [] := (stable.elsewhere _ _ elsewhere known).2
    have noted : (arrive connectionId frame middle).received connectionId = [frame] := by
      refine (Function.update_self connectionId _ middle.received).trans ?_
      rw [empty, List.nil_append]
    have other : ∀ id, id ≠ connectionId →
        (arrive connectionId frame middle).received id = middle.received id :=
      fun id apart => Function.update_of_ne apart _ _
    refine ⟨⟨before.represented, fun id => ?_, fun id read => ?_⟩, [frame], ⟨?_, noted⟩,
      .inr ⟨frame, same, rfl⟩⟩
    · by_cases mine : id = connectionId
      · rw [mine, noted, List.length_singleton]
      · rw [other id mine]
        exact before.single id
    · by_cases mine : id = connectionId
      · subst mine
        refine ⟨connection, elsewhere.broker ▸ object, elsewhere.revoked _ revoked, fun next slot => ?_⟩
        have slot : middle.broker.connections connection.agent.agentId = some next := slot
        rw [elsewhere.broker, held] at slot
        exact (Option.some.inj slot).symm
      · rw [other id mine] at read
        exact before.last id read
    · exact elsewhere.broker.symm ▸ known.1
  · exact ⟨elsewhere.cut still, [], stable.elsewhere _ _ elsewhere known, .inl rfl⟩

theorem admission_runs {peer : PeerCertificateBinding} {now : Option DateTime} (cut : Cut config state)
    (known : Standing connectionId (Unused connectionId) [] state) :
    Runs config connectionId (admission library readNext peer now)
      (fun _ after => Cut config after ∧ Standing connectionId (Unused connectionId) [] after) state := by
  have owned : ∀ broker connection, Represented config broker → Unused connectionId broker →
      broker.objects connectionId = some connection →
      broker.connections connection.agent.agentId = some connectionId := by
    intro broker connection _ unused object
    cases unused.2.symm.trans object
  refine Coro.wp_bind (Coro.wp_mono ?_ (readNext_runs steady_unused owned cut known))
  rintro (fault | first) read reached
  · exact reached
  obtain ⟨cut, frames, ⟨unused, same⟩, -⟩ := reached
  have kept : Cut config read ∧ Standing connectionId (Unused connectionId) [] read :=
    ⟨cut, unused, cut.unused unused.2⟩
  dsimp only
  split
  · exact kept
  refine Coro.wp_bind (Coro.wp_ofAnswer ?_)
  cases decodeAuthPayload library first.payload with
  | error fault => exact kept
  | ok request =>
  refine Coro.wp_bind (Coro.wp_ofAnswer ?_)
  cases verifyPeerCertificateBinding request peer with
  | error fault => exact kept
  | ok _ =>
  refine Coro.wp_bind (look_safe ?_)
  refine Coro.wp_bind (Coro.wp_bind (Coro.wp_mono ?_
    (wait_runs (by simp) (stable_standing steady_unused []) kept.1 kept.2)))
  rintro (fault | row) given kept
  · exact kept
  refine Coro.wp_ofAnswer ?_
  cases checkRecord library request row (now.getD read.clock) with
  | error fault => exact kept
  | ok record => exact kept

/-- A frame is handled when none was noted, so its agent may still feed its streams. -/
theorem fair_handled {agentId : Uuid} {decoded : DecodedTunnelFrame} {broker : Broker}
    (cut : Cut config state) (known : Standing connectionId (Held connectionId agentId) [] state)
    (handled : Broker.handleAgentFrame connectionId decoded state.broker = .ok broker) :
    Fair config (some connectionId) state (state.onBroker broker) ∧
      Standing connectionId (Held connectionId agentId) [] (state.onBroker broker) := by
  obtain ⟨owed, same⟩ := handleAgentFrame_owes handled
  have represented := (represented_upheld config).handled _ _ _ _ cut.represented handled
  have onward : Onward state (state.onBroker broker) := by
    rcases Broker.handleAgentFrame_ok handled with rfl |
      ⟨channelId, connection, stream, -, object, -, -, -, rfl⟩ |
      ⟨channelId, connection, channels, stream, -, object, -, found, rfl⟩
    · exact .refl state
    · apply onward_setStream object
      intro silenced
      -- whoever has the slot of a silenced agent is the one its last frame came from
      obtain ⟨again, there, named⟩ := cut.represented.live agentId connectionId known.1
      cases object.symm.trans there
      exact absurd known.2 (cut.holder silenced (named.symm ▸ known.1))
    · have fed : Onward state
          (state.onBroker (state.broker.setStream connectionId channelId stream.feedEof)) := by
        apply onward_setStream object
        intro _
        rw [buffered, found]
        exact List.suffix_rfl
      exact fed.trans (onward_retired object)
  refine ⟨fair_of cut owed represented rfl onward fun other _ _ held => ?_, ?_, known.2⟩
  · exact (congrFun same other).symm.trans held
  · exact (congrFun same agentId).trans known.1

theorem fair_seen {seenAt : DateTime} {broker : Broker} (cut : Cut config state)
    (marked : Broker.markSeen connectionId seenAt state.broker = .ok broker) :
    Fair config (some connectionId) state (state.onBroker broker) ∧
      broker.connections = state.broker.connections := by
  have represented := (represented_upheld config).seen _ _ _ _ cut.represented marked
  obtain ⟨connection, object, rfl⟩ := Broker.markSeen_ok marked
  refine ⟨fair_of cut (fun _ apart => apart_setObject (not_owner apart)) represented rfl ?_
    fun _ _ _ => id, rfl⟩
  apply onward_setObject
  intro earlier found
  cases object.symm.trans found
  rfl

theorem dispatch_runs {agentId : Uuid} (cut : Cut config state)
    (known : Standing connectionId (Held connectionId agentId) [] state) :
    Runs config connectionId (dispatchOne readNext connectionId agentId)
      (Coro.either
        (fun _ after => Cut config after ∧ Standing connectionId (Held connectionId agentId) [] after)
        fun _ after => Cut config after ∧ Held connectionId agentId after.broker) state := by
  have owned : ∀ broker connection, Represented config broker → Held connectionId agentId broker →
      broker.objects connectionId = some connection →
      broker.connections connection.agent.agentId = some connectionId := by
    intro broker connection represented held object
    obtain ⟨again, there, named⟩ := represented.live agentId connectionId held
    cases object.symm.trans there
    exact named.symm ▸ held
  refine Coro.wp_bind (Coro.wp_mono ?_ (readNext_runs steady_held owned cut known))
  rintro (fault | decoded) read reached
  · exact ⟨reached.1, reached.2.1⟩
  obtain ⟨cut, frames, known, noted⟩ := reached
  have marks : ∀ broker, Broker.markSeen connectionId read.clock read.broker = .ok broker →
      Fair config (some connectionId) read (read.onBroker broker) ∧
        Standing connectionId (Held connectionId agentId) frames (read.onBroker broker) := by
    intro broker marked
    obtain ⟨fair, same⟩ := fair_seen cut marked
    exact ⟨fair, (congrFun same agentId).trans known.1, known.2⟩
  refine Coro.wp_bind (look_safe (Coro.wp_bind (Coro.wp_mono ?_ (onBroker_runs cut known marks))))
  rintro (fault | _) marked ⟨cut, known⟩
  · exact ⟨cut, known.1⟩
  refine Coro.wp_bind (Coro.wp_mono ?_ (updateLastSeen_runs (stable_standing steady_held frames) cut known))
  rintro (fault | _) stored reached
  · exact ⟨reached.1, reached.2.1⟩
  obtain ⟨⟨cut, known⟩, cuts⟩ := reached
  have handles : ∀ broker, Broker.handleAgentFrame connectionId decoded stored.broker = .ok broker →
      Fair config (some connectionId) stored (stored.onBroker broker) ∧
        Standing connectionId (Held connectionId agentId) [] (stored.onBroker broker) := by
    intro broker handled
    rcases noted with rfl | ⟨frame, rfl, rfl⟩
    · exact fair_handled cut known handled
    · obtain ⟨fault, rejected⟩ := cuts.rejects frame (known.2.symm ▸ List.mem_singleton_self frame)
      cases rejected.symm.trans handled
  refine Coro.wp_mono ?_ (onBroker_runs cut known handles)
  rintro (fault | _) after kept
  · exact ⟨kept.1, kept.2.1⟩
  · exact kept

theorem forever_runs {agentId : Uuid} {turns : Nat} (cut : Cut config state)
    (known : Standing connectionId (Held connectionId agentId) [] state) :
    Runs config connectionId (forever (wait .never) (dispatchOne readNext connectionId agentId) turns)
      (fun _ after => Cut config after ∧ Held connectionId agentId after.broker) state := by
  induction turns generalizing state with
  | zero => exact wait_runs (by simp) (stable_broker steady_held) cut known.1
  | succ turns ih =>
      refine Coro.wp_bind (Coro.wp_mono ?_ (dispatch_runs cut known))
      rintro (fault | _) after reached
      · exact reached
      · exact ih reached.1 reached.2

theorem fair_created {record : AgentTunnelRecord} {seenAt : DateTime} {broker : Broker}
    (cut : Cut config state) (unused : Unused connectionId state.broker)
    (created : Broker.newConnection config record connectionId seenAt state.broker = .ok broker) :
    Fair config (some connectionId) state (state.onBroker broker) := by
  obtain ⟨owed, -⟩ := newConnection_owes unused created
  have represented := (represented_upheld config).created _ _ _ _ _ cut.represented unused created
  obtain ⟨connection, rfl, -⟩ := Broker.newConnection_ok created
  refine fair_of cut owed represented rfl ?_ fun _ _ _ => id
  apply onward_setObject
  intro earlier found
  cases unused.2.symm.trans found

/-- A stream only takes the slot of an agent that is not silenced. -/
theorem fair_registered {record : AgentTunnelRecord} {broker : Broker} (cut : Cut config state)
    (prepared : Prepared connectionId record state.broker)
    (cuts : Cuts connectionId record.agentId state)
    (registered : Broker.register record.agentId connectionId state.broker = .ok broker) :
    Fair config (some connectionId) state (state.onBroker broker) := by
  obtain ⟨owed, -⟩ := register_owes cut.represented registered
  have represented := (represented_upheld config).registered _ _ _ _ cut.represented prepared registered
  refine fair_of cut owed represented rfl (onward_register registered) fun agentId other silenced held => ?_
  have apart : agentId ≠ record.agentId := by
    rintro rfl
    obtain ⟨fault, refused⟩ := cuts.refuses silenced (prepared.1 _)
    cases refused.symm.trans registered
  obtain ⟨-, rfl⟩ := Broker.register_ok registered
  exact (Function.update_of_ne apart _ _).symm.trans held

theorem serve_runs {first : DecodedTunnelFrame} {record : AgentTunnelRecord} {turns : Nat}
    (cut : Cut config state) (known : Standing connectionId (Unused connectionId) [] state) :
    Runs config connectionId (serve library config readNext connectionId first record turns)
      (fun _ after => Cut config after ∧ Along connectionId record after.broker) state := by
  have creates : ∀ broker,
      Broker.newConnection config record connectionId state.clock state.broker = .ok broker →
      Fair config (some connectionId) state (state.onBroker broker) ∧
        Standing connectionId (Prepared connectionId record) [] (state.onBroker broker) :=
    fun broker created =>
      ⟨fair_created cut known.1 created, (newConnection_owes known.1 created).2, known.2⟩
  refine Coro.wp_bind (look_safe (Coro.wp_bind (Coro.wp_mono ?_ (onBroker_runs cut known creates))))
  rintro (fault | _) created ⟨cut, known⟩
  · exact ⟨cut, .inl known.1⟩
  refine Coro.wp_bind (Coro.wp_mono ?_ (updateLastSeen_runs (stable_standing steady_prepared []) cut known))
  rintro (fault | _) stored reached
  · exact ⟨reached.1, .inr (.inl reached.2.1)⟩
  obtain ⟨⟨cut, known⟩, cuts⟩ := reached
  have registers : ∀ broker, Broker.register record.agentId connectionId stored.broker = .ok broker →
      Fair config (some connectionId) stored (stored.onBroker broker) ∧
        Standing connectionId (Held connectionId record.agentId) [] (stored.onBroker broker) :=
    fun broker registered => ⟨fair_registered cut known.1 cuts registered,
      (register_owes cut.represented registered).2, known.2⟩
  refine Coro.wp_bind (Coro.wp_mono ?_ (onBroker_runs cut known registers))
  rintro (fault | _) registered ⟨cut, known⟩
  · exact ⟨cut, .inr (.inl known.1)⟩
  refine Coro.wp_bind (Coro.wp_mono ?_
    (ownFrame_runs (stable_standing steady_held []) cut known known rfl))
  rintro (fault | _) written ⟨cut, known⟩
  · exact ⟨cut, .inr (.inr known.1)⟩
  · exact Coro.wp_mono (fun _ _ kept => ⟨kept.1, .inr (.inr kept.2)⟩) (forever_runs cut known)

section Ending
variable {tables : Broker → Prop}

theorem streamFault_runs {requestId : Str} {raised : Exc} (steady : Steady (some connectionId) tables)
    (unmoved : Unmoved connectionId tables) (cut : Cut config state) (known : tables state.broker) :
    Runs config connectionId (streamFault library connectionId requestId raised)
      (fun _ after => Cut config after ∧ tables after.broker) state := by
  have told : Runs config connectionId (bestEffortError library connectionId requestId)
      (fun _ after => Cut config after ∧ tables after.broker) state := by
    refine Coro.wp_handle (Coro.wp_mono ?_
      (ownFrame_runs (stable_broker steady) cut known (unmoved _ _ known) rfl))
    rintro (fault | _) after kept
    · dsimp only
      split
      · exact kept
      · exact kept
    · exact kept
  unfold streamFault
  split
  · exact ⟨cut, known⟩
  · exact ⟨cut, known⟩
  · exact ⟨cut, known⟩
  · exact told
  · exact told
  · exact told
  · exact ⟨cut, known⟩

theorem fair_left {record : AgentTunnelRecord} (cut : Cut config state)
    (along : Along connectionId record state.broker) :
    Fair config (some connectionId) state
      (state.onBroker (state.broker.dropConnection record.agentId connectionId)) := by
  have represented := (represented_upheld config).dropped _ _ _ cut.represented along
  refine fair_of cut (fun _ apart => apart_dropConnection (not_owner apart) cut.represented) represented
    rfl (onward_dropConnection cut.represented) fun _ _ _ held => ?_
  exact Broker.dropConnection_connections _ _ _ held

theorem cleanup_runs {authenticated : Option AgentTunnelRecord} (cut : Cut config state)
    (known : match authenticated with
      | none => Unused connectionId state.broker
      | some record => Along connectionId record state.broker) :
    Runs config connectionId (streamCleanup authenticated connectionId)
      (fun _ after => Cut config after ∧ Gone connectionId after.broker) state := by
  cases authenticated with
  | none => exact wait_runs (by simp) (stable_broker steady_gone) cut known.gone
  | some record =>
      refine Coro.wp_bind (attempt_safe (promises_refl _ state) ?_ ?_)
      · intro after dropped
        cases dropped
        obtain ⟨promised, still⟩ := fair_left cut known
        refine ⟨promised, ?_⟩
        exact wait_runs (by simp) (stable_broker steady_gone) still
          (dropConnection_gone cut.represented known)
      · intro fault impossible
        cases impossible

theorem guarded_runs {authenticated : Option AgentTunnelRecord} {requestId : Str}
    {body : TunnelTask Unit} (steady : Steady (some connectionId) tables)
    (unmoved : Unmoved connectionId tables)
    (known : ∀ broker, tables broker → match authenticated with
      | none => Unused connectionId broker
      | some record => Along connectionId record broker)
    (ran : Runs config connectionId body (fun _ after => Cut config after ∧ tables after.broker) state) :
    Runs config connectionId (guarded library authenticated connectionId requestId body)
      (fun _ after => Cut config after ∧ Gone connectionId after.broker) state := by
  have caught : Runs config connectionId (tryCatch body (streamFault library connectionId requestId))
      (fun _ after => Cut config after ∧ tables after.broker) state := by
    refine Coro.wp_handle (Coro.wp_mono ?_ ran)
    rintro (fault | _) after ⟨cut, kept⟩
    · exact streamFault_runs steady unmoved cut kept
    · exact ⟨cut, kept⟩
  refine Coro.wp_finallyDo (Coro.wp_mono ?_ caught)
  rintro _ after ⟨cut, kept⟩
  refine Coro.wp_mono ?_ (cleanup_runs cut (known _ kept))
  rintro (fault | _) last gone <;> exact gone
end Ending

theorem handle_safe {peer : PeerCertificateBinding} {now : Option DateTime} {requestId : Str}
    {turns : Nat} (cut : Cut config state) (unused : Unused connectionId state.broker) :
    Safe (cutWorld (.stream connectionId)) (Cut config) (contract (some connectionId))
      (handleStream library config readNext peer now connectionId requestId turns) state := by
  have known : Standing connectionId (Unused connectionId) [] state := ⟨unused, cut.unused unused.2⟩
  have runs : Runs config connectionId
      (handleStream library config readNext peer now connectionId requestId turns)
      (fun _ after => Cut config after ∧ Gone connectionId after.broker) state := by
    refine Coro.wp_bind (Coro.wp_outcome (Coro.wp_mono ?_ (admission_runs cut known)))
    rintro (raised | ⟨first, record⟩) after ⟨cut, known⟩
    · exact guarded_runs steady_unused (fun _ _ kept => kept) (fun _ kept => kept) ⟨cut, known.1⟩
    · exact guarded_runs steady_along (fun _ _ kept => kept) (fun _ kept => kept) (serve_runs cut known)
  refine Coro.wp_mono ?_ runs
  rintro outcome after ⟨cut, gone⟩
  refine ⟨cut, fun other same => ?_⟩
  cases same
  exact gone
end Runs

/-! The calls of the jump code. -/
section Calls
variable {library : Library} {config : BrokerConfig} {state : TunnelWorld} {channelId : ChannelId}

theorem calls_safe {program : TunnelTask Unit}
    (calls : Calls (fun _ _ => Elsewhere) (Cut config) (expects none) (promises none) program
      (fun _ after => Cut config after) state) :
    Safe (fun _ _ => Elsewhere) (Cut config) (contract none) program state := by
  refine Coro.wp_mono ?_ calls
  intro outcome after cut
  refine ⟨cut, fun connectionId impossible => ?_⟩
  cases impossible

theorem maySend_cut (cut : Cut config state) :
    MaySend (fun _ _ => Elsewhere) (Cut config) (promises none) channelId state where
  holds := cut
  still := promises_refl none state
  drained _ _ _ elsewhere := elsewhere.cut
  sent connectionId frame isOpen named _ := by
    obtain ⟨agentId, connection, -, held, -, -⟩ := Broker.openConnection_ok isOpen
    obtain ⟨promised, still⟩ := fair_of cut (owes_send held)
      (channelFrame_represented cut.represented isOpen named) rfl onward_send fun _ _ _ => id
    exact ⟨promised, still⟩

theorem fair_retired {connectionId : ConnectionId} {broker : Broker} (cut : Cut config state)
    (closed : Broker.retireChannel connectionId channelId state.broker = .ok broker) :
    Fair config none state (state.onBroker broker) := by
  obtain ⟨owed, represented⟩ := retireChannel_represented cut.represented closed
  obtain ⟨connection, channels, object, -, rfl⟩ := Broker.retireChannel_ok closed
  exact fair_of cut owed represented rfl (onward_retired object) fun _ _ _ => id

/-- A channel may still be opened while the last frame is dealt with. -/
theorem fair_opened {agentId : Uuid} {hostKey username certificateUsername : Str} {broker : Broker}
    {connectionId : ConnectionId} (cut : Cut config state) (unseen : Unseen channelId state.broker)
    (opened : state.broker.openChannel agentId channelId hostKey username certificateUsername
      state.clock = .ok (broker, connectionId)) :
    Fair config none state (state.onBroker broker) ∧ ∀ frame, frame.channelId = some channelId →
      Fair config none (state.onBroker broker) ((state.onBroker broker).send connectionId frame) := by
  obtain ⟨owed, represented, announced⟩ := openChannel_represented cut.represented unseen opened
  obtain ⟨connection, channels, -, object, -, -, rfl⟩ := Broker.openChannel_ok opened
  have first := fair_of cut owed represented rfl (onward_opened object) fun _ _ _ => id
  refine ⟨first, fun frame named => ?_⟩
  obtain ⟨sent, kept⟩ := announced frame named
  exact fair_of first.cut sent kept rfl onward_send fun _ _ _ => id

theorem openSession_safe {agentId : Uuid}
    {nodeName hostKey username certificateUsername requestId : Str} (cut : Cut config state)
    (unseen : Unseen channelId state.broker) :
    Safe (fun _ _ => Elsewhere) (Cut config) (contract none)
      (openSession library config agentId channelId nodeName hostKey username certificateUsername
        requestId) state := by
  apply calls_safe
  apply openSession_calls cut (promises_refl none) (fun _ _ _ elsewhere => elsewhere.cut)
  intro broker connectionId opened
  obtain ⟨first, announced⟩ := fair_opened cut unseen opened
  refine ⟨first.promised, fun _ => first.cut, fun frame _ named => ?_⟩
  exact ⟨(announced frame named).promised, (announced frame named).cut⟩

theorem brokerCall_safe {program : TunnelTask Unit} (cut : Cut config state)
    (called : BrokerCall library config program) :
    Safe (fun _ _ => Elsewhere) (Cut config) (contract none) program state := by
  apply calls_safe
  cases called with
  | sendData => exact sendData_calls (maySend_cut cut)
  | resizePty => exact resizePty_calls (maySend_cut cut)
  | closeSession =>
      apply closeSession_calls (maySend_cut cut) (promises_refl none)
      intro connectionId before after broker elsewhere cut closed
      have fair := fair_retired (elsewhere.cut cut) closed
      exact ⟨fair.promised, fair.cut⟩
  | connectorForAgent =>
      refine Coro.wp_bind (Coro.wp_mono ?_ (connectorForAgent_calls cut))
      rintro (fault | found) after kept <;> exact kept
end Calls

/-! Where a stream stands from one call to the next. -/
section Settling
variable {library : Library} {config : BrokerConfig} {connectionId : ConnectionId} {requestId : Str}
  {authenticated : Option AgentTunnelRecord} {state : TunnelWorld}

theorem settle_onBroker {block : Broker → Except Exc Broker} {next : Unit → TunnelTask Unit}
    {broker : Broker} (done : block state.broker = .ok broker) :
    settle (guarded library authenticated connectionId requestId (onBroker block >>= next)) state =
      settle (guarded library authenticated connectionId requestId (next ())) (state.onBroker broker) := by
  apply settle_attempt_within
  · exact fun _ _ => rfl
  · rw [done]
    rfl

theorem settle_ownFrame {frame : OutgoingFrame} {next : Unit → TunnelTask Unit}
    (encodes : Encodes library config frame) :
    settle (guarded library authenticated connectionId requestId
        (writeFrame library connectionId frame config.maxFrameBytes >>= next)) state =
      (.call (.await .drain) fun answer => guarded library authenticated connectionId requestId
        (Coro.ofAnswer answer >>= next), state.send connectionId frame) := by
  obtain ⟨bytes, encoded⟩ := encodes.ok
  unfold writeFrame
  rw [bind_assoc]
  have written : (do
      let _ ← frame.encode library.json config.maxFrameBytes
      .ok (state.send connectionId frame) : Except Exc TunnelWorld) =
        .ok (state.send connectionId frame) := by
    rw [encoded]
    rfl
  exact settle_attempt_within (fun _ _ => rfl) written

/-- A turn of the dispatch loop up to the update of the row. -/
theorem settle_turn {agentId : Uuid} {turns : Nat} : ∃ resume,
    settle (guarded library authenticated connectionId requestId (Coro.ofAnswer (.ok ()) >>= fun _ =>
      forever (wait .never) (dispatchOne readNext connectionId agentId) (turns + 1))) state =
        (.call (.await .readFrame) resume, state) ∧
    ∀ decoded after broker, Broker.markSeen connectionId after.clock after.broker = .ok broker →
      settle (resume (.ok (some decoded))) after =
        (.call (.await (.updateLastSeen agentId after.clock)) fun answer =>
          guarded library authenticated connectionId requestId
            ((Coro.ofAnswer answer >>= fun _ => onBroker (Broker.handleAgentFrame connectionId decoded)) >>=
              fun _ => forever (wait .never) (dispatchOne readNext connectionId agentId) turns),
          after.onBroker broker) := by
  refine ⟨_, rfl, fun decoded after broker marked => ?_⟩
  change settle (guarded library authenticated connectionId requestId ((do
    onBroker (Broker.markSeen connectionId after.clock)
    wait (.updateLastSeen agentId after.clock)
    onBroker (Broker.handleAgentFrame connectionId decoded)) >>= fun _ =>
      forever (wait .never) (dispatchOne readNext connectionId agentId) turns)) after = _
  rw [bind_assoc, settle_onBroker marked]
  rfl

theorem settle_handled {agentId : Uuid} {turns : Nat} {decoded : DecodedTunnelFrame} {broker : Broker}
    (handled : Broker.handleAgentFrame connectionId decoded state.broker = .ok broker) :
    settle (guarded library authenticated connectionId requestId
      ((Coro.ofAnswer (.ok ()) >>= fun _ => onBroker (Broker.handleAgentFrame connectionId decoded)) >>=
        fun _ => forever (wait .never) (dispatchOne readNext connectionId agentId) turns)) state =
      settle (guarded library authenticated connectionId requestId
        (forever (wait .never) (dispatchOne readNext connectionId agentId) turns)) (state.onBroker broker) :=
  settle_onBroker handled

theorem settle_registered {record : AgentTunnelRecord} {first : DecodedTunnelFrame} {turns : Nat}
    {broker : Broker} (registered : Broker.register record.agentId connectionId state.broker = .ok broker)
    (encodes : Encodes library config ⟨.AUTH_OK, first.frame.requestId, none, []⟩) :
    settle (guarded library (some record) connectionId requestId (Coro.ofAnswer (.ok ()) >>= fun _ => do
      onBroker (Broker.register record.agentId connectionId)
      writeFrame library connectionId ⟨.AUTH_OK, first.frame.requestId, none, []⟩ config.maxFrameBytes
      forever (wait .never) (dispatchOne readNext connectionId record.agentId) turns)) state =
    (.call (.await .drain) fun answer => guarded library (some record) connectionId requestId
      (Coro.ofAnswer answer >>= fun _ =>
        forever (wait .never) (dispatchOne readNext connectionId record.agentId) turns),
      (state.onBroker broker).send connectionId ⟨.AUTH_OK, first.frame.requestId, none, []⟩) :=
  (settle_onBroker registered).trans (settle_ownFrame encodes)

theorem settle_login {peer : PeerCertificateBinding} {now : Option DateTime} {turns : Nat}
    {first : DecodedTunnelFrame} {request : TunnelAuthRequest} {record : AgentTunnelRecord}
    (auth : first.frame.type = .AUTH) (decodes : decodeAuthPayload library first.payload = .ok request)
    (bound : verifyPeerCertificateBinding request peer = .ok ()) : ∃ resume,
    settle (handleStream library config readNext peer now connectionId requestId turns) state =
      (.call (.await .readFrame) resume, state) ∧
    ∀ after, ∃ answered, settle (resume (.ok (some first))) after =
        (.call (.await (.getAgent request.agentId)) answered, after) ∧
      ∀ given broker, checkRecord library request (some record) (now.getD after.clock) = .ok record →
        Broker.newConnection config record connectionId given.clock given.broker = .ok broker →
        settle (answered (.ok (some record))) given =
          (.call (.await (.updateLastSeen record.agentId given.clock)) fun answer =>
            guarded library (some record) connectionId requestId (Coro.ofAnswer answer >>= fun _ => do
              onBroker (Broker.register record.agentId connectionId)
              writeFrame library connectionId ⟨.AUTH_OK, first.frame.requestId, none, []⟩
                config.maxFrameBytes
              forever (wait .never) (dispatchOne readNext connectionId record.agentId) turns),
            given.onBroker broker) := by
  refine ⟨_, rfl, fun after => ?_⟩
  change ∃ answered, settle (Coro.outcome (if first.frame.type ≠ .AUTH then
      throw (.tunnelAuthError "tunnel must start with auth")
    else do
      let request ← Coro.ofAnswer (decodeAuthPayload library first.payload)
      Coro.ofAnswer (verifyPeerCertificateBinding request peer)
      let world ← look
      let record ← authenticate library request (now.getD world.clock)
      pure (first, record)) >>= _) after = _ ∧ _
  rw [if_neg (not_not.mpr auth), decodes]
  change ∃ answered, settle (Coro.outcome (do
      Coro.ofAnswer (verifyPeerCertificateBinding request peer)
      let world ← look
      let record ← authenticate library request (now.getD world.clock)
      pure (first, record)) >>= _) after = _ ∧ _
  rw [bound]
  refine ⟨_, rfl, fun given broker checked created => ?_⟩
  change settle (Coro.outcome (do
      let record ← Coro.ofAnswer (checkRecord library request (some record) (now.getD after.clock))
      pure (first, record)) >>= _) given = _
  rw [checked]
  exact settle_onBroker created

/-- A cancelled stream leaves the broker and closes its writer. -/
theorem settle_cancelled {record : AgentTunnelRecord} {next : Unit → TunnelTask Unit} : ∃ close,
    settle (guarded library (some record) connectionId requestId
        (Coro.ofAnswer (.error .cancelledError) >>= next)) state =
      (.call (.await .waitClosed) close,
        state.onBroker (state.broker.dropConnection record.agentId connectionId)) ∧
    close (.ok ()) = .raise .cancelledError := ⟨_, rfl, rfl⟩
end Settling

/-! All of them together. -/
section Pool
variable {library : Library} {config : BrokerConfig}

abbrev CutReachable (library : Library) (config : BrokerConfig) (start : TunnelWorld)
    (pool : BrokerPool) : Prop :=
  Reachable cutWorld (revocablePrograms library config) start pool

theorem cutWorld_promises (task : BrokerTask) (call : TunnelCall)
    (answer : Except Exc (TunnelResult call)) (before after : TunnelWorld)
    (given : cutWorld task call answer before after) : promises task.owner before after := by
  cases task with
  | stream connectionId =>
      obtain ⟨onward, others⟩ := watchedWorld_onward (cutWorld_watched given)
      have same := watchedWorld_broker (cutWorld_watched given)
      exact ⟨fun other apart => ⟨apart_of_broker same, others other (not_owner apart)⟩, onward⟩
  | opening channelId =>
      have elsewhere : Elsewhere before after := given
      exact ⟨fun other _ => ⟨apart_of_broker elsewhere.broker, congrFun elsewhere.received other⟩,
        elsewhere.onward⟩
  | call serial =>
      have elsewhere : Elsewhere before after := given
      exact ⟨fun other _ => ⟨apart_of_broker elsewhere.broker, congrFun elsewhere.received other⟩,
        elsewhere.onward⟩

theorem programs_safe (task : BrokerTask) (program : TunnelTask Unit) (state : TunnelWorld)
    (started : revocablePrograms library config task program state) (cut : Cut config state) :
    Safe (cutWorld task) (Cut config) (contract task.owner) program state := by
  cases task with
  | stream connectionId =>
      obtain ⟨peer, now, requestId, turns, rfl, unused⟩ := started
      exact handle_safe cut unused
  | opening channelId =>
      obtain ⟨agentId, nodeName, hostKey, username, certificateUsername, requestId, rfl, unseen⟩ := started
      exact openSession_safe cut unseen
  | call serial => exact brokerCall_safe cut started

/-- Nothing was read from a connection before its stream was started. -/
def Unread (task : BrokerTask) (world : TunnelWorld) : Prop :=
  ∀ connectionId, task = .stream connectionId → world.received connectionId = []

theorem cut_pool {start : TunnelWorld} {pool : BrokerPool} (empty : start.broker = .empty)
    (unread : ∀ connectionId, start.received connectionId = [])
    (reached : CutReachable library config start pool) :
    pool.Safe cutWorld (Cut config) (fun task => contract task.owner) ∧
      ∀ task, pool.tasks task = none → Unread task pool.state := by
  have initial : Cut config start := by
    refine ⟨empty ▸ .empty config, fun connectionId => ?_, fun connectionId read => ?_⟩
    · rw [unread connectionId]
      exact Nat.zero_le 1
    · exact absurd (unread connectionId) read
  refine reachable_quiet Unread (fun task => contract_lawful task.owner) ?_ ?_ cutWorld_promises ?_
    initial (fun _ connectionId _ => unread connectionId) reached
  · exact fun task other before after apart promised => owner_apart apart promised
  · intro task other before after apart promised unread connectionId named
    subst named
    have same := ((owner_apart apart promised).1 connectionId rfl).2
    exact same.trans (unread connectionId rfl)
  · exact fun task program state started cut _ => programs_safe task program state started cut

theorem step_onward {before after : BrokerPool}
    (safe : before.Safe cutWorld (Cut config) (fun task => contract task.owner))
    (step : Step cutWorld (revocablePrograms library config) before after) :
    Onward before.state after.state := by
  obtain ⟨task, promised⟩ := step_owed (fun task => contract_lawful task.owner) cutWorld_promises
    programs_safe safe step
  exact promised.2

theorem run_onward {start : TunnelWorld} {pool later : BrokerPool} (empty : start.broker = .empty)
    (unread : ∀ connectionId, start.received connectionId = [])
    (reached : CutReachable library config start pool)
    (steps : Relation.ReflTransGen (Step cutWorld (revocablePrograms library config)) pool later) :
    CutReachable library config start later ∧ Onward pool.state later.state := by
  induction steps with
  | refl => exact ⟨reached, .refl _⟩
  | tail _ step ih =>
      obtain ⟨there, onward⟩ := ih
      exact ⟨there.step step, onward.trans (step_onward (cut_pool empty unread there).1 step)⟩

/-- A stream does not go on to another frame once one was noted. -/
theorem noted_last {connectionId : ConnectionId}
    {resume : Except Exc (Option DecodedTunnelFrame) → TunnelTask Unit} {state : TunnelWorld}
    (cut : Cut config state)
    (waiting : Safe (cutWorld (.stream connectionId)) (Cut config) (contract (some connectionId))
      (.call (.await .readFrame) resume) state) : state.received connectionId = [] := by
  by_contra read
  obtain ⟨connection, object, revoked, -⟩ := cut.last connectionId read
  -- any frame could be next, and would be the second one
  have given : cutWorld (.stream connectionId) .readFrame
      (.ok (some (OutgoingFrame.decoded ⟨.HEARTBEAT, [], none, []⟩))) state
      (arrive connectionId ⟨.HEARTBEAT, [], none, []⟩ state) :=
    ⟨_, state, rfl, .refl state, .inl ⟨⟨connection, object, revoked⟩, rfl⟩⟩
  obtain ⟨later, promised, still⟩ := safe_answered (contract_lawful _) waiting given
  have grown := (promised.2.grown connectionId).length_le
  have more : (arrive connectionId ⟨.HEARTBEAT, [], none, []⟩ state).received connectionId =
      state.received connectionId ++ [⟨.HEARTBEAT, [], none, []⟩] := Function.update_self ..
  rw [more, List.length_append, List.length_singleton] at grown
  have most := still.single connectionId
  have some := List.length_pos_of_ne_nil read
  omega

/-- A call of `open_session` raises at once for an agent without a tunnel. -/
theorem openSession_refused {agentId : Uuid} {channelId : ChannelId}
    {nodeName hostKey username certificateUsername requestId : Str} {state : TunnelWorld}
    (absent : state.broker.connections agentId = none) : ∃ fault,
      settle (openSession library config agentId channelId nodeName hostKey username
        certificateUsername requestId) state = (.raise fault, state) := by
  unfold openSession
  rw [settle_look]
  cases tried : state.broker.openChannel agentId channelId hostKey username certificateUsername
      state.clock with
  | error fault => exact ⟨fault, rfl⟩
  | ok result =>
      obtain ⟨connection, channels, held, -⟩ := Broker.openChannel_ok tried
      cases absent.symm.trans held
end Pool

/-- Suppose that the row's update raises for a revoked agent, unless the frame
read before it is one that the broker rejects, and that no stream of the agent
is registered after such a frame. Then the first frame after the revocation is
the last that is read from the tunnel; when its stream has dealt with it the
agent is out of the broker and no session can be opened on it; and from the
frame on nothing is added to any session stream of the agent. -/
theorem revocation_cuts (library : Library) (config : BrokerConfig) {start : TunnelWorld}
    {pool : BrokerPool} (empty : start.broker = .empty)
    (unread : ∀ connectionId, start.received connectionId = [])
    (reached : CutReachable library config start pool) {connectionId : ConnectionId}
    (late : pool.state.received connectionId ≠ []) :
    ∃ connection program, pool.state.broker.objects connectionId = some connection ∧
      Revoked connection.agent.agentId pool.state ∧
      pool.tasks (.stream connectionId) = some program ∧
      (∀ resume, program ≠ .call (.await .readFrame) resume) ∧
      (Ended program → pool.state.broker.connections connection.agent.agentId = none ∧
        pool.state.broker.active connection.agent.agentId = none ∧
        ∀ channelId nodeName hostKey username certificateUsername requestId, ∃ fault,
          settle (openSession library config connection.agent.agentId channelId nodeName hostKey
            username certificateUsername requestId) pool.state = (.raise fault, pool.state)) ∧
      ∀ later, Relation.ReflTransGen (Step cutWorld (revocablePrograms library config)) pool later →
        ∀ other next channelId, later.state.broker.objects other = some next →
          next.agent.agentId = connection.agent.agentId →
          buffered other channelId later.state.broker <:+ buffered other channelId pool.state.broker := by
  obtain ⟨⟨cut, tasks⟩, fresh⟩ := cut_pool empty unread reached
  obtain ⟨connection, object, revoked, only⟩ := cut.last connectionId late
  cases found : pool.tasks (.stream connectionId) with
  | none => exact absurd (fresh _ found connectionId rfl) late
  | some program =>
  obtain ⟨-, safe⟩ := tasks _ program found
  refine ⟨connection, program, object, revoked, rfl, ?_, fun ended => ?_, ?_⟩
  · rintro resume rfl
    exact late (noted_last cut safe)
  · have gone : Gone connectionId pool.state.broker := by
      rcases ended with ⟨value, rfl⟩ | ⟨fault, rfl⟩
      · exact safe.2 connectionId rfl
      · exact safe.2 connectionId rfl
    have absent : pool.state.broker.connections connection.agent.agentId = none := by
      cases held : pool.state.broker.connections connection.agent.agentId with
      | none => rfl
      | some other => exact absurd (only other held ▸ held) (gone.unheld _)
    refine ⟨absent, cut.represented.registered ▸ absent, ?_⟩
    intro _ _ _ _ _ _
    exact openSession_refused absent
  · intro later steps other next channelId there named
    have onward := (run_onward empty unread reached steps).2
    exact onward.quiet _ ⟨connectionId, connection, object, rfl, late⟩ other next channelId there named

/-! The agent of one row logs in, is revoked, and sends a heartbeat. -/
def loginPayload : Bytes :=
  (encode (pythonJson.dumps (.object [(lit "agent_id", .str agentOne.text),
    (lit "node_name", .str (lit "node01")), (lit "cert_serial", .str (lit "serial")),
    (lit "cert_public_key", .str (lit "key")), (lit "tunnel_secret", .str secretOne)]))).getD []

def loginFrame : OutgoingFrame := ⟨.AUTH, lit "login", none, loginPayload⟩

def requestOne : TunnelAuthRequest :=
  ⟨agentOne, lit "node01", lit "serial", lit "key", secretOne⟩

def heartbeatOne : OutgoingFrame := ⟨.HEARTBEAT, lit "beat", none, []⟩

theorem login_facts : decodeAuthPayload libraryOne loginFrame.decoded.payload = .ok requestOne ∧
    verifyPeerCertificateBinding requestOne streamOne.peer = .ok () ∧
    (checkRecord libraryOne requestOne (some rowOne) worldOne.clock).isOk = true ∧
    Encodes libraryOne streamOne.config ⟨.AUTH_OK, loginFrame.decoded.frame.requestId, none, []⟩ := by
  decide +kernel

theorem rowOne_admitted :
    checkRecord libraryOne requestOne (some rowOne) worldOne.clock = .ok rowOne := by
  cases checked : checkRecord libraryOne requestOne (some rowOne) worldOne.clock with
  | error fault =>
      have admitted := login_facts.2.2.1
      rw [checked] at admitted
      cases admitted
  | ok record =>
      have same := (checkRecord_ok _ checked).1
      rw [Option.some.inj same]

/-- The connected agent after its row was revoked. -/
def outlivedOne : TunnelWorld :=
  { (worldOne.onBroker connectedOne).send (lit "c1")
      ⟨.AUTH_OK, loginFrame.decoded.frame.requestId, none, []⟩ with
    agents := fun agentId => (worldOne.agents agentId).map fun row =>
      { row with revokedAt := some ⟨0, some 0⟩ } }

/-- The heartbeat was read. -/
def lateOne : TunnelWorld :=
  let world := arrive (lit "c1") heartbeatOne outlivedOne
  world.onBroker (world.broker.setObject (lit "c1") connectionOne)

abbrev ReadingOne (turns : Nat) (answer : Except Exc Unit) : TunnelTask Unit :=
  guarded libraryOne (some rowOne) (lit "c1") (lit "e1") ((Coro.ofAnswer answer >>= fun _ =>
    onBroker (Broker.handleAgentFrame (lit "c1") heartbeatOne.decoded)) >>= fun _ =>
      forever (wait .never) (dispatchOne readNext (lit "c1") agentOne) turns)

theorem cuts_unread {connectionId : ConnectionId} {agentId : Uuid} {world : TunnelWorld}
    (unread : ∀ id, world.received id = []) : Cuts connectionId agentId world := by
  constructor
  · intro frame member
    rw [unread connectionId] at member
    cases member
  · rintro ⟨id, connection, object, named, read⟩
    exact absurd (unread id) read

theorem heartbeat_read (turns : Nat) : ∃ pool,
    CutReachable libraryOne streamOne.config worldOne pool ∧ pool.state = lateOne ∧
      pool.tasks = Function.update (fun _ => none) (.stream (lit "c1"))
        (some (.call (.await (.updateLastSeen rowOne.agentId ⟨0, some 0⟩)) (ReadingOne turns))) := by
  obtain ⟨decodes, bound, -, encodes⟩ := login_facts
  have fresh : CutReachable libraryOne streamOne.config worldOne ⟨fun _ => none, worldOne⟩ := .start
  have unused : Unused (lit "c1") worldOne.broker := by
    refine ⟨fun agentId held => ?_, rfl⟩
    cases held
  obtain ⟨asked, started, answered⟩ := @settle_login libraryOne streamOne.config (lit "c1") (lit "e1")
    worldOne streamOne.peer none (turns + 1) loginFrame.decoded requestOne rowOne rfl decodes bound
  obtain ⟨_, looked, admitted⟩ := answered worldOne
  obtain ⟨reading, reached, state, alone⟩ := fresh.spawned (.stream (lit "c1")) rfl
    ⟨streamOne.peer, none, lit "e1", turns + 1, rfl, unused⟩ started
  have first : ¬Outlived (lit "c1") worldOne := by
    rintro ⟨connection, object, -⟩
    cases object
  obtain ⟨asking, reached, state, alone⟩ := reached.resumed_beside alone (.ok (some loginFrame.decoded))
    (by rw [state]; exact ⟨loginFrame, worldOne, rfl, .refl _, .inr ⟨first, rfl⟩⟩) looked
  have created : Broker.newConnection streamOne.config rowOne (lit "c1") worldOne.clock worldOne.broker =
      .ok (Broker.empty.setObject (lit "c1") connectionOne) := rfl
  have stored : watchedWorld (lit "c1") (.getAgent agentOne) (.ok (some rowOne)) worldOne worldOne := by
    refine ⟨.refl _, rfl, ?_⟩
    rintro record ⟨⟩
    rfl
  obtain ⟨admitting, reached, state, alone⟩ := reached.resumed_beside alone (.ok (some rowOne))
    (by rw [state]; exact stored) (admitted worldOne _ rowOne_admitted created)
  have registered : Broker.register rowOne.agentId (lit "c1")
      (Broker.empty.setObject (lit "c1") connectionOne) = .ok connectedOne := rfl
  obtain ⟨telling, reached, state, alone⟩ := reached.resumed_beside alone (.ok ())
    (by rw [state]; exact ⟨cuts_unread fun _ => rfl, .refl _⟩) (settle_registered registered encodes)
  -- the row is revoked while the writer drains
  obtain ⟨read, listening, dispatched⟩ := @settle_turn libraryOne (lit "c1") (lit "e1") (some rowOne)
    outlivedOne rowOne.agentId turns
  have revoked : Elsewhere telling.state outlivedOne := by
    rw [state]
    refine ⟨rfl, rfl, ?_⟩
    rintro agentId ⟨record, found, -⟩
    exact ⟨_, congrArg (Option.map _) found, by simp⟩
  obtain ⟨listens, reached, state, alone⟩ :=
    reached.resumed_beside alone (.ok ()) (by exact revoked) listening
  have outlived : Outlived (lit "c1") outlivedOne := ⟨connectionOne, rfl, _, rfl, by simp⟩
  have marked : Broker.markSeen (lit "c1") (arrive (lit "c1") heartbeatOne outlivedOne).clock
      (arrive (lit "c1") heartbeatOne outlivedOne).broker =
        .ok (outlivedOne.broker.setObject (lit "c1") connectionOne) := rfl
  exact reached.resumed_beside alone (.ok (some heartbeatOne.decoded))
    (by rw [state]; exact ⟨heartbeatOne, outlivedOne, rfl, .refl _, .inl ⟨outlived, rfl⟩⟩)
    (dispatched _ _ _ marked)

/-- The update of the row raises, and the agent is cut off. -/
theorem revocation_cuts_heartbeat : ∃ pool connection,
    CutReachable libraryOne streamOne.config worldOne pool ∧
    pool.state.received (lit "c1") = [heartbeatOne] ∧
    pool.state.broker.objects (lit "c1") = some connection ∧
    pool.state.broker.connections connection.agent.agentId = none := by
  obtain ⟨late, reached, state, alone⟩ := heartbeat_read 0
  obtain ⟨close, dropped, closed⟩ := @settle_cancelled libraryOne (lit "c1") (lit "e1") lateOne rowOne
    fun _ => forever (wait .never) (dispatchOne readNext (lit "c1") rowOne.agentId) 0
  obtain ⟨dropping, reached, state, alone⟩ := reached.resumed_beside alone (.error .cancelledError)
    (by rw [state]; exact Elsewhere.refl _) dropped
  obtain ⟨pool, reached, state, alone⟩ := reached.resumed_beside alone (.ok ())
    (by rw [state]; exact Elsewhere.refl _) (congrArg (settle · _) closed)
  have noted : pool.state.received (lit "c1") = [heartbeatOne] := by
    rw [state]
    rfl
  obtain ⟨connection, program, object, -, found, -, ended, -⟩ :=
    revocation_cuts libraryOne streamOne.config rfl (fun _ => rfl) reached (by rw [noted]; simp)
  have isOver : pool.tasks (.stream (lit "c1")) = some (.raise .cancelledError) := by
    rw [alone]
    exact Function.update_self ..
  have raised : Ended program := .inr ⟨_, Option.some.inj (found.symm.trans isOver)⟩
  exact ⟨pool, connection, reached, noted, object, (ended raised).1⟩

theorem cutWorld_wider (task : BrokerTask) (call : TunnelCall) (answer : Except Exc (TunnelResult call))
    (before after : TunnelWorld) (given : cutWorld task call answer before after) :
    revocationWorld task call answer before after := by
  cases task with
  | stream connectionId => exact cutWorld_watched given
  | opening channelId => exact given
  | call serial => exact given

def keyOne : OutgoingFrame := ⟨.SESSION_DATA, lit "k", some (lit "a"), [108]⟩

theorem markSeen_spec {broker : Broker} {connectionId : ConnectionId} {connection : BrokerTunnelConnection}
    (seenAt : DateTime) (object : broker.objects connectionId = some connection) :
    Broker.markSeen connectionId seenAt broker = .ok (broker.setObject connectionId
      { connection with heartbeat := connection.heartbeat.markSeen seenAt }) :=
  bind_ok.mpr ⟨connection, Broker.object_ok.mpr object, rfl⟩

theorem key_handled {broker : Broker} {connection : BrokerTunnelConnection} {stream : BrokerTunnelStream}
    (object : broker.objects (lit "c1") = some connection)
    (isOpen : lit "a" ∈ connection.channels.openChannels) (attached : lit "a" ∈ connection.adapters)
    (there : broker.streams (lit "c1") (lit "a") = some stream) :
    Broker.handleAgentFrame (lit "c1") keyOne.decoded broker =
      .ok (broker.setStream (lit "c1") (lit "a") (stream.feedData [108])) := by
  have fed : broker.onAdapter (lit "c1") connection (lit "a") (·.feedData [108]) =
      .ok (broker.setStream (lit "c1") (lit "a") (stream.feedData [108])) := by
    unfold Broker.onAdapter
    rw [if_pos attached, there]
  exact bind_ok.mpr ⟨connection, Broker.object_ok.mpr object,
    bind_ok.mpr ⟨(), TunnelChannelRegistry.requireOpen_ok.mpr isOpen, fed⟩⟩

theorem opened_stream {broker : Broker} {connectionId : ConnectionId} {connection : BrokerTunnelConnection}
    {channels : TunnelChannelRegistry} {channelId : ChannelId} {agentId : Uuid} :
    (broker.opened connectionId connection channels channelId agentId).streams connectionId channelId =
      some ⟨agentId, [], false, false⟩ := by
  unfold Broker.opened
  exact streams_setStream.trans (if_pos ⟨rfl, rfl⟩)

abbrev OutlivingOne : BrokerPool → Prop :=
  Reachable revocationWorld (revocablePrograms libraryOne streamOne.config) worldOne

/-- A stream in its loop, one turn before it waits for ever. -/
def Listening (pool : BrokerPool) : Prop := ∃ read,
  pool.tasks (.stream (lit "c1")) = some (.call (.await .readFrame) read) ∧
  ∀ decoded after broker, Broker.markSeen (lit "c1") after.clock after.broker = .ok broker →
    settle (read (.ok (some decoded))) after =
      (.call (.await (.updateLastSeen rowOne.agentId after.clock)) fun answer =>
        guarded libraryOne (some rowOne) (lit "c1") (lit "e1")
          ((Coro.ofAnswer answer >>= fun _ => onBroker (Broker.handleAgentFrame (lit "c1") decoded)) >>=
            fun _ => forever (wait .never) (dispatchOne readNext (lit "c1") rowOne.agentId) 1),
        after.onBroker broker)

/-- A key of a revoked agent is delivered. -/
theorem key_delivered {pool : BrokerPool} {connection : BrokerTunnelConnection}
    {stream : BrokerTunnelStream} (reached : OutlivingOne pool) (listening : Listening pool)
    (object : pool.state.broker.objects (lit "c1") = some connection)
    (revoked : Revoked connection.agent.agentId pool.state)
    (isOpen : lit "a" ∈ connection.channels.openChannels) (attached : lit "a" ∈ connection.adapters)
    (there : pool.state.broker.streams (lit "c1") (lit "a") = some stream) : ∃ later,
    OutlivingOne later ∧ later.state.received (lit "c1") = pool.state.received (lit "c1") ++ [keyOne] ∧
      later.tasks (.opening (lit "a")) = pool.tasks (.opening (lit "a")) ∧
      (∃ resume, later.tasks (.stream (lit "c1")) = some (.call (.await .readFrame) resume)) ∧
      later.state.broker.connections = pool.state.broker.connections ∧
      Revoked connection.agent.agentId later.state ∧
      buffered (lit "c1") (lit "a") later.state.broker = stream.buffer ++ [108] := by
  obtain ⟨read, waiting, dispatched⟩ := listening
  have marked := markSeen_spec (arrive (lit "c1") keyOne pool.state).clock object
  obtain ⟨typed, reached, state, tasks⟩ := reached.resumed (.stream (lit "c1")) waiting
    (.ok (some keyOne.decoded)) ⟨keyOne, _, rfl, .refl _, .inl ⟨⟨connection, object, revoked⟩, rfl⟩⟩
    (dispatched _ _ _ marked)
  have delivered : Broker.handleAgentFrame (lit "c1") keyOne.decoded typed.state.broker =
      .ok (typed.state.broker.setStream (lit "c1") (lit "a") (stream.feedData [108])) := by
    rw [state]
    exact key_handled (objects_setObject.mpr (.inl ⟨rfl, rfl⟩)) isOpen attached there
  obtain ⟨resume, again, -⟩ := @settle_turn libraryOne (lit "c1") (lit "e1") (some rowOne)
    (typed.state.onBroker (typed.state.broker.setStream (lit "c1") (lit "a") (stream.feedData [108])))
    rowOne.agentId 0
  obtain ⟨later, reached, last, waits⟩ := reached.resumed (.stream (lit "c1"))
    (by rw [tasks]; exact Function.update_self ..) (.ok ()) (by exact Elsewhere.refl _)
    ((settle_handled delivered).trans again)
  refine ⟨later, reached, ?_, ?_, ⟨resume, ?_⟩, ?_, ?_, ?_⟩
  · rw [last]
    change typed.state.received (lit "c1") = _
    rw [state]
    exact Function.update_self (lit "c1") _ pool.state.received
  · rw [waits, Function.update_of_ne (by simp), tasks, Function.update_of_ne (by simp)]
  · rw [waits]
    exact Function.update_self ..
  · rw [last]
    change typed.state.broker.connections = _
    rw [state]
    rfl
  · have rows : later.state.agents = pool.state.agents := by
      rw [last]
      change typed.state.agents = _
      rw [state]
      rfl
    unfold Revoked
    rw [rows]
    exact revoked
  · rw [last]
    unfold buffered
    change (Option.map _ ((Broker.setStream _ (lit "c1") (lit "a") _).streams (lit "c1")
      (lit "a"))).getD [] = _
    rw [streams_setStream, if_pos ⟨rfl, rfl⟩]
    rfl

/-- The update goes through for the revoked agent, so its tunnel stays: a session
is opened on it, and a key that it sends then is delivered. -/
theorem revoked_agent_goes_on : ∃ pool, OutlivingOne pool ∧ Revoked agentOne pool.state ∧
    pool.state.received (lit "c1") = [heartbeatOne, keyOne] ∧
    pool.tasks (.opening (lit "a")) = some (.done ()) ∧
    (∃ resume, pool.tasks (.stream (lit "c1")) = some (.call (.await .readFrame) resume)) ∧
    pool.state.broker.connections agentOne = some (lit "c1") ∧
    buffered (lit "c1") (lit "a") pool.state.broker = [108] := by
  obtain ⟨late, cut, state, alone⟩ := heartbeat_read 2
  have reached := cut.widen cutWorld_wider
  have ignored : Broker.handleAgentFrame (lit "c1") heartbeatOne.decoded lateOne.broker =
      .ok lateOne.broker := rfl
  obtain ⟨read, listening, dispatched⟩ := @settle_turn libraryOne (lit "c1") (lit "e1") (some rowOne)
    lateOne rowOne.agentId 1
  obtain ⟨on, reached, state, alone⟩ := reached.resumed_beside alone (.ok ())
    (by rw [state]; exact Elsewhere.refl _) ((settle_handled ignored).trans listening)
  -- a session is opened
  obtain ⟨frame, made, encodes⟩ := WireDiscipline.openFrameOne
  have unseen : Unseen (lit "a") lateOne.broker := by
    intro connectionId connection object member
    rcases objects_setObject.mp object with ⟨-, rfl⟩ | ⟨-, earlier⟩
    · cases member
    · exact connectedOne_unseen (lit "a") connectionId connection earlier member
  obtain ⟨broker, opened⟩ : ∃ broker, lateOne.broker.openChannel agentOne (lit "a") (lit "key")
      (lit "alice") (lit "alice") lateOne.clock = .ok (broker, lit "c1") := ⟨_, rfl⟩
  have asks : settle (openSession libraryOne streamOne.config agentOne (lit "a") (lit "n") (lit "key")
      (lit "alice") (lit "alice") (lit "r")) on.state =
        (wait .drain, (lateOne.onBroker broker).send (lit "c1") frame) := by
    rw [state]
    exact settle_openSession opened made encodes
  obtain ⟨opening, reached, state, began⟩ := reached.spawned (.opening (lit "a")) (by rw [alone]; rfl)
    ⟨agentOne, _, _, _, _, _, rfl, state ▸ unseen⟩ asks
  have ends : settle (Coro.ofAnswer (.ok ()) : TunnelTask Unit) opening.state =
      (.done (), opening.state) := rfl
  obtain ⟨session, reached, state', done⟩ := reached.resumed (.opening (lit "a"))
    (by rw [began]; exact Function.update_self ..) (.ok ()) (by exact Elsewhere.refl _) ends
  rw [state] at state'
  -- a key is read on it
  obtain ⟨connection, channels, -, object, -, added, rfl⟩ := Broker.openChannel_ok opened
  have same : lateOne.broker.objects (lit "c1") = some connectionOne := rfl
  cases same.symm.trans object
  have isOpen : lit "a" ∈ channels.openChannels := by
    rw [(TunnelChannelRegistry.openChannel_ok added).2.1]
    exact Finset.mem_insert_self _ _
  have here : session.state.broker.objects (lit "c1") = some { connectionOne with
      channels := channels, adapters := insert (lit "a") connectionOne.adapters } := by
    rw [state']
    change (lateOne.broker.setObject (lit "c1") _).objects (lit "c1") = _
    exact objects_setObject.mpr (.inl ⟨rfl, rfl⟩)
  have outlived : Revoked rowOne.agentId session.state := by
    refine ⟨{ rowOne with revokedAt := some ⟨0, some 0⟩ }, ?_, by simp⟩
    rw [state']
    rfl
  have empty : session.state.broker.streams (lit "c1") (lit "a") =
      some ⟨agentOne, [], false, false⟩ := by
    rw [state']
    exact @opened_stream lateOne.broker (lit "c1") connectionOne channels (lit "a") agentOne
  have listens : Listening session := by
    refine ⟨read, ?_, dispatched⟩
    rw [done, began, alone]
    rfl
  obtain ⟨pool, reached, received, finished, waits, slots, still, fed⟩ := key_delivered reached listens here
    outlived isOpen (Finset.mem_insert_self _ _) empty
  refine ⟨pool, reached, still, ?_, ?_, waits, ?_, fed⟩
  · rw [received, state']
    rfl
  · rw [finished, done]
    exact Function.update_self ..
  · rw [slots, state']
    rfl

end VibeConnect.Revocation
