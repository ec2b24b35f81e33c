import VibeConnect.LinkInvariant

/-! Every task of a tunnel keeps its invariant, whatever the others do. The
dispatch loop relies on nobody feeding its streams, a forwarder on nobody
sending for its channel, and the agent's loop on its own tables. -/
namespace VibeConnect.LinkRuns
open Python.Text Python.Values Python.Coroutine Python.Tasks Models TunnelProtocol TunnelState
open TunnelAuthenticator TunnelBroker TunnelAdmission BrokerCalls AgentChannels AgentTunnel
open AgentIsolation TunnelLink LinkInvariant

/-- All that came off the link was handled, and each stream was fed its part. -/
structure Level (connectionId : ConnectionId) (world : TunnelWorld) : Prop where
  handled : world.received connectionId = world.handled connectionId
  fed : ∀ channelId, total (world.reads connectionId channelId)
      (world.broker.streams connectionId channelId) =
    outgoing channelId (world.handled connectionId)

/-- Nobody else handles frames or feeds streams. -/
structure Steady (connectionId : ConnectionId) (before after : TunnelWorld) : Prop where
  received : after.received connectionId = before.received connectionId
  handled : after.handled connectionId = before.handled connectionId
  fed : ∀ channelId, total (after.reads connectionId channelId)
      (after.broker.streams connectionId channelId) =
    total (before.reads connectionId channelId) (before.broker.streams connectionId channelId)

/-- All that a local connection produced is on the link. -/
structure Even (connectionId : ConnectionId) (number : Nat) (world : TunnelWorld) : Prop where
  unmade : (loopOf connectionId world).created[number]? = none →
    ((world.agentSide connectionId).forwarders number).read = []
  relayed : ∀ channelId, (loopOf connectionId world).created[number]? = some channelId →
    outgoing channelId (emitted connectionId world) =
      ((world.agentSide connectionId).forwarders number).read

/-- Nobody else sends for the local connection. -/
structure Undisturbed (connectionId : ConnectionId) (number : Nat) (before after : TunnelWorld) :
    Prop where
  made : ∀ channelId, (loopOf connectionId before).created[number]? = some channelId →
    (loopOf connectionId after).created[number]? = some channelId
  even : Even connectionId number before → Even connectionId number after

section Relations
variable {connectionId : ConnectionId} {one two three before after : TunnelWorld} {number : Nat}

theorem Steady.refl (world : TunnelWorld) : Steady connectionId world world := ⟨rfl, rfl, fun _ => rfl⟩

theorem Steady.trans (first : Steady connectionId one two) (second : Steady connectionId two three) :
    Steady connectionId one three where
  received := second.received.trans first.received
  handled := second.handled.trans first.handled
  fed channelId := (second.fed channelId).trans (first.fed channelId)

theorem Level.steady (level : Level connectionId before) (steady : Steady connectionId before after) :
    Level connectionId after where
  handled := (steady.received.trans level.handled).trans steady.handled.symm
  fed channelId := by
    rw [steady.fed, steady.handled]
    exact level.fed channelId

theorem Undisturbed.refl (world : TunnelWorld) : Undisturbed connectionId number world world :=
  ⟨fun _ => id, id⟩

theorem Undisturbed.trans (first : Undisturbed connectionId number one two)
    (second : Undisturbed connectionId number two three) : Undisturbed connectionId number one three :=
  ⟨fun channelId made => second.made channelId (first.made channelId made),
    fun even => second.even (first.even even)⟩

/-- What a forwarder relies on is read off the agent's side. -/
theorem Undisturbed.congr
    (created : (loopOf connectionId after).created = (loopOf connectionId before).created)
    (emitted : emitted connectionId after = emitted connectionId before)
    (read : ((after.agentSide connectionId).forwarders number).read =
      ((before.agentSide connectionId).forwarders number).read) :
    Undisturbed connectionId number before after where
  made channelId found := by
    rw [created]
    exact found
  even even := by
    refine ⟨fun unmade => ?_, fun channelId found => ?_⟩
    · rw [read]
      exact even.unmade (created ▸ unmade)
    · rw [emitted, read]
      exact even.relayed channelId (created ▸ found)
end Relations

def relies (connectionId : ConnectionId) : LinkTask → TunnelWorld → TunnelWorld → Prop
  | .dispatcher => Steady connectionId
  | .agent .loop => sameLoop connectionId
  | .agent (.forwarder number) => Undisturbed connectionId number
  | _ => fun _ _ => True

/-- Each task owes the others what they rely on. -/
def owes (connectionId : ConnectionId) (task : LinkTask) (before after : TunnelWorld) : Prop :=
  ∀ other, other ≠ task → relies connectionId other before after

abbrev Sound (library : Library) (connectionId : ConnectionId) : TunnelWorld → Prop :=
  With connectionId (Linked connectionId) (Routed library)

section Owing
variable {connectionId : ConnectionId} {task : LinkTask} {before after world : TunnelWorld}

theorem relies_refl (task : LinkTask) (world : TunnelWorld) : relies connectionId task world world := by
  cases task with
  | dispatcher => exact .refl world
  | agent task =>
      cases task with
      | loop => exact rfl
      | forwarder number => exact .refl world
      | breaking serial => trivial
  | call _ | closing _ _ | reading _ | clock _ => trivial

theorem relies_trans {one two three : TunnelWorld} (first : relies connectionId task one two)
    (second : relies connectionId task two three) : relies connectionId task one three := by
  cases task with
  | dispatcher => exact Steady.trans first second
  | agent task =>
      cases task with
      | loop => exact Eq.trans second first
      | forwarder number => exact Undisturbed.trans first second
      | breaking serial => trivial
  | call _ | closing _ _ | reading _ | clock _ => trivial

def linkContract (connectionId : ConnectionId) (task : LinkTask) : Contract TunnelWorld Exc Unit :=
  ⟨relies connectionId task, owes connectionId task, fun _ _ => True⟩

theorem linkContract_lawful (connectionId : ConnectionId) (task : LinkTask) :
    (linkContract connectionId task).Lawful where
  rely_refl := relies_refl task
  rely_trans _ _ _ := relies_trans
  guarantee_refl world other _ := relies_refl other world
  guarantee_trans _ _ _ first second other apart := relies_trans (first other apart) (second other apart)
  stable _ _ _ _ _ := trivial

theorem owes_refl (task : LinkTask) (world : TunnelWorld) : owes connectionId task world world :=
  fun other _ => relies_refl other world

/-- A change on the server's side that feeds nothing. -/
theorem owes_aside (task : LinkTask) (steady : Steady connectionId before after)
    (side : after.agentSide connectionId = before.agentSide connectionId) :
    owes connectionId task before after := by
  intro other _
  cases other with
  | dispatcher => exact steady
  | agent other =>
      cases other with
      | loop => exact congrArg AgentSide.loop side
      | forwarder number =>
          apply Undisturbed.congr
          · exact congrArg (fun side => side.loop.created) side
          · exact congrArg AgentSide.emitted side
          · rw [side]
      | breaking serial => trivial
  | call _ | closing _ _ | reading _ | clock _ => trivial

/-- The dispatch loop leaves the agent's side alone. -/
theorem owes_dispatcher (side : after.agentSide connectionId = before.agentSide connectionId) :
    owes connectionId .dispatcher before after := by
  intro other apart
  cases other with
  | dispatcher => exact absurd rfl apart
  | agent other =>
      cases other with
      | loop => exact congrArg AgentSide.loop side
      | forwarder number =>
          apply Undisturbed.congr
          · exact congrArg (fun side => side.loop.created) side
          · exact congrArg AgentSide.emitted side
          · rw [side]
      | breaking serial => trivial
  | call _ | closing _ _ | reading _ | clock _ => trivial

theorem steady_onSide {change : AgentSide → AgentSide} :
    Steady connectionId world (onSide connectionId change world) := ⟨rfl, rfl, fun _ => rfl⟩

/-- The loop owes the server's side nothing, and the forwarders their own. -/
theorem owes_loop {change : AgentSide → AgentSide} (undisturbed : ∀ number,
      Undisturbed connectionId number world (onSide connectionId change world)) :
    owes connectionId (.agent .loop) world (onSide connectionId change world) := by
  intro other apart
  cases other with
  | dispatcher => exact steady_onSide
  | agent other =>
      cases other with
      | loop => exact absurd rfl apart
      | forwarder number => exact undisturbed number
      | breaking serial => trivial
  | call _ | closing _ _ | reading _ | clock _ => trivial

theorem owes_forwarder {number : Nat} (steady : Steady connectionId before after)
    (loop : sameLoop connectionId before after)
    (undisturbed : ∀ second, second ≠ number → Undisturbed connectionId second before after) :
    owes connectionId (.agent (.forwarder number)) before after := by
  intro other apart
  cases other with
  | dispatcher => exact steady
  | agent other =>
      cases other with
      | loop => exact loop
      | forwarder second =>
          apply undisturbed
          rintro rfl
          exact apart rfl
      | breaking serial => trivial
  | call _ | closing _ _ | reading _ | clock _ => trivial
end Owing

/-! The calls of the jump code. -/
section Calls
variable {library : Library} {config : BrokerConfig} {connectionId : ConnectionId} {task : LinkTask}
  {world : World TunnelWorld TunnelResult Exc} {state : TunnelWorld} {channelId : ChannelId}

theorem Sound.onBroker {broker : Broker} (known : Sound library connectionId state)
    (linked : Linked connectionId (state.onBroker broker)) :
    Sound library connectionId (state.onBroker broker) := ⟨known.1, linked⟩

theorem steady_send {other : ConnectionId} {frame : OutgoingFrame} :
    Steady connectionId state (state.send other frame) := ⟨rfl, rfl, fun _ => rfl⟩

/-- Whatever the answer, the writer's waiting kept the invariant. -/
def Drains (library : Library) (connectionId : ConnectionId)
    (world : World TunnelWorld TunnelResult Exc) : Prop :=
  ∀ answer before after, world .drain answer before after → Sound library connectionId before →
    Sound library connectionId after

theorem maySend_known (drains : Drains library connectionId world)
    (known : Sound library connectionId state) :
    MaySend world (Sound library connectionId) (owes connectionId task) channelId state where
  holds := known
  still := owes_refl task state
  drained := drains
  sent other frame _ _ type := by
    refine ⟨owes_aside task steady_send rfl, known.1, known.2.send ?_⟩
    apply if_neg
    intro opens
    rcases type with data | resize | closing
    · cases opens.symm.trans data
    · cases opens.symm.trans resize
    · cases opens.symm.trans closing

theorem drains_plain : Drains library connectionId plainWorld := by
  intro answer before after same known
  have unmoved : after = before := same
  rw [unmoved]
  exact known

theorem drains_closing : Drains library connectionId (closingWorld connectionId channelId) := by
  intro answer before after given known
  cases answer with
  | error fault =>
      have unmoved : after = before := given
      rw [unmoved]
      exact known
  | ok _ =>
      rcases given with ⟨-, same⟩ | ⟨-, same⟩
      · rw [same]
        exact ⟨known.1, known.2.cross⟩
      · rw [same]
        exact known

abbrev TunnelRuns (library : Library) (connectionId : ConnectionId) (task : LinkTask) {α : Type}
    (program : TunnelTask α) (post : Except Exc α → TunnelWorld → Prop) (state : TunnelWorld) : Prop :=
  program.wp (answered (linkWorld connectionId task) (Sound library connectionId)
      (relies connectionId task))
    (obliged (Sound library connectionId) (owes connectionId task)) post state

/-- An opening feeds nothing: the stream it makes is empty and was never read. -/
theorem steady_opened {agentId : Uuid} {hostKey username certificateUsername : Str} {now : DateTime}
    {broker : Broker} {other : ConnectionId} (linked : Linked connectionId state)
    (done : state.broker.openChannel agentId channelId hostKey username certificateUsername now =
      .ok (broker, other)) : Steady connectionId state (state.onBroker broker) := by
  refine ⟨rfl, rfl, fun second => ?_⟩
  obtain ⟨connection, channels, -, object, -, added, rfl⟩ := Broker.openChannel_ok done
  by_cases here : other = connectionId
  · subst here
    have streams : (state.broker.opened other connection channels channelId agentId).streams other =
        Function.update (state.broker.streams other) channelId (some ⟨agentId, [], false, false⟩) :=
      Function.update_self ..
    change total _ ((state.broker.opened other connection channels channelId agentId).streams other
      second) = _
    rw [streams, total_update]
    split
    · rename_i same
      rw [same]
      have fresh := (TunnelChannelRegistry.openChannel_ok added).1
      have unplaced : state.broker.streams other channelId = none := by
        apply Option.not_isSome_iff_eq_none.mp
        exact fun known => fresh ((linked.supplied.placed object).mpr known)
      rw [unplaced]
      rfl
    · rfl
  · have streams : (state.broker.opened other connection channels channelId agentId).streams
        connectionId = state.broker.streams connectionId := Function.update_of_ne (Ne.symm here) ..
    change total _ ((state.broker.opened other connection channels channelId agentId).streams
      connectionId second) = _
    rw [streams]
    rfl

theorem call_runs {serial : Nat} {program : TunnelTask Unit} (call : LinkCall library config program)
    (known : Sound library connectionId state) :
    TunnelRuns library connectionId (.call serial) program
      (fun _ after => Sound library connectionId after) state := by
  cases call with
  | openSession =>
      refine openSession_calls known (owes_refl _) drains_plain ?_
      intro broker other done
      obtain ⟨whole, announced⟩ := known.2.begin done
      refine ⟨owes_aside _ (steady_opened known.2 done) rfl, fun _ => known.onBroker whole, ?_⟩
      exact fun frame type named =>
        ⟨owes_aside _ steady_send rfl, known.1, announced frame type named⟩
  | sendData => exact sendData_calls (maySend_known drains_plain known)
  | resizePty => exact resizePty_calls (maySend_known drains_plain known)

theorem closeSession_runs {serial : Nat} {requestId : Str} (known : Sound library connectionId state) :
    TunnelRuns library connectionId (.closing channelId serial)
      (closeSession library config channelId requestId)
      (fun _ after => Sound library connectionId after) state := by
  refine closeSession_calls (maySend_known drains_closing known) (owes_refl _) ?_
  intro other before after broker given was closed
  have holds := drains_closing (.ok ()) before after given was
  refine ⟨owes_aside _ ⟨rfl, rfl, fun second => ?_⟩ rfl, holds.1, holds.2.retired closed ?_⟩
  · obtain ⟨connection, channels, -, -, rfl⟩ := Broker.retireChannel_ok closed
    rfl
  · rcases given with ⟨-, same⟩ | ⟨landed, same⟩
    · rw [same]
      exact .inl rfl
    · rw [same]
      exact .inr landed

/-- What a block that follows a reference to a stream object finds there. -/
theorem streamOf_ok {broker : Broker} {stream : BrokerTunnelStream} :
    streamOf connectionId channelId broker = .ok stream ↔
      broker.streams connectionId channelId = some stream := by
  unfold streamOf
  cases broker.streams connectionId channelId <;> simp

theorem steady_flagged {stream changed : BrokerTunnelStream}
    (found : state.broker.streams connectionId channelId = some stream)
    (buffer : changed.buffer = stream.buffer) : Steady connectionId state
      (state.onBroker (state.broker.setStream connectionId channelId changed)) := by
  refine ⟨rfl, rfl, fun second => ?_⟩
  change total _ ((state.broker.setStream connectionId channelId changed).streams connectionId second) = _
  rw [streams_here, total_update]
  split
  · rename_i same
    rw [same, total, found, buffer]
    rfl
  · rfl

/-- A change of a stream's flags. -/
theorem flag_runs {change : BrokerTunnelStream → BrokerTunnelStream}
    (buffer : ∀ stream, (change stream).buffer = stream.buffer) (known : Sound library connectionId state) :
    TunnelRuns library connectionId task (onBroker (onStream connectionId channelId change))
      (fun _ after => Sound library connectionId after) state := by
  refine attempt_safe (owes_refl task state) ?_ fun _ _ => known
  intro after done
  obtain ⟨broker, changed, done⟩ := bind_ok.mp done
  obtain ⟨stream, found, changed⟩ := bind_ok.mp changed
  cases changed
  cases done
  have there := streamOf_ok.mp found
  exact ⟨owes_aside task (steady_flagged there (buffer stream)) rfl,
    known.onBroker (known.2.flagged there (buffer stream))⟩

theorem closeStream_runs {serial : Nat} {requestId : Str} (known : Sound library connectionId state) :
    TunnelRuns library connectionId (.closing channelId serial)
      (closeStream connectionId channelId library config requestId)
      (fun _ after => Sound library connectionId after) state := by
  refine Coro.wp_bind (look_safe (Coro.wp_bind (Coro.wp_ofAnswer ?_)))
  cases streamOf connectionId channelId state.broker with
  | error fault => exact known
  | ok stream =>
      apply Coro.wp_onlyIf
      · intro _
        refine Coro.wp_bind (Coro.wp_mono ?_ (flag_runs (fun _ => rfl) known))
        rintro (fault | _) after known
        · exact known
        · exact closeSession_runs known
      · exact fun _ => known

/-- A reader goes on when there are bytes or there will be none. -/
def Readable (connectionId : ConnectionId) (channelId : ChannelId) (world : TunnelWorld) : Prop :=
  ∃ stream, world.broker.streams connectionId channelId = some stream ∧
    (stream.buffer ≠ [] ∨ stream.closed = true)

theorem awaitData_runs {serial turns : Nat} (known : Sound library connectionId state) :
    TunnelRuns library connectionId (.reading serial) (awaitData connectionId channelId turns)
      (Coro.either (fun _ after => Sound library connectionId after ∧
        Readable connectionId channelId after) fun _ after => Sound library connectionId after) state := by
  induction turns generalizing state with
  | zero =>
      refine call_safe known ?_
      intro answer resumed after _ still given
      cases answer with
      | ok value => exact given.elim
      | error fault =>
          have same : after = resumed := given
          rw [same]
          exact still
  | succ turns ih =>
      refine Coro.wp_bind (look_safe (Coro.wp_bind (Coro.wp_ofAnswer ?_)))
      cases found : streamOf connectionId channelId state.broker with
      | error fault => exact known
      | ok stream =>
          apply Coro.wp_onlyIf
          · intro _
            refine Coro.wp_bind (call_safe known ?_)
            intro answer resumed after _ still given
            have same : after = resumed := given
            rw [same]
            cases answer with
            | error fault => exact still
            | ok value =>
                refine Coro.wp_bind (Coro.wp_mono ?_ (flag_runs (fun _ => rfl) still))
                rintro (fault | _) cleared known
                · exact known
                · exact ih known
          · intro full
            refine ⟨known, stream, streamOf_ok.mp found, ?_⟩
            simpa [imp_iff_not_or] using full

theorem read_runs {serial turns : Nat} {n : Int} (asked : n ≠ 0)
    (known : Sound library connectionId state) :
    TunnelRuns library connectionId (.reading serial) (read connectionId channelId n turns)
      (fun _ after => Sound library connectionId after) state := by
  refine Coro.wp_bind (Coro.wp_mono ?_ (awaitData_runs known))
  rintro (fault | _) ready reached
  · exact reached
  obtain ⟨known, stream, found, readable⟩ := reached
  have block : takeNow connectionId channelId n ready = (.ok (taken n stream).1,
      noteRead connectionId channelId (taken n stream).2
        ⟨(taken n stream).1, stream.closed, (taken n stream).2.buffer⟩ ready) := by
    rw [takeNow, streamOf_ok.mpr found]
  have kept : Steady connectionId ready (takeNow connectionId channelId n ready).2 := by
    rw [block]
    refine ⟨rfl, rfl, fun second => ?_⟩
    -- the bytes only move from the buffer to the read
    change total (Function.update ready.reads connectionId _ connectionId second)
      ((ready.broker.setStream connectionId channelId _).streams connectionId second) = _
    rw [streams_here, Function.update_self]
    by_cases same : second = channelId
    · rw [same, Function.update_self, Function.update_self, total, total, found, List.map_append,
        List.flatten_append, List.append_assoc]
      have whole := taken_append n stream
      simpa using whole
    · rw [Function.update_of_ne same, Function.update_of_ne same]
  apply change_safe
  · apply owes_aside _ kept
    rw [block]
    rfl
  · rw [block]
    exact ⟨known.1, known.2.draw found asked readable⟩
end Calls

/-! The dispatch loop. -/
section Dispatcher
variable {library : Library} {connectionId : ConnectionId} {state : TunnelWorld}
  {frame : OutgoingFrame}

/-- A frame came off the link and is not handled yet. -/
structure InHand (connectionId : ConnectionId) (frame : OutgoingFrame) (world : TunnelWorld) : Prop where
  received : world.received connectionId = world.handled connectionId ++ [frame]
  fed : ∀ channelId, total (world.reads connectionId channelId)
      (world.broker.streams connectionId channelId) =
    outgoing channelId (world.handled connectionId)

/-- The frame's payload is the one thing that streams were not fed. -/
structure Due (connectionId : ConnectionId) (frame : OutgoingFrame) (world : TunnelWorld) : Prop where
  handled : world.received connectionId = world.handled connectionId
  among : frame ∈ world.handled connectionId
  owing : ∀ channelId, total (world.reads connectionId channelId)
      (world.broker.streams connectionId channelId) ++ carried channelId frame.decoded =
    outgoing channelId (world.handled connectionId)

theorem InHand.steady {before after : TunnelWorld} (inHand : InHand connectionId frame before)
    (steady : Steady connectionId before after) : InHand connectionId frame after where
  received := by
    rw [steady.received, steady.handled]
    exact inHand.received
  fed channelId := by
    rw [steady.fed, steady.handled]
    exact inHand.fed channelId

theorem Level.arrive (level : Level connectionId state) :
    InHand connectionId frame (TunnelLink.arrive connectionId frame state) where
  received := by
    change Function.update state.received connectionId _ connectionId = _
    rw [Function.update_self, level.handled]
    rfl
  fed := level.fed

theorem InHand.takeUp (inHand : InHand connectionId frame state) :
    Due connectionId frame (TunnelLink.takeUp connectionId state) := by
  have now : (TunnelLink.takeUp connectionId state).handled connectionId =
      state.handled connectionId ++ [frame] :=
    (Function.update_self ..).trans inHand.received
  refine ⟨?_, ?_, fun channelId => ?_⟩
  · exact inHand.received.trans now.symm
  · rw [now]
    exact List.mem_append_right _ List.mem_cons_self
  · rw [now, outgoing_append]
    exact congrArg (· ++ carried channelId frame.decoded) (inHand.fed channelId)

/-- What the dispatch loop makes of a frame of data, if it does not raise. -/
theorem handleData_ok {broker after : Broker} {channelId : ChannelId} {decoded : DecodedTunnelFrame}
    (type : decoded.frame.type = .SESSION_DATA) (named : decoded.frame.channelId = some channelId)
    (handled : Broker.handleAgentFrame connectionId decoded broker = .ok after) :
    ∃ stream, broker.streams connectionId channelId = some stream ∧
      after = broker.setStream connectionId channelId (stream.feedData decoded.payload) := by
  unfold Broker.handleAgentFrame at handled
  rw [type, named] at handled
  obtain ⟨connection, -, handled⟩ := bind_ok.mp handled
  obtain ⟨_, -, handled⟩ := bind_ok.mp handled
  obtain ⟨stream, -, found, same⟩ := Broker.onAdapter_ok handled
  exact ⟨stream, found, same⟩

/-- A frame that is handled levels the streams. -/
theorem Due.handle {broker : Broker} (due : Due connectionId frame state)
    (linked : Linked connectionId state)
    (handled : Broker.handleAgentFrame connectionId frame.decoded state.broker = .ok broker) :
    Level connectionId (state.onBroker broker) ∧ Linked connectionId (state.onBroker broker) := by
  have among : frame ∈ (state.agentSide connectionId).emitted :=
    (linked.up.handled.trans linked.up.received).subset due.among
  rcases linked.up.relayed frame among with heartbeat | ⟨type, channelId, -, named⟩
  · have same : state.broker = broker := by
      unfold Broker.handleAgentFrame at handled
      rw [show frame.decoded.frame.type = .HEARTBEAT from heartbeat] at handled
      exact Except.ok.inj handled
    subst same
    refine ⟨⟨due.handled, fun channelId => ?_⟩, linked⟩
    have whole := due.owing channelId
    rw [carried_other (.inl (by rw [heartbeat]; decide)), List.append_nil] at whole
    exact whole
  · obtain ⟨stream, found, rfl⟩ := handleData_ok type named handled
    have data : carried channelId frame.decoded = frame.payload := if_pos ⟨type, named⟩
    have owing := due.owing channelId
    rw [data] at owing
    constructor
    · refine ⟨due.handled, fun second => ?_⟩
      change total _ ((state.broker.setStream connectionId channelId _).streams connectionId second) = _
      rw [streams_here, total_update]
      split
      · rename_i same
        rw [same]
        rw [total, found, Option.map_some, Option.getD_some, List.append_assoc] at owing
        exact owing
      · rename_i apart
        have dry : carried second frame.decoded = [] :=
          carried_other (.inr fun equal => apart (Option.some.inj (equal.symm.trans named)))
        have whole := due.owing second
        rw [dry, List.append_nil] at whole
        exact whole
    · refine linked.rebroker rfl (fun second known => ?_) ?_ fun _ _ _ => id
      · rw [streams_here, isSome_update found]
        exact known
      · rw [streams_here]
        apply linked.supplied.feed found
        rw [show frame.decoded.payload = frame.payload from rfl, owing]

abbrev DispatcherRuns (library : Library) (connectionId : ConnectionId) {α : Type}
    (program : TunnelTask α) (post : Except Exc α → TunnelWorld → Prop) (state : TunnelWorld) : Prop :=
  TunnelRuns library connectionId .dispatcher program post state

/-- A call whose answers, errors included, change nothing. -/
theorem plain_call {call : TunnelCall} {post : Except Exc (TunnelResult call) → TunnelWorld → Prop}
    (known : Sound library connectionId state)
    (plain : ∀ answer before after, dispatcherWorld connectionId call answer before after →
      after = before)
    (next : ∀ answer after, Steady connectionId state after → Sound library connectionId after →
      post answer after) : DispatcherRuns library connectionId (wait call) post state := by
  refine call_safe known ?_
  intro answer resumed after relied still given
  rw [plain answer resumed after given]
  exact next answer resumed relied still

theorem readNext_runs (known : Sound library connectionId state) (level : Level connectionId state) :
    DispatcherRuns library connectionId readNext
      (Coro.either (fun decoded after => Sound library connectionId after ∧
        ∃ frame, decoded = frame.decoded ∧ InHand connectionId frame after)
        fun _ after => Sound library connectionId after) state := by
  refine Coro.wp_bind (call_safe known ?_)
  intro answer resumed after relied still given
  rcases answer with fault | read | decoded
  · have same : after = resumed := given
    rw [same]
    exact still
  · have same : after = resumed := given
    rw [same]
    exact still
  · obtain ⟨frame, next, rfl, rfl⟩ := given
    exact ⟨⟨still.1, still.2.arrive next⟩, frame, rfl, (level.steady relied).arrive⟩

theorem dispatchOne_runs {agentId : Uuid} (known : Sound library connectionId state)
    (level : Level connectionId state) :
    DispatcherRuns library connectionId (dispatchOne readNext connectionId agentId)
      (Coro.either (fun _ after => Sound library connectionId after ∧ Level connectionId after)
        fun _ after => Sound library connectionId after) state := by
  refine Coro.wp_bind (Coro.wp_mono ?_ (readNext_runs known level))
  rintro (fault | decoded) read reached
  · exact reached
  obtain ⟨known, frame, rfl, inHand⟩ := reached
  refine Coro.wp_bind (look_safe (Coro.wp_bind (attempt_safe (owes_refl _ read) ?_ fun _ _ => known)))
  intro marked done
  obtain ⟨broker, seen, done⟩ := bind_ok.mp done
  cases done
  have kept : Steady connectionId read (read.onBroker broker) := by
    obtain ⟨connection, -, rfl⟩ := Broker.markSeen_ok seen
    exact ⟨rfl, rfl, fun _ => rfl⟩
  refine ⟨owes_dispatcher rfl, Coro.wp_bind (call_safe (known.onBroker (known.2.seen seen)) ?_)⟩
  intro answer resumed after relied still given
  cases answer with
  | error fault =>
      have same : after = resumed := given
      rw [same]
      exact still
  | ok value =>
      have same : after = TunnelLink.takeUp connectionId resumed := given
      rw [same]
      have due := ((inHand.steady kept).steady relied).takeUp
      have linked := still.2.takeUp
      refine attempt_safe (owes_refl _ _) ?_ fun _ _ => ⟨still.1, linked⟩
      intro last done
      obtain ⟨broker, handled, done⟩ := bind_ok.mp done
      cases done
      obtain ⟨level, kept⟩ := due.handle linked handled
      exact ⟨owes_dispatcher rfl, ⟨still.1, kept⟩, level⟩

theorem dispatchLoop_runs {agentId : Uuid} {turns : Nat} (known : Sound library connectionId state)
    (level : Level connectionId state) :
    DispatcherRuns library connectionId
      (forever (wait .never) (dispatchOne readNext connectionId agentId) turns)
      (fun _ after => Sound library connectionId after) state := by
  induction turns generalizing state with
  | zero =>
      refine call_safe known ?_
      intro answer resumed after _ still given
      cases answer with
      | ok value => exact given.elim
      | error fault =>
          have same : after = resumed := given
          rw [same]
          exact still
  | succ turns ih =>
      refine Coro.wp_bind (Coro.wp_mono ?_ (dispatchOne_runs known level))
      rintro (fault | _) after reached
      · exact reached
      · exact ih reached.1 reached.2

theorem bestEffortError_runs {requestId : Str} (known : Sound library connectionId state) :
    DispatcherRuns library connectionId (bestEffortError library connectionId requestId)
      (fun _ after => Sound library connectionId after) state := by
  have idle : opening (OutgoingFrame.decoded ⟨.ERROR, requestId, none, []⟩) = none := by simp [opening,
    OutgoingFrame.decoded]
  refine Coro.wp_handle (Coro.wp_mono ?_ (writeFrame_calls (owes_refl _ state) (fun _ _ => known)
    (fun _ _ => ⟨owes_aside _ steady_send rfl, known.1, known.2.send idle⟩) drains_plain))
  rintro (fault | _) after known
  · dsimp only
    split
    · exact known
    · exact known
  · exact known

theorem streamFault_runs {requestId : Str} {raised : Exc} (known : Sound library connectionId state) :
    DispatcherRuns library connectionId (streamFault library connectionId requestId raised)
      (fun _ after => Sound library connectionId after) state := by
  unfold streamFault
  split
  · exact known
  · exact known
  · exact known
  · exact bestEffortError_runs known
  · exact bestEffortError_runs known
  · exact bestEffortError_runs known
  · exact known

theorem dispatcher_runs {record : AgentTunnelRecord} {requestId : Str} {turns : Nat}
    (known : Sound library connectionId state) (level : Level connectionId state) :
    DispatcherRuns library connectionId (dispatcher library connectionId record requestId turns)
      (fun _ after => Sound library connectionId after) state := by
  have guardedBody : DispatcherRuns library connectionId (tryCatch
      (forever (wait .never) (dispatchOne readNext connectionId record.agentId) turns)
      (streamFault library connectionId requestId))
      (fun _ after => Sound library connectionId after) state := by
    refine Coro.wp_handle (Coro.wp_mono ?_ (dispatchLoop_runs known level))
    rintro (fault | _) after known
    · exact streamFault_runs known
    · exact known
  refine Coro.wp_finallyDo (Coro.wp_mono ?_ guardedBody)
  intro ended left known
  refine Coro.wp_bind (attempt_safe (owes_refl _ left) ?_ ?_)
  · intro after done
    obtain ⟨broker, dropped, done⟩ := bind_ok.mp done
    cases dropped
    cases done
    refine ⟨owes_dispatcher rfl, plain_call (known.onBroker known.2.dropped) (fun _ _ _ => id) ?_⟩
    rintro (fault | _) after _ known
    · exact known
    · exact known
  · intro fault impossible
    cases impossible
end Dispatcher

end VibeConnect.LinkRuns
