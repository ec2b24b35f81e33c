import VibeConnect.LinkRuns

/-! All tasks of a tunnel together. In every run, what is read of a channel is a
prefix of what its local sshd produced, and what the local sshd was given is a
prefix of the payloads that were sent. The dispatch loop refuses a frame of the
agent only when data of a channel crosses its closing on the links. -/
namespace VibeConnect.LinkDelivery
open Python.Text Python.Values Python.Coroutine Python.Tasks Models TunnelProtocol TunnelState
open TunnelAuthenticator TunnelBroker TunnelAdmission BrokerCalls AgentChannels AgentTunnel
open AgentIsolation TunnelLink LinkInvariant LinkRuns

/-! What is on the link and what was produced, after each change of the agent's side. -/
section Sides
variable {connectionId : ConnectionId} {world : TunnelWorld} {number : Nat} {frame : OutgoingFrame}

@[simp] theorem emitted_onLoop {change : AgentLoop → AgentLoop} :
    emitted connectionId (onLoop connectionId change world) = emitted connectionId world := by
  rw [emitted, onLoop, onSide_same]
  rfl

@[simp] theorem forwarders_onLoop {change : AgentLoop → AgentLoop} :
    ((onLoop connectionId change world).agentSide connectionId).forwarders =
      (world.agentSide connectionId).forwarders := by
  rw [onLoop, onSide_same]

@[simp] theorem emitted_onForwarder {change : LocalForwarder → LocalForwarder} :
    emitted connectionId (onForwarder connectionId number change world) =
      emitted connectionId world := by
  rw [emitted, onForwarder, onSide_same]
  rfl

@[simp] theorem forwarders_onForwarder {change : LocalForwarder → LocalForwarder} :
    ((onForwarder connectionId number change world).agentSide connectionId).forwarders =
      Function.update (world.agentSide connectionId).forwarders number
        (change ((world.agentSide connectionId).forwarders number)) := by
  rw [onForwarder, onSide_same]

@[simp] theorem emitted_emit :
    emitted connectionId (emit connectionId frame world) = emitted connectionId world ++ [frame] := by
  rw [emitted, emit, onSide_same]
  rfl

@[simp] theorem forwarders_emit : ((emit connectionId frame world).agentSide connectionId).forwarders =
    (world.agentSide connectionId).forwarders := by
  rw [emit, onSide_same]
end Sides

section Loop
variable {library : Library} {connectionId : ConnectionId} {world before after : TunnelWorld}

/-- A change of the loop's own tables. -/
theorem undisturbed_onLoop {change : AgentLoop → AgentLoop} {number : Nat}
    (created : (change (loopOf connectionId world)).created = (loopOf connectionId world).created) :
    Undisturbed connectionId number world (onLoop connectionId change world) := by
  apply Undisturbed.congr
  · rw [loopOf_onLoop]
    exact created
  · exact emitted_onLoop
  · rw [forwarders_onLoop]

/-- What an answer to the loop can change: its flags, and the frames it has read. -/
theorem linkLoopWorld_after {call : TunnelCall} {answer : Except Exc (TunnelResult call)}
    (given : linkLoopWorld connectionId call answer before after) : after = before ∨
      ∃ change : AgentLoop → AgentLoop, after = onLoop connectionId change before ∧
        (change (loopOf connectionId before)).created = (loopOf connectionId before).created ∧
        ((change (loopOf connectionId before)).frames = (loopOf connectionId before).frames ∨
          (change (loopOf connectionId before)).frames <+: sent connectionId before) := by
  have kept : ∀ {α : Type} (locally : Bool) (answer : Except Exc α) (loop : AgentLoop),
      (noted locally answer loop).created = loop.created ∧
        (noted locally answer loop).frames = loop.frames := by
    intro α locally answer loop
    cases answer with
    | ok value => exact ⟨rfl, rfl⟩
    | error fault =>
        unfold noted AgentLoop.fail
        dsimp only
        split
        · exact ⟨rfl, rfl⟩
        · exact ⟨rfl, rfl⟩
  unfold linkLoopWorld at given
  split at given
  · obtain ⟨next, rfl⟩ := given
    exact .inr ⟨_, rfl, rfl, .inr next⟩
  unfold loopWorld at given
  split at given
  · rename_i impossible
    exact (impossible _ rfl HEq.rfl).elim
  · exact .inr ⟨_, given, rfl, .inl rfl⟩
  · rcases given with ⟨-, same⟩ | ⟨-, -, same⟩
    · exact .inl same
    · exact .inr ⟨_, same, (kept _ _ _).1, .inl (kept _ _ _).2⟩
  · exact .inr ⟨_, given, (kept _ _ _).1, .inl (kept _ _ _).2⟩
  · exact .inr ⟨_, given, (kept _ _ _).1, .inl (kept _ _ _).2⟩
  · exact .inr ⟨_, given, (kept _ _ _).1, .inl (kept _ _ _).2⟩
  · exact given.elim
  · exact .inr ⟨_, given, (kept _ _ _).1, .inl (kept _ _ _).2⟩

theorem linkLoopWorld_loop {call : TunnelCall} {answer : Except Exc (TunnelResult call)}
    (given : linkLoopWorld connectionId call answer before after) :
    loopWorld connectionId call answer before after := by
  unfold linkLoopWorld at given
  split at given
  · exact given.2
  · exact given

/-- The agent's loop keeps the tunnel's invariant beside its own. -/
theorem beside_linked : Beside connectionId (linkLoopWorld connectionId) (Linked connectionId)
    (owes connectionId (.agent .loop)) where
  answers _ _ _ _ := linkLoopWorld_loop
  kept call answer before after given linked := by
    rcases linkLoopWorld_after given with rfl | ⟨change, rfl, created, frames⟩
    · exact linked
    · apply linked.onLoop _ created
      rcases frames with same | next
      · rw [same]
        exact linked.down.delivered
      · exact next
  still := owes_refl _
  looped state change plain linked := by
    obtain ⟨frames, created⟩ := plain (loopOf connectionId state)
    refine ⟨owes_loop fun _ => undisturbed_onLoop created, linked.onLoop ?_ created⟩
    rw [frames]
    exact linked.down.delivered
  created state channelId linked ready := by
    have opens := ready.follows.journal.created
    refine ⟨owes_loop fun number => ?_, linked.create opens⟩
    have fresh : channelId ∉ (loopOf connectionId state).created := by
      have whole := (linked.create opens).down.sole
      rw [loopOf_onLoop] at whole
      intro member
      exact (List.nodup_append.mp whole).2.2 channelId member channelId List.mem_cons_self rfl
    constructor
    · intro other found
      change (loopOf connectionId (onLoop connectionId _ state)).created[number]? = _
      rw [loopOf_onLoop]
      have small : number < (loopOf connectionId state).created.length :=
        (List.getElem?_eq_some_iff.mp found).1
      exact (List.getElem?_append_left small).trans found
    · intro even
      change Even connectionId number (onLoop connectionId _ state)
      refine ⟨fun unmade => ?_, fun other found => ?_⟩
      · rw [loopOf_onLoop] at unmade
        rw [forwarders_onLoop]
        apply even.unmade
        have large := List.getElem?_eq_none_iff.mp unmade
        apply List.getElem?_eq_none
        have longer : ((loopOf connectionId state).create channelId).created.length =
            (loopOf connectionId state).created.length + 1 := by simp [AgentLoop.create]
        omega
      · rw [loopOf_onLoop] at found
        rw [emitted_onLoop, forwarders_onLoop]
        by_cases old : number < (loopOf connectionId state).created.length
        · exact even.relayed other ((List.getElem?_append_left old).symm.trans found)
        · -- the new local connection has produced nothing
          have last : other = channelId := by
            rw [AgentLoop.create, List.getElem?_append_right (not_lt.mp old)] at found
            exact List.mem_singleton.mp (List.mem_of_getElem? found)
          rw [even.unmade (List.getElem?_eq_none (not_lt.mp old)), last]
          exact linked.up.silent fresh
  replied state frame type linked := by
    have dry : ∀ channelId, carried channelId frame.decoded = [] := fun channelId =>
      carried_other (.inl (by rw [type]; decide))
    constructor
    · refine owes_loop fun number => ⟨fun other found => ?_, fun even => ?_⟩
      · have same : loopOf connectionId (emit connectionId frame state) = loopOf connectionId state :=
          loopOf_emit
        change (loopOf connectionId (emit connectionId frame state)).created[number]? = _
        rw [same]
        exact found
      · change Even connectionId number (emit connectionId frame state)
        refine ⟨fun unmade => ?_, fun other found => ?_⟩
        · rw [loopOf_emit] at unmade
          rw [forwarders_emit]
          exact even.unmade unmade
        · rw [loopOf_emit] at found
          rw [emitted_emit, outgoing_append, dry, List.append_nil, forwarders_emit]
          exact even.relayed other found
    · exact linked.emit (linked.up.heartbeat type) fun _ data => by
        cases type.symm.trans data
end Loop

section Forwarders
variable {library : Library} {connectionId : ConnectionId} {maxFrameBytes : Int} {number : Nat}
  {channelId : ChannelId} {state before after : TunnelWorld}

/-- A channel that a local connection was made for is open unless it was retired. -/
theorem isOpen_of_created (linked : Linked connectionId state)
    (created : (loopOf connectionId state).created[number]? = some channelId)
    (unretired : ¬ Retired connectionId channelId state) : IsOpen connectionId channelId state := by
  obtain ⟨connection, object, -, known⟩ := linked.supplied.attached
  have placed := linked.down.known channelId (linked.down.created.subset (List.mem_of_getElem? created))
  rcases Finset.mem_union.mp ((known channelId).mpr placed) with isOpen | retired
  · exact ⟨connection, object, isOpen⟩
  · exact absurd ⟨connection, object, retired⟩ unretired

/-- A forwarder between two reads, the local connection it serves being made. -/
structure Serving (connectionId : ConnectionId) (number : Nat) (channelId : ChannelId)
    (world : TunnelWorld) : Prop where
  created : (loopOf connectionId world).created[number]? = some channelId
  even : Even connectionId number world

theorem Serving.undisturbed (serving : Serving connectionId number channelId before)
    (undisturbed : Undisturbed connectionId number before after) :
    Serving connectionId number channelId after :=
  ⟨undisturbed.made channelId serving.created, undisturbed.even serving.even⟩

theorem undisturbed_onForwarder {change : LocalForwarder → LocalForwarder} {second : Nat}
    (apart : second ≠ number) :
    Undisturbed connectionId second state (onForwarder connectionId number change state) := by
  apply Undisturbed.congr
  · rw [loopOf_onForwarder]
  · exact emitted_onForwarder
  · rw [forwarders_onForwarder, Function.update_of_ne apart]

theorem owes_onForwarder {change : LocalForwarder → LocalForwarder} :
    owes connectionId (.agent (.forwarder number)) state
      (onForwarder connectionId number change state) :=
  owes_forwarder steady_onSide loopOf_onForwarder fun _ => undisturbed_onForwarder

/-- An answer to a forwarder changes its own record, and may note a crossing. -/
theorem linkForwarderWorld_after {call : TunnelCall} {answer : Except Exc (TunnelResult call)}
    (given : linkForwarderWorld connectionId number call answer before after) :
    after = before ∨ ∃ change middle, (middle = before ∨ middle = cross before) ∧
      (∀ forwarder : LocalForwarder, forwarder.read <+: (change forwarder).read) ∧
      after = onForwarder connectionId number change middle := by
  unfold linkForwarderWorld at given
  split at given
  · rcases given with ⟨-, -, rfl⟩ | ⟨-, -, rfl⟩
    · exact .inr ⟨_, _, .inr rfl, fun _ => List.prefix_append _ _, rfl⟩
    · exact .inr ⟨_, _, .inl rfl, fun _ => List.prefix_append _ _, rfl⟩
  unfold forwarderWorld at given
  split at given
  · obtain ⟨-, rfl⟩ := given
    exact .inr ⟨_, _, .inl rfl, fun _ => List.prefix_append _ _, rfl⟩
  · refine .inr ⟨_, before, .inl rfl, ?_, given⟩
    exact fun forwarder => List.prefix_refl forwarder.read
  · exact given.elim
  · exact .inl given

theorem linkForwarderWorld_owes {call : TunnelCall} {answer : Except Exc (TunnelResult call)}
    (given : linkForwarderWorld connectionId number call answer before after) :
    owes connectionId (.agent (.forwarder number)) before after := by
  rcases linkForwarderWorld_after given with rfl | ⟨change, middle, rfl | rfl, -, rfl⟩
  · exact owes_refl _ _
  · exact owes_onForwarder
  · have crossing : owes connectionId (.agent (.forwarder number)) before (cross before) :=
      owes_aside _ ⟨rfl, rfl, fun _ => rfl⟩ rfl
    exact fun other apart => relies_trans (crossing other apart) (owes_onForwarder other apart)

theorem known_forwarder {call : TunnelCall} {answer : Except Exc (TunnelResult call)}
    (given : linkForwarderWorld connectionId number call answer before after)
    (known : Sound library connectionId before) : Sound library connectionId after := by
  have loop : sameLoop connectionId before after := linkForwarderWorld_owes given (.agent .loop) (by simp)
  refine ⟨by rw [loop]; exact known.1, ?_⟩
  rcases linkForwarderWorld_after given with rfl | ⟨change, middle, rfl | rfl, read, rfl⟩
  · exact known.2
  · exact known.2.onForwarder read
  · exact known.2.cross.onForwarder read

abbrev ForwarderRuns (library : Library) (connectionId : ConnectionId) (number : Nat) {α : Type}
    (program : TunnelTask α) (post : Except Exc α → TunnelWorld → Prop) (state : TunnelWorld) : Prop :=
  TunnelRuns library connectionId (.agent (.forwarder number)) program post state

/-- Bytes that were read go on the link at once, and nothing else of the channel. -/
theorem relayed {payload : Bytes} {requestId : Str} {middle : TunnelWorld}
    (known : Sound library connectionId state) (serving : Serving connectionId number channelId middle)
    (loop : loopOf connectionId middle = loopOf connectionId state)
    (quiet : emitted connectionId state = emitted connectionId middle)
    (read : ((state.agentSide connectionId).forwarders number).read =
      ((middle.agentSide connectionId).forwarders number).read ++ payload)
    (isOpen : state.crossed = false → IsOpen connectionId channelId state) :
    owes connectionId (.agent (.forwarder number)) state
        (emit connectionId ⟨.SESSION_DATA, requestId, some channelId, payload⟩ state) ∧
      Sound library connectionId
        (emit connectionId ⟨.SESSION_DATA, requestId, some channelId, payload⟩ state) ∧
      Serving connectionId number channelId
        (emit connectionId ⟨.SESSION_DATA, requestId, some channelId, payload⟩ state) := by
  have created : (loopOf connectionId state).created[number]? = some channelId := loop ▸ serving.created
  have sole := known.2.down.sole
  have whole : ((state.agentSide connectionId).forwarders number).read =
      outgoing channelId (emitted connectionId state) ++ payload := by
    rw [read, quiet, serving.even.relayed channelId serving.created]
  have linked : Linked connectionId
      (emit connectionId ⟨.SESSION_DATA, requestId, some channelId, payload⟩ state) := known.2.emit
    (known.2.up.relay sole created rfl rfl whole) (fun going _ other named => by
      rw [← Option.some.inj named]
      exact isOpen going)
  refine ⟨owes_forwarder steady_onSide loopOf_emit fun second apart => ?_, ⟨?_, linked⟩, ?_, ?_⟩
  · refine ⟨fun other found => by rw [loopOf_emit]; exact found, fun even => ⟨?_, fun other found => ?_⟩⟩
    · rw [loopOf_emit, forwarders_emit]
      exact even.unmade
    · rw [loopOf_emit] at found
      -- another local connection has another channel
      have elsewhere : other ≠ channelId := by
        rintro rfl
        have small := (List.getElem?_eq_some_iff.mp found).1
        exact apart ((List.getElem?_inj small sole).mp (found.trans created.symm))
      have dry : carried other (OutgoingFrame.decoded ⟨.SESSION_DATA, requestId, some channelId, payload⟩) =
          [] := carried_other (.inr fun same => elsewhere (Option.some.inj same).symm)
      rw [emitted_emit, outgoing_append, dry, List.append_nil, forwarders_emit]
      exact even.relayed other found
  · rw [loopOf_emit]
    exact known.1
  · rw [loopOf_emit]
    exact created
  · refine ⟨fun unmade => ?_, fun other found => ?_⟩
    · rw [loopOf_emit, created] at unmade
      cases unmade
    · rw [loopOf_emit, created] at found
      cases found
      rw [emitted_emit, outgoing_append, forwarders_emit, whole]
      exact congrArg (_ ++ ·) (if_pos ⟨rfl, rfl⟩)

theorem wait_forwarder {call : TunnelCall} (known : Sound library connectionId state) :
    ForwarderRuns library connectionId number (wait call)
      (fun _ after => Sound library connectionId after) state :=
  call_safe known fun _ _ _ _ still given => known_forwarder given still

theorem forward_runs {turns : Nat} (known : Sound library connectionId state)
    (serving : Serving connectionId number channelId state) :
    ForwarderRuns library connectionId number
      (forwardLocalToTunnel library connectionId maxFrameBytes number channelId turns)
      (fun _ after => Sound library connectionId after) state := by
  induction turns generalizing state with
  | zero => exact wait_forwarder known
  | succ turns ih =>
      refine Coro.wp_bind (call_safe known ?_)
      intro answer resumed after relied still given
      have holds := known_forwarder given still
      have before := serving.undisturbed relied
      cases answer with
      | error fault => exact holds
      | ok payload =>
          dsimp only
          split
          · exact holds
          rename_i some
          have given : linkForwarderWorld connectionId number (.localRead number 65536) (.ok payload)
              resumed after := given
          have same : sameLoop connectionId resumed after :=
            linkForwarderWorld_owes given (.agent .loop) (by simp)
          have loop : loopOf connectionId resumed = loopOf connectionId after := same.symm
          obtain ⟨quiet, read, isOpen⟩ : emitted connectionId after = emitted connectionId resumed ∧
              ((after.agentSide connectionId).forwarders number).read =
                ((resumed.agentSide connectionId).forwarders number).read ++ payload ∧
              (after.crossed = false → IsOpen connectionId channelId after) := by
            rcases given with ⟨-, -, rfl⟩ | ⟨onTime, -, rfl⟩
            · refine ⟨emitted_onForwarder, ?_, fun impossible => by cases impossible⟩
              rw [forwarders_onForwarder, Function.update_self]
              rfl
            · refine ⟨emitted_onForwarder, ?_, fun _ => ?_⟩
              · rw [forwarders_onForwarder, Function.update_self]
              · apply isOpen_of_created holds.2 (loop ▸ before.created)
                exact fun retired => onTime ⟨some, channelId, before.created, retired⟩
          refine Coro.wp_bind (Coro.wp_bind (attempt_safe (owes_refl _ after) ?_ fun _ _ => holds))
          intro written done
          obtain ⟨bytes, -, done⟩ := bind_ok.mp done
          cases done
          have step := @relayed library _ _ _ _ _ (channelId ++ lit ":data") _ holds before loop quiet read
            isOpen
          obtain ⟨owed, known, serving⟩ := step
          refine ⟨owed, call_safe known ?_⟩
          intro answer resumed after relied still given
          have same : after = resumed := given
          rw [same]
          cases answer with
          | error fault => exact still
          | ok value => exact ih still (serving.undisturbed relied)

theorem forwarder_runs {turns : Nat} (known : Sound library connectionId state)
    (serving : Serving connectionId number channelId state) :
    ForwarderRuns library connectionId number
      (forwarder library connectionId maxFrameBytes number channelId turns)
      (fun _ after => Sound library connectionId after) state := by
  refine Coro.wp_bind (Coro.wp_outcome (Coro.wp_mono ?_ (forward_runs known serving)))
  intro ended after known
  refine update_safe owes_onForwarder ⟨?_, known.2.onForwarder fun _ => List.prefix_rfl⟩
  rw [loopOf_onForwarder]
  exact known.1
end Forwarders

/-! All tasks together. -/
section Pools
variable {library : Library} {config : BrokerConfig} {connectionId : ConnectionId} {maxFrameBytes : Int}
  {task : LinkTask} {state before after : TunnelWorld}

/-- What a task finds that was not started yet. -/
def quiet (connectionId : ConnectionId) : LinkTask → TunnelWorld → Prop
  | .dispatcher => Level connectionId
  | .agent .loop => fun world => loopOf connectionId world = .empty
  | .agent (.forwarder number) => Even connectionId number
  | _ => fun _ => True

theorem quiet_relies (found : quiet connectionId task before) (relied : relies connectionId task before after) :
    quiet connectionId task after := by
  cases task with
  | dispatcher => exact Level.steady found relied
  | agent task =>
      cases task with
      | loop => exact Eq.trans relied found
      | forwarder number => exact relied.even found
      | breaking serial => trivial
  | call _ | closing _ _ | reading _ | clock _ => trivial

theorem plainWorld_same {call : TunnelCall} {answer : Except Exc (TunnelResult call)}
    (given : plainWorld call answer before after) : after = before := by
  unfold plainWorld at given
  split at given
  · exact given.elim
  · exact given

theorem linkWorld_owes {call : TunnelCall} {answer : Except Exc (TunnelResult call)}
    (given : linkWorld connectionId task call answer before after) :
    owes connectionId task before after := by
  have still : after = before → owes connectionId task before after := by
    rintro rfl
    exact owes_refl task after
  cases task with
  | dispatcher =>
      have world : dispatcherWorld connectionId call answer before after := given
      unfold dispatcherWorld at world
      split at world
      · obtain ⟨frame, -, -, rfl⟩ := world
        exact owes_dispatcher rfl
      · rw [world]
        exact owes_dispatcher rfl
      · exact still (plainWorld_same world)
  | closing channelId serial =>
      have world : closingWorld connectionId channelId call answer before after := given
      unfold closingWorld at world
      split at world
      · rcases world with ⟨-, rfl⟩ | ⟨-, same⟩
        · exact owes_aside _ ⟨rfl, rfl, fun _ => rfl⟩ rfl
        · exact still same
      · exact still (plainWorld_same world)
  | agent task =>
      cases task with
      | loop =>
          rcases linkLoopWorld_after given with same | ⟨change, rfl, created, -⟩
          · exact still same
          · exact owes_loop fun _ => undisturbed_onLoop created
      | forwarder number => exact linkForwarderWorld_owes given
      | breaking serial => exact still (plainWorld_same given)
  | call _ | reading _ | clock _ => exact still (plainWorld_same given)

theorem clock_runs {serial : Nat} {now : DateTime} (known : Sound library connectionId state) :
    TunnelRuns library connectionId (.clock serial) (update fun world => { world with clock := now })
      (fun _ after => Sound library connectionId after) state := by
  refine update_safe (owes_aside _ ⟨rfl, rfl, fun _ => rfl⟩ rfl) ⟨known.1, ?_⟩
  exact ⟨known.2.down, known.2.up, known.2.supplied, known.2.uncrossed⟩

theorem breaking_runs {serial : Nat} {broken : Nat → Option Exc}
    (known : Sound library connectionId state) :
    TunnelRuns library connectionId (.agent (.breaking serial))
      (update (onSide connectionId fun side => { side with broken := broken }))
      (fun _ after => Sound library connectionId after) state := by
  have loop : loopOf connectionId (onSide connectionId (fun side => { side with broken := broken }) state) =
      loopOf connectionId state := by
    rw [loopOf, onSide_same]
    rfl
  refine update_safe ?_ ⟨by rw [loop]; exact known.1, ?_⟩
  · intro other apart
    cases other with
    | dispatcher => exact steady_onSide
    | agent other =>
        cases other with
        | loop => exact loop
        | forwarder number =>
            apply Undisturbed.congr
            · rw [loop]
            · rw [emitted, onSide_same]
              rfl
            · rw [onSide_same]
        | breaking serial => trivial
    | call _ | closing _ _ | reading _ | clock _ => trivial
  · refine known.2.reside known.2.down.delivered known.2.down.created ?_ rfl
    exact known.2.up.congr rfl rfl fun _ => List.prefix_rfl

theorem link_programs_safe {program : TunnelTask Unit}
    (started : linkPrograms library config connectionId maxFrameBytes task program state)
    (known : Sound library connectionId state) (found : quiet connectionId task state) :
    Safe (linkWorld connectionId task) (Sound library connectionId) (linkContract connectionId task)
      program state := by
  have ends : TunnelRuns library connectionId task program
      (fun _ after => Sound library connectionId after) state := by
    cases task with
    | dispatcher =>
        obtain ⟨record, errorRequestId, turns, rfl⟩ := started
        exact dispatcher_runs known found
    | call serial => exact call_runs started known
    | closing channelId serial =>
        obtain ⟨requestId, rfl | rfl⟩ := started
        · exact closeSession_runs known
        · exact closeStream_runs known
    | reading serial =>
        obtain ⟨channelId, n, turns, asked, rfl⟩ := started
        refine Coro.wp_bind (Coro.wp_mono ?_ (read_runs asked known))
        rintro (fault | bytes) after known <;> exact known
    | clock serial =>
        obtain ⟨now, rfl⟩ := started
        exact clock_runs known
    | agent task =>
        cases task with
        | loop =>
            obtain ⟨turns, rfl⟩ := started
            have ready : With connectionId (Linked connectionId) Ready state :=
              ⟨by rw [show loopOf connectionId state = .empty from found]; exact ready_empty, known.2⟩
            refine Coro.wp_mono ?_ (handleAgentTunnelStream_runs beside_linked ready)
            exact fun _ _ gaveUp => ⟨gaveUp.1.routed, gaveUp.2⟩
        | forwarder number =>
            obtain ⟨channelId, turns, created, rfl⟩ := started
            exact forwarder_runs known ⟨created, found⟩
        | breaking serial =>
            obtain ⟨broken, rfl⟩ := started
            exact breaking_runs known
  exact Coro.wp_mono (fun _ _ known => ⟨known, trivial⟩) ends

/-- A tunnel right after its admission satisfies the invariant, and every task
can start from it. -/
theorem established_sound (established : Established connectionId state) (library : Library) :
    Sound library connectionId state ∧ ∀ task, quiet connectionId task state := by
  obtain ⟨connection, object, unknown, adapters⟩ := established.object
  have side := established.agentSide
  have loop : loopOf connectionId state = .empty := congrArg AgentSide.loop side
  have silent : emitted connectionId state = [] := congrArg AgentSide.emitted side
  have unopened : opened (sent connectionId state) = [] := by
    unfold opened sent
    apply List.filterMap_eq_nil_iff.mpr
    intro decoded member
    obtain ⟨frame, was, rfl⟩ := List.mem_map.mp member
    unfold opening
    split
    · exact established.unaddressed frame was
    · rfl
  have none : connection.channels.openChannels = ∅ := by
    apply Finset.subset_empty.mp
    rw [← unknown]
    exact Finset.subset_union_left
  have dry : ∀ channelId, total (state.reads connectionId channelId)
      (state.broker.streams connectionId channelId) = [] := by
    intro channelId
    rw [established.reads, established.streams]
    rfl
  refine ⟨⟨?_, ⟨?_, ?_, ?_, ?_⟩⟩, fun task => ?_⟩
  · rw [loop]
    exact standing_ready.routed _ ready_empty
  · rw [loop]
    refine ⟨List.nil_prefix, List.nil_prefix, ?_, ?_⟩
    · rw [unopened]
      exact List.nodup_nil
    · rw [unopened]
      exact fun _ impossible => (List.not_mem_nil impossible).elim
  · rw [side, established.received, established.handled]
    refine ⟨List.prefix_rfl, List.nil_prefix, ?_, ?_⟩
    · exact fun _ impossible => (List.not_mem_nil impossible).elim
    · intro number channelId impossible
      cases impossible
  · refine ⟨⟨connection, object, adapters.trans none.symm, fun channelId => ?_⟩, ?_, ?_, ?_⟩
    · rw [unknown, established.streams]
      simp
    · exact fun channelId _ => established.reads channelId
    · intro channelId
      rw [dry]
      exact List.nil_prefix
    · intro channelId read member
      rw [established.reads] at member
      cases member
  · rintro - channelId ⟨frame, member, -⟩
    rw [silent, List.drop_nil] at member
    cases member
  · cases task with
    | dispatcher =>
        refine ⟨established.received.trans established.handled.symm, fun channelId => ?_⟩
        rw [dry, established.handled]
        rfl
    | agent task =>
        cases task with
        | loop => exact loop
        | forwarder number =>
            refine ⟨fun _ => by rw [side]; rfl, fun channelId impossible => ?_⟩
            rw [loop] at impossible
            cases impossible
        | breaking serial => trivial
    | call _ | closing _ _ | reading _ | clock _ => trivial

theorem link_pool_safe {start : TunnelWorld} {pool : LinkPool}
    (established : Established connectionId start)
    (reached : LinkReachable library config connectionId maxFrameBytes start pool) :
    pool.Safe (linkWorld connectionId) (Sound library connectionId) (linkContract connectionId) := by
  obtain ⟨initial, fresh⟩ := established_sound established library
  refine (reachable_quiet (quiet connectionId) (linkContract_lawful connectionId) ?_ ?_ ?_ ?_ initial
    fresh reached).1
  · exact fun task other before after apart owed => owed other (Ne.symm apart)
  · exact fun task other before after apart owed found =>
      quiet_relies found (owed other (Ne.symm apart))
  · exact fun task call answer before after given => linkWorld_owes given
  · exact fun task program state started known found => link_programs_safe started known found
end Pools

/-! What the invariant says about bytes. -/

/-- Everything the reads of a stream returned. -/
def readOf (connectionId : ConnectionId) (channelId : ChannelId) (world : TunnelWorld) : Bytes :=
  ((world.reads connectionId channelId).map (·.data)).flatten

/-- Each channel has a local connection of its own. What is read of the channel
comes from it and what it was given was sent on the channel, in order and from
the first byte on; only a closed stream with nothing left reads as empty. -/
structure Faithful (connectionId : ConnectionId) (world : TunnelWorld) : Prop where
  sole : (loopOf connectionId world).created.Nodup
  upward : ∀ number channelId, (loopOf connectionId world).created[number]? = some channelId →
    readOf connectionId channelId world <+: ((world.agentSide connectionId).forwarders number).read
  downward : ∀ number channelId, (loopOf connectionId world).created[number]? = some channelId →
    (loopOf connectionId world).written number <+: dataFor channelId (sent connectionId world)
  apart : ∀ channelId, channelId ∉ (loopOf connectionId world).created →
    readOf connectionId channelId world = []
  ended : ∀ channelId, ∀ read ∈ world.reads connectionId channelId, read.data = [] →
    read.closed = true ∧ read.left = []

/-- The dispatch loop would take every frame that the agent has sent. -/
def Accepting (connectionId : ConnectionId) (world : TunnelWorld) : Prop :=
  ∀ frame ∈ (emitted connectionId world).drop (world.handled connectionId).length,
    ∃ broker, Broker.handleAgentFrame connectionId frame.decoded world.broker = .ok broker

section Bytes
variable {library : Library} {connectionId : ConnectionId} {world : TunnelWorld} {channelId : ChannelId}

theorem readOf_within (linked : Linked connectionId world) : readOf connectionId channelId world <+:
    outgoing channelId (emitted connectionId world) := by
  have fed := linked.supplied.fed channelId
  have ahead := linked.up.handled.trans linked.up.received
  exact ((List.prefix_append _ _).trans fed).trans (outgoing_grows ahead)

/-- What was written to a local connection is what its channel was sent, up to
the frames that the loop has not read or done. -/
theorem written_prefix {number : Nat} (known : Sound library connectionId world)
    (created : (loopOf connectionId world).created[number]? = some channelId) :
    (loopOf connectionId world).written number <+: dataFor channelId (sent connectionId world) := by
  obtain ⟨done, upto, follows, -⟩ := known.1
  have read : done <+: (loopOf connectionId world).frames := by
    rcases upto with same | ⟨last, same⟩
    · rw [same]
    · rw [same]
      exact List.prefix_append _ _
  rw [follows.journal.sole known.2.down.sole number channelId created]
  exact dataFor_prefix (read.trans known.2.down.delivered)

theorem sound_faithful (known : Sound library connectionId world) : Faithful connectionId world where
  sole := known.2.down.sole
  upward number channelId created :=
    (readOf_within known.2).trans (known.2.up.produced number channelId created)
  downward number channelId created := written_prefix known created
  apart channelId absent := by
    have silent : outgoing channelId (emitted connectionId world) = [] := known.2.up.silent absent
    have nothing : readOf connectionId channelId world <+: _ := readOf_within known.2
    rw [silent] at nothing
    exact List.prefix_nil.mp nothing
  ended := known.2.supplied.ended

/-- Data for an open channel is taken. -/
theorem handleData_open {decoded : DecodedTunnelFrame} (linked : Linked connectionId world)
    (type : decoded.frame.type = .SESSION_DATA) (named : decoded.frame.channelId = some channelId)
    (isOpen : IsOpen connectionId channelId world) :
    ∃ broker, Broker.handleAgentFrame connectionId decoded world.broker = .ok broker := by
  obtain ⟨connection, object, member⟩ := isOpen
  obtain ⟨other, same, attached, known⟩ := linked.supplied.attached
  cases object.symm.trans same
  obtain ⟨stream, found⟩ := Option.isSome_iff_exists.mp
    ((known channelId).mp (Finset.mem_union_left _ member))
  have taken : world.broker.onAdapter connectionId connection channelId
      (·.feedData decoded.payload) = .ok (world.broker.setStream connectionId channelId
        (stream.feedData decoded.payload)) := by
    rw [Broker.onAdapter, if_pos (attached ▸ member), found]
  unfold Broker.handleAgentFrame
  rw [type, named]
  exact ⟨_, bind_ok.mpr ⟨connection, Broker.object_ok.mpr object,
    bind_ok.mpr ⟨(), TunnelChannelRegistry.requireOpen_ok.mpr member, taken⟩⟩⟩

theorem linked_accepting (linked : Linked connectionId world) (uncrossed : world.crossed = false) :
    Accepting connectionId world := by
  intro frame flying
  rcases linked.up.relayed frame (List.mem_of_mem_drop flying) with heartbeat |
    ⟨type, channelId, -, named⟩
  · refine ⟨world.broker, ?_⟩
    unfold Broker.handleAgentFrame
    rw [show frame.decoded.frame.type = .HEARTBEAT from heartbeat]
  · exact handleData_open linked type named
      (linked.uncrossed uncrossed channelId ⟨frame, flying, type, named⟩)
end Bytes

section Results
variable (library : Library) (config : BrokerConfig) (connectionId : ConnectionId) (maxFrameBytes : Int)
  {start : TunnelWorld} {pool : LinkPool}

/-- In every run of a tunnel the bytes of each channel arrive as they were sent. -/
theorem bytes_delivered (established : Established connectionId start)
    (reached : LinkReachable library config connectionId maxFrameBytes start pool) :
    Faithful connectionId pool.state :=
  sound_faithful (link_pool_safe established reached).1

/-- While no channel is retired with data of it on its way, and no local sshd
sends on a channel after it was retired, the dispatch loop takes every frame of
the agent. -/
theorem frames_accepted (established : Established connectionId start)
    (reached : LinkReachable library config connectionId maxFrameBytes start pool)
    (uncrossed : pool.state.crossed = false) : Accepting connectionId pool.state :=
  linked_accepting (link_pool_safe established reached).1.2 uncrossed
end Results

/-! One tunnel with one channel. -/
theorem frameBound_positive : (0 : Int) < 65536 := by decide

def configLink : BrokerConfig := ⟨4, 30, 65536, frameBound_positive⟩

def openingLink (payload : Bytes) : OutgoingFrame := ⟨.OPEN_SESSION, [114], some [97], payload⟩

def byteLink : OutgoingFrame := ⟨.SESSION_DATA, [97] ++ lit ":data", some [97], [108]⟩

def worldLink : TunnelWorld :=
  { worldOne with broker :=
      { Broker.empty.setObject [99] BrokerRuns.connectionOne with
        active := Function.update (fun _ => none) agentOne (some [99])
        connections := Function.update (fun _ => none) agentOne (some [99]) } }

abbrev LinkOne : LinkPool → Prop := LinkReachable libraryOne configLink [99] 65536 worldLink

theorem established_link : Established [99] worldLink where
  object := ⟨BrokerRuns.connectionOne, rfl, rfl, rfl⟩
  streams _ := rfl
  reads _ := rfl
  unaddressed _ impossible := (List.not_mem_nil impossible).elim
  received := rfl
  handled := rfl
  agentSide := rfl

theorem openingLink_encodes : ∃ payload,
    BrokerCalls.openFrame libraryOne [97] [110] [117] [114] = some (openingLink payload) ∧
      Encodes libraryOne configLink (openingLink payload) := by
  have encodes : (BrokerCalls.openFrame libraryOne [97] [110] [117] [114]).any
      (fun frame => (frame.encode libraryOne.json configLink.maxFrameBytes).toBool) = true := by
    decide +kernel
  unfold BrokerCalls.openFrame at encodes ⊢
  cases made : encode (libraryOne.json.dumps
      (.object [(lit "node_name", .str [110]), (lit "username", .str [117])])) with
  | none =>
      rw [made] at encodes
      cases encodes
  | some payload =>
      rw [made] at encodes
      exact ⟨payload, rfl, encodes⟩

theorem byteLink_encodes : Encodes libraryOne configLink byteLink := by decide +kernel

theorem closeLink_encodes : Encodes libraryOne configLink ⟨.CLOSE_SESSION, [114], some [97], []⟩ := by
  decide +kernel

/-- A byte of the local sshd goes on the link at once. -/
theorem settle_relay {library : Library} {connectionId : ConnectionId} {maxFrameBytes : Int}
    {number turns : Nat} {channelId : ChannelId} {payload : Bytes} {state : TunnelWorld}
    {rest : Except Exc Unit → TunnelTask Unit} (some : payload ≠ [])
    (encodes : ∃ bytes, (OutgoingFrame.mk .SESSION_DATA (channelId ++ lit ":data") (.some channelId)
      payload).encode library.json maxFrameBytes = .ok bytes) :
    settle (Coro.outcome (if payload = [] then pure () else do
        AgentTunnel.writeFrame library connectionId
          ⟨.SESSION_DATA, channelId ++ lit ":data", .some channelId, payload⟩ maxFrameBytes
        forwardLocalToTunnel library connectionId maxFrameBytes number channelId turns) >>= rest) state =
      (Coro.outcome (do
        wait .drain
        forwardLocalToTunnel library connectionId maxFrameBytes number channelId turns) >>= rest,
        emit connectionId ⟨.SESSION_DATA, channelId ++ lit ":data", .some channelId, payload⟩ state) := by
  obtain ⟨bytes, encoded⟩ := encodes
  have written : (do
      let _ ← (OutgoingFrame.mk .SESSION_DATA (channelId ++ lit ":data") (.some channelId)
        payload).encode library.json maxFrameBytes
      .ok (emit connectionId ⟨.SESSION_DATA, channelId ++ lit ":data", .some channelId, payload⟩ state) :
        Except Exc TunnelWorld) = .ok (emit connectionId
          ⟨.SESSION_DATA, channelId ++ lit ":data", .some channelId, payload⟩ state) := by
    rw [encoded]
    rfl
  unfold AgentTunnel.writeFrame
  rw [if_neg some, bind_assoc, settle_attempt_outcome written]
  rfl

theorem channelLink_bounded : ((insert [97] ∅ : Finset ChannelId).card : Int) ≤ 4 := by decide

theorem channelLink_disjoint : Disjoint (insert [97] ∅ : Finset ChannelId) ∅ := by decide

theorem channelLink_named : [] ∉ (insert [97] ∅ : Finset ChannelId) := by decide

/-- The broker once the channel was announced. -/
def brokerOpen (payload : Bytes) : Broker :=
  { worldLink.broker.opened [99] BrokerRuns.connectionOne
      ⟨4, insert [97] ∅, ∅, BrokerRuns.fourChannels_positive, channelLink_bounded,
        channelLink_disjoint, channelLink_named⟩ [97] agentOne with
    wire := [⟨[99], openingLink payload⟩] }

/-- The channel is opened and its local sshd sends a byte. -/
theorem byte_sent : ∃ pool, LinkOne pool ∧ pool.state.crossed = false ∧
    (∀ task, task ≠ .call 0 → task ≠ .agent .loop → task ≠ .agent (.forwarder 0) →
      pool.tasks task = none) ∧
    (∃ payload, pool.state.broker = brokerOpen payload) ∧
    emitted [99] pool.state = [byteLink] ∧
    pool.state.received = (fun _ => []) ∧ pool.state.handled = (fun _ => []) ∧
    pool.state.reads = fun _ _ => [] := by
  obtain ⟨payload, made, encodes⟩ := openingLink_encodes
  have fresh : LinkOne ⟨fun _ => none, worldLink⟩ := .start
  obtain ⟨⟨_, _⟩, opening, rfl, rfl⟩ := fresh.spawned (.call 0) rfl
    (.openSession agentOne [97] [110] [107] [117] [117] [114]) (settle_openSession rfl made encodes)
  obtain ⟨⟨_, _⟩, looping, rfl, rfl⟩ := opening.spawned (.agent .loop) rfl ⟨2, rfl⟩ rfl
  obtain ⟨⟨_, _⟩, read, rfl, rfl⟩ := looping.resumed (.agent .loop) rfl
    (.ok (some (openingLink payload).decoded)) ⟨List.prefix_rfl, rfl⟩ rfl
  obtain ⟨⟨_, _⟩, connected, rfl, rfl⟩ := read.resumed (.agent .loop) rfl (.ok ()) rfl rfl
  have forwarding := connected.spawn (.agent (.forwarder 0))
    (forwarder libraryOne [99] 65536 0 [97] 2) rfl ⟨[97], 2, rfl, rfl⟩
  have short : ([108] : Bytes).length ≤ 65536 := by simp
  have relay := @settle_relay libraryOne [99] 65536 0 1 [97] [108]
  obtain ⟨⟨_, _⟩, sent, rfl, rfl⟩ := forwarding.resumed (.agent (.forwarder 0)) rfl (.ok [108])
    (.inr ⟨fun ⟨_, _, _, _, object, retired⟩ => (by cases object; cases retired), short, rfl⟩)
    (relay (by decide) byteLink_encodes.ok)
  refine ⟨_, sent, rfl, fun task one two three => ?_, ⟨payload, rfl⟩, rfl, rfl, rfl, rfl⟩
  simp only [Function.update_of_ne one, Function.update_of_ne two, Function.update_of_ne three,
    Pool.advance]

theorem frames_accepted_byte : ∃ pool, LinkOne pool ∧ emitted [99] pool.state = [byteLink] ∧
    Accepting [99] pool.state := by
  obtain ⟨pool, sent, uncrossed, -, -, emitted, -⟩ := byte_sent
  exact ⟨pool, sent, emitted, frames_accepted libraryOne configLink [99] 65536 established_link sent
    uncrossed⟩

/-- The byte is read as it was sent. -/
theorem bytes_delivered_byte : ∃ pool, LinkOne pool ∧
    readOf [99] [97] pool.state = [108] ∧ Faithful [99] pool.state := by
  obtain ⟨⟨tasks, ⟨broker, clock, agents, reads, received, handled, agentSide, crossed⟩⟩, sent, -, free,
    ⟨payload, rfl⟩, emitted, rfl, rfl, rfl⟩ := byte_sent
  have unstarted : tasks .dispatcher = none := free .dispatcher (by simp) (by simp) (by simp)
  have idle : tasks (.reading 0) = none := free (.reading 0) (by simp) (by simp) (by simp)
  have next : [] ++ [byteLink] <+: (agentSide [99]).emitted := by
    rw [show (agentSide [99]).emitted = [byteLink] from emitted]
    exact List.prefix_rfl
  obtain ⟨⟨_, _⟩, dispatching, rfl, rfl⟩ := sent.spawned .dispatcher unstarted
    ⟨rowOne, [101], 2, rfl⟩ rfl
  obtain ⟨⟨_, _⟩, arrived, rfl, rfl⟩ := dispatching.resumed .dispatcher rfl
    (.ok (some byteLink.decoded)) ⟨byteLink, next, rfl, rfl⟩ rfl
  obtain ⟨⟨_, _⟩, handled, rfl, rfl⟩ := arrived.resumed .dispatcher rfl (.ok ()) rfl rfl
  obtain ⟨⟨_, _⟩, read, rfl, rfl⟩ := handled.spawned (.reading 0) idle ⟨[97], -1, 1, by decide, rfl⟩ rfl
  exact ⟨_, read, rfl, bytes_delivered libraryOne configLink [99] 65536 established_link read⟩

/-- The channel is closed while the byte is on the link. -/
theorem byte_crosses_closing : ∃ pool, LinkOne pool ∧ ¬ Accepting [99] pool.state := by
  obtain ⟨⟨tasks, ⟨broker, clock, agents, reads, received, handled, agentSide, crossed⟩⟩, sent, -, free,
    ⟨payload, rfl⟩, emitted, rfl, rfl, rfl⟩ := byte_sent
  have idle : tasks (.closing [97] 0) = none := free _ (by simp) (by simp) (by simp)
  obtain ⟨⟨_, _⟩, closing, rfl, rfl⟩ := sent.spawned (.closing [97] 0) idle ⟨[114], .inl rfl⟩
    (settle_closeSession rfl closeLink_encodes)
  have flying : byteLink ∈ (agentSide [99]).emitted := by
    rw [show (agentSide [99]).emitted = [byteLink] from emitted]
    exact List.mem_cons_self
  have retired := closing.resume (.closing [97] 0) rfl (.ok ()) _
    (.inl ⟨⟨byteLink, flying, rfl, rfl⟩, rfl⟩)
  refine ⟨_, retired, fun accepting => ?_⟩
  obtain ⟨broker, taken⟩ := accepting byteLink flying
  cases taken

end VibeConnect.LinkDelivery
