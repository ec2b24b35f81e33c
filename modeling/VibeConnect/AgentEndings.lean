import VibeConnect.LinkDelivery

/-! The end of a local connection, and who hears of it. A forwarder returns at
the end of the local stream and raises when a read fails, and it writes nothing
to the tunnel then. The server learns that the node's side of a channel is gone
only where it closes the channel itself, so it has to be first. -/
namespace VibeConnect.AgentEndings
open Python.Text Python.JsonCodec Python.Values Python.Coroutine Python.Tasks Models TunnelProtocol TunnelState
open TunnelAuthenticator TunnelBroker AgentChannels AgentTunnel TunnelAdmission AgentIsolation
open BrokerCalls TunnelLink LinkInvariant LinkRuns LinkDelivery

/-- A forwarder has ended because its local connection did. -/
def Gone (forwarder : LocalForwarder) : Prop :=
  forwarder.outcome = some (.ok ()) ∨
    forwarder.readFault = true ∧ forwarder.outcome.isSome = true

/-- A read of the local connection is at the end of the stream, or fails. -/
def EndsLocally : (call : TunnelCall) → Except Exc (TunnelResult call) → Prop
  | .localRead _ _, .ok payload => payload = []
  | .localRead _ _, .error fault => fault ≠ .cancelledError
  | _, _ => False

/-! In what follows `isClosed` says of a local connection that the server has
closed its channel. -/
section Sides
variable (connectionId : ConnectionId)

def forwarderOf (world : TunnelWorld) (number : Nat) : LocalForwarder :=
  (world.agentSide connectionId).forwarders number

variable (isClosed : TunnelWorld → Nat → Prop)

/-- Every local connection that ended was closed by the server first. -/
def ClosedFirst (world : TunnelWorld) : Prop :=
  ∀ number, Gone (forwarderOf connectionId world number) → isClosed world number

/-- A step that leaves all forwarders but one alone, and nothing open again. -/
structure Leaves (mine : Option Nat) (before after : TunnelWorld) : Prop where
  forwarders : ∀ number, mine ≠ some number →
    forwarderOf connectionId after number = forwarderOf connectionId before number
  lasting : ∀ number, isClosed before number → isClosed after number

/-- What the answers to a forwarder's calls do. -/
structure Answers (number : Nat) (world : World TunnelWorld TunnelResult Exc) : Prop where
  leaves : ∀ call answer before after, world call answer before after →
    Leaves connectionId isClosed (some number) before after
  outcome : ∀ call answer before after, world call answer before after →
    (forwarderOf connectionId after number).outcome = (forwarderOf connectionId before number).outcome
  failed : ∀ call answer before after, world call answer before after →
    (forwarderOf connectionId after number).readFault = true →
      (forwarderOf connectionId before number).readFault = true ∨ isClosed after number
  isOver : ∀ serial count before after, world (.localRead serial count) (.ok []) before after →
    isClosed after number
  unending : ∀ before after, ¬ world .never (.ok ()) before after

/-- A predicate that the changes of the agent's side do not undo. -/
structure Lasting : Prop where
  loop : ∀ state change number, (∀ loop : AgentLoop, loop.frames <+: (change loop).frames ∧
      loop.created <+: (change loop).created) → isClosed state number →
    isClosed (onLoop connectionId change state) number
  side : ∀ state change number, (∀ side : AgentSide, (change side).loop = side.loop) →
    isClosed state number → isClosed (onSide connectionId change state) number
end Sides

section Relations
variable {connectionId : ConnectionId} {isClosed : TunnelWorld → Nat → Prop} {mine : Option Nat}
  {one two three before after world : TunnelWorld} {number : Nat}

theorem Leaves.refl (world : TunnelWorld) : Leaves connectionId isClosed mine world world :=
  ⟨fun _ _ => rfl, fun _ => id⟩

theorem Leaves.trans (first : Leaves connectionId isClosed mine one two)
    (second : Leaves connectionId isClosed mine two three) :
    Leaves connectionId isClosed mine one three where
  forwarders number other := (second.forwarders number other).trans (first.forwarders number other)
  lasting number closed := second.lasting number (first.lasting number closed)

theorem ClosedFirst.leaves (first : ClosedFirst connectionId isClosed before)
    (leaves : Leaves connectionId isClosed none before after) : ClosedFirst connectionId isClosed after := by
  intro number gone
  rw [leaves.forwarders number (by simp)] at gone
  exact leaves.lasting number (first number gone)

/-- A forwarder that has not ended, and no read of which failed while its channel
was open. -/
structure Reading (connectionId : ConnectionId) (isClosed : TunnelWorld → Nat → Prop) (number : Nat)
    (world : TunnelWorld) : Prop where
  going : (forwarderOf connectionId world number).outcome = none
  sound : (forwarderOf connectionId world number).readFault = true → isClosed world number

/-- A step of the others. -/
structure Relies (connectionId : ConnectionId) (isClosed : TunnelWorld → Nat → Prop) (number : Nat)
    (before after : TunnelWorld) : Prop where
  same : forwarderOf connectionId after number = forwarderOf connectionId before number
  lasting : isClosed before number → isClosed after number

theorem Reading.relied (reading : Reading connectionId isClosed number before)
    (relied : Relies connectionId isClosed number before after) :
    Reading connectionId isClosed number after := by
  refine ⟨?_, fun failed => ?_⟩
  · rw [relied.same]
    exact reading.going
  · rw [relied.same] at failed
    exact relied.lasting (reading.sound failed)

theorem Leaves.relied {other : Nat} (leaves : Leaves connectionId isClosed mine before after)
    (apart : mine ≠ some other) : Relies connectionId isClosed other before after :=
  ⟨leaves.forwarders other apart, leaves.lasting other⟩

/-- What a forwarder's own step makes of the others' connections. -/
theorem ClosedFirst.step (first : ClosedFirst connectionId isClosed before)
    (leaves : Leaves connectionId isClosed (some number) before after)
    (own : Gone (forwarderOf connectionId after number) → isClosed after number) :
    ClosedFirst connectionId isClosed after := by
  intro other gone
  by_cases same : other = number
  · subst same
    exact own gone
  · have apart : some number ≠ some other := fun equal => same (Option.some.inj equal).symm
    rw [leaves.forwarders other apart] at gone
    exact leaves.lasting other (first other gone)

theorem Reading.unended (reading : Reading connectionId isClosed number world) :
    ¬ Gone (forwarderOf connectionId world number) := by
  rintro (ended | ⟨-, ended⟩)
  · rw [reading.going] at ended
    cases ended
  · rw [reading.going] at ended
    cases ended
end Relations

/-! A forwarder, whatever the others do. -/
section Forwarders
variable {library : Library} {connectionId : ConnectionId} {maxFrameBytes : Int}
  {isClosed : TunnelWorld → Nat → Prop} {number : Nat} {world : World TunnelWorld TunnelResult Exc}
  {state : TunnelWorld}

theorem lasting_onForwarder {change : LocalForwarder → LocalForwarder}
    (lasting : Lasting connectionId isClosed) :
    Leaves connectionId isClosed (some number) state (onForwarder connectionId number change state) where
  forwarders other apart := by
    have elsewhere : other ≠ number := fun same => apart (congrArg some same.symm)
    unfold forwarderOf
    rw [forwarders_onForwarder, Function.update_of_ne elsewhere]
  lasting other := lasting.side state _ other fun _ => rfl

theorem lasting_emit {frame : OutgoingFrame} {mine : Option Nat}
    (lasting : Lasting connectionId isClosed) :
    Leaves connectionId isClosed mine state (emit connectionId frame state) where
  forwarders other _ := by
    unfold forwarderOf
    rw [forwarders_emit]
  lasting other := lasting.side state _ other fun _ => rfl

abbrev Forwards (connectionId : ConnectionId) (isClosed : TunnelWorld → Nat → Prop) (number : Nat)
    (world : World TunnelWorld TunnelResult Exc) {α : Type} (program : TunnelTask α)
    (post : Except Exc α → TunnelWorld → Prop) (state : TunnelWorld) : Prop :=
  program.wp (answered world (ClosedFirst connectionId isClosed) (Relies connectionId isClosed number))
    (obliged (ClosedFirst connectionId isClosed) (Leaves connectionId isClosed (some number))) post state

/-- Between two reads. -/
structure Going (connectionId : ConnectionId) (isClosed : TunnelWorld → Nat → Prop) (number : Nat)
    (world : TunnelWorld) : Prop where
  first : ClosedFirst connectionId isClosed world
  reading : Reading connectionId isClosed number world

theorem wait_going {call : TunnelCall} {post : Except Exc (TunnelResult call) → TunnelWorld → Prop}
    (answers : Answers connectionId isClosed number world)
    (going : Going connectionId isClosed number state)
    (next : ∀ answer resumed after, world call answer resumed after →
      Going connectionId isClosed number after → post answer after) :
    Forwards connectionId isClosed number world (wait call) post state := by
  refine call_safe going.first ?_
  intro answer resumed after relied first given
  have earlier := going.reading.relied relied
  have leaves := answers.leaves call answer resumed after given
  have reading : Reading connectionId isClosed number after := by
    refine ⟨(answers.outcome call answer resumed after given).trans earlier.going, fun failed => ?_⟩
    rcases answers.failed call answer resumed after given failed with before | closed
    · exact leaves.lasting number (earlier.sound before)
    · exact closed
  exact next answer resumed after given ⟨first.step leaves fun gone => (reading.unended gone).elim, reading⟩

theorem writeFrame_going {frame : OutgoingFrame} {bound : Int} (lasting : Lasting connectionId isClosed)
    (answers : Answers connectionId isClosed number world)
    (going : Going connectionId isClosed number state) :
    Forwards connectionId isClosed number world (AgentTunnel.writeFrame library connectionId frame bound)
      (fun _ after => Going connectionId isClosed number after) state := by
  refine Coro.wp_bind (attempt_safe (.refl state) ?_ fun _ _ => going)
  intro after written
  obtain ⟨_, -, written⟩ := bind_ok.mp written
  cases written
  have leaves : Leaves connectionId isClosed none state (emit connectionId frame state) :=
    lasting_emit lasting
  refine ⟨lasting_emit lasting, wait_going answers ⟨going.first.leaves leaves, ?_⟩ ?_⟩
  · exact going.reading.relied (leaves.relied (by simp))
  · exact fun _ _ _ _ going => going

/-- It returns where the server has closed the channel, and nowhere else. -/
theorem forward_going {channelId : ChannelId} {turns : Nat} (lasting : Lasting connectionId isClosed)
    (answers : Answers connectionId isClosed number world)
    (going : Going connectionId isClosed number state) :
    Forwards connectionId isClosed number world
      (forwardLocalToTunnel library connectionId maxFrameBytes number channelId turns)
      (fun ended after => Going connectionId isClosed number after ∧
        (ended = .ok () → isClosed after number)) state := by
  induction turns generalizing state with
  | zero =>
      refine wait_going answers going ?_
      intro answer resumed after given going
      refine ⟨going, ?_⟩
      rintro rfl
      exact (answers.unending resumed after given).elim
  | succ turns ih =>
      refine Coro.wp_bind (wait_going answers going ?_)
      intro answer resumed after given going
      cases answer with
      | error fault => exact ⟨going, fun impossible => nomatch impossible⟩
      | ok payload =>
          dsimp only
          split
          · rename_i empty
            subst empty
            exact ⟨going, fun _ => answers.isOver _ _ resumed after given⟩
          · refine Coro.wp_bind (Coro.wp_mono ?_ (writeFrame_going lasting answers going))
            rintro (fault | _) written going
            · exact ⟨going, fun impossible => nomatch impossible⟩
            · exact ih going

theorem forwarder_first {channelId : ChannelId} {turns : Nat} (lasting : Lasting connectionId isClosed)
    (answers : Answers connectionId isClosed number world)
    (going : Going connectionId isClosed number state) :
    Forwards connectionId isClosed number world
      (forwarder library connectionId maxFrameBytes number channelId turns)
      (fun _ after => ClosedFirst connectionId isClosed after) state := by
  refine Coro.wp_bind (Coro.wp_outcome (Coro.wp_mono ?_ (forward_going lasting answers going)))
  rintro ended after ⟨going, returned⟩
  have leaves : Leaves connectionId isClosed (some number) after (onForwarder connectionId number
      (fun forwarder => { forwarder with outcome := some ended }) after) := lasting_onForwarder lasting
  refine update_safe leaves (going.first.step leaves ?_)
  have record : forwarderOf connectionId (onForwarder connectionId number
      (fun forwarder => { forwarder with outcome := some ended }) after) number =
      { forwarderOf connectionId after number with outcome := some ended } := by
    unfold forwarderOf
    rw [forwarders_onForwarder, Function.update_self]
  rw [record]
  rintro (ok | ⟨failed, -⟩)
  · exact leaves.lasting number (returned (Option.some.inj ok))
  · exact leaves.lasting number (going.reading.sound failed)
end Forwarders

/-! Any pool of tasks of which some are forwarders, each with a number of its own. -/
section Pools
variable {connectionId : ConnectionId} {isClosed : TunnelWorld → Nat → Prop}

/-- A task that is no forwarder's, run from where no connection has ended first. -/
abbrev Aloof (connectionId : ConnectionId) (isClosed : TunnelWorld → Nat → Prop)
    (world : World TunnelWorld TunnelResult Exc) (α : Type) (program : TunnelTask α) : Prop :=
  ∀ state, ClosedFirst connectionId isClosed state →
    program.wp (answered world (ClosedFirst connectionId isClosed) fun _ _ => True)
      (obliged (ClosedFirst connectionId isClosed) (Leaves connectionId isClosed none))
      (fun _ => ClosedFirst connectionId isClosed) state

theorem aloof_composes (world : World TunnelWorld TunnelResult Exc) :
    Coro.Composes (Aloof connectionId isClosed world) :=
  Coro.wp_composes _ _ _

theorem aloof_look {world : World TunnelWorld TunnelResult Exc} :
    Aloof connectionId isClosed world TunnelWorld look :=
  fun _ first => look_safe first

theorem aloof_wait {world : World TunnelWorld TunnelResult Exc} {call : TunnelCall}
    (leaves : ∀ answer before after, world call answer before after →
      Leaves connectionId isClosed none before after) :
    Aloof connectionId isClosed world (TunnelResult call) (wait call) := by
  intro state first
  refine call_safe first ?_
  intro answer resumed after _ first given
  exact first.leaves (leaves answer resumed after given)

theorem aloof_update {world : World TunnelWorld TunnelResult Exc} {change : TunnelWorld → TunnelWorld}
    (leaves : ∀ state, Leaves connectionId isClosed none state (change state)) :
    Aloof connectionId isClosed world Unit (update change) :=
  fun state first => update_safe (leaves state) (first.leaves (leaves state))

theorem aloof_attempt {world : World TunnelWorld TunnelResult Exc}
    {change : TunnelWorld → Except Exc TunnelWorld}
    (leaves : ∀ state after, change state = .ok after → Leaves connectionId isClosed none state after) :
    Aloof connectionId isClosed world Unit (attempt change) := by
  intro state first
  refine attempt_safe (.refl state) (fun after done => ?_) fun _ _ => first
  exact ⟨leaves state after done, first.leaves (leaves state after done)⟩

/-- How the tasks of a pool are divided. -/
structure Divided {Key : Type} (connectionId : ConnectionId) (isClosed : TunnelWorld → Nat → Prop)
    (numberOf : Key → Option Nat) (worlds : Key → World TunnelWorld TunnelResult Exc)
    (programs : Key → TunnelTask Unit → TunnelWorld → Prop) : Prop where
  lasting : Lasting connectionId isClosed
  once : ∀ key other number, numberOf key = some number → numberOf other = some number → key = other
  answers : ∀ key number, numberOf key = some number →
    Answers connectionId isClosed number (worlds key)
  leaves : ∀ key, numberOf key = none → ∀ call answer before after,
    worlds key call answer before after → Leaves connectionId isClosed none before after
  forwarders : ∀ key number program state, numberOf key = some number → programs key program state →
    ∃ library maxFrameBytes channelId turns,
      program = forwarder library connectionId maxFrameBytes number channelId turns
  others : ∀ key program state, numberOf key = none → programs key program state →
    Aloof connectionId isClosed (worlds key) Unit program

variable {Key : Type} {numberOf : Key → Option Nat} {worlds : Key → World TunnelWorld TunnelResult Exc}
  {programs : Key → TunnelTask Unit → TunnelWorld → Prop}

def contractOf (connectionId : ConnectionId) (isClosed : TunnelWorld → Nat → Prop) :
    Option Nat → Contract TunnelWorld Exc Unit
  | some number => ⟨Relies connectionId isClosed number, Leaves connectionId isClosed (some number),
      fun _ _ => True⟩
  | none => ⟨fun _ _ => True, Leaves connectionId isClosed none, fun _ _ => True⟩

theorem contractOf_lawful (mine : Option Nat) : (contractOf connectionId isClosed mine).Lawful := by
  cases mine with
  | none => exact ⟨fun _ => trivial, fun _ _ _ _ _ => trivial, .refl, fun _ _ _ => Leaves.trans,
      fun _ _ _ _ _ => trivial⟩
  | some number =>
      refine ⟨fun _ => ⟨rfl, id⟩, fun _ _ _ first second => ⟨second.same.trans first.same, ?_⟩, .refl,
        fun _ _ _ => Leaves.trans, fun _ _ _ _ _ => trivial⟩
      exact fun closed => second.lasting (first.lasting closed)

theorem contractOf_guarantee (mine : Option Nat) :
    (contractOf connectionId isClosed mine).guarantee = Leaves connectionId isClosed mine := by
  cases mine <;> rfl

theorem divided_safe (divided : Divided connectionId isClosed numberOf worlds programs) {key : Key}
    {program : TunnelTask Unit} {state : TunnelWorld} (started : programs key program state)
    (first : ClosedFirst connectionId isClosed state)
    (quiet : ∀ number, numberOf key = some number →
      forwarderOf connectionId state number = ⟨[], false, none⟩) :
    Safe (worlds key) (ClosedFirst connectionId isClosed) (contractOf connectionId isClosed (numberOf key))
      program state := by
  cases mine : numberOf key with
  | none =>
      exact Coro.wp_mono (fun _ _ first => ⟨first, trivial⟩)
        (divided.others key program state mine started state first)
  | some number =>
      obtain ⟨library, maxFrameBytes, channelId, turns, rfl⟩ :=
        divided.forwarders key number program state mine started
      have record := quiet number mine
      have going : Going connectionId isClosed number state := by
        refine ⟨first, ?_, ?_⟩
        · rw [record]
        · rw [record]
          exact fun impossible => nomatch impossible
      exact Coro.wp_mono (fun _ _ first => ⟨first, trivial⟩)
        (forwarder_first divided.lasting (divided.answers key number mine) going)

theorem divided_closedFirst [DecidableEq Key]
    (divided : Divided connectionId isClosed numberOf worlds programs) {start : TunnelWorld}
    (fresh : ∀ number, forwarderOf connectionId start number = ⟨[], false, none⟩)
    {pool : Pool Key TunnelWorld TunnelResult Exc}
    (reached : Python.Tasks.Reachable worlds programs start pool) :
    ClosedFirst connectionId isClosed pool.state := by
  have initial : ClosedFirst connectionId isClosed start := by
    intro number gone
    rw [fresh number] at gone
    rcases gone with impossible | ⟨impossible, -⟩ <;> cases impossible
  have relied : ∀ key other before after number, key ≠ other →
      (contractOf connectionId isClosed (numberOf key)).guarantee before after →
      numberOf other = some number → Relies connectionId isClosed number before after := by
    intro key other before after number apart owed own
    rw [contractOf_guarantee] at owed
    exact owed.relied fun same => apart (divided.once key other number same own)
  refine (@reachable_quiet Key TunnelWorld TunnelCall Exc TunnelResult _ worlds programs
    (ClosedFirst connectionId isClosed) (fun key => contractOf connectionId isClosed (numberOf key))
    (fun key state => ∀ number, numberOf key = some number →
      forwarderOf connectionId state number = ⟨[], false, none⟩)
    (fun key => contractOf_lawful (numberOf key)) ?_ ?_ ?_ ?_ start initial
    (fun _ number _ => fresh number) pool reached).1.1
  · intro key other before after apart owed
    cases own : numberOf other with
    | none => trivial
    | some number => exact relied key other before after number apart owed own
  · intro key other before after apart owed quiet number own
    rw [(relied key other before after number apart owed own).same]
    exact quiet number own
  · intro key call answer before after given
    rw [contractOf_guarantee]
    cases mine : numberOf key with
    | none => exact divided.leaves key mine call answer before after given
    | some number => exact (divided.answers key number mine).leaves call answer before after given
  · exact fun key program state started first quiet => divided_safe divided started first quiet
end Pools

/-! The agent's loop keeps to its own tables. -/
section Loop
variable {library : Library} {connectionId : ConnectionId} {isClosed : TunnelWorld → Nat → Prop}
  {world : World TunnelWorld TunnelResult Exc}

theorem leaves_onLoop {change : AgentLoop → AgentLoop} {state : TunnelWorld}
    (lasting : Lasting connectionId isClosed)
    (grows : ∀ loop : AgentLoop, loop.frames <+: (change loop).frames ∧
      loop.created <+: (change loop).created) :
    Leaves connectionId isClosed none state (onLoop connectionId change state) where
  forwarders number _ := by
    unfold forwarderOf
    rw [forwarders_onLoop]
  lasting number := lasting.loop state change number grows

theorem leaves_breaking {broken : Nat → Option Exc} {state : TunnelWorld}
    (lasting : Lasting connectionId isClosed) : Leaves connectionId isClosed none state
      (onSide connectionId (fun side => { side with broken := broken }) state) where
  forwarders number _ := by
    unfold forwarderOf
    rw [onSide_same]
  lasting number := lasting.side state _ number fun _ => rfl

/-- What an answer to the loop changes. -/
theorem loopWorld_grows {call : TunnelCall} {answer : Except Exc (TunnelResult call)}
    {before after : TunnelWorld} (given : loopWorld connectionId call answer before after) :
    after = before ∨ ∃ change : AgentLoop → AgentLoop, after = onLoop connectionId change before ∧
      ∀ loop : AgentLoop, loop.frames <+: (change loop).frames ∧ loop.created <+: (change loop).created := by
  have failed : ∀ (locally : Bool) (loop : AgentLoop), loop.frames <+: (loop.fail locally).frames ∧
      loop.created <+: (loop.fail locally).created := by
    intro locally loop
    cases locally <;> exact ⟨List.prefix_rfl, List.prefix_rfl⟩
  have kept : ∀ {α : Type} (locally : Bool) (answer : Except Exc α) (loop : AgentLoop),
      loop.frames <+: (noted locally answer loop).frames ∧
        loop.created <+: (noted locally answer loop).created := by
    intro α locally answer loop
    cases answer with
    | ok value => exact ⟨List.prefix_rfl, List.prefix_rfl⟩
    | error fault => exact failed _ loop
  unfold loopWorld at given
  split at given
  · exact .inr ⟨_, given, fun loop => ⟨List.prefix_append _ _, List.prefix_rfl⟩⟩
  · exact .inr ⟨_, given, failed false⟩
  · rcases given with ⟨-, same⟩ | ⟨-, -, same⟩
    · exact .inl same
    · exact .inr ⟨_, same, kept _ _⟩
  · exact .inr ⟨_, given, kept _ _⟩
  · exact .inr ⟨_, given, kept _ _⟩
  · exact .inr ⟨_, given, kept _ _⟩
  · exact given.elim
  · exact .inr ⟨_, given, kept _ _⟩

theorem loopWorld_leaves {call : TunnelCall} {answer : Except Exc (TunnelResult call)}
    {before after : TunnelWorld} (lasting : Lasting connectionId isClosed)
    (given : loopWorld connectionId call answer before after) :
    Leaves connectionId isClosed none before after := by
  rcases loopWorld_grows given with rfl | ⟨change, rfl, grows⟩
  · exact .refl after
  · exact leaves_onLoop lasting grows

variable (lasting : Lasting connectionId isClosed)
  (leaves : ∀ call answer before after, world call answer before after →
    Leaves connectionId isClosed none before after)
include lasting leaves

omit leaves in
theorem aloof_onLoop {change : AgentLoop → AgentLoop} (plain : ∀ loop : AgentLoop,
    (change loop).frames = loop.frames ∧ loop.created <+: (change loop).created) :
    Aloof connectionId isClosed world Unit (update (onLoop connectionId change)) := by
  apply aloof_update
  intro state
  apply leaves_onLoop lasting
  intro loop
  refine ⟨?_, (plain loop).2⟩
  rw [(plain loop).1]

theorem aloof_writeFrame {frame : OutgoingFrame} {bound : Int} : Aloof connectionId isClosed world Unit
    (AgentTunnel.writeFrame library connectionId frame bound) := by
  refine (aloof_composes world).sequel (aloof_attempt ?_) fun _ => aloof_wait (leaves .drain)
  intro state after written
  obtain ⟨_, -, written⟩ := bind_ok.mp written
  cases written
  exact lasting_emit lasting

theorem aloof_closeChannel {number : Nat} :
    Aloof connectionId isClosed world Unit (closeChannel connectionId number) := by
  have composes := @aloof_composes connectionId isClosed world
  refine composes.sequel (aloof_onLoop lasting fun _ => ⟨rfl, List.prefix_rfl⟩) fun _ => ?_
  refine composes.sequel (composes.handled (aloof_wait (leaves _)) fun raised => ?_) fun _ => ?_
  · split
    · exact composes.returns ()
    · exact composes.raises raised
  · exact composes.sequel (aloof_onLoop lasting fun _ => ⟨rfl, List.prefix_rfl⟩) fun _ =>
      aloof_wait (leaves _)

omit leaves in
theorem aloof_writeLocal {number : Nat} {payload : Bytes} : Aloof connectionId isClosed world Unit
    (change (writeLocal connectionId number payload)) := by
  intro state first
  have moved : Leaves connectionId isClosed none state (writeLocal connectionId number payload state).2 := by
    unfold writeLocal
    split
    · exact leaves_onLoop lasting fun _ => ⟨List.prefix_rfl, List.prefix_rfl⟩
    · exact leaves_onLoop lasting fun _ => ⟨List.prefix_rfl, List.prefix_rfl⟩
  exact change_safe moved (first.leaves moved)

theorem aloof_handleFrame {decoded : DecodedTunnelFrame} :
    Aloof connectionId isClosed world Unit (handleFrame library connectionId decoded) := by
  have composes := @aloof_composes connectionId isClosed world
  have plain : ∀ call, Aloof connectionId isClosed world (TunnelResult call) (wait call) :=
    fun call => aloof_wait (leaves call)
  unfold handleFrame
  split
  · exact composes.returns ()
  · exact aloof_writeFrame lasting leaves
  · refine composes.sequel (composes.ofAnswer _) fun channelId => composes.sequel aloof_look fun _ => ?_
    split
    · exact composes.raises _
    · refine composes.sequel (plain _) fun _ => composes.sequel ?_ fun _ => plain _
      exact aloof_onLoop lasting fun _ => ⟨rfl, List.prefix_append _ _⟩
  · refine composes.sequel (composes.ofAnswer _) fun channelId => composes.sequel aloof_look fun _ => ?_
    split
    · exact composes.raises _
    · exact composes.sequel (aloof_writeLocal lasting) fun _ => plain _
  · refine composes.sequel (composes.ofAnswer _) fun channelId => composes.sequel aloof_look fun _ => ?_
    split
    · exact composes.raises _
    · exact composes.returns ()
  · refine composes.sequel (composes.ofAnswer _) fun channelId => composes.sequel aloof_look fun _ => ?_
    split
    · exact composes.returns ()
    · refine composes.sequel ?_ fun _ => aloof_closeChannel lasting leaves
      exact aloof_onLoop lasting fun _ => ⟨rfl, List.prefix_rfl⟩
  · exact composes.raises _

theorem aloof_frameLoop {turns : Nat} :
    Aloof connectionId isClosed world Unit (frameLoop library connectionId turns) := by
  have composes := @aloof_composes connectionId isClosed world
  induction turns with
  | zero => exact aloof_wait (leaves .never)
  | succ turns ih =>
      refine composes.sequel (aloof_wait (leaves .readFrame)) fun read => ?_
      cases read with
      | none => exact composes.returns ()
      | some decoded => exact composes.sequel (aloof_handleFrame lasting leaves) fun _ => ih

theorem aloof_closeEach {left : List (ChannelId × Nat)} :
    Aloof connectionId isClosed world Unit (closeEach connectionId left) := by
  have composes := @aloof_composes connectionId isClosed world
  induction left with
  | nil => exact composes.returns ()
  | cons entry rest ih => exact composes.sequel (aloof_closeChannel lasting leaves) fun _ => ih

theorem aloof_handleAgentTunnelStream {turns : Nat} :
    Aloof connectionId isClosed world Unit (handleAgentTunnelStream library connectionId turns) := by
  have composes := @aloof_composes connectionId isClosed world
  exact composes.finallyDo (aloof_frameLoop lasting leaves)
    (composes.sequel aloof_look fun _ => aloof_closeEach lasting leaves)
end Loop

/-! The agent alone, under any frames. -/
section Agent
variable {connectionId : ConnectionId}

/-- The loop has read the closing of a connection's channel after its opening. -/
def ClosedByServer (connectionId : ConnectionId) (world : TunnelWorld) (number : Nat) : Prop :=
  ∃ channelId before close later,
    (loopOf connectionId world).created[number]? = some channelId ∧
    (loopOf connectionId world).frames = before ++ close :: later ∧ number < (opened before).length ∧
    close.frame.type = .CLOSE_SESSION ∧ close.frame.channelId = some channelId

/-- A local connection ends only after the server has closed its channel. -/
def closedFirstWorld (connectionId : ConnectionId) : AgentTask → World TunnelWorld TunnelResult Exc
  | .forwarder number => fun call answer before after =>
      (EndsLocally call answer → ClosedByServer connectionId before number) ∧
        forwarderWorld connectionId number call answer before after
  | task => agentWorld connectionId task

theorem lasting_closedByServer : Lasting connectionId (ClosedByServer connectionId) where
  loop state change number grows closed := by
    obtain ⟨channelId, before, close, later, made, read, opening, type, named⟩ := closed
    obtain ⟨⟨more, frames⟩, created⟩ := grows (loopOf connectionId state)
    refine ⟨channelId, before, close, later ++ more, ?_, ?_, opening, type, named⟩
    · rw [loopOf_onLoop]
      exact getElem?_of_prefix created made
    · rw [loopOf_onLoop, ← frames, read]
      simp
  side state change number plain closed := by
    have same : loopOf connectionId (onSide connectionId change state) = loopOf connectionId state := by
      unfold loopOf
      rw [onSide_same]
      exact plain _
    unfold ClosedByServer
    rw [same]
    exact closed

/-- What an answer to a forwarder makes of its record. -/
theorem forwarderWorld_record {number : Nat} {call : TunnelCall} {answer : Except Exc (TunnelResult call)}
    {before after : TunnelWorld} (given : forwarderWorld connectionId number call answer before after) :
    after = before ∨ ∃ change : LocalForwarder → LocalForwarder,
      after = onForwarder connectionId number change before ∧
      (∀ forwarder, (change forwarder).outcome = forwarder.outcome) ∧
      ∀ forwarder, (change forwarder).readFault = true →
        forwarder.readFault = true ∨ EndsLocally call answer := by
  unfold forwarderWorld at given
  split at given
  · exact .inr ⟨_, given.2, fun _ => rfl, fun _ => .inl⟩
  · refine .inr ⟨_, given, fun _ => rfl, fun forwarder failed => .inr ?_⟩
    rename_i fault
    have differs : fault ≠ .cancelledError := of_decide_eq_true failed
    exact differs
  · exact given.elim
  · exact .inl given

/-- A world whose answers are a forwarder's, where the local connection ends late. -/
structure EndsLate (connectionId : ConnectionId) (isClosed : TunnelWorld → Nat → Prop) (number : Nat)
    (world : World TunnelWorld TunnelResult Exc) : Prop where
  closed : ∀ call answer before after, world call answer before after →
    EndsLocally call answer → isClosed before number
  given : ∀ call answer before after, world call answer before after → ∃ middle,
    middle.agentSide connectionId = before.agentSide connectionId ∧
    (∀ other, isClosed before other → isClosed middle other) ∧
    forwarderWorld connectionId number call answer middle after

theorem EndsLate.leaves {isClosed : TunnelWorld → Nat → Prop} {number : Nat}
    {world : World TunnelWorld TunnelResult Exc} (lasting : Lasting connectionId isClosed)
    (late : EndsLate connectionId isClosed number world) {call : TunnelCall}
    {answer : Except Exc (TunnelResult call)} {before after : TunnelWorld}
    (given : world call answer before after) :
    Leaves connectionId isClosed (some number) before after := by
  obtain ⟨middle, side, kept, moved⟩ := late.given call answer before after given
  have first : Leaves connectionId isClosed (some number) before middle := by
    refine ⟨fun other _ => ?_, kept⟩
    unfold forwarderOf
    rw [side]
  rcases forwarderWorld_record moved with rfl | ⟨change, rfl, -, -⟩
  · exact first
  · exact first.trans (lasting_onForwarder lasting)

theorem EndsLate.answers {isClosed : TunnelWorld → Nat → Prop} {number : Nat}
    {world : World TunnelWorld TunnelResult Exc} (lasting : Lasting connectionId isClosed)
    (late : EndsLate connectionId isClosed number world) : Answers connectionId isClosed number world where
  leaves _ _ _ _ given := late.leaves lasting given
  outcome call answer before after given := by
    obtain ⟨middle, side, -, moved⟩ := late.given call answer before after given
    unfold forwarderOf
    rw [← side]
    rcases forwarderWorld_record moved with rfl | ⟨change, rfl, outcome, -⟩
    · rfl
    · rw [forwarders_onForwarder, Function.update_self]
      exact outcome _
  failed call answer before after given failed := by
    obtain ⟨middle, side, -, moved⟩ := late.given call answer before after given
    unfold forwarderOf at failed ⊢
    rw [← side]
    rcases forwarderWorld_record moved with rfl | ⟨change, rfl, -, fault⟩
    · exact .inl failed
    · rw [forwarders_onForwarder, Function.update_self] at failed
      refine (fault _ failed).imp id fun ends => ?_
      exact (late.leaves lasting given).lasting number (late.closed call answer before _ given ends)
  isOver serial count before after given :=
    (late.leaves lasting given).lasting number (late.closed _ _ before after given rfl)
  unending before after given := by
    obtain ⟨middle, -, -, moved⟩ := late.given _ _ before after given
    exact moved

def forwarderNumber : AgentTask → Option Nat
  | .forwarder number => some number
  | _ => none

theorem agent_divided {library : Library} {maxFrameBytes : Int} :
    Divided connectionId (ClosedByServer connectionId) forwarderNumber (closedFirstWorld connectionId)
      (agentPrograms connectionId library maxFrameBytes) where
  lasting := lasting_closedByServer
  once key other number mine same := by
    cases key <;> cases other <;> cases mine <;> cases same
    rfl
  answers key number mine := by
    cases key with
    | forwarder own =>
        cases mine
        apply EndsLate.answers lasting_closedByServer
        exact ⟨fun _ _ _ _ given => given.1, fun _ _ before _ given => ⟨before, rfl, fun _ => id, given.2⟩⟩
    | loop => cases mine
    | breaking serial => cases mine
  leaves key mine call answer before after given := by
    cases key with
    | forwarder own => cases mine
    | loop => exact loopWorld_leaves lasting_closedByServer given
    | breaking serial =>
        have same : after = before := given
        rw [same]
        exact .refl before
  forwarders key number program state mine started := by
    cases key with
    | forwarder own =>
        cases mine
        obtain ⟨channelId, turns, -, rfl⟩ := started
        exact ⟨_, _, channelId, turns, rfl⟩
    | loop => cases mine
    | breaking serial => cases mine
  others key program state mine started := by
    cases key with
    | forwarder own => cases mine
    | loop =>
        obtain ⟨turns, rfl⟩ := started
        apply aloof_handleAgentTunnelStream lasting_closedByServer
        exact fun _ _ _ _ given => loopWorld_leaves lasting_closedByServer given
    | breaking serial =>
        obtain ⟨broken, rfl⟩ := started
        exact aloof_update fun _ => leaves_breaking lasting_closedByServer
end Agent

/-! The tunnel from end to end: what the server has retired stays retired. -/
section Server
variable {connectionId other : ConnectionId} {broker after : Broker} {channelId : ChannelId}
  {agentId : Uuid}

/-- The channel of a local connection is retired at the server, and not counted. -/
def ClosedAtServer (connectionId : ConnectionId) (world : TunnelWorld) (number : Nat) : Prop :=
  ∃ channelId, (loopOf connectionId world).created[number]? = some channelId ∧
    Retired connectionId channelId world

def Retains (connectionId : ConnectionId) (broker after : Broker) : Prop :=
  ∀ channelId connection, broker.objects connectionId = some connection →
    channelId ∈ connection.channels.retiredChannels →
    ∃ next, after.objects connectionId = some next ∧ channelId ∈ next.channels.retiredChannels

theorem retains_same (same : after.objects = broker.objects) : Retains connectionId broker after := by
  intro channelId connection found retired
  exact ⟨connection, by rw [same]; exact found, retired⟩

theorem retains_setObject {connection changed : BrokerTunnelConnection}
    (object : broker.objects other = some connection)
    (grows : connection.channels.retiredChannels ⊆ changed.channels.retiredChannels) :
    Retains connectionId broker (broker.setObject other changed) := by
  intro channelId found there retired
  by_cases same : connectionId = other
  · subst same
    cases object.symm.trans there
    exact ⟨changed, BrokerInvariant.objects_setObject.mpr (.inl ⟨rfl, rfl⟩), grows retired⟩
  · exact ⟨found, BrokerInvariant.objects_setObject.mpr (.inr ⟨same, there⟩), retired⟩

theorem retains_markSeen {seenAt : DateTime}
    (marked : Broker.markSeen other seenAt broker = .ok after) : Retains connectionId broker after := by
  obtain ⟨connection, object, rfl⟩ := Broker.markSeen_ok marked
  exact retains_setObject object subset_rfl

theorem retains_retired {connection : BrokerTunnelConnection} {channels : TunnelChannelRegistry}
    (object : broker.objects other = some connection)
    (closed : connection.channels.closeChannel channelId = .ok channels) :
    Retains connectionId broker (broker.retired other connection channels channelId) := by
  have grows : connection.channels.retiredChannels ⊆ channels.retiredChannels := by
    rw [(TunnelChannelRegistry.closeChannel_ok closed).2.2.1]
    exact Finset.subset_insert _ _
  exact @retains_setObject connectionId other broker connection
    { connection with channels := channels, adapters := connection.adapters.erase channelId } object grows

theorem retains_retireChannel (retired : Broker.retireChannel other channelId broker = .ok after) :
    Retains connectionId broker after := by
  obtain ⟨connection, channels, object, closed, rfl⟩ := Broker.retireChannel_ok retired
  exact retains_retired object closed

theorem retains_handleAgentFrame {decoded : DecodedTunnelFrame}
    (handled : Broker.handleAgentFrame other decoded broker = .ok after) :
    Retains connectionId broker after := by
  rcases Broker.handleAgentFrame_ok handled with rfl | ⟨_, _, _, -, -, -, -, -, rfl⟩ |
    ⟨channelId, connection, channels, stream, -, object, closed, -, rfl⟩
  · exact retains_same rfl
  · exact retains_same rfl
  · have unmoved : (broker.setStream other channelId stream.feedEof).objects other = some connection :=
      object
    exact retains_retired unmoved closed

theorem retains_openChannel {hostKey username certificateUsername : Str} {now : DateTime}
    (done : broker.openChannel agentId channelId hostKey username certificateUsername now =
      .ok (after, other)) : Retains connectionId broker after := by
  obtain ⟨connection, channels, -, object, -, added, rfl⟩ := Broker.openChannel_ok done
  have same : connection.channels.retiredChannels ⊆ channels.retiredChannels := by
    rw [(TunnelChannelRegistry.openChannel_ok added).2.2.1]
  exact @retains_setObject connectionId other broker connection
    { connection with channels := channels, adapters := insert channelId connection.adapters } object same

theorem leaves_onBroker {state : TunnelWorld} (retains : Retains connectionId state.broker broker) :
    Leaves connectionId (ClosedAtServer connectionId) none state (state.onBroker broker) := by
  refine ⟨fun _ _ => rfl, ?_⟩
  rintro number ⟨channelId, made, connection, object, retired⟩
  exact ⟨channelId, made, retains channelId connection object retired⟩

theorem leaves_send {state : TunnelWorld} {frame : OutgoingFrame} :
    Leaves connectionId (ClosedAtServer connectionId) none state (state.send other frame) :=
  ⟨fun _ _ => rfl, fun _ => id⟩

theorem lasting_closedAtServer : Lasting connectionId (ClosedAtServer connectionId) where
  loop state change number grows closed := by
    obtain ⟨channelId, made, retired⟩ := closed
    refine ⟨channelId, ?_, retired⟩
    rw [loopOf_onLoop]
    exact getElem?_of_prefix (grows _).2 made
  side state change number plain closed := by
    obtain ⟨channelId, made, retired⟩ := closed
    refine ⟨channelId, ?_, retired⟩
    unfold loopOf
    rw [onSide_same, plain]
    exact made
end Server

section Tasks
variable {library : Library} {config : BrokerConfig} {connectionId other : ConnectionId}
  {channelId : ChannelId} {world : World TunnelWorld TunnelResult Exc}
  (leaves : ∀ call answer before after, world call answer before after →
    Leaves connectionId (ClosedAtServer connectionId) none before after)

/-- A task that is not the agent's. -/
abbrev Serves (connectionId : ConnectionId) (world : World TunnelWorld TunnelResult Exc) (α : Type)
    (program : TunnelTask α) : Prop :=
  Aloof connectionId (ClosedAtServer connectionId) world α program

theorem serves_onBroker {block : Broker → Except Exc Broker}
    (retains : ∀ broker after, block broker = .ok after → Retains connectionId broker after) :
    Serves connectionId world Unit (onBroker block) := by
  apply aloof_attempt
  intro state after done
  obtain ⟨broker, changed, done⟩ := bind_ok.mp done
  cases done
  exact leaves_onBroker (retains state.broker broker changed)

theorem serves_onStream {change : BrokerTunnelStream → BrokerTunnelStream} :
    Serves connectionId world Unit (onBroker (onStream other channelId change)) := by
  apply serves_onBroker
  intro broker after changed
  obtain ⟨stream, -, changed⟩ := bind_ok.mp changed
  cases changed
  exact retains_same rfl

include leaves

theorem serves_writeFrame {frame : OutgoingFrame} {bound : Int} :
    Serves connectionId world Unit (TunnelBroker.writeFrame library other frame bound) := by
  refine (aloof_composes world).sequel (aloof_attempt ?_) fun _ => aloof_wait (leaves .drain)
  intro state after written
  obtain ⟨_, -, written⟩ := bind_ok.mp written
  cases written
  exact leaves_send

theorem serves_openSession {agentId : Uuid}
    {nodeName hostKey username certificateUsername requestId : Str} :
    Serves connectionId world Unit (openSession library config agentId channelId nodeName hostKey
      username certificateUsername requestId) := by
  intro state first
  refine openSession_calls first .refl (fun answer before after given first => ?_) ?_
  · exact first.leaves (leaves .drain answer before after given)
  · intro broker connection done
    have moved := leaves_onBroker (@retains_openChannel connectionId _ _ _ _ _ _ _ _ _ done)
    refine ⟨moved, fun _ => first.leaves moved, fun frame _ _ => ?_⟩
    exact ⟨leaves_send, (first.leaves moved).leaves leaves_send⟩

theorem serves_call {program : TunnelTask Unit} (call : LinkCall library config program) :
    Serves connectionId world Unit program := by
  have composes := @aloof_composes connectionId (ClosedAtServer connectionId) world
  cases call with
  | openSession => exact serves_openSession leaves
  | sendData =>
      exact composes.sequel aloof_look fun _ => composes.sequel (composes.ofAnswer _) fun _ =>
        serves_writeFrame leaves
  | resizePty =>
      refine composes.sequel aloof_look fun _ => composes.sequel (composes.ofAnswer _) fun _ => ?_
      split
      · exact composes.raises _
      · exact serves_writeFrame leaves

theorem serves_closeSession {requestId : Str} :
    Serves connectionId world Unit (closeSession library config channelId requestId) := by
  have composes := @aloof_composes connectionId (ClosedAtServer connectionId) world
  refine composes.sequel aloof_look fun _ => composes.sequel (composes.ofAnswer _) fun _ => ?_
  refine composes.sequel (serves_writeFrame leaves) fun _ => serves_onBroker ?_
  exact fun broker after closed => retains_retireChannel closed

theorem serves_closeStream {requestId : Str} :
    Serves connectionId world Unit (closeStream other channelId library config requestId) := by
  have composes := @aloof_composes connectionId (ClosedAtServer connectionId) world
  refine composes.sequel aloof_look fun _ => composes.sequel (composes.ofAnswer _) fun _ => ?_
  exact composes.onlyIf (composes.sequel serves_onStream fun _ => serves_closeSession leaves)

theorem serves_read {n : Int} {turns : Nat} :
    Serves connectionId world Bytes (read other channelId n turns) := by
  have composes := @aloof_composes connectionId (ClosedAtServer connectionId) world
  have awaits : Serves connectionId world Unit (awaitData other channelId turns) := by
    induction turns with
    | zero => exact aloof_wait (leaves .never)
    | succ turns ih =>
        refine composes.sequel aloof_look fun _ => composes.sequel (composes.ofAnswer _) fun _ => ?_
        refine composes.onlyIf (composes.sequel (aloof_wait (leaves .dataReady)) fun _ => ?_)
        exact composes.sequel serves_onStream fun _ => ih
  refine composes.sequel awaits fun _ => fun state first => ?_
  have moved : Leaves connectionId (ClosedAtServer connectionId) none state
      (takeNow other channelId n state).2 := by
    unfold takeNow
    split
    · exact .refl state
    · exact ⟨fun _ _ => rfl, fun _ => id⟩
  exact change_safe moved (first.leaves moved)

theorem serves_dispatcher {record : AgentTunnelRecord} {errorRequestId : Str} {turns : Nat} :
    Serves connectionId world Unit (dispatcher library other record errorRequestId turns) := by
  have composes := @aloof_composes connectionId (ClosedAtServer connectionId) world
  have reads : Serves connectionId world DecodedTunnelFrame readNext := by
    refine composes.sequel (aloof_wait (leaves .readFrame)) fun read => ?_
    cases read with
    | none => exact composes.raises _
    | some decoded => exact composes.returns decoded
  have turn : Serves connectionId world Unit (dispatchOne readNext other record.agentId) := by
    refine composes.sequel reads fun decoded => composes.sequel aloof_look fun _ => ?_
    refine composes.sequel (serves_onBroker fun _ _ marked => retains_markSeen marked) fun _ => ?_
    refine composes.sequel (aloof_wait (leaves _)) fun _ => serves_onBroker ?_
    exact fun _ _ handled => retains_handleAgentFrame handled
  have loops : Serves connectionId world Unit
      (forever (wait .never) (dispatchOne readNext other record.agentId) turns) := by
    induction turns with
    | zero => exact aloof_wait (leaves .never)
    | succ turns ih => exact composes.sequel turn fun _ => ih
  have errs : Serves connectionId world Unit (bestEffortError library other errorRequestId) := by
    refine composes.handled (serves_writeFrame leaves) fun raised => ?_
    split
    · exact composes.returns ()
    · exact composes.raises raised
  refine composes.finallyDo (composes.handled loops fun raised => ?_) ?_
  · unfold streamFault
    split
    · exact composes.returns ()
    · exact composes.returns ()
    · exact composes.returns ()
    · exact errs
    · exact errs
    · exact errs
    · exact composes.raises _
  · refine composes.sequel (serves_onBroker fun broker after dropped => ?_) fun _ =>
      aloof_wait (leaves .waitClosed)
    cases dropped
    exact retains_same (dropConnection_same broker record.agentId other connectionId).2.1
end Tasks

/-! Both ends together. -/
section Link
variable {library : Library} {config : BrokerConfig} {connectionId : ConnectionId} {maxFrameBytes : Int}

/-- A local connection ends only when the server does not count its channel any
more. -/
def linkClosedFirstWorld (connectionId : ConnectionId) : LinkTask → World TunnelWorld TunnelResult Exc
  | .agent (.forwarder number) => fun call answer before after =>
      (EndsLocally call answer → ClosedAtServer connectionId before number) ∧
        linkForwarderWorld connectionId number call answer before after
  | task => linkWorld connectionId task

theorem linkClosedFirstWorld_given {task : LinkTask} {call : TunnelCall}
    {answer : Except Exc (TunnelResult call)} {before after : TunnelWorld}
    (given : linkClosedFirstWorld connectionId task call answer before after) :
    linkWorld connectionId task call answer before after := by
  unfold linkClosedFirstWorld at given
  split at given
  · exact given.2
  · exact given

def linkNumber : LinkTask → Option Nat
  | .agent (.forwarder number) => some number
  | _ => none

/-- What the answers to the other tasks change is their own. -/
theorem linkWorld_leaves {task : LinkTask} (other : linkNumber task = none) {call : TunnelCall}
    {answer : Except Exc (TunnelResult call)} {before after : TunnelWorld}
    (given : linkWorld connectionId task call answer before after) :
    Leaves connectionId (ClosedAtServer connectionId) none before after := by
  have plain : ∀ call (answer : Except Exc (TunnelResult call)) before after,
      plainWorld call answer before after →
      Leaves connectionId (ClosedAtServer connectionId) none before after := by
    intro call answer before after given
    rw [plainWorld_same given]
    exact .refl before
  cases task with
  | dispatcher =>
      have world : dispatcherWorld connectionId call answer before after := given
      unfold dispatcherWorld at world
      split at world
      · obtain ⟨frame, -, -, rfl⟩ := world
        exact ⟨fun _ _ => rfl, fun _ => id⟩
      · rw [world]
        exact ⟨fun _ _ => rfl, fun _ => id⟩
      · exact plain _ _ _ _ world
  | closing channelId serial =>
      have world : closingWorld connectionId channelId call answer before after := given
      unfold closingWorld at world
      split at world
      · rcases world with ⟨-, rfl⟩ | ⟨-, rfl⟩
        · exact ⟨fun _ _ => rfl, fun _ => id⟩
        · exact .refl _
      · exact plain _ _ _ _ world
  | agent task =>
      cases task with
      | loop => exact loopWorld_leaves lasting_closedAtServer (linkLoopWorld_loop given)
      | forwarder number => cases other
      | breaking serial => exact plain _ _ _ _ given
  | call _ | reading _ | clock _ => exact plain _ _ _ _ given

theorem link_endsLate {number : Nat} : EndsLate connectionId (ClosedAtServer connectionId) number
    (linkClosedFirstWorld connectionId (.agent (.forwarder number))) where
  closed _ _ _ _ given := given.1
  given call answer before after given := by
    have world := given.2
    unfold linkForwarderWorld at world
    split at world
    · rcases world with ⟨-, moved⟩ | ⟨-, moved⟩
      · exact ⟨cross before, rfl, fun _ => id, moved⟩
      · exact ⟨before, rfl, fun _ => id, moved⟩
    · exact ⟨before, rfl, fun _ => id, world⟩

theorem link_divided : Divided connectionId (ClosedAtServer connectionId) linkNumber
    (linkClosedFirstWorld connectionId)
    (linkPrograms library config connectionId maxFrameBytes) where
  lasting := lasting_closedAtServer
  once key other number mine same := by
    unfold linkNumber at mine same
    split at mine
    · split at same
      · cases mine
        cases same
        rfl
      · cases same
    · cases mine
  answers key number mine := by
    unfold linkNumber at mine
    split at mine
    · cases mine
      exact link_endsLate.answers lasting_closedAtServer
    · cases mine
  leaves key mine call answer before after given := linkWorld_leaves mine (linkClosedFirstWorld_given given)
  forwarders key number program state mine started := by
    unfold linkNumber at mine
    split at mine
    · cases mine
      obtain ⟨channelId, turns, -, rfl⟩ := started
      exact ⟨_, _, channelId, turns, rfl⟩
    · cases mine
  others key program state mine started := by
    have leaves : ∀ call answer before after, linkClosedFirstWorld connectionId key call answer before after →
        Leaves connectionId (ClosedAtServer connectionId) none before after :=
      fun _ _ _ _ given => linkWorld_leaves mine (linkClosedFirstWorld_given given)
    cases key with
    | dispatcher =>
        obtain ⟨record, errorRequestId, turns, rfl⟩ := started
        exact serves_dispatcher leaves
    | call serial => exact serves_call leaves started
    | closing channelId serial =>
        obtain ⟨requestId, rfl | rfl⟩ := started
        · exact serves_closeSession leaves
        · exact serves_closeStream leaves
    | reading serial =>
        obtain ⟨channelId, n, turns, -, rfl⟩ := started
        exact (aloof_composes _).sequel (serves_read leaves) fun _ => (aloof_composes _).returns ()
    | clock serial =>
        obtain ⟨now, rfl⟩ := started
        exact aloof_update fun _ => ⟨fun _ _ => rfl, fun _ => id⟩
    | agent task =>
        cases task with
        | loop =>
            obtain ⟨turns, rfl⟩ := started
            exact aloof_handleAgentTunnelStream lasting_closedAtServer leaves
        | forwarder number => cases mine
        | breaking serial =>
            obtain ⟨broken, rfl⟩ := started
            exact aloof_update fun _ => leaves_breaking lasting_closedAtServer
/-- The agent has written the closing of a channel to the tunnel. -/
def Announced (connectionId : ConnectionId) (world : TunnelWorld) (channelId : ChannelId) : Prop :=
  ∃ frame ∈ emitted connectionId world, frame.type = .CLOSE_SESSION ∧ frame.channelId = some channelId

/-- A local connection that is gone was announced, or the server closed it first. -/
def EndsAnnounced (connectionId : ConnectionId) (world : TunnelWorld) : Prop :=
  ∀ number channelId, (loopOf connectionId world).created[number]? = some channelId →
    Gone (forwarderOf connectionId world number) →
    Announced connectionId world channelId ∨ ClosedByServer connectionId world number

/-- The server counts no channel whose node side is gone, unless it is being told. -/
def NoneKept (connectionId : ConnectionId) (world : TunnelWorld) : Prop :=
  ∀ number channelId, (loopOf connectionId world).created[number]? = some channelId →
    IsOpen connectionId channelId world → Gone (forwarderOf connectionId world number) →
    Announced connectionId world channelId

/-- In every run whose local connections end after the server has closed their
channels, nothing is missing at either end. -/
theorem endings_announced (library : Library) (config : BrokerConfig) (connectionId : ConnectionId)
    (maxFrameBytes : Int) :
    (∀ (start : TunnelWorld) (pool : AgentPool), start.agentSide connectionId = .empty →
      Python.Tasks.Reachable (closedFirstWorld connectionId)
        (agentPrograms connectionId library maxFrameBytes) start pool →
      EndsAnnounced connectionId pool.state) ∧
    ∀ (start : TunnelWorld) (pool : LinkPool), Established connectionId start →
      Python.Tasks.Reachable (linkClosedFirstWorld connectionId)
        (linkPrograms library config connectionId maxFrameBytes) start pool →
      NoneKept connectionId pool.state := by
  have unused : ∀ start : TunnelWorld, start.agentSide connectionId = .empty →
      ∀ number, forwarderOf connectionId start number = ⟨[], false, none⟩ := by
    intro start fresh number
    rw [forwarderOf, fresh]
    rfl
  constructor
  · intro start pool fresh reached number channelId _ gone
    exact .inr (divided_closedFirst agent_divided (unused start fresh) reached number gone)
  · intro start pool established reached number channelId made isOpen gone
    obtain ⟨again, same, connection, object, retired⟩ :=
      divided_closedFirst link_divided (unused start established.agentSide) reached number gone
    cases made.symm.trans same
    obtain ⟨connection, there, isOpen⟩ := isOpen
    cases object.symm.trans there
    exact (Finset.disjoint_left.mp connection.channels.disjoint isOpen retired).elim
end Link

def closeFrame (channelId : ChannelId) : DecodedTunnelFrame :=
  ⟨⟨.CLOSE_SESSION, lit "r", some channelId, 0⟩, []⟩

/-- On one tunnel the local stream ends after the server has closed the channel,
on the other the channel is open at both ends. -/
theorem endings_announced_closed :
    (∃ pool : AgentPool, Gone (forwarderOf (lit "c1") pool.state 0) ∧
      EndsAnnounced (lit "c1") pool.state) ∧
    ∃ pool : LinkPool, IsOpen [99] [97] pool.state ∧ NoneKept [99] pool.state := by
  constructor
  · have fresh : Python.Tasks.Reachable (closedFirstWorld (lit "c1"))
        (agentPrograms (lit "c1") libraryOne 65536) worldOne ⟨fun _ => none, worldOne⟩ := .start
    have started := fresh.spawn .loop (handleAgentTunnelStream libraryOne (lit "c1") 2) rfl ⟨2, rfl⟩
    have opening := started.resume .loop rfl (.ok (some (openFrame (lit "a")))) _ rfl
    have connected := opening.resume .loop rfl (.ok ()) _ rfl
    have forwarding := connected.spawn (.forwarder 0)
      (forwarder libraryOne (lit "c1") 65536 0 (lit "a") 1) rfl ⟨lit "a", 1, rfl, rfl⟩
    have going := forwarding.resume .loop rfl (.ok ()) _ rfl
    have closing := going.resume .loop rfl (.ok (some (closeFrame (lit "a")))) _ rfl
    have ended := closing.resume (.forwarder 0) rfl (.ok []) _ ⟨fun _ =>
      ⟨lit "a", [openFrame (lit "a")], closeFrame (lit "a"), [], rfl, rfl, by decide, rfl, rfl⟩,
      by simp, rfl⟩
    exact ⟨_, .inl rfl,
      (endings_announced libraryOne configLink (lit "c1") 65536).1 worldOne _ rfl ended⟩
  · obtain ⟨payload, made, encodes⟩ := openingLink_encodes
    have fresh : Python.Tasks.Reachable (linkClosedFirstWorld [99])
        (linkPrograms libraryOne configLink [99] 65536) worldLink ⟨fun _ => none, worldLink⟩ := .start
    obtain ⟨⟨_, _⟩, opening, rfl, rfl⟩ := fresh.spawned (.call 0) rfl
      (.openSession agentOne [97] [110] [107] [117] [117] [114]) (settle_openSession rfl made encodes)
    exact ⟨_, ⟨_, rfl, Finset.mem_insert_self _ _⟩,
      (endings_announced libraryOne configLink [99] 65536).2 worldLink _ established_link opening⟩

/-- The local sshd ends the one connection, and the agent writes nothing. -/
theorem ending_unannounced : (∃ pool, ReachableOne pool ∧ ¬ EndsAnnounced (lit "c1") pool.state) ∧
    ∃ pool, LinkOne pool ∧ ¬ NoneKept [99] pool.state := by
  constructor
  · have fresh : ReachableOne ⟨fun _ => none, worldOne⟩ := .start
    have started := fresh.spawn .loop (handleAgentTunnelStream libraryOne (lit "c1") 2) rfl ⟨2, rfl⟩
    have opening := started.resume .loop rfl (.ok (some (openFrame (lit "a")))) _ rfl
    have connected := opening.resume .loop rfl (.ok ()) _ rfl
    have forwarding := connected.spawn (.forwarder 0)
      (forwarder libraryOne (lit "c1") 65536 0 (lit "a") 1) rfl ⟨lit "a", 1, rfl, rfl⟩
    have ended := forwarding.resume (.forwarder 0) rfl (.ok []) _ ⟨by simp, rfl⟩
    refine ⟨_, ended, fun announced => ?_⟩
    rcases announced 0 (lit "a") rfl (.inl rfl) with ⟨frame, impossible, -⟩ | closed
    · cases impossible
    · obtain ⟨channelId, before, close, later, -, read, -, type, -⟩ := closed
      have member : close ∈ [openFrame (lit "a")] := by
        have whole : [openFrame (lit "a")] = before ++ close :: later := read
        rw [whole]
        simp
      rw [List.mem_singleton.mp member] at type
      cases type
  · obtain ⟨payload, made, encodes⟩ := openingLink_encodes
    have fresh : LinkOne ⟨fun _ => none, worldLink⟩ := .start
    obtain ⟨⟨_, _⟩, opening, rfl, rfl⟩ := fresh.spawned (.call 0) rfl
      (.openSession agentOne [97] [110] [107] [117] [117] [114]) (settle_openSession rfl made encodes)
    obtain ⟨⟨_, _⟩, looping, rfl, rfl⟩ := opening.spawned (.agent .loop) rfl ⟨2, rfl⟩ rfl
    obtain ⟨⟨_, _⟩, read, rfl, rfl⟩ := looping.resumed (.agent .loop) rfl
      (.ok (some (openingLink payload).decoded)) ⟨List.prefix_rfl, rfl⟩ rfl
    obtain ⟨⟨_, _⟩, connected, rfl, rfl⟩ := read.resumed (.agent .loop) rfl (.ok ()) rfl rfl
    have forwarding := connected.spawn (.agent (.forwarder 0))
      (forwarder libraryOne [99] 65536 0 [97] 2) rfl ⟨[97], 2, rfl, rfl⟩
    have ended := forwarding.resume (.agent (.forwarder 0)) rfl (.ok []) _
      (.inr ⟨fun late => late.1 rfl, by simp, rfl⟩)
    refine ⟨_, ended, fun kept => ?_⟩
    obtain ⟨frame, impossible, -⟩ := kept 0 [97] rfl ⟨_, rfl, Finset.mem_insert_self _ _⟩ (.inl rfl)
    cases impossible

end VibeConnect.AgentEndings
