import VibeConnect.MandatoryCapture
import VibeConnect.SessionRuns

/-! The times in a recording. An input task has the time of the callback that created it and records
it when it runs; a pump records the time at which it does so. The times go forward as long as nothing
is recorded at a time later than that of an input task that still waits. -/
namespace VibeConnect.ReplayTimes
open Python.Text Python.Values Python.Coroutine Python.Tasks Models JumpCoordinator Replay JumpBridge
open JumpRuns ShellSession ShellRules SessionRuns

def Ordered (events : List ReplayEvent) : Prop :=
  events.Pairwise fun earlier later => earlier.seconds ≤ later.seconds

/-- An input task, and the time that it records. -/
def CarriesInput (shell : Shell) (number : Nat) (seconds : Int) : Prop :=
  ∃ jump payload, shell.created[number]? = some (.sendUserInput jump seconds payload)

/-- An input task that has not begun and was not cancelled. -/
structure Waits (shell : Shell) (number : Nat) (seconds : Int) : Prop where
  carries : CarriesInput shell number seconds
  unbegun : number ∉ shell.begun
  live : number ∉ shell.cancelled

/-- An event that comes now is recorded. -/
structure Records (world : ShellWorld) : Prop where
  bridge : world.bridgeClosed = false
  recorder : world.recorder.closed = false
  storage : world.faults.write = none

/-- No input that came before this time still waits, if an event is recorded now. -/
def InTurn (seconds : Int) (world : ShellWorld) : Prop :=
  Records world → ∀ number waiting, Waits world.rest number waiting → seconds ≤ waiting

/-! The runs. -/

/-- What the loop starts on a clock that does not go back. -/
def clockPrograms (config : ShellConfig) (key : LoopKey) (program : ShellTask Unit) (world : ShellWorld) :
    Prop :=
  match key with
  | .around _ => ∃ around : Surroundings, world.rest.now.instant ≤ around.now.instant ∧
      program = update around.enter
  | key => shellPrograms config key program world

/-- An input task begins in turn. -/
def StartsInTurn (world : ShellWorld) : LoopKey → Prop
  | .task number => ∀ seconds, Waits world.rest number seconds → InTurn seconds world
  | _ => True

/-- A pump gets a chunk in turn. -/
def ReadsInTurn : (call : SessionCall) → Except Exc (SessionResult call) → ShellWorld → Prop
  | .readOutput _, .ok (_ :: _), world => InTurn world.rest.elapsedSeconds world
  | _, _, _ => True

def punctualPrograms (config : ShellConfig) (key : LoopKey) (program : ShellTask Unit)
    (world : ShellWorld) : Prop :=
  clockPrograms config key program world ∧ StartsInTurn world key

def punctualWorld (number : Nat) : World ShellWorld SessionResult Exc := fun call answer before after =>
  shellWorld number call answer before after ∧ ReadsInTurn call answer before

/-! What holds while the tasks wait. -/
/-- The files of a recorder hold these events, and a published file belongs to a closed one. -/
structure Holds (events : List ReplayEvent) (recorder : ReplayRecorder) : Prop where
  temp : ∀ lines, recorder.temp = some lines → eventsOf lines = events
  published : ∀ lines, recorder.published = some lines → eventsOf lines = events ∧ recorder.closed = true

structure Timed (world : ShellWorld) : Prop where
  ordered : Ordered world.recorded
  past : ∀ event ∈ world.recorded, event.seconds ≤ world.rest.elapsedSeconds
  inputs : ∀ number seconds, CarriesInput world.rest number seconds → seconds ≤ world.rest.elapsedSeconds
  waits : ∀ number seconds, Waits world.rest number seconds →
    ∀ event ∈ world.recorded, event.seconds ≤ seconds
  unattached : world.rest.bridge = none →
    world.recorded = [] ∧ ∀ number seconds, ¬CarriesInput world.rest number seconds
  sole : Sole world.rest
  files : Holds world.recorded world.recorder

/-- A change of the session that starts no jump and begins no task. The clock may go on. -/
structure Steady (before after : Shell) : Prop extends Lone before after where
  now : before.now.instant ≤ after.now.instant
  cancelled : before.cancelled ⊆ after.cancelled
  inputs : ∀ number seconds, CarriesInput after number seconds → CarriesInput before number seconds ∨
    before.bridge ≠ none ∧ before.elapsedSeconds ≤ seconds ∧ seconds ≤ after.elapsedSeconds

/-- A change of the world that records nothing. -/
structure Calm (before after : ShellWorld) : Prop where
  steady : Steady before.rest after.rest
  recorded : after.recorded = before.recorded
  files : Holds before.recorded before.recorder → Holds before.recorded after.recorder
  closed : before.bridgeClosed = true → after.bridgeClosed = true

section Relations
variable {before after : Shell}

/-- The time goes on. -/
theorem elapsed_le (started : after.started = before.started)
    (now : before.now.instant ≤ after.now.instant) : before.elapsedSeconds ≤ after.elapsedSeconds := by
  unfold Shell.elapsedSeconds
  rw [started]
  split
  · exact le_rfl
  · omega

theorem Steady.elapsed (steady : Steady before after) : before.elapsedSeconds ≤ after.elapsedSeconds :=
  elapsed_le steady.started steady.now

/-- A change that has nothing to do with the input tasks and the clock. -/
theorem Steady.of_lone (lone : Lone before after) (now : after.now = before.now)
    (cancelled : before.cancelled ⊆ after.cancelled) (created : after.created = before.created) :
    Steady before after := by
  refine ⟨lone, by rw [now], cancelled, ?_⟩
  unfold CarriesInput
  rw [created]
  exact fun _ _ => .inl

theorem Steady.refl (shell : Shell) : Steady shell shell := .of_lone (.refl shell) rfl (List.Subset.refl _) rfl

theorem Steady.of_unseen (unseen : Unseen before after) : Steady before after :=
  .of_lone (.of_unseen unseen) unseen.now (unseen.cancelled ▸ List.Subset.refl _) unseen.created

theorem Steady.trans {one two three : Shell} (first : Steady one two) (second : Steady two three) :
    Steady one three where
  toLone := first.toLone.trans second.toLone
  now := first.now.trans second.now
  cancelled := List.Subset.trans first.cancelled second.cancelled
  inputs number seconds carries := by
    rcases second.inputs number seconds carries with earlier | ⟨attached, late, soon⟩
    · rcases first.inputs number seconds earlier with first | ⟨attached, late, soon⟩
      · exact .inl first
      · exact .inr ⟨attached, late, soon.trans second.elapsed⟩
    · rw [first.bridge] at attached
      exact .inr ⟨attached, first.elapsed.trans late, soon⟩

theorem steady_fits {shell : Shell} (body : TaskBody) (fits : Fits shell body) :
    Steady shell (shell.createPump body) where
  toLone := lone_fits body fits
  now := le_rfl
  cancelled := List.Subset.refl _
  inputs number seconds carries := by
    obtain ⟨jump, payload, there⟩ := carries
    rcases createPump_created there with earlier | ⟨-, rfl⟩
    · exact .inl ⟨jump, payload, earlier⟩
    · exact fits.elim

/-- An input task gets the time of now. -/
theorem steady_input {shell : Shell} (jump : StartedJump) (payload : Bytes)
    (attached : shell.bridge = some jump) :
    Steady shell (shell.createPump (.sendUserInput jump shell.elapsedSeconds payload)) where
  toLone := lone_input
  now := le_rfl
  cancelled := List.Subset.refl _
  inputs number seconds carries := by
    obtain ⟨other, typed, there⟩ := carries
    rcases createPump_created there with earlier | ⟨-, same⟩
    · exact .inl ⟨other, typed, earlier⟩
    · cases same
      refine .inr ⟨?_, le_rfl, le_rfl⟩
      rw [attached]
      exact Option.some_ne_none jump

theorem steady_takes {shell : Shell} {arrived : List InputEvent} {pendingInput : List Bytes}
    {pendingEof : Bool} : Steady shell { shell with
      arrived := arrived, pendingInput := pendingInput, pendingEof := pendingEof } :=
  .of_lone ⟨rfl, rfl, rfl, rfl, List.prefix_rfl, id⟩ rfl (List.Subset.refl _) rfl

theorem steady_cancels {shell : Shell} {taskFailed lost : Bool} {more : List Nat} : Steady shell { shell with
    taskFailed := taskFailed, lost := lost, cancelled := shell.cancelled ++ more } :=
  .of_lone lone_cancels rfl (List.subset_append_left _ _) rfl

theorem steady_fed {shell : Shell} : Steady shell { shell with stdin := shell.stdin ++ [InputEvent.eof] } :=
  .of_lone lone_fed rfl (List.Subset.refl _) rfl

theorem steady_exit {config : ShellConfig} {shell : Shell} (status : Int) :
    Steady shell (shell.exitChannel config status) := by
  have still : (shell.exitChannel config status).now = shell.now ∧
      (shell.exitChannel config status).cancelled = shell.cancelled ∧
      (shell.exitChannel config status).created = shell.created := by
    unfold Shell.exitChannel
    split <;> exact ⟨rfl, rfl, rfl⟩
  refine .of_lone (lone_exit status) still.1 ?_ still.2.2
  rw [still.2.1]
  exact List.Subset.refl _

theorem steady_taskDone {config : ShellConfig} {shell : Shell} (number : Nat) :
    Steady shell (shell.taskDone config number) :=
  taskDone_moves (fun _ _ _ => .trans) (fun _ _ => .of_unseen) (fun _ => steady_fits)
    (fun _ _ _ => steady_cancels) (fun _ => steady_exit 1) number

theorem steady_callback {shell : Shell} {callback : Callback} (delivered : callback.Delivered shell) :
    Steady shell (callback.apply shell) :=
  callback_moves (fun _ _ _ => .trans) (fun _ _ => .of_unseen) (fun _ => steady_fits)
    (fun _ _ _ => steady_cancels) (fun _ _ _ _ => steady_takes) (fun _ => steady_fed) (fun _ => steady_input) delivered

theorem steady_flushed {shell : Shell} : Steady shell shell.flushed :=
  flushed_moves (fun _ _ _ => .trans) (fun _ _ _ _ => steady_takes) fun _ => steady_fed
end Relations

/-! What a change keeps. -/
section Changes
variable {before after world : ShellWorld}

theorem Calm.refl (world : ShellWorld) : Calm world world := ⟨.refl _, rfl, id, id⟩

theorem Calm.aside (calm : Calm before after) : Aside before after := ⟨calm.steady.toLone, calm.closed⟩

/-- A change of the session alone. -/
theorem Steady.calm {rest : Shell} (steady : Steady world.rest rest) :
    Calm world { world with rest := rest } := ⟨steady, rfl, id, id⟩

theorem Steady.waits {before after : Shell} (steady : Steady before after) {number : Nat} {seconds : Int}
    (waits : Waits after number seconds) :
    Waits before number seconds ∨ before.elapsedSeconds ≤ seconds := by
  rcases steady.inputs number seconds waits.carries with earlier | ⟨-, late, -⟩
  · refine .inl ⟨earlier, ?_, fun cancelled => waits.live (steady.cancelled cancelled)⟩
    rw [← steady.begun]
    exact waits.unbegun
  · exact .inr late

theorem Calm.timed (calm : Calm before after) (holds : Timed before) : Timed after where
  ordered := by
    rw [calm.recorded]
    exact holds.ordered
  past event member := by
    rw [calm.recorded] at member
    exact (holds.past event member).trans calm.steady.elapsed
  inputs number seconds carries := by
    rcases calm.steady.inputs number seconds carries with earlier | ⟨-, -, soon⟩
    · exact (holds.inputs number seconds earlier).trans calm.steady.elapsed
    · exact soon
  waits number seconds waits event member := by
    rw [calm.recorded] at member
    -- a new input has the time of now, which no event has passed
    rcases calm.steady.waits waits with earlier | late
    · exact holds.waits number seconds earlier event member
    · exact (holds.past event member).trans late
  unattached alone := by
    rw [calm.steady.bridge] at alone
    obtain ⟨nothing, none⟩ := holds.unattached alone
    refine ⟨calm.recorded.trans nothing, fun number seconds carries => ?_⟩
    rcases calm.steady.inputs number seconds carries with earlier | ⟨attached, -, -⟩
    · exact none number seconds earlier
    · exact attached alone
  sole := calm.steady.sole holds.sole
  files := by
    rw [calm.recorded]
    exact calm.files holds.files

/-- A task begins. -/
theorem timed_begin (number : Nat) (holds : Timed world) :
    Timed { world with rest := world.rest.begin number } where
  ordered := holds.ordered
  past := holds.past
  inputs := holds.inputs
  waits other seconds waits := holds.waits other seconds
    ⟨waits.carries, fun begun => waits.unbegun (List.mem_append_left _ begun), waits.live⟩
  unattached := holds.unattached
  sole := sole_begin number holds.sole
  files := holds.files

theorem timed_finish (number : Nat) (ended : Except Exc Unit) (holds : Timed world) :
    Timed { world with rest := world.rest.finish number ended } where
  ordered := holds.ordered
  past := holds.past
  inputs := holds.inputs
  waits other seconds waits := holds.waits other seconds ⟨waits.carries, waits.unbegun, waits.live⟩
  unattached := holds.unattached
  sole := ⟨holds.sole.single, holds.sole.unstarted, holds.sole.begun⟩
  files := holds.files

/-- The jump has started. Nothing has been recorded, so the clock of the recording may start too. -/
theorem timed_started (jump : StartedJump) {number : Nat} (holds : Timed world)
    (starting : Starting number world) :
    Timed { world with rest := { world.rest with started := some jump } } := by
  have alone := holds.sole.unstarted starting.unstarted
  obtain ⟨nothing, none⟩ := holds.unattached alone
  have fresh : ∀ event, event ∉ world.recorded := by
    rw [nothing]
    exact fun _ => List.not_mem_nil
  exact {
    ordered := holds.ordered
    past := fun event member => absurd member (fresh event)
    inputs := fun other seconds carries => absurd carries (none other seconds)
    waits := fun other seconds waits => absurd waits.carries (none other seconds)
    unattached := holds.unattached
    sole := sole_started jump holds.sole starting
    files := holds.files }

theorem timed_attached (jump : StartedJump) {number : Nat} (holds : Timed world)
    (attaching : Attaching number world) :
    Timed { world with rest := { world.rest with bridge := some jump } } where
  ordered := holds.ordered
  past := holds.past
  inputs := holds.inputs
  waits number seconds waits := holds.waits number seconds ⟨waits.carries, waits.unbegun, waits.live⟩
  unattached impossible := nomatch impossible
  sole := sole_attached jump holds.sole attaching
  files := holds.files
end Changes

/-! The files of the recorder. -/
section Files
variable {events : List ReplayEvent} {recorder : ReplayRecorder} {faults : ReplayFaults}

/-- The file stays where it is or is gone, and a publication is the file. -/
theorem Holds.moved {after : ReplayRecorder} (holds : Holds events recorder)
    (was : recorder.closed = false) (closed : after.closed = true)
    (temp : after.temp = recorder.temp ∨ after.temp = none)
    (published : after.published = recorder.published ∨ after.published = recorder.temp) :
    Holds events after := by
  refine ⟨fun lines found => ?_, fun lines found => ⟨?_, closed⟩⟩
  · rcases temp with same | gone
    · exact holds.temp lines (same ▸ found)
    · exact absurd (gone.symm.trans found) (Option.some_ne_none lines).symm
  · rcases published with same | moved
    · have impossible := (holds.published lines (same ▸ found)).2
      exact absurd (was.symm.trans impossible) Bool.false_ne_true
    · exact holds.temp lines (moved ▸ found)

theorem holds_fail (holds : Holds events recorder) : Holds events (recorder.fail faults).2 := by
  cases was : recorder.closed with
  | true =>
      rw [ReplayRecorder.fail_closed was]
      exact holds
  | false =>
      have failed := @ReplayRecorder.fail_open faults recorder was
      refine holds.moved was failed.1 ?_ (.inl failed.2.1)
      unfold ReplayRecorder.fail ReplayRecorder.closeFile
      rw [was]
      cases recorder.fileClosed <;> cases faults.close <;> cases recorder.audited <;>
        cases faults.audit <;> cases faults.unlink <;> simp

theorem holds_close {now : DateTime} (holds : Holds events recorder) :
    Holds events (recorder.close faults now).2 := by
  cases was : recorder.closed with
  | true =>
      rw [ReplayRecorder.close_closed was]
      exact holds
  | false =>
      have closed := (@ReplayRecorder.close_open faults recorder now was).1
      refine holds.moved was closed ?_ ?_ <;>
      · unfold ReplayRecorder.close ReplayRecorder.closeFile
        rw [was]
        cases recorder.fileClosed <;> cases faults.flush <;> cases faults.close <;>
          cases faults.replace <;> cases faults.read <;> simp

theorem holds_endRecording (status : SessionStatus) (now : DateTime) (holds : Holds events recorder) :
    Holds events (JumpPtyBridge.endRecording status now faults recorder).2 := by
  cases status with
  | OPEN => exact holds
  | CLOSED => exact holds_close holds
  | FAILED | TERMINATED => exact holds_fail holds

/-- A line is written for a new event. -/
theorem holds_written (event : ReplayEvent) (was : recorder.closed = false)
    (holds : Holds events recorder) :
    Holds (events ++ [event]) { recorder with temp := recorder.temp.map (· ++ [.event event]) } := by
  constructor
  · intro lines found
    obtain ⟨written, temp, rfl⟩ := Option.map_eq_some_iff.mp found
    rw [eventsOf, List.filterMap_append, ← eventsOf, holds.temp written temp]
    rfl
  · intro lines found
    exact absurd (was.symm.trans (holds.published lines found).2) Bool.false_ne_true
end Files

/-! What records, and what does not. -/
section Bridge
variable {before after world : ShellWorld}

theorem calm_closeRow (request : CloseRow) : Calm world (world.closeRow request) := by
  rw [JumpWorld.closeRow_same]
  exact ⟨.refl _, rfl, id, id⟩

theorem calm_fail : Calm world (onRecorder (fun faults recorder => recorder.fail faults) world).2 :=
  ⟨.refl _, rfl, holds_fail, id⟩

theorem calm_answer {number : Nat} {call : SessionCall} {answer : Except Exc (SessionResult call)}
    (given : shellWorld number call answer before after) : Calm before after :=
  answer_moves Calm.refl (fun _ _ unseen => (Steady.of_unseen unseen).calm) (fun _ => calm_closeRow)
    (fun _ => calm_fail)
    (fun _ _ => ⟨.of_lone ⟨rfl, rfl, rfl, rfl, List.prefix_rfl, id⟩ rfl (List.Subset.refl _) rfl, rfl, id, id⟩) given

theorem calm_beginClose (status : SessionStatus) (now : DateTime) :
    Calm world (JumpPtyBridge.beginClose status now world).2 := by
  rcases beginClose_cases status now world with ⟨-, same⟩ | ⟨-, same⟩
  · rw [same]
    exact ⟨.refl _, rfl, id, id⟩
  · rw [same]
    exact ⟨.refl _, rfl, holds_endRecording status now, fun _ => rfl⟩

/-- The next event of a recording. -/
structure Next (seconds : Int) (world : ShellWorld) : Prop where
  attached : world.rest.bridge ≠ none
  present : seconds ≤ world.rest.elapsedSeconds
  latest : ∀ event ∈ world.recorded, event.seconds ≤ seconds
  turn : InTurn seconds world

/-- An event in turn is recorded, or there is a fault and nothing is. -/
theorem timed_recordEvent {seconds : Int} (stream : String) (payload : Bytes) (holds : Timed world)
    (next : Next seconds world) (was : world.bridgeClosed = false) :
    Timed (JumpPtyBridge.recordEvent seconds stream payload world).2 := by
  rcases recordEvent_cases seconds stream payload world with
    ⟨running, works, done⟩ | ⟨fault, recorder, raised, kept⟩
  · rw [done]
    have newer := next.turn ⟨was, running, works⟩
    exact {
      ordered := by
        refine List.pairwise_append.mpr ⟨holds.ordered, List.pairwise_singleton _ _, ?_⟩
        rintro event member _ last
        cases List.mem_singleton.mp last
        exact next.latest event member
      past := fun event member => by
        rcases List.mem_append.mp member with earlier | last
        · exact holds.past event earlier
        · cases List.mem_singleton.mp last
          exact next.present
      inputs := holds.inputs
      waits := fun number waiting waits event member => by
        rcases List.mem_append.mp member with earlier | last
        · exact holds.waits number waiting waits event earlier
        · cases List.mem_singleton.mp last
          exact newer number waiting waits
      unattached := fun alone => absurd alone next.attached
      sole := holds.sole
      files := holds_written _ running holds.files }
  · rw [raised]
    have calm : Calm world { world with recorder := recorder } := by
      refine ⟨.refl _, rfl, fun files => ?_, id⟩
      rcases kept with rfl | ⟨rfl, -⟩
      · exact files
      · exact holds_fail files
    exact calm.timed holds
end Bridge

/-- The times are kept by all that is calm. -/
theorem timed_law : Law punctualWorld Timed Calm where
  keeps _ _ := Calm.timed
  aside _ _ := Calm.aside
  sole _ holds := holds.sole
  answers _ _ _ _ _ given := calm_answer given.1
  unseen _ _ unseen := (Steady.of_unseen unseen).calm
  exits _ _ status := (steady_exit status).calm
  closes _ status now := calm_beginClose status now
  asks world channelId := by
    have steady : Steady world.rest (nodeChannel.closing channelId world.rest) := .of_unseen rfl
    exact ⟨steady, rfl, id, id⟩
  fails _ := calm_fail
  starts _ _ jump holds starting := timed_started jump holds starting
  finishes _ number ended holds := timed_finish number ended holds

/-! The programs of the tasks that record. -/
section Programs
variable {number : Nat} {config : ShellConfig} {state : ShellWorld}

/-- A checked record, and then what the caller does with it. -/
theorem recorded_runs {α : Type} {seconds : Int} {stream : String} {payload : Bytes} {next : ShellTask α}
    {post : Except Exc α → ShellWorld → Prop} (holds : Timed state) (first : Next seconds state)
    (fails : ∀ fault world, Timed world → post (.error fault) world)
    (goes : ∀ world, Timed world → world.rest = state.rest → Runs punctualWorld Timed number next post world) :
    Runs punctualWorld Timed number (do
      let world ← look
      Coro.ofAnswer (JumpPtyBridge.ensureOpen world)
      change (JumpPtyBridge.recordEvent seconds stream payload)
      next) post state := by
  refine Coro.wp_bind (look_safe (Coro.wp_bind (Coro.wp_ofAnswer ?_)))
  unfold JumpPtyBridge.ensureOpen
  cases was : state.bridgeClosed with
  | true => exact fails _ _ holds
  | false =>
      have timed := timed_recordEvent stream payload holds first was
      obtain ⟨rest, closed⟩ := recordEvent_rest seconds stream payload state
      have owed : Owes number state (JumpPtyBridge.recordEvent seconds stream payload state).2 :=
        (Aside.of_rest rest closed).owes
      refine Coro.wp_bind (change_safe owed ?_)
      cases (JumpPtyBridge.recordEvent seconds stream payload state).1 with
      | error fault => exact fails _ _ timed
      | ok _ => exact goes _ timed rest

/-- Input is recorded, and the process is fed. -/
theorem sendUserInput_runs {jump : StartedJump} {seconds : Int} {payload : Bytes} (holds : Timed state)
    (next : Next seconds state) :
    Runs punctualWorld Timed number ((bridgeOf config jump).sendUserInput seconds payload)
      (fun answer after => Timed after ∧ (answer = .ok () →
        after.rest.bridge = state.rest.bridge ∧ after.rest.created = state.rest.created)) state := by
  apply recorded_runs holds next
  · exact fun _ _ kept => ⟨kept, fun impossible => nomatch impossible⟩
  intro world timed same
  have unseen : Steady world.rest (Shell.writeStdin payload world.rest).2 ∧
      (Shell.writeStdin payload world.rest).2.bridge = world.rest.bridge ∧
      (Shell.writeStdin payload world.rest).2.created = world.rest.created := by
    unfold Shell.writeStdin
    split
    · exact ⟨.refl _, rfl, rfl⟩
    · exact ⟨.of_lone ⟨rfl, rfl, rfl, rfl, List.prefix_rfl, id⟩ rfl (List.Subset.refl _) rfl, rfl, rfl⟩
  have calm : Calm world (onRest (Shell.writeStdin payload) world).2 := unseen.1.calm
  refine Coro.wp_bind (change_safe calm.aside.owes ?_)
  have kept := calm.timed timed
  rw [← same]
  cases (onRest ((bridgeOf config jump).tunnelChannel.sending
      (bridgeOf config jump).startedJump.channelId payload) world).1 with
  | error fault => exact ⟨kept, fun impossible => nomatch impossible⟩
  | ok _ => exact ⟨kept, fun _ => unseen.2⟩

/-- A chunk in turn is recorded before it is written to the user. -/
theorem relayOutput_runs {stream : OutputStream} {chunk : Bytes} (holds : Timed state)
    (turn : InTurn state.rest.elapsedSeconds state) :
    Runs punctualWorld Timed number (relayOutput config stream chunk) (fun _ after => Timed after) state := by
  have writes : ∀ payload world, Timed world → Runs punctualWorld Timed number
      (Coro.onlyIf config.hasChannel (change (onRest (Shell.writeChannel stream payload))))
      (fun _ after => Timed after) world := by
    intro payload world timed
    refine Coro.wp_onlyIf (fun _ => ?_) fun _ => timed
    have calm : Calm world (onRest (Shell.writeChannel stream payload) world).2 := by
      unfold onRest Shell.writeChannel
      split
      · exact .refl world
      · exact ⟨.of_lone ⟨rfl, rfl, rfl, rfl, List.prefix_rfl, id⟩ rfl (List.Subset.refl _) rfl, rfl, id, id⟩
    exact change_safe calm.aside.owes (calm.timed timed)
  refine Coro.wp_bind (look_safe ?_)
  dsimp only
  cases attached : state.rest.bridge with
  | none => exact writes chunk state holds
  | some jump =>
      have next : Next state.rest.elapsedSeconds state :=
        ⟨by rw [attached]; exact Option.some_ne_none jump, le_rfl, holds.past, turn⟩
      refine Coro.wp_bind (recorded_runs holds next (fun _ _ kept => kept) ?_)
      exact fun world timed _ => writes chunk world timed

theorem pumpOutput_runs {stream : OutputStream} (turns : Nat) (holds : Timed state) :
    Runs punctualWorld Timed number (pumpOutput config stream turns) (fun _ after => Timed after) state := by
  induction turns generalizing state with
  | zero =>
      refine call_safe holds ?_
      exact fun answer resumed after relied still given => (calm_answer given.1).timed still
  | succ turns ih =>
      refine Coro.wp_bind (call_safe holds ?_)
      intro answer resumed after relied still given
      have timed := (calm_answer given.1).timed still
      cases answer with
      | error fault => exact timed
      | ok chunk =>
          cases chunk with
          | nil => exact timed
          | cons first rest =>
              -- the read changes nothing that the turn depends on
              have turn : InTurn after.rest.elapsedSeconds after := by
                obtain ⟨origin, -, -, -, -, same⟩ := given.1
                rw [same]
                intro records number waiting waits
                exact given.2 ⟨records.bridge, records.recorder, records.storage⟩ number waiting
                  ⟨waits.carries, waits.unbegun, waits.live⟩
              refine Coro.wp_bind (Coro.wp_mono ?_ (relayOutput_runs timed turn))
              intro relayed world later
              cases relayed with
              | error fault => exact later
              | ok _ => exact ih later

/-- There is a bridge, and no input task yet. -/
structure Early (world : ShellWorld) : Prop where
  attached : world.rest.bridge ≠ none
  fresh : ∀ number seconds, ¬CarriesInput world.rest number seconds

theorem sendPending_runs {jump : StartedJump} (pending : List Bytes) (holds : Timed state)
    (early : Early state) : Runs punctualWorld Timed number (sendPending config jump pending)
      (fun answer after => Timed after ∧ (answer = .ok () → Early after)) state := by
  induction pending generalizing state with
  | nil => exact ⟨holds, fun _ => early⟩
  | cons payload rest ih =>
      refine Coro.wp_bind (look_safe ?_)
      have next : Next state.rest.elapsedSeconds state :=
        ⟨early.attached, le_rfl, holds.past, fun _ other waiting waits =>
          absurd waits.carries (early.fresh other waiting)⟩
      refine Coro.wp_bind (Coro.wp_mono ?_ (sendUserInput_runs holds next))
      rintro answer after ⟨timed, same⟩
      cases answer with
      | error fault => exact ⟨timed, fun impossible => nomatch impossible⟩
      | ok _ =>
          obtain ⟨bridge, created⟩ := same rfl
          refine ih timed ⟨by rw [bridge]; exact early.attached, ?_⟩
          unfold CarriesInput
          rw [created]
          exact early.fresh

theorem attach_runs {jump : StartedJump} (holds : Timed state) (attaching : Attaching number state) :
    Runs punctualWorld Timed number (attach config jump) (fun _ after => Timed after) state := by
  refine Coro.wp_bind (update_safe (owes_exec holds.sole attaching.exec rfl rfl rfl) ?_)
  have timed := timed_attached jump holds attaching
  have early : Early { state with rest := { state.rest with bridge := some jump } } :=
    ⟨Option.some_ne_none jump, (holds.unattached attaching.unattached).2⟩
  have flushes : Runs punctualWorld Timed number (flushPendingInput config jump)
      (fun answer after => Timed after ∧ (answer = .ok () → after.rest.bridge ≠ none))
      { state with rest := { state.rest with bridge := some jump } } := by
    refine Coro.wp_bind (look_safe (Coro.wp_bind (Coro.wp_mono ?_ (sendPending_runs _ timed early))))
    rintro answer after ⟨later, ready⟩
    cases answer with
    | error fault => exact ⟨later, fun impossible => nomatch impossible⟩
    | ok _ =>
        have calm : Calm after { after with rest := after.rest.flushed } := steady_flushed.calm
        refine update_safe calm.aside.owes ⟨calm.timed later, fun _ => ?_⟩
        rw [calm.steady.bridge]
        exact (ready rfl).attached
  refine Coro.wp_bind (Coro.wp_mono ?_ flushes)
  rintro answer after ⟨later, attached⟩
  cases answer with
  | error fault => exact later
  | ok _ =>
      have bridged := Option.isSome_iff_ne_none.mpr (attached rfl)
      have first : Steady after.rest (after.rest.createPump (.pumpOutput .stdout)) := steady_fits _ bridged
      have second : Steady (after.rest.createPump (.pumpOutput .stdout)) _ :=
        steady_fits (.pumpOutput .stderr) bridged
      have calm : Calm after { after with rest := _ } :=
        ((first.trans second).trans (steady_fits .waitForProcess trivial)).calm
      exact update_safe calm.aside.owes (calm.timed later)

/-- The turn of a task that begins. -/
def InputTurn (number : Nat) (world : ShellWorld) : Prop :=
  ∀ seconds, Waits world.rest number seconds → InTurn seconds world

/-- An input task that begins in turn has the next event. -/
theorem begins_next {jump : StartedJump} {seconds : Int} {payload : Bytes}
    (begins : Begins InputTurn number (.sendUserInput jump seconds payload) state) (holds : Timed state)
    (live : number ∉ state.rest.cancelled) :
    Next seconds { state with rest := state.rest.begin number } := by
  have carries : CarriesInput state.rest number seconds := ⟨jump, payload, begins.created⟩
  have waits : Waits state.rest number seconds := ⟨carries, begins.unbegun, live⟩
  refine ⟨fun alone => ?_, holds.inputs number seconds carries, holds.waits number seconds waits, ?_⟩
  · exact (holds.unattached alone).2 number seconds carries
  · intro records other waiting later
    exact begins.turn seconds waits ⟨records.bridge, records.recorder, records.storage⟩ other waiting
      ⟨later.carries, fun begun => later.unbegun (List.mem_append_left _ begun), later.live⟩

theorem body_runs (turns : Nat) {body : TaskBody} (begins : Begins InputTurn number body state)
    (holds : Timed state) (live : number ∉ state.rest.cancelled) :
    Runs punctualWorld Timed number (body.program config number turns) (fun _ after => Timed after)
      { state with rest := state.rest.begin number } := by
  have timed := timed_begin number holds
  cases body with
  | startExec command =>
      have starting := starting_begins holds.sole begins.created begins.unbegun
      exact exec_runs timed_law timed starting fun _ _ _ _ _ => attach_runs
  | sendUserInput jump seconds payload =>
      exact Coro.wp_mono (fun _ _ kept => kept.1) (sendUserInput_runs timed (begins_next begins holds live))
  | resizePty jump width height => exact (keeps_resizePty timed_law stable_anything).runs timed trivial
  | pumpOutput stream => exact pumpOutput_runs turns timed
  | waitForProcess => exact (keeps_waitForProcess timed_law stable_anything).runs timed trivial
  | connectionLost jump lost now =>
      exact (keeps_lostTask timed_law stable_anything turns).runs timed trivial
  | failStartedJump error => exact (keeps_failStartedJump timed_law stable_anything).runs timed trivial

theorem timed_served : Served punctualWorld Timed InputTurn config :=
  timed_law.served (fun number _ _ _ holds _ => timed_begin number holds)
    fun _ turns _ _ => body_runs turns
end Programs

/-- A callback, the end of a task and what changes around the session. -/
theorem calm_others {config : ShellConfig} {key : LoopKey} {program : ShellTask Unit} {world : ShellWorld}
    (other : ∀ number, key ≠ .task number) (started : punctualPrograms config key program world) :
    ∃ change : ShellWorld → ShellWorld, program = update change ∧ Calm world (change world) := by
  obtain ⟨started, -⟩ := started
  cases key with
  | task number => exact absurd rfl (other number)
  | ended number =>
      obtain ⟨-, rfl⟩ := started
      exact ⟨_, rfl, (steady_taskDone number).calm⟩
  | callback serial =>
      obtain ⟨callback, delivered, rfl⟩ := started
      exact ⟨_, rfl, (steady_callback delivered).calm⟩
  | around serial =>
      obtain ⟨around, later, rfl⟩ := started
      have lone : Lone world.rest (around.enter world).rest := ⟨rfl, rfl, rfl, rfl, List.prefix_rfl, id⟩
      exact ⟨_, rfl, ⟨lone, later, List.Subset.refl _, fun _ _ => .inl⟩, rfl, id, id⟩

theorem timed_new {path : Str} {digest : List ReplayLine → Str} {replayAudited : Bool} {command : Str}
    {width height timestamp : Int} {columns : RowColumns} {termSize : Int × Int} {now : DateTime}
    {content : OutputStream → Bytes} : Timed (newWorld path digest replayAudited
      (.header command width height timestamp) columns (Shell.new termSize now content)) where
  ordered := .nil
  past _ impossible := nomatch impossible
  inputs _ _ := fun ⟨_, _, impossible⟩ => nomatch impossible
  waits _ _ _ _ impossible := nomatch impossible
  unattached _ := ⟨rfl, fun _ _ ⟨_, _, impossible⟩ => nomatch impossible⟩
  sole := sole_new
  files := by
    refine ⟨fun lines found => ?_, fun lines impossible => nomatch impossible⟩
    cases found
    rfl

/-- In every run in which the clock does not go back and nothing is recorded at a time later than that
of an input that waits, the times in the file of the recording do not go back. -/
theorem replay_times_ordered {config : ShellConfig} {path : Str} {digest : List ReplayLine → Str}
    {replayAudited : Bool} {command : Str} {width height timestamp : Int} {columns : RowColumns}
    {termSize : Int × Int} {now : DateTime} {content : OutputStream → Bytes} {pool : ShellPool}
    (reached : Reachable (loopWorld punctualWorld) (punctualPrograms config)
      (newWorld path digest replayAudited (.header command width height timestamp) columns
        (Shell.new termSize now content)) pool) {lines : List ReplayLine}
    (file : pool.state.recorder.temp = some lines ∨ pool.state.recorder.published = some lines) :
    Ordered (eventsOf lines) := by
  have timed : Timed pool.state := by
    refine session_holds (@timed_served config) (fun number program world started => ?_)
      (fun key program world other started holds => ?_) (fun _ _ _ _ _ given => ?_) timed_new rfl reached
    · obtain ⟨⟨body, turns, created, rfl⟩, turn⟩ := started
      exact ⟨body, turns, created, rfl, turn⟩
    · obtain ⟨change, same, calm⟩ := calm_others other started
      exact ⟨change, same, calm.timed holds, calm.aside⟩
    · exact (calm_answer given.1).aside
  rcases file with temp | published
  · rw [timed.files.temp lines temp]
    exact timed.ordered
  · rw [(timed.files.published lines published).1]
    exact timed.ordered

/-! The condition leaves out no more than it has to. -/
section Overtaken
variable {world : ShellWorld}

/-- An event that can be recorded is. -/
theorem recordEvent_records (records : Records world) (seconds : Int) (stream : String) (payload : Bytes) :
    ∃ recorder, recorder.closed = false ∧
      JumpPtyBridge.recordEvent seconds stream payload world = (.ok (), { world with
        recorder := recorder
        recorded := world.recorded ++ [⟨seconds, lit stream, decodeEscaped payload⟩] }) := by
  unfold JumpPtyBridge.recordEvent onRecorder ReplayRecorder.record
  dsimp only
  rw [records.recorder, records.storage]
  refine ⟨_, ?_, rfl⟩
  rfl

/-- An input task that begins and is not kept from it records its event. -/
theorem inputTask_records {config : ShellConfig} {number turns : Nat} {jump : StartedJump} {seconds : Int}
    {payload : Bytes} (live : number ∉ world.rest.cancelled) (records : Records world) :
    (settle (runTask config number turns (.sendUserInput jump seconds payload)) world).2.recorded =
      world.recorded ++ [⟨seconds, lit "i", decodeEscaped payload⟩] := by
  have begun : Records { world with rest := world.rest.begin number } :=
    ⟨records.bridge, records.recorder, records.storage⟩
  obtain ⟨recorder, -, wrote⟩ := recordEvent_records begun seconds "i" payload
  have opened : JumpPtyBridge.ensureOpen { world with rest := world.rest.begin number } = .ok () :=
    if_neg (Bool.not_eq_true _ ▸ records.bridge)
  unfold runTask
  rw [onShell, settle_update, settle_look]
  dsimp only
  split
  · exact absurd ‹_› live
  unfold TaskBody.program JumpPtyBridge.sendUserInput
  rw [settle_look_outcome, opened]
  change (settle (Coro.outcome (change (JumpPtyBridge.recordEvent seconds "i" payload) >>= _) >>= _) _).2.recorded = _
  rw [settle_change_outcome, wrote]
  -- the process is fed, and the recording is not looked at any more
  generalize same : ({ world with
    recorder := recorder
    recorded := world.recorded ++ [⟨seconds, lit "i", decodeEscaped payload⟩]
    rest := world.rest.begin number } : ShellWorld) = after
  have done : after.recorded = world.recorded ++ [⟨seconds, lit "i", decodeEscaped payload⟩] := by rw [← same]
  rw [← done]
  change (settle (Coro.outcome (change (onRest (Shell.writeStdin payload)) >>= _) >>= _) _).2.recorded = _
  rw [settle_change_outcome]
  cases (onRest (Shell.writeStdin payload) after).1 <;> rfl

/-- An input task that has been overtaken takes the times back. -/
theorem overtaken_goes_back {config : ShellConfig} {number turns : Nat} {jump : StartedJump} {seconds : Int}
    {payload : Bytes} {event : ReplayEvent} (live : number ∉ world.rest.cancelled)
    (records : Records world) (member : event ∈ world.recorded) (late : seconds < event.seconds) :
    ¬Ordered (settle (runTask config number turns (.sendUserInput jump seconds payload)) world).2.recorded := by
  rw [inputTask_records live records]
  intro ordered
  have last := (List.pairwise_append.mp ordered).2.2 event member _ (List.mem_singleton.mpr rfl)
  exact absurd last (not_le.mpr late)
end Overtaken

/-! A session of alice on node-01, whose process answers what she types. -/
def answering : ShellWorld :=
  newWorld (lit "3.cast") (fun _ => lit "digest") false (.header (lit "node-01") 80 24 1)
    MandatoryCapture.columnsOne (Shell.new (80, 24) ⟨1000000, some 0⟩ fun _ => [121])

/-- The output pump reads what there is, and then the end. -/
def feeds : (call : SessionCall) → ShellWorld → Except Exc (SessionResult call) × ShellWorld
  | .readOutput _, world =>
      let chunk := if world.rest.read .stdout = [] then [121] else []
      (.ok chunk, { world with rest := { world.rest with
        read := Function.update world.rest.read .stdout (world.rest.read .stdout ++ chunk) } })
  | call, world => MandatoryCapture.letsIn call world

def isOutputPump : Option TaskBody → Bool
  | some (.pumpOutput .stdout) => true
  | _ => false

def reading : SessionCall → ShellWorld → Bool
  | .readOutput count, world => decide (1 ≤ count) && isOutputPump world.rest.created[1]? &&
      world.rest.content .stdout == [121] &&
      (world.rest.read .stdout == [] || world.rest.read .stdout == [121])
  | _, _ => false

theorem feeds_given (call : SessionCall) (world : ShellWorld) (permitted : reading call world = true) :
    shellWorld 1 call (feeds call world).1 world (feeds call world).2 := by
  cases call with
  | readOutput count =>
      simp only [reading, Bool.and_eq_true, Bool.or_eq_true, beq_iff_eq, decide_eq_true_eq] at permitted
      obtain ⟨⟨⟨enough, pump⟩, content⟩, progress⟩ := permitted
      have created : world.rest.created[1]? = some (.pumpOutput .stdout) := by
        unfold isOutputPump at pump
        split at pump
        · assumption
        · cases pump
      refine ⟨.stdout, created, ?_, ?_, ?_, rfl⟩
      · split <;> simp [enough]
      · rcases progress with none | all
        · simp [none, content]
        · simp [all, content]
      · rcases progress with none | all
        · simp [none]
        · simp [all, content]
  | _ => cases permitted

/-- Every input task has the same time. -/
def inputsAt (time : Int) (shell : Shell) : Bool := shell.created.all fun body => match body with
  | .sendUserInput _ seconds _ => seconds == time
  | _ => true

theorem inputsAt_carries {time : Int} {shell : Shell} (all : inputsAt time shell = true) {number : Nat}
    {seconds : Int} (carries : CarriesInput shell number seconds) : seconds = time := by
  obtain ⟨jump, payload, there⟩ := carries
  exact beq_iff_eq.mp (List.all_eq_true.mp all _ (List.mem_of_getElem? there))

theorem inputsAt_inTurn {time : Int} {world : ShellWorld} (all : inputsAt time world.rest = true) :
    InTurn time world :=
  fun _ _ _ waits => (inputsAt_carries all waits.carries).ge

theorem inputsAt_starts (time : Int) {world : ShellWorld} {number : Nat}
    (all : inputsAt time world.rest = true) : StartsInTurn world (.task number) := by
  intro seconds waits
  rw [inputsAt_carries all waits.carries]
  exact inputsAt_inTurn all

open MandatoryCapture (configOne letsIn starting letsIn_given)

/-- A task that was created is started. -/
theorem clock_task {config : ShellConfig} {world : ShellWorld} {number : Nat} (turns : Nat)
    (made : (world.rest.created[number]?).isSome) : clockPrograms config (.task number)
      (runTask config number turns ((world.rest.created[number]?).get made)) world :=
  ⟨_, turns, (Option.some_get made).symm, rfl⟩

/-- A second after the session began. -/
def second : Surroundings := ⟨⟨2000000, some 0⟩, .none, none, none, none⟩

theorem answering_execs : (Callback.execRequested (lit " node-01 ")).Delivered answering.rest :=
  ⟨rfl, fun _ _ _ member => by cases member⟩

theorem data_delivered {shell : Shell} (payload : Bytes) (here : shell.lost = false) :
    (Callback.dataReceived payload).Delivered shell :=
  ⟨here, fun _ impossible => by cases impossible⟩

/-- She types, and the answer is recorded before what she typed. -/
theorem times_go_back : ∃ pool lines, Reachable (loopWorld shellWorld) (clockPrograms configOne) answering pool ∧
    pool.state.recorder.temp = some lines ∧ ¬Ordered (eventsOf lines) := by
  have fresh : Reachable (loopWorld shellWorld) (clockPrograms configOne) answering
      ⟨fun _ => none, answering⟩ := .start
  have asked := fresh.spawn (.callback 0) _ rfl ⟨_, answering_execs, rfl⟩
  have started := asked.spawn (.task 0) (runTask configOne 0 0 (.startExec (lit " node-01 "))) rfl
    ⟨_, 0, rfl, rfl⟩
  have attached := started.served letsIn starting (LoopKey.task 0) letsIn_given (by decide +kernel)
  have typed := attached.spawn (.callback 1) _ rfl ⟨_, data_delivered [120] (by decide +kernel), rfl⟩
  have later := typed.spawn (.around 0) (update second.enter) rfl ⟨second, by decide +kernel, rfl⟩
  have pumped := later.spawn (.task 1) _ rfl (clock_task 2 (by decide +kernel))
  have answered := pumped.served feeds reading (LoopKey.task 1) feeds_given (by decide +kernel)
  have entered := answered.spawn (.task 4) _ rfl (clock_task 0 (by decide +kernel))
  obtain ⟨pool, reached, times⟩ : ∃ pool,
      Reachable (loopWorld shellWorld) (clockPrograms configOne) answering pool ∧
        pool.state.recorder.temp.map (fun lines => (eventsOf lines).map (·.seconds)) =
          some [1000000, 0] := ⟨_, entered, by decide +kernel⟩
  obtain ⟨lines, file, backwards⟩ := Option.map_eq_some_iff.mp times
  refine ⟨pool, lines, reached, file, fun ordered => ?_⟩
  have sorted := List.pairwise_map.mpr ordered
  rw [backwards] at sorted
  exact absurd sorted (by decide)

/-- The pump reads while all the input that there is has the time of now. -/
def readingNow (call : SessionCall) (world : ShellWorld) : Bool :=
  reading call world && inputsAt world.rest.elapsedSeconds world.rest

theorem feeds_inTurn (call : SessionCall) (world : ShellWorld) (permitted : readingNow call world = true) :
    punctualWorld 1 call (feeds call world).1 world (feeds call world).2 := by
  obtain ⟨may, now⟩ := Bool.and_eq_true_iff.mp permitted
  refine ⟨feeds_given call world may, ?_⟩
  unfold ReadsInTurn
  split
  · exact inputsAt_inTurn now
  · trivial

theorem letsIn_inTurn {number : Nat} (call : SessionCall) (world : ShellWorld)
    (permitted : starting call world = true) :
    punctualWorld number call (letsIn call world).1 world (letsIn call world).2 := by
  refine ⟨letsIn_given call world permitted, ?_⟩
  unfold ReadsInTurn
  split
  · cases permitted
  · trivial

/-- She types before the session is there, it answers a second later, and she types again. -/
theorem replay_times_alice : ∃ pool lines,
    Reachable (loopWorld punctualWorld) (punctualPrograms configOne) answering pool ∧
      pool.state.recorder.temp = some lines ∧ (eventsOf lines).map (·.seconds) = [0, 1000000, 1000000] ∧
      Ordered (eventsOf lines) := by
  have fresh : Reachable (loopWorld punctualWorld) (punctualPrograms configOne) answering
      ⟨fun _ => none, answering⟩ := .start
  have asked := fresh.spawn (.callback 0) _ rfl ⟨⟨_, answering_execs, rfl⟩, trivial⟩
  have typed := asked.spawn (.callback 1) _ rfl ⟨⟨_, data_delivered [120] rfl, rfl⟩, trivial⟩
  have started := typed.spawn (.task 0) (runTask configOne 0 0 (.startExec (lit " node-01 "))) rfl
    ⟨⟨_, 0, rfl, rfl⟩, inputsAt_starts 0 rfl⟩
  have attached := started.served letsIn starting (LoopKey.task 0) letsIn_inTurn (by decide +kernel)
  have later := attached.spawn (.around 0) (update second.enter) rfl ⟨⟨second, by decide +kernel, rfl⟩, trivial⟩
  have pumped := later.spawn (.task 1) _ rfl
    ⟨clock_task 2 (by decide +kernel), inputsAt_starts 0 (by decide +kernel)⟩
  have answered := pumped.served feeds readingNow (LoopKey.task 1) feeds_inTurn (by decide +kernel)
  have again := answered.spawn (.callback 2) _ rfl ⟨⟨_, data_delivered [122] (by decide +kernel), rfl⟩, trivial⟩
  have entered := again.spawn (.task 4) _ rfl
    ⟨clock_task 0 (by decide +kernel), inputsAt_starts 1000000 (by decide +kernel)⟩
  obtain ⟨pool, reached, times⟩ : ∃ pool,
      Reachable (loopWorld punctualWorld) (punctualPrograms configOne) answering pool ∧
        pool.state.recorder.temp.map (fun lines => (eventsOf lines).map (·.seconds)) =
          some [0, 1000000, 1000000] := ⟨_, entered, by decide +kernel⟩
  obtain ⟨lines, file, same⟩ := Option.map_eq_some_iff.mp times
  exact ⟨pool, lines, reached, file, same, replay_times_ordered reached (.inl file)⟩

end VibeConnect.ReplayTimes
