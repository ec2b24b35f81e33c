import VibeConnect.ReplayTimes

/-! The order of the input. What the user types before there is a process is kept, and written when the
process is there. Later each payload has a task of its own, but the end of the input is written at
once. The process gets all of it in order as long as the end finds no payload that waits. -/
namespace VibeConnect.InputOrder
open Python.Text Python.Values Python.Coroutine Python.Tasks Models JumpCoordinator Replay JumpBridge
open JumpRuns ShellSession ShellRules SessionRuns
open ReplayTimes (CarriesInput Records)
open MandatoryCapture (recordedOn)

/-- Payloads, and then the end. -/
def input (payloads : List Bytes) (ended : Bool) : List InputEvent :=
  payloads.map .data ++ if ended then [.eof] else []

/-- The input of the tasks that have not begun. -/
def waitingFrom (begun : List Nat) : Nat → List TaskBody → List InputEvent
  | _, [] => []
  | number, .sendUserInput _ _ payload :: later =>
      if number ∈ begun then waitingFrom begun (number + 1) later
      else .data payload :: waitingFrom begun (number + 1) later
  | number, _ :: later => waitingFrom begun (number + 1) later

def waiting (shell : Shell) : List InputEvent := waitingFrom shell.begun 0 shell.created

/-! The runs. -/

/-- Input is recorded, and the process takes it. -/
structure Works (world : ShellWorld) : Prop extends Records world where
  process : world.rest.stdinFault = none

/-- The turn of an input task. -/
structure InLine (number : Nat) (world : ShellWorld) : Prop where
  first : ∀ earlier < number, ∀ seconds, CarriesInput world.rest earlier seconds →
    earlier ∈ world.rest.begun
  live : number ∉ world.rest.cancelled
  works : Works world

def InputTurn (number : Nat) (world : ShellWorld) : Prop :=
  ∀ seconds, CarriesInput world.rest number seconds → InLine number world

/-- Nothing comes after the end of the input. -/
def Typed (callback : Callback) (shell : Shell) : Prop :=
  BringsInput callback → InputEvent.eof ∉ shell.arrived

/-- The end of the input finds no payload that waits. -/
def EndsClear (callback : Callback) (shell : Shell) : Prop :=
  callback = .eofReceived → waiting shell = []

/-- The tasks begin first in, first out, and the callbacks come as they may. -/
def orderlyPrograms (config : ShellConfig) (may : Callback → Shell → Prop) (key : LoopKey)
    (program : ShellTask Unit) (world : ShellWorld) : Prop :=
  match key with
  | .task number => shellPrograms config (.task number) program world ∧ InputTurn number world
  | .callback _ => ∃ callback : Callback, callback.Delivered world.rest ∧ may callback world.rest ∧
      program = onShell callback.apply
  | key => shellPrograms config key program world

/-- A process that is made works. -/
def MakesProcess : (call : SessionCall) → Except Exc (SessionResult call) → ShellWorld → Prop
  | .createProcess _, .ok _, world => Works world
  | _, _, _ => True

def orderlyWorld (number : Nat) : World ShellWorld SessionResult Exc := fun call answer before after =>
  shellWorld number call answer before after ∧ MakesProcess call answer before

/-! The input that waits. -/
section Waiting
variable {begun : List Nat} {number : Nat} {created : List TaskBody}

theorem waitingFrom_append (number : Nat) (later : List TaskBody) :
    waitingFrom begun number (created ++ later) =
      waitingFrom begun number created ++ waitingFrom begun (number + created.length) later := by
  induction created generalizing number with
  | nil => rfl
  | cons body rest ih =>
      have shift : number + 1 + rest.length = number + (rest.length + 1) := by omega
      rw [List.cons_append, List.length_cons, ← shift]
      cases body with
      | sendUserInput jump seconds payload =>
          rw [waitingFrom, waitingFrom, ih]
          split <;> rfl
      | _ => exact ih (number + 1)

/-- A task that is not among these begins. -/
theorem waitingFrom_begin_other (first : Nat) (other : ∀ index jump seconds payload,
    created[index]? = some (.sendUserInput jump seconds payload) → first + index ≠ number) :
    waitingFrom (begun ++ [number]) first created = waitingFrom begun first created := by
  induction created generalizing first with
  | nil => rfl
  | cons body rest ih =>
      have later : waitingFrom (begun ++ [number]) (first + 1) rest = waitingFrom begun (first + 1) rest := by
        apply ih
        intro index jump seconds payload there same
        exact other (index + 1) jump seconds payload there (by omega)
      cases body with
      | sendUserInput jump seconds payload =>
          have apart : first ≠ number := other 0 jump seconds payload rfl
          have same : first ∈ begun ++ [number] ↔ first ∈ begun := by
            rw [List.mem_append, List.mem_singleton]
            exact or_iff_left apart
          rw [waitingFrom, waitingFrom, later]
          simp only [same]
      | _ => exact later

/-- The first of the input tasks that wait begins. -/
theorem waitingFrom_begin {index : Nat} {jump : StartedJump} {seconds : Int} {payload : Bytes} (first : Nat)
    (there : created[index]? = some (.sendUserInput jump seconds payload)) (unbegun : first + index ∉ begun)
    (earlier : ∀ before < index, ∀ jump seconds payload,
      created[before]? = some (.sendUserInput jump seconds payload) → first + before ∈ begun) :
    waitingFrom begun first created =
      .data payload :: waitingFrom (begun ++ [first + index]) first created := by
  induction created generalizing first index with
  | nil => cases there
  | cons body rest ih =>
      cases index with
      | zero =>
          cases there
          have begins : first ∈ begun ++ [first] := List.mem_append_right _ (List.mem_singleton.mpr rfl)
          rw [Nat.add_zero] at unbegun ⊢
          rw [waitingFrom, waitingFrom, if_neg unbegun, if_pos begins, waitingFrom_begin_other]
          intro index _ _ _ _
          omega
      | succ index =>
          have shift : first + 1 + index = first + (index + 1) := by omega
          have later : waitingFrom begun (first + 1) rest =
              .data payload :: waitingFrom (begun ++ [first + (index + 1)]) (first + 1) rest := by
            rw [← shift]
            apply ih (first + 1) there
            · rw [shift]
              exact unbegun
            · intro before less jump seconds payload found
              have begins := earlier (before + 1) (by omega) jump seconds payload found
              rwa [show first + 1 + before = first + (before + 1) by omega]
          cases body with
          | sendUserInput otherJump otherSeconds otherPayload =>
              have begins : first ∈ begun := earlier 0 (by omega) otherJump otherSeconds otherPayload rfl
              rw [waitingFrom, waitingFrom, if_pos begins, if_pos (List.mem_append_left _ begins), later]
          | _ => exact later

variable {shell : Shell}

theorem waiting_createPump (body : TaskBody) : waiting (shell.createPump body) =
    waiting shell ++ waitingFrom shell.begun shell.created.length [body] := by
  have split := @waitingFrom_append shell.begun shell.created 0 [body]
  rw [Nat.zero_add] at split
  exact split

theorem waiting_begin_other (other : ∀ seconds, ¬CarriesInput shell number seconds) :
    waiting (shell.begin number) = waiting shell := by
  apply waitingFrom_begin_other
  intro index jump seconds payload there same
  rw [Nat.zero_add] at same
  subst same
  exact other seconds ⟨jump, payload, there⟩

theorem waiting_begin {world : ShellWorld} {jump : StartedJump} {seconds : Int} {payload : Bytes}
    (there : world.rest.created[number]? = some (.sendUserInput jump seconds payload))
    (unbegun : number ∉ world.rest.begun) (line : InLine number world) :
    waiting world.rest = .data payload :: waiting (world.rest.begin number) := by
  have front := waitingFrom_begin 0 there (by rwa [Nat.zero_add])
    fun before less jump seconds payload found => by
      rw [Nat.zero_add]
      exact line.first before less seconds ⟨jump, payload, found⟩
  rw [Nat.zero_add] at front
  exact front
end Waiting

/-! What the runs keep. -/

/-- What comes of the input: it is kept until there is a process, and then it is written or it waits. -/
structure Fed (world : ShellWorld) : Prop where
  sole : Sole world.rest
  begun : ∀ number ∈ world.rest.begun, number < world.rest.created.length
  typed : ∃ payloads ended, world.rest.arrived = input payloads ended
  unattached : world.rest.bridge = none → world.rest.stdin = [] ∧ waiting world.rest = [] ∧
    world.rest.arrived = input world.rest.pendingInput world.rest.pendingEof
  attached : world.rest.bridge ≠ none → world.rest.stdin ++ waiting world.rest = world.rest.arrived

/-- A change that has nothing to do with the input. -/
structure Still (before after : Shell) : Prop extends Lone before after where
  stdin : after.stdin = before.stdin
  arrived : after.arrived = before.arrived
  pendingInput : after.pendingInput = before.pendingInput
  pendingEof : after.pendingEof = before.pendingEof
  waiting : waiting after = waiting before

section Changes
variable {before after shell : Shell} {config : ShellConfig} {world : ShellWorld}

theorem Still.trans {one two three : Shell} (first : Still one two) (second : Still two three) :
    Still one three where
  toLone := first.toLone.trans second.toLone
  stdin := second.stdin.trans first.stdin
  arrived := second.arrived.trans first.arrived
  pendingInput := second.pendingInput.trans first.pendingInput
  pendingEof := second.pendingEof.trans first.pendingEof
  waiting := second.waiting.trans first.waiting

theorem Still.of_unseen (unseen : Unseen before after) : Still before after := by
  refine ⟨.of_unseen unseen, unseen.stdin, unseen.arrived, unseen.pendingInput, unseen.pendingEof, ?_⟩
  unfold InputOrder.waiting
  rw [unseen.begun, unseen.created]

theorem still_fits (body : TaskBody) (fits : Fits shell body) : Still shell (shell.createPump body) := by
  refine ⟨lone_fits body fits, rfl, rfl, rfl, rfl, ?_⟩
  rw [waiting_createPump]
  cases body with
  | sendUserInput jump seconds payload => exact fits.elim
  | _ => exact List.append_nil _

theorem still_exit (status : Int) : Still shell (shell.exitChannel config status) := by
  refine ⟨lone_exit status, ?_, ?_, ?_, ?_, ?_⟩ <;>
  · unfold Shell.exitChannel
    split <;> rfl

theorem still_cancels {taskFailed lost : Bool} {cancelled : List Nat} : Still shell { shell with
    taskFailed := taskFailed, lost := lost, cancelled := cancelled } :=
  ⟨lone_cancels, rfl, rfl, rfl, rfl, rfl⟩

theorem still_taskDone (number : Nat) : Still shell (shell.taskDone config number) :=
  taskDone_moves (fun _ _ _ => .trans) (fun _ _ => .of_unseen) (fun _ => still_fits)
    (fun _ _ _ => still_cancels) (fun _ => still_exit 1) number

theorem Still.fed {before after : ShellWorld} (still : Still before.rest after.rest) (holds : Fed before) :
    Fed after where
  sole := still.sole holds.sole
  begun number member := by
    rw [still.begun] at member
    exact (holds.begun number member).trans_le still.created.length_le
  typed := by
    rw [still.arrived]
    exact holds.typed
  unattached alone := by
    rw [still.bridge] at alone
    rw [still.stdin, still.waiting, still.arrived, still.pendingInput, still.pendingEof]
    exact holds.unattached alone
  attached there := by
    rw [still.bridge] at there
    rw [still.stdin, still.waiting, still.arrived]
    exact holds.attached there

/-- A task that is not for input begins. -/
theorem fed_begin {number : Nat} (created : number < world.rest.created.length)
    (other : ∀ seconds, ¬CarriesInput world.rest number seconds) (holds : Fed world) :
    Fed { world with rest := world.rest.begin number } where
  sole := sole_begin number holds.sole
  begun begins member := by
    rcases List.mem_append.mp member with earlier | last
    · exact holds.begun begins earlier
    · rw [List.mem_singleton.mp last]
      exact created
  typed := holds.typed
  unattached alone := by
    rw [waiting_begin_other other]
    exact holds.unattached alone
  attached there := by
    rw [waiting_begin_other other]
    exact holds.attached there
end Changes

/-! The callbacks. -/
section Callbacks
variable {world : ShellWorld} {config : ShellConfig}

theorem input_more (payloads : List Bytes) (payload : Bytes) :
    input payloads false ++ [.data payload] = input (payloads ++ [payload]) false := by
  simp [input]

theorem input_ends (payloads : List Bytes) : input payloads false ++ [.eof] = input payloads true := by
  simp [input]

theorem input_open {payloads : List Bytes} {ended : Bool} (more : InputEvent.eof ∉ input payloads ended) :
    ended = false := by
  cases ended with
  | false => rfl
  | true => exact absurd (List.mem_append_right _ (List.mem_singleton.mpr rfl)) more

/-- Input that came before and has not ended. -/
theorem Fed.goes_on (holds : Fed world) (more : InputEvent.eof ∉ world.rest.arrived) :
    (∃ payloads, world.rest.arrived = input payloads false) ∧
      (world.rest.bridge = none → world.rest.pendingEof = false) := by
  constructor
  · obtain ⟨payloads, ended, same⟩ := holds.typed
    rw [same] at more
    exact ⟨payloads, input_open more ▸ same⟩
  · intro alone
    rw [(holds.unattached alone).2.2] at more
    exact input_open more

theorem fed_data (payload : Bytes) (more : InputEvent.eof ∉ world.rest.arrived) (holds : Fed world) :
    Fed { world with rest := world.rest.dataReceived payload } := by
  obtain ⟨⟨payloads, came⟩, pending⟩ := holds.goes_on more
  have typed : world.rest.arrived ++ [.data payload] = input (payloads ++ [payload]) false := by
    rw [came, input_more]
  have sole : ∀ rest : Shell, Lone world.rest rest → Sole rest := fun _ lone => lone.sole holds.sole
  unfold Shell.dataReceived
  dsimp only
  split
  · rename_i alone
    exact {
      sole := sole _ ⟨rfl, rfl, rfl, rfl, List.prefix_rfl, id⟩
      begun := holds.begun
      typed := ⟨_, _, typed⟩
      unattached := fun _ => by
        obtain ⟨unfed, none, kept⟩ := holds.unattached alone
        refine ⟨unfed, none, ?_⟩
        show world.rest.arrived ++ [.data payload] = input (world.rest.pendingInput ++ [payload]) _
        rw [kept, pending alone, input_more]
      attached := fun there => absurd alone there }
  · rename_i jump attached
    have bridged : world.rest.bridge ≠ none := by
      rw [attached]
      exact Option.some_ne_none jump
    have lone : Lone world.rest { world.rest with arrived := world.rest.arrived ++ [.data payload] } :=
      ⟨rfl, rfl, rfl, rfl, List.prefix_rfl, id⟩
    have fresh : world.rest.created.length ∉ world.rest.begun :=
      fun begun => absurd (holds.begun _ begun) (lt_irrefl _)
    exact {
      sole := sole _ (lone.trans lone_input)
      begun := fun number member => (holds.begun number member).trans_le (List.prefix_append _ _).length_le
      typed := ⟨_, _, typed⟩
      unattached := fun alone => absurd alone bridged
      attached := fun _ => by
        rw [waiting_createPump]
        show world.rest.stdin ++ (waiting world.rest ++
          waitingFrom world.rest.begun world.rest.created.length [_]) = world.rest.arrived ++ [_]
        rw [waitingFrom, if_neg fresh, ← List.append_assoc, holds.attached bridged]
        rfl }

theorem fed_eof (more : InputEvent.eof ∉ world.rest.arrived) (clear : waiting world.rest = [])
    (holds : Fed world) : Fed { world with rest := world.rest.eofReceived } := by
  obtain ⟨⟨payloads, came⟩, pending⟩ := holds.goes_on more
  have typed : world.rest.arrived ++ [.eof] = input payloads true := by rw [came, input_ends]
  have sole : ∀ rest : Shell, Lone world.rest rest → Sole rest := fun _ lone => lone.sole holds.sole
  unfold Shell.eofReceived
  dsimp only
  split
  · rename_i alone
    exact {
      sole := sole _ ⟨rfl, rfl, rfl, rfl, List.prefix_rfl, id⟩
      begun := holds.begun
      typed := ⟨_, _, typed⟩
      unattached := fun _ => by
        obtain ⟨unfed, none, kept⟩ := holds.unattached alone
        refine ⟨unfed, none, ?_⟩
        show world.rest.arrived ++ [.eof] = input world.rest.pendingInput true
        rw [kept, pending alone, input_ends]
      attached := fun there => absurd alone there }
  · rename_i jump attached
    exact {
      sole := sole _ ⟨rfl, rfl, rfl, rfl, List.prefix_rfl, id⟩
      begun := holds.begun
      typed := ⟨_, _, typed⟩
      unattached := fun alone => absurd (attached.symm.trans alone) (Option.some_ne_none jump)
      attached := fun there => by
        have fed := holds.attached there
        rw [clear, List.append_nil] at fed
        show (world.rest.stdin ++ [.eof]) ++ waiting world.rest = world.rest.arrived ++ [.eof]
        rw [clear, List.append_nil, fed] }

theorem fed_callback {callback : Callback} (delivered : callback.Delivered world.rest)
    (typed : Typed callback world.rest) (clear : EndsClear callback world.rest) (holds : Fed world) :
    Fed { world with rest := callback.apply world.rest } := by
  have others : ¬BringsInput callback → Fed { world with rest := callback.apply world.rest } := by
    intro other
    have still : Still world.rest (callback.apply world.rest) :=
      otherCallback_moves (fun _ _ _ => .trans) (fun _ _ => .of_unseen) (fun _ => still_fits)
        (fun _ _ _ => still_cancels) delivered other
    exact still.fed holds
  cases callback with
  | dataReceived payload => exact fed_data payload (typed trivial) holds
  | eofReceived => exact fed_eof (typed trivial) (clear rfl) holds
  | _ => exact others id
end Callbacks

/-! The programs that write input. -/

/-- A change of the world that has nothing to do with the input. -/
structure Quiet (before after : ShellWorld) : Prop where
  still : Still before.rest after.rest
  closed : before.bridgeClosed = true → after.bridgeClosed = true

theorem Quiet.aside {before after : ShellWorld} (quiet : Quiet before after) : Aside before after :=
  ⟨quiet.still.toLone, quiet.closed⟩

theorem Still.quiet {world : ShellWorld} {rest : Shell} (still : Still world.rest rest) :
    Quiet world { world with rest := rest } := ⟨still, id⟩

theorem Quiet.of_rest {before after : ShellWorld} (rest : after.rest = before.rest)
    (closed : before.bridgeClosed = true → after.bridgeClosed = true) : Quiet before after := by
  refine ⟨?_, closed⟩
  rw [rest]
  exact .of_unseen (.refl _)

theorem quiet_answer {number : Nat} {call : SessionCall} {answer : Except Exc (SessionResult call)}
    {before after : ShellWorld} (given : shellWorld number call answer before after) : Quiet before after := by
  refine answer_moves (fun _ => .of_rest rfl id) (fun _ _ unseen => (Still.of_unseen unseen).quiet) ?_
    (fun _ => .of_rest rfl id) (fun world read => ?_) given
  · intro world request
    rw [JumpWorld.closeRow_same]
    exact .of_rest rfl id
  · exact Still.quiet ⟨⟨rfl, rfl, rfl, rfl, List.prefix_rfl, id⟩, rfl, rfl, rfl, rfl, rfl⟩

theorem fed_finish {world : ShellWorld} (number : Nat) (ended : Except Exc Unit) (holds : Fed world) :
    Fed { world with rest := world.rest.finish number ended } where
  sole := ⟨holds.sole.single, holds.sole.unstarted, holds.sole.begun⟩
  begun := holds.begun
  typed := holds.typed
  unattached := holds.unattached
  attached := holds.attached

theorem fed_law : Law orderlyWorld Fed Quiet where
  keeps _ _ quiet := quiet.still.fed
  aside _ _ := Quiet.aside
  sole _ holds := holds.sole
  answers _ _ _ _ _ given := quiet_answer given.1
  unseen _ _ unseen := (Still.of_unseen unseen).quiet
  exits _ _ status := (still_exit status).quiet
  closes world status now := by
    rcases beginClose_cases status now world with ⟨-, same⟩ | ⟨-, same⟩
    · rw [same]
      exact .of_rest rfl id
    · rw [same]
      exact .of_rest rfl fun _ => rfl
  asks world channelId := by
    have still : Still world.rest (nodeChannel.closing channelId world.rest) := .of_unseen rfl
    exact ⟨still, id⟩
  fails _ := .of_rest rfl id
  starts world _ jump holds starting := {
    sole := sole_started jump holds.sole starting
    begun := holds.begun
    typed := holds.typed
    unattached := holds.unattached
    attached := holds.attached }
  finishes _ := fed_finish

/-! Input that is written, whatever else is asked of the runs. -/
section Feeding
variable {worlds : Nat → World ShellWorld SessionResult Exc} {inv : ShellWorld → Prop} {number : Nat}
  {config : ShellConfig} {state : ShellWorld}

/-- The session once the process has taken more. -/
def fedWith (events : List InputEvent) (shell : Shell) : Shell := { shell with stdin := shell.stdin ++ events }

/-- Nothing but input is recorded on the way, and all still works. -/
structure Feeds (before : ShellWorld) (rest : Shell) (after : ShellWorld) : Prop where
  works : Works after
  rest : after.rest = rest
  output : recordedOn "o" after = recordedOn "o" before

theorem Works.records (works : Works state) (seconds : Int) (payload : Bytes) : ∃ after,
    JumpPtyBridge.recordEvent seconds "i" payload state = (.ok (), after) ∧
      Feeds state state.rest after := by
  obtain ⟨recorder, running, done⟩ := ReplayTimes.recordEvent_records works.toRecords seconds "i" payload
  refine ⟨_, done, ⟨⟨works.bridge, running, works.storage⟩, works.process⟩, rfl, ?_⟩
  have other : lit "i" ≠ lit "o" := by decide
  simp [recordedOn, other]

theorem Works.writes (works : Works state) (payload : Bytes) : onRest (Shell.writeStdin payload) state =
    (.ok (), { state with rest := fedWith [.data payload] state.rest }) := by
  have written : Shell.writeStdin payload state.rest = (.ok (), fedWith [.data payload] state.rest) := by
    unfold Shell.writeStdin
    split
    · rename_i fault raises
      exact absurd (works.process.symm.trans raises) (Option.some_ne_none fault).symm
    · rfl
  unfold onRest
  rw [written]

theorem lone_fedWith {events : List InputEvent} {shell : Shell} : Lone shell (fedWith events shell) :=
  ⟨rfl, rfl, rfl, rfl, List.prefix_rfl, id⟩

/-- A payload is recorded and written. -/
theorem sendUserInput_feeds {jump : StartedJump} {seconds : Int} {payload : Bytes} (works : Works state) :
    Runs worlds inv number ((bridgeOf config jump).sendUserInput seconds payload)
      (fun answer after => answer = .ok () ∧ Feeds state (fedWith [.data payload] state.rest) after) state := by
  have opened : JumpPtyBridge.ensureOpen state = .ok () := if_neg (Bool.not_eq_true _ ▸ works.bridge)
  obtain ⟨recorded, done, still⟩ := works.records seconds payload
  refine Coro.wp_bind (look_safe (Coro.wp_bind (Coro.wp_ofAnswer ?_)))
  rw [opened]
  refine Coro.wp_bind (change_done done ?_ (Coro.wp_bind (change_done (still.works.writes payload) ?_ ?_)))
  · exact (Aside.of_rest still.rest (still.works.bridge.trans works.bridge.symm)).owes
  · exact lone_fedWith.aside.owes
  · refine ⟨rfl, ⟨⟨still.works.bridge, still.works.recorder, still.works.storage⟩, still.works.process⟩, ?_,
      still.output⟩
    rw [← still.rest]

/-- What came before there was a process is written in one go. -/
theorem sendPending_feeds {jump : StartedJump} (pending : List Bytes) (works : Works state) :
    Runs worlds inv number (sendPending config jump pending)
      (fun answer after => answer = .ok () ∧ Feeds state (fedWith (input pending false) state.rest) after)
      state := by
  induction pending generalizing state with
  | nil =>
      refine ⟨rfl, works, ?_, rfl⟩
      simp [fedWith, input]
  | cons payload rest ih =>
      refine Coro.wp_bind (look_safe (Coro.wp_bind (Coro.wp_mono ?_ (sendUserInput_feeds works))))
      rintro _ after ⟨rfl, still⟩
      refine Coro.wp_mono ?_ (ih still.works)
      rintro answer final ⟨done, all⟩
      refine ⟨done, all.works, ?_, all.output.trans still.output⟩
      rw [all.rest, still.rest]
      simp [fedWith, input]

/-- The session once the process is attached and has what was pending. -/
def attachedTo (jump : StartedJump) (shell : Shell) : Shell := { shell with
  bridge := some jump
  stdin := shell.stdin ++ input shell.pendingInput shell.pendingEof
  pendingInput := []
  pendingEof := false }

def withPumps (shell : Shell) : Shell :=
  ((shell.createPump (.pumpOutput .stdout)).createPump (.pumpOutput .stderr)).createPump .waitForProcess

theorem flushed_attached (jump : StartedJump) (shell : Shell) :
    (fedWith (input shell.pendingInput false) { shell with bridge := some jump }).flushed =
      attachedTo jump shell := by
  unfold Shell.flushed attachedTo
  split
  · rename_i ended
    have sent : shell.pendingEof = true := ended
    rw [sent]
    simp [fedWith, input]
  · rename_i more
    have kept : shell.pendingEof = false := Bool.not_eq_true _ ▸ more
    simp [fedWith, kept]

theorem lone_flushed {shell : Shell} : Lone shell shell.flushed := by
  unfold Shell.flushed
  split <;> exact ⟨rfl, rfl, rfl, rfl, List.prefix_rfl, id⟩

theorem lone_withPumps {shell : Shell} : Lone shell (withPumps shell) := by
  have out : Lone shell (shell.createPump (.pumpOutput .stdout)) := lone_creates nofun
  have both := out.trans (@lone_creates _ (.pumpOutput .stderr) nofun)
  exact both.trans (@lone_creates _ .waitForProcess nofun)

/-- A process that works is attached. -/
theorem attach_feeds {jump : StartedJump} (works : Works state)
    (owed : Owes number state { state with rest := { state.rest with bridge := some jump } }) :
    Runs worlds inv number (attach config jump)
      (fun answer after => answer = .ok () ∧ Feeds state (withPumps (attachedTo jump state.rest)) after)
      state := by
  refine Coro.wp_bind (update_safe owed ?_)
  have still : Works { state with rest := { state.rest with bridge := some jump } } :=
    ⟨⟨works.bridge, works.recorder, works.storage⟩, works.process⟩
  refine Coro.wp_bind (Coro.wp_bind (look_safe (Coro.wp_bind (Coro.wp_mono ?_ (sendPending_feeds _ still)))))
  rintro _ after ⟨rfl, written⟩
  have rest : after.rest.flushed = attachedTo jump state.rest :=
    (congrArg Shell.flushed written.rest).trans (flushed_attached jump state.rest)
  refine update_safe lone_flushed.aside.owes (update_safe lone_withPumps.aside.owes ⟨rfl, ?_, ?_, written.output⟩)
  · refine ⟨⟨written.works.bridge, written.works.recorder, written.works.storage⟩, ?_⟩
    show (withPumps after.rest.flushed).stdinFault = none
    rw [rest]
    exact works.process
  · show withPumps after.rest.flushed = withPumps (attachedTo jump state.rest)
    rw [rest]
end Feeding

section Programs
variable {number : Nat} {config : ShellConfig} {state : ShellWorld} {body : TaskBody}

theorem fed_attached (jump : StartedJump) (holds : Fed state) (attaching : Attaching number state) :
    Fed { state with rest := attachedTo jump state.rest } := by
  obtain ⟨unfed, none, kept⟩ := holds.unattached attaching.unattached
  exact {
    sole := ⟨holds.sole.single, fun unstarted => absurd unstarted attaching.started, holds.sole.begun⟩
    begun := holds.begun
    typed := holds.typed
    unattached := fun impossible => nomatch impossible
    attached := fun _ => by
      have still : waiting (attachedTo jump state.rest) = [] := none
      rw [still, List.append_nil]
      show state.rest.stdin ++ input state.rest.pendingInput state.rest.pendingEof = state.rest.arrived
      rw [unfed, List.nil_append, kept] }

theorem attach_runs {jump : StartedJump} (works : Works state) (holds : Fed state)
    (attaching : Attaching number state) :
    Runs orderlyWorld Fed number (attach config jump) (fun _ after => Fed after) state := by
  refine Coro.wp_mono ?_ (attach_feeds works (owes_exec holds.sole attaching.exec rfl rfl rfl))
  rintro answer after ⟨-, attached⟩
  have out : Still (attachedTo jump state.rest) _ := still_fits (.pumpOutput .stdout) rfl
  have both := out.trans (still_fits (.pumpOutput .stderr) rfl)
  have pumps : Still (attachedTo jump state.rest) (withPumps (attachedTo jump state.rest)) :=
    both.trans (still_fits .waitForProcess trivial)
  refine Still.fed ?_ (fed_attached jump holds attaching)
  rw [attached.rest]
  exact pumps

/-- The first payload that waits is written when its task begins. -/
theorem fed_first {jump : StartedJump} {seconds : Int} {payload : Bytes} (holds : Fed state)
    (there : state.rest.created[number]? = some (.sendUserInput jump seconds payload))
    (unbegun : number ∉ state.rest.begun) (line : InLine number state) :
    Fed { state with rest := fedWith [.data payload] (state.rest.begin number) } := by
  have front := waiting_begin there unbegun line
  exact {
    sole := lone_fedWith.sole (sole_begin number holds.sole)
    begun := fun begins member => by
      rcases List.mem_append.mp member with earlier | last
      · exact holds.begun begins earlier
      · rw [List.mem_singleton.mp last]
        exact (List.getElem?_eq_some_iff.mp there).1
    typed := holds.typed
    unattached := fun alone => by
      have none := (holds.unattached alone).2.1
      rw [front] at none
      exact absurd none (List.cons_ne_nil _ _)
    attached := fun attached => by
      have fed := holds.attached attached
      rw [front] at fed
      show (state.rest.stdin ++ [.data payload]) ++ waiting (state.rest.begin number) = state.rest.arrived
      rw [List.append_assoc]
      exact fed }

/-- Output has nothing to do with the input. -/
theorem keeps_pump {stream : OutputStream} (turns : Nat) :
    Keeps orderlyWorld Fed number Anything _ (pumpOutput config stream turns) := by
  apply pumpOutput_composes keeps_composes keeps_look (keeps_waitFor fed_law stable_anything)
  · intro seconds payload
    apply keeps_change fed_law.toCalms stable_anything
    intro world
    obtain ⟨rest, closed⟩ := recordEvent_rest seconds "o" payload world
    exact .of_rest rest fun was => closed.trans was
  · intro payload
    apply keeps_change fed_law.toCalms stable_anything
    intro world
    unfold onRest Shell.writeChannel
    split
    · exact .of_rest rfl id
    · exact Still.quiet ⟨⟨rfl, rfl, rfl, rfl, List.prefix_rfl, id⟩, rfl, rfl, rfl, rfl, rfl⟩

/-- A task that is not for input leaves the input as it is when it begins. -/
theorem fed_other (created : state.rest.created[number]? = some body)
    (other : ∀ jump seconds payload, body ≠ .sendUserInput jump seconds payload) (holds : Fed state) :
    Fed { state with rest := state.rest.begin number } := by
  refine fed_begin (List.getElem?_eq_some_iff.mp created).1 ?_ holds
  rintro seconds ⟨jump, payload, there⟩
  exact other jump seconds payload (Option.some.inj (created.symm.trans there))

theorem body_runs (turns : Nat) (begins : Begins InputTurn number body state) (holds : Fed state) :
    Runs orderlyWorld Fed number (body.program config number turns) (fun _ after => Fed after)
      { state with rest := state.rest.begin number } := by
  have other := fun other => fed_other begins.created other holds
  cases body with
  | startExec command =>
      have starting := starting_begins holds.sole begins.created begins.unbegun
      refine exec_runs fed_law (other nofun) starting ?_
      rintro jump connection before after ⟨same, works⟩ kept attaching
      have unchanged : after = before := same
      exact attach_runs (unchanged ▸ works) kept attaching
  | sendUserInput jump seconds payload =>
      have line := begins.turn seconds ⟨jump, payload, begins.created⟩
      have works : Works { state with rest := state.rest.begin number } :=
        ⟨⟨line.works.bridge, line.works.recorder, line.works.storage⟩, line.works.process⟩
      refine Coro.wp_mono ?_ (sendUserInput_feeds works)
      rintro answer after ⟨-, written⟩
      refine Still.fed ?_ (fed_first holds begins.created begins.unbegun line)
      rw [written.rest]
      exact .of_unseen (.refl _)
  | resizePty jump width height =>
      exact (keeps_resizePty fed_law stable_anything).runs (other nofun) trivial
  | pumpOutput stream => exact (keeps_pump turns).runs (other nofun) trivial
  | waitForProcess => exact (keeps_waitForProcess fed_law stable_anything).runs (other nofun) trivial
  | connectionLost jump lost now =>
      exact (keeps_lostTask fed_law stable_anything turns).runs (other nofun) trivial
  | failStartedJump error => exact (keeps_failStartedJump fed_law stable_anything).runs (other nofun) trivial

theorem fed_served : Served orderlyWorld Fed InputTurn config := by
  refine fed_law.served (fun number body state begins holds cancelled => ?_)
    fun number turns body state begins holds _ => body_runs turns begins holds
  apply fed_other begins.created _ holds
  rintro jump seconds payload rfl
  exact (begins.turn seconds ⟨jump, payload, begins.created⟩).live cancelled
end Programs

theorem fed_new {path : Str} {digest : List ReplayLine → Str} {replayAudited : Bool} {header : ReplayLine}
    {columns : RowColumns} {termSize : Int × Int} {now : DateTime} {content : OutputStream → Bytes} :
    Fed (newWorld path digest replayAudited header columns (Shell.new termSize now content)) where
  sole := sole_new
  begun _ impossible := nomatch impossible
  typed := ⟨[], false, rfl⟩
  unattached _ := ⟨rfl, rfl, rfl⟩
  attached _ := rfl

/-- Payloads come, at most one end comes after them, and it finds no payload that waits. -/
def Clear (callback : Callback) (shell : Shell) : Prop := Typed callback shell ∧ EndsClear callback shell

/-- In every run in which the end of the input finds no payload that waits, the process has a front part
of what the user typed, all of it once there is a process and no payload waits, and the end is last. -/
theorem input_in_order {config : ShellConfig} {path : Str} {digest : List ReplayLine → Str}
    {replayAudited : Bool} {header : ReplayLine} {columns : RowColumns} {termSize : Int × Int}
    {now : DateTime} {content : OutputStream → Bytes} {pool : ShellPool}
    (reached : Reachable (loopWorld orderlyWorld) (orderlyPrograms config Clear)
      (newWorld path digest replayAudited header columns (Shell.new termSize now content)) pool) :
    pool.state.rest.stdin <+: pool.state.rest.arrived ∧
      (∃ payloads ended, pool.state.rest.arrived = input payloads ended) ∧
      (pool.state.rest.bridge ≠ none → waiting pool.state.rest = [] →
        pool.state.rest.stdin = pool.state.rest.arrived) := by
  have fed : Fed pool.state := by
    refine session_holds (@fed_served config) (fun number program world started => ?_)
      (fun key program world other started holds => ?_) (fun _ _ _ _ _ given => (quiet_answer given.1).aside)
      fed_new rfl reached
    · obtain ⟨⟨body, turns, created, rfl⟩, turn⟩ := started
      exact ⟨body, turns, created, rfl, turn⟩
    cases key with
    | task number => exact absurd rfl (other number)
    | ended number =>
        obtain ⟨-, rfl⟩ := started
        have still : Still world.rest (world.rest.taskDone config number) := still_taskDone number
        exact ⟨_, rfl, still.fed holds, still.quiet.aside⟩
    | callback serial =>
        obtain ⟨callback, delivered, ⟨typed, clear⟩, rfl⟩ := started
        exact ⟨_, rfl, fed_callback delivered typed clear holds, (lone_callback delivered).aside⟩
    | around serial =>
        obtain ⟨around, rfl⟩ := started
        have still : Still world.rest (around.enter world).rest :=
          ⟨⟨rfl, rfl, rfl, rfl, List.prefix_rfl, id⟩, rfl, rfl, rfl, rfl, rfl⟩
        exact ⟨_, rfl, still.fed holds, still.toLone, id⟩
  refine ⟨?_, fed.typed, fun there none => ?_⟩
  · by_cases alone : pool.state.rest.bridge = none
    · rw [(fed.unattached alone).1]
      exact List.nil_prefix
    · exact ⟨_, fed.attached alone⟩
  · rw [← fed.attached there, none, List.append_nil]

/-- The condition leaves out no more than it has to: an end that comes while a payload waits is written
before it. -/
theorem early_end_overtakes {world : ShellWorld} {jump : StartedJump} {event : InputEvent}
    {later : List InputEvent} (holds : Fed world) (attached : world.rest.bridge = some jump)
    (waits : waiting world.rest = event :: later) (payload : event ≠ .eof) :
    ¬world.rest.eofReceived.stdin <+: world.rest.eofReceived.arrived := by
  have fed := holds.attached (by rw [attached]; exact Option.some_ne_none jump)
  unfold Shell.eofReceived
  dsimp only
  rw [attached]
  show ¬world.rest.stdin ++ [.eof] <+: world.rest.arrived ++ [.eof]
  rw [← fed, waits, List.append_assoc, List.prefix_append_right_inj]
  intro front
  exact payload (List.cons_prefix_cons.mp front).1.symm

/-! A session of alice on node-01. -/
open MandatoryCapture (configOne letsIn starting letsIn_given)
open ReplayTimes (answering answering_execs data_delivered)

def working (world : ShellWorld) : Bool :=
  !world.bridgeClosed && !world.recorder.closed && world.faults.write.isNone && world.rest.stdinFault.isNone

theorem working_works {world : ShellWorld} (check : working world = true) : Works world := by
  simp only [working, Bool.and_eq_true, Bool.not_eq_true', Option.isNone_iff_eq_none] at check
  obtain ⟨⟨⟨bridge, recorder⟩, storage⟩, process⟩ := check
  exact ⟨⟨bridge, recorder, storage⟩, process⟩

/-- The task is the first of the input tasks that have not begun. -/
def firstInLine (number : Nat) (world : ShellWorld) : Bool :=
  ((List.range number).all fun earlier => match world.rest.created[earlier]? with
    | some (.sendUserInput ..) => decide (earlier ∈ world.rest.begun)
    | _ => true) && decide (number ∉ world.rest.cancelled) && working world

theorem firstInLine_turn {number : Nat} {world : ShellWorld} (check : firstInLine number world = true) :
    InputTurn number world := by
  simp only [firstInLine, Bool.and_eq_true, decide_eq_true_eq] at check
  obtain ⟨⟨all, live⟩, works⟩ := check
  refine fun _ _ => ⟨?_, live, working_works works⟩
  rintro earlier less seconds ⟨jump, payload, there⟩
  have begun := List.all_eq_true.mp all earlier (List.mem_range.mpr less)
  rw [there] at begun
  exact of_decide_eq_true begun

def startingWell (call : SessionCall) (world : ShellWorld) : Bool := starting call world && working world

theorem letsIn_orderly {number : Nat} (call : SessionCall) (world : ShellWorld)
    (permitted : startingWell call world = true) :
    orderlyWorld number call (letsIn call world).1 world (letsIn call world).2 := by
  obtain ⟨may, works⟩ := Bool.and_eq_true_iff.mp permitted
  refine ⟨letsIn_given call world may, ?_⟩
  unfold MakesProcess
  split
  · exact working_works works
  · trivial

theorem eof_delivered {shell : Shell} (here : shell.lost = false) : Callback.eofReceived.Delivered shell :=
  ⟨here, fun _ impossible => by cases impossible⟩

/-- A task that was created is started. -/
theorem orderly_task {may : Callback → Shell → Prop} {world : ShellWorld} {number : Nat} (turns : Nat)
    (made : (world.rest.created[number]?).isSome) (line : firstInLine number world = true) :
    orderlyPrograms configOne may (.task number)
      (runTask configOne number turns ((world.rest.created[number]?).get made)) world :=
  ⟨⟨_, turns, (Option.some_get made).symm, rfl⟩, firstInLine_turn line⟩

/-- She types and ends her input at once, and the process is told of the end before it gets what she
typed. -/
theorem end_comes_first : ∃ pool,
    Reachable (loopWorld orderlyWorld) (orderlyPrograms configOne Typed) answering pool ∧
      pool.state.rest.bridge ≠ none ∧ waiting pool.state.rest = [] ∧
      pool.state.rest.arrived = [.data [120], .eof] ∧ pool.state.rest.stdin = [.eof, .data [120]] := by
  have fresh : Reachable (loopWorld orderlyWorld) (orderlyPrograms configOne Typed) answering
      ⟨fun _ => none, answering⟩ := .start
  have asked := fresh.spawn (.callback 0) _ rfl ⟨_, answering_execs, nofun, rfl⟩
  have started := asked.spawn (.task 0) _ rfl (orderly_task 0 rfl rfl)
  have attached := started.served letsIn startingWell (LoopKey.task 0) letsIn_orderly (by decide +kernel)
  have typed := attached.spawn (.callback 1) _ rfl
    ⟨_, data_delivered [120] (by decide +kernel), fun _ => by decide +kernel, rfl⟩
  have ended := typed.spawn (.callback 2) _ rfl
    ⟨_, eof_delivered (by decide +kernel), fun _ => by decide +kernel, rfl⟩
  have entered := ended.spawn (.task 4) _ rfl (orderly_task 0 (by decide +kernel) (by decide +kernel))
  refine ⟨_, entered, ?_, by decide +kernel, by decide +kernel, by decide +kernel⟩
  rw [← Option.isSome_iff_ne_none]
  decide +kernel

/-- She types before there is a process and after, and ends her input when nothing waits. -/
theorem input_in_order_alice : ∃ pool,
    Reachable (loopWorld orderlyWorld) (orderlyPrograms configOne Clear) answering pool ∧
      pool.state.rest.stdin = [.data [120], .data [121], .data [122], .eof] ∧
      pool.state.rest.stdin <+: pool.state.rest.arrived := by
  have fresh : Reachable (loopWorld orderlyWorld) (orderlyPrograms configOne Clear) answering
      ⟨fun _ => none, answering⟩ := .start
  have asked := fresh.spawn (.callback 0) _ rfl ⟨_, answering_execs, ⟨nofun, nofun⟩, rfl⟩
  have early := asked.spawn (.callback 1) _ rfl
    ⟨_, data_delivered [120] rfl, ⟨fun _ => by decide +kernel, nofun⟩, rfl⟩
  have started := early.spawn (.task 0) _ rfl (orderly_task 0 rfl rfl)
  have attached := started.served letsIn startingWell (LoopKey.task 0) letsIn_orderly (by decide +kernel)
  have one := attached.spawn (.callback 2) _ rfl
    ⟨_, data_delivered [121] (by decide +kernel), ⟨fun _ => by decide +kernel, nofun⟩, rfl⟩
  have two := one.spawn (.callback 3) _ rfl
    ⟨_, data_delivered [122] (by decide +kernel), ⟨fun _ => by decide +kernel, nofun⟩, rfl⟩
  have first := two.spawn (.task 4) _ rfl (orderly_task 0 (by decide +kernel) (by decide +kernel))
  have second := first.spawn (.task 5) _ rfl (orderly_task 0 (by decide +kernel) (by decide +kernel))
  have ended := second.spawn (.callback 4) _ rfl
    ⟨_, eof_delivered (by decide +kernel), ⟨fun _ => by decide +kernel, fun _ => by decide +kernel⟩, rfl⟩
  exact ⟨_, ended, by decide +kernel, (input_in_order ended).1⟩

end VibeConnect.InputOrder
