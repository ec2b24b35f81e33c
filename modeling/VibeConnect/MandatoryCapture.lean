import VibeConnect.JumpChecks
import VibeConnect.JumpRules
import VibeConnect.ShellRules

/-! Mandatory capture. Whatever is written to the process or to the user was recorded just before, in
the same order, and nothing is once the bridge is closed or the recording is over. One change of the
world is looked at after the other, not only the states in which the tasks wait. -/
namespace VibeConnect.MandatoryCapture
open Python.Text Python.Values Python.Coroutine Python.Tasks Models JumpCoordinator Replay JumpBridge
open JumpRuns ShellSession ShellRules

/-! What a payload is recorded as. -/
def inputText : InputEvent → Option Str
  | .data payload => some (decodeEscaped payload)
  | .eof => none

def outputText : ChannelCall → Option Str
  | .write _ payload => some (decodeEscaped payload)
  | _ => none

/-- The input that was forwarded to the process. -/
def fed (shell : Shell) : List Str := shell.stdin.filterMap inputText

/-- The output that was forwarded to the user. -/
def shown (shell : Shell) : List Str := shell.channel.filterMap outputText

/-- What one direction of the recording holds. -/
def recordedOn (stream : String) (world : ShellWorld) : List Str :=
  (world.recorded.filter (·.stream = lit stream)).map (·.data)

/-- The bridge is closed, or the recorder was closed or has failed. -/
def Stopped (world : ShellWorld) : Prop := world.bridgeClosed = true ∨ world.recorder.closed = true

/-- One direction over one change: nothing new is forwarded, or one payload that is in the recording
already, by a bridge that is open and a recorder that works. -/
def Relays (stream : String) (forwarded : Shell → List Str) (before after : ShellWorld) : Prop :=
  forwarded after.rest = forwarded before.rest ∨
    ∃ text, forwarded after.rest = forwarded before.rest ++ [text] ∧
      (forwarded after.rest).Sublist (recordedOn stream before) ∧ ¬Stopped before

/-- What no task takes back. -/
structure Onward (before after : ShellWorld) : Prop where
  grows : before.recorded <+: after.recorded
  stays : Stopped before → Stopped after
  created : before.rest.created <+: after.rest.created
  attached : before.rest.bridge.isSome → after.rest.bridge.isSome

/-- What one change of the world may do. -/
structure Forwards (before after : ShellWorld) : Prop where
  input : Relays "i" fed before after
  output : Relays "o" shown before after
  onward : Onward before after

/-- What holds while the tasks wait. -/
structure Captured (world : ShellWorld) : Prop where
  input : (fed world.rest).Sublist (recordedOn "i" world)
  output : (shown world.rest).Sublist (recordedOn "o" world)
  pumps : ∀ stream, .pumpOutput stream ∈ world.rest.created → world.rest.bridge.isSome

theorem Onward.refl (world : ShellWorld) : Onward world world :=
  ⟨List.prefix_rfl, id, List.prefix_rfl, id⟩

theorem Onward.trans {one two three : ShellWorld} (first : Onward one two) (second : Onward two three) :
    Onward one three where
  grows := first.grows.trans second.grows
  stays := second.stays ∘ first.stays
  created := first.created.trans second.created
  attached := second.attached ∘ first.attached

section Changes
variable {before after world : ShellWorld}

theorem recordedOn_grows {stream : String} (grows : before.recorded <+: after.recorded) :
    recordedOn stream before <+: recordedOn stream after := by
  obtain ⟨more, same⟩ := grows
  unfold recordedOn
  rw [← same, List.filter_append, List.map_append]
  exact List.prefix_append _ _

/-- What was captured before a change is so after it. -/
theorem Relays.sublist {stream : String} {forwarded : Shell → List Str}
    (relays : Relays stream forwarded before after) (grows : before.recorded <+: after.recorded)
    (holds : (forwarded before.rest).Sublist (recordedOn stream before)) :
    (forwarded after.rest).Sublist (recordedOn stream after) := by
  have longer : (recordedOn stream before).Sublist (recordedOn stream after) :=
    (recordedOn_grows grows).sublist
  rcases relays with same | ⟨_, -, captured, -⟩
  · rw [same]
    exact holds.trans longer
  · exact captured.trans longer

/-- A change of the session that forwards nothing. A pump is created on a bridge. -/
structure Still (before after : Shell) : Prop where
  input : fed after = fed before
  output : shown after = shown before
  created : before.created <+: after.created
  attached : before.bridge.isSome → after.bridge.isSome
  pumps : ∀ stream, .pumpOutput stream ∈ after.created →
    .pumpOutput stream ∈ before.created ∨ after.bridge.isSome

/-- A change of the world that forwards nothing. -/
structure Quiet (before after : ShellWorld) : Prop where
  still : Still before.rest after.rest
  grows : before.recorded <+: after.recorded
  stays : Stopped before → Stopped after

theorem Still.refl (shell : Shell) : Still shell shell :=
  ⟨rfl, rfl, List.prefix_rfl, id, fun _ => .inl⟩

theorem Still.trans {one two three : Shell} (first : Still one two) (second : Still two three) :
    Still one three where
  input := second.input.trans first.input
  output := second.output.trans first.output
  created := first.created.trans second.created
  attached := second.attached ∘ first.attached
  pumps stream member := by
    rcases second.pumps stream member with earlier | attached
    · exact (first.pumps stream earlier).imp_right second.attached
    · exact .inr attached

theorem Quiet.forwards (quiet : Quiet before after) : Forwards before after where
  input := .inl quiet.still.input
  output := .inl quiet.still.output
  onward := ⟨quiet.grows, quiet.stays, quiet.still.created, quiet.still.attached⟩

theorem Quiet.captured (quiet : Quiet before after) (holds : Captured before) : Captured after where
  input := quiet.forwards.input.sublist quiet.grows holds.input
  output := quiet.forwards.output.sublist quiet.grows holds.output
  pumps stream member := by
    rcases quiet.still.pumps stream member with earlier | attached
    · exact quiet.still.attached (holds.pumps stream earlier)
    · exact attached

/-- A change of the session alone. -/
theorem Still.quiet {change : Shell → Shell} (still : Still world.rest (change world.rest)) :
    Quiet world { world with rest := change world.rest } := ⟨still, List.prefix_rfl, id⟩

/-- The bridge and the recorder go on, with the same session on top. -/
theorem quiet_continues (continues : Continues before after) (grows : before.recorded <+: after.recorded)
    (still : Still before.rest after.rest) : Quiet before after where
  still := still
  grows := grows
  stays stopped := by
    rcases stopped with closed | failed
    · exact .inl (continues.closed closed).1
    · refine .inr ?_
      rw [continues.recorder.closed failed]
      exact failed
end Changes

/-! What the session changes by itself. -/
section Session
variable {shell : Shell} {config : ShellConfig}

theorem still_createPump {body : TaskBody} (fine : ∀ stream, body = .pumpOutput stream → shell.bridge.isSome) :
    Still shell (shell.createPump body) where
  input := rfl
  output := rfl
  created := List.prefix_append _ _
  attached := id
  pumps stream member := by
    rcases List.mem_append.mp member with earlier | new
    · exact .inl earlier
    · exact .inr (fine stream (List.mem_singleton.mp new).symm)

theorem still_create {body : TaskBody} (other : ∀ stream, body ≠ .pumpOutput stream) :
    Still shell (shell.createPump body) :=
  still_createPump fun stream same => absurd same (other stream)

theorem still_exit (status : Int) : Still shell (shell.exitChannel config status) := by
  unfold Shell.exitChannel
  split
  · refine ⟨rfl, ?_, List.prefix_rfl, id, fun _ => .inl⟩
    simp [shown, outputText]
  · exact .refl shell

theorem still_fed : Still shell { shell with stdin := shell.stdin ++ [InputEvent.eof] } := by
  refine ⟨?_, rfl, List.prefix_rfl, id, fun _ => .inl⟩
  simp [fed, inputText]

theorem Still.of_unseen {before after : Shell} (unseen : Unseen before after) : Still before after := by
  refine ⟨?_, ?_, ?_, ?_, ?_⟩
  · rw [fed, unseen.stdin, fed]
  · rw [shown, unseen.channel, shown]
  · rw [unseen.created]
  · rw [unseen.bridge]
    exact id
  · rw [unseen.created]
    exact fun _ => .inl

theorem still_fits (body : TaskBody) (fits : Fits shell body) : Still shell (shell.createPump body) := by
  apply still_createPump
  rintro stream rfl
  exact fits

theorem still_takes (arrived : List InputEvent) (pendingInput : List Bytes) (pendingEof : Bool) :
    Still shell { shell with arrived := arrived, pendingInput := pendingInput, pendingEof := pendingEof } :=
  ⟨rfl, rfl, List.prefix_rfl, id, fun _ => .inl⟩

theorem still_cancels {taskFailed lost : Bool} {cancelled : List Nat} : Still shell { shell with
    taskFailed := taskFailed, lost := lost, cancelled := cancelled } :=
  ⟨rfl, rfl, List.prefix_rfl, id, fun _ => .inl⟩

theorem still_flushed : Still shell shell.flushed :=
  flushed_moves (fun _ _ _ => .trans) (fun _ => still_takes) fun _ => still_fed

theorem still_taskDone (number : Nat) : Still shell (shell.taskDone config number) :=
  taskDone_moves (fun _ _ _ => .trans) (fun _ _ => .of_unseen) (fun _ => still_fits)
    (fun _ _ _ => still_cancels) (fun _ => still_exit 1) number

theorem still_callback {callback : Callback} (delivered : callback.Delivered shell) :
    Still shell (callback.apply shell) :=
  callback_moves (fun _ _ _ => .trans) (fun _ _ => .of_unseen) (fun _ => still_fits)
    (fun _ _ _ => still_cancels) (fun _ => still_takes) (fun _ => still_fed) (fun _ _ _ _ => still_create nofun) delivered
end Session

/-! What the answers of a call change. -/
section Answers
variable {before after world : ShellWorld}

theorem Quiet.refl (world : ShellWorld) : Quiet world world := ⟨.refl _, List.prefix_rfl, id⟩

theorem quiet_closeRow (request : CloseRow) : Quiet world (world.closeRow request) := by
  rw [JumpWorld.closeRow_same]
  exact ⟨.refl _, List.prefix_rfl, id⟩

theorem quiet_onRecorder {α : Type} {block : ReplayFaults → ReplayRecorder → Except Exc α × ReplayRecorder}
    (kept : world.recorder.Continues (block world.faults world.recorder).2) :
    Quiet world (onRecorder block world).2 :=
  quiet_continues (continues_onRecorder kept) List.prefix_rfl (.refl _)

theorem quiet_answer {number : Nat} {call : SessionCall} {answer : Except Exc (SessionResult call)}
    (given : shellWorld number call answer before after) : Quiet before after :=
  answer_moves Quiet.refl (fun _ _ unseen => ⟨.of_unseen unseen, List.prefix_rfl, id⟩)
    (fun _ => quiet_closeRow) (fun _ => quiet_onRecorder ReplayRecorder.fail_continues)
    (fun _ _ => ⟨⟨rfl, rfl, List.prefix_rfl, id, fun _ => .inl⟩, List.prefix_rfl, id⟩) given

theorem quiet_beginClose (status : SessionStatus) (now : DateTime) :
    Quiet world (JumpPtyBridge.beginClose status now world).2 := by
  have same : (JumpPtyBridge.beginClose status now world).2.recorded = world.recorded ∧
      (JumpPtyBridge.beginClose status now world).2.rest = world.rest := by
    rcases beginClose_cases status now world with ⟨-, closing⟩ | ⟨-, closing⟩ <;> rw [closing] <;>
      exact ⟨rfl, rfl⟩
  apply quiet_continues (continues_beginClose status now)
  · rw [same.1]
  · rw [same.2]
    exact .refl _
end Answers

/-! The programs of the tasks. What a task knows besides stays true whatever the others do. -/
section Programs
variable {number : Nat} {known : ShellWorld → Prop} {config : ShellConfig} {state : ShellWorld}

/-- A program that forwards nothing but what was recorded, from any state in which the tasks wait. -/
abbrev Runs (number : Nat) {α : Type} (program : ShellTask α) (post : Except Exc α → ShellWorld → Prop)
    (state : ShellWorld) : Prop :=
  program.wp (answered (shellWorld number) Captured Onward) (obliged Captured Forwards) post state

def Keeps (number : Nat) (known : ShellWorld → Prop) (α : Type) (program : ShellTask α) : Prop :=
  ∀ state, Captured state ∧ known state →
    Runs number program (fun _ after => Captured after ∧ known after) state

theorem keeps_composes : Coro.Composes (Keeps number known) := Coro.wp_composes _ _ _

variable (stable : ∀ before after, Onward before after → known before → known after)
include stable

theorem quiet_kept {before after : ShellWorld} (quiet : Quiet before after)
    (holds : Captured before ∧ known before) : Captured after ∧ known after :=
  ⟨quiet.captured holds.1, stable _ _ quiet.forwards.onward holds.2⟩

theorem keeps_waitFor (call : SessionCall) : Keeps number known _ (waitFor call) := by
  rintro state ⟨holds, knows⟩
  apply call_safe holds
  intro answer resumed after relied still given
  exact quiet_kept stable (quiet_answer given) ⟨still, stable _ _ relied knows⟩

omit stable in
theorem keeps_look : Keeps number known _ look := fun _ holds => look_safe holds

theorem keeps_update {change : ShellWorld → ShellWorld}
    (quiet : ∀ world, known world → Quiet world (change world)) :
    Keeps number known _ (update change) := by
  rintro state ⟨holds, knows⟩
  have moved := quiet state knows
  exact update_safe moved.forwards (quiet_kept stable moved ⟨holds, knows⟩)

theorem keeps_change {α : Type} {block : ShellWorld → Except Exc α × ShellWorld}
    (quiet : ∀ world, Quiet world (block world).2) : Keeps number known _ (change block) := by
  intro state holds
  exact change_safe (quiet state).forwards (quiet_kept stable (quiet state) holds)

theorem keeps_onShell {change : Shell → Shell}
    (still : ∀ world, known world → Still world.rest (change world.rest)) :
    Keeps number known _ (onShell change) :=
  keeps_update stable fun world knows => (still world knows).quiet

/-! What is forwarded was recorded by the change before. -/

/-- A payload was recorded, and it has not been forwarded yet. -/
structure Ready (stream : String) (forwarded : Shell → List Str) (payload : Bytes) (world : ShellWorld) :
    Prop where
  captured : Captured world
  running : ¬Stopped world
  recorded : (forwarded world.rest ++ [decodeEscaped payload]).Sublist (recordedOn stream world)

/-- A checked record, and then what the caller does with it. -/
theorem recorded_runs {α : Type} {seconds : Int} {stream : String} {forwarded : Shell → List Str}
    {payload : Bytes} {next : ShellTask α} {post : Except Exc α → ShellWorld → Prop}
    (holds : Captured state ∧ known state)
    (captured : (forwarded state.rest).Sublist (recordedOn stream state))
    (fails : ∀ fault world, Captured world ∧ known world → post (.error fault) world)
    (goes : ∀ world, Ready stream forwarded payload world → known world → Runs number next post world) :
    Runs number (do
      let world ← look
      Coro.ofAnswer (JumpPtyBridge.ensureOpen world)
      change (JumpPtyBridge.recordEvent seconds stream payload)
      next) post state := by
  refine Coro.wp_bind (look_safe (Coro.wp_bind (Coro.wp_ofAnswer ?_)))
  unfold JumpPtyBridge.ensureOpen
  cases was : state.bridgeClosed with
  | true => exact fails _ _ holds
  | false =>
      have continues := continues_recordEvent seconds stream payload was
      refine Coro.wp_bind ?_
      rcases recordEvent_cases seconds stream payload state with
        ⟨running, -, done⟩ | ⟨fault, recorder, raised, -⟩
      · rw [done] at continues
        have quiet := quiet_continues continues (List.prefix_append _ _) (.refl _)
        refine change_safe (by rw [done]; exact quiet.forwards) ?_
        rw [done]
        refine goes _ ⟨quiet.captured holds.1, ?_, ?_⟩ (stable _ _ quiet.forwards.onward holds.2)
        · rintro (closed | failed)
          · exact Bool.false_ne_true (was.symm.trans closed)
          · exact Bool.false_ne_true (running.symm.trans failed)
        · simpa [recordedOn] using captured
      · rw [raised] at continues
        have quiet := quiet_continues continues List.prefix_rfl (.refl _)
        refine change_safe (by rw [raised]; exact quiet.forwards) ?_
        rw [raised]
        exact fails _ _ (quiet_kept stable quiet holds)

omit stable in
/-- A payload that is ready is forwarded, or the write raises. -/
theorem writeStdin_forwards {payload : Bytes} {world : ShellWorld} (ready : Ready "i" fed payload world) :
    Forwards world (onRest (Shell.writeStdin payload) world).2 ∧
      Captured (onRest (Shell.writeStdin payload) world).2 := by
  have moved : Forwards world (onRest (Shell.writeStdin payload) world).2 := by
    unfold onRest Shell.writeStdin
    split
    · exact (Quiet.refl world).forwards
    · have longer : fed { world.rest with stdin := world.rest.stdin ++ [InputEvent.data payload] } =
          fed world.rest ++ [decodeEscaped payload] := by simp [fed, inputText]
      refine ⟨.inr ⟨_, longer, longer ▸ ready.recorded, ready.running⟩, .inl rfl, ?_⟩
      exact ⟨List.prefix_rfl, id, List.prefix_rfl, id⟩
  refine ⟨moved, moved.input.sublist moved.onward.grows ready.captured.input,
    moved.output.sublist moved.onward.grows ready.captured.output, ?_⟩
  unfold onRest Shell.writeStdin
  split <;> exact ready.captured.pumps

omit stable in
theorem writeChannel_forwards {origin : OutputStream} {payload : Bytes} {world : ShellWorld}
    (ready : Ready "o" shown payload world) :
    Forwards world (onRest (Shell.writeChannel origin payload) world).2 ∧
      Captured (onRest (Shell.writeChannel origin payload) world).2 := by
  have moved : Forwards world (onRest (Shell.writeChannel origin payload) world).2 := by
    unfold onRest Shell.writeChannel
    split
    · exact (Quiet.refl world).forwards
    · have longer : shown { world.rest with channel := world.rest.channel ++ [.write origin payload] } =
          shown world.rest ++ [decodeEscaped payload] := by simp [shown, outputText]
      refine ⟨.inl rfl, .inr ⟨_, longer, longer ▸ ready.recorded, ready.running⟩, ?_⟩
      exact ⟨List.prefix_rfl, id, List.prefix_rfl, id⟩
  refine ⟨moved, moved.input.sublist moved.onward.grows ready.captured.input,
    moved.output.sublist moved.onward.grows ready.captured.output, ?_⟩
  unfold onRest Shell.writeChannel
  split <;> exact ready.captured.pumps

theorem keeps_sendUserInput {jump : StartedJump} {seconds : Int} {payload : Bytes} :
    Keeps number known _ ((bridgeOf config jump).sendUserInput seconds payload) := by
  intro state holds
  apply recorded_runs stable holds holds.1.input
  · exact fun _ _ kept => kept
  intro world ready knows
  obtain ⟨moved, captured⟩ := writeStdin_forwards ready
  refine Coro.wp_bind (change_safe moved ?_)
  have kept := And.intro captured (stable _ _ moved.onward knows)
  cases (onRest ((bridgeOf config jump).tunnelChannel.sending
      (bridgeOf config jump).startedJump.channelId payload) world).1 with
  | error fault => exact kept
  | ok _ => exact kept

/-- The bridge is there, so the chunk is recorded before it is written. -/
theorem keeps_relayOutput (bridged : ∀ world, known world → world.rest.bridge.isSome)
    {stream : OutputStream} {chunk : Bytes} : Keeps number known _ (relayOutput config stream chunk) := by
  intro state holds
  refine Coro.wp_bind (look_safe ?_)
  obtain ⟨jump, attached⟩ := Option.isSome_iff_exists.mp (bridged state holds.2)
  dsimp only
  rw [attached]
  refine Coro.wp_bind (recorded_runs stable holds holds.1.output (fun _ _ kept => kept) ?_)
  intro world ready knows
  refine Coro.wp_onlyIf (fun _ => ?_) fun _ => ⟨ready.captured, knows⟩
  obtain ⟨moved, captured⟩ := @writeChannel_forwards stream _ _ ready
  exact change_safe moved ⟨captured, stable _ _ moved.onward knows⟩

theorem keeps_resizePty {jump : StartedJump} {width height : Int} :
    Keeps number known _ ((bridgeOf config jump).resizePty width height) := by
  apply resizePty_composes keeps_composes keeps_look
  apply keeps_change stable
  intro world
  show Quiet world (onRest Shell.changeTerminalSize world).2
  unfold onRest Shell.changeTerminalSize
  split <;> exact .refl world

theorem keeps_begins (status : SessionStatus) (now : DateTime) :
    Keeps number known _ (change (JumpPtyBridge.beginClose status now)) :=
  keeps_change stable fun _ => quiet_beginClose status now

theorem keeps_asks (channelId : TunnelState.ChannelId) :
    Keeps number known _ (update fun world : ShellWorld => { world with
      channelAsked := true, rest := nodeChannel.closing channelId world.rest }) :=
  keeps_update stable fun _ _ =>
    ⟨⟨rfl, rfl, List.prefix_rfl, id, fun _ => .inl⟩, List.prefix_rfl, id⟩

theorem keeps_noteCloser : Keeps number known _ (noteCloser number) :=
  keeps_onShell stable fun _ _ => ⟨rfl, rfl, List.prefix_rfl, id, fun _ => .inl⟩

theorem keeps_connectionLost {jump : StartedJump} {lost : Option Str} {now : DateTime} :
    Keeps number known _ ((bridgeOf config jump).connectionLost lost now) :=
  connectionLost_composes keeps_composes (keeps_waitFor stable) (keeps_asks stable) (keeps_begins stable)

theorem keeps_failStartedJump {error : Str} :
    Keeps number known _ (failStartedJump config number error) := by
  apply failStartedJump_composes keeps_composes (keeps_waitFor stable) (keeps_asks stable)
    (keeps_begins stable) keeps_look (keeps_noteCloser stable)
  exact keeps_change stable fun _ => quiet_onRecorder ReplayRecorder.fail_continues

theorem keeps_sendPending {jump : StartedJump} (pending : List Bytes) :
    Keeps number known _ (sendPending config jump pending) := by
  have composes : Coro.Composes (Keeps number known) := keeps_composes
  induction pending with
  | nil => exact composes.returns ()
  | cons payload rest ih =>
      apply composes.sequel keeps_look
      intro world
      exact composes.sequel (keeps_sendUserInput stable) fun _ => ih

theorem keeps_pumpOutput (bridged : ∀ world, known world → world.rest.bridge.isSome)
    {stream : OutputStream} (turns : Nat) : Keeps number known _ (pumpOutput config stream turns) := by
  have composes : Coro.Composes (Keeps number known) := keeps_composes
  induction turns with
  | zero => exact keeps_waitFor stable .never
  | succ turns ih =>
      apply composes.sequel (keeps_waitFor stable (.readOutput 32768))
      intro chunk
      split
      · exact composes.returns ()
      · exact composes.sequel (keeps_relayOutput stable bridged) fun _ => ih

theorem keeps_waitForProcess : Keeps number known _ (waitForProcess config number) :=
  waitForProcess_composes keeps_composes (keeps_waitFor stable) (keeps_asks stable) (keeps_begins stable)
    keeps_look (keeps_noteCloser stable) (keeps_onShell stable fun _ _ => still_exit 0)
end Programs

/-! The tasks as they are created. -/
section Starts
variable {number : Nat} {config : ShellConfig}

/-- Nothing besides. -/
def Anything (_ : ShellWorld) : Prop := True

def Bridged (world : ShellWorld) : Prop := world.rest.bridge.isSome

theorem stable_anything : ∀ before after, Onward before after → Anything before → Anything after :=
  fun _ _ _ _ => trivial

theorem stable_bridged : ∀ before after, Onward before after → Bridged before → Bridged after :=
  fun _ _ onward => onward.attached

/-- From the process on, the task has a bridge to create the pumps on. -/
theorem keeps_attach {jump : StartedJump} : Keeps number Anything _ (attach config jump) := by
  have composes : Coro.Composes (Keeps number Bridged) := keeps_composes
  rintro state ⟨holds, -⟩
  have moved : Quiet state { state with rest := { state.rest with bridge := some jump } } :=
    ⟨⟨rfl, rfl, List.prefix_rfl, fun _ => rfl, fun _ => .inl⟩, List.prefix_rfl, id⟩
  refine Coro.wp_bind (update_safe moved.forwards ?_)
  have rest : Keeps number Bridged _ (do
      flushPendingInput config jump
      onShell fun shell => ((shell.createPump (.pumpOutput .stdout)).createPump
        (.pumpOutput .stderr)).createPump .waitForProcess) := by
    apply composes.sequel
    · apply composes.sequel keeps_look
      intro world
      apply composes.sequel (keeps_sendPending stable_bridged _)
      exact fun _ => keeps_onShell stable_bridged fun _ _ => still_flushed
    · intro _
      apply keeps_onShell stable_bridged
      intro world bridged
      have first : Still world.rest (world.rest.createPump (.pumpOutput .stdout)) :=
        still_createPump fun _ _ => bridged
      have second : Still (world.rest.createPump (.pumpOutput .stdout)) _ :=
        @still_createPump _ (.pumpOutput .stderr) fun _ _ => bridged
      exact (first.trans second).trans (still_create fun _ impossible => nomatch impossible)
  refine Coro.wp_mono ?_ (rest _ ⟨moved.captured holds, rfl⟩)
  exact fun _ _ kept => ⟨kept.1, trivial⟩

theorem keeps_startExec {command : Str} : Keeps number Anything _ (startExec config number command) := by
  have composes : Coro.Composes (Keeps number Anything) := keeps_composes
  have exits : Keeps number Anything _ (onShell (Shell.exitChannel config 1)) :=
    keeps_onShell stable_anything fun _ _ => still_exit 1
  apply composes.handled
  · apply composes.sequel keeps_look
    intro world
    apply composes.sequel (JumpRules.startExec_composes composes fun call =>
      keeps_waitFor stable_anything (.jump call))
    intro jump
    apply composes.sequel
    · exact keeps_onShell stable_anything fun _ _ => ⟨rfl, rfl, List.prefix_rfl, id, fun _ => .inl⟩
    intro _
    exact composes.sequel (keeps_waitFor stable_anything (.createProcess _)) fun _ => keeps_attach
  · intro fault
    unfold execFault
    split
    · exact exits
    split
    · exact composes.sequel (keeps_failStartedJump stable_anything) fun _ => exits
    · exact composes.raises _

/-- A pump starts on a bridge. -/
theorem body_runs {state : ShellWorld} (turns : Nat) {body : TaskBody}
    (created : state.rest.created[number]? = some body) (holds : Captured state) :
    Runs number (body.program config number turns) (fun _ after => Captured after) state := by
  have forget : ∀ known : ShellWorld → Prop, known state →
      Keeps number known _ (body.program config number turns) →
      Runs number (body.program config number turns) (fun _ after => Captured after) state :=
    fun known knows keeps => Coro.wp_mono (fun _ _ kept => kept.1) (keeps state ⟨holds, knows⟩)
  cases body with
  | startExec command => exact forget Anything trivial keeps_startExec
  | sendUserInput jump seconds payload => exact forget Anything trivial (keeps_sendUserInput stable_anything)
  | resizePty jump width height => exact forget Anything trivial (keeps_resizePty stable_anything)
  | pumpOutput stream =>
      have bridged := holds.pumps stream (List.mem_of_getElem? created)
      exact forget Bridged bridged (keeps_pumpOutput stable_bridged (fun _ => id) turns)
  | waitForProcess => exact forget Anything trivial (keeps_waitForProcess stable_anything)
  | connectionLost jump lost now =>
      apply forget Anything trivial
      exact keeps_composes.sequel (keeps_noteCloser stable_anything) fun _ =>
        keeps_connectionLost stable_anything
  | failStartedJump error => exact forget Anything trivial (keeps_failStartedJump stable_anything)

theorem runTask_runs {state : ShellWorld} (turns : Nat) {body : TaskBody}
    (created : state.rest.created[number]? = some body) (holds : Captured state) :
    Runs number (runTask config number turns body) (fun _ after => Captured after) state := by
  have noted : ∀ world, ∀ change : Shell → Shell, Still world.rest (change world.rest) → Captured world →
      Runs number (onShell change) (fun _ after => Captured after) world :=
    fun world change still holds => update_safe still.quiet.forwards (still.quiet.captured holds)
  have begun : Still state.rest (state.rest.begin number) :=
    ⟨rfl, rfl, List.prefix_rfl, id, fun _ => .inl⟩
  refine Coro.wp_bind (update_safe begun.quiet.forwards (Coro.wp_bind (look_safe ?_)))
  have holds := begun.quiet.captured holds
  have finishes : ∀ world ended, Captured world →
      Runs number (onShell (Shell.finish number ended)) (fun _ after => Captured after) world :=
    fun world ended => noted world _ ⟨rfl, rfl, List.prefix_rfl, id, fun _ => .inl⟩
  dsimp only
  split
  · exact finishes _ _ holds
  · refine Coro.wp_bind (Coro.wp_outcome (Coro.wp_mono ?_ (body_runs turns created holds)))
    exact fun ended after kept => finishes after ended kept
end Starts

/-- The tasks and the callbacks share one contract. -/
def contract : Contract ShellWorld Exc Unit where
  rely := Onward
  guarantee := Forwards
  post := fun _ _ => True

/-- Whatever the loop starts is safe. -/
theorem starts_safe {config : ShellConfig} {key : LoopKey} {program : ShellTask Unit} {state : ShellWorld}
    (started : shellPrograms config key program state) (holds : Captured state) :
    Safe (loopWorld shellWorld key) Captured contract program state := by
  have changes : ∀ {world : World ShellWorld SessionResult Exc} {change : ShellWorld → ShellWorld},
      Quiet state (change state) → Safe world Captured contract (update change) state :=
    fun quiet => update_safe quiet.forwards ⟨quiet.captured holds, trivial⟩
  cases key with
  | task number =>
      obtain ⟨body, turns, created, rfl⟩ := started
      exact Coro.wp_mono (fun _ _ kept => ⟨kept, trivial⟩) (runTask_runs turns created holds)
  | ended number =>
      obtain ⟨-, rfl⟩ := started
      exact changes (still_taskDone number).quiet
  | callback serial =>
      obtain ⟨callback, delivered, rfl⟩ := started
      exact changes (still_callback delivered).quiet
  | around serial =>
      obtain ⟨around, rfl⟩ := started
      exact changes ⟨⟨rfl, rfl, List.prefix_rfl, id, fun _ => .inl⟩, List.prefix_rfl, id⟩

theorem loop_quiet {key : LoopKey} {call : SessionCall} {answer : Except Exc (SessionResult call)}
    {before after : ShellWorld} (given : loopWorld shellWorld key call answer before after) :
    Quiet before after := by
  cases key with
  | task number => exact quiet_answer given
  | _ => exact given.elim

/-- What holds of all the states of a run, one after the other. -/
structure Capture (past : List ShellWorld) : Prop where
  input : ∀ world ∈ past, (fed world.rest).Sublist (recordedOn "i" world)
  output : ∀ world ∈ past, (shown world.rest).Sublist (recordedOn "o" world)
  ahead : past.IsChain fun before after => Relays "i" fed before after ∧ Relays "o" shown before after
  stopped : past.Pairwise fun before after =>
    Stopped before → fed after.rest = fed before.rest ∧ shown after.rest = shown before.rest

/-- Once it is over, it stays over and nothing more is forwarded. -/
def Halts (before after : ShellWorld) : Prop :=
  Stopped before → Stopped after ∧ fed after.rest = fed before.rest ∧ shown after.rest = shown before.rest

theorem Halts.trans {one two three : ShellWorld} (first : Halts one two) (second : Halts two three) :
    Halts one three := by
  intro stopped
  obtain ⟨still, input, output⟩ := first stopped
  obtain ⟨last, inputLater, outputLater⟩ := second still
  exact ⟨last, inputLater.trans input, outputLater.trans output⟩

theorem Forwards.halts {before after : ShellWorld} (forwards : Forwards before after) :
    Halts before after := by
  intro stopped
  refine ⟨forwards.onward.stays stopped, ?_, ?_⟩
  · rcases forwards.input with same | ⟨_, -, -, running⟩
    · exact same
    · exact absurd stopped running
  · rcases forwards.output with same | ⟨_, -, -, running⟩
    · exact same
    · exact absurd stopped running

/-- A chain of changes captures everything from a captured state on. -/
theorem capture_of_chain {first : ShellWorld} {later : List ShellWorld}
    (chain : (first :: later).IsChain Forwards) (holds : Captured first) : Capture (first :: later) := by
  have each : ∀ world ∈ first :: later, (fed world.rest).Sublist (recordedOn "i" world) ∧
      (shown world.rest).Sublist (recordedOn "o" world) := by
    apply chain.induction
    · rintro before after forwards ⟨input, output⟩
      exact ⟨forwards.input.sublist forwards.onward.grows input,
        forwards.output.sublist forwards.onward.grows output⟩
    · rintro _
      exact ⟨holds.input, holds.output⟩
  have composes : Trans Halts Halts Halts := ⟨Halts.trans⟩
  have halts := (chain.imp fun _ _ => Forwards.halts).pairwise
  constructor
  · exact fun world member => (each world member).1
  · exact fun world member => (each world member).2
  · exact chain.imp fun _ _ forwards => ⟨forwards.input, forwards.output⟩
  · exact halts.imp fun halts stopped => (halts stopped).2

/-- In every run of a session, whatever is forwarded was recorded before, in the same order, and
nothing is forwarded once the bridge is closed or the recording has failed. -/
theorem session_captures {config : ShellConfig} {path : Str} {digest : List ReplayLine → Str}
    {replayAudited : Bool} {header : ReplayLine} {columns : RowColumns} {termSize : Int × Int}
    {now : DateTime} {content : OutputStream → Bytes} {past : List ShellWorld} {pool : ShellPool}
    (history : History (loopWorld shellWorld) (shellPrograms config)
      (newWorld path digest replayAudited header columns (Shell.new termSize now content)) past pool) :
    Capture past := by
  have initial : Captured (newWorld path digest replayAudited header columns
      (Shell.new termSize now content)) :=
    ⟨.refl _, .refl _, fun _ impossible => by cases impossible⟩
  have relied : ∀ before after, contract.guarantee before after → contract.rely before after :=
    fun _ _ forwards => forwards.onward
  have safe : pool.Safe (loopWorld shellWorld) Captured (fun _ => contract) ∧
      past.IsChain contract.guarantee ∧ past.getLast? = some pool.state :=
    history_safe Onward.refl (fun _ _ _ => Onward.trans) (fun _ _ _ _ _ => trivial) relied
      (fun _ _ _ _ _ given _ => (loop_quiet given).forwards) (fun _ _ _ => starts_safe) initial history
  obtain ⟨later, rfl⟩ := history.starts
  exact capture_of_chain safe.2.1 initial

/-! A session of alice on node-01, who types before the jump has started. -/
def configOne : ShellConfig := ⟨some ⟨lit "alice"⟩, ⟨3⟩, ⟨4⟩, true, true, true, true⟩

def columnsOne : RowColumns := ⟨none, lit "3.cast", none⟩

def worldOne : ShellWorld :=
  newWorld (lit "3.cast") (fun _ => lit "digest") false (.header (lit "node-01") 80 24 1) columnsOne
    (Shell.new (80, 24) ⟨1000000, some 0⟩ fun _ => [])

/-- The dependencies let the jump through, and the process starts. -/
def letsIn : (call : SessionCall) → ShellWorld → Except Exc (SessionResult call) × ShellWorld
  | .jump call, world => (JumpChecks.letsThrough call, match call with
      | .createSession _ => { world with rest := { world.rest with rowCreated := true } }
      | .startReplay _ => { world with rest := { world.rest with recorderStarted := true } }
      | .openSession _ => { world with rest := { world.rest with node := .opened } }
      | _ => world)
  | .readOutput _, world => (.ok [], world)
  | .closeRow _, world | .sendData .., world | .resizePty .., world | .channelClosed _, world
  | .writeAudit _, world | .createProcess _, world | .processClosed, world | .never, world =>
      (.ok (), world)

/-- The calls of a jump that goes well. -/
def starting : SessionCall → ShellWorld → Bool
  | .jump (.failSession ..), _ | .jump (.failReplay ..), _ => false
  | .jump _, _ | .createProcess _, _ => true
  | _, _ => false

theorem letsIn_given {number : Nat} (call : SessionCall) (world : ShellWorld)
    (permitted : starting call world = true) :
    shellWorld number call (letsIn call world).1 world (letsIn call world).2 := by
  cases call with
  | jump call =>
      cases call with
      | createSession request => exact .inl rfl
      | openSession request => exact .inl rfl
      | failSession sessionId endedAt => cases permitted
      | failReplay replay error now => cases permitted
      | _ => rfl
  | createProcess connection => rfl
  | _ => cases permitted

theorem session_captures_alice : ∃ past pool, History (loopWorld shellWorld) (shellPrograms configOne)
    worldOne past pool ∧ pool.state.rest.stdin = [.data [120]] ∧ Capture past := by
  have first : (Callback.execRequested (lit " node-01 ")).Delivered worldOne.rest :=
    ⟨rfl, fun _ _ _ member => by cases member⟩
  have second : (Callback.dataReceived [120]).Delivered (worldOne.rest.execRequested (lit " node-01 ")) :=
    ⟨rfl, fun _ impossible => by cases impossible⟩
  have given : ∀ call world, starting call world = true →
      loopWorld shellWorld (.task 0) call (letsIn call world).1 world (letsIn call world).2 := letsIn_given
  have fresh : Reachable (loopWorld shellWorld) (shellPrograms configOne) worldOne
      ⟨fun _ => none, worldOne⟩ := .start
  have asked := fresh.spawn (.callback 0) _ rfl ⟨_, first, rfl⟩
  have typed := asked.spawn (.callback 1) _ rfl ⟨_, second, rfl⟩
  have started := typed.spawn (.task 0) (runTask configOne 0 0 (.startExec (lit " node-01 "))) rfl
    ⟨_, 0, rfl, rfl⟩
  have served := started.served letsIn starting (LoopKey.task 0) given (by decide +kernel)
  obtain ⟨past, history⟩ := served.history
  exact ⟨past, _, history, by decide +kernel, session_captures history⟩

end VibeConnect.MandatoryCapture
