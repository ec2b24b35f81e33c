import VibeConnect.JumpRuns
import VibeConnect.ShellSession

/-! Rules for the programs of a session. What is true of the parts is true of a
close and of the failure handler, in whatever order a caller has put them; and what
the parts of a callback or of an answer do is what the callback or the answer does. -/
namespace VibeConnect.ShellRules
open Python.Text Python.Values Python.Coroutine Python.Tasks Models JumpCoordinator Replay JumpBridge
open ShellSession

section Closing
variable {holds : (α : Type) → ShellTask α → Prop} (composes : Coro.Composes holds)
  (waits : ∀ call, holds _ (waitFor call))
  (asking : ∀ channelId, holds _ (update fun world : ShellWorld => { world with
    channelAsked := true, rest := nodeChannel.closing channelId world.rest }))
  (begins : ∀ status now, holds _ (change (JumpPtyBridge.beginClose status now)))
  {config : ShellConfig} {jump : StartedJump}
include composes waits asking

theorem endSession_composes {status : SessionStatus} {now : DateTime} {error : Option Str}
    {result : Option ReplayCloseResult} :
    holds _ ((bridgeOf config jump).endSession status now error result) := by
  apply composes.sequel (composes.onlyIf (waits (.closeRow _)))
  intro _
  apply composes.sequel (composes.sequel (asking _) fun _ => waits (.channelClosed _))
  exact fun _ => composes.onlyIf (waits (.writeAudit _))

include begins

theorem close_composes {status : SessionStatus} {now : DateTime} {error : Option Str} :
    holds _ ((bridgeOf config jump).close status now error) := by
  apply composes.sequel (begins status now)
  rintro (none | result)
  · exact composes.returns ()
  · exact endSession_composes composes waits asking

theorem connectionLost_composes {lost : Option Str} {now : DateTime} :
    holds _ ((bridgeOf config jump).connectionLost lost now) := by
  unfold JumpPtyBridge.connectionLost
  split <;> exact close_composes composes waits asking begins

theorem failStartedJump_composes {number : Nat} {error : Str} (looks : holds _ look)
    (notes : holds _ (noteCloser number))
    (fails : holds _ (change (onRecorder fun faults recorder => recorder.fail faults))) :
    holds _ (failStartedJump config number error) := by
  apply composes.sequel looks
  intro world
  split
  · exact composes.returns ()
  split
  · exact composes.sequel notes fun _ => close_composes composes waits asking begins
  · apply composes.sequel fails
    intro _
    apply composes.sequel (composes.onlyIf (waits (.closeRow _)))
    exact fun _ => composes.onlyIf (waits (.writeAudit _))

theorem waitForProcess_composes {number : Nat} (looks : holds _ look) (notes : holds _ (noteCloser number))
    (exits : holds _ (onShell (Shell.exitChannel config 0))) : holds _ (waitForProcess config number) := by
  apply composes.sequel (waits .processClosed)
  intro _
  apply composes.sequel looks
  intro world
  dsimp only
  split
  · exact exits
  · apply composes.sequel notes
    exact fun _ => composes.sequel (connectionLost_composes composes waits asking begins) fun _ => exits
end Closing

theorem resizePty_composes {holds : (α : Type) → ShellTask α → Prop} (composes : Coro.Composes holds)
    {config : ShellConfig} {jump : StartedJump} {width height : Int} (looks : holds _ look)
    (resizes : holds _ (change (onRest Shell.changeTerminalSize))) :
    holds _ ((bridgeOf config jump).resizePty width height) := by
  apply composes.sequel looks
  intro world
  apply composes.sequel (composes.ofAnswer _)
  intro _
  split
  · exact composes.raises _
  · exact composes.sequel resizes fun _ => composes.returns ()

theorem pumpOutput_composes {holds : (α : Type) → ShellTask α → Prop} (composes : Coro.Composes holds)
    {config : ShellConfig} {stream : OutputStream} (looks : holds _ look)
    (waits : ∀ call, holds _ (waitFor call))
    (records : ∀ seconds payload, holds _ (change (JumpPtyBridge.recordEvent seconds "o" payload)))
    (writes : ∀ payload, holds _ (change (onRest (Shell.writeChannel stream payload)))) (turns : Nat) :
    holds _ (pumpOutput config stream turns) := by
  induction turns with
  | zero => exact waits .never
  | succ turns ih =>
      apply composes.sequel (waits (.readOutput 32768))
      intro chunk
      split
      · exact composes.returns ()
      have relays : holds _ (relayOutput config stream chunk) := by
        apply composes.sequel looks
        intro world
        dsimp only
        split
        · exact composes.onlyIf (writes chunk)
        · apply composes.sequel
          · apply composes.sequel looks
            intro _
            apply composes.sequel (composes.ofAnswer _)
            exact fun _ => composes.sequel (records _ _) fun _ => composes.returns _
          · exact fun payload => composes.onlyIf (writes payload)
      exact composes.sequel relays fun _ => ih

/-! What the session changes by itself. -/

/-- A change that reaches neither the process nor the user, and neither the input nor the tasks. -/
def Unseen (before after : Shell) : Prop := after = { before with
  termSize := after.termSize
  pumpTasks := after.pumpTasks
  processEnded := after.processEnded
  rowCreated := after.rowCreated
  recorderStarted := after.recorderStarted
  node := after.node
  closers := after.closers }

section Unseen
variable {before after : Shell}

theorem Unseen.refl (shell : Shell) : Unseen shell shell := rfl

theorem Unseen.stdin (unseen : Unseen before after) : after.stdin = before.stdin := by
  rw [show after = _ from unseen]

theorem Unseen.channel (unseen : Unseen before after) : after.channel = before.channel := by
  rw [show after = _ from unseen]

theorem Unseen.created (unseen : Unseen before after) : after.created = before.created := by
  rw [show after = _ from unseen]

theorem Unseen.bridge (unseen : Unseen before after) : after.bridge = before.bridge := by
  rw [show after = _ from unseen]

theorem Unseen.started (unseen : Unseen before after) : after.started = before.started := by
  rw [show after = _ from unseen]

theorem Unseen.now (unseen : Unseen before after) : after.now = before.now := by
  rw [show after = _ from unseen]

theorem Unseen.begun (unseen : Unseen before after) : after.begun = before.begun := by
  rw [show after = _ from unseen]

theorem Unseen.outcomes (unseen : Unseen before after) : after.outcomes = before.outcomes := by
  rw [show after = _ from unseen]

theorem Unseen.cancelled (unseen : Unseen before after) : after.cancelled = before.cancelled := by
  rw [show after = _ from unseen]

theorem Unseen.arrived (unseen : Unseen before after) : after.arrived = before.arrived := by
  rw [show after = _ from unseen]

theorem Unseen.pendingInput (unseen : Unseen before after) : after.pendingInput = before.pendingInput := by
  rw [show after = _ from unseen]

theorem Unseen.pendingEof (unseen : Unseen before after) : after.pendingEof = before.pendingEof := by
  rw [show after = _ from unseen]
end Unseen

/-- What is known of a session when it creates a task that is not for input. -/
def Fits (shell : Shell) : TaskBody → Prop
  | .startExec _ => ∀ other, .startExec other ∉ shell.created
  | .sendUserInput .. => False
  | .pumpOutput _ => shell.bridge.isSome
  | _ => True

/-- The callbacks that bring what the user types. -/
def BringsInput : Callback → Prop
  | .dataReceived _ | .eofReceived => True
  | _ => False

section Changes
variable {moves : Shell → Shell → Prop}
  (trans : ∀ one two three, moves one two → moves two three → moves one three)
  (unseen : ∀ before after, Unseen before after → moves before after)
  (creates : ∀ shell body, Fits shell body → moves shell (shell.createPump body))
  (cancels : ∀ (shell : Shell) taskFailed lost, moves shell { shell with
    taskFailed := taskFailed, lost := lost, cancelled := shell.cancelled ++ shell.pumpTasks })
  (takes : ∀ (shell : Shell) arrived pendingInput pendingEof, moves shell { shell with
    arrived := arrived, pendingInput := pendingInput, pendingEof := pendingEof })
  (feeds : ∀ shell : Shell, moves shell { shell with stdin := shell.stdin ++ [InputEvent.eof] })
  (inputs : ∀ (shell : Shell) jump payload, shell.bridge = some jump →
    moves shell (shell.createPump (.sendUserInput jump shell.elapsedSeconds payload)))
  {shell : Shell} {config : ShellConfig} {callback : Callback}

section Others
include trans unseen creates cancels

theorem pumpDone_moves (exits : ∀ shell : Shell, moves shell (shell.exitChannel config 1)) (number : Nat) :
    moves shell (shell.pumpDone config number) := by
  unfold Shell.pumpDone
  dsimp only
  have forgotten : moves shell { shell with pumpTasks := shell.pumpTasks.erase number } :=
    unseen _ _ rfl
  split
  · exact forgotten
  · exact forgotten
  · exact forgotten
  split
  · exact forgotten
  · refine trans _ _ _ ?_ (exits _)
    refine trans _ _ _ (trans _ _ _ forgotten ?_) (creates _ (.failStartedJump _) trivial)
    exact cancels _ true shell.lost

theorem taskDone_moves (exits : ∀ shell : Shell, moves shell (shell.exitChannel config 1)) (number : Nat) :
    moves shell (shell.taskDone config number) := by
  unfold Shell.taskDone
  split
  · exact unseen _ _ rfl
  · exact pumpDone_moves trans unseen creates cancels exits number

theorem otherCallback_moves (delivered : callback.Delivered shell) (other : ¬BringsInput callback) :
    moves shell (callback.apply shell) := by
  cases callback with
  | ptyRequested width height => exact unseen _ _ rfl
  | execRequested command => exact creates _ _ (delivered.2 command rfl)
  | dataReceived payload => exact absurd trivial other
  | eofReceived => exact absurd trivial other
  | terminalSizeChanged width height =>
      show moves shell (shell.terminalSizeChanged width height)
      unfold Shell.terminalSizeChanged
      dsimp only
      split
      · exact unseen _ _ rfl
      · refine trans _ _ _ (unseen _ _ ?_) (creates _ (.resizePty _ width height) trivial)
        rfl
  | connectionLost lost =>
      show moves shell (shell.connectionLost lost)
      unfold Shell.connectionLost
      dsimp only
      split
      · exact cancels shell shell.taskFailed true
      · exact trans _ _ _ (cancels shell shell.taskFailed true) (creates _ (.connectionLost _ lost _) trivial)
end Others

include trans takes feeds

theorem flushed_moves : moves shell shell.flushed := by
  unfold Shell.flushed
  split
  · exact trans _ _ _ (takes shell shell.arrived [] false) (feeds _)
  · exact takes shell shell.arrived [] shell.pendingEof

include unseen creates cancels inputs

/-- A callback that is delivered. -/
theorem callback_moves (delivered : callback.Delivered shell) : moves shell (callback.apply shell) := by
  cases callback with
  | dataReceived payload =>
      show moves shell (shell.dataReceived payload)
      have arrives := takes shell (shell.arrived ++ [.data payload])
      unfold Shell.dataReceived
      dsimp only
      split
      · exact arrives _ _
      · rename_i jump attached
        exact trans _ _ _ (arrives shell.pendingInput shell.pendingEof) (inputs _ jump payload attached)
  | eofReceived =>
      show moves shell shell.eofReceived
      have arrives := takes shell (shell.arrived ++ [.eof])
      unfold Shell.eofReceived
      dsimp only
      split
      · exact arrives _ _
      · exact trans _ _ _ (arrives shell.pendingInput shell.pendingEof) (feeds _)
  | _ => exact otherCallback_moves trans unseen creates cancels delivered id
end Changes

/-! What an answer changes. -/
section Answers
variable {moves : ShellWorld → ShellWorld → Prop} (still : ∀ world, moves world world)
  (rests : ∀ (world : ShellWorld) rest, Unseen world.rest rest → moves world { world with rest := rest })
  (closes : ∀ (world : ShellWorld) request, moves world (world.closeRow request))
  (fails : ∀ world : ShellWorld,
    moves world (onRecorder (fun faults recorder => recorder.fail faults) world).2)
  {before after : ShellWorld}
include still rests closes fails

theorem jumpAnswer_moves {call : JumpCall} {answer : Except Exc (JumpResult call)}
    (given : JumpAnswers call answer before after) : moves before after := by
  cases call with
  | createSession request =>
      rcases given with same | ⟨-, same⟩
      · rw [same]
        exact rests _ _ rfl
      · rw [same]
        exact still before
  | failSession sessionId endedAt =>
      rcases given with same | ⟨-, same⟩
      · rw [same]
        exact closes _ _
      · rw [same]
        exact still before
  | startReplay request =>
      cases answer with
      | ok replay =>
          rw [show after = _ from given]
          exact rests _ _ rfl
      | error fault =>
          rw [show after = before from given]
          exact still before
  | failReplay replay error now =>
      rw [(Prod.mk.inj (show (answer, after) = _ from given)).2]
      exact fails _
  | openSession request =>
      rcases given with same | ⟨-, same⟩
      · rw [same]
        exact rests _ _ rfl
      · rw [same]
        exact still before
  | _ =>
      rw [show after = before from given]
      exact still before

theorem answer_moves (reads : ∀ (world : ShellWorld) read, moves world { world with
      rest := { world.rest with read := read } }) {number : Nat} {call : SessionCall}
    {answer : Except Exc (SessionResult call)} (given : shellWorld number call answer before after) :
    moves before after := by
  cases call with
  | jump call => exact jumpAnswer_moves still rests closes fails given
  | closeRow request =>
      rcases given with same | ⟨-, same⟩
      · rw [same]
        exact closes _ request
      · rw [same]
        exact still before
  | readOutput count =>
      cases answer with
      | ok chunk =>
          obtain ⟨stream, -, -, -, -, same⟩ := given
          rw [same]
          exact reads _ _
      | error fault =>
          rw [show after = before from given]
          exact still before
  | processClosed =>
      cases answer with
      | ok _ =>
          rw [show after = _ from given]
          exact rests _ _ rfl
      | error fault =>
          rw [show after = before from given]
          exact still before
  | never =>
      cases answer with
      | ok _ => exact given.elim
      | error fault =>
          rw [show after = before from given]
          exact still before
  | _ =>
      rw [show after = before from given]
      exact still before
end Answers

end VibeConnect.ShellRules
