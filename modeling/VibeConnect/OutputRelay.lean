import VibeConnect.InputOrder

/-! The relay of the output. Two pumps read what the process writes, record it and write it to the
user's channel. A third task waits for the process, closes the bridge and ends the channel. All the
output comes through as long as that task goes on only when both streams have been read. -/
namespace VibeConnect.OutputRelay
open Python.Text Python.Values Python.Coroutine Python.Tasks Models JumpCoordinator Replay JumpBridge
open JumpRuns ShellSession ShellRules SessionRuns
open MandatoryCapture (recordedOn shown outputText)
open InputOrder (Works Feeds attachedTo withPumps lone_withPumps attach_feeds sendUserInput_feeds)

def bytesOf (stream : OutputStream) : ChannelCall → Bytes
  | .write origin payload => if origin = stream then payload else []
  | _ => []

/-- What one stream has brought to the user's channel. -/
def written (stream : OutputStream) (channel : List ChannelCall) : Bytes := channel.flatMap (bytesOf stream)

def IsWrite : ChannelCall → Prop
  | .write .. => True
  | _ => False

def Exited (channel : List ChannelCall) : Prop := ∃ status, ChannelCall.exit status ∈ channel

/-- Writes come first, and then at most one exit. -/
def ExitsLast (channel : List ChannelCall) : Prop :=
  ∃ writes, (∀ call ∈ writes, IsWrite call) ∧
    (channel = writes ∨ ∃ status, channel = writes ++ [.exit status, .close])

/-- All that the process writes has been read. -/
def Drained (shell : Shell) : Prop := ∀ stream, shell.read stream = shell.content stream

/-! The runs. -/

/-- The user stays connected. -/
def relayPrograms (config : ShellConfig) (may : Nat → ShellWorld → Prop) (key : LoopKey)
    (program : ShellTask Unit) (world : ShellWorld) : Prop :=
  match key with
  | .task number => shellPrograms config (.task number) program world ∧ may number world
  | .callback _ => ∃ callback : Callback, callback.Delivered world.rest ∧
      (∀ lost, callback ≠ .connectionLost lost) ∧ program = onShell callback.apply
  | key => shellPrograms config key program world

/-- The process is read to its end unless the task was cancelled, an open bridge can record what is read,
and the user's channel takes it. -/
def Normal (number : Nat) : (call : SessionCall) → Except Exc (SessionResult call) → ShellWorld → Prop
  | .readOutput _, .ok (_ :: _), world =>
      (world.bridgeClosed = false → world.recorder.closed = false ∧ world.faults.write = none) ∧
        world.rest.channelFault = none
  | .readOutput _, .error fault, world => fault = .cancelledError ∧ number ∈ world.rest.cancelled
  | .processClosed, .error fault, world => fault = .cancelledError ∧ number ∈ world.rest.cancelled
  | .never, .error fault, world => fault = .cancelledError ∧ number ∈ world.rest.cancelled
  | .createProcess _, .ok _, world => Works world
  | _, _, _ => True

def relayWorld (number : Nat) : World ShellWorld SessionResult Exc := fun call answer before after =>
  shellWorld number call answer before after ∧ Normal number call answer before

/-- The waiter goes on when all the output has been read. -/
def WaitsForOutput : (call : SessionCall) → Except Exc (SessionResult call) → ShellWorld → Prop
  | .processClosed, .ok _, world => Drained world.rest
  | _, _, _ => True

def patientWorld (number : Nat) : World ShellWorld SessionResult Exc := fun call answer before after =>
  relayWorld number call answer before after ∧ WaitsForOutput call answer before

def TakesWell (world : ShellWorld) : TaskBody → Prop
  | .sendUserInput .. => Works world
  | .resizePty _ width height =>
      world.bridgeClosed = false ∧ 0 < width ∧ 0 < height ∧ world.rest.resizeFault = none
  | _ => True

/-- Input and a new size find an open bridge, and a process that takes them. -/
def BeginsWell (number : Nat) (world : ShellWorld) : Prop :=
  ∀ body, world.rest.created[number]? = some body → TakesWell world body

/-! What the runs keep. -/

def IsWaiter (shell : Shell) (number : Nat) : Prop := shell.created[number]? = some TaskBody.waitForProcess

/-- The task that ends the session: the one that starts the jump, or the waiter once there is a bridge. -/
structure IsLast (shell : Shell) (number : Nat) : Prop where
  alone : shell.bridge = none → IsExec shell number
  attached : shell.bridge ≠ none → IsWaiter shell number

/-- What has come through. -/
structure Output (world : ShellWorld) : Prop where
  streams : ∀ stream, written stream world.rest.channel = world.rest.read stream
  within : ∀ stream, world.rest.read stream <+: world.rest.content stream
  texts : recordedOn "o" world = shown world.rest
  drained : world.rest.bridge ≠ none → world.bridgeClosed = true → Drained world.rest
  order : ExitsLast world.rest.channel

/-- The tasks that there are. -/
structure Made (shell : Shell) : Prop where
  begun : ∀ number ∈ shell.begun, number < shell.created.length
  ended : ∀ number, shell.outcomes number ≠ none → number ∈ shell.begun
  pumps : shell.bridge = none →
    ∀ (number : Nat) stream, shell.created[number]? ≠ some (TaskBody.pumpOutput stream)
  alone : shell.bridge = none → ∀ number, ¬IsWaiter shell number
  waiter : ∀ first second, IsWaiter shell first → IsWaiter shell second → first = second
  stays : ∀ (number : Nat) jump lost now,
    shell.created[number]? ≠ some (TaskBody.connectionLost jump lost now)

/-- How tasks end, and what is sent when they do. -/
structure Endings (world : ShellWorld) : Prop where
  exited : Exited world.rest.channel → world.rest.taskFailed = true ∨
    ∃ number, IsLast world.rest number ∧ world.rest.outcomes number = some (.ok ())
  failed : world.rest.taskFailed = true →
    ∃ number, IsLast world.rest number ∧ world.rest.outcomes number ≠ none
  errors : ∀ number fault, world.rest.outcomes number = some (.error fault) → fault ≠ .cancelledError →
    IsLast world.rest number ∨ ∃ error, world.rest.created[number]? = some (TaskBody.failStartedJump error)
  closing : ∀ number, IsWaiter world.rest number → world.rest.outcomes number ≠ none →
    world.bridgeClosed = true
  sent : ∀ number, IsWaiter world.rest number → world.rest.outcomes number = some (.ok ()) →
    Exited world.rest.channel
  cancelled : ∀ number ∈ world.rest.cancelled, world.rest.taskFailed = true
  failing : ∀ (number : Nat) error, world.rest.created[number]? = some (TaskBody.failStartedJump error) →
    world.rest.taskFailed = true

structure Relayed (world : ShellWorld) : Prop where
  sole : Sole world.rest
  output : Output world
  made : Made world.rest
  endings : Endings world

/-- A task that a callback may create. -/
def Plain : TaskBody → Prop
  | .startExec _ | .sendUserInput .. | .resizePty .. => True
  | _ => False

/-- A change that has nothing to do with the output. -/
structure Still (before after : ShellWorld) : Prop extends Lone before.rest after.rest where
  bridgeClosed : after.bridgeClosed = before.bridgeClosed
  channel : after.rest.channel = before.rest.channel
  read : after.rest.read = before.rest.read
  content : after.rest.content = before.rest.content
  taskFailed : after.rest.taskFailed = before.rest.taskFailed
  cancelled : after.rest.cancelled = before.rest.cancelled
  texts : recordedOn "o" after = recordedOn "o" before
  bodies : ∀ (number : Nat) body, after.rest.created[number]? = some body →
    before.rest.created[number]? = some body ∨ Plain body

section Changes
variable {before after world : ShellWorld} {number : Nat}

theorem Still.aside (still : Still before after) : Aside before after :=
  ⟨still.toLone, fun was => still.bridgeClosed.trans was⟩

theorem Still.body (still : Still before after) {body : TaskBody} (other : ¬Plain body)
    (there : after.rest.created[number]? = some body) : before.rest.created[number]? = some body :=
  (still.bodies number body there).resolve_right other

theorem Still.waiter (still : Still before after) :
    IsWaiter after.rest number ↔ IsWaiter before.rest number :=
  ⟨still.body id, created_stays still.created⟩

theorem Still.last (still : Still before after) (last : IsLast before.rest number) :
    IsLast after.rest number where
  alone alone := (last.alone (still.bridge.symm.trans alone)).stays still.created
  attached there := still.waiter.mpr (last.attached (still.bridge ▸ there))

theorem Still.output (still : Still before after) (holds : Output before) : Output after where
  streams stream := by
    rw [still.channel, still.read]
    exact holds.streams stream
  within stream := by
    rw [still.read, still.content]
    exact holds.within stream
  texts := by
    rw [still.texts, shown, still.channel, ← shown]
    exact holds.texts
  drained there closed := by
    rw [still.bridge] at there
    rw [still.bridgeClosed] at closed
    unfold Drained
    rw [still.read, still.content]
    exact holds.drained there closed
  order := by
    rw [still.channel]
    exact holds.order

theorem Still.made (still : Still before after) (holds : Made before.rest) : Made after.rest where
  begun number member := by
    rw [still.begun] at member
    exact (holds.begun number member).trans_le still.created.length_le
  ended number outcome := by
    rw [still.outcomes] at outcome
    rw [still.begun]
    exact holds.ended number outcome
  pumps alone number stream there :=
    holds.pumps (still.bridge.symm.trans alone) number stream (still.body id there)
  alone alone number there := holds.alone (still.bridge.symm.trans alone) number (still.waiter.mp there)
  waiter first second one two := holds.waiter first second (still.waiter.mp one) (still.waiter.mp two)
  stays number jump lost now there := holds.stays number jump lost now (still.body id there)

theorem Still.endings (still : Still before after) (holds : Endings before) : Endings after where
  exited exited := by
    rw [still.channel] at exited
    rw [still.taskFailed, still.outcomes]
    rcases holds.exited exited with failed | ⟨number, last, ended⟩
    · exact .inl failed
    · exact .inr ⟨number, still.last last, ended⟩
  failed failed := by
    rw [still.taskFailed] at failed
    rw [still.outcomes]
    obtain ⟨number, last, ended⟩ := holds.failed failed
    exact ⟨number, still.last last, ended⟩
  errors number fault ended real := by
    rw [still.outcomes] at ended
    rcases holds.errors number fault ended real with last | ⟨error, there⟩
    · exact .inl (still.last last)
    · exact .inr ⟨error, created_stays still.created there⟩
  closing number waiter ended := by
    rw [still.outcomes] at ended
    rw [still.bridgeClosed]
    exact holds.closing number (still.waiter.mp waiter) ended
  sent number waiter ended := by
    rw [still.outcomes] at ended
    rw [still.channel]
    exact holds.sent number (still.waiter.mp waiter) ended
  cancelled number member := by
    rw [still.cancelled] at member
    rw [still.taskFailed]
    exact holds.cancelled number member
  failing number error there := by
    rw [still.taskFailed]
    exact holds.failing number error (still.body id there)

theorem Still.relayed (still : Still before after) (holds : Relayed before) : Relayed after :=
  ⟨still.sole holds.sole, still.output holds.output, still.made holds.made, still.endings holds.endings⟩

theorem Still.refl (world : ShellWorld) : Still world world :=
  ⟨.refl _, rfl, rfl, rfl, rfl, rfl, rfl, rfl, fun _ _ there => .inl there⟩

theorem Still.trans {one two three : ShellWorld} (first : Still one two) (second : Still two three) :
    Still one three where
  toLone := first.toLone.trans second.toLone
  bridgeClosed := second.bridgeClosed.trans first.bridgeClosed
  channel := second.channel.trans first.channel
  read := second.read.trans first.read
  content := second.content.trans first.content
  taskFailed := second.taskFailed.trans first.taskFailed
  cancelled := second.cancelled.trans first.cancelled
  texts := second.texts.trans first.texts
  bodies number body there := by
    rcases second.bodies number body there with earlier | plain
    · exact first.bodies number body earlier
    · exact .inr plain

theorem still_unseen {rest : Shell} (unseen : Unseen world.rest rest) :
    Still world { world with rest := rest } := by
  have same : rest = _ := unseen
  rw [same]
  exact ⟨⟨rfl, rfl, rfl, rfl, List.prefix_rfl, id⟩, rfl, rfl, rfl, rfl, rfl, rfl, rfl,
    fun _ _ there => .inl there⟩

/-- A change of the recorder, the row or the audit. -/
theorem Still.of_rest (rest : after.rest = before.rest) (closed : after.bridgeClosed = before.bridgeClosed)
    (texts : recordedOn "o" after = recordedOn "o" before) : Still before after := by
  refine ⟨?_, closed, ?_, ?_, ?_, ?_, ?_, texts, ?_⟩ <;> rw [rest]
  · exact .refl _
  · exact fun _ _ there => .inl there

theorem still_creates {body : TaskBody} (plain : Plain body)
    (first : ∀ command, body = .startExec command → ∀ other, TaskBody.startExec other ∉ world.rest.created) :
    Still world { world with rest := world.rest.createPump body } := by
  refine ⟨lone_creates first, rfl, rfl, rfl, rfl, rfl, rfl, rfl, ?_⟩
  intro number other there
  rcases createPump_created there with earlier | ⟨-, same⟩
  · exact .inl earlier
  · exact .inr (same ▸ plain)

theorem still_callback {callback : Callback} (delivered : callback.Delivered world.rest)
    (stays : ∀ lost, callback ≠ .connectionLost lost) :
    Still world { world with rest := callback.apply world.rest } := by
  have moved : ∀ rest : Shell, Lone world.rest rest → rest.created = world.rest.created →
      rest.channel = world.rest.channel → rest.read = world.rest.read →
      rest.content = world.rest.content → rest.taskFailed = world.rest.taskFailed →
      rest.cancelled = world.rest.cancelled → Still world { world with rest := rest } :=
    fun rest lone created channel read content failed cancelled =>
      ⟨lone, rfl, channel, read, content, failed, cancelled, rfl,
        fun number body there => .inl (created ▸ there)⟩
  cases callback with
  | ptyRequested width height => exact still_unseen rfl
  | execRequested command =>
      refine still_creates trivial ?_
      rintro _ -
      exact delivered.2 command rfl
  | dataReceived payload =>
      show Still world { world with rest := world.rest.dataReceived payload }
      unfold Shell.dataReceived
      dsimp only
      split
      · exact moved _ ⟨rfl, rfl, rfl, rfl, List.prefix_rfl, id⟩ rfl rfl rfl rfl rfl rfl
      · have arrives : Still world { world with
            rest := { world.rest with arrived := world.rest.arrived ++ [.data payload] } } :=
          moved _ ⟨rfl, rfl, rfl, rfl, List.prefix_rfl, id⟩ rfl rfl rfl rfl rfl rfl
        refine arrives.trans (still_creates ?_ ?_)
        · trivial
        · exact fun _ impossible => nomatch impossible
  | eofReceived =>
      show Still world { world with rest := world.rest.eofReceived }
      unfold Shell.eofReceived
      dsimp only
      split <;> exact moved _ ⟨rfl, rfl, rfl, rfl, List.prefix_rfl, id⟩ rfl rfl rfl rfl rfl rfl
  | terminalSizeChanged width height =>
      show Still world { world with rest := world.rest.terminalSizeChanged width height }
      unfold Shell.terminalSizeChanged
      dsimp only
      split
      · exact still_unseen rfl
      · have resized : Still world { world with rest := { world.rest with termSize := (width, height) } } :=
          still_unseen rfl
        refine resized.trans (still_creates ?_ ?_)
        · trivial
        · exact fun _ impossible => nomatch impossible
  | connectionLost lost => exact absurd rfl (stays lost)
end Changes

/-! How tasks begin and end. -/
section Ending
variable {world : ShellWorld} {number : Nat} {config : ShellConfig}

/-- There is one task that ends the session. -/
theorem Relayed.last_unique (holds : Relayed world) {first second : Nat} (one : IsLast world.rest first)
    (two : IsLast world.rest second) : first = second := by
  by_cases alone : world.rest.bridge = none
  · exact holds.sole.single first second (one.alone alone) (two.alone alone)
  · exact holds.made.waiter first second (one.attached alone) (two.attached alone)

/-- While it runs, nothing has failed and nothing has been sent that ends the channel. -/
theorem Relayed.running (holds : Relayed world) (last : IsLast world.rest number)
    (runs : world.rest.outcomes number = none) :
    world.rest.taskFailed = false ∧ ¬Exited world.rest.channel := by
  have fine : world.rest.taskFailed = false := by
    by_contra failed
    obtain ⟨other, another, ended⟩ := holds.endings.failed (Bool.not_eq_false _ ▸ failed)
    exact ended (holds.last_unique another last ▸ runs)
  refine ⟨fine, fun exited => ?_⟩
  rcases holds.endings.exited exited with failed | ⟨other, another, ended⟩
  · exact Bool.false_ne_true (fine.symm.trans failed)
  · rw [holds.last_unique another last, runs] at ended
    cases ended

theorem ExitsLast.writes {channel : List ChannelCall} (order : ExitsLast channel) (more : ¬Exited channel) :
    ∀ call ∈ channel, IsWrite call := by
  obtain ⟨writes, all, same | ⟨status, same⟩⟩ := order
  · exact same ▸ all
  · refine absurd ⟨status, ?_⟩ more
    simp [same]

/-- A waiter that has not ended is the last task. -/
theorem Relayed.waiter_last (holds : Relayed world) (waiter : IsWaiter world.rest number) :
    IsLast world.rest number where
  alone alone := absurd waiter (holds.made.alone alone number)
  attached _ := waiter

/-- While there is no bridge, the task that starts the jump is. -/
theorem exec_last (exec : IsExec world.rest number) (alone : world.rest.bridge = none) :
    IsLast world.rest number where
  alone _ := exec
  attached there := absurd alone there

theorem relayed_begin (created : number < world.rest.created.length) (holds : Relayed world) :
    Relayed { world with rest := world.rest.begin number } where
  sole := sole_begin number holds.sole
  output := ⟨holds.output.streams, holds.output.within, holds.output.texts, holds.output.drained,
    holds.output.order⟩
  made := {
    begun := fun begins member => by
      rcases List.mem_append.mp member with earlier | last
      · exact holds.made.begun begins earlier
      · rw [List.mem_singleton.mp last]
        exact created
    ended := fun other outcome => List.mem_append_left _ (holds.made.ended other outcome)
    pumps := holds.made.pumps
    alone := holds.made.alone
    waiter := holds.made.waiter
    stays := holds.made.stays }
  endings := {
    exited := fun exited => (holds.endings.exited exited).imp id
      fun ⟨other, last, ended⟩ => ⟨other, ⟨last.alone, last.attached⟩, ended⟩
    failed := fun failed => by
      obtain ⟨other, last, ended⟩ := holds.endings.failed failed
      exact ⟨other, ⟨last.alone, last.attached⟩, ended⟩
    errors := fun other fault ended real => (holds.endings.errors other fault ended real).imp
      (fun last => ⟨last.alone, last.attached⟩) id
    closing := holds.endings.closing
    sent := holds.endings.sent
    cancelled := holds.endings.cancelled
    failing := holds.endings.failing }

/-- What is known of a task that ends. -/
structure Finishes (number : Nat) (ended : Except Exc Unit) (world : ShellWorld) : Prop where
  runs : world.rest.outcomes number = none
  begun : number ∈ world.rest.begun
  errors : ∀ fault, ended = .error fault → fault ≠ .cancelledError →
    IsLast world.rest number ∨ ∃ error, world.rest.created[number]? = some (TaskBody.failStartedJump error)
  closing : IsWaiter world.rest number → world.bridgeClosed = true

theorem made_finish {ended : Except Exc Unit} (finishes : Finishes number ended world)
    (holds : Made world.rest) : Made (world.rest.finish number ended) where
  begun := holds.begun
  ended other outcome := by
    by_cases same : other = number
    · exact same ▸ finishes.begun
    · refine holds.ended other ?_
      rwa [show (world.rest.finish number ended).outcomes other = world.rest.outcomes other from
        Function.update_of_ne same _ _] at outcome
  pumps := holds.pumps
  alone := holds.alone
  waiter := holds.waiter
  stays := holds.stays

theorem finish_other {ended : Except Exc Unit} {shell : Shell} {other : Nat} (apart : other ≠ number) :
    (shell.finish number ended).outcomes other = shell.outcomes other := Function.update_of_ne apart _ _

theorem finish_same {ended : Except Exc Unit} {shell : Shell} :
    (shell.finish number ended).outcomes number = some ended := Function.update_self _ _ _

/-- What has ended before is not what ends now. -/
theorem finish_stays {ended before : Except Exc Unit} {shell : Shell} {other : Nat}
    (runs : shell.outcomes number = none) (was : shell.outcomes other = some before) :
    (shell.finish number ended).outcomes other = some before := by
  rw [finish_other, was]
  rintro rfl
  exact Option.some_ne_none before (was.symm.trans runs)

theorem endings_finish {ended : Except Exc Unit} {channel : List ChannelCall}
    (finishes : Finishes number ended world) (longer : world.rest.channel <+: channel)
    (exits : Exited channel → world.rest.taskFailed = true ∨
      ∃ other, IsLast world.rest other ∧ (world.rest.finish number ended).outcomes other = some (.ok ()))
    (sent : IsWaiter world.rest number → ended = .ok () → Exited channel) (before : Endings world) :
    Endings { world with rest := { world.rest with channel := channel }.finish number ended } where
  exited exited := (exits exited).imp id fun ⟨other, last, done⟩ => ⟨other, ⟨last.alone, last.attached⟩, done⟩
  failed failed := by
    obtain ⟨other, last, was⟩ := before.failed failed
    obtain ⟨outcome, done⟩ := Option.ne_none_iff_exists'.mp was
    refine ⟨other, ⟨last.alone, last.attached⟩, ?_⟩
    exact fun none => Option.some_ne_none outcome ((finish_stays finishes.runs done).symm.trans none)
  errors other fault done real := by
    by_cases same : other = number
    · subst same
      have raised := Option.some.inj (finish_same.symm.trans done)
      exact (finishes.errors fault raised real).imp (fun last => ⟨last.alone, last.attached⟩) id
    · have was := (finish_other same).symm.trans done
      exact (before.errors other fault was real).imp (fun last => ⟨last.alone, last.attached⟩) id
  closing other waiter done := by
    by_cases same : other = number
    · exact finishes.closing (same ▸ waiter)
    · exact before.closing other waiter fun none => done ((finish_other same).trans none)
  sent other waiter done := by
    by_cases same : other = number
    · subst same
      exact sent waiter (Option.some.inj (finish_same.symm.trans done))
    · obtain ⟨status, member⟩ := before.sent other waiter ((finish_other same).symm.trans done)
      exact ⟨status, longer.subset member⟩
  cancelled := before.cancelled
  failing := before.failing

/-- A task ends that sends nothing to end the channel. -/
theorem relayed_finish {ended : Except Exc Unit} (finishes : Finishes number ended world)
    (sent : IsWaiter world.rest number → ended = .ok () → Exited world.rest.channel) (holds : Relayed world) :
    Relayed { world with rest := world.rest.finish number ended } where
  sole := ⟨holds.sole.single, holds.sole.unstarted, holds.sole.begun⟩
  output := ⟨holds.output.streams, holds.output.within, holds.output.texts, holds.output.drained,
    holds.output.order⟩
  made := made_finish finishes holds.made
  endings := by
    refine endings_finish finishes List.prefix_rfl (fun exited => ?_) sent holds.endings
    rcases holds.endings.exited exited with failed | ⟨other, last, was⟩
    · exact .inl failed
    · exact .inr ⟨other, last, finish_stays finishes.runs was⟩

/-- The channel once it has been told to end. -/
def endedWith (status : Int) (shell : Shell) : Shell :=
  { shell with channel := shell.channel ++ [.exit status, .close] }

theorem exitChannel_ended (hasChannel : config.hasChannel = true) (status : Int) (shell : Shell) :
    shell.exitChannel config status = endedWith status shell := if_pos hasChannel

theorem written_append (stream : OutputStream) (channel more : List ChannelCall) :
    written stream (channel ++ more) = written stream channel ++ written stream more := List.flatMap_append

/-- The channel ends once. -/
theorem output_ended (status : Int) (more : ¬Exited world.rest.channel) (holds : Output world) :
    Output { world with rest := endedWith status world.rest } where
  streams stream := by
    show written stream (world.rest.channel ++ [.exit status, .close]) = world.rest.read stream
    rw [written_append, ← holds.streams stream]
    exact List.append_nil _
  within := holds.within
  texts := by
    show recordedOn "o" world = (world.rest.channel ++ [ChannelCall.exit status, .close]).filterMap outputText
    rw [List.filterMap_append]
    exact holds.texts.trans (List.append_nil _).symm
  drained := holds.drained
  order := ⟨world.rest.channel, holds.order.writes more, .inr ⟨status, rfl⟩⟩

/-- The last task ends the channel when it ends. -/
theorem relayed_ended (status : Int) (last : IsLast world.rest number)
    (finishes : Finishes number (.ok ()) world) (holds : Relayed world) :
    Relayed { world with rest := (endedWith status world.rest).finish number (.ok ()) } := by
  have output := output_ended status (holds.running last finishes.runs).2 holds.output
  refine ⟨⟨holds.sole.single, holds.sole.unstarted, holds.sole.begun⟩, ?_, ?_, ?_⟩
  · exact ⟨output.streams, output.within, output.texts, output.drained, output.order⟩
  · exact ⟨holds.made.begun, (made_finish finishes holds.made).ended, holds.made.pumps, holds.made.alone,
      holds.made.waiter, holds.made.stays⟩
  · exact endings_finish finishes (List.prefix_append _ _) (fun _ => .inr ⟨number, last, finish_same⟩)
      (fun _ _ => ⟨status, by simp⟩) holds.endings

end Ending

/-! The changes that have to do with the output. -/
section Moving
variable {world : ShellWorld} {number : Nat} {config : ShellConfig}

/-- A bridge closes when there is none, or when all has been read. -/
theorem relayed_closes (status : SessionStatus) (now : DateTime)
    (fine : world.rest.bridge ≠ none → world.bridgeClosed = false → Drained world.rest)
    (holds : Relayed world) : Relayed (JumpPtyBridge.beginClose status now world).2 := by
  rcases beginClose_cases status now world with ⟨-, same⟩ | ⟨was, same⟩
  · rw [same]
    have still : Still world { world with closes := world.closes ++ [status] } := .of_rest rfl rfl rfl
    exact still.relayed holds
  · rw [same]
    have output := holds.output
    exact {
      sole := holds.sole
      output := ⟨output.streams, output.within, output.texts, fun there _ => fine there was, output.order⟩
      made := holds.made
      endings := {
        exited := holds.endings.exited
        failed := holds.endings.failed
        errors := holds.endings.errors
        closing := fun _ _ _ => rfl
        sent := holds.endings.sent
        cancelled := holds.endings.cancelled
        failing := holds.endings.failing } }

theorem relayed_started (jump : StartedJump) (starting : Starting number world) (holds : Relayed world) :
    Relayed { world with rest := { world.rest with started := some jump } } where
  sole := sole_started jump holds.sole starting
  output := ⟨holds.output.streams, holds.output.within, holds.output.texts, holds.output.drained,
    holds.output.order⟩
  made := ⟨holds.made.begun, holds.made.ended, holds.made.pumps, holds.made.alone, holds.made.waiter,
    holds.made.stays⟩
  endings := {
    exited := fun exited => (holds.endings.exited exited).imp id
      fun ⟨other, last, ended⟩ => ⟨other, ⟨last.alone, last.attached⟩, ended⟩
    failed := fun failed => by
      obtain ⟨other, last, ended⟩ := holds.endings.failed failed
      exact ⟨other, ⟨last.alone, last.attached⟩, ended⟩
    errors := fun other fault ended real => (holds.endings.errors other fault ended real).imp
      (fun last => ⟨last.alone, last.attached⟩) id
    closing := holds.endings.closing
    sent := holds.endings.sent
    cancelled := holds.endings.cancelled
    failing := holds.endings.failing }

/-- What the pumps and the waiter are created with. -/
theorem withPumps_created {shell : Shell} {other : Nat} {body : TaskBody}
    (there : (withPumps shell).created[other]? = some body) :
    shell.created[other]? = some body ∨ (∃ stream, body = .pumpOutput stream) ∨
      other = shell.created.length + 2 ∧ body = .waitForProcess := by
  rcases createPump_created there with earlier | ⟨last, same⟩
  · rcases createPump_created earlier with earlier | ⟨-, same⟩
    · rcases createPump_created earlier with earlier | ⟨-, same⟩
      · exact .inl earlier
      · exact .inr (.inl ⟨_, same⟩)
    · exact .inr (.inl ⟨_, same⟩)
  · refine .inr (.inr ⟨?_, same⟩)
    simpa [Shell.createPump] using last

/-- The task that starts the jump attaches the process. -/
theorem relayed_attached (jump : StartedJump) (attaching : Attaching number world)
    (runs : world.rest.outcomes number = none) (opened : world.bridgeClosed = false) (holds : Relayed world) :
    Relayed { world with rest := withPumps (attachedTo jump world.rest) } := by
  have alone := attaching.unattached
  obtain ⟨fine, more⟩ := holds.running (exec_last attaching.exec alone) runs
  have waits : ∀ other, IsWaiter (withPumps (attachedTo jump world.rest)) other →
      other = world.rest.created.length + 2 := by
    intro other waiter
    rcases withPumps_created waiter with earlier | ⟨_, impossible⟩ | ⟨last, -⟩
    · exact absurd earlier (holds.made.alone alone other)
    · cases impossible
    · exact last
  have unended : ∀ other, world.rest.outcomes other ≠ none → other < world.rest.created.length :=
    fun other ended => holds.made.begun other (holds.made.ended other ended)
  have fresh : ∀ other, IsWaiter (withPumps (attachedTo jump world.rest)) other →
      world.rest.outcomes other = none := by
    intro other waiter
    by_contra ended
    have earlier := unended other ended
    have last := waits other waiter
    omega
  have bodies : ∀ (other : Nat) body, (withPumps (attachedTo jump world.rest)).created[other]? = some body →
      (∀ stream, body ≠ .pumpOutput stream) → body ≠ .waitForProcess →
      world.rest.created[other]? = some body := by
    intro other body there pump waiter
    rcases withPumps_created there with earlier | ⟨stream, same⟩ | ⟨-, same⟩
    · exact earlier
    · exact absurd same (pump stream)
    · exact absurd same waiter
  have output := holds.output
  exact {
    sole := lone_withPumps.sole ⟨holds.sole.single, fun unstarted => absurd unstarted attaching.started,
      holds.sole.begun⟩
    output := ⟨output.streams, output.within, output.texts,
      fun _ closed => absurd (opened.symm.trans closed) Bool.false_ne_true, output.order⟩
    made := {
      begun := fun other member => (holds.made.begun other member).trans_le lone_withPumps.created.length_le
      ended := holds.made.ended
      pumps := nofun
      alone := nofun
      waiter := fun first second one two => (waits first one).trans (waits second two).symm
      stays := fun other lostJump lost now there =>
        holds.made.stays other lostJump lost now (bodies other _ there nofun nofun) }
    endings := {
      exited := fun exited => absurd exited more
      failed := fun failed => absurd (fine.symm.trans failed) Bool.false_ne_true
      errors := fun other fault ended real => by
        rcases holds.endings.errors other fault ended real with last | ⟨error, there⟩
        · have same := holds.last_unique last (exec_last attaching.exec alone)
          subst same
          exact nomatch runs.symm.trans ended
        · exact .inr ⟨error, created_stays lone_withPumps.created there⟩
      closing := fun other waiter ended => absurd (fresh other waiter) ended
      sent := fun other waiter ended => nomatch (fresh other waiter).symm.trans ended
      cancelled := holds.endings.cancelled
      failing := fun other error there =>
        holds.endings.failing other error (bodies other _ there nofun nofun) } }

/-- The channel does not end before the bridge is closed. -/
theorem Relayed.exited_closed (holds : Relayed world) (exited : Exited world.rest.channel)
    (there : world.rest.bridge ≠ none) : world.bridgeClosed = true := by
  have ended : ∃ other, IsLast world.rest other ∧ world.rest.outcomes other ≠ none := by
    rcases holds.endings.exited exited with failed | ⟨other, last, ended⟩
    · exact holds.endings.failed failed
    · exact ⟨other, last, fun none => nomatch none.symm.trans ended⟩
  obtain ⟨other, last, ended⟩ := ended
  exact holds.endings.closing other (last.attached there) ended

theorem written_write (origin stream : OutputStream) (payload : Bytes) (channel : List ChannelCall) :
    written stream (channel ++ [.write origin payload]) =
      written stream channel ++ if origin = stream then payload else [] := by
  rw [written_append]
  exact congrArg _ (List.append_nil _)

theorem recordedOn_more (event : ReplayEvent) (recorder : ReplayRecorder) (rest : Shell)
    (output : event.stream = lit "o") : recordedOn "o" { world with
      recorder := recorder, recorded := world.recorded ++ [event], rest := rest } =
      recordedOn "o" world ++ [event.data] := by
  simp [recordedOn, output]

/-- A chunk is read, recorded and written. -/
theorem relayed_chunk {stream : OutputStream} {chunk : Bytes} (recorder : ReplayRecorder) (seconds : Int)
    (there : world.rest.bridge ≠ none) (opened : world.bridgeClosed = false)
    (front : world.rest.read stream ++ chunk <+: world.rest.content stream) (holds : Relayed world) :
    Relayed { world with
      recorder := recorder
      recorded := world.recorded ++ [⟨seconds, lit "o", decodeEscaped chunk⟩]
      rest := { world.rest with
        read := Function.update world.rest.read stream (world.rest.read stream ++ chunk)
        channel := world.rest.channel ++ [.write stream chunk] } } := by
  have more : ¬Exited world.rest.channel := fun exited =>
    Bool.false_ne_true (opened.symm.trans (holds.exited_closed exited there))
  have output := holds.output
  let reads := Function.update world.rest.read stream (world.rest.read stream ++ chunk)
  have brought : ∀ other, reads other = world.rest.read other ++ if stream = other then chunk else [] := by
    intro other
    by_cases same : other = stream
    · subst same
      rw [if_pos rfl]
      exact Function.update_self _ _ _
    · rw [if_neg (Ne.symm same), List.append_nil]
      exact Function.update_of_ne same _ _
  refine ⟨⟨holds.sole.single, holds.sole.unstarted, holds.sole.begun⟩, ⟨?_, ?_, ?_, ?_, ?_⟩, ?_, ?_⟩
  · intro other
    show written other (world.rest.channel ++ [.write stream chunk]) = reads other
    rw [written_write, output.streams, brought]
  · intro other
    show reads other <+: world.rest.content other
    rw [brought]
    split
    · rename_i same
      exact same ▸ front
    · rw [List.append_nil]
      exact output.within other
  · rw [recordedOn_more _ _ _ rfl, output.texts]
    show shown world.rest ++ [decodeEscaped chunk] =
      (world.rest.channel ++ [ChannelCall.write stream chunk]).filterMap outputText
    rw [List.filterMap_append]
    rfl
  · exact fun _ closed => absurd (opened.symm.trans closed) Bool.false_ne_true
  · refine ⟨world.rest.channel ++ [.write stream chunk], ?_, .inl rfl⟩
    intro call member
    rcases List.mem_append.mp member with earlier | last
    · exact output.order.writes more call earlier
    · rw [List.mem_singleton.mp last]
      trivial
  · exact ⟨holds.made.begun, holds.made.ended, holds.made.pumps, holds.made.alone, holds.made.waiter,
      holds.made.stays⟩
  · have exits : ∀ status, ChannelCall.exit status ∈ world.rest.channel ++ [.write stream chunk] → False := by
      intro status member
      rcases List.mem_append.mp member with earlier | last
      · exact more ⟨status, earlier⟩
      · cases List.mem_singleton.mp last
    exact {
      exited := fun ⟨status, member⟩ => (exits status member).elim
      failed := fun failed => by
        obtain ⟨other, last, ended⟩ := holds.endings.failed failed
        exact ⟨other, ⟨last.alone, last.attached⟩, ended⟩
      errors := fun other fault ended real => (holds.endings.errors other fault ended real).imp
        (fun last => ⟨last.alone, last.attached⟩) id
      closing := holds.endings.closing
      sent := fun other waiter ended => absurd (holds.endings.sent other waiter ended) more
      cancelled := holds.endings.cancelled
      failing := holds.endings.failing }

/-- The session when its last task has failed. -/
def failedWith (pumpTasks : List Nat) (error : Str) (shell : Shell) : Shell :=
  endedWith 1 ({ shell with
    pumpTasks := pumpTasks, taskFailed := true, cancelled := shell.cancelled ++ pumpTasks }.createPump
      (.failStartedJump error))

theorem relayed_failed {fault : Exc} (pumpTasks : List Nat) (error : Str) (last : IsLast world.rest number)
    (raised : world.rest.outcomes number = some (.error fault)) (fine : world.rest.taskFailed = false)
    (holds : Relayed world) :
    Relayed { world with rest := failedWith pumpTasks error world.rest } := by
  have more : ¬Exited world.rest.channel := by
    intro exited
    rcases holds.endings.exited exited with failed | ⟨other, another, ended⟩
    · exact Bool.false_ne_true (fine.symm.trans failed)
    · rw [holds.last_unique another last, raised] at ended
      cases ended
  have created : world.rest.created <+: (failedWith pumpTasks error world.rest).created :=
    List.prefix_append _ _
  have bodies : ∀ (other : Nat) body, (failedWith pumpTasks error world.rest).created[other]? = some body →
      body ≠ .failStartedJump error → world.rest.created[other]? = some body := by
    intro other body there apart
    rcases createPump_created there with earlier | ⟨-, same⟩
    · exact earlier
    · exact absurd same apart
  have lasts : ∀ other, IsLast world.rest other → IsLast (failedWith pumpTasks error world.rest) other :=
    fun other last => ⟨fun alone => (last.alone alone).stays created,
      fun there => created_stays created (last.attached there)⟩
  have lone : Lone world.rest (failedWith pumpTasks error world.rest) := by
    have creates : Lone world.rest (world.rest.createPump (.failStartedJump error)) := lone_creates nofun
    exact ⟨rfl, rfl, rfl, rfl, created, creates.single⟩
  have output := output_ended 1 more holds.output
  refine ⟨lone.sole holds.sole, ?_, ?_, ?_⟩
  · exact ⟨output.streams, output.within, output.texts, output.drained, output.order⟩
  · exact {
      begun := fun other member => (holds.made.begun other member).trans_le created.length_le
      ended := holds.made.ended
      pumps := fun alone other stream there =>
        holds.made.pumps alone other stream (bodies other _ there nofun)
      alone := fun alone other waiter => holds.made.alone alone other (bodies other _ waiter nofun)
      waiter := fun first second one two =>
        holds.made.waiter first second (bodies first _ one nofun) (bodies second _ two nofun)
      stays := fun other jump lost now there =>
        holds.made.stays other jump lost now (bodies other _ there nofun) }
  · exact {
      exited := fun _ => .inl rfl
      failed := fun _ => ⟨number, lasts number last, fun none => nomatch none.symm.trans raised⟩
      errors := fun other fault ended real => (holds.endings.errors other fault ended real).imp (lasts other)
        fun ⟨error, there⟩ => ⟨error, created_stays created there⟩
      closing := fun other waiter ended => holds.endings.closing other (bodies other _ waiter nofun) ended
      sent := fun other waiter ended =>
        absurd (holds.endings.sent other (bodies other _ waiter nofun) ended) more
      cancelled := fun _ _ => rfl
      failing := fun _ _ _ => rfl }

/-- The callback of a task that has ended. -/
theorem relayed_taskDone (hasChannel : config.hasChannel = true) (holds : Relayed world) :
    Relayed { world with rest := world.rest.taskDone config number } := by
  have forgotten : ∀ pumpTasks, Relayed { world with rest := { world.rest with pumpTasks := pumpTasks } } :=
    fun pumpTasks => Still.relayed (still_unseen rfl) holds
  unfold Shell.taskDone
  split
  · exact forgotten _
  rename_i other
  unfold Shell.pumpDone
  dsimp only
  split
  · exact forgotten _
  · exact forgotten _
  · exact forgotten _
  rename_i fault real raised
  split
  · exact forgotten _
  rename_i more
  have fine : world.rest.taskFailed = false := Bool.not_eq_true _ ▸ more
  rw [exitChannel_ended hasChannel]
  rcases holds.endings.errors number fault raised fun same => real same with last | ⟨error, there⟩
  · exact relayed_failed _ _ last raised fine holds
  · exact absurd there (other error)
end Moving

/-! The tasks. -/

/-- A task that has begun and not ended. -/
structure Live (number : Nat) (world : ShellWorld) : Prop where
  runs : world.rest.outcomes number = none
  begun : number ∈ world.rest.begun

theorem stable_live {number : Nat} : ∀ before after, Spares number before after → Live number before →
    Live number after :=
  fun _ _ spares live => ⟨spares.outcome.trans live.runs, spares.begun.mpr live.begun⟩

theorem relayed_calms : Calms Relayed Still := ⟨fun _ _ still => still.relayed, fun _ _ => Still.aside⟩

section Answers
variable {before after : ShellWorld} {number : Nat}

theorem still_closeRow (world : ShellWorld) (request : CloseRow) : Still world (world.closeRow request) := by
  rw [JumpWorld.closeRow_same]
  exact .of_rest rfl rfl rfl

theorem still_jump {call : JumpCall} {answer : Except Exc (JumpResult call)}
    (given : JumpAnswers call answer before after) : Still before after :=
  jumpAnswer_moves .refl (fun _ _ => still_unseen) still_closeRow (fun _ => .of_rest rfl rfl rfl) given

/-- Only a pump reads. -/
theorem still_answer {call : SessionCall} {answer : Except Exc (SessionResult call)}
    (other : ∀ stream, before.rest.created[number]? ≠ some (.pumpOutput stream))
    (given : shellWorld number call answer before after) : Still before after := by
  cases call with
  | jump call => exact still_jump given
  | closeRow request =>
      rcases given with same | ⟨-, same⟩
      · rw [same]
        exact still_closeRow before request
      · rw [same]
        exact .refl before
  | readOutput count =>
      cases answer with
      | ok chunk =>
          obtain ⟨stream, pump, -⟩ := given
          exact absurd pump (other stream)
      | error fault =>
          rw [show after = before from given]
          exact .refl before
  | processClosed =>
      cases answer with
      | ok _ =>
          rw [show after = _ from given]
          exact still_unseen rfl
      | error fault =>
          rw [show after = before from given]
          exact .refl before
  | never =>
      cases answer with
      | ok _ => exact given.elim
      | error fault =>
          rw [show after = before from given]
          exact .refl before
  | _ =>
      rw [show after = before from given]
      exact .refl before
end Answers

/-- How a task ends that has kept what the runs keep. -/
abbrev Ends (number : Nat) (ended : Except Exc Unit) (after : ShellWorld) : Prop :=
  Relayed { after with rest := after.rest.finish number ended }

section Keeping
variable {number : Nat} {config : ShellConfig} {known : ShellWorld → Prop}
  (stable : ∀ before after, Spares number before after → known before → known after)
  (other : ∀ world stream, known world → world.rest.created[number]? ≠ some (.pumpOutput stream))
include stable other

theorem keeps_waitFor (call : SessionCall) : Keeps patientWorld Relayed number known _ (waitFor call) := by
  rintro state ⟨holds, knows⟩
  apply call_safe holds
  intro answer resumed after relied later given
  have knowing := stable _ _ relied knows
  exact calm_kept relayed_calms stable (still_answer (fun stream => other resumed stream knowing) given.1.1)
    ⟨later, knowing⟩

omit other in
theorem keeps_asks (channelId : TunnelState.ChannelId) :
    Keeps patientWorld Relayed number known _ (update fun world : ShellWorld => { world with
      channelAsked := true, rest := nodeChannel.closing channelId world.rest }) := by
  apply keeps_update relayed_calms stable
  intro world
  have still : Still world { world with rest := nodeChannel.closing channelId world.rest } := still_unseen rfl
  exact ⟨still.toLone, rfl, rfl, rfl, rfl, rfl, rfl, rfl, still.bodies⟩

omit other in
theorem keeps_noteCloser : Keeps patientWorld Relayed number known _ (noteCloser number) :=
  keeps_update relayed_calms stable fun _ => still_unseen rfl

theorem keeps_failStartedJump {error : Str} (fine : ∀ world, Relayed world → known world →
      world.rest.bridge ≠ none → world.bridgeClosed = false → Drained world.rest) :
    Keeps patientWorld Relayed number known _ (failStartedJump config number error) := by
  apply failStartedJump_composes keeps_composes (keeps_waitFor stable other) (keeps_asks stable) _ keeps_look
    (keeps_noteCloser stable) (keeps_change relayed_calms stable fun _ => .of_rest rfl rfl rfl)
  rintro status now state ⟨holds, knows⟩
  have closes := relayed_closes status now (fine state holds knows) holds
  have aside : Aside state (JumpPtyBridge.beginClose status now state).2 := by
    rcases beginClose_cases status now state with ⟨-, same⟩ | ⟨-, same⟩
    · rw [same]
      exact ⟨.refl _, id⟩
    · rw [same]
      exact ⟨.refl _, fun _ => rfl⟩
  exact change_safe aside.owes ⟨closes, stable _ _ (aside.spares number) knows⟩
end Keeping

/-! The task that starts the jump. -/
section Exec
variable {number : Nat} {config : ShellConfig} {state : ShellWorld}

theorem exec_finishes (ended : Except Exc Unit) (unattached : Unattached number state)
    (live : Live number state) (holds : Relayed state) : Finishes number ended state where
  runs := live.runs
  begun := live.begun
  errors _ _ _ := .inl (exec_last unattached.exec unattached.unattached)
  closing waiter := absurd waiter (holds.made.alone unattached.unattached number)

theorem exec_ends (ended : Except Exc Unit) (unattached : Unattached number state) (live : Live number state)
    (holds : Relayed state) : Ends number ended state :=
  relayed_finish (exec_finishes ended unattached live holds)
    (fun waiter _ => absurd waiter (holds.made.alone unattached.unattached number)) holds

/-- It tells the user that it failed. -/
theorem exec_exits (hasChannel : config.hasChannel = true) (unattached : Unattached number state)
    (live : Live number state) (holds : Relayed state) :
    Runs patientWorld Relayed number (onShell (Shell.exitChannel config 1)) (Ends number) state := by
  refine update_safe (lone_exit 1).aside.owes ?_
  rw [exitChannel_ended hasChannel]
  exact relayed_ended 1 (exec_last unattached.exec unattached.unattached)
    (exec_finishes (.ok ()) unattached live holds) holds

theorem execFault_runs (hasChannel : config.hasChannel = true) (raised : Exc) (holds : Relayed state)
    (unattached : Unattached number state) (live : Live number state) :
    Runs patientWorld Relayed number (execFault config number raised) (Ends number) state := by
  unfold execFault
  split
  · exact exec_exits hasChannel unattached live holds
  split
  · have stable : ∀ before after, Spares number before after → Unattached number before ∧ Live number before →
        Unattached number after ∧ Live number after := by
      rintro before after spares ⟨⟨exec, alone⟩, live⟩
      exact ⟨⟨exec.stays spares.created, (spares.exec exec).2.trans alone⟩, stable_live _ _ spares live⟩
    have fails := @keeps_failStartedJump number config
      (fun world => Unattached number world ∧ Live number world)
      stable (fun world stream knows pump => by
        obtain ⟨command, there⟩ := knows.1.exec
        exact nomatch there.symm.trans pump) (lit "node process start failed")
      fun world _ knows there => absurd knows.1.unattached there
    refine Coro.wp_bind (Coro.wp_mono ?_ (fails state ⟨holds, unattached, live⟩))
    rintro (fault | done) after ⟨kept, alone, running⟩
    · exact exec_ends _ alone running kept
    · exact exec_exits hasChannel alone running kept
  · exact exec_ends _ unattached live holds

theorem attach_runs {jump : StartedJump} (works : Works state) (holds : Relayed state)
    (attaching : Attaching number state) (live : Live number state) :
    Runs patientWorld Relayed number (attach config jump)
      (fun answer after => answer = .ok () ∧ Ends number (.ok ()) after) state := by
  refine Coro.wp_mono ?_ (attach_feeds works (owes_exec holds.sole attaching.exec rfl rfl rfl))
  rintro answer after ⟨rfl, attached⟩
  refine ⟨rfl, ?_⟩
  have kept := relayed_attached jump attaching live.runs works.bridge holds
  have still : Still { state with rest := withPumps (attachedTo jump state.rest) } after :=
    .of_rest attached.rest (attached.works.bridge.trans works.bridge.symm) attached.output
  have exec : IsExec (withPumps (attachedTo jump state.rest)) number :=
    attaching.exec.stays lone_withPumps.created
  have other : ¬IsWaiter after.rest number := by
    rw [attached.rest]
    obtain ⟨command, there⟩ := exec
    exact fun waiter => nomatch there.symm.trans waiter
  refine relayed_finish ⟨?_, ?_, nofun, fun waiter => absurd waiter other⟩ (fun waiter => absurd waiter other)
    (still.relayed kept)
  · rw [attached.rest]
    exact live.runs
  · rw [attached.rest]
    exact live.begun

theorem startExec_ends {command : Str} (hasChannel : config.hasChannel = true) (holds : Relayed state)
    (starting : Starting number state) (live : Live number state) :
    Runs patientWorld Relayed number (startExec config number command) (Ends number) state := by
  refine startExec_runs relayed_calms stable_live (fun _ holds => holds.sole)
    (fun _ _ _ _ given => still_jump given.1.1) (fun _ _ _ _ given => ?_)
    (fun world jump kept still knows => ⟨relayed_started jump still kept, knows.runs, knows.begun⟩)
    (fun raised world kept alone knows =>
      execFault_runs hasChannel raised kept alone knows) ?_ holds starting live
  · rw [show _ = _ from given.1.1]
    exact .refl _
  · rintro jump connection before after ⟨⟨same, works⟩, -⟩ kept attaching knows
    have unchanged : after = before := same
    refine Coro.wp_mono ?_ (attach_runs (unchanged ▸ works) kept attaching knows)
    rintro answer final ⟨rfl, ends⟩
    exact ends
end Exec

/-! The task that waits for the process. -/
section Waiter
variable {number : Nat} {config : ShellConfig} {state : ShellWorld}

/-- What it knows once the bridge is closed. -/
structure Closing (number : Nat) (world : ShellWorld) : Prop extends Live number world where
  waiter : IsWaiter world.rest number
  closed : world.bridgeClosed = true

theorem stable_closing : ∀ before after, Spares number before after → Closing number before →
    Closing number after :=
  fun _ _ spares knows => ⟨stable_live _ _ spares knows.toLive, created_stays spares.created knows.waiter,
    spares.closed knows.closed⟩

theorem Closing.finishes (knows : Closing number state) (ended : Except Exc Unit) (holds : Relayed state) :
    Finishes number ended state :=
  ⟨knows.runs, knows.begun, fun _ _ _ => .inl (holds.waiter_last knows.waiter), fun _ => knows.closed⟩

theorem Closing.raises (knows : Closing number state) (fault : Exc) (holds : Relayed state) :
    Ends number (.error fault) state :=
  relayed_finish (knows.finishes _ holds) (fun _ impossible => nomatch impossible) holds

theorem Closing.exits (knows : Closing number state) (hasChannel : config.hasChannel = true)
    (holds : Relayed state) :
    Runs patientWorld Relayed number (onShell (Shell.exitChannel config 0)) (Ends number) state := by
  refine update_safe (lone_exit 0).aside.owes ?_
  rw [exitChannel_ended hasChannel]
  exact relayed_ended 0 (holds.waiter_last knows.waiter) (knows.finishes _ holds) holds

/-- It closes the bridge, which has nothing more to record. -/
theorem lostQuietly_runs {jump : StartedJump} {now : DateTime}
    (holds : Relayed state) (live : Live number state)
    (waiter : IsWaiter state.rest number) (drained : Drained state.rest) :
    Runs patientWorld Relayed number ((bridgeOf config jump).connectionLost none now)
      (fun _ after => Relayed after ∧ Closing number after) state := by
  have closes := relayed_closes .CLOSED now (fun _ _ => drained) holds
  have closed : Aside state (JumpPtyBridge.beginClose .CLOSED now state).2 ∧
      Closing number (JumpPtyBridge.beginClose .CLOSED now state).2 := by
    rcases beginClose_cases .CLOSED now state with ⟨was, same⟩ | ⟨-, same⟩
    · rw [same]
      exact ⟨⟨.refl _, id⟩, ⟨live.runs, live.begun⟩, waiter, was⟩
    · rw [same]
      exact ⟨⟨.refl _, fun _ => rfl⟩, ⟨live.runs, live.begun⟩, waiter, rfl⟩
  refine Coro.wp_bind (change_safe closed.1.owes ?_)
  have waits : ∀ call, Keeps patientWorld Relayed number (Closing number) _ (waitFor call) :=
    keeps_waitFor stable_closing fun world stream knows pump => nomatch knows.waiter.symm.trans pump
  cases (JumpPtyBridge.beginClose .CLOSED now state).1 with
  | error fault => exact ⟨closes, closed.2⟩
  | ok result =>
      cases result with
      | none => exact ⟨closes, closed.2⟩
      | some result =>
          exact endSession_composes keeps_composes waits (keeps_asks stable_closing) _ ⟨closes, closed.2⟩

theorem waitForProcess_ends (hasChannel : config.hasChannel = true) (holds : Relayed state)
    (live : Live number state) (waiter : IsWaiter state.rest number) :
    Runs patientWorld Relayed number (waitForProcess config number) (Ends number) state := by
  refine Coro.wp_bind (call_safe holds ?_)
  rintro answer resumed after relied later ⟨⟨answered, normal⟩, patient⟩
  have live := stable_live _ _ relied live
  have waiter : IsWaiter resumed.rest number := created_stays relied.created waiter
  have last := later.waiter_last waiter
  cases answer with
  | error fault =>
      -- It is not cancelled while it runs: a task is cancelled when the last one has failed.
      have failed := later.endings.cancelled number normal.2
      exact absurd ((later.running last live.runs).1.symm.trans failed) Bool.false_ne_true
  | ok _ =>
      have same : after = _ := answered
      have still : Still resumed after := by
        rw [same]
        exact still_unseen rfl
      have kept := still.relayed later
      have running : Live number after := stable_live _ _ (still.aside.spares number) live
      have drained : Drained after.rest := by
        rw [same]
        exact patient
      refine Coro.wp_bind (look_safe ?_)
      dsimp only
      split
      · rename_i alone
        exact absurd (still.waiter.mpr waiter) (kept.made.alone alone number)
      · rename_i jump attached
        have noted : Still after
          { after with rest := { after.rest with closers := after.rest.closers ++ [number] } } :=
          still_unseen rfl
        refine Coro.wp_bind (update_safe noted.aside.owes ?_)
        refine Coro.wp_bind (Coro.wp_mono ?_ (lostQuietly_runs (noted.relayed kept)
          ⟨running.runs, running.begun⟩ (still.waiter.mpr waiter) drained))
        rintro (fault | done) final ⟨holds, knows⟩
        · exact knows.raises fault holds
        · exact knows.exits hasChannel holds
end Waiter

/-! The pumps. -/
section Pump
variable {number : Nat} {config : ShellConfig} {state : ShellWorld} {stream : OutputStream}

/-- What a pump knows. -/
structure Pumping (number : Nat) (stream : OutputStream) (world : ShellWorld) : Prop extends
    Live number world where
  pump : world.rest.created[number]? = some (.pumpOutput stream)

theorem stable_pumping : ∀ before after, Spares number before after → Pumping number stream before →
    Pumping number stream after :=
  fun _ _ spares knows => ⟨stable_live _ _ spares knows.toLive, created_stays spares.created knows.pump⟩

theorem Pumping.ends (knows : Pumping number stream state) {ended : Except Exc Unit}
    (quiet : ∀ fault, ended = .error fault → fault = .cancelledError) (holds : Relayed state) :
    Ends number ended state := by
  have other : ¬IsWaiter state.rest number := fun waiter => nomatch knows.pump.symm.trans waiter
  exact relayed_finish ⟨knows.runs, knows.begun, fun fault raised real => absurd (quiet fault raised) real,
    fun waiter => absurd waiter other⟩ (fun waiter => absurd waiter other) holds

/-- The world once a chunk is recorded. -/
def withRecorded (recorder : ReplayRecorder) (seconds : Int) (chunk : Bytes)
    (world : ShellWorld) : ShellWorld :=
  { world with
    recorder := recorder
    recorded := world.recorded ++ [⟨seconds, lit "o", decodeEscaped chunk⟩] }

/-- The world once it is written, too. -/
def withRelayed (recorder : ReplayRecorder) (seconds : Int) (stream : OutputStream) (chunk : Bytes)
    (world : ShellWorld) : ShellWorld :=
  { withRecorded recorder seconds chunk world with
    rest := { world.rest with channel := world.rest.channel ++ [.write stream chunk] } }

/-- A chunk that was read is recorded and written. -/
theorem relayOutput_runs {chunk : Bytes} (hasChannel : config.hasChannel = true)
    (attached : state.rest.bridge ≠ none) (records : ReplayTimes.Records state)
    (takes : state.rest.channelFault = none) :
    Runs patientWorld Relayed number (relayOutput config stream chunk)
      (fun answer after => answer = .ok () ∧ ∃ recorder seconds, after =
        withRelayed recorder seconds stream chunk state) state := by
  obtain ⟨jump, bridged⟩ := Option.ne_none_iff_exists'.mp attached
  have opened : JumpPtyBridge.ensureOpen state = .ok () := if_neg (Bool.not_eq_true _ ▸ records.bridge)
  obtain ⟨recorder, -, done⟩ := ReplayTimes.recordEvent_records records state.rest.elapsedSeconds "o" chunk
  have aside : Aside state (withRecorded recorder state.rest.elapsedSeconds chunk state) := ⟨.refl _, id⟩
  have receives : Runs patientWorld Relayed number
      (JumpPtyBridge.receiveNodeOutput state.rest.elapsedSeconds chunk) (fun answer after =>
        answer = .ok chunk ∧
        after = withRecorded recorder state.rest.elapsedSeconds chunk state) state := by
    refine Coro.wp_bind (look_safe (Coro.wp_bind (Coro.wp_ofAnswer ?_)))
    rw [opened]
    exact Coro.wp_bind (change_done done aside.owes ⟨rfl, rfl⟩)
  refine Coro.wp_bind (look_safe ?_)
  dsimp only
  rw [bridged]
  refine Coro.wp_bind (Coro.wp_mono ?_ receives)
  rintro _ after ⟨rfl, rfl⟩
  have writes : onRest (Shell.writeChannel stream chunk)
      (withRecorded recorder state.rest.elapsedSeconds chunk state) =
        (.ok (), withRelayed recorder state.rest.elapsedSeconds stream chunk state) := by
    unfold onRest Shell.writeChannel
    split
    · rename_i fault raises
      exact nomatch takes.symm.trans raises
    · rfl
  have shows : Aside (withRecorded recorder state.rest.elapsedSeconds chunk state)
      (withRelayed recorder state.rest.elapsedSeconds stream chunk state) :=
    ⟨⟨rfl, rfl, rfl, rfl, List.prefix_rfl, id⟩, id⟩
  rw [hasChannel]
  exact change_done writes shows.owes ⟨rfl, recorder, _, rfl⟩

theorem pumpOutput_ends (hasChannel : config.hasChannel = true) (turns : Nat) (holds : Relayed state)
    (knows : Pumping number stream state) :
    Runs patientWorld Relayed number (pumpOutput config stream turns) (Ends number) state := by
  induction turns generalizing state with
  | zero =>
      refine call_safe holds ?_
      rintro answer resumed after relied later ⟨⟨given, normal⟩, -⟩
      have knows := stable_pumping _ _ relied knows
      cases answer with
      | ok _ => exact given.elim
      | error fault =>
          rw [show after = resumed from given]
          exact knows.ends (fun _ raised => Except.error.inj raised ▸ normal.1) later
  | succ turns ih =>
      refine Coro.wp_bind (call_safe holds ?_)
      rintro answer resumed after relied later ⟨⟨given, normal⟩, -⟩
      have knows := stable_pumping _ _ relied knows
      cases answer with
      | error fault =>
          rw [show after = resumed from given]
          exact knows.ends (fun _ raised => Except.error.inj raised ▸ normal.1) later
      | ok chunk =>
          obtain ⟨origin, pump, -, front, last, rfl⟩ := given
          have same : stream = origin := by
            have bodies := Option.some.inj (knows.pump.symm.trans pump)
            exact TaskBody.pumpOutput.inj bodies
          subst same
          dsimp only
          split
          · rename_i nothing
            subst nothing
            have unread : Function.update resumed.rest.read stream (resumed.rest.read stream ++ []) =
                resumed.rest.read := by rw [List.append_nil, Function.update_eq_self]
            rw [unread]
            exact knows.ends nofun later
          · rename_i something
            obtain ⟨byte, more, rfl⟩ := List.exists_cons_of_ne_nil something
            have there : resumed.rest.bridge ≠ none :=
              fun alone => later.made.pumps alone number stream knows.pump
            have opened : resumed.bridgeClosed = false := by
              -- What is read was not drained, so the bridge has not been closed.
              by_contra closed
              have drained := later.output.drained there (Bool.not_eq_false _ ▸ closed) stream
              have long := front.length_le
              simp [drained] at long
            obtain ⟨records, takes⟩ := normal
            obtain ⟨recording, storage⟩ := records opened
            refine Coro.wp_bind (Coro.wp_mono ?_
              (relayOutput_runs hasChannel there ⟨opened, recording, storage⟩ takes))
            rintro _ final ⟨rfl, recorder, seconds, rfl⟩
            exact ih (relayed_chunk recorder seconds there opened front later)
              ⟨⟨knows.runs, knows.begun⟩, knows.pump⟩
end Pump

section Bodies
variable {number : Nat} {config : ShellConfig} {state : ShellWorld} {body : TaskBody}

/-- A task ends well that is neither the waiter nor a task that may fail. -/
theorem quietly_ends (live : Live number state) (other : ¬IsWaiter state.rest number)
    (holds : Relayed state) :
    Ends number (.ok ()) state :=
  relayed_finish ⟨live.runs, live.begun, nofun, fun waiter => absurd waiter other⟩
    (fun waiter => absurd waiter other) holds

theorem resizePty_ends {jump : StartedJump} {width height : Int} (holds : Relayed state)
    (live : Live number state) (other : ¬IsWaiter state.rest number)
    (takes : TakesWell state (.resizePty jump width height)) :
    Runs patientWorld Relayed number ((bridgeOf config jump).resizePty width height) (Ends number) state := by
  obtain ⟨opened, wide, high, fits⟩ := takes
  have answer : JumpPtyBridge.ensureOpen state = .ok () := if_neg (Bool.not_eq_true _ ▸ opened)
  have sized : ¬(width ≤ 0 ∨ height ≤ 0) := by omega
  have resizes : onRest Shell.changeTerminalSize state = (.ok (), state) := by
    unfold onRest Shell.changeTerminalSize
    rw [fits]
  refine Coro.wp_bind (look_safe (Coro.wp_bind (Coro.wp_ofAnswer ?_)))
  rw [answer]
  dsimp only
  rw [if_neg sized]
  exact Coro.wp_bind (change_done resizes (Aside.of_rest rfl rfl).owes (quietly_ends live other holds))

theorem failStartedJump_ends {error : Str} (holds : Relayed state) (live : Live number state)
    (there : state.rest.created[number]? = some (.failStartedJump error)) :
    Runs patientWorld Relayed number (failStartedJump config number error) (Ends number) state := by
  have stable : ∀ before after, Spares number before after →
      Live number before ∧ before.rest.created[number]? = some (.failStartedJump error) →
      Live number after ∧ after.rest.created[number]? = some (.failStartedJump error) :=
    fun _ _ spares knows => ⟨stable_live _ _ spares knows.1, created_stays spares.created knows.2⟩
  have fails := @keeps_failStartedJump number config _ stable
    (fun world stream knows pump => nomatch knows.2.symm.trans pump) error
      fun world kept knows attached opened => by
      -- It was created when the waiter had failed, which had closed the bridge.
      obtain ⟨last, waits, ended⟩ := kept.endings.failed (kept.endings.failing number error knows.2)
      have closed := kept.endings.closing last (waits.attached attached) ended
      exact absurd (opened.symm.trans closed) Bool.false_ne_true
  refine Coro.wp_mono ?_ (fails state ⟨holds, live, there⟩)
  rintro ended after ⟨kept, running, there⟩
  have other : ¬IsWaiter after.rest number := fun waiter => nomatch there.symm.trans waiter
  exact relayed_finish ⟨running.runs, running.begun, fun _ _ _ => .inr ⟨error, there⟩,
    fun waiter => absurd waiter other⟩ (fun waiter => absurd waiter other) kept

theorem body_ends (hasChannel : config.hasChannel = true) (turns : Nat)
    (begins : Begins BeginsWell number body state) (holds : Relayed state) :
    Runs patientWorld Relayed number (body.program config number turns) (Ends number)
      { state with rest := state.rest.begin number } := by
  have kept := relayed_begin (List.getElem?_eq_some_iff.mp begins.created).1 holds
  have takes := begins.turn body begins.created
  have live : Live number { state with rest := state.rest.begin number } := by
    refine ⟨?_, List.mem_append_right _ (List.mem_singleton.mpr rfl)⟩
    by_contra ended
    exact begins.unbegun (holds.made.ended number ended)
  have other : body ≠ .waitForProcess → ¬IsWaiter (state.rest.begin number) number :=
    fun apart waiter => apart (Option.some.inj (begins.created.symm.trans waiter))
  cases body with
  | startExec command =>
      exact startExec_ends hasChannel kept (starting_begins holds.sole begins.created begins.unbegun) live
  | sendUserInput jump seconds payload =>
      have works : Works { state with rest := state.rest.begin number } :=
        ⟨⟨takes.bridge, takes.recorder, takes.storage⟩, takes.process⟩
      refine Coro.wp_mono ?_ (sendUserInput_feeds works)
      rintro _ after ⟨rfl, written⟩
      have feeds : Still { state with rest := state.rest.begin number } { state with
          rest := InputOrder.fedWith [.data payload] (state.rest.begin number) } :=
        ⟨InputOrder.lone_fedWith, rfl, rfl, rfl, rfl, rfl, rfl, rfl, fun _ _ there => .inl there⟩
      have still := feeds.trans (.of_rest written.rest
        (written.works.bridge.trans works.bridge.symm) written.output)
      exact quietly_ends (stable_live _ _ (still.aside.spares number) live)
        (fun waiter => other nofun (still.waiter.mp waiter)) (still.relayed kept)
  | resizePty jump width height => exact resizePty_ends kept live (other nofun) takes
  | pumpOutput stream => exact pumpOutput_ends hasChannel turns kept ⟨live, begins.created⟩
  | waitForProcess => exact waitForProcess_ends hasChannel kept live begins.created
  | connectionLost jump lost now => exact absurd begins.created (holds.made.stays number jump lost now)
  | failStartedJump error => exact failStartedJump_ends kept live begins.created

/-- The last task is not cancelled before it begins. -/
theorem skipped_ends (begins : Begins BeginsWell number body state) (holds : Relayed state)
    (cancelled : number ∈ state.rest.cancelled) :
    Relayed { state with rest := (state.rest.begin number).finish number (.error .cancelledError) } := by
  have kept := relayed_begin (List.getElem?_eq_some_iff.mp begins.created).1 holds
  have unended : state.rest.outcomes number = none := by
    by_contra ended
    exact begins.unbegun (holds.made.ended number ended)
  have other : ¬IsWaiter state.rest number := by
    intro waiter
    have failed := holds.endings.cancelled number cancelled
    exact absurd ((holds.running (holds.waiter_last waiter) unended).1.symm.trans failed) Bool.false_ne_true
  have finishes : Finishes number (.error .cancelledError) { state with rest := state.rest.begin number } :=
    ⟨unended, List.mem_append_right _ (List.mem_singleton.mpr rfl),
      fun _ raised real => absurd (Except.error.inj raised).symm real, fun waiter => absurd waiter other⟩
  exact relayed_finish finishes (fun waiter => absurd waiter other) kept

theorem relayed_served (hasChannel : config.hasChannel = true) :
    Served patientWorld Relayed BeginsWell config where
  bodies _ turns _ _ begins holds _ := body_ends hasChannel turns begins holds
  skipped _ _ _ := skipped_ends
end Bodies

theorem relayed_new {path : Str} {digest : List ReplayLine → Str} {replayAudited : Bool} {header : ReplayLine}
    {columns : RowColumns} {termSize : Int × Int} {now : DateTime} {content : OutputStream → Bytes} :
    Relayed (newWorld path digest replayAudited header columns (Shell.new termSize now content)) where
  sole := sole_new
  output := ⟨fun _ => rfl, fun _ => List.nil_prefix, rfl, fun impossible => absurd rfl impossible,
    [], nofun, .inl rfl⟩
  made := ⟨nofun, fun _ impossible => absurd rfl impossible, fun _ _ _ => nofun, fun _ _ => nofun, nofun,
    fun _ _ _ _ => nofun⟩
  endings := ⟨nofun, nofun, nofun, nofun, nofun, nofun, nofun⟩

/-! A session of alice on node-01, whose process writes to both streams and ends. -/
open MandatoryCapture (configOne letsIn starting letsIn_given)
open ReplayTimes (answering answering_execs)
open InputOrder (working working_works)

/-- A pump reads all there is, and then the end. -/
def drains (stream : OutputStream) : (call : SessionCall) → ShellWorld →
    Except Exc (SessionResult call) × ShellWorld
  | .readOutput _, world =>
      let chunk := if world.rest.read stream = [] then world.rest.content stream else []
      (.ok chunk, { world with rest := { world.rest with
        read := Function.update world.rest.read stream (world.rest.read stream ++ chunk) } })
  | .processClosed, world => (.ok (), { world with rest := { world.rest with processEnded := true } })
  | .closeRow request, world => (.ok (), world.closeRow request)
  | call, world => letsIn call world

def isPump (stream : OutputStream) : Option TaskBody → Bool
  | some (.pumpOutput origin) => decide (origin = stream)
  | _ => false

def allRead (world : ShellWorld) : Bool :=
  world.rest.read .stdout == world.rest.content .stdout &&
    world.rest.read .stderr == world.rest.content .stderr

def draining (number : Nat) (stream : OutputStream) : SessionCall → ShellWorld → Bool
  | .readOutput count, world => isPump stream world.rest.created[number]? &&
      decide ((world.rest.content stream).length ≤ count) && working world &&
        world.rest.channelFault.isNone &&
      (world.rest.read stream == [] || world.rest.read stream == world.rest.content stream)
  | .processClosed, world => allRead world
  | .closeRow _, _ | .channelClosed _, _ | .writeAudit _, _ => true
  | call, world => starting call world && working world

theorem allRead_drained {world : ShellWorld} (all : allRead world = true) : Drained world.rest := by
  simp only [allRead, Bool.and_eq_true, beq_iff_eq] at all
  intro stream
  cases stream with
  | stdout => exact all.1
  | stderr => exact all.2

theorem drains_given {number : Nat} {stream : OutputStream} (call : SessionCall) (world : ShellWorld)
    (permitted : draining number stream call world = true) :
    patientWorld number call (drains stream call world).1 world (drains stream call world).2 := by
  cases call with
  | readOutput count =>
      simp only [draining, Bool.and_eq_true, Bool.or_eq_true, beq_iff_eq, decide_eq_true_eq,
        Option.isNone_iff_eq_none] at permitted
      obtain ⟨⟨⟨⟨pump, enough⟩, works⟩, takes⟩, progress⟩ := permitted
      have created : world.rest.created[number]? = some (.pumpOutput stream) := by
        unfold isPump at pump
        split at pump
        · rename_i origin there
          rw [← of_decide_eq_true pump]
          exact there
        · cases pump
      refine ⟨⟨⟨stream, created, ?_, ?_, ?_, rfl⟩, ?_⟩, trivial⟩
      · split <;> simp [enough]
      · rcases progress with none | all
        · simp [none]
        · rw [all]
          split <;> simp [*]
      · rcases progress with none | all
        · simp only [none, if_pos]
          exact fun nothing => nothing.symm
        · exact fun _ => all
      · have records := (working_works works).toRecords
        show Normal number (.readOutput count) (.ok _) world
        unfold Normal
        split <;> try trivial
        exact ⟨fun _ => ⟨records.recorder, records.storage⟩, takes⟩
  | processClosed => exact ⟨⟨rfl, trivial⟩, allRead_drained permitted⟩
  | closeRow request => exact ⟨⟨.inl rfl, trivial⟩, trivial⟩
  | channelClosed channelId => exact ⟨⟨rfl, trivial⟩, trivial⟩
  | writeAudit record => exact ⟨⟨rfl, trivial⟩, trivial⟩
  | createProcess connection =>
      have both : (starting (.createProcess connection) world && working world) = true := permitted
      exact ⟨⟨rfl, working_works (Bool.and_eq_true_iff.mp both).2⟩, trivial⟩
  | jump call =>
      obtain ⟨may, -⟩ := Bool.and_eq_true_iff.mp permitted
      exact ⟨⟨letsIn_given (.jump call) world may, trivial⟩, trivial⟩
  | _ => cases permitted

/-- A task that brings no input. -/
def bringsNone : TaskBody → Bool
  | .sendUserInput .. | .resizePty .. => false
  | _ => true

theorem relay_task {world : ShellWorld} {number : Nat} (turns : Nat)
    (made : (world.rest.created[number]?).isSome)
    (quiet : bringsNone ((world.rest.created[number]?).get made) = true) :
    relayPrograms configOne BeginsWell (.task number)
      (runTask configOne number turns ((world.rest.created[number]?).get made)) world := by
  refine ⟨⟨_, turns, (Option.some_get made).symm, rfl⟩, ?_⟩
  intro body there
  have same : (world.rest.created[number]?).get made = body := by simp [there]
  rw [same] at quiet
  cases body with
  | sendUserInput jump seconds payload => cases quiet
  | resizePty jump width height => cases quiet
  | _ => trivial

def exits (channel : List ChannelCall) : Bool := channel.any fun call => match call with
  | .exit _ => true
  | _ => false

theorem exits_exited {channel : List ChannelCall} (check : exits channel = true) : Exited channel := by
  obtain ⟨call, member, isExit⟩ := List.any_eq_true.mp check
  cases call with
  | exit status => exact ⟨status, member⟩
  | _ => cases isExit

end VibeConnect.OutputRelay
