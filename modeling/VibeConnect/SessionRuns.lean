import VibeConnect.JumpRules
import VibeConnect.ShellRules

/-! Invariants of the runs of a session. One task starts the jump, and what it sets is no other
task's; `session_holds` makes an invariant of all runs of what each task keeps from its first step on.
A `Law` is an invariant that most of what the session does cannot touch. -/
namespace VibeConnect.SessionRuns
open Python.Text Python.Values Python.Coroutine Python.Tasks Models JumpCoordinator Replay JumpBridge
open JumpRuns ShellSession ShellRules

/-! The task that starts the jump. -/
def IsExec (shell : Shell) (number : Nat) : Prop :=
  ∃ command, shell.created[number]? = some (TaskBody.startExec command)

def Single (shell : Shell) : Prop := ∀ first second, IsExec shell first → IsExec shell second → first = second

structure Sole (shell : Shell) : Prop where
  single : Single shell
  unstarted : shell.started = none → shell.bridge = none
  begun : shell.started ≠ none → ∃ number ∈ shell.begun, IsExec shell number

/-- A change that starts no jump, and begins and ends no task. -/
structure Lone (before after : Shell) : Prop where
  started : after.started = before.started
  bridge : after.bridge = before.bridge
  begun : after.begun = before.begun
  outcomes : after.outcomes = before.outcomes
  created : before.created <+: after.created
  single : Single before → Single after

/-- Nor does it reopen the bridge. -/
structure Aside (before after : ShellWorld) : Prop extends Lone before.rest after.rest where
  closed : before.bridgeClosed = true → after.bridgeClosed = true

/-- What the other tasks leave to a task. -/
structure Spares (number : Nat) (before after : ShellWorld) : Prop where
  created : before.rest.created <+: after.rest.created
  exec : IsExec before.rest number →
    after.rest.started = before.rest.started ∧ after.rest.bridge = before.rest.bridge
  begun : number ∈ after.rest.begun ↔ number ∈ before.rest.begun
  outcome : after.rest.outcomes number = before.rest.outcomes number
  closed : before.bridgeClosed = true → after.bridgeClosed = true

/-- What a task leaves to the others. -/
def Owes (number : Nat) (before after : ShellWorld) : Prop :=
  ∀ other, other ≠ number → Spares other before after

section Relations

theorem created_stays {before after : List TaskBody} {number : Nat} {body : TaskBody}
    (created : before <+: after) (there : before[number]? = some body) : after[number]? = some body := by
  obtain ⟨more, rfl⟩ := created
  rw [List.getElem?_append_left (List.getElem?_eq_some_iff.mp there).1]
  exact there

theorem IsExec.stays {before after : Shell} {number : Nat} (exec : IsExec before number)
    (created : before.created <+: after.created) : IsExec after number := by
  obtain ⟨command, there⟩ := exec
  exact ⟨command, created_stays created there⟩

theorem Spares.refl (number : Nat) (world : ShellWorld) : Spares number world world :=
  ⟨List.prefix_rfl, fun _ => ⟨rfl, rfl⟩, Iff.rfl, rfl, id⟩

theorem Spares.trans {number : Nat} {one two three : ShellWorld} (first : Spares number one two)
    (second : Spares number two three) : Spares number one three where
  created := first.created.trans second.created
  exec there := by
    obtain ⟨started, bridge⟩ := first.exec there
    obtain ⟨startedLater, bridgeLater⟩ := second.exec (there.stays first.created)
    exact ⟨startedLater.trans started, bridgeLater.trans bridge⟩
  begun := second.begun.trans first.begun
  outcome := second.outcome.trans first.outcome
  closed := second.closed ∘ first.closed

variable {before after : Shell}

theorem Lone.refl (shell : Shell) : Lone shell shell := ⟨rfl, rfl, rfl, rfl, List.prefix_rfl, id⟩

theorem Lone.trans {one two three : Shell} (first : Lone one two) (second : Lone two three) :
    Lone one three where
  started := second.started.trans first.started
  bridge := second.bridge.trans first.bridge
  begun := second.begun.trans first.begun
  outcomes := second.outcomes.trans first.outcomes
  created := first.created.trans second.created
  single := second.single ∘ first.single

theorem Lone.of_unseen (unseen : Unseen before after) : Lone before after := by
  refine ⟨unseen.started, unseen.bridge, unseen.begun, unseen.outcomes, by rw [unseen.created], ?_⟩
  unfold Single IsExec
  rw [unseen.created]
  exact id

/-- What is created last. -/
theorem createPump_created {shell : Shell} {body other : TaskBody} {number : Nat}
    (there : (shell.createPump body).created[number]? = some other) :
    shell.created[number]? = some other ∨ number = shell.created.length ∧ other = body := by
  change (shell.created ++ [body])[number]? = some other at there
  rw [List.getElem?_append] at there
  split at there
  · exact .inl there
  · rename_i long
    obtain ⟨first, same⟩ := List.getElem?_eq_some_iff.mp there
    have last : number = shell.created.length := by
      simp only [List.length_singleton] at first
      omega
    subst last
    simp only [Nat.sub_self, List.getElem_cons_zero] at same
    exact .inr ⟨rfl, same.symm⟩

theorem lone_creates {shell : Shell} {body : TaskBody}
    (first : ∀ command, body = .startExec command → ∀ other, TaskBody.startExec other ∉ shell.created) :
    Lone shell (shell.createPump body) where
  started := rfl
  bridge := rfl
  begun := rfl
  outcomes := rfl
  created := List.prefix_append _ _
  single single := by
    rintro one two ⟨oneCommand, oneThere⟩ ⟨twoCommand, twoThere⟩
    rcases createPump_created oneThere with oneEarlier | ⟨oneLast, oneSame⟩
    · rcases createPump_created twoThere with twoEarlier | ⟨-, twoSame⟩
      · exact single one two ⟨oneCommand, oneEarlier⟩ ⟨twoCommand, twoEarlier⟩
      · exact absurd (List.mem_of_getElem? oneEarlier) (first twoCommand twoSame.symm oneCommand)
    · rcases createPump_created twoThere with twoEarlier | ⟨twoLast, -⟩
      · exact absurd (List.mem_of_getElem? twoEarlier) (first oneCommand oneSame.symm twoCommand)
      · exact oneLast.trans twoLast.symm

theorem lone_fits {shell : Shell} (body : TaskBody) (fits : Fits shell body) :
    Lone shell (shell.createPump body) := by
  apply lone_creates
  rintro command rfl
  exact fits

theorem lone_input {shell : Shell} {jump : StartedJump} {seconds : Int} {payload : Bytes} :
    Lone shell (shell.createPump (.sendUserInput jump seconds payload)) :=
  lone_creates nofun

theorem lone_fed {shell : Shell} : Lone shell { shell with stdin := shell.stdin ++ [InputEvent.eof] } :=
  ⟨rfl, rfl, rfl, rfl, List.prefix_rfl, id⟩

theorem lone_exit {config : ShellConfig} {shell : Shell} (status : Int) :
    Lone shell (shell.exitChannel config status) := by
  unfold Shell.exitChannel
  split
  · exact ⟨rfl, rfl, rfl, rfl, List.prefix_rfl, id⟩
  · exact .refl shell

theorem lone_cancels {shell : Shell} {taskFailed lost : Bool} {cancelled : List Nat} : Lone shell { shell with
    taskFailed := taskFailed, lost := lost, cancelled := cancelled } :=
  ⟨rfl, rfl, rfl, rfl, List.prefix_rfl, id⟩

theorem lone_taskDone {config : ShellConfig} {shell : Shell} (number : Nat) :
    Lone shell (shell.taskDone config number) :=
  taskDone_moves (fun _ _ _ => .trans) (fun _ _ => .of_unseen) (fun _ => lone_fits)
    (fun _ _ _ => lone_cancels) (fun _ => lone_exit 1) number

theorem lone_callback {shell : Shell} {callback : Callback} (delivered : callback.Delivered shell) :
    Lone shell (callback.apply shell) :=
  callback_moves (fun _ _ _ => .trans) (fun _ _ => .of_unseen) (fun _ => lone_fits)
    (fun _ _ _ => lone_cancels) (fun _ _ _ _ => ⟨rfl, rfl, rfl, rfl, List.prefix_rfl, id⟩)
    (fun _ => lone_fed) (fun _ _ _ _ => lone_input) delivered

theorem Lone.sole (lone : Lone before after) (sole : Sole before) : Sole after where
  single := lone.single sole.single
  unstarted unstarted := by
    rw [lone.started] at unstarted
    rw [lone.bridge]
    exact sole.unstarted unstarted
  begun started := by
    rw [lone.started] at started
    obtain ⟨number, begun, exec⟩ := sole.begun started
    exact ⟨number, lone.begun ▸ begun, exec.stays lone.created⟩

theorem Lone.aside {world : ShellWorld} {rest : Shell} (lone : Lone world.rest rest) :
    Aside world { world with rest := rest } := ⟨lone, id⟩

theorem Aside.spares {before after : ShellWorld} (aside : Aside before after) (number : Nat) :
    Spares number before after where
  created := aside.created
  exec _ := ⟨aside.started, aside.bridge⟩
  begun := by rw [aside.begun]
  outcome := by rw [aside.outcomes]
  closed := aside.closed

theorem Aside.owes {before after : ShellWorld} {number : Nat} (aside : Aside before after) :
    Owes number before after := fun other _ => aside.spares other

/-- A change that leaves the session alone. -/
theorem Aside.of_rest {before after : ShellWorld} (rest : after.rest = before.rest)
    (closed : after.bridgeClosed = before.bridgeClosed) : Aside before after := by
  refine ⟨?_, fun was => closed.trans was⟩
  rw [rest]
  exact .refl _

theorem recordEvent_rest (seconds : Int) (stream : String) (payload : Bytes) (world : ShellWorld) :
    (JumpPtyBridge.recordEvent seconds stream payload world).2.rest = world.rest ∧
      (JumpPtyBridge.recordEvent seconds stream payload world).2.bridgeClosed = world.bridgeClosed := by
  rcases recordEvent_cases seconds stream payload world with ⟨-, -, done⟩ | ⟨_, _, raised, -⟩
  · rw [done]
    exact ⟨rfl, rfl⟩
  · rw [raised]
    exact ⟨rfl, rfl⟩

theorem sole_new {termSize : Int × Int} {now : DateTime} {content : OutputStream → Bytes} :
    Sole (Shell.new termSize now content) where
  single _ _ := fun ⟨_, impossible⟩ => nomatch impossible
  unstarted _ := rfl
  begun impossible := absurd rfl impossible

theorem sole_begin {shell : Shell} (number : Nat) (sole : Sole shell) : Sole (shell.begin number) where
  single := sole.single
  unstarted := sole.unstarted
  begun started := by
    obtain ⟨other, begun, exec⟩ := sole.begun started
    exact ⟨other, List.mem_append_left _ begun, exec⟩

theorem owes_begin (number : Nat) (world : ShellWorld) :
    Owes number world { world with rest := world.rest.begin number } := by
  intro other apart
  refine ⟨List.prefix_rfl, fun _ => ⟨rfl, rfl⟩, ?_, rfl, id⟩
  show other ∈ world.rest.begun ++ [number] ↔ other ∈ world.rest.begun
  rw [List.mem_append, List.mem_singleton]
  exact or_iff_left apart

theorem owes_finish (number : Nat) (ended : Except Exc Unit) (world : ShellWorld) :
    Owes number world { world with rest := world.rest.finish number ended } :=
  fun _ apart => ⟨List.prefix_rfl, fun _ => ⟨rfl, rfl⟩, Iff.rfl, Function.update_of_ne apart _ _, id⟩
end Relations

/-! What the task that starts the jump knows on its way. -/
section Starting
variable {number : Nat} {world : ShellWorld}

/-- Nothing has started yet. -/
structure Starting (number : Nat) (world : ShellWorld) : Prop where
  exec : IsExec world.rest number
  begun : number ∈ world.rest.begun
  unstarted : world.rest.started = none

/-- There is no bridge yet. -/
structure Unattached (number : Nat) (world : ShellWorld) : Prop where
  exec : IsExec world.rest number
  unattached : world.rest.bridge = none

/-- The jump has started, and there is no bridge yet. -/
structure Attaching (number : Nat) (world : ShellWorld) : Prop extends Unattached number world where
  started : world.rest.started ≠ none

theorem stable_starting : ∀ before after, Spares number before after → Starting number before →
    Starting number after := by
  rintro before after spares ⟨exec, begun, unstarted⟩
  exact ⟨exec.stays spares.created, spares.begun.mpr begun, (spares.exec exec).1.trans unstarted⟩

theorem stable_attaching : ∀ before after, Spares number before after → Attaching number before →
    Attaching number after := by
  rintro before after spares ⟨⟨exec, unattached⟩, started⟩
  obtain ⟨sameJump, sameBridge⟩ := spares.exec exec
  exact ⟨⟨exec.stays spares.created, sameBridge.trans unattached⟩, by rw [sameJump]; exact started⟩

theorem sole_started (jump : StartedJump) (sole : Sole world.rest) (starting : Starting number world) :
    Sole { world.rest with started := some jump } where
  single := sole.single
  unstarted impossible := nomatch impossible
  begun _ := ⟨number, starting.begun, starting.exec⟩

theorem sole_attached (jump : StartedJump) (sole : Sole world.rest) (attaching : Attaching number world) :
    Sole { world.rest with bridge := some jump } where
  single := sole.single
  unstarted unstarted := absurd unstarted attaching.started
  begun := sole.begun

/-- A task that begins to start the jump is the first to do so. -/
theorem starting_begins {command : Str} (sole : Sole world.rest)
    (created : world.rest.created[number]? = some (.startExec command)) (unbegun : number ∉ world.rest.begun) :
    Starting number { world with rest := world.rest.begin number } := by
  have exec : IsExec world.rest number := ⟨command, created⟩
  refine ⟨exec, List.mem_append_right _ (List.mem_singleton.mpr rfl), ?_⟩
  by_contra started
  obtain ⟨other, begun, another⟩ := sole.begun started
  rw [sole.single other number another exec] at begun
  exact unbegun begun

/-- What the one task that starts the jump sets is no other's. -/
theorem owes_exec {rest : Shell} (sole : Sole world.rest) (exec : IsExec world.rest number)
    (created : rest.created = world.rest.created) (begun : rest.begun = world.rest.begun)
    (outcomes : rest.outcomes = world.rest.outcomes) :
    Owes number world { world with rest := rest } := by
  intro other apart
  refine ⟨?_, fun another => absurd (sole.single other number another exec) apart, ?_, ?_, id⟩
  · show world.rest.created <+: rest.created
    rw [created]
  · show other ∈ rest.begun ↔ other ∈ world.rest.begun
    rw [begun]
  · show rest.outcomes other = world.rest.outcomes other
    rw [outcomes]
end Starting

/-! The loop. -/

/-- A task relies on what the others leave to it; everything else leaves each task what it needs. -/
def contracts : LoopKey → Contract ShellWorld Exc Unit
  | .task number => ⟨Spares number, Owes number, fun _ _ => True⟩
  | _ => ⟨fun _ _ => True, fun before after => ∀ number, Spares number before after, fun _ _ => True⟩

theorem contracts_lawful (key : LoopKey) : (contracts key).Lawful := by
  cases key with
  | task number =>
      exact {
        rely_refl := .refl number
        rely_trans := fun _ _ _ => .trans
        guarantee_refl := fun world other _ => .refl other world
        guarantee_trans := fun _ _ _ first second other apart => (first other apart).trans (second other apart)
        stable := fun _ _ _ _ _ => trivial }
  | _ =>
      exact {
        rely_refl := fun _ => trivial
        rely_trans := fun _ _ _ _ _ => trivial
        guarantee_refl := fun world number => .refl number world
        guarantee_trans := fun _ _ _ first second number => (first number).trans (second number)
        stable := fun _ _ _ _ _ => trivial }

/-- What one does is fine with another. -/
theorem contracts_spare {key : LoopKey} {number : Nat} {before after : ShellWorld}
    (apart : key ≠ .task number) (owed : (contracts key).guarantee before after) :
    Spares number before after := by
  cases key with
  | task other => exact owed number fun same => apart (congrArg LoopKey.task same.symm)
  | _ => exact owed number

theorem contracts_others (key other : LoopKey) (before after : ShellWorld) (apart : key ≠ other)
    (owed : (contracts key).guarantee before after) : (contracts other).rely before after := by
  cases other with
  | task number => exact contracts_spare apart owed
  | _ => trivial

theorem contracts_aside {before after : ShellWorld} (key : LoopKey) (aside : Aside before after) :
    (contracts key).guarantee before after := by
  cases key with
  | task number => exact aside.owes
  | _ => exact aside.spares

/-- A task that the loop has not started has not begun. -/
def Unbegun : LoopKey → ShellWorld → Prop
  | .task number, world => number ∉ world.rest.begun
  | _, _ => True

theorem unbegun_untouched (key other : LoopKey) (before after : ShellWorld) (apart : key ≠ other)
    (owed : (contracts key).guarantee before after) (unbegun : Unbegun other before) :
    Unbegun other after := by
  cases other with
  | task number => exact fun begun => unbegun ((contracts_spare apart owed).begun.mp begun)
  | _ => trivial

/-! The rules for what a task keeps of an invariant. -/

/-- A program of a task that keeps an invariant at every suspension. -/
abbrev Runs (worlds : Nat → World ShellWorld SessionResult Exc) (inv : ShellWorld → Prop) (number : Nat)
    {α : Type} (program : ShellTask α) (post : Except Exc α → ShellWorld → Prop) (state : ShellWorld) :
    Prop :=
  program.wp (answered (worlds number) inv (Spares number)) (obliged inv (Owes number)) post state

def Keeps (worlds : Nat → World ShellWorld SessionResult Exc) (inv : ShellWorld → Prop) (number : Nat)
    (known : ShellWorld → Prop) (α : Type) (program : ShellTask α) : Prop :=
  ∀ state, inv state ∧ known state →
    Runs worlds inv number program (fun _ after => inv after ∧ known after) state

/-- Nothing besides. -/
def Anything (_ : ShellWorld) : Prop := True

theorem stable_anything {number : Nat} : ∀ before after, Spares number before after →
    Anything before → Anything after := fun _ _ _ _ => trivial

/-- The changes that keep an invariant whatever else is known. -/
structure Calms (inv : ShellWorld → Prop) (calm : ShellWorld → ShellWorld → Prop) : Prop where
  keeps : ∀ before after, calm before after → inv before → inv after
  aside : ∀ before after, calm before after → Aside before after

section Rules
variable {worlds : Nat → World ShellWorld SessionResult Exc} {inv : ShellWorld → Prop}
  {calm : ShellWorld → ShellWorld → Prop} {number : Nat} {known : ShellWorld → Prop} {config : ShellConfig}
  {state : ShellWorld}

theorem keeps_composes : Coro.Composes (Keeps worlds inv number known) := Coro.wp_composes _ _ _

theorem keeps_look : Keeps worlds inv number known _ look := fun _ holds => look_safe holds

theorem Keeps.runs {α : Type} {program : ShellTask α} (keeps : Keeps worlds inv number known α program)
    (holds : inv state) (knows : known state) :
    Runs worlds inv number program (fun _ after => inv after) state :=
  Coro.wp_mono (fun _ _ kept => kept.1) (keeps state ⟨holds, knows⟩)

variable (calms : Calms inv calm)
  (stable : ∀ before after, Spares number before after → known before → known after)
include calms stable

theorem calm_kept {before after : ShellWorld} (quiet : calm before after)
    (holds : inv before ∧ known before) : inv after ∧ known after :=
  ⟨calms.keeps _ _ quiet holds.1, stable _ _ ((calms.aside _ _ quiet).spares number) holds.2⟩

theorem keeps_call {call : SessionCall}
    (answers : ∀ answer before after, worlds number call answer before after → calm before after) :
    Keeps worlds inv number known _ (waitFor call) := by
  rintro state ⟨holds, knows⟩
  apply call_safe holds
  intro answer resumed after relied still given
  exact calm_kept calms stable (answers _ _ _ given) ⟨still, stable _ _ relied knows⟩

theorem keeps_update {change : ShellWorld → ShellWorld} (quiet : ∀ world, calm world (change world)) :
    Keeps worlds inv number known _ (update change) := fun state holds =>
  update_safe (calms.aside _ _ (quiet state)).owes (calm_kept calms stable (quiet state) holds)

theorem keeps_change {α : Type} {block : ShellWorld → Except Exc α × ShellWorld}
    (quiet : ∀ world, calm world (block world).2) : Keeps worlds inv number known _ (change block) :=
  fun state holds =>
    change_safe (calms.aside _ _ (quiet state)).owes (calm_kept calms stable (quiet state) holds)

/-- The task that starts the jump: what is left is to attach the process that was made, and to handle
the faults. -/
theorem startExec_runs {command : Str} {post : Except Exc Unit → ShellWorld → Prop}
    (sole : ∀ world, inv world → Sole world.rest)
    (jumps : ∀ call answer before after, worlds number (.jump call) answer before after → calm before after)
    (makes : ∀ connection answer before after,
      worlds number (.createProcess connection) answer before after → calm before after)
    (starts : ∀ world jump, inv world → Starting number world → known world →
      let begun := { world with rest := { world.rest with started := some jump } }
      inv begun ∧ known begun)
    (faults : ∀ raised world, inv world → Unattached number world → known world →
      Runs worlds inv number (execFault config number raised) post world)
    (attaches : ∀ jump connection before after, worlds number (.createProcess connection) (.ok ()) before after →
      inv after → Attaching number after → known after → Runs worlds inv number (attach config jump)
        (Coro.either (fun done => post (.ok done))
          fun raised => Runs worlds inv number (execFault config number raised) post) after)
    (holds : inv state) (starting : Starting number state) (knows : known state) :
    Runs worlds inv number (startExec config number command) post state := by
  have both : ∀ before after, Spares number before after → Starting number before ∧ known before →
      Starting number after ∧ known after :=
    fun _ _ spares knows => ⟨stable_starting _ _ spares knows.1, stable _ _ spares knows.2⟩
  have started : ∀ width height, Keeps worlds inv number (fun world => Starting number world ∧ known world) _
      (JumpCoordinator.startExec ask config.coordinatorAudited config.sessionUuid config.channelUuid
        config.identity command width height) := fun _ _ =>
    JumpRules.startExec_composes keeps_composes fun call => keeps_call calms both (jumps call)
  refine Coro.wp_handle (Coro.wp_bind (look_safe ?_))
  refine Coro.wp_bind (Coro.wp_mono ?_ (started _ _ state ⟨holds, starting, knows⟩))
  rintro answer world ⟨kept, still, knowing⟩
  have alone := (sole world kept).unstarted still.unstarted
  cases answer with
  | error fault => exact faults fault world kept ⟨still.exec, alone⟩ knowing
  | ok jump =>
      obtain ⟨begun, knowing⟩ := starts world jump kept still knowing
      have attaching : Attaching number { world with rest := { world.rest with started := some jump } } :=
        ⟨⟨still.exec, alone⟩, Option.some_ne_none jump⟩
      refine Coro.wp_bind (update_safe (owes_exec (sole world kept) still.exec rfl rfl rfl) ?_)
      refine Coro.wp_bind (call_safe begun ?_)
      intro answer resumed after relied later given
      have quiet := makes _ _ _ _ given
      have ready := stable_attaching _ _ ((calms.aside _ _ quiet).spares number)
        (stable_attaching _ _ relied attaching)
      obtain ⟨kept, knowing⟩ := calm_kept calms stable quiet ⟨later, stable _ _ relied knowing⟩
      cases answer with
      | error fault => exact faults fault after kept ready.toUnattached knowing
      | ok _ =>
          refine Coro.wp_mono ?_ (attaches jump _ resumed after given kept ready knowing)
          rintro (fault | done) final last
          · exact last
          · exact last
end Rules

/-! Invariants that most of what a session does cannot touch. -/
structure Law (worlds : Nat → World ShellWorld SessionResult Exc) (inv : ShellWorld → Prop)
    (calm : ShellWorld → ShellWorld → Prop) : Prop extends Calms inv calm where
  sole : ∀ world, inv world → Sole world.rest
  answers : ∀ number call answer before after, worlds number call answer before after → calm before after
  unseen : ∀ (world : ShellWorld) rest, Unseen world.rest rest → calm world { world with rest := rest }
  exits : ∀ (world : ShellWorld) config status,
    calm world { world with rest := world.rest.exitChannel config status }
  closes : ∀ (world : ShellWorld) status now, calm world (JumpPtyBridge.beginClose status now world).2
  asks : ∀ (world : ShellWorld) channelId, calm world { world with
    channelAsked := true, rest := nodeChannel.closing channelId world.rest }
  fails : ∀ world : ShellWorld, calm world (onRecorder (fun faults recorder => recorder.fail faults) world).2
  starts : ∀ world number jump, inv world → Starting number world →
    inv { world with rest := { world.rest with started := some jump } }
  finishes : ∀ world number ended, inv world → inv { world with rest := world.rest.finish number ended }

section Laws
variable {worlds : Nat → World ShellWorld SessionResult Exc} {inv : ShellWorld → Prop}
  {calm : ShellWorld → ShellWorld → Prop} {number : Nat} {known : ShellWorld → Prop} {config : ShellConfig}
  {state : ShellWorld} (law : Law worlds inv calm)
  (stable : ∀ before after, Spares number before after → known before → known after)
include law stable

theorem keeps_waitFor (call : SessionCall) : Keeps worlds inv number known _ (waitFor call) :=
  keeps_call law.toCalms stable fun _ _ _ => law.answers _ _ _ _ _

theorem keeps_closes (status : SessionStatus) (now : DateTime) :
    Keeps worlds inv number known _ (change (JumpPtyBridge.beginClose status now)) :=
  keeps_change law.toCalms stable fun world => law.closes world status now

theorem keeps_asks (channelId : TunnelState.ChannelId) :
    Keeps worlds inv number known _ (update fun world : ShellWorld => { world with
      channelAsked := true, rest := nodeChannel.closing channelId world.rest }) :=
  keeps_update law.toCalms stable fun world => law.asks world channelId

theorem keeps_noteCloser : Keeps worlds inv number known _ (noteCloser number) :=
  keeps_update law.toCalms stable fun world => law.unseen world _ rfl

theorem keeps_connectionLost {jump : StartedJump} {lost : Option Str} {now : DateTime} :
    Keeps worlds inv number known _ ((bridgeOf config jump).connectionLost lost now) :=
  connectionLost_composes keeps_composes (keeps_waitFor law stable) (keeps_asks law stable)
    (keeps_closes law stable)

theorem keeps_lostTask {jump : StartedJump} {lost : Option Str} {now : DateTime} (turns : Nat) :
    Keeps worlds inv number known _ ((TaskBody.connectionLost jump lost now).program config number turns) :=
  keeps_composes.sequel (keeps_noteCloser law stable) fun _ => keeps_connectionLost law stable

theorem keeps_failStartedJump {error : Str} :
    Keeps worlds inv number known _ (failStartedJump config number error) :=
  failStartedJump_composes keeps_composes (keeps_waitFor law stable) (keeps_asks law stable)
    (keeps_closes law stable) keeps_look (keeps_noteCloser law stable)
    (keeps_change law.toCalms stable law.fails)

theorem keeps_exit (status : Int) :
    Keeps worlds inv number known _ (onShell (Shell.exitChannel config status)) :=
  keeps_update law.toCalms stable fun world => law.exits world config status

theorem keeps_waitForProcess : Keeps worlds inv number known _ (waitForProcess config number) :=
  waitForProcess_composes keeps_composes (keeps_waitFor law stable) (keeps_asks law stable)
    (keeps_closes law stable) keeps_look (keeps_noteCloser law stable) (keeps_exit law stable 0)

theorem keeps_resizePty {jump : StartedJump} {width height : Int} :
    Keeps worlds inv number known _ ((bridgeOf config jump).resizePty width height) := by
  apply resizePty_composes keeps_composes keeps_look
  apply keeps_change law.toCalms stable
  intro world
  unfold onRest Shell.changeTerminalSize
  split <;> exact law.unseen world _ (.refl _)

theorem keeps_execFault (raised : Exc) : Keeps worlds inv number known _ (execFault config number raised) := by
  have composes : Coro.Composes (Keeps worlds inv number known) := keeps_composes
  unfold execFault
  split
  · exact keeps_exit law stable 1
  split
  · exact composes.sequel (keeps_failStartedJump law stable) fun _ => keeps_exit law stable 1
  · exact composes.raises _

omit stable in
/-- The task that starts the jump, if attaching the process keeps the invariant. -/
theorem exec_runs {command : Str} (holds : inv state) (starting : Starting number state)
    (attaches : ∀ jump connection before after,
      worlds number (.createProcess connection) (.ok ()) before after → inv after → Attaching number after →
        Runs worlds inv number (attach config jump) (fun _ after => inv after) after) :
    Runs worlds inv number (startExec config number command) (fun _ after => inv after) state := by
  have handles : ∀ raised world, inv world →
      Runs worlds inv number (execFault config number raised) (fun _ after => inv after) world :=
    fun raised world kept => (keeps_execFault law stable_anything raised).runs kept trivial
  refine startExec_runs law.toCalms stable_anything law.sole (fun _ _ _ _ => law.answers _ _ _ _ _)
    (fun _ _ _ _ => law.answers _ _ _ _ _) (fun world jump kept still _ => ⟨law.starts world _ jump kept still, trivial⟩)
    (fun raised world kept _ _ => handles raised world kept) ?_ holds starting trivial
  intro jump connection before after given kept attaching _
  refine Coro.wp_mono ?_ (attaches jump connection before after given kept attaching)
  rintro (fault | done) final last
  · exact handles fault final last
  · exact last
end Laws

/-! The runs. -/
section Runs
variable {worlds : Nat → World ShellWorld SessionResult Exc} {inv : ShellWorld → Prop}
  {turn : Nat → ShellWorld → Prop} {config : ShellConfig}

/-- What is known of a task that begins. -/
structure Begins (turn : Nat → ShellWorld → Prop) (number : Nat) (body : TaskBody) (world : ShellWorld) :
    Prop where
  created : world.rest.created[number]? = some body
  unbegun : number ∉ world.rest.begun
  turn : turn number world

/-- What a task keeps of an invariant from its first step to its end. -/
structure Served (worlds : Nat → World ShellWorld SessionResult Exc) (inv : ShellWorld → Prop)
    (turn : Nat → ShellWorld → Prop) (config : ShellConfig) : Prop where
  bodies : ∀ number turns body world, Begins turn number body world → inv world →
    number ∉ world.rest.cancelled → Runs worlds inv number (body.program config number turns)
      (fun ended after => inv { after with rest := after.rest.finish number ended })
      { world with rest := world.rest.begin number }
  skipped : ∀ number body world, Begins turn number body world → inv world →
    number ∈ world.rest.cancelled →
    inv { world with rest := (world.rest.begin number).finish number (.error .cancelledError) }

/-- A law serves the tasks that keep it from their first step on. -/
theorem Law.served {calm : ShellWorld → ShellWorld → Prop} (law : Law worlds inv calm)
    (begins : ∀ number body world, Begins turn number body world → inv world →
      number ∈ world.rest.cancelled → inv { world with rest := world.rest.begin number })
    (bodies : ∀ number turns body world, Begins turn number body world → inv world →
      number ∉ world.rest.cancelled → Runs worlds inv number (body.program config number turns)
        (fun _ after => inv after) { world with rest := world.rest.begin number }) :
    Served worlds inv turn config where
  bodies number turns body world begun holds live :=
    Coro.wp_mono (fun ended after => law.finishes after number ended)
      (bodies number turns body world begun holds live)
  skipped number body world begun holds cancelled :=
    law.finishes _ number _ (begins number body world begun holds cancelled)

variable (served : Served worlds inv turn config)
include served

theorem runTask_runs {number : Nat} (turns : Nat) {body : TaskBody} {state : ShellWorld}
    (begins : Begins turn number body state) (holds : inv state) :
    Runs worlds inv number (runTask config number turns body) (fun _ after => inv after) state := by
  refine Coro.wp_bind (update_safe (owes_begin number state) (Coro.wp_bind (look_safe ?_)))
  dsimp only
  split
  · rename_i cancelled
    exact update_safe (owes_finish number _ _) (served.skipped number body state begins holds cancelled)
  · rename_i live
    have ran := served.bodies number turns body state begins holds live
    refine Coro.wp_bind (Coro.wp_outcome (Coro.wp_mono ?_ ran))
    exact fun ended after kept => update_safe (owes_finish number ended after) kept

/-- What every task keeps, and every callback and change around, holds in every run. -/
theorem session_holds {programs : LoopKey → ShellTask Unit → ShellWorld → Prop}
    (tasks : ∀ number program world, programs (.task number) program world → ∃ body turns,
      world.rest.created[number]? = some body ∧ program = runTask config number turns body ∧
        turn number world)
    (others : ∀ key program world, (∀ number, key ≠ .task number) → programs key program world →
      inv world → ∃ change : ShellWorld → ShellWorld,
        program = update change ∧ inv (change world) ∧ Aside world (change world))
    (answers : ∀ number call answer before after, worlds number call answer before after →
      Aside before after)
    {start : ShellWorld} (initial : inv start) (fresh : start.rest.begun = []) {pool : ShellPool}
    (reached : Reachable (loopWorld worlds) programs start pool) : inv pool.state := by
  have beside : ∀ key program world, (∀ number, key ≠ .task number) → programs key program world →
      inv world → Safe (loopWorld worlds key) inv (contracts key) program world := by
    intro key program world other started holds
    obtain ⟨change, rfl, kept, aside⟩ := others key program world other started holds
    refine update_safe (contracts_aside key aside) ⟨kept, ?_⟩
    cases key <;> trivial
  have starts : ∀ key program world, programs key program world → inv world → Unbegun key world →
      Safe (loopWorld worlds key) inv (contracts key) program world := by
    intro key program world started holds unbegun
    cases key with
    | task number =>
        obtain ⟨body, turns, created, rfl, turn⟩ := tasks number program world started
        exact Coro.wp_mono (fun _ _ kept => ⟨kept, trivial⟩)
          (runTask_runs served turns ⟨created, unbegun, turn⟩ holds)
    | _ => exact beside _ _ _ (fun _ impossible => nomatch impossible) started holds
  have worldly : ∀ key call answer before after, loopWorld worlds key call answer before after →
      (contracts key).guarantee before after := by
    intro key call answer before after given
    cases key with
    | task number => exact (answers number call answer before after given).owes
    | _ => exact given.elim
  have unbegun : ∀ key, Unbegun key start := by
    intro key
    cases key with
    | task number =>
        show number ∉ start.rest.begun
        rw [fresh]
        exact List.not_mem_nil
    | _ => trivial
  exact (reachable_quiet Unbegun contracts_lawful contracts_others unbegun_untouched worldly starts
    initial unbegun reached).1.1
end Runs

end VibeConnect.SessionRuns
