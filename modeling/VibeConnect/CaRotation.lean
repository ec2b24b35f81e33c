import VibeConnect.AdminService
import VibeConnect.Python.Calls

/-! CA rotation among any number of administrators. Each statement of a call takes effect
as a whole, and the statements of different calls come in any order. What a completion has
read it may still rely on when it updates: the fingerprints of a row never change. -/
namespace VibeConnect.CaRotation
open Python.Text Python.JsonCodec Python.Values Python.Coroutine Python.Tasks Models JumpCoordinator
open Enrollment AuditWriter AdminService

/-- One statement that ran: the call it is of, and the rotations before and after it. -/
structure Ran where
  task : Nat
  before : List RotationRow
  after : List RotationRow

structure RotationWorld where
  tables : AdminTables
  ran : List Ran

namespace RotationWorld
variable (world : RotationWorld)

def rotations : List RotationRow := world.tables.rotations

/-- A statement of a call took effect. -/
def wrote (task : Nat) (tables : AdminTables) : RotationWorld :=
  ⟨tables, world.ran ++ [⟨task, world.rotations, tables.rotations⟩]⟩

/-- The statements of one call. -/
def own (task : Nat) : List Ran := world.ran.filter fun ran => ran.task == task
end RotationWorld

inductive RotationCommand where
  | start (draws : AdminDraws) (keyName old new : Str) (trusted : List Str) (actor : Str)
      (now : DateTime)
  | complete (draws : AdminDraws) (rotationId : Uuid) (trusted : List Str) (actor : Str)
      (now : DateTime)

namespace RotationCommand
/-- The rotation that a call is to complete. -/
def completing : RotationCommand → Option Uuid
  | start .. => none
  | complete _ rotationId .. => some rotationId

def call (config : AdminConfig) : RotationCommand → AdminTask Unit
  | start draws keyName old new trusted actor now => do
      let _ ← startCaRotation config draws keyName old new trusted actor now
      pure ()
  | complete draws rotationId trusted actor now => do
      let _ ← completeCaRotation config draws rotationId trusted actor now
      pure ()
end RotationCommand

/-- The database and its client raise no `AdminError`. -/
def Outside (raised : Exc) : Prop := ∀ message, raised ≠ .adminError message

/-- A statement takes effect and is answered, or its answer is lost, or it has no effect and
the call is told so. Neither does a call that is cancelled there learn which it was. -/
def administration (task : Nat) : World RotationWorld AdminAns Exc
  | .execute statement, answer, before, after =>
      (∃ result tables, statement.run before.tables = .ok (result, tables) ∧
        after = before.wrote task tables ∧
        (answer = .ok result ∨ ∃ raised, Outside raised ∧ answer = .error raised)) ∨
      (∃ raised, Outside raised ∧ answer = .error raised) ∧ after = before
  | .insertAudit _, answer, before, after =>
      (answer = .ok () ∨ ∃ raised, Outside raised ∧ answer = .error raised) ∧ after = before

abbrev RotationPool := Pool Nat RotationWorld AdminAns Exc

/-- The call of each number, started at any time or never. -/
def programs (configs : Nat → AdminConfig) (commands : Nat → RotationCommand) (task : Nat)
    (program : Task RotationWorld AdminAns Exc Unit) (_ : RotationWorld) : Prop :=
  program = calling ((commands task).call (configs task))

section Rows
variable (commands : Nat → RotationCommand)

/-- The call started this rotation, with distinct fingerprints that its bundle trusts. -/
def StartedBy (task : Nat) (row : RotationRow) : Prop :=
  ∃ draws keyName old new trusted actor now,
    commands task = .start draws keyName old new trusted actor now ∧
    old ≠ new ∧ old ∈ trusted ∧ new ∈ trusted ∧
    row.id = draws.rotationId ∧ row.oldFingerprint = old ∧ row.newFingerprint = new

/-- The call completes this rotation, with a bundle that trusts the new fingerprint only. -/
def CompletedBy (task : Nat) (row : RotationRow) : Prop :=
  ∃ draws rotationId trusted actor now,
    commands task = .complete draws rotationId trusted actor now ∧
    row.id = rotationId ∧ row.newFingerprint ∈ trusted ∧ row.oldFingerprint ∉ trusted

/-- What the update makes of the rotations. -/
def completed (rotationId : Uuid) (now : DateTime) (rotations : List RotationRow) :
    List RotationRow :=
  rotations.map fun row => if row.startedAs rotationId then row.complete now else row

def Ran.Completes (rotationId : Uuid) (ran : Ran) : Prop :=
  (∃ row ∈ ran.before, row.startedAs rotationId = true) ∧
    ∃ now, ran.after = completed rotationId now ran.before

/-- No rotation is completed by both. -/
def Ran.Apart (one two : Ran) : Prop := ∀ rotationId, one.Completes rotationId → ¬two.Completes rotationId

instance : Std.Symm Ran.Apart where
  symm _ _ apart rotationId second first := apart rotationId first second

/-- What a statement may do to the rotations, by the call it is of. -/
inductive Explained (ran : Ran) : Prop
  | unchanged : ran.after = ran.before → Explained ran
  | started {row} : StartedBy commands ran.task row → (∀ old ∈ ran.before, old.id ≠ row.id) →
      row.status = lit "started" → row.completedAt = none → ran.after = ran.before ++ [row] →
      Explained ran
  | completed {row} : CompletedBy commands ran.task row → row ∈ ran.before →
      ran.Completes row.id → Explained ran

/-- A row and the calls that it owes its state to. -/
structure RowSound (world : RotationWorld) (row : RotationRow) : Prop where
  starts : ∃ ran ∈ world.ran, StartedBy commands ran.task row
  completes : row.status = lit "completed" → ∃ ran ∈ world.ran, CompletedBy commands ran.task row
  known : row.status = lit "started" ∨ row.status = lit "completed"
  stamped : row.completedAt.isSome ↔ row.status = lit "completed"

/-- What holds of the rotations after each statement. -/
structure Kept (world : RotationWorld) : Prop where
  explained : ∀ ran ∈ world.ran, Explained commands ran
  ids : (world.rotations.map RotationRow.id).Nodup
  rows : ∀ row ∈ world.rotations, RowSound commands world row
  once : world.ran.Pairwise Ran.Apart
  finished : ∀ ran ∈ world.ran, ∀ rotationId, ran.Completes rotationId →
    ∃ row ∈ world.rotations, row.id = rotationId ∧ row.status = lit "completed"

/-- A row later on. -/
structure Follows (row later : RotationRow) : Prop where
  id : later.id = row.id
  oldFingerprint : later.oldFingerprint = row.oldFingerprint
  newFingerprint : later.newFingerprint = row.newFingerprint
  status : row.status = lit "completed" → later.status = lit "completed"

def Keeps (before after : List RotationRow) : Prop :=
  ∀ row ∈ before, ∃ later ∈ after, Follows row later
end Rows

section Rows
variable {commands : Nat → RotationCommand} {world : RotationWorld} {ran : Ran}
  {rotations before after : List RotationRow} {row : RotationRow} {rotationId : Uuid}
  {now : DateTime}

theorem started_open (started : row.startedAs rotationId = true) :
    row.id = rotationId ∧ row.status = lit "started" := by
  unfold RotationRow.startedAs at started
  simpa only [Bool.and_eq_true, decide_eq_true_eq, beq_iff_eq] using started

theorem completed_not_started : lit "completed" ≠ lit "started" := by decide

theorem keeps_refl (rotations : List RotationRow) : Keeps rotations rotations :=
  fun row member => ⟨row, member, rfl, rfl, rfl, id⟩

theorem keeps_trans {middle : List RotationRow} (first : Keeps before middle)
    (second : Keeps middle after) : Keeps before after := by
  intro row member
  obtain ⟨next, there, one⟩ := first row member
  obtain ⟨later, present, two⟩ := second next there
  exact ⟨later, present, two.id.trans one.id, two.oldFingerprint.trans one.oldFingerprint,
    two.newFingerprint.trans one.newFingerprint, two.status ∘ one.status⟩

theorem completed_ids (rotationId : Uuid) (now : DateTime) (rotations : List RotationRow) :
    (completed rotationId now rotations).map RotationRow.id = rotations.map RotationRow.id := by
  unfold completed
  rw [List.map_map]
  apply List.map_congr_left
  intro row _
  dsimp only [Function.comp]
  split <;> rfl

theorem completed_keeps (rotationId : Uuid) (now : DateTime) (rotations : List RotationRow) :
    Keeps rotations (completed rotationId now rotations) := by
  intro row member
  refine ⟨_, List.mem_map_of_mem member, ?_⟩
  split
  · exact ⟨rfl, rfl, rfl, fun _ => rfl⟩
  · exact ⟨rfl, rfl, rfl, id⟩

/-- No update of a rotation finds two rows. -/
theorem same_row (ids : (rotations.map RotationRow.id).Nodup) {one two : RotationRow}
    (first : one ∈ rotations) (second : two ∈ rotations) (same : one.id = two.id) : one = two :=
  List.inj_on_of_nodup_map ids first second same

theorem explained_keeps (explained : Explained commands ran) : Keeps ran.before ran.after := by
  cases explained with
  | unchanged same =>
      rw [same]
      exact keeps_refl _
  | started _ _ _ _ same =>
      rw [same]
      exact fun row member => ⟨row, List.mem_append_left _ member, rfl, rfl, rfl, id⟩
  | completed _ _ completes =>
      obtain ⟨-, now, same⟩ := completes
      rw [same]
      exact completed_keeps _ now _

theorem explained_ids (explained : Explained commands ran)
    (ids : (ran.before.map RotationRow.id).Nodup) : (ran.after.map RotationRow.id).Nodup := by
  cases explained with
  | unchanged same => rwa [same]
  | started _ fresh _ _ same =>
      rw [same, List.map_append, List.map_singleton, List.nodup_append]
      refine ⟨ids, List.nodup_singleton _, ?_⟩
      intro one member two last
      obtain ⟨old, there, rfl⟩ := List.mem_map.mp member
      rw [List.mem_singleton.mp last]
      exact fresh old there
  | completed _ _ completes =>
      obtain ⟨-, now, same⟩ := completes
      rw [same, completed_ids]
      exact ids

theorem RowSound.grows {later : RotationWorld} (sound : RowSound commands world row)
    (grows : ∀ ran ∈ world.ran, ran ∈ later.ran) : RowSound commands later row where
  starts := by
    obtain ⟨ran, member, starts⟩ := sound.starts
    exact ⟨ran, grows ran member, starts⟩
  completes done := by
    obtain ⟨ran, member, completes⟩ := sound.completes done
    exact ⟨ran, grows ran member, completes⟩
  known := sound.known
  stamped := sound.stamped

/-- Each row that a statement leaves is as its calls made it. -/
theorem explained_rows {task : Nat} {tables : AdminTables} (kept : Kept commands world)
    (explained : Explained commands ⟨task, world.rotations, tables.rotations⟩) :
    ∀ row ∈ tables.rotations, RowSound commands (world.wrote task tables) row := by
  have grows : ∀ ran ∈ world.ran, ran ∈ (world.wrote task tables).ran :=
    fun _ => List.mem_append_left _
  have here : ⟨task, world.rotations, tables.rotations⟩ ∈ (world.wrote task tables).ran :=
    List.mem_append_right _ List.mem_cons_self
  intro row member
  cases explained with
  | unchanged same =>
      dsimp only at same
      rw [same] at member
      exact (kept.rows row member).grows grows
  | @started added starts _ status stamp same =>
      dsimp only at same
      rw [same] at member
      rcases List.mem_append.mp member with old | new
      · exact (kept.rows row old).grows grows
      · have added : row = added := List.mem_singleton.mp new
        subst added
        refine ⟨⟨_, here, starts⟩, fun done => ?_, .inl status, ?_⟩
        · exact absurd (done.symm.trans status) completed_not_started
        · rw [stamp, status]
          exact iff_of_false Bool.noConfusion completed_not_started.symm
  | @completed target completes present change =>
      obtain ⟨-, now, same⟩ := change
      dsimp only at same
      rw [same] at member
      obtain ⟨old, there, rfl⟩ := List.mem_map.mp member
      have sound := (kept.rows old there).grows grows
      split
      · rename_i started
        -- the update found the row that the call had read
        cases same_row kept.ids there present (started_open started).1
        exact ⟨sound.starts, fun _ => ⟨_, here, completes⟩, .inr rfl, iff_of_true rfl rfl⟩
      · exact sound

theorem completes_finishes (completes : ran.Completes rotationId) :
    ∃ row ∈ ran.after, row.id = rotationId ∧ row.status = lit "completed" := by
  obtain ⟨⟨row, member, started⟩, now, same⟩ := completes
  refine ⟨row.complete now, ?_, (started_open started).1, rfl⟩
  rw [same]
  refine List.mem_map.mpr ⟨row, member, ?_⟩
  rw [if_pos started]

theorem Kept.wrote {task : Nat} {tables : AdminTables} (kept : Kept commands world)
    (explained : Explained commands ⟨task, world.rotations, tables.rotations⟩) :
    Kept commands (world.wrote task tables) where
  explained ran member := by
    rcases List.mem_append.mp member with old | new
    · exact kept.explained ran old
    · cases List.mem_singleton.mp new
      exact explained
  ids := explained_ids explained kept.ids
  rows := explained_rows kept explained
  once := by
    refine List.pairwise_append.mpr ⟨kept.once, List.pairwise_singleton .., ?_⟩
    intro one earlier two last rotationId first second
    cases List.mem_singleton.mp last
    obtain ⟨done, there, same, status⟩ := kept.finished one earlier rotationId first
    obtain ⟨⟨row, member, started⟩, -⟩ := second
    cases same_row kept.ids there member (same.trans (started_open started).1.symm)
    exact completed_not_started (status.symm.trans (started_open started).2)
  finished ran member rotationId completes := by
    rcases List.mem_append.mp member with old | new
    · obtain ⟨row, there, same, status⟩ := kept.finished ran old rotationId completes
      obtain ⟨later, present, follows⟩ := explained_keeps explained row there
      exact ⟨later, present, follows.id.trans same, follows.status status⟩
    · cases List.mem_singleton.mp new
      exact completes_finishes completes
end Rows

/-! One call among the others. -/
section Calls
variable (config : AdminConfig) (commands : Nat → RotationCommand) (task : Nat)

/-- How a call may have ended: rejected without a change, or with its rotation completed. -/
structure Ended (outcome : Except Exc Unit) (world : RotationWorld) : Prop where
  rejected : ∀ message, outcome = .error (.adminError message) →
    ∀ ran ∈ world.own task, ran.after = ran.before
  succeeded : outcome = .ok () → ∀ rotationId, (commands task).completing = some rotationId →
    ∃ ran ∈ world.own task, ran.Completes rotationId

def contract : Contract RotationWorld Exc Unit where
  rely before after := after.own task = before.own task ∧ Keeps before.rotations after.rotations
  guarantee before after := (∃ more, after.ran = before.ran ++ more ∧ ∀ ran ∈ more, ran.task = task) ∧
    Keeps before.rotations after.rotations
  post := Ended commands task

/-- What is shown of a part of a call, and of a whole one. -/
abbrev Ensures {α : Type} (program : AdminTask α) (post : Except Exc α → RotationWorld → Prop)
    (world : RotationWorld) : Prop :=
  program.wp (asked (administration task) (Kept commands) (contract commands task).rely)
    (fun _ => Kept commands) post world

abbrev Ends (outcome : Except Exc Unit) (world : RotationWorld) : Prop :=
  Kept commands world ∧ Ended commands task outcome world

def Untouched (world : RotationWorld) : Prop := ∀ ran ∈ world.own task, ran.after = ran.before

/-- The row that a completion has read. -/
def Known (rotationId : Uuid) (active : RotationState) (world : RotationWorld) : Prop :=
  ∃ row ∈ world.rotations, row.id = rotationId ∧ row.oldFingerprint = active.oldFingerprint ∧
    row.newFingerprint = active.newFingerprint
end Calls

section Calls
variable {config : AdminConfig} {commands : Nat → RotationCommand} {task : Nat}
  {world resumed : RotationWorld} {tables : AdminTables} {rotationId : Uuid} {active : RotationState}

theorem contract_lawful (task : Nat) : (contract commands task).Lawful where
  rely_refl _ := ⟨rfl, keeps_refl _⟩
  rely_trans _ _ _ first second := ⟨second.1.trans first.1, keeps_trans first.2 second.2⟩
  guarantee_refl _ := ⟨⟨[], (List.append_nil _).symm, fun _ none => nomatch none⟩, keeps_refl _⟩
  guarantee_trans := by
    rintro one two three ⟨⟨more, grown, mine⟩, first⟩ ⟨⟨rest, last, also⟩, second⟩
    refine ⟨⟨more ++ rest, by rw [last, grown, List.append_assoc], ?_⟩, keeps_trans first second⟩
    intro ran member
    exact (List.mem_append.mp member).elim (mine ran) (also ran)
  stable := by
    rintro outcome before after ended ⟨same, -⟩
    constructor
    · rw [same]
      exact ended.rejected
    · rw [same]
      exact ended.succeeded

theorem own_others {other : Nat} {before after : RotationWorld} (apart : task ≠ other)
    (moved : (contract commands task).guarantee before after) : after.own other = before.own other := by
  obtain ⟨⟨more, grown, mine⟩, -⟩ := moved
  unfold RotationWorld.own
  rw [grown, List.filter_append]
  apply List.append_right_eq_self.mpr
  apply List.filter_eq_nil_iff.mpr
  intro ran member
  rw [mine ran member]
  simpa using apart

theorem own_wrote (world : RotationWorld) (tables : AdminTables) : (world.wrote task tables).own task =
    world.own task ++ [⟨task, world.rotations, tables.rotations⟩] := by
  unfold RotationWorld.own RotationWorld.wrote
  rw [List.filter_append]
  simp

theorem insert_ran {row : RotationRow} {before : AdminTables} {result : Unit}
    (ran : AdminStatement.run before (.insertRotation row) = .ok (result, tables)) :
    (∀ old ∈ before.rotations, old.id ≠ row.id) ∧ tables.rotations = before.rotations ++ [row] := by
  change (if _ then Except.error _ else Except.ok _) = _ at ran
  split at ran
  · cases ran
  rename_i free
  cases ran
  refine ⟨fun old member same => free ?_, rfl⟩
  exact List.any_eq_true.mpr ⟨old, member, decide_eq_true same⟩

/-- Whatever a statement does, the rotations of before are there after it. -/
theorem run_keeps {statement : AdminStatement} {result : AdminResult statement} {before : AdminTables}
    (ran : statement.run before = .ok (result, tables)) : Keeps before.rotations tables.rotations := by
  cases statement with
  | disableActive nodeName now => cases ran; exact keeps_refl _
  | insertToken row =>
      obtain ⟨_, changed, -, rfl⟩ := insertToken_ran ran
      exact keeps_refl _
  | revokeAgent nodeName now => cases ran; exact keeps_refl _
  | rotateTunnelSecret nodeName tunnelSecretHash => cases ran; exact keeps_refl _
  | updateNodeHostKey nodeName nodeSshHostPublicKey => cases ran; exact keeps_refl _
  | insertRotation row =>
      rw [(insert_ran ran).2]
      exact fun row member => ⟨row, List.mem_append_left _ member, rfl, rfl, rfl, id⟩
  | completeRotation rotationId now => cases ran; exact completed_keeps rotationId now _
  | selectRotation rotationId => cases ran; exact keeps_refl _

theorem administration_owed {call : AdminCall} {answer : Except Exc (AdminAns call)}
    {before after : RotationWorld} (given : administration task call answer before after) :
    (contract commands task).guarantee before after := by
  cases call with
  | execute statement =>
      rcases given with ⟨result, tables, ran, rfl, -⟩ | ⟨-, rfl⟩
      · refine ⟨⟨_, rfl, ?_⟩, run_keeps ran⟩
        intro entry member
        rw [List.mem_singleton.mp member]
      · exact (contract_lawful task).guarantee_refl _
  | insertAudit row =>
      obtain ⟨-, rfl⟩ := given
      exact (contract_lawful task).guarantee_refl _

theorem ended_outside {raised : Exc} (outside : Outside raised) :
    Ended commands task (.error raised) world where
  rejected message same := (outside message (Except.error.inj same)).elim
  succeeded impossible := nomatch impossible

theorem ended_rejected {raised : Exc} (untouched : Untouched task world) :
    Ended commands task (.error raised) world where
  rejected _ _ := untouched
  succeeded impossible := nomatch impossible

/-- The rule of one statement. -/
theorem execute_safe {statement : AdminStatement}
    {post : Except Exc (AdminResult statement) → RotationWorld → Prop} (kept : Kept commands world)
    (ran : ∀ resumed result tables, (contract commands task).rely world resumed → Kept commands resumed →
      statement.run resumed.tables = .ok (result, tables) →
      Kept commands (resumed.wrote task tables) ∧ post (.ok result) (resumed.wrote task tables))
    (failed : ∀ raised after, Outside raised → Kept commands after → post (.error raised) after) :
    Ensures commands task (execute statement) post world := by
  apply asked_safe kept
  rintro answer resumed after relied holds (⟨result, tables, done, rfl, told⟩ | ⟨told, rfl⟩)
  · obtain ⟨keeps, reached⟩ := ran resumed result tables relied holds done
    rcases told with rfl | ⟨raised, outside, rfl⟩
    · exact reached
    · exact failed raised _ outside keeps
  · obtain ⟨raised, outside, rfl⟩ := told
    exact failed raised _ outside holds
theorem auditRow_outside {lower : Str → Str} {request : AuditRequest} {metadata : MetadataValue}
    {raised : Exc} (failed : auditRow lower request metadata = .error raised) : Outside raised := by
  rintro message rfl
  rcases auditRow_raises failed with impossible | impossible | ⟨_, impossible⟩ <;> cases impossible

/-- The audit of a call is taken or fails, and the rotations stay. -/
theorem audit_safe {request : AuditRequest} {fields : List (String × MetadataValue)}
    {post : Except Exc Unit → RotationWorld → Prop} (kept : Kept commands world)
    (taken : ∀ later, (contract commands task).rely world later → Kept commands later →
      post (.ok ()) later)
    (failed : ∀ raised after, Outside raised → Kept commands after → post (.error raised) after) :
    Ensures commands task (audit config request (named fields)) post world := by
  unfold audit
  apply Coro.wp_onlyIf
  · intro
    rw [named, scrubSecretMetadata]
    apply Coro.wp_bind
    apply Coro.wp_ofAnswer
    cases made : auditRow config.lower request _ with
    | error raised => exact failed raised world (auditRow_outside made) kept
    | ok row =>
        apply asked_safe kept
        rintro answer resumed after relied holds ⟨told, rfl⟩
        rcases told with rfl | ⟨raised, outside, rfl⟩
        · exact taken _ relied holds
        · exact failed raised _ outside holds
  · intro
    exact taken world ((contract_lawful task).rely_refl world) kept

theorem wrote_untouched (untouched : Untouched task world) (same : tables.rotations = world.rotations) :
    Untouched task (world.wrote task tables) := by
  intro ran member
  rw [own_wrote] at member
  rcases List.mem_append.mp member with old | new
  · exact untouched ran old
  · rw [List.mem_singleton.mp new]
    exact same

theorem untouched_relied (untouched : Untouched task world)
    (relied : (contract commands task).rely world resumed) : Untouched task resumed := by
  unfold Untouched
  rw [relied.1]
  exact untouched

/-- A call of `start_ca_rotation` that has not begun. -/
theorem start_safe {draws : AdminDraws} {keyName old new : Str} {trusted : List Str} {actor : Str}
    {now : DateTime} (named : commands task = .start draws keyName old new trusted actor now)
    (kept : Kept commands world) (untouched : Untouched task world) :
    Ensures commands task ((RotationCommand.start draws keyName old new trusted actor now).call config)
      (Ends commands task) world := by
  have ends : ∀ later, Ended commands task (.ok ()) later := fun later => {
    rejected := fun _ impossible => nomatch impossible
    succeeded := fun _ rotationId completes => by
      rw [named] at completes
      cases completes }
  apply Coro.wp_bind
  apply Coro.wp_bind
  apply Coro.wp_ofAnswer
  cases checked : startChecks old new trusted with
  | error raised => exact ⟨kept, ended_rejected untouched⟩
  | ok =>
      unfold startChecks requireOverlap at checked
      split at checked
      · cases checked
      rename_i distinct
      split at checked
      · cases checked
      rename_i overlap
      push Not at overlap
      apply Coro.wp_bind
      apply execute_safe kept
      · intro resumed result tables _ holds ran
        obtain ⟨fresh, same⟩ := insert_ran ran
        have inserted : Kept commands (resumed.wrote task tables) := by
          refine holds.wrote (.started ?_ fresh rfl rfl same)
          exact ⟨draws, keyName, old, new, trusted, actor, now, named, distinct, overlap.1, overlap.2,
            rfl, rfl, rfl⟩
        refine ⟨inserted, ?_⟩
        apply Coro.wp_bind
        apply audit_safe inserted
        · intro later _ holds
          exact ⟨holds, ends later⟩
        · intro raised after outside holds
          exact ⟨holds, ended_outside outside⟩
      · intro raised after outside holds
        exact ⟨holds, ended_outside outside⟩

/-- What `get_ca_rotation` returns is a row of the table, and stays one. -/
theorem get_safe (kept : Kept commands world) (untouched : Untouched task world) :
    Ensures commands task (getCaRotation rotationId)
      (Coro.either (fun active after => Kept commands after ∧ Untouched task after ∧
          Known rotationId active after)
        (fun raised after => Ends commands task (.error raised) after)) world := by
  apply Coro.wp_bind
  apply execute_safe kept
  · intro resumed result tables relied holds ran
    cases ran
    have read : Kept commands (resumed.wrote task resumed.tables) := holds.wrote (.unchanged rfl)
    have still := wrote_untouched (untouched_relied untouched relied) rfl
    refine ⟨read, ?_⟩
    cases found : resumed.tables.rotations.find? (RotationRow.startedAs rotationId) with
    | none => exact ⟨read, ended_rejected still⟩
    | some row =>
        exact ⟨read, still, row, List.mem_of_find?_eq_some found,
          (started_open (List.find?_some found)).1, rfl, rfl⟩
  · intro raised after outside holds
    exact ⟨holds, ended_outside outside⟩

theorem known_relied (known : Known rotationId active world)
    (relied : (contract commands task).rely world resumed) : Known rotationId active resumed := by
  obtain ⟨row, member, same, old, new⟩ := known
  obtain ⟨later, there, follows⟩ := relied.2 row member
  exact ⟨later, there, follows.id.trans same, follows.oldFingerprint.trans old,
    follows.newFingerprint.trans new⟩

theorem completed_none {rotations : List RotationRow} {now : DateTime}
    (none : rotations.find? (RotationRow.startedAs rotationId) = none) :
    completed rotationId now rotations = rotations := by
  have absent := List.find?_eq_none.mp none
  calc completed rotationId now rotations
      = rotations.map id := List.map_congr_left fun row member => if_neg (absent row member)
    _ = rotations := List.map_id rotations

theorem completion_checked {trusted : List Str} (checked : completionChecks active trusted = .ok ()) :
    active.oldFingerprint ∉ trusted ∧ active.newFingerprint ∈ trusted := by
  unfold completionChecks at checked
  split at checked
  · cases checked
  rename_i old
  split at checked
  · cases checked
  rename_i new
  exact ⟨old, not_not.mp new⟩

/-- The update of a completion, after its checks of what it has read. -/
theorem completion_safe {draws : AdminDraws} {trusted : List Str} {actor : Str} {now time : DateTime}
    (named : commands task = .complete draws rotationId trusted actor now) (kept : Kept commands world)
    (untouched : Untouched task world) (known : Known rotationId active world)
    (old : active.oldFingerprint ∉ trusted) (new : active.newFingerprint ∈ trusted) :
    Ensures commands task (storeCompletion rotationId trusted time)
      (Coro.either (fun _ after => Kept commands after ∧
          ∃ ran ∈ after.own task, ran.Completes rotationId)
        (fun raised after => Ends commands task (.error raised) after)) world := by
  apply Coro.wp_bind
  apply execute_safe kept
  · intro resumed result tables relied holds ran
    cases ran
    cases found : resumed.tables.rotations.find? (RotationRow.startedAs rotationId) with
    | none =>
        have same : completed rotationId time resumed.rotations = resumed.rotations := completed_none found
        have missed : Kept commands (resumed.wrote task { resumed.tables with
            rotations := completed rotationId time resumed.rotations }) := holds.wrote (.unchanged same)
        exact ⟨missed, missed,
          ended_rejected (wrote_untouched (untouched_relied untouched relied) same)⟩
    | some row =>
        have member : row ∈ resumed.rotations := List.mem_of_find?_eq_some found
        have started := List.find?_some found
        -- the fingerprints are those that were checked, whoever wrote since
        obtain ⟨read, there, same, oldSame, newSame⟩ := known_relied known relied
        cases same_row holds.ids there member (same.trans (started_open started).1.symm)
        have completes : Ran.Completes rotationId ⟨task, resumed.rotations,
            completed rotationId time resumed.rotations⟩ := ⟨⟨row, member, started⟩, time, rfl⟩
        have byCall : CompletedBy commands task row :=
          ⟨draws, rotationId, trusted, actor, now, named, same, newSame ▸ new, oldSame ▸ old⟩
        have done : Kept commands (resumed.wrote task { resumed.tables with
            rotations := completed rotationId time resumed.rotations }) :=
          holds.wrote (.completed byCall member (same ▸ completes))
        refine ⟨done, done, _, ?_, completes⟩
        rw [own_wrote]
        exact List.mem_append_right _ List.mem_cons_self
  · intro raised after outside holds
    exact ⟨holds, ended_outside outside⟩

/-- A call of `complete_ca_rotation` that has not begun. -/
theorem complete_safe {draws : AdminDraws} {trusted : List Str} {actor : Str} {now : DateTime}
    (named : commands task = .complete draws rotationId trusted actor now) (kept : Kept commands world)
    (untouched : Untouched task world) :
    Ensures commands task ((RotationCommand.complete draws rotationId trusted actor now).call config)
      (Ends commands task) world := by
  apply Coro.wp_bind
  apply Coro.wp_seq (get_safe kept untouched)
  rintro active after ⟨holds, still, known⟩
  apply Coro.wp_bind
  apply Coro.wp_ofAnswer
  cases checked : completionChecks active trusted with
  | error raised => exact ⟨holds, ended_rejected still⟩
  | ok =>
      obtain ⟨old, new⟩ := completion_checked checked
      apply Coro.wp_seq (completion_safe named holds still known old new)
      rintro state after ⟨holds, ran, member, completes⟩
      apply Coro.wp_bind
      apply audit_safe holds
      · rintro later ⟨same, -⟩ holds
        refine ⟨holds, fun _ impossible => (nomatch impossible), ?_⟩
        intro _ other completing
        rw [named] at completing
        cases completing
        exact ⟨ran, same ▸ member, completes⟩
      · intro raised after outside holds
        exact ⟨holds, ended_outside outside⟩
end Calls

/-! Every run. -/
section Runs
variable {configs : Nat → AdminConfig} {commands : Nat → RotationCommand} {pool : RotationPool}

/-- A database without a rotation, whatever else it holds. -/
def noRotations (tables : AdminTables) : RotationWorld := ⟨{ tables with rotations := [] }, []⟩

theorem noRotations_kept (tables : AdminTables) : Kept commands (noRotations tables) where
  explained _ none := nomatch none
  ids := List.nodup_nil
  rows _ none := nomatch none
  once := List.Pairwise.nil
  finished _ none := nomatch none

theorem call_safe {task : Nat} {program : Task RotationWorld AdminAns Exc Unit} {world : RotationWorld}
    (started : programs configs commands task program world) (kept : Kept commands world)
    (quiet : world.own task = []) :
    Python.Tasks.Safe (administration task) (Kept commands) (contract commands task) program world := by
  have untouched : Untouched task world := by
    intro ran member
    rw [quiet] at member
    cases member
  cases started
  apply calling_safe
  cases named : commands task with
  | start => exact start_safe named kept untouched
  | complete => exact complete_safe named kept untouched

/-- Nobody else writes in the name of a call. -/
theorem reachable_kept {tables : AdminTables}
    (reached : Reachable administration (programs configs commands) (noRotations tables) pool) :
    pool.Safe administration (Kept commands) (contract commands) ∧
      ∀ task, pool.tasks task = none → pool.state.own task = [] :=
  reachable_quiet (fun task world => world.own task = []) contract_lawful
    (fun _ _ _ _ apart moved => ⟨own_others apart moved, moved.2⟩)
    (fun _ _ _ _ apart moved quiet => (own_others apart moved).trans quiet)
    (fun _ _ _ _ _ given => administration_owed given)
    (fun _ _ _ started kept quiet => call_safe started kept quiet)
    (noRotations_kept tables) (fun _ => rfl) reached
/-- Whoever has a statement in the run has begun. -/
theorem ran_begun {tables : AdminTables}
    (reached : Reachable administration (programs configs commands) (noRotations tables) pool) {ran : Ran}
    (member : ran ∈ pool.state.ran) : pool.tasks ran.task ≠ none := by
  intro free
  have own : ran ∈ pool.state.own ran.task := List.mem_filter.mpr ⟨member, beq_self_eq_true _⟩
  rw [(reachable_kept reached).2 _ free] at own
  cases own

theorem ended {tables : AdminTables}
    (reached : Reachable administration (programs configs commands) (noRotations tables) pool)
    (task : Nat) (outcome : Except Exc Unit)
    (ends : pool.tasks task = some (Coro.ofAnswer outcome)) :
    Ended commands task outcome pool.state := by
  have safe := ((reachable_kept reached).1.2 task _ ends).2
  cases outcome with
  | ok => exact safe.2
  | error raised => exact safe.2

/-- How the rotations of a run came about, and how its calls have ended. -/
structure RotationSafe (commands : Nat → RotationCommand) (pool : RotationPool) : Prop where
  starts : ∀ row ∈ pool.state.rotations, ∃ task, pool.tasks task ≠ none ∧ StartedBy commands task row
  completes : ∀ row ∈ pool.state.rotations, row.status = lit "completed" →
    ∃ task, pool.tasks task ≠ none ∧ CompletedBy commands task row
  changes : ∀ ran ∈ pool.state.ran, Explained commands ran
  once : ∀ one two rotationId, (commands one).completing = some rotationId →
    (commands two).completing = some rotationId → pool.tasks one = some (.done ()) →
    pool.tasks two = some (.done ()) → one = two
  stamped : ∀ row ∈ pool.state.rotations, row.completedAt.isSome ↔ row.status = lit "completed"
  rejected : ∀ task message, pool.tasks task = some (.raise (.adminError message)) →
    ∀ ran ∈ pool.state.ran, ran.task = task → ran.after = ran.before

/-- A rotation is started and completed with the bundles that its checks ask for, completed
by one call at most, and left as it was by the calls that the service rejects. -/
theorem rotation_safe (configs : Nat → AdminConfig) (commands : Nat → RotationCommand) (tables : AdminTables)
    (pool : RotationPool)
    (reached : Reachable administration (programs configs commands) (noRotations tables) pool) :
    RotationSafe commands pool := by
  have kept : Kept commands pool.state := (reachable_kept reached).1.1
  constructor
  · intro row member
    obtain ⟨ran, there, starts⟩ := (kept.rows row member).starts
    exact ⟨ran.task, ran_begun reached there, starts⟩
  · intro row member done
    obtain ⟨ran, there, completes⟩ := (kept.rows row member).completes done
    exact ⟨ran.task, ran_begun reached there, completes⟩
  · exact kept.explained
  · intro one two rotationId first second oneDone twoDone
    obtain ⟨early, earlier, completes⟩ := (ended reached one (.ok ()) oneDone).succeeded rfl _ first
    obtain ⟨late, later, again⟩ := (ended reached two (.ok ()) twoDone).succeeded rfl _ second
    obtain ⟨inRun, mine⟩ := List.mem_filter.mp earlier
    obtain ⟨alsoInRun, others⟩ := List.mem_filter.mp later
    by_contra apart
    have different : early ≠ late := by
      rintro rfl
      exact apart ((beq_iff_eq.mp mine).symm.trans (beq_iff_eq.mp others))
    exact kept.once.forall inRun alsoInRun different rotationId completes again
  · intro row member
    exact (kept.rows row member).stamped
  · intro task message raised ran member mine
    have own : ran ∈ pool.state.own task := List.mem_filter.mpr ⟨member, beq_iff_eq.mpr mine⟩
    exact (ended reached task (.error (.adminError message)) raised).rejected message rfl ran own
end Runs

/-! One rotation and two calls that both find it started. -/
def configOne : AdminConfig := ⟨libraryOne, id, false⟩
def drawsOne : AdminDraws := ⟨agentIdOne, [], [], agentIdOne⟩
def oldOne : Str := lit "sha256:old"
def newOne : Str := lit "sha256:new"

def commandsOne : Nat → RotationCommand
  | 0 => .start drawsOne (lit "ca") oldOne newOne [oldOne, newOne] (lit "root") ⟨0, some 0⟩
  | _ => .complete drawsOne agentIdOne [newOne] (lit "root") ⟨1, some 0⟩

def tablesNone : AdminTables := ⟨⟨[], []⟩, fun _ => none, []⟩

theorem two_completions : ∃ pool : RotationPool,
    Reachable administration (programs (fun _ => configOne) commandsOne) (noRotations tablesNone) pool ∧
      pool.tasks 1 = some (.done ()) ∧
      pool.tasks 2 = some (.raise (.adminError "CA rotation is not active")) := by
  have begun : Reachable administration (programs (fun _ => configOne) commandsOne)
    (noRotations tablesNone) _ := Reachable.start.spawn 0 _ rfl rfl
  have started := begun.resume 0 rfl (.ok ()) _ (.inl ⟨(), _, rfl, rfl, .inl rfl⟩)
  have one := started.spawn 1 _ rfl rfl
  have two := one.spawn 2 _ rfl rfl
  have oneRead := two.resume 1 rfl (.ok _) _ (.inl ⟨_, _, rfl, rfl, .inl rfl⟩)
  have twoRead := oneRead.resume 2 rfl (.ok _) _ (.inl ⟨_, _, rfl, rfl, .inl rfl⟩)
  have oneDone := twoRead.resume 1 rfl (.ok _) _ (.inl ⟨_, _, rfl, rfl, .inl rfl⟩)
  have twoDone := oneDone.resume 2 rfl (.ok _) _ (.inl ⟨_, _, rfl, rfl, .inl rfl⟩)
  exact ⟨_, twoDone, rfl, rfl⟩

theorem rotation_safe_two : ∃ pool : RotationPool, pool.tasks 1 = some (.done ()) ∧
    pool.tasks 2 = some (.raise (.adminError "CA rotation is not active")) ∧
    RotationSafe commandsOne pool := by
  obtain ⟨pool, reached, done, rejected⟩ := two_completions
  exact ⟨pool, done, rejected, rotation_safe _ commandsOne tablesNone pool reached⟩

end VibeConnect.CaRotation
