import VibeConnect.Migrations

/-! What any runs of the migrations leave in the database. The committed rows
are a prefix of the list, and only the migration after them can wait in an open
transaction: a run comes to it when all before it are committed, and the key
lets one transaction in at a time. -/
namespace VibeConnect.MigrationRuns
open Python.Text Python.Coroutine Python.Tasks Models Migrations

/-- The database holds the first migrations of the list, each once, and the one
that follows them waits in at most one transaction. -/
structure Ledger (world : MigrationWorld) : Prop where
  ascending : Ascending world.available
  versions : world.versions <+: versionsOf world.available
  effects : world.effects = (world.available.take world.versions.length).map Migration.sql
  waiting : ∀ number transaction, world.opened number = some transaction →
    transaction.inserted ≠ [] → ∃ migration,
      world.available[world.versions.length]? = some migration ∧
        transaction = ⟨[migration.sql], [migration.version]⟩
  alone : ∀ one two first second, world.opened one = some first → world.opened two = some second →
    first.inserted ≠ [] → second.inserted ≠ [] → one = two

/-- What the call of a run leaves to say of it. -/
structure Honest (number : Nat) (world : MigrationWorld) : Prop where
  executed : world.executed number ≠ [] → ∃ run rows, world.runs number = some run ∧
    world.found number = some rows ∧ rows <+: versionsOf run.migrations ∧
      rows.length < run.migrations.length
  rejected : ∀ run rows, world.runs number = some run → world.found number = some rows →
    ¬ rows <+: versionsOf run.migrations →
      ∃ message, world.ended number = some (.error (.migrationError message))
  existing : ∀ run rows, world.runs number = some run → world.found number = some rows →
    run.existing.length ≤ rows.length

/-- What a run relies on: rows and the list only grow, and its transaction is its
own until the server drops it. -/
structure Relies (number : Nat) (before after : MigrationWorld) : Prop where
  versions : before.versions <+: after.versions
  available : before.available <+: after.available
  opened : after.opened number = before.opened number ∨ after.opened number = none
  runs : after.runs number = before.runs number
  found : after.found number = before.found number
  executed : after.executed number = before.executed number
  ended : after.ended number = before.ended number

namespace Relies
variable {number : Nat} {one two three : MigrationWorld}

theorem refl (world : MigrationWorld) : Relies number world world :=
  ⟨List.prefix_rfl, List.prefix_rfl, .inl rfl, rfl, rfl, rfl, rfl⟩

theorem trans (first : Relies number one two) (second : Relies number two three) :
    Relies number one three where
  versions := first.versions.trans second.versions
  available := first.available.trans second.available
  opened := by
    rcases second.opened with same | gone
    · rw [same]
      exact first.opened
    · exact .inr gone
  runs := second.runs.trans first.runs
  found := second.found.trans first.found
  executed := second.executed.trans first.executed
  ended := second.ended.trans first.ended

theorem honest (relies : Relies number one two) (honest : Honest number one) :
    Honest number two := by
  constructor
  · rw [relies.executed, relies.runs, relies.found]
    exact honest.executed
  · rw [relies.runs, relies.found, relies.ended]
    exact honest.rejected
  · rw [relies.runs, relies.found]
    exact honest.existing
end Relies

/-! The ledger. -/
namespace Ledger
variable {world : MigrationWorld} {number : Nat}

theorem length_le (ledger : Ledger world) : world.versions.length ≤ world.available.length := by
  have shorter := ledger.versions.length_le
  rwa [versionsOf, List.length_map] at shorter

theorem new {available : List Migration} (ascending : Ascending available) :
    Ledger (.new available [] []) where
  ascending := ascending
  versions := List.nil_prefix
  effects := rfl
  waiting _ _ impossible := by cases impossible
  alone _ _ _ _ impossible := by cases impossible

/-- The ledger is about the database alone. -/
theorem logged (ledger : Ledger world) {runs : Nat → Option MigrationRun}
    {found : Nat → Option (List Int)} {executed : Nat → List Str}
    {ended : Nat → Option (Except Exc Unit)} :
    Ledger { world with runs := runs, found := found, executed := executed, ended := ended } :=
  ⟨ledger.ascending, ledger.versions, ledger.effects, ledger.waiting, ledger.alone⟩

theorem grow (ledger : Ledger world) {more : List Migration}
    (ascending : Ascending (world.available ++ more)) : Ledger (world.grow more) where
  ascending := ascending
  versions := by
    apply ledger.versions.trans
    rw [MigrationWorld.grow, versionsOf, versionsOf, List.map_append]
    exact List.prefix_append _ _
  effects := by
    rw [MigrationWorld.grow, List.take_append_of_le_length ledger.length_le]
    exact ledger.effects
  waiting other transaction held inserted := by
    obtain ⟨migration, next, same⟩ := ledger.waiting other transaction held inserted
    obtain ⟨bound, -⟩ := List.getElem?_eq_some_iff.mp next
    refine ⟨migration, ?_, same⟩
    rw [MigrationWorld.grow, List.getElem?_append_left bound]
    exact next
  alone := ledger.alone

theorem opened_setOpened {transaction : Option Transaction} {other : Nat} {held : Transaction}
    (opened : (world.setOpened number transaction).opened other = some held) :
    (other = number ∧ transaction = some held) ∨ (other ≠ number ∧ world.opened other = some held) := by
  change Function.update world.opened number transaction other = some held at opened
  by_cases same : other = number
  · subst same
    rw [Function.update_self] at opened
    exact .inl ⟨rfl, opened⟩
  · rw [Function.update_of_ne same] at opened
    exact .inr ⟨same, opened⟩

/-- A transaction without a row in it takes the place of another. -/
theorem setOpened (ledger : Ledger world) {transaction : Option Transaction}
    (empty : ∀ held, transaction = some held → held.inserted = []) :
    Ledger (world.setOpened number transaction) where
  ascending := ledger.ascending
  versions := ledger.versions
  effects := ledger.effects
  waiting other held opened inserted := by
    rcases opened_setOpened opened with ⟨-, same⟩ | ⟨-, same⟩
    · exact absurd (empty held same) inserted
    · exact ledger.waiting other held same inserted
  alone one two first second opened again inserted also := by
    rcases opened_setOpened opened with ⟨-, same⟩ | ⟨-, same⟩
    · exact absurd (empty first same) inserted
    · rcases opened_setOpened again with ⟨-, equal⟩ | ⟨-, equal⟩
      · exact absurd (empty second equal) also
      · exact ledger.alone one two first second same equal inserted also

/-- A version stands in one place of the list. -/
theorem mem_take_versions {migrations : List Migration} (ascending : Ascending migrations)
    {place count : Nat} {migration : Migration} (found : migrations[place]? = some migration) :
    migration.version ∈ (versionsOf migrations).take count ↔ place < count := by
  obtain ⟨bound, same⟩ := List.getElem?_eq_some_iff.mp found
  have within : place < (versionsOf migrations).length := by rwa [versionsOf, List.length_map]
  have here : (versionsOf migrations)[place] = migration.version := by
    simp only [versionsOf, List.getElem_map, same]
  have distinct : (versionsOf migrations).Nodup := ascending.imp fun less => ne_of_lt less
  rw [List.mem_take_iff_getElem]
  constructor
  · rintro ⟨other, low, equal⟩
    have places := distinct.getElem_inj_iff.mp (equal.trans here.symm)
    omega
  · intro low
    exact ⟨place, by omega, here⟩

theorem committed_iff (ledger : Ledger world) {place : Nat} {migration : Migration}
    (found : world.available[place]? = some migration) :
    migration.version ∈ world.versions ↔ place < world.versions.length := by
  have taken : migration.version ∈ (versionsOf world.available).take world.versions.length ↔ _ :=
    mem_take_versions ledger.ascending found
  rwa [← List.prefix_iff_eq_take.mp ledger.versions] at taken

/-- The migration whose predecessors are committed, and itself not, is the next. -/
theorem next (ledger : Ledger world) {done rest : List Migration} {migration : Migration}
    (within : done ++ migration :: rest <+: world.available)
    (applied : ∀ earlier ∈ done, earlier.version ∈ world.versions)
    (fresh : migration.version ∉ world.versions) :
    world.available[world.versions.length]? = some migration := by
  obtain ⟨more, same⟩ := within
  have here : world.available[done.length]? = some migration := by
    rw [← same, List.append_assoc, List.getElem?_append_right le_rfl, Nat.sub_self]
    rfl
  have reached := mt (ledger.committed_iff here).mpr fresh
  have passed : done.length ≤ world.versions.length := by
    by_contra long
    -- the first migration without a row comes before this one
    have earlier : world.versions.length < done.length := by omega
    have there : world.available[world.versions.length]? = some done[world.versions.length] := by
      rw [← same, List.append_assoc, List.getElem?_append_left earlier]
      exact List.getElem?_eq_getElem earlier
    have low := (ledger.committed_iff there).mp (applied _ (List.getElem_mem earlier))
    omega
  rwa [show world.versions.length = done.length by omega]

/-- The row of the next migration goes in where no other has. -/
theorem insert (ledger : Ledger world) {migration : Migration}
    (next : world.available[world.versions.length]? = some migration)
    (alone : ∀ other held, world.opened other = some held → migration.version ∉ held.inserted) :
    Ledger (world.setOpened number (some ⟨[migration.sql], [migration.version]⟩)) := by
  -- a row that waits is this one, and no other transaction has it
  have none_waits : ∀ other held, world.opened other = some held → held.inserted = [] := by
    intro other held opened
    by_contra inserted
    obtain ⟨same, found, rfl⟩ := ledger.waiting other held opened inserted
    cases next.symm.trans found
    exact alone other _ opened List.mem_cons_self
  refine ⟨ledger.ascending, ledger.versions, ledger.effects, ?_, ?_⟩
  · intro other held opened inserted
    rcases opened_setOpened opened with ⟨-, same⟩ | ⟨-, same⟩
    · cases same
      exact ⟨migration, next, rfl⟩
    · exact absurd (none_waits other held same) inserted
  · intro one two first second opened again inserted also
    rcases opened_setOpened opened with ⟨rfl, -⟩ | ⟨-, same⟩
    · rcases opened_setOpened again with ⟨rfl, -⟩ | ⟨-, equal⟩
      · rfl
      · exact absurd (none_waits two second equal) also
    · exact absurd (none_waits one first same) inserted

/-- The waiting row and its SQL are committed together. -/
theorem commit (ledger : Ledger world) {transaction : Transaction}
    (opened : world.opened number = some transaction) (inserted : transaction.inserted ≠ []) :
    Ledger (world.committing number transaction) := by
  obtain ⟨migration, next, rfl⟩ := ledger.waiting number transaction opened inserted
  have bound := (List.getElem?_eq_some_iff.mp next).1
  have others : ∀ other held, (world.committing number ⟨[migration.sql], [migration.version]⟩).opened
      other = some held → held.inserted = [] := by
    intro other held still
    by_contra waits
    have place : (other = number ∧ (none : Option Transaction) = some held) ∨
        (other ≠ number ∧ world.opened other = some held) := opened_setOpened still
    rcases place with ⟨-, same⟩ | ⟨different, same⟩
    · cases same
    · exact different (ledger.alone other number held _ same opened waits inserted)
  have grown : (world.versions ++ [migration.version]).length = world.versions.length + 1 := by simp
  refine ⟨ledger.ascending, ?_, ?_, ?_, ?_⟩
  · change world.versions ++ [migration.version] <+: versionsOf world.available
    have there : (versionsOf world.available)[world.versions.length]? = some migration.version := by
      rw [versionsOf, List.getElem?_map, next]
      rfl
    rw [List.prefix_iff_eq_take, grown, List.take_add_one, there,
      ← List.prefix_iff_eq_take.mp ledger.versions]
    rfl
  · change world.effects ++ [migration.sql] = (world.available.take
      (world.versions ++ [migration.version]).length).map Migration.sql
    rw [grown, List.take_add_one, next, List.map_append, ← ledger.effects]
    rfl
  · exact fun other held still waits => absurd (others other held still) waits
  · exact fun one two first second still _ waits _ => absurd (others one first still) waits
end Ledger

/-- What a statement leaves alone. -/
structure Leaves (number : Nat) (before after : MigrationWorld) : Prop where
  versions : before.versions <+: after.versions
  available : after.available = before.available
  opened : ∀ other, other ≠ number → after.opened other = before.opened other
  runs : after.runs = before.runs
  found : after.found = before.found
  executed : after.executed = before.executed
  ended : after.ended = before.ended

theorem leaves_setOpened (number : Nat) (transaction : Option Transaction) (world : MigrationWorld) :
    Leaves number world (world.setOpened number transaction) where
  versions := List.prefix_rfl
  available := rfl
  opened _ different := Function.update_of_ne different _ _
  runs := rfl
  found := rfl
  executed := rfl
  ended := rfl

theorem leaves_refl (number : Nat) (world : MigrationWorld) : Leaves number world world :=
  ⟨List.prefix_rfl, rfl, fun _ _ => rfl, rfl, rfl, rfl, rfl⟩

theorem performed_leaves {number : Nat} {call : MigrationCall} {before after : MigrationWorld}
    (performed : Performed number call before after) : Leaves number before after := by
  cases call with
  | createTable | fetchVersions =>
      rw [show after = before from performed]
      exact leaves_refl number before
  | begin | rollback =>
      rw [show after = before.setOpened number _ from performed]
      exact leaves_setOpened number _ before
  | executeSql sql =>
      obtain ⟨transaction, -, rfl⟩ := performed
      exact leaves_setOpened number _ before
  | insertVersion version =>
      obtain ⟨transaction, -, -, -, rfl⟩ := performed
      exact leaves_setOpened number _ before
  | commit =>
      obtain ⟨transaction, -, rfl⟩ := performed
      exact { leaves_setOpened number none before with versions := List.prefix_append _ _ }

theorem Leaves.relies {number other : Nat} {before after : MigrationWorld}
    (leaves : Leaves number before after) (different : other ≠ number) : Relies other before after where
  versions := leaves.versions
  available := leaves.available ▸ List.prefix_rfl
  opened := .inl (leaves.opened other different)
  runs := by rw [leaves.runs]
  found := by rw [leaves.found]
  executed := by rw [leaves.executed]
  ended := by rw [leaves.ended]

theorem noted_relies {number other : Nat} {call : MigrationCall}
    {answer : Except Exc (MigrationResult call)} (world : MigrationWorld) (different : other ≠ number) :
    Relies other world (noted number call answer world) := by
  cases call with
  | executeSql sql =>
      refine { Relies.refl world with executed := ?_ }
      exact Function.update_of_ne different _ _
  | fetchVersions =>
      cases answer with
      | error fault => exact .refl world
      | ok cells =>
          refine { Relies.refl world with found := ?_ }
          exact Function.update_of_ne different _ _
  | _ => exact .refl world

/-- A run owes the other runs what they rely on. -/
def owed (key : MigrationKey) (before after : MigrationWorld) : Prop :=
  ∀ other, key ≠ .run other → Relies other before after

def contract (key : MigrationKey) : Contract MigrationWorld Exc Unit where
  rely before after := match key with
    | .run number => Relies number before after
    | .around _ => True
  guarantee := owed key
  post _ _ := True

theorem contract_lawful (key : MigrationKey) : (contract key).Lawful where
  rely_refl world := by
    cases key with
    | run number => exact .refl world
    | around serial => trivial
  rely_trans one two three first second := by
    cases key with
    | run number => exact .trans first second
    | around serial => trivial
  guarantee_refl world _ _ := .refl world
  guarantee_trans _ _ _ first second other different := (first other different).trans (second other different)
  stable _ _ _ _ _ := trivial

theorem answers_owed {key : MigrationKey} {call : MigrationCall}
    {answer : Except Exc (MigrationResult call)} {before after : MigrationWorld}
    (given : migrationWorld key call answer before after) : owed key before after := by
  cases key with
  | around serial => exact given.elim
  | run number =>
      intro other different
      have apart : other ≠ number := fun same => different (congrArg MigrationKey.run same.symm)
      obtain ⟨done, performed, -, rfl⟩ := given
      rcases performed with performed | ⟨-, rfl⟩
      · exact ((performed_leaves performed).relies apart).trans (noted_relies done apart)
      · exact noted_relies done apart

/-- What holds at every moment of the runs from a start. -/
structure Sound (start world : MigrationWorld) : Prop where
  kept : Ledger start → Ledger world
  honest : ∀ number, Honest number world

theorem Sound.performed {start world after : MigrationWorld} {number : Nat} {call : MigrationCall}
    (sound : Sound start world) (performed : Performed number call world after)
    (ledger : Ledger world → Ledger after) : Sound start after where
  kept initial := ledger (sound.kept initial)
  honest other := by
    have leaves := performed_leaves performed
    have honest := sound.honest other
    constructor
    · rw [leaves.executed, leaves.runs, leaves.found]
      exact honest.executed
    · rw [leaves.runs, leaves.found, leaves.ended]
      exact honest.rejected
    · rw [leaves.runs, leaves.found]
      exact honest.existing

/-- A run that has found the rows and committed the first migrations of its list. -/
structure Progress (start : MigrationWorld) (number : Nat) (run : MigrationRun) (rows : List Int)
    (done : List Migration) (world : MigrationWorld) : Prop where
  sound : Sound start world
  called : world.runs number = some run
  found : world.found number = some rows
  expected : rows <+: versionsOf run.migrations
  within : run.migrations <+: world.available
  existing : ∀ version ∈ rows, version ∈ world.versions
  applied : ∀ migration ∈ done, migration.version ∈ world.versions

/-- The connection has this transaction open, or has lost it. -/
def Holds (number : Nat) (transaction : Transaction) (world : MigrationWorld) : Prop :=
  ∀ held, world.opened number = some held → held = transaction

abbrev Runs {α : Type} (start : MigrationWorld) (number : Nat) (program : MigrationTask α)
    (post : Except Exc α → MigrationWorld → Prop) (state : MigrationWorld) : Prop :=
  program.wp (answered (migrationWorld (.run number)) (Sound start) (Relies number))
    (obliged (Sound start) (owed (.run number))) post state

section Statements
variable {start world after : MigrationWorld} {number : Nat} {run : MigrationRun} {rows : List Int}
  {done rest : List Migration} {migration : Migration} {transaction : Transaction}

theorem Progress.relied (progress : Progress start number run rows done world)
    (relied : Relies number world after) (sound : Sound start after) :
    Progress start number run rows done after where
  sound := sound
  called := relied.runs.trans progress.called
  found := relied.found.trans progress.found
  expected := progress.expected
  within := progress.within.trans relied.available
  existing version member := relied.versions.subset (progress.existing version member)
  applied earlier member := relied.versions.subset (progress.applied earlier member)

theorem Progress.performed {call : MigrationCall} (progress : Progress start number run rows done world)
    (performed : Performed number call world after) (ledger : Ledger world → Ledger after) :
    Progress start number run rows done after := by
  have leaves := performed_leaves performed
  exact {
    sound := progress.sound.performed performed ledger
    called := by rw [leaves.runs, progress.called]
    found := by rw [leaves.found, progress.found]
    expected := progress.expected
    within := by
      rw [leaves.available]
      exact progress.within
    existing := fun version member => leaves.versions.subset (progress.existing version member)
    applied := fun earlier member => leaves.versions.subset (progress.applied earlier member) }

theorem Holds.relied (holds : Holds number transaction world) (relied : Relies number world after) :
    Holds number transaction after := by
  intro held opened
  rcases relied.opened with same | gone
  · rw [same] at opened
    exact holds held opened
  · rw [gone] at opened
    cases opened

theorem holds_setOpened : Holds number transaction (world.setOpened number (some transaction)) := by
  intro held opened
  rcases Ledger.opened_setOpened opened with ⟨-, same⟩ | ⟨different, -⟩
  · cases same
    rfl
  · exact absurd rfl different

/-- A statement is answered in a state as far as the one it was sent in. -/
theorem ask_runs {call : MigrationCall} {post : Except Exc (MigrationResult call) → MigrationWorld → Prop}
    (progress : Progress start number run rows done world)
    (holds : Holds number transaction world)
    (next : ∀ answer resumed after, Progress start number run rows done resumed →
      Holds number transaction resumed →
      migrationWorld (.run number) call answer resumed after → post answer after) :
    Runs start number (ask call) post world := by
  apply call_safe progress.sound
  intro answer resumed after relied sound given
  exact next answer resumed after (progress.relied relied sound) (holds.relied relied) given
/-- A statement that is noted nowhere takes effect or fails. -/
theorem given_cases {call : MigrationCall} {answer : Except Exc (MigrationResult call)}
    (quiet : ∀ done, noted number call answer done = done)
    (given : migrationWorld (.run number) call answer world after) :
    Performed number call world after ∨ (∃ fault, answer = .error fault) ∧ after = world := by
  obtain ⟨done, performed, -, rfl⟩ := given
  rw [quiet]
  exact performed

theorem begin_runs (progress : Progress start number run rows done world) :
    Runs start number (ask .begin) (Coro.either
      (fun _ after => Progress start number run rows done after ∧ Holds number ⟨[], []⟩ after)
      fun _ after => Progress start number run rows done after) world := by
  apply call_safe progress.sound
  intro answer resumed after relied sound given
  have still := progress.relied relied sound
  rcases given_cases (fun _ => rfl) given with same | ⟨⟨fault, rfl⟩, rfl⟩
  · have kept := still.performed same fun ledger => by
      rw [show after = resumed.setOpened number (some ⟨[], []⟩) from same]
      exact ledger.setOpened fun held equal => by
        cases equal
        rfl
    cases answer with
    | error fault => exact kept
    | ok _ =>
        refine ⟨kept, ?_⟩
        rw [show after = resumed.setOpened number (some ⟨[], []⟩) from same]
        exact holds_setOpened
  · exact still

theorem rollback_runs (progress : Progress start number run rows done world) :
    Runs start number (ask .rollback) (fun _ after => Progress start number run rows done after)
      world := by
  apply call_safe progress.sound
  intro answer resumed after relied sound given
  have still := progress.relied relied sound
  rcases given_cases (fun _ => rfl) given with same | ⟨-, rfl⟩
  · apply still.performed same
    intro ledger
    rw [show after = resumed.setOpened number none from same]
    exact ledger.setOpened fun held impossible => by cases impossible
  · exact still

/-- The SQL of a migration that was not found, in a transaction of its own. -/
theorem executeSql_runs (progress : Progress start number run rows done world)
    (pending : rows.length < run.migrations.length) (holds : Holds number ⟨[], []⟩ world) (sql : Str) :
    Runs start number (ask (.executeSql sql)) (Coro.either
      (fun _ after => Progress start number run rows done after ∧ Holds number ⟨[sql], []⟩ after)
      fun _ after => Progress start number run rows done after) world := by
  apply ask_runs progress holds
  rintro answer resumed after still holds ⟨sent, performed, -, rfl⟩
  -- before the note, the statement has left its SQL in the transaction or failed
  have kept : Progress start number run rows done sent ∧
      ((∃ fault, answer = .error fault) ∨ Holds number ⟨[sql], []⟩ sent) := by
    rcases performed with performed | ⟨failed, rfl⟩
    · have effect := performed
      obtain ⟨held, opened, same⟩ := effect
      cases holds held opened
      refine ⟨still.performed performed ?_, .inr ?_⟩
      · intro ledger
        rw [same]
        exact ledger.setOpened fun held equal => by
          cases equal
          rfl
      · rw [same]
        exact holds_setOpened
    · exact ⟨still, .inl failed⟩
  obtain ⟨progress, outcome⟩ := kept
  have noted : Progress start number run rows done (noted number (.executeSql sql) answer sent) := by
    refine { progress with
      sound := ⟨fun initial => (progress.sound.kept initial).logged, fun other => ?_⟩ }
    by_cases same : other = number
    · subst same
      have honest := progress.sound.honest other
      refine ⟨fun _ => ?_, honest.rejected, honest.existing⟩
      exact ⟨run, rows, progress.called, progress.found, progress.expected, pending⟩
    · exact (noted_relies sent same).honest (progress.sound.honest other)
  cases answer with
  | error fault => exact noted
  | ok _ =>
      rcases outcome with ⟨fault, impossible⟩ | holds
      · cases impossible
      · exact ⟨noted, holds⟩

theorem insertVersion_runs (progress : Progress start number run rows done world)
    (place : run.migrations = done ++ migration :: rest)
    (holds : Holds number ⟨[migration.sql], []⟩ world) :
    Runs start number (ask (.insertVersion migration.version)) (Coro.either
      (fun _ after => Progress start number run rows done after ∧
        Holds number ⟨[migration.sql], [migration.version]⟩ after)
      fun _ after => Progress start number run rows done after) world := by
  apply ask_runs progress holds
  intro answer resumed after still holds given
  rcases given_cases (fun _ => rfl) given with performed | ⟨⟨fault, rfl⟩, rfl⟩
  · have effect := performed
    obtain ⟨held, opened, fresh, alone, same⟩ := effect
    cases holds held opened
    have kept := still.performed performed fun ledger => by
      rw [same]
      have within := still.within
      rw [place] at within
      exact ledger.insert (ledger.next within still.applied fresh) alone
    cases answer with
    | error fault => exact kept
    | ok _ =>
        refine ⟨kept, ?_⟩
        rw [same]
        exact holds_setOpened
  · exact still

theorem commit_runs (progress : Progress start number run rows done world)
    (holds : Holds number ⟨[migration.sql], [migration.version]⟩ world) :
    Runs start number (ask .commit) (Coro.either
      (fun _ after => Progress start number run rows (done ++ [migration]) after)
      fun _ after => Progress start number run rows done after) world := by
  apply ask_runs progress holds
  intro answer resumed after still holds given
  rcases given_cases (fun _ => rfl) given with performed | ⟨⟨fault, rfl⟩, rfl⟩
  · have effect := performed
    obtain ⟨held, opened, same⟩ := effect
    cases holds held opened
    have kept := still.performed performed fun ledger => by
      rw [same]
      exact ledger.commit opened (List.cons_ne_nil _ _)
    cases answer with
    | error fault => exact kept
    | ok _ =>
        refine { kept with applied := fun earlier member => ?_ }
        rcases List.mem_append.mp member with before | last
        · exact kept.applied earlier before
        · cases List.mem_singleton.mp last
          rw [same]
          exact List.mem_append_right _ List.mem_cons_self
  · exact still

/-- One turn of the loop for a migration that was not found. -/
theorem migration_runs (progress : Progress start number run rows done world)
    (place : run.migrations = done ++ migration :: rest)
    (pending : rows.length < run.migrations.length) :
    Runs start number (inTransaction (applyMigration migration)) (Coro.either
      (fun _ after => Progress start number run rows (done ++ [migration]) after)
      fun _ after => Progress start number run rows done after) world := by
  apply Coro.wp_seq (begin_runs progress)
  rintro _ begun ⟨still, holds⟩
  have body : Runs start number (applyMigration migration) (Coro.either
      (fun _ after => Progress start number run rows done after ∧
        Holds number ⟨[migration.sql], [migration.version]⟩ after)
      fun _ after => Progress start number run rows done after) begun := by
    apply Coro.wp_seq (executeSql_runs still pending holds migration.sql)
    rintro _ sent ⟨still, holds⟩
    exact insertVersion_runs still place holds
  refine Coro.wp_bind (Coro.wp_outcome (Coro.wp_mono ?_ body))
  rintro (fault | _) after reached
  · refine Coro.wp_bind (Coro.wp_mono ?_ (rollback_runs reached))
    rintro (other | _) last kept <;> exact kept
  · exact commit_runs reached.1 reached.2

/-- A version of the list that the rows do not have makes the rows shorter. -/
theorem pending_of_absent (expected : rows <+: versionsOf run.migrations)
    (member : migration ∈ run.migrations) (absent : migration.version ∉ rows) :
    rows.length < run.migrations.length := by
  have short := expected.length_le
  rw [versionsOf, List.length_map] at short
  refine lt_of_le_of_ne short fun same => absent ?_
  have whole : rows = versionsOf run.migrations := by
    apply expected.eq_of_length
    rw [versionsOf, List.length_map, same]
  rw [whole]
  exact List.mem_map_of_mem member

/-- The loop: what is behind it is committed. -/
theorem applyPending_runs (progress : Progress start number run rows done world)
    (place : run.migrations = done ++ rest) :
    Runs start number (applyPending rows rest)
      (fun _ after => ∃ upTo, Progress start number run rows upTo after) world := by
  induction rest generalizing done world with
  | nil => exact ⟨done, progress⟩
  | cons migration rest ih =>
      have further : run.migrations = (done ++ [migration]) ++ rest := by
        rw [place, List.append_assoc, List.singleton_append]
      have turn : Runs start number
          (Coro.onlyIf (!rows.contains migration.version) (inTransaction (applyMigration migration)))
          (Coro.either (fun _ after => Progress start number run rows (done ++ [migration]) after)
            fun _ after => ∃ upTo, Progress start number run rows upTo after) world := by
        apply Coro.wp_onlyIf
        · intro wanted
          have absent : migration.version ∉ rows := by simpa using wanted
          have pending := pending_of_absent progress.expected
            (by rw [place]; exact List.mem_append_right _ List.mem_cons_self) absent
          refine Coro.wp_mono ?_ (migration_runs progress place pending)
          rintro (fault | _) after kept
          · exact ⟨done, kept⟩
          · exact kept
        · intro skipped
          have found : migration.version ∈ rows := by simpa using skipped
          refine { progress with applied := fun earlier member => ?_ }
          rcases List.mem_append.mp member with before | last
          · exact progress.applied earlier before
          · cases List.mem_singleton.mp last
            exact progress.existing _ found
      apply Coro.wp_seq turn
      intro _ after kept
      exact ih kept further
end Statements

theorem validate_ok {applied expected : List Int}
    (ok : validateAppliedVersions applied expected = .ok ()) : applied <+: expected := by
  unfold validateAppliedVersions at ok
  split at ok
  · cases ok
  split at ok
  · cases ok
  split at ok
  · cases ok
  · rename_i same
    exact List.prefix_iff_eq_take.mpr (not_not.mp same)

theorem validate_error {applied expected : List Int} {fault : Exc}
    (raised : validateAppliedVersions applied expected = .error fault) :
    ∃ message, fault = .migrationError message := by
  unfold validateAppliedVersions at raised
  repeat' split at raised
  all_goals cases raised
  all_goals exact ⟨_, rfl⟩

theorem readVersions_integers (rows : List Int) :
    readVersions (rows.map Cell.integer) = .ok rows := by
  unfold readVersions
  induction rows with
  | nil => rfl
  | cons first rest ih =>
      rw [List.map_cons, List.mapM_cons, ih]
      rfl

/-- A run that has not read the rows yet. -/
structure Called (start : MigrationWorld) (number : Nat) (run : MigrationRun) (world : MigrationWorld) :
    Prop where
  sound : Sound start world
  called : world.runs number = some run
  unread : world.found number = none
  unsent : world.executed number = []
  within : run.migrations <+: world.available
  existing : run.existing <+: world.versions

section Calls
variable {start world after : MigrationWorld} {number : Nat} {run : MigrationRun} {rows : List Int}
  {done : List Migration}

theorem Called.relied (called : Called start number run world) (relied : Relies number world after)
    (sound : Sound start after) : Called start number run after where
  sound := sound
  called := relied.runs.trans called.called
  unread := relied.found.trans called.unread
  unsent := relied.executed.trans called.unsent
  within := called.within.trans relied.available
  existing := called.existing.trans relied.versions

theorem finish_relies {other : Nat} {outcome : Except Exc Unit} (different : other ≠ number) :
    Relies other world (world.finish number outcome) := by
  refine { Relies.refl world with ended := ?_ }
  exact Function.update_of_ne different _ _

theorem call_relies {other : Nat} {migrations : List Migration} (different : other ≠ number) :
    Relies other world (world.call number migrations) := by
  refine { Relies.refl world with runs := ?_ }
  exact Function.update_of_ne different _ _

/-- A run that did not read the rows, or read a prefix, may end in any way. -/
theorem sound_finish {outcome : Except Exc Unit} (kept : Ledger start → Ledger world)
    (others : ∀ other, other ≠ number → Honest other world)
    (honest : Honest number (world.finish number outcome)) :
    Sound start (world.finish number outcome) where
  kept initial := (kept initial).logged
  honest other := by
    by_cases same : other = number
    · rw [same]
      exact honest
    · exact (finish_relies same).honest (others other same)

theorem Called.finish {outcome : Except Exc Unit} (called : Called start number run world) :
    Sound start (world.finish number outcome) := by
  apply sound_finish called.sound.kept fun other _ => called.sound.honest other
  have honest := called.sound.honest number
  refine ⟨honest.executed, ?_, honest.existing⟩
  intro other rows _ found
  cases called.unread.symm.trans found

theorem Progress.finish {outcome : Except Exc Unit}
    (progress : Progress start number run rows done world) :
    Sound start (world.finish number outcome) := by
  apply sound_finish progress.sound.kept fun other _ => progress.sound.honest other
  have honest := progress.sound.honest number
  refine ⟨honest.executed, ?_, honest.existing⟩
  intro other read called found apart
  cases progress.called.symm.trans called
  cases progress.found.symm.trans found
  exact absurd progress.expected apart

/-- The rows that a run reads, noted. -/
def reading (number : Nat) (world : MigrationWorld) : MigrationWorld :=
  { world with found := Function.update world.found number (some (ascendingOrder world.versions)) }

theorem order_perm (versions : List Int) : (ascendingOrder versions).Perm versions :=
  List.perm_insertionSort _ versions

/-- Once the rows are read, all but the end of a rejected run is as it has to be. -/
theorem Called.reads (called : Called start number run world) {ended : Nat → Option (Except Exc Unit)}
    (accepted : ascendingOrder world.versions <+: versionsOf run.migrations ∨
      ∃ message, ended number = some (.error (.migrationError message))) :
    Honest number { reading number world with ended := ended } where
  executed sent := absurd called.unsent sent
  rejected other read runs found apart := by
    have same : world.runs number = some other := runs
    cases called.called.symm.trans same
    have rows : read = ascendingOrder world.versions := by
      have there : Function.update world.found number (some (ascendingOrder world.versions)) number =
        some read := found
      rw [Function.update_self] at there
      cases there
      rfl
    rcases accepted with expected | ended
    · exact absurd (rows ▸ expected) apart
    · exact ended
  existing other read runs found := by
    have same : world.runs number = some other := runs
    cases called.called.symm.trans same
    have there : Function.update world.found number (some (ascendingOrder world.versions)) number =
      some read := found
    rw [Function.update_self] at there
    cases there
    rw [(order_perm world.versions).length_eq]
    exact called.existing.length_le

theorem createTable_runs (called : Called start number run world) :
    Runs start number (ask .createTable) (fun _ after => Called start number run after) world := by
  apply call_safe called.sound
  intro answer resumed after relied sound given
  have still := called.relied relied sound
  rcases given_cases (fun _ => rfl) given with same | ⟨-, rfl⟩
  · rw [show after = resumed from same]
    exact still
  · exact still

/-- A run reads the rows in order, or fails before it knows them. -/
theorem fetch_runs (called : Called start number run world) :
    Runs start number fetchAppliedVersions (Coro.either
      (fun rows after => ∃ before, Called start number run before ∧
        rows = ascendingOrder before.versions ∧ after = reading number before)
      fun _ after => Called start number run after) world := by
  apply Coro.wp_bind
  apply call_safe called.sound
  intro answer resumed after relied sound given
  have still := called.relied relied sound
  obtain ⟨read, performed, reads, rfl⟩ := given
  have same : read = resumed := by
    rcases performed with same | ⟨-, same⟩ <;> exact same
  subst same
  cases answer with
  | error fault => exact still
  | ok cells =>
      apply Coro.wp_ofAnswer
      rw [show cells = (ascendingOrder read.versions).map Cell.integer from reads,
        readVersions_integers]
      exact ⟨read, still, rfl, rfl⟩

/-- A call of `run_migrations`, from the first statement to its end. -/
theorem runMigrations_runs (called : Called start number run world) :
    Runs start number (runMigrations run.migrations)
      (fun outcome after => Sound start (after.finish number outcome)) world := by
  refine Coro.wp_bind (Coro.wp_mono ?_ (createTable_runs called))
  rintro (fault | _) created still
  · exact still.finish
  refine Coro.wp_bind (Coro.wp_mono ?_ (fetch_runs still))
  rintro (fault | rows) read reached
  · exact reached.finish
  obtain ⟨before, called, rfl, rfl⟩ := reached
  have others : ∀ other, other ≠ number → Honest other (reading number before) := by
    intro other different
    have relies : Relies other before (noted number .fetchVersions (.ok []) before) :=
      noted_relies before different
    exact relies.honest (called.sound.honest other)
  refine Coro.wp_bind (Coro.wp_ofAnswer ?_)
  cases checked : validateAppliedVersions (ascendingOrder before.versions)
      (versionsOf run.migrations) with
  | error fault =>
      obtain ⟨message, rfl⟩ := validate_error checked
      apply sound_finish (fun initial => (called.sound.kept initial).logged) others
      exact called.reads (.inr ⟨message, Function.update_self ..⟩)
  | ok _ =>
      have expected := validate_ok checked
      have progress : Progress start number run (ascendingOrder before.versions) []
          (reading number before) := {
        sound := {
          kept := fun initial => (called.sound.kept initial).logged
          honest := fun other => by
            by_cases same : other = number
            · rw [same]
              exact called.reads (.inl expected)
            · exact others other same }
        called := called.called
        found := Function.update_self ..
        expected := expected
        within := called.within
        existing := fun version member => (order_perm before.versions).mem_iff.mp member
        applied := fun earlier member => by cases member }
      refine Coro.wp_mono ?_ (applyPending_runs progress rfl)
      rintro outcome after ⟨upTo, kept⟩
      exact kept.finish
end Calls

/-- No run has this number yet. -/
def Unused (key : MigrationKey) (world : MigrationWorld) : Prop :=
  ∀ number, key = .run number → world.found number = none ∧ world.executed number = []

theorem unused_kept {key other : MigrationKey} {before after : MigrationWorld} (different : key ≠ other)
    (moved : owed key before after) (unused : Unused other before) : Unused other after := by
  rintro number rfl
  have relies := moved number different
  rw [relies.found, relies.executed]
  exact unused number rfl

theorem migrationRun_safe {start world : MigrationWorld} {number : Nat} {migrations : List Migration}
    (sound : Sound start world) (unused : Unused (.run number) world)
    (within : migrations <+: world.available) :
    Safe (migrationWorld (.run number)) (Sound start) (contract (.run number))
      (migrationRun number migrations) world := by
  obtain ⟨unread, unsent⟩ := unused number rfl
  have called : Called start number ⟨migrations, world.versions⟩ (world.call number migrations) := {
    sound := {
      kept := fun initial => (sound.kept initial).logged
      honest := fun other => by
        by_cases same : other = number
        · subst same
          refine ⟨fun sent => absurd unsent sent, ?_, ?_⟩
          · intro run rows _ found
            cases unread.symm.trans found
          · intro run rows _ found
            cases unread.symm.trans found
        · exact (call_relies same).honest (sound.honest other) }
    called := Function.update_self ..
    unread := unread
    unsent := unsent
    within := within
    existing := List.prefix_rfl }
  refine Coro.wp_bind (update_safe ?_ ?_)
  · intro other different
    exact call_relies fun same => different (congrArg MigrationKey.run same.symm)
  · refine Coro.wp_bind (Coro.wp_outcome (Coro.wp_mono ?_ (runMigrations_runs called)))
    intro outcome after ended
    refine update_safe ?_ ⟨ended, trivial⟩
    intro other different
    exact finish_relies fun same => different (congrArg MigrationKey.run same.symm)

theorem programs_safe {start world : MigrationWorld} {key : MigrationKey} {program : MigrationTask Unit}
    (spawned : migrationPrograms key program world) (sound : Sound start world)
    (unused : Unused key world) :
    Safe (migrationWorld key) (Sound start) (contract key) program world := by
  cases key with
  | run number =>
      obtain ⟨migrations, within, rfl⟩ := spawned
      exact migrationRun_safe sound unused within
  | around serial =>
      rcases spawned with ⟨more, ascending, rfl⟩ | ⟨number, rfl⟩
      · refine update_safe ?_ ⟨⟨fun initial => (sound.kept initial).grow ascending, ?_⟩, trivial⟩
        · intro other _
          exact { Relies.refl world with available := List.prefix_append _ _ }
        · intro other
          have honest := sound.honest other
          exact ⟨honest.executed, honest.rejected, honest.existing⟩
      · refine update_safe ?_ ⟨⟨fun initial => (sound.kept initial).setOpened ?_, ?_⟩, trivial⟩
        · intro other _
          by_cases same : other = number
          · rw [same]
            exact { Relies.refl world with opened := .inr (Function.update_self ..) }
          · exact (leaves_setOpened number none world).relies same
        · intro held impossible
          cases impossible
        · intro other
          have honest := sound.honest other
          exact ⟨honest.executed, honest.rejected, honest.existing⟩

/-- Every run of the pool, in every order of its statements. -/
theorem pool_sound {available : List Migration} {versions : List Int} {effects : List Str}
    {pool : MigrationPool}
    (reached : Reachable migrationWorld migrationPrograms (.new available versions effects) pool) :
    Sound (.new available versions effects) pool.state := by
  have initial : Sound (.new available versions effects) (.new available versions effects) := {
    kept := id
    honest := fun other => {
      executed := fun sent => absurd rfl sent
      rejected := fun run rows impossible => by cases impossible
      existing := fun run rows impossible => by cases impossible } }
  have safe := reachable_quiet Unused contract_lawful (fun key other before after different moved => by
      cases other with
      | run number => exact moved number different
      | around serial => trivial)
    (fun key other before after different moved unused => unused_kept different moved unused)
    (fun key call answer before after given => answers_owed given)
    (fun key program state spawned sound unused => programs_safe spawned sound unused) initial
    (fun key number _ => ⟨rfl, rfl⟩) reached
  exact safe.1.1

/-- Whatever fails and however the runs interleave: from an empty database and
an ascending list, the committed rows are a prefix of the list and the committed
SQL is theirs, once each and in order. From any database, a run that finds rows
that are no prefix of its list raises and has executed nothing, and a run that is
called when all of its list is committed executes nothing. -/
theorem migrations_once_in_order {available : List Migration} {versions : List Int}
    {effects : List Str} {pool : MigrationPool}
    (reached : Reachable migrationWorld migrationPrograms (.new available versions effects) pool) :
    (Ascending available → versions = [] → effects = [] →
      pool.state.versions <+: versionsOf pool.state.available ∧
      pool.state.effects =
        (pool.state.available.take pool.state.versions.length).map Migration.sql) ∧
    (∀ number run rows, pool.state.runs number = some run → pool.state.found number = some rows →
      ¬ rows <+: versionsOf run.migrations →
      pool.state.executed number = [] ∧
        ∃ message, pool.state.ended number = some (.error (.migrationError message))) ∧
    ∀ number run, pool.state.runs number = some run → run.existing = versionsOf run.migrations →
      pool.state.executed number = [] := by
  have sound := pool_sound reached
  refine ⟨?_, ?_, ?_⟩
  · rintro ascending rfl rfl
    have ledger := sound.kept (Ledger.new ascending)
    exact ⟨ledger.versions, ledger.effects⟩
  · intro number run rows called found apart
    have honest := sound.honest number
    refine ⟨?_, honest.rejected run rows called found apart⟩
    by_contra sent
    obtain ⟨other, read, again, there, expected, -⟩ := honest.executed sent
    cases called.symm.trans again
    cases found.symm.trans there
    exact apart expected
  · intro number run called whole
    have honest := sound.honest number
    by_contra sent
    obtain ⟨other, read, again, there, -, short⟩ := honest.executed sent
    cases called.symm.trans again
    have reads := honest.existing run read called there
    rw [whole, versionsOf, List.length_map] at reads
    omega

/-- One migration, with a one-letter path and SQL. -/
def migrationOne : Migration := ⟨1, [49], [83]⟩

/-- A run commits the only migration of the list. -/
theorem run_commits_one : ∃ pool : MigrationPool,
    Reachable migrationWorld migrationPrograms (.new [migrationOne] [] []) pool ∧
      pool.state.versions = [1] ∧ pool.state.effects = [[83]] ∧ pool.state.ended 0 = some (.ok ()) := by
  have unstarted : Reachable migrationWorld migrationPrograms (.new [migrationOne] [] [])
    ⟨fun _ => none, .new [migrationOne] [] []⟩ := .start
  obtain ⟨⟨_, _⟩, called, rfl, rfl⟩ := unstarted.spawned (.run 0) rfl
    ⟨[migrationOne], List.prefix_rfl, rfl⟩ rfl
  obtain ⟨⟨_, _⟩, created, rfl, rfl⟩ := called.resumed (.run 0) rfl (.ok ())
    ⟨_, .inl rfl, trivial, rfl⟩ rfl
  obtain ⟨⟨_, _⟩, fetched, rfl, rfl⟩ := created.resumed (.run 0) rfl (.ok [])
    ⟨_, .inl rfl, rfl, rfl⟩ rfl
  obtain ⟨⟨_, _⟩, begun, rfl, rfl⟩ := fetched.resumed (.run 0) rfl (.ok ())
    ⟨_, .inl rfl, trivial, rfl⟩ rfl
  obtain ⟨⟨_, _⟩, sent, rfl, rfl⟩ := begun.resumed (.run 0) rfl (.ok ())
    ⟨_, .inl ⟨⟨[], []⟩, rfl, rfl⟩, trivial, rfl⟩ rfl
  have free : ∀ other (held : Transaction), Function.update (Function.update (fun _ => none) 0
      (some ⟨[], []⟩)) 0 (some ⟨[[83]], []⟩) other = some held → (1 : Int) ∉ held.inserted := by
    intro other held opened
    rw [Function.update_idem] at opened
    by_cases same : other = 0
    · rw [same, Function.update_self] at opened
      cases opened
      exact List.not_mem_nil
    · rw [Function.update_of_ne same] at opened
      cases opened
  obtain ⟨⟨_, _⟩, inserted, rfl, rfl⟩ := sent.resumed (.run 0) rfl (.ok ())
    ⟨_, .inl ⟨⟨[[83]], []⟩, rfl, List.not_mem_nil, free, rfl⟩, trivial, rfl⟩ rfl
  obtain ⟨⟨_, _⟩, committed, rfl, rfl⟩ := inserted.resumed (.run 0) rfl (.ok ())
    ⟨_, .inl ⟨⟨[[83]], [1]⟩, rfl, rfl⟩, trivial, rfl⟩ rfl
  exact ⟨_, committed, rfl, rfl, rfl⟩

/-- The same run, with what is so of all runs. -/
theorem one_migration_in_order : ∃ pool : MigrationPool, pool.state.versions = [1] ∧
    pool.state.ended 0 = some (.ok ()) ∧
    pool.state.versions <+: versionsOf pool.state.available ∧
    pool.state.effects = (pool.state.available.take pool.state.versions.length).map Migration.sql := by
  obtain ⟨pool, reached, versions, -, ended⟩ := run_commits_one
  exact ⟨pool, versions, ended,
    (migrations_once_in_order reached).1 (List.pairwise_singleton _ _) rfl rfl⟩

end VibeConnect.MigrationRuns
