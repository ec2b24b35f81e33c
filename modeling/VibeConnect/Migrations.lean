import Mathlib.Data.List.Dedup
import Mathlib.Data.List.SplitBy
import Mathlib.Data.List.Sort
import VibeConnect.Models
import VibeConnect.Python.Tasks

/-! Schema migrations. Any number of runs, each on a connection of its own, send
their statements in any order to one database; a statement can fail with or
without its effect, and the server can drop a transaction at any time. The list
of migrations grows meanwhile. -/
namespace VibeConnect.Migrations
open Python.Text Python.Coroutine Python.Tasks Models

structure Migration where
  version : Int
  path : Str
  sql : Str
  deriving DecidableEq

/-- A file of the directory: its name, the name without `.sql`, and its text. -/
structure SqlFile where
  name : Str
  stem : Str
  text : Str

def isSlug (code : CodePoint) : Bool :=
  (97 ≤ code.val && code.val ≤ 122) || (48 ≤ code.val && code.val ≤ 57)

/-- `(?:_[a-z0-9]+(?:_[a-z0-9]+)*)?`. -/
def isSlugs : Str → Bool
  | [] => true
  | first :: rest => first == 95 && (rest.splitOn 95).all fun part => part != [] && part.all isSlug

/-- `$` also matches before a newline at the end. -/
def trimNewline (text : Str) : Str := if text.getLast? = some 10 then text.dropLast else text

section Loading
variable (digit : CodePoint → Option Nat)

/-- `MIGRATION_FILENAME_RE` and `int`, over the decimal digits of Unicode. -/
def versionOf : Str → Option Int
  | hundreds :: tens :: ones :: suffix => do
      let value := 100 * (← digit hundreds) + 10 * (← digit tens) + (← digit ones)
      if isSlugs (trimNewline suffix) then some value else none
  | _ => none

/-- `_parse_migration_version`. -/
def parseMigrationVersion (file : SqlFile) : Except Exc Int :=
  match versionOf digit file.stem with
  | none => .error (.migrationError (lit "invalid migration filename: " ++ file.name))
  | some version => .ok version

/-- One turn of the loop over the files, with the versions seen so far. -/
def loadFile (loaded : List Migration × List Int) (file : SqlFile) :
    Except Exc (List Migration × List Int) := do
  let version ← parseMigrationVersion digit file
  if loaded.2.contains version then
    .error (.migrationError (lit "duplicate migration version: " ++ lit (toString version)))
  else .ok (loaded.1 ++ [⟨version, file.name, file.text⟩], version :: loaded.2)

/-- `load_migrations` on `sorted(directory.glob("*.sql"))`. -/
def loadMigrations (files : List SqlFile) : Except Exc (List Migration) := do
  let loaded ← files.foldlM (loadFile digit) ([], [])
  .ok (loaded.1.mergeSort fun one two => decide (one.version ≤ two.version))
end Loading

def versionsOf (migrations : List Migration) : List Int := migrations.map Migration.version

/-- Ascending versions, none twice. -/
def Ascending (migrations : List Migration) : Prop := (versionsOf migrations).Pairwise (· < ·)

theorem loadFile_seen {digit : CodePoint → Option Nat} {loaded after : List Migration × List Int}
    {file : SqlFile} (ok : loadFile digit loaded file = .ok after)
    (seen : ∀ version, version ∈ loaded.2 ↔ version ∈ versionsOf loaded.1)
    (distinct : (versionsOf loaded.1).Nodup) :
    (∀ version, version ∈ after.2 ↔ version ∈ versionsOf after.1) ∧ (versionsOf after.1).Nodup := by
  obtain ⟨version, -, ok⟩ := bind_ok.mp ok
  split at ok
  · cases ok
  · rename_i fresh
    cases ok
    have absent : version ∉ versionsOf loaded.1 := by
      rw [← seen]
      simpa using fresh
    constructor
    · intro other
      simp only [versionsOf, List.map_append, List.map_cons, List.map_nil, List.mem_append,
        List.mem_cons, List.not_mem_nil, or_false]
      rw [seen, versionsOf, or_comm]
    · rw [versionsOf, List.map_append]
      apply List.Nodup.append distinct (List.nodup_singleton _)
      intro other member single
      cases List.mem_singleton.mp single
      exact absent member

theorem loadFiles_distinct {digit : CodePoint → Option Nat} {files : List SqlFile}
    {loaded after : List Migration × List Int}
    (ok : files.foldlM (loadFile digit) loaded = .ok after)
    (seen : ∀ version, version ∈ loaded.2 ↔ version ∈ versionsOf loaded.1)
    (distinct : (versionsOf loaded.1).Nodup) : (versionsOf after.1).Nodup := by
  induction files generalizing loaded with
  | nil =>
      cases ok
      exact distinct
  | cons file rest ih =>
      rw [List.foldlM_cons] at ok
      obtain ⟨middle, first, ok⟩ := bind_ok.mp ok
      obtain ⟨still, one⟩ := loadFile_seen first seen distinct
      exact ih ok still one

/-- What is loaded is an ascending list of distinct versions. -/
theorem loadMigrations_ascending {digit : CodePoint → Option Nat} {files : List SqlFile}
    {migrations : List Migration} (ok : loadMigrations digit files = .ok migrations) :
    Ascending migrations := by
  obtain ⟨loaded, read, same⟩ := bind_ok.mp ok
  cases same
  have distinct := loadFiles_distinct read (by simp [versionsOf]) List.nodup_nil
  have sorted : (loaded.1.mergeSort fun one two => decide (one.version ≤ two.version)).Pairwise
      fun one two => decide (one.version ≤ two.version) = true :=
    List.pairwise_mergeSort (by simp; omega) (by simp; omega) loaded.1
  have apart : (versionsOf (loaded.1.mergeSort fun one two =>
      decide (one.version ≤ two.version))).Nodup :=
    ((List.mergeSort_perm loaded.1 _).map _).nodup_iff.mpr distinct
  rw [Ascending, versionsOf, List.pairwise_map]
  rw [versionsOf, List.Nodup, List.pairwise_map] at apart
  apply (sorted.and apart).imp
  rintro one two ⟨le, ne⟩
  have := of_decide_eq_true le
  omega

/-! The runner. -/

/-- A cell of the column `version`. -/
inductive Cell where
  | integer (value : Int)
  | other
  deriving DecidableEq

/-- The statements of a run, `CREATE TABLE IF NOT EXISTS` first. -/
inductive MigrationCall where
  | createTable
  | fetchVersions
  | begin
  | executeSql (sql : Str)
  | insertVersion (version : Int)
  | commit
  | rollback

abbrev MigrationResult : MigrationCall → Type
  | .fetchVersions => List Cell
  | _ => Unit

/-- What a transaction has done that no other sees yet. -/
structure Transaction where
  sql : List Str
  inserted : List Int
  deriving DecidableEq

/-- A call of `run_migrations`, with the versions committed when it was made. -/
structure MigrationRun where
  migrations : List Migration
  existing : List Int

/-- The list of migrations, the committed rows of `schema_migrations`, the SQL
that has been committed, and the open transaction of each connection; then what
the runs have done: the call, the versions that it found, the migrations that it
sent, and how it ended. -/
structure MigrationWorld where
  available : List Migration
  versions : List Int
  effects : List Str
  opened : Nat → Option Transaction
  runs : Nat → Option MigrationRun
  found : Nat → Option (List Int)
  executed : Nat → List Str
  ended : Nat → Option (Except Exc Unit)

abbrev MigrationTask (α : Type) := Task MigrationWorld MigrationResult Exc α

def ask (call : MigrationCall) : MigrationTask (MigrationResult call) := await call

/-- The loop of `_fetch_applied_versions`. -/
def readVersions (cells : List Cell) : Except Exc (List Int) :=
  cells.mapM fun cell => match cell with
    | .integer value => .ok value
    | .other => .error (.migrationError (lit "schema_migrations.version must be an integer"))

def fetchAppliedVersions : MigrationTask (List Int) := do
  let cells ← ask .fetchVersions
  Coro.ofAnswer (readVersions cells)

def ascendingOrder (versions : List Int) : List Int :=
  versions.insertionSort fun one two => one ≤ two

def validateAppliedVersions (applied expected : List Int) : Except Exc Unit :=
  if applied.dedup.length ≠ applied.length then
    .error (.migrationError (lit "schema_migrations contains duplicate versions"))
  else if applied ≠ ascendingOrder applied then
    .error (.migrationError (lit "schema_migrations is out of order"))
  else if applied ≠ expected.take applied.length then
    .error (.migrationError (lit "schema_migrations is partial or out of order"))
  else .ok ()

/-- `async with transaction(connection): body`. -/
def inTransaction (body : MigrationTask Unit) : MigrationTask Unit := do
  ask .begin
  match ← body.outcome with
  | .ok _ => ask .commit
  | .error fault => do
      ask .rollback
      throw fault

def applyMigration (migration : Migration) : MigrationTask Unit := do
  ask (.executeSql migration.sql)
  ask (.insertVersion migration.version)

def applyPending (applied : List Int) : List Migration → MigrationTask Unit
  | [] => pure ()
  | migration :: rest => do
      Coro.onlyIf (!applied.contains migration.version) (inTransaction (applyMigration migration))
      applyPending applied rest

def runMigrations (migrations : List Migration) : MigrationTask Unit := do
  ask .createTable
  let applied ← fetchAppliedVersions
  Coro.ofAnswer (validateAppliedVersions applied (versionsOf migrations))
  applyPending applied migrations

/-! The database. -/
namespace MigrationWorld

def setOpened (number : Nat) (transaction : Option Transaction) (world : MigrationWorld) :
    MigrationWorld :=
  { world with opened := Function.update world.opened number transaction }

/-- A transaction takes effect as a whole. -/
def committing (number : Nat) (transaction : Transaction) (world : MigrationWorld) : MigrationWorld :=
  { world.setOpened number none with
    versions := world.versions ++ transaction.inserted
    effects := world.effects ++ transaction.sql }

def grow (more : List Migration) (world : MigrationWorld) : MigrationWorld :=
  { world with available := world.available ++ more }

def call (number : Nat) (migrations : List Migration) (world : MigrationWorld) : MigrationWorld :=
  { world with runs := Function.update world.runs number (some ⟨migrations, world.versions⟩) }

def finish (number : Nat) (outcome : Except Exc Unit) (world : MigrationWorld) : MigrationWorld :=
  { world with ended := Function.update world.ended number (some outcome) }

/-- Before any run. -/
def new (available : List Migration) (versions : List Int) (effects : List Str) : MigrationWorld :=
  ⟨available, versions, effects, fun _ => none, fun _ => none, fun _ => none, fun _ => [], fun _ => none⟩

end MigrationWorld

/-- What the server does. The key lets a version in that no row has; a row that
another transaction has inserted makes the statement wait for its end. -/
def Performed (number : Nat) (call : MigrationCall) (before after : MigrationWorld) : Prop :=
  match call with
  | .createTable | .fetchVersions => after = before
  | .begin => after = before.setOpened number (some ⟨[], []⟩)
  | .executeSql sql => ∃ transaction, before.opened number = some transaction ∧
      after = before.setOpened number (some { transaction with sql := transaction.sql ++ [sql] })
  | .insertVersion version => ∃ transaction, before.opened number = some transaction ∧
      version ∉ before.versions ∧
      (∀ other held, before.opened other = some held → version ∉ held.inserted) ∧
      after = before.setOpened number
        (some { transaction with inserted := transaction.inserted ++ [version] })
  | .commit => ∃ transaction, before.opened number = some transaction ∧
      after = before.committing number transaction
  | .rollback => after = before.setOpened number none

/-- What the run has done with an answer. -/
def noted (number : Nat) : (call : MigrationCall) → Except Exc (MigrationResult call) →
    MigrationWorld → MigrationWorld
  | .executeSql sql, _, world =>
      { world with executed := Function.update world.executed number (world.executed number ++ [sql]) }
  | .fetchVersions, .ok _, world =>
      { world with found := Function.update world.found number (some (ascendingOrder world.versions)) }
  | _, _, world => world

/-- `ORDER BY version`, of an integer column. -/
def Reads : (call : MigrationCall) → Except Exc (MigrationResult call) → MigrationWorld → Prop
  | .fetchVersions, .ok cells, world => cells = (ascendingOrder world.versions).map Cell.integer
  | _, _, _ => True

inductive MigrationKey where
  | run (number : Nat)
  | around (serial : Nat)
  deriving DecidableEq

def migrationWorld : MigrationKey → World MigrationWorld MigrationResult Exc
  | .run number => fun call answer before after => ∃ done,
      (Performed number call before done ∨ (∃ fault, answer = .error fault) ∧ done = before) ∧
      Reads call answer done ∧ after = noted number call answer done
  | .around _ => fun _ _ _ _ => False

/-- A run with its call and its end. -/
def migrationRun (number : Nat) (migrations : List Migration) : MigrationTask Unit := do
  update (MigrationWorld.call number migrations)
  let outcome ← (runMigrations migrations).outcome
  update (MigrationWorld.finish number outcome)

/-- A run has the list as it is or was; the list grows at its end; a transaction
is lost with its connection. -/
def migrationPrograms (key : MigrationKey) (program : MigrationTask Unit) (world : MigrationWorld) :
    Prop :=
  match key with
  | .run number => ∃ migrations, migrations <+: world.available ∧
      program = migrationRun number migrations
  | .around _ => (∃ more, Ascending (world.available ++ more) ∧
      program = update (MigrationWorld.grow more)) ∨
      ∃ number, program = update (MigrationWorld.setOpened number none)

abbrev MigrationPool := Pool MigrationKey MigrationWorld MigrationResult Exc

end VibeConnect.Migrations
