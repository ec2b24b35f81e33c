import Mathlib.Data.List.Sort
import Mathlib.Data.Rat.Defs
import VibeConnect.Python.JsonCodec
import VibeConnect.Python.Statements
import VibeConnect.Python.Values
import VibeConnect.Models

/-! Pruning of expired replays. Each file is deleted, then its session's pointer
is cleared, and one event for the batch is written at the end; any deletion and
any clearing can raise, and so can the name of a file. Modification times are
exact seconds. -/
namespace VibeConnect.ReplayPruning
open Python.Text Python.JsonCodec Python.Values Python.Statements Models

structure StoredFile where
  name : Str
  modified : Rat

structure ReplayDirectory where
  path : Str
  files : List StoredFile
  distinct : (files.map StoredFile.name).Nodup

/-- The value of `AuditEventType.REPLAY_PRUNED`. -/
def REPLAY_PRUNED : Str := lit "replay_pruned"

structure ReplayEventRecord where
  eventType : Str
  metadata : List (Str × Json)

/-- What pruning has done so far. -/
structure Journal where
  deleted : List Str
  cleared : List Uuid
  events : List ReplayEventRecord

def Journal.empty : Journal := ⟨[], [], []⟩

/-- What pruning is run with: `uuid.UUID` of a text, and what each deletion and
each clearing raises. -/
structure Pruning where
  directory : ReplayDirectory
  retentionDays : Int
  now : DateTime
  audited : Bool
  uuidOf : Str → Option Uuid
  unlinkFault : Str → Option Exc
  pointerFault : Str → Option Exc

def isCast (name : Str) : Bool := (lit ".cast").isSuffixOf name

/-- `Path.stem` of a name that ends in `.cast`. -/
def stem (name : Str) : Str :=
  if name = lit ".cast" then name else name.take (name.length - (lit ".cast").length)

def castFiles (directory : ReplayDirectory) : List StoredFile :=
  (directory.files.filter fun file => isCast file.name).insertionSort fun left right =>
    keyLe left.name right.name = true

def pathOf (directory : ReplayDirectory) (name : Str) : Str := directory.path ++ lit "/" ++ name

/-- `replay_pruned_audit_metadata`. -/
def replayPrunedAuditMetadata (paths : List Str) : List (Str × Json) :=
  [(lit "event_type", .str REPLAY_PRUNED),
    (lit "pruned_count", .int paths.length), (lit "replay_paths", .array (paths.map .str))]

namespace Pruning
variable (pruning : Pruning)

def cutoff : Rat :=
  (pruning.now.asUtc.instant : Rat) / 1000000 - pruning.retentionDays * 24 * 60 * 60

/-- `uuid.UUID(path.stem)`. -/
def sessionOf (file : StoredFile) : Except Exc Uuid :=
  match pruning.uuidOf (stem file.name) with
  | some sessionId => .ok sessionId
  | none => .error .valueError

/-- `path.unlink()`. -/
def unlink (file : StoredFile) : Block Journal Exc Unit :=
  change fun journal => match pruning.unlinkFault file.name with
    | some raised => (.error raised, journal)
    | none => (.ok (), { journal with deleted := journal.deleted ++ [file.name] })

/-- `session_store.prune_replay_pointer`. -/
def prunePointer (file : StoredFile) (sessionId : Uuid) : Block Journal Exc Unit :=
  change fun journal => match pruning.pointerFault file.name with
    | some raised => (.error raised, journal)
    | none => (.ok (), { journal with cleared := journal.cleared ++ [sessionId] })

/-- The loop of `prune_replays`. -/
def pruneEach : List StoredFile → List Str → Block Journal Exc (List Str)
  | [], pruned => pure pruned
  | file :: rest, pruned =>
      if file.modified ≥ pruning.cutoff then pruneEach rest pruned
      else do
        let sessionId ← answer (pruning.sessionOf file)
        pruning.unlink file
        pruning.prunePointer file sessionId
        pruneEach rest (pruned ++ [pathOf pruning.directory file.name])

/-- The one event of a batch. -/
def report (pruned : List Str) : Block Journal Exc Unit :=
  if pruned ≠ [] ∧ pruning.audited = true then
    modify fun journal => { journal with
      events := journal.events ++ [⟨REPLAY_PRUNED, replayPrunedAuditMetadata pruned⟩] }
  else pure ()

def pruneReplays : Block Journal Exc (List Str) :=
  if pruning.retentionDays < 1 then throw (.replayError "retention_days must be positive")
  else do
    let pruned ← pruning.pruneEach (castFiles pruning.directory) []
    pruning.report pruned
    pure pruned

/-- The files that are deleted, cleared and reported are the same, and none of them
is fresh. -/
structure Accounted (journal : Journal) : Prop where
  cleared : ∀ sessionId, sessionId ∈ journal.cleared ↔
    ∃ name ∈ journal.deleted, pruning.uuidOf (stem name) = some sessionId
  unreported : journal.deleted = [] → journal.events = []
  reported : journal.deleted ≠ [] → ∃ paths,
    journal.events = [⟨REPLAY_PRUNED, replayPrunedAuditMetadata paths⟩] ∧
      ∀ path, path ∈ paths ↔ ∃ name ∈ journal.deleted, path = pathOf pruning.directory name
  kept : ∀ file ∈ pruning.directory.files, pruning.cutoff ≤ file.modified →
    file.name ∉ journal.deleted

/-- A file whose name is a session and whose deletion works. -/
def Removable (file : StoredFile) : Prop :=
  (∃ sessionId, pruning.uuidOf (stem file.name) = some sessionId) ∧
    pruning.unlinkFault file.name = none

/-- The same, and its session's pointer can be cleared. -/
def Prunable (file : StoredFile) : Prop :=
  pruning.Removable file ∧ pruning.pointerFault file.name = none

def expired : List StoredFile :=
  (castFiles pruning.directory).filter fun file => decide (file.modified < pruning.cutoff)

/-- Nothing raises and there is a sink to report to, or the very first file stops
the loop before anything is deleted. -/
def Uninterrupted : Prop :=
  pruning.retentionDays < 1 ∨
    (∀ file ∈ pruning.expired, pruning.Prunable file) ∧
      (pruning.expired ≠ [] → pruning.audited = true) ∨
    ∃ first rest, pruning.expired = first :: rest ∧ ¬pruning.Removable first
/-! Where the loop stops. -/
section Loop

/-- What a loop leaves that is done with these files. -/
def after (journal : Journal) (files : List StoredFile) : Journal :=
  { journal with
    deleted := journal.deleted ++ files.map StoredFile.name
    cleared := journal.cleared ++ files.filterMap fun file => pruning.uuidOf (stem file.name) }

/-- A file stops the loop: it is still there, or it is gone and its pointer is not
cleared. -/
inductive Stops (file : StoredFile) (journal : Journal) : Journal → Prop where
  | unremovable (unmet : ¬pruning.Removable file) : Stops file journal journal
  | uncleared (removed : pruning.Removable file) (fault : pruning.pointerFault file.name ≠ none) :
      Stops file journal { journal with deleted := journal.deleted ++ [file.name] }

variable {pruning}
variable {file : StoredFile} {journal : Journal} {path : Str} {next : Block Journal Exc (List Str)}

/-- The body of the loop, before the rest of it. -/
abbrev body (pruning : Pruning) (file : StoredFile) (next : Block Journal Exc (List Str)) :
    Block Journal Exc (List Str) := do
  let sessionId ← answer (pruning.sessionOf file)
  pruning.unlink file
  pruning.prunePointer file sessionId
  next

theorem body_prunable (prunable : pruning.Prunable file) :
    ends (body pruning file next) journal = ends next (pruning.after journal [file]) := by
  obtain ⟨⟨⟨sessionId, named⟩, removed⟩, cleared⟩ := prunable
  have session : pruning.sessionOf file = .ok sessionId := by
    unfold sessionOf
    rw [named]
  have asked : ends (answer (pruning.sessionOf file)) journal = (.ok sessionId, journal) := by
    rw [ends_answer, session]
  have unlinked : ends (pruning.unlink file) journal =
      (.ok (), { journal with deleted := journal.deleted ++ [file.name] }) := by
    unfold unlink
    rw [ends_change, removed]
  have pointed : ends (pruning.prunePointer file sessionId)
      { journal with deleted := journal.deleted ++ [file.name] } =
      (.ok (), pruning.after journal [file]) := by
    unfold prunePointer after
    rw [ends_change, cleared]
    simp [named]
  unfold body
  rw [ends_after asked, ends_after unlinked, ends_after pointed]

theorem body_stops (stuck : ¬pruning.Prunable file) : ∃ raised left,
    ends (body pruning file next) journal = (.error raised, left) ∧
      pruning.Stops file journal left := by
  unfold body
  cases named : pruning.uuidOf (stem file.name) with
  | none =>
      have session : pruning.sessionOf file = .error .valueError := by
        unfold sessionOf
        rw [named]
      refine ⟨.valueError, journal, ?_, .unremovable ?_⟩
      · rw [ends_bind, ends_answer, session]
      · rintro ⟨⟨sessionId, same⟩, -⟩
        cases named.symm.trans same
  | some sessionId =>
      have session : pruning.sessionOf file = .ok sessionId := by
        unfold sessionOf
        rw [named]
      rw [ends_bind, ends_answer, session]
      dsimp only
      rw [ends_bind]
      unfold unlink
      rw [ends_change]
      cases removed : pruning.unlinkFault file.name with
      | some raised =>
          refine ⟨raised, journal, rfl, .unremovable ?_⟩
          rintro ⟨-, same⟩
          cases removed.symm.trans same
      | none =>
          dsimp only
          rw [ends_bind]
          unfold prunePointer
          rw [ends_change]
          have removable : pruning.Removable file := ⟨⟨sessionId, named⟩, removed⟩
          cases cleared : pruning.pointerFault file.name with
          | some raised =>
              refine ⟨raised, _, rfl, .uncleared removable ?_⟩
              rw [cleared]
              exact Option.some_ne_none raised
          | none => exact absurd ⟨removable, cleared⟩ stuck

/-- The files of a list that have expired. -/
def expiredOf (pruning : Pruning) (files : List StoredFile) : List StoredFile :=
  files.filter fun file => decide (file.modified < pruning.cutoff)

theorem after_after (done rest : List StoredFile) :
    pruning.after (pruning.after journal done) rest = pruning.after journal (done ++ rest) := by
  unfold after
  simp

/-- The loop handles every expired file, or it stops at the first that it cannot. -/
theorem pruneEach_ends (pruning : Pruning) (files : List StoredFile) (pruned : List Str) (journal : Journal) :
    ((∀ file ∈ expiredOf pruning files, pruning.Prunable file) ∧
      ends (pruning.pruneEach files pruned) journal =
        (.ok (pruned ++ (expiredOf pruning files).map fun file => pathOf pruning.directory file.name),
          pruning.after journal (expiredOf pruning files))) ∨
    ∃ done file rest raised left, expiredOf pruning files = done ++ file :: rest ∧
      (∀ file ∈ done, pruning.Prunable file) ∧
      ends (pruning.pruneEach files pruned) journal = (.error raised, left) ∧
      pruning.Stops file (pruning.after journal done) left := by
  induction files generalizing pruned journal with
  | nil =>
      left
      constructor
      · intro file member
        cases member
      · simp [pruneEach, expiredOf, after]
  | cons file files ih =>
      by_cases fresh : file.modified ≥ pruning.cutoff
      · -- a fresh file is passed over
        have same : expiredOf pruning (file :: files) = expiredOf pruning files := by
          unfold expiredOf
          exact List.filter_cons_of_neg (by simpa using fresh)
        have passed : pruning.pruneEach (file :: files) pruned = pruning.pruneEach files pruned :=
          if_pos fresh
        rw [same, passed]
        exact ih pruned journal
      have taken : expiredOf pruning (file :: files) = file :: expiredOf pruning files := by
        unfold expiredOf
        exact List.filter_cons_of_pos (by simpa using fresh)
      have entered : pruning.pruneEach (file :: files) pruned = body pruning file
          (pruning.pruneEach files (pruned ++ [pathOf pruning.directory file.name])) :=
        if_neg fresh
      rw [taken, entered]
      by_cases prunable : pruning.Prunable file
      · rw [body_prunable prunable]
        rcases ih (pruned ++ [pathOf pruning.directory file.name]) (pruning.after journal [file]) with
          ⟨all, ended⟩ | ⟨done, other, rest, raised, left, split, before, ended, stops⟩
        · left
          constructor
          · intro other member
            rcases List.mem_cons.mp member with rfl | member
            · exact prunable
            · exact all other member
          · rw [ended, after_after]
            simp
        · right
          refine ⟨file :: done, other, rest, raised, left, by rw [split]; rfl, ?_, ended, ?_⟩
          · intro earlier member
            rcases List.mem_cons.mp member with rfl | member
            · exact prunable
            · exact before earlier member
          · rw [after_after] at stops
            exact stops
      · right
        obtain ⟨raised, left, ended, stops⟩ : ∃ raised left, ends (body pruning file
            (pruning.pruneEach files (pruned ++ [pathOf pruning.directory file.name]))) journal =
              (.error raised, left) ∧ pruning.Stops file journal left := body_stops prunable
        refine ⟨[], file, _, raised, left, rfl, ?_, ended, ?_⟩
        · intro earlier member
          cases member
        · simpa [after] using stops
/-- Everything pruned and everything reported is expired. -/
theorem castFiles_member {file : StoredFile} (member : file ∈ castFiles pruning.directory) :
    file ∈ pruning.directory.files := by
  unfold castFiles at member
  rw [List.mem_insertionSort] at member
  exact (List.mem_filter.mp member).1

theorem expired_old {file : StoredFile} (member : file ∈ pruning.expired) :
    file ∈ pruning.directory.files ∧ file.modified < pruning.cutoff := by
  obtain ⟨listed, old⟩ := List.mem_filter.mp member
  exact ⟨castFiles_member listed, of_decide_eq_true old⟩

/-- A file that is not expired shares its name with none that is. -/
theorem expired_names {name : Str} (among : name ∈ pruning.expired.map StoredFile.name)
    {file : StoredFile} (listed : file ∈ pruning.directory.files)
    (fresh : pruning.cutoff ≤ file.modified) : file.name ≠ name := by
  rintro rfl
  obtain ⟨other, member, same⟩ := List.mem_map.mp among
  obtain ⟨also, old⟩ := expired_old member
  have equal : other = file := List.inj_on_of_nodup_map pruning.directory.distinct also listed same
  subst equal
  exact absurd old (not_lt.mpr fresh)

/-- The journal of a loop that handled every expired file, with its report. -/
theorem accounted_report {events : List ReplayEventRecord}
    (unreported : pruning.expired = [] → events = [])
    (reported : pruning.expired ≠ [] → events = [⟨REPLAY_PRUNED, replayPrunedAuditMetadata
      (pruning.expired.map fun file => pathOf pruning.directory file.name)⟩]) :
    pruning.Accounted { pruning.after .empty pruning.expired with events := events } where
  cleared sessionId := by simp [after, Journal.empty]
  unreported none := unreported (by simpa [after, Journal.empty] using none)
  reported some := by
    refine ⟨_, reported (by simpa [after, Journal.empty] using some), fun path => ?_⟩
    simp [after, Journal.empty, eq_comm]
  kept file listed fresh member := by
    have among : file.name ∈ pruning.expired.map StoredFile.name := by
      simpa [after, Journal.empty] using member
    exact expired_names among listed fresh rfl

theorem accounted_empty : pruning.Accounted .empty := by
  constructor
  · simp [Journal.empty]
  · intro _
    rfl
  · intro some
    exact absurd rfl some
  · intro file _ _ member
    cases member

theorem unaccounted {journal : Journal} (deleted : journal.deleted ≠ []) (silent : journal.events = []) :
    ¬pruning.Accounted journal := by
  intro accounted
  obtain ⟨paths, reported, -⟩ := accounted.reported deleted
  rw [silent] at reported
  cases reported

/-- A loop that was interrupted is accounted for if nothing was deleted before. -/
theorem interrupted {done : List StoredFile} {file : StoredFile} {rest : List StoredFile} {left : Journal}
    (long : ¬pruning.retentionDays < 1) (split : pruning.expired = done ++ file :: rest)
    (before : ∀ file ∈ done, pruning.Prunable file)
    (stops : pruning.Stops file (pruning.after .empty done) left) :
    pruning.Accounted left ↔ pruning.Uninterrupted := by
  have stuck : ¬pruning.Prunable file := by
    cases stops with
    | unremovable unmet => exact fun prunable => unmet prunable.1
    | uncleared _ fault => exact fun prunable => fault prunable.2
  have listed : file ∈ pruning.expired := by simp [split]
  have first : ∀ other others, done = other :: others →
      ¬∃ first rest, pruning.expired = first :: rest ∧ ¬pruning.Removable first := by
    rintro other others rfl ⟨first, rest, same, unmet⟩
    cases split.symm.trans same
    exact unmet (before other List.mem_cons_self).1
  have hurt : pruning.Uninterrupted ↔
      ∃ first rest, pruning.expired = first :: rest ∧ ¬pruning.Removable first := by
    constructor
    · rintro (short | ⟨all, -⟩ | early)
      · exact absurd short long
      · exact absurd (all file listed) stuck
      · exact early
    · exact fun early => .inr (.inr early)
  rw [hurt]
  cases stops with
  | unremovable unmet =>
      cases done with
      | nil => exact iff_of_true (by simpa [after] using accounted_empty) ⟨file, rest, split, unmet⟩
      | cons other others =>
          apply iff_of_false
          · exact unaccounted (by simp [after]) rfl
          · exact first other others rfl
  | uncleared removed _ =>
      apply iff_of_false
      · exact unaccounted (by simp) rfl
      · cases done with
        | nil =>
            rintro ⟨other, others, same, unmet⟩
            cases split.symm.trans same
            exact unmet removed
        | cons other others => exact first other others rfl

/-- Pruning accounts for what it deleted exactly if nothing interrupts it once a
file is deleted. -/
theorem pruning_accounted (pruning : Pruning) :
    pruning.Accounted (ends pruning.pruneReplays .empty).2 ↔ pruning.Uninterrupted := by
  unfold pruneReplays
  by_cases short : pruning.retentionDays < 1
  · rw [if_pos short, ends_throw]
    exact iff_of_true accounted_empty (.inl short)
  rw [if_neg short]
  have looped := pruning.pruneEach_ends (castFiles pruning.directory) [] .empty
  rcases looped with ⟨all, ended⟩ | ⟨done, file, rest, raised, left, split, before, ended, stops⟩
  · have expires : expiredOf pruning (castFiles pruning.directory) = pruning.expired := rfl
    rw [expires, List.nil_append] at ended
    rw [expires] at all
    rw [ends_after ended, ends_bind]
    unfold report
    rw [ends_if, ends_modify, ends_pure]
    by_cases reports : (pruning.expired.map fun file => pathOf pruning.directory file.name) ≠ [] ∧
        pruning.audited = true
    · rw [if_pos reports]
      dsimp only
      rw [ends_pure]
      have some : pruning.expired ≠ [] := by simpa using reports.1
      apply iff_of_true
      · exact accounted_report (fun none => absurd none some) fun _ => rfl
      · exact .inr (.inl ⟨all, fun _ => reports.2⟩)
    · rw [if_neg reports]
      dsimp only
      rw [ends_pure]
      by_cases none : pruning.expired = []
      · apply iff_of_true
        · exact accounted_report (fun _ => rfl) fun some => absurd none some
        · exact .inr (.inl ⟨all, fun some => absurd none some⟩)
      · -- files were deleted and there is nobody to report to
        apply iff_of_false
        · exact unaccounted (by simpa [after, Journal.empty] using none) rfl
        · rintro (less | ⟨-, audited⟩ | ⟨first, rest, same, unmet⟩)
          · exact short less
          · exact reports ⟨by simpa using none, audited none⟩
          · exact unmet (all first (by simp [same])).1
  · rw [ends_raised ended]
    exact interrupted short split before stops
end Loop
end Pruning

/-! One expired replay, and its pointer that cannot be cleared. -/
def castOne : Str := lit "s.cast"

def directoryOne : ReplayDirectory where
  path := lit "/r"
  files := [⟨castOne, 0⟩]
  distinct := List.nodup_singleton _

def pruningOne (pointerFault : Option Exc) : Pruning where
  directory := directoryOne
  retentionDays := 1
  now := ⟨100000000000, some 0⟩
  audited := true
  uuidOf := fun text => if text = lit "s" then some ⟨7⟩ else none
  unlinkFault := fun _ => none
  pointerFault := fun _ => pointerFault

theorem uncleared_pointer_unreported :
    ¬(pruningOne (some .osError)).Accounted (ends (pruningOne (some .osError)).pruneReplays .empty).2 := by
  have left : (ends (pruningOne (some .osError)).pruneReplays .empty).2.deleted = [castOne] ∧
      (ends (pruningOne (some .osError)).pruneReplays .empty).2.events.length = 0 := by
    decide +kernel
  apply Pruning.unaccounted
  · rw [left.1]
    exact List.cons_ne_nil _ _
  · exact List.length_eq_zero_iff.mp left.2

end VibeConnect.ReplayPruning
