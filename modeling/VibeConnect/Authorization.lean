import VibeConnect.Python.JsonArray
import VibeConnect.Enrollment

/-! Who sees which nodes. `visible_nodes_for_identity` goes from groups through roles to labels;
the store of the running server compares the groups with the labels of each row. -/
namespace VibeConnect.Authorization
open Python.Text Python.JsonCodec Python.Coroutine Models JumpCoordinator
open Enrollment (isLabel validateLabel)

structure ResolvedIdentity where
  username : Str
  publicKey : Str
  groups : Finset Str
  deriving DecidableEq

structure NodeInventoryEntry where
  nodeName : Str
  labels : Finset Str

/-- `sorted`, by code points and stable. -/
def sortedNames (names : List Str) : List Str :=
  names.insertionSort fun one two => keyLe one two = true

def sortedEntries (entries : List NodeInventoryEntry) : List NodeInventoryEntry :=
  entries.insertionSort fun one two => keyLe one.nodeName two.nodeName = true

/-! The reference. -/
section Reference
variable (groupToRoles roleToLabels : Str → List Str)

/-- The mappings are read with `.get(_, ())`. -/
def labelsForGroups (groups : Finset Str) : Except Exc (Finset Str) :=
  let roles := groups.biUnion fun group => (groupToRoles group).toFinset
  let labels := roles.biUnion fun role => (roleToLabels role).toFinset
  if ∀ label ∈ labels, isLabel label = true then .ok labels
  else .error (.identifierError "invalid label")

def visibleNodesForIdentity (identity : ResolvedIdentity) (nodes : List NodeInventoryEntry) :
    Except Exc (List Str) := do
  let allowedLabels ← labelsForGroups groupToRoles roleToLabels identity.groups
  let visible ← (nodes.filter fun node => node.labels ∩ allowedLabels ≠ ∅).mapM fun node =>
    validateNodeName node.nodeName
  .ok (sortedNames visible)
end Reference

/-! The store. -/

/-- A column of labels as the driver gives it: JSON text, a sequence or something else. -/
inductive LabelColumn where
  | text (json : Str)
  | sequence (items : List Json)
  | other

structure AgentRow where
  nodeName : Str
  labels : LabelColumn
  revoked : Bool

section Store
variable (str : Json → Str)

/-- `str` of a decoded value. -/
def strOf : Json → Str
  | .str value => value
  | value => str value

def sequenceLabels (items : List Json) : Except Exc (Finset Str) := do
  let labels ← items.mapM fun item => validateLabel (strOf str item)
  .ok labels.toFinset

/-- `_row_labels`. -/
def rowLabels : LabelColumn → Except Exc (Finset Str)
  | .text json => match readDocument json with
      | .ok (.array items) => sequenceLabels str items
      | .ok _ => .error (.authError "agent labels must be a list")
      | .error .decodeError => .error (.authError "agent labels must be valid JSON")
      | .error fault => .error (.ofJson fault)
  | .sequence items => sequenceLabels str items
  | .other => .error (.authError "agent labels must be a list")

def visibleEntries (groups : Finset Str) : List AgentRow → Except Exc (List NodeInventoryEntry)
  | [] => .ok []
  | row :: rest => do
      let labels ← rowLabels str row.labels
      if labels ∩ groups ≠ ∅ then
        let nodeName ← validateNodeName row.nodeName
        let later ← visibleEntries groups rest
        .ok (⟨nodeName, labels⟩ :: later)
      else visibleEntries groups rest

/-- `visible_nodes`, on the rows that the statement fetches. -/
def visibleNodes (fetched : List AgentRow) (identity : ResolvedIdentity) :
    Except Exc (List NodeInventoryEntry) :=
  if identity.groups = ∅ then .ok []
  else do
    let nodes ← visibleEntries str identity.groups fetched
    .ok (sortedEntries nodes)
end Store

/-- The column holds the labels. -/
def LabelColumn.Holds (column : LabelColumn) (labels : List Str) : Prop :=
  column = .sequence (labels.map .str) ∨
    ∃ json, column = .text json ∧ readDocument json = .ok (.array (labels.map .str))

/-- A table with valid names and labels, and the labels of its rows. -/
structure ValidTable (table : List AgentRow) (labelsOf : AgentRow → List Str) : Prop where
  named : ∀ row ∈ table, isNodeName row.nodeName = true
  distinct : (table.map AgentRow.nodeName).Nodup
  held : ∀ row ∈ table, row.labels.Holds (labelsOf row)
  labelled : ∀ row ∈ table, ∀ label ∈ labelsOf row, isLabel label = true

def unrevoked (table : List AgentRow) : List AgentRow := table.filter fun row => !row.revoked

/-- The rows as the reference takes them. -/
def inventory (labelsOf : AgentRow → List Str) (rows : List AgentRow) : List NodeInventoryEntry :=
  rows.map fun row => ⟨row.nodeName, (labelsOf row).toFinset⟩

/-! The order of texts. -/
theorem keyLe_total : (one two : Str) → keyLe one two = true ∨ keyLe two one = true
  | [], _ => .inl rfl
  | _ :: _, [] => .inr rfl
  | left :: lefts, right :: rights => by
      simp only [keyLe, Bool.or_eq_true, Bool.and_eq_true, decide_eq_true_eq, beq_iff_eq]
      rcases Nat.lt_trichotomy left.val right.val with less | same | more
      · exact .inl (.inl less)
      · rcases keyLe_total lefts rights with before | before
        · exact .inl (.inr ⟨same, before⟩)
        · exact .inr (.inr ⟨same.symm, before⟩)
      · exact .inr (.inl more)

theorem keyLe_trans : {one two three : Str} → keyLe one two = true → keyLe two three = true →
    keyLe one three = true
  | [], _, _, _, _ => rfl
  | _ :: _, [], _, impossible, _ => by cases impossible
  | _ :: _, _ :: _, [], _, impossible => by cases impossible
  | first :: firsts, second :: seconds, third :: thirds, before, later => by
      simp only [keyLe, Bool.or_eq_true, Bool.and_eq_true, decide_eq_true_eq, beq_iff_eq] at *
      rcases before with before | ⟨same, before⟩
      · rcases later with later | ⟨same, later⟩ <;> omega
      · rcases later with later | ⟨again, later⟩
        · omega
        · exact .inr ⟨same.trans again, keyLe_trans before later⟩

theorem keyLe_antisymm : {one two : Str} → keyLe one two = true → keyLe two one = true → one = two
  | [], [], _, _ => rfl
  | [], _ :: _, _, impossible => by cases impossible
  | _ :: _, [], impossible, _ => by cases impossible
  | left :: lefts, right :: rights, before, later => by
      simp only [keyLe, Bool.or_eq_true, Bool.and_eq_true, decide_eq_true_eq, beq_iff_eq] at *
      rcases before with before | ⟨same, before⟩
      · omega
      · rcases later with later | ⟨-, later⟩
        · omega
        · rw [Fin.ext same, keyLe_antisymm before later]

theorem sortedNames_sorted (names : List Str) :
    (sortedNames names).Pairwise fun one two => keyLe one two = true := by
  have total : Std.Total fun one two : Str => keyLe one two = true := ⟨keyLe_total⟩
  have trans : IsTrans Str fun one two => keyLe one two = true := ⟨fun _ _ _ => keyLe_trans⟩
  exact List.pairwise_insertionSort (fun one two => keyLe one two = true) names

/-- The sorted names do not depend on the order that they come in. -/
theorem sortedNames_perm {names others : List Str} (same : names.Perm others) :
    sortedNames names = sortedNames others := by
  apply @List.Perm.eq_of_pairwise _ fun one two : Str => keyLe one two = true
  · intro one two _ _ before later
    exact keyLe_antisymm before later
  · exact sortedNames_sorted names
  · exact sortedNames_sorted others
  · exact (List.perm_insertionSort _ names).trans (same.trans (List.perm_insertionSort _ others).symm)

theorem sortedEntries_names (entries : List NodeInventoryEntry) :
    (sortedEntries entries).map NodeInventoryEntry.nodeName =
      sortedNames (entries.map NodeInventoryEntry.nodeName) :=
  List.map_insertionSort _ _ NodeInventoryEntry.nodeName entries fun _ _ _ _ => Iff.rfl

theorem mem_sortedNames {names : List Str} {name : Str} : name ∈ sortedNames names ↔ name ∈ names :=
  List.mem_insertionSort _

/-! What the two compute on valid data. -/
section Valid
variable {str : Json → Str} {groups : Finset Str} {labelsOf : AgentRow → List Str}

theorem sequenceLabels_valid {labels : List Str} (valid : ∀ label ∈ labels, isLabel label = true) :
    sequenceLabels str (labels.map .str) = .ok labels.toFinset := by
  have read := Enrollment.labelsOf_ok valid
  rw [Enrollment.labelsOf] at read
  have same : (labels.map Json.str).mapM (fun item => validateLabel (strOf str item)) =
      labels.mapM validateLabel := by
    rw [List.mapM_map]
    rfl
  rw [sequenceLabels, same, read]
  rfl

theorem rowLabels_holds {column : LabelColumn} {labels : List Str} (held : column.Holds labels)
    (valid : ∀ label ∈ labels, isLabel label = true) : rowLabels str column = .ok labels.toFinset := by
  rcases held with rfl | ⟨json, rfl, decoded⟩
  · exact sequenceLabels_valid valid
  · rw [rowLabels, decoded]
    exact sequenceLabels_valid valid

/-- The row shares a label with the groups. -/
def Shares (labelsOf : AgentRow → List Str) (groups : Finset Str) (row : AgentRow) : Prop :=
  (labelsOf row).toFinset ∩ groups ≠ ∅

instance (labelsOf : AgentRow → List Str) (groups : Finset Str) (row : AgentRow) :
    Decidable (Shares labelsOf groups row) := inferInstanceAs (Decidable (_ ≠ _))

/-- The names of the rows that share a label with the groups. -/
def sharedNames (labelsOf : AgentRow → List Str) (groups : Finset Str) (rows : List AgentRow) :
    List Str :=
  (rows.filter fun row => Shares labelsOf groups row).map AgentRow.nodeName

theorem visibleEntries_valid (groups : Finset Str) (rows : List AgentRow)
    (named : ∀ row ∈ rows, isNodeName row.nodeName = true)
    (held : ∀ row ∈ rows, row.labels.Holds (labelsOf row))
    (labelled : ∀ row ∈ rows, ∀ label ∈ labelsOf row, isLabel label = true) :
    ∃ entries, visibleEntries str groups rows = .ok entries ∧
      entries.map NodeInventoryEntry.nodeName = sharedNames labelsOf groups rows := by
  induction rows with
  | nil => exact ⟨[], rfl, rfl⟩
  | cons row rest ih =>
      obtain ⟨entries, read, names⟩ := ih (fun other later => named other (List.mem_cons_of_mem row later))
        (fun other later => held other (List.mem_cons_of_mem row later))
        (fun other later => labelled other (List.mem_cons_of_mem row later))
      have labels := @rowLabels_holds str _ _ (held row List.mem_cons_self)
        (labelled row List.mem_cons_self)
      have valid : validateNodeName row.nodeName = .ok row.nodeName :=
        if_pos (named row List.mem_cons_self)
      rw [visibleEntries, labels, sharedNames, List.filter_cons]
      by_cases shares : Shares labelsOf groups row
      · refine ⟨⟨row.nodeName, (labelsOf row).toFinset⟩ :: entries, ?_, ?_⟩
        · refine (if_pos shares).trans ?_
          rw [valid, read]
          rfl
        · simp [shares, names, sharedNames]
      · refine ⟨entries, ?_, ?_⟩
        · exact (if_neg shares).trans read
        · simp [shares, names, sharedNames]
/-- The store gives the names of the rows that share a label with the groups, sorted. -/
theorem visibleNodes_valid (identity : ResolvedIdentity) (rows : List AgentRow)
    (named : ∀ row ∈ rows, isNodeName row.nodeName = true)
    (held : ∀ row ∈ rows, row.labels.Holds (labelsOf row))
    (labelled : ∀ row ∈ rows, ∀ label ∈ labelsOf row, isLabel label = true) :
    ∃ entries, visibleNodes str rows identity = .ok entries ∧
      entries.map NodeInventoryEntry.nodeName =
        sortedNames (sharedNames labelsOf identity.groups rows) := by
  by_cases none : identity.groups = ∅
  · refine ⟨[], if_pos none, ?_⟩
    simp [sharedNames, Shares, none, sortedNames]
  · obtain ⟨entries, read, names⟩ := @visibleEntries_valid str _ identity.groups rows named held
      labelled
    refine ⟨sortedEntries entries, ?_, ?_⟩
    · refine (if_neg none).trans ?_
      rw [read]
      rfl
    · rw [sortedEntries_names, names]

/-- With one role and one label of the same name for each group, the labels are the groups. -/
theorem labelsForGroups_same {groupToRoles roleToLabels : Str → List Str}
    (valid : ∀ group ∈ groups, isLabel group = true)
    (roles : ∀ group ∈ groups, groupToRoles group = [group])
    (labels : ∀ group ∈ groups, roleToLabels group = [group]) :
    labelsForGroups groupToRoles roleToLabels groups = .ok groups := by
  have same : (groups.biUnion fun group => (groupToRoles group).toFinset).biUnion
      (fun role => (roleToLabels role).toFinset) = groups := by
    ext label
    simp only [Finset.mem_biUnion, List.mem_toFinset]
    constructor
    · rintro ⟨role, ⟨group, member, played⟩, given⟩
      rw [roles group member, List.mem_singleton] at played
      subst played
      rw [labels role member, List.mem_singleton] at given
      exact given ▸ member
    · intro member
      refine ⟨label, ⟨label, member, ?_⟩, ?_⟩
      · simp [roles label member]
      · simp [labels label member]
  rw [labelsForGroups]
  simp only [same]
  exact if_pos valid

theorem validated_names (nodes : List NodeInventoryEntry)
    (named : ∀ node ∈ nodes, isNodeName node.nodeName = true) :
    nodes.mapM (fun node => validateNodeName node.nodeName) =
      .ok (nodes.map NodeInventoryEntry.nodeName) := by
  induction nodes with
  | nil => rfl
  | cons first rest ih =>
      have valid : validateNodeName first.nodeName = .ok first.nodeName :=
        if_pos (named first List.mem_cons_self)
      rw [List.mapM_cons, valid, ih fun node later => named node (List.mem_cons_of_mem first later)]
      rfl

theorem visibleNodesForIdentity_valid {groupToRoles roleToLabels : Str → List Str}
    (identity : ResolvedIdentity) (rows : List AgentRow)
    (named : ∀ row ∈ rows, isNodeName row.nodeName = true)
    (allowed : labelsForGroups groupToRoles roleToLabels identity.groups = .ok identity.groups) :
    visibleNodesForIdentity groupToRoles roleToLabels identity (inventory labelsOf rows) =
      .ok (sortedNames (sharedNames labelsOf identity.groups rows)) := by
  have shared : ((inventory labelsOf rows).filter fun node => node.labels ∩ identity.groups ≠ ∅) =
      inventory labelsOf (rows.filter fun row => Shares labelsOf identity.groups row) := by
    rw [inventory, inventory, List.filter_map]
    rfl
  have read := validated_names (inventory labelsOf
    (rows.filter fun row => Shares labelsOf identity.groups row)) (by
      intro node member
      obtain ⟨row, kept, rfl⟩ := List.mem_map.mp member
      exact named row (List.mem_filter.mp kept).1)
  refine bind_ok.mpr ⟨identity.groups, allowed, bind_ok.mpr ⟨sharedNames labelsOf identity.groups rows, ?_, rfl⟩⟩
  rw [shared, read, inventory, List.map_map]
  rfl

theorem mem_sharedNames {rows : List AgentRow} {name : Str} : name ∈ sharedNames labelsOf groups rows ↔
    ∃ row ∈ rows, row.nodeName = name ∧ ∃ label ∈ labelsOf row, label ∈ groups := by
  have shares : ∀ row, Shares labelsOf groups row ↔ ∃ label ∈ labelsOf row, label ∈ groups := by
    intro row
    rw [Shares, ← Finset.nonempty_iff_ne_empty]
    constructor
    · rintro ⟨label, member⟩
      obtain ⟨held, granted⟩ := Finset.mem_inter.mp member
      exact ⟨label, List.mem_toFinset.mp held, granted⟩
    · rintro ⟨label, held, granted⟩
      exact ⟨label, Finset.mem_inter.mpr ⟨List.mem_toFinset.mpr held, granted⟩⟩
  simp only [sharedNames, List.mem_map, List.mem_filter, decide_eq_true_eq, shares]
  constructor
  · rintro ⟨row, ⟨member, label⟩, same⟩
    exact ⟨row, member, same, label⟩
  · rintro ⟨row, member, same, label⟩
    exact ⟨row, ⟨member, label⟩, same⟩
end Valid

/-- The store shows the nodes of the reference, in its order: those that are unrevoked and share
a label with the groups. More groups show no fewer nodes. -/
theorem visible_nodes_refine (str : Json → Str) (table fetched : List AgentRow)
    (labelsOf : AgentRow → List Str) (identity : ResolvedIdentity)
    (groupToRoles roleToLabels : Str → List Str) (valid : ValidTable table labelsOf)
    (rows : fetched.Perm (unrevoked table))
    (groups : ∀ group ∈ identity.groups, isLabel group = true)
    (roles : ∀ group ∈ identity.groups, groupToRoles group = [group])
    (labels : ∀ group ∈ identity.groups, roleToLabels group = [group]) :
    ∃ entries names, visibleNodes str fetched identity = .ok entries ∧
      visibleNodesForIdentity groupToRoles roleToLabels identity
        (inventory labelsOf (unrevoked table)) = .ok names ∧
      entries.map NodeInventoryEntry.nodeName = names ∧
      (∀ name ∈ names, name ∈ table.map AgentRow.nodeName) ∧
      (∀ row ∈ table, row.nodeName ∈ names ↔
        row.revoked = false ∧ ∃ label ∈ labelsOf row, label ∈ identity.groups) ∧
      ∀ wider : ResolvedIdentity, identity.groups ⊆ wider.groups →
        ∃ more, visibleNodes str fetched wider = .ok more ∧
          ∀ name ∈ names, name ∈ more.map NodeInventoryEntry.nodeName := by
  have kept : ∀ row ∈ fetched, row ∈ table := fun row member =>
    (List.mem_filter.mp (rows.mem_iff.mp member)).1
  have named := fun row member => valid.named row (kept row member)
  have held := fun row member => valid.held row (kept row member)
  have labelled := fun row member => valid.labelled row (kept row member)
  obtain ⟨entries, shown, inOrder⟩ := @visibleNodes_valid str _ identity fetched named held labelled
  have reference := @visibleNodesForIdentity_valid labelsOf _ _ identity (unrevoked table)
    (fun row member => valid.named row (List.mem_filter.mp member).1)
    (labelsForGroups_same groups roles labels)
  have order : sharedNames labelsOf identity.groups fetched |>.Perm
      (sharedNames labelsOf identity.groups (unrevoked table)) := (rows.filter _).map _
  refine ⟨entries, _, shown, reference, ?_, ?_, ?_, ?_⟩
  · rw [inOrder, sortedNames_perm order]
  · intro name member
    rw [mem_sortedNames, mem_sharedNames] at member
    obtain ⟨row, within, rfl, -⟩ := member
    exact List.mem_map_of_mem (List.mem_filter.mp within).1
  · intro row member
    rw [mem_sortedNames, mem_sharedNames]
    constructor
    · rintro ⟨other, within, same, shared⟩
      obtain ⟨other_member, active⟩ := List.mem_filter.mp within
      -- names are distinct, so the row with this name is the row
      obtain rfl := List.inj_on_of_nodup_map valid.distinct other_member member same
      exact ⟨by simpa using active, shared⟩
    · rintro ⟨active, shared⟩
      exact ⟨row, List.mem_filter.mpr ⟨member, by simp [active]⟩, rfl, shared⟩
  · intro wider wide
    obtain ⟨more, seen, ordered⟩ := @visibleNodes_valid str _ wider fetched named held labelled
    refine ⟨more, seen, ?_⟩
    intro name member
    rw [ordered, mem_sortedNames, mem_sharedNames]
    rw [mem_sortedNames, ← order.mem_iff, mem_sharedNames] at member
    obtain ⟨row, within, same, label, owned, granted⟩ := member
    exact ⟨row, within, same, label, owned, wide granted⟩

/-! A table with a label in two spellings. -/
def lowerRow : AgentRow := ⟨lit "node-02", .text (valueText (.array [.str (lit "prod")])), false⟩

def upperRow : AgentRow := ⟨lit "node-01", .sequence [.str (lit "Prod"), .str (lit "dev")], false⟩

def labelTable : List AgentRow := [lowerRow, upperRow]

def alice : ResolvedIdentity := ⟨lit "alice", lit "ssh-ed25519 AAAAalice", {lit "prod"}⟩

def tableLabels (row : AgentRow) : List Str :=
  if row.nodeName = lit "node-02" then [lit "prod"] else [lit "Prod", lit "dev"]

theorem tableLabels_rows : tableLabels lowerRow = [lit "prod"] ∧
    tableLabels upperRow = [lit "Prod", lit "dev"] := by
  decide +kernel

theorem lowerRow_document :
    readDocument (valueText (.array [.str (lit "prod")])) = .ok (.array [.str (lit "prod")]) := by
  have reads := reads_string (lit "prod") fun code member =>
    ((lit_ascii (by decide)).scalarText code member).unpaired
  have read := readDocument_array [(stringText (lit "prod"), .str (lit "prod"))]
    (fun item member => List.mem_singleton.mp member ▸ reads) (by simp)
  simpa [valueText, itemTexts] using read

theorem labelTable_valid : ValidTable labelTable tableLabels where
  named := by
    have all : labelTable.all (fun row => isNodeName row.nodeName) = true := by decide +kernel
    exact List.all_eq_true.mp all
  distinct := by decide +kernel
  held := by
    intro row member
    simp only [labelTable, List.mem_cons, List.not_mem_nil, or_false] at member
    rcases member with rfl | rfl
    · rw [tableLabels_rows.1]
      exact .inr ⟨_, rfl, lowerRow_document⟩
    · rw [tableLabels_rows.2]
      exact .inl rfl
  labelled := by
    have all : labelTable.all (fun row => (tableLabels row).all isLabel) = true := by decide +kernel
    intro row member label held
    exact List.all_eq_true.mp (List.all_eq_true.mp all row member) label held

theorem alice_sees : ∃ entries, visibleNodes valueText labelTable alice = .ok entries ∧
    lit "node-02" ∈ entries.map NodeInventoryEntry.nodeName ∧
    lit "node-01" ∉ entries.map NodeInventoryEntry.nodeName := by
  have groups : ∀ group ∈ alice.groups, isLabel group = true := by
    intro group member
    rw [Finset.mem_singleton.mp member]
    decide +kernel
  have rows : labelTable.Perm (unrevoked labelTable) := by
    rw [show unrevoked labelTable = labelTable from rfl]
  obtain ⟨entries, names, shown, -, same, -, exact, -⟩ := visible_nodes_refine valueText labelTable
    labelTable tableLabels alice (fun group => [group]) (fun role => [role]) labelTable_valid rows
    groups (fun _ _ => rfl) fun _ _ => rfl
  refine ⟨entries, shown, ?_, ?_⟩
  · rw [same]
    apply (exact lowerRow List.mem_cons_self).mpr
    refine ⟨rfl, lit "prod", ?_, by simp [alice]⟩
    rw [tableLabels_rows.1]
    exact List.mem_singleton_self _
  · rw [same]
    intro seen
    obtain ⟨-, label, held, granted⟩ := (exact upperRow
      (by simp [labelTable])).mp seen
    rw [Finset.mem_singleton.mp granted, tableLabels_rows.2] at held
    revert held
    decide +kernel

end VibeConnect.Authorization
