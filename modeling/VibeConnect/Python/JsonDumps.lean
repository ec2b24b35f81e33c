import VibeConnect.Python.JsonCodec

/-! `json.dumps` with its own separators and sorted keys, of any value without floats, and what
`json.loads` makes of it: the value, nested as it is, with its keys in order. -/
namespace Python.JsonCodec
open Text

/-- `", ".join`. -/
def commaJoined : List Str → Str
  | [] => []
  | [last] => last
  | first :: rest => first ++ 0x2C :: 0x20 :: commaJoined rest

def spacedField (field : Str × Str) : Str := stringText field.1 ++ 0x3A :: 0x20 :: field.2

mutual
def dumps : Json → Str
  | .array items => 0x5B :: (commaJoined (dumpsItems items) ++ [0x5D])
  | .object fields => 0x7B :: (commaJoined ((sortFields (dumpsFields fields)).map spacedField) ++ [0x7D])
  | value => valueText value

def dumpsItems : List Json → List Str
  | [] => []
  | item :: rest => dumps item :: dumpsItems rest

def dumpsFields : List (Str × Json) → List (Str × Str)
  | [] => []
  | (key, value) :: rest => (key, dumps value) :: dumpsFields rest
end

mutual
/-- What a value is read back as. -/
def Json.back : Json → Json
  | .str value => .str (joinPairs value)
  | .array items => .array (backItems items)
  | .object fields => .object (sortFields (backFields fields))
  | value => value

def backItems : List Json → List Json
  | [] => []
  | item :: rest => item.back :: backItems rest

def backFields : List (Str × Json) → List (Str × Json)
  | [] => []
  | (key, value) :: rest => (key, value.back) :: backFields rest
end

mutual
/-- No float, and no key twice in an object. -/
def Printable : Json → Prop
  | .float _ => False
  | .array items => PrintableItems items
  | .object fields => (fields.map Prod.fst).Nodup ∧ PrintableEntries fields
  | _ => True

def PrintableItems : List Json → Prop
  | [] => True
  | item :: rest => Printable item ∧ PrintableItems rest

def PrintableEntries : List (Str × Json) → Prop
  | [] => True
  | (key, value) :: rest => (ScalarText key ∧ Printable value) ∧ PrintableEntries rest
end

theorem dumpsItems_eq (items : List Json) : dumpsItems items = items.map dumps := by
  induction items with
  | nil => rfl
  | cons item rest ih => rw [dumpsItems, ih, List.map_cons]

theorem backItems_eq (items : List Json) : backItems items = items.map Json.back := by
  induction items with
  | nil => rfl
  | cons item rest ih => rw [backItems, ih, List.map_cons]

theorem dumpsFields_eq (fields : List (Str × Json)) :
    dumpsFields fields = fields.map fun field => (field.1, dumps field.2) := by
  induction fields with
  | nil => rfl
  | cons field rest ih => rw [dumpsFields, ih, List.map_cons]

theorem backFields_eq (fields : List (Str × Json)) :
    backFields fields = fields.map fun field => (field.1, field.2.back) := by
  induction fields with
  | nil => rfl
  | cons field rest ih => rw [backFields, ih, List.map_cons]

/-- Sorting looks at the keys alone. -/
theorem sortFields_map {α β : Type} (change : α → β) (fields : List (Str × α)) :
    sortFields (fields.map fun field => (field.1, change field.2)) =
      (sortFields fields).map fun field => (field.1, change field.2) :=
  (List.map_insertionSort (fun left right : Str × α => keyLe left.1 right.1 = true)
    (fun left right : Str × β => keyLe left.1 right.1 = true)
    (fun field => (field.1, change field.2)) fields fun _ _ _ _ => Iff.rfl).symm

/-! Reading a text that the fuel covers. -/

/-- A text that is read back as a value with as much fuel as it is long. -/
structure ReadsBack (text : Str) (value : Json) : Prop where
  back : ∀ fuel rest, text.length ≤ fuel → Stops rest →
    readValue (fuel + 1) (text ++ rest) = .ok (value, rest)
  visible : ∃ first tail, text = first :: tail ∧ isJsonSpace first = false ∧ first.val ≠ 0x5D

theorem ReadsBack.skips {text : Str} {value : Json} (reads : ReadsBack text value) (rest : Str) :
    skipSpace (text ++ rest) = text ++ rest := by
  obtain ⟨first, tail, same, visible, -⟩ := reads.visible
  rw [same, List.cons_append, skipSpace_cons visible]

theorem stops_mark {mark : CodePoint} {rest : Str}
    (closing : mark.val = 0x5D ∨ mark.val = 0x7D ∨ mark.val = 0x2C) : Stops (mark :: rest) := by
  simp only [Stops, isDigit, Bool.and_eq_false_iff, decide_eq_false_iff_not]
  omega

theorem visible_mark {mark : CodePoint} (closing : mark.val = 0x5D ∨ mark.val = 0x7D ∨ mark.val = 0x2C) :
    isJsonSpace mark = false := by
  simp only [isJsonSpace, Bool.or_eq_false_iff, beq_eq_false_iff_ne]
  omega

theorem skipSpace_space (rest : Str) : skipSpace (0x20 :: rest) = skipSpace rest := by
  simp [skipSpace, isJsonSpace]

/-- The joined parts begin as the first of them does. -/
theorem commaJoined_cons (first : Str) (rest : List Str) :
    ∃ tail, commaJoined (first :: rest) = first ++ tail := by
  cases rest with
  | nil => exact ⟨[], (List.append_nil _).symm⟩
  | cons second rest => exact ⟨_, rfl⟩

theorem readItems_spaced (items : List (Str × Json)) (reads : ∀ item ∈ items, ReadsBack item.1 item.2)
    (nonempty : items ≠ []) (fuel : Nat) (enough : (commaJoined (items.map Prod.fst)).length + 2 ≤ fuel)
    (rest : Str) : readItems fuel (commaJoined (items.map Prod.fst) ++ 0x5D :: rest) =
      .ok (items.map Prod.snd, rest) := by
  induction items generalizing fuel with
  | nil => exact absurd rfl nonempty
  | cons item others ih =>
      obtain ⟨fuel, rfl⟩ : ∃ more, fuel = more + 2 := ⟨fuel - 2, by omega⟩
      have first := reads item List.mem_cons_self
      cases others with
      | nil =>
          simp only [List.map_cons, List.map_nil, commaJoined] at enough ⊢
          have read := first.back fuel (0x5D :: rest) (by omega) (stops_mark (.inl rfl))
          have visible : skipSpace (0x5D :: rest) = 0x5D :: rest := skipSpace_cons rfl
          have closes : (0x5D : CodePoint).val = 0x5D := rfl
          rw [readItems, read]
          simp only [bind, Except.bind, visible, if_pos closes]
      | cons second others =>
          have later := fun part member => reads part (List.mem_cons_of_mem item member)
          obtain ⟨tail, joined⟩ := commaJoined_cons second.1 (others.map Prod.fst)
          have skips : skipSpace (0x20 :: (commaJoined ((second :: others).map Prod.fst) ++ 0x5D :: rest)) =
              commaJoined ((second :: others).map Prod.fst) ++ 0x5D :: rest := by
            rw [skipSpace_space, List.map_cons, joined, List.append_assoc]
            exact (later second List.mem_cons_self).skips _
          have split : commaJoined ((item :: second :: others).map Prod.fst) =
              item.1 ++ 0x2C :: 0x20 :: commaJoined ((second :: others).map Prod.fst) := rfl
          rw [split] at enough ⊢
          simp only [List.length_append, List.length_cons] at enough
          -- the fuel covers the whole text, so the item alone and what follows its comma
          have read := first.back fuel
            (0x2C :: 0x20 :: (commaJoined ((second :: others).map Prod.fst) ++ 0x5D :: rest))
            (by omega) (stops_mark (.inr (.inr rfl)))
          have tailRead := ih later (by simp) (fuel + 1) (by omega)
          have comma : (0x2C : CodePoint).val = 0x2C := rfl
          have goesOn : ¬(0x2C : CodePoint).val = 0x5D := by decide
          have visible (text : Str) : skipSpace (0x2C :: text) = 0x2C :: text := skipSpace_cons rfl
          rw [List.append_assoc, List.cons_append, List.cons_append, readItems, read]
          simp only [bind, Except.bind, visible, if_neg goesOn, if_pos comma, skips, tailRead]
          rfl

/-- A key with the text and the value of its field. -/
abbrev Entry := Str × Str × Json

def entryText (entry : Entry) : Str := spacedField (entry.1, entry.2.1)

def entryValue (entry : Entry) : Str × Json := (entry.1, entry.2.2)

/-- Reading a field leaves the mark after it to be looked at. -/
theorem readFields_entry {fuel : Nat} {entry : Entry} (scalar : ScalarText entry.1)
    (reads : ReadsBack entry.2.1 entry.2.2) (enough : entry.2.1.length ≤ fuel) {mark : CodePoint}
    {rest : Str} (closing : mark.val = 0x7D ∨ mark.val = 0x2C) :
    readFields (fuel + 2) (entryText entry ++ mark :: rest) =
      if mark.val = 0x7D then .ok ([entryValue entry], rest)
      else (do
        let (fields, rest) ← readFields (fuel + 1) (skipSpace rest)
        .ok (if (lookup entry.1 fields).isSome then fields else entryValue entry :: fields, rest)) := by
  have key := readString_text entry.1 (0x3A :: 0x20 :: (entry.2.1 ++ mark :: rest))
    fun code member => (scalar code member).unpaired
  have value := reads.back fuel (mark :: rest) enough (stops_mark (.inr closing))
  have visible : skipSpace (mark :: rest) = mark :: rest := skipSpace_cons (visible_mark (.inr closing))
  have colon (text : Str) : skipSpace (0x3A :: text) = 0x3A :: text := skipSpace_cons rfl
  have skips : skipSpace (0x20 :: (entry.2.1 ++ mark :: rest)) = entry.2.1 ++ mark :: rest :=
    (skipSpace_space _).trans (reads.skips _)
  simp only [entryText, spacedField, stringText, List.cons_append, List.append_assoc, List.nil_append]
  rw [readFields, if_neg (by decide), key]
  simp only [bind, Except.bind, colon]
  rw [if_neg (by decide), skips, value]
  simp only [visible]
  rcases closing with brace | comma
  · rw [if_pos brace, if_pos brace]
    rfl
  · have goesOn : mark.val ≠ 0x7D := by omega
    rw [if_neg goesOn, if_pos comma, if_neg goesOn]
    rfl

theorem entryText_skips (entry : Entry) (rest : Str) :
    skipSpace (entryText entry ++ rest) = entryText entry ++ rest := by
  rw [entryText, spacedField, stringText]
  exact skipSpace_cons rfl

theorem readFields_spaced (entries : List Entry)
    (reads : ∀ entry ∈ entries, ScalarText entry.1 ∧ ReadsBack entry.2.1 entry.2.2)
    (distinct : (entries.map Prod.fst).Nodup) (nonempty : entries ≠ []) (fuel : Nat)
    (enough : (commaJoined (entries.map entryText)).length + 2 ≤ fuel) (rest : Str) :
    readFields fuel (commaJoined (entries.map entryText) ++ 0x7D :: rest) =
      .ok (entries.map entryValue, rest) := by
  induction entries generalizing fuel with
  | nil => exact absurd rfl nonempty
  | cons entry others ih =>
      obtain ⟨fuel, rfl⟩ : ∃ more, fuel = more + 2 := ⟨fuel - 2, by omega⟩
      obtain ⟨scalar, first⟩ := reads entry List.mem_cons_self
      have inside : entry.2.1.length ≤ (entryText entry).length := by
        simp only [entryText, spacedField, List.length_append, List.length_cons]
        omega
      cases others with
      | nil =>
          simp only [List.map_cons, List.map_nil, commaJoined] at enough ⊢
          exact (readFields_entry scalar first (by omega) (.inl rfl)).trans (if_pos rfl)
      | cons second others =>
          have later := fun part member => reads part (List.mem_cons_of_mem entry member)
          obtain ⟨tail, joined⟩ := commaJoined_cons (entryText second) (others.map entryText)
          have skips : skipSpace (0x20 :: (commaJoined ((second :: others).map entryText) ++ 0x7D :: rest)) =
              commaJoined ((second :: others).map entryText) ++ 0x7D :: rest := by
            rw [skipSpace_space, List.map_cons, joined, List.append_assoc]
            exact entryText_skips second _
          have split : commaJoined ((entry :: second :: others).map entryText) =
              entryText entry ++ 0x2C :: 0x20 :: commaJoined ((second :: others).map entryText) := rfl
          rw [split] at enough ⊢
          simp only [List.length_append, List.length_cons] at enough
          have tailRead := ih later (List.nodup_cons.mp distinct).2 (by simp) (fuel + 1) (by omega)
          -- a key that came again would replace this field
          have absent : lookup entry.1 ((second :: others).map entryValue) = none := by
            have fresh := (List.nodup_cons.mp distinct).1
            rw [lookup, List.lookup_eq_none_iff]
            intro other member
            obtain ⟨source, there, rfl⟩ := List.mem_map.mp member
            rw [bne_iff_ne]
            intro same
            exact fresh (List.mem_map.mpr ⟨source, there, same.symm⟩)
          have goesOn : ¬(0x2C : CodePoint).val = 0x7D := by decide
          have read := @readFields_entry fuel entry scalar first (by omega) 0x2C
            (0x20 :: (commaJoined ((second :: others).map entryText) ++ 0x7D :: rest)) (.inr rfl)
          rw [if_neg goesOn, skips, tailRead] at read
          rw [List.append_assoc, List.cons_append, List.cons_append, read]
          simp only [bind, Except.bind, absent, Option.isSome_none]
          rfl

theorem readsBack_array (items : List (Str × Json)) (reads : ∀ item ∈ items, ReadsBack item.1 item.2) :
    ReadsBack (0x5B :: (commaJoined (items.map Prod.fst) ++ [0x5D])) (.array (items.map Prod.snd)) where
  visible := ⟨_, _, rfl, rfl, by decide⟩
  back := by
    intro fuel rest enough _
    simp only [List.length_cons, List.length_append, List.length_nil] at enough
    rw [List.cons_append, List.append_assoc, List.singleton_append, readValue, if_neg (by decide),
      if_neg (by decide), if_pos (by decide)]
    cases items with
    | nil => rfl
    | cons item others =>
        have read := readItems_spaced (item :: others) reads (by simp) fuel (by omega) rest
        obtain ⟨tail, joined⟩ := commaJoined_cons item.1 (others.map Prod.fst)
        obtain ⟨first, more, text, visible, notClosed⟩ := (reads item List.mem_cons_self).visible
        rw [List.map_cons, joined, text, List.cons_append, List.cons_append] at read ⊢
        rw [skipSpace_cons visible]
        simp only [if_neg notClosed, read, bind, Except.bind]

theorem readsBack_object (entries : List Entry)
    (reads : ∀ entry ∈ entries, ScalarText entry.1 ∧ ReadsBack entry.2.1 entry.2.2)
    (distinct : (entries.map Prod.fst).Nodup) :
    ReadsBack (0x7B :: (commaJoined (entries.map entryText) ++ [0x7D]))
      (.object (entries.map entryValue)) where
  visible := ⟨_, _, rfl, rfl, by decide⟩
  back := by
    intro fuel rest enough _
    simp only [List.length_cons, List.length_append, List.length_nil] at enough
    rw [List.cons_append, List.append_assoc, List.singleton_append, readValue, if_neg (by decide),
      if_pos (by decide)]
    cases entries with
    | nil => rfl
    | cons entry others =>
        have read := readFields_spaced (entry :: others) reads distinct (by simp) fuel (by omega) rest
        obtain ⟨tail, joined⟩ := commaJoined_cons (entryText entry) (others.map entryText)
        have quoted : ∃ more, entryText entry = 0x22 :: more := ⟨_, rfl⟩
        obtain ⟨more, text⟩ := quoted
        have goesOn : ¬(0x22 : CodePoint).val = 0x7D := by decide
        have visible (rest : Str) : skipSpace (0x22 :: rest) = 0x22 :: rest := skipSpace_cons rfl
        rw [List.map_cons, joined, text, List.cons_append, List.cons_append] at read ⊢
        rw [visible]
        simp only [if_neg goesOn, read, bind, Except.bind]

/-! Any value. -/

mutual
theorem readsBack_dumps : (value : Json) → Printable value → ReadsBack (dumps value) value.back
  | .null, _ => ⟨fun _ rest _ _ => readAtom_null rest, _, _, rfl, rfl, by decide⟩
  | .bool true, _ => ⟨fun _ _ _ _ => rfl, _, _, rfl, rfl, by decide⟩
  | .bool false, _ => ⟨fun _ _ _ _ => rfl, _, _, rfl, rfl, by decide⟩
  | .int value, _ => by
      constructor
      · intro fuel rest _ stops
        exact readValue_flat (.int value) trivial fuel rest stops
      · cases value with
        | ofNat value =>
            obtain ⟨first, tail, text, digit⟩ := naturalText_head value
            refine ⟨first, tail, text, (digit_visible digit).1, fun same => ?_⟩
            simp [isDigit, same] at digit
        | negSucc value => exact ⟨_, _, rfl, rfl, by decide⟩
  | .str value, _ => by
      constructor
      · intro fuel rest _ stops
        exact readValue_flat (.str value) trivial fuel rest stops
      · exact ⟨_, _, rfl, rfl, by decide⟩
  | .array items, printable => by
      have reads := readsBack_array (items.map fun item => (dumps item, item.back))
        (readsBack_items items printable)
      simp only [List.map_map] at reads
      rw [dumps, Json.back, dumpsItems_eq, backItems_eq]
      exact reads
  | .object fields, ⟨distinct, printable⟩ => by
      have sorted : (sortFields fields).Perm fields := List.perm_insertionSort _ _
      have entries := readsBack_fields fields printable
      have reads := readsBack_object
        ((sortFields fields).map fun field => (field.1, dumps field.2, field.2.back))
        (fun entry member => by
          obtain ⟨field, there, rfl⟩ := List.mem_map.mp member
          exact entries _ (List.mem_map.mpr ⟨field, sorted.mem_iff.mp there, rfl⟩))
        (by
          rw [List.map_map]
          exact (sorted.map Prod.fst).nodup_iff.mpr distinct)
      simp only [List.map_map] at reads
      rw [dumps, Json.back, dumpsFields_eq, backFields_eq, sortFields_map, sortFields_map, List.map_map]
      exact reads

theorem readsBack_items : (items : List Json) → PrintableItems items →
    ∀ part ∈ items.map fun item => (dumps item, item.back), ReadsBack part.1 part.2
  | [], _ => nofun
  | item :: rest, ⟨first, others⟩ => by
      intro part member
      rcases List.mem_cons.mp member with rfl | later
      · exact readsBack_dumps item first
      · exact readsBack_items rest others part later

theorem readsBack_fields : (fields : List (Str × Json)) → PrintableEntries fields →
    ∀ entry ∈ fields.map fun field => (field.1, dumps field.2, field.2.back),
      ScalarText entry.1 ∧ ReadsBack entry.2.1 entry.2.2
  | [], _ => nofun
  | (key, value) :: rest, ⟨⟨scalar, first⟩, others⟩ => by
      intro entry member
      rcases List.mem_cons.mp member with rfl | later
      · exact ⟨scalar, readsBack_dumps value first⟩
      · exact readsBack_fields rest others entry later
end

/-- `json.loads` of `json.dumps`. -/
theorem readDocument_dumps {value : Json} (printable : Printable value) :
    readDocument (dumps value) = .ok value.back := by
  have reads := readsBack_dumps value printable
  have skips := reads.skips []
  have read := reads.back (dumps value).length [] le_rfl trivial
  rw [List.append_nil] at skips read
  rw [readDocument, skips, read]
  rfl

theorem lookup_back (key : Str) (fields : List (Str × Json)) :
    lookup key (backFields fields) = (lookup key fields).map Json.back := by
  induction fields with
  | nil => rfl
  | cons field rest ih =>
      unfold lookup at ih
      rw [backFields, lookup, lookup, List.lookup_cons, List.lookup_cons, ih]
      split <;> rfl

/-- An object is read back with the fields it has. -/
theorem readDocument_object {fields : List (Str × Json)} (printable : Printable (.object fields)) :
    ∃ parsed, readDocument (dumps (.object fields)) = .ok (.object parsed) ∧
      ∀ key, lookup key parsed = (lookup key fields).map Json.back := by
  have distinct : (fields.map Prod.fst).Nodup := printable.1
  refine ⟨sortFields (backFields fields), readDocument_dumps printable, fun key => ?_⟩
  have sorted : (sortFields (backFields fields)).Perm (backFields fields) := List.perm_insertionSort _ _
  have keys : (backFields fields).map Prod.fst = fields.map Prod.fst := by
    rw [backFields_eq, List.map_map]
    rfl
  rw [lookup_perm sorted ((sorted.map Prod.fst).nodup_iff.mpr (keys ▸ distinct)), lookup_back]

/-! What is printed has no control character, so no end of a line. -/

def Unbroken (text : Str) : Prop := ∀ code ∈ text, 0x20 ≤ code.val

section Unbroken
variable {left right rest text : Str} {code : CodePoint}

theorem unbroken_nil : Unbroken [] := nofun

theorem unbroken_cons (plain : 0x20 ≤ code.val) (unbroken : Unbroken rest) : Unbroken (code :: rest) := by
  intro other member
  rcases List.mem_cons.mp member with rfl | later
  · exact plain
  · exact unbroken other later

theorem unbroken_append (first : Unbroken left) (second : Unbroken right) : Unbroken (left ++ right) := by
  intro other member
  rcases List.mem_append.mp member with early | late
  · exact first other early
  · exact second other late

theorem lit_unbroken {literal : String}
    (plain : literal.toList.all (fun char => 0x20 ≤ char.toNat && char.toNat < 0x80) = true) :
    Unbroken (lit literal) := by
  intro code member
  obtain ⟨char, inside, rfl⟩ := List.mem_map.mp member
  have bounds := List.all_eq_true.mp plain char inside
  simp only [Bool.and_eq_true, decide_eq_true_eq] at bounds
  simp only [Fin.val_ofNat]
  omega

theorem hexDigit_unbroken (value : Nat) : 0x20 ≤ (hexDigit value).val := by
  unfold hexDigit
  split <;> simp only [point, Fin.val_ofNat] <;> omega

theorem unicodeEscape_unbroken (unit : Nat) : Unbroken (unicodeEscape unit) := by
  intro code member
  simp only [unicodeEscape, List.mem_cons, List.not_mem_nil, or_false] at member
  rcases member with rfl | rfl | rfl | rfl | rfl | rfl
  · decide
  · decide
  all_goals exact hexDigit_unbroken _

theorem escapePoint_unbroken (code : CodePoint) : Unbroken (escapePoint code) := by
  unfold escapePoint
  iterate 7
    split
    · exact unbroken_cons (by decide) (unbroken_cons (by decide) unbroken_nil)
  split
  · rename_i printable
    exact unbroken_cons printable.1 unbroken_nil
  · split
    · exact unicodeEscape_unbroken _
    · exact unbroken_append (unicodeEscape_unbroken _) (unicodeEscape_unbroken _)

theorem stringText_unbroken (value : Str) : Unbroken (stringText value) := by
  apply unbroken_cons (by decide)
  apply unbroken_append
  · intro code member
    obtain ⟨source, -, inside⟩ := List.mem_flatMap.mp member
    exact escapePoint_unbroken source code inside
  · exact unbroken_cons (by decide) unbroken_nil

theorem naturalText_unbroken (value : Nat) : Unbroken (naturalText value) := by
  intro code member
  have digit := naturalText_isDigit value code member
  simp only [isDigit, Bool.and_eq_true, decide_eq_true_eq] at digit
  omega

theorem commaJoined_unbroken {texts : List Str} (all : ∀ text ∈ texts, Unbroken text) :
    Unbroken (commaJoined texts) := by
  induction texts with
  | nil => exact unbroken_nil
  | cons first rest ih =>
      have tail := ih fun text member => all text (List.mem_cons_of_mem _ member)
      cases rest with
      | nil => exact all first List.mem_cons_self
      | cons second rest =>
          exact unbroken_append (all first List.mem_cons_self)
            (unbroken_cons (by decide) (unbroken_cons (by decide) tail))
end Unbroken

mutual
theorem dumps_unbroken : (value : Json) → Printable value → Unbroken (dumps value)
  | .null, _ => lit_unbroken (by decide)
  | .bool true, _ => lit_unbroken (by decide)
  | .bool false, _ => lit_unbroken (by decide)
  | .int (.ofNat value), _ => naturalText_unbroken value
  | .int (.negSucc value), _ => unbroken_cons (by decide) (naturalText_unbroken _)
  | .str value, _ => stringText_unbroken value
  | .array items, printable => by
      rw [dumps, dumpsItems_eq]
      exact unbroken_cons (by decide) (unbroken_append
        (commaJoined_unbroken (dumpsItems_unbroken items printable)) (unbroken_cons (by decide) unbroken_nil))
  | .object fields, ⟨_, printable⟩ => by
      rw [dumps, dumpsFields_eq]
      refine unbroken_cons (by decide) (unbroken_append (commaJoined_unbroken ?_)
        (unbroken_cons (by decide) unbroken_nil))
      intro text member
      obtain ⟨field, sorted, rfl⟩ := List.mem_map.mp member
      have there := (List.perm_insertionSort _ _).mem_iff.mp sorted
      exact unbroken_append (stringText_unbroken _) (unbroken_cons (by decide)
        (unbroken_cons (by decide) (dumpsFields_unbroken fields printable field there)))

theorem dumpsItems_unbroken : (items : List Json) → PrintableItems items →
    ∀ text ∈ items.map dumps, Unbroken text
  | [], _ => nofun
  | item :: rest, ⟨first, others⟩ => by
      intro text member
      rcases List.mem_cons.mp member with rfl | later
      · exact dumps_unbroken item first
      · exact dumpsItems_unbroken rest others text later

theorem dumpsFields_unbroken : (fields : List (Str × Json)) → PrintableEntries fields →
    ∀ field ∈ fields.map fun field => (field.1, dumps field.2), Unbroken field.2
  | [], _ => nofun
  | (key, value) :: rest, ⟨⟨_, first⟩, others⟩ => by
      intro field member
      rcases List.mem_cons.mp member with rfl | later
      · exact dumps_unbroken value first
      · exact dumpsFields_unbroken rest others field later
end

/-! Lines. -/

theorem joined_intercalate (separator : CodePoint) (texts : List Str) :
    joined separator texts = List.intercalate [separator] texts := by
  induction texts with
  | nil => rfl
  | cons first rest ih =>
      cases rest with
      | nil => simp [joined, List.intercalate]
      | cons second rest => simp [joined, ih, List.intercalate, List.intersperse]

/-- Printed line by line, the values stand one to a line. -/
theorem lines_dumps {values : List Json} (printable : ∀ value ∈ values, Printable value)
    (nonempty : values ≠ []) :
    (joined 0x0A (values.map dumps)).splitOn 0x0A = values.map dumps := by
  rw [joined_intercalate]
  apply List.splitOn_intercalate
  · intro text member broken
    obtain ⟨value, there, rfl⟩ := List.mem_map.mp member
    exact absurd (dumps_unbroken value (printable value there) _ broken) (by decide)
  · simpa using nonempty
end Python.JsonCodec
