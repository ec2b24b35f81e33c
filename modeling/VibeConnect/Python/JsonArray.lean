import VibeConnect.Python.JsonCodec

/-! Floats and flat arrays in JSON. A `FloatText` is the text of a finite float,
which always has a fraction or an exponent, so that it is read back as a float.
A flat array is read back one item at a time, each up to its separator. -/
namespace Python.JsonCodec
open Text

/-- `repr(float)` for a finite float. -/
structure FloatText where
  negative : Bool
  whole : Nat
  fraction : Str
  exponent : Option (Bool × Str)
  fraction_digits : ∀ code ∈ fraction, isDigit code = true
  exponent_digits : ∀ part ∈ exponent, part.2 ≠ [] ∧ ∀ code ∈ part.2, isDigit code = true
  inexact : fraction ≠ [] ∨ exponent ≠ none

namespace FloatText

def fractionText (fraction : Str) : Str := if fraction = [] then [] else 0x2E :: fraction

def exponentText : Option (Bool × Str) → Str
  | none => []
  | some (negative, digits) => 0x65 :: (if negative then 0x2D else 0x2B) :: digits

def text (float : FloatText) : Str :=
  (if float.negative then [0x2D] else []) ++ naturalText float.whole ++
    fractionText float.fraction ++ exponentText float.exponent

end FloatText

/-- A text whose first character is no digit. -/
theorem takeWhile_digits {digits rest : Str} (all : ∀ code ∈ digits, isDigit code = true)
    (stops : rest.takeWhile isDigit = []) : (digits ++ rest).takeWhile isDigit = digits := by
  rw [List.takeWhile_append_of_pos all, stops, List.append_nil]

theorem exponentText_stops (exponent : Option (Bool × Str)) {rest : Str} (stops : Stops rest) :
    (FloatText.exponentText exponent ++ rest).takeWhile isDigit = [] := by
  cases exponent with
  | none => exact takeWhile_stops stops
  | some part => rfl

theorem readFraction_text {fraction : Str} (exponent : Option (Bool × Str)) {rest : Str}
    (digits : ∀ code ∈ fraction, isDigit code = true) (stops : Stops rest) :
    readFraction (FloatText.fractionText fraction ++ (FloatText.exponentText exponent ++ rest)) =
      (FloatText.fractionText fraction, FloatText.exponentText exponent ++ rest) := by
  by_cases none : fraction = []
  · subst none
    cases exponent with
    | none => exact readFraction_stops stops
    | some part => rfl
  · have taken := takeWhile_digits digits (exponentText_stops exponent stops)
    have point : (0x2E : CodePoint).val = 0x2E := rfl
    rw [FloatText.fractionText, if_neg none, List.cons_append, readFraction, taken,
      if_pos ⟨point, none⟩, List.drop_left]

theorem readExponent_text {exponent : Option (Bool × Str)} {rest : Str}
    (digits : ∀ part ∈ exponent, part.2 ≠ [] ∧ ∀ code ∈ part.2, isDigit code = true)
    (stops : Stops rest) : readExponent (FloatText.exponentText exponent ++ rest) =
      (FloatText.exponentText exponent, rest) := by
  cases exponent with
  | none => exact readExponent_stops stops
  | some part =>
      obtain ⟨negative, power⟩ := part
      obtain ⟨some_, all⟩ := digits _ rfl
      have taken := takeWhile_digits all (takeWhile_stops stops)
      cases negative <;>
        simp [FloatText.exponentText, readExponent, taken, some_, Nat.add_comm 1]

/-- A magnitude is read through its fraction and its exponent. -/
theorem readMagnitude_float (float : FloatText) {rest : Str} (stops : Stops rest) :
    readMagnitude float.negative (naturalText float.whole ++ (FloatText.fractionText float.fraction ++
      (FloatText.exponentText float.exponent ++ rest))) = .ok (.float float.text, rest) := by
  have fraction := readFraction_text float.exponent float.fraction_digits stops
  have exponent := readExponent_text float.exponent_digits stops
  have inexact : ¬(FloatText.fractionText float.fraction = [] ∧
      FloatText.exponentText float.exponent = []) := by
    rintro ⟨noFraction, noExponent⟩
    rcases float.inexact with some_ | some_
    · rw [FloatText.fractionText, if_neg some_] at noFraction
      cases noFraction
    · cases power : float.exponent with
      | none => exact some_ power
      | some part =>
          rw [power] at noExponent
          cases noExponent
  have allDigits := naturalText_isDigit float.whole
  rcases naturalText_cases float.whole with zero | ⟨first, digits, text, nonzero⟩
  · have lead : (48 : CodePoint).val = 48 := rfl
    rw [zero, List.singleton_append, readMagnitude, if_neg (by decide), if_pos lead]
    simp only [List.length_singleton, List.drop_one, List.tail_cons, fraction, exponent,
      if_neg inexact]
    simp [FloatText.text, zero]
  · rw [text] at allDigits ⊢
    have digit := allDigits first List.mem_cons_self
    have follows : (FloatText.fractionText float.fraction ++
        (FloatText.exponentText float.exponent ++ rest)).takeWhile isDigit = [] := by
      by_cases none : float.fraction = []
      · rw [none]
        exact exponentText_stops float.exponent stops
      · rw [FloatText.fractionText, if_neg none]
        rfl
    have whole := takeWhile_digits
      (fun code member => allDigits code (List.mem_cons_of_mem _ member)) follows
    rw [List.cons_append, readMagnitude, if_neg (by simp [digit]), if_neg nonzero, whole]
    simp only [List.length_cons, List.drop_succ_cons, List.drop_left, fraction, exponent,
      if_neg inexact]
    simp [FloatText.text, text]

theorem readAtom_float (float : FloatText) {rest : Str} (stops : Stops rest) :
    readAtom (float.text ++ rest) = .ok (.float float.text, rest) := by
  have read := readMagnitude_float float stops
  obtain ⟨first, digits, text, digit⟩ := naturalText_head float.whole
  cases sign : float.negative with
  | false =>
      rw [sign, text, List.cons_append] at read
      have spelled : float.text ++ rest = first :: (digits ++ (FloatText.fractionText float.fraction ++
          (FloatText.exponentText float.exponent ++ rest))) := by
        simp [FloatText.text, sign, text]
      rw [spelled, readAtom_digit digit, read]
  | true =>
      rw [sign, text, List.cons_append] at read
      have spelled : float.text ++ rest = 0x2D :: first :: (digits ++
          (FloatText.fractionText float.fraction ++ (FloatText.exponentText float.exponent ++ rest))) := by
        simp [FloatText.text, sign, text]
      rw [spelled, readAtom_minus digit, read]

theorem FloatText.head (float : FloatText) : ∃ first rest, float.text = first :: rest ∧
    (isDigit first = true ∨ first = 0x2D) := by
  obtain ⟨first, digits, text, digit⟩ := naturalText_head float.whole
  cases sign : float.negative with
  | false => exact ⟨first, _, by rw [FloatText.text, sign, text]; rfl, .inl digit⟩
  | true => exact ⟨0x2D, _, by rw [FloatText.text, sign]; rfl, .inr rfl⟩

/-- A text that is read back as a value wherever it ends, and does not end an array. -/
structure Reads (text : Str) (value : Json) : Prop where
  back : ∀ fuel rest, Stops rest → readValue (fuel + 1) (text ++ rest) = .ok (value, rest)
  visible : ∃ first tail, text = first :: tail ∧ isJsonSpace first = false ∧ first.val ≠ 0x5D

theorem reads_float (float : FloatText) : Reads float.text (.float float.text) where
  back fuel rest stops := by
    have read := readAtom_float float stops
    obtain ⟨first, tail, text, number⟩ := float.head
    have plain : first.val ≠ 0x22 ∧ first.val ≠ 0x7B ∧ first.val ≠ 0x5B := by
      rcases number with digit | rfl
      · exact (digit_visible digit).2
      · decide
    rw [text, List.cons_append] at read ⊢
    rw [readValue_atom plain.1 plain.2.1 plain.2.2, read]
  visible := by
    obtain ⟨first, tail, text, number⟩ := float.head
    refine ⟨first, tail, text, ?_⟩
    rcases number with digit | rfl
    · refine ⟨(digit_visible digit).1, fun same => ?_⟩
      simp [isDigit, same] at digit
    · decide

theorem reads_string (value : Str) (unpaired : ∀ code ∈ value, Unpaired code) :
    Reads (stringText value) (.str value) where
  back fuel rest _ := by
    rw [stringText, List.cons_append, List.append_assoc, readValue, if_pos (by decide)]
    exact congrArg (· >>= _) (readString_text value rest unpaired)
  visible := ⟨_, _, rfl, rfl, by decide⟩

theorem skipSpace_reads {text : Str} {value : Json} (reads : Reads text value) (rest : Str) :
    skipSpace (text ++ rest) = text ++ rest := by
  obtain ⟨first, tail, same, visible, -⟩ := reads.visible
  rw [same, List.cons_append, skipSpace_cons visible]

/-- An item is read up to the separator after it. -/
theorem readItems_item {text : Str} {value : Json} (reads : Reads text value) (fuel : Nat)
    (separator : CodePoint) (rest : Str) (closing : separator.val = 0x5D ∨ separator.val = 0x2C) :
    readItems (fuel + 2) (text ++ separator :: rest) =
      if separator.val = 0x5D then .ok ([value], rest)
      else (do
        let (items, rest) ← readItems (fuel + 1) (skipSpace rest)
        .ok (value :: items, rest)) := by
  have stops : Stops (separator :: rest) := by
    simp only [Stops, isDigit, Bool.and_eq_false_iff, decide_eq_false_iff_not]
    omega
  have visible : isJsonSpace separator = false := by
    simp only [isJsonSpace, Bool.or_eq_false_iff, beq_eq_false_iff_ne]
    omega
  rw [readItems, reads.back fuel _ stops]
  simp only [bind, Except.bind, skipSpace_cons visible]
  rcases closing with bracket | comma
  · rw [if_pos bracket, if_pos bracket]
  · have notClosed : separator.val ≠ 0x5D := by omega
    rw [if_neg notClosed, if_pos comma, if_neg notClosed]

theorem readItems_joined (items : List (Str × Json)) (reads : ∀ item ∈ items, Reads item.1 item.2)
    (nonempty : items ≠ []) (fuel : Nat) (enough : items.length < fuel) (rest : Str) :
    readItems fuel (joined 0x2C (items.map Prod.fst) ++ 0x5D :: rest) =
      .ok (items.map Prod.snd, rest) := by
  induction items generalizing fuel with
  | nil => exact absurd rfl nonempty
  | cons item others ih =>
      obtain ⟨fuel, rfl⟩ : ∃ more, fuel = more + 2 := ⟨fuel - 2, by simp at enough; omega⟩
      have first := reads item List.mem_cons_self
      cases others with
      | nil =>
          have read := readItems_item first fuel 0x5D rest (.inl rfl)
          have bracket : (0x5D : CodePoint).val = 0x5D := rfl
          rw [if_pos bracket] at read
          simpa [joined] using read
      | cons second others =>
          have tailReads := fun item member => reads item (List.mem_cons_of_mem _ member)
          have tail := ih tailReads (by simp) (fuel + 1) (by simpa using enough)
          have visible : skipSpace (joined 0x2C ((second :: others).map Prod.fst) ++ 0x5D :: rest) =
              joined 0x2C ((second :: others).map Prod.fst) ++ 0x5D :: rest := by
            have next := tailReads second List.mem_cons_self
            cases others with
            | nil => exact skipSpace_reads next _
            | cons third others =>
                simp only [List.map_cons, joined, List.append_assoc]
                exact skipSpace_reads next _
          have step := readItems_item first fuel 0x2C
            (joined 0x2C ((second :: others).map Prod.fst) ++ 0x5D :: rest) (.inr rfl)
          have comma : ¬(0x2C : CodePoint).val = 0x5D := by decide
          rw [if_neg comma, visible, tail] at step
          simp only [bind, Except.bind] at step
          simpa [joined] using step

/-- A flat array is a document. -/
theorem readDocument_array (items : List (Str × Json)) (reads : ∀ item ∈ items, Reads item.1 item.2)
    (nonempty : items ≠ []) :
    readDocument (0x5B :: (joined 0x2C (items.map Prod.fst) ++ [0x5D])) =
      .ok (.array (items.map Prod.snd)) := by
  obtain ⟨first, tail, text, visible, notBracket⟩ : ∃ first tail,
      joined 0x2C (items.map Prod.fst) ++ [0x5D] = first :: tail ∧ isJsonSpace first = false ∧
        first.val ≠ 0x5D := by
    cases items with
    | nil => exact absurd rfl nonempty
    | cons item others =>
        obtain ⟨first, tail, same, visible, notBracket⟩ := (reads item List.mem_cons_self).visible
        cases others with
        | nil => exact ⟨first, _, by rw [List.map_cons, same]; rfl, visible, notBracket⟩
        | cons second others =>
            exact ⟨first, _, by rw [List.map_cons, same]; rfl, visible, notBracket⟩
  have texts : ∀ part ∈ items.map Prod.fst, part ≠ [] := by
    intro part member
    obtain ⟨item, inside, rfl⟩ := List.mem_map.mp member
    obtain ⟨first, tail, same, -⟩ := (reads item inside).visible
    exact same ▸ List.cons_ne_nil _ _
  have long := joined_length 0x2C _ texts
  have read := readItems_joined items reads nonempty
    ((0x5B :: (joined 0x2C (items.map Prod.fst) ++ [0x5D])).length)
    (by simp only [List.length_cons, List.length_append, List.length_map] at long ⊢; omega) []
  rw [readDocument, skipSpace_cons rfl, readValue, if_neg (by decide), if_neg (by decide),
    if_pos (by decide)]
  rw [text] at read ⊢
  rw [skipSpace_cons visible]
  simp only [if_neg notBracket, read, bind, Except.bind]
  rfl

end Python.JsonCodec
