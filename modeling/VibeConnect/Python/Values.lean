import VibeConnect.Python.Text

/-! Values of the standard library: a `datetime` with its optional UTC offset,
in microseconds and without the bounds on years, and a `UUID`. -/
namespace Python.Values
open Text

structure DateTime where
  micros : Int
  offset : Option Int
  deriving DecidableEq, Repr

/-- The instant an aware value denotes; a naive one is read as UTC. -/
def DateTime.instant (value : DateTime) : Int := value.micros - value.offset.getD 0

/-- `_as_utc`. -/
def DateTime.asUtc (value : DateTime) : DateTime := ⟨value.instant, some 0⟩

def DateTime.addSeconds (value : DateTime) (seconds : Int) : DateTime :=
  { value with micros := value.micros + seconds * 1000000 }

@[simp] theorem DateTime.instant_asUtc (value : DateTime) : value.asUtc.instant = value.instant := by
  simp [asUtc, instant]

@[simp] theorem DateTime.instant_addSeconds (value : DateTime) (seconds : Int) :
    (value.addSeconds seconds).instant = value.instant + seconds * 1000000 := by
  simp only [addSeconds, instant]
  omega

structure Uuid where
  value : Fin (2 ^ 128)
  deriving DecidableEq

instance (priority := 2000) uuidValues : NeZero (2 ^ 128) := ⟨by decide⟩

/-- `count` hexadecimal digits of a number, most significant first. -/
def hexDigits (value : Nat) : Nat → Str
  | 0 => []
  | count + 1 => hexDigits (value / 16) count ++
      [point (if value % 16 < 10 then 48 + value % 16 else 87 + value % 16)]

/-- `str(uuid)`: 32 digits in groups of 8, 4, 4, 4 and 12. -/
def Uuid.text (uuid : Uuid) : Str :=
  let digits := hexDigits uuid.value.val 32
  digits.take 8 ++ lit "-" ++ (digits.drop 8).take 4 ++ lit "-" ++ (digits.drop 12).take 4 ++
    lit "-" ++ (digits.drop 16).take 4 ++ lit "-" ++ digits.drop 20

/-! A UUID is told by its text. -/
theorem hexDigits_length (value count : Nat) : (hexDigits value count).length = count := by
  induction count generalizing value with
  | zero => rfl
  | succ count ih =>
      rw [hexDigits, List.length_append, ih]
      rfl

/-- A digit or one of the letters from `a` to `f`. -/
def IsHexDigit (code : CodePoint) : Prop :=
  48 ≤ code.val ∧ code.val ≤ 57 ∨ 97 ≤ code.val ∧ code.val ≤ 102

theorem hexDigit_val {digit : Nat} (small : digit < 16) :
    (point (if digit < 10 then 48 + digit else 87 + digit)).val =
      if digit < 10 then 48 + digit else 87 + digit := by
  apply point_of
  split <;> omega

theorem hexDigits_digit {value count : Nat} {code : CodePoint}
    (member : code ∈ hexDigits value count) : IsHexDigit code := by
  induction count generalizing value with
  | zero => cases member
  | succ count ih =>
      rw [hexDigits, List.mem_append, List.mem_singleton] at member
      rcases member with before | rfl
      · exact ih before
      · have small : value % 16 < 16 := Nat.mod_lt _ (by decide)
        unfold IsHexDigit
        rw [hexDigit_val small]
        split <;> omega

theorem hexDigits_injective {one two count : Nat} (fits : one < 16 ^ count) (alsoFits : two < 16 ^ count)
    (same : hexDigits one count = hexDigits two count) : one = two := by
  induction count generalizing one two with
  | zero => omega
  | succ count ih =>
      rw [pow_succ] at fits alsoFits
      obtain ⟨before, last⟩ := List.append_inj' same rfl
      have quotients : one / 16 = two / 16 := ih (by omega) (by omega) before
      have small : one % 16 < 16 := Nat.mod_lt _ (by decide)
      have alsoSmall : two % 16 < 16 := Nat.mod_lt _ (by decide)
      have digits := congrArg Fin.val (List.singleton_inj.mp last)
      rw [hexDigit_val small, hexDigit_val alsoSmall] at digits
      have remainders : one % 16 = two % 16 := by
        split at digits <;> split at digits <;> omega
      omega

/-- Without the hyphens the text is the digits. -/
theorem Uuid.text_digits (uuid : Uuid) :
    uuid.text.filter (· != 45) = hexDigits uuid.value.val 32 := by
  have plain : ∀ part, part ⊆ hexDigits uuid.value.val 32 → part.filter (· != 45) = part := by
    intro part within
    apply List.filter_eq_self.mpr
    intro code member
    have digit := hexDigits_digit (within member)
    unfold IsHexDigit at digit
    apply bne_iff_ne.mpr
    rintro rfl
    revert digit
    decide
  have middle : ∀ start count,
      (((hexDigits uuid.value.val 32).drop start).take count).filter (· != 45) =
        ((hexDigits uuid.value.val 32).drop start).take count := fun start count =>
    plain _ fun _ member => List.mem_of_mem_drop (List.mem_of_mem_take member)
  have first := plain _ (List.take_subset 8 (hexDigits uuid.value.val 32))
  have last := plain _ (List.drop_subset 20 (hexDigits uuid.value.val 32))
  have hyphen : (lit "-").filter (· != 45) = [] := by decide
  have joined : ∀ start count, ((hexDigits uuid.value.val 32).drop start).take count ++
      (hexDigits uuid.value.val 32).drop (start + count) =
        (hexDigits uuid.value.val 32).drop start := by
    intro start count
    rw [← List.drop_drop, List.take_append_drop]
  unfold Uuid.text
  simp only [List.filter_append, hyphen, middle, first, last, List.nil_append, List.append_assoc]
  rw [joined 16 4, joined 12 4, joined 8 4, List.take_append_drop]

theorem Uuid.text_injective {one two : Uuid} (same : one.text = two.text) : one = two := by
  have digits := congrArg (List.filter (· != 45)) same
  rw [text_digits, text_digits] at digits
  have values := hexDigits_injective (show one.value.val < 16 ^ 32 from one.value.isLt)
    (show two.value.val < 16 ^ 32 from two.value.isLt) digits
  cases one
  cases two
  exact congrArg Uuid.mk (Fin.ext values)

/-- The text has hexadecimal digits and hyphens. -/
theorem Uuid.text_member {uuid : Uuid} {code : CodePoint} (member : code ∈ uuid.text) :
    IsHexDigit code ∨ code = 45 := by
  by_cases hyphen : code = 45
  · exact .inr hyphen
  · left
    have digit : code ∈ hexDigits uuid.value.val 32 := by
      rw [← text_digits]
      exact List.mem_filter.mpr ⟨member, bne_iff_ne.mpr hyphen⟩
    exact hexDigits_digit digit

theorem Uuid.text_nonempty (uuid : Uuid) : uuid.text ≠ [] := by
  intro empty
  have digits := uuid.text_digits
  rw [empty] at digits
  have lengths := congrArg List.length digits
  rw [hexDigits_length] at lengths
  cases lengths

end Python.Values
