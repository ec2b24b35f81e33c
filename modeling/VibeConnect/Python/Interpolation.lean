import VibeConnect.Python.ConfigParser
import VibeConnect.Python.Url

/-! `configparser.BasicInterpolation`: in the value of an option `%%` is a percent sign and
`%(name)s` is the value of another option, in its turn interpolated, ten levels deep at most. -/
namespace Python.Interpolation
open Text Url

inductive InterpolationFault where
  | tooDeep
  | malformed
  | missingOption (name : Str)
  deriving DecidableEq

inductive Piece where
  | char (code : CodePoint)
  | option (name : Str)

/-- The name and the rest of the text after `%(`. -/
def reference (text : Str) : Option (Piece × Str) :=
  match partition 41 text with
  | some (name, 115 :: rest) => if name = [] then none else some (.option name, rest)
  | _ => none

/-- What a percent sign stands for, by the text after it. -/
def escaped : Str → Option (Piece × Str)
  | 37 :: rest => some (.char 37, rest)
  | 40 :: rest => reference rest
  | _ => none

def firstPiece (first : CodePoint) (rest : Str) : Option (Piece × Str) :=
  if first = 37 then escaped rest else some (.char first, rest)

section
variable (lower : Str → Str) (values : Str → Option Str)

/-- The value that takes the place of a piece. -/
def inserted (deeper : Str → Except InterpolationFault Str) : Piece → Except InterpolationFault Str
  | .char code => .ok [code]
  | .option name => match values (lower name) with
      | none => .error (.missingOption (lower name))
      | some value => if value.contains 37 then deeper value else .ok value

/-- `_interpolate_some` on one level; `deeper` is the next one. The bound on the turns is the
length of the text. -/
def expand (deeper : Str → Except InterpolationFault Str) :
    (turns : Nat) → Str → Except InterpolationFault Str
  | 0, _ | _, [] => .ok []
  | turns + 1, first :: rest => match firstPiece first rest with
      | none => .error .malformed
      | some (piece, rest) => do
          let front ← inserted lower values deeper piece
          let later ← expand deeper turns rest
          .ok (front ++ later)

def interpolate : (depth : Nat) → Str → Except InterpolationFault Str
  | 0, _ => .error .tooDeep
  | depth + 1, text => expand lower values (interpolate depth) text.length text

/-- `before_get`. -/
def beforeGet (text : Str) : Except InterpolationFault Str := interpolate lower values 10 text
end

section
variable {lower : Str → Str} {values : Str → Option Str}
  {deeper : Str → Except InterpolationFault Str} {turns : Nat} {first : CodePoint} {text rest read : Str}

/-- One turn over a text. -/
theorem expand_cons : expand lower values deeper (turns + 1) (first :: rest) = .ok read ↔
    ∃ piece after front later, firstPiece first rest = some (piece, after) ∧
      inserted lower values deeper piece = .ok front ∧
      expand lower values deeper turns after = .ok later ∧ read = front ++ later := by
  rw [expand]
  cases firstPiece first rest with
  | none => simp
  | some found =>
      obtain ⟨piece, after⟩ := found
      cases front : inserted lower values deeper piece with
      | error fault => simp [front, bind, Except.bind]
      | ok put =>
          cases later : expand lower values deeper turns after <;>
            simp [front, later, bind, Except.bind, eq_comm]

theorem firstPiece_plain (plain : first ≠ 37) : firstPiece first rest = some (.char first, rest) :=
  if_neg plain

/-- After a percent sign there is a second one, or a reference. -/
theorem firstPiece_percent {piece : Piece} {after : Str} (found : firstPiece 37 rest = some (piece, after)) :
    (piece = .char 37 ∧ rest = 37 :: after) ∨ ∃ name, piece = .option name := by
  rw [firstPiece, if_pos rfl] at found
  unfold escaped at found
  split at found
  · cases found
    exact .inl ⟨rfl, rfl⟩
  · unfold reference at found
    split at found
    · split at found <;> cases found
      exact .inr ⟨_, rfl⟩
    · cases found
  · cases found

/-- A piece takes at least one character. -/
theorem firstPiece_length {piece : Piece} {after : Str} (found : firstPiece first rest = some (piece, after)) :
    after.length ≤ rest.length := by
  unfold firstPiece at found
  split at found
  · unfold escaped at found
    split at found
    · cases found
      simp
    · unfold reference at found
      split at found
      · next name tail parted =>
        split at found <;> cases found
        obtain ⟨whole, -⟩ := partition_iff.mp parted
        rw [whole]
        simp
        omega
      · cases found
    · cases found
  · cases found
    exact le_rfl

theorem expand_plain (clean : 37 ∉ text) (enough : text.length ≤ turns) :
    expand lower values deeper turns text = .ok text := by
  induction text generalizing turns with
  | nil => cases turns <;> rfl
  | cons first rest ih =>
      rw [List.mem_cons, not_or] at clean
      cases turns with
      | zero => cases enough
      | succ turns =>
          have later := ih clean.2 (Nat.le_of_succ_le_succ enough)
          exact expand_cons.mpr ⟨_, _, _, _, firstPiece_plain (Ne.symm clean.1), rfl, later, rfl⟩

/-- A text without percent signs stands for itself. -/
theorem beforeGet_plain (clean : 37 ∉ text) : beforeGet lower values text = .ok text :=
  expand_plain clean le_rfl

/-- A text that does not begin with a percent sign keeps its first character. -/
theorem interpolate_head {depth : Nat} (plain : first ≠ 37)
    (ok : interpolate lower values depth (first :: rest) = .ok read) : read.head? = some first := by
  cases depth with
  | zero => cases ok
  | succ depth =>
      obtain ⟨piece, after, front, later, found, put, -, rfl⟩ := expand_cons.mp ok
      rw [firstPiece_plain plain] at found
      cases found
      cases put
      rfl

/-- The reading of the text comes to a reference to an option that has the value. -/
inductive Uses (lower : Str → Str) (values : Str → Option Str) (value : Str) : Str → Prop where
  | here {name after : Str} {first : CodePoint} {rest : Str}
      (found : firstPiece first rest = some (.option name, after)) (held : values (lower name) = some value) :
      Uses lower values value (first :: rest)
  | later {piece : Piece} {after : Str} {first : CodePoint} {rest : Str}
      (found : firstPiece first rest = some (piece, after)) (uses : Uses lower values value after) :
      Uses lower values value (first :: rest)

theorem Uses.held {value : Str} (uses : Uses lower values value text) : ∃ name, values name = some value := by
  induction uses with
  | here _ held => exact ⟨_, held⟩
  | later _ _ ih => exact ih

/-- A value with a percent sign that is used is read one level deeper. -/
theorem Uses.resolved {value : Str} (uses : Uses lower values value text) (open_ : 37 ∈ value) {depth turns : Nat}
    {read : Str} (enough : text.length ≤ turns)
    (ok : expand lower values (interpolate lower values depth) turns text = .ok read) :
    ∃ inner, interpolate lower values depth value = .ok inner := by
  induction uses generalizing turns read with
  | here found held =>
      cases turns with
      | zero => cases enough
      | succ turns =>
          obtain ⟨piece, after, front, later, same, put, -, -⟩ := expand_cons.mp ok
          rw [found] at same
          cases same
          rw [inserted, held] at put
          simp only [if_pos (List.contains_iff_mem.mpr open_)] at put
          exact ⟨front, put⟩
  | later found uses ih =>
      cases turns with
      | zero => cases enough
      | succ turns =>
          obtain ⟨piece, after, front, later, same, -, more, -⟩ := expand_cons.mp ok
          rw [found] at same
          cases same
          have shorter := firstPiece_length found
          apply ih _ more
          simp only [List.length_cons] at enough
          omega

/-- A text with a reference to itself is not read. -/
theorem Uses.self (uses : Uses lower values text text) (open_ : 37 ∈ text) (depth : Nat) {read : Str} :
    interpolate lower values depth text ≠ .ok read := by
  induction depth generalizing read with
  | zero =>
      intro ok
      cases ok
  | succ depth ih =>
      intro ok
      obtain ⟨inner, deeper⟩ := uses.resolved open_ le_rfl ok
      exact ih deeper

/-- Every option that the text uses has a value that begins with something else than a percent sign. -/
def Fronted (lower : Str → Str) (values : Str → Option Str) (text : Str) : Prop :=
  ∀ value, Uses lower values value text → ∃ first rest, value = first :: rest ∧ first ≠ 37

theorem Fronted.after {piece : Piece} {after : Str} (fronted : Fronted lower values (first :: rest))
    (found : firstPiece first rest = some (piece, after)) : Fronted lower values after :=
  fun value uses => fronted value (.later found uses)

theorem option_head {depth : Nat} {name after front : Str} (fronted : Fronted lower values (first :: rest))
    (found : firstPiece first rest = some (.option name, after))
    (ok : inserted lower values (interpolate lower values depth) (.option name) = .ok front) :
    ∃ first rest, front = first :: rest ∧ first ≠ 37 := by
  rw [inserted] at ok
  split at ok
  · cases ok
  · rename_i value held
    obtain ⟨first, rest, rfl, plain⟩ := fronted value (.here found held)
    split at ok
    · have head := interpolate_head plain ok
      cases front with
      | nil => cases head
      | cons point more =>
          obtain rfl := Option.some.inj head
          exact ⟨point, more, rfl, plain⟩
    · cases ok
      exact ⟨first, rest, rfl, plain⟩

/-- What is read is not the text again, with percent signs before it, unless there is none in
it: a doubled sign gives one sign for two, and a reference gives none at its front. The text may
change after its last percent sign. -/
theorem expand_fixed {depth : Nat} {tail other : Str}
    (fronted : Fronted lower values (text ++ tail)) (clean : 37 ∉ tail) (count : Nat) (enough : (text ++ tail).length ≤ turns)
    (ok : expand lower values (interpolate lower values depth) turns (text ++ tail) =
      .ok (List.replicate count 37 ++ (text ++ other))) : count = 0 ∧ 37 ∉ text := by
  induction turns generalizing text count with
  | zero =>
      obtain ⟨rfl, rfl⟩ := List.append_eq_nil_iff.mp (List.eq_nil_of_length_eq_zero (Nat.le_zero.mp enough))
      cases count with
      | zero => exact ⟨rfl, List.not_mem_nil⟩
      | succ count => cases ok
  | succ turns ih =>
      cases text with
      | nil =>
          rw [List.nil_append, expand_plain clean (by simpa using enough), List.nil_append] at ok
          cases count with
          | zero => exact ⟨rfl, List.not_mem_nil⟩
          | succ count =>
              have same := Except.ok.inj ok
              rw [List.replicate_succ] at same
              exact absurd (same ▸ List.mem_cons_self) clean
      | cons first rest =>
          have shorter : (rest ++ tail).length ≤ turns := by simpa using enough
          obtain ⟨piece, after, front, later, found, put, expanded, same⟩ := expand_cons.mp ok
          by_cases percent : first = 37
          · subst percent
            exfalso
            rcases firstPiece_percent found with ⟨rfl, escape⟩ | ⟨name, rfl⟩
            · cases put
              cases rest with
              | nil =>
                  have opens : tail = 37 :: after := escape
                  exact clean (opens ▸ List.mem_cons_self)
              | cons second rest =>
                  obtain ⟨rfl, rfl⟩ := List.cons.inj escape
                  -- one sign is read for the two, so one more stands before the rest
                  have more : later = List.replicate (count + 1) 37 ++ (rest ++ other) := by
                    have signs : List.replicate count (37 : CodePoint) ++ [37] =
                        37 :: List.replicate count 37 := by
                      rw [← List.replicate_succ', List.replicate_succ]
                    have moved : List.replicate count 37 ++ (37 :: 37 :: rest ++ other) =
                        37 :: (List.replicate (count + 1) 37 ++ (rest ++ other)) := by
                      rw [List.replicate_succ', List.append_assoc, ← List.cons_append, ← signs]
                      simp
                    exact (List.cons.inj (same.symm.trans moved)).2
                  rw [more] at expanded
                  have fewer : (rest ++ tail).length ≤ turns := by
                    simp only [List.cons_append, List.length_cons] at shorter
                    omega
                  cases (ih (fronted.after found) (count + 1) fewer expanded).1
            · obtain ⟨head, body, rfl, plain⟩ := option_head fronted found put
              have heads := congrArg List.head? same
              cases count with
              | zero => exact plain (Option.some.inj heads).symm
              | succ count => exact plain (Option.some.inj heads).symm
          · rw [firstPiece_plain percent] at found
            cases found
            cases put
            cases count with
            | zero =>
                obtain rfl : rest ++ other = later := (List.cons.inj same).2
                have later := fronted.after (firstPiece_plain percent)
                obtain ⟨-, cleaner⟩ := ih later 0 shorter expanded
                exact ⟨rfl, by simp [Ne.symm percent, cleaner]⟩
            | succ count => exact absurd (List.cons.inj same).1.symm percent

/-- Where the options are fronted, a text that is read as itself has no percent sign, also when
what follows it, without one, is read as something else. -/
theorem beforeGet_fixed {tail other : Str} (fronted : Fronted lower values (text ++ tail)) (clean : 37 ∉ tail)
    (ok : beforeGet lower values (text ++ tail) = .ok (text ++ other)) :
    37 ∉ text :=
  (@expand_fixed _ _ _ text _ _ _ fronted clean 0 le_rfl ok).2
end

end Python.Interpolation
