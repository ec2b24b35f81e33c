import Mathlib.Data.List.Sort
import Mathlib.Data.Nat.Digits.Lemmas
import VibeConnect.Python.Text

/-! Python's `json` module. A `Codec` is what a program may rely on: `dumps`
writes ASCII, and `loads` refuses the empty text and gives back a flat object
of scalar-value strings, nulls and integers as an equal `dict`. Everything else
about `loads` is left open, so a theorem over any codec covers every malformed
or hostile text.
`pythonJson` is one codec, written out: compact separators, sorted keys,
`ensure_ascii` escapes with surrogate pairs, and a parser for them. -/
namespace Python.JsonCodec
open Text

inductive Json where
  | null
  | bool (value : Bool)
  | int (value : Int)
  | float (lexeme : Str)
  | str (value : Str)
  | array (items : List Json)
  | object (fields : List (Str × Json))

inductive JsonFault where
  | decodeError | valueError | recursionError
  deriving DecidableEq

/-- `dict.get`. -/
def lookup (key : Str) (fields : List (Str × Json)) : Option Json := fields.lookup key

def ScalarText (text : Str) : Prop := ∀ code ∈ text, Scalar code

instance (text : Str) : Decidable (ScalarText text) :=
  inferInstanceAs (Decidable (∀ code ∈ text, Scalar code))

/-- The values a flat protocol header is made of. -/
def Plain : Json → Prop
  | .null | .int _ => True
  | .str value => ScalarText value
  | _ => False

def PlainFields (fields : List (Str × Json)) : Prop :=
  (fields.map Prod.fst).Nodup ∧ ∀ field ∈ fields, ScalarText field.1 ∧ Plain field.2

structure Codec where
  dumps : Json → Str
  loads : Str → Except JsonFault Json
  dumps_ascii : ∀ value, ∀ code ∈ dumps value, code.val < 0x80
  loads_empty : ∃ fault, loads [] = .error fault
  loads_dumps : ∀ fields, PlainFields fields → ∃ parsed,
    loads (dumps (.object fields)) = .ok (.object parsed) ∧
      ∀ key, lookup key parsed = lookup key fields

/-! A `str` may hold the two halves of a surrogate pair as code points of their own. They are
written as the one character that they spell, and read back as it. -/
def High (code : CodePoint) : Prop := 0xD800 ≤ code.val ∧ code.val < 0xDC00

def Low (code : CodePoint) : Prop := 0xDC00 ≤ code.val ∧ code.val < 0xE000

instance (code : CodePoint) : Decidable (High code) := inferInstanceAs (Decidable (_ ∧ _))

instance (code : CodePoint) : Decidable (Low code) := inferInstanceAs (Decidable (_ ∧ _))

def pairPoint (high low : CodePoint) : CodePoint :=
  point (0x10000 + (high.val - 0xD800) * 1024 + (low.val - 0xDC00))

def joinPairs : Str → Str
  | high :: low :: rest =>
      if High high ∧ Low low then pairPoint high low :: joinPairs rest
      else high :: joinPairs (low :: rest)
  | text => text

/-- No surrogate pair stands in the text as two code points. -/
def NoPair (text : Str) : Prop := text.IsChain fun first second => ¬(High first ∧ Low second)

/-- The value that a flat value is read back as. -/
def Json.readBack : Json → Json
  | .str value => .str (joinPairs value)
  | value => value

/-- The same of strings of any code points. -/
def Flat : Json → Prop
  | .null | .int _ | .str _ => True
  | _ => False

def FlatFields (fields : List (Str × Json)) : Prop :=
  (fields.map Prod.fst).Nodup ∧ ∀ field ∈ fields, ScalarText field.1 ∧ Flat field.2

/-- A codec that says what becomes of every string. -/
structure StringCodec extends Codec where
  loads_strings : ∀ fields, FlatFields fields → ∃ parsed,
    loads (dumps (.object fields)) = .ok (.object parsed) ∧
      ∀ key, lookup key parsed = (lookup key fields).map Json.readBack

/-! Writing. -/
def hexDigit (value : Nat) : CodePoint :=
  if value % 16 < 10 then point (48 + value % 16) else point (87 + value % 16)

def unicodeEscape (unit : Nat) : Str :=
  [0x5C, 0x75, hexDigit (unit / 4096), hexDigit (unit / 256), hexDigit (unit / 16), hexDigit unit]

def escapePoint (code : CodePoint) : Str :=
  if code.val = 0x22 then [0x5C, 0x22]
  else if code.val = 0x5C then [0x5C, 0x5C]
  else if code.val = 8 then [0x5C, 0x62]
  else if code.val = 9 then [0x5C, 0x74]
  else if code.val = 10 then [0x5C, 0x6E]
  else if code.val = 12 then [0x5C, 0x66]
  else if code.val = 13 then [0x5C, 0x72]
  else if 0x20 ≤ code.val ∧ code.val < 0x7F then [code]
  else if code.val < 0x10000 then unicodeEscape code.val
  else unicodeEscape (0xD800 + (code.val - 0x10000) / 1024) ++
    unicodeEscape (0xDC00 + (code.val - 0x10000) % 1024)

def stringText (value : Str) : Str := 0x22 :: (value.flatMap escapePoint ++ [0x22])

def naturalText (value : Nat) : Str :=
  if value = 0 then [48] else (Nat.digits 10 value).reverse.map fun digit => point (48 + digit)

def intText : Int → Str
  | .ofNat value => naturalText value
  | .negSucc value => 0x2D :: naturalText (value + 1)

def keyLe : Str → Str → Bool
  | [], _ => true
  | _ :: _, [] => false
  | left :: lefts, right :: rights =>
      left.val < right.val || (left.val == right.val && keyLe lefts rights)

def sortFields {α : Type} (fields : List (Str × α)) : List (Str × α) :=
  fields.insertionSort fun left right => keyLe left.1 right.1 = true

def fieldText (field : Str × Str) : Str := stringText field.1 ++ 0x3A :: field.2

def joined (separator : CodePoint) : List Str → Str
  | [] => []
  | [last] => last
  | first :: rest => first ++ separator :: joined separator rest

mutual
def valueText : Json → Str
  | .null => lit "null"
  | .bool value => if value then lit "true" else lit "false"
  | .int value => intText value
  | .float lexeme => lexeme.filter fun code => code.val < 0x80
  | .str value => stringText value
  | .array items => 0x5B :: (joined 0x2C (itemTexts items) ++ [0x5D])
  | .object fields => 0x7B :: (joined 0x2C ((sortFields (fieldTexts fields)).map fieldText) ++ [0x7D])

def itemTexts : List Json → List Str
  | [] => []
  | item :: rest => valueText item :: itemTexts rest

def fieldTexts : List (Str × Json) → List (Str × Str)
  | [] => []
  | (key, value) :: rest => (key, valueText value) :: fieldTexts rest
end

/-! Reading. -/
def isJsonSpace (code : CodePoint) : Bool :=
  code.val == 0x20 || code.val == 9 || code.val == 10 || code.val == 13

def skipSpace (text : Str) : Str := text.dropWhile isJsonSpace

def hexValue (code : CodePoint) : Option Nat :=
  if 48 ≤ code.val ∧ code.val ≤ 57 then some (code.val - 48)
  else if 97 ≤ code.val ∧ code.val ≤ 102 then some (code.val - 87)
  else if 65 ≤ code.val ∧ code.val ≤ 70 then some (code.val - 55)
  else none

def readUnit : Str → Except JsonFault (Nat × Str)
  | a :: b :: c :: d :: rest => match hexValue a, hexValue b, hexValue c, hexValue d with
    | some a, some b, some c, some d => .ok (a * 4096 + b * 256 + c * 16 + d, rest)
    | _, _, _, _ => .error .decodeError
  | _ => .error .decodeError

/-- The text after `\u`. An escaped high surrogate joins an escaped low one. -/
def readUnicode (text : Str) : Except JsonFault (CodePoint × Str) := do
  let (high, rest) ← readUnit text
  if 0xD800 ≤ high ∧ high < 0xDC00 then
    match rest with
    | slash :: mark :: tail =>
        if slash.val = 0x5C ∧ mark.val = 0x75 then
          let (low, tail) ← readUnit tail
          if 0xDC00 ≤ low ∧ low < 0xE000 then
            .ok (point (0x10000 + (high - 0xD800) * 1024 + (low - 0xDC00)), tail)
          else .ok (point high, rest)
        else .ok (point high, rest)
    | _ => .ok (point high, rest)
  else .ok (point high, rest)

def simpleEscape (mark : CodePoint) : Option CodePoint :=
  if mark.val = 0x22 ∨ mark.val = 0x5C ∨ mark.val = 0x2F then some mark
  else if mark.val = 0x62 then some 8
  else if mark.val = 0x74 then some 9
  else if mark.val = 0x6E then some 10
  else if mark.val = 0x66 then some 12
  else if mark.val = 0x72 then some 13
  else none

def readEscape : Str → Except JsonFault (CodePoint × Str)
  | [] => .error .decodeError
  | mark :: rest =>
      if mark.val = 0x75 then readUnicode rest
      else match simpleEscape mark with
        | some code => .ok (code, rest)
        | none => .error .decodeError

def readCharacter (code : CodePoint) (rest : Str) : Except JsonFault (CodePoint × Str) :=
  if code.val = 0x5C then readEscape rest
  else if code.val < 0x20 then .error .decodeError
  else .ok (code, rest)

/-- The text after the opening quote, one character or escape at a time. -/
def readString : Nat → Str → Except JsonFault (Str × Str)
  | 0, _ | _, [] => .error .decodeError
  | fuel + 1, code :: rest =>
      if code.val = 0x22 then .ok ([], rest)
      else do
        let (first, rest) ← readCharacter code rest
        let (more, rest) ← readString fuel rest
        .ok (first :: more, rest)

def isDigit (code : CodePoint) : Bool := 48 ≤ code.val && code.val ≤ 57

def digitsValue (digits : Str) : Nat :=
  digits.foldl (fun value digit => value * 10 + (digit.val - 48)) 0

def readFraction : Str → Str × Str
  | [] => ([], [])
  | dot :: rest =>
      let digits := rest.takeWhile isDigit
      if dot.val = 0x2E ∧ digits ≠ [] then (dot :: digits, rest.drop digits.length)
      else ([], dot :: rest)

def readExponent : Str → Str × Str
  | [] => ([], [])
  | mark :: rest =>
      let sign := rest.take 1 |>.filter fun code => code.val = 0x2B ∨ code.val = 0x2D
      let digits := (rest.drop sign.length).takeWhile isDigit
      if (mark.val = 0x65 ∨ mark.val = 0x45) ∧ digits ≠ [] then
        (mark :: (sign ++ digits), rest.drop (sign.length + digits.length))
      else ([], mark :: rest)

/-- A number without its sign. The interpreter's limit on the digits of a
literal is not modelled here; it is a fault another codec may raise. -/
def readMagnitude (negative : Bool) : Str → Except JsonFault (Json × Str)
  | [] => .error .decodeError
  | first :: rest =>
      if !isDigit first then .error .decodeError
      else
        let digits := if first.val = 48 then [first] else first :: rest.takeWhile isDigit
        let fraction := readFraction ((first :: rest).drop digits.length)
        let exponent := readExponent fraction.2
        if fraction.1 = [] ∧ exponent.1 = [] then
          .ok (.int (if negative then -(digitsValue digits : Int) else digitsValue digits), fraction.2)
        else .ok (.float ((if negative then [0x2D] else []) ++ digits ++ fraction.1 ++ exponent.1),
          exponent.2)

def readWord (word : Str) (value : Json) (text : Str) : Option (Json × Str) :=
  if word.isPrefixOf text then some (value, text.drop word.length) else none

def readAtom (text : Str) : Except JsonFault (Json × Str) :=
  match readWord (lit "null") .null text, readWord (lit "true") (.bool true) text,
    readWord (lit "false") (.bool false) text, readWord (lit "NaN") (.float (lit "NaN")) text,
    readWord (lit "Infinity") (.float (lit "Infinity")) text,
    readWord (lit "-Infinity") (.float (lit "-Infinity")) text with
  | some parsed, _, _, _, _, _ | none, some parsed, _, _, _, _ | none, none, some parsed, _, _, _
  | none, none, none, some parsed, _, _ | none, none, none, none, some parsed, _
  | none, none, none, none, none, some parsed => .ok parsed
  | none, none, none, none, none, none =>
      match text with
      | [] => .error .decodeError
      | first :: rest => if first.val = 0x2D then readMagnitude true rest
          else readMagnitude false (first :: rest)

mutual
def readValue : Nat → Str → Except JsonFault (Json × Str)
  | 0, _ => .error .recursionError
  | _, [] => .error .decodeError
  | fuel + 1, first :: rest =>
      if first.val = 0x22 then do
        let (value, rest) ← readString (rest.length + 1) rest
        .ok (.str value, rest)
      else if first.val = 0x7B then
        match skipSpace rest with
        | [] => .error .decodeError
        | next :: tail =>
            if next.val = 0x7D then .ok (.object [], tail)
            else do
              let (fields, rest) ← readFields fuel (next :: tail)
              .ok (.object fields, rest)
      else if first.val = 0x5B then
        match skipSpace rest with
        | [] => .error .decodeError
        | next :: tail =>
            if next.val = 0x5D then .ok (.array [], tail)
            else do
              let (items, rest) ← readItems fuel (next :: tail)
              .ok (.array items, rest)
      else readAtom (first :: rest)

def readItems : Nat → Str → Except JsonFault (List Json × Str)
  | 0, _ => .error .recursionError
  | fuel + 1, text => do
      let (item, rest) ← readValue fuel text
      match skipSpace rest with
      | [] => .error .decodeError
      | next :: tail =>
          if next.val = 0x5D then .ok ([item], tail)
          else if next.val = 0x2C then do
            let (items, rest) ← readItems fuel (skipSpace tail)
            .ok (item :: items, rest)
          else .error .decodeError

/-- A later field with the same key replaces an earlier one. -/
def readFields : Nat → Str → Except JsonFault (List (Str × Json) × Str)
  | 0, _ => .error .recursionError
  | _, [] => .error .decodeError
  | fuel + 1, quote :: rest =>
      if quote.val ≠ 0x22 then .error .decodeError
      else do
        let (key, rest) ← readString (rest.length + 1) rest
        match skipSpace rest with
        | [] => .error .decodeError
        | colon :: rest =>
            if colon.val ≠ 0x3A then .error .decodeError
            else do
              let (value, rest) ← readValue fuel (skipSpace rest)
              match skipSpace rest with
              | [] => .error .decodeError
              | next :: tail =>
                  if next.val = 0x7D then .ok ([(key, value)], tail)
                  else if next.val = 0x2C then do
                    let (fields, rest) ← readFields fuel (skipSpace tail)
                    .ok (if (lookup key fields).isSome then fields else (key, value) :: fields, rest)
                  else .error .decodeError
end

def readDocument (text : Str) : Except JsonFault Json := do
  let (value, rest) ← readValue (text.length + 1) (skipSpace text)
  if skipSpace rest = [] then .ok value else .error .decodeError

/-! What is written is ASCII. -/
def Ascii (text : Str) : Prop := ∀ code ∈ text, code.val < 0x80

-- by the list: the code points are too many to try one by one
instance (text : Str) : Decidable (Ascii text) :=
  List.decidableBAll (fun code : CodePoint => code.val < 0x80) text

theorem ascii_append {left right : Str} (leftAscii : Ascii left) (rightAscii : Ascii right) :
    Ascii (left ++ right) := by
  intro code member
  rcases List.mem_append.mp member with inLeft | inRight
  · exact leftAscii code inLeft
  · exact rightAscii code inRight

theorem ascii_cons {code : CodePoint} {rest : Str} (small : code.val < 0x80) (ascii : Ascii rest) :
    Ascii (code :: rest) := by
  intro other member
  rcases List.mem_cons.mp member with same | tail
  · exact same ▸ small
  · exact ascii other tail

theorem ascii_nil : Ascii [] := by simp [Ascii]

theorem lit_ascii {literal : String} (small : literal.toList.all (·.toNat < 0x80) = true) :
    Ascii (lit literal) := by
  intro code member
  obtain ⟨char, inside, same⟩ := List.mem_map.mp member
  have bound := of_decide_eq_true (List.all_eq_true.mp small char inside)
  subst same
  simp only [Fin.val_ofNat]
  omega

theorem Ascii.scalarText {text : Str} (ascii : Ascii text) : ScalarText text :=
  fun code member => .inl (Nat.lt_trans (ascii code member) (by decide))

theorem hexDigit_ascii (value : Nat) : (hexDigit value).val < 0x80 := by
  unfold hexDigit point
  split <;> simp only [Fin.val_ofNat] <;> omega

theorem unicodeEscape_ascii (unit : Nat) : Ascii (unicodeEscape unit) := by
  intro code member
  simp only [unicodeEscape, List.mem_cons, List.not_mem_nil, or_false] at member
  rcases member with same | same | same | same | same | same <;> subst same
  · decide
  · decide
  all_goals exact hexDigit_ascii _

theorem escapePoint_ascii (code : CodePoint) : Ascii (escapePoint code) := by
  unfold escapePoint
  repeat' split
  all_goals first
    | exact unicodeEscape_ascii _
    | exact ascii_append (unicodeEscape_ascii _) (unicodeEscape_ascii _)
    | exact ascii_cons (by decide) (ascii_cons (by decide) ascii_nil)
    | exact ascii_cons (by omega) ascii_nil

theorem stringText_ascii (value : Str) : Ascii (stringText value) := by
  refine ascii_cons (by decide) (ascii_append ?_ (ascii_cons (by decide) ascii_nil))
  intro code member
  obtain ⟨source, _, inside⟩ := List.mem_flatMap.mp member
  exact escapePoint_ascii source code inside

theorem naturalText_ascii (value : Nat) : Ascii (naturalText value) := by
  unfold naturalText
  split
  · exact ascii_cons (by decide) ascii_nil
  · intro code member
    obtain ⟨digit, inside, same⟩ := List.mem_map.mp member
    have small := Nat.digits_lt_base (by decide : 1 < 10) (List.mem_reverse.mp inside)
    subst same
    simp only [point, Fin.val_ofNat]
    omega

theorem intText_ascii (value : Int) : Ascii (intText value) := by
  cases value with
  | ofNat value => exact naturalText_ascii value
  | negSucc value => exact ascii_cons (by decide) (naturalText_ascii _)

theorem joined_ascii (separator : CodePoint) (small : separator.val < 0x80) (texts : List Str)
    (ascii : ∀ text ∈ texts, Ascii text) : Ascii (joined separator texts) := by
  induction texts with
  | nil => exact ascii_nil
  | cons first rest ih =>
      have tail := ih fun text member => ascii text (List.mem_cons_of_mem _ member)
      cases rest with
      | nil => exact ascii first List.mem_cons_self
      | cons second rest => exact ascii_append (ascii first List.mem_cons_self) (ascii_cons small tail)

mutual
theorem valueText_ascii : (value : Json) → Ascii (valueText value)
  | .null => lit_ascii (by decide)
  | .bool value => by cases value <;> exact lit_ascii (by decide)
  | .int value => intText_ascii value
  | .float lexeme => by
      intro code member
      rw [valueText] at member
      exact of_decide_eq_true (List.mem_filter.mp member).2
  | .str value => stringText_ascii value
  | .array items => by
      rw [valueText]
      exact ascii_cons (by decide)
        (ascii_append (joined_ascii _ (by decide) _ (itemTexts_ascii items))
          (ascii_cons (by decide) ascii_nil))
  | .object fields => by
      rw [valueText]
      refine ascii_cons (by decide)
        (ascii_append (joined_ascii _ (by decide) _ ?_) (ascii_cons (by decide) ascii_nil))
      intro text member
      obtain ⟨field, sorted, same⟩ := List.mem_map.mp member
      have inside := (List.perm_insertionSort _ _).mem_iff.mp sorted
      subst same
      exact ascii_append (stringText_ascii _) (ascii_cons (by decide) (fieldTexts_ascii fields _ inside))

theorem itemTexts_ascii : (items : List Json) → ∀ text ∈ itemTexts items, Ascii text
  | [] => by simp [itemTexts]
  | item :: rest => by
      intro text member
      rw [itemTexts] at member
      rcases List.mem_cons.mp member with same | tail
      · exact same ▸ valueText_ascii item
      · exact itemTexts_ascii rest text tail

theorem fieldTexts_ascii : (fields : List (Str × Json)) →
    ∀ field ∈ fieldTexts fields, Ascii field.2
  | [] => by simp [fieldTexts]
  | (key, value) :: rest => by
      intro field member
      rw [fieldTexts] at member
      rcases List.mem_cons.mp member with same | tail
      · exact same ▸ valueText_ascii value
      · exact fieldTexts_ascii rest field tail
end

/-! What is written is read back. -/
theorem hexValue_hexDigit (value : Nat) : hexValue (hexDigit value) = some (value % 16) := by
  have small := Nat.mod_lt value (show 0 < 16 by decide)
  unfold hexDigit hexValue point
  split
  · simp only [Fin.val_ofNat]
    rw [if_pos (by omega)]
    congr 1
    omega
  · simp only [Fin.val_ofNat]
    rw [if_neg (by omega), if_pos (by omega)]
    congr 1
    omega

theorem readUnit_digits (unit : Nat) (small : unit < 0x10000) (rest : Str) :
    readUnit (hexDigit (unit / 4096) :: hexDigit (unit / 256) :: hexDigit (unit / 16) ::
      hexDigit unit :: rest) = .ok (unit, rest) := by
  simp only [readUnit, hexValue_hexDigit]
  congr 2
  omega

theorem readEscape_unit (unit : Nat) (small : unit < 0x10000) (rest : Str)
    (single : unit < 0xD800 ∨ 0xDC00 ≤ unit) :
    readEscape (0x75 :: hexDigit (unit / 4096) :: hexDigit (unit / 256) :: hexDigit (unit / 16) ::
      hexDigit unit :: rest) = .ok (point unit, rest) := by
  rw [readEscape, if_pos (by decide), readUnicode, readUnit_digits unit small rest]
  simp only [bind, Except.bind]
  rw [if_neg (by omega)]

theorem readEscape_pair (high low : Nat) (isHigh : 0xD800 ≤ high ∧ high < 0xDC00)
    (isLow : 0xDC00 ≤ low ∧ low < 0xE000) (rest : Str) :
    readEscape ((unicodeEscape high).tail ++ (unicodeEscape low ++ rest)) =
      .ok (point (0x10000 + (high - 0xD800) * 1024 + (low - 0xDC00)), rest) := by
  simp only [unicodeEscape, List.tail_cons, List.cons_append, List.nil_append]
  rw [readEscape, if_pos (by decide), readUnicode, readUnit_digits high (by omega)]
  simp only [bind, Except.bind]
  rw [if_pos isHigh, if_pos (by decide), readUnit_digits low (by omega)]
  simp only
  rw [if_pos isLow]

theorem readEscape_alone {unit : Nat} (high : 0xD800 ≤ unit ∧ unit < 0xDC00) {rest : Str}
    (apart : ∀ tail, rest = 0x5C :: 0x75 :: tail →
      ∃ next left, readUnit tail = .ok (next, left) ∧ ¬(0xDC00 ≤ next ∧ next < 0xE000)) :
    readEscape ((unicodeEscape unit).tail ++ rest) = .ok (point unit, rest) := by
  simp only [unicodeEscape, List.tail_cons, List.cons_append, List.nil_append]
  rw [readEscape, if_pos (by decide), readUnicode, readUnit_digits unit (by omega)]
  simp only [bind, Except.bind]
  rw [if_pos high]
  match rest, apart with
  | [], _ => rfl
  | [_], _ => rfl
  | slash :: mark :: tail, apart =>
      dsimp only
      split
      · rename_i escape
        have slashIs : slash = 0x5C := Fin.ext escape.1
        have markIs : mark = 0x75 := Fin.ext escape.2
        obtain ⟨next, left, read, notLow⟩ := apart tail (by rw [slashIs, markIs])
        rw [read]
        dsimp only
        rw [if_neg notLow]
      · rfl

theorem escapePoint_surrogate {code : CodePoint} (surrogate : 0xD800 ≤ code.val ∧ code.val < 0xE000) :
    escapePoint code = unicodeEscape code.val := by
  unfold escapePoint
  rw [if_neg (by omega), if_neg (by omega), if_neg (by omega), if_neg (by omega), if_neg (by omega),
    if_neg (by omega), if_neg (by omega), if_neg (by omega), if_pos (by omega)]

/-- What is written for a code point does not begin with an escaped low surrogate, unless it is one. -/
theorem escapePoint_apart {code : CodePoint} (notLow : ¬Low code) {rest tail : Str}
    (starts : escapePoint code ++ rest = 0x5C :: 0x75 :: tail) :
    ∃ next left, readUnit tail = .ok (next, left) ∧ ¬(0xDC00 ≤ next ∧ next < 0xE000) := by
  have bound := code.isLt
  unfold escapePoint at starts
  split at starts
  · simp at starts
  split at starts
  · simp at starts
  split at starts
  · simp at starts
  split at starts
  · simp at starts
  split at starts
  · simp at starts
  split at starts
  · simp at starts
  split at starts
  · simp at starts
  split at starts
  · rename_i backslash _ _ _ _ _ _
    cases (List.cons.inj starts).1
    exact absurd rfl backslash
  split at starts
  · rename_i small
    have digits := (List.cons.inj (List.cons.inj starts).2).2
    rw [← digits]
    exact ⟨_, _, readUnit_digits code.val small rest, notLow⟩
  · have digits := (List.cons.inj (List.cons.inj starts).2).2
    rw [← digits]
    exact ⟨_, _, readUnit_digits (0xD800 + (code.val - 0x10000) / 1024) (by omega) _, by omega⟩

theorem readString_step (fuel : Nat) (code first : CodePoint) (rest left : Str)
    (inside : code.val ≠ 0x22) (character : readCharacter code rest = .ok (first, left)) :
    readString (fuel + 1) (code :: rest) = (do
      let (more, rest) ← readString fuel left
      .ok (first :: more, rest)) := by
  rw [readString, if_neg inside, character]
  rfl

theorem readCharacter_plain (code : CodePoint) (rest : Str) (printable : 0x20 ≤ code.val)
    (unescaped : code.val ≠ 0x5C) : readCharacter code rest = .ok (code, rest) := by
  rw [readCharacter, if_neg unescaped, if_neg (by omega)]

theorem readCharacter_escape (rest : Str) : readCharacter 0x5C rest = readEscape rest := rfl

theorem readEscape_simple (mark code : CodePoint) (rest : Str) (simple : mark.val ≠ 0x75)
    (means : simpleEscape mark = some code) : readEscape (mark :: rest) = .ok (code, rest) := by
  rw [readEscape, if_neg simple, means]

theorem escaped_pair_value (value : Nat) (astral : 0x10000 ≤ value) (bound : value < 0x110000) :
    0x10000 + (0xD800 + (value - 0x10000) / 1024 - 0xD800) * 1024 +
      (0xDC00 + (value - 0x10000) % 1024 - 0xDC00) = value := by
  omega

/-- Each escape reads back as its own character and no more. -/
theorem readString_escapePoint (fuel : Nat) (code : CodePoint) (unpaired : Unpaired code) (rest : Str) :
    readString (fuel + 1) (escapePoint code ++ rest) = (do
      let (more, rest) ← readString fuel rest
      .ok (code :: more, rest)) := by
  have bound := code.isLt
  have asPoint : ∀ value : Nat, code.val = value → code = point value := by
    intro value same
    rw [← same, point_val]
  unfold escapePoint
  split
  · rename_i same
    rw [asPoint _ same]
    exact readString_step fuel 0x5C _ _ rest (by decide)
      (readEscape_simple 0x22 0x22 rest (by decide) rfl)
  split
  · rename_i same
    rw [asPoint _ same]
    exact readString_step fuel 0x5C _ _ rest (by decide)
      (readEscape_simple 0x5C 0x5C rest (by decide) rfl)
  split
  · rename_i same
    rw [asPoint _ same]
    exact readString_step fuel 0x5C _ _ rest (by decide)
      (readEscape_simple 0x62 8 rest (by decide) rfl)
  split
  · rename_i same
    rw [asPoint _ same]
    exact readString_step fuel 0x5C _ _ rest (by decide)
      (readEscape_simple 0x74 9 rest (by decide) rfl)
  split
  · rename_i same
    rw [asPoint _ same]
    exact readString_step fuel 0x5C _ _ rest (by decide)
      (readEscape_simple 0x6E 10 rest (by decide) rfl)
  split
  · rename_i same
    rw [asPoint _ same]
    exact readString_step fuel 0x5C _ _ rest (by decide)
      (readEscape_simple 0x66 12 rest (by decide) rfl)
  split
  · rename_i same
    rw [asPoint _ same]
    exact readString_step fuel 0x5C _ _ rest (by decide)
      (readEscape_simple 0x72 13 rest (by decide) rfl)
  split
  · rename_i printable
    exact readString_step fuel _ _ _ _ (by assumption)
      (readCharacter_plain code rest printable.1 (by assumption))
  split
  · rename_i small
    have read := readEscape_unit code.val small rest unpaired
    rw [point_val] at read
    exact readString_step fuel _ _ _ _ (by decide) read
  · have read := readEscape_pair (0xD800 + (code.val - 0x10000) / 1024)
      (0xDC00 + (code.val - 0x10000) % 1024) (by omega) (by omega) rest
    rw [escaped_pair_value code.val (by omega) bound, point_val] at read
    rw [List.append_assoc]
    exact readString_step fuel _ _ _ _ (by decide) read

theorem joinPairs_length (text : Str) : (joinPairs text).length ≤ text.length := by
  fun_induction joinPairs text with
  | case1 high low rest pair ih =>
      simp only [List.length_cons]
      omega
  | case2 high low rest apart ih => simpa using ih
  | case3 text => exact le_rfl

theorem joinPairs_eq_iff {text : Str} : joinPairs text = text ↔ NoPair text := by
  unfold NoPair
  fun_induction joinPairs text with
  | case1 high low rest pair ih =>
      have shorter := joinPairs_length rest
      refine iff_of_false (fun same => ?_) fun chain => (List.isChain_cons_cons.mp chain).1 pair
      have lengths := congrArg List.length same
      simp only [List.length_cons] at lengths
      omega
  | case2 high low rest apart ih =>
      rw [List.cons_inj_right, ih, List.isChain_cons_cons]
      exact (and_iff_right apart).symm
  | case3 text short =>
      refine iff_of_true rfl ?_
      match text with
      | [] => exact .nil
      | [code] => exact .singleton code
      | high :: low :: rest => exact (short high low rest rfl).elim

theorem noPair_unpaired {text : Str} (unpaired : ∀ code ∈ text, Unpaired code) : NoPair text := by
  have apart : text.Pairwise fun first second => ¬(High first ∧ Low second) := by
    refine List.Pairwise.imp_of_mem ?_ (List.pairwise_of_forall fun _ _ => trivial)
    intro first second member _ _ pair
    have free := unpaired first member
    have high := pair.1
    unfold Unpaired at free
    unfold High at high
    omega
  exact apart.isChain

/-- A high surrogate on its own is read as itself. -/
theorem readString_high {high : CodePoint} (isHigh : High high) (fuel : Nat) (rest : Str)
    (apart : ∀ tail, rest = 0x5C :: 0x75 :: tail →
      ∃ next left, readUnit tail = .ok (next, left) ∧ ¬(0xDC00 ≤ next ∧ next < 0xE000)) :
    readString (fuel + 1) (escapePoint high ++ rest) = (do
      let (more, rest) ← readString fuel rest
      .ok (high :: more, rest)) := by
  have read := readEscape_alone isHigh apart
  rw [point_val] at read
  have surrogate : 0xD800 ≤ high.val ∧ high.val < 0xE000 := by
    unfold High at isHigh
    omega
  rw [escapePoint_surrogate surrogate]
  exact readString_step fuel _ _ _ _ (by decide) read

theorem readString_pair {high low : CodePoint} (isHigh : High high) (isLow : Low low) (fuel : Nat)
    (rest : Str) : readString (fuel + 1) (escapePoint high ++ (escapePoint low ++ rest)) = (do
      let (more, rest) ← readString fuel rest
      .ok (pairPoint high low :: more, rest)) := by
  have read := readEscape_pair high.val low.val isHigh isLow rest
  have surrogates : (0xD800 ≤ high.val ∧ high.val < 0xE000) ∧ 0xD800 ≤ low.val ∧ low.val < 0xE000 := by
    unfold High at isHigh
    unfold Low at isLow
    omega
  rw [escapePoint_surrogate surrogates.1, escapePoint_surrogate surrogates.2]
  exact readString_step fuel _ _ _ _ (by decide) read

/-- Whatever the text of a string, it is read back with its pairs joined. -/
theorem readString_joined (value rest : Str) (fuel : Nat) (enough : value.length < fuel) :
    readString fuel (value.flatMap escapePoint ++ 0x22 :: rest) = .ok (joinPairs value, rest) := by
  induction value using joinPairs.induct generalizing fuel with
  | case1 high low others pair ih =>
      obtain ⟨fuel, rfl⟩ : ∃ more, fuel = more + 1 := ⟨fuel - 1, by omega⟩
      have tail := ih fuel (by simp only [List.length_cons] at enough; omega)
      rw [List.flatMap_cons, List.flatMap_cons, List.append_assoc, List.append_assoc,
        readString_pair pair.1 pair.2, tail, joinPairs, if_pos pair]
      rfl
  | case2 high low others apart ih =>
      obtain ⟨fuel, rfl⟩ : ∃ more, fuel = more + 1 := ⟨fuel - 1, by omega⟩
      have tail := ih fuel (by simpa using enough)
      rw [List.flatMap_cons, List.append_assoc, joinPairs, if_neg apart]
      by_cases isHigh : High high
      · have next : ¬Low low := fun isLow => apart ⟨isHigh, isLow⟩
        rw [readString_high isHigh, tail]
        · rfl
        · intro after starts
          rw [List.flatMap_cons, List.append_assoc] at starts
          exact escapePoint_apart next starts
      · have unpaired : Unpaired high := by
          unfold Unpaired
          unfold High at isHigh
          omega
        rw [readString_escapePoint fuel high unpaired, tail]
        rfl
  | case3 text short =>
      obtain ⟨fuel, rfl⟩ : ∃ more, fuel = more + 1 := ⟨fuel - 1, by omega⟩
      match text with
      | [] => rfl
      | [code] =>
          obtain ⟨fuel, rfl⟩ : ∃ more, fuel = more + 1 := ⟨fuel - 1, by simp at enough; omega⟩
          rw [List.flatMap_cons, List.append_assoc]
          by_cases isHigh : High code
          · rw [readString_high isHigh]
            · rfl
            · intro tail starts
              cases (List.cons.inj starts).1
          · have unpaired : Unpaired code := by
              unfold Unpaired
              unfold High at isHigh
              omega
            rw [readString_escapePoint _ code unpaired]
            rfl
      | high :: low :: rest => exact (short high low rest rfl).elim
theorem escapePoint_nonempty (code : CodePoint) : 1 ≤ (escapePoint code).length := by
  unfold escapePoint
  repeat' split
  all_goals simp [unicodeEscape]

theorem length_body (value : Str) : value.length ≤ (value.flatMap escapePoint).length := by
  induction value with
  | nil => simp
  | cons code rest ih =>
      have one := escapePoint_nonempty code
      simp only [List.flatMap_cons, List.length_append, List.length_cons]
      omega

theorem readString_printed (value rest : Str) :
    readString ((value.flatMap escapePoint ++ 0x22 :: rest).length + 1)
      (value.flatMap escapePoint ++ 0x22 :: rest) = .ok (joinPairs value, rest) := by
  refine readString_joined value rest _ ?_
  have body := length_body value
  simp only [List.length_append, List.length_cons]
  omega

theorem readString_text (value rest : Str) (unpaired : ∀ code ∈ value, Unpaired code) :
    readString ((value.flatMap escapePoint ++ 0x22 :: rest).length + 1)
      (value.flatMap escapePoint ++ 0x22 :: rest) = .ok (value, rest) := by
  rw [readString_printed, joinPairs_eq_iff.mpr (noPair_unpaired unpaired)]

/-- What may follow a number: nothing that would continue it. -/
def Stops : Str → Prop
  | [] => True
  | code :: _ => isDigit code = false ∧ code.val ≠ 0x2E ∧ code.val ≠ 0x65 ∧ code.val ≠ 0x45

theorem readFraction_stops {rest : Str} (stops : Stops rest) : readFraction rest = ([], rest) := by
  cases rest with
  | nil => rfl
  | cons code rest =>
      rw [readFraction]
      exact if_neg fun both => stops.2.1 both.1

theorem readExponent_stops {rest : Str} (stops : Stops rest) : readExponent rest = ([], rest) := by
  cases rest with
  | nil => rfl
  | cons code rest =>
      rw [readExponent]
      exact if_neg fun both => both.1.elim stops.2.2.1 stops.2.2.2

theorem takeWhile_stops {rest : Str} (stops : Stops rest) : rest.takeWhile isDigit = [] := by
  cases rest with
  | nil => rfl
  | cons code rest => simp [stops.1]

theorem digit_val {digit : Nat} (small : digit < 10) : (point (48 + digit)).val = 48 + digit := by
  simp only [point, Fin.val_ofNat]
  omega

theorem digitsValue_reverse (digits : List Nat) (small : ∀ digit ∈ digits, digit < 10) :
    digitsValue (digits.reverse.map fun digit => point (48 + digit)) = Nat.ofDigits 10 digits := by
  induction digits with
  | nil => rfl
  | cons digit rest ih =>
      have tail := ih fun digit member => small digit (List.mem_cons_of_mem _ member)
      rw [digitsValue] at tail ⊢
      rw [List.reverse_cons, List.map_append, List.foldl_append, tail, Nat.ofDigits_cons]
      simp only [List.map_cons, List.map_nil, List.foldl_cons, List.foldl_nil,
        digit_val (small digit List.mem_cons_self)]
      omega

theorem naturalText_value (value : Nat) : digitsValue (naturalText value) = value := by
  unfold naturalText
  split
  · rename_i zero
    rw [zero]
    rfl
  · rw [digitsValue_reverse _ fun _ member => Nat.digits_lt_base (by decide) member,
      Nat.ofDigits_digits]

theorem naturalText_isDigit (value : Nat) : ∀ code ∈ naturalText value, isDigit code = true := by
  unfold naturalText
  split
  · intro code member
    rw [List.mem_singleton.mp member]
    rfl
  · intro code member
    obtain ⟨digit, inside, same⟩ := List.mem_map.mp member
    have small := Nat.digits_lt_base (by decide : 1 < 10) (List.mem_reverse.mp inside)
    rw [← same, isDigit, digit_val small]
    simp only [Bool.and_eq_true, decide_eq_true_eq]
    omega

/-- A leading zero stands alone. -/
theorem naturalText_cases (value : Nat) : naturalText value = [48] ∨
    ∃ first rest, naturalText value = first :: rest ∧ first.val ≠ 48 := by
  unfold naturalText
  split
  · exact .inl rfl
  · rename_i positive
    right
    have nonempty : Nat.digits 10 value ≠ [] := Nat.digits_ne_nil_iff_ne_zero.mpr positive
    have last := Nat.getLast_digit_ne_zero 10 positive
    have small := Nat.digits_lt_base (by decide : 1 < 10) (List.getLast_mem nonempty)
    rw [← List.dropLast_append_getLast nonempty, List.reverse_append]
    refine ⟨_, _, rfl, ?_⟩
    rw [digit_val small]
    omega

theorem readMagnitude_natural (negative : Bool) (value : Nat) (rest : Str) (stops : Stops rest) :
    readMagnitude negative (naturalText value ++ rest) =
      .ok (.int (if negative then -(value : Int) else value), rest) := by
  have allDigits := naturalText_isDigit value
  have number := naturalText_value value
  rcases naturalText_cases value with zero | ⟨first, digits, text, nonzero⟩
  · have lead : (48 : CodePoint).val = 48 := rfl
    rw [zero] at number ⊢
    rw [List.singleton_append, readMagnitude, if_neg (by decide), if_pos lead]
    simp only [List.length_singleton, List.drop_one, List.tail_cons, readFraction_stops stops,
      readExponent_stops stops, number, and_self, if_true]
  · rw [text] at allDigits number ⊢
    have digit := allDigits first List.mem_cons_self
    have whole : digits ++ rest.takeWhile isDigit = digits := by
      rw [takeWhile_stops stops, List.append_nil]
    rw [List.cons_append, readMagnitude, if_neg (by simp [digit]), if_neg nonzero,
      List.takeWhile_append_of_pos fun code member => allDigits code (List.mem_cons_of_mem _ member),
      whole]
    simp only [List.length_cons, List.drop_succ_cons, List.drop_left, readFraction_stops stops,
      readExponent_stops stops, number, and_self, if_true]

theorem naturalText_head (value : Nat) :
    ∃ first rest, naturalText value = first :: rest ∧ isDigit first = true := by
  have allDigits := naturalText_isDigit value
  rcases naturalText_cases value with zero | ⟨first, rest, text, -⟩
  · exact ⟨48, [], zero, rfl⟩
  · exact ⟨first, rest, text, allDigits first (text ▸ List.mem_cons_self)⟩

theorem readWord_digit {word : Str} {value : Json} {first : CodePoint} {rest : Str}
    (letter : word.head?.any (fun code => !isDigit code) = true) (digit : isDigit first = true) :
    readWord word value (first :: rest) = none := by
  cases word with
  | nil => simp at letter
  | cons head tail =>
      have differs : head ≠ first := by
        rintro rfl
        simp [digit] at letter
      simp [readWord, differs]

theorem readAtom_digit {first : CodePoint} {rest : Str} (digit : isDigit first = true) :
    readAtom (first :: rest) = readMagnitude false (first :: rest) := by
  rw [readAtom, readWord_digit rfl digit, readWord_digit rfl digit, readWord_digit rfl digit,
    readWord_digit rfl digit, readWord_digit rfl digit, readWord_digit rfl digit]
  have unsigned : first.val ≠ 0x2D := by
    intro same
    simp [isDigit, same] at digit
  simp only
  rw [if_neg unsigned]

theorem readAtom_minus {first : CodePoint} {rest : Str} (digit : isDigit first = true) :
    readAtom (0x2D :: first :: rest) = readMagnitude true (first :: rest) := by
  have notInfinite : readWord (lit "-Infinity") (.float (lit "-Infinity")) (0x2D :: first :: rest) =
      none := by
    have spelled : lit "-Infinity" = 0x2D :: 0x49 :: lit "nfinity" := rfl
    have differs : (0x49 : CodePoint) ≠ first := by
      rintro rfl
      exact absurd digit (by decide)
    rw [readWord, spelled]
    simp [differs]
  rw [readAtom, notInfinite]
  rfl

theorem readAtom_natural (value : Nat) (rest : Str) (stops : Stops rest) :
    readAtom (naturalText value ++ rest) = .ok (.int value, rest) := by
  have read := readMagnitude_natural false value rest stops
  obtain ⟨first, digits, text, digit⟩ := naturalText_head value
  rw [text, List.cons_append] at read ⊢
  rw [readAtom_digit digit, read]
  simp

theorem readAtom_negative (value : Nat) (rest : Str) (stops : Stops rest) :
    readAtom (0x2D :: naturalText value ++ rest) = .ok (.int (-(value : Int)), rest) := by
  have read := readMagnitude_natural true value rest stops
  obtain ⟨first, digits, text, digit⟩ := naturalText_head value
  rw [text] at read ⊢
  rw [List.cons_append, List.cons_append, readAtom_minus digit]
  exact read

theorem readAtom_null (rest : Str) : readAtom (lit "null" ++ rest) = .ok (.null, rest) := rfl

theorem skipSpace_cons {code : CodePoint} {rest : Str} (visible : isJsonSpace code = false) :
    skipSpace (code :: rest) = code :: rest := by
  simp [skipSpace, visible]

theorem digit_visible {code : CodePoint} (digit : isDigit code = true) :
    isJsonSpace code = false ∧ code.val ≠ 0x22 ∧ code.val ≠ 0x7B ∧ code.val ≠ 0x5B := by
  simp only [isDigit, Bool.and_eq_true, decide_eq_true_eq] at digit
  simp only [isJsonSpace, Bool.or_eq_false_iff, beq_eq_false_iff_ne]
  omega

theorem readValue_atom {fuel : Nat} {first : CodePoint} {rest : Str} (string : first.val ≠ 0x22)
    (object : first.val ≠ 0x7B) (array : first.val ≠ 0x5B) :
    readValue (fuel + 1) (first :: rest) = readAtom (first :: rest) := by
  rw [readValue, if_neg string, if_neg object, if_neg array]

theorem readValue_natural (value fuel : Nat) (rest : Str) (stops : Stops rest) :
    readValue (fuel + 1) (naturalText value ++ rest) = .ok (.int value, rest) := by
  have read := readAtom_natural value rest stops
  obtain ⟨first, digits, text, digit⟩ := naturalText_head value
  obtain ⟨-, string, object, array⟩ := digit_visible digit
  rw [text, List.cons_append] at read ⊢
  rw [readValue_atom string object array, read]

/-- A flat value is read back up to the separator that follows it. -/
theorem readValue_flat (value : Json) (flat : Flat value) (fuel : Nat) (rest : Str)
    (stops : Stops rest) : readValue (fuel + 1) (valueText value ++ rest) = .ok (value.readBack, rest) := by
  cases value with
  | null =>
      rw [valueText]
      exact readAtom_null rest
  | int value =>
      rw [valueText]
      cases value with
      | ofNat value => exact readValue_natural value fuel rest stops
      | negSucc value =>
          exact (readValue_atom (by decide) (by decide) (by decide)).trans
            (readAtom_negative (value + 1) rest stops)
  | str value =>
      rw [valueText, stringText, List.cons_append, List.append_assoc, readValue,
        if_pos (by decide)]
      exact congrArg (· >>= _) (readString_printed value rest)
  | bool value => exact flat.elim
  | float lexeme => exact flat.elim
  | array items => exact flat.elim
  | object fields => exact flat.elim

theorem valueText_head (value : Json) (flat : Flat value) :
    ∃ first rest, valueText value = first :: rest ∧ isJsonSpace first = false := by
  cases value with
  | null => exact ⟨_, _, by rw [valueText]; rfl, rfl⟩
  | int value =>
      rw [valueText]
      cases value with
      | ofNat value =>
          obtain ⟨first, rest, text, digit⟩ := naturalText_head value
          exact ⟨first, rest, text, (digit_visible digit).1⟩
      | negSucc value => exact ⟨_, _, rfl, rfl⟩
  | str value => exact ⟨_, _, by rw [valueText]; rfl, rfl⟩
  | bool value => exact flat.elim
  | float lexeme => exact flat.elim
  | array items => exact flat.elim
  | object fields => exact flat.elim

def readField (field : Str × Json) : Str × Json := (field.1, field.2.readBack)

def printField (field : Str × Json) : Str := fieldText (field.1, valueText field.2)

theorem skipSpace_value (value : Json) (flat : Flat value) (rest : Str) :
    skipSpace (valueText value ++ rest) = valueText value ++ rest := by
  obtain ⟨first, tail, text, visible⟩ := valueText_head value flat
  rw [text, List.cons_append, skipSpace_cons visible]

/-- Reading a field leaves the separator after it to be looked at. -/
theorem readFields_field (fuel : Nat) (field : Str × Json) (scalar : ScalarText field.1)
    (flat : Flat field.2) (separator : CodePoint) (rest : Str)
    (closing : separator.val = 0x7D ∨ separator.val = 0x2C) :
    readFields (fuel + 2) (printField field ++ separator :: rest) =
      if separator.val = 0x7D then .ok ([readField field], rest)
      else (do
        let (fields, rest) ← readFields (fuel + 1) (skipSpace rest)
        .ok (if (lookup field.1 fields).isSome then fields else readField field :: fields, rest)) := by
  have stops : Stops (separator :: rest) := by
    simp only [Stops, isDigit, Bool.and_eq_false_iff, decide_eq_false_iff_not]
    omega
  have visible : isJsonSpace separator = false := by
    simp only [isJsonSpace, Bool.or_eq_false_iff, beq_eq_false_iff_ne]
    omega
  have key := readString_text field.1 (0x3A :: (valueText field.2 ++ separator :: rest))
    fun code member => (scalar code member).unpaired
  have value := readValue_flat field.2 flat fuel (separator :: rest) stops
  have colon : isJsonSpace 0x3A = false := rfl
  simp only [printField, fieldText, stringText, List.cons_append, List.append_assoc,
    List.nil_append]
  rw [readFields, if_neg (by decide), key]
  simp only [bind, Except.bind, skipSpace_cons colon]
  rw [if_neg (by decide), skipSpace_value field.2 flat, value]
  simp only [skipSpace_cons visible]
  rcases closing with brace | comma
  · rw [if_pos brace, if_pos brace]
    rfl
  · have notClosed : separator.val ≠ 0x7D := by omega
    rw [if_neg notClosed, if_pos comma, if_neg notClosed]
    rfl

theorem readFields_printed (fields : List (Str × Json)) (flat : FlatFields fields)
    (nonempty : fields ≠ []) (fuel : Nat) (enough : fields.length < fuel) (rest : Str) :
    readFields fuel (joined 0x2C (fields.map printField) ++ 0x7D :: rest) = .ok (fields.map readField, rest) := by
  induction fields generalizing fuel with
  | nil => exact absurd rfl nonempty
  | cons field others ih =>
      obtain ⟨fuel, rfl⟩ : ∃ more, fuel = more + 2 := ⟨fuel - 2, by simp at enough; omega⟩
      obtain ⟨distinct, allFlat⟩ := flat
      have first := allFlat field List.mem_cons_self
      cases others with
      | nil =>
          have read := readFields_field fuel field first.1 first.2 0x7D rest (.inl rfl)
          have brace : (0x7D : CodePoint).val = 0x7D := rfl
          rw [if_pos brace] at read
          simpa [joined] using read
      | cons second others =>
          have tailFlat : FlatFields (second :: others) :=
            ⟨(List.nodup_cons.mp distinct).2,
              fun field member => allFlat field (List.mem_cons_of_mem _ member)⟩
          have tail := ih tailFlat (by simp) (fuel + 1) (by simpa using enough)
          have absent : lookup field.1 ((second :: others).map readField) = none := by
            have fresh := (List.nodup_cons.mp distinct).1
            rw [lookup, List.lookup_eq_none_iff]
            intro other member
            obtain ⟨source, there, rfl⟩ := List.mem_map.mp member
            rw [bne_iff_ne]
            intro same
            exact fresh (List.mem_map.mpr ⟨source, there, same.symm⟩)
          have step := readFields_field fuel field first.1 first.2 0x2C
            (joined 0x2C ((second :: others).map printField) ++ 0x7D :: rest) (.inr rfl)
          have visible : skipSpace (joined 0x2C ((second :: others).map printField) ++ 0x7D :: rest) =
              joined 0x2C ((second :: others).map printField) ++ 0x7D :: rest := by
            cases others <;> rfl
          have comma : ¬(0x2C : CodePoint).val = 0x7D := by decide
          rw [if_neg comma, visible, tail] at step
          simp only [bind, Except.bind, absent, Option.isSome_none] at step
          simpa [joined] using step

theorem fieldTexts_eq (fields : List (Str × Json)) :
    fieldTexts fields = fields.map fun field => (field.1, valueText field.2) := by
  induction fields with
  | nil => rfl
  | cons field rest ih =>
      rw [fieldTexts, ih]
      rfl

theorem sortFields_fieldTexts (fields : List (Str × Json)) :
    (sortFields (fieldTexts fields)).map fieldText = (sortFields fields).map printField := by
  have sorted := List.map_insertionSort (fun left right : Str × Json => keyLe left.1 right.1 = true)
    (fun left right : Str × Str => keyLe left.1 right.1 = true)
    (fun field => (field.1, valueText field.2)) fields fun _ _ _ _ => Iff.rfl
  rw [fieldTexts_eq, sortFields, ← sorted, List.map_map]
  rfl

theorem lookup_perm {left right : List (Str × Json)} (same : left.Perm right)
    (distinct : (left.map Prod.fst).Nodup) (key : Str) : lookup key left = lookup key right := by
  induction same with
  | nil => rfl
  | cons field _ ih =>
      have tail := ih (List.nodup_cons.mp distinct).2
      rcases field with ⟨name, value⟩
      simp only [lookup] at tail
      simp only [lookup, List.lookup_cons, tail]
  | swap first second rest =>
      rcases first with ⟨first, firstValue⟩
      rcases second with ⟨second, secondValue⟩
      have differs : second ≠ first := by
        rintro rfl
        simp at distinct
      simp only [lookup, List.lookup_cons]
      by_cases hit : key = second
      · have miss : key ≠ first := fun other => differs (hit.symm.trans other)
        rw [beq_eq_false_iff_ne.mpr miss]
      · rw [beq_eq_false_iff_ne.mpr hit]
  | trans one _ ihOne ihTwo =>
      exact (ihOne distinct).trans (ihTwo ((one.map Prod.fst).nodup_iff.mp distinct))

theorem joined_length (separator : CodePoint) (texts : List Str) (nonempty : ∀ text ∈ texts, text ≠ []) :
    texts.length ≤ (joined separator texts).length := by
  induction texts with
  | nil => simp
  | cons first rest ih =>
      have tail := ih fun text member => nonempty text (List.mem_cons_of_mem _ member)
      have one := List.length_pos_of_ne_nil (nonempty first List.mem_cons_self)
      cases rest with
      | nil => exact one
      | cons second rest =>
          simp only [joined, List.length_append, List.length_cons] at tail ⊢
          omega

/-- A written object is read in front of white space. -/
theorem readDocument_spaced (fields : List (Str × Json)) (flat : FlatFields fields) {trailing : Str}
    (space : skipSpace trailing = []) : readDocument (valueText (.object fields) ++ trailing) =
      .ok (.object ((sortFields fields).map readField)) := by
  have permuted : (sortFields fields).Perm fields := List.perm_insertionSort _ _
  have sortedFlat : FlatFields (sortFields fields) :=
    ⟨(permuted.map Prod.fst).nodup_iff.mpr flat.1,
      fun field member => flat.2 field (permuted.mem_iff.mp member)⟩
  rw [valueText, sortFields_fieldTexts, List.cons_append, readDocument, skipSpace_cons rfl, readValue,
    if_neg (by decide), if_pos (by decide), List.append_assoc]
  generalize sortFields fields = sorted at sortedFlat
  cases sorted with
  | nil =>
      have brace : skipSpace (0x7D :: trailing) = 0x7D :: trailing := skipSpace_cons rfl
      have closes : (0x7D : CodePoint).val = 0x7D := rfl
      simp only [List.map_nil, joined, List.nil_append, List.singleton_append, brace, if_pos closes, bind,
        Except.bind, if_pos space]
  | cons field rest =>
      have printed : ∀ text ∈ (field :: rest).map printField, text ≠ [] := by
        intro text member
        obtain ⟨source, -, same⟩ := List.mem_map.mp member
        rw [← same]
        exact List.cons_ne_nil _ _
      have long := joined_length 0x2C _ printed
      have read := readFields_printed (field :: rest) sortedFlat (by simp)
        ((0x7B :: (joined 0x2C ((field :: rest).map printField) ++ ([0x7D] ++ trailing))).length)
        (by simp only [List.length_cons, List.length_append, List.length_map] at long ⊢; omega) trailing
      have opened : ∃ tail, joined 0x2C ((field :: rest).map printField) ++ 0x7D :: trailing =
          0x22 :: tail := by
        cases rest <;> exact ⟨_, rfl⟩
      obtain ⟨tail, text⟩ := opened
      have visible : isJsonSpace 0x22 = false := rfl
      have notBrace : ¬(0x22 : CodePoint).val = 0x7D := by decide
      rw [List.singleton_append] at read ⊢
      rw [text] at read ⊢
      rw [skipSpace_cons visible]
      simp only [if_neg notBrace, read, bind, Except.bind, if_pos space]

theorem lookup_readField (key : Str) (fields : List (Str × Json)) :
    lookup key (fields.map readField) = (lookup key fields).map Json.readBack := by
  induction fields with
  | nil => rfl
  | cons field rest ih =>
      unfold lookup at ih
      unfold lookup
      rw [List.map_cons, readField, List.lookup_cons, List.lookup_cons, ih]
      split <;> rfl

/-- What `loads` makes of a flat object, also in front of white space. -/
theorem loads_spaced (fields : List (Str × Json)) (flat : FlatFields fields) {trailing : Str}
    (space : skipSpace trailing = []) : ∃ parsed,
    readDocument (valueText (.object fields) ++ trailing) = .ok (.object parsed) ∧
      ∀ key, lookup key parsed = (lookup key fields).map Json.readBack := by
  refine ⟨_, readDocument_spaced fields flat space, fun key => ?_⟩
  have sorted : (sortFields fields).Perm fields := List.perm_insertionSort _ _
  rw [lookup_readField, lookup_perm sorted.symm flat.1 key]

theorem loads_flat (fields : List (Str × Json)) (flat : FlatFields fields) : ∃ parsed,
    readDocument (valueText (.object fields)) = .ok (.object parsed) ∧
      ∀ key, lookup key parsed = (lookup key fields).map Json.readBack := by
  obtain ⟨parsed, read, lookups⟩ := @loads_spaced fields flat [] rfl
  rw [List.append_nil] at read
  exact ⟨parsed, read, lookups⟩

theorem readBack_plain {value : Json} (plain : Plain value) : value.readBack = value := by
  cases value with
  | str value =>
      have unpaired := noPair_unpaired fun code member => (plain code member).unpaired
      rw [Json.readBack, joinPairs_eq_iff.mpr unpaired]
  | null => rfl
  | bool value => rfl
  | int value => rfl
  | float lexeme => rfl
  | array items => rfl
  | object fields => rfl

theorem PlainFields.flat {fields : List (Str × Json)} (plain : PlainFields fields) : FlatFields fields := by
  refine ⟨plain.1, fun field member => ⟨(plain.2 field member).1, ?_⟩⟩
  have value := (plain.2 field member).2
  cases same : field.2 with
  | null | int _ | str _ => trivial
  | bool _ | float _ | array _ | object _ =>
      rw [same] at value
      exact value.elim

theorem lookup_plain {fields : List (Str × Json)} (plain : PlainFields fields) (key : Str) :
    (lookup key fields).map Json.readBack = lookup key fields := by
  cases found : lookup key fields with
  | none => rfl
  | some value =>
      have member : (key, value) ∈ fields := by
        obtain ⟨before, after, same, -⟩ := List.lookup_eq_some_iff.mp found
        simp [same]
      rw [Option.map_some, readBack_plain (plain.2 _ member).2]

/-- The codec of the standard library, on the texts written above. -/
def pythonJson : Codec where
  dumps := valueText
  loads := readDocument
  dumps_ascii := valueText_ascii
  loads_empty := ⟨.decodeError, rfl⟩
  loads_dumps fields plain := by
    obtain ⟨parsed, loaded, lookups⟩ := loads_flat fields plain.flat
    exact ⟨parsed, loaded, fun key => (lookups key).trans (lookup_plain plain key)⟩

def pythonStrings : StringCodec where
  toCodec := pythonJson
  loads_strings := loads_flat

end Python.JsonCodec
