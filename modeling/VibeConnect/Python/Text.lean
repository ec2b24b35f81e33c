import Mathlib.Data.List.Basic
import Mathlib.Data.UInt

/-! Python text and bytes. A `str` is a sequence of code points, lone surrogates
included, so it is not a Lean `String`. `encode` and `decode` follow the strict
UTF-8 codec: a surrogate does not encode, and a malformed, overlong or surrogate
byte sequence does not decode. -/
namespace Python.Text

abbrev CodePoint := Fin 0x110000

instance (priority := 2000) codePoints : NeZero 0x110000 := ⟨by decide⟩

abbrev Str := List CodePoint

instance (priority := 2000) strLawful : LawfulBEq (List CodePoint) := inferInstance

abbrev Bytes := List UInt8

/-- A source literal. -/
def lit (literal : String) : Str :=
  literal.toList.map fun char => Fin.ofNat 0x110000 char.toNat

/-- A Unicode scalar value is a code point outside the surrogate block. -/
def Scalar (point : CodePoint) : Prop := point.val < 0xD800 ∨ 0xE000 ≤ point.val

instance (point : CodePoint) : Decidable (Scalar point) :=
  inferInstanceAs (Decidable (_ ∨ _))

/-- `str.isspace` for one code point. -/
def isSpace (point : CodePoint) : Bool :=
  (9 ≤ point.val && point.val ≤ 13) || (28 ≤ point.val && point.val ≤ 32) ||
    point.val == 0x85 || point.val == 0xA0 || point.val == 0x1680 ||
    (0x2000 ≤ point.val && point.val ≤ 0x200A) || point.val == 0x2028 ||
    point.val == 0x2029 || point.val == 0x202F || point.val == 0x205F || point.val == 0x3000

/-- `str.strip` without an argument. -/
def strip (text : Str) : Str :=
  ((text.dropWhile isSpace).reverse.dropWhile isSpace).reverse

/-! UTF-8. -/
def continuation (bits : Nat) : UInt8 := UInt8.ofNat (0x80 + bits % 64)

def encodePoint (point : CodePoint) : Option Bytes :=
  let code := point.val
  if code < 0x80 then some [UInt8.ofNat code]
  else if code < 0x800 then some [UInt8.ofNat (0xC0 + code / 64), continuation code]
  else if code < 0x10000 then
    if 0xD800 ≤ code ∧ code < 0xE000 then none
    else some [UInt8.ofNat (0xE0 + code / 4096), continuation (code / 64), continuation code]
  else some [UInt8.ofNat (0xF0 + code / 262144), continuation (code / 4096),
    continuation (code / 64), continuation code]

/-- `str.encode("utf-8")`; `none` is the `UnicodeEncodeError`. -/
def encode : Str → Option Bytes
  | [] => some []
  | point :: rest => do
      let head ← encodePoint point
      let tail ← encode rest
      pure (head ++ tail)

def isContinuation (byte : UInt8) : Bool := 0x80 ≤ byte.toNat && byte.toNat < 0xC0

def point (code : Nat) : CodePoint := Fin.ofNat 0x110000 code

/-- `bytes.decode("utf-8")`; `none` is the `UnicodeDecodeError`. -/
def decode : Bytes → Option Str
  | [] => some []
  | lead :: rest =>
      if lead.toNat < 0x80 then (decode rest).map (point lead.toNat :: ·)
      else match rest with
      | [] => none
      | second :: rest =>
          if !isContinuation second then none
          else if 0xC2 ≤ lead.toNat ∧ lead.toNat < 0xE0 then
            (decode rest).map (point ((lead.toNat - 0xC0) * 64 + (second.toNat - 0x80)) :: ·)
          else match rest with
          | [] => none
          | third :: rest =>
              if !isContinuation third then none
              else if 0xE0 ≤ lead.toNat ∧ lead.toNat < 0xF0 then
                let code := (lead.toNat - 0xE0) * 4096 + (second.toNat - 0x80) * 64 +
                  (third.toNat - 0x80)
                if code < 0x800 ∨ (0xD800 ≤ code ∧ code < 0xE000) then none
                else (decode rest).map (point code :: ·)
              else match rest with
              | [] => none
              | fourth :: rest =>
                  if !isContinuation fourth then none
                  else if 0xF0 ≤ lead.toNat ∧ lead.toNat < 0xF5 then
                    let code := (lead.toNat - 0xF0) * 262144 + (second.toNat - 0x80) * 4096 +
                      (third.toNat - 0x80) * 64 + (fourth.toNat - 0x80)
                    if code < 0x10000 ∨ 0x110000 ≤ code then none
                    else (decode rest).map (point code :: ·)
                  else none

/-- The first code point of a text, and the bytes after it. -/
def decodeHead (bytes : Bytes) : Option (CodePoint × Bytes) :=
  [1, 2, 3, 4].findSome? fun length => match decode (bytes.take length) with
    | some [code] => some (code, bytes.drop length)
    | _ => none

/-- `bytes.decode("utf-8", errors="surrogateescape")`. A byte that starts no code
point is kept as a lone surrogate. -/
def decodeEscaped (bytes : Bytes) : Str := go bytes.length bytes
where
  go : Nat → Bytes → Str
    | 0, _ | _, [] => []
    | fuel + 1, byte :: rest => match decodeHead (byte :: rest) with
      | some (code, left) => code :: go fuel left
      | none => point (0xDC00 + byte.toNat) :: go fuel rest

/-- One code point, with a byte for an escaped one. -/
def encodeEscapedPoint (code : CodePoint) : Option Bytes :=
  if 0xDC80 ≤ code.val ∧ code.val < 0xDD00 then some [UInt8.ofNat (code.val - 0xDC00)]
  else encodePoint code

/-- `str.encode("utf-8", errors="surrogateescape")`. -/
def encodeEscaped : Str → Option Bytes
  | [] => some []
  | code :: rest => do
      let head ← encodeEscapedPoint code
      let tail ← encodeEscaped rest
      pure (head ++ tail)

theorem continuation_toNat (bits : Nat) : (continuation bits).toNat = 0x80 + bits % 64 := by
  have small := Nat.mod_lt bits (show 0 < 64 by decide)
  simp only [continuation, UInt8.toNat_ofNat']
  omega

theorem isContinuation_continuation (bits : Nat) : isContinuation (continuation bits) = true := by
  have small := Nat.mod_lt bits (show 0 < 64 by decide)
  simp only [isContinuation, continuation_toNat, Bool.and_eq_true, decide_eq_true_eq]
  omega

theorem point_val (code : CodePoint) : point code.val = code := by
  simp [point]

/-- One encoded code point is read back whatever follows it. -/
theorem decode_encodePoint (code : CodePoint) (head rest : Bytes)
    (encoded : encodePoint code = some head) :
    decode (head ++ rest) = (decode rest).map (code :: ·) := by
  have bound := code.isLt
  have same := point_val code
  unfold encodePoint at encoded
  simp only at encoded
  split at encoded
  · rename_i small
    cases encoded
    have lead : (UInt8.ofNat code.val).toNat = code.val := by
      simp only [UInt8.toNat_ofNat']; omega
    rw [List.singleton_append, decode.eq_def]
    simp only
    rw [if_pos (by omega), lead, same]
  split at encoded
  · rename_i large small
    cases encoded
    have lead : (UInt8.ofNat (0xC0 + code.val / 64)).toNat = 0xC0 + code.val / 64 := by
      simp only [UInt8.toNat_ofNat']; omega
    have value : (0xC0 + code.val / 64 - 0xC0) * 64 + (0x80 + code.val % 64 - 0x80) = code.val := by
      omega
    rw [List.cons_append, List.cons_append, List.nil_append, decode.eq_def]
    simp only
    rw [if_neg (by omega)]
    simp only [isContinuation_continuation, lead, continuation_toNat, value, same]
    rw [if_neg (by simp), if_pos (by omega)]
  split at encoded
  · rename_i small
    split at encoded
    · contradiction
    rename_i scalar
    cases encoded
    have lead : (UInt8.ofNat (0xE0 + code.val / 4096)).toNat = 0xE0 + code.val / 4096 := by
      simp only [UInt8.toNat_ofNat']; omega
    have value : (0xE0 + code.val / 4096 - 0xE0) * 4096 +
        (0x80 + code.val / 64 % 64 - 0x80) * 64 + (0x80 + code.val % 64 - 0x80) = code.val := by
      omega
    simp only [List.cons_append, List.nil_append]
    rw [decode.eq_def]
    simp only
    rw [if_neg (by omega)]
    simp only [isContinuation_continuation, lead, continuation_toNat, value, same]
    rw [if_neg (by simp), if_neg (by omega), if_neg (by simp), if_pos (by omega),
      if_neg (by omega)]
  · cases encoded
    have lead : (UInt8.ofNat (0xF0 + code.val / 262144)).toNat = 0xF0 + code.val / 262144 := by
      simp only [UInt8.toNat_ofNat']; omega
    have value : (0xF0 + code.val / 262144 - 0xF0) * 262144 +
        (0x80 + code.val / 4096 % 64 - 0x80) * 4096 +
        (0x80 + code.val / 64 % 64 - 0x80) * 64 + (0x80 + code.val % 64 - 0x80) = code.val := by
      omega
    simp only [List.cons_append, List.nil_append]
    rw [decode.eq_def]
    simp only
    rw [if_neg (by omega)]
    simp only [isContinuation_continuation, lead, continuation_toNat, value, same]
    rw [if_neg (by simp), if_neg (by omega), if_neg (by simp), if_neg (by omega),
      if_neg (by simp), if_pos (by omega), if_neg (by omega)]

theorem decode_encode (text : Str) (bytes : Bytes) (encoded : encode text = some bytes) :
    decode bytes = some text := by
  induction text generalizing bytes with
  | nil =>
      cases encoded
      rfl
  | cons code rest ih =>
      simp only [encode, bind, Option.bind_eq_some_iff] at encoded
      obtain ⟨head, headEncoded, tail, tailEncoded, same⟩ := encoded
      cases same
      rw [decode_encodePoint code head tail headEncoded, ih tail tailEncoded]
      rfl

theorem encodePoint_scalar (code : CodePoint) (scalar : Scalar code) :
    ∃ bytes, encodePoint code = some bytes := by
  unfold encodePoint
  simp only
  split
  · exact ⟨_, rfl⟩
  split
  · exact ⟨_, rfl⟩
  split
  · rw [if_neg (by rcases scalar with low | high <;> omega)]
    exact ⟨_, rfl⟩
  · exact ⟨_, rfl⟩

/-- Text of scalar values, ASCII text in particular, always encodes. -/
theorem encode_scalar (text : Str) (scalar : ∀ code ∈ text, Scalar code) :
    ∃ bytes, encode text = some bytes := by
  induction text with
  | nil => exact ⟨[], rfl⟩
  | cons code rest ih =>
      obtain ⟨head, headEncoded⟩ := encodePoint_scalar code (scalar code List.mem_cons_self)
      obtain ⟨tail, tailEncoded⟩ := ih fun code member => scalar code (List.mem_cons_of_mem _ member)
      exact ⟨head ++ tail, by simp [encode, headEncoded, tailEncoded]⟩

theorem isContinuation_iff {byte : UInt8} :
    isContinuation byte = true ↔ 0x80 ≤ byte.toNat ∧ byte.toNat < 0xC0 := by
  simp [isContinuation]

theorem continuation_of {byte : UInt8} {bits : Nat} (is : isContinuation byte = true)
    (same : bits % 64 = byte.toNat - 0x80) : continuation bits = byte := by
  rw [isContinuation_iff] at is
  apply UInt8.toNat.inj
  rw [continuation_toNat]
  omega

theorem ofNat_of {byte : UInt8} {value : Nat} (same : value = byte.toNat) : UInt8.ofNat value = byte := by
  subst same
  simp

theorem point_of {value : Nat} (small : value < 0x110000) : (point value).val = value := by
  simp only [point, Fin.val_ofNat]
  omega

section Points
variable {lead second third fourth : UInt8}

theorem encodePoint_one (small : lead.toNat < 0x80) : encodePoint (point lead.toNat) = some [lead] := by
  have value := point_of (show lead.toNat < 0x110000 by omega)
  unfold encodePoint
  simp only [value]
  rw [if_pos small, ofNat_of rfl]

theorem encodePoint_two {code : CodePoint} (two : 0xC2 ≤ lead.toNat ∧ lead.toNat < 0xE0)
    (next : isContinuation second = true)
    (value : code.val = (lead.toNat - 0xC0) * 64 + (second.toNat - 0x80)) :
    encodePoint code = some [lead, second] := by
  have range := isContinuation_iff.mp next
  have head : UInt8.ofNat (0xC0 + code.val / 64) = lead := ofNat_of (by omega)
  have tail : continuation code.val = second := continuation_of next (by omega)
  unfold encodePoint
  simp only [head, tail]
  rw [if_neg (by omega), if_pos (by omega)]

theorem encodePoint_three {code : CodePoint} (three : 0xE0 ≤ lead.toNat ∧ lead.toNat < 0xF0)
    (next : isContinuation second = true) (last : isContinuation third = true)
    (value : code.val = (lead.toNat - 0xE0) * 4096 + (second.toNat - 0x80) * 64 +
      (third.toNat - 0x80))
    (scalar : ¬(code.val < 0x800 ∨ 0xD800 ≤ code.val ∧ code.val < 0xE000)) :
    encodePoint code = some [lead, second, third] := by
  have range := isContinuation_iff.mp next
  have lastRange := isContinuation_iff.mp last
  have head : UInt8.ofNat (0xE0 + code.val / 4096) = lead := ofNat_of (by omega)
  have middle : continuation (code.val / 64) = second := continuation_of next (by omega)
  have tail : continuation code.val = third := continuation_of last (by omega)
  unfold encodePoint
  simp only [head, middle, tail]
  rw [if_neg (by omega), if_neg (by omega), if_pos (by omega), if_neg (by omega)]

theorem encodePoint_four {code : CodePoint} (four : 0xF0 ≤ lead.toNat ∧ lead.toNat < 0xF5)
    (next : isContinuation second = true) (penult : isContinuation third = true)
    (last : isContinuation fourth = true)
    (value : code.val = (lead.toNat - 0xF0) * 262144 + (second.toNat - 0x80) * 4096 +
      (third.toNat - 0x80) * 64 + (fourth.toNat - 0x80)) (astral : 0x10000 ≤ code.val) :
    encodePoint code = some [lead, second, third, fourth] := by
  have range := isContinuation_iff.mp next
  have penultRange := isContinuation_iff.mp penult
  have lastRange := isContinuation_iff.mp last
  have head : UInt8.ofNat (0xF0 + code.val / 262144) = lead := ofNat_of (by omega)
  have first : continuation (code.val / 4096) = second := continuation_of next (by omega)
  have middle : continuation (code.val / 64) = third := continuation_of penult (by omega)
  have tail : continuation code.val = fourth := continuation_of last (by omega)
  unfold encodePoint
  simp only [head, first, middle, tail]
  rw [if_neg (by omega), if_neg (by omega), if_neg (by omega)]
end Points

theorem encode_cons {code : CodePoint} {head bytes : Bytes} {rest : Str}
    (first : encodePoint code = some head) (tail : encode rest = some bytes) :
    encode (code :: rest) = some (head ++ bytes) := by
  simp [encode, first, tail]

/-- What decodes was encoded so. -/
theorem encode_decode (bytes : Bytes) (text : Str) (decoded : decode bytes = some text) :
    encode text = some bytes := by
  have step : ∀ {code : CodePoint} {rest : Bytes} {head : Bytes} {text : Str},
      (∀ text, decode rest = some text → encode text = some rest) →
      encodePoint code = some head → (decode rest).map (code :: ·) = some text →
      encode text = some (head ++ rest) := by
    intro code rest head text ih first decoded
    obtain ⟨tail, tailDecoded, rfl⟩ := Option.map_eq_some_iff.mp decoded
    exact encode_cons first (ih tail tailDecoded)
  fun_induction decode bytes generalizing text with
  | case1 =>
      cases decoded
      rfl
  | case2 lead rest small ih => exact step ih (encodePoint_one small) decoded
  | case5 lead small second rest next two ih =>
      have range := isContinuation_iff.mp (by simpa using next)
      exact step ih (encodePoint_two two (by simpa using next) (point_of (by omega))) decoded
  | case9 lead small second next two third rest last three code scalar ih =>
      have range := isContinuation_iff.mp (by simpa using next)
      have lastRange := isContinuation_iff.mp (by simpa using last)
      have value : (point code).val = code := point_of (by omega)
      exact step ih (encodePoint_three three (by simpa using next) (by simpa using last) value
        (by rw [value]; exact scalar)) decoded
  | case13 lead small second next two third last three fourth rest final four code bounds ih =>
      have value : (point code).val = code := point_of (by omega)
      exact step ih (encodePoint_four four (by simpa using next) (by simpa using last)
        (by simpa using final) value (by omega)) decoded
  | _ => cases decoded

theorem encodePoint_nonempty {code : CodePoint} {bytes : Bytes}
    (encoded : encodePoint code = some bytes) : bytes ≠ [] := by
  rintro rfl
  unfold encodePoint at encoded
  simp only at encoded
  split at encoded
  · cases encoded
  split at encoded
  · cases encoded
  split at encoded
  · split at encoded <;> cases encoded
  · cases encoded

/-- The code point at the head of a text is what its first bytes encode. -/
theorem decodeHead_some {bytes left : Bytes} {code : CodePoint}
    (read : decodeHead bytes = some (code, left)) :
    ∃ head, encodePoint code = some head ∧ bytes = head ++ left := by
  obtain ⟨length, -, found⟩ := List.exists_of_findSome?_eq_some read
  split at found
  · rename_i decoded
    cases found
    have encoded := encode_decode _ _ decoded
    obtain ⟨head, first, same⟩ : ∃ head, encodePoint code = some head ∧ head = bytes.take length := by
      simpa [encode, Option.bind_eq_some_iff] using encoded
    exact ⟨head, first, by rw [same, List.take_append_drop]⟩
  · cases found

/-- An ASCII byte is a code point of its own. -/
theorem decodeHead_ascii {byte : UInt8} {rest : Bytes} (small : byte.toNat < 0x80) :
    decodeHead (byte :: rest) = some (point byte.toNat, rest) := by
  simp [decodeHead, decode, small]

theorem encodePoint_escapes {code : CodePoint} {bytes : Bytes} (encoded : encodePoint code = some bytes) :
    encodeEscapedPoint code = some bytes := by
  unfold encodeEscapedPoint
  rw [if_neg ?_, encoded]
  rintro ⟨low, high⟩
  unfold encodePoint at encoded
  simp only at encoded
  rw [if_neg (by omega), if_neg (by omega), if_pos (by omega), if_pos (by omega)] at encoded
  cases encoded

/-- No byte is lost: an escaped text encodes to the bytes it came from. -/
theorem encodeEscaped_decodeEscaped (bytes : Bytes) : encodeEscaped (decodeEscaped bytes) = some bytes := by
  have go : ∀ fuel bytes, bytes.length ≤ fuel →
      encodeEscaped (decodeEscaped.go fuel bytes) = some bytes := by
    intro fuel
    induction fuel with
    | zero =>
        intro bytes enough
        rw [List.eq_nil_of_length_eq_zero (Nat.le_zero.mp enough)]
        rfl
    | succ fuel ih =>
        intro bytes enough
        cases bytes with
        | nil => rfl
        | cons byte rest =>
            rw [decodeEscaped.go]
            cases read : decodeHead (byte :: rest) with
            | some found =>
                obtain ⟨code, left⟩ := found
                obtain ⟨head, encoded, same⟩ := decodeHead_some read
                have shorter : left.length ≤ fuel := by
                  have longer := List.length_pos_of_ne_nil (encodePoint_nonempty encoded)
                  have total := congrArg List.length same
                  simp only [List.length_cons, List.length_append] at total enough
                  omega
                simp [encodeEscaped, encodePoint_escapes encoded, ih left shorter, same]
            | none =>
                have large : 0x80 ≤ byte.toNat := by
                  by_contra small
                  rw [decodeHead_ascii (by omega)] at read
                  cases read
                have bound := byte.toNat_lt
                have value : (point (0xDC00 + byte.toNat)).val = 0xDC00 + byte.toNat := point_of (by omega)
                have escaped : encodeEscapedPoint (point (0xDC00 + byte.toNat)) = some [byte] := by
                  have back : UInt8.ofNat (0xDC00 + byte.toNat - 0xDC00) = byte := ofNat_of (by omega)
                  unfold encodeEscapedPoint
                  rw [value, if_pos (by omega), back]
                simp [encodeEscaped, escaped, ih rest (by simpa using enough)]
  exact go bytes.length bytes le_rfl

theorem encodePoint_isScalar {code : CodePoint} {bytes : Bytes}
    (encoded : encodePoint code = some bytes) : Scalar code := by
  by_contra surrogate
  simp only [Scalar, not_or, Nat.not_lt, Nat.not_le] at surrogate
  unfold encodePoint at encoded
  simp only at encoded
  rw [if_neg (by omega), if_neg (by omega), if_pos (by omega), if_pos (by omega)] at encoded
  cases encoded

/-- A code point that no later one can join to a pair: any but a high surrogate. -/
def Unpaired (code : CodePoint) : Prop := code.val < 0xD800 ∨ 0xDC00 ≤ code.val

instance (code : CodePoint) : Decidable (Unpaired code) := inferInstanceAs (Decidable (_ ∨ _))

theorem Scalar.unpaired {code : CodePoint} (scalar : Scalar code) : Unpaired code := by
  rcases scalar with low | high
  · exact .inl low
  · exact .inr (by omega)

/-- An escaped decoding holds scalar values and low surrogates only. -/
theorem decodeEscaped_unpaired (bytes : Bytes) : ∀ code ∈ decodeEscaped bytes, Unpaired code := by
  have go : ∀ fuel bytes, ∀ code ∈ decodeEscaped.go fuel bytes, Unpaired code := by
    intro fuel
    induction fuel with
    | zero => simp [decodeEscaped.go]
    | succ fuel ih =>
        intro bytes code member
        cases bytes with
        | nil => cases member
        | cons byte rest =>
            rw [decodeEscaped.go] at member
            cases read : decodeHead (byte :: rest) with
            | some found =>
                rw [read] at member
                obtain ⟨head, encoded, -⟩ := decodeHead_some read
                rcases List.mem_cons.mp member with same | tail
                · exact same ▸ (encodePoint_isScalar encoded).unpaired
                · exact ih _ code tail
            | none =>
                rw [read] at member
                have bound := byte.toNat_lt
                have value : (point (0xDC00 + byte.toNat)).val = 0xDC00 + byte.toNat :=
                  point_of (by omega)
                rcases List.mem_cons.mp member with same | tail
                · exact .inr (by rw [same, value]; omega)
                · exact ih _ code tail
  exact go bytes.length bytes

end Python.Text
