import VibeConnect.Python.JsonCodec

/-! `escape_ldap_filter_value`, and what a reader of LDAP filters makes of its result. -/
namespace VibeConnect.LdapFilter
open Python.Text Python.JsonCodec

def escapedChar (char : CodePoint) : Str :=
  if char = 0 then lit "\\00"
  else if char = 42 then lit "\\2a"
  else if char = 40 then lit "\\28"
  else if char = 41 then lit "\\29"
  else if char = 92 then lit "\\5c"
  else [char]

def escapeLdapFilterValue (value : Str) : Str := (value.map escapedChar).flatten

/-! The other side: escapes are decoded, and a filter is read. -/
def escapes : List Str := [lit "\\00", lit "\\2a", lit "\\28", lit "\\29", lit "\\5c"]

/-- NUL, `*` and the parentheses. -/
def isSpecial (char : CodePoint) : Bool := char == 0 || char == 42 || char == 40 || char == 41

def hexPair (high low : CodePoint) : Option CodePoint :=
  match hexValue high, hexValue low with
  | some high, some low => some (point (high * 16 + low))
  | _, _ => none

/-- A backslash with two hexadecimal digits is the character of that number. -/
def unescape : Str → Str
  | [] => []
  | char :: rest =>
      if char = 92 then match rest with
        | high :: low :: left => match hexPair high low with
          | some code => code :: unescape left
          | none => char :: unescape (high :: low :: left)
        | rest => char :: rest
      else char :: unescape rest

/-- The assertion value at the front of a filter, up to the first special character, and the
rest of the filter. `none` is a backslash without its digits. -/
def readValue : Str → Option (Str × Str)
  | [] => some ([], [])
  | char :: rest =>
      if isSpecial char then some ([], char :: rest)
      else if char = 92 then match rest with
        | high :: low :: left => do
            let code ← hexPair high low
            let (value, after) ← readValue left
            some (code :: value, after)
        | _ => none
      else do
        let (value, after) ← readValue rest
        some (char :: value, after)

/-- The text stands for one literal value. -/
structure LiteralValue (value text : Str) : Prop where
  plain : ∀ char ∈ text, isSpecial char = false
  escaped : ∀ before after, text = before ++ 92 :: after →
    ∃ escape ∈ escapes, escape <+: 92 :: after
  decoded : unescape text = value
  read : ∀ stop rest, isSpecial stop = true →
    readValue (text ++ stop :: rest) = some (value, stop :: rest)

section
variable (char : CodePoint) (rest : Str)

@[simp] theorem escape_nil : escapeLdapFilterValue [] = [] := rfl

@[simp] theorem escape_cons :
    escapeLdapFilterValue (char :: rest) = escapedChar char ++ escapeLdapFilterValue rest := by
  simp [escapeLdapFilterValue]

/-- A character is written as one of the five escapes, with its own number in it, or it is plain
and stands for itself. -/
theorem escapedChar_cases :
    (∃ high low, escapedChar char = [92, high, low] ∧ [92, high, low] ∈ escapes ∧
      isSpecial high = false ∧ isSpecial low = false ∧ high ≠ 92 ∧ low ≠ 92 ∧
      hexPair high low = some char) ∨
    (escapedChar char = [char] ∧ isSpecial char = false ∧ char ≠ 92) := by
  by_cases nul : char = 0
  · subst nul
    exact .inl ⟨48, 48, by decide +kernel⟩
  by_cases star : char = 42
  · subst star
    exact .inl ⟨50, 97, by decide +kernel⟩
  by_cases left : char = 40
  · subst left
    exact .inl ⟨50, 56, by decide +kernel⟩
  by_cases right : char = 41
  · subst right
    exact .inl ⟨50, 57, by decide +kernel⟩
  by_cases slash : char = 92
  · subst slash
    exact .inl ⟨53, 99, by decide +kernel⟩
  · right
    simp [escapedChar, isSpecial, nul, star, left, right, slash]

/-! One character and the text after it. -/
theorem unescape_char : unescape (escapedChar char ++ rest) = char :: unescape rest := by
  rcases escapedChar_cases char with ⟨high, low, same, -, -, -, -, -, pair⟩ | ⟨same, -, plain⟩
  · rw [same]
    simp [unescape, pair]
  · rw [same, List.singleton_append, unescape.eq_def]
    exact if_neg plain

theorem readValue_char :
    readValue (escapedChar char ++ rest) =
      (readValue rest).map fun read => (char :: read.1, read.2) := by
  rcases escapedChar_cases char with ⟨high, low, same, -, -, -, -, -, pair⟩ | ⟨same, ordinary, plain⟩
  · rw [same]
    have slash : isSpecial 92 = false := by decide
    cases read : readValue rest <;> simp [readValue, slash, pair, read]
  · rw [same, List.singleton_append, readValue.eq_def]
    cases read : readValue rest <;> simp [ordinary, plain, read]

theorem escapedChar_plain : ∀ code ∈ escapedChar char, isSpecial code = false := by
  rcases escapedChar_cases char with ⟨high, low, same, -, one, two, -⟩ | ⟨same, ordinary, -⟩
  · have slash : isSpecial 92 = false := by decide
    simp [same, slash, one, two]
  · simp [same, ordinary]

/-- A backslash in what is written for one character is its first. -/
theorem escapedChar_backslash {before after : Str} (tail : Str)
    (found : escapedChar char = before ++ 92 :: after) :
    before = [] ∧ ∃ escape ∈ escapes, escape <+: 92 :: (after ++ tail) := by
  rcases escapedChar_cases char with ⟨high, low, same, member, -, -, one, two, -⟩ | ⟨same, -, plain⟩
  · rw [same] at found
    cases before with
    | nil =>
        obtain ⟨-, rfl⟩ := List.cons.inj found
        exact ⟨rfl, _, member, List.prefix_append _ tail⟩
    | cons first before =>
        -- the two digits are no backslashes
        have within : (92 : CodePoint) ∈ [high, low] := by
          rw [(List.cons.inj found).2]
          simp
        simp [Ne.symm one, Ne.symm two] at within
  · have within : (92 : CodePoint) ∈ [char] := by
      rw [← same, found]
      simp
    exact absurd (List.mem_singleton.mp within).symm plain
end

/-! The whole value, by induction on it. -/
theorem escape_plain (value : Str) :
    ∀ char ∈ escapeLdapFilterValue value, isSpecial char = false := by
  induction value with
  | nil => simp
  | cons first rest ih =>
      intro char member
      rw [escape_cons, List.mem_append] at member
      rcases member with here | later
      · exact escapedChar_plain first char here
      · exact ih char later

theorem escape_backslash (value : Str) : ∀ before after,
    escapeLdapFilterValue value = before ++ 92 :: after →
      ∃ escape ∈ escapes, escape <+: 92 :: after := by
  induction value with
  | nil => simp
  | cons first rest ih =>
      intro before after found
      rw [escape_cons, List.append_eq_append_iff] at found
      rcases found with ⟨middle, -, later⟩ | ⟨middle, here, later⟩
      · exact ih middle after later
      · cases middle with
        | nil => exact ih [] after later.symm
        | cons slash middle =>
            obtain ⟨rfl, rfl⟩ := List.cons.inj later
            exact (escapedChar_backslash first _ here).2

theorem unescape_escape (value : Str) : unescape (escapeLdapFilterValue value) = value := by
  induction value with
  | nil => rfl
  | cons first rest ih => rw [escape_cons, unescape_char, ih]

/-- A filter that goes on with a special character after the text has the value there. -/
theorem readValue_escape (value rest : Str) {stop : CodePoint} (special : isSpecial stop = true) :
    readValue (escapeLdapFilterValue value ++ stop :: rest) = some (value, stop :: rest) := by
  induction value with
  | nil =>
      rw [escape_nil, List.nil_append, readValue.eq_def]
      exact if_pos special
  | cons first more ih =>
      rw [escape_cons, List.append_assoc, readValue_char, ih]
      rfl

theorem escape_injective : Function.Injective escapeLdapFilterValue :=
  Function.LeftInverse.injective unescape_escape

/-- Escaping makes any value one literal value, and no two values the same text. -/
theorem escaped_literal (value : Str) : LiteralValue value (escapeLdapFilterValue value) ∧
    ∀ other, escapeLdapFilterValue other = escapeLdapFilterValue value → other = value := by
  constructor
  · constructor
    · exact escape_plain value
    · exact escape_backslash value
    · exact unescape_escape value
    · exact fun stop rest => readValue_escape value rest
  · exact fun other same => escape_injective same

/-- A value that looks like an escape is read back as it is. -/
example : escapeLdapFilterValue (lit "a\\2a*") = lit "a\\5c2a\\2a" := by decide +kernel

end VibeConnect.LdapFilter
