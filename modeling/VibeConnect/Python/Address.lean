import VibeConnect.Python.JsonCodec

/-! `ipaddress.ip_address`. The grammar of IPv6 is left to `ipv6`: its texts are no IPv4. -/
namespace Python.Address
open Text JsonCodec

/-- `_parse_octet`. -/
def parseOctet (text : Str) : Option Nat :=
  if text = [] ∨ text.all isDigit = false then none
  else if 3 < text.length then none
  else if text ≠ [48] ∧ text.head? = some 48 then none
  else if 255 < digitsValue text then none
  else some (digitsValue text)

/-- `IPv4Address._ip_int_from_string`. -/
def parseIpv4 (text : Str) : Option Nat :=
  match text.splitOn 46 with
  | [first, second, third, fourth] => do
      let first ← parseOctet first
      let second ← parseOctet second
      let third ← parseOctet third
      let fourth ← parseOctet fourth
      some (((first * 256 + second) * 256 + third) * 256 + fourth)
  | _ => none

inductive IpAddress where
  | v4 (value : Nat)
  | v6 (value : Nat)

/-- `none` is the `ValueError`. -/
def ipAddress (ipv6 : Str → Option Nat) (text : Str) : Option IpAddress :=
  match parseIpv4 text with
  | some value => some (.v4 value)
  | none => (ipv6 text).map .v6

def IpAddress.version : IpAddress → Nat
  | v4 _ => 4
  | v6 _ => 6

/-- `127.0.0.0/8`, and `::1`. -/
def IpAddress.isLoopback : IpAddress → Bool
  | v4 value => value / 2 ^ 24 == 127
  | v6 value => value == 1

/-- Four numbers with dots between them. -/
def dotted (first second third fourth : Nat) : Str :=
  [46].intercalate [naturalText first, naturalText second, naturalText third, naturalText fourth]

/-- A dotted-quad literal of the block `127.0.0.0/8`. -/
def LoopbackQuad (text : Str) : Prop :=
  ∃ second third fourth, second ≤ 255 ∧ third ≤ 255 ∧ fourth ≤ 255 ∧
    text = dotted 127 second third fourth

/-! Octets are the decimal numbers up to 255. -/
theorem digit_of {code : CodePoint} (digit : isDigit code = true) :
    point (48 + (code.val - 48)) = code ∧ code.val - 48 < 10 := by
  simp only [isDigit, Bool.and_eq_true, decide_eq_true_eq] at digit
  constructor
  · rw [show 48 + (code.val - 48) = code.val by omega, point_val]
  · omega

/-- Digits without a leading zero are the text of their value. -/
theorem naturalText_digits {text : Str} (present : text ≠ []) (digits : ∀ code ∈ text, isDigit code = true)
    (leading : text = [48] ∨ text.head? ≠ some 48) : naturalText (digitsValue text) = text := by
  rcases leading with rfl | leading
  · rfl
  let values := (text.map fun code => code.val - 48).reverse
  have back : (values.reverse.map fun digit => point (48 + digit)) = text := by
    rw [List.reverse_reverse, List.map_map]
    conv => rhs; rw [← List.map_id text]
    exact List.map_congr_left fun code member => (digit_of (digits code member)).1
  have small : ∀ digit ∈ values, digit < 10 := by
    intro digit member
    obtain ⟨code, within, rfl⟩ := List.mem_map.mp (List.mem_reverse.mp member)
    exact (digit_of (digits code within)).2
  have filled : values ≠ [] := by simpa [values] using present
  have last : values.getLast filled ≠ 0 := by
    cases text with
    | nil => exact absurd rfl present
    | cons first rest =>
        have digit := digits first List.mem_cons_self
        simp only [isDigit, Bool.and_eq_true, decide_eq_true_eq] at digit
        have other : first.val ≠ 48 := fun same => leading (congrArg some (Fin.ext same))
        simp only [values, List.map_cons, List.reverse_cons, List.getLast_concat]
        omega
  have value : digitsValue text = Nat.ofDigits 10 values := by
    rw [← digitsValue_reverse values small, back]
  have same : Nat.digits 10 (digitsValue text) = values := by
    rw [value]
    exact Nat.digits_ofDigits 10 (by decide) values small fun _ => last
  have positive : digitsValue text ≠ 0 := by
    intro zero
    rw [zero, Nat.digits_zero] at same
    exact filled same.symm
  rw [naturalText, if_neg positive, same, back]

theorem naturalText_present (value : Nat) : naturalText value ≠ [] := by
  obtain ⟨first, rest, same, -⟩ := naturalText_head value
  simp [same]

theorem naturalText_short {value : Nat} (small : value ≤ 255) : (naturalText value).length ≤ 3 := by
  unfold naturalText
  split
  · simp
  · rw [List.length_map, List.length_reverse]
    exact (Nat.digits_length_le_iff (by decide) value).mpr (by omega)

theorem parseOctet_iff {text : Str} {value : Nat} :
    parseOctet text = some value ↔ value ≤ 255 ∧ text = naturalText value := by
  constructor
  · intro parsed
    unfold parseOctet at parsed
    split at parsed
    · cases parsed
    rename_i digits
    split at parsed
    · cases parsed
    split at parsed
    · cases parsed
    rename_i leading
    split at parsed <;> cases parsed
    rename_i small
    simp only [not_or, Bool.not_eq_false, List.all_eq_true] at digits
    have unpadded : text = [48] ∨ text.head? ≠ some 48 := by
      by_cases zero : text = [48]
      · exact .inl zero
      · exact .inr fun head => leading ⟨zero, head⟩
    exact ⟨by omega, (naturalText_digits digits.1 digits.2 unpadded).symm⟩
  · rintro ⟨small, rfl⟩
    have digits : ¬(naturalText value = [] ∨ (naturalText value).all isDigit = false) := by
      rw [not_or, Bool.not_eq_false, List.all_eq_true]
      exact ⟨naturalText_present value, naturalText_isDigit value⟩
    have short := naturalText_short small
    have unpadded : ¬(naturalText value ≠ [48] ∧ (naturalText value).head? = some 48) := by
      rintro ⟨other, head⟩
      rcases naturalText_cases value with zero | ⟨first, rest, same, plain⟩
      · exact other zero
      · rw [same] at head
        exact plain (congrArg Fin.val (Option.some.inj head))
    rw [parseOctet, if_neg digits, if_neg (by omega), if_neg unpadded, naturalText_value,
      if_neg (by omega)]

theorem parseIpv4_iff {text : Str} {value : Nat} : parseIpv4 text = some value ↔
    ∃ first second third fourth, first ≤ 255 ∧ second ≤ 255 ∧ third ≤ 255 ∧ fourth ≤ 255 ∧
      text = dotted first second third fourth ∧
      value = ((first * 256 + second) * 256 + third) * 256 + fourth := by
  have joined := @List.intercalate_splitOn _ text _ _ (46 : CodePoint)
  constructor
  · intro parsed
    unfold parseIpv4 at parsed
    split at parsed
    · rename_i one two three four parts
      simp only [bind, Option.bind_eq_some_iff, parseOctet_iff, Option.some.injEq] at parsed
      obtain ⟨first, ⟨a, rfl⟩, second, ⟨b, rfl⟩, third, ⟨c, rfl⟩, fourth, ⟨d, rfl⟩, rfl⟩ := parsed
      refine ⟨first, second, third, fourth, a, b, c, d, ?_, rfl⟩
      rw [dotted, ← parts, joined]
    · cases parsed
  · rintro ⟨first, second, third, fourth, a, b, c, d, rfl, rfl⟩
    have undotted : ∀ number, (46 : CodePoint) ∉ naturalText number := by
      intro number member
      have digit := naturalText_isDigit number 46 member
      revert digit
      decide
    have parts : (dotted first second third fourth).splitOn 46 =
        [naturalText first, naturalText second, naturalText third, naturalText fourth] := by
      apply List.splitOn_intercalate
      · simp [undotted]
      · simp
    simp only [parseIpv4, parts, bind, Option.bind_eq_some_iff, parseOctet_iff]
    exact ⟨first, ⟨a, rfl⟩, second, ⟨b, rfl⟩, third, ⟨c, rfl⟩, fourth, ⟨d, rfl⟩, rfl⟩

/-- The check for an IPv4 loopback address accepts exactly the literals of its block. -/
theorem loopback_iff (ipv6 : Str → Option Nat) (text : Str) :
    ((ipAddress ipv6 text).any fun address => address.version == 4 && address.isLoopback) = true ↔
      LoopbackQuad text := by
  cases parsed : parseIpv4 text with
  | none =>
      have refused : ¬ LoopbackQuad text := by
        rintro ⟨second, third, fourth, b, c, d, same⟩
        have some := parseIpv4_iff.mpr ⟨127, second, third, fourth, by decide, b, c, d, same, rfl⟩
        rw [parsed] at some
        cases some
      have other : ¬((ipAddress ipv6 text).any fun address =>
          address.version == 4 && address.isLoopback) = true := by
        rw [ipAddress, parsed]
        cases ipv6 text <;> simp [IpAddress.version]
      exact iff_of_false other refused
  | some value =>
      obtain ⟨first, second, third, fourth, a, b, c, d, same, rfl⟩ := parseIpv4_iff.mp parsed
      rw [ipAddress, parsed]
      simp only [Option.any_some, IpAddress.version, IpAddress.isLoopback, beq_self_eq_true,
        Bool.true_and, beq_iff_eq]
      constructor
      · intro block
        obtain rfl : first = 127 := by omega
        exact ⟨second, third, fourth, b, c, d, same⟩
      · rintro ⟨others, thirds, fourths, b', c', d', again⟩
        have value := parseIpv4_iff.mpr ⟨127, others, thirds, fourths, by decide, b', c', d', again, rfl⟩
        rw [parsed, Option.some.injEq] at value
        omega

end Python.Address
