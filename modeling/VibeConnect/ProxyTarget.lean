import VibeConnect.Python.Url
import VibeConnect.AgentConf

/-! `proxy.target` as the enrollment reads it and as the running agent does. -/
namespace VibeConnect.ProxyTarget
open Python.Text Python.JsonCodec Python.Url AgentConf

/-- What the two parsers call, with `str.isdigit` and the checks inside `urlparse`. -/
structure TargetRuntime extends Runtime where
  isdigit : Str → Bool
  bracketed : Str → Bool
  normalized : Str → Bool

def TargetRuntime.url (runtime : TargetRuntime) : UrlLibrary :=
  ⟨runtime.lower, runtime.int, runtime.bracketed, runtime.normalized⟩

/-- What Python documents of these: `urlparse` splits as described; `isdigit` holds of ASCII
digits, and among ASCII of them only; `int` reads ASCII digits in base ten, when it reads them;
and `lower` makes no mark of a URL and no empty text. -/
structure Documented (runtime : TargetRuntime) : Prop where
  urlparse : ∀ value, runtime.urlparse (lit "//" ++ value) = authority runtime.url value
  isdigit_ascii : ∀ text, text ≠ [] → (∀ code ∈ text, isDigit code = true) → runtime.isdigit text = true
  isdigit_plain : ∀ text, runtime.isdigit text = true →
    text ≠ [] ∧ ∀ code ∈ text, code.val < 128 → isDigit code = true
  int_ascii : ∀ text number, text ≠ [] → (∀ code ∈ text, isDigit code = true) →
    runtime.int text = some number → number = digitsValue text
  lower_mark : ∀ text code, code ∈ runtime.lower text → isMark code = true → code ∈ text
  lower_empty : ∀ text, runtime.lower text = [] → text = []

section
variable (runtime : TargetRuntime)

/-- `_parse_host_port` of the enrollment. -/
def enrollHostPort (value : Str) : Except ConfigFault (Str × Nat) :=
  match rpartition 58 value with
  | some (host, portText) =>
      if host = [] ∨ runtime.isdigit portText = false then
        .error (.config (lit "proxy.target must be host:port"))
      else match runtime.int portText with
        | none => .error .value
        | some port =>
            if 1 ≤ port ∧ port ≤ 65535 then .ok (host, port.toNat)
            else .error (.config (lit "proxy target_port is outside valid TCP port bounds"))
  | none => .error (.config (lit "proxy.target must be host:port"))

/-- The parser of the running agent. -/
def runHostPort (value : Str) : Except ConfigFault (Str × Nat) :=
  parseHostPort runtime.toRuntime value

/-- Both accept the value as the same host and port, or both raise a `ConfigError`. -/
def Agree (value : Str) : Prop :=
  (∃ target, enrollHostPort runtime value = .ok target ∧ runHostPort runtime value = .ok target) ∨
    ((∃ message, enrollHostPort runtime value = .error (.config message)) ∧
      ∃ message, runHostPort runtime value = .error (.config message))

/-- A host without a mark of a URL and without a letter that `lower` changes, a colon, and a port
in ASCII digits. -/
def PlainTarget (value : Str) : Prop :=
  ∃ host portText port, value = host ++ 58 :: portText ∧ host ≠ [] ∧
    (∀ code ∈ host, isMark code = false) ∧ lowerHost runtime.url host = host ∧
    runtime.normalized value = true ∧ portText ≠ [] ∧ (∀ code ∈ portText, isDigit code = true) ∧
    runtime.int portText = some port ∧ 1 ≤ port ∧ port ≤ 65535

/-- There is no host and port in bounds around the last colon: nothing before it, no digits
after it, or a number out of bounds. -/
def NoTarget (value : Str) : Prop :=
  ∀ host portText, value = host ++ 58 :: portText → 58 ∉ portText → host = [] ∨
    runtime.isdigit portText = false ∨
      ∃ port, runtime.int portText = some port ∧ ¬(1 ≤ port ∧ port ≤ 65535)

/-- The network location of `//` and the value passes its checks and has no host or no port. -/
def NoEndpoint (value : Str) : Prop :=
  netlocOk runtime.url (netloc value) = true ∧ ((endpoint value).1 = [] ∨ (endpoint value).2 = [])
end

/-! What each parser does. -/
section Parsers
variable {runtime : TargetRuntime} {value : Str} {target : Str × Nat}

theorem enroll_ok : enrollHostPort runtime value = .ok target ↔
    ∃ portText port, value = target.1 ++ 58 :: portText ∧ 58 ∉ portText ∧ target.1 ≠ [] ∧
      runtime.isdigit portText = true ∧ runtime.int portText = some port ∧ 1 ≤ port ∧ port ≤ 65535 ∧
      target.2 = port.toNat := by
  unfold enrollHostPort
  constructor
  · intro accepted
    split at accepted
    · rename_i host portText parted
      obtain ⟨whole, last⟩ := rpartition_iff.mp parted
      split at accepted
      · cases accepted
      rename_i present
      simp only [not_or, Bool.not_eq_false] at present
      split at accepted
      · cases accepted
      rename_i port read
      split at accepted <;> cases accepted
      rename_i bounds
      exact ⟨portText, port, whole, last, present.1, present.2, read, bounds.1, bounds.2, rfl⟩
    · cases accepted
  · rintro ⟨portText, port, whole, last, host, digits, read, low, high, same⟩
    rw [rpartition_iff.mpr ⟨whole, last⟩]
    simp only [host, digits, Bool.true_eq_false, or_self, if_false, read]
    rw [if_pos ⟨low, high⟩, ← same]

theorem enroll_config : (∃ message, enrollHostPort runtime value = .error (.config message)) ↔
    NoTarget runtime value := by
  unfold enrollHostPort
  constructor
  · rintro ⟨message, refused⟩ host portText whole last
    rw [rpartition_iff.mpr ⟨whole, last⟩] at refused
    simp only at refused
    split at refused
    · rename_i absent
      exact absent.imp_right .inl
    · split at refused
      · cases refused
      rename_i port read
      split at refused <;> cases refused
      rename_i bounds
      exact .inr (.inr ⟨port, read, bounds⟩)
  · intro none
    cases parted : rpartition 58 value with
    | none => exact ⟨_, rfl⟩
    | some parts =>
        obtain ⟨host, portText⟩ := parts
        obtain ⟨whole, last⟩ := rpartition_iff.mp parted
        simp only
        split
        · exact ⟨_, rfl⟩
        · rename_i present
          simp only [not_or, Bool.not_eq_false] at present
          rcases none host portText whole last with empty | other | ⟨port, read, bounds⟩
          · exact absurd empty present.1
          · rw [present.2] at other
            cases other
          · rw [read]
            simp only [if_neg bounds]
            exact ⟨_, rfl⟩

variable (documented : Documented runtime)
include documented

theorem lowerHost_empty {host : Str} (empty : lowerHost runtime.url host = []) : host = [] := by
  rw [lowerHost, List.append_eq_nil_iff] at empty
  have front := documented.lower_empty _ empty.1
  rw [← List.takeWhile_append_dropWhile (p := (· != 37)) (l := host), front, empty.2]
  rfl

theorem run_ok : runHostPort runtime value = .ok target ↔
    netlocOk runtime.url (netloc value) = true ∧ (endpoint value).1 ≠ [] ∧
      lowerHost runtime.url (endpoint value).1 = target.1 ∧
      portOf runtime.url (endpoint value).2 = some (some target.2) := by
  rw [runHostPort, parseHostPort, documented.urlparse, authority]
  cases checked : netlocOk runtime.url (netloc value) with
  | false => simp
  | true =>
      simp only [if_true, true_and]
      by_cases absent : (endpoint value).1 = []
      · simp [absent]
      · simp only [ne_eq, absent, not_false_eq_true, true_and]
        cases lowered : lowerHost runtime.url (endpoint value).1 with
        | nil => exact absurd (lowerHost_empty documented lowered) absent
        | cons point rest =>
            cases port : portOf runtime.url (endpoint value).2 with
            | none => simp
            | some found =>
                cases found with
                | none => simp
                | some number => simp [Prod.ext_iff]

theorem run_config : (∃ message, runHostPort runtime value = .error (.config message)) ↔
    NoEndpoint runtime value := by
  have unread : portOf runtime.url (endpoint value).2 = some none ↔ (endpoint value).2 = [] := by
    unfold portOf
    split
    · rename_i empty
      simp [empty]
    · rename_i present
      split
      · split
        · split <;> simp [present]
        · simp [present]
      · simp [present]
  rw [runHostPort, parseHostPort, documented.urlparse, authority, NoEndpoint]
  cases checked : netlocOk runtime.url (netloc value) with
  | false => simp
  | true =>
      simp only [if_true, true_and]
      by_cases absent : (endpoint value).1 = []
      · simp [absent]
      · simp only [absent, false_or, ← unread]
        cases lowered : lowerHost runtime.url (endpoint value).1 with
        | nil => exact absurd (lowerHost_empty documented lowered) absent
        | cons point rest =>
            cases port : portOf runtime.url (endpoint value).2 with
            | none => simp
            | some found => cases found <;> simp
end Parsers

/-! Where they agree. -/
section Agreement
variable {runtime : TargetRuntime} {value host portText : Str} {code : CodePoint}

theorem isMark_small (mark : isMark code = true) : code.val < 128 ∧ isDigit code = false := by
  simp only [isMark, isUnsafe, endsNetloc, Bool.or_eq_true, beq_iff_eq] at mark
  have value : code = 9 ∨ code = 10 ∨ code = 13 ∨ code = 47 ∨ code = 63 ∨ code = 35 ∨ code = 64 ∨
      code = 58 ∨ code = 91 ∨ code = 93 := by
    tauto
  rcases value with rfl | rfl | rfl | rfl | rfl | rfl | rfl | rfl | rfl | rfl <;> decide

theorem digits_unmarked (digits : ∀ code ∈ portText, code.val < 128 → isDigit code = true) :
    ∀ code ∈ portText, isMark code = false := by
  intro code member
  by_contra mark
  have small := isMark_small (by simpa using mark)
  rw [digits code member small.1] at small
  cases small.2

variable (documented : Documented runtime)
include documented

/-- A mark of a lowered host is one of the host. -/
theorem lowerHost_mark (member : code ∈ lowerHost runtime.url host) (mark : isMark code = true) :
    code ∈ host := by
  rcases List.mem_append.mp member with lowered | kept
  · exact (List.takeWhile_subset _) (documented.lower_mark _ code lowered mark)
  · exact (List.dropWhile_subset _) kept

/-- Where `urlparse` gives the text before a colon as the host, no mark is in it. -/
theorem host_unmarked (whole : value = host ++ 58 :: portText)
    (digits : ∀ code ∈ portText, isMark code = false)
    (checked : netlocOk runtime.url (netloc value) = true)
    (same : lowerHost runtime.url (endpoint value).1 = host) :
    ∀ code ∈ host, isMark code = false := by
  have inside : ∀ code ∈ host, isMark code = true → code ∈ (endpoint value).1 := by
    intro code member mark
    exact lowerHost_mark documented (same ▸ member) mark
  have within : ∀ mark, mark ≠ 58 → isMark mark = true → mark ∈ value → mark ∈ host := by
    intro mark other marked member
    rw [whole] at member
    rcases List.mem_append.mp member with before | after
    · exact before
    rcases List.mem_cons.mp after with colon | late
    · exact absurd colon other
    · rw [digits mark late] at marked
      cases marked
  have brackets : (netloc value).contains 91 = (netloc value).contains 93 := by
    simp only [netlocOk, Bool.and_eq_true, beq_iff_eq] at checked
    exact checked.1.1
  -- what is in the host that is read is in the network location, and is none of its ends
  have read : ∀ code ∈ host, isMark code = true → code ∈ netloc value ∧ code ≠ 64 ∧
      (if 91 ∈ hostInfo (netloc value) then code ≠ 93 else code ≠ 58) := by
    intro code member mark
    obtain ⟨info, bracket⟩ := mem_host (inside code member mark)
    obtain ⟨location, user⟩ := mem_hostInfo info
    exact ⟨location, user, bracket⟩
  have unclosed : (93 : CodePoint) ∉ host := by
    intro member
    have mark : isMark 93 = true := by decide
    obtain ⟨location, -, bracket⟩ := read 93 member mark
    split at bracket
    · exact bracket rfl
    · rename_i unopened
      -- the closing bracket has an opening one in the location, hence in the host
      have opening : (91 : CodePoint) ∈ netloc value := by
        rw [← List.contains_iff_mem, brackets, List.contains_iff_mem]
        exact location
      have held := within 91 (by decide) (by decide) (mem_netloc opening).1
      exact unopened (mem_host (inside 91 held (by decide))).1
  have unopened : (91 : CodePoint) ∉ netloc value := by
    intro member
    have closing : (93 : CodePoint) ∈ netloc value := by
      rw [← List.contains_iff_mem, ← brackets, List.contains_iff_mem]
      exact member
    exact unclosed (within 93 (by decide) (by decide) (mem_netloc closing).1)
  intro code member
  by_contra marked
  have mark : isMark code = true := by simpa using marked
  obtain ⟨location, user, bracket⟩ := read code member mark
  rw [if_neg fun opened => unopened (mem_hostInfo opened).1] at bracket
  obtain ⟨-, safe, inner⟩ := mem_netloc location
  have other : code ≠ 91 := by
    rintro rfl
    exact unopened location
  have last : code ≠ 93 := by
    rintro rfl
    exact unclosed member
  simp [isMark, safe, inner, user, bracket, other, last] at mark

theorem plain_both (plain : PlainTarget runtime value) :
    ∃ target, enrollHostPort runtime value = .ok target ∧ runHostPort runtime value = .ok target := by
  obtain ⟨host, portText, port, rfl, present, clean, same, normal, filled, digits, read, low, high⟩ :=
    plain
  have unmarked := digits_unmarked fun code member _ => digits code member
  obtain ⟨location, ends⟩ := endpoint_plain clean unmarked
  have colon : isMark 58 = true := by decide
  have last : 58 ∉ portText := by
    intro member
    rw [unmarked 58 member] at colon
    cases colon
  refine ⟨(host, port.toNat), ?_, ?_⟩
  · exact enroll_ok.mpr ⟨portText, port, rfl, last, present,
      documented.isdigit_ascii portText filled digits, read, low, high, rfl⟩
  · rw [run_ok documented, location, ends]
    refine ⟨?_, present, same, ?_⟩
    · have unbracketed : ∀ mark, mark ≠ 58 → isMark mark = true → mark ∉ host ++ 58 :: portText := by
        intro mark other marked member
        rcases List.mem_append.mp member with before | after
        · rw [clean mark before] at marked
          cases marked
        rcases List.mem_cons.mp after with same | late
        · exact other same
        · rw [unmarked mark late] at marked
          cases marked
      have one : (host ++ 58 :: portText).contains 91 = false := by
        rw [← Bool.not_eq_true, List.contains_iff_mem]
        exact unbracketed 91 (by decide) (by decide)
      have two : (host ++ 58 :: portText).contains 93 = false := by
        rw [← Bool.not_eq_true, List.contains_iff_mem]
        exact unbracketed 93 (by decide) (by decide)
      simp only [netlocOk, one, two, beq_self_eq_true, Bool.not_false, Bool.true_or, Bool.true_and]
      exact normal
    · have all : portText.all isDigit = true := List.all_eq_true.mpr digits
      have number : runtime.url.int portText = some port := read
      rw [portOf, if_neg filled, if_pos all, number]
      simp only
      rw [if_pos ⟨by omega, high⟩]

/-- What both accept as one target is plain. -/
theorem both_plain {target : Str × Nat} (enrolled : enrollHostPort runtime value = .ok target)
    (ran : runHostPort runtime value = .ok target) : PlainTarget runtime value := by
  obtain ⟨host, port⟩ := target
  obtain ⟨portText, number, whole, last, present, digits, read, low, high, rfl⟩ := enroll_ok.mp enrolled
  obtain ⟨checked, -, same, ports⟩ := (run_ok documented).mp ran
  have unmarked := digits_unmarked (documented.isdigit_plain portText digits).2
  have clean := host_unmarked documented whole unmarked checked same
  obtain ⟨location, ends⟩ := endpoint_plain clean unmarked
  rw [← whole] at location ends
  rw [ends] at same ports
  have filled := (documented.isdigit_plain portText digits).1
  have ascii : portText.all isDigit = true := by
    by_contra other
    rw [portOf, if_neg filled, if_neg other] at ports
    cases ports
  refine ⟨host, portText, number, whole, present, clean, same, ?_, filled,
    List.all_eq_true.mp ascii, read, low, high⟩
  rw [location] at checked
  simp only [netlocOk, Bool.and_eq_true] at checked
  exact checked.2

/-- The two parsers agree exactly on plain targets and on the values that neither of them finds a
target in. -/
theorem parsers_agree_iff : Agree runtime value ↔
    PlainTarget runtime value ∨ (NoTarget runtime value ∧ NoEndpoint runtime value) := by
  rw [Agree, enroll_config, run_config documented]
  apply or_congr_left
  constructor
  · rintro ⟨target, enrolled, ran⟩
    exact both_plain documented enrolled ran
  · exact plain_both documented
end Agreement

/-! An interpreter for ASCII texts. -/
def asciiInt (text : Str) : Option Int :=
  if text = [] ∨ text.all isDigit = false then none else some (digitsValue text)

def asciiUrl : UrlLibrary := ⟨lowerAscii, asciiInt, fun _ => true, fun _ => true⟩

def asciiRuntime : TargetRuntime where
  lower := lowerAscii
  expanduser := id
  pathExists := fun _ => false
  urlparse := fun text => authority asciiUrl (text.drop 2)
  int := asciiInt
  isdigit := fun text => text ≠ [] && text.all isDigit
  bracketed := fun _ => true
  normalized := fun _ => true

theorem lowerAscii_mark {text : Str} {code : CodePoint} (member : code ∈ lowerAscii text)
    (mark : isMark code = true) : code ∈ text := by
  obtain ⟨point, within, same⟩ := List.mem_map.mp member
  by_cases upper : 65 ≤ point.val ∧ point.val ≤ 90
  · -- a small letter is no mark
    rw [if_pos upper] at same
    have value : code.val = point.val + 32 := by
      have sum : (point + 32).val = point.val + 32 := by
        rw [Fin.val_add]
        have small : ((32 : CodePoint) : Nat) = 32 := rfl
        omega
      rw [← same, sum]
    simp only [isMark, isUnsafe, endsNetloc, Bool.or_eq_true, beq_iff_eq, Fin.ext_iff] at mark
    have numbers : ((9 : CodePoint) : Nat) = 9 ∧ ((10 : CodePoint) : Nat) = 10 ∧
        ((13 : CodePoint) : Nat) = 13 ∧ ((47 : CodePoint) : Nat) = 47 ∧ ((63 : CodePoint) : Nat) = 63 ∧
        ((35 : CodePoint) : Nat) = 35 ∧ ((64 : CodePoint) : Nat) = 64 ∧ ((58 : CodePoint) : Nat) = 58 ∧
        ((91 : CodePoint) : Nat) = 91 ∧ ((93 : CodePoint) : Nat) = 93 := by
      decide
    omega
  · rw [if_neg upper] at same
    exact same ▸ within

theorem asciiRuntime_documented : Documented asciiRuntime where
  urlparse := fun _ => rfl
  isdigit_ascii := by
    intro text present digits
    simpa [asciiRuntime, present] using digits
  isdigit_plain := by
    intro text digits
    simp only [asciiRuntime, Bool.and_eq_true, decide_eq_true_eq, List.all_eq_true] at digits
    exact ⟨digits.1, fun code member _ => digits.2 code member⟩
  int_ascii := by
    intro text number present digits read
    have all : text.all isDigit = true := List.all_eq_true.mpr digits
    simp only [asciiRuntime, asciiInt, present, all, Bool.true_eq_false, or_self, if_false,
      Option.some.injEq] at read
    exact read.symm
  lower_mark := fun _ _ => lowerAscii_mark
  lower_empty := fun _ empty => List.map_eq_nil_iff.mp empty

theorem loopback_agrees : Agree asciiRuntime (lit "127.0.0.1:2222") := by
  apply (parsers_agree_iff asciiRuntime_documented).mpr
  refine .inl ⟨lit "127.0.0.1", lit "2222", 2222, by decide +kernel, by decide, ?_, by decide +kernel, rfl,
    by decide, ?_, by decide +kernel, by decide, by decide⟩
  · have clean : (lit "127.0.0.1").all (fun code => !isMark code) = true := by decide +kernel
    intro code member
    simpa using List.all_eq_true.mp clean code member
  · have digits : (lit "2222").all isDigit = true := by decide +kernel
    exact List.all_eq_true.mp digits

/-- The enrollment scans one host, and the tunnel is led to another. -/
theorem parsers_differ :
    enrollHostPort asciiRuntime (lit "user@127.0.0.1:2222") = .ok (lit "user@127.0.0.1", 2222) ∧
    runHostPort asciiRuntime (lit "user@127.0.0.1:2222") = .ok (lit "127.0.0.1", 2222) ∧
    ¬ Agree asciiRuntime (lit "user@127.0.0.1:2222") := by
  have enrolled : enrollHostPort asciiRuntime (lit "user@127.0.0.1:2222") =
      .ok (lit "user@127.0.0.1", 2222) := by decide +kernel
  have ran : runHostPort asciiRuntime (lit "user@127.0.0.1:2222") = .ok (lit "127.0.0.1", 2222) := by
    decide +kernel
  refine ⟨enrolled, ran, ?_⟩
  rintro (⟨target, one, two⟩ | ⟨⟨message, refused⟩, -⟩)
  · rw [enrolled] at one
    rw [ran] at two
    have same : lit "user@127.0.0.1" = lit "127.0.0.1" :=
      congrArg Prod.fst (Except.ok.inj (one.trans two.symm))
    revert same
    decide +kernel
  · rw [enrolled] at refused
    cases refused

end VibeConnect.ProxyTarget
