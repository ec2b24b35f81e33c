import Mathlib.Data.List.TakeWhile
import VibeConnect.Python.JsonCodec

/-! `str.partition`, and what `urllib.parse.urlparse` makes of `//` and a text: the network
location up to a path, a query or a fragment, its host and its port. -/
namespace Python.Url
open Text JsonCodec

section Partition
variable {sep : CodePoint} {text front last : Str}

/-- `str.partition`; `none` is a text without the separator. -/
def partition (sep : CodePoint) (text : Str) : Option (Str × Str) :=
  match text.dropWhile (· != sep) with
  | _ :: rest => some (text.takeWhile (· != sep), rest)
  | [] => none

/-- `str.rpartition`. -/
def rpartition (sep : CodePoint) (text : Str) : Option (Str × Str) :=
  (partition sep text.reverse).map fun parts => (parts.2.reverse, parts.1.reverse)

theorem partition_at (clean : sep ∉ front) : partition sep (front ++ sep :: last) = some (front, last) := by
  have passes : ∀ code ∈ front, (code != sep) = true := by
    intro code member
    rw [bne_iff_ne]
    rintro rfl
    exact clean member
  rw [partition, List.dropWhile_append_of_pos passes, List.takeWhile_append_of_pos passes]
  simp

theorem partition_none : partition sep text = none ↔ sep ∉ text := by
  constructor
  · intro whole member
    obtain ⟨front, last, rfl, clean⟩ := List.eq_append_cons_of_mem member
    rw [partition_at clean] at whole
    cases whole
  · intro absent
    have passes : text.dropWhile (· != sep) = [] := by
      rw [List.dropWhile_eq_nil_iff]
      intro code member
      rw [bne_iff_ne]
      rintro rfl
      exact absent member
    rw [partition, passes]

theorem partition_iff : partition sep text = some (front, last) ↔
    text = front ++ sep :: last ∧ sep ∉ front := by
  constructor
  · intro parted
    by_cases member : sep ∈ text
    · obtain ⟨before, after, rfl, clean⟩ := List.eq_append_cons_of_mem member
      rw [partition_at clean] at parted
      cases parted
      exact ⟨rfl, clean⟩
    · rw [partition_none.mpr member] at parted
      cases parted
  · rintro ⟨rfl, clean⟩
    exact partition_at clean

theorem rpartition_iff : rpartition sep text = some (front, last) ↔
    text = front ++ sep :: last ∧ sep ∉ last := by
  rw [rpartition, Option.map_eq_some_iff]
  constructor
  · rintro ⟨⟨after, before⟩, parted, same⟩
    obtain ⟨rfl, rfl⟩ := Prod.mk.inj same
    obtain ⟨whole, clean⟩ := partition_iff.mp parted
    have back := congrArg List.reverse whole
    simp only [List.reverse_reverse, List.reverse_append, List.reverse_cons, List.append_assoc,
      List.singleton_append] at back
    exact ⟨back, by simpa using clean⟩
  · rintro ⟨rfl, clean⟩
    refine ⟨(last.reverse, front.reverse), ?_, by simp⟩
    apply partition_iff.mpr
    simpa using clean

theorem rpartition_none : rpartition sep text = none ↔ sep ∉ text := by
  rw [rpartition, Option.map_eq_none_iff, partition_none, List.mem_reverse]
end Partition

/-- What `urlparse` calls: `str.lower`, `int`, and the checks of a bracketed host and of the
characters under NFKC normalisation. -/
structure UrlLibrary where
  lower : Str → Str
  int : Str → Option Int
  bracketed : Str → Bool
  normalized : Str → Bool

/-- Tabs and line ends are taken out of a URL. -/
def isUnsafe (code : CodePoint) : Bool := code == 9 || code == 10 || code == 13

/-- `/`, `?` and `#`. -/
def endsNetloc (code : CodePoint) : Bool := code == 47 || code == 63 || code == 35

def netloc (text : Str) : Str := (text.filter fun code => !isUnsafe code).takeWhile (!endsNetloc ·)

/-- Without the user information. -/
def hostInfo (netloc : Str) : Str :=
  match rpartition 64 netloc with
  | some (_, info) => info
  | none => netloc

/-- The texts of the host and of the port; either can be empty. -/
def hostPort (info : Str) : Str × Str :=
  match partition 91 info with
  | some (_, bracketed) => match partition 93 bracketed with
      | some (host, rest) => (host, ((partition 58 rest).map Prod.snd).getD [])
      | none => (bracketed, [])
  | none => (partition 58 info).getD (info, [])

def endpoint (text : Str) : Str × Str := hostPort (hostInfo (netloc text))

section Authority
variable (library : UrlLibrary)

/-- The checks of the network location; a `ValueError` where one fails. -/
def netlocOk (netloc : Str) : Bool :=
  netloc.contains 91 == netloc.contains 93 && (!netloc.contains 91 || library.bracketed netloc) &&
    library.normalized netloc

/-- A zone after `%` keeps its case. -/
def lowerHost (host : Str) : Str :=
  library.lower (host.takeWhile (· != 37)) ++ host.dropWhile (· != 37)

/-- `port`; `none` is the `ValueError`. -/
def portOf (text : Str) : Option (Option Nat) :=
  if text = [] then some none
  else if text.all isDigit then match library.int text with
    | some port => if 0 ≤ port ∧ port ≤ 65535 then some (some port.toNat) else none
    | none => none
  else none

/-- `urlparse("//" + text)`: the host, and the port or its `ValueError`. -/
def authority (text : Str) : Option (Option Str × Option (Option Nat)) :=
  if netlocOk library (netloc text) then
    some (if (endpoint text).1 = [] then none else some (lowerHost library (endpoint text).1),
      portOf library (endpoint text).2)
  else none
end Authority

/-! Where the marks of a URL are. -/

/-- The marks that `urlparse` reads or takes out before it reads a host and a port. -/
def isMark (code : CodePoint) : Bool :=
  isUnsafe code || endsNetloc code || code == 64 || code == 58 || code == 91 || code == 93

theorem mem_netloc {text : Str} {code : CodePoint} (member : code ∈ netloc text) :
    code ∈ text ∧ isUnsafe code = false ∧ endsNetloc code = false := by
  have passed := List.mem_takeWhile_imp member
  have within := List.mem_filter.mp ((List.takeWhile_subset _) member)
  exact ⟨within.1, by simpa using within.2, by simpa using passed⟩

theorem netloc_clean {text : Str} (clean : ∀ code ∈ text, isUnsafe code = false ∧ endsNetloc code = false) :
    netloc text = text := by
  have kept : (text.filter fun code => !isUnsafe code) = text := by
    rw [List.filter_eq_self]
    intro code member
    simp [(clean code member).1]
  rw [netloc, kept, List.takeWhile_eq_self_iff]
  intro code member
  simp [(clean code member).2]

theorem mem_hostInfo {netloc : Str} {code : CodePoint} (member : code ∈ hostInfo netloc) :
    code ∈ netloc ∧ code ≠ 64 := by
  unfold hostInfo at member
  split at member
  · rename_i user info parted
    obtain ⟨rfl, clean⟩ := rpartition_iff.mp parted
    constructor
    · simp [member]
    · rintro rfl
      exact clean member
  · rename_i whole
    refine ⟨member, ?_⟩
    rintro rfl
    exact rpartition_none.mp whole member

theorem hostInfo_clean {netloc : Str} (clean : 64 ∉ netloc) : hostInfo netloc = netloc := by
  rw [hostInfo, rpartition_none.mpr clean]

/-- A host with brackets around it has none after it, and one without them has no mark in it. -/
theorem mem_host {info : Str} {code : CodePoint} (member : code ∈ (hostPort info).1) :
    code ∈ info ∧ (if 91 ∈ info then code ≠ 93 else code ≠ 58) := by
  unfold hostPort at member
  split at member
  · rename_i before bracketed opened
    obtain ⟨rfl, -⟩ := partition_iff.mp opened
    rw [if_pos (by simp)]
    split at member
    · rename_i host rest closed
      obtain ⟨rfl, clean⟩ := partition_iff.mp closed
      constructor
      · simp [member]
      · rintro rfl
        exact clean member
    · rename_i unclosed
      constructor
      · simp [member]
      · rintro rfl
        exact partition_none.mp unclosed member
  · rename_i plain
    rw [if_neg (partition_none.mp plain)]
    cases parted : partition 58 info with
    | none =>
        rw [parted] at member
        refine ⟨member, ?_⟩
        rintro rfl
        exact partition_none.mp parted member
    | some parts =>
        obtain ⟨host, port⟩ := parts
        rw [parted] at member
        obtain ⟨rfl, clean⟩ := partition_iff.mp parted
        constructor
        · simp [show code ∈ host from member]
        · rintro rfl
          exact clean member

/-- A host and a port without marks in them are read as they stand. -/
theorem endpoint_plain {host port : Str} (host_clean : ∀ code ∈ host, isMark code = false)
    (port_clean : ∀ code ∈ port, isMark code = false) :
    netloc (host ++ 58 :: port) = host ++ 58 :: port ∧ endpoint (host ++ 58 :: port) = (host, port) := by
  have colon : isMark 64 = true ∧ isMark 91 = true ∧ isMark 58 = true ∧ isUnsafe 58 = false ∧
      endsNetloc 58 = false := by
    decide
  have clean : ∀ code ∈ host ++ 58 :: port, code = 58 ∨ isMark code = false := by
    intro code member
    rcases List.mem_append.mp member with inside | later
    · exact .inr (host_clean code inside)
    · rcases List.mem_cons.mp later with first | inside
      · exact .inl first
      · exact .inr (port_clean code inside)
  have whole : netloc (host ++ 58 :: port) = host ++ 58 :: port := by
    apply netloc_clean
    intro code member
    rcases clean code member with rfl | plain
    · exact colon.2.2.2
    · simp only [isMark, Bool.or_eq_false_iff] at plain
      exact ⟨plain.1.1.1.1.1, plain.1.1.1.1.2⟩
  have absent : ∀ mark, mark ≠ 58 → isMark mark = true → mark ∉ host ++ 58 :: port := by
    intro mark other marked member
    rcases clean mark member with same | plain
    · exact other same
    · rw [marked] at plain
      cases plain
  have first : 58 ∉ host := by
    intro member
    have plain := host_clean 58 member
    rw [colon.2.2.1] at plain
    cases plain
  refine ⟨whole, ?_⟩
  rw [endpoint, whole, hostInfo_clean (absent 64 (by decide) colon.1), hostPort,
    partition_none.mpr (absent 91 (by decide) colon.2.1), partition_at first]
  rfl

end Python.Url
