import VibeConnect.Python.Text

/-! `configparser.ConfigParser` with its defaults: strict, `=` and `:` as delimiters,
whole-line comments after `#` or `;`, indented lines that continue a value, empty
lines inside a value. Values are read raw. `lower` is the `optionxform`. -/
namespace Python.ConfigParser
open Python.Text

/-! Lines. -/
def newline : CodePoint := 10

/-- `io.TextIOWrapper` with universal newlines. -/
def universalNewlines : Str → Str
  | 13 :: 10 :: rest => newline :: universalNewlines rest
  | point :: rest => (if point = 13 then newline else point) :: universalNewlines rest
  | [] => []

/-- The pieces between breaks. Nothing after the last break is no piece. -/
def pieces (isBreak : CodePoint → Bool) : Str → List Str
  | [] => []
  | point :: rest =>
      if isBreak point then [] :: pieces isBreak rest
      else match pieces isBreak rest with
        | [] => [[point]]
        | piece :: more => (point :: piece) :: more

/-- The lines of a file that is iterated, without their newlines. -/
def fileLines (text : Str) : List Str := pieces (· == newline) text

def isLineBreak (point : CodePoint) : Bool :=
  (10 ≤ point.val && point.val ≤ 13) || (28 ≤ point.val && point.val ≤ 30) ||
    point.val == 0x85 || point.val == 0x2028 || point.val == 0x2029

/-- `str.splitlines`. A `\r\n` is one break. -/
def splitlines (text : Str) : List Str := pieces isLineBreak (universalNewlines text)

def joinNewline (lines : List Str) : Str := List.intercalate [newline] lines

section
variable {isBreak : CodePoint → Bool}

theorem pieces_unbroken (text piece : Str) (member : piece ∈ pieces isBreak text) :
    ∀ point ∈ piece, isBreak point = false := by
  induction text generalizing piece with
  | nil => cases member
  | cons head rest ih =>
      unfold pieces at member
      split at member
      · rcases List.mem_cons.mp member with rfl | later
        · simp
        · exact ih piece later
      · rename_i unbroken
        have plain : isBreak head = false := by simpa using unbroken
        split at member
        · obtain rfl := List.mem_singleton.mp member
          simp [plain]
        · rename_i first more cut
          rw [cut] at ih
          rcases List.mem_cons.mp member with rfl | later
          · intro point within
            rcases List.mem_cons.mp within with rfl | within
            · exact plain
            · exact ih first List.mem_cons_self point within
          · exact ih piece (List.mem_cons_of_mem _ later)

theorem pieces_break (piece rest : Str) (last : CodePoint) (breaks : isBreak last = true)
    (unbroken : ∀ point ∈ piece, isBreak point = false) :
    pieces isBreak (piece ++ last :: rest) = piece :: pieces isBreak rest := by
  induction piece with
  | nil => simp [pieces, breaks]
  | cons head tail ih =>
      have plain := unbroken head List.mem_cons_self
      rw [List.cons_append, pieces, ih fun point within => unbroken point (List.mem_cons_of_mem _ within)]
      simp [plain]
end

theorem joinNewline_cons (value next : Str) (rest : List Str) :
    joinNewline (value :: next :: rest) = value ++ newline :: joinNewline (next :: rest) := by
  simp [joinNewline, List.intercalate]

theorem newline_breaks (point : CodePoint) (plain : isLineBreak point = false) :
    (point == newline) = false ∧ point ≠ 13 := by
  constructor
  · apply beq_eq_false_iff_ne.mpr
    rintro rfl
    cases plain
  · rintro rfl
    cases plain

/-- Pieces that are joined and ended by newlines are the lines of the text. -/
theorem fileLines_join (piece : Str) (rest : List Str)
    (unbroken : ∀ line ∈ piece :: rest, ∀ point ∈ line, isLineBreak point = false) :
    fileLines (joinNewline (piece :: rest) ++ [newline]) = piece :: rest := by
  induction rest generalizing piece with
  | nil =>
      have plain := fun point within => (newline_breaks point
        (unbroken piece List.mem_cons_self point within)).1
      have joined : joinNewline [piece] = piece := by simp [joinNewline, List.intercalate]
      rw [joined, fileLines, pieces_break piece [] newline (by simp) plain, pieces]
  | cons next rest ih =>
      have plain := fun point within => (newline_breaks point
        (unbroken piece List.mem_cons_self point within)).1
      have later := ih next fun line member => unbroken line (List.mem_cons_of_mem _ member)
      rw [joinNewline_cons, List.append_assoc, List.cons_append, fileLines,
        pieces_break piece _ newline (by simp) plain]
      exact congrArg _ later

theorem universalNewlines_plain (text : Str) (plain : ∀ point ∈ text, point ≠ 13) :
    universalNewlines text = text := by
  induction text with
  | nil => rfl
  | cons head rest ih =>
      have other := plain head List.mem_cons_self
      have same := ih fun point within => plain point (List.mem_cons_of_mem _ within)
      rw [universalNewlines]
      · rw [same, if_neg other]
      · intro more first
        exact absurd first other

theorem mem_joinNewline (lines : List Str) (point : CodePoint) (within : point ∈ joinNewline lines) :
    point = newline ∨ ∃ line ∈ lines, point ∈ line := by
  induction lines with
  | nil => simp [joinNewline, List.intercalate] at within
  | cons line rest ih =>
      cases rest with
      | nil =>
          have joined : joinNewline [line] = line := by simp [joinNewline, List.intercalate]
          rw [joined] at within
          exact .inr ⟨line, List.mem_cons_self, within⟩
      | cons next rest =>
          rw [joinNewline_cons] at within
          rcases List.mem_append.mp within with inside | later
          · exact .inr ⟨line, List.mem_cons_self, inside⟩
          rcases List.mem_cons.mp later with first | later
          · exact .inl first
          · exact (ih later).imp_right fun ⟨held, member, inside⟩ =>
              ⟨held, List.mem_cons_of_mem _ member, inside⟩

/-! One line. -/
def rstrip (text : Str) : Str := (text.reverse.dropWhile isSpace).reverse

def indentation (line : Str) : Nat := (line.takeWhile isSpace).length

def isComment (value : Str) : Bool := value.head?.any fun point => point == 35 || point == 59

/-- `\[(?P<header>.+)\]` at the start of a line. -/
def sectionName : Str → Option Str
  | 91 :: rest => match rest.reverse.dropWhile (· != 93) with
      | _ :: name => if name.isEmpty then none else some name.reverse
      | [] => none
  | _ => none

def isDelimiter (point : CodePoint) : Bool := point == 61 || point == 58

/-- `(?P<option>.*?)\s*(?:(?P<vi>=|:)\s*(?P<value>.*))$`, both parts stripped. -/
def optionParts (value : Str) : Option (Str × Str) :=
  match value.dropWhile (!isDelimiter ·) with
  | _ :: rest => some (rstrip (value.takeWhile (!isDelimiter ·)), strip rest)
  | [] => none

inductive Fault where
  | duplicateSection (header : Str)
  | duplicateOption (header option : Str)
  | missingSectionHeader
  | parsing
  deriving DecidableEq

/-- An option and the lines of its value. -/
structure Entry where
  header : Str
  option : Str
  lines : List Str
  deriving DecidableEq

def Entry.key (entry : Entry) : Str × Str := (entry.header, entry.option)

/-- The value once its lines are joined. -/
def Entry.value (entry : Entry) : Str := rstrip (joinNewline entry.lines)

def Entry.pair (entry : Entry) : (Str × Str) × Str := (entry.key, entry.value)

/-- What has been read. `current` is the section and `continuing` says that it has an
option to continue; `entries` has the last option first. -/
structure Reading where
  headers : List Str
  entries : List Entry
  current : Option Str
  continuing : Bool
  indent : Nat
  malformed : Bool
  deriving DecidableEq

def Reading.fresh : Reading := ⟨[], [], none, false, 0, false⟩

inductive Line where
  | comment
  | blank
  | continued (value : Str)
  | heading (header : Str)
  | orphan
  | option (header name value : Str)
  | stray
  deriving DecidableEq

def classify (reading : Reading) (line : Str) : Line :=
  let value := strip line
  if isComment value then .comment
  else if value.isEmpty then .blank
  else if reading.continuing && decide (reading.indent < indentation line) then .continued value
  else match sectionName value with
    | some header => .heading header
    | none => match reading.current with
      | none => .orphan
      | some header => match optionParts value with
        | some (name, value) => .option header name value
        | none => .stray

def defaultSection : Str := lit "DEFAULT"

/-- `cursect[optname].append`. -/
def extendLast (entries : List Entry) (value : Str) : List Entry :=
  match entries with
  | [] => []
  | entry :: rest => { entry with lines := entry.lines ++ [value] } :: rest

section
variable (lower : Str → Str)

def readLine (reading : Reading) (line : Str) : Except Fault Reading :=
  match classify reading line with
  | .comment => .ok reading
  | .blank =>
      if reading.continuing then .ok { reading with entries := extendLast reading.entries [] }
      else .ok reading
  | .continued value => .ok { reading with entries := extendLast reading.entries value }
  | .heading header =>
      if header ∈ reading.headers then .error (.duplicateSection header)
      else .ok { reading with
        headers := if header = defaultSection then reading.headers else reading.headers ++ [header]
        current := some header
        continuing := false
        indent := indentation line }
  | .orphan => .error .missingSectionHeader
  | .option header name value =>
      if (header, lower name) ∈ reading.entries.map Entry.key then
        .error (.duplicateOption header (lower name))
      else .ok { reading with
        entries := ⟨header, lower name, [value]⟩ :: reading.entries
        continuing := !(lower name).isEmpty
        indent := indentation line
        malformed := reading.malformed || name.isEmpty }
  | .stray => .ok { reading with indent := indentation line, malformed := true }

/-- The sections of a file, and its options with their values. -/
structure Parsed where
  headers : List Str
  values : List ((Str × Str) × Str)
  deriving DecidableEq

def parse (lines : List Str) : Except Fault Parsed :=
  match lines.foldlM (readLine lower) .fresh with
  | .error fault => .error fault
  | .ok reading =>
      if reading.malformed then .error .parsing
      else .ok ⟨reading.headers, reading.entries.map Entry.pair⟩

/-- The option that a line is read into. -/
def owner (reading : Reading) (line : Str) : Option (Str × Str) :=
  match classify reading line with
  | .continued _ => reading.entries.head?.map Entry.key
  | .option header name _ => some (header, lower name)
  | _ => none

/-- Each line with the option that it is read into. -/
def owners (reading : Reading) : List Str → List (Str × Option (Str × Str))
  | [] => []
  | line :: rest => (line, owner lower reading line) :: match readLine lower reading line with
      | .ok next => owners next rest
      | .error _ => []
end

/-- The lines that are not read into an option. -/
def unowned (lower : Str → Str) (key : Str × Str) (lines : List Str) : List Str :=
  ((owners lower .fresh lines).filter fun line => line.2 != some key).map Prod.fst

def Parsed.own (parsed : Parsed) (key : Str × Str) : Option Str := parsed.values.lookup key

/-- The options of a section are its own and the default ones. -/
def Parsed.value (parsed : Parsed) (header option : Str) : Option Str :=
  (parsed.own (header, option)).or (parsed.own (defaultSection, option))

/-! Two readings that differ in one option. -/
/-- The reading of a file and the one of what is left of it. Inside the value of the option
the reading of the rest still stands at the option before; a line that ends the value is
not deeper than that option, so it is no continuation there either. -/
inductive Without (key : Str × Str) : Reading → Reading → Prop where
  | before {reading : Reading} (absent : key ∉ reading.entries.map Entry.key) :
      Without key reading reading
  | inside {reading left : Reading} (entry : Entry) (entries : List Entry)
      (named : entry.key = key) (first : reading.entries = entry :: entries)
      (going : reading.continuing = true) (absent : key ∉ entries.map Entry.key)
      (same : left.entries.map Entry.pair = entries.map Entry.pair)
      (headers : left.headers = reading.headers) (current : left.current = reading.current)
      (shallow : left.continuing = true → reading.indent ≤ left.indent)
      (malformed : left.malformed = true → reading.malformed = true) : Without key reading left
  | past {reading left : Reading} (entry : Entry) (later entries kept : List Entry)
      (named : entry.key = key) (split : reading.entries = later ++ entry :: entries)
      (remain : left.entries = later ++ kept)
      (absentLater : key ∉ later.map Entry.key) (absent : key ∉ entries.map Entry.key)
      (same : kept.map Entry.pair = entries.map Entry.pair)
      (further : reading.continuing = true → later ≠ [])
      (headers : left.headers = reading.headers) (current : left.current = reading.current)
      (continuing : left.continuing = reading.continuing) (indent : left.indent = reading.indent)
      (malformed : left.malformed = true → reading.malformed = true) : Without key reading left

section
variable {lower : Str → Str} {key : Str × Str} {reading left next : Reading} {line : Str}

theorem rstrip_newline (text : Str) : rstrip (text ++ [newline]) = rstrip text := by
  unfold rstrip
  rw [List.reverse_append]
  rfl

theorem rstrip_join_blank (lines : List Str) :
    rstrip (joinNewline (lines ++ [[]])) = rstrip (joinNewline lines) := by
  have ended : ∀ value rest, joinNewline (value :: rest ++ [[]]) =
      joinNewline (value :: rest) ++ [newline] := by
    intro value rest
    induction rest generalizing value with
    | nil => simp [joinNewline, List.intercalate]
    | cons next rest ih =>
        rw [joinNewline_cons]
        simp only [List.cons_append] at ih ⊢
        rw [joinNewline_cons, ih next]
        simp
  cases lines with
  | nil => rfl
  | cons value rest => rw [ended, rstrip_newline]

/-- Empty lines at the end of a value are not part of it. -/
theorem pair_extendLast (entries : List Entry) :
    (extendLast entries []).map Entry.pair = entries.map Entry.pair := by
  cases entries with
  | nil => rfl
  | cons entry rest => simp [extendLast, Entry.pair, Entry.key, Entry.value, rstrip_join_blank]

theorem key_extendLast (entries : List Entry) (value : Str) :
    (extendLast entries value).map Entry.key = entries.map Entry.key := by
  cases entries <;> rfl

theorem extendLast_append (later entries : List Entry) (value : Str) (further : later ≠ []) :
    extendLast (later ++ entries) value = extendLast later value ++ entries := by
  cases later with
  | nil => contradiction
  | cons entry rest => rfl

theorem extendLast_ne {entries : List Entry} {value : Str} (further : entries ≠ []) :
    extendLast entries value ≠ [] := by
  cases entries with
  | nil => contradiction
  | cons entry rest => exact List.cons_ne_nil _ _

theorem keys_of_pairs {one two : List Entry} (same : one.map Entry.pair = two.map Entry.pair) :
    one.map Entry.key = two.map Entry.key := by
  have firsts := congrArg (List.map Prod.fst) same
  simpa [Function.comp_def, Entry.pair] using firsts

theorem classify_same (current : left.current = reading.current)
    (continuing : left.continuing = reading.continuing) (indent : left.indent = reading.indent) :
    classify left line = classify reading line := by
  simp only [classify, current, continuing, indent]

/-- A line that does not continue the deeper of two readings continues neither. -/
theorem classify_shallow (current : left.current = reading.current)
    (going : reading.continuing = true)
    (shallow : left.continuing = true → reading.indent ≤ left.indent)
    (other : ∀ value, classify reading line ≠ .continued value) :
    classify left line = classify reading line := by
  simp only [classify, current] at other ⊢
  by_cases comment : isComment (strip line) = true
  · simp [comment]
  by_cases blank : (strip line).isEmpty = true
  · simp [comment, blank]
  by_cases deep : reading.indent < indentation line
  · exact absurd (by simp [comment, blank, deep, going]) (other (strip line))
  have level : ¬ (left.continuing = true ∧ left.indent < indentation line) := by
    rintro ⟨continues, deeper⟩
    have := shallow continues
    omega
  have stays : (left.continuing && decide (left.indent < indentation line)) = false := by
    simpa using level
  simp [comment, blank, deep, stays]

theorem continuing_of_continued {value : Str} (found : classify reading line = .continued value) :
    reading.continuing = true := by
  simp only [classify] at found
  by_cases going : reading.continuing = true
  · exact going
  · simp only [going, Bool.false_eq_true, Bool.false_and, if_false] at found
    split at found
    · cases found
    split at found
    · cases found
    split at found
    · cases found
    split at found
    · cases found
    split at found <;> cases found

theorem level_of_option {header name value : Str}
    (found : classify reading line = .option header name value) :
    reading.continuing = true → indentation line ≤ reading.indent := by
  intro going
  by_contra deep
  have deeper : reading.indent < indentation line := by omega
  simp only [classify, going, deeper, decide_true, Bool.and_self, if_true] at found
  split at found
  · cases found
  split at found <;> cases found

/-- A line of the option itself moves only the reading of the whole file. -/
theorem owned_step (without : Without key reading left) (named : key.2 ≠ [])
    (read : readLine lower reading line = .ok next)
    (owned : owner lower reading line = some key) : Without key next left := by
  cases found : classify reading line with
  | continued value =>
      simp only [readLine, found, Except.ok.injEq] at read
      simp only [owner, found] at owned
      subst read
      have going := continuing_of_continued found
      cases without with
      | before absent =>
          -- the line would continue the option before it is there
          obtain ⟨entry, head, same⟩ := Option.map_eq_some_iff.mp owned
          exact absurd (List.mem_map.mpr ⟨entry, List.mem_of_head? head, same⟩) absent
      | inside entry entries named first going absent same headers current shallow malformed =>
          refine .inside { entry with lines := entry.lines ++ [value] } entries named ?_ going absent
            same headers current shallow malformed
          simp only [first, extendLast]
      | past entry later entries kept named split remain absentLater absent same further =>
          have last := further going
          cases later with
          | nil => contradiction
          | cons latest earlier =>
              simp only [split, List.cons_append, List.head?_cons, Option.map_some,
                Option.some.injEq] at owned
              exact absurd (by simp [owned]) absentLater
  | option header name value =>
      simp only [owner, found, Option.some.injEq] at owned
      simp only [readLine, found] at read
      split at read
      · cases read
      rename_i fresh
      cases read
      rw [owned] at fresh
      cases without with
      | before absent =>
          refine .inside ⟨header, lower name, [value]⟩ reading.entries owned rfl ?_ absent rfl rfl rfl
            (level_of_option found) ?_
          · subst owned
            simpa using named
          · intro malformed
            simp [malformed]
      | inside entry entries named first =>
          exact absurd (by simp [first, named]) fresh
      | past entry later entries kept named split =>
          exact absurd (by simp [split, named]) fresh
  | _ => simp [owner, found] at owned

/-- Any other line is the same line of both readings. -/
theorem classify_kept (without : Without key reading left)
    (other : owner lower reading line ≠ some key) : classify left line = classify reading line := by
  cases without with
  | before absent => rfl
  | inside entry entries named first going absent same headers current shallow =>
      apply classify_shallow current going shallow
      intro value found
      simp [owner, found, first, named] at other
  | past entry later entries kept named split remain absentLater absent same further headers current
      continuing indent => exact classify_same current continuing indent

theorem kept_before (absent : key ∉ reading.entries.map Entry.key)
    (read : readLine lower reading line = .ok next)
    (other : owner lower reading line ≠ some key) : key ∉ next.entries.map Entry.key := by
  cases found : classify reading line with
  | comment =>
      simp only [readLine, found, Except.ok.injEq] at read
      rwa [← read]
  | blank =>
      simp only [readLine, found] at read
      split at read <;> cases read
      · simpa only [key_extendLast] using absent
      · exact absent
  | continued value =>
      simp only [readLine, found, Except.ok.injEq] at read
      rw [← read]
      simpa only [key_extendLast] using absent
  | heading header =>
      simp only [readLine, found] at read
      split at read <;> cases read
      exact absent
  | orphan => simp [readLine, found] at read
  | option header name value =>
      simp only [readLine, found] at read
      split at read <;> cases read
      simp only [owner, found, ne_eq, Option.some.injEq] at other
      simp only [List.map_cons, List.mem_cons, not_or]
      exact ⟨fun same => other same.symm, absent⟩
  | stray =>
      simp only [readLine, found, Except.ok.injEq] at read
      rwa [← read]

/-- Every other line keeps the two readings together. -/
theorem kept_step (without : Without key reading left)
    (read : readLine lower reading line = .ok next)
    (other : owner lower reading line ≠ some key) :
    ∃ after, readLine lower left line = .ok after ∧ Without key next after := by
  have alike := classify_kept without other
  cases without with
  | before absent => exact ⟨next, read, .before (kept_before absent read other)⟩
  | inside entry entries named first going absent same headers current shallow malformed =>
      have keys := keys_of_pairs same
      cases found : classify reading line with
      | comment =>
          rw [found] at alike
          simp only [readLine, found, alike, Except.ok.injEq] at read ⊢
          subst read
          exact ⟨left, rfl, .inside entry entries named first going absent same headers current
            shallow malformed⟩
      | blank =>
          rw [found] at alike
          simp only [readLine, found, alike] at read ⊢
          rw [if_pos going] at read
          cases read
          have first' : extendLast reading.entries [] =
              { entry with lines := entry.lines ++ [[]] } :: entries := by rw [first, extendLast]
          split
          · refine ⟨_, rfl, .inside { entry with lines := entry.lines ++ [[]] } entries named first'
              going absent ?_ headers current shallow malformed⟩
            rw [pair_extendLast, same]
          · exact ⟨_, rfl, .inside { entry with lines := entry.lines ++ [[]] } entries named first'
              going absent same headers current shallow malformed⟩
      | continued value => simp [owner, found, first, named] at other
      | heading header =>
          rw [found] at alike
          simp only [readLine, found, alike, headers] at read ⊢
          split at read <;> cases read
          rename_i fresh
          rw [if_neg fresh]
          refine ⟨_, rfl, .past entry [] entries left.entries named first rfl (by simp) absent same
            (by simp) rfl rfl rfl rfl malformed⟩
      | orphan => simp [readLine, found] at read
      | option header name value =>
          rw [found] at alike
          simp only [readLine, found, alike, first, List.map_cons, List.mem_cons] at read ⊢
          split at read <;> cases read
          rename_i fresh
          rw [not_or] at fresh
          rw [keys, if_neg fresh.2]
          refine ⟨_, rfl, .past entry [⟨header, lower name, [value]⟩] entries left.entries named rfl
            rfl ?_ absent same (by simp) headers current rfl rfl ?_⟩
          · exact fun member => fresh.1 ((List.mem_singleton.mp member).symm.trans named.symm)
          · simp only [Bool.or_eq_true]
            exact Or.imp_left malformed
      | stray =>
          rw [found] at alike
          simp only [readLine, found, alike, Except.ok.injEq] at read ⊢
          subst read
          exact ⟨_, rfl, .inside entry entries named first going absent same headers current
            (fun _ => le_refl _) (fun _ => rfl)⟩
  | past entry later entries kept named split remain absentLater absent same further headers current
      continuing indent malformed =>
      have keys := keys_of_pairs same
      cases found : classify reading line with
      | comment =>
          rw [found] at alike
          simp only [readLine, found, alike, Except.ok.injEq] at read ⊢
          subst read
          exact ⟨left, rfl, .past entry later entries kept named split remain absentLater absent same
            further headers current continuing indent malformed⟩
      | blank =>
          rw [found] at alike
          simp only [readLine, found, alike] at read ⊢
          split at read <;> cases read
          · rename_i going
            rw [if_pos (continuing.trans going)]
            refine ⟨_, rfl, .past entry (extendLast later []) entries kept named ?_ ?_ ?_ absent same
              ?_ headers current continuing indent malformed⟩
            · simp only [split, extendLast_append later _ _ (further going)]
            · simp only [remain, extendLast_append later _ _ (further going)]
            · simpa only [key_extendLast] using absentLater
            · exact fun _ => extendLast_ne (further going)
          · rename_i closed
            rw [if_neg (continuing ▸ closed)]
            exact ⟨left, rfl, .past entry later entries kept named split remain absentLater absent
              same further headers current continuing indent malformed⟩
      | continued value =>
          have going := continuing_of_continued found
          rw [found] at alike
          simp only [readLine, found, alike, Except.ok.injEq] at read ⊢
          subst read
          refine ⟨_, rfl, .past entry (extendLast later value) entries kept named ?_ ?_ ?_ absent same
            ?_ headers current continuing indent malformed⟩
          · simp only [split, extendLast_append later _ _ (further going)]
          · simp only [remain, extendLast_append later _ _ (further going)]
          · simpa only [key_extendLast] using absentLater
          · exact fun _ => extendLast_ne (further going)
      | heading header =>
          rw [found] at alike
          simp only [readLine, found, alike, headers] at read ⊢
          split at read <;> cases read
          rename_i fresh
          rw [if_neg fresh]
          exact ⟨_, rfl, .past entry later entries kept named split remain absentLater absent same
            (by simp) rfl rfl rfl rfl malformed⟩
      | orphan => simp [readLine, found] at read
      | option header name value =>
          rw [found] at alike
          simp only [readLine, found, alike, split, remain, List.map_append, List.map_cons,
            List.mem_append, List.mem_cons] at read ⊢
          split at read <;> cases read
          rename_i fresh
          simp only [not_or] at fresh
          rw [keys, if_neg (by simp [fresh.1, fresh.2.2])]
          refine ⟨_, rfl, .past entry (⟨header, lower name, [value]⟩ :: later) entries kept named rfl
            rfl ?_ absent same (by simp) headers current rfl rfl ?_⟩
          · rw [List.map_cons, List.mem_cons, not_or]
            exact ⟨fun same => fresh.2.1 (same.symm.trans named.symm), absentLater⟩
          · simp only [Bool.or_eq_true]
            exact Or.imp_left malformed
      | stray =>
          rw [found] at alike
          simp only [readLine, found, alike, Except.ok.injEq] at read ⊢
          subst read
          exact ⟨_, rfl, .past entry later entries kept named split remain absentLater absent same
            further headers current continuing rfl (fun _ => rfl)⟩

theorem lookup_absent {entries : List Entry} (absent : key ∉ entries.map Entry.key) :
    (entries.map Entry.pair).lookup key = none := by
  rw [List.lookup_eq_none_iff]
  intro pair member
  obtain ⟨entry, held, rfl⟩ := List.mem_map.mp member
  rw [bne_iff_ne]
  exact fun same => absent (List.mem_map.mpr ⟨entry, held, same.symm⟩)

theorem lookup_entry {entry : Entry} {entries : List Entry} (named : entry.key = key)
    {other : Str × Str} (differs : other ≠ key) :
    ((entry :: entries).map Entry.pair).lookup other = (entries.map Entry.pair).lookup other := by
  have unequal : (other == entry.key) = false := by rw [named]; exact beq_eq_false_iff_ne.mpr differs
  simp only [List.map_cons, Entry.pair, List.lookup_cons, unequal]

/-- At the end the reading of the rest lacks the option. -/
theorem Without.lookup_key (without : Without key reading left) :
    (left.entries.map Entry.pair).lookup key = none := by
  cases without with
  | before absent => exact lookup_absent absent
  | inside entry entries named first going absent same =>
      rw [same]
      exact lookup_absent absent
  | past entry later entries kept named split remain absentLater absent same =>
      rw [remain, List.map_append, same, ← List.map_append]
      apply lookup_absent
      simp [absentLater, absent]

/-- And it has every other one as it is. -/
theorem Without.lookup_other (without : Without key reading left) {other : Str × Str}
    (differs : other ≠ key) :
    (left.entries.map Entry.pair).lookup other = (reading.entries.map Entry.pair).lookup other := by
  cases without with
  | before absent => rfl
  | inside entry entries named first going absent same => rw [same, first, lookup_entry named differs]
  | past entry later entries kept named split remain absentLater absent same =>
      rw [remain, split, List.map_append, List.map_append, List.lookup_append, List.lookup_append,
        same, lookup_entry named differs]

theorem Without.headers_eq (without : Without key reading left) :
    left.headers = reading.headers := by
  cases without <;> first | rfl | assumption

theorem Without.malformed_imp (without : Without key reading left) :
    left.malformed = true → reading.malformed = true := by
  cases without <;> first | exact id | assumption

/-- The run over what is left of the lines. -/
theorem run_without (named : key.2 ≠ []) (lines : List Str) {reading left last : Reading}
    (without : Without key reading left)
    (ran : lines.foldlM (readLine lower) reading = .ok last) :
    ∃ ended, (((owners lower reading lines).filter fun line => line.2 != some key).map
        Prod.fst).foldlM (readLine lower) left = .ok ended ∧ Without key last ended := by
  induction lines generalizing reading left with
  | nil =>
      cases ran
      exact ⟨left, rfl, without⟩
  | cons line rest ih =>
      rw [List.foldlM_cons] at ran
      cases read : readLine lower reading line with
      | error fault => rw [read] at ran; cases ran
      | ok next =>
          rw [read] at ran
          simp only [owners, read, List.filter_cons]
          by_cases owned : owner lower reading line = some key
          · have moved := owned_step without named read owned
            simpa [owned] using ih moved ran
          · obtain ⟨after, stepped, moved⟩ := kept_step without read owned
            obtain ⟨ended, rest, last⟩ := ih moved ran
            refine ⟨ended, ?_, last⟩
            simp only [owned, bne_iff_ne, ne_eq, not_false_eq_true, if_true, List.map_cons,
              List.foldlM_cons, stepped]
            exact rest

/-- Without the lines of an option a file parses to the same without the option. -/
theorem parse_unowned {lines : List Str} {parsed : Parsed} (named : key.2 ≠ [])
    (read : parse lower lines = .ok parsed) :
    ∃ rest, parse lower (unowned lower key lines) = .ok rest ∧ rest.headers = parsed.headers ∧
      rest.own key = none ∧ ∀ other, other ≠ key → rest.own other = parsed.own other := by
  unfold parse at read ⊢
  cases ran : lines.foldlM (readLine lower) .fresh with
  | error fault => rw [ran] at read; cases read
  | ok last =>
      obtain ⟨ended, rest, without⟩ := run_without named lines (.before (by simp [Reading.fresh])) ran
      rw [ran] at read
      simp only at read
      split at read <;> cases read
      rename_i sound
      have clean : ¬ ended.malformed = true := fun malformed => sound (without.malformed_imp malformed)
      refine ⟨⟨ended.headers, ended.entries.map Entry.pair⟩, ?_, without.headers_eq,
        without.lookup_key, fun other differs => without.lookup_other differs⟩
      rw [unowned, rest]
      exact if_neg clean

theorem owners_lines (lines : List Str) {reading last : Reading}
    (ran : lines.foldlM (readLine lower) reading = .ok last) :
    (owners lower reading lines).map Prod.fst = lines := by
  induction lines generalizing reading with
  | nil => rfl
  | cons line rest ih =>
      rw [List.foldlM_cons] at ran
      cases read : readLine lower reading line with
      | error fault => rw [read] at ran; cases ran
      | ok next =>
          rw [read] at ran
          simp only [owners, read, List.map_cons, ih ran]

/-- A line that names an option. -/
def Names (lower : Str → Str) (line option : Str) : Prop :=
  ∃ name rest, strip line = name ++ rest ∧ lower name = option

theorem optionParts_name {value name rest : Str} (parts : optionParts value = some (name, rest)) :
    name <+: value := by
  unfold optionParts at parts
  split at parts
  · obtain ⟨rfl, -⟩ := Prod.mk.inj (Option.some.inj parts)
    have front := List.takeWhile_prefix (l := value) (!isDelimiter ·)
    apply List.IsPrefix.trans _ front
    rw [rstrip, ← List.reverse_suffix, List.reverse_reverse]
    exact List.dropWhile_suffix _
  · cases parts

theorem option_names {header name value : Str}
    (found : classify reading line = .option header name value) :
    Names lower line (lower name) := by
  simp only [classify] at found
  split at found
  · cases found
  split at found
  · cases found
  split at found
  · cases found
  split at found
  · cases found
  split at found
  · cases found
  split at found
  · rename_i parts
    cases found
    obtain ⟨rest, same⟩ := optionParts_name parts
    exact ⟨name, rest, same.symm, rfl⟩
  · cases found

/-- An option that is there at the end was there before or has a line that names it. -/
theorem named_line (lines : List Str) {reading last : Reading}
    (ran : lines.foldlM (readLine lower) reading = .ok last)
    (held : key ∈ last.entries.map Entry.key) :
    key ∈ reading.entries.map Entry.key ∨
      ∃ line, (line, some key) ∈ owners lower reading lines ∧ Names lower line key.2 := by
  induction lines generalizing reading with
  | nil =>
      cases ran
      exact .inl held
  | cons line rest ih =>
      rw [List.foldlM_cons] at ran
      cases read : readLine lower reading line with
      | error fault => rw [read] at ran; cases ran
      | ok next =>
          rw [read] at ran
          rcases ih ran with before | ⟨later, member, names⟩
          · by_cases owned : owner lower reading line = some key
            · cases found : classify reading line with
              | option header name value =>
                  refine .inr ⟨line, ?_, ?_⟩
                  · simp [owners, owned]
                  · simp only [owner, found, Option.some.injEq] at owned
                    rw [← owned]
                    exact option_names found
              | continued value =>
                  simp only [owner, found] at owned
                  obtain ⟨entry, head, same⟩ := Option.map_eq_some_iff.mp owned
                  exact .inl (List.mem_map.mpr ⟨entry, List.mem_of_head? head, same⟩)
              | _ => simp [owner, found] at owned
            · left
              by_contra absent
              exact kept_before absent read owned before
          · refine .inr ⟨later, ?_, names⟩
            simp [owners, read, member]

theorem parse_ran {lines : List Str} {parsed : Parsed} (read : parse lower lines = .ok parsed) :
    ∃ last, lines.foldlM (readLine lower) .fresh = .ok last ∧ last.headers = parsed.headers ∧
      last.entries.map Entry.pair = parsed.values := by
  unfold parse at read
  split at read
  · cases read
  rename_i last ran
  split at read <;> cases read
  exact ⟨last, ran, rfl, rfl⟩

theorem parse_lines {lines : List Str} {parsed : Parsed} (read : parse lower lines = .ok parsed) :
    (owners lower .fresh lines).map Prod.fst = lines := by
  obtain ⟨last, ran, -⟩ := parse_ran read
  exact owners_lines lines ran

theorem parse_named {lines : List Str} {parsed : Parsed} (read : parse lower lines = .ok parsed)
    {value : Str} (held : parsed.own key = some value) :
    ∃ line, (line, some key) ∈ owners lower .fresh lines ∧ Names lower line key.2 := by
  obtain ⟨last, ran, -, values⟩ := parse_ran read
  have entered : key ∈ last.entries.map Entry.key := by
    by_contra absent
    rw [Parsed.own, ← values, lookup_absent absent] at held
    cases held
  rcases named_line lines ran entered with impossible | named
  · simp [Reading.fresh] at impossible
  · exact named
end

end Python.ConfigParser
