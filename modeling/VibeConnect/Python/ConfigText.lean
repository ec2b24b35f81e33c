import VibeConnect.Python.ConfigParser

/-! Files that are written as sections of `name = value` lines, and what a parser reads of them. -/
namespace Python.ConfigText
open Text ConfigParser

abbrev Section := Str × List (Str × Str)

def optionLine (option : Str × Str) : Str := option.1 ++ lit " = " ++ option.2

def sectionLines (written : Section) : List Str :=
  (91 :: written.1 ++ [93]) :: written.2.map optionLine

/-- The sections with an empty line between them. -/
def confLines : List Section → List Str
  | [] => []
  | [last] => sectionLines last
  | first :: rest => sectionLines first ++ [] :: confLines rest

def sectionPairs (written : Section) : List ((Str × Str) × Str) :=
  written.2.map fun option => ((written.1, option.1), option.2)

/-- The options of the sections, the last one first. -/
def confPairs (sections : List Section) : List ((Str × Str) × Str) :=
  (sections.flatMap sectionPairs).reverse

/-- A text that begins and ends with no white space. -/
structure Trimmed (text : Str) : Prop where
  present : text ≠ []
  front : ∀ code, text.head? = some code → isSpace code = false
  back : ∀ code, text.getLast? = some code → isSpace code = false

/-- A name of an option: no white space or delimiter in it, no mark of a comment or a section at
its front, and nothing that `lower` changes. -/
structure PlainName (lower : Str → Str) (name : Str) : Prop where
  present : name ≠ []
  inside : ∀ code ∈ name, isSpace code = false ∧ isDelimiter code = false
  front : ∀ code, name.head? = some code → code ≠ 35 ∧ code ≠ 59 ∧ code ≠ 91
  lowered : lower name = name

structure WellWritten (lower : Str → Str) (sections : List Section) : Prop where
  headers : (sections.map Prod.fst).Nodup
  header : ∀ written ∈ sections, written.1 ≠ [] ∧ written.1 ≠ defaultSection
  names : ∀ written ∈ sections, (written.2.map Prod.fst).Nodup
  named : ∀ written ∈ sections, ∀ option ∈ written.2, PlainName lower option.1
  valued : ∀ written ∈ sections, ∀ option ∈ written.2, Trimmed option.2

/-! Texts without white space at their ends. -/
section Trim
variable {text : Str}

theorem dropWhile_front {text : Str} (front : ∀ code, text.head? = some code → isSpace code = false) :
    text.dropWhile isSpace = text := by
  cases text with
  | nil => rfl
  | cons first rest => simp [front first rfl]

theorem rstrip_back (back : ∀ code, text.getLast? = some code → isSpace code = false) :
    rstrip text = text := by
  have reversed : text.reverse.dropWhile isSpace = text.reverse := by
    apply dropWhile_front
    intro code head
    rw [List.head?_reverse] at head
    exact back code head
  rw [rstrip, reversed, List.reverse_reverse]

theorem strip_ends (front : ∀ code, text.head? = some code → isSpace code = false)
    (back : ∀ code, text.getLast? = some code → isSpace code = false) : strip text = text := by
  have same := rstrip_back back
  rw [rstrip] at same
  rw [strip, dropWhile_front front, same]

theorem Trimmed.strip (trimmed : Trimmed text) : Text.strip text = text :=
  strip_ends trimmed.front trimmed.back

theorem Trimmed.rstrip (trimmed : Trimmed text) : ConfigParser.rstrip text = text :=
  rstrip_back trimmed.back

theorem indentation_front (front : ∀ code, text.head? = some code → isSpace code = false) :
    indentation text = 0 := by
  cases text with
  | nil => rfl
  | cons first rest => simp [indentation, front first rfl]

/-- A text without white space is one that begins and ends with none. -/
theorem Trimmed.unspaced (present : text ≠ []) (unspaced : ∀ code ∈ text, isSpace code = false) :
    Trimmed text where
  present := present
  front := fun code head => unspaced code (List.mem_of_head? head)
  back := fun code last => unspaced code (List.mem_of_getLast? last)
end Trim

/-! One line. -/
section Line
variable {lower : Str → Str} {reading : Reading} {header name value : Str}

theorem classify_blank : classify reading [] = .blank := by
  simp [classify, strip, isComment]

theorem classify_heading (present : header ≠ []) :
    classify reading (91 :: header ++ [93]) = .heading header := by
  have space : isSpace 91 = false ∧ isSpace 93 = false := by decide
  have front : ∀ code, (91 :: header ++ [93]).head? = some code → isSpace code = false := by
    rintro code ⟨⟩
    exact space.1
  have back : ∀ code, (91 :: header ++ [93]).getLast? = some code → isSpace code = false := by
    intro code last
    rw [List.getLast?_concat] at last
    cases last
    exact space.2
  have named : sectionName (91 :: header ++ [93]) = some header := by
    have filled : header.reverse.isEmpty = false := by simpa using present
    simp [sectionName, filled]
  have level : ¬(reading.indent < 0) := Nat.not_lt_zero _
  simp only [classify, strip_ends front back, indentation_front front, level, named]
  simp [isComment]

theorem classify_option (plain : PlainName lower name) (trimmed : Trimmed value)
    (current : reading.current = some header) :
    classify reading (optionLine (name, value)) = .option header name value := by
  obtain ⟨first, rest, rfl⟩ := List.exists_cons_of_ne_nil plain.present
  have equals : lit " = " = [32, 61, 32] := by decide
  have line : optionLine (first :: rest, value) = first :: rest ++ 32 :: 61 :: 32 :: value := by
    simp [optionLine, equals]
  have front : ∀ code, (optionLine (first :: rest, value)).head? = some code → isSpace code = false := by
    rw [line]
    rintro code ⟨⟩
    exact (plain.inside first List.mem_cons_self).1
  have back : ∀ code, (optionLine (first :: rest, value)).getLast? = some code → isSpace code = false := by
    intro code last
    apply trimmed.back code
    obtain ⟨head, tail, rfl⟩ := List.exists_cons_of_ne_nil trimmed.present
    rw [line] at last
    simpa [List.getLast?_append, List.getLast?_cons] using last
  obtain ⟨hash, semicolon, bracket⟩ := plain.front first rfl
  have comment : isComment (optionLine (first :: rest, value)) = false := by
    rw [line]
    simp [isComment, hash, semicolon]
  have unsectioned : sectionName (optionLine (first :: rest, value)) = none := by
    rw [line, List.cons_append, sectionName]
    rintro tail ⟨⟩
    exact bracket rfl
  have undelimited : ∀ code ∈ first :: rest ++ [32], (!isDelimiter code) = true := by
    intro code member
    rcases List.mem_append.mp member with inside | last
    · simp [(plain.inside code inside).2]
    · rw [List.mem_singleton.mp last]
      decide
  have split : optionLine (first :: rest, value) = (first :: rest ++ [32]) ++ 61 :: 32 :: value := by
    simp [line]
  have stops : isDelimiter 61 = true := by decide
  have named : rstrip (first :: rest ++ [32]) = first :: rest := by
    have ended : rstrip (first :: rest ++ [32]) = rstrip (first :: rest) := by
      unfold rstrip
      rw [List.reverse_append]
      rfl
    rw [ended]
    apply rstrip_back
    intro code last
    exact (plain.inside code (List.mem_of_getLast? last)).1
  have kept : strip (32 :: value) = value := by
    have space : isSpace 32 = true := by decide
    have same := trimmed.strip
    unfold strip at same ⊢
    rw [List.dropWhile_cons_of_pos space]
    exact same
  have parts : optionParts (optionLine (first :: rest, value)) = some (first :: rest, value) := by
    rw [split, optionParts, List.dropWhile_append_of_pos undelimited,
      List.takeWhile_append_of_pos undelimited]
    simp only [List.dropWhile_cons, List.takeWhile_cons, stops, Bool.not_true, Bool.false_eq_true,
      if_false, List.append_nil, named, kept]
  have filled : (optionLine (first :: rest, value)).isEmpty = false := by
    rw [line]
    rfl
  have level : ¬(reading.indent < 0) := Nat.not_lt_zero _
  simp only [classify, strip_ends front back, indentation_front front, comment, filled, level,
    unsectioned, current, parts]
  simp
end Line

/-! The lines of a file. -/
theorem unbroken_of_unspaced {code : CodePoint} (unspaced : isSpace code = false) :
    isLineBreak code = false := by
  simp only [isSpace, Bool.or_eq_false_iff, Bool.and_eq_false_iff, decide_eq_false_iff_not,
    beq_eq_false_iff_ne] at unspaced
  simp only [isLineBreak, Bool.or_eq_false_iff, Bool.and_eq_false_iff, decide_eq_false_iff_not,
    beq_eq_false_iff_ne]
  omega

/-- No line break in a header, a name or a value. -/
structure Unbroken (written : Section) : Prop where
  header : ∀ code ∈ written.1, isLineBreak code = false
  options : ∀ option ∈ written.2, ∀ code ∈ option.1 ++ option.2, isLineBreak code = false

theorem Unbroken.lines {written : Section} (unbroken : Unbroken written) :
    ∀ line ∈ sectionLines written, ∀ code ∈ line, isLineBreak code = false := by
  have marks : isLineBreak 91 = false ∧ isLineBreak 93 = false ∧ isLineBreak 32 = false ∧
      isLineBreak 61 = false := by decide
  intro line member code inside
  rcases List.mem_cons.mp member with rfl | option
  · simp only [List.cons_append, List.mem_cons, List.mem_append, List.not_mem_nil, or_false] at inside
    rcases inside with rfl | named | rfl
    · exact marks.1
    · exact unbroken.header code named
    · exact marks.2.1
  · obtain ⟨pair, within, rfl⟩ := List.mem_map.mp option
    have each := unbroken.options pair within code
    have equals : lit " = " = [32, 61, 32] := by decide
    simp only [optionLine, equals, List.mem_append, List.mem_cons, List.not_mem_nil, or_false] at inside each
    rcases inside with (named | rfl | rfl | rfl) | valued
    · exact each (.inl named)
    · exact marks.2.2.1
    · exact marks.2.2.2
    · exact marks.2.2.1
    · exact each (.inr valued)

theorem confLines_unbroken : (sections : List Section) → (∀ written ∈ sections, Unbroken written) →
    ∀ line ∈ confLines sections, ∀ code ∈ line, isLineBreak code = false
  | [], _ => by simp [confLines]
  | [last], unbroken => (unbroken last List.mem_cons_self).lines
  | first :: second :: rest, unbroken => by
      have later := confLines_unbroken (second :: rest)
        fun written member => unbroken written (List.mem_cons_of_mem first member)
      intro line member
      have split : confLines (first :: second :: rest) =
          sectionLines first ++ [] :: confLines (second :: rest) := rfl
      rw [split, List.mem_append, List.mem_cons] at member
      rcases member with own | rfl | after
      · exact (unbroken first List.mem_cons_self).lines line own
      · simp
      · exact later line after

theorem confLines_present {sections : List Section} (present : sections ≠ []) : confLines sections ≠ [] := by
  match sections, present with
  | [last], _ => simp [confLines, sectionLines]
  | first :: second :: rest, _ => simp [confLines, sectionLines]

/-- The lines of the file are those that were written. -/
theorem fileLines_confLines {sections : List Section} (present : sections ≠ [])
    (unbroken : ∀ written ∈ sections, Unbroken written) :
    fileLines (universalNewlines (joinNewline (confLines sections) ++ [newline])) = confLines sections := by
  have clean := confLines_unbroken sections unbroken
  obtain ⟨first, rest, same⟩ := List.exists_cons_of_ne_nil (confLines_present present)
  rw [same] at clean ⊢
  have plain : ∀ code ∈ joinNewline (first :: rest) ++ [newline], code ≠ 13 := by
    intro code within
    rcases List.mem_append.mp within with joined | last
    · rcases mem_joinNewline _ code joined with rfl | ⟨line, member, inside⟩
      · decide
      · exact (newline_breaks code (clean line member code inside)).2
    · rw [List.mem_singleton.mp last]
      decide
  rw [universalNewlines_plain _ plain, fileLines_join first rest clean]

/-! The reading of a file, section by section. -/
section Reading
variable {lower : Str → Str} {reading : Reading} {header : Str} {headers : List Str}
  {pairs : List ((Str × Str) × Str)}

/-- What has been read, as the end of the file makes it. -/
structure Holds (reading : Reading) (headers : List Str) (pairs : List ((Str × Str) × Str)) : Prop where
  headers : reading.headers = headers
  pairs : reading.entries.map Entry.pair = pairs
  sound : reading.malformed = false

theorem Holds.keys (holds : Holds reading headers pairs) :
    reading.entries.map Entry.key = pairs.map Prod.fst := by
  rw [← holds.pairs, List.map_map]
  rfl

theorem read_blank (holds : Holds reading headers pairs) :
    ∃ next, readLine lower reading [] = .ok next ∧ Holds next headers pairs := by
  rw [readLine, classify_blank]
  by_cases going : reading.continuing = true
  · simp only [if_pos going]
    exact ⟨_, rfl, holds.headers, (pair_extendLast _).trans holds.pairs, holds.sound⟩
  · simp only [if_neg going]
    exact ⟨reading, rfl, holds⟩

theorem read_heading (holds : Holds reading headers pairs) (present : header ≠ [])
    (named : header ≠ defaultSection) (fresh : header ∉ headers) :
    ∃ next, readLine lower reading (91 :: header ++ [93]) = .ok next ∧
      Holds next (headers ++ [header]) pairs ∧ next.current = some header := by
  have absent : header ∉ reading.headers := holds.headers ▸ fresh
  rw [readLine, classify_heading present]
  simp only [if_neg absent, if_neg named]
  refine ⟨_, rfl, ⟨?_, holds.pairs, holds.sound⟩, rfl⟩
  rw [← holds.headers]

theorem read_option {name value : Str} (holds : Holds reading headers pairs)
    (current : reading.current = some header) (plain : PlainName lower name) (trimmed : Trimmed value)
    (fresh : (header, name) ∉ pairs.map Prod.fst) :
    ∃ next, readLine lower reading (optionLine (name, value)) = .ok next ∧
      Holds next headers (((header, name), value) :: pairs) ∧ next.current = some header := by
  have absent : (header, lower name) ∉ reading.entries.map Entry.key := by
    rw [plain.lowered, holds.keys]
    exact fresh
  rw [readLine, classify_option plain trimmed current]
  simp only [if_neg absent]
  refine ⟨_, rfl, ⟨holds.headers, ?_, ?_⟩, current⟩
  · rw [List.map_cons, holds.pairs, Entry.pair, Entry.key, Entry.value, plain.lowered]
    simp [joinNewline, List.intercalate, trimmed.rstrip]
  · simp [holds.sound, plain.present]

theorem read_options (options : List (Str × Str)) (holds : Holds reading headers pairs)
    (current : reading.current = some header)
    (named : ∀ option ∈ options, PlainName lower option.1)
    (valued : ∀ option ∈ options, Trimmed option.2) (distinct : (options.map Prod.fst).Nodup)
    (fresh : ∀ option ∈ options, (header, option.1) ∉ pairs.map Prod.fst) :
    ∃ next, (options.map optionLine).foldlM (readLine lower) reading = .ok next ∧
      Holds next headers ((sectionPairs (header, options)).reverse ++ pairs) := by
  induction options generalizing reading pairs with
  | nil => exact ⟨reading, rfl, holds⟩
  | cons first rest ih =>
      obtain ⟨next, read, kept, stays⟩ := read_option holds current (named first List.mem_cons_self)
        (valued first List.mem_cons_self) (fresh first List.mem_cons_self)
      rw [List.map_cons, List.nodup_cons] at distinct
      obtain ⟨last, ran, done⟩ := ih kept stays
        (fun option later => named option (List.mem_cons_of_mem first later))
        (fun option later => valued option (List.mem_cons_of_mem first later)) distinct.2 (by
          intro option later
          rw [List.map_cons, List.mem_cons, not_or]
          refine ⟨fun same => distinct.1 ?_, fresh option (List.mem_cons_of_mem first later)⟩
          rw [← (Prod.mk.inj same).2]
          exact List.mem_map_of_mem later)
      refine ⟨last, ?_, ?_⟩
      · rw [List.map_cons, List.foldlM_cons, read]
        exact ran
      · simpa [sectionPairs] using done

theorem read_section {written : Section} (holds : Holds reading headers pairs)
    (header : written.1 ≠ [] ∧ written.1 ≠ defaultSection) (fresh : written.1 ∉ headers)
    (distinct : (written.2.map Prod.fst).Nodup)
    (named : ∀ option ∈ written.2, PlainName lower option.1)
    (valued : ∀ option ∈ written.2, Trimmed option.2)
    (apart : ∀ pair ∈ pairs, pair.1.1 ∈ headers) :
    ∃ next, (sectionLines written).foldlM (readLine lower) reading = .ok next ∧
      Holds next (headers ++ [written.1]) ((sectionPairs written).reverse ++ pairs) := by
  obtain ⟨opened, read, kept, current⟩ := @read_heading lower _ _ _ _ holds header.1 header.2 fresh
  obtain ⟨next, ran, done⟩ := read_options written.2 kept current named valued distinct (by
    intro option _ member
    obtain ⟨pair, within, same⟩ := List.mem_map.mp member
    apply fresh
    rw [← congrArg Prod.fst same]
    exact apart pair within)
  refine ⟨next, ?_, done⟩
  rw [sectionLines, List.foldlM_cons, read]
  exact ran

theorem confPairs_cons (first : Section) (rest : List Section) :
    confPairs (first :: rest) = confPairs rest ++ (sectionPairs first).reverse := by
  simp [confPairs]

theorem read_sections (sections : List Section) (present : sections ≠ [])
    (holds : Holds reading headers pairs) (written : WellWritten lower sections)
    (fresh : ∀ one ∈ sections, one.1 ∉ headers) (apart : ∀ pair ∈ pairs, pair.1.1 ∈ headers) :
    ∃ next, (confLines sections).foldlM (readLine lower) reading = .ok next ∧
      Holds next (headers ++ sections.map Prod.fst) (confPairs sections ++ pairs) := by
  induction sections generalizing reading headers pairs with
  | nil => exact absurd rfl present
  | cons first rest ih =>
      have here : first ∈ first :: rest := List.mem_cons_self
      obtain ⟨next, ran, done⟩ := read_section holds (written.header first here) (fresh first here)
        (written.names first here) (written.named first here) (written.valued first here) apart
      cases rest with
      | nil =>
          refine ⟨next, ran, ?_⟩
          simpa [confPairs] using done
      | cons second later =>
          obtain ⟨blank, read, kept⟩ := @read_blank lower _ _ _ done
          have distinct := List.nodup_cons.mp written.headers
          have tail : WellWritten lower (second :: later) := by
            constructor
            · exact distinct.2
            · exact fun one member => written.header one (List.mem_cons_of_mem first member)
            · exact fun one member => written.names one (List.mem_cons_of_mem first member)
            · exact fun one member => written.named one (List.mem_cons_of_mem first member)
            · exact fun one member => written.valued one (List.mem_cons_of_mem first member)
          obtain ⟨last, rest, ended⟩ := ih (by simp) kept tail (by
            intro one member inside
            rcases List.mem_append.mp inside with before | same
            · exact fresh one (List.mem_cons_of_mem first member) before
            · rw [List.mem_singleton] at same
              exact distinct.1 (same ▸ List.mem_map_of_mem member)) (by
            intro pair member
            rw [List.mem_append]
            rcases List.mem_append.mp member with own | before
            · obtain ⟨option, -, rfl⟩ := List.mem_map.mp (List.mem_reverse.mp own)
              exact .inr (List.mem_singleton_self _)
            · exact .inl (apart pair before))
          refine ⟨last, ?_, ?_⟩
          · have lines : confLines (first :: second :: later) =
                sectionLines first ++ [] :: confLines (second :: later) := rfl
            rw [lines, List.foldlM_append, ran]
            show ([] :: confLines (second :: later)).foldlM (readLine lower) next = _
            rw [List.foldlM_cons, read]
            exact rest
          · rw [confPairs_cons first]
            simpa using ended
end Reading

/-- A file that is written so is read as it was written. -/
theorem parse_confLines {lower : Str → Str} {sections : List Section} (present : sections ≠ [])
    (written : WellWritten lower sections) :
    parse lower (confLines sections) = .ok ⟨sections.map Prod.fst, confPairs sections⟩ := by
  have start : Holds .fresh [] [] := ⟨rfl, rfl, rfl⟩
  obtain ⟨last, ran, holds⟩ := @read_sections lower _ _ _ sections present start written (by simp)
    (by simp)
  rw [parse, ran]
  simp only [holds.sound, Bool.false_eq_true, if_false, holds.headers, holds.pairs, List.nil_append,
    List.append_nil]

/-- What is looked up is an option of a section with the header. -/
theorem mem_of_lookup {sections : List Section} {header name value : Str}
    (found : (confPairs sections).lookup (header, name) = some value) :
    ∃ options, (header, options) ∈ sections ∧ (name, value) ∈ options := by
  obtain ⟨before, after, split, -⟩ := List.lookup_eq_some_iff.mp found
  have held : ((header, name), value) ∈ confPairs sections := by
    rw [split]
    simp
  rw [confPairs, List.mem_reverse, List.mem_flatMap] at held
  obtain ⟨⟨header', options⟩, within, pair⟩ := held
  obtain ⟨⟨name', value'⟩, option, same⟩ := List.mem_map.mp pair
  cases same
  exact ⟨options, within, option⟩

/-- Each option has the value that was written for it. -/
theorem lookup_confPairs {lower : Str → Str} {sections : List Section} {header name value : Str}
    {options : List (Str × Str)} (written : WellWritten lower sections)
    (within : (header, options) ∈ sections) (option : (name, value) ∈ options) :
    (confPairs sections).lookup (header, name) = some value := by
  have member : ((header, name), value) ∈ confPairs sections := by
    rw [confPairs, List.mem_reverse, List.mem_flatMap]
    exact ⟨(header, options), within, List.mem_map.mpr ⟨(name, value), option, rfl⟩⟩
  cases found : (confPairs sections).lookup (header, name) with
  | none =>
      have absent := List.lookup_eq_none_iff.mp found _ member
      simp at absent
  | some other =>
      obtain ⟨others, alsoWithin, also⟩ := mem_of_lookup found
      -- one section has the header, and one option of it the name
      have one := List.inj_on_of_nodup_map written.headers alsoWithin within rfl
      obtain ⟨-, rfl⟩ := Prod.mk.inj one
      have two := List.inj_on_of_nodup_map (written.names _ within) also option rfl
      exact congrArg some (Prod.mk.inj two).2

theorem lookup_confPairs_none {sections : List Section} {header name : Str}
    (absent : ∀ options, (header, options) ∈ sections → name ∉ options.map Prod.fst) :
    (confPairs sections).lookup (header, name) = none := by
  rw [List.lookup_eq_none_iff]
  intro pair member
  rw [confPairs, List.mem_reverse, List.mem_flatMap] at member
  obtain ⟨⟨header', options⟩, within, inside⟩ := member
  obtain ⟨⟨name', value⟩, option, rfl⟩ := List.mem_map.mp inside
  rw [bne_iff_ne]
  intro same
  obtain ⟨rfl, rfl⟩ := Prod.mk.inj same
  exact absent options within (List.mem_map_of_mem option)

/-! A file with some of the names left out. -/
section Restriction
variable {lower : Str → Str} {sections : List Section} {kept : Str → Bool}

/-- The options of a section whose names are kept. -/
def restricted (kept : Str → Bool) (written : Section) : Section :=
  (written.1, written.2.filter fun option => kept option.1)

theorem restricted_headers : (sections.map (restricted kept)).map Prod.fst = sections.map Prod.fst := by
  rw [List.map_map]
  rfl

theorem WellWritten.restricted (written : WellWritten lower sections) :
    WellWritten lower (sections.map (restricted kept)) where
  headers := by
    rw [restricted_headers]
    exact written.headers
  header := by
    intro one member
    obtain ⟨source, within, rfl⟩ := List.mem_map.mp member
    exact written.header source within
  names := by
    intro one member
    obtain ⟨source, within, rfl⟩ := List.mem_map.mp member
    exact (written.names source within).sublist ((List.filter_sublist (l := source.2)).map Prod.fst)
  named := by
    intro one member option inside
    obtain ⟨source, within, rfl⟩ := List.mem_map.mp member
    exact written.named source within option (List.mem_of_mem_filter inside)
  valued := by
    intro one member option inside
    obtain ⟨source, within, rfl⟩ := List.mem_map.mp member
    exact written.valued source within option (List.mem_of_mem_filter inside)

/-- A filter of the lines that looks at the names of the options only. -/
structure FiltersNames (keep : Str → Bool) (kept : Str → Bool) (sections : List Section) : Prop where
  blank : keep [] = true
  heading : ∀ written ∈ sections, keep (91 :: written.1 ++ [93]) = true
  option : ∀ written ∈ sections, ∀ option ∈ written.2, keep (optionLine option) = kept option.1

theorem filter_sectionLines {keep : Str → Bool} {written : Section}
    (filters : FiltersNames keep kept sections) (within : written ∈ sections) :
    (sectionLines written).filter keep = sectionLines (restricted kept written) := by
  have options : (written.2.map optionLine).filter keep =
      (written.2.filter fun option => kept option.1).map optionLine := by
    rw [List.filter_map]
    exact congrArg _ (List.filter_congr fun option inside => filters.option written within option inside)
  rw [sectionLines, List.filter_cons_of_pos (filters.heading written within), options]
  rfl

/-- It leaves the file with the names that are kept. -/
theorem filter_confLines {keep : Str → Bool} : (sections : List Section) → FiltersNames keep kept sections →
    (confLines sections).filter keep = confLines (sections.map (restricted kept))
  | [], _ => rfl
  | [last], filters => filter_sectionLines filters List.mem_cons_self
  | first :: second :: rest, filters => by
      have later : FiltersNames keep kept (second :: rest) := by
        constructor
        · exact filters.blank
        · exact fun written member => filters.heading written (List.mem_cons_of_mem first member)
        · exact fun written member => filters.option written (List.mem_cons_of_mem first member)
      have split : confLines (first :: second :: rest) =
          sectionLines first ++ [] :: confLines (second :: rest) := rfl
      rw [split, List.filter_append, filter_sectionLines filters List.mem_cons_self,
        List.filter_cons_of_pos filters.blank, filter_confLines (second :: rest) later]
      rfl

/-- What is kept has the value it had. -/
theorem lookup_restricted {header name : Str} (keeps : kept name = true) :
    (confPairs (sections.map (restricted kept))).lookup (header, name) =
      (confPairs sections).lookup (header, name) := by
  have pairs : confPairs (sections.map (restricted kept)) =
      (confPairs sections).filter fun pair => kept pair.1.2 := by
    rw [confPairs, confPairs, List.filter_reverse, List.filter_flatMap, List.flatMap_map]
    congr 2
    funext written
    rw [sectionPairs, sectionPairs, List.filter_map]
    rfl
  rw [pairs]
  induction confPairs sections with
  | nil => rfl
  | cons pair rest ih =>
      by_cases same : (header, name) = pair.1
      · have stays : kept pair.1.2 = true := same ▸ keeps
        rw [List.filter_cons, if_pos stays, List.lookup_cons, List.lookup_cons, same, beq_self_eq_true]
      · have differs : ((header, name) == pair.1) = false := beq_eq_false_iff_ne.mpr same
        rw [List.lookup_cons, differs, ← ih, List.filter_cons]
        by_cases stays : kept pair.1.2 = true
        · rw [if_pos stays, List.lookup_cons, differs]
        · rw [if_neg stays]
end Restriction

/-- Lines that are joined and ended by newlines are split into themselves. -/
theorem splitlines_join (lines : List Str) (present : lines ≠ [])
    (unbroken : ∀ line ∈ lines, ∀ code ∈ line, isLineBreak code = false) :
    splitlines (joinNewline lines ++ [newline]) = lines := by
  have plain : ∀ code ∈ joinNewline lines ++ [newline], code ≠ 13 := by
    intro code within
    rcases List.mem_append.mp within with joined | last
    · rcases mem_joinNewline _ code joined with rfl | ⟨line, member, inside⟩
      · decide
      · exact (newline_breaks code (unbroken line member code inside)).2
    · rw [List.mem_singleton.mp last]
      decide
  have breaks : isLineBreak newline = true := by decide
  rw [splitlines, universalNewlines_plain _ plain]
  clear plain
  induction lines with
  | nil => exact absurd rfl present
  | cons first rest ih =>
      have here := unbroken first List.mem_cons_self
      cases rest with
      | nil =>
          have joined : joinNewline [first] = first := by simp [joinNewline, List.intercalate]
          rw [joined, pieces_break first [] newline breaks here, pieces]
      | cons second later =>
          have joined : joinNewline (first :: second :: later) ++ [newline] =
              first ++ newline :: (joinNewline (second :: later) ++ [newline]) := by
            simp [joinNewline, List.intercalate]
          rw [joined, pieces_break first _ newline breaks here,
            ih (by simp) fun line member => unbroken line (List.mem_cons_of_mem first member)]
end Python.ConfigText
