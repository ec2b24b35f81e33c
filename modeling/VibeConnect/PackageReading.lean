import VibeConnect.PackageText

/-! What the two readers of the agent make of the package. -/
namespace VibeConnect.EnrollmentPackage
open Python.Text Python.JsonCodec Python.Coroutine Python.ConfigParser Python.ConfigText
open Python.Interpolation Python.Url Models JumpCoordinator Enrollment AdminService ProxyTarget
open AgentConf (ConfigFault AgentConfig readConf)

/-! The values, with interpolation. -/
section Values
variable {runtime : TargetRuntime} {sections : List Section} {header name raw value : Str}
  {options : List (Str × Str)}

/-- What is parsed of sections. -/
def parsedOf (sections : List Section) : Parsed := ⟨sections.map Prod.fst, confPairs sections⟩

theorem value_source (written : WellWritten runtime.lower sections)
    (found : (parsedOf sections).value header name = some value) :
    ∃ options, (header, options) ∈ sections ∧ (name, value) ∈ options := by
  have none : (confPairs sections).lookup (defaultSection, name) = none := by
    apply lookup_confPairs_none
    intro options within
    exact absurd rfl (written.header _ within).2
  rw [Parsed.value, Parsed.own, Parsed.own, parsedOf, none, Option.or_none] at found
  exact mem_of_lookup found

theorem value_written (written : WellWritten runtime.lower sections) (within : (header, options) ∈ sections)
    (option : (name, raw) ∈ options) : (parsedOf sections).value header name = some raw := by
  rw [Parsed.value, Parsed.own, parsedOf, lookup_confPairs written within option, Option.some_or]

theorem sectionValue_written (written : WellWritten runtime.lower sections)
    (within : (header, options) ∈ sections) (option : (name, raw) ∈ options) :
    sectionValue runtime (parsedOf sections) header name = .ok (some value) ↔
      beforeGet runtime.lower ((parsedOf sections).value header) raw = .ok value := by
  have present : header ∈ (parsedOf sections).headers := List.mem_map_of_mem within
  have lowered := (written.named _ within _ option).lowered
  dsimp only at lowered
  rw [sectionValue, if_pos present, lowered, value_written written within option]
  cases answer : beforeGet runtime.lower ((parsedOf sections).value header) raw <;> simp [answer]

/-- A value without percent signs is read as it is written. -/
theorem sectionValue_plain (written : WellWritten runtime.lower sections)
    (within : (header, options) ∈ sections) (option : (name, raw) ∈ options) (clean : 37 ∉ raw) :
    sectionValue runtime (parsedOf sections) header name = .ok (some raw) :=
  (sectionValue_written written within option).mpr (beforeGet_plain clean)

theorem sectionValue_absent (written : WellWritten runtime.lower sections)
    (lowered : runtime.lower name = name)
    (absent : ∀ options, (header, options) ∈ sections → name ∉ options.map Prod.fst) :
    sectionValue runtime (parsedOf sections) header name = .ok none := by
  have none : (parsedOf sections).value header name = none := by
    cases found : (parsedOf sections).value header name with
    | none => rfl
    | some value =>
        obtain ⟨options, within, option⟩ := value_source written found
        exact absurd (List.mem_map_of_mem option) (absent options within)
  unfold sectionValue
  split
  · rw [lowered, none]
  · rfl

theorem required_ok {label read : Str} {found : Option Str} :
    required label found = .ok read ↔ found = some read ∧ read ≠ [] := by
  cases found with
  | none => simp [required]
  | some text =>
      cases text with
      | nil =>
          simp only [required, Option.some.injEq, reduceCtorEq, false_iff, not_and, not_not]
          exact Eq.symm
      | cons point rest =>
          simp only [required, Except.ok.injEq, Option.some.injEq]
          constructor
          · rintro rfl
            simp
          · exact And.left

theorem requireValue_ok {label read : Str} {parsed : Parsed} :
    requireValue runtime parsed header name label = .ok read ↔
      sectionValue runtime parsed header name = .ok (some read) ∧ read ≠ [] := by
  rw [requireValue, bind_ok]
  simp only [required_ok]
  constructor
  · rintro ⟨_, found, rfl, present⟩
    exact ⟨found, present⟩
  · rintro ⟨found, present⟩
    exact ⟨_, found, rfl, present⟩

theorem ofConfig_ok {α : Type} {answer : Except ConfigFault α} {value : α} :
    ofConfig answer = .ok value ↔ answer = .ok value := by
  cases answer <;> simp [ofConfig]

/-- A text that is read as itself up to a tail without percent signs has none, where the other values
of its section begin with something else. -/
theorem clean_of_fixed (written : WellWritten runtime.lower sections) {text tail other : Str}
    (tail_clean : 37 ∉ tail)
    (fronts : ∀ options, (header, options) ∈ sections → ∀ option ∈ options,
      option.2 = text ++ tail ∨ ∃ first rest, option.2 = first :: rest ∧ first ≠ 37)
    (ok : beforeGet runtime.lower ((parsedOf sections).value header) (text ++ tail) = .ok (text ++ other)) :
    37 ∉ text := by
  intro sign
  have fronted : Fronted runtime.lower ((parsedOf sections).value header) (text ++ tail) := by
    intro value uses
    obtain ⟨name, held⟩ := uses.held
    obtain ⟨options, within, option⟩ := value_source written held
    rcases fronts options within _ option with own | front
    · -- it would have to be read inside itself
      have self : Uses runtime.lower ((parsedOf sections).value header) (text ++ tail) (text ++ tail) :=
        own ▸ uses
      exact absurd ok (self.self (List.mem_append_left tail sign) 10)
    · exact front
  exact beforeGet_fixed fronted tail_clean ok sign

theorem clean_of_read (written : WellWritten runtime.lower sections) {text : Str}
    (fronts : ∀ options, (header, options) ∈ sections → ∀ option ∈ options,
      option.2 = text ∨ ∃ first rest, option.2 = first :: rest ∧ first ≠ 37)
    (ok : beforeGet runtime.lower ((parsedOf sections).value header) text = .ok text) : 37 ∉ text := by
  have whole := text.append_nil
  apply @clean_of_fixed runtime sections header written text [] [] List.not_mem_nil
  · rw [whole]
    exact fronts
  · rw [whole]
    exact ok
end Values

/-! Which values have no percent sign. -/
section Signs
variable {request : CreateAgent} {hostKey : Str}

theorem alphanumeric_clean {code : CodePoint} (named : isAlphanumeric code = true) : code ≠ 37 := by
  rintro rfl
  revert named
  decide

theorem nodeName_clean {name : Str} (named : isNodeName name = true) : 37 ∉ name := by
  have marks : isAlphanumeric 37 = false ∧ (lit "_.-").contains 37 = false := by decide
  intro member
  cases name with
  | nil => cases member
  | cons first rest =>
      simp only [isNodeName, Bool.and_eq_true, List.all_eq_true, Bool.or_eq_true] at named
      rcases List.mem_cons.mp member with rfl | later
      · exact alphanumeric_clean named.1.1 rfl
      · have fine := named.2 37 later
        rw [marks.1, marks.2] at fine
        simp at fine

theorem UrlsafeToken.clean {token : Str} (safe : UrlsafeToken token) : 37 ∉ token := by
  intro member
  rcases safe.2 37 member with letter | impossible | impossible
  · exact alphanumeric_clean letter rfl
  · revert impossible
    decide
  · revert impossible
    decide

theorem decimal_clean {value : Int} (positive : 0 ≤ value) : 37 ∉ decimal value := by
  obtain ⟨number, rfl⟩ := Int.eq_ofNat_of_zero_le positive
  intro member
  have digit := decimal_digit 37 member
  revert digit
  decide

theorem enrollUrl_clean (positive : 0 ≤ request.enrollmentPort) :
    37 ∉ enrollUrl request ↔ 37 ∉ request.serverHost := by
  have literals := fileLiterals
  simp [enrollUrl, literals.scheme.clean, literals.colon.clean, literals.enroll.clean,
    decimal_clean positive]

/-- What begins with something else than a percent sign. -/
theorem front_of_clean {text : Str} (present : text ≠ []) (clean : 37 ∉ text) :
    ∃ first rest, text = first :: rest ∧ first ≠ 37 := by
  obtain ⟨first, rest, rfl⟩ := List.exists_cons_of_ne_nil present
  exact ⟨first, rest, rfl, fun same => clean (same ▸ List.mem_cons_self)⟩

theorem front_of_prefix {text front : Str} (begins : front <+: text)
    (plain : ∃ first rest, front = first :: rest ∧ first ≠ 37) :
    ∃ first rest, text = first :: rest ∧ first ≠ 37 := by
  obtain ⟨tail, rfl⟩ := begins
  obtain ⟨first, rest, rfl, other⟩ := plain
  exact ⟨first, rest ++ tail, rfl, other⟩

theorem enrollUrl_front (request : CreateAgent) : ∃ first rest, enrollUrl request = first :: rest ∧ first ≠ 37 := by
  have scheme := fileLiterals.scheme
  apply front_of_prefix _ (front_of_clean scheme.present scheme.clean)
  simp only [enrollUrl, List.append_assoc]
  exact List.prefix_append _ _
end Signs

/-- A section of the file is told by its header. -/
theorem section_unique {runtime : TargetRuntime} {sections : List Section} {header : Str}
    {one two : List (Str × Str)} (written : WellWritten runtime.lower sections)
    (first : (header, one) ∈ sections) (second : (header, two) ∈ sections) : one = two := by
  have same := List.inj_on_of_nodup_map written.headers first second rfl
  exact (Prod.mk.inj same).2

/-! The two readers. -/
section Readers
variable {runtime : TargetRuntime} {library : EnrollmentLibrary} {request : CreateAgent}
  {token hostKey : Str}

theorem loadEnrollment_ok {text : Str} {parsed : Parsed} {enrollment : AgentEnrollmentConfig}
    (reads : readConf runtime.toRuntime text = .ok parsed)
    (ok : loadEnrollmentConfig runtime text = .ok enrollment) :
    (∃ target, sectionValue runtime parsed (lit "proxy") (lit "target") = .ok (some target) ∧
      enrollHostPort runtime target = .ok (enrollment.proxyTargetHost, enrollment.proxyTargetPort)) ∧
    sectionValue runtime parsed (lit "enrollment") (lit "api_url") = .ok (some enrollment.apiUrl) ∧
    sectionValue runtime parsed (lit "enrollment") (lit "node_ssh_host_public_key") =
      .ok (some enrollment.expectedNodeSshHostPublicKey) := by
  obtain ⟨_, found, ok⟩ := bind_ok.mp ok
  rw [reads] at found
  cases found
  obtain ⟨_, -, ok⟩ := bind_ok.mp ok
  obtain ⟨_, -, ok⟩ := bind_ok.mp ok
  obtain ⟨target, targeted, ok⟩ := bind_ok.mp ok
  obtain ⟨proxy, proxied, ok⟩ := bind_ok.mp ok
  obtain ⟨_, -, ok⟩ := bind_ok.mp ok
  obtain ⟨_, -, ok⟩ := bind_ok.mp ok
  obtain ⟨apiUrl, url, ok⟩ := bind_ok.mp ok
  obtain ⟨_, -, ok⟩ := bind_ok.mp ok
  obtain ⟨hostKey, key, ok⟩ := bind_ok.mp ok
  obtain ⟨_, -, ok⟩ := bind_ok.mp ok
  cases ok
  exact ⟨⟨target, (requireValue_ok.mp targeted).1, ofConfig_ok.mp proxied⟩, (requireValue_ok.mp url).1,
    (requireValue_ok.mp key).1⟩

theorem loadAgent_ok {text : Str} {parsed : Parsed} {config : AgentConfig}
    (reads : readConf runtime.toRuntime text = .ok parsed)
    (ok : loadAgentConfig runtime text = .ok config) :
    ∃ target, sectionValue runtime parsed (lit "proxy") (lit "target") = .ok (some target) ∧
      runHostPort runtime target = .ok (config.proxyTargetHost, config.proxyTargetPort) := by
  obtain ⟨_, found, ok⟩ := bind_ok.mp ok
  rw [reads] at found
  cases found
  obtain ⟨target, targeted, ok⟩ := bind_ok.mp ok
  obtain ⟨proxy, proxied, ok⟩ := bind_ok.mp ok
  obtain ⟨_, -, ok⟩ := bind_ok.mp ok
  obtain ⟨_, -, ok⟩ := bind_ok.mp ok
  obtain ⟨_, -, ok⟩ := bind_ok.mp ok
  obtain ⟨_, -, ok⟩ := bind_ok.mp ok
  obtain ⟨_, -, ok⟩ := bind_ok.mp ok
  obtain ⟨_, -, ok⟩ := bind_ok.mp ok
  obtain ⟨_, -, ok⟩ := bind_ok.mp ok
  cases ok
  exact ⟨target, (requireValue_ok.mp targeted).1, ofConfig_ok.mp proxied⟩
end Readers

section Package
variable {runtime : TargetRuntime} {library : EnrollmentLibrary} {request : CreateAgent}
  {token hostKey : Str} {enrollment : AgentEnrollmentConfig} {config : AgentConfig}

theorem lowerHost_clean {library : UrlLibrary} {host : Str} (clean : 37 ∉ host) :
    lowerHost library host = library.lower host := by
  have passes : ∀ code ∈ host, (code != 37) = true := by
    intro code member
    rw [bne_iff_ne]
    rintro rfl
    exact clean member
  have rest : host.dropWhile (· != 37) = [] := List.dropWhile_eq_nil_iff.mpr passes
  rw [lowerHost, rest, List.append_nil, List.takeWhile_eq_self_iff.mpr passes]

theorem targetText_colon (request : CreateAgent) :
    targetText request = request.proxyHost ++ 58 :: decimal request.proxyPort := by
  have colon : lit ":" = [58] := by decide
  simp [targetText, colon]

/-- The port of the target is told by its digits. -/
theorem targetText_unique (positive : 0 ≤ request.proxyPort) {host portText : Str}
    (whole : targetText request = host ++ 58 :: portText) (last : 58 ∉ portText) :
    host = request.proxyHost ∧ portText = decimal request.proxyPort := by
  have digits : 58 ∉ decimal request.proxyPort := by
    obtain ⟨number, same⟩ := Int.eq_ofNat_of_zero_le positive
    rw [same]
    intro member
    have digit := decimal_digit 58 member
    revert digit
    decide
  have one := rpartition_iff.mpr ⟨whole, last⟩
  have two := rpartition_iff.mpr ⟨targetText_colon request, digits⟩
  rw [one] at two
  cases two
  exact ⟨rfl, rfl⟩

/-- A plain package has a plain target. -/
theorem plainTarget_iff (documented : PackageDocumented runtime)
    (requested : CheckedRequest library request hostKey) :
    PlainTarget runtime (targetText request) ∧ 37 ∉ request.proxyHost ↔
      (∀ code ∈ request.proxyHost, code ≠ 37 ∧ isMark code = false) ∧
        runtime.lower request.proxyHost = request.proxyHost ∧
        runtime.normalized (request.proxyHost ++ 58 :: decimal request.proxyPort) = true := by
  have positive : 0 ≤ request.proxyPort := by
    have low := requested.proxyPort.1
    omega
  obtain ⟨number, port⟩ := Int.eq_ofNat_of_zero_le positive
  constructor
  · rintro ⟨⟨host, portText, read, whole, -, unmarked, lowered, normal, -, digits, -⟩, clean⟩
    have last : 58 ∉ portText := by
      intro member
      have digit := digits 58 member
      revert digit
      decide
    obtain ⟨rfl, rfl⟩ := targetText_unique positive whole last
    rw [lowerHost_clean clean] at lowered
    rw [whole] at normal
    refine ⟨?_, lowered, normal⟩
    intro code member
    exact ⟨fun same => clean (same ▸ member), unmarked code member⟩
  · rintro ⟨fine, lowered, normal⟩
    have clean : 37 ∉ request.proxyHost := fun member => (fine 37 member).1 rfl
    refine ⟨⟨request.proxyHost, decimal request.proxyPort, request.proxyPort, targetText_colon request, ?_,
      fun code member => (fine code member).2, ?_, ?_, ?_, ?_, ?_, requested.proxyPort⟩, clean⟩
    · intro empty
      have none := requested.proxyFront
      rw [empty, List.prefix_nil] at none
      exact fileLiterals.loopback.present none
    · rw [lowerHost_clean clean]
      exact lowered
    · rw [targetText_colon]
      exact normal
    · rw [port]
      exact decimal_present number
    · rw [port]
      exact decimal_digit
    · have small : number ≤ 65535 := by
        have high := requested.proxyPort.2
        omega
      rw [port]
      exact documented.int_decimal number small

/-- The values of the enrollment, but for the host key, begin with no percent sign. -/
theorem enrollment_fronts (requested : CheckedRequest library request hostKey) (safe : UrlsafeToken token) :
    ∀ option ∈ enrollmentOptions request request.nodeName token hostKey,
      option.2 = hostKey ∨ ∃ first rest, option.2 = first :: rest ∧ first ≠ 37 := by
  have bundle := fileLiterals.bundle
  have node := front_of_clean (nodeName_solid requested.node).present (nodeName_clean requested.node)
  have tokens := front_of_clean safe.1 safe.clean
  simp only [enrollmentOptions, List.forall_mem_cons, List.not_mem_nil, false_implies, implies_true, and_true]
  exact ⟨.inr node, .inr tokens, .inr (enrollUrl_front request), .inr (front_of_clean bundle.present bundle.clean),
    .inl trivial⟩

theorem proxyHost_front (requested : CheckedRequest library request hostKey) :
    ∃ first rest, targetText request = first :: rest ∧ first ≠ 37 := by
  have front := fileLiterals.loopback
  apply front_of_prefix _ (front_of_clean front.present front.clean)
  rw [targetText, List.append_assoc]
  exact requested.proxyFront.trans (List.prefix_append _ _)

variable (documented : PackageDocumented runtime) (requested : CheckedRequest library request hostKey)
  (safe : UrlsafeToken token)
include documented requested safe

/-- A host key that is read back has no percent sign. -/
theorem hostKey_clean (fixed : sectionValue runtime
      (parsedOf (confSections request request.nodeName token hostKey)) (lit "enrollment")
      (lit "node_ssh_host_public_key") = .ok (some hostKey)) : 37 ∉ hostKey := by
  have written := sections_written documented requested safe
  have here : (lit "enrollment", enrollmentOptions request request.nodeName token hostKey) ∈
      confSections request request.nodeName token hostKey := List.mem_cons_self
  have option : (lit "node_ssh_host_public_key", hostKey) ∈
      enrollmentOptions request request.nodeName token hostKey := by simp [enrollmentOptions]
  have ok := (sectionValue_written written here option).mp fixed
  apply clean_of_read written _ ok
  intro options within option member
  rw [section_unique written within here] at member
  exact enrollment_fronts requested safe option member

theorem apiUrl_clean (key : 37 ∉ hostKey) (fixed : sectionValue runtime
      (parsedOf (confSections request request.nodeName token hostKey)) (lit "enrollment")
      (lit "api_url") = .ok (some (enrollUrl request))) : 37 ∉ enrollUrl request := by
  have written := sections_written documented requested safe
  have here : (lit "enrollment", enrollmentOptions request request.nodeName token hostKey) ∈
      confSections request request.nodeName token hostKey := List.mem_cons_self
  have option : (lit "api_url", enrollUrl request) ∈
      enrollmentOptions request request.nodeName token hostKey := by simp [enrollmentOptions]
  have ok := (sectionValue_written written here option).mp fixed
  apply clean_of_read written _ ok
  intro options within option member
  rw [section_unique written within here] at member
  rcases enrollment_fronts requested safe option member with same | front
  · have entry := (sections_entries requested safe _ here (lit "node_ssh_host_public_key", hostKey)
      (by simp [enrollmentOptions])).2
    rw [same]
    exact .inr (front_of_clean entry.trimmed.present key)
  · exact .inr front

theorem target_written {target : Str} (found : sectionValue runtime
      (parsedOf (confSections request request.nodeName token hostKey)) (lit "proxy")
      (lit "target") = .ok (some target)) :
    beforeGet runtime.lower ((parsedOf (confSections request request.nodeName token hostKey)).value
      (lit "proxy")) (targetText request) = .ok target := by
  have written := sections_written documented requested safe
  have here : (lit "proxy", [(lit "target", targetText request)]) ∈
      confSections request request.nodeName token hostKey := by simp [confSections]
  exact (sectionValue_written written here (List.mem_singleton_self _)).mp found

/-- A proxy host that is read back has no percent sign. -/
theorem proxyHost_clean {portText : Str} (found : sectionValue runtime
      (parsedOf (confSections request request.nodeName token hostKey)) (lit "proxy")
      (lit "target") = .ok (some (request.proxyHost ++ 58 :: portText))) : 37 ∉ request.proxyHost := by
  have written := sections_written documented requested safe
  have here : (lit "proxy", [(lit "target", targetText request)]) ∈
      confSections request request.nodeName token hostKey := by simp [confSections]
  have ok := target_written documented requested safe found
  have positive : 0 ≤ request.proxyPort := by
    have low := requested.proxyPort.1
    omega
  have tail : (37 : CodePoint) ∉ 58 :: decimal request.proxyPort := by
    rw [List.mem_cons, not_or]
    exact ⟨by decide, decimal_clean positive⟩
  rw [targetText_colon] at ok
  apply clean_of_fixed written tail _ ok
  intro options within option member
  rw [section_unique written within here, List.mem_singleton] at member
  rw [member, ← targetText_colon]
  exact .inl rfl

/-- What is read back of the package tells that nothing in it was taken for something else. -/
theorem plain_of_reads (reads : ReadsBack runtime request token hostKey
      (renderConf request request.nodeName token hostKey) enrollment config) :
    PlainPackage runtime request := by
  have parsed := package_read documented requested safe
  obtain ⟨⟨target, targeted, proxied⟩, url, key⟩ := loadEnrollment_ok parsed reads.enrolls
  obtain ⟨_, again, ran⟩ := loadAgent_ok parsed reads.runs
  cases targeted.symm.trans again
  rw [reads.hostKey] at key
  rw [reads.apiUrl] at url
  rw [reads.hosts.1] at proxied
  rw [reads.hosts.2] at ran
  have key_clean := hostKey_clean documented requested safe key
  have url_clean := apiUrl_clean documented requested safe key_clean url
  have positive : 0 ≤ request.enrollmentPort ∧ 0 ≤ request.proxyPort := by
    have one := requested.enrollmentPort.1
    have two := requested.proxyPort.1
    omega
  obtain ⟨portText, port, whole, last, -⟩ := enroll_ok.mp proxied
  dsimp only at whole
  have host_clean := proxyHost_clean documented requested safe (whole ▸ targeted)
  -- so the target stands for itself, and both parsers take it
  have target_clean : 37 ∉ targetText request := by
    rw [targetText_colon, List.mem_append, List.mem_cons, not_or, not_or]
    exact ⟨host_clean, by decide, decimal_clean positive.2⟩
  have ok := target_written documented requested safe targeted
  rw [beforeGet_plain target_clean] at ok
  cases ok
  have numbers := reads.ports.1.trans reads.ports.2.symm
  have same : enrollment.proxyTargetPort = config.proxyTargetPort := by exact_mod_cast numbers
  rw [same] at proxied
  have plain := both_plain documented.toDocumented proxied ran
  obtain ⟨proxy, lowered, normal⟩ := (plainTarget_iff documented requested).mp ⟨plain, host_clean⟩
  obtain ⟨keyType, blob, words, split, rfl⟩ := hostKey_words requested.key
  constructor
  · exact (enrollUrl_clean positive.1).mp url_clean
  · rw [split]
    simp only [List.mem_append, not_or] at key_clean
    simp [key_clean]
  · exact proxy
  · exact lowered
  · exact normal

omit documented in
/-- The values of a plain package are read as they are written. -/
theorem plain_values (plain : PlainPackage runtime request) :
    (∀ option ∈ enrollmentOptions request request.nodeName token hostKey, 37 ∉ option.2) ∧
      37 ∉ targetText request := by
  have bundle := fileLiterals.bundle.clean
  have positive : 0 ≤ request.enrollmentPort ∧ 0 ≤ request.proxyPort := by
    have one := requested.enrollmentPort.1
    have two := requested.proxyPort.1
    omega
  have key : 37 ∉ hostKey := by
    obtain ⟨keyType, blob, words, split, rfl⟩ := hostKey_words requested.key
    have space : (37 : CodePoint) ∉ lit " " := by decide
    have clean := plain.key
    rw [split] at clean
    simp only [List.mem_append, not_or]
    exact ⟨⟨clean keyType (by simp), space⟩, clean blob (by simp)⟩
  constructor
  · simp only [enrollmentOptions, List.forall_mem_cons, List.not_mem_nil, false_implies, implies_true,
      and_true]
    exact ⟨nodeName_clean requested.node, safe.clean, (enrollUrl_clean positive.1).mpr plain.server, bundle,
      key⟩
  · rw [targetText_colon, List.mem_append, List.mem_cons, not_or, not_or]
    exact ⟨fun member => (plain.proxy 37 member).1 rfl, by decide, decimal_clean positive.2⟩

/-- An option of the tunnel that the package leaves out has its default. -/
theorem tunnel_default {key : Str} {number : Nat} (plain : key ≠ [] ∧ key.all isOptionCode = true ∧
      key ∉ [lit "server_url", lit "tls_ca_bundle", lit "heartbeat_seconds"]) (small : number ≤ 65535) :
    tunnelInt runtime (parsedOf (confSections request request.nodeName token hostKey)) key
      (decimal number) = .ok (number : Int) := by
  have written := sections_written documented requested safe
  have tunneled : (lit "tunnel", tunnelOptions request) ∈
      confSections request request.nodeName token hostKey := by simp [confSections]
  have lowered := (plainName_option documented plain.1 plain.2.1).lowered
  have absent := sectionValue_absent written lowered fun options within =>
    section_unique written tunneled within ▸ plain.2.2
  refine bind_ok.mpr ⟨none, absent, ?_⟩
  rw [Option.getD_none, documented.int_decimal number small]

theorem tunnel_heartbeat :
    tunnelInt runtime (parsedOf (confSections request request.nodeName token hostKey))
      (lit "heartbeat_seconds") (lit "30") = .ok request.heartbeatSeconds := by
  have written := sections_written documented requested safe
  have tunneled : (lit "tunnel", tunnelOptions request) ∈
      confSections request request.nodeName token hostKey := by simp [confSections]
  have bounds := requested.heartbeat
  have clean : 37 ∉ decimal request.heartbeatSeconds := decimal_clean (by omega)
  have option : (lit "heartbeat_seconds", decimal request.heartbeatSeconds) ∈ tunnelOptions request := by
    simp [tunnelOptions]
  have found := sectionValue_plain written tunneled option clean
  obtain ⟨number, same⟩ := Int.eq_ofNat_of_zero_le (show 0 ≤ request.heartbeatSeconds by omega)
  refine bind_ok.mpr ⟨_, found, ?_⟩
  rw [Option.getD_some, same, documented.int_decimal number (by omega)]

omit safe in
/-- Both parsers take the target of a plain package for its host and port. -/
theorem target_both (plain : PlainPackage runtime request) : ∃ port : Nat, (port : Int) = request.proxyPort ∧
    enrollHostPort runtime (targetText request) = .ok (request.proxyHost, port) ∧
    runHostPort runtime (targetText request) = .ok (request.proxyHost, port) := by
  have target_plain := ((plainTarget_iff documented requested).mpr
    ⟨plain.proxy, plain.lowered, plain.normal⟩).1
  obtain ⟨⟨host, port⟩, enrolls, runs⟩ := plain_both documented.toDocumented target_plain
  have bounds := requested.proxyPort
  have positive : 0 ≤ request.proxyPort := by omega
  obtain ⟨portText, number, whole, last, -, -, read, -, -, same⟩ := enroll_ok.mp enrolls
  obtain ⟨rfl, rfl⟩ := targetText_unique positive whole last
  refine ⟨port, ?_, enrolls, runs⟩
  obtain ⟨natural, value⟩ := Int.eq_ofNat_of_zero_le positive
  rw [value, documented.int_decimal natural (by omega)] at read
  cases read
  rw [value]
  exact congrArg Int.ofNat same

/-- What the readers ask of a plain package. -/
structure Found (runtime : TargetRuntime) (request : CreateAgent) (token hostKey : Str) (parsed : Parsed) :
    Prop where
  sections : ∀ name ∈ [lit "enrollment", lit "proxy"], requireSection parsed name = .ok ()
  node : requireValue runtime parsed (lit "enrollment") (lit "node_name") (lit "enrollment.node_name") =
    .ok request.nodeName
  token : requireValue runtime parsed (lit "enrollment") (lit "token") (lit "enrollment.token") = .ok token
  apiUrl : requireValue runtime parsed (lit "enrollment") (lit "api_url") (lit "enrollment.api_url") =
    .ok (enrollUrl request)
  enrollBundle : requireValue runtime parsed (lit "enrollment") (lit "tls_ca_bundle")
    (lit "enrollment.tls_ca_bundle") = .ok bundlePath
  hostKey : requireValue runtime parsed (lit "enrollment") (lit "node_ssh_host_public_key")
    (lit "enrollment.node_ssh_host_public_key") = .ok hostKey
  tunnelBundle : requireValue runtime parsed (lit "tunnel") (lit "tls_ca_bundle")
    (lit "tunnel.tls_ca_bundle") = .ok bundlePath
  heartbeat : tunnelInt runtime parsed (lit "heartbeat_seconds") (lit "30") = .ok request.heartbeatSeconds
  backoff : tunnelInt runtime parsed (lit "reconnect_backoff_max_seconds") (lit "300") = .ok 300
  attempts : tunnelInt runtime parsed (lit "max_reconnect_attempts") (lit "0") = .ok 0
  target : requireValue runtime parsed (lit "proxy") (lit "target") (lit "proxy.target") =
    .ok (targetText request)
  path : identityPathOf runtime parsed = .ok (runtime.expanduser identityJson)

theorem plain_found (plain : PlainPackage runtime request) : Found runtime request token hostKey
    (parsedOf (confSections request request.nodeName token hostKey)) := by
  have written := sections_written documented requested safe
  have entries := sections_entries requested safe
  obtain ⟨clean, target_clean⟩ := plain_values requested safe plain
  have enrolled : (lit "enrollment", enrollmentOptions request request.nodeName token hostKey) ∈
      confSections request request.nodeName token hostKey := List.mem_cons_self
  have tunneled : (lit "tunnel", tunnelOptions request) ∈
      confSections request request.nodeName token hostKey := by simp [confSections]
  have proxied : (lit "proxy", [(lit "target", targetText request)]) ∈
      confSections request request.nodeName token hostKey := by simp [confSections]
  have identified : (lit "identity", [(lit "path", identityJson)]) ∈
      confSections request request.nodeName token hostKey := by simp [confSections]
  -- one section after the other: a value without percent signs is read as it is written
  have enrollment_value : ∀ name value label, (name, value) ∈
      enrollmentOptions request request.nodeName token hostKey →
      requireValue runtime (parsedOf (confSections request request.nodeName token hostKey))
        (lit "enrollment") name label = .ok value := by
    intro name value label option
    exact requireValue_ok.mpr ⟨sectionValue_plain written enrolled option (clean _ option),
      (entries _ enrolled _ option).2.trimmed.present⟩
  have names : ∀ key ∈ [lit "reconnect_backoff_max_seconds", lit "max_reconnect_attempts"],
      key ≠ [] ∧ key.all isOptionCode = true ∧
        key ∉ [lit "server_url", lit "tls_ca_bundle", lit "heartbeat_seconds"] := by decide +kernel
  have fallbacks : lit "300" = decimal (300 : Nat) ∧ lit "0" = decimal (0 : Nat) := by decide
  constructor
  · intro name member
    apply if_pos
    simp only [List.mem_cons, List.not_mem_nil, or_false] at member
    rcases member with rfl | rfl <;> simp [parsedOf, confSections]
  · exact enrollment_value _ _ _ (by simp [enrollmentOptions])
  · exact enrollment_value _ _ _ (by simp [enrollmentOptions])
  · exact enrollment_value _ _ _ (by simp [enrollmentOptions])
  · exact enrollment_value _ _ _ (by simp [enrollmentOptions])
  · exact enrollment_value _ _ _ (by simp [enrollmentOptions])
  · have literal := fileLiterals.bundle
    exact requireValue_ok.mpr ⟨sectionValue_plain written tunneled (by simp [tunnelOptions]) literal.clean,
      literal.present⟩
  · exact tunnel_heartbeat documented requested safe
  · rw [fallbacks.1]
    exact tunnel_default documented requested safe (names _ List.mem_cons_self) (by decide)
  · rw [fallbacks.2]
    exact tunnel_default documented requested safe (names _ (by simp)) (by decide)
  · exact requireValue_ok.mpr ⟨sectionValue_plain written proxied (List.mem_singleton_self _) target_clean,
      (entries _ proxied _ (List.mem_singleton_self _)).2.trimmed.present⟩
  · have found := sectionValue_plain written identified (List.mem_singleton_self _)
      fileLiterals.identity.clean
    exact bind_ok.mpr ⟨_, found, rfl⟩

omit documented requested safe in
theorem Found.enrolls {parsed : Parsed} {text : Str} {port : Nat}
    (found : Found runtime request token hostKey parsed) (reads : readConf runtime.toRuntime text = .ok parsed)
    (target : enrollHostPort runtime (targetText request) = .ok (request.proxyHost, port)) :
    loadEnrollmentConfig runtime text = .ok ⟨request.nodeName, token, enrollUrl request,
      runtime.expanduser bundlePath, hostKey, runtime.expanduser identityJson, request.proxyHost, port⟩ := by
  have sections := found.sections
  rw [loadEnrollmentConfig, reads]
  refine bind_ok.mpr ⟨_, rfl, bind_ok.mpr ⟨_, sections _ (by simp), bind_ok.mpr ⟨_, sections _ (by simp), ?_⟩⟩⟩
  refine bind_ok.mpr ⟨_, found.target, bind_ok.mpr ⟨_, ofConfig_ok.mpr target, bind_ok.mpr ⟨_, found.node, ?_⟩⟩⟩
  refine bind_ok.mpr ⟨_, found.token, bind_ok.mpr ⟨_, found.apiUrl, bind_ok.mpr ⟨_, found.enrollBundle, ?_⟩⟩⟩
  exact bind_ok.mpr ⟨_, found.hostKey, bind_ok.mpr ⟨_, found.path, rfl⟩⟩

omit documented requested safe in
theorem Found.loads {parsed : Parsed} {text : Str} {port : Nat}
    (found : Found runtime request token hostKey parsed) (reads : readConf runtime.toRuntime text = .ok parsed)
    (target : runHostPort runtime (targetText request) = .ok (request.proxyHost, port)) :
    loadAgentConfig runtime text = .ok ⟨runtime.expanduser identityJson, some token,
      runtime.pathExists (runtime.expanduser identityJson), runtime.expanduser bundlePath,
      runtime.expanduser bundlePath, request.proxyHost, port, request.heartbeatSeconds, 300, 0⟩ := by
  rw [loadAgentConfig, reads]
  refine bind_ok.mpr ⟨_, rfl, bind_ok.mpr ⟨_, found.target, bind_ok.mpr ⟨_, ofConfig_ok.mpr target, ?_⟩⟩⟩
  refine bind_ok.mpr ⟨_, (requireValue_ok.mp found.token).1, bind_ok.mpr ⟨_, found.path, ?_⟩⟩
  refine bind_ok.mpr ⟨_, found.enrollBundle, bind_ok.mpr ⟨_, found.tunnelBundle, ?_⟩⟩
  refine bind_ok.mpr ⟨_, found.heartbeat, bind_ok.mpr ⟨_, found.backoff, ?_⟩⟩
  exact bind_ok.mpr ⟨_, found.attempts, rfl⟩

/-- A plain package is read back by both readers. -/
theorem reads_of_plain (plain : PlainPackage runtime request) :
    ∃ enrollment config, ReadsBack runtime request token hostKey
      (renderConf request request.nodeName token hostKey) enrollment config := by
  have found := plain_found documented requested safe plain
  have parsed := package_read documented requested safe
  obtain ⟨port, ports, enrolls, runs⟩ := target_both documented requested plain
  exact ⟨_, _, found.enrolls parsed enrolls, found.loads parsed runs, rfl, ⟨rfl, rfl⟩, rfl, rfl, ⟨rfl, rfl⟩,
    ⟨ports, ports⟩, rfl⟩
end Package

/-- The package reads back as written exactly where nothing that was passed in has a percent sign, and
the proxy host has no mark of a URL and no letter that is changed. -/
theorem package_reads_back_iff {runtime : TargetRuntime} {config : AdminConfig} {draws : AdminDraws}
    {request : CreateAgent} {now : Python.Values.DateTime} {connection : AdminAudit.AdminConnection}
    {world after : AdminAudit.AdminWorld} {package : CreatedAgentPackage}
    (documented : PackageDocumented runtime) (safe : UrlsafeToken draws.token)
    (made : AdminAudit.run connection (createAgent config draws request now) world = (.ok package, after)) :
    (∃ hostKey enrollment agent,
      validateNodeHostKey config.library request.nodeSshHostPublicKey = .ok hostKey ∧
        ReadsBack runtime request draws.token hostKey package.agentConf enrollment agent) ↔
      PlainPackage runtime request := by
  obtain ⟨hostKey, requested, rendered⟩ := package_text made
  rw [rendered]
  constructor
  · rintro ⟨_, enrollment, agent, same, reads⟩
    cases requested.key.symm.trans same
    exact plain_of_reads documented requested safe reads
  · intro plain
    obtain ⟨enrollment, agent, reads⟩ := reads_of_plain documented requested safe plain
    exact ⟨hostKey, enrollment, agent, requested.key, reads⟩

/-! A package for one node. -/

theorem digitsValue_decimal (number : Nat) : digitsValue (decimal number) = number := by
  have each : ∀ (chars : List Char) (start : Nat), (∀ char ∈ chars, char.isDigit = true) →
      (chars.map fun char => Fin.ofNat 0x110000 char.toNat).foldl
        (fun value (digit : CodePoint) => value * 10 + (digit.val - 48)) start =
      Nat.ofDigitChars 10 chars start := by
    intro chars
    induction chars with
    | nil => exact fun _ _ => rfl
    | cons char rest ih =>
        intro start digits
        obtain ⟨here, later⟩ := List.forall_mem_cons.mp digits
        simp only [Char.isDigit, Bool.and_eq_true, decide_eq_true_eq, UInt32.le_iff_toNat_le] at here
        have high : char.toNat ≤ 57 := here.2
        have same : (Fin.ofNat 0x110000 char.toNat).val = char.toNat := point_of (by omega)
        rw [List.map_cons, List.foldl_cons, ih _ later, Nat.ofDigitChars_cons, same, Nat.mul_comm]
        rfl
  rw [decimal_natural, digitsValue, each _ _ fun char => Nat.isDigit_of_mem_toDigits (by decide) (by decide)]
  exact Nat.ofDigitChars_ten_toDigits

theorem asciiRuntime_package : PackageDocumented asciiRuntime where
  toDocumented := asciiRuntime_documented
  lower_option := by
    intro name plain
    have kept : ∀ code ∈ name, (if 65 ≤ code.val ∧ code.val ≤ 90 then code + 32 else code) = id code := by
      intro code member
      have small := plain code member
      simp only [isOptionCode, Bool.or_eq_true, Bool.and_eq_true, decide_eq_true_eq, beq_iff_eq] at small
      apply if_neg
      omega
    show AgentConf.lowerAscii name = name
    rw [AgentConf.lowerAscii, List.map_congr_left kept, List.map_id]
  int_decimal := by
    intro number _
    have digits : (decimal number).all isDigit = true := List.all_eq_true.mpr decimal_digit
    show asciiInt (decimal number) = some (number : Int)
    rw [asciiInt, if_neg (by simp [decimal_present, digits]), digitsValue_decimal]

/-- A request with a server host. -/
def requestFor (serverHost : Str) : CreateAgent :=
  ⟨lit "node01", [lit "edge"], lit "admin", nodeKeyOne, serverHost, 4443, 4444, lit "127.0.0.1", 2222, 30⟩

def creation (serverHost : Str) : Except Exc CreatedAgentPackage × AdminAudit.AdminWorld :=
  AdminAudit.run AdminAudit.settingOne.connection (createAgent AdminAudit.settingOne.config
    AdminAudit.settingOne.draws (requestFor serverHost) AdminAudit.settingOne.now) AdminAudit.adminWorldOne

theorem creation_made {serverHost : Str} (ok : (creation serverHost).1.isOk = true) :
    ∃ package after, creation serverHost = (.ok package, after) := by
  rcases made : creation serverHost with ⟨raised | package, after⟩
  · rw [made] at ok
    cases ok
  · exact ⟨package, after, rfl⟩

theorem tokenOne_safe : UrlsafeToken tokenOne := by
  refine ⟨by decide +kernel, ?_⟩
  intro code member
  rw [List.eq_of_mem_replicate member]
  exact .inl (by decide)

theorem server_reads_back : ∃ package after, creation (lit "server") = (.ok package, after) ∧
    ∃ hostKey enrollment agent,
      validateNodeHostKey libraryOne nodeKeyOne = .ok hostKey ∧
        ReadsBack asciiRuntime (requestFor (lit "server")) tokenOne hostKey package.agentConf enrollment
          agent := by
  obtain ⟨package, after, made⟩ := creation_made (by decide +kernel : (creation (lit "server")).1.isOk = true)
  refine ⟨package, after, made, ?_⟩
  apply (package_reads_back_iff asciiRuntime_package tokenOne_safe made).mpr
  have host : (lit "127.0.0.1").all (fun code => code ≠ 37 && !isMark code) = true := by decide +kernel
  constructor
  · decide +kernel
  · decide +kernel
  · intro code member
    simpa using List.all_eq_true.mp host code member
  · decide +kernel
  · rfl

/-- A percent sign in the server host passes the checks, and the package is not read. -/
theorem percent_unread : ¬ ∀ runtime config draws request now connection world package after,
    PackageDocumented runtime → UrlsafeToken draws.token →
    AdminAudit.run connection (createAgent config draws request now) world = (.ok package, after) →
    ∃ hostKey enrollment agent,
      validateNodeHostKey config.library request.nodeSshHostPublicKey = .ok hostKey ∧
        ReadsBack runtime request draws.token hostKey package.agentConf enrollment agent := by
  intro claimed
  obtain ⟨package, after, made⟩ := creation_made (by decide +kernel : (creation (lit "a%b")).1.isOk = true)
  obtain ⟨_, enrollment, agent, same, reads⟩ := claimed asciiRuntime _ _ _ _ _ _ package after
    asciiRuntime_package tokenOne_safe made
  obtain ⟨hostKey, requested, rendered⟩ := package_text made
  cases requested.key.symm.trans same
  rw [rendered] at reads
  have plain := plain_of_reads asciiRuntime_package requested tokenOne_safe reads
  have sign : 37 ∈ (requestFor (lit "a%b")).serverHost := by decide +kernel
  exact plain.server sign

end VibeConnect.EnrollmentPackage
