import VibeConnect.EnrollmentPackage

/-! The lines of the package, and what a parser finds in them. -/
namespace VibeConnect.EnrollmentPackage
open Python.Text Python.JsonCodec Python.Coroutine Python.ConfigParser Python.ConfigText
open Python.Interpolation Python.Url Models JumpCoordinator Enrollment AdminService ProxyTarget
open AgentConf (ConfigFault AgentConfig readConf)

/-! What a request has that passes the checks. -/

theorem decimal_natural (number : Nat) :
    decimal number = (Nat.toDigits 10 number).map fun char => Fin.ofNat 0x110000 char.toNat := by
  have shown : toString (number : Int) = Nat.repr number := rfl
  rw [decimal, lit, shown, Nat.toList_repr]

theorem decimal_digit {number : Nat} : ∀ code ∈ decimal number, isDigit code = true := by
  intro code member
  rw [decimal_natural] at member
  obtain ⟨char, inside, rfl⟩ := List.mem_map.mp member
  have digit := Nat.isDigit_of_mem_toDigits (by decide) (by decide) inside
  simp only [Char.isDigit, Bool.and_eq_true, decide_eq_true_eq, UInt32.le_iff_toNat_le] at digit
  have low : 48 ≤ char.toNat := digit.1
  have high : char.toNat ≤ 57 := digit.2
  have same : (Fin.ofNat 0x110000 char.toNat).val = char.toNat := point_of (by omega)
  simp only [isDigit, Bool.and_eq_true, decide_eq_true_eq]
  rw [same]
  exact ⟨low, high⟩

theorem decimal_present (number : Nat) : decimal number ≠ [] := by
  rw [decimal_natural]
  simp

/-- The checks of `create_agent` that the text of the file rests on. -/
structure CheckedRequest (library : EnrollmentLibrary) (request : CreateAgent) (hostKey : Str) : Prop where
  node : isNodeName request.nodeName = true
  server : request.serverHost.any isSpace = false
  key : validateNodeHostKey library request.nodeSshHostPublicKey = .ok hostKey
  enrollmentPort : 1 ≤ request.enrollmentPort ∧ request.enrollmentPort ≤ 65535
  tunnelPort : 1 ≤ request.tunnelPort ∧ request.tunnelPort ≤ 65535
  proxyPort : 1 ≤ request.proxyPort ∧ request.proxyPort ≤ 65535
  proxyFront : lit "127." <+: request.proxyHost
  proxy : request.proxyHost.any isSpace = false
  heartbeat : 5 ≤ request.heartbeatSeconds ∧ request.heartbeatSeconds ≤ 300

theorem validateServerHost_ok {value checked : Str} (ok : validateServerHost value = .ok checked) :
    value.any isSpace = false := by
  unfold validateServerHost at ok
  split at ok
  · cases ok
  · next fine =>
    simp only [not_or, Bool.not_eq_true] at fine
    exact fine.2.2

theorem validateProxyHost_ok {value checked : Str} (ok : validateProxyHost value = .ok checked) :
    lit "127." <+: value ∧ value.any isSpace = false := by
  unfold validateProxyHost at ok
  split at ok
  · cases ok
  · next fine =>
    simpa only [not_or, not_not, Bool.not_eq_true] using fine

theorem validatePort_ok {value : Int} {label : String} (ok : validatePort value label = .ok ()) :
    1 ≤ value ∧ value ≤ 65535 := by
  unfold validatePort at ok
  split at ok
  · assumption
  · cases ok

theorem validateHeartbeat_ok {seconds : Int} (ok : validateHeartbeat seconds = .ok ()) :
    5 ≤ seconds ∧ seconds ≤ 300 := by
  unfold validateHeartbeat at ok
  split at ok
  · assumption
  · cases ok

theorem checked_request {config : AdminConfig} {draws : AdminDraws} {request : CreateAgent}
    {checked : Str × List Str × Str × Str} (passed : createChecks config draws request = .ok checked) :
    checked.1 = request.nodeName ∧ CheckedRequest config.library request checked.2.2.1 := by
  obtain ⟨nodeName, node, passed⟩ := bind_ok.mp passed
  obtain ⟨labels, -, passed⟩ := bind_ok.mp passed
  obtain ⟨_, server, passed⟩ := bind_ok.mp passed
  obtain ⟨hostKey, key, passed⟩ := bind_ok.mp passed
  obtain ⟨_, enrollmentPort, passed⟩ := bind_ok.mp passed
  obtain ⟨_, tunnelPort, passed⟩ := bind_ok.mp passed
  obtain ⟨_, proxyPort, passed⟩ := bind_ok.mp passed
  obtain ⟨_, proxy, passed⟩ := bind_ok.mp passed
  obtain ⟨_, heartbeat, passed⟩ := bind_ok.mp passed
  obtain ⟨tokenHash, -, passed⟩ := bind_ok.mp passed
  cases passed
  obtain ⟨named, rfl⟩ := validateNodeName_iff.mp node
  obtain ⟨front, unspaced⟩ := validateProxyHost_ok proxy
  refine ⟨rfl, ?_⟩
  constructor
  · exact named
  · exact validateServerHost_ok server
  · exact key
  · exact validatePort_ok enrollmentPort
  · exact validatePort_ok tunnelPort
  · exact validatePort_ok proxyPort
  · exact front
  · exact unspaced
  · exact validateHeartbeat_ok heartbeat

/-- What `create_agent` returns is the rendered file. -/
theorem package_text {config : AdminConfig} {draws : AdminDraws} {request : CreateAgent} {now : Python.Values.DateTime}
    {connection : AdminAudit.AdminConnection} {world after : AdminAudit.AdminWorld} {package : CreatedAgentPackage}
    (made : AdminAudit.run connection (createAgent config draws request now) world = (.ok package, after)) :
    ∃ hostKey, CheckedRequest config.library request hostKey ∧
      package.agentConf = renderConf request request.nodeName draws.token hostKey := by
  obtain ⟨checked, middle, checks, stored⟩ := Coro.run_bind_ok.mp made
  rw [Coro.run_ofAnswer] at checks
  obtain ⟨passed, rfl⟩ := Prod.mk.inj checks
  obtain ⟨named, requested⟩ := checked_request passed
  obtain ⟨-, kept, -, audited⟩ := Coro.run_bind_ok.mp stored
  obtain ⟨-, last, -, returned⟩ := Coro.run_bind_ok.mp audited
  cases returned
  exact ⟨checked.2.2.1, requested, by rw [named]⟩

/-! The words of a text. -/

theorem splitOnP_clean {text : Str} {stops : CodePoint → Bool} :
    ∀ part ∈ text.splitOnP stops, ∀ code ∈ part, stops code = false := by
  induction text with
  | nil => simp
  | cons first rest ih =>
      rw [List.splitOnP_cons_eq_if_modifyHead]
      split
      · exact List.forall_mem_cons.mpr ⟨by simp, ih⟩
      · next inside =>
        obtain ⟨part, parts, same⟩ := List.exists_cons_of_ne_nil (List.splitOnP_ne_nil stops rest)
        rw [same] at ih ⊢
        obtain ⟨head, tail⟩ := List.forall_mem_cons.mp ih
        refine List.forall_mem_cons.mpr ⟨?_, tail⟩
        exact List.forall_mem_cons.mpr ⟨by simpa using inside, head⟩

/-- A text with no white space in it, and not empty. -/
structure Solid (text : Str) : Prop where
  present : text ≠ []
  unspaced : ∀ code ∈ text, isSpace code = false

theorem splitSpaces_solid {text : Str} : ∀ word ∈ splitSpaces text, Solid word := by
  intro word member
  obtain ⟨inside, present⟩ := List.mem_filter.mp member
  exact ⟨by simpa using present, splitOnP_clean word inside⟩

theorem Solid.trimmed {text : Str} (solid : Solid text) : Trimmed text :=
  .unspaced solid.present solid.unspaced

theorem Solid.unbroken {text : Str} (solid : Solid text) : ∀ code ∈ text, isLineBreak code = false :=
  fun code member => unbroken_of_unspaced (solid.unspaced code member)

theorem Solid.append {front back : Str} (first : Solid front) (unspaced : ∀ code ∈ back, isSpace code = false) :
    Solid (front ++ back) where
  present := by simp [first.present]
  unspaced := fun code member => (List.mem_append.mp member).elim (first.unspaced code) (unspaced code)

/-- A literal of the file: solid, and read as it is written. -/
structure Literal (text : Str) : Prop extends Solid text where
  clean : 37 ∉ text

theorem literal_fine {text : Str}
    (fine : text ≠ [] ∧ text.all (fun code => !isSpace code && code != 37) = true) : Literal text where
  present := fine.1
  unspaced := by
    intro code member
    have each := List.all_eq_true.mp fine.2 code member
    rw [Bool.and_eq_true, Bool.not_eq_true'] at each
    exact each.1
  clean := by
    intro member
    have each := List.all_eq_true.mp fine.2 37 member
    simp at each

/-- The literals that values of the file are made of. -/
structure FileLiterals : Prop where
  scheme : Literal (lit "https://")
  colon : Literal (lit ":")
  enroll : Literal (lit "/enroll")
  tunnel : Literal (lit "/tunnel")
  loopback : Literal (lit "127.")
  bundle : Literal bundlePath
  identity : Literal identityJson

theorem fileLiterals : FileLiterals := by
  have fine : ∀ text ∈ [lit "https://", lit ":", lit "/enroll", lit "/tunnel", lit "127.", bundlePath,
      identityJson], text ≠ [] ∧ text.all (fun code => !isSpace code && code != 37) = true := by
    decide +kernel
  simp only [List.forall_mem_cons] at fine
  obtain ⟨scheme, colon, enroll, tunnel, loopback, bundle, identity, -⟩ := fine
  constructor
  · exact literal_fine scheme
  · exact literal_fine colon
  · exact literal_fine enroll
  · exact literal_fine tunnel
  · exact literal_fine loopback
  · exact literal_fine bundle
  · exact literal_fine identity

theorem isDigit_unspaced {code : CodePoint} (digit : isDigit code = true) : isSpace code = false := by
  simp only [isDigit, Bool.and_eq_true, decide_eq_true_eq] at digit
  simp only [isSpace, Bool.or_eq_false_iff, Bool.and_eq_false_iff, decide_eq_false_iff_not,
    beq_eq_false_iff_ne]
  omega

theorem decimal_solid {value : Int} (positive : 0 ≤ value) : Solid (decimal value) := by
  obtain ⟨number, rfl⟩ := Int.eq_ofNat_of_zero_le positive
  exact ⟨decimal_present number, fun code member => isDigit_unspaced (decimal_digit code member)⟩

theorem isAlphanumeric_unspaced {code : CodePoint} (named : isAlphanumeric code = true) : isSpace code = false := by
  simp only [isAlphanumeric, Bool.or_eq_true, Bool.and_eq_true, decide_eq_true_eq] at named
  simp only [isSpace, Bool.or_eq_false_iff, Bool.and_eq_false_iff, decide_eq_false_iff_not,
    beq_eq_false_iff_ne]
  omega

theorem nodeName_solid {name : Str} (named : isNodeName name = true) : Solid name := by
  have marks : (lit "_.-").all (fun code => !isSpace code) = true := by decide
  cases name with
  | nil => cases named
  | cons first rest =>
      simp only [isNodeName, Bool.and_eq_true, List.all_eq_true, Bool.or_eq_true] at named
      refine ⟨by simp, List.forall_mem_cons.mpr ⟨isAlphanumeric_unspaced named.1.1, ?_⟩⟩
      intro code member
      rcases named.2 code member with letter | mark
      · exact isAlphanumeric_unspaced letter
      · simpa using List.all_eq_true.mp marks code (List.contains_iff_mem.mp mark)

theorem UrlsafeToken.solid {token : Str} (safe : UrlsafeToken token) : Solid token := by
  have marks : isSpace 45 = false ∧ isSpace 95 = false := by decide
  refine ⟨safe.1, ?_⟩
  intro code member
  rcases safe.2 code member with letter | rfl | rfl
  · exact isAlphanumeric_unspaced letter
  · exact marks.1
  · exact marks.2

/-! The values of the sections. -/

theorem hostKey_words {library : EnrollmentLibrary} {text hostKey : Str}
    (ok : validateNodeHostKey library text = .ok hostKey) : ∃ keyType blob words,
      splitSpaces (strip text) = keyType :: blob :: words ∧ hostKey = keyType ++ lit " " ++ blob := by
  unfold validateNodeHostKey at ok
  cases checked : validateNodeSshHostPublicKey library text with
  | error raised =>
      rw [checked] at ok
      simp only at ok
      split at ok <;> cases ok
  | ok found =>
      rw [checked] at ok
      cases ok
      unfold validateNodeSshHostPublicKey at checked
      simp only at checked
      split at checked
      · cases checked
      split at checked
      · split at checked <;> cases checked
      split at checked
      · next keyType blob words same =>
        cases checked
        exact ⟨keyType, blob, words, same, rfl⟩
      · cases checked

/-- A value that stands on one line and is read as it is written. -/
structure Entry (value : Str) : Prop where
  trimmed : Trimmed value
  unbroken : ∀ code ∈ value, isLineBreak code = false

theorem Solid.entry {value : Str} (solid : Solid value) : Entry value := ⟨solid.trimmed, solid.unbroken⟩

/-- Two words with a space between them. -/
theorem entry_words {first second : Str} (one : Solid first) (two : Solid second) :
    Entry (first ++ lit " " ++ second) where
  trimmed := by
    obtain ⟨point, rest, rfl⟩ := List.exists_cons_of_ne_nil one.present
    refine ⟨by simp, ?_, ?_⟩
    · rintro code ⟨⟩
      exact one.unspaced point List.mem_cons_self
    · intro code last
      rw [List.getLast?_append_of_ne_nil _ two.present] at last
      exact two.unspaced code (List.mem_of_getLast? last)
  unbroken := by
    have space : lit " " = [32] ∧ isLineBreak 32 = false := by decide
    intro code member
    rw [space.1, List.mem_append, List.mem_append, List.mem_singleton] at member
    rcases member with (before | rfl) | after
    · exact one.unbroken code before
    · exact space.2
    · exact two.unbroken code after

theorem unspaced_of_any {text : Str} (none : text.any isSpace = false) :
    ∀ code ∈ text, isSpace code = false := by
  intro code member
  simpa using List.any_eq_false.mp none code member

section Sections
variable {library : EnrollmentLibrary} {request : CreateAgent} {token hostKey : Str}

/-- `https://server_host:port` and a path. -/
theorem url_solid (requested : CheckedRequest library request hostKey) {port : Int} (positive : 0 ≤ port)
    {path : Str} (solid : Solid path) :
    Solid (lit "https://" ++ request.serverHost ++ lit ":" ++ decimal port ++ path) := by
  have host := fileLiterals.scheme.append (unspaced_of_any requested.server)
  exact ((host.append fileLiterals.colon.unspaced).append (decimal_solid positive).unspaced).append solid.unspaced

theorem target_solid (requested : CheckedRequest library request hostKey) :
    Solid (targetText request) := by
  have present : request.proxyHost ≠ [] := by
    intro empty
    have none := requested.proxyFront
    rw [empty, List.prefix_nil] at none
    exact fileLiterals.loopback.present none
  have host : Solid request.proxyHost := ⟨present, unspaced_of_any requested.proxy⟩
  have positive : 0 ≤ request.proxyPort := by
    have low := requested.proxyPort.1
    omega
  exact (host.append fileLiterals.colon.unspaced).append (decimal_solid positive).unspaced

theorem sections_entries (requested : CheckedRequest library request hostKey) (safe : UrlsafeToken token) :
    ∀ written ∈ confSections request request.nodeName token hostKey, ∀ option ∈ written.2,
      (option.1 ≠ [] ∧ option.1.all isOptionCode = true) ∧ Entry option.2 := by
  have names : ∀ name ∈ [lit "node_name", lit "token", lit "api_url", lit "tls_ca_bundle",
      lit "node_ssh_host_public_key", lit "server_url", lit "heartbeat_seconds", lit "target", lit "path"],
      name ≠ [] ∧ name.all isOptionCode = true := by decide +kernel
  simp only [List.forall_mem_cons] at names
  obtain ⟨nodeName, tokenName, apiUrl, bundle, key, serverUrl, heartbeat, target, path, -⟩ := names
  have literals := fileLiterals
  obtain ⟨keyType, blob, words, split, rfl⟩ := hostKey_words requested.key
  have solids : ∀ word ∈ keyType :: blob :: words, Solid word := split ▸ splitSpaces_solid
  have keyEntry := entry_words (solids keyType (by simp)) (solids blob (by simp))
  have positive : 0 ≤ request.enrollmentPort ∧ 0 ≤ request.tunnelPort ∧ 0 ≤ request.heartbeatSeconds := by
    have one := requested.enrollmentPort.1
    have two := requested.tunnelPort.1
    have three := requested.heartbeat.1
    omega
  have api := (url_solid requested positive.1 literals.enroll.toSolid).entry
  have server := (url_solid requested positive.2.1 literals.tunnel.toSolid).entry
  simp only [confSections, enrollmentOptions, tunnelOptions, List.forall_mem_cons, List.not_mem_nil, false_implies, implies_true, and_true]
  exact ⟨⟨⟨nodeName, (nodeName_solid requested.node).entry⟩, ⟨tokenName, safe.solid.entry⟩, ⟨apiUrl, api⟩,
    ⟨bundle, literals.bundle.entry⟩, ⟨key, keyEntry⟩⟩, ⟨⟨serverUrl, server⟩, ⟨bundle, literals.bundle.entry⟩,
    ⟨heartbeat, (decimal_solid positive.2.2).entry⟩⟩, ⟨target, (target_solid requested).entry⟩,
    ⟨path, literals.identity.entry⟩⟩
end Sections

/-! The reading of the package. -/
section Reading
variable {runtime : TargetRuntime} {library : EnrollmentLibrary} {request : CreateAgent}
  {token hostKey : Str} {sections : List Section}

theorem plainName_option (documented : PackageDocumented runtime) {name : Str} (present : name ≠ [])
    (plain : name.all isOptionCode = true) : PlainName runtime.lower name := by
  have each := List.all_eq_true.mp plain
  have range : ∀ code ∈ name, (97 ≤ code.val ∧ code.val ≤ 122) ∨ code.val = 95 := by
    intro code member
    simpa [isOptionCode] using each code member
  constructor
  · exact present
  · intro code member
    have bounds := range code member
    simp only [isSpace, isDelimiter, Bool.or_eq_false_iff, Bool.and_eq_false_iff, decide_eq_false_iff_not,
      beq_eq_false_iff_ne, ne_eq, Fin.ext_iff]
    have marks : ((61 : CodePoint) : Nat) = 61 ∧ ((58 : CodePoint) : Nat) = 58 := by decide
    omega
  · intro code head
    have bounds := range code (List.mem_of_head? head)
    have marks : ((35 : CodePoint) : Nat) = 35 ∧ ((59 : CodePoint) : Nat) = 59 ∧
        ((91 : CodePoint) : Nat) = 91 := by decide
    simp only [ne_eq, Fin.ext_iff]
    omega
  · exact documented.lower_option name each

theorem isOptionCode_unspaced {code : CodePoint} (plain : isOptionCode code = true) : isSpace code = false := by
  simp only [isOptionCode, Bool.or_eq_true, Bool.and_eq_true, decide_eq_true_eq, beq_iff_eq] at plain
  simp only [isSpace, Bool.or_eq_false_iff, Bool.and_eq_false_iff, decide_eq_false_iff_not,
    beq_eq_false_iff_ne]
  omega

/-- The headers and the names are distinct, and no header is the default one. -/
theorem sections_named (request : CreateAgent) (nodeName token hostKey : Str) :
    ((confSections request nodeName token hostKey).map Prod.fst).Nodup ∧
    (∀ written ∈ confSections request nodeName token hostKey,
      (written.1 ≠ [] ∧ written.1 ≠ defaultSection) ∧ written.1.all isOptionCode = true ∧
        (written.2.map Prod.fst).Nodup) := by
  have headers : [lit "enrollment", lit "tunnel", lit "proxy", lit "identity"].Nodup ∧
      (∀ header ∈ [lit "enrollment", lit "tunnel", lit "proxy", lit "identity"],
        (header ≠ [] ∧ header ≠ defaultSection) ∧ header.all isOptionCode = true) ∧
      [lit "node_name", lit "token", lit "api_url", lit "tls_ca_bundle",
        lit "node_ssh_host_public_key"].Nodup ∧
      [lit "server_url", lit "tls_ca_bundle", lit "heartbeat_seconds"].Nodup := by
    decide +kernel
  obtain ⟨distinct, each, names⟩ := headers
  simp only [List.forall_mem_cons] at each
  obtain ⟨enrollment, tunnel, proxy, identity, -⟩ := each
  refine ⟨distinct, ?_⟩
  simp only [confSections, List.forall_mem_cons, List.not_mem_nil, false_implies, implies_true, and_true]
  exact ⟨⟨enrollment.1, enrollment.2, names.1⟩, ⟨tunnel.1, tunnel.2, names.2⟩,
    ⟨proxy.1, proxy.2, List.nodup_singleton _⟩, ⟨identity.1, identity.2, List.nodup_singleton _⟩⟩

theorem sections_written (documented : PackageDocumented runtime)
    (requested : CheckedRequest library request hostKey) (safe : UrlsafeToken token) :
    WellWritten runtime.lower (confSections request request.nodeName token hostKey) := by
  obtain ⟨distinct, named⟩ := sections_named request request.nodeName token hostKey
  have entries := sections_entries requested safe
  constructor
  · exact distinct
  · exact fun written member => (named written member).1
  · exact fun written member => (named written member).2.2
  · intro written member option inside
    obtain ⟨⟨present, plain⟩, -⟩ := entries written member option inside
    exact plainName_option documented present plain
  · exact fun written member option inside => (entries written member option inside).2.trimmed

theorem sections_unbroken (requested : CheckedRequest library request hostKey) (safe : UrlsafeToken token) :
    ∀ written ∈ confSections request request.nodeName token hostKey, Unbroken written := by
  obtain ⟨-, named⟩ := sections_named request request.nodeName token hostKey
  have entries := sections_entries requested safe
  have clean : ∀ name : Str, name.all isOptionCode = true → ∀ code ∈ name, isLineBreak code = false :=
    fun name plain code member =>
      unbroken_of_unspaced (isOptionCode_unspaced (List.all_eq_true.mp plain code member))
  intro written member
  constructor
  · exact clean _ (named written member).2.1
  · intro option inside code within
    obtain ⟨⟨-, plain⟩, entry⟩ := entries written member option inside
    exact (List.mem_append.mp within).elim (clean _ plain code) (entry.unbroken code)

/-- The parser finds the sections and their options. -/
theorem package_read (documented : PackageDocumented runtime)
    (requested : CheckedRequest library request hostKey) (safe : UrlsafeToken token) :
    readConf runtime.toRuntime (renderConf request request.nodeName token hostKey) =
      .ok ⟨(confSections request request.nodeName token hostKey).map Prod.fst,
        confPairs (confSections request request.nodeName token hostKey)⟩ := by
  have present : confSections request request.nodeName token hostKey ≠ [] := by simp [confSections]
  rw [renderConf_lines, readConf, fileLines_confLines present (sections_unbroken requested safe)]
  exact parse_confLines present (sections_written documented requested safe)
end Reading

end VibeConnect.EnrollmentPackage
