import VibeConnect.AgentMain

/-! The life of an agent. What an admin packed for a node is read there, enrolled with, and rewritten; the
file without the token and the identity that the answer left open the tunnel. -/
namespace VibeConnect.AgentLife
open Python Python.Text Python.JsonCodec Python.Values Python.Coroutine Python.Tasks Python.ConfigParser
open Python.ConfigText Python.Statements Python.Interpolation Models JumpCoordinator Enrollment ProxyTarget
open AdminService
open AgentConf (AgentConfig readConf startsWithToken rewrittenLines rewriteAgentConfWithoutToken
  readConf_rewritten lowerAscii)
open EnrollmentPackage AgentMain EnrollmentRollback ConfigChecks
open AgentEnrollment (Disk Faults ResponseFields identityData identityText validateResponse
  validateResponseStr validateResponseInt completeEnrollment commit takeBack writeIdentityJson
  rewriteConfFile)
open AgentKey (CertificateLibrary Certificate Cryptography Canonical Current agentRow
  loadIdentityCertificate publicKeyPem peerCertificateBinding authValues encodeUtf8)

/-! `agent.conf` without the token. -/
section Rewriting
variable {runtime : TargetRuntime} {sections : List Section} {name value : Str}

/-- `str.lower` on ASCII, whatever comes after it. -/
structure LowersAscii (lower : Str → Str) : Prop where
  whole : ∀ text, Ascii text → lower text = lowerAscii text
  front : ∀ front rest, Ascii front → lowerAscii front <+: lower (front ++ rest)

/-- The names that the rewriting leaves. -/
def keepsName (name : Str) : Bool := name != lit "token"

/-- A name of the package: letters that `lower` leaves, and nothing that only begins like the token. -/
structure PackageName (name : Str) : Prop where
  present : name ≠ []
  plain : ∀ code ∈ name, isOptionCode code = true
  apart : lit "token" <+: name → name = lit "token"

theorem optionCode_ascii {code : CodePoint} (plain : isOptionCode code = true) : code.val < 0x80 := by
  simp only [isOptionCode, Bool.or_eq_true, Bool.and_eq_true, decide_eq_true_eq, beq_iff_eq] at plain
  omega

theorem lowerAscii_same {text : Str} (small : ∀ code ∈ text, ¬(65 ≤ code.val ∧ code.val ≤ 90)) :
    lowerAscii text = text := by
  have kept : ∀ code ∈ text, (if 65 ≤ code.val ∧ code.val ≤ 90 then code + 32 else code) = id code :=
    fun code member => if_neg (small code member)
  rw [lowerAscii, List.map_congr_left kept, List.map_id]

theorem lowerAscii_option (plain : ∀ code ∈ name, isOptionCode code = true) : lowerAscii name = name := by
  apply lowerAscii_same
  intro code member
  have letter := plain code member
  simp only [isOptionCode, Bool.or_eq_true, Bool.and_eq_true, decide_eq_true_eq, beq_iff_eq] at letter
  omega

theorem startsWithToken_iff {line : Str} : startsWithToken runtime.toRuntime line = true ↔
    lit "token" <+: runtime.lower (strip line) := List.isPrefixOf_iff_prefix

theorem strip_optionLine (named : PackageName name) (option : PlainName runtime.lower name)
    (trimmed : Trimmed value) : strip (optionLine (name, value)) = optionLine (name, value) := by
  obtain ⟨first, rest, rfl⟩ := List.exists_cons_of_ne_nil named.present
  apply strip_ends
  · rintro code ⟨⟩
    exact (option.inside first List.mem_cons_self).1
  · intro code last
    rw [optionLine, List.getLast?_append_of_ne_nil _ trimmed.present] at last
    exact trimmed.back code last

/-- The line of an option begins with `token` where its name is the token. -/
theorem startsWithToken_option (lowers : LowersAscii runtime.lower) (named : PackageName name)
    (option : PlainName runtime.lower name) (trimmed : Trimmed value) :
    startsWithToken runtime.toRuntime (optionLine (name, value)) = true ↔ name = lit "token" := by
  have equals : lit " = " = [32, 61, 32] := by decide
  have space : ¬ (32 : CodePoint) ∈ lit "token" := by decide
  rw [startsWithToken_iff, strip_optionLine named option trimmed]
  have ascii : Ascii (name ++ [32]) :=
    ascii_append (fun code member => optionCode_ascii (named.plain code member))
      (ascii_cons (by decide) ascii_nil)
  have kept : lowerAscii (name ++ [32]) = name ++ [32] := by
    apply lowerAscii_same
    intro code member
    rcases List.mem_append.mp member with inside | last
    · have letter := named.plain code inside
      simp only [isOptionCode, Bool.or_eq_true, Bool.and_eq_true, decide_eq_true_eq, beq_iff_eq] at letter
      omega
    · rw [List.mem_singleton.mp last]
      decide
  have line : optionLine (name, value) = (name ++ [32]) ++ ([61, 32] ++ value) := by
    simp [optionLine, equals]
  have begins : name ++ [32] <+: runtime.lower (optionLine (name, value)) := by
    have front := lowers.front (name ++ [32]) ([61, 32] ++ value) ascii
    rw [kept, ← line] at front
    exact front
  constructor
  · intro token
    apply named.apart
    by_cases short : (lit "token").length ≤ name.length
    · exact List.prefix_of_prefix_length_le token ((List.prefix_append name [32]).trans begins) short
    · -- the space after a shorter name would be in the token
      have inside := List.prefix_of_prefix_length_le begins token (by simp; omega)
      exact absurd (inside.subset (by simp)) space
  · rintro rfl
    exact (List.prefix_append _ [32]).trans begins

/-- The filter of `rewrite_agent_conf_without_token` looks at the names. -/
theorem filters_token (lowers : LowersAscii runtime.lower) (written : WellWritten runtime.lower sections)
    (named : ∀ one ∈ sections, ∀ option ∈ one.2, PackageName option.1) :
    FiltersNames (fun line => !startsWithToken runtime.toRuntime line) keepsName sections where
  blank := by
    have blank : strip [] = [] := rfl
    have lowered : runtime.lower [] = [] := lowers.whole [] ascii_nil
    have present : ¬ lit "token" <+: [] := by decide
    rw [← Bool.not_false]
    congr 1
    rw [Bool.eq_false_iff, ne_eq, startsWithToken_iff, blank, lowered]
    exact present
  heading := by
    intro one _
    have marks : isSpace 91 = false ∧ isSpace 93 = false := by decide
    have whole : strip (91 :: one.1 ++ [93]) = 91 :: one.1 ++ [93] := by
      apply strip_ends
      · rintro code ⟨⟩
        exact marks.1
      · intro code last
        rw [List.getLast?_concat] at last
        cases last
        exact marks.2
    have same : lowerAscii [91] = [91] := by decide
    have bracket := lowers.front [91] (one.1 ++ [93]) (ascii_cons (by decide) ascii_nil)
    rw [same] at bracket
    rw [← Bool.not_false]
    congr 1
    rw [Bool.eq_false_iff, ne_eq, startsWithToken_iff, whole]
    intro token
    have inside := List.prefix_of_prefix_length_le bracket token (by decide)
    exact absurd inside (by decide)
  option := by
    rintro one within ⟨name, value⟩ inside
    have starts := startsWithToken_option lowers (named one within _ inside)
      (written.named one within _ inside) (written.valued one within _ inside)
    dsimp only at starts ⊢
    by_cases token : name = lit "token"
    · rw [keepsName, starts.mpr token]
      simp [token]
    · have other : startsWithToken runtime.toRuntime (optionLine (name, value)) = false :=
        Bool.eq_false_iff.mpr fun begins => token (starts.mp begins)
      simp [keepsName, other, token]

/-- What is left of the sections is read, in a file that is written as sections are. -/
theorem rewritten_sections {rewritten : Str} (lowers : LowersAscii runtime.lower) (present : sections ≠ [])
    (written : WellWritten runtime.lower sections) (unbroken : ∀ one ∈ sections, Unbroken one)
    (named : ∀ one ∈ sections, ∀ option ∈ one.2, PackageName option.1)
    (left : rewriteAgentConfWithoutToken runtime.toRuntime (joinNewline (confLines sections) ++ [newline]) =
      some rewritten) :
    readConf runtime.toRuntime rewritten = .ok (parsedOf (sections.map (restricted keepsName))) := by
  rw [readConf_rewritten left, rewrittenLines, splitlines_join _ (confLines_present present)
    (confLines_unbroken _ unbroken), filter_confLines _ (filters_token lowers written named)]
  exact parse_confLines (by simpa using present) written.restricted

/-- Where no value is interpolated, a name that is kept is read as before. -/
theorem sectionValue_restricted {kept : Str → Bool} {header : Str}
    (written : WellWritten runtime.lower sections)
    (clean : ∀ one ∈ sections, ∀ option ∈ one.2, 37 ∉ option.2) (keeps : kept (runtime.lower name) = true) :
    sectionValue runtime (parsedOf (sections.map (restricted kept))) header name =
      sectionValue runtime (parsedOf sections) header name := by
  have headers : (parsedOf (sections.map (restricted kept))).headers = (parsedOf sections).headers :=
    restricted_headers
  have value : (parsedOf (sections.map (restricted kept))).value header (runtime.lower name) =
      (parsedOf sections).value header (runtime.lower name) := by
    simp only [Parsed.value, Parsed.own, parsedOf, lookup_restricted keeps]
  rw [sectionValue, sectionValue, headers, value]
  cases found : (parsedOf sections).value header (runtime.lower name) with
  | none => rfl
  | some raw =>
      obtain ⟨options, within, option⟩ := value_source written found
      have plain := clean _ within _ option
      simp only [beforeGet_plain plain]
end Rewriting

/-! The package of a node, before and after. -/
section Package
variable {runtime : TargetRuntime} {library : EnrollmentLibrary} {request : CreateAgent} {token hostKey : Str}

theorem package_names (requested : CheckedRequest library request hostKey) (safe : UrlsafeToken token) :
    ∀ one ∈ confSections request request.nodeName token hostKey, ∀ option ∈ one.2, PackageName option.1 := by
  have apart : ∀ name ∈ [lit "node_name", lit "token", lit "api_url", lit "tls_ca_bundle",
      lit "node_ssh_host_public_key", lit "server_url", lit "heartbeat_seconds", lit "target", lit "path"],
      (lit "token").isPrefixOf name = true → name = lit "token" := by decide +kernel
  intro one within option inside
  obtain ⟨⟨present, plain⟩, -⟩ := sections_entries requested safe one within option inside
  refine ⟨present, List.all_eq_true.mp plain, fun token => apart _ ?_ (List.isPrefixOf_iff_prefix.mpr token)⟩
  simp only [confSections, enrollmentOptions, tunnelOptions, List.mem_cons, List.not_mem_nil,
    or_false] at within
  rcases within with rfl | rfl | rfl | rfl <;>
    simp only [List.mem_cons, List.not_mem_nil, or_false] at inside <;>
    rcases inside with rfl | rfl | rfl | rfl | rfl <;> simp

/-- What both commands make of the file after the enrollment. -/
structure Rewritten (runtime : TargetRuntime) (request : CreateAgent) (rewritten : Str) (port : Nat) :
    Prop where
  loads : loadAgentConfig runtime rewritten = .ok ⟨runtime.expanduser identityJson, none,
    runtime.pathExists (runtime.expanduser identityJson), runtime.expanduser bundlePath,
    runtime.expanduser bundlePath, request.proxyHost, port, request.heartbeatSeconds, 300, 0⟩
  names : ∃ parsed, readConf runtime.toRuntime rewritten = .ok parsed ∧
    requireSection parsed (lit "enrollment") = .ok () ∧
    requireValue runtime parsed (lit "enrollment") (lit "node_name") (lit "enrollment.node_name") =
      .ok request.nodeName

theorem plain_clean (requested : CheckedRequest library request hostKey) (safe : UrlsafeToken token)
    (plain : PlainPackage runtime request) :
    ∀ one ∈ confSections request request.nodeName token hostKey, ∀ option ∈ one.2, 37 ∉ option.2 := by
  obtain ⟨clean, target⟩ := plain_values requested safe plain
  have literals := fileLiterals
  have ports : 37 ∉ decimal request.tunnelPort ∧ 37 ∉ decimal request.heartbeatSeconds :=
    ⟨decimal_clean (by have := requested.tunnelPort; omega),
      decimal_clean (by have := requested.heartbeat; omega)⟩
  intro one within option inside
  simp only [confSections, List.mem_cons, List.not_mem_nil, or_false] at within
  rcases within with rfl | rfl | rfl | rfl
  · exact clean option inside
  · simp only [tunnelOptions, List.mem_cons, List.not_mem_nil, or_false] at inside
    rcases inside with rfl | rfl | rfl
    · simp [literals.scheme.clean, literals.colon.clean, literals.tunnel.clean, ports.1, plain.server]
    · exact literals.bundle.clean
    · exact ports.2
  · rw [List.mem_singleton.mp inside]
    exact target
  · rw [List.mem_singleton.mp inside]
    exact literals.identity.clean

/-- The names that both commands ask for, but for the token. -/
def keptNames : List Str :=
  [lit "target", lit "path", lit "tls_ca_bundle", lit "heartbeat_seconds",
    lit "reconnect_backoff_max_seconds", lit "max_reconnect_attempts", lit "node_name"]

/-- A file that is read like another, but for the token. -/
structure Left (runtime : TargetRuntime) (before after : Parsed) : Prop where
  headers : after.headers = before.headers
  same : ∀ header, ∀ name ∈ keptNames,
    sectionValue runtime after header name = sectionValue runtime before header name
  gone : sectionValue runtime after (lit "enrollment") (lit "token") = .ok none

section Left
variable {before after : Parsed} {header name label text : Str} (left : Left runtime before after)
include left

theorem Left.required (member : name ∈ keptNames)
    (found : requireValue runtime before header name label = .ok text) :
    requireValue runtime after header name label = .ok text := by
  rw [requireValue, left.same header name member]
  exact found

theorem Left.number {value : Int} (member : name ∈ keptNames)
    (found : tunnelInt runtime before name text = .ok value) :
    tunnelInt runtime after name text = .ok value := by
  rw [tunnelInt, left.same _ name member]
  exact found

theorem Left.path (found : identityPathOf runtime before = .ok text) :
    identityPathOf runtime after = .ok text := by
  rw [identityPathOf, left.same _ _ (by simp [keptNames])]
  exact found

theorem Left.headed (found : requireSection before name = .ok ()) : requireSection after name = .ok () := by
  rw [requireSection, left.headers]
  exact found
end Left

theorem package_left (documented : PackageDocumented runtime)
    (requested : CheckedRequest library request hostKey) (safe : UrlsafeToken token)
    (plain : PlainPackage runtime request) :
    Left runtime (parsedOf (confSections request request.nodeName token hostKey))
      (parsedOf ((confSections request request.nodeName token hostKey).map (restricted keepsName))) := by
  have written := sections_written documented requested safe
  have names : ∀ name ∈ keptNames, name.all isOptionCode = true ∧ keepsName name = true := by decide +kernel
  constructor
  · exact restricted_headers
  · intro header name member
    obtain ⟨letters, keeps⟩ := names name member
    apply sectionValue_restricted written (plain_clean requested safe plain)
    rwa [documented.lower_option name (List.all_eq_true.mp letters)]
  · apply sectionValue_absent written.restricted
    · exact documented.lower_option _ (List.all_eq_true.mp (by decide))
    · intro options within inside
      obtain ⟨source, -, split⟩ := List.mem_map.mp within
      obtain ⟨option, held, named⟩ := List.mem_map.mp inside
      rw [← (Prod.mk.inj split).2] at held
      have keeps := (List.mem_filter.mp held).2
      simp [named, keepsName] at keeps

/-- The package of a plain request, rewritten, is the configuration it was, without its token. -/
theorem package_rewritten (documented : PackageDocumented runtime) (lowers : LowersAscii runtime.lower)
    (requested : CheckedRequest library request hostKey) (safe : UrlsafeToken token)
    (plain : PlainPackage runtime request) {rewritten : Str}
    (removed : rewriteAgentConfWithoutToken runtime.toRuntime
      (renderConf request request.nodeName token hostKey) = some rewritten) :
    ∃ port : Nat, (port : Int) = request.proxyPort ∧ Rewritten runtime request rewritten port := by
  have found := plain_found documented requested safe plain
  have left := package_left documented requested safe plain
  obtain ⟨port, ports, -, runs⟩ := target_both documented requested plain
  rw [renderConf_lines] at removed
  have read := rewritten_sections lowers (by simp [confSections]) (sections_written documented requested safe)
    (sections_unbroken requested safe) (package_names requested safe) removed
  refine ⟨port, ports, ?_, _, read, left.headed (found.sections _ (by simp)),
    left.required (by simp [keptNames]) found.node⟩
  rw [loadAgentConfig, read]
  refine bind_ok.mpr ⟨_, rfl, bind_ok.mpr ⟨_, left.required (by simp [keptNames]) found.target, ?_⟩⟩
  refine bind_ok.mpr ⟨_, ofConfig_ok.mpr runs, bind_ok.mpr ⟨_, left.gone, ?_⟩⟩
  refine bind_ok.mpr ⟨_, left.path found.path, ?_⟩
  refine bind_ok.mpr ⟨_, left.required (by simp [keptNames]) found.enrollBundle, ?_⟩
  refine bind_ok.mpr ⟨_, left.required (by simp [keptNames]) found.tunnelBundle, ?_⟩
  refine bind_ok.mpr ⟨_, left.number (by simp [keptNames]) found.heartbeat, ?_⟩
  refine bind_ok.mpr ⟨_, left.number (by simp [keptNames]) found.backoff, ?_⟩
  exact bind_ok.mpr ⟨_, left.number (by simp [keptNames]) found.attempts, rfl⟩
end Package

/-! `identity.json`. -/
section Identity
variable {privateKeyPem : Str} {fields : ResponseFields} {bytes : Bytes}

theorem identityData_flat (privateKeyPem : Str) (fields : ResponseFields) :
    FlatFields (identityData privateKeyPem fields) := by
  constructor
  · show ([lit "agent_id", lit "private_key", lit "agent_x509_cert", lit "tunnel_ca_bundle",
      lit "tunnel_host", lit "tunnel_port", lit "tunnel_secret"] : List Str).Nodup
    decide
  · intro field member
    simp only [identityData, List.mem_cons, List.not_mem_nil, or_false] at member
    rcases member with rfl | rfl | rfl | rfl | rfl | rfl | rfl <;>
      exact ⟨(lit_ascii rfl).scalarText, trivial⟩

/-- What was written as the identity is loaded, with every field of it. -/
theorem loadIdentity_written (encodes : encode (identityText privateKeyPem fields) = some bytes) :
    ∃ data, loadIdentity (some bytes) = .ok data ∧
      ∀ key, lookup key data = (lookup key (identityData privateKeyPem fields)).map Json.readBack := by
  have space : skipSpace [newline] = [] := by decide
  obtain ⟨data, read, lookups⟩ := loads_spaced _ (identityData_flat privateKeyPem fields) space
  refine ⟨data, ?_, lookups⟩
  have whole : ∀ key ∈ identityKeys, (lookup (lit key) data).isNone = false := by
    intro key member
    rw [lookups, Option.isNone_map]
    simp only [identityKeys, List.mem_cons, List.not_mem_nil, or_false] at member
    rcases member with rfl | rfl | rfl | rfl | rfl | rfl | rfl <;> rfl
  have none : (identityKeys.find? fun key => (lookup (lit key) data).isNone) = none :=
    List.find?_eq_none.mpr fun key member => by simp [whole key member]
  have text : readDocument (identityText privateKeyPem fields) = .ok (.object data) := read
  simp only [loadIdentity, decode_encode _ _ encodes, text, none]
end Identity

/-! The answer of the server. -/
section Response
variable {body : List (Str × Json)} {response : EnrollmentResponse} {fields : ResponseFields} {key text : Str}

/-- Two objects with the same fields. -/
def SameFields (one two : List (Str × Json)) : Prop := ∀ key, lookup key one = lookup key two

/-- What is taken from a response of the server. -/
def fieldsOf (response : EnrollmentResponse) : ResponseFields :=
  ⟨response.tunnelPort, response.agentId.text, response.agentX509Cert, response.tunnelCaBundle,
    response.tunnelHost, response.tunnelSecret⟩

theorem validateResponseStr_ok (found : lookup key body = some (.str text)) {value : Str}
    (valid : validateResponseStr body key = .ok value) : value = text := by
  unfold validateResponseStr at valid
  rw [found] at valid
  split at valid
  · rename_i same
    cases same
    exact (Except.ok.inj valid).symm
  · cases valid

theorem validateResponseInt_ok {number value : Int} (found : lookup key body = some (.int number))
    (valid : validateResponseInt body key = .ok value) : value = number := by
  unfold validateResponseInt at valid
  rw [found] at valid
  exact (Except.ok.inj valid).symm

theorem validateResponse_fields (same : SameFields (responseJson response) body)
    (valid : validateResponse (.object body) = .ok fields) : fields = fieldsOf response := by
  have text : ∀ key value, lookup (lit key) (responseJson response) = some (.str value) → ∀ read,
      validateResponseStr body (lit key) = .ok read → read = value := by
    intro key value found read ok
    exact validateResponseStr_ok ((same _).symm.trans found) ok
  obtain ⟨_, port, valid⟩ := bind_ok.mp valid
  obtain ⟨_, agentId, valid⟩ := bind_ok.mp valid
  obtain ⟨_, cert, valid⟩ := bind_ok.mp valid
  obtain ⟨_, bundle, valid⟩ := bind_ok.mp valid
  obtain ⟨_, host, valid⟩ := bind_ok.mp valid
  obtain ⟨_, secret, valid⟩ := bind_ok.mp valid
  have number : lookup (lit "tunnel_port") body = some (.int response.tunnelPort) := by
    rw [← same]
    rfl
  rw [← Except.ok.inj valid, fieldsOf, validateResponseInt_ok number port,
    text "agent_id" response.agentId.text rfl _ agentId,
    text "agent_x509_cert" response.agentX509Cert rfl _ cert,
    text "tunnel_ca_bundle" response.tunnelCaBundle rfl _ bundle,
    text "tunnel_host" response.tunnelHost rfl _ host,
    text "tunnel_secret" response.tunnelSecret rfl _ secret]
end Response

/-! The end of `enroll`. -/
section Completion
variable {runtime : TargetRuntime} {faults : Faults} {privateKeyPem : Str} {answered : Json}
  {disk after : Disk} {value : Unit}

/-- A completed enrollment leaves the identity and the rewritten file. -/
theorem completed_ok
    (ended : ends (completed runtime faults privateKeyPem answered) disk = (.ok value, after)) :
    ∃ fields identity conf, validateResponse answered = .ok fields ∧
      encode (identityText privateKeyPem fields) = some identity ∧ after.identity = some identity ∧
      AgentEnrollment.rewrittenConf runtime.toRuntime disk.conf = .ok conf ∧ after.conf = some conf := by
  rw [completed, ends_change] at ended
  rcases ran : ends (completeEnrollment faults runtime.toRuntime privateKeyPem answered) disk with
    ⟨raised | done, left⟩
  · rw [ran] at ended
    cases (Prod.mk.inj ended).1
  rw [ran] at ended
  cases (Prod.mk.inj ended).2
  obtain ⟨fields, middle, valid, ran⟩ := ended_bind ran
  cases (Prod.mk.inj valid).2
  rw [ends_try] at ran
  rcases wrote : ends (commit faults runtime.toRuntime privateKeyPem fields) disk with ⟨raised | done, last⟩
  · -- what is taken back raises
    rw [wrote] at ran
    obtain ⟨_, _, -, thrown⟩ := ended_bind ran
    cases (Prod.mk.inj thrown).1
  rw [wrote] at ran
  cases (Prod.mk.inj ran).2
  obtain ⟨identity, encodes⟩ := AgentEnrollment.identityText_encodes privateKeyPem fields
  obtain ⟨_, middle, one, two⟩ := ended_bind wrote
  have first := one.symm.trans (AgentEnrollment.writeIdentityJson_written encodes
    (AgentEnrollment.writeIdentityJson_ended one))
  cases (Prod.mk.inj first).2
  obtain ⟨works, conf, found⟩ := AgentEnrollment.rewriteConfFile_ended two
  have second := two.symm.trans (AgentEnrollment.rewriteConfFile_written found works)
  cases (Prod.mk.inj second).2
  exact ⟨fields, identity, conf, (Prod.mk.inj valid).1, encodes, rfl, found, rfl⟩
end Completion

/-! The server. -/
section Server
variable {attempt : Attempt} {str : Json → Str} {remote : Option Str} {received : List (Str × Json)}
  {world after : EnrollmentWorld} {reply : Json}

/-- An attempt with another request. -/
def attempting (attempt : Attempt) (request : EnrollmentRequest) : Attempt :=
  { attempt with request := request }

/-- `enroll_handler` in front of the store of an attempt. -/
def handled (str : Json → Str) (attempt : Attempt) (remote : Option Str) (body : Json)
    (world : EnrollmentWorld) : Except Exc (Nat × Json) × EnrollmentWorld :=
  attempt.alone (enrollHandler str attempt.service attempt.draws attempt.now remote body) world

/-- The status 200 is for an enrollment that was accepted. -/
theorem handled_ok (ran : handled str attempt remote (.object received) world = (.ok (200, reply), after)) :
    ∃ response, (attempting attempt (requestOf str received remote)).run world = (.ok response, after) ∧
      reply = .object (responseJson response) := by
  rw [handled, Attempt.alone, enrollHandler, Coro.run_handle, Coro.run_bind] at ran
  rcases enrolled : (attempt.service.enroll (requestOf str received remote) attempt.draws attempt.now).run
      (serve (dependencies attempt.faults)) world with ⟨raised | response, last⟩
  · -- another status, or the exception again
    rw [enrolled] at ran
    cases raised <;> cases (Prod.mk.inj ran).1
  · rw [enrolled] at ran
    cases ran
    exact ⟨response, enrolled, rfl⟩

/-- What `post` answers with the status 200 is what the handler answered to what was sent. Between the
two the objects are written and read. -/
structure Reaches (str : Json → Str) (attempt : Attempt) (remote : Option Str) (world : EnrollmentWorld)
    (post : Str → Json → Except AgentFault (Nat × Json)) : Prop where
  answered : ∀ url sent body, post url (.object sent) = .ok (200, .object body) →
    ∃ received reply after, SameFields sent received ∧ SameFields reply body ∧
      handled str attempt remote (.object received) world = (.ok (200, .object reply), after)

/-- The request of a payload. -/
def requestFrom (remote : Option Str) (payload : AgentEnrollmentPayload) : EnrollmentRequest :=
  ⟨payload.nodeName, payload.token, payload.agentX509PublicKey, payload.nodeSshHostPublicKey, sourceOf remote⟩

/-- It is what the handler makes of the payload that was sent. -/
theorem requestOf_payload {payload : AgentEnrollmentPayload} {sent : List (Str × Json)}
    (built : payload.toJson = .object sent) (same : SameFields sent received) :
    requestOf str received remote = requestFrom remote payload := by
  have text : ∀ key value, lookup (lit key) sent = some (.str value) →
      Authorization.strOf str ((lookup (lit key) received).getD (.str [])) = value := by
    intro key value found
    rw [← same, found]
    rfl
  cases built
  rw [requestOf, requestFrom]
  dsimp only
  rw [text "node_name" payload.nodeName rfl, text "token" payload.token rfl,
    text "agent_x509_public_key" payload.agentX509PublicKey rfl,
    text "node_ssh_host_public_key" payload.nodeSshHostPublicKey rfl]
end Server

/-! The whole of `enroll`. -/
section Enroll
variable {runtime : TargetRuntime} {faults : Faults} {around : Surroundings} {disk after : Disk}

theorem mapError_ok {ε ε' α : Type} {wrap : ε → ε'} {outcome : Except ε α} {value : α} :
    outcome.mapError wrap = .ok value ↔ outcome = .ok value := by
  cases outcome <;> simp [Except.mapError]

theorem ended_answer {ε α : Type} {outcome : Except ε α} {state last : Disk} {value : α}
    (ended : ends (answer outcome) state = (.ok value, last)) : outcome = .ok value ∧ state = last :=
  Prod.mk.inj ended

/-- An enrollment that ends well: the file was read, the key of the node was the pinned one, and the
answer to the payload was completed on the disk as it was. -/
structure Enrolls (runtime : TargetRuntime) (faults : Faults) (around : Surroundings) (disk after : Disk)
    (text : Str) (config : AgentEnrollmentConfig) (payload : AgentEnrollmentPayload)
    (sent body : List (Str × Json)) : Prop where
  read : confText disk.conf = .ok text
  loaded : loadEnrollmentConfig runtime text = .ok config
  built : buildEnrollmentPayload config around.keys config.expectedNodeSshHostPublicKey = .ok payload
  written : payload.toJson = .object sent
  answered : around.post config.apiUrl (.object sent) = .ok (200, .object body)
  completed : ends (completed runtime faults payload.privateKeyPem (.object body)) disk = (.ok (), after)

theorem runEnroll_ok (ended : ends (runEnroll runtime faults around) disk = (.ok (), after)) :
    ∃ text config payload sent body,
      Enrolls runtime faults around disk after text config payload sent body := by
  rw [runEnroll, ends_get] at ended
  obtain ⟨text, _, first, ended⟩ := ended_bind ended
  obtain ⟨read, rfl⟩ := ended_answer first
  obtain ⟨config, _, second, ended⟩ := ended_bind ended
  obtain ⟨loaded, rfl⟩ := ended_answer second
  obtain ⟨scanned, _, scan, ended⟩ := ended_bind ended
  obtain ⟨-, rfl⟩ := ended_answer scan
  obtain ⟨hostKey, _, key, ended⟩ := ended_bind ended
  obtain ⟨-, rfl⟩ := ended_answer key
  by_cases pinned : hostKey ≠ config.expectedNodeSshHostPublicKey
  · rw [if_pos pinned] at ended
    cases (ended_answer ended).1
  rw [if_neg pinned, not_not.mp pinned] at ended
  obtain ⟨payload, _, third, ended⟩ := ended_bind ended
  obtain ⟨built, rfl⟩ := ended_answer third
  obtain ⟨_, _, context, ended⟩ := ended_bind ended
  obtain ⟨-, rfl⟩ := ended_answer context
  obtain ⟨⟨status, body⟩, _, last, ended⟩ := ended_bind ended
  obtain ⟨posted, rfl⟩ := ended_answer last
  by_cases refused : status ≠ 200
  · rw [if_pos refused] at ended
    cases (ended_answer ended).1
  rw [if_neg refused] at ended
  cases not_not.mp refused
  cases body with
  | object body =>
      exact ⟨text, config, payload, _, body, read, mapError_ok.mp loaded, mapError_ok.mp built, rfl, posted,
        ended⟩
  | _ => cases (ended_answer ended).1
end Enroll

/-! From the package to the tunnel. -/
section Life
variable {runtime : TargetRuntime} {library : EnrollmentLibrary} {request : CreateAgent} {token hostKey : Str}
  {faults : Faults} {around : Surroundings} {disk after : Disk} {str : Json → Str}
  {attempt : Attempt} {remote : Option Str} {world : EnrollmentWorld} {certificates : CertificateLibrary}

/-- A text of a file, as its bytes. -/
theorem confText_encoded {text read : Str} {conf : Option Bytes} (content : conf = encode text)
    (found : confText conf = .ok read) : read = text := by
  subst content
  cases encoded : encode text with
  | none =>
      rw [encoded] at found
      cases found
  | some bytes =>
      rw [encoded, confText, decode_encode _ _ encoded] at found
      exact (Except.ok.inj found).symm

theorem confText_some {text : Str} {bytes : Bytes} (encoded : encode text = some bytes) :
    confText (some bytes) = .ok text := by
  rw [confText, decode_encode _ _ encoded]

/-- The rewritten file of a text. -/
theorem rewrittenConf_ok {text : Str} {conf : Option Bytes} {bytes : Bytes}
    (content : confText conf = .ok text)
    (found : AgentEnrollment.rewrittenConf runtime.toRuntime conf = .ok bytes) :
    ∃ rewritten, rewriteAgentConfWithoutToken runtime.toRuntime text = some rewritten ∧
      encode rewritten = some bytes := by
  unfold AgentEnrollment.rewrittenConf at found
  unfold confText at content
  split at found
  · cases found
  rename_i raw
  split at found
  · cases found
  rename_i decoded
  simp only [decoded] at content
  cases content
  split at found
  · cases found
  rename_i rewritten removed
  unfold AgentEnrollment.encoded at found
  split at found
  · rename_i encodes
    cases found
    exact ⟨rewritten, removed, encodes⟩
  · cases found

/-- The configuration is within the bounds of `validate_agent_config`. -/
theorem rewritten_bounds (requested : CheckedRequest library request hostKey) {port : Nat}
    (ports : (port : Int) = request.proxyPort) {completed : Bool} {path one two host : Str} :
    agentBounds ⟨path, none, completed, one, two, host, port, request.heartbeatSeconds, 300, 0⟩ = .ok () := by
  have bounds := requested.proxyPort
  have heartbeat := requested.heartbeat
  have low : 1 ≤ port ∧ port ≤ 65535 := by omega
  simp [agentBounds, ConfigChecks.require, low.1, low.2, heartbeat.1, heartbeat.2]
  rfl

/-- The first frame is built at the agent and judged at the server. -/
theorem admitted_parts {library : TunnelAuthenticator.Library} {tables : Tables}
    {identity : AgentKey.AgentIdentity} {nodeName : Str} {peerNow now : DateTime}
    {record : TunnelAuthenticator.AgentTunnelRecord}
    (admitted : AgentKey.admitted library certificates tables identity nodeName peerNow now = .ok record) :
    ∃ payload cert, AgentKey.authPayload certificates library.json identity nodeName = .ok payload ∧
      loadIdentityCertificate certificates identity = .ok cert ∧
      admits library certificates tables cert payload peerNow now = .ok record := by
  obtain ⟨payload, built, admitted⟩ := bind_ok.mp admitted
  obtain ⟨cert, loaded, judged⟩ := bind_ok.mp admitted
  exact ⟨payload, cert, built, loaded, judged⟩

/-- The frame that `run` builds from its two files. -/
theorem authFramePayload_built {codec : Codec} {data : List (Str × Json)} {conf : Option Bytes}
    {rewritten : Str} {port : Nat} {payload : Bytes} (content : confText conf = .ok rewritten)
    (left : Rewritten runtime request rewritten port)
    (built : AgentKey.authPayload certificates codec (identityOf str data) request.nodeName = .ok payload) :
    authFramePayload runtime str certificates codec data conf = .ok payload := by
  obtain ⟨cert, loaded, built⟩ := bind_ok.mp built
  obtain ⟨pem, serialised, built⟩ := bind_ok.mp built
  obtain ⟨parsed, read, headed, named⟩ := left.names
  split at built
  · cases built
  refine bind_ok.mpr ⟨cert, mapError_ok.mpr loaded, bind_ok.mpr ⟨pem, mapError_ok.mpr serialised, ?_⟩⟩
  refine bind_ok.mpr ⟨rewritten, content, bind_ok.mpr ⟨parsed, ?_, ?_⟩⟩
  · rw [read]
    rfl
  refine bind_ok.mpr ⟨(), mapError_ok.mpr headed, bind_ok.mpr ⟨request.nodeName, mapError_ok.mpr named, ?_⟩⟩
  exact mapError_ok.mpr built

/-- The identity that is loaded is the one of the response. -/
theorem identityOf_read {data : List (Str × Json)} {privateKeyPem : Str} {response : EnrollmentResponse}
    (lookups : ∀ key, lookup key data =
      (lookup key (identityData privateKeyPem (fieldsOf response))).map Json.readBack)
    (cert : ScalarText response.agentX509Cert) (secret : ScalarText response.tunnelSecret) :
    identityOf str data = AgentKey.identityOf response := by
  have text : ∀ key value,
      lookup (lit key) (identityData privateKeyPem (fieldsOf response)) = some (.str value) →
      ScalarText value → Authorization.strOf str ((lookup (lit key) data).getD .null) = value := by
    intro key value found scalar
    have plain : Plain (.str value) := scalar
    rw [lookups, found, Option.map_some, readBack_plain plain]
    rfl
  have agentId : ScalarText response.agentId.text := (TunnelAuthenticator.uuidText_ascii _).scalarText
  rw [identityOf, AgentKey.identityOf]
  dsimp only
  rw [text "agent_id" response.agentId.text rfl agentId,
    text "agent_x509_cert" response.agentX509Cert rfl cert,
    text "tunnel_secret" response.tunnelSecret rfl secret]

/-- The agent opens the tunnel with its two files, and the server knows it as the node. -/
def LetIn (runtime : TargetRuntime) (str : Json → Str) (library : TunnelAuthenticator.Library)
    (certificates : CertificateLibrary) (tables : Tables) (data : List (Str × Json)) (conf : Option Bytes)
    (nodeName : Str) (peerNow now : DateTime) : Prop :=
  ∃ payload cert record, authFramePayload runtime str certificates library.json data conf = .ok payload ∧
    loadIdentityCertificate certificates (identityOf str data) = .ok cert ∧
    admits library certificates tables cert payload peerNow now = .ok record ∧ record.nodeName = nodeName

/-- Who is let in with a frame has the name that the frame was built with. -/
theorem judged_node {response : EnrollmentResponse} {served : EnrollmentWorld} {agentKey payload : Bytes}
    {issued : IssuedAgentCertificate} {agent : StoredAgent} {tables : Tables} {cert : Certificate}
    {peerNow now : DateTime} {record : TunnelAuthenticator.AgentTunnelRecord}
    (promised : Cryptography attempt.config.library certificates attempt.draws.agentId)
    (enrolled : AgentKey.Enrolled attempt response world served agentKey issued agent)
    (built : AgentKey.authPayload certificates attempt.config.library.json (AgentKey.identityOf response)
      attempt.request.nodeName = .ok payload)
    (judged : admits attempt.config.library.toLibrary certificates tables cert payload peerNow now =
      .ok record) : record.nodeName = attempt.request.nodeName := by
  obtain ⟨other, -, built⟩ := bind_ok.mp built
  obtain ⟨pem, serialised, built⟩ := bind_ok.mp built
  split at built
  · cases built
  obtain ⟨-, -, ascii⟩ := AgentKey.nodeName_ok enrolled.node
  obtain ⟨secret, -⟩ := AgentKey.verifySecretHash_sent promised enrolled.hashed
  rw [← enrolled.secret] at secret
  have sent := @AgentKey.decodeAuthPayload_sent attempt.config.library certificates
    (AgentKey.identityOf response) attempt.request.nodeName (hexText other.serialNumber) pem
    attempt.draws.agentId promised (congrArg Uuid.text enrolled.responseId) ascii (AgentKey.hexText_ascii _)
    (AgentKey.decodeAscii_ok serialised).1 secret
  obtain ⟨_, same, decoded⟩ := sent
  cases same.symm.trans built
  obtain ⟨_, -, judged⟩ := bind_ok.mp judged
  obtain ⟨asked, read, judged⟩ := bind_ok.mp judged
  cases read.symm.trans decoded
  obtain ⟨_, -, checked⟩ := bind_ok.mp judged
  exact (TunnelAuthenticator.checkRecord_ok _ checked).2.sameNode

/-- What an enrollment leaves that the server accepted. -/
theorem accepted_life {response : EnrollmentResponse} {served : EnrollmentWorld} {rewritten : Str}
    {port : Nat} {conf : Bytes} {data : List (Str × Json)} {privateKeyPem : Str} {tables : Tables}
    {peerNow now : DateTime}
    (promised : Cryptography attempt.config.library certificates attempt.draws.agentId)
    (canonical : Canonical attempt.config.library certificates attempt.request.agentX509PublicKey)
    (accepted : attempt.run world = (.ok response, served))
    (node : attempt.request.nodeName = request.nodeName)
    (lookups : ∀ key, lookup key data =
      (lookup key (identityData privateKeyPem (fieldsOf response))).map Json.readBack)
    (content : encode rewritten = some conf) (left : Rewritten runtime request rewritten port)
    (kept : agentRow tables response.agentId = agentRow served.tables response.agentId)
    (current : Current certificates (AgentKey.identityOf response) (agentRow tables response.agentId) peerNow
      now) :
    LetIn runtime str attempt.config.library.toLibrary certificates tables data (some conf) request.nodeName
      peerNow now := by
  obtain ⟨agentKey, issued, agent, enrolled⟩ := AgentKey.accepted_enrolled accepted
  obtain ⟨publicKey, loads, serialised⟩ := canonical
  cases loads.symm.trans enrolled.loaded
  rw [kept, enrolled.responseId, enrolled.row] at current
  rw [enrolled.responseId, enrolled.row] at kept
  obtain ⟨record, admitted⟩ := (AgentKey.admitted_row promised enrolled kept current).mpr serialised
  obtain ⟨payload, cert, built, loaded, judged⟩ := admitted_parts admitted
  obtain ⟨secret, -⟩ := AgentKey.verifySecretHash_sent promised enrolled.hashed
  rw [← enrolled.secret] at secret
  have same : identityOf str data = AgentKey.identityOf response :=
    identityOf_read lookups (AgentKey.decodeAscii_ok enrolled.certificate).1.scalarText secret
  have name := judged_node promised enrolled built judged
  rw [← same, node] at built
  refine ⟨payload, cert, record, authFramePayload_built (confText_some content) left built, ?_, judged,
    name.trans node⟩
  rw [same]
  exact loaded

/-- An agent whose enrollment ends well has a configuration within its bounds and without the token, and
an identity with which the tunnel lets it in, as long as its row is kept and its certificate is valid. -/
theorem enrolled_agent_connects {config : AdminConfig} {draws : AdminDraws} {created : DateTime}
    {connection : AdminAudit.AdminConnection} {adminBefore adminAfter : AdminAudit.AdminWorld}
    {package : CreatedAgentPackage} (documented : PackageDocumented runtime)
    (lowers : LowersAscii runtime.lower) (safe : UrlsafeToken draws.token)
    (plain : PlainPackage runtime request)
    (made : AdminAudit.run connection (createAgent config draws request created) adminBefore =
      (.ok package, adminAfter))
    (installed : disk.conf = encode package.agentConf)
    (reaches : Reaches str attempt remote world around.post)
    (promised : Cryptography attempt.config.library certificates attempt.draws.agentId)
    (generated : ∀ text, decodeAscii around.keys.publicBytes = .ok text →
      Canonical attempt.config.library certificates text)
    (ended : ends (runEnroll runtime faults around) disk = (.ok (), after)) :
    (∃ agent, loadConfig runtime after.conf = .ok agent ∧ agent.enrollmentToken = none ∧
      agentBounds agent = .ok ()) ∧
    ∃ hostKey publicKey data response served,
      validateNodeHostKey config.library request.nodeSshHostPublicKey = .ok hostKey ∧
      decodeAscii around.keys.publicBytes = .ok publicKey ∧ loadIdentity after.identity = .ok data ∧
      (attempting attempt ⟨request.nodeName, draws.token, publicKey, hostKey, sourceOf remote⟩).run world =
        (.ok response, served) ∧
      ∀ tables peerNow now, agentRow tables response.agentId = agentRow served.tables response.agentId →
        Current certificates (AgentKey.identityOf response) (agentRow tables response.agentId) peerNow now →
        LetIn runtime str attempt.config.library.toLibrary certificates tables data after.conf
          request.nodeName peerNow now := by
  obtain ⟨hostKey, requested, rendered⟩ := package_text made
  obtain ⟨text, enrollment, payload, sent, body, enrolls⟩ := runEnroll_ok ended
  -- what was read is the package
  cases confText_encoded installed enrolls.read
  obtain ⟨_, _, back⟩ := reads_of_plain documented requested safe plain
  have loaded := enrolls.loaded
  rw [rendered] at loaded
  cases loaded.symm.trans back.enrolls
  obtain ⟨nodeName, named, built⟩ := bind_ok.mp enrolls.built
  obtain ⟨privateKeyPem, -, built⟩ := bind_ok.mp built
  obtain ⟨publicKeyPem, serialised, built⟩ := bind_ok.mp built
  cases built
  obtain ⟨rfl, -, -⟩ := AgentKey.nodeName_ok named
  -- what was answered is the response
  obtain ⟨received, reply, served, sentSame, replySame, ran⟩ := reaches.answered _ _ _ enrolls.answered
  obtain ⟨response, accepted, answered⟩ := handled_ok ran
  cases answered
  rw [@requestOf_payload str remote received _ _ enrolls.written sentSame, requestFrom, back.nodeName,
    back.tokens.1, back.hostKey] at accepted
  -- what was written is read by the next command
  obtain ⟨fields, identity, conf, valid, encodes, written, rewrote, left⟩ := completed_ok enrolls.completed
  cases validateResponse_fields replySame valid
  obtain ⟨rewritten, removed, content⟩ := rewrittenConf_ok enrolls.read rewrote
  rw [rendered] at removed
  obtain ⟨port, ports, kept⟩ := package_rewritten documented lowers requested safe plain removed
  rw [left, written]
  constructor
  · refine ⟨_, bind_ok.mpr ⟨rewritten, confText_some content, mapError_ok.mpr kept.loads⟩, rfl, ?_⟩
    exact rewritten_bounds requested ports
  · obtain ⟨data, read, lookups⟩ := loadIdentity_written encodes
    refine ⟨hostKey, publicKeyPem, data, response, served, requested.key, serialised, read, accepted, ?_⟩
    intro tables peerNow now row current
    exact @accepted_life runtime request str
      (attempting attempt ⟨request.nodeName, draws.token, publicKeyPem, hostKey, sourceOf remote⟩) world
      certificates response served rewritten port conf data _ tables peerNow now promised
      (generated publicKeyPem serialised) accepted rfl lookups content kept row current
end Life

/-! The life of one agent. -/

theorem asciiRuntime_lowers : LowersAscii asciiRuntime.lower where
  whole := fun _ _ => rfl
  front := by
    intro front rest _
    show lowerAscii front <+: lowerAscii (front ++ rest)
    rw [lowerAscii, lowerAscii, List.map_append]
    exact List.prefix_append _ _

theorem server_plain : PlainPackage asciiRuntime (requestFor (lit "server")) := by
  have host : (lit "127.0.0.1").all (fun code => code ≠ 37 && !Url.isMark code) = true := by decide +kernel
  constructor
  · decide +kernel
  · decide +kernel
  · intro code member
    simpa using List.all_eq_true.mp host code member
  · decide +kernel
  · rfl

/-- The server's side of one enrollment. -/
def remoteOne : Option Str := some (lit "192.0.2.7")

def handledOne (body : Json) : Except Exc (Nat × Json) × EnrollmentWorld :=
  handled (fun _ => []) (AgentKey.attemptKey agentKeyPemOne) remoteOne body AgentKey.worldKey

/-- The node shows its key, and the objects on the wire arrive as they are. -/
def aroundOne : Surroundings where
  keyscan := fun _ _ => .ok (lit "[127.0.0.1]:2222 " ++ nodeKeyOne ++ [newline])
  keys := ⟨(encode (lit "key")).getD [], (encode agentKeyPemOne).getD []⟩
  tlsContext := fun _ => .ok ()
  post := fun _ body => ofExc (handledOne body).1

def noFaults : Faults := ⟨fun _ => false, []⟩

def diskOne : Disk :=
  match (creation (lit "server")).1 with
  | .ok package => ⟨none, none, encode package.agentConf, none⟩
  | .error _ => ⟨none, none, none, none⟩

theorem reachesOne : Reaches (fun _ => []) (AgentKey.attemptKey agentKeyPemOne) remoteOne AgentKey.worldKey
    aroundOne.post where
  answered := by
    intro url sent body posted
    have answer : (handledOne (.object sent)).1 = .ok (200, .object body) := mapError_ok.mp posted
    exact ⟨sent, body, (handledOne (.object sent)).2, fun _ => rfl, fun _ => rfl, Prod.ext answer rfl⟩

theorem diskOne_enrolls : (ends (runEnroll asciiRuntime noFaults aroundOne) diskOne).1.isOk = true := by
  decide +kernel

/-- The agent is enrolled, and let in one second later. -/
theorem enrolled_agent_connects_one : ∃ after data response served,
    ends (runEnroll asciiRuntime noFaults aroundOne) diskOne = (.ok (), after) ∧
      (AgentKey.attemptKey agentKeyPemOne).run AgentKey.worldKey = (.ok response, served) ∧
      LetIn asciiRuntime (fun _ => []) AgentKey.libraryTolerant.toLibrary AgentKey.certificatesOne
        served.tables data after.conf (lit "node01") AgentKey.connectedAt AgentKey.connectedAt := by
  obtain ⟨package, adminAfter, made⟩ :=
    creation_made (by decide +kernel : (creation (lit "server")).1.isOk = true)
  have installed : diskOne.conf = encode package.agentConf := by
    rw [diskOne, made]
  have generated : ∀ text, decodeAscii aroundOne.keys.publicBytes = .ok text →
      Canonical AgentKey.libraryTolerant AgentKey.certificatesOne text := by
    have pem : decodeAscii aroundOne.keys.publicBytes = .ok agentKeyPemOne := by decide +kernel
    intro text decoded
    cases pem.symm.trans decoded
    exact ⟨agentKeyOne, by decide +kernel, by decide +kernel⟩
  match ended : ends (runEnroll asciiRuntime noFaults aroundOne) diskOne with
  | (.error raised, after) =>
      have enrolls := diskOne_enrolls
      rw [ended] at enrolls
      cases enrolls
  | (.ok (), after) =>
      obtain ⟨-, hostKey, publicKey, data, response, served, key, pem, read, accepted, lets⟩ :=
        enrolled_agent_connects asciiRuntime_package asciiRuntime_lowers tokenOne_safe server_plain made
          installed reachesOne AgentKey.cryptographyOne generated ended
      have pinned : validateNodeHostKey libraryOne nodeKeyOne = .ok nodeKeyOne := by decide +kernel
      have sent : decodeAscii aroundOne.keys.publicBytes = .ok agentKeyPemOne := by decide +kernel
      cases key.symm.trans pinned
      cases pem.symm.trans sent
      have ran : (AgentKey.attemptKey agentKeyPemOne).run AgentKey.worldKey = (.ok response, served) :=
        accepted
      obtain ⟨-, later⟩ := AgentKey.both_accepted agentKeyPemOne (by simp)
      rw [ran] at later
      exact ⟨after, data, response, served, rfl, ran,
        lets served.tables _ _ rfl (AgentKey.connects ran later).current⟩
end VibeConnect.AgentLife
