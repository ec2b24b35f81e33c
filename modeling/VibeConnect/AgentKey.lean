import VibeConnect.EnrollmentRollback

/-! The key from the enrollment to the tunnel. The agent's key is stored as the
text that was sent; the tunnel compares it with the text that the certificate's
key serialises to. An accepted enrollment lets its agent in exactly if the text
that was sent is such a serialisation. -/
namespace VibeConnect.AgentKey
open Python.Text Python.JsonCodec Python.Values Python.Coroutine Python.Tasks Models JumpCoordinator
open TunnelProtocol TunnelAuthenticator Enrollment EnrollmentLedger EnrollmentRollback

/-- An X.509 certificate with an Ed25519 key, as both ends read it. -/
structure Certificate where
  publicKey : Bytes
  serialNumber : Nat
  notValidBefore : DateTime
  notValidAfter : DateTime

/-- What the tunnel takes from cryptography: the PEM of a certificate and of a
public key. -/
structure CertificateLibrary where
  loadCertificate : Bytes → Except Exc Certificate
  publicBytes : Bytes → Bytes

/-- `text.encode()`. -/
def encodeUtf8 (text : Str) : Except Exc Bytes :=
  match encode text with
  | some bytes => .ok bytes
  | none => .error .unicodeEncodeError

/-- The fields of `identity.json` that the tunnel reads. -/
structure AgentIdentity where
  agentId : Str
  agentX509Cert : Str
  tunnelSecret : Str

/-- What `write_identity_json` is given of the response. -/
def identityOf (response : EnrollmentResponse) : AgentIdentity :=
  ⟨response.agentId.text, response.agentX509Cert, response.tunnelSecret⟩

section
variable (certificates : CertificateLibrary)

def publicKeyPem (publicKey : Bytes) : Except Exc Str := decodeAscii (certificates.publicBytes publicKey)

/-- `_peer_certificate_binding`, once the certificate is loaded. -/
def peerCertificateBinding (cert : Certificate) (now : DateTime) : Except Exc PeerCertificateBinding :=
  if now.instant < cert.notValidBefore.instant ∨ cert.notValidAfter.instant ≤ now.instant then
    .error (.tunnelAuthError "mTLS peer certificate is outside its validity window")
  else do
    let pem ← publicKeyPem certificates cert.publicKey
    .ok ⟨hexText cert.serialNumber, pem⟩

/-- `x509.load_pem_x509_certificate` on the identity. -/
def loadIdentityCertificate (identity : AgentIdentity) : Except Exc Certificate := do
  let pem ← encodeUtf8 identity.agentX509Cert
  certificates.loadCertificate pem

def authValues (identity : AgentIdentity) (nodeName certSerial certPublicKey : Str) :
    List (Str × Json) :=
  [(lit "agent_id", .str identity.agentId), (lit "node_name", .str nodeName),
    (lit "cert_serial", .str certSerial), (lit "cert_public_key", .str certPublicKey),
    (lit "tunnel_secret", .str identity.tunnelSecret)]

/-- The payload of `_auth_frame`. -/
def authPayload (codec : Codec) (identity : AgentIdentity) (nodeName : Str) : Except Exc Bytes := do
  let cert ← loadIdentityCertificate certificates identity
  let pem ← publicKeyPem certificates cert.publicKey
  if nodeName = [] then .error (.configError "enrollment.node_name is required")
  else encodeUtf8 (codec.dumps (.object (authValues identity nodeName (hexText cert.serialNumber) pem)))
end

/-- The row of an agent. -/
def agentRow (tables : Tables) (agentId : Uuid) : Option StoredAgent :=
  tables.agents.find? fun agent => agent.agentId == agentId

/-- The record that `get_agent` makes of a row that is not revoked. -/
def tunnelRecord (agent : StoredAgent) : AgentTunnelRecord :=
  ⟨agent.agentId, agent.nodeName, agent.x509PublicKey, agent.tunnelSecretHash, agent.certSerial,
    agent.certExpiresAt, none⟩

/-- The first frame of a tunnel at the server. TLS hands over the certificate
that the agent presents, at `peerNow`. -/
def admitted (library : Library) (certificates : CertificateLibrary) (tables : Tables)
    (identity : AgentIdentity) (nodeName : Str) (peerNow now : DateTime) :
    Except Exc AgentTunnelRecord := do
  let payload ← authPayload certificates library.json identity nodeName
  let cert ← loadIdentityCertificate certificates identity
  let peer ← peerCertificateBinding certificates cert peerNow
  let request ← decodeAuthPayload library payload
  verifyPeerCertificateBinding request peer
  checkRecord library request ((agentRow tables request.agentId).map tunnelRecord) now

/-- What cryptography, hashlib, uuid and `str` promise. A signed certificate
carries the key and the serial number it was signed for, and a serialised key
is ASCII. -/
structure Cryptography (library : EnrollmentLibrary) (certificates : CertificateLibrary)
    (agentId : Uuid) : Prop where
  signed : ∀ request pem serialNumber, library.sign request = .ok (pem, serialNumber) →
    ∃ cert, certificates.loadCertificate pem = .ok cert ∧ cert.publicKey = request.agentPublicKey ∧
      cert.serialNumber = serialNumber
  publicBytes : ∀ publicKey, ∀ byte ∈ certificates.publicBytes publicKey, byte.toNat < 0x80
  digest : ∀ bytes, Ascii (library.sha256Hex bytes)
  uuid : library.uuidOf agentId.text = some agentId
  str : ∀ text, library.strOf (.str text) = .ok text

/-- The text is what the key it loads to serialises to. -/
def Canonical (library : EnrollmentLibrary) (certificates : CertificateLibrary) (text : Str) : Prop :=
  ∃ publicKey, loadAgentPublicKey library text = .ok publicKey ∧
    publicKeyPem certificates publicKey = .ok text

/-- The certificate is in its validity window and the row is not expired. -/
structure Current (certificates : CertificateLibrary) (identity : AgentIdentity)
    (row : Option StoredAgent) (peerNow now : DateTime) : Prop where
  window : ∀ cert, loadIdentityCertificate certificates identity = .ok cert →
    cert.notValidBefore.instant ≤ peerNow.instant ∧ peerNow.instant < cert.notValidAfter.instant
  unexpired : ∀ agent, row = some agent → now.instant < agent.certExpiresAt.instant

section Texts

theorem decodeAscii_ok {bytes : Bytes} {text : Str} (decoded : decodeAscii bytes = .ok text) :
    Ascii text ∧ encode text = some bytes := by
  unfold decodeAscii at decoded
  split at decoded
  case isFalse => cases decoded
  rename_i small
  cases decoded
  induction bytes with
  | nil => exact ⟨ascii_nil, rfl⟩
  | cons byte rest ih =>
      rw [List.all_cons, Bool.and_eq_true, decide_eq_true_eq] at small
      obtain ⟨ascii, encoded⟩ := ih small.2
      rw [List.map_cons]
      constructor
      · apply ascii_cons _ ascii
        rw [point_of (by have := byte.toNat_lt; omega)]
        exact small.1
      · exact encode_cons (encodePoint_one small.1) encoded

theorem publicKeyPem_ok {library : EnrollmentLibrary} {certificates : CertificateLibrary}
    {agentId : Uuid} (promised : Cryptography library certificates agentId) (publicKey : Bytes) :
    ∃ pem, publicKeyPem certificates publicKey = .ok pem := by
  unfold publicKeyPem decodeAscii
  rw [if_pos (List.all_eq_true.mpr fun byte member =>
    decide_eq_true (promised.publicBytes publicKey byte member))]
  exact ⟨_, rfl⟩

theorem digitChar_ascii {digit : Nat} (small : digit < 16) : (point digit.digitChar.toNat).val < 0x80 := by
  interval_cases digit <;> decide

theorem hexText_ascii (value : Nat) : Ascii (hexText value) := by
  unfold hexText
  induction value using Nat.strongRecOn with
  | ind value ih =>
      by_cases small : value < 16
      · rw [Nat.toDigits_of_lt_base small]
        exact ascii_cons (digitChar_ascii small) ascii_nil
      · rw [Nat.toDigits_of_base_le (by decide) (not_lt.mp small), List.map_append]
        apply ascii_append (ih _ (by omega))
        exact ascii_cons (digitChar_ascii (Nat.mod_lt _ (by decide))) ascii_nil

theorem alphanumeric_ascii {code : CodePoint} (kind : isAlphanumeric code = true) : code.val < 0x80 := by
  simp only [isAlphanumeric, Bool.or_eq_true, Bool.and_eq_true, decide_eq_true_eq] at kind
  omega

theorem nodeName_ok {value nodeName : Str} (valid : validateNodeName value = .ok nodeName) :
    nodeName = value ∧ value ≠ [] ∧ Ascii value := by
  unfold validateNodeName at valid
  split at valid
  case isFalse => cases valid
  rename_i matched
  cases valid
  cases value with
  | nil => cases matched
  | cons first rest =>
      rw [isNodeName, Bool.and_eq_true, Bool.and_eq_true] at matched
      obtain ⟨⟨head, -⟩, tail⟩ := matched
      refine ⟨rfl, List.cons_ne_nil _ _, ascii_cons (alphanumeric_ascii head) ?_⟩
      intro code member
      have kind := List.all_eq_true.mp tail code member
      rw [Bool.or_eq_true] at kind
      cases kind with
      | inl alphanumeric => exact alphanumeric_ascii alphanumeric
      | inr mark => exact (lit_ascii rfl : Ascii (lit "_.-")) code (List.contains_iff_mem.mp mark)

theorem encode_scalarText {text : Str} {bytes : Bytes} (encoded : encode text = some bytes) :
    ScalarText text := by
  induction text generalizing bytes with
  | nil => exact ascii_nil.scalarText
  | cons first rest ih =>
      simp only [encode, Option.bind_eq_bind, Option.bind_eq_some_iff] at encoded
      obtain ⟨head, one, tail, more, -⟩ := encoded
      intro code member
      cases List.mem_cons.mp member with
      | inl same => exact same ▸ encodePoint_isScalar one
      | inr inside => exact ih more code inside
end Texts

/-! The payload at the server. -/
section Payload
variable {library : EnrollmentLibrary} {certificates : CertificateLibrary} {identity : AgentIdentity}
  {nodeName certSerial certPublicKey : Str} {agentId : Uuid}

/-- A flat object that is sent is the one that is read. -/
theorem loadObject_dumps {codec : Codec} {fields : List (Str × Json)} (plain : PlainFields fields)
    (fault : String → Exc) (notJson notObject : String) : ∃ payload values,
      encodeUtf8 (codec.dumps (.object fields)) = .ok payload ∧
        loadObject codec fault notJson notObject payload = .ok values ∧
        ∀ key, lookup key values = lookup key fields := by
  have ascii : Ascii (codec.dumps (.object fields)) := codec.dumps_ascii _
  obtain ⟨payload, encoded⟩ := encode_scalar _ ascii.scalarText
  obtain ⟨values, loads, lookups⟩ := codec.loads_dumps fields plain
  refine ⟨payload, values, ?_, ?_, lookups⟩
  · rw [encodeUtf8, encoded]
  · rw [loadObject, decode_encode _ _ encoded]
    dsimp only
    rw [loads]

theorem authValues_plain (idText : ScalarText identity.agentId) (node : ScalarText nodeName)
    (serial : ScalarText certSerial) (key : ScalarText certPublicKey)
    (secret : ScalarText identity.tunnelSecret) :
    PlainFields (authValues identity nodeName certSerial certPublicKey) := by
  constructor
  · show ([lit "agent_id", lit "node_name", lit "cert_serial", lit "cert_public_key",
      lit "tunnel_secret"] : List Str).Nodup
    decide
  · intro field member
    simp only [authValues, List.mem_cons, List.not_mem_nil, or_false] at member
    rcases member with rfl | rfl | rfl | rfl | rfl
    · exact ⟨(lit_ascii rfl).scalarText, idText⟩
    · exact ⟨(lit_ascii rfl).scalarText, node⟩
    · exact ⟨(lit_ascii rfl).scalarText, serial⟩
    · exact ⟨(lit_ascii rfl).scalarText, key⟩
    · exact ⟨(lit_ascii rfl).scalarText, secret⟩

/-- The server reads the request that the agent wrote. -/
theorem decodeAuthPayload_sent (promised : Cryptography library certificates agentId)
    (sameId : identity.agentId = agentId.text) (node : Ascii nodeName) (serial : Ascii certSerial)
    (key : Ascii certPublicKey) (secret : ScalarText identity.tunnelSecret) : ∃ payload,
      encodeUtf8 (library.json.dumps
          (.object (authValues identity nodeName certSerial certPublicKey))) = .ok payload ∧
        decodeAuthPayload library.toLibrary payload =
          .ok ⟨agentId, nodeName, certSerial, certPublicKey, identity.tunnelSecret⟩ := by
  have idText : ScalarText identity.agentId := by
    rw [sameId]
    exact (uuidText_ascii agentId).scalarText
  have plain := authValues_plain idText node.scalarText serial.scalarText key.scalarText secret
  obtain ⟨payload, values, sent, read, lookups⟩ := @loadObject_dumps library.json _ plain
    .tunnelProtocolError "auth payload is invalid" "auth payload must be an object"
  refine ⟨payload, sent, ?_⟩
  have field : ∀ name text, lookup (lit name) (authValues identity nodeName certSerial certPublicKey) =
      some (.str text) → authField library.toLibrary values name = .ok text := by
    intro name text found
    rw [authField, lookups, found]
    exact promised.str text
  have request : authRequestOf library.toLibrary values =
      .ok ⟨agentId, nodeName, certSerial, certPublicKey, identity.tunnelSecret⟩ := by
    rw [authRequestOf, field "agent_id" _ rfl, field "node_name" _ rfl, field "cert_serial" _ rfl,
      field "cert_public_key" _ rfl, field "tunnel_secret" _ rfl, sameId]
    refine bind_ok.mpr ⟨agentId.text, rfl, ?_⟩
    rw [promised.uuid]
    rfl
  refine bind_ok.mpr ⟨values, read, ?_⟩
  rw [request]

theorem verifySecretHash_sent (promised : Cryptography library certificates agentId) {secret secretHash : Str}
    (hashed : EnrollmentService.tokenHashOf library secret = .ok secretHash) :
    ScalarText secret ∧ verifySecretHash library.toLibrary secret secretHash = .ok true := by
  obtain ⟨long, checked, digest⟩ := bind_ok.mp hashed
  have same : long = secret := by
    unfold secretValue at checked
    split at checked
    · cases checked
    · exact (Except.ok.inj checked).symm
  subst same
  have hashed : sha256HexOf library.toLibrary long = .ok secretHash := digest
  unfold sha256HexOf at hashed
  split at hashed
  case h_2 => cases hashed
  rename_i bytes encoded
  cases hashed
  refine ⟨encode_scalarText encoded, ?_⟩
  refine bind_ok.mpr ⟨_, checked, bind_ok.mpr ⟨_, digest, ?_⟩⟩
  rw [compareDigest, if_pos ⟨promised.digest bytes, promised.digest bytes⟩, beq_self_eq_true]
end Payload

/-! What an accepted enrollment leaves behind. -/
section Enrolled
variable {attempt : Attempt} {world : EnrollmentWorld}

/-- The agent's row, the certificate and the secret that the agent is given. -/
structure Enrolled (attempt : Attempt) (response : EnrollmentResponse)
    (before after : EnrollmentWorld) (agentKey : Bytes) (issued : IssuedAgentCertificate) (agent : StoredAgent) : Prop where
  node : validateNodeName attempt.request.nodeName = .ok agent.nodeName
  loaded : loadAgentPublicKey attempt.config.library attempt.request.agentX509PublicKey = .ok agentKey
  hashed : EnrollmentService.tokenHashOf attempt.config.library attempt.draws.tunnelSecret =
    .ok agent.tunnelSecretHash
  signed : issueAgentClientCertificate attempt.config.library agentKey agent.nodeName
    attempt.draws.agentId attempt.now.asUtc AGENT_CERT_DEFAULT_LIFETIME_DAYS = .ok issued
  certificate : decodeAscii issued.certificatePem = .ok response.agentX509Cert
  responseId : response.agentId = attempt.draws.agentId
  secret : response.tunnelSecret = attempt.draws.tunnelSecret
  row : agentRow after.tables attempt.draws.agentId = some agent
  agentId : agent.agentId = attempt.draws.agentId
  agents : attempt.backend = .postgres → after.tables.agents = before.tables.agents ++ [agent]
  x509PublicKey : agent.x509PublicKey = attempt.request.agentX509PublicKey
  certSerial : agent.certSerial = issued.serial

theorem agentRow_append {agents : List StoredAgent} {agent : StoredAgent} {tokens : List TokenRow}
    (fresh : ∀ old ∈ agents, old.agentId ≠ agent.agentId) :
    agentRow ⟨tokens, agents ++ [agent]⟩ agent.agentId = some agent := by
  have none : agents.find? (fun old => old.agentId == agent.agentId) = none := by
    apply List.find?_eq_none.mpr
    intro old member same
    exact fresh old member (beq_iff_eq.mp same)
  simp [agentRow, List.find?_append, none]

theorem agentRow_setAgent {agents : List StoredAgent} {agent : StoredAgent} {tokens : List TokenRow} :
    agentRow ⟨tokens, setAgent agent agents⟩ agent.agentId = some agent := by
  unfold setAgent
  split
  · rename_i held
    unfold agentRow
    rw [List.find?_map]
    have keeps : ((fun old : StoredAgent => old.agentId == agent.agentId) ∘
        fun old => if old.agentId = agent.agentId then agent else old) =
        fun old => old.agentId == agent.agentId := by
      funext old
      by_cases same : old.agentId = agent.agentId <;> simp [same]
    rw [keeps]
    obtain ⟨old, found⟩ := Option.isSome_iff_exists.mp (List.find?_isSome.mpr
      (List.any_eq_true.mp held))
    rw [found]
    have same := List.find?_some found
    exact congrArg some (if_pos (beq_iff_eq.mp same))
  · rename_i fresh
    apply agentRow_append
    intro old member same
    exact fresh (List.any_eq_true.mpr ⟨old, member, beq_iff_eq.mpr same⟩)

theorem insertAgent_row {agent : StoredAgent} : ∀ result,
    (world.execute 0 (.insertAgent agent)).1 = .ok result →
      (world.execute 0 (.insertAgent agent)).2.tables.agents = world.tables.agents ++ [agent] ∧
        agentRow (world.execute 0 (.insertAgent agent)).2.tables agent.agentId = some agent := by
  intro result inserted
  have free := (execute_insertAgent agent).mp ⟨result, inserted⟩
  unfold EnrollmentWorld.execute at inserted ⊢
  cases ran : (Statement.insertAgent agent).run world.tables with
  | error raised =>
      rw [ran] at inserted
      cases inserted
  | ok done =>
      dsimp only
      unfold Statement.run at ran
      dsimp only at ran
      split at ran
      · cases ran
      · cases ran
        exact ⟨rfl, agentRow_append fun old member => (free old member).1⟩

/-- A store that took an agent holds its row. -/
theorem persist_row {agent : StoredAgent} :
    Alone attempt (attempt.service.store.persistAgent agent) (fun outcome after => outcome = .ok () →
      ∃ expiresAt, agentRow after.tables agent.agentId =
          some { agent with certExpiresAt := expiresAt } ∧
        (attempt.backend = .postgres →
          after.tables.agents = world.tables.agents ++ [{ agent with certExpiresAt := expiresAt }]))
      world := by
  cases backend : attempt.backend with
  | postgres =>
      rw [store_postgres backend]
      refine Coro.wp_bind (execute_alone ?_ ?_)
      · intro raised refused impossible
        cases impossible
      intro served
      have stored := @insertAgent_row world { agent with certExpiresAt := agent.certExpiresAt.asUtc }
      cases inserted : (world.execute 0 (.insertAgent
          { agent with certExpiresAt := agent.certExpiresAt.asUtc })).1 with
      | error raised =>
          intro impossible
          cases impossible
      | ok result =>
          obtain ⟨agents, row⟩ := stored result inserted
          refine Coro.wp_bind (execute_alone ?_ ?_)
          · intro raised refused impossible
            cases impossible
          · intro bound _
            exact ⟨_, row, fun _ => agents⟩
  | inMemory =>
      rw [store_inMemory backend]
      refine Coro.wp_bind (change_alone ?_)
      intro _
      exact ⟨agent.certExpiresAt, agentRow_setAgent, fun impossible => nomatch impossible⟩

theorem enrollConsumed_row {start : EnrollmentWorld} {nodeName : Str} {row : TokenRow}
    {record : EnrollmentTokenRecord}
    (node : validateNodeName attempt.request.nodeName = .ok nodeName) (recorded : Recorded row record)
    (agents : world.tables.agents = start.tables.agents) :
    Alone attempt (attempt.service.enrollConsumed attempt.request attempt.draws nodeName record
      attempt.now.asUtc) (fun outcome after => ∀ response, outcome = .ok response →
        ∃ agentKey issued agent, Enrolled attempt response start after agentKey issued agent) world := by
  refine Coro.wp_bind (Coro.wp_ofAnswer ?_)
  cases made : attempt.service.agentOf attempt.request attempt.draws nodeName record
      attempt.now.asUtc with
  | error raised =>
      intro response impossible
      cases impossible
  | ok both =>
  obtain ⟨agent, issued⟩ := both
  obtain ⟨hostKey, agentKey, secretHash, loaded, hashed, signed, rfl⟩ := (agentOf_iff recorded).mp made
  refine Coro.wp_bind (Coro.wp_mono ?_ persist_row)
  rintro (raised | _) middle stored
  · intro response impossible
    cases impossible
  refine Coro.wp_bind (Coro.wp_mono ?_ (audit_alone _ _))
  rintro (raised | _) after ⟨rfl, -⟩
  · intro response impossible
    cases impossible
  refine Coro.wp_bind (Coro.wp_ofAnswer ?_)
  cases read : decodeAscii issued.certificatePem with
  | error raised =>
      intro response impossible
      cases impossible
  | ok text =>
      rintro response ⟨⟩
      obtain ⟨expiresAt, row, grows⟩ := stored rfl
      rw [agents] at grows
      exact ⟨agentKey, issued, _, node, loaded, hashed, signed, read, rfl, rfl, row, rfl, grows, rfl, rfl⟩

theorem enrollBody_row : Alone attempt
    (attempt.service.enrollBody attempt.request attempt.draws attempt.now.asUtc) (fun outcome after =>
      ∀ response, outcome = .ok response →
        ∃ agentKey issued agent, Enrolled attempt response world after agentKey issued agent) world := by
  refine Coro.wp_bind (Coro.wp_ofAnswer ?_)
  cases node : validateNodeName attempt.request.nodeName with
  | error raised =>
      intro response impossible
      cases impossible
  | ok nodeName =>
  refine Coro.wp_bind (Coro.wp_ofAnswer ?_)
  cases EnrollmentService.tokenHashOf attempt.service.library attempt.request.token with
  | error raised =>
      intro response impossible
      cases impossible
  | ok tokenHash =>
  refine Coro.wp_bind (change_alone ?_)
  dsimp only
  split
  · intro response impossible
    cases impossible
  refine Coro.wp_bind (Coro.wp_mono ?_ consume_alone)
  intro outcome after ended
  cases ended with
  | refused raised same refused =>
      intro response impossible
      cases impossible
  | untaken same none =>
      intro response impossible
      cases impossible
  | unread row raised taken served unreadable spent =>
      intro response impossible
      cases impossible
  | read row record taken served readable spent agents recorded =>
      exact enrollConsumed_row node recorded agents

theorem enroll_row : Alone attempt (attempt.service.enroll attempt.request attempt.draws attempt.now)
    (fun outcome after => ∀ response, outcome = .ok response →
      ∃ agentKey issued agent, Enrolled attempt response world after agentKey issued agent) world := by
  refine Coro.wp_handle (Coro.wp_mono ?_ enrollBody_row)
  rintro (raised | response) after enrolled
  · refine Coro.wp_mono ?_ enrollFault_alone
    rintro outcome last ⟨-, fault, rfl⟩ response impossible
    cases impossible
  · exact enrolled

theorem accepted_enrolled {after : EnrollmentWorld} {response : EnrollmentResponse}
    (accepted : attempt.run world = (.ok response, after)) :
    ∃ agentKey issued agent, Enrolled attempt response world after agentKey issued agent := by
  have ended := Coro.wp_run (@enroll_row attempt world)
  rw [show Coro.run _ _ _ = _ from accepted] at ended
  exact ended response rfl
end Enrolled

/-! The tunnel of an enrolled agent. -/
section Tunnel
variable {attempt : Attempt} {world after : EnrollmentWorld} {response : EnrollmentResponse}
  {certificates : CertificateLibrary} {agentKey : Bytes} {issued : IssuedAgentCertificate}
  {agent : StoredAgent}

/-- The certificate that the agent presents is the one issued for its key. -/
theorem issued_certificate
    (promised : Cryptography attempt.config.library certificates attempt.draws.agentId)
    (enrolled : Enrolled attempt response world after agentKey issued agent) : ∃ cert,
      loadIdentityCertificate certificates (identityOf response) = .ok cert ∧
        cert.publicKey = agentKey ∧ hexText cert.serialNumber = agent.certSerial := by
  have signed := enrolled.signed
  unfold issueAgentClientCertificate at signed
  rw [if_neg (by decide)] at signed
  obtain ⟨safeNodeName, -, signed⟩ := bind_ok.mp signed
  obtain ⟨⟨pem, serialNumber⟩, made, same⟩ := bind_ok.mp signed
  cases same
  obtain ⟨cert, loads, sameKey, sameSerial⟩ := promised.signed _ _ _ made
  obtain ⟨-, encoded⟩ := decodeAscii_ok enrolled.certificate
  refine ⟨cert, bind_ok.mpr ⟨pem, ?_, loads⟩, sameKey, ?_⟩
  · show encodeUtf8 response.agentX509Cert = .ok pem
    rw [encodeUtf8, encoded]
  · rw [enrolled.certSerial, sameSerial]

/-- A row that agrees with the request in all but the key lets it in exactly if
the keys agree. -/
theorem checkRecord_key {library : Library} {request : TunnelAuthRequest} {record : AgentTunnelRecord}
    {now : DateTime} (notRevoked : record.revokedAt = none)
    (notExpired : now.instant < record.certExpiresAt.instant)
    (sameNode : record.nodeName = request.nodeName)
    (sameSerial : record.certSerial = request.certSerial)
    (sameSecret : verifySecretHash library request.tunnelSecret record.tunnelSecretHash = .ok true) :
    (∃ admitted, checkRecord library request (some record) now = .ok admitted) ↔
      record.x509PublicKey = request.certPublicKey := by
  unfold checkRecord
  simp only [DateTime.instant_asUtc]
  rw [if_neg (not_not.mpr notRevoked), if_neg (not_le.mpr notExpired), if_neg (not_not.mpr sameNode),
    if_neg (not_not.mpr sameSerial), sameSecret]
  by_cases same : record.x509PublicKey = request.certPublicKey
  · rw [if_neg (not_not.mpr same)]
    exact ⟨fun _ => same, fun _ => ⟨_, rfl⟩⟩
  · rw [if_pos same]
    constructor
    · rintro ⟨_, impossible⟩
      cases impossible
    · exact fun holds => (same holds).elim

/-- The frame is built and bound to the certificate, so the row decides. -/
theorem admitted_row {tables : Tables} {peerNow now : DateTime}
    (promised : Cryptography attempt.config.library certificates attempt.draws.agentId)
    (enrolled : Enrolled attempt response world after agentKey issued agent)
    (row : agentRow tables attempt.draws.agentId = some agent)
    (current : Current certificates (identityOf response) (some agent) peerNow now) :
    (∃ record, admitted attempt.config.library.toLibrary certificates tables (identityOf response)
      attempt.request.nodeName peerNow now = .ok record) ↔
    publicKeyPem certificates agentKey = .ok attempt.request.agentX509PublicKey := by
  obtain ⟨cert, loaded, rfl, sameSerial⟩ := issued_certificate promised enrolled
  obtain ⟨pem, serialised⟩ := publicKeyPem_ok promised cert.publicKey
  obtain ⟨sameNode, named, nodeAscii⟩ := nodeName_ok enrolled.node
  obtain ⟨secretText, verified⟩ := verifySecretHash_sent promised enrolled.hashed
  rw [← show (identityOf response).tunnelSecret = attempt.draws.tunnelSecret from enrolled.secret]
    at secretText verified
  have sameId : (identityOf response).agentId = attempt.draws.agentId.text :=
    congrArg Uuid.text enrolled.responseId
  obtain ⟨payload, sent, read⟩ := @decodeAuthPayload_sent attempt.config.library certificates
    (identityOf response) attempt.request.nodeName (hexText cert.serialNumber) pem
    attempt.draws.agentId promised sameId nodeAscii (hexText_ascii cert.serialNumber)
    (decodeAscii_ok serialised).1 secretText
  have written : authPayload certificates attempt.config.library.json (identityOf response)
      attempt.request.nodeName = .ok payload := by
    refine bind_ok.mpr ⟨cert, loaded, bind_ok.mpr ⟨pem, serialised, ?_⟩⟩
    rw [if_neg named]
    exact sent
  have peer : peerCertificateBinding certificates cert peerNow =
      .ok ⟨hexText cert.serialNumber, pem⟩ := by
    have window := current.window cert loaded
    rw [peerCertificateBinding, if_neg (by omega), serialised]
    rfl
  have bound : verifyPeerCertificateBinding ⟨attempt.draws.agentId, attempt.request.nodeName,
      hexText cert.serialNumber, pem, (identityOf response).tunnelSecret⟩
      ⟨hexText cert.serialNumber, pem⟩ = .ok () := verifyPeerCertificateBinding_ok.mpr ⟨rfl, rfl⟩
  have reaches : admitted attempt.config.library.toLibrary certificates tables (identityOf response)
      attempt.request.nodeName peerNow now =
      checkRecord attempt.config.library.toLibrary ⟨attempt.draws.agentId, attempt.request.nodeName,
        hexText cert.serialNumber, pem, (identityOf response).tunnelSecret⟩
        (some (tunnelRecord agent)) now := by
    unfold admitted
    rw [written, loaded]
    dsimp only [Bind.bind, Except.bind]
    rw [peer]
    dsimp only
    rw [read]
    dsimp only
    rw [bound]
    dsimp only
    rw [row]
    rfl
  rw [reaches, checkRecord_key rfl (current.unexpired agent rfl) sameNode sameSerial.symm verified,
    serialised]
  show agent.x509PublicKey = pem ↔ _
  rw [enrolled.x509PublicKey]
  constructor
  · rintro rfl
    rfl
  · intro same
    exact (Except.ok.inj same).symm

/-- An agent that was enrolled gets in exactly if the text it sent for its key
is the one that the key serialises to. -/
theorem enrolled_agent_admitted {tables : Tables} {peerNow now : DateTime}
    (promised : Cryptography attempt.config.library certificates attempt.draws.agentId)
    (accepted : attempt.run world = (.ok response, after))
    (kept : agentRow tables response.agentId = agentRow after.tables response.agentId)
    (current : Current certificates (identityOf response) (agentRow tables response.agentId)
      peerNow now) :
    (∃ record, admitted attempt.config.library.toLibrary certificates tables (identityOf response)
      attempt.request.nodeName peerNow now = .ok record) ↔
    Canonical attempt.config.library certificates attempt.request.agentX509PublicKey := by
  obtain ⟨agentKey, issued, agent, enrolled⟩ := accepted_enrolled accepted
  rw [kept, enrolled.responseId] at current
  have row := kept
  rw [enrolled.responseId] at row
  rw [enrolled.row] at current row
  rw [admitted_row promised enrolled row current]
  constructor
  · intro serialised
    exact ⟨agentKey, enrolled.loaded, serialised⟩
  · rintro ⟨otherKey, loads, serialised⟩
    have same := loads.symm.trans enrolled.loaded
    cases same
    exact serialised
end Tunnel

/-- A signer for one key. -/
def signOnly (publicKey : Bytes) (pem : Str) (serialNumber : Nat) (request : SignRequest) :
    Except Exc (Bytes × Nat) :=
  if request.agentPublicKey = publicKey then
    match encode pem with
    | some bytes => .ok (bytes, serialNumber)
    | none => .error .otherException
  else .error .otherException

/-- A loader of one certificate. -/
def loadOnly (pem : Str) (cert : Certificate) (bytes : Bytes) : Except Exc Certificate :=
  if encode pem = some bytes then .ok cert else .error .valueError

theorem signOnly_ok {publicKey bytes : Bytes} {pem : Str} {serialNumber issued : Nat}
    {request : SignRequest} (made : signOnly publicKey pem serialNumber request = .ok (bytes, issued)) :
    request.agentPublicKey = publicKey ∧ encode pem = some bytes ∧ issued = serialNumber := by
  unfold signOnly at made
  split at made
  · rename_i same
    split at made
    · rename_i encoded
      cases made
      exact ⟨same, encoded, rfl⟩
    · cases made
  · cases made

theorem loadOnly_ok {pem : Str} {cert read : Certificate} {bytes : Bytes} :
    loadOnly pem cert bytes = .ok read ↔ encode pem = some bytes ∧ cert = read := by
  unfold loadOnly
  split
  · rename_i same
    exact ⟨fun loaded => ⟨same, Except.ok.inj loaded⟩, fun loaded => congrArg _ loaded.2⟩
  · rename_i differs
    exact ⟨fun impossible => (nomatch impossible), fun loaded => (differs loaded.1).elim⟩

/-- The loader of keys takes a line break after the text as well. -/
def libraryTolerant : EnrollmentLibrary :=
  { libraryOne with
    loadPemPublicKey := fun bytes =>
      if encodeAscii agentKeyPemOne = .ok bytes ∨ encodeAscii (agentKeyPemOne ++ lit "\n") = .ok bytes then
        .ok (.ed25519 agentKeyOne)
      else .error .valueError
    sign := signOnly agentKeyOne certificatePemOne 31 }

/-- The window of the certificate, in microseconds. -/
def notBeforeOne : Int := 1795052441000000
def notAfterOne : Int := 1802828441000000

def certificateOne : Certificate :=
  ⟨agentKeyOne, 31, ⟨notBeforeOne, some 0⟩, ⟨notAfterOne, some 0⟩⟩

def certificatesOne : CertificateLibrary where
  loadCertificate := loadOnly certificatePemOne certificateOne
  publicBytes := fun _ => (encode agentKeyPemOne).getD []

theorem sign_one : libraryTolerant.sign = signOnly agentKeyOne certificatePemOne 31 := rfl

theorem loadCertificate_one :
    certificatesOne.loadCertificate = loadOnly certificatePemOne certificateOne := by
  rw [certificatesOne]

theorem cryptographyOne : Cryptography libraryTolerant certificatesOne agentIdOne where
  signed request pem serialNumber made := by
    rw [sign_one] at made
    obtain ⟨same, encoded, sameSerial⟩ := signOnly_ok made
    refine ⟨certificateOne, ?_, same.symm, sameSerial.symm⟩
    rw [loadCertificate_one]
    exact loadOnly_ok.mpr ⟨encoded, rfl⟩
  publicBytes publicKey := by
    unfold certificatesOne
    dsimp only
    decide +kernel
  digest bytes := by
    show Ascii (libraryOne.sha256Hex bytes)
    by_cases token : bytes = List.replicate 43 97
    · rw [token]
      decide +kernel
    by_cases secret : bytes = List.replicate 43 98
    · rw [secret]
      decide +kernel
    have none : libraryOne.sha256Hex bytes = [] := by
      unfold libraryOne
      dsimp only
      rw [if_neg token, if_neg secret]
    rw [none]
    exact ascii_nil
  uuid := by decide +kernel
  str text := rfl

/-- An enrollment with a key text, at the start of the certificate's window. -/
def attemptKey (agentX509PublicKey : Str) : Attempt :=
  { attemptOne with
    config := { configOne with library := libraryTolerant }
    request := { requestOne nodeKeyOne with agentX509PublicKey := agentX509PublicKey }
    now := ⟨notBeforeOne, some 0⟩ }

def worldKey : EnrollmentWorld :=
  ⟨⟨[{ rowOne with expiresAt := ⟨notAfterOne, some 0⟩ }], []⟩, .new, []⟩

/-- The agent connects one second after it was enrolled. -/
def connectedAt : DateTime := ⟨notBeforeOne + 1000000, some 0⟩

/-- What the enrollment of a text comes to, when it is accepted. -/
structure Connects (agentX509PublicKey : Str) (response : EnrollmentResponse)
    (after : EnrollmentWorld) : Prop where
  accepted : (attemptKey agentX509PublicKey).run worldKey = (.ok response, after)
  current : Current certificatesOne (identityOf response) (agentRow after.tables response.agentId)
    connectedAt connectedAt

theorem connects {agentX509PublicKey : Str} {response : EnrollmentResponse} {after : EnrollmentWorld}
    (accepted : (attemptKey agentX509PublicKey).run worldKey = (.ok response, after))
    (later : ∀ agent ∈ after.tables.agents, connectedAt.instant < agent.certExpiresAt.instant) :
    Connects agentX509PublicKey response after where
  accepted := accepted
  current := by
    constructor
    · intro cert loaded
      obtain ⟨pem, -, loads⟩ := bind_ok.mp loaded
      rw [loadCertificate_one] at loads
      rw [← (loadOnly_ok.mp loads).2]
      decide
    · exact fun agent found => later agent (List.mem_of_find?_eq_some found)

/-- Both texts are accepted, and neither row is expired when the agent connects. -/
theorem both_accepted : ∀ text ∈ [agentKeyPemOne, agentKeyPemOne ++ lit "\n"],
    ((attemptKey text).run worldKey).1.isOk = true ∧
      ∀ agent ∈ ((attemptKey text).run worldKey).2.tables.agents,
        connectedAt.instant < agent.certExpiresAt.instant := by
  decide +kernel

/-- The text that the key serialises to. -/
theorem canonical_key_admitted : ∃ response after,
    (attemptKey agentKeyPemOne).run worldKey = (.ok response, after) ∧
      ∃ record, admitted libraryTolerant.toLibrary certificatesOne after.tables (identityOf response)
        (lit "node01") connectedAt connectedAt = .ok record := by
  obtain ⟨accepted, later⟩ := both_accepted agentKeyPemOne (by simp)
  match ran : (attemptKey agentKeyPemOne).run worldKey with
  | (.error raised, after) =>
      rw [ran] at accepted
      cases accepted
  | (.ok response, after) =>
      rw [ran] at later
      refine ⟨response, after, rfl, ?_⟩
      apply (enrolled_agent_admitted cryptographyOne ran rfl (connects ran later).current).mpr
      exact ⟨agentKeyOne, by decide +kernel, by decide +kernel⟩

/-- One line break more: the enrollment takes the text, and the tunnel does not
know the key. -/
theorem key_with_newline_refused : ∃ response after,
    (attemptKey (agentKeyPemOne ++ lit "\n")).run worldKey = (.ok response, after) ∧
      Current certificatesOne (identityOf response) (agentRow after.tables response.agentId)
        connectedAt connectedAt ∧
      ¬∃ record, admitted libraryTolerant.toLibrary certificatesOne after.tables (identityOf response)
        (lit "node01") connectedAt connectedAt = .ok record := by
  obtain ⟨accepted, later⟩ := both_accepted (agentKeyPemOne ++ lit "\n") (by simp)
  match ran : (attemptKey (agentKeyPemOne ++ lit "\n")).run worldKey with
  | (.error raised, after) =>
      rw [ran] at accepted
      cases accepted
  | (.ok response, after) =>
      rw [ran] at later
      have current := (connects ran later).current
      refine ⟨response, after, rfl, current, ?_⟩
      obtain ⟨agentKey, issued, agent, enrolled⟩ := accepted_enrolled ran
      rw [enrolled.responseId, enrolled.row] at current
      intro reached
      have serialised := (admitted_row cryptographyOne enrolled enrolled.row current).mp reached
      have other : publicKeyPem certificatesOne agentKeyOne = .ok agentKeyPemOne := by decide +kernel
      have same : agentKeyPemOne = agentKeyPemOne ++ lit "\n" :=
        Except.ok.inj (other.symm.trans serialised)
      exact absurd same (by decide +kernel)

end VibeConnect.AgentKey
