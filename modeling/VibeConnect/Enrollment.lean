import VibeConnect.JumpCoordinator
import VibeConnect.Python.Tasks
import VibeConnect.TunnelAuthenticator

/-! Enrollment tokens and the agents they enroll: the two tables, the statements
of the PostgreSQL and of the in-memory store, and the service over either. A
PostgreSQL statement is awaited and takes effect as a whole; the in-memory store
never waits while it holds its lock, so its operations are one step. The history
lists the statements that took effect and only logs. -/
namespace VibeConnect.Enrollment
open Python.Text Python.JsonCodec Python.Values Python.Coroutine Python.Tasks Models JumpCoordinator
open TunnelAuthenticator

def ENROLLMENT_TOKEN_LIFETIME_DAYS : Int := 7
def AGENT_CERT_DEFAULT_LIFETIME_DAYS : Int := 90
def SECRET_REDACTION : String := "[REDACTED]"

/-- A row of `enrollment_tokens`. The in-memory store has no `created_at`. -/
structure TokenRow where
  tokenHash : Str
  nodeName : Str
  labels : List Str
  nodeSshHostPublicKey : Str
  createdBy : Str
  createdAt : Option DateTime
  expiresAt : DateTime
  used : Bool
  usedAt : Option DateTime
  disabledAt : Option DateTime
  agentId : Option Uuid

structure StoredAgent where
  agentId : Uuid
  nodeName : Str
  labels : List Str
  x509PublicKey : Str
  nodeSshHostPublicKey : Str
  tunnelSecretHash : Str
  certSerial : Str
  certExpiresAt : DateTime

structure Tables where
  tokens : List TokenRow
  agents : List StoredAgent

/-- `used = false AND disabled_at IS NULL`. -/
def TokenRow.active (row : TokenRow) : Bool := !row.used && row.disabledAt.isNone

def TokenRow.activeFor (nodeName : Str) (row : TokenRow) : Bool :=
  decide (row.nodeName = nodeName) && row.active

/-- The `WHERE` of the consuming update, after the token hash. -/
def TokenRow.consumable (nodeName : Str) (now : DateTime) (row : TokenRow) : Bool :=
  row.activeFor nodeName && decide (now.instant < row.expiresAt.instant)

/-- The `WHERE` of the binding update. -/
def TokenRow.unbound (nodeName : Str) (row : TokenRow) : Bool :=
  decide (row.nodeName = nodeName) && row.used && row.agentId.isNone

def TokenRow.disable (now : DateTime) (row : TokenRow) : TokenRow := { row with disabledAt := some now }

def TokenRow.use (now : DateTime) (row : TokenRow) : TokenRow :=
  { row with used := true, usedAt := some now }

def TokenRow.bind (agentId : Uuid) (row : TokenRow) : TokenRow := { row with agentId := some agentId }

/-- `UPDATE ... SET change WHERE chosen`. -/
def updateWhere (chosen : TokenRow → Bool) (change : TokenRow → TokenRow) (rows : List TokenRow) :
    List TokenRow :=
  rows.map fun row => if chosen row then change row else row

/-- `self.tokens[token_hash] = row`. -/
def setToken (row : TokenRow) (rows : List TokenRow) : List TokenRow :=
  if rows.any fun old => old.tokenHash == row.tokenHash then
    updateWhere (fun old => old.tokenHash == row.tokenHash) (fun _ => row) rows
  else rows ++ [row]

/-- `self.agents[agent.agent_id] = agent`. -/
def setAgent (agent : StoredAgent) (agents : List StoredAgent) : List StoredAgent :=
  if agents.any fun old => old.agentId == agent.agentId then
    agents.map fun old => if old.agentId = agent.agentId then agent else old
  else agents ++ [agent]

/-- What the stores do to the tables: the statements of the PostgreSQL store,
then the operations of the in-memory store. -/
inductive Statement where
  | disableActive (nodeName : Str) (now : DateTime)
  | insertToken (row : TokenRow)
  | consumeActive (tokenHash nodeName : Str) (now : DateTime)
  | insertAgent (agent : StoredAgent)
  | bindTokens (agentId : Uuid) (nodeName : Str)
  | createToken (row : TokenRow) (now : DateTime)
  | consumeToken (tokenHash nodeName : Str) (now : DateTime)
  | putAgent (agent : StoredAgent)

/-- The row that a consuming statement finds, as it is before the statement. -/
def Statement.taken (tables : Tables) : Statement → Option TokenRow
  | .consumeActive tokenHash nodeName now =>
      tables.tokens.find? fun row => row.tokenHash == tokenHash && row.consumable nodeName now
  | .consumeToken tokenHash nodeName now =>
      match tables.tokens.find? fun row => row.tokenHash == tokenHash with
      | none => none
      | some row =>
          if row.nodeName ≠ nodeName then none
          else if row.used ∨ row.disabledAt.isSome then none
          else if row.expiresAt.instant ≤ now.instant then none
          else some row
  | _ => none

/-- The row that a statement returns and the number of rows of its status. -/
structure StatementResult where
  row : Option TokenRow
  count : Nat

/-- The error of a broken constraint: `token_hash` and `agents.id` are primary
keys, `node_name` and `cert_serial` of an agent are unique, and one token of a
node is active. -/
def Statement.run (tables : Tables) (statement : Statement) : Except Exc (StatementResult × Tables) :=
  let taken := statement.taken tables
  match statement with
  | .disableActive nodeName now =>
      .ok (⟨none, tables.tokens.countP (TokenRow.activeFor nodeName)⟩, { tables with
        tokens := updateWhere (TokenRow.activeFor nodeName) (TokenRow.disable now) tables.tokens })
  | .insertToken row =>
      if tables.tokens.any fun old => old.tokenHash == row.tokenHash then .error .otherException
      else if row.active && tables.tokens.any (TokenRow.activeFor row.nodeName) then
        .error .otherException
      else .ok (⟨none, 1⟩, { tables with tokens := tables.tokens ++ [row] })
  | .consumeActive tokenHash nodeName now =>
      .ok (⟨taken, taken.toList.length⟩, { tables with
        tokens := updateWhere (fun row => row.tokenHash == tokenHash && row.consumable nodeName now)
          (TokenRow.use now) tables.tokens })
  | .insertAgent agent =>
      if tables.agents.any fun old => old.agentId == agent.agentId || old.nodeName == agent.nodeName ||
          old.certSerial == agent.certSerial then .error .otherException
      else .ok (⟨none, 1⟩, { tables with agents := tables.agents ++ [agent] })
  | .bindTokens agentId nodeName =>
      .ok (⟨none, tables.tokens.countP (TokenRow.unbound nodeName)⟩, { tables with
        tokens := updateWhere (TokenRow.unbound nodeName) (TokenRow.bind agentId) tables.tokens })
  | .createToken row now =>
      .ok (⟨none, 1⟩, { tables with
        tokens := setToken row
          (updateWhere (TokenRow.activeFor row.nodeName) (TokenRow.disable now) tables.tokens) })
  | .consumeToken tokenHash _ now =>
      .ok (⟨taken, taken.toList.length⟩, if taken.isSome then { tables with
        tokens := updateWhere (fun row => row.tokenHash == tokenHash) (TokenRow.use now) tables.tokens }
        else tables)
  | .putAgent agent => .ok (⟨none, 1⟩, { tables with agents := setAgent agent tables.agents })

/-- A sliding window of failed attempts for each source and each token hash. -/
structure EnrollmentRateLimiter where
  maxSourceFailures : Int
  maxTokenFailures : Int
  windowSeconds : Int
  sourceFailures : Str → List DateTime
  tokenFailures : Str → List DateTime

def EnrollmentRateLimiter.new : EnrollmentRateLimiter := ⟨10, 5, 600, fun _ => [], fun _ => []⟩

namespace EnrollmentRateLimiter

/-- `_count`: what is left of the window. -/
def counted (limiter : EnrollmentRateLimiter) (failures : List DateTime) (now : DateTime) :
    List DateTime :=
  failures.dropWhile fun failure =>
    decide (failure.instant ≤ (now.addSeconds (-limiter.windowSeconds)).instant)

def isLimited (sourceAddress tokenHash : Str) (now : DateTime) (limiter : EnrollmentRateLimiter) :
    Bool × EnrollmentRateLimiter :=
  let source := limiter.counted (limiter.sourceFailures sourceAddress) now
  let pruned := { limiter with
    sourceFailures := Function.update limiter.sourceFailures sourceAddress source }
  if limiter.maxSourceFailures ≤ source.length then (true, pruned)
  else
    let token := limiter.counted (limiter.tokenFailures tokenHash) now
    (decide (limiter.maxTokenFailures ≤ token.length),
      { pruned with tokenFailures := Function.update limiter.tokenFailures tokenHash token })

def recordFailure (sourceAddress tokenHash : Str) (now : DateTime) (limiter : EnrollmentRateLimiter) :
    EnrollmentRateLimiter :=
  { limiter with
    sourceFailures := Function.update limiter.sourceFailures sourceAddress
      (limiter.sourceFailures sourceAddress ++ [now])
    tokenFailures := Function.update limiter.tokenFailures tokenHash
      (limiter.tokenFailures tokenHash ++ [now]) }

end EnrollmentRateLimiter

/-- A statement that took effect, with the task that ran it and the tables it
ran on. -/
structure Ran where
  task : Nat
  before : Tables
  statement : Statement

structure EnrollmentWorld where
  tables : Tables
  limiter : EnrollmentRateLimiter
  history : List Ran

/-- A statement takes effect as a whole or raises and has none. -/
def EnrollmentWorld.execute (task : Nat) (statement : Statement) (world : EnrollmentWorld) :
    Except Exc StatementResult × EnrollmentWorld :=
  match statement.run world.tables with
  | .error raised => (.error raised, world)
  | .ok (result, tables) => (.ok result, { world with
      tables := tables, history := world.history ++ [⟨task, world.tables, statement⟩] })

structure EnrollmentAudit where
  eventType : AuditEventType
  actor : Str
  agentId : Option Uuid
  nodeName : Option Str
  metadata : List (Str × Json)

inductive EnrollmentCall where
  | execute (statement : Statement)
  | writeAudit (audit : EnrollmentAudit)

abbrev EnrollmentResult : EnrollmentCall → Type
  | .execute _ => StatementResult
  | .writeAudit _ => Unit

abbrev EnrollmentTask (α : Type) := Task EnrollmentWorld EnrollmentResult Exc α

abbrev execute (statement : Statement) : EnrollmentTask StatementResult :=
  await (EnrollmentCall.execute statement)

structure EnrollmentTokenRecord where
  tokenHash : Str
  nodeName : Str
  labels : List Str
  nodeSshHostPublicKey : Str

/-- The arguments of `create_enrollment_token`. -/
structure TokenRequest where
  tokenHash : Str
  nodeName : Str
  labels : List Str
  nodeSshHostPublicKey : Str
  createdBy : Str
  expiresAt : DateTime

structure EnrollmentStore where
  createEnrollmentToken : TokenRequest → EnrollmentTask Unit
  consumeEnrollmentToken : (tokenHash nodeName : Str) → (now : DateTime) →
    EnrollmentTask (Option EnrollmentTokenRecord)
  persistAgent : StoredAgent → EnrollmentTask Unit

/-- A full match of `LABEL_PATTERN`. -/
def isLabel : Str → Bool
  | [] => false
  | first :: rest => isAlphanumeric first && decide (rest.length ≤ 127) &&
      rest.all fun point => isAlphanumeric point || (lit "_.:/-").contains point

def validateLabel (value : Str) : Except Exc Str :=
  if isLabel value then .ok value else .error (.identifierError "invalid label")

/-- `_labels` on the array in the column. -/
def labelsOf (labels : List Str) : Except Exc (List Str) := labels.mapM validateLabel

theorem labelsOf_ok {labels : List Str} (valid : ∀ label ∈ labels, isLabel label = true) :
    labelsOf labels = .ok labels := by
  unfold labelsOf
  induction labels with
  | nil => rfl
  | cons first rest ih =>
      rw [List.mapM_cons, validateLabel, if_pos (valid first List.mem_cons_self),
        ih fun label member => valid label (List.mem_cons_of_mem first member)]
      rfl

theorem labelsOf_valid {labels read : List Str} (ok : labelsOf labels = .ok read) :
    read = labels ∧ ∀ label ∈ labels, isLabel label = true := by
  unfold labelsOf at ok
  induction labels generalizing read with
  | nil =>
      cases ok
      exact ⟨rfl, by simp⟩
  | cons first rest ih =>
      rw [List.mapM_cons] at ok
      obtain ⟨head, one, ok⟩ := bind_ok.mp ok
      obtain ⟨tail, more, ok⟩ := bind_ok.mp ok
      cases ok
      obtain ⟨rfl, valid⟩ := ih more
      unfold validateLabel at one
      split at one
      · rename_i isFirst
        cases one
        exact ⟨rfl, List.forall_mem_cons.mpr ⟨isFirst, valid⟩⟩
      · cases one

def TokenRequest.row (request : TokenRequest) (createdAt : Option DateTime) : TokenRow :=
  ⟨request.tokenHash, request.nodeName, request.labels, request.nodeSshHostPublicKey,
    request.createdBy, createdAt, request.expiresAt, false, none, none, none⟩

/-- `PostgresEnrollmentStore`, with its reading of the clock. -/
def postgresEnrollmentStore (clock : DateTime) : EnrollmentStore where
  createEnrollmentToken request := do
    let _ ← execute (.disableActive request.nodeName clock)
    let _ ← execute (.insertToken { request.row (some clock) with expiresAt := request.expiresAt.asUtc })
    pure ()
  consumeEnrollmentToken tokenHash nodeName now := do
    match (← execute (.consumeActive tokenHash nodeName now.asUtc)).row with
    | none => pure none
    | some row =>
        let labels ← Coro.ofAnswer (labelsOf row.labels)
        pure (some ⟨row.tokenHash, row.nodeName, labels, row.nodeSshHostPublicKey⟩)
  persistAgent agent := do
    let _ ← execute (.insertAgent { agent with certExpiresAt := agent.certExpiresAt.asUtc })
    let _ ← execute (.bindTokens agent.agentId agent.nodeName)
    pure ()

/-- `InMemoryEnrollmentStore`, as the task uses it. -/
def inMemoryEnrollmentStore (task : Nat) (clock : DateTime) : EnrollmentStore where
  createEnrollmentToken request := do
    let _ ← change (EnrollmentWorld.execute task (.createToken (request.row none) clock))
    pure ()
  consumeEnrollmentToken tokenHash nodeName now := do
    match (← change (EnrollmentWorld.execute task (.consumeToken tokenHash nodeName now))).row with
    | none => pure none
    | some row => pure (some ⟨tokenHash, nodeName, row.labels, row.nodeSshHostPublicKey⟩)
  persistAgent agent := do
    let _ ← change (EnrollmentWorld.execute task (.putAgent agent))
    pure ()

/-! The service. -/
inductive AgentPublicKey where
  | ed25519 (raw : Bytes)
  | other

structure SignRequest where
  agentPublicKey : Bytes
  nodeName : Str
  agentId : Uuid
  notBefore : DateTime
  notAfter : DateTime

/-- What the source takes from asyncssh and cryptography. A signed certificate
is its PEM text and its serial number. -/
structure EnrollmentLibrary extends Library where
  importPublicKey : Str → Except Exc Unit
  loadPemPublicKey : Bytes → Except Exc AgentPublicKey
  sign : SignRequest → Except Exc (Bytes × Nat)

structure IssuedAgentCertificate where
  certificatePem : Bytes
  serial : Str
  expiresAt : DateTime

/-- `text.encode("ascii")`. -/
def encodeAscii (text : Str) : Except Exc Bytes :=
  if Ascii text then .ok (text.map fun code => UInt8.ofNat code.val) else .error .unicodeEncodeError

/-- `bytes.decode("ascii")`. -/
def decodeAscii (bytes : Bytes) : Except Exc Str :=
  if bytes.all fun byte => decide (byte.toNat < 0x80) then .ok (bytes.map fun byte => point byte.toNat)
  else .error .unicodeDecodeError

/-- `text.split()`. -/
def splitSpaces (text : Str) : List Str := (text.splitOnP isSpace).filter fun part => part ≠ []

/-- `format(value, "x")`. -/
def hexText (value : Nat) : Str := (Nat.toDigits 16 value).map fun digit => point digit.toNat

section Library
variable (library : EnrollmentLibrary)

/-- `validate_node_ssh_host_public_key`. -/
def validateNodeSshHostPublicKey (value : Str) : Except Exc Str :=
  let hostKey := strip value
  if hostKey = [] then .error (.hostKeyValueError "node sshd host key is required")
  else match library.importPublicKey hostKey with
    | .error raised =>
        if raised = .asyncsshError ∨ raised.isValueError = true then
          .error (.hostKeyValueError "node sshd host key is invalid")
        else .error raised
    | .ok _ => match splitSpaces hostKey with
        | keyType :: blob :: _ => .ok (keyType ++ lit " " ++ blob)
        | _ => .error (.hostKeyValueError "node sshd host key is invalid")

/-- `_load_agent_public_key`, with the raw key. -/
def loadAgentPublicKey (publicKeyPem : Str) : Except Exc Bytes := do
  let pem ← encodeAscii publicKeyPem
  match ← library.loadPemPublicKey pem with
  | .ed25519 raw => .ok raw
  | .other => .error (.enrollmentError "agent public key must be Ed25519")

def issueAgentClientCertificate (agentPublicKey : Bytes) (nodeName : Str) (agentId : Uuid)
    (now : DateTime) (lifetimeDays : Int) : Except Exc IssuedAgentCertificate :=
  if lifetimeDays ≤ 0 then .error .valueError
  else do
    let safeNodeName ← validateNodeName nodeName
    let expiresAt := now.asUtc.addSeconds (lifetimeDays * 86400)
    let (pem, serialNumber) ← library.sign ⟨agentPublicKey, safeNodeName, agentId, now.asUtc, expiresAt⟩
    .ok ⟨pem, hexText serialNumber, expiresAt⟩

/-- `_best_effort_token_hash`. -/
def bestEffortTokenHash (token : Str) : Except Exc Str :=
  if token = [] then .ok (lit "empty")
  else match secretValue token with
    | .error _ => .ok (lit "invalid")
    | .ok secret => sha256HexOf library.toLibrary secret
end Library

/-- `exc.__class__.__name__`; exceptions of other classes are not told apart. -/
def className : Exc → String
  | .tunnelProtocolError _ => "TunnelProtocolError"
  | .tunnelAuthError _ => "TunnelAuthError"
  | .tunnelStateError _ => "TunnelStateError"
  | .agentTunnelError _ => "AgentTunnelError"
  | .tunnelReconnectLimitError _ => "TunnelReconnectLimitError"
  | .jumpError _ => "JumpError"
  | .authError _ => "AuthError"
  | .sshServerError _ => "SshServerError"
  | .replayError _ => "ReplayError"
  | .auditError _ => "AuditError"
  | .identifierError _ => "IdentifierError"
  | .secretError _ => "SecretError"
  | .enrollmentError _ => "EnrollmentError"
  | .hostKeyValueError _ | .valueError => "ValueError"
  | .adminError _ => "AdminError"
  | .configError _ => "ConfigError"
  | .migrationError _ => "MigrationError"
  | .incompleteReadError _ => "IncompleteReadError"
  | .eofError => "EOFError"
  | .timeoutError => "TimeoutError"
  | .osError => "OSError"
  | .asyncsshError => "Error"
  | .jsonDecodeError => "JSONDecodeError"
  | .unicodeDecodeError => "UnicodeDecodeError"
  | .unicodeEncodeError => "UnicodeEncodeError"
  | .keyError => "KeyError"
  | .typeError => "TypeError"
  | .recursionError => "RecursionError"
  | .overflowError => "OverflowError"
  | .runtimeError => "RuntimeError"
  | .cancelledError => "CancelledError"
  | .otherException => "Exception"

structure EnrollmentConfigPackage where
  nodeName : Str
  labels : List Str
  token : Str
  tokenHash : Str
  agentConf : Str
  enrollmentTlsCaBundle : Str

structure EnrollmentRequest where
  nodeName : Str
  token : Str
  agentX509PublicKey : Str
  nodeSshHostPublicKey : Str
  sourceAddress : Str

structure EnrollmentResponse where
  agentId : Uuid
  agentX509Cert : Str
  tunnelCaBundle : Str
  tunnelHost : Str
  tunnelPort : Int
  tunnelSecret : Str

/-- `_render_agent_conf`. -/
def renderAgentConf (nodeName token nodeSshHostPublicKey : Str) : Str :=
  joined (point 10) [lit "[enrollment]", lit "node_name = " ++ nodeName, lit "token = " ++ token,
    lit "api_url = https://server:4443/enroll", lit "tls_ca_bundle = /etc/vibeconnect/ca.crt",
    lit "node_ssh_host_public_key = " ++ nodeSshHostPublicKey, [], lit "[tunnel]",
    lit "server_url = https://server:4444/tunnel", lit "tls_ca_bundle = /etc/vibeconnect/ca.crt",
    lit "heartbeat_seconds = 30", [], lit "[proxy]", lit "target = 127.0.0.1:2222", [],
    lit "[identity]", lit "path = /var/lib/vibeconnect/identity.json", []]

/-- What a call of the service draws from the generators. -/
structure EnrollmentDraws where
  token : Str
  agentId : Uuid
  tunnelSecret : Str

structure AgentRequest where
  nodeName : Str
  labels : List Str
  nodeSshHostPublicKey : Str
  createdBy : Str

/-- What the service is configured with beside its store. -/
structure EnrollmentConfig where
  library : EnrollmentLibrary
  audited : Bool
  tunnelCaBundle : Str
  tunnelHost : Str
  tunnelPort : Int
  enrollmentTlsCaBundle : Str

structure EnrollmentService extends EnrollmentConfig where
  store : EnrollmentStore

namespace EnrollmentService
variable (service : EnrollmentService)

/-- `sha256_hex(SecretValue(token))`. -/
def tokenHashOf (library : EnrollmentLibrary) (token : Str) : Except Exc Str := do
  let secret ← secretValue token
  sha256HexOf library.toLibrary secret

/-- The `except ValueError` clause around the host key. -/
def createdHostKey (library : EnrollmentLibrary) (nodeSshHostPublicKey : Str) : Except Exc Str :=
  match validateNodeSshHostPublicKey library nodeSshHostPublicKey with
  | .ok hostKey => .ok hostKey
  | .error raised =>
      if raised.isValueError then .error (.enrollmentError raised.text) else .error raised

def createAgent (draws : EnrollmentDraws) (request : AgentRequest) (now : DateTime) :
    EnrollmentTask EnrollmentConfigPackage := do
  let safeNodeName ← Coro.ofAnswer (validateNodeName request.nodeName)
  let safeLabels ← Coro.ofAnswer (request.labels.mapM validateLabel)
  let tokenHash ← Coro.ofAnswer (tokenHashOf service.library draws.token)
  let safeNodeHostKey ← Coro.ofAnswer (createdHostKey service.library request.nodeSshHostPublicKey)
  service.store.createEnrollmentToken ⟨tokenHash, safeNodeName, safeLabels, safeNodeHostKey,
    request.createdBy, now.asUtc.addSeconds (ENROLLMENT_TOKEN_LIFETIME_DAYS * 86400)⟩
  Coro.onlyIf service.audited (await (EnrollmentCall.writeAudit ⟨.ENROLLMENT_TOKEN_CREATED,
    request.createdBy, none, some safeNodeName,
    [(lit "labels", .array (safeLabels.map .str)), (lit "token_hash", .str (lit SECRET_REDACTION))]⟩))
  pure ⟨safeNodeName, safeLabels, draws.token, tokenHash,
    renderAgentConf safeNodeName draws.token safeNodeHostKey, service.enrollmentTlsCaBundle⟩

/-- The `except ValueError` clause around the host key of the request. -/
def requestedHostKey (library : EnrollmentLibrary) (nodeSshHostPublicKey : Str) : Except Exc Str :=
  match validateNodeSshHostPublicKey library nodeSshHostPublicKey with
  | .ok hostKey => .ok hostKey
  | .error raised =>
      if raised.isValueError then .error (.enrollmentError "node_host_key_mismatch") else .error raised

theorem requestedHostKey_ok {library : EnrollmentLibrary} {value hostKey : Str}
    (checked : requestedHostKey library value = .ok hostKey) :
    validateNodeSshHostPublicKey library value = .ok hostKey := by
  unfold requestedHostKey at checked
  split at checked
  · rename_i same
    cases checked
    exact same
  · split at checked
    · cases checked
    · cases checked

/-- What is checked and made between the token and the agent row: the request's
host key is the token's, the agent's key is one, and a certificate is issued. -/
def agentOf (request : EnrollmentRequest) (draws : EnrollmentDraws) (safeNodeName : Str)
    (record : EnrollmentTokenRecord) (now : DateTime) :
    Except Exc (StoredAgent × IssuedAgentCertificate) := do
  let requestNodeHostKey ← requestedHostKey service.library request.nodeSshHostPublicKey
  if requestNodeHostKey ≠ record.nodeSshHostPublicKey then
    .error (.enrollmentError "node_host_key_mismatch")
  else do
    let agentPublicKey ← loadAgentPublicKey service.library request.agentX509PublicKey
    let tunnelSecret ← secretValue draws.tunnelSecret
    let issued ← issueAgentClientCertificate service.library agentPublicKey safeNodeName draws.agentId
      now AGENT_CERT_DEFAULT_LIFETIME_DAYS
    let tunnelSecretHash ← sha256HexOf service.library.toLibrary tunnelSecret
    .ok (⟨draws.agentId, safeNodeName, record.labels, request.agentX509PublicKey,
      record.nodeSshHostPublicKey, tunnelSecretHash, issued.serial, issued.expiresAt⟩, issued)

/-- `enroll` after the token is consumed. -/
def enrollConsumed (request : EnrollmentRequest) (draws : EnrollmentDraws) (safeNodeName : Str)
    (record : EnrollmentTokenRecord) (now : DateTime) : EnrollmentTask EnrollmentResponse := do
  let (agent, issued) ← Coro.ofAnswer (service.agentOf request draws safeNodeName record now)
  service.store.persistAgent agent
  Coro.onlyIf service.audited (await (EnrollmentCall.writeAudit ⟨.ENROLLMENT_SUCCEEDED,
    lit "enrollment-api", some draws.agentId, some safeNodeName,
    [(lit "source_address", .str request.sourceAddress)]⟩))
  let certificate ← Coro.ofAnswer (decodeAscii issued.certificatePem)
  pure ⟨draws.agentId, certificate, service.tunnelCaBundle, service.tunnelHost, service.tunnelPort,
    draws.tunnelSecret⟩

/-- The `try` block of `enroll`. -/
def enrollBody (request : EnrollmentRequest) (draws : EnrollmentDraws) (now : DateTime) :
    EnrollmentTask EnrollmentResponse := do
  let safeNodeName ← Coro.ofAnswer (validateNodeName request.nodeName)
  let tokenHash ← Coro.ofAnswer (tokenHashOf service.library request.token)
  let limited ← change fun world =>
    let (limited, limiter) := world.limiter.isLimited request.sourceAddress tokenHash now
    (.ok limited, { world with limiter := limiter })
  if limited then throw (.enrollmentError "rate_limited")
  else do
    match ← service.store.consumeEnrollmentToken tokenHash safeNodeName now with
    | none => throw (.enrollmentError "invalid_token")
    | some record => service.enrollConsumed request draws safeNodeName record now

def recordEnrollmentFailure (request : EnrollmentRequest) (now : DateTime) (raised : Exc) :
    EnrollmentTask Unit := do
  let tokenHash ← Coro.ofAnswer (bestEffortTokenHash service.library request.token)
  update fun world => { world with
    limiter := world.limiter.recordFailure request.sourceAddress tokenHash now }
  Coro.onlyIf service.audited (await (EnrollmentCall.writeAudit ⟨.ENROLLMENT_FAILED,
    lit "enrollment-api", none, some request.nodeName,
    [(lit "source_address", .str request.sourceAddress),
      (lit "reason", .str (lit (className raised))),
      (lit "token_hash", .str (lit SECRET_REDACTION))]⟩))

/-- `except Exception`: a cancellation passes. -/
def enrollFault (request : EnrollmentRequest) (now : DateTime) (raised : Exc) :
    EnrollmentTask EnrollmentResponse :=
  if raised.isException then do
    service.recordEnrollmentFailure request now raised
    throw (.enrollmentError "enrollment failed")
  else throw raised

def enroll (request : EnrollmentRequest) (draws : EnrollmentDraws) (now : DateTime) :
    EnrollmentTask EnrollmentResponse :=
  tryCatch (service.enrollBody request draws now.asUtc)
    (service.enrollFault request now.asUtc)
end EnrollmentService

/-- `AdminService.expire_token`. -/
def expireToken (audited : Bool) (nodeName actor : Str) (now : DateTime) : EnrollmentTask Nat := do
  let safeNodeName ← Coro.ofAnswer (validateNodeName nodeName)
  let count := (← execute (.disableActive safeNodeName now.asUtc)).count
  Coro.onlyIf audited (await (EnrollmentCall.writeAudit ⟨.ENROLLMENT_TOKEN_EXPIRED, actor, none,
    some safeNodeName, [(lit "expired", .int count)]⟩))
  pure count

/-! One enrollment. -/
def agentIdOne : Uuid := ⟨1⟩
def tokenOne : Str := List.replicate 43 (point 97)
def tunnelSecretOne : Str := List.replicate 43 (point 98)

def nodeKeyOne : Str :=
  lit "ssh-ed25519 AAAAC3NzaC1lZDI1NTE5AAAAICXdZpa0qKoypVA3QMQQBKa8sRGsMrudq8aWMTLmXXmK"

def agentKeyPemOne : Str :=
  lit "-----BEGIN PUBLIC KEY-----\n" ++
  lit "MCowBQYDK2VwAyEAJd1mlrSoqjKlUDdAxBAEpryxEawyu52rxpYxMuZdeYo=\n" ++
  lit "-----END PUBLIC KEY-----\n"

def agentKeyOne : Bytes :=
  [37, 221, 102, 150, 180, 168, 170, 50, 165, 80, 55, 64, 196, 16, 4, 166, 188, 177, 17, 172, 50,
    187, 157, 171, 198, 150, 49, 50, 230, 93, 121, 138]

def certificatePemOne : Str :=
  lit "-----BEGIN CERTIFICATE-----\n" ++
  lit "MIIBdjCCASigAwIBAgIBHzAFBgMrZXAwEzERMA8GA1UEAwwIYWdlbnQtY2EwHhcN\n" ++
  lit "MjYxMTE5MDE0MDQxWhcNMjcwMjE3MDE0MDQxWjARMQ8wDQYDVQQDDAZub2RlMDEw\n" ++
  lit "KjAFBgMrZXADIQAl3WaWtKiqMqVQN0DEEASmvLERrDK7navGljEy5l15iqOBojCB\n" ++
  lit "nzBFBgNVHREEPjA8hjp1cm46dmliZWNvbm5lY3Q6YWdlbnQ6MDAwMDAwMDAtMDAw\n" ++
  lit "MC0wMDAwLTAwMDAtMDAwMDAwMDAwMDAxMBYGA1UdJQEB/wQMMAoGCCsGAQUFBwMC\n" ++
  lit "MB0GA1UdDgQWBBQyneTvhukkoPm/eBvD5HfKGrCgcDAfBgNVHSMEGDAWgBSInLe0\n" ++
  lit "z/z27V3NODKIVZKVlo8BTzAFBgMrZXADQQBCPdh6BdGvlshCIej8l2lqlIkkphrS\n" ++
  lit "sM9732rd14Qcn1QknR2y/q7Wv4L7WZ79QlVc7J7CDU7q6hL+E4DPV+oL\n" ++
  lit "-----END CERTIFICATE-----\n"

theorem certificate_text : ∃ text, decodeAscii ((encode certificatePemOne).getD []) = .ok text := by
  have small : ((encode certificatePemOne).getD []).all (fun byte => decide (byte.toNat < 0x80)) = true := by
    decide +kernel
  unfold decodeAscii
  rw [if_pos small]
  exact ⟨_, rfl⟩

/-- asyncssh, cryptography and SHA-256 on the values of this enrollment. -/
def libraryOne : EnrollmentLibrary where
  json := pythonJson
  strOf := fun value => match value with
    | .str text => .ok text
    | _ => .error .otherException
  uuidOf := fun text => if text = agentIdOne.text then some agentIdOne else none
  sha256Hex := fun bytes =>
    if bytes = List.replicate 43 97 then
      lit "66d34fba71f8f450f7e45598853e53bfc23bbd129027cbb131a2f4ffd7878cd0"
    else if bytes = List.replicate 43 98 then
      lit "f01b57226261ae3756b93936e1c4e6b849f9a5b0933fa3b91843bf4195b9d964"
    else []
  importPublicKey := fun text => if text = nodeKeyOne then .ok () else .error .asyncsshError
  loadPemPublicKey := fun bytes =>
    if encodeAscii agentKeyPemOne = .ok bytes then .ok (.ed25519 agentKeyOne) else .error .valueError
  sign := fun _ => .ok ((encode certificatePemOne).getD [], 31)

def configOne : EnrollmentConfig :=
  ⟨libraryOne, true, lit "tunnel-ca", lit "server", 4444, lit "enrollment-ca"⟩

def drawsOne : EnrollmentDraws := ⟨tokenOne, agentIdOne, tunnelSecretOne⟩

def requestOne (nodeSshHostPublicKey : Str) : EnrollmentRequest :=
  ⟨lit "node01", tokenOne, agentKeyPemOne, nodeSshHostPublicKey, lit "192.0.2.7"⟩

end VibeConnect.Enrollment
