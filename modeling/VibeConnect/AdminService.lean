import VibeConnect.AuditWriter
import VibeConnect.Enrollment

/-! The local admin commands: the statements of `PostgresAdminStore` on all that
they write, and the service over it, which checks, changes and then audits. -/
namespace VibeConnect.AdminService
open Python.Text Python.JsonCodec Python.Values Python.Coroutine Models JumpCoordinator Enrollment
open AuditWriter

/-- A row of `key_rotation_events`. -/
structure RotationRow where
  id : Uuid
  keyName : Str
  oldFingerprint : Str
  newFingerprint : Str
  startedAt : DateTime
  completedAt : Option DateTime
  status : Str

/-- The tables that the commands write, beside `audit_events`. The columns
`revoked` and `revoked_at` of an agent are one: only its revocation sets them,
and both. -/
structure AdminTables extends Tables where
  revokedAt : Uuid → Option DateTime
  rotations : List RotationRow

structure RotationState where
  keyName : Str
  oldFingerprint : Str
  newFingerprint : Str
  trustedFingerprints : List Str
  status : Str

def RotationRow.state (trusted : List Str) (row : RotationRow) : RotationState :=
  ⟨row.keyName, row.oldFingerprint, row.newFingerprint, trusted, row.status⟩

inductive AdminStatement where
  | disableActive (nodeName : Str) (now : DateTime)
  | insertToken (row : TokenRow)
  | revokeAgent (nodeName : Str) (now : DateTime)
  | rotateTunnelSecret (nodeName tunnelSecretHash : Str)
  | updateNodeHostKey (nodeName nodeSshHostPublicKey : Str)
  | insertRotation (row : RotationRow)
  | completeRotation (rotationId : Uuid) (now : DateTime)
  | selectRotation (rotationId : Uuid)

/-- The number of rows of the status, or the row that is returned. -/
abbrev AdminResult : AdminStatement → Type
  | .disableActive .. => Nat
  | .insertToken _ | .insertRotation _ => Unit
  | .revokeAgent .. | .rotateTunnelSecret .. | .updateNodeHostKey .. => Option Uuid
  | .completeRotation .. | .selectRotation _ => Option RotationRow

namespace AdminTables
variable (tables : AdminTables)

/-- `WHERE node_name = $1 AND revoked = false`. -/
def unrevoked (nodeName : Str) (agent : StoredAgent) : Bool :=
  decide (agent.nodeName = nodeName) && (tables.revokedAt agent.agentId).isNone

/-- The id that `RETURNING id` gives. -/
def returned (nodeName : Str) : Option Uuid :=
  (tables.agents.find? (tables.unrevoked nodeName)).map StoredAgent.agentId

def setAgents (nodeName : Str) (change : StoredAgent → StoredAgent) : AdminTables :=
  { tables with
    agents := tables.agents.map fun agent =>
      if tables.unrevoked nodeName agent then change agent else agent }

def revoke (nodeName : Str) (now : DateTime) : AdminTables :=
  { tables with
    revokedAt := fun id =>
      if tables.agents.any fun agent => decide (agent.agentId = id) && tables.unrevoked nodeName agent
      then some now else tables.revokedAt id }
end AdminTables

/-- `WHERE id = $1 AND status = 'started'`. -/
def RotationRow.startedAs (rotationId : Uuid) (row : RotationRow) : Bool :=
  decide (row.id = rotationId) && row.status == lit "started"

def RotationRow.complete (now : DateTime) (row : RotationRow) : RotationRow :=
  { row with completedAt := some now, status := lit "completed" }

/-- One statement, which takes effect as a whole or breaks a constraint. -/
def AdminStatement.run (tables : AdminTables) :
    (statement : AdminStatement) → Except Exc (AdminResult statement × AdminTables)
  | .disableActive nodeName now =>
      match Statement.run tables.toTables (.disableActive nodeName now) with
      | .error raised => .error raised
      | .ok (result, after) => .ok (result.count, { tables with toTables := after })
  | .insertToken row =>
      match Statement.run tables.toTables (.insertToken row) with
      | .error raised => .error raised
      | .ok (_, after) => .ok ((), { tables with toTables := after })
  | .revokeAgent nodeName now => .ok (tables.returned nodeName, tables.revoke nodeName now)
  | .rotateTunnelSecret nodeName tunnelSecretHash =>
      .ok (tables.returned nodeName, tables.setAgents nodeName fun agent =>
        { agent with tunnelSecretHash := tunnelSecretHash })
  | .updateNodeHostKey nodeName nodeSshHostPublicKey =>
      .ok (tables.returned nodeName, tables.setAgents nodeName fun agent =>
        { agent with nodeSshHostPublicKey := nodeSshHostPublicKey })
  | .insertRotation row =>
      if tables.rotations.any fun old => decide (old.id = row.id) then .error .otherException
      else .ok ((), { tables with rotations := tables.rotations ++ [row] })
  | .completeRotation rotationId now =>
      .ok ((tables.rotations.find? (RotationRow.startedAs rotationId)).map (RotationRow.complete now),
        { tables with
          rotations := tables.rotations.map fun row =>
            if row.startedAs rotationId then row.complete now else row })
  | .selectRotation rotationId =>
      .ok (tables.rotations.find? (RotationRow.startedAs rotationId), tables)

/-- A token that was inserted changed the tables that enrollment has too. -/
theorem insertToken_ran {tables after : AdminTables} {row : TokenRow} {result : Unit}
    (ran : AdminStatement.run tables (.insertToken row) = .ok (result, after)) : ∃ inserted changed,
      Statement.run tables.toTables (.insertToken row) = .ok (inserted, changed) ∧
        after = { tables with toTables := changed } := by
  unfold AdminStatement.run at ran
  dsimp only at ran
  split at ran
  · cases ran
  · rename_i inserted changed same
    cases ran
    exact ⟨inserted, changed, same, rfl⟩

inductive AdminCall where
  | execute (statement : AdminStatement)
  | insertAudit (row : AuditRow)

abbrev AdminAns : AdminCall → Type
  | .execute statement => AdminResult statement
  | .insertAudit _ => Unit

abbrev AdminTask (α : Type) := Coro AdminCall AdminAns Exc α

def execute (statement : AdminStatement) : AdminTask (AdminResult statement) :=
  Coro.await (AdminCall.execute statement)

/-! The store. -/

/-- `PostgresAdminStore.create_enrollment_token`. -/
def storeToken (row : TokenRow) (now : DateTime) : AdminTask Unit := do
  let _ ← execute (.disableActive row.nodeName now)
  execute (.insertToken row)

/-- The id of the agent that an update returned. -/
def returnedAgent (message : String) (statement : AdminTask (Option Uuid)) : AdminTask Uuid := do
  match ← statement with
  | none => throw (.adminError message)
  | some agentId => pure agentId

def storeRevocation (nodeName : Str) (now : DateTime) : AdminTask Uuid :=
  returnedAgent "agent not found or already revoked" (execute (.revokeAgent nodeName now))

def storeTunnelSecret (nodeName tunnelSecretHash : Str) : AdminTask Uuid :=
  returnedAgent "agent not found or revoked" (execute (.rotateTunnelSecret nodeName tunnelSecretHash))

def storeNodeHostKey (nodeName nodeSshHostPublicKey : Str) : AdminTask Uuid :=
  returnedAgent "agent not found or revoked"
    (execute (.updateNodeHostKey nodeName nodeSshHostPublicKey))

/-- The state of the rotation that a statement returned. -/
def returnedRotation (trusted : List Str) (statement : AdminTask (Option RotationRow)) :
    AdminTask RotationState := do
  match ← statement with
  | none => throw (.adminError "CA rotation is not active")
  | some row => pure (row.state trusted)

def getCaRotation (rotationId : Uuid) : AdminTask RotationState :=
  returnedRotation [] (execute (.selectRotation rotationId))

def storeCompletion (rotationId : Uuid) (trusted : List Str) (now : DateTime) :
    AdminTask RotationState :=
  returnedRotation trusted (execute (.completeRotation rotationId now))

/-! The service. -/

/-- What a call draws: the id of its audit event, and what it generates. -/
structure AdminDraws where
  eventId : Uuid
  token : Str
  tunnelSecret : Str
  rotationId : Uuid

structure AdminConfig where
  library : EnrollmentLibrary
  lower : Str → Str
  audited : Bool

structure CreateAgent where
  nodeName : Str
  labels : List Str
  actor : Str
  nodeSshHostPublicKey : Str
  serverHost : Str
  enrollmentPort : Int
  tunnelPort : Int
  proxyHost : Str
  proxyPort : Int
  heartbeatSeconds : Int

structure CreatedAgentPackage where
  nodeName : Str
  labels : List Str
  agentConf : Str

def validateServerHost (value : Str) : Except Exc Str :=
  if value = [] ∨ value.head? = some 45 ∨ value.any isSpace then
    .error (.adminError "invalid server host")
  else if 47 ∈ value ∨ 58 ∈ value ∨ 64 ∈ value then .error (.adminError "invalid server host")
  else .ok value

def validateProxyHost (value : Str) : Except Exc Str :=
  if ¬ lit "127." <+: value ∨ value.any isSpace then .error (.adminError "invalid proxy host")
  else .ok value

def validatePort (value : Int) (label : String) : Except Exc Unit :=
  if 1 ≤ value ∧ value ≤ 65535 then .ok ()
  else .error (.adminError (label ++ " is outside valid TCP port bounds"))

def validateHeartbeat (seconds : Int) : Except Exc Unit :=
  if 5 ≤ seconds ∧ seconds ≤ 300 then .ok ()
  else .error (.adminError "heartbeat_seconds is outside documented bounds")

/-- `_validate_node_host_key`. -/
def validateNodeHostKey (library : EnrollmentLibrary) (value : Str) : Except Exc Str :=
  match validateNodeSshHostPublicKey library value with
  | .ok hostKey => .ok hostKey
  | .error raised => if raised.isValueError then .error (.adminError raised.text) else .error raised

/-- `_require_overlap`. -/
def requireOverlap (old new : Str) (trusted : List Str) : Except Exc Unit :=
  if old ∉ trusted ∨ new ∉ trusted then
    .error (.adminError "CA rotation requires overlapping trust bundle")
  else .ok ()

/-- `str(value)`. -/
def decimal (value : Int) : Str := lit (toString value)

def renderConf (request : CreateAgent) (nodeName token nodeSshHostPublicKey : Str) : Str :=
  joined (point 10) [lit "[enrollment]", lit "node_name = " ++ nodeName, lit "token = " ++ token,
    lit "api_url = https://" ++ request.serverHost ++ lit ":" ++ decimal request.enrollmentPort ++
      lit "/enroll",
    lit "tls_ca_bundle = /etc/vibeconnect/ca.crt",
    lit "node_ssh_host_public_key = " ++ nodeSshHostPublicKey, [], lit "[tunnel]",
    lit "server_url = https://" ++ request.serverHost ++ lit ":" ++ decimal request.tunnelPort ++
      lit "/tunnel",
    lit "tls_ca_bundle = /etc/vibeconnect/ca.crt",
    lit "heartbeat_seconds = " ++ decimal request.heartbeatSeconds, [], lit "[proxy]",
    lit "target = " ++ request.proxyHost ++ lit ":" ++ decimal request.proxyPort, [],
    lit "[identity]", lit "path = /var/lib/vibeconnect/identity.json", []]

def named (fields : List (String × MetadataValue)) : MetadataValue :=
  .mapping (fields.map fun field => (.named (lit field.1), field.2))

def text (value : Str) : MetadataValue := .scalar (.str value)

section Service
variable (config : AdminConfig) (draws : AdminDraws)

/-- `_audit`: the metadata is scrubbed before the writer scrubs it. -/
def audit (request : AuditRequest) (metadata : MetadataValue) : AdminTask Unit :=
  Coro.onlyIf config.audited (match scrubSecretMetadata config.lower metadata with
    | .mapping fields => do
        let row ← Coro.ofAnswer (auditRow config.lower request (.mapping fields))
        Coro.await (AdminCall.insertAudit row)
    | _ => throw (.adminError "audit metadata must be an object"))

/-- What `create_agent` checks and makes before the store: the node name, the
labels, the host key and the hash of the token. -/
def createChecks (request : CreateAgent) : Except Exc (Str × List Str × Str × Str) := do
  let safeNodeName ← validateNodeName request.nodeName
  let safeLabels ← request.labels.mapM validateLabel
  let _ ← validateServerHost request.serverHost
  let safeNodeHostKey ← validateNodeHostKey config.library request.nodeSshHostPublicKey
  validatePort request.enrollmentPort "enrollment_port"
  validatePort request.tunnelPort "tunnel_port"
  validatePort request.proxyPort "proxy_port"
  let _ ← validateProxyHost request.proxyHost
  validateHeartbeat request.heartbeatSeconds
  let tokenHash ← EnrollmentService.tokenHashOf config.library draws.token
  .ok (safeNodeName, safeLabels, safeNodeHostKey, tokenHash)

/-- The row of a new token. -/
def createdRow (request : CreateAgent) (checked : Str × List Str × Str × Str) (now : DateTime) :
    TokenRow :=
  ⟨checked.2.2.2, checked.1, checked.2.1, checked.2.2.1, request.actor, some now,
    now.addSeconds (ENROLLMENT_TOKEN_LIFETIME_DAYS * 86400), false, none, none, none⟩

def createdAudit (request : CreateAgent) (checked : Str × List Str × Str × Str) (now : DateTime) :
    AuditRequest × MetadataValue :=
  (⟨draws.eventId, .ENROLLMENT_TOKEN_CREATED, request.actor, none, none, some checked.1, now⟩,
    named [("labels", .sequence (checked.2.1.map text)), ("token_hash", text checked.2.2.2)])

def createAgent (request : CreateAgent) (now : DateTime) : AdminTask CreatedAgentPackage := do
  let checked ← Coro.ofAnswer (createChecks config draws request)
  storeToken (createdRow request checked now.asUtc) now.asUtc
  let event := createdAudit draws request checked now.asUtc
  audit config event.1 event.2
  pure ⟨checked.1, checked.2.1, renderConf request checked.1 draws.token checked.2.2.1⟩

def agentAudit (eventType : AuditEventType) (actor : Str) (agentId : Option Uuid) (nodeName : Str)
    (now : DateTime) : AuditRequest :=
  ⟨draws.eventId, eventType, actor, agentId, none, some nodeName, now⟩

def revokeAgent (nodeName actor : Str) (now : DateTime) : AdminTask Uuid := do
  let safeNodeName ← Coro.ofAnswer (validateNodeName nodeName)
  let agentId ← storeRevocation safeNodeName now.asUtc
  audit config (agentAudit draws .AGENT_REVOKED actor (some agentId) safeNodeName now.asUtc)
    (named [("status", text (lit "revoked"))])
  pure agentId

def rotateTunnelSecret (nodeName actor : Str) (now : DateTime) : AdminTask Uuid := do
  let safeNodeName ← Coro.ofAnswer (validateNodeName nodeName)
  let tunnelSecretHash ← Coro.ofAnswer (EnrollmentService.tokenHashOf config.library draws.tunnelSecret)
  let agentId ← storeTunnelSecret safeNodeName tunnelSecretHash
  audit config (agentAudit draws .TUNNEL_SECRET_ROTATED actor (some agentId) safeNodeName now.asUtc)
    (named [("tunnel_secret", text (lit "[not printed]"))])
  pure agentId

def updateNodeHostKey (nodeName nodeSshHostPublicKey actor : Str) (now : DateTime) :
    AdminTask Uuid := do
  let safeNodeName ← Coro.ofAnswer (validateNodeName nodeName)
  let safeNodeHostKey ← Coro.ofAnswer (validateNodeHostKey config.library nodeSshHostPublicKey)
  let agentId ← storeNodeHostKey safeNodeName safeNodeHostKey
  audit config (agentAudit draws .NODE_HOST_KEY_UPDATED actor (some agentId) safeNodeName now.asUtc)
    (named [("node_ssh_host_public_key", text (lit "[pinned]"))])
  pure agentId

def expireToken (nodeName actor : Str) (now : DateTime) : AdminTask Nat := do
  let safeNodeName ← Coro.ofAnswer (validateNodeName nodeName)
  let count ← execute (.disableActive safeNodeName now.asUtc)
  audit config (agentAudit draws .ENROLLMENT_TOKEN_EXPIRED actor none safeNodeName now.asUtc)
    (named [("expired", .scalar (.int count))])
  pure count

def rotationAudit (eventType : AuditEventType) (actor : Str) (now : DateTime) : AuditRequest :=
  ⟨draws.eventId, eventType, actor, none, none, none, now⟩

def startChecks (old new : Str) (trusted : List Str) : Except Exc Unit :=
  if old = new then .error (.adminError "CA rotation requires distinct fingerprints")
  else requireOverlap old new trusted

def startCaRotation (keyName old new : Str) (trusted : List Str) (actor : Str) (now : DateTime) :
    AdminTask Uuid := do
  Coro.ofAnswer (startChecks old new trusted)
  execute (.insertRotation ⟨draws.rotationId, keyName, old, new, now.asUtc, none, lit "started"⟩)
  audit config (rotationAudit draws .CA_ROTATION_STARTED actor now.asUtc)
    (named [("key_name", text keyName), ("old_fingerprint", text old), ("new_fingerprint", text new)])
  pure draws.rotationId

def completionChecks (active : RotationState) (trusted : List Str) : Except Exc Unit :=
  if active.oldFingerprint ∈ trusted then .error (.adminError "old CA fingerprint remains trusted")
  else if active.newFingerprint ∉ trusted then .error (.adminError "new CA fingerprint is not trusted")
  else .ok ()

def completeCaRotation (rotationId : Uuid) (trusted : List Str) (actor : Str) (now : DateTime) :
    AdminTask RotationState := do
  let active ← getCaRotation rotationId
  Coro.ofAnswer (completionChecks active trusted)
  let state ← storeCompletion rotationId trusted now.asUtc
  audit config (rotationAudit draws .CA_ROTATION_COMPLETED actor now.asUtc)
    (named [("key_name", text state.keyName), ("status", text state.status)])
  pure state
end Service

end VibeConnect.AdminService
