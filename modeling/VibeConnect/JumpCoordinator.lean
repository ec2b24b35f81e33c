import VibeConnect.Python.Coroutine
import VibeConnect.TunnelState

/-! The jump coordinator and the restricted-shell handler above it. Both are
written over any way to ask their dependencies, so that one text serves a run
against fixed answers, a run against any answers, and a task of a session. The
uuids that the source draws are arguments. -/
namespace VibeConnect.JumpCoordinator
open Python.Text Python.JsonCodec Python.Values Python.Coroutine Models TunnelState

structure ResolvedIdentity where
  username : Str

structure NodeInventoryEntry where
  nodeName : Str

structure JumpTarget where
  agentId : Uuid
  nodeName : Str
  nodeSshHostPublicKey : Str
  heartbeat : HeartbeatState

structure JumpSession where
  sessionId : Uuid
  userCertSerial : Int
  replayPath : Str
  startedAt : DateTime

structure IssuedUserCertificate where
  username : Str

/-- A recorder, by the number of the object. -/
structure ReplayHandle where
  number : Nat
  deriving DecidableEq

/-- A node SSH connection, by the number of the object. -/
structure NodeConnection where
  number : Nat
  deriving DecidableEq

structure StartedJump where
  session : JumpSession
  target : JumpTarget
  userCertificate : IssuedUserCertificate
  replay : ReplayHandle
  channelId : ChannelId
  nodeConnection : NodeConnection

structure SessionRequest where
  agentId : Uuid
  username : Str
  nodeName : Str
  replayPath : Str
  startedAt : DateTime

structure ReplayRequest where
  sessionId : Uuid
  nodeName : Str
  width : Int
  height : Int
  now : DateTime

structure OpenRequest where
  agentId : Uuid
  channelId : ChannelId
  nodeName : Str
  nodeSshHostPublicKey : Str
  username : Str
  userCertificate : IssuedUserCertificate

structure AuditRecord where
  eventType : AuditEventType
  actor : Str
  agentId : Option Uuid
  sessionId : Option Uuid
  nodeName : Option Str
  metadata : List (Str × Json)
  now : DateTime

/-- What the jump code asks of its dependencies. -/
inductive JumpCall where
  | visibleNodes (identity : ResolvedIdentity)
  | presentedHostKey (nodeName : Str)
  | clock
  | getJumpTarget (nodeName : Str)
  | createSession (request : SessionRequest)
  | failSession (sessionId : Uuid) (endedAt : DateTime)
  | startReplay (request : ReplayRequest)
  | failReplay (replay : ReplayHandle) (error : Str) (now : DateTime)
  | issue (username : Str) (sessionId : Uuid) (serial : Int) (now : DateTime)
  | openSession (request : OpenRequest)
  | writeAudit (record : AuditRecord)

abbrev JumpResult : JumpCall → Type
  | .visibleNodes _ => List NodeInventoryEntry
  | .presentedHostKey _ => Option Str
  | .clock => DateTime
  | .getJumpTarget _ => Option JumpTarget
  | .createSession _ => JumpSession
  | .startReplay _ => ReplayHandle
  | .issue .. => IssuedUserCertificate
  | .openSession _ => NodeConnection
  | _ => Unit

/-! Identifiers. -/
def isAlphanumeric (point : CodePoint) : Bool :=
  (48 ≤ point.val && point.val ≤ 57) || (65 ≤ point.val && point.val ≤ 90) ||
    (97 ≤ point.val && point.val ≤ 122)

/-- A full match of `NODE_NAME_PATTERN`. -/
def isNodeName : Str → Bool
  | [] => false
  | first :: rest => isAlphanumeric first && decide (rest.length ≤ 62) &&
      rest.all fun point => isAlphanumeric point || (lit "_.-").contains point

def validateNodeName (value : Str) : Except Exc Str :=
  if isNodeName value then .ok value else .error (.identifierError "invalid node_name")

theorem validateNodeName_iff {nodeName safeNodeName : Str} :
    validateNodeName nodeName = .ok safeNodeName ↔ isNodeName nodeName = true ∧ safeNodeName = nodeName := by
  unfold validateNodeName
  cases named : isNodeName nodeName with
  | false => simp
  | true => simp [eq_comm]

/-- The shell characters are `&;|<>$`, the backquote, the backslash, the quotes,
and the brackets and marks after them. -/
def usernameForbidden : List Nat :=
  [47, 58, 38, 59, 124, 60, 62, 36, 96, 92, 34, 39, 40, 41, 123, 125, 91, 93, 42, 63, 33]

def validateUsernamePrincipal (value : Str) : Except Exc Str :=
  if value = [] ∨ value = lit "root" then .error (.identifierError "invalid username principal")
  else if value.any fun point => isSpace point || point.val < 32 || usernameForbidden.contains point.val then
    .error (.identifierError "invalid username principal")
  else .ok value

def parseRestrictedShellCommand (command : Str) (allowedNodes : List Str) : Except Exc Str :=
  let stripped := strip command
  if stripped ≠ command ∧ stripped = [] then .error (.authError "empty command")
  else do
    let names ← allowedNodes.mapM validateNodeName
    if stripped ∈ names then .ok stripped
    else .error (.authError "restricted shell accepts only an exact node name")

def validateSshRequestPolicy (username : Str) (command subsystem : Option Str)
    (directTcpip agentForwarding x11Forwarding : Bool) : Except Exc Unit :=
  match validateUsernamePrincipal username with
  | .error (.identifierError _) => .error (.authError "username is denied")
  | .error raised => .error raised
  | .ok _ =>
      if subsystem ≠ none then .error (.authError "subsystems are denied")
      else if directTcpip then .error (.authError "forwarding is denied")
      else if agentForwarding then .error (.authError "agent forwarding is denied")
      else if x11Forwarding then .error (.authError "X11 forwarding is denied")
      else if command = some (lit "scp") ∨ command = some (lit "sftp") then
        .error (.authError "SCP and SFTP are denied")
      else .ok ()

/-- `_single_requested_node`. -/
def singleRequestedNode (command : Str) (visibleNodes : List NodeInventoryEntry) : Except Exc Str :=
  let requested := strip command
  if requested ∈ visibleNodes.map (·.nodeName) then .ok requested
  else .error (.authError "restricted shell accepts only an exact node name")

def validatePinnedHostKey (expected presented : Option Str) : Except Exc Str :=
  if expected.getD [] = [] then .error (.jumpError "node sshd host key is not pinned")
  else if presented.getD [] = [] then .error (.jumpError "node sshd host key was not presented")
  else if presented ≠ expected then .error (.jumpError "node sshd host key mismatch")
  else .ok (presented.getD [])

section Coordinator
variable {Op : Type} {Ans : Op → Type} (ask : (call : JumpCall) → Coro Op Ans Exc (JumpResult call))
  (audited : Bool)

def auditDenial (actor : Str) (agentId : Option Uuid) (nodeName : Option Str) (reason : String)
    (now : DateTime) (sessionId : Option Uuid) : Coro Op Ans Exc Unit :=
  if audited then
    ask (.writeAudit ⟨.NODE_AUTHORIZATION_DENIED, actor, agentId, sessionId, nodeName,
      [(lit "reason", .str (lit reason))], now⟩)
  else pure ()

/-- `start_jump` up to the session row. -/
def authorizedTarget (identity : ResolvedIdentity) (command : Str)
    (visibleNodes : List NodeInventoryEntry) (presentedNodeHostKey : Option Str) (now : DateTime) :
    Coro Op Ans Exc (Str × JumpTarget) := do
  match parseRestrictedShellCommand command (visibleNodes.map (·.nodeName)) with
  | .error (.authError message) =>
      auditDenial ask audited identity.username none none message now none
      throw (.jumpError "node command is not authorized")
  | .error raised => throw raised
  | .ok nodeName =>
      match ← ask (.getJumpTarget nodeName) with
      | none =>
          auditDenial ask audited identity.username none (some nodeName) "missing" now none
          throw (.jumpError "authorized node has no active tunnel")
      | some target =>
          let _ ← Coro.ofAnswer
            (validatePinnedHostKey (some target.nodeSshHostPublicKey) presentedNodeHostKey)
          if target.heartbeat.allowsNewJump now then pure (nodeName, target)
          else
            auditDenial ask audited identity.username (some target.agentId) (some nodeName)
              "stale tunnel" now none
            throw (.jumpError "agent tunnel is not fresh enough for new jumps")

/-- The `except ReplayError` clause. -/
def replayFault (identity : ResolvedIdentity) (target : JumpTarget) (nodeName : Str)
    (session : JumpSession) (now : DateTime) : Exc → Coro Op Ans Exc ReplayHandle
  | .replayError _ => do
      ask (.failSession session.sessionId now)
      auditDenial ask audited identity.username (some target.agentId) (some nodeName)
        "replay start failed" now (some session.sessionId)
      throw (.jumpError "replay capture is required")
  | raised => throw raised

def startRecording (identity : ResolvedIdentity) (target : JumpTarget) (nodeName : Str)
    (session : JumpSession) (width height : Int) (now : DateTime) : Coro Op Ans Exc ReplayHandle :=
  tryCatch (ask (.startReplay ⟨session.sessionId, nodeName, width, height, session.startedAt⟩))
    (replayFault ask audited identity target nodeName session now)

def issueCertificate (identity : ResolvedIdentity) (session : JumpSession) (replay : ReplayHandle)
    (now : DateTime) : Coro Op Ans Exc IssuedUserCertificate := do
  let certificate ← ask (.issue identity.username session.sessionId session.userCertSerial now)
  if certificate.username ≠ identity.username then
    ask (.failReplay replay (lit "certificate principal mismatch") now)
    ask (.failSession session.sessionId now)
    throw (.jumpError "user certificate principal mismatch")
  else pure certificate

/-- The `except JumpError` clause around the tunnel opener. -/
def openFault (identity : ResolvedIdentity) (target : JumpTarget) (nodeName : Str)
    (session : JumpSession) (replay : ReplayHandle) (now : DateTime) :
    Exc → Coro Op Ans Exc NodeConnection
  | .jumpError _ => do
      ask (.failReplay replay (lit "node SSH connection failed") now)
      ask (.failSession session.sessionId now)
      auditDenial ask audited identity.username (some target.agentId) (some nodeName)
        "node SSH connection failed" now (some session.sessionId)
      throw (.jumpError "node SSH connection failed")
  | raised => throw raised

def openNode (identity : ResolvedIdentity) (target : JumpTarget) (nodeName : Str)
    (session : JumpSession) (replay : ReplayHandle) (certificate : IssuedUserCertificate)
    (channelId : ChannelId) (now : DateTime) : Coro Op Ans Exc NodeConnection :=
  tryCatch (ask (.openSession ⟨target.agentId, channelId, nodeName, target.nodeSshHostPublicKey,
      identity.username, certificate⟩))
    (openFault ask audited identity target nodeName session replay now)

def auditStarted (identity : ResolvedIdentity) (target : JumpTarget) (nodeName : Str)
    (session : JumpSession) (now : DateTime) : Coro Op Ans Exc Unit :=
  if audited then
    ask (.writeAudit ⟨.SESSION_STARTED, identity.username, some target.agentId,
      some session.sessionId, some nodeName,
      [(lit "status", .str (lit SessionStatus.OPEN.value))], now⟩)
  else pure ()

/-- `start_jump` from the session row on. -/
def jumpSession (channelUuid : Uuid) (identity : ResolvedIdentity) (nodeName : Str)
    (target : JumpTarget) (session : JumpSession) (width height : Int) (now : DateTime) :
    Coro Op Ans Exc StartedJump := do
  let replay ← startRecording ask audited identity target nodeName session width height now
  let certificate ← issueCertificate ask identity session replay now
  let connection ← openNode ask audited identity target nodeName session replay certificate
    channelUuid.text now
  auditStarted ask audited identity target nodeName session now
  pure ⟨session, target, certificate, replay, channelUuid.text, connection⟩

/-- `start_jump`. -/
def startJump (sessionUuid channelUuid : Uuid) (identity : ResolvedIdentity) (command : Str)
    (visibleNodes : List NodeInventoryEntry) (presentedNodeHostKey : Option Str) (width height : Int)
    (now : DateTime) : Coro Op Ans Exc StartedJump := do
  let (nodeName, target) ← authorizedTarget ask audited identity command visibleNodes
    presentedNodeHostKey now
  let session ← ask (.createSession ⟨target.agentId, identity.username, nodeName,
    sessionUuid.text ++ lit ".cast", now⟩)
  jumpSession ask audited channelUuid identity nodeName target session width height now

/-- The `except (AuthError, JumpError)` clause of `start_exec`. -/
def denied : Exc → Coro Op Ans Exc StartedJump
  | .authError _ | .jumpError _ => throw (.sshServerError "restricted SSH request denied")
  | raised => throw raised

/-- `start_exec`. -/
def startExec (sessionUuid channelUuid : Uuid) (identity : Option ResolvedIdentity) (command : Str)
    (width height : Int) : Coro Op Ans Exc StartedJump :=
  match identity with
  | none => throw (.sshServerError "SSH connection is not authenticated")
  | some identity => tryCatch (do
      Coro.ofAnswer (validateSshRequestPolicy identity.username (some command) none false false false)
      let visibleNodes ← ask (.visibleNodes identity)
      let nodeName ← Coro.ofAnswer (singleRequestedNode command visibleNodes)
      let presentedHostKey ← ask (.presentedHostKey nodeName)
      let now ← ask .clock
      startJump ask audited sessionUuid channelUuid identity command visibleNodes presentedHostKey
        width height now) denied
end Coordinator

/-! What the checks let through. -/
theorem validateUsernamePrincipal_ok {value checked : Str}
    (ok : validateUsernamePrincipal value = .ok checked) :
    checked = value ∧ value ≠ [] := by
  unfold validateUsernamePrincipal at ok
  split at ok
  · cases ok
  · rename_i fine
    split at ok
    · cases ok
    · cases ok
      exact ⟨rfl, fun empty => fine (.inl empty)⟩

theorem mapM_validateNodeName {names allowed : List Str}
    (valid : allowed.mapM validateNodeName = .ok names) : names = allowed := by
  induction allowed generalizing names with
  | nil =>
      cases valid
      rfl
  | cons first rest ih =>
      rw [List.mapM_cons] at valid
      obtain ⟨head, one, valid⟩ := bind_ok.mp valid
      obtain ⟨tail, more, valid⟩ := bind_ok.mp valid
      cases valid
      unfold validateNodeName at one
      split at one
      · cases one
        rw [ih more]
      · cases one

theorem parseRestrictedShellCommand_ok {command nodeName : Str} {allowed : List Str}
    (parsed : parseRestrictedShellCommand command allowed = .ok nodeName) :
    nodeName = strip command ∧ nodeName ∈ allowed := by
  unfold parseRestrictedShellCommand at parsed
  dsimp only at parsed
  split at parsed
  · cases parsed
  obtain ⟨names, valid, parsed⟩ := bind_ok.mp parsed
  split at parsed
  · rename_i member
    cases parsed
    exact ⟨rfl, mapM_validateNodeName valid ▸ member⟩
  · cases parsed

theorem validatePinnedHostKey_ok {expected key : Str} {presented : Option Str}
    (pinned : validatePinnedHostKey (some expected) presented = .ok key) :
    expected ≠ [] ∧ presented = some expected := by
  unfold validatePinnedHostKey at pinned
  split at pinned
  · cases pinned
  rename_i named
  split at pinned
  · cases pinned
  split at pinned
  · cases pinned
  · rename_i equal
    exact ⟨named, not_not.mp equal⟩

end VibeConnect.JumpCoordinator
