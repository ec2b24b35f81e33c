import VibeConnect.JumpChecks
import VibeConnect.ServerStartup
import VibeConnect.SshServer

/-! From the key of a user to the SSH session on a node: the identity of the connection, the two
stores over the `agents` table, and the coordinator. The table and the authorized-keys file can
change between any two of their readings. -/
namespace VibeConnect.NodeAccess
open Python.Text Python.JsonCodec Python.Values Python.Coroutine Python.YamlValue Models
open TunnelState JumpCoordinator JumpChecks
open Enrollment (decodeAscii isLabel)
open Authorization (AgentRow LabelColumn ValidTable rowLabels visibleEntries visibleNodes sortedEntries
  sharedNames mem_sharedNames mem_sortedNames)
open AuthorizedKeys (VerbatimAlone loadAuthorizedKeyEntries groupsOf resolvePublicKey resolvePublicKey_ok
  aliceFile aliceKey)
open SshServer (KeyCheck Escapes afterChecks afterChecks_identity validate_accepted keyCheck)
open ServerStartup (PublicKeyAuthConfig)

abbrev Identity := Authorization.ResolvedIdentity

/-- A row of `agents`, with the columns that a jump reads. -/
structure AgentNode where
  agentId : Uuid
  nodeName : Str
  labels : LabelColumn
  nodeSshHostPublicKey : Str
  lastSeen : Option DateTime
  revoked : Bool

abbrev AgentTable := List AgentNode

def AgentNode.row (node : AgentNode) : AgentRow := ⟨node.nodeName, node.labels, node.revoked⟩

/-! The stores. -/
section Stores

/-- `WHERE node_name = $1 AND revoked = false`; the names are unique. -/
def selectNode (table : AgentTable) (nodeName : Str) : Option AgentNode :=
  table.find? fun node => node.nodeName == nodeName && !node.revoked

/-- `presented_host_key`. -/
def presentedHostKey (table : AgentTable) (nodeName : Str) : Except Exc (Option Str) := do
  let safeNodeName ← validateNodeName nodeName
  .ok ((selectNode table safeNodeName).map AgentNode.nodeSshHostPublicKey)

/-- `visible_nodes`, as far as a jump reads it. -/
def visibleNodeNames (str : Json → Str) (table : AgentTable) (identity : Identity) :
    Except Exc (List NodeInventoryEntry) := do
  let entries ← visibleNodes str (Authorization.unrevoked (table.map AgentNode.row)) identity
  .ok (entries.map fun entry => ⟨entry.nodeName⟩)

/-- The heartbeat of a row that has been seen, or not. -/
def heartbeatOf (heartbeat : HeartbeatState) (node : AgentNode) : HeartbeatState :=
  match node.lastSeen with
  | some lastSeen => heartbeat.markSeen lastSeen
  | none => heartbeat

/-- `get_jump_target`. -/
def getJumpTarget (heartbeatSeconds : Int) (table : AgentTable) (nodeName : Str) :
    Except Exc (Option JumpTarget) :=
  match selectNode table nodeName with
  | none => .ok none
  | some node => do
      let heartbeat ← HeartbeatState.new heartbeatSeconds
      .ok (some ⟨node.agentId, node.nodeName, node.nodeSshHostPublicKey, heartbeatOf heartbeat node⟩)

/-- `_build_identity_resolver`, with the authorized-keys file as it is read then. -/
def identityResolver (shown : Yaml → Str) (publicKeys : PublicKeyAuthConfig) (loaded : Loaded Exc)
    (username publicKey : Str) : Except Exc Identity :=
  if publicKeys.source ≠ lit "file" ∨ publicKeys.filePath = none then
    .error (.authError "SSH identity resolver is not configured")
  else resolvePublicKey shown loaded username publicKey
end Stores

/-! What the stores give. -/
section Given
variable {str : Json → Str} {table : AgentTable} {nodeName : Str}

/-- The table has the node, and it is not revoked. -/
def Holds (table : AgentTable) (nodeName : Str) (node : AgentNode) : Prop :=
  node ∈ table ∧ node.nodeName = nodeName ∧ node.revoked = false

theorem selectNode_some {node : AgentNode} (found : selectNode table nodeName = some node) :
    Holds table nodeName node := by
  have matched := List.find?_some found
  simp only [Bool.and_eq_true, beq_iff_eq, Bool.not_eq_true'] at matched
  exact ⟨List.mem_of_find?_eq_some found, matched.1, matched.2⟩

theorem presentedHostKey_some {key : Str} (given : presentedHostKey table nodeName = .ok (some key)) :
    ∃ node, Holds table nodeName node ∧ node.nodeSshHostPublicKey = key := by
  obtain ⟨safe, valid, read⟩ := bind_ok.mp given
  obtain ⟨-, rfl⟩ := validateNodeName_iff.mp valid
  obtain ⟨node, found, same⟩ := Option.map_eq_some_iff.mp (Except.ok.inj read)
  exact ⟨node, selectNode_some found, same⟩

theorem visibleEntries_sound {groups : Finset Str} {rows : List AgentRow}
    {entries : List Authorization.NodeInventoryEntry} (read : visibleEntries str groups rows = .ok entries) :
    ∀ entry ∈ entries, ∃ row ∈ rows, row.nodeName = entry.nodeName ∧
      rowLabels str row.labels = .ok entry.labels ∧ entry.labels ∩ groups ≠ ∅ := by
  induction rows generalizing entries with
  | nil =>
      cases read
      simp
  | cons row rest ih =>
      obtain ⟨labels, labelled, read⟩ := bind_ok.mp read
      split at read
      · rename_i shares
        obtain ⟨name, named, read⟩ := bind_ok.mp read
        obtain ⟨later, more, same⟩ := bind_ok.mp read
        cases same
        obtain ⟨-, rfl⟩ := validateNodeName_iff.mp named
        intro entry member
        rcases List.mem_cons.mp member with rfl | inside
        · exact ⟨row, List.mem_cons_self, rfl, labelled, shares⟩
        · obtain ⟨other, within, found⟩ := ih more entry inside
          exact ⟨other, List.mem_cons_of_mem row within, found⟩
      · intro entry member
        obtain ⟨other, within, found⟩ := ih read entry member
        exact ⟨other, List.mem_cons_of_mem row within, found⟩

/-- A name that is shown is that of a node with a label among the groups. -/
theorem visibleNodeNames_sound {identity : Identity} {nodes : List NodeInventoryEntry}
    (read : visibleNodeNames str table identity = .ok nodes) (member : nodeName ∈ nodes.map (·.nodeName)) :
    ∃ node, Holds table nodeName node ∧ ∃ labels, rowLabels str node.labels = .ok labels ∧
      labels ∩ identity.groups ≠ ∅ := by
  obtain ⟨sorted, visible, same⟩ := bind_ok.mp read
  cases same
  obtain ⟨entry, inside, rfl⟩ := List.mem_map.mp member
  obtain ⟨shown, inSorted, rfl⟩ := List.mem_map.mp inside
  unfold visibleNodes at visible
  split at visible
  · cases visible
    cases inSorted
  · obtain ⟨entries, listed, same⟩ := bind_ok.mp visible
    cases same
    have inEntries := (List.mem_insertionSort _).mp inSorted
    obtain ⟨row, within, named, labelled, shares⟩ := visibleEntries_sound listed shown inEntries
    obtain ⟨inTable, active⟩ := List.mem_filter.mp within
    obtain ⟨node, there, rfl⟩ := List.mem_map.mp inTable
    exact ⟨node, ⟨there, named, by simpa [AgentNode.row] using active⟩, _, labelled, shares⟩

theorem getJumpTarget_some {heartbeatSeconds : Int} {target : JumpTarget}
    (given : getJumpTarget heartbeatSeconds table nodeName = .ok (some target)) :
    ∃ node heartbeat, Holds table nodeName node ∧ HeartbeatState.new heartbeatSeconds = .ok heartbeat ∧
      target = ⟨node.agentId, node.nodeName, node.nodeSshHostPublicKey, heartbeatOf heartbeat node⟩ := by
  unfold getJumpTarget at given
  split at given
  · cases given
  · rename_i node found
    obtain ⟨heartbeat, made, same⟩ := bind_ok.mp given
    cases same
    exact ⟨node, heartbeat, selectNode_some found, made, rfl⟩

/-- The node was seen less than two heartbeats before. -/
def Fresh (heartbeatSeconds : Int) (node : AgentNode) (now : DateTime) : Prop :=
  ∃ lastSeen, node.lastSeen = some lastSeen ∧
    now.instant < lastSeen.instant + 2 * heartbeatSeconds * 1000000

theorem heartbeatOf_fresh {heartbeatSeconds : Int} {heartbeat : HeartbeatState} {node : AgentNode}
    {now : DateTime} (made : HeartbeatState.new heartbeatSeconds = .ok heartbeat) :
    (heartbeatOf heartbeat node).allowsNewJump now = true ↔ Fresh heartbeatSeconds node now := by
  unfold HeartbeatState.new at made
  split at made
  · cases made
    rw [HeartbeatState.allowsNewJump_iff, Fresh, heartbeatOf]
    cases node.lastSeen <;> simp [HeartbeatState.markSeen]
  · cases made
end Given

/-! The identity of the connection. -/

/-- A key check, with the authorized-keys file as it is read then. -/
structure Login where
  username : Str
  exported : Bytes
  loaded : Loaded Exc

section Identity
variable (shown : Yaml → Str) (publicKeys : PublicKeyAuthConfig)

def Login.check (login : Login) : KeyCheck :=
  ⟨login.username, login.exported, identityResolver shown publicKeys login.loaded⟩

/-- The file lists the key for the user, and for no other. -/
structure LoggedIn (login : Login) (identity : Identity) : Prop where
  configured : publicKeys.source = lit "file" ∧ publicKeys.filePath ≠ none
  listed : ∃ publicKey entries, decodeAscii login.exported = .ok publicKey ∧
    loadAuthorizedKeyEntries shown login.loaded = .ok entries ∧
    VerbatimAlone entries login.username (strip publicKey) ∧
    identity = ⟨login.username, strip publicKey, groupsOf entries login.username⟩

variable {shown publicKeys}

theorem resolved_loggedIn {login : Login} {identity : Identity}
    (resolved : (login.check shown publicKeys).resolved = .ok identity) :
    LoggedIn shown publicKeys login identity := by
  obtain ⟨publicKey, decoded, matched⟩ := bind_ok.mp resolved
  change identityResolver shown publicKeys login.loaded login.username (strip publicKey) = _ at matched
  unfold identityResolver at matched
  split at matched
  · cases matched
  rename_i configured
  cases accepted : loadAuthorizedKeyEntries shown login.loaded with
  | error fault =>
      rw [resolvePublicKey, accepted] at matched
      cases matched
  | ok entries =>
      obtain ⟨same, alone⟩ := (resolvePublicKey_ok accepted).mp matched
      exact ⟨⟨not_not.mp fun other => configured (.inl other), fun none => configured (.inr none)⟩,
        publicKey, entries, decoded, accepted, alone, same⟩

/-- The identity of a connection comes from the last of its checks that did not escape. -/
theorem identity_loggedIn {logins : List Login} {identity : Identity}
    (held : (afterChecks (logins.map (Login.check shown publicKeys))).identity = some identity) :
    ∃ before login later, logins = before ++ login :: later ∧ LoggedIn shown publicKeys login identity ∧
      ∀ next ∈ later, Escapes (next.check shown publicKeys) := by
  obtain ⟨front, check, back, split, resolved, escaped⟩ := afterChecks_identity held
  obtain ⟨before, rest, rfl, -, right⟩ := List.map_eq_append_iff.mp split
  obtain ⟨login, later, rfl, rfl, rfl⟩ := List.map_eq_cons_iff.mp right
  exact ⟨before, login, later, rfl, resolved_loggedIn resolved,
    fun next member => escaped _ (List.mem_map_of_mem member)⟩
end Identity

/-! A session over a table that changes. -/
section Session
variable (str : Json → Str) (heartbeatSeconds : Int) (identity : Option Identity)

/-- A call, with the table as it stands when its statement runs. -/
abbrev Seen := JumpEvent × AgentTable

/-- A statement gives what the store makes of its table, or raises. -/
def Answered (table : AgentTable) : (call : JumpCall) → Except Exc (JumpResult call) → Prop
  | .visibleNodes _, .ok nodes =>
      ∀ known, identity = some known → visibleNodeNames str table known = .ok nodes
  | .presentedHostKey nodeName, .ok key => presentedHostKey table nodeName = .ok key
  | .getJumpTarget nodeName, .ok target => getJumpTarget heartbeatSeconds table nodeName = .ok target
  | _, _ => True

/-- The table before a statement can be any: others change it. -/
def accessAnswers : Coro.Answers JumpCall JumpResult Exc (List Seen) :=
  fun op answer before after => ∃ table, Answered str heartbeatSeconds identity table op answer ∧
    after = before ++ [(⟨op, answer⟩, table)]

/-- `start_exec` on the connection. -/
def access (audited : Bool) (sessionUuid channelUuid : Uuid) (command : Str) (width height : Int) :
    Coro JumpCall JumpResult Exc StartedJump :=
  startExec Coro.await audited sessionUuid channelUuid (identity.map fun known => ⟨known.username⟩) command
    width height

/-- Every call of the past was answered from its table. -/
def Faithful (past : List Seen) : Prop :=
  ∀ seen ∈ past, Answered str heartbeatSeconds identity seen.2 seen.1.op seen.1.answer

variable {str heartbeatSeconds identity} {α : Type}

theorem steps_faithful {program rest : Coro JumpCall JumpResult Exc α} {before after : List Seen}
    (steps : Coro.Steps (accessAnswers str heartbeatSeconds identity) program before rest after)
    (faithful : Faithful str heartbeatSeconds identity before) :
    Faithful str heartbeatSeconds identity after := by
  induction steps with
  | refl => exact faithful
  | call answered _ ih =>
      obtain ⟨table, given, rfl⟩ := answered
      apply ih
      intro seen member
      rcases List.mem_append.mp member with old | new
      · exact faithful seen old
      · cases List.mem_singleton.mp new
        exact given

/-- Without the tables, it is a run against any answers. -/
theorem steps_anyAnswers {program rest : Coro JumpCall JumpResult Exc α} {before after : List Seen}
    (steps : Coro.Steps (accessAnswers str heartbeatSeconds identity) program before rest after) :
    Coro.Steps anyAnswers program (before.map Prod.fst) rest (after.map Prod.fst) := by
  apply Coro.steps_map _ steps
  rintro op answer before _ ⟨table, -, rfl⟩
  exact List.map_append

/-- What is true of a session that is opened: a label in the table that was read first, the host key in
the next, and the same key on a fresh row in the last. -/
structure Admitted (str : Json → Str) (heartbeatSeconds : Int) (known : Identity) (command : Str)
    (visible keyed found : AgentTable) (now : DateTime) (request : OpenRequest) : Prop where
  user : request.username = known.username
  principal : request.userCertificate.username = known.username
  command : request.nodeName = strip command
  shares : ∃ node, Holds visible request.nodeName node ∧ ∃ labels, rowLabels str node.labels = .ok labels ∧
    labels ∩ known.groups ≠ ∅
  presented : ∃ node, Holds keyed request.nodeName node ∧
    node.nodeSshHostPublicKey = request.nodeSshHostPublicKey
  target : ∃ node, Holds found request.nodeName node ∧ node.agentId = request.agentId ∧
    node.nodeSshHostPublicKey = request.nodeSshHostPublicKey ∧ request.nodeSshHostPublicKey ≠ [] ∧
    Fresh heartbeatSeconds node now

theorem admitted_of_checked {arguments : JumpArguments} {before history : List JumpEvent}
    {request : OpenRequest} {target : JumpTarget} {session : JumpSession} {replay : ReplayHandle}
    {known : Identity} {visible keyed found : AgentTable}
    (checked : Checked arguments before history request target session replay)
    (user : arguments.identity.username = known.username)
    (listed : visibleNodeNames str visible known = .ok arguments.visibleNodes)
    (shownKey : presentedHostKey keyed (strip arguments.command) = .ok arguments.presentedNodeHostKey)
    (given : getJumpTarget heartbeatSeconds found request.nodeName = .ok (some target)) :
    Admitted str heartbeatSeconds known arguments.command visible keyed found arguments.now request := by
  obtain ⟨node, heartbeat, holds, made, rfl⟩ := getJumpTarget_some given
  have sameKey : request.nodeSshHostPublicKey = node.nodeSshHostPublicKey := checked.hostKey
  constructor
  · exact checked.username.trans user
  · exact checked.principal.trans user
  · exact checked.node
  · exact visibleNodeNames_sound listed checked.visible
  · rw [checked.presented] at shownKey
    obtain ⟨other, held, same⟩ := presentedHostKey_some shownKey
    rw [← checked.node] at held
    exact ⟨other, held, same.trans sameKey.symm⟩
  · refine ⟨node, holds, checked.agent.symm, sameKey.symm, ?_, ?_⟩
    · rw [sameKey]
      exact checked.pinned
    · exact (heartbeatOf_fresh made).mp ((HeartbeatState.allowsNewJump_iff _ _).mpr checked.fresh)
end Session

/-! Against a table that does not change, when all else works. -/
section Still
variable (str : Json → Str) (heartbeatSeconds : Int) (known : Identity) (table : AgentTable) (now : DateTime)
  (session : JumpSession) (replay : ReplayHandle) (connection : NodeConnection)

def still : Coro.Behaviour JumpCall JumpResult Exc
  | .visibleNodes _ => visibleNodeNames str table known
  | .presentedHostKey nodeName => presentedHostKey table nodeName
  | .clock => .ok now
  | .getJumpTarget nodeName => getJumpTarget heartbeatSeconds table nodeName
  | .createSession _ => .ok session
  | .startReplay _ => .ok replay
  | .issue username .. => .ok ⟨username⟩
  | .openSession _ => .ok connection
  | .failSession .. | .failReplay .. | .writeAudit _ => .ok ()

/-- The tables stand still too. -/
def stillServer : Coro.Server JumpCall JumpResult Exc (List Seen) := fun op past =>
  (still str heartbeatSeconds known table now session replay connection op,
    past ++ [(⟨op, still str heartbeatSeconds known table now session replay connection op⟩, table)])

variable {str heartbeatSeconds known table now session replay connection} in
theorem stillServer_serves (op : JumpCall) (past : List Seen) :
    accessAnswers str heartbeatSeconds (some known) op
      (stillServer str heartbeatSeconds known table now session replay connection op past).1 past
      (stillServer str heartbeatSeconds known table now session replay connection op past).2 := by
  refine ⟨table, ?_, rfl⟩
  cases op <;> dsimp only [stillServer, still]
  case visibleNodes identity =>
    cases read : visibleNodeNames str table known with
    | error raised => trivial
    | ok nodes =>
        rintro other ⟨⟩
        exact read
  case presentedHostKey nodeName => cases read : presentedHostKey table nodeName <;> trivial
  case getJumpTarget nodeName => cases read : getJumpTarget heartbeatSeconds table nodeName <;> trivial
  all_goals trivial

/-- Who may go to which node. -/
structure Granted (labelsOf : AgentRow → List Str) (command : Str) (node : AgentNode) : Prop where
  user : validateUsernamePrincipal known.username = .ok known.username
  shell : command ≠ lit "scp" ∧ command ≠ lit "sftp"
  named : node.nodeName = strip command
  active : node.revoked = false
  shares : ∃ label ∈ labelsOf node.row, label ∈ known.groups
  pinned : node.nodeSshHostPublicKey ≠ []
  fresh : Fresh heartbeatSeconds node now
end Still

/-! A table of one node, and a user who may go there. -/
def nodeOne : AgentNode where
  agentId := ⟨1⟩
  nodeName := lit "node-01"
  labels := .sequence [.str (lit "env:prod")]
  nodeSshHostPublicKey := lit "key"
  lastSeen := some ⟨0, some 0⟩
  revoked := false

def keyUser : Identity := ⟨lit "alice", aliceKey, {lit "env:prod"}⟩

def aliceLogin : Login := ⟨lit "alice", (keyCheck (lit "alice")).exported, aliceFile aliceKey⟩

def fileKeys : PublicKeyAuthConfig := ⟨lit "file", some (lit "authorized_keys.yml"), []⟩

theorem aliceLogin_identity :
    (afterChecks [aliceLogin.check (fun _ => []) fileKeys]).identity = some keyUser := by
  have accepted : (aliceLogin.check (fun _ => []) fileKeys).resolved = .ok keyUser := by decide +kernel
  rw [afterChecks, List.foldl_cons, validate_accepted accepted]
  rfl

def accessOne (identity : Option Identity) : Coro JumpCall JumpResult Exc StartedJump :=
  access identity true ⟨3⟩ ⟨4⟩ (lit " node-01 ") 80 24

def sessionTwo : JumpSession := ⟨⟨2⟩, 7, lit "two.cast", ⟨0, some 0⟩⟩

def oneServer : Coro.Server JumpCall JumpResult Exc (List Seen) :=
  stillServer (fun _ => []) 30 keyUser [nodeOne] ⟨1000000, some 0⟩ sessionTwo ⟨0⟩ ⟨0⟩

section Exact
variable {str : Json → Str} {heartbeatSeconds : Int} {known : Identity} {table : AgentTable} {now : DateTime}
  {session : JumpSession} {replay : ReplayHandle} {connection : NodeConnection}
  {behaviour : Coro.Behaviour JumpCall JumpResult Exc}

theorem denial_yields {β : Type} {audited : Bool} {actor : Str} {agentId sessionId : Option Uuid}
    {node : Option Str} {reason : String} {raised : Exc} {value : β} :
    ¬Coro.Yields behaviour (do
      auditDenial Coro.await audited actor agentId node reason now sessionId
      throw raised) value := by
  rw [Coro.yields_bind]
  rintro ⟨_, -, thrown⟩
  exact Coro.yields_raise _ _ thrown

theorem authorizedTarget_yields {audited : Bool} {user : ResolvedIdentity} {command nodeName : Str}
    {visible : List NodeInventoryEntry} {presented : Option Str} {target : JumpTarget} :
    Coro.Yields behaviour (authorizedTarget Coro.await audited user command visible presented now)
        (nodeName, target) ↔
      parseRestrictedShellCommand command (visible.map (·.nodeName)) = .ok nodeName ∧
        behaviour (.getJumpTarget nodeName) = .ok (some target) ∧
        (∃ key, validatePinnedHostKey (some target.nodeSshHostPublicKey) presented = .ok key) ∧
        target.heartbeat.allowsNewJump now = true := by
  unfold authorizedTarget
  cases parsed : parseRestrictedShellCommand command (visible.map (·.nodeName)) with
  | error raised =>
      refine iff_of_false ?_ (by simp)
      cases raised <;> first | exact denial_yields | exact Coro.yields_raise _ _
  | ok name =>
      dsimp only
      rw [Coro.yields_bind]
      constructor
      · rintro ⟨found, asked, rest⟩
        rw [Coro.yields_await] at asked
        cases found with
        | none => exact absurd rest denial_yields
        | some other =>
            rw [Coro.yields_bind] at rest
            obtain ⟨key, pinned, rest⟩ := rest
            rw [Coro.yields_ofAnswer] at pinned
            split at rest
            · rename_i fresh
              cases (Coro.yields_done _ _).mp rest
              exact ⟨rfl, asked, ⟨key, pinned⟩, fresh⟩
            · exact absurd rest denial_yields
      · rintro ⟨same, asked, ⟨key, pinned⟩, fresh⟩
        cases same
        refine ⟨some target, (Coro.yields_await _ _).mpr asked, ?_⟩
        dsimp only
        rw [Coro.yields_bind]
        refine ⟨key, (Coro.yields_ofAnswer _ _).mpr pinned, ?_⟩
        rw [if_pos fresh]
        exact (Coro.yields_done _ _).mpr rfl

/-- From the session row on, nothing refuses. -/
theorem jumpSession_yields {audited : Bool} {channelUuid : Uuid} {user : ResolvedIdentity} {nodeName : Str}
    {target : JumpTarget} {width height : Int} {started : StartedJump} :
    Coro.Yields (still str heartbeatSeconds known table now session replay connection)
      (jumpSession Coro.await audited channelUuid user nodeName target session width height now) started ↔
      started = ⟨session, target, ⟨user.username⟩, replay, channelUuid.text, connection⟩ := by
  apply Coro.yields_iff
  unfold jumpSession
  simp only [Coro.yields_bind]
  refine ⟨replay, rfl, ⟨user.username⟩, ?_, connection, rfl, (), ?_, rfl⟩
  · unfold issueCertificate
    rw [Coro.yields_bind]
    refine ⟨⟨user.username⟩, rfl, ?_⟩
    rw [if_neg (not_not.mpr rfl)]
    exact (Coro.yields_done _ _).mpr rfl
  · cases audited <;> rfl

theorem denied_refuses (raised : Exc) (started : StartedJump) :
    ¬Coro.Yields behaviour (denied raised) started := by
  cases raised <;> exact Coro.yields_raise _ _

/-! The two readings of the command. -/
theorem validated_all {names : List Str} (named : ∀ name ∈ names, isNodeName name = true) :
    names.mapM validateNodeName = .ok names := by
  induction names with
  | nil => rfl
  | cons first rest ih =>
      have valid : validateNodeName first = .ok first := if_pos (named first List.mem_cons_self)
      rw [List.mapM_cons, valid, ih fun name later => named name (List.mem_cons_of_mem first later)]
      rfl

theorem parseRestrictedShellCommand_iff {command nodeName : Str} {names : List Str}
    (named : ∀ name ∈ names, isNodeName name = true) :
    parseRestrictedShellCommand command names = .ok nodeName ↔
      nodeName = strip command ∧ nodeName ∈ names := by
  constructor
  · exact parseRestrictedShellCommand_ok
  · rintro ⟨rfl, member⟩
    have filled : strip command ≠ [] := by
      intro empty
      have impossible := named _ member
      rw [empty] at impossible
      cases impossible
    unfold parseRestrictedShellCommand
    rw [if_neg fun blank => filled blank.2, validated_all named]
    exact if_pos member

theorem singleRequestedNode_iff {command nodeName : Str} {nodes : List NodeInventoryEntry} :
    singleRequestedNode command nodes = .ok nodeName ↔
      nodeName = strip command ∧ nodeName ∈ nodes.map (·.nodeName) := by
  unfold singleRequestedNode
  dsimp only
  split
  · rename_i member
    constructor
    · rintro ⟨⟩
      exact ⟨rfl, member⟩
    · rintro ⟨rfl, -⟩
      rfl
  · rename_i missing
    refine iff_of_false (fun impossible => by cases impossible) ?_
    rintro ⟨rfl, member⟩
    exact missing member

theorem validateSshRequestPolicy_iff {username command : Str} :
    validateSshRequestPolicy username (some command) none false false false = .ok () ↔
      validateUsernamePrincipal username = .ok username ∧ command ≠ lit "scp" ∧ command ≠ lit "sftp" := by
  unfold validateSshRequestPolicy
  cases checked : validateUsernamePrincipal username with
  | error raised => cases raised <;> simp
  | ok safe =>
      obtain ⟨rfl, -⟩ := validateUsernamePrincipal_ok checked
      simp [not_or]

theorem validatePinnedHostKey_same {key : Str} (pinned : key ≠ []) :
    validatePinnedHostKey (some key) (some key) = .ok key := by
  simp [validatePinnedHostKey, pinned]

/-! On a valid table. -/
variable {labelsOf : AgentRow → List Str}

theorem selectNode_iff (valid : ValidTable (table.map AgentNode.row) labelsOf) {nodeName : Str}
    {node : AgentNode} : selectNode table nodeName = some node ↔ Holds table nodeName node := by
  refine ⟨selectNode_some, ?_⟩
  rintro ⟨member, rfl, active⟩
  have distinct := valid.distinct
  rw [List.map_map] at distinct
  cases found : selectNode table node.nodeName with
  | none =>
      have refused := List.find?_eq_none.mp found node member
      simp [active] at refused
  | some other =>
      obtain ⟨inside, same, -⟩ := selectNode_some found
      exact congrArg some (List.inj_on_of_nodup_map distinct inside member same)

theorem visibleNodeNames_valid (valid : ValidTable (table.map AgentNode.row) labelsOf) :
    ∃ nodes, visibleNodeNames str table known = .ok nodes ∧ ∀ name, name ∈ nodes.map (·.nodeName) ↔
      ∃ node, Holds table name node ∧ ∃ label ∈ labelsOf node.row, label ∈ known.groups := by
  have inside : ∀ row ∈ Authorization.unrevoked (table.map AgentNode.row), row ∈ table.map AgentNode.row :=
    fun row member => (List.mem_filter.mp member).1
  obtain ⟨entries, read, names⟩ := @Authorization.visibleNodes_valid str _ known
    (Authorization.unrevoked (table.map AgentNode.row))
    (fun row member => valid.named row (inside row member))
    (fun row member => valid.held row (inside row member))
    (fun row member => valid.labelled row (inside row member))
  refine ⟨entries.map fun entry => ⟨entry.nodeName⟩, by rw [visibleNodeNames, read]; rfl, fun name => ?_⟩
  have sameNames : (entries.map fun entry => (⟨entry.nodeName⟩ : NodeInventoryEntry)).map (·.nodeName) =
      entries.map Authorization.NodeInventoryEntry.nodeName := by simp
  rw [sameNames, names, mem_sortedNames, mem_sharedNames]
  constructor
  · rintro ⟨row, kept, rfl, shares⟩
    obtain ⟨member, active⟩ := List.mem_filter.mp kept
    obtain ⟨node, within, rfl⟩ := List.mem_map.mp member
    exact ⟨node, ⟨within, rfl, by simpa [AgentNode.row] using active⟩, shares⟩
  · rintro ⟨node, ⟨within, same, active⟩, shares⟩
    refine ⟨node.row, List.mem_filter.mpr ⟨List.mem_map_of_mem within, ?_⟩, same, shares⟩
    simpa [AgentNode.row] using active

theorem presentedHostKey_valid (valid : ValidTable (table.map AgentNode.row) labelsOf) {node : AgentNode}
    (holds : Holds table node.nodeName node) :
    presentedHostKey table node.nodeName = .ok (some node.nodeSshHostPublicKey) := by
  have named : isNodeName node.nodeName = true := valid.named node.row (List.mem_map_of_mem holds.1)
  have checked : validateNodeName node.nodeName = .ok node.nodeName := if_pos named
  rw [presentedHostKey, checked]
  exact congrArg (fun found => Except.ok (found.map AgentNode.nodeSshHostPublicKey))
    ((selectNode_iff valid).mpr holds)

theorem getJumpTarget_valid (valid : ValidTable (table.map AgentNode.row) labelsOf) {node : AgentNode}
    {heartbeat : HeartbeatState} (made : HeartbeatState.new heartbeatSeconds = .ok heartbeat)
    (holds : Holds table node.nodeName node) :
    getJumpTarget heartbeatSeconds table node.nodeName =
      .ok (some ⟨node.agentId, node.nodeName, node.nodeSshHostPublicKey, heartbeatOf heartbeat node⟩) := by
  unfold getJumpTarget
  rw [(selectNode_iff valid).mpr holds]
  dsimp only
  rw [made]
  rfl

/-- What a granted request gets. -/
def startedOn (known : Identity) (session : JumpSession) (replay : ReplayHandle) (connection : NodeConnection)
    (channelUuid : Uuid) (heartbeat : HeartbeatState) (node : AgentNode) : StartedJump :=
  ⟨session, ⟨node.agentId, node.nodeName, node.nodeSshHostPublicKey, heartbeatOf heartbeat node⟩,
    ⟨known.username⟩, replay, channelUuid.text, connection⟩

theorem access_yields {audited : Bool} {sessionUuid channelUuid : Uuid} {command : Str} {width height : Int}
    {started : StartedJump} :
    Coro.Yields (still str heartbeatSeconds known table now session replay connection)
      (access (some known) audited sessionUuid channelUuid command width height) started ↔
      (validateUsernamePrincipal known.username = .ok known.username ∧
        command ≠ lit "scp" ∧ command ≠ lit "sftp") ∧
      ∃ nodes, visibleNodeNames str table known = .ok nodes ∧
      ∃ nodeName, (nodeName = strip command ∧ nodeName ∈ nodes.map (·.nodeName)) ∧
      ∃ key, presentedHostKey table nodeName = .ok key ∧
      ∃ target, (parseRestrictedShellCommand command (nodes.map (·.nodeName)) = .ok nodeName ∧
        getJumpTarget heartbeatSeconds table nodeName = .ok (some target) ∧
        (∃ pinned, validatePinnedHostKey (some target.nodeSshHostPublicKey) key = .ok pinned) ∧
        target.heartbeat.allowsNewJump now = true) ∧
      started = ⟨session, target, ⟨known.username⟩, replay, channelUuid.text, connection⟩ := by
  unfold access startExec
  rw [Option.map_some]
  dsimp only
  rw [Coro.yields_handle _ fun raised => denied_refuses raised started]
  simp only [Coro.yields_bind, Coro.yields_ofAnswer, Coro.yields_await, startJump, Prod.exists,
    authorizedTarget_yields, singleRequestedNode_iff]
  constructor
  · rintro ⟨_, policy, nodes, listed, nodeName, ⟨rfl, member⟩, key, shownKey, clock, read, other, target,
      checked, made, created, opened⟩
    obtain ⟨rfl, -⟩ := parseRestrictedShellCommand_ok checked.1
    cases read
    cases created
    exact ⟨validateSshRequestPolicy_iff.mp policy, nodes, listed, _, ⟨rfl, member⟩, key, shownKey, target,
      checked, jumpSession_yields.mp opened⟩
  · rintro ⟨policy, nodes, listed, nodeName, single, key, shownKey, target, checked, same⟩
    exact ⟨(), validateSshRequestPolicy_iff.mpr policy, nodes, listed, nodeName, single, key, shownKey, now,
      rfl, nodeName, target, checked, session, rfl, jumpSession_yields.mpr same⟩
end Exact

/-- While the table stands still, and all that is called after the checks works, the user gets a session on
exactly the nodes that are granted. -/
theorem node_access_exact (str : Json → Str) (labelsOf : AgentRow → List Str) (heartbeatSeconds : Int)
    (known : Identity) (table : AgentTable) (now : DateTime) (session : JumpSession) (replay : ReplayHandle)
    (connection : NodeConnection) (audited : Bool) (sessionUuid channelUuid : Uuid) (command : Str)
    (width height : Int) (started : StartedJump) (heartbeat : HeartbeatState)
    (valid : ValidTable (table.map AgentNode.row) labelsOf)
    (made : HeartbeatState.new heartbeatSeconds = .ok heartbeat) :
    Coro.Yields (still str heartbeatSeconds known table now session replay connection)
      (access (some known) audited sessionUuid channelUuid command width height) started ↔
    ∃ node ∈ table, Granted heartbeatSeconds known now labelsOf command node ∧
      started = startedOn known session replay connection channelUuid heartbeat node := by
  rw [access_yields]
  obtain ⟨nodes, read, visible⟩ := @visibleNodeNames_valid str known table labelsOf valid
  constructor
  · rintro ⟨⟨user, shell⟩, others, listed, nodeName, ⟨named, member⟩, key, shownKey, target,
      ⟨-, given, ⟨pinned, checked⟩, fresh⟩, same⟩
    cases read.symm.trans listed
    obtain ⟨node, holds, shares⟩ := (visible nodeName).mp member
    obtain ⟨-, rfl, active⟩ := id holds
    rw [getJumpTarget_valid valid made holds] at given
    cases given
    refine ⟨node, holds.1, ⟨user, shell, named, active, shares, ?_, ?_⟩, same⟩
    · exact (validatePinnedHostKey_ok checked).1
    · exact (heartbeatOf_fresh made).mp fresh
  · rintro ⟨node, member, granted, same⟩
    have holds : Holds table node.nodeName node := ⟨member, rfl, granted.active⟩
    have shown := (visible node.nodeName).mpr ⟨node, holds, granted.shares⟩
    have named : ∀ name ∈ nodes.map (·.nodeName), isNodeName name = true := by
      intro name inside
      obtain ⟨other, ⟨within, rfl, -⟩, -⟩ := (visible name).mp inside
      exact valid.named other.row (List.mem_map_of_mem within)
    refine ⟨⟨granted.user, granted.shell⟩, nodes, read, node.nodeName, ⟨granted.named, shown⟩, _,
      presentedHostKey_valid valid holds, _, ⟨?_, getJumpTarget_valid valid made holds, ?_, ?_⟩, same⟩
    · exact (parseRestrictedShellCommand_iff named).mpr ⟨granted.named, shown⟩
    · exact ⟨_, validatePinnedHostKey_same granted.pinned⟩
    · exact (heartbeatOf_fresh made).mpr granted.fresh

theorem nodeOne_valid : ValidTable [nodeOne.row] (fun _ => [lit "env:prod"]) where
  named := by
    intro row member
    rw [List.mem_singleton.mp member]
    decide +kernel
  distinct := by simp
  held := by
    intro row member
    rw [List.mem_singleton.mp member]
    exact .inl rfl
  labelled := by
    intro row _ label member
    rw [List.mem_singleton.mp member]
    decide +kernel

theorem node_access_exact_alice :
    Coro.Yields (still (fun _ => []) 30 keyUser [nodeOne] ⟨1000000, some 0⟩ sessionTwo ⟨0⟩ ⟨0⟩)
      (accessOne (some keyUser))
      (startedOn keyUser sessionTwo ⟨0⟩ ⟨0⟩ ⟨4⟩ ⟨30, none, by decide⟩ nodeOne) := by
  apply (node_access_exact (fun _ => []) (fun _ => [lit "env:prod"]) 30 keyUser [nodeOne]
    ⟨1000000, some 0⟩ _ _ _ true ⟨3⟩ ⟨4⟩ (lit " node-01 ") 80 24 _ ⟨30, none, by decide⟩ nodeOne_valid
    rfl).mpr
  refine ⟨nodeOne, List.mem_singleton_self _, ⟨?_, ?_, ?_, rfl, ?_, ?_, ⟨0, some 0⟩, rfl, ?_⟩, rfl⟩
  · decide +kernel
  · decide +kernel
  · decide +kernel
  · exact ⟨_, List.mem_singleton_self _, Finset.mem_singleton_self _⟩
  · decide +kernel
  · decide

end VibeConnect.NodeAccess
