import VibeConnect.AdminService

/-! Which administrative changes are made without their audit event. Every
command changes the tables first and audits then, so a change stays whenever the
writer does not take the event: it refuses an empty actor and long metadata, and
its insert can fail. -/
namespace VibeConnect.AdminAudit
open Python.Text Python.JsonCodec Python.Values Python.Coroutine Models JumpCoordinator Enrollment
open AuditWriter AdminService

structure AdminWorld where
  tables : AdminTables
  events : List AuditRow

/-- What a connection refuses; a refused statement has no effect. -/
structure AdminConnection where
  statement : AdminStatement → Option Exc
  audit : AuditRow → Option Exc

def serveAdmin (connection : AdminConnection) : Coro.Server AdminCall AdminAns Exc AdminWorld
  | .execute statement, world => match connection.statement statement with
      | some raised => (.error raised, world)
      | none => match statement.run world.tables with
          | .error raised => (.error raised, world)
          | .ok (result, tables) => (.ok result, { world with tables := tables })
  | .insertAudit row, world => match connection.audit row with
      | some raised => (.error raised, world)
      | none => (.ok (), { world with events := world.events ++ [row] })

section Runs
variable {connection : AdminConnection} {config : AdminConfig} {world : AdminWorld} {α β : Type}

abbrev run (connection : AdminConnection) (program : AdminTask α) (world : AdminWorld) :
    Except Exc α × AdminWorld := program.run (serveAdmin connection) world

/-- A call that raises leaves the tables as they were, and one that returns has
inserted one event of its type. -/
def AuditedOrNotMade (connection : AdminConnection) (eventType : AuditEventType)
    (program : AdminTask α) (world : AdminWorld) : Prop :=
  (∀ raised after, run connection program world = (.error raised, after) →
    after.tables = world.tables) ∧
  ∀ value after, run connection program world = (.ok value, after) →
    ∃ row, after.events = world.events ++ [row] ∧ row.eventType = eventType

/-- The writer takes the event, and the connection its row. -/
def Taken (connection : AdminConnection) (lower : Str → Str) (request : AuditRequest)
    (metadata : MetadataValue) : Prop :=
  ∃ row, auditRow lower request metadata = .ok row ∧ connection.audit row = none

theorem auditRow_scrub (lower : Str → Str) (request : AuditRequest) (metadata : MetadataValue) :
    auditRow lower request (scrubSecretMetadata lower metadata) = auditRow lower request metadata := by
  unfold auditRow sanitizeMetadata
  rw [scrub_twice]

theorem auditRow_type {lower : Str → Str} {request : AuditRequest} {metadata : MetadataValue}
    {row : AuditRow} (made : auditRow lower request metadata = .ok row) :
    row.eventType = request.eventType := by
  unfold auditRow at made
  split at made
  · cases made
  obtain ⟨sanitized, -, made⟩ := bind_ok.mp made
  obtain ⟨text, -, made⟩ := bind_ok.mp made
  cases made
  rfl

/-- The audit of a mapping either inserts one row or raises and changes nothing. -/
theorem audit_run (audited : config.audited = true) (request : AuditRequest)
    (fields : List (String × MetadataValue)) :
    (Taken connection config.lower request (named fields) ∧ ∃ row, row.eventType = request.eventType ∧
      run connection (audit config request (named fields)) world =
        (.ok (), { world with events := world.events ++ [row] })) ∨
    (¬Taken connection config.lower request (named fields) ∧ ∃ raised,
      run connection (audit config request (named fields)) world = (.error raised, world)) := by
  obtain ⟨scrubbed, mapping⟩ : ∃ scrubbed,
      scrubSecretMetadata config.lower (named fields) = .mapping scrubbed := by
    rw [named, scrubSecretMetadata]
    exact ⟨_, rfl⟩
  have again := auditRow_scrub config.lower request (named fields)
  rw [mapping] at again
  unfold audit run
  rw [audited, mapping]
  change _ ∧ (∃ row : AuditRow, _ ∧ Coro.run _ (Coro.ofAnswer (auditRow _ _ _) >>= _) _ = _) ∨
    _ ∧ ∃ raised, Coro.run _ (Coro.ofAnswer (auditRow _ _ _) >>= _) _ = _
  rw [again, Coro.run_bind, Coro.run_ofAnswer]
  cases made : auditRow config.lower request (named fields) with
  | error raised =>
      refine .inr ⟨?_, raised, rfl⟩
      rintro ⟨row, impossible, -⟩
      rw [made] at impossible
      cases impossible
  | ok row =>
      dsimp only
      rw [Coro.run_await, serveAdmin]
      cases refused : connection.audit row with
      | some raised =>
          refine .inr ⟨?_, raised, rfl⟩
          rintro ⟨other, same, accepted⟩
          cases made.symm.trans same
          rw [refused] at accepted
          cases accepted
      | none => exact .inl ⟨⟨row, made, refused⟩, row, auditRow_type made, rfl⟩

/-- A store, then the audit of what it returned: what the store did stays when
the store or the audit fails. -/
theorem store_audited (audited : config.audited = true) {store : AdminTask β}
    {request : β → AuditRequest} {fields : β → List (String × MetadataValue)} {value : β → α}
    {eventType : AuditEventType} (typed : ∀ result, (request result).eventType = eventType)
    {answer : Except Exc β} {after : AdminWorld} (stored : run connection store world = (answer, after))
    (events : after.events = world.events) :
    AuditedOrNotMade connection eventType (do
        let result ← store
        audit config (request result) (named (fields result))
        pure (value result)) world ↔
      (∃ result, answer = .ok result ∧
        Taken connection config.lower (request result) (named (fields result))) ∨
        after.tables = world.tables := by
  unfold AuditedOrNotMade run
  rw [Coro.run_bind, show Coro.run _ store world = _ from stored]
  cases answer with
  | error raised =>
      constructor
      · rintro ⟨unchanged, -⟩
        exact .inr (unchanged raised after rfl)
      · rintro (⟨result, impossible, -⟩ | unchanged)
        · cases impossible
        · refine ⟨?_, fun value last impossible => by cases impossible⟩
          rintro _ _ ⟨⟩
          exact unchanged
  | ok result =>
      dsimp only
      rw [Coro.run_bind]
      rcases @audit_run connection config after audited (request result) (fields result) with
        ⟨taken, row, rowType, ran⟩ | ⟨untaken, raised, ran⟩
      · rw [show Coro.run _ (audit _ _ _) after = _ from ran]
        apply iff_of_true
        · constructor
          · intro raised last impossible
            cases impossible
          · rintro _ _ ⟨⟩
            exact ⟨row, by rw [events], rowType.trans (typed result)⟩
        · exact .inl ⟨result, rfl, taken⟩
      · rw [show Coro.run _ (audit _ _ _) after = _ from ran]
        constructor
        · rintro ⟨unchanged, -⟩
          exact .inr (unchanged raised after rfl)
        · rintro (⟨other, same, taken⟩ | unchanged)
          · cases same
            exact (untaken taken).elim
          · refine ⟨?_, fun value last impossible => by cases impossible⟩
            rintro _ _ ⟨⟩
            exact unchanged

/-- What only reads changes nothing. -/
theorem reads_audited {reads : AdminTask β} {answer : Except Exc β} {next : β → AdminTask α}
    {eventType : AuditEventType} (read : run connection reads world = (answer, world)) :
    AuditedOrNotMade connection eventType (reads >>= next) world ↔
      ∀ value, answer = .ok value → AuditedOrNotMade connection eventType (next value) world := by
  unfold AuditedOrNotMade run
  rw [Coro.run_bind, show Coro.run _ reads world = _ from read]
  cases answer with
  | error raised =>
      apply iff_of_true
      · constructor
        · rintro _ _ ⟨⟩
          rfl
        · intro value after impossible
          cases impossible
      · intro value impossible
        cases impossible
  | ok value =>
      constructor
      · rintro holds _ ⟨⟩
        exact holds
      · intro holds
        exact holds value rfl

/-- Checks before the store change nothing. -/
theorem checks_audited {checks : Except Exc β} {next : β → AdminTask α} {eventType : AuditEventType} :
    AuditedOrNotMade connection eventType (Coro.ofAnswer checks >>= next) world ↔
      ∀ value, checks = .ok value → AuditedOrNotMade connection eventType (next value) world :=
  reads_audited (Coro.run_ofAnswer _ _ _)

/-- One statement. -/
theorem execute_run (statement : AdminStatement) : run connection (execute statement) world =
    match connection.statement statement with
    | some raised => (.error raised, world)
    | none => match statement.run world.tables with
        | .error raised => (.error raised, world)
        | .ok (result, tables) => (.ok result, { world with tables := tables }) :=
  Coro.run_await _ _ _
end Runs

/-! What the statements change. -/
section Changes
variable {tables : AdminTables} {nodeName : Str}

theorem setAgents_same {change : StoredAgent → StoredAgent} :
    tables.setAgents nodeName change = tables ↔
      ∀ agent ∈ tables.agents, tables.unrevoked nodeName agent = true → change agent = agent := by
  have agents : tables.setAgents nodeName change = tables ↔
      tables.agents.map (fun agent => if tables.unrevoked nodeName agent then change agent else agent) =
        tables.agents.map id := by
    rw [List.map_id]
    constructor
    · intro same
      exact congrArg (fun tables : AdminTables => tables.agents) same
    · intro same
      unfold AdminTables.setAgents
      rw [same]
  rw [agents, List.map_inj_left]
  apply forall₂_congr
  intro agent _
  by_cases live : tables.unrevoked nodeName agent = true
  · simp [live]
  · simp [live]

theorem returned_none : tables.returned nodeName = none ↔
    ∀ agent ∈ tables.agents, tables.unrevoked nodeName agent = false := by
  unfold AdminTables.returned
  rw [Option.map_eq_none_iff, List.find?_eq_none]
  simp

/-- A revocation changes the tables exactly if it returns an agent. -/
theorem revoke_same {now : DateTime} :
    tables.revoke nodeName now = tables ↔ tables.returned nodeName = none := by
  rw [returned_none]
  constructor
  · intro same agent member
    by_contra live
    have live : tables.unrevoked nodeName agent = true := by simpa using live
    have revoked := congrArg (fun tables : AdminTables => tables.revokedAt agent.agentId) same
    have found : (tables.agents.any fun other =>
        decide (other.agentId = agent.agentId) && tables.unrevoked nodeName other) = true := by
      rw [List.any_eq_true]
      exact ⟨agent, member, by simp [live]⟩
    simp only [AdminTables.revoke, found, if_true] at revoked
    unfold AdminTables.unrevoked at live
    rw [← revoked] at live
    simp at live
  · intro dead
    have none : ∀ id, (tables.agents.any fun other =>
        decide (other.agentId = id) && tables.unrevoked nodeName other) = false := by
      intro id
      rw [List.any_eq_false]
      intro agent member
      simp [dead agent member]
    unfold AdminTables.revoke
    simp only [none]
    rfl

theorem disable_same {rows : List TokenRow} {now : DateTime} :
    updateWhere (TokenRow.activeFor nodeName) (TokenRow.disable now) rows = rows ↔
      ∀ row ∈ rows, row.activeFor nodeName = false := by
  have mapped : updateWhere (TokenRow.activeFor nodeName) (TokenRow.disable now) rows = rows ↔
      rows.map (fun row => if row.activeFor nodeName then row.disable now else row) = rows.map id := by
    rw [List.map_id]
    rfl
  rw [mapped, List.map_inj_left]
  apply forall₂_congr
  intro row _
  cases active : row.activeFor nodeName with
  | false => simp
  | true =>
      -- an active row has no time of disabling, and gets one
      refine iff_of_false ?_ Bool.noConfusion
      intro same
      have times := congrArg TokenRow.disabledAt same
      simp only [if_true, TokenRow.disable, id] at times
      unfold TokenRow.activeFor TokenRow.active at active
      rw [← times] at active
      simp at active

theorem complete_same {rotations : List RotationRow} {rotationId : Uuid} {now : DateTime}
    {row : RotationRow} (found : rotations.find? (RotationRow.startedAs rotationId) = some row) :
    (rotations.map fun row => if row.startedAs rotationId then row.complete now else row) ≠
      rotations := by
  intro same
  have started := List.find?_some found
  have fixed : (rotations.map fun row => if row.startedAs rotationId then row.complete now else row) =
      rotations.map id := by rw [List.map_id, same]
  have complete := List.map_inj_left.mp fixed row (List.mem_of_find?_eq_some found)
  rw [if_pos started, id] at complete
  have status := congrArg RotationRow.status complete
  unfold RotationRow.startedAs at started
  rw [← status] at started
  have completed : (lit "completed" == lit "started") = false := by decide
  simp [RotationRow.complete, completed] at started
end Changes

/-! The seven commands. -/
inductive AdminCommand where
  | createAgent (request : CreateAgent)
  | revokeAgent (nodeName actor : Str)
  | rotateTunnelSecret (nodeName actor : Str)
  | updateNodeHostKey (nodeName nodeSshHostPublicKey actor : Str)
  | expireToken (nodeName actor : Str)
  | startCaRotation (keyName old new : Str) (trusted : List Str) (actor : Str)
  | completeCaRotation (rotationId : Uuid) (trusted : List Str) (actor : Str)

/-- One call of a command: the service, what it draws, its connection and clock. -/
structure AdminCase where
  config : AdminConfig
  draws : AdminDraws
  connection : AdminConnection
  now : DateTime

namespace AdminCase
variable (setting : AdminCase) (world : AdminWorld)

/-- Each command with its event. -/
def Accountable : AdminCommand → Prop
  | .createAgent request => AuditedOrNotMade setting.connection .ENROLLMENT_TOKEN_CREATED
      (AdminService.createAgent setting.config setting.draws request setting.now) world
  | .revokeAgent nodeName actor => AuditedOrNotMade setting.connection .AGENT_REVOKED
      (AdminService.revokeAgent setting.config setting.draws nodeName actor setting.now) world
  | .rotateTunnelSecret nodeName actor => AuditedOrNotMade setting.connection .TUNNEL_SECRET_ROTATED
      (AdminService.rotateTunnelSecret setting.config setting.draws nodeName actor setting.now) world
  | .updateNodeHostKey nodeName key actor =>
      AuditedOrNotMade setting.connection .NODE_HOST_KEY_UPDATED
        (AdminService.updateNodeHostKey setting.config setting.draws nodeName key actor setting.now) world
  | .expireToken nodeName actor => AuditedOrNotMade setting.connection .ENROLLMENT_TOKEN_EXPIRED
      (AdminService.expireToken setting.config setting.draws nodeName actor setting.now) world
  | .startCaRotation keyName old new trusted actor =>
      AuditedOrNotMade setting.connection .CA_ROTATION_STARTED
        (AdminService.startCaRotation setting.config setting.draws keyName old new trusted actor
          setting.now) world
  | .completeCaRotation rotationId trusted actor =>
      AuditedOrNotMade setting.connection .CA_ROTATION_COMPLETED
        (AdminService.completeCaRotation setting.config setting.draws rotationId trusted actor
          setting.now) world

abbrev serves (statement : AdminStatement) : Prop := setting.connection.statement statement = none

abbrev takes (request : AuditRequest) (metadata : MetadataValue) : Prop :=
  Taken setting.connection setting.config.lower request metadata

abbrev agentEvent (eventType : AuditEventType) (actor : Str) (agentId : Option Uuid) (nodeName : Str) :
    AuditRequest := agentAudit setting.draws eventType actor agentId nodeName setting.now.asUtc

/-- A token is inserted under a new hash while no other of the node is active. -/
def Inserts (row : TokenRow) : Prop :=
  setting.serves (.insertToken row) ∧ ∀ old ∈ world.tables.tokens, old.tokenHash ≠ row.tokenHash

/-- When a change is not left without its event. What a command changes and is
not audited for is: a token disabled or made, an agent revoked, a secret hash or
a host key that becomes another, a rotation started or completed. -/
def Covered : AdminCommand → Prop
  | .createAgent request => ∀ checked,
      createChecks setting.config setting.draws request = .ok checked →
      setting.serves (.disableActive checked.1 setting.now.asUtc) →
      (setting.Inserts world (createdRow request checked setting.now.asUtc) ∧
        setting.takes (createdAudit setting.draws request checked setting.now.asUtc).1
          (createdAudit setting.draws request checked setting.now.asUtc).2) ∨
      (¬setting.Inserts world (createdRow request checked setting.now.asUtc) ∧
        ∀ row ∈ world.tables.tokens, row.activeFor checked.1 = false)
  | .revokeAgent nodeName actor => ∀ agentId,
      isNodeName nodeName = true → setting.serves (.revokeAgent nodeName setting.now.asUtc) →
      world.tables.returned nodeName = some agentId →
      setting.takes (setting.agentEvent .AGENT_REVOKED actor (some agentId) nodeName)
        (named [("status", text (lit "revoked"))])
  | .rotateTunnelSecret nodeName actor => ∀ tunnelSecretHash agentId,
      isNodeName nodeName = true →
      EnrollmentService.tokenHashOf setting.config.library setting.draws.tunnelSecret =
        .ok tunnelSecretHash →
      setting.serves (.rotateTunnelSecret nodeName tunnelSecretHash) →
      world.tables.returned nodeName = some agentId →
      setting.takes (setting.agentEvent .TUNNEL_SECRET_ROTATED actor (some agentId) nodeName)
          (named [("tunnel_secret", text (lit "[not printed]"))]) ∨
        ∀ agent ∈ world.tables.agents, world.tables.unrevoked nodeName agent = true →
          agent.tunnelSecretHash = tunnelSecretHash
  | .updateNodeHostKey nodeName key actor => ∀ nodeSshHostPublicKey agentId,
      isNodeName nodeName = true →
      validateNodeHostKey setting.config.library key = .ok nodeSshHostPublicKey →
      setting.serves (.updateNodeHostKey nodeName nodeSshHostPublicKey) →
      world.tables.returned nodeName = some agentId →
      setting.takes (setting.agentEvent .NODE_HOST_KEY_UPDATED actor (some agentId) nodeName)
          (named [("node_ssh_host_public_key", text (lit "[pinned]"))]) ∨
        ∀ agent ∈ world.tables.agents, world.tables.unrevoked nodeName agent = true →
          agent.nodeSshHostPublicKey = nodeSshHostPublicKey
  | .expireToken nodeName actor =>
      isNodeName nodeName = true → setting.serves (.disableActive nodeName setting.now.asUtc) →
      setting.takes (setting.agentEvent .ENROLLMENT_TOKEN_EXPIRED actor none nodeName)
          (named [("expired", .scalar (.int (world.tables.tokens.countP (TokenRow.activeFor nodeName))))]) ∨
        ∀ row ∈ world.tables.tokens, row.activeFor nodeName = false
  | .startCaRotation keyName old new trusted actor =>
      startChecks old new trusted = .ok () →
      setting.serves (.insertRotation
        ⟨setting.draws.rotationId, keyName, old, new, setting.now.asUtc, none, lit "started"⟩) →
      (∀ row ∈ world.tables.rotations, row.id ≠ setting.draws.rotationId) →
      setting.takes (rotationAudit setting.draws .CA_ROTATION_STARTED actor setting.now.asUtc)
        (named [("key_name", text keyName), ("old_fingerprint", text old), ("new_fingerprint", text new)])
  | .completeCaRotation rotationId trusted actor => ∀ row,
      setting.serves (.selectRotation rotationId) →
      world.tables.rotations.find? (RotationRow.startedAs rotationId) = some row →
      completionChecks (row.state []) trusted = .ok () →
      setting.serves (.completeRotation rotationId setting.now.asUtc) →
      setting.takes (rotationAudit setting.draws .CA_ROTATION_COMPLETED actor setting.now.asUtc)
        (named [("key_name", text row.keyName), ("status", text (lit "completed"))])
end AdminCase

section Commands
variable {setting : AdminCase} {world : AdminWorld} {α β : Type}

/-- What the store makes of the agent that an update returned. -/
theorem returnedAgent_run {message : String} {update : AdminTask (Option Uuid)} :
    run setting.connection (returnedAgent message update) world =
      match run setting.connection update world with
      | (.ok (some agentId), after) => (.ok agentId, after)
      | (.ok none, after) => (.error (.adminError message), after)
      | (.error raised, after) => (.error raised, after) := by
  unfold returnedAgent run
  rw [Coro.run_bind]
  rcases Coro.run _ update world with ⟨raised | _ | agentId, after⟩ <;> rfl

/-- An update that returns an agent, then the audit that names it. -/
theorem update_audited (audited : setting.config.audited = true) {statement : AdminStatement}
    {message : String} {tables : AdminTables} {update : AdminTask (Option Uuid)}
    {agentId : Option Uuid}
    (served : setting.serves statement → run setting.connection update world =
      (.ok agentId, { world with tables := tables }))
    (refused : ∀ raised, setting.connection.statement statement = some raised →
      run setting.connection update world = (.error raised, world))
    (untouched : agentId = none → tables = world.tables) {request : Uuid → AuditRequest}
    {fields : List (String × MetadataValue)} {eventType : AuditEventType}
    (typed : ∀ agentId, (request agentId).eventType = eventType) :
    AuditedOrNotMade setting.connection eventType (do
        let agentId ← returnedAgent message update
        audit setting.config (request agentId) (named fields)
        pure agentId) world ↔
      ∀ found, setting.serves statement → agentId = some found →
        setting.takes (request found) (named fields) ∨ tables = world.tables := by
  cases answer : setting.connection.statement statement with
  | some raised =>
      have store : run setting.connection (returnedAgent message update) world =
          (.error raised, world) := by rw [returnedAgent_run, refused raised answer]
      apply iff_of_true
      · exact (store_audited audited typed store rfl).mpr (.inr rfl)
      · intro found impossible
        rw [AdminCase.serves, answer] at impossible
        cases impossible
  | none =>
      cases agentId with
      | none =>
          have store : run setting.connection (returnedAgent message update) world =
              (.error (.adminError message), { world with tables := tables }) := by
            rw [returnedAgent_run, served answer]
          apply iff_of_true
          · exact (store_audited audited typed store rfl).mpr (.inr (untouched rfl))
          · intro found _ impossible
            cases impossible
      | some found =>
          have store : run setting.connection (returnedAgent message update) world =
              (.ok found, { world with tables := tables }) := by
            rw [returnedAgent_run, served answer]
          rw [store_audited audited typed store rfl]
          constructor
          · rintro holds _ _ ⟨⟩
            rcases holds with ⟨other, same, taken⟩ | same
            · cases same
              exact .inl taken
            · exact .inr same
          · intro holds
            rcases holds found answer rfl with taken | same
            · exact .inl ⟨found, rfl, taken⟩
            · exact .inr same

/-- The update of a statement that breaks no constraint. -/
theorem served_run {statement : AdminStatement} {result : AdminResult statement}
    {tables : AdminTables} (effect : statement.run world.tables = .ok (result, tables))
    (served : setting.serves statement) :
    run setting.connection (execute statement) world = (.ok result, { world with tables := tables }) := by
  rw [execute_run, served, effect]

theorem refused_run {statement : AdminStatement} {raised : Exc}
    (refused : setting.connection.statement statement = some raised) :
    run setting.connection (execute statement) world = (.error raised, world) := by
  rw [execute_run, refused]

theorem setAgents_none {tables : AdminTables} {nodeName : Str} {change : StoredAgent → StoredAgent}
    (none : tables.returned nodeName = none) : tables.setAgents nodeName change = tables := by
  apply setAgents_same.mpr
  intro agent member live
  rw [returned_none.mp none agent member] at live
  cases live

theorem revocation_audited (audited : setting.config.audited = true) (nodeName actor : Str) :
    AuditedOrNotMade setting.connection .AGENT_REVOKED (do
        let agentId ← storeRevocation nodeName setting.now.asUtc
        audit setting.config (setting.agentEvent .AGENT_REVOKED actor (some agentId) nodeName)
          (named [("status", text (lit "revoked"))])
        pure agentId) world ↔
      ∀ found, setting.serves (.revokeAgent nodeName setting.now.asUtc) →
        world.tables.returned nodeName = some found →
          setting.takes (setting.agentEvent .AGENT_REVOKED actor (some found) nodeName)
            (named [("status", text (lit "revoked"))]) ∨
            world.tables.revoke nodeName setting.now.asUtc = world.tables := by
  apply update_audited audited
  · exact served_run rfl
  · exact fun raised refused => refused_run refused
  · exact revoke_same.mpr
  · exact fun agentId => rfl

theorem revoke_accountable (audited : setting.config.audited = true) (nodeName actor : Str) :
    setting.Accountable world (.revokeAgent nodeName actor) ↔
      setting.Covered world (.revokeAgent nodeName actor) := by
  refine checks_audited.trans ?_
  constructor
  · intro holds agentId valid served found
    have checked := holds nodeName (validateNodeName_iff.mpr ⟨valid, rfl⟩)
    rcases (revocation_audited audited nodeName actor).mp checked agentId served found with taken | same
    · exact taken
    · rw [revoke_same.mp same] at found
      cases found
  · intro covered safeNodeName checked
    obtain ⟨valid, rfl⟩ := validateNodeName_iff.mp checked
    apply (revocation_audited audited safeNodeName actor).mpr
    intro agentId served found
    exact .inl (covered agentId valid served found)

theorem rotation_audited (audited : setting.config.audited = true) (nodeName actor hash : Str) :
    AuditedOrNotMade setting.connection .TUNNEL_SECRET_ROTATED (do
        let agentId ← storeTunnelSecret nodeName hash
        audit setting.config (setting.agentEvent .TUNNEL_SECRET_ROTATED actor (some agentId) nodeName)
          (named [("tunnel_secret", text (lit "[not printed]"))])
        pure agentId) world ↔
      ∀ found, setting.serves (.rotateTunnelSecret nodeName hash) →
        world.tables.returned nodeName = some found →
          setting.takes (setting.agentEvent .TUNNEL_SECRET_ROTATED actor (some found) nodeName)
            (named [("tunnel_secret", text (lit "[not printed]"))]) ∨
            world.tables.setAgents nodeName (fun agent => { agent with tunnelSecretHash := hash }) =
              world.tables := by
  apply update_audited audited
  · exact served_run rfl
  · exact fun raised refused => refused_run refused
  · exact setAgents_none
  · exact fun agentId => rfl

theorem rotate_accountable (audited : setting.config.audited = true) (nodeName actor : Str) :
    setting.Accountable world (.rotateTunnelSecret nodeName actor) ↔
      setting.Covered world (.rotateTunnelSecret nodeName actor) := by
  have same : ∀ hash, world.tables.setAgents nodeName
      (fun agent => { agent with tunnelSecretHash := hash }) = world.tables ↔
        ∀ agent ∈ world.tables.agents, world.tables.unrevoked nodeName agent = true →
          agent.tunnelSecretHash = hash := by
    intro hash
    rw [setAgents_same]
    apply forall₃_congr
    intro agent _ _
    constructor
    · intro same
      rw [← congrArg StoredAgent.tunnelSecretHash same]
    · rintro rfl
      rfl
  refine checks_audited.trans ?_
  constructor
  · intro holds hash agentId valid hashed served found
    have checked := checks_audited.mp (holds nodeName (validateNodeName_iff.mpr ⟨valid, rfl⟩)) hash hashed
    rw [← same]
    exact (rotation_audited audited nodeName actor hash).mp checked agentId served found
  · intro covered safeNodeName checked
    obtain ⟨valid, rfl⟩ := validateNodeName_iff.mp checked
    apply checks_audited.mpr
    intro hash hashed
    apply (rotation_audited audited safeNodeName actor hash).mpr
    intro agentId served found
    rw [same]
    exact covered hash agentId valid hashed served found

theorem hostKey_audited (audited : setting.config.audited = true) (nodeName actor hostKey : Str) :
    AuditedOrNotMade setting.connection .NODE_HOST_KEY_UPDATED (do
        let agentId ← storeNodeHostKey nodeName hostKey
        audit setting.config (setting.agentEvent .NODE_HOST_KEY_UPDATED actor (some agentId) nodeName)
          (named [("node_ssh_host_public_key", text (lit "[pinned]"))])
        pure agentId) world ↔
      ∀ found, setting.serves (.updateNodeHostKey nodeName hostKey) →
        world.tables.returned nodeName = some found →
          setting.takes (setting.agentEvent .NODE_HOST_KEY_UPDATED actor (some found) nodeName)
            (named [("node_ssh_host_public_key", text (lit "[pinned]"))]) ∨
            world.tables.setAgents nodeName (fun agent => { agent with nodeSshHostPublicKey := hostKey }) =
              world.tables := by
  apply update_audited audited
  · exact served_run rfl
  · exact fun raised refused => refused_run refused
  · exact setAgents_none
  · exact fun agentId => rfl

theorem update_accountable (audited : setting.config.audited = true) (nodeName key actor : Str) :
    setting.Accountable world (.updateNodeHostKey nodeName key actor) ↔
      setting.Covered world (.updateNodeHostKey nodeName key actor) := by
  have same : ∀ hostKey, world.tables.setAgents nodeName
      (fun agent => { agent with nodeSshHostPublicKey := hostKey }) = world.tables ↔
        ∀ agent ∈ world.tables.agents, world.tables.unrevoked nodeName agent = true →
          agent.nodeSshHostPublicKey = hostKey := by
    intro hostKey
    rw [setAgents_same]
    apply forall₃_congr
    intro agent _ _
    constructor
    · intro same
      rw [← congrArg StoredAgent.nodeSshHostPublicKey same]
    · rintro rfl
      rfl
  refine checks_audited.trans ?_
  constructor
  · intro holds hostKey agentId valid pinned served found
    have checked := checks_audited.mp (holds nodeName (validateNodeName_iff.mpr ⟨valid, rfl⟩)) hostKey
      pinned
    rw [← same]
    exact (hostKey_audited audited nodeName actor hostKey).mp checked agentId served found
  · intro covered safeNodeName checked
    obtain ⟨valid, rfl⟩ := validateNodeName_iff.mp checked
    apply checks_audited.mpr
    intro hostKey pinned
    apply (hostKey_audited audited safeNodeName actor hostKey).mpr
    intro agentId served found
    rw [same]
    exact covered hostKey agentId valid pinned served found

/-- A statement with a result, then the audit of the result. -/
theorem statement_audited (audited : setting.config.audited = true) {statement : AdminStatement}
    {result : AdminResult statement} {tables : AdminTables}
    (effect : statement.run world.tables = .ok (result, tables))
    {request : AdminResult statement → AuditRequest}
    {fields : AdminResult statement → List (String × MetadataValue)}
    {value : AdminResult statement → α} {eventType : AuditEventType}
    (typed : ∀ result, (request result).eventType = eventType) :
    AuditedOrNotMade setting.connection eventType (do
        let result ← AdminService.execute statement
        audit setting.config (request result) (named (fields result))
        pure (value result)) world ↔
      (setting.serves statement →
        setting.takes (request result) (named (fields result)) ∨ tables = world.tables) := by
  cases answer : setting.connection.statement statement with
  | some raised =>
      apply iff_of_true
      · exact (store_audited audited typed (refused_run answer) rfl).mpr (.inr rfl)
      · intro impossible
        rw [AdminCase.serves, answer] at impossible
        cases impossible
  | none =>
      rw [store_audited audited typed (served_run effect answer) rfl]
      constructor
      · rintro holds _
        rcases holds with ⟨other, same, taken⟩ | same
        · cases same
          exact .inl taken
        · exact .inr same
      · intro holds
        rcases holds answer with taken | same
        · exact .inl ⟨result, rfl, taken⟩
        · exact .inr same

theorem tables_same {tables : AdminTables} {tokens : List TokenRow} :
    { tables with toTables := { tables.toTables with tokens := tokens } } = tables ↔
      tokens = tables.tokens := by
  constructor
  · intro same
    exact congrArg (fun tables : AdminTables => tables.tokens) same
  · rintro rfl
    rfl

theorem expire_accountable (audited : setting.config.audited = true) (nodeName actor : Str) :
    setting.Accountable world (.expireToken nodeName actor) ↔
      setting.Covered world (.expireToken nodeName actor) := by
  refine checks_audited.trans ?_
  have disables : AuditedOrNotMade setting.connection .ENROLLMENT_TOKEN_EXPIRED (do
        let count ← AdminService.execute (.disableActive nodeName setting.now.asUtc)
        audit setting.config (setting.agentEvent .ENROLLMENT_TOKEN_EXPIRED actor none nodeName)
          (named [("expired", .scalar (.int count))])
        pure count) world ↔ (setting.serves (.disableActive nodeName setting.now.asUtc) →
          setting.takes (setting.agentEvent .ENROLLMENT_TOKEN_EXPIRED actor none nodeName)
            (named [("expired",
              .scalar (.int (world.tables.tokens.countP (TokenRow.activeFor nodeName))))]) ∨
            ∀ row ∈ world.tables.tokens, row.activeFor nodeName = false) := by
    rw [← @disable_same nodeName world.tables.tokens setting.now.asUtc, ← tables_same]
    apply statement_audited audited
    · rfl
    · exact fun count => rfl
  constructor
  · intro holds valid served
    exact disables.mp (holds nodeName (validateNodeName_iff.mpr ⟨valid, rfl⟩)) served
  · intro covered safeNodeName checked
    obtain ⟨valid, rfl⟩ := validateNodeName_iff.mp checked
    exact disables.mpr (covered valid)

theorem rotations_same {tables : AdminTables} {rotations : List RotationRow} :
    { tables with rotations := rotations } = tables ↔ rotations = tables.rotations := by
  constructor
  · intro same
    exact congrArg (fun tables : AdminTables => tables.rotations) same
  · rintro rfl
    rfl

theorem start_accountable (audited : setting.config.audited = true) (keyName old new : Str)
    (trusted : List Str) (actor : Str) :
    setting.Accountable world (.startCaRotation keyName old new trusted actor) ↔
      setting.Covered world (.startCaRotation keyName old new trusted actor) := by
  let row : RotationRow :=
    ⟨setting.draws.rotationId, keyName, old, new, setting.now.asUtc, none, lit "started"⟩
  let event := rotationAudit setting.draws .CA_ROTATION_STARTED actor setting.now.asUtc
  let metadata := [("key_name", text keyName), ("old_fingerprint", text old),
    ("new_fingerprint", text new)]
  have inserts : AuditedOrNotMade setting.connection .CA_ROTATION_STARTED (do
        AdminService.execute (.insertRotation row)
        audit setting.config event (named metadata)
        pure setting.draws.rotationId) world ↔ (setting.serves (.insertRotation row) →
          (∀ other ∈ world.tables.rotations, other.id ≠ setting.draws.rotationId) →
            setting.takes event (named metadata)) := by
    cases answer : setting.connection.statement (.insertRotation row) with
    | some raised =>
        apply iff_of_true
        · exact (store_audited audited (fun _ => rfl) (refused_run answer) rfl).mpr (.inr rfl)
        · intro impossible
          rw [AdminCase.serves, answer] at impossible
          cases impossible
    | none =>
        cases taken : world.tables.rotations.any fun other => decide (other.id = row.id) with
        | true =>
            have store : run setting.connection (AdminService.execute (.insertRotation row)) world =
                (.error .otherException, world) := by
              rw [execute_run, answer, AdminStatement.run, if_pos taken]
            apply iff_of_true
            · exact (store_audited audited (fun _ => rfl) store rfl).mpr (.inr rfl)
            · intro _ fresh
              obtain ⟨other, member, same⟩ := List.any_eq_true.mp taken
              exact absurd (of_decide_eq_true same) (fresh other member)
        | false =>
            have effect : AdminStatement.run world.tables (.insertRotation row) =
                .ok ((), { world.tables with rotations := world.tables.rotations ++ [row] }) := by
              rw [AdminStatement.run, taken]
              rfl
            have fresh : ∀ other ∈ world.tables.rotations, other.id ≠ setting.draws.rotationId := by
              intro other member same
              have absent := List.any_eq_false.mp taken other member
              exact absent (decide_eq_true same)
            have grows : ¬({ world.tables with rotations := world.tables.rotations ++ [row] } =
                world.tables) := by simp [rotations_same]
            refine (store_audited audited (fun _ => rfl) (served_run effect answer) rfl).trans ?_
            constructor
            · rintro (⟨_, _, taken⟩ | same) _ _
              · exact taken
              · exact (grows same).elim
            · intro holds
              exact .inl ⟨(), rfl, holds answer fresh⟩
  refine checks_audited.trans ?_
  constructor
  · intro holds checked served fresh
    exact inserts.mp (holds () checked) served fresh
  · intro covered _ checked
    exact inserts.mpr (covered checked)

/-- What the store makes of the rotation that a statement returned. -/
theorem returnedRotation_run {trusted : List Str} {statement : AdminTask (Option RotationRow)} :
    run setting.connection (returnedRotation trusted statement) world =
      match run setting.connection statement world with
      | (.ok (some row), after) => (.ok (row.state trusted), after)
      | (.ok none, after) => (.error (.adminError "CA rotation is not active"), after)
      | (.error raised, after) => (.error raised, after) := by
  unfold returnedRotation run
  rw [Coro.run_bind]
  rcases Coro.run _ statement world with ⟨raised | _ | row, after⟩ <;> rfl

/-- The completion of a started rotation. -/
theorem completion_audited (audited : setting.config.audited = true) {rotationId : Uuid}
    {trusted : List Str} {actor : Str} {row : RotationRow}
    (found : world.tables.rotations.find? (RotationRow.startedAs rotationId) = some row) :
    AuditedOrNotMade setting.connection .CA_ROTATION_COMPLETED (do
        let state ← storeCompletion rotationId trusted setting.now.asUtc
        audit setting.config (rotationAudit setting.draws .CA_ROTATION_COMPLETED actor setting.now.asUtc)
          (named [("key_name", text state.keyName), ("status", text state.status)])
        pure state) world ↔ (setting.serves (.completeRotation rotationId setting.now.asUtc) →
      setting.takes (rotationAudit setting.draws .CA_ROTATION_COMPLETED actor setting.now.asUtc)
        (named [("key_name", text row.keyName), ("status", text (lit "completed"))])) := by
  cases answer : setting.connection.statement (.completeRotation rotationId setting.now.asUtc) with
  | some raised =>
      have store : run setting.connection (storeCompletion rotationId trusted setting.now.asUtc) world =
          (.error raised, world) := by
        unfold storeCompletion
        rw [returnedRotation_run, refused_run answer]
      apply iff_of_true
      · exact (store_audited audited (fun _ => rfl) store rfl).mpr (.inr rfl)
      · intro impossible
        rw [AdminCase.serves, answer] at impossible
        cases impossible
  | none =>
      have effect : AdminStatement.run world.tables (.completeRotation rotationId setting.now.asUtc) =
          .ok (some (row.complete setting.now.asUtc), { world.tables with
            rotations := world.tables.rotations.map fun row =>
              if row.startedAs rotationId then row.complete setting.now.asUtc else row }) := by
        rw [AdminStatement.run, found]
        rfl
      have store : run setting.connection (storeCompletion rotationId trusted setting.now.asUtc) world =
          (.ok ((row.complete setting.now.asUtc).state trusted), { world with
            tables := { world.tables with
              rotations := world.tables.rotations.map fun row =>
                if row.startedAs rotationId then row.complete setting.now.asUtc else row } }) := by
        unfold storeCompletion
        rw [returnedRotation_run, served_run effect answer]
      have changes := mt rotations_same.mp (@complete_same _ _ setting.now.asUtc _ found)
      refine (store_audited audited (fun _ => rfl) store rfl).trans ?_
      constructor
      · rintro (⟨_, ⟨⟩, taken⟩ | same) _
        · exact taken
        · exact (changes same).elim
      · intro holds
        exact .inl ⟨_, rfl, holds answer⟩

theorem complete_accountable (audited : setting.config.audited = true) (rotationId : Uuid)
    (trusted : List Str) (actor : Str) :
    setting.Accountable world (.completeCaRotation rotationId trusted actor) ↔
      setting.Covered world (.completeCaRotation rotationId trusted actor) := by
  cases answer : setting.connection.statement (.selectRotation rotationId) with
  | some raised =>
      have read : run setting.connection (getCaRotation rotationId) world = (.error raised, world) := by
        unfold getCaRotation
        rw [returnedRotation_run, refused_run answer]
      apply iff_of_true
      · exact (reads_audited read).mpr fun value impossible => by cases impossible
      · intro row impossible
        rw [AdminCase.serves, answer] at impossible
        cases impossible
  | none =>
      have effect : AdminStatement.run world.tables (.selectRotation rotationId) =
        .ok (world.tables.rotations.find? (RotationRow.startedAs rotationId), world.tables) := rfl
      have selected := served_run effect answer
      cases found : world.tables.rotations.find? (RotationRow.startedAs rotationId) with
      | none =>
          rw [found] at selected
          have read : run setting.connection (getCaRotation rotationId) world =
              (.error (.adminError "CA rotation is not active"), world) := by
            unfold getCaRotation
            rw [returnedRotation_run, selected]
          apply iff_of_true
          · exact (reads_audited read).mpr fun value impossible => by cases impossible
          · intro row _ impossible
            rw [found] at impossible
            cases impossible
      | some row =>
          rw [found] at selected
          have read : run setting.connection (getCaRotation rotationId) world =
              (.ok (row.state []), world) := by
            unfold getCaRotation
            rw [returnedRotation_run, selected]
          refine (reads_audited read).trans ?_
          constructor
          · intro holds other _ again checked served
            cases found.symm.trans again
            exact (completion_audited audited found).mp
              (checks_audited.mp (holds _ rfl) () checked) served
          · rintro covered _ ⟨⟩
            apply checks_audited.mpr
            intro _ checked
            exact (completion_audited audited found).mpr (covered row answer found checked)

/-- The rows once the active ones of a node are disabled. -/
def disabled (nodeName : Str) (now : DateTime) (rows : List TokenRow) : List TokenRow :=
  updateWhere (TokenRow.activeFor nodeName) (TokenRow.disable now) rows

theorem disabled_hash (nodeName tokenHash : Str) (now : DateTime) (rows : List TokenRow) :
    ((disabled nodeName now rows).any fun old => old.tokenHash == tokenHash) =
      rows.any fun old => old.tokenHash == tokenHash := by
  unfold disabled updateWhere
  rw [List.any_map]
  congr 1
  funext row
  dsimp only [Function.comp]
  split <;> rfl

theorem disabled_inactive (nodeName : Str) (now : DateTime) (rows : List TokenRow) :
    (disabled nodeName now rows).any (TokenRow.activeFor nodeName) = false := by
  unfold disabled updateWhere
  rw [List.any_map, List.any_eq_false]
  intro row _
  dsimp only [Function.comp]
  split
  · simp [TokenRow.disable, TokenRow.activeFor, TokenRow.active]
  · assumption

def setTokens (tables : AdminTables) (tokens : List TokenRow) : AdminTables :=
  { tables with toTables := { tables.toTables with tokens := tokens } }

/-- The insert of a token once the others of its node are disabled. -/
theorem insertToken_effect {tables : AdminTables} {row : TokenRow} {now : DateTime} :
    AdminStatement.run (setTokens tables (disabled row.nodeName now tables.tokens)) (.insertToken row) =
      if tables.tokens.any fun old => old.tokenHash == row.tokenHash then .error .otherException
      else .ok ((), setTokens tables (disabled row.nodeName now tables.tokens ++ [row])) := by
  unfold AdminStatement.run Statement.run setTokens
  dsimp only
  rw [disabled_hash, disabled_inactive, Bool.and_false]
  cases tables.tokens.any fun old => old.tokenHash == row.tokenHash <;> rfl

/-- How the store of a token ends, and what it leaves of the tokens. -/
theorem storeToken_run {row : TokenRow} {now : DateTime} :
    (¬setting.serves (.disableActive row.nodeName now) ∧ ∃ raised,
      run setting.connection (storeToken row now) world = (.error raised, world)) ∨
    (setting.serves (.disableActive row.nodeName now) ∧ ¬setting.Inserts world row ∧ ∃ raised,
      run setting.connection (storeToken row now) world = (.error raised, { world with
        tables := setTokens world.tables (disabled row.nodeName now world.tables.tokens) })) ∨
    (setting.serves (.disableActive row.nodeName now) ∧ setting.Inserts world row ∧
      run setting.connection (storeToken row now) world = (.ok (), { world with
        tables := setTokens world.tables
          (disabled row.nodeName now world.tables.tokens ++ [row]) })) := by
  cases answer : setting.connection.statement (.disableActive row.nodeName now) with
  | some raised =>
      refine .inl ⟨?_, raised, ?_⟩
      · rw [AdminCase.serves, answer]
        exact Option.some_ne_none raised
      · unfold storeToken
        rw [run, Coro.run_bind, show Coro.run _ (AdminService.execute _) world = _
          from refused_run answer]
  | none =>
      right
      have effect : AdminStatement.run world.tables (.disableActive row.nodeName now) =
        .ok (_, setTokens world.tables (disabled row.nodeName now world.tables.tokens)) := rfl
      have ran : run setting.connection (storeToken row now) world =
          run setting.connection (AdminService.execute (.insertToken row)) { world with
            tables := setTokens world.tables (disabled row.nodeName now world.tables.tokens) } := by
        unfold storeToken
        rw [run, Coro.run_bind, show Coro.run _ (AdminService.execute _) world = _
          from served_run effect answer]
      rw [ran]
      cases accepted : setting.connection.statement (.insertToken row) with
      | some raised =>
          refine .inl ⟨answer, ?_, raised, refused_run accepted⟩
          rintro ⟨served, -⟩
          rw [AdminCase.serves, accepted] at served
          cases served
      | none =>
          cases taken : world.tables.tokens.any fun old => old.tokenHash == row.tokenHash with
          | true =>
              refine .inl ⟨answer, ?_, .otherException, ?_⟩
              · rintro ⟨-, fresh⟩
                obtain ⟨old, member, same⟩ := List.any_eq_true.mp taken
                exact fresh old member (beq_iff_eq.mp same)
              · rw [execute_run, accepted]
                dsimp only
                rw [insertToken_effect, if_pos taken]
          | false =>
              refine .inr ⟨answer, ⟨accepted, ?_⟩, ?_⟩
              · intro old member same
                exact List.any_eq_false.mp taken old member (beq_iff_eq.mpr same)
              · rw [execute_run, accepted]
                dsimp only
                rw [insertToken_effect, taken]
                rfl

theorem create_accountable (audited : setting.config.audited = true) (request : CreateAgent) :
    setting.Accountable world (.createAgent request) ↔
      setting.Covered world (.createAgent request) := by
  refine checks_audited.trans ?_
  apply forall₂_congr
  intro checked _
  let row := createdRow request checked setting.now.asUtc
  have nodes : row.nodeName = checked.1 := rfl
  rcases @storeToken_run setting world row setting.now.asUtc with
    ⟨unserved, raised, ran⟩ | ⟨served, fails, raised, ran⟩ | ⟨served, inserts, ran⟩
  · apply iff_of_true
    · exact (store_audited audited (fun _ => rfl) ran rfl).mpr (.inr rfl)
    · intro impossible
      exact (unserved impossible).elim
  · refine (store_audited audited (fun _ => rfl) ran rfl).trans ?_
    constructor
    · rintro (⟨_, impossible, -⟩ | same) _
      · cases impossible
      · exact .inr ⟨fails, disable_same.mp (tables_same.mp same)⟩
    · intro covered
      rcases covered served with ⟨impossible, -⟩ | ⟨-, inactive⟩
      · exact (fails impossible).elim
      · exact .inr (tables_same.mpr (disable_same.mpr inactive))
  · have grows : ¬(setTokens world.tables
        (disabled row.nodeName setting.now.asUtc world.tables.tokens ++ [row]) = world.tables) := by
      intro same
      have lengths := congrArg List.length (tables_same.mp same)
      simp [disabled, updateWhere] at lengths
    refine (store_audited audited (fun _ => rfl) ran rfl).trans ?_
    constructor
    · rintro (⟨_, _, taken⟩ | same) _
      · exact .inl ⟨inserts, taken⟩
      · exact (grows same).elim
    · intro covered
      rcases covered served with ⟨-, taken⟩ | ⟨impossible, -⟩
      · exact .inl ⟨(), rfl, taken⟩
      · exact (impossible inserts).elim

/-- A command makes no change without its event exactly if the event of the
change that it would make is taken. -/
theorem command_accountable (audited : setting.config.audited = true) (world : AdminWorld)
    (command : AdminCommand) : setting.Accountable world command ↔ setting.Covered world command := by
  cases command with
  | createAgent request => exact create_accountable audited request
  | revokeAgent nodeName actor => exact revoke_accountable audited nodeName actor
  | rotateTunnelSecret nodeName actor => exact rotate_accountable audited nodeName actor
  | updateNodeHostKey nodeName key actor => exact update_accountable audited nodeName key actor
  | expireToken nodeName actor => exact expire_accountable audited nodeName actor
  | startCaRotation keyName old new trusted actor =>
      exact start_accountable audited keyName old new trusted actor
  | completeCaRotation rotationId trusted actor =>
      exact complete_accountable audited rotationId trusted actor
end Commands

/-- A service with a writer, on a connection that refuses nothing. -/
def settingOne : AdminCase :=
  ⟨⟨libraryOne, asciiLower, true⟩, ⟨⟨7⟩, tokenOne, tunnelSecretOne, ⟨8⟩⟩,
    ⟨fun _ => none, fun _ => none⟩, ⟨0, some 0⟩⟩

/-- The agent of a node with a one-letter name. -/
def agentOfNode : StoredAgent :=
  ⟨agentIdOne, [97], [], [], [], [], [], ⟨0, some 0⟩⟩

def adminWorldOne : AdminWorld := ⟨⟨⟨[], [agentOfNode]⟩, fun _ => none, []⟩, []⟩

/-- An operator with a name revokes the agent, and the event is there. -/
theorem named_actor_accountable : settingOne.Accountable adminWorldOne (.revokeAgent [97] [98]) := by
  apply (command_accountable rfl adminWorldOne (.revokeAgent [97] [98])).mpr
  rintro agentId - - ⟨⟩
  exact ⟨_, rfl, rfl⟩

/-- Without a name the agent is revoked all the same, and the call raises. -/
theorem empty_actor_unaudited : ¬settingOne.Accountable adminWorldOne (.revokeAgent [97] []) := by
  intro holds
  have ran : run settingOne.connection (AdminService.revokeAgent settingOne.config settingOne.draws
      [97] [] settingOne.now) adminWorldOne = (.error (.auditError "audit actor is required"), _) := rfl
  have same := congrArg (fun tables : AdminTables => tables.revokedAt agentIdOne) (holds.1 _ _ ran)
  cases same

end VibeConnect.AdminAudit
