import VibeConnect.AdminAudit
import VibeConnect.AgentKey

/-! A node after its revocation. The agent's row stays, and `node_name` is unique
over all rows, so the next enrollment of the node breaks that constraint once it
has spent its token. In every state that the operations reach, a new token enrolls
its node exactly if the node has no row, revoked or not. -/
namespace VibeConnect.Reenrollment
open Python.Text Python.Values Python.Coroutine Python.Tasks Models JumpCoordinator Enrollment
open TunnelAuthenticator EnrollmentLedger EnrollmentRollback AdminService AdminAudit AgentKey

/-- The statements of the PostgreSQL store. -/
def onPostgres : Statement → Bool
  | .disableActive .. | .insertToken _ | .consumeActive .. | .insertAgent _ | .bindTokens .. => true
  | .createToken .. | .consumeToken .. | .putAgent _ => false

/-- The tables that the operations reach. Each of their statements takes effect as
a whole; they may come in any order, so those of several operations may mix. -/
inductive Reached : AdminTables → Prop
  | empty : Reached ⟨⟨[], []⟩, fun _ => none, []⟩
  | command {tables after : AdminTables} {statement : AdminStatement}
      {result : AdminResult statement} :
      Reached tables → statement.run tables = .ok (result, after) → Reached after
  | enrollment {tables : AdminTables} {after : Tables} {statement : Statement}
      {result : StatementResult} :
      Reached tables → onPostgres statement = true →
      statement.run tables.toTables = .ok (result, after) → Reached { tables with toTables := after }

/-- Only agents that have a row are revoked. -/
def OwnRevocations (tables : AdminTables) : Prop :=
  ∀ id, tables.revokedAt id ≠ none → ∃ agent ∈ tables.agents, agent.agentId = id

section Statements
variable {tables : AdminTables}

/-- A statement of the enrollment store leaves every id its row. -/
theorem run_ids {statement : Statement} {before after : Tables} {result : StatementResult}
    (ran : statement.run before = .ok (result, after)) :
    ∀ agent ∈ before.agents, ∃ same ∈ after.agents, same.agentId = agent.agentId := by
  intro agent member
  cases statement with
  | insertAgent new =>
      unfold Statement.run at ran
      dsimp only at ran
      split at ran
      · cases ran
      cases ran
      exact ⟨agent, List.mem_append_left _ member, rfl⟩
  | insertToken row =>
      unfold Statement.run at ran
      dsimp only at ran
      split at ran
      · cases ran
      split at ran
      · cases ran
      cases ran
      exact ⟨agent, member, rfl⟩
  | consumeToken tokenHash nodeName now =>
      unfold Statement.run at ran
      dsimp only at ran
      cases ran
      refine ⟨agent, ?_, rfl⟩
      split
      · exact member
      · exact member
  | putAgent new =>
      cases ran
      dsimp only [setAgent]
      split
      · by_cases same : agent.agentId = new.agentId
        · exact ⟨new, List.mem_map.mpr ⟨agent, member, if_pos same⟩, same.symm⟩
        · exact ⟨agent, List.mem_map.mpr ⟨agent, member, if_neg same⟩, rfl⟩
      · exact ⟨agent, List.mem_append_left _ member, rfl⟩
  | _ =>
      cases ran
      exact ⟨agent, member, rfl⟩

theorem setAgents_own {nodeName : Str} {change : StoredAgent → StoredAgent}
    (own : OwnRevocations tables) (same : ∀ agent, (change agent).agentId = agent.agentId) :
    OwnRevocations (tables.setAgents nodeName change) := by
  intro id revoked
  obtain ⟨agent, member, rfl⟩ := own id revoked
  refine ⟨_, List.mem_map.mpr ⟨agent, member, rfl⟩, ?_⟩
  split
  · exact same agent
  · rfl

theorem command_own {statement : AdminStatement} {result : AdminResult statement}
    {after : AdminTables} (own : OwnRevocations tables)
    (ran : statement.run tables = .ok (result, after)) : OwnRevocations after := by
  cases statement with
  | disableActive nodeName now =>
      cases ran
      exact own
  | insertToken row =>
      unfold AdminStatement.run at ran
      dsimp only at ran
      split at ran
      · cases ran
      rename_i inserted stored
      cases ran
      intro id revoked
      obtain ⟨agent, member, rfl⟩ := own id revoked
      exact run_ids stored agent member
  | revokeAgent nodeName now =>
      cases ran
      intro id revoked
      by_cases live : (tables.agents.any fun agent =>
          decide (agent.agentId = id) && tables.unrevoked nodeName agent) = true
      · obtain ⟨agent, member, holds⟩ := List.any_eq_true.mp live
        rw [Bool.and_eq_true, decide_eq_true_eq] at holds
        exact ⟨agent, member, holds.1⟩
      · apply own id
        intro unrevoked
        apply revoked
        exact (if_neg live).trans unrevoked
  | rotateTunnelSecret nodeName tunnelSecretHash =>
      cases ran
      exact setAgents_own own fun _ => rfl
  | updateNodeHostKey nodeName nodeSshHostPublicKey =>
      cases ran
      exact setAgents_own own fun _ => rfl
  | insertRotation row =>
      unfold AdminStatement.run at ran
      dsimp only at ran
      split at ran
      · cases ran
      · cases ran
        exact own
  | completeRotation rotationId now =>
      cases ran
      exact own
  | selectRotation rotationId =>
      cases ran
      exact own

theorem reached_own (reached : Reached tables) : OwnRevocations tables := by
  induction reached with
  | empty => exact fun id revoked => (revoked rfl).elim
  | command _ ran own => exact command_own own ran
  | enrollment _ _ ran own =>
      intro id revoked
      obtain ⟨agent, member, rfl⟩ := own id revoked
      exact run_ids ran agent member
end Statements

/-! The operations stay among the tables that are reached. -/
section Operations
variable {α : Type}

/-- The world that a command leaves. -/
def performed (connection : AdminConnection) (program : AdminTask α) (world : AdminWorld) :
    AdminWorld := (run connection program world).2

/-- Any command, whatever its connection refuses. -/
theorem command_reached {connection : AdminConnection} (program : AdminTask α) {world : AdminWorld}
    (reached : Reached world.tables) : Reached (performed connection program world).tables := by
  unfold performed
  induction program generalizing world with
  | done value => exact reached
  | raise fault => exact reached
  | call op resume ih =>
      apply ih
      cases op with
      | insertAudit row =>
          unfold serveAdmin
          dsimp only
          split <;> exact reached
      | execute statement =>
          unfold serveAdmin
          dsimp only
          split
          · exact reached
          split
          · exact reached
          · rename_i ran
            exact .command reached ran

/-- The statements of the PostgreSQL store keep what `kept` says. -/
def Keeps (kept : Tables → Prop) : Prop :=
  ∀ statement before result after, onPostgres statement = true → kept before →
    Statement.run before statement = .ok (result, after) → kept after

variable {attempt : Attempt} {kept : Tables → Prop} {world : EnrollmentWorld}

theorem execute_keeps (keeps : Keeps kept) {statement : Statement}
    (posted : onPostgres statement = true) (held : kept world.tables) :
    Alone attempt (execute statement) (fun _ after => kept after.tables) world := by
  apply execute_alone
  · intro raised _
    exact held
  · intro _
    unfold EnrollmentWorld.execute
    split
    · exact held
    · rename_i ran
      exact keeps _ _ _ _ posted held ran

theorem audit_keeps (flag : Bool) (audit : EnrollmentAudit) (held : kept world.tables) :
    Alone attempt (Coro.onlyIf flag (await (EnrollmentCall.writeAudit audit)))
      (fun _ after => kept after.tables) world := by
  refine Coro.wp_mono ?_ (audit_alone flag audit)
  rintro outcome after ⟨rfl, -⟩
  exact held

/-- The two statements of `persist_agent`. -/
theorem persist_keeps (keeps : Keeps kept) (backend : attempt.backend = .postgres)
    (agent : StoredAgent) (held : kept world.tables) :
    Alone attempt (attempt.service.store.persistAgent agent) (fun _ after => kept after.tables)
      world := by
  rw [store_postgres backend]
  refine Coro.wp_bind (Coro.wp_mono ?_ (execute_keeps keeps rfl held))
  rintro (raised | inserted) middle held
  · exact held
  refine Coro.wp_bind (Coro.wp_mono ?_ (execute_keeps keeps rfl held))
  rintro (raised | bound) after held
  · exact held
  · exact held

theorem consume_keeps (keeps : Keeps kept) (backend : attempt.backend = .postgres)
    (tokenHash nodeName : Str) (held : kept world.tables) :
    Alone attempt (attempt.service.store.consumeEnrollmentToken tokenHash nodeName attempt.now.asUtc)
      (fun _ after => kept after.tables) world := by
  rw [store_postgres backend]
  refine Coro.wp_bind (Coro.wp_mono ?_ (execute_keeps keeps rfl held))
  rintro (raised | result) after held
  · exact held
  dsimp only
  split
  · exact held
  · refine Coro.wp_bind (Coro.wp_ofAnswer ?_)
    cases labelsOf _ <;> exact held

theorem enrollConsumed_keeps (keeps : Keeps kept) (backend : attempt.backend = .postgres)
    (nodeName : Str) (record : EnrollmentTokenRecord) (held : kept world.tables) :
    Alone attempt (attempt.service.enrollConsumed attempt.request attempt.draws nodeName record
      attempt.now.asUtc) (fun _ after => kept after.tables) world := by
  refine Coro.wp_bind (Coro.wp_ofAnswer ?_)
  cases attempt.service.agentOf attempt.request attempt.draws nodeName record attempt.now.asUtc with
  | error raised => exact held
  | ok made =>
  refine Coro.wp_bind (Coro.wp_mono ?_ (persist_keeps keeps backend _ held))
  rintro (raised | _) middle held
  · exact held
  refine Coro.wp_bind (Coro.wp_mono ?_ (audit_keeps _ _ held))
  rintro (raised | _) after held
  · exact held
  refine Coro.wp_bind (Coro.wp_ofAnswer ?_)
  cases decodeAscii made.2.certificatePem <;> exact held

theorem enrollBody_keeps (keeps : Keeps kept) (backend : attempt.backend = .postgres)
    (held : kept world.tables) :
    Alone attempt (attempt.service.enrollBody attempt.request attempt.draws attempt.now.asUtc)
      (fun _ after => kept after.tables) world := by
  refine Coro.wp_bind (Coro.wp_ofAnswer ?_)
  cases validateNodeName attempt.request.nodeName with
  | error raised => exact held
  | ok nodeName =>
  refine Coro.wp_bind (Coro.wp_ofAnswer ?_)
  cases EnrollmentService.tokenHashOf attempt.service.library attempt.request.token with
  | error raised => exact held
  | ok tokenHash =>
  refine Coro.wp_bind (change_alone ?_)
  dsimp only
  split
  · exact held
  refine Coro.wp_bind (Coro.wp_mono ?_ (consume_keeps keeps backend tokenHash nodeName held))
  rintro (raised | taken) after held
  · exact held
  cases taken with
  | none => exact held
  | some record => exact enrollConsumed_keeps keeps backend nodeName record held

/-- An enrollment, whatever its connection refuses. -/
theorem enroll_keeps (keeps : Keeps kept) (backend : attempt.backend = .postgres)
    (held : kept world.tables) : kept (attempt.run world).2.tables := by
  have whole : Alone attempt (attempt.service.enroll attempt.request attempt.draws attempt.now)
      (fun _ after => kept after.tables) world := by
    refine Coro.wp_handle (Coro.wp_mono ?_ (enrollBody_keeps keeps backend held))
    rintro (raised | response) middle held
    · refine Coro.wp_mono ?_ enrollFault_alone
      rintro outcome after ⟨same, -⟩
      rw [same]
      exact held
    · exact held
  exact Coro.wp_run whole

theorem enroll_reached {tables : AdminTables} (backend : attempt.backend = .postgres)
    (reached : Reached { tables with toTables := world.tables }) :
    Reached { tables with toTables := (attempt.run world).2.tables } := by
  have keeps : Keeps fun enrollment => Reached { tables with toTables := enrollment } := by
    intro statement before result after posted held ran
    exact @Reached.enrollment { tables with toTables := before } _ _ _ held posted ran
  exact enroll_keeps keeps backend reached
end Operations

/-- A token made by `create-agent`, and the enrollment with it. -/
structure NewToken where
  admin : AdminCase
  requested : CreateAgent
  attempt : Attempt

namespace NewToken
variable (again : NewToken) (world : AdminWorld) (limiter : EnrollmentRateLimiter)

def created : Except Exc CreatedAgentPackage × AdminWorld :=
  AdminAudit.run again.admin.connection
    (AdminService.createAgent again.admin.config again.admin.draws again.requested again.admin.now) world

/-- The enrollment finds the tables as the token's creation left them. -/
def before : EnrollmentWorld := ⟨(again.created world).2.tables.toTables, limiter, []⟩

def after : AdminTables :=
  { (again.created world).2.tables with
    toTables := (again.attempt.run (again.before world limiter)).2.tables }

/-- The agent is enrolled and is the node's one agent that is not revoked. -/
def Succeeds : Prop :=
  (∃ response, (again.attempt.run (again.before world limiter)).1 = .ok response) ∧
    (again.after world limiter).agents.countP
      ((again.after world limiter).unrevoked again.requested.nodeName) = 1

/-- The token is made and sent in time by its node with the matching host key and
a valid agent key, no rate limit is in force, the database and the CA serve the
call, and the id and the serial number are new. -/
structure Given : Prop where
  made : ∃ package, (again.created world).1 = .ok package
  backend : again.attempt.backend = .postgres
  library : again.attempt.config.library = again.admin.config.library
  node : again.attempt.request.nodeName = again.requested.nodeName
  token : again.attempt.request.token = again.admin.draws.token
  inTime : again.attempt.now.instant <
    (again.admin.now.addSeconds (ENROLLMENT_TOKEN_LIFETIME_DAYS * 86400)).instant
  hostKey : ∃ hostKey,
    validateNodeSshHostPublicKey again.attempt.config.library
      again.attempt.request.nodeSshHostPublicKey = .ok hostKey ∧
    validateNodeSshHostPublicKey again.attempt.config.library
      again.requested.nodeSshHostPublicKey = .ok hostKey
  unlimited : ∀ tokenHash,
    EnrollmentService.tokenHashOf again.attempt.config.library again.attempt.request.token = .ok tokenHash →
    (limiter.isLimited again.attempt.request.sourceAddress tokenHash again.attempt.now.asUtc).1 = false
  served : ∀ statement, again.attempt.faults.statement statement = none
  audited : ∀ audit, again.attempt.faults.audit audit = none
  secret : ∃ secretHash, EnrollmentService.tokenHashOf again.attempt.config.library
    again.attempt.draws.tunnelSecret = .ok secretHash
  certificate : ∃ agentKey issued text,
    loadAgentPublicKey again.attempt.config.library again.attempt.request.agentX509PublicKey =
      .ok agentKey ∧
    issueAgentClientCertificate again.attempt.config.library agentKey again.requested.nodeName
      again.attempt.draws.agentId again.attempt.now.asUtc AGENT_CERT_DEFAULT_LIFETIME_DAYS =
      .ok issued ∧
    decodeAscii issued.certificatePem = .ok text ∧
    ∀ old ∈ world.tables.agents, old.certSerial ≠ issued.serial
  newId : ∀ old ∈ world.tables.agents, old.agentId ≠ again.attempt.draws.agentId
end NewToken

section Again
variable {again : NewToken} {world : AdminWorld} {limiter : EnrollmentRateLimiter}

/-- An audit leaves the tables. -/
theorem audit_tables {connection : AdminConnection} {config : AdminConfig}
    (request : AuditWriter.AuditRequest) (metadata : AuditWriter.MetadataValue) :
    (run connection (audit config request metadata) world).2.tables = world.tables := by
  unfold audit run
  cases config.audited with
  | false => rfl
  | true =>
      rw [Coro.onlyIf, if_pos rfl]
      split
      · rw [Coro.run_bind, Coro.run_ofAnswer]
        cases AuditWriter.auditRow config.lower request _ with
        | error raised => rfl
        | ok row =>
            dsimp only
            rw [Coro.run_await, serveAdmin]
            cases connection.audit row <;> rfl
      · rfl

/-- A command that stores and then audits leaves the tables as its store does. -/
theorem stored_tables {connection : AdminConnection} {config : AdminConfig} {α β : Type}
    {store : AdminTask β} {request : β → AuditWriter.AuditRequest}
    {metadata : β → AuditWriter.MetadataValue} {value : β → α} :
    (run connection (do
      let result ← store
      audit config (request result) (metadata result)
      pure (value result)) world).2.tables = (run connection store world).2.tables := by
  unfold run
  rw [Coro.run_bind]
  rcases Coro.run _ store world with ⟨raised | result, middle⟩
  · rfl
  · have same := @audit_tables middle connection config (request result) (metadata result)
    unfold run at same
    dsimp only
    rw [Coro.run_bind]
    revert same
    rcases Coro.run _ (audit config _ _) middle with ⟨raised | _, after⟩
    · exact id
    · exact id

/-- What a token's creation leaves, when it returns: the token is the only one
with its hash. -/
theorem created_row {package : CreatedAgentPackage} (made : (again.created world).1 = .ok package) :
    ∃ checked, createChecks again.admin.config again.admin.draws again.requested = .ok checked ∧
      (∀ old ∈ world.tables.tokens, old.tokenHash ≠ checked.2.2.2) ∧
      (again.created world).2.tables = setTokens world.tables
        (disabled checked.1 again.admin.now.asUtc world.tables.tokens ++
          [createdRow again.requested checked again.admin.now.asUtc]) := by
  have ran : AdminAudit.run again.admin.connection (AdminService.createAgent again.admin.config
      again.admin.draws again.requested again.admin.now) world =
      (.ok package, (again.created world).2) := Prod.ext made rfl
  obtain ⟨checked, middle, checks, stored⟩ := Coro.run_bind_ok.mp ran
  rw [Coro.run_ofAnswer] at checks
  obtain ⟨passed, rfl⟩ := Prod.mk.inj checks
  refine ⟨checked, passed, ?_⟩
  obtain ⟨⟨⟩, kept, inserted, -⟩ := Coro.run_bind_ok.mp stored
  have tables : (again.created world).2.tables = kept.tables := by
    have same := congrArg (fun ended => ended.2.tables) stored
    dsimp only at same
    rw [← same, show (Coro.run _ _ world).2.tables = _ from stored_tables, run, inserted]
  rw [tables]
  rcases @storeToken_run again.admin world (createdRow again.requested checked again.admin.now.asUtc)
      again.admin.now.asUtc with
    ⟨-, raised, failed⟩ | ⟨-, -, raised, failed⟩ | ⟨-, inserts, stored⟩
  · cases inserted.symm.trans failed
  · cases inserted.symm.trans failed
  · cases inserted.symm.trans stored
    exact ⟨inserts.2, rfl⟩

/-- The labels of a request that passed the checks are ones. -/
theorem checked_labels {config : AdminConfig} {draws : AdminDraws} {request : CreateAgent}
    {checked : Str × List Str × Str × Str} (passed : createChecks config draws request = .ok checked) :
    validateNodeName request.nodeName = .ok checked.1 ∧
      (∀ label ∈ checked.2.1, isLabel label = true) ∧
      validateNodeHostKey config.library request.nodeSshHostPublicKey = .ok checked.2.2.1 ∧
      EnrollmentService.tokenHashOf config.library draws.token = .ok checked.2.2.2 := by
  obtain ⟨nodeName, node, passed⟩ := bind_ok.mp passed
  obtain ⟨labels, made, passed⟩ := bind_ok.mp passed
  obtain ⟨_, -, passed⟩ := bind_ok.mp passed
  obtain ⟨hostKey, checkedKey, passed⟩ := bind_ok.mp passed
  obtain ⟨_, -, passed⟩ := bind_ok.mp passed
  obtain ⟨_, -, passed⟩ := bind_ok.mp passed
  obtain ⟨_, -, passed⟩ := bind_ok.mp passed
  obtain ⟨_, -, passed⟩ := bind_ok.mp passed
  obtain ⟨_, -, passed⟩ := bind_ok.mp passed
  obtain ⟨tokenHash, hashed, passed⟩ := bind_ok.mp passed
  cases passed
  obtain ⟨rfl, valid⟩ := labelsOf_valid made
  exact ⟨node, valid, checkedKey, hashed⟩

/-- The token that was made is the one that the enrollment takes. -/
theorem token_taken {checked : Str × List Str × Str × Str} {request : CreateAgent}
    {createdAt now : DateTime} {tables : AdminTables}
    (fresh : ∀ old ∈ tables.tokens, old.tokenHash ≠ checked.2.2.2)
    (inTime : now.instant < (createdAt.addSeconds (ENROLLMENT_TOKEN_LIFETIME_DAYS * 86400)).instant) :
    Statement.taken (setTokens tables (disabled checked.1 createdAt tables.tokens ++
        [createdRow request checked createdAt])).toTables
      (.consumeActive checked.2.2.2 checked.1 now) = some (createdRow request checked createdAt) := by
  have others : (disabled checked.1 createdAt tables.tokens).find? (fun row =>
      row.tokenHash == checked.2.2.2 && row.consumable checked.1 now) = none := by
    rw [List.find?_eq_none]
    intro row member chosen
    have unheld := disabled_hash checked.1 checked.2.2.2 createdAt tables.tokens
    rw [Bool.and_eq_true] at chosen
    rw [List.any_eq_true.mpr ⟨row, member, chosen.1⟩] at unheld
    obtain ⟨old, held, same⟩ := List.any_eq_true.mp unheld.symm
    exact fresh old held (beq_iff_eq.mp same)
  have own : ((createdRow request checked createdAt).tokenHash == checked.2.2.2 &&
      (createdRow request checked createdAt).consumable checked.1 now) = true := by
    simp [createdRow, TokenRow.consumable, TokenRow.activeFor, TokenRow.active] at inTime ⊢
    exact inTime
  show (_ ++ [_]).find? _ = _
  rw [List.find?_append, others, Option.none_or, List.find?_singleton]
  exact if_pos own

/-- What the enrollment finds, once the token is made. -/
structure Made (again : NewToken) (world : AdminWorld) (limiter : EnrollmentRateLimiter)
    (checked : Str × List Str × Str × Str) (row : TokenRow) : Prop where
  node : checked.1 = again.requested.nodeName
  agents : (again.created world).2.tables.agents = world.tables.agents
  revokedAt : (again.created world).2.tables.revokedAt = world.tables.revokedAt
  takes : again.attempt.Takes (again.before world limiter) checked.1 checked.2.2.2 row
  labels : ∀ label ∈ row.labels, isLabel label = true
  hostKey : validateNodeSshHostPublicKey again.attempt.config.library
    again.attempt.request.nodeSshHostPublicKey = .ok row.nodeSshHostPublicKey

theorem given_made (given : again.Given world limiter) :
    ∃ checked row, Made again world limiter checked row := by
  obtain ⟨package, made⟩ := given.made
  obtain ⟨checked, passed, fresh, tables⟩ := created_row made
  obtain ⟨node, labels, createdKey, hashed⟩ := checked_labels passed
  obtain ⟨hostKey, requested, created⟩ := given.hostKey
  have sameKey : hostKey = checked.2.2.1 := by
    unfold validateNodeHostKey at createdKey
    rw [← given.library, created] at createdKey
    exact Except.ok.inj createdKey
  have sameHash : EnrollmentService.tokenHashOf again.attempt.config.library
      again.attempt.request.token = .ok checked.2.2.2 := by
    rw [given.library, given.token]
    exact hashed
  refine ⟨checked, createdRow again.requested checked again.admin.now.asUtc, ?_, ?_, ?_, ?_, labels, ?_⟩
  · exact (validateNodeName_iff.mp node).2
  · rw [tables]
    rfl
  · rw [tables]
    rfl
  · refine ⟨?_, sameHash, given.unlimited _ sameHash, ?_, ?_⟩
    · rw [given.node]
      exact node
    · unfold Attempt.refused
      rw [given.backend]
      exact given.served _
    · unfold Attempt.consumption NewToken.before
      rw [given.backend, tables]
      apply token_taken fresh
      have inTime := given.inTime
      simpa using inTime
  · rw [requested, sameKey]
    rfl

/-- Nothing but the node's rows can stop the enrollment. -/
theorem given_succeeds {checked : Str × List Str × Str × Str} {row : TokenRow}
    (given : again.Given world limiter) (made : Made again world limiter checked row)
    (vacant : ∀ agent ∈ world.tables.agents, agent.nodeName ≠ again.requested.nodeName) :
    ∃ agentKey issued secretHash,
      again.attempt.Succeeds (again.before world limiter) checked.1 row agentKey issued secretHash := by
  obtain ⟨secretHash, hashed⟩ := given.secret
  obtain ⟨agentKey, issued, text, loaded, signed, read, newSerial⟩ := given.certificate
  refine ⟨agentKey, issued, secretHash, fun _ => made.labels, made.hostKey, loaded, hashed, ?_, ?_,
    fun _ => given.audited _, text, read⟩
  · rw [made.node]
    exact signed
  · unfold Attempt.Stores
    rw [given.backend]
    refine ⟨given.served _, given.served _, ?_⟩
    intro old member
    have there : old ∈ world.tables.agents := by
      rw [← made.agents]
      exact member
    refine ⟨given.newId old there, ?_, newSerial old there⟩
    show old.nodeName ≠ checked.1
    rw [made.node]
    exact vacant old there

/-- A new token enrolls its node exactly if no agent of the node has a row. -/
theorem new_token_enrolls (reached : Reached world.tables) (given : again.Given world limiter) :
    again.Succeeds world limiter ↔
      ∀ agent ∈ world.tables.agents, agent.nodeName ≠ again.requested.nodeName := by
  obtain ⟨checked, row, made⟩ := given_made given
  rcases enroll_run again.attempt (again.before world limiter) with
    ⟨none, -⟩ | ⟨nodeName, tokenHash, taken, takes, -, returns⟩
  · exact (none _ _ _ made.takes).elim
  have sameNode := takes.node.symm.trans made.takes.node
  cases sameNode
  have sameHash := takes.hashed.symm.trans made.takes.hashed
  cases sameHash
  have sameRow := takes.row.symm.trans made.takes.row
  cases sameRow
  constructor
  · rintro ⟨enrolled, -⟩ agent member same
    obtain ⟨agentKey, issued, secretHash, succeeds⟩ := returns.mp enrolled
    have stored := succeeds.stored
    unfold Attempt.Stores at stored
    rw [given.backend] at stored
    have there : agent ∈ (again.before world limiter).tables.agents := by
      show agent ∈ (again.created world).2.tables.agents
      rw [made.agents]
      exact member
    exact (stored.2.2 agent there).2.1 (same.trans made.node.symm)
  · intro vacant
    obtain ⟨response, accepted⟩ := returns.mpr (given_succeeds given made vacant)
    refine ⟨⟨response, accepted⟩, ?_⟩
    have ran : again.attempt.run (again.before world limiter) =
        (.ok response, (again.attempt.run (again.before world limiter)).2) := Prod.ext accepted rfl
    obtain ⟨agentKey, issued, agent, enrolled⟩ := accepted_enrolled ran
    have grows : (again.after world limiter).agents = world.tables.agents ++ [agent] := by
      rw [← made.agents]
      exact enrolled.agents given.backend
    have others : world.tables.agents.countP
        ((again.after world limiter).unrevoked again.requested.nodeName) = 0 := by
      rw [List.countP_eq_zero]
      intro old member live
      rw [AdminTables.unrevoked, Bool.and_eq_true, decide_eq_true_eq] at live
      exact vacant old member live.1
    have own : (again.after world limiter).unrevoked again.requested.nodeName agent = true := by
      have unrevoked : world.tables.revokedAt agent.agentId = none := by
        by_contra revoked
        obtain ⟨old, member, same⟩ := reached_own reached agent.agentId revoked
        exact given.newId old member (same.trans enrolled.agentId)
      have named : agent.nodeName = again.requested.nodeName :=
        (Except.ok.inj (enrolled.node.symm.trans made.takes.node)).trans made.node
      have still : (again.after world limiter).revokedAt agent.agentId = none := by
        show (again.created world).2.tables.revokedAt agent.agentId = none
        rw [made.revokedAt]
        exact unrevoked
      rw [AdminTables.unrevoked, still, named]
      simp
    rw [grows, List.countP_append, others, List.countP_singleton, if_pos own]
theorem after_reached (backend : again.attempt.backend = .postgres)
    (reached : Reached world.tables) : Reached (again.after world limiter) := by
  exact enroll_reached backend (command_reached _ reached)
end Again

/-- Two tokens, two tunnel secrets, and a serial number for every agent. -/
def libraryTwo : EnrollmentLibrary :=
  { libraryOne with
    sha256Hex := fun bytes =>
      if bytes = List.replicate 43 99 then
        lit "0c49d89230696ff3c031ca5a128a4e121e3589bf872c17fa04487ed0cc245d21"
      else if bytes = List.replicate 43 100 then
        lit "9fb93e93b2f42ab1d60660300c454df7c90a2e61647223c1a725f39390cccdae"
      else libraryOne.sha256Hex bytes
    sign := fun request => .ok ((encode certificatePemOne).getD [], 30 + request.agentId.value) }

def adminTwo (token : Str) : AdminCase :=
  ⟨⟨libraryTwo, AuditWriter.asciiLower, true⟩, ⟨⟨7⟩, token, [], ⟨8⟩⟩, ⟨fun _ => none, fun _ => none⟩,
    ⟨0, some 0⟩⟩

def requestedTwo : CreateAgent :=
  ⟨lit "node01", [lit "edge"], lit "admin", nodeKeyOne, lit "server", 4443, 4444, lit "127.0.0.1", 2222, 30⟩

/-- A token for one node, and the agent that enrolls with it. -/
def newToken (token : Str) (agentId : Uuid) (tunnelSecret : Str) : NewToken where
  admin := adminTwo token
  requested := requestedTwo
  attempt :=
    { attemptOne with
      config := { configOne with library := libraryTwo }
      draws := ⟨[], agentId, tunnelSecret⟩
      request := { requestOne nodeKeyOne with token := token } }

def firstToken : NewToken := newToken tokenOne agentIdOne tunnelSecretOne

def secondToken : NewToken :=
  newToken (List.replicate 43 (point 99)) ⟨2⟩ (List.replicate 43 (point 100))

def emptyWorld : AdminWorld := ⟨⟨⟨[], []⟩, fun _ => none, []⟩, []⟩

/-- The node is enrolled and then revoked. -/
def enrolledWorld : AdminWorld := ⟨firstToken.after emptyWorld .new, []⟩

def revocation : AdminTask Uuid :=
  AdminService.revokeAgent (adminTwo []).config (adminTwo []).draws (lit "node01") (lit "admin")
    ⟨2000000, some 0⟩

def revokedWorld : AdminWorld :=
  performed (adminTwo []).connection revocation enrolledWorld

theorem enrolledWorld_reached : Reached enrolledWorld.tables := by
  have reached : Reached emptyWorld.tables := .empty
  unfold enrolledWorld
  exact @after_reached firstToken emptyWorld .new rfl reached

theorem revokedWorld_reached : Reached revokedWorld.tables := by
  unfold revokedWorld
  exact @command_reached Uuid (adminTwo []).connection revocation enrolledWorld enrolledWorld_reached

/-- All that is given, for a token that is made and an id and a secret that are new. -/
theorem nodeKeyOne_valid : validateNodeSshHostPublicKey libraryTwo nodeKeyOne = .ok nodeKeyOne := by
  decide +kernel

theorem agentKeyOne_loads : loadAgentPublicKey libraryTwo agentKeyPemOne = .ok agentKeyOne := by
  decide +kernel

theorem certificate_signed (agentId : Uuid) : ∃ expiresAt,
    issueAgentClientCertificate libraryTwo agentKeyOne (lit "node01") agentId
      attemptOne.now.asUtc AGENT_CERT_DEFAULT_LIFETIME_DAYS =
      .ok ⟨(encode certificatePemOne).getD [], hexText (30 + agentId.value), expiresAt⟩ := by
  have named : validateNodeName (lit "node01") = .ok (lit "node01") := by decide +kernel
  unfold issueAgentClientCertificate
  rw [if_neg (by decide), named]
  exact ⟨_, rfl⟩

theorem newToken_given {token tunnelSecret secretHash : Str} {agentId : Uuid} {world : AdminWorld}
    (made : ((newToken token agentId tunnelSecret).created world).1.isOk = true)
    (hashed : EnrollmentService.tokenHashOf libraryTwo tunnelSecret = .ok secretHash)
    (new : ∀ old ∈ world.tables.agents, old.agentId ≠ agentId ∧
      old.certSerial ≠ hexText (30 + agentId.value)) :
    (newToken token agentId tunnelSecret).Given world .new where
  made := by
    cases created : ((newToken token agentId tunnelSecret).created world).1 with
    | ok package => exact ⟨package, rfl⟩
    | error raised =>
        rw [created] at made
        cases made
  backend := rfl
  library := rfl
  node := rfl
  token := rfl
  inTime := by
    show (1000000 : Int) < 0 + 7 * 86400 * 1000000 - 0
    decide
  hostKey := ⟨nodeKeyOne, nodeKeyOne_valid, nodeKeyOne_valid⟩
  unlimited _ _ := rfl
  served _ := rfl
  audited _ := rfl
  secret := ⟨secretHash, hashed⟩
  certificate := by
    obtain ⟨text, read⟩ := certificate_text
    obtain ⟨expiresAt, signed⟩ := certificate_signed agentId
    show ∃ agentKey issued text, loadAgentPublicKey libraryTwo agentKeyPemOne = .ok agentKey ∧
      issueAgentClientCertificate libraryTwo agentKey (lit "node01") agentId attemptOne.now.asUtc
        AGENT_CERT_DEFAULT_LIFETIME_DAYS = .ok issued ∧
      decodeAscii issued.certificatePem = .ok text ∧
      ∀ old ∈ world.tables.agents, old.certSerial ≠ issued.serial
    refine ⟨agentKeyOne, _, text, agentKeyOne_loads, signed, ?_, fun old member => (new old member).2⟩
    dsimp only
    exact read
  newId old member := (new old member).1

/-- The first agent of a node. -/
theorem first_token_enrolls : firstToken.Succeeds emptyWorld .new := by
  have given : firstToken.Given emptyWorld .new :=
    newToken_given (by decide +kernel) rfl fun _ impossible => nomatch impossible
  have reached : Reached emptyWorld.tables := .empty
  exact (new_token_enrolls reached given).mpr fun _ impossible => nomatch impossible

/-- The node's one agent is revoked, a new token is made, and it does not enroll. -/
theorem second_token_refused :
    ((secondToken.created revokedWorld).1.isOk = true ∧
      ∀ agent ∈ revokedWorld.tables.agents,
        (revokedWorld.tables.revokedAt agent.agentId).isSome = true ∧ agent.agentId ≠ ⟨2⟩ ∧
          agent.certSerial ≠ hexText 32) ∧
    (secondToken.attempt.run (secondToken.before revokedWorld .new)).1.isOk = false := by
  decide +kernel

/-- A revoked node is not enrolled again. -/
theorem revoked_node_refused : Reached revokedWorld.tables ∧
    (∀ agent ∈ revokedWorld.tables.agents, (revokedWorld.tables.revokedAt agent.agentId).isSome = true) ∧
    secondToken.Given revokedWorld .new ∧ ¬secondToken.Succeeds revokedWorld .new := by
  obtain ⟨⟨made, revoked⟩, refused⟩ := second_token_refused
  refine ⟨revokedWorld_reached, fun agent member => (revoked agent member).1, ?_, ?_⟩
  · exact newToken_given made rfl fun agent member => (revoked agent member).2
  · rintro ⟨⟨response, accepted⟩, -⟩
    rw [accepted] at refused
    cases refused

end VibeConnect.Reenrollment
