import VibeConnect.EnrollmentLedger

/-! A failed enrollment does not give its token back. One call of `enroll` runs
alone over either store; every statement of the database and every audit insert
may be refused, and then has no effect. Once the token is consumed nothing undoes
it, so the call is all or nothing only if nothing after the consumption fails. -/
namespace VibeConnect.EnrollmentRollback
open Python.Text Python.Values Python.Coroutine Python.Tasks Models JumpCoordinator Enrollment
open TunnelAuthenticator EnrollmentLedger

structure EnrollmentFaults where
  statement : Statement → Option Exc
  audit : EnrollmentAudit → Option Exc

def dependencies (faults : EnrollmentFaults) : (call : EnrollmentCall) → EnrollmentWorld →
    Except Exc (EnrollmentResult call) × EnrollmentWorld
  | .execute statement, world => match faults.statement statement with
      | some raised => (.error raised, world)
      | none => world.execute 0 statement
  | .writeAudit audit, world => match faults.audit audit with
      | some raised => (.error raised, world)
      | none => (.ok (), world)

/-- One call of `enroll` with everything it depends on but the tables and the
limiter. -/
structure Attempt where
  backend : Backend
  config : EnrollmentConfig
  clock : DateTime
  draws : EnrollmentDraws
  faults : EnrollmentFaults
  request : EnrollmentRequest
  now : DateTime

namespace Attempt
variable (attempt : Attempt)

def service : EnrollmentService :=
  { attempt.config with store := attempt.backend.store 0 attempt.clock }

abbrev alone {α : Type} (program : EnrollmentTask α) (world : EnrollmentWorld) :
    Except Exc α × EnrollmentWorld := program.run (serve (dependencies attempt.faults)) world

def run (world : EnrollmentWorld) : Except Exc EnrollmentResponse × EnrollmentWorld :=
  attempt.alone (attempt.service.enroll attempt.request attempt.draws attempt.now) world

/-- A call that raises leaves both tables as they were. -/
def AllOrNothing (world : EnrollmentWorld) : Prop :=
  ∀ raised after, attempt.run world = (.error raised, after) → after.tables = world.tables

/-- The consuming statement of the store. -/
def consumption (tokenHash nodeName : Str) : Statement :=
  match attempt.backend with
  | .postgres => .consumeActive tokenHash nodeName attempt.now.asUtc.asUtc
  | .inMemory => .consumeToken tokenHash nodeName attempt.now.asUtc

/-- Only statements of the database are refused. -/
def refused (statement : Statement) : Option Exc :=
  match attempt.backend with
  | .postgres => attempt.faults.statement statement
  | .inMemory => none

/-- The call gets as far as to consume the token of `row`. -/
structure Takes (world : EnrollmentWorld) (nodeName tokenHash : Str) (row : TokenRow) : Prop where
  node : validateNodeName attempt.request.nodeName = .ok nodeName
  hashed : EnrollmentService.tokenHashOf attempt.config.library attempt.request.token = .ok tokenHash
  unlimited : (world.limiter.isLimited attempt.request.sourceAddress tokenHash attempt.now.asUtc).1 = false
  served : attempt.refused (attempt.consumption tokenHash nodeName) = none
  row : (attempt.consumption tokenHash nodeName).taken world.tables = some row

/-- The agent that the call stores. -/
def agent (nodeName : Str) (row : TokenRow) (issued : IssuedAgentCertificate) (secretHash : Str) :
    StoredAgent :=
  ⟨attempt.draws.agentId, nodeName, row.labels, attempt.request.agentX509PublicKey,
    row.nodeSshHostPublicKey, secretHash, issued.serial, issued.expiresAt⟩

/-- Both statements of the database take the agent. -/
def Stores (world : EnrollmentWorld) (agent : StoredAgent) : Prop :=
  match attempt.backend with
  | .postgres =>
      attempt.faults.statement
          (.insertAgent { agent with certExpiresAt := agent.certExpiresAt.asUtc }) = none ∧
        attempt.faults.statement (.bindTokens agent.agentId agent.nodeName) = none ∧
        ∀ old ∈ world.tables.agents, old.agentId ≠ agent.agentId ∧ old.nodeName ≠ agent.nodeName ∧
          old.certSerial ≠ agent.certSerial
  | .inMemory => True

/-- Nothing fails after the token of `row` is consumed. -/
structure Succeeds (world : EnrollmentWorld) (nodeName : Str) (row : TokenRow) (agentKey : Bytes)
    (issued : IssuedAgentCertificate) (secretHash : Str) : Prop where
  labels : attempt.backend = .postgres → ∀ label ∈ row.labels, isLabel label = true
  hostKey : validateNodeSshHostPublicKey attempt.config.library attempt.request.nodeSshHostPublicKey =
    .ok row.nodeSshHostPublicKey
  loaded : loadAgentPublicKey attempt.config.library attempt.request.agentX509PublicKey = .ok agentKey
  tunnelSecret : EnrollmentService.tokenHashOf attempt.config.library attempt.draws.tunnelSecret =
    .ok secretHash
  certificate : issueAgentClientCertificate attempt.config.library agentKey nodeName
    attempt.draws.agentId attempt.now.asUtc AGENT_CERT_DEFAULT_LIFETIME_DAYS = .ok issued
  stored : attempt.Stores world (attempt.agent nodeName row issued secretHash)
  audited : attempt.config.audited = true → attempt.faults.audit ⟨.ENROLLMENT_SUCCEEDED,
    lit "enrollment-api", some attempt.draws.agentId, some nodeName,
    [(lit "source_address", .str attempt.request.sourceAddress)]⟩ = none
  certificateText : ∃ text, decodeAscii issued.certificatePem = .ok text
end Attempt

/-- Some unused token of `before` is used in `after`. -/
def Spent (before after : Tables) : Prop :=
  ∃ update : TokenRow → TokenRow, after.tokens = before.tokens.map update ∧
    ∃ row ∈ before.tokens, row.used = false ∧ (update row).used = true

theorem spent_ne {before after : Tables} (spent : Spent before after) : after ≠ before := by
  rintro rfl
  obtain ⟨update, tokens, row, member, unused, used⟩ := spent
  have same : after.tokens.map update = after.tokens.map id := by rw [← tokens, List.map_id]
  have fixed : update row = id row := List.map_inj_left.mp same row member
  rw [fixed, id, unused] at used
  cases used

/-- A statement that adds no token does not give one back. -/
theorem execute_spent {start : Tables} {statement : Statement} {world : EnrollmentWorld} {task : Nat}
    (adds : added statement = none) (spent : Spent start world.tables) :
    Spent start (world.execute task statement).2.tables := by
  unfold EnrollmentWorld.execute
  split
  · exact spent
  rename_i result after ran
  obtain ⟨update, moves⟩ := run_moves
    (fun new impossible => by rw [adds] at impossible; cases impossible) ran
  obtain ⟨first, tokens, row, member, unused, used⟩ := spent
  refine ⟨update ∘ first, ?_, row, member, unused, (moves.follows _).used used⟩
  show after.tokens = _
  rw [moves.tokens, adds, tokens, List.map_map]
  exact List.append_nil _

section Alone
variable {attempt : Attempt} {world : EnrollmentWorld} {α β : Type}

/-- The one answer that a server gives. -/
def served (faults : EnrollmentFaults) :
    Coro.Answers (TaskOp EnrollmentWorld EnrollmentCall Exc)
      (TaskAns EnrollmentWorld EnrollmentResult) Exc EnrollmentWorld :=
  fun op answer before after => serve (dependencies faults) op before = (answer, after)

abbrev Alone (attempt : Attempt) (program : EnrollmentTask α)
    (post : Except Exc α → EnrollmentWorld → Prop) (world : EnrollmentWorld) : Prop :=
  program.wp (served attempt.faults) (fun _ _ => True) post world

theorem execute_alone {statement : Statement} {post : Except Exc StatementResult → EnrollmentWorld → Prop}
    (refuses : ∀ raised, attempt.faults.statement statement = some raised → post (.error raised) world)
    (serves : attempt.faults.statement statement = none →
      post (world.execute 0 statement).1 (world.execute 0 statement).2) :
    Alone attempt (execute statement) post world := by
  refine @wp_call _ _ _ EnrollmentResult _ _ _ _ (.execute statement) _ trivial ?_
  intro answer after given
  cases refused : attempt.faults.statement statement with
  | some raised =>
      simp only [served, serve, dependencies, refused] at given
      cases given
      exact refuses raised refused
  | none =>
      simp only [served, serve, dependencies, refused] at given
      have holds := serves refused
      rw [given] at holds
      exact holds

theorem change_alone {block : EnrollmentWorld → Except Exc α × EnrollmentWorld}
    {post : Except Exc α → EnrollmentWorld → Prop} (next : post (block world).1 (block world).2) :
    Alone attempt (change block) post world := by
  refine Coro.wp_bind (wp_look trivial ?_)
  rintro answer after ⟨⟩
  refine Coro.wp_bind (wp_atomic trivial ?_)
  rintro answer after ⟨⟩
  exact Coro.wp_ofAnswer next

/-- An audit insert leaves the tables alone. -/
theorem audit_alone (flag : Bool) (audit : EnrollmentAudit) :
    Alone attempt (Coro.onlyIf flag (await (EnrollmentCall.writeAudit audit)))
      (fun outcome after => after = world ∧
        (outcome = .ok () ↔ (flag = true → attempt.faults.audit audit = none))) world := by
  apply Coro.wp_onlyIf
  case skips =>
    intro off
    exact ⟨rfl, by simp [off]⟩
  intro on
  refine @wp_call _ _ _ EnrollmentResult _ _ _ _ (.writeAudit audit) _ trivial ?_
  intro answer after given
  cases refused : attempt.faults.audit audit with
  | some raised =>
      simp only [served, serve, dependencies, refused] at given
      cases given
      simp [on]
  | none =>
      simp only [served, serve, dependencies, refused] at given
      cases given
      simp

theorem insertAgent_run {tables : Tables} {agent : StoredAgent} :
    (∃ result after, (Statement.insertAgent agent).run tables = .ok (result, after)) ↔
      ∀ old ∈ tables.agents, old.agentId ≠ agent.agentId ∧ old.nodeName ≠ agent.nodeName ∧
        old.certSerial ≠ agent.certSerial := by
  unfold Statement.run
  dsimp only
  split
  · rename_i taken
    obtain ⟨old, member, same⟩ := List.any_eq_true.mp taken
    constructor
    · rintro ⟨_, _, impossible⟩
      cases impossible
    · intro free
      obtain ⟨id, node, serial⟩ := free old member
      simp [id, node, serial] at same
  · rename_i free
    constructor
    · intro _ old member
      refine ⟨fun same => free ?_, fun same => free ?_, fun same => free ?_⟩ <;>
        exact List.any_eq_true.mpr ⟨old, member, by simp [same]⟩
    · exact fun _ => ⟨_, _, rfl⟩

theorem updateWhere_none {chosen : TokenRow → Bool} {change : TokenRow → TokenRow}
    {rows : List TokenRow} (none : rows.find? chosen = none) :
    updateWhere chosen change rows = rows := by
  unfold updateWhere
  conv_rhs => rw [← List.map_id rows]
  apply List.map_congr_left
  intro row member
  exact if_neg (List.find?_eq_none.mp none row member)

/-- A consumption spends the token it finds and otherwise changes nothing. -/
structure Consumption (statement : Statement) (world after : EnrollmentWorld)
    (result : StatementResult) : Prop where
  row : result.row = statement.taken world.tables
  agents : after.tables.agents = world.tables.agents
  untaken : statement.taken world.tables = none → after.tables = world.tables
  taken : ∀ row, statement.taken world.tables = some row → Spent world.tables after.tables

theorem spent_taken {statement : Statement} {result : StatementResult} {after : Tables}
    {row : TokenRow} (adds : added statement = none)
    (ran : statement.run world.tables = .ok (result, after))
    (taken : statement.taken world.tables = some row) : Spent world.tables after := by
  obtain ⟨update, moves⟩ := run_moves
    (fun new impossible => by rw [adds] at impossible; cases impossible) ran
  obtain ⟨_, _, _, -, spec⟩ := taken_spec taken
  refine ⟨update, ?_, row, spec.member, (active_iff.mp spec.active).1, moves.used row taken⟩
  rw [moves.tokens, adds]
  exact List.append_nil _

theorem execute_consumption {tokenHash nodeName : Str} : ∃ result,
    (world.execute 0 (attempt.consumption tokenHash nodeName)).1 = .ok result ∧
      Consumption (attempt.consumption tokenHash nodeName) world
        (world.execute 0 (attempt.consumption tokenHash nodeName)).2 result := by
  unfold Attempt.consumption
  cases attempt.backend with
  | postgres =>
      refine ⟨_, rfl, rfl, rfl, fun none => ?_, fun row taken => spent_taken rfl rfl taken⟩
      exact congrArg (Tables.mk · _) (updateWhere_none none)
  | inMemory =>
      refine ⟨_, rfl, rfl, ?_, fun none => ?_, fun row taken => spent_taken rfl rfl taken⟩
      · dsimp only [EnrollmentWorld.execute, Statement.run]
        split <;> rfl
      · dsimp only [EnrollmentWorld.execute, Statement.run]
        rw [none]
        rfl

/-- A row whose labels the store reads. -/
def Readable (attempt : Attempt) (row : TokenRow) : Prop :=
  attempt.backend = .postgres → ∀ label ∈ row.labels, isLabel label = true

theorem store_postgres (backend : attempt.backend = .postgres) :
    attempt.service.store = postgresEnrollmentStore attempt.clock := by
  show attempt.backend.store 0 attempt.clock = _
  rw [backend]
  rfl

theorem store_inMemory (backend : attempt.backend = .inMemory) :
    attempt.service.store = inMemoryEnrollmentStore 0 attempt.clock := by
  show attempt.backend.store 0 attempt.clock = _
  rw [backend]
  rfl

/-- The record that the store makes of a row. -/
structure Recorded (row : TokenRow) (record : EnrollmentTokenRecord) : Prop where
  labels : record.labels = row.labels
  hostKey : record.nodeSshHostPublicKey = row.nodeSshHostPublicKey

/-- How a consumption ends: nothing was taken, or a token was spent and its row
read or not. -/
inductive ConsumptionEnd (attempt : Attempt) (tokenHash nodeName : Str) (world after : EnrollmentWorld) :
    Except Exc (Option EnrollmentTokenRecord) → Prop
  | refused (raised : Exc) : after.tables = world.tables →
      attempt.refused (attempt.consumption tokenHash nodeName) ≠ none →
      ConsumptionEnd attempt tokenHash nodeName world after (.error raised)
  | untaken : after.tables = world.tables →
      (attempt.consumption tokenHash nodeName).taken world.tables = none →
      ConsumptionEnd attempt tokenHash nodeName world after (.ok none)
  | unread (row : TokenRow) (raised : Exc) :
      (attempt.consumption tokenHash nodeName).taken world.tables = some row →
      attempt.refused (attempt.consumption tokenHash nodeName) = none → ¬Readable attempt row →
      Spent world.tables after.tables →
      ConsumptionEnd attempt tokenHash nodeName world after (.error raised)
  | read (row : TokenRow) (record : EnrollmentTokenRecord) :
      (attempt.consumption tokenHash nodeName).taken world.tables = some row →
      attempt.refused (attempt.consumption tokenHash nodeName) = none → Readable attempt row →
      Spent world.tables after.tables → after.tables.agents = world.tables.agents →
      Recorded row record →
      ConsumptionEnd attempt tokenHash nodeName world after (.ok (some record))

theorem consume_alone {tokenHash nodeName : Str} :
    Alone attempt (attempt.service.store.consumeEnrollmentToken tokenHash nodeName attempt.now.asUtc)
      (fun outcome after => ConsumptionEnd attempt tokenHash nodeName world after outcome) world := by
  obtain ⟨result, answered, consumption⟩ :=
    @execute_consumption attempt world tokenHash nodeName
  cases backend : attempt.backend with
  | postgres =>
      have statement : attempt.consumption tokenHash nodeName =
          .consumeActive tokenHash nodeName attempt.now.asUtc.asUtc := by
        unfold Attempt.consumption
        rw [backend]
      rw [store_postgres backend]
      refine Coro.wp_bind (execute_alone ?_ ?_)
      · intro raised refused
        refine .refused raised rfl ?_
        unfold Attempt.refused
        rw [backend, statement, refused]
        simp
      · intro served
        have unrefused : attempt.refused (attempt.consumption tokenHash nodeName) = none := by
          unfold Attempt.refused
          rw [backend, statement]
          exact served
        rw [← statement, answered]
        dsimp only
        split
        · rename_i none
          rw [consumption.row] at none
          exact .untaken (consumption.untaken none) none
        · rename_i row found
          rw [consumption.row] at found
          refine Coro.wp_bind (Coro.wp_ofAnswer ?_)
          cases read : labelsOf row.labels with
          | error raised =>
              refine .unread row raised found unrefused ?_ (consumption.taken row found)
              intro readable
              rw [labelsOf_ok (readable backend)] at read
              cases read
          | ok labels =>
              obtain ⟨rfl, valid⟩ := labelsOf_valid read
              exact .read row _ found unrefused (fun _ => valid) (consumption.taken row found)
                consumption.agents ⟨rfl, rfl⟩
  | inMemory =>
      have statement : attempt.consumption tokenHash nodeName =
          .consumeToken tokenHash nodeName attempt.now.asUtc := by
        unfold Attempt.consumption
        rw [backend]
      have unrefused : attempt.refused (attempt.consumption tokenHash nodeName) = none := by
        unfold Attempt.refused
        rw [backend]
      rw [store_inMemory backend]
      refine Coro.wp_bind (change_alone ?_)
      rw [← statement, answered]
      dsimp only
      split
      · rename_i none
        rw [consumption.row] at none
        exact .untaken (consumption.untaken none) none
      · rename_i row found
        rw [consumption.row] at found
        refine .read row _ found unrefused ?_ (consumption.taken row found) consumption.agents ⟨rfl, rfl⟩
        intro impossible
        rw [backend] at impossible
        cases impossible

/-- The insert of an agent, when it is served. -/
theorem execute_insertAgent (agent : StoredAgent) :
    ((∃ result, (world.execute 0 (.insertAgent agent)).1 = .ok result) ↔
      ∀ old ∈ world.tables.agents, old.agentId ≠ agent.agentId ∧ old.nodeName ≠ agent.nodeName ∧
        old.certSerial ≠ agent.certSerial) := by
  rw [← insertAgent_run]
  unfold EnrollmentWorld.execute
  cases (Statement.insertAgent agent).run world.tables with
  | error raised =>
      constructor
      · rintro ⟨_, impossible⟩
        cases impossible
      · rintro ⟨_, _, impossible⟩
        cases impossible
  | ok done =>
      constructor
      · intro _
        exact ⟨done.1, done.2, rfl⟩
      · intro _
        exact ⟨done.1, rfl⟩

theorem persist_alone {start : Tables} {agent : StoredAgent} (spent : Spent start world.tables) :
    Alone attempt (attempt.service.store.persistAgent agent) (fun outcome after =>
      Spent start after.tables ∧ (outcome = .ok () ↔ attempt.Stores world agent)) world := by
  cases backend : attempt.backend with
  | postgres =>
      rw [store_postgres backend]
      unfold Attempt.Stores
      rw [backend]
      refine Coro.wp_bind (execute_alone ?_ ?_)
      · intro raised refused
        simp [refused, spent]
      intro served
      have fits := @execute_insertAgent world
        { agent with certExpiresAt := agent.certExpiresAt.asUtc }
      have kept := @execute_spent start (.insertAgent
        { agent with certExpiresAt := agent.certExpiresAt.asUtc }) world 0 rfl spent
      cases inserted : (world.execute 0 (.insertAgent
          { agent with certExpiresAt := agent.certExpiresAt.asUtc })).1 with
      | error raised =>
          rw [inserted] at fits
          refine ⟨kept, (fun impossible => nomatch impossible), ?_⟩
          rintro ⟨-, -, free⟩
          obtain ⟨_, impossible⟩ := fits.mpr free
          cases impossible
      | ok result =>
          rw [inserted] at fits
          have free := fits.mp ⟨result, rfl⟩
          refine Coro.wp_bind (execute_alone ?_ ?_)
          · intro raised refused
            simp [refused, kept]
          intro bound
          exact ⟨execute_spent rfl kept, fun _ => ⟨served, bound, free⟩, fun _ => rfl⟩
  | inMemory =>
      rw [store_inMemory backend]
      unfold Attempt.Stores
      rw [backend]
      refine Coro.wp_bind (change_alone ?_)
      exact ⟨execute_spent rfl spent, by simp⟩

/-- The agent of the call, when every check passes. -/
theorem agentOf_iff {nodeName : Str} {row : TokenRow} {record : EnrollmentTokenRecord}
    (recorded : Recorded row record) {agent : StoredAgent} {issued : IssuedAgentCertificate} :
    attempt.service.agentOf attempt.request attempt.draws nodeName record attempt.now.asUtc =
        .ok (agent, issued) ↔
      validateNodeSshHostPublicKey attempt.config.library attempt.request.nodeSshHostPublicKey =
          .ok row.nodeSshHostPublicKey ∧
        ∃ agentKey secretHash,
          loadAgentPublicKey attempt.config.library attempt.request.agentX509PublicKey = .ok agentKey ∧
          EnrollmentService.tokenHashOf attempt.config.library attempt.draws.tunnelSecret =
            .ok secretHash ∧
          issueAgentClientCertificate attempt.config.library agentKey nodeName attempt.draws.agentId
            attempt.now.asUtc AGENT_CERT_DEFAULT_LIFETIME_DAYS = .ok issued ∧
          agent = attempt.agent nodeName row issued secretHash := by
  constructor
  · intro made
    obtain ⟨hostKey, requested, made⟩ := bind_ok.mp made
    split at made
    · cases made
    rename_i same
    obtain ⟨agentKey, loaded, made⟩ := bind_ok.mp made
    obtain ⟨tunnelSecret, long, made⟩ := bind_ok.mp made
    obtain ⟨certificate, signed, made⟩ := bind_ok.mp made
    obtain ⟨secretHash, hashed, made⟩ := bind_ok.mp made
    cases made
    refine ⟨?_, agentKey, secretHash, loaded, bind_ok.mpr ⟨tunnelSecret, long, hashed⟩, signed, ?_⟩
    · rw [← recorded.hostKey, ← not_not.mp same]
      exact EnrollmentService.requestedHostKey_ok requested
    · rw [Attempt.agent, recorded.labels, recorded.hostKey]
  · rintro ⟨requested, agentKey, secretHash, loaded, hashed, signed, rfl⟩
    obtain ⟨tunnelSecret, long, hashed⟩ := bind_ok.mp hashed
    refine bind_ok.mpr ⟨row.nodeSshHostPublicKey, ?_, ?_⟩
    · unfold EnrollmentService.requestedHostKey
      rw [show attempt.service.library = attempt.config.library from rfl, requested]
    rw [if_neg (not_not.mpr recorded.hostKey.symm)]
    refine bind_ok.mpr ⟨agentKey, loaded, bind_ok.mpr ⟨tunnelSecret, long,
      bind_ok.mpr ⟨issued, signed, bind_ok.mpr ⟨secretHash, hashed, ?_⟩⟩⟩⟩
    rw [Attempt.agent, recorded.labels, recorded.hostKey]

/-- A call that raises does not return, so what it returns under is false. -/
theorem raises_unless {condition : Prop} {raised : Exc} (fails : ¬condition) :
    (∃ response : α, (.error raised : Except Exc α) = .ok response) ↔ condition := by
  constructor
  · rintro ⟨_, impossible⟩
    cases impossible
  · exact fun holds => (fails holds).elim

/-- Once the token is spent it stays spent, and the call returns only if nothing
fails. -/
theorem enrollConsumed_alone {start : EnrollmentWorld} {nodeName : Str} {row : TokenRow}
    {record : EnrollmentTokenRecord} (recorded : Recorded row record) (readable : Readable attempt row)
    (spent : Spent start.tables world.tables) (agents : world.tables.agents = start.tables.agents) :
    Alone attempt (attempt.service.enrollConsumed attempt.request attempt.draws nodeName record
      attempt.now.asUtc) (fun outcome after => Spent start.tables after.tables ∧
        ((∃ response, outcome = .ok response) ↔ ∃ agentKey issued secretHash,
          attempt.Succeeds start nodeName row agentKey issued secretHash)) world := by
  refine Coro.wp_bind (Coro.wp_ofAnswer ?_)
  cases made : attempt.service.agentOf attempt.request attempt.draws nodeName record
      attempt.now.asUtc with
  | error raised =>
      refine ⟨spent, raises_unless ?_⟩
      rintro ⟨agentKey, issued, secretHash, succeeds⟩
      have would := (agentOf_iff recorded).mpr ⟨succeeds.hostKey, agentKey, secretHash,
        succeeds.loaded, succeeds.tunnelSecret, succeeds.certificate, rfl⟩
      rw [made] at would
      cases would
  | ok both =>
  obtain ⟨agent, issued⟩ := both
  obtain ⟨hostKey, agentKey, secretHash, loaded, hashed, signed, rfl⟩ := (agentOf_iff recorded).mp made
  -- what the condition promises is about the certificate that was issued here
  have only : ∀ otherKey other otherHash,
      attempt.Succeeds start nodeName row otherKey other otherHash →
        attempt.Succeeds start nodeName row agentKey issued secretHash := by
    intro otherKey other otherHash succeeds
    have sameKey := succeeds.loaded.symm.trans loaded
    cases sameKey
    have sameIssued := succeeds.certificate.symm.trans signed
    cases sameIssued
    have sameHash := succeeds.tunnelSecret.symm.trans hashed
    cases sameHash
    exact succeeds
  have stores : attempt.Stores world (attempt.agent nodeName row issued secretHash) ↔
      attempt.Stores start (attempt.agent nodeName row issued secretHash) := by
    unfold Attempt.Stores
    rw [agents]
  refine Coro.wp_bind (Coro.wp_mono ?_ (persist_alone spent))
  rintro (raised | _) middle ⟨spent, stored⟩
  · refine ⟨spent, raises_unless ?_⟩
    rintro ⟨_, _, _, succeeds⟩
    have impossible := stored.mpr (stores.mpr (only _ _ _ succeeds).stored)
    cases impossible
  refine Coro.wp_bind (Coro.wp_mono ?_ (audit_alone _ _))
  rintro (raised | _) after ⟨rfl, audited⟩
  · refine ⟨spent, raises_unless ?_⟩
    rintro ⟨_, _, _, succeeds⟩
    have impossible := audited.mpr (only _ _ _ succeeds).audited
    cases impossible
  refine Coro.wp_bind (Coro.wp_ofAnswer ?_)
  cases read : decodeAscii issued.certificatePem with
  | error raised =>
      refine ⟨spent, raises_unless ?_⟩
      rintro ⟨_, _, _, succeeds⟩
      obtain ⟨text, impossible⟩ := (only _ _ _ succeeds).certificateText
      rw [read] at impossible
      cases impossible
  | ok text =>
      refine ⟨spent, ?_, fun _ => ⟨_, rfl⟩⟩
      exact fun _ => ⟨agentKey, issued, secretHash, readable, hostKey, loaded, hashed, signed,
        stores.mp (stored.mp rfl), audited.mp rfl, text, read⟩

/-- The call up to the consumption. -/
theorem enrollBody_alone : Alone attempt
    (attempt.service.enrollBody attempt.request attempt.draws attempt.now.asUtc) (fun outcome after =>
      ((∀ nodeName tokenHash row, ¬attempt.Takes world nodeName tokenHash row) ∧
        after.tables = world.tables ∧ ∃ raised, outcome = .error raised) ∨
      ∃ nodeName tokenHash row, attempt.Takes world nodeName tokenHash row ∧
        Spent world.tables after.tables ∧
        ((∃ response, outcome = .ok response) ↔ ∃ agentKey issued secretHash,
          attempt.Succeeds world nodeName row agentKey issued secretHash)) world := by
  refine Coro.wp_bind (Coro.wp_ofAnswer ?_)
  cases node : validateNodeName attempt.request.nodeName with
  | error raised =>
      refine .inl ⟨?_, rfl, raised, rfl⟩
      intro nodeName tokenHash row takes
      rw [takes.node] at node
      cases node
  | ok nodeName =>
  refine Coro.wp_bind (Coro.wp_ofAnswer ?_)
  cases hashed : EnrollmentService.tokenHashOf attempt.service.library attempt.request.token with
  | error raised =>
      refine .inl ⟨?_, rfl, raised, rfl⟩
      intro _ tokenHash row takes
      rw [show attempt.service.library = attempt.config.library from rfl, takes.hashed] at hashed
      cases hashed
  | ok tokenHash =>
  -- the names of a token that is taken are those of this call
  have named : ∀ node' hash' row, attempt.Takes world node' hash' row →
      node' = nodeName ∧ hash' = tokenHash := by
    intro node' hash' row takes
    have sameNode := takes.node.symm.trans node
    have sameHash := takes.hashed.symm.trans hashed
    cases sameNode
    cases sameHash
    exact ⟨rfl, rfl⟩
  refine Coro.wp_bind (change_alone ?_)
  dsimp only
  split
  · rename_i limited
    refine .inl ⟨?_, rfl, _, rfl⟩
    intro node' hash' row takes
    obtain ⟨rfl, rfl⟩ := named _ _ _ takes
    rw [takes.unlimited] at limited
    cases limited
  rename_i unlimited
  refine Coro.wp_bind (Coro.wp_mono ?_ consume_alone)
  intro outcome after ended
  cases ended with
  | refused raised same refused =>
      refine .inl ⟨?_, same, raised, rfl⟩
      intro node' hash' row takes
      obtain ⟨rfl, rfl⟩ := named _ _ _ takes
      exact refused takes.served
  | untaken same none =>
      refine .inl ⟨?_, same, _, rfl⟩
      intro node' hash' row takes
      obtain ⟨rfl, rfl⟩ := named _ _ _ takes
      rw [takes.row] at none
      cases none
  | unread row raised taken served unreadable spent =>
      refine .inr ⟨nodeName, tokenHash, row, ⟨node, hashed, Bool.eq_false_iff.mpr unlimited, served,
        taken⟩, spent, raises_unless ?_⟩
      rintro ⟨_, _, _, succeeds⟩
      exact unreadable succeeds.labels
  | read row record taken served readable spent agents recorded =>
      refine Coro.wp_mono ?_
        (@enrollConsumed_alone attempt after world nodeName row record recorded readable spent agents)
      rintro outcome last ⟨spent, returns⟩
      exact .inr ⟨nodeName, tokenHash, row, ⟨node, hashed, Bool.eq_false_iff.mpr unlimited, served,
        taken⟩, spent, returns⟩

/-- The failure clause raises and leaves the tables alone. -/
theorem enrollFault_alone {raised : Exc} : Alone attempt
    (attempt.service.enrollFault attempt.request attempt.now.asUtc raised) (fun outcome after =>
      after.tables = world.tables ∧ ∃ fault, outcome = .error fault) world := by
  unfold EnrollmentService.enrollFault
  split
  · refine Coro.wp_bind (Coro.wp_bind (Coro.wp_ofAnswer ?_))
    cases bestEffortTokenHash attempt.service.library attempt.request.token with
    | error fault => exact ⟨rfl, fault, rfl⟩
    | ok tokenHash =>
        refine Coro.wp_bind (wp_atomic trivial ?_)
        rintro answer after ⟨⟩
        refine Coro.wp_mono ?_ (audit_alone _ _)
        rintro (fault | _) after ⟨rfl, -⟩
        · exact ⟨rfl, fault, rfl⟩
        · exact ⟨rfl, _, rfl⟩
  · exact ⟨rfl, raised, rfl⟩

/-- One call: either it raises and changes no table, or it spends a token and
returns if nothing fails after that. -/
theorem enroll_run (attempt : Attempt) (world : EnrollmentWorld) :
    ((∀ nodeName tokenHash row, ¬attempt.Takes world nodeName tokenHash row) ∧
      (attempt.run world).2.tables = world.tables) ∨
    ∃ nodeName tokenHash row, attempt.Takes world nodeName tokenHash row ∧
      Spent world.tables (attempt.run world).2.tables ∧
      ((∃ response, (attempt.run world).1 = .ok response) ↔ ∃ agentKey issued secretHash,
        attempt.Succeeds world nodeName row agentKey issued secretHash) := by
  have alone : Alone attempt (attempt.service.enroll attempt.request attempt.draws attempt.now)
      (fun outcome after =>
        ((∀ nodeName tokenHash row, ¬attempt.Takes world nodeName tokenHash row) ∧
          after.tables = world.tables) ∨
        ∃ nodeName tokenHash row, attempt.Takes world nodeName tokenHash row ∧
          Spent world.tables after.tables ∧
          ((∃ response, outcome = .ok response) ↔ ∃ agentKey issued secretHash,
            attempt.Succeeds world nodeName row agentKey issued secretHash)) world := by
    refine Coro.wp_handle (Coro.wp_mono ?_ enrollBody_alone)
    rintro (raised | response) after (⟨none, same, -⟩ | ⟨nodeName, tokenHash, row, takes, spent, returns⟩)
    · refine Coro.wp_mono ?_ enrollFault_alone
      rintro outcome last ⟨kept, -⟩
      exact .inl ⟨none, kept.trans same⟩
    · refine Coro.wp_mono ?_ enrollFault_alone
      rintro outcome last ⟨kept, fault, rfl⟩
      refine .inr ⟨nodeName, tokenHash, row, takes, kept ▸ spent, raises_unless ?_⟩
      intro succeeds
      obtain ⟨_, impossible⟩ := returns.mpr succeeds
      cases impossible
    · exact .inl ⟨none, same⟩
    · exact .inr ⟨nodeName, tokenHash, row, takes, spent, returns⟩
  exact Coro.wp_run alone

/-- An enrollment is all or nothing exactly if it consumes no token or nothing
fails after it consumed one. -/
theorem enroll_all_or_nothing (attempt : Attempt) (world : EnrollmentWorld) :
    attempt.AllOrNothing world ↔ ∀ nodeName tokenHash row,
      attempt.Takes world nodeName tokenHash row → ∃ agentKey issued secretHash,
        attempt.Succeeds world nodeName row agentKey issued secretHash := by
  rcases enroll_run attempt world with ⟨none, same⟩ | ⟨nodeName, tokenHash, row, takes, spent, returns⟩
  · constructor
    · intro _ nodeName tokenHash row takes
      exact (none nodeName tokenHash row takes).elim
    · intro _ raised after ran
      rw [ran] at same
      exact same
  · constructor
    · intro holds node' hash' row' takes'
      have unique : row' = row ∧ node' = nodeName := by
        have sameNode := takes'.node.symm.trans takes.node
        cases sameNode
        have sameHash := takes'.hashed.symm.trans takes.hashed
        cases sameHash
        exact ⟨Option.some.inj (takes'.row.symm.trans takes.row), rfl⟩
      obtain ⟨rfl, rfl⟩ := unique
      apply returns.mp
      match ran : attempt.run world with
      | (.ok response, after) => exact ⟨response, rfl⟩
      | (.error raised, after) =>
          have changed := spent_ne spent
          rw [ran] at changed
          exact (changed (holds raised after ran)).elim
    · intro condition raised after ran
      obtain ⟨response, impossible⟩ := returns.mpr (condition nodeName tokenHash row takes)
      rw [ran] at impossible
      cases impossible
end Alone

/-- Nothing is refused, and the request names a host key that is not the token's. -/
def attemptOne : Attempt where
  backend := .postgres
  config := configOne
  clock := ⟨0, some 0⟩
  draws := drawsOne
  faults := ⟨fun _ => none, fun _ => none⟩
  request := requestOne (lit "ssh-ed25519 AAAA")
  now := ⟨1000000, some 0⟩

def rowOne : TokenRow where
  tokenHash := lit "66d34fba71f8f450f7e45598853e53bfc23bbd129027cbb131a2f4ffd7878cd0"
  nodeName := lit "node01"
  labels := [lit "edge"]
  nodeSshHostPublicKey := nodeKeyOne
  createdBy := lit "admin"
  createdAt := some ⟨0, some 0⟩
  expiresAt := ⟨604800000000, some 0⟩
  used := false
  usedAt := none
  disabledAt := none
  agentId := none

/-- The mismatch is found after the token is spent. -/
theorem host_key_mismatch_spends_token :
    ¬attemptOne.AllOrNothing ⟨⟨[rowOne], []⟩, .new, []⟩ := by
  intro holds
  have ran : attemptOne.run ⟨⟨[rowOne], []⟩, .new, []⟩ =
      (.error (.enrollmentError "enrollment failed"), _) := rfl
  have same := congrArg (fun tables => tables.tokens.map (·.used)) (holds _ _ ran)
  cases same

end VibeConnect.EnrollmentRollback
