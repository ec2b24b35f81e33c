import VibeConnect.Python.RelatedRuns
import VibeConnect.Enrollment

/-! The in-memory enrollment store beside the PostgreSQL store. Requests that come one after another get the
same answers from both, for as long as no insert breaks a constraint of the database: the in-memory store has
no constraints, does not bind tokens to agents and keeps the times as they are given. -/
namespace VibeConnect.EnrollmentStores
open Python.Text Python.JsonCodec Python.Values Python.Coroutine Python.Tasks Models JumpCoordinator
open TunnelAuthenticator Enrollment

/-! Rows that hold the same. -/

/-- The in-memory row has no `created_at` and no agent, and the times of a PostgreSQL row are in UTC. -/
structure SameToken (row memory : TokenRow) : Prop where
  tokenHash : row.tokenHash = memory.tokenHash
  nodeName : row.nodeName = memory.nodeName
  labels : row.labels = memory.labels
  nodeSshHostPublicKey : row.nodeSshHostPublicKey = memory.nodeSshHostPublicKey
  expiresAt : row.expiresAt.instant = memory.expiresAt.instant
  used : row.used = memory.used
  disabledAt : row.disabledAt = memory.disabledAt

structure SameAgent (row memory : StoredAgent) : Prop where
  agentId : row.agentId = memory.agentId
  nodeName : row.nodeName = memory.nodeName
  labels : row.labels = memory.labels
  x509PublicKey : row.x509PublicKey = memory.x509PublicKey
  nodeSshHostPublicKey : row.nodeSshHostPublicKey = memory.nodeSshHostPublicKey
  tunnelSecretHash : row.tunnelSecretHash = memory.tunnelSecretHash
  certSerial : row.certSerial = memory.certSerial
  certExpiresAt : row.certExpiresAt.instant = memory.certExpiresAt.instant

/-- The tables, row by row, with what the constraints and the service keep of the tokens. -/
structure SameTables (postgres memory : Tables) : Prop where
  tokens : List.Forall₂ SameToken postgres.tokens memory.tokens
  agents : List.Forall₂ SameAgent postgres.agents memory.agents
  distinct : (postgres.tokens.map TokenRow.tokenHash).Nodup
  labelled : ∀ row ∈ postgres.tokens, ∀ label ∈ row.labels, isLabel label = true

section Rows
variable {row memory : TokenRow} {rows memories : List TokenRow} {nodeName tokenHash : Str} {now : DateTime}

theorem SameToken.active (same : SameToken row memory) : row.active = memory.active := by
  simp only [TokenRow.active, same.used, same.disabledAt]

theorem SameToken.activeFor (same : SameToken row memory) :
    row.activeFor nodeName = memory.activeFor nodeName := by
  simp only [TokenRow.activeFor, same.nodeName, same.active]

theorem SameToken.consumable (same : SameToken row memory) :
    row.consumable nodeName now.asUtc = memory.consumable nodeName now := by
  simp only [TokenRow.consumable, same.activeFor, same.expiresAt, DateTime.instant_asUtc]

theorem SameToken.disable (same : SameToken row memory) : SameToken (row.disable now) (memory.disable now) :=
  { same with disabledAt := rfl }

theorem SameToken.use {later : DateTime} (same : SameToken row memory) :
    SameToken (row.use later) (memory.use now) := { same with used := rfl }

theorem SameToken.bind {agentId : Uuid} (same : SameToken row memory) : SameToken (row.bind agentId) memory :=
  { same with }

/-- Two updates that choose the same rows. -/
theorem updateWhere_same {chosen other : TokenRow → Bool} {change second : TokenRow → TokenRow}
    (same : List.Forall₂ SameToken rows memories)
    (choose : ∀ row memory, SameToken row memory → chosen row = other memory)
    (keeps : ∀ row memory, SameToken row memory → SameToken (change row) (second memory)) :
    List.Forall₂ SameToken (updateWhere chosen change rows) (updateWhere other second memories) := by
  induction same with
  | nil => exact .nil
  | @cons row memory rows memories first rest ih =>
      refine .cons ?_ ih
      dsimp only
      rw [choose row memory first]
      cases other memory with
      | false => exact first
      | true => exact keeps row memory first

theorem updateWhere_left {chosen : TokenRow → Bool} {change : TokenRow → TokenRow}
    (same : List.Forall₂ SameToken rows memories)
    (keeps : ∀ row memory, SameToken row memory → SameToken (change row) memory) :
    List.Forall₂ SameToken (updateWhere chosen change rows) memories := by
  induction same with
  | nil => exact .nil
  | @cons row memory rows memories first rest ih =>
      refine .cons ?_ ih
      dsimp only
      split
      · exact keeps row memory first
      · exact first

theorem updateWhere_hashes {chosen : TokenRow → Bool} {change : TokenRow → TokenRow}
    (keeps : ∀ row, (change row).tokenHash = row.tokenHash) :
    (updateWhere chosen change rows).map TokenRow.tokenHash = rows.map TokenRow.tokenHash := by
  rw [updateWhere, List.map_map]
  apply List.map_congr_left
  intro row _
  dsimp only [Function.comp]
  split
  · exact keeps row
  · rfl

theorem updateWhere_labels {chosen : TokenRow → Bool} {change : TokenRow → TokenRow}
    (keeps : ∀ row, (change row).labels = row.labels)
    (labelled : ∀ row ∈ rows, ∀ label ∈ row.labels, isLabel label = true) :
    ∀ row ∈ updateWhere chosen change rows, ∀ label ∈ row.labels, isLabel label = true := by
  intro row member
  obtain ⟨old, inside, rfl⟩ := List.mem_map.mp member
  split
  · rw [keeps]
    exact labelled old inside
  · exact labelled old inside

theorem any_hash_same (same : List.Forall₂ SameToken rows memories) :
    (rows.any fun old => old.tokenHash == tokenHash) =
      memories.any fun old => old.tokenHash == tokenHash := by
  induction same with
  | nil => rfl
  | cons first rest ih => rw [List.any_cons, List.any_cons, ih, first.tokenHash]

theorem any_agent_same {agents others : List StoredAgent} {agentId : Uuid}
    (same : List.Forall₂ SameAgent agents others) :
    (agents.any fun old => old.agentId == agentId) = others.any fun old => old.agentId == agentId := by
  induction same with
  | nil => rfl
  | cons first rest ih => rw [List.any_cons, List.any_cons, ih, first.agentId]

/-- After the active rows of a node are disabled, none of them is active. -/
theorem disabled_inactive :
    (updateWhere (TokenRow.activeFor nodeName) (TokenRow.disable now) rows).any
      (TokenRow.activeFor nodeName) = false := by
  rw [List.any_eq_false]
  intro row member active
  obtain ⟨old, -, rfl⟩ := List.mem_map.mp member
  split at active
  · simp [TokenRow.activeFor, TokenRow.active, TokenRow.disable] at active
  · rename_i inactive
    exact inactive active
end Rows

/-! The row that is consumed. -/
section Taken
variable {rows memories : List TokenRow} {nodeName tokenHash : Str} {now : DateTime}

/-- The statement of the PostgreSQL store looks for the hash and the conditions at once, the in-memory store
for the hash alone: the hashes are distinct. -/
theorem find_hash (distinct : (rows.map TokenRow.tokenHash).Nodup) {holds : TokenRow → Bool} :
    (rows.find? fun row => row.tokenHash == tokenHash && holds row) =
      (rows.find? fun row => row.tokenHash == tokenHash).filter holds := by
  induction rows with
  | nil => rfl
  | cons first rest ih =>
      obtain ⟨fresh, distinct⟩ := List.nodup_cons.mp distinct
      rw [List.find?_cons, List.find?_cons]
      by_cases same : first.tokenHash = tokenHash
      · subst same
        cases kept : holds first with
        | true => simp [kept, Option.filter]
        | false =>
            have none : (rest.find? fun row => row.tokenHash == first.tokenHash && holds row) = none := by
              apply List.find?_eq_none.mpr
              intro row member matched
              obtain ⟨equal, -⟩ := Bool.and_eq_true_iff.mp matched
              exact fresh (List.mem_map.mpr ⟨row, member, beq_iff_eq.mp equal⟩)
            simp [kept, none, Option.filter]
      · simp only [beq_eq_false_iff_ne.mpr same, Bool.false_and]
        exact ih distinct

theorem find_hash_same (same : List.Forall₂ SameToken rows memories) :
    Option.Rel SameToken (rows.find? fun row => row.tokenHash == tokenHash)
      (memories.find? fun row => row.tokenHash == tokenHash) := by
  induction same with
  | nil => exact .none
  | @cons row memory rows memories first rest ih =>
      rw [List.find?_cons, List.find?_cons, first.tokenHash]
      cases memory.tokenHash == tokenHash with
      | true => exact .some first
      | false => exact ih

theorem consumable_iff {row : TokenRow} : row.consumable nodeName now = true ↔ row.nodeName = nodeName ∧
    ¬(row.used = true ∨ row.disabledAt.isSome = true) ∧ ¬row.expiresAt.instant ≤ now.instant := by
  simp only [TokenRow.consumable, TokenRow.activeFor, TokenRow.active, Bool.and_eq_true,
    decide_eq_true_eq, Bool.not_eq_true', not_or, not_le, Bool.not_eq_true, Option.isSome_eq_false_iff,
    Option.isNone_iff_eq_none]
  tauto

theorem filter_same {one two : Option TokenRow} {holds others : TokenRow → Bool}
    (same : Option.Rel SameToken one two)
    (agree : ∀ row memory, SameToken row memory → holds row = others memory) :
    Option.Rel SameToken (one.filter holds) (two.filter others) := by
  cases same with
  | none => exact .none
  | @some row memory equal =>
      dsimp only [Option.filter]
      rw [agree row memory equal]
      split
      · exact .some equal
      · exact .none

/-- The update of the PostgreSQL store changes the row with the hash if it is the one to be consumed. -/
theorem updateWhere_hash (distinct : (rows.map TokenRow.tokenHash).Nodup) {holds : TokenRow → Bool}
    {change : TokenRow → TokenRow} :
    updateWhere (fun row => row.tokenHash == tokenHash && holds row) change rows =
      if (rows.find? fun row => row.tokenHash == tokenHash && holds row).isSome then
        updateWhere (fun row => row.tokenHash == tokenHash) change rows
      else rows := by
  cases found : rows.find? fun row => row.tokenHash == tokenHash && holds row with
  | none =>
      rw [Option.isSome_none, if_neg Bool.false_ne_true]
      have unchanged : ∀ row ∈ rows,
          (if row.tokenHash == tokenHash && holds row then change row else row) = row :=
        fun row member => if_neg (List.find?_eq_none.mp found row member)
      rw [updateWhere, List.map_congr_left unchanged, List.map_id']
  | some taken =>
      rw [Option.isSome_some, if_pos rfl]
      have matched := List.find?_some found
      obtain ⟨hash, kept⟩ := Bool.and_eq_true_iff.mp matched
      apply List.map_congr_left
      intro row member
      by_cases equal : row.tokenHash = tokenHash
      · have one : row = taken := List.inj_on_of_nodup_map distinct member (List.mem_of_find?_eq_some found)
          (equal.trans (beq_iff_eq.mp hash).symm)
        simp [one, hash, kept]
      · simp [equal]

/-- The checks of the in-memory store, one by one, are the condition of the statement. -/
theorem consumeToken_taken (tables : Tables) :
    (Statement.consumeToken tokenHash nodeName now).taken tables =
      (tables.tokens.find? fun row => row.tokenHash == tokenHash).filter
        (TokenRow.consumable nodeName now) := by
  dsimp only [Statement.taken]
  cases tables.tokens.find? fun row => row.tokenHash == tokenHash with
  | none => rfl
  | some row =>
      dsimp only [Option.filter]
      by_cases kept : row.consumable nodeName now = true
      · obtain ⟨named, unspent, early⟩ := consumable_iff.mp kept
        rw [if_neg (not_not.mpr named), if_neg unspent, if_neg early, if_pos kept]
      · rw [if_neg kept]
        by_contra found
        apply kept
        apply consumable_iff.mpr
        refine ⟨?_, ?_, ?_⟩ <;> by_contra <;> simp_all

end Taken

/-! The tables after each operation. -/
section Operations
variable {postgres memory : Tables} {nodeName tokenHash : Str} {now later : DateTime}

/-- An update of the tokens of one node, in both. -/
theorem SameTables.update {chosen other : TokenRow → Bool} {change second : TokenRow → TokenRow}
    (same : SameTables postgres memory)
    (choose : ∀ row memory, SameToken row memory → chosen row = other memory)
    (keeps : ∀ row memory, SameToken row memory → SameToken (change row) (second memory))
    (hash : ∀ row, (change row).tokenHash = row.tokenHash)
    (labels : ∀ row, (change row).labels = row.labels) :
    SameTables { postgres with tokens := updateWhere chosen change postgres.tokens }
      { memory with tokens := updateWhere other second memory.tokens } where
  tokens := updateWhere_same same.tokens choose keeps
  agents := same.agents
  distinct := (updateWhere_hashes hash).symm ▸ same.distinct
  labelled := updateWhere_labels labels same.labelled

theorem SameTables.disable (same : SameTables postgres memory) :
    SameTables
      { postgres with
        tokens := updateWhere (TokenRow.activeFor nodeName) (TokenRow.disable now) postgres.tokens }
      { memory with
        tokens := updateWhere (TokenRow.activeFor nodeName) (TokenRow.disable now) memory.tokens } :=
  same.update (fun _ _ row => row.activeFor) (fun _ _ row => row.disable) (fun _ => rfl) fun _ => rfl

/-- A new hash is appended by both. -/
theorem SameTables.insert {row token : TokenRow} (same : SameTables postgres memory)
    (equal : SameToken row token)
    (fresh : postgres.tokens.any (fun old => old.tokenHash == row.tokenHash) = false)
    (labelled : ∀ label ∈ row.labels, isLabel label = true) :
    SameTables { postgres with tokens := postgres.tokens ++ [row] }
      { memory with tokens := setToken token memory.tokens } := by
  have absent : memory.tokens.any (fun old => old.tokenHash == token.tokenHash) = false := by
    rw [← any_hash_same same.tokens, ← equal.tokenHash]
    exact fresh
  constructor
  · rw [setToken, absent, if_neg Bool.false_ne_true]
    exact List.rel_append same.tokens (.cons equal .nil)
  · exact same.agents
  · rw [List.map_append]
    refine List.nodup_append.mpr ⟨same.distinct, List.nodup_singleton _, ?_⟩
    intro hash old other new equal
    obtain ⟨before, member, rfl⟩ := List.mem_map.mp old
    rw [List.map_singleton, List.mem_singleton] at new
    exact absurd (beq_iff_eq.mpr (equal.trans new)) (by simpa using List.any_eq_false.mp fresh before member)
  · intro token member
    rcases List.mem_append.mp member with old | new
    · exact same.labelled token old
    · exact List.mem_singleton.mp new ▸ labelled

/-- Both stores find the same row, or none. -/
theorem SameTables.taken (same : SameTables postgres memory) :
    Option.Rel SameToken ((Statement.consumeActive tokenHash nodeName now.asUtc).taken postgres)
      ((Statement.consumeToken tokenHash nodeName now).taken memory) := by
  rw [consumeToken_taken]
  dsimp only [Statement.taken]
  rw [find_hash same.distinct]
  exact filter_same (find_hash_same same.tokens) fun _ _ equal => equal.consumable

theorem rel_isSome {one two : Option TokenRow} (same : Option.Rel SameToken one two) :
    one.isSome = two.isSome := by
  cases same <;> rfl

theorem SameTables.consume (same : SameTables postgres memory) :
    SameTables
      { postgres with
        tokens := updateWhere (fun row => row.tokenHash == tokenHash && row.consumable nodeName now.asUtc)
          (TokenRow.use now.asUtc) postgres.tokens }
      (if ((Statement.consumeToken tokenHash nodeName now).taken memory).isSome then
        { memory with
          tokens := updateWhere (fun row => row.tokenHash == tokenHash) (TokenRow.use now) memory.tokens }
      else memory) := by
  have both := rel_isSome (@SameTables.taken postgres memory nodeName tokenHash now same)
  have updated : updateWhere (fun row => row.tokenHash == tokenHash && row.consumable nodeName now.asUtc)
      (TokenRow.use now.asUtc) postgres.tokens =
      if ((Statement.consumeActive tokenHash nodeName now.asUtc).taken postgres).isSome then
        updateWhere (fun row => row.tokenHash == tokenHash) (TokenRow.use now.asUtc) postgres.tokens
      else postgres.tokens := updateWhere_hash same.distinct
  rw [updated, both]
  split
  · apply same.update
    · intro row memory equal
      rw [equal.tokenHash]
    · exact fun _ _ equal => equal.use
    · exact fun _ => rfl
    · exact fun _ => rfl
  · exact same

/-- A new agent is appended by both, and the tokens are bound by one. -/
theorem SameTables.persist {agent : StoredAgent} (same : SameTables postgres memory)
    (fresh : ∀ old ∈ postgres.agents, old.agentId ≠ agent.agentId) :
    SameTables
      { tokens := updateWhere (TokenRow.unbound agent.nodeName) (TokenRow.bind agent.agentId) postgres.tokens
        agents := postgres.agents ++ [{ agent with certExpiresAt := agent.certExpiresAt.asUtc }] }
      { memory with agents := setAgent agent memory.agents } where
  tokens := updateWhere_left same.tokens fun _ _ row => row.bind
  agents := by
    have absent : memory.agents.any (fun old => old.agentId == agent.agentId) = false := by
      rw [← any_agent_same same.agents, List.any_eq_false]
      simpa using fresh
    have equal : SameAgent { agent with certExpiresAt := agent.certExpiresAt.asUtc } agent :=
      ⟨rfl, rfl, rfl, rfl, rfl, rfl, rfl, agent.certExpiresAt.instant_asUtc⟩
    rw [setAgent, absent, if_neg Bool.false_ne_true]
    exact List.rel_append same.agents (.cons equal .nil)
  distinct := by
    have kept : (updateWhere (TokenRow.unbound agent.nodeName) (TokenRow.bind agent.agentId)
        postgres.tokens).map TokenRow.tokenHash = postgres.tokens.map TokenRow.tokenHash :=
      updateWhere_hashes fun _ => rfl
    exact kept.symm ▸ same.distinct
  labelled := updateWhere_labels (fun _ => rfl) same.labelled

end Operations

/-! The stores, each alone with its tables. -/
section Stores
variable (written : EnrollmentAudit → Except Exc Unit)

/-- Statements take effect or raise; an audit event is written or not. -/
def answered : (call : EnrollmentCall) → EnrollmentWorld → Except Exc (EnrollmentResult call) × EnrollmentWorld
  | .execute statement, world => world.execute 0 statement
  | .writeAudit audit, world => (written audit, world)

abbrev served : Coro.Server (TaskOp EnrollmentWorld EnrollmentCall Exc)
    (TaskAns EnrollmentWorld EnrollmentResult) Exc EnrollmentWorld := serve (answered written)

/-- The same tables, and the same failed attempts. -/
structure SameWorld (postgres memory : EnrollmentWorld) : Prop where
  tables : SameTables postgres.tables memory.tables
  limiter : postgres.limiter = memory.limiter

variable {written} {α : Type}

/-- The world after a statement. -/
def ran (statement : Statement) (tables : Tables) (world : EnrollmentWorld) : EnrollmentWorld :=
  { world with tables := tables, history := world.history ++ [⟨0, world.tables, statement⟩] }

theorem execute_ok {statement : Statement} {world : EnrollmentWorld} {result : StatementResult}
    {tables : Tables} (took : statement.run world.tables = .ok (result, tables)) :
    world.execute 0 statement = (.ok result, ran statement tables world) := by
  rw [EnrollmentWorld.execute, took]
  rfl

theorem run_execute {statement : Statement} {world : EnrollmentWorld} {result : StatementResult}
    {tables : Tables} (next : StatementResult → EnrollmentTask α)
    (took : statement.run world.tables = .ok (result, tables)) :
    (execute statement >>= next).run (served written) world =
      (next result).run (served written) (ran statement tables world) := by
  rw [Coro.run_bind, run_call]
  simp only [answered, execute_ok took]

theorem run_executed {statement : Statement} {world : EnrollmentWorld} {result : StatementResult}
    {tables : Tables} (next : StatementResult → EnrollmentTask α)
    (took : statement.run world.tables = .ok (result, tables)) :
    (change (EnrollmentWorld.execute 0 statement) >>= next).run (served written) world =
      (next result).run (served written) (ran statement tables world) := by
  rw [Coro.run_bind, run_change]
  simp only [execute_ok took]

/-- The new row breaks no constraint: no row has its hash, and no other row of its node is active. -/
theorem insertToken_run {tables : Tables} {row : TokenRow}
    (fresh : tables.tokens.any (fun old => old.tokenHash == row.tokenHash) = false)
    (alone : tables.tokens.any (TokenRow.activeFor row.nodeName) = false) :
    (Statement.insertToken row).run tables =
      .ok (⟨none, 1⟩, { tables with tokens := tables.tokens ++ [row] }) := by
  simp [Statement.run, fresh, alone]

theorem create_same {clock : DateTime} {request : TokenRequest}
    (labelled : ∀ label ∈ request.labels, isLabel label = true) :
    Coro.Relates (served written) (served written)
      (fun postgres memory => SameWorld postgres memory ∧
        ∀ row ∈ postgres.tables.tokens, row.tokenHash ≠ request.tokenHash)
      ((postgresEnrollmentStore clock).createEnrollmentToken request)
      ((inMemoryEnrollmentStore 0 clock).createEnrollmentToken request) fun _ => SameWorld := by
  rintro postgres memory ⟨same, fresh⟩
  have disabled := @SameTables.disable _ _ request.nodeName clock same.tables
  have absent : (updateWhere (TokenRow.activeFor request.nodeName) (TokenRow.disable clock)
      postgres.tables.tokens).any (fun old => old.tokenHash == request.tokenHash) = false := by
    rw [List.any_eq_false]
    intro row member equal
    obtain ⟨old, inside, rfl⟩ := List.mem_map.mp member
    apply fresh old inside
    split at equal <;> exact beq_iff_eq.mp equal
  have equal : SameToken { request.row (some clock) with expiresAt := request.expiresAt.asUtc }
      (request.row none) := ⟨rfl, rfl, rfl, rfl, request.expiresAt.instant_asUtc, rfl, rfl⟩
  unfold postgresEnrollmentStore inMemoryEnrollmentStore
  dsimp only
  rw [run_execute _ rfl, run_execute _ (insertToken_run absent disabled_inactive), run_executed _ rfl]
  exact ⟨rfl, disabled.insert equal absent labelled, same.limiter⟩

theorem taken_named {tables : Tables} {tokenHash nodeName : Str} {now : DateTime} {row : TokenRow}
    (taken : (Statement.consumeToken tokenHash nodeName now).taken tables = some row) :
    row.tokenHash = tokenHash ∧ row.nodeName = nodeName := by
  rw [consumeToken_taken] at taken
  obtain ⟨found, kept⟩ := Option.filter_eq_some_iff.mp taken
  have hash := List.find?_some found
  exact ⟨beq_iff_eq.mp hash, (consumable_iff.mp kept).1⟩

def recordOf (row : TokenRow) : EnrollmentTokenRecord :=
  ⟨row.tokenHash, row.nodeName, row.labels, row.nodeSshHostPublicKey⟩

/-- Both give the record of the row, as the database has it. -/
theorem consume_same {clock now : DateTime} {tokenHash nodeName : Str}
    {holds : EnrollmentTokenRecord → List StoredAgent → Prop} :
    Coro.Relates (served written) (served written)
      (fun postgres memory => SameWorld postgres memory ∧ ∀ row,
        (Statement.consumeActive tokenHash nodeName now.asUtc).taken postgres.tables = some row →
          holds (recordOf row) postgres.tables.agents)
      ((postgresEnrollmentStore clock).consumeEnrollmentToken tokenHash nodeName now)
      ((inMemoryEnrollmentStore 0 clock).consumeEnrollmentToken tokenHash nodeName now)
      fun outcome postgres memory => SameWorld postgres memory ∧
        ∀ record, outcome = .ok (some record) → holds record postgres.tables.agents := by
  rintro postgres memory ⟨same, given⟩
  have consumed := @SameTables.consume _ _ nodeName tokenHash now same.tables
  have both := @SameTables.taken _ _ nodeName tokenHash now same.tables
  unfold postgresEnrollmentStore inMemoryEnrollmentStore
  dsimp only
  rw [run_execute _ rfl, run_executed _ rfl]
  dsimp only
  generalize found : (Statement.consumeActive tokenHash nodeName now.asUtc).taken postgres.tables = one at *
  generalize other : (Statement.consumeToken tokenHash nodeName now).taken memory.tables = two at *
  cases both with
  | none => exact ⟨rfl, ⟨consumed, same.limiter⟩, fun record impossible => by cases impossible⟩
  | @some row token equal =>
      obtain ⟨hash, named⟩ := taken_named other
      have inside : row ∈ postgres.tables.tokens := List.mem_of_find?_eq_some found
      have labels := labelsOf_ok (same.tables.labelled row inside)
      have record : (⟨tokenHash, nodeName, token.labels, token.nodeSshHostPublicKey⟩ :
          EnrollmentTokenRecord) = recordOf row := by
        rw [recordOf, equal.tokenHash, equal.nodeName, equal.labels, equal.nodeSshHostPublicKey, hash, named]
      dsimp only
      rw [labels, record]
      refine ⟨rfl, ⟨consumed, same.limiter⟩, ?_⟩
      rintro _ ⟨⟩
      exact given row rfl
/-- No agent has the id, the name or the serial: the constraints of `agents`. -/
def Unused (agent : StoredAgent) (agents : List StoredAgent) : Prop :=
  ∀ old ∈ agents, old.agentId ≠ agent.agentId ∧ old.nodeName ≠ agent.nodeName ∧
    old.certSerial ≠ agent.certSerial

theorem insertAgent_run {tables : Tables} {agent : StoredAgent} (unused : Unused agent tables.agents) :
    (Statement.insertAgent { agent with certExpiresAt := agent.certExpiresAt.asUtc }).run tables =
      .ok (⟨none, 1⟩, { tables with
        agents := tables.agents ++ [{ agent with certExpiresAt := agent.certExpiresAt.asUtc }] }) := by
  have free : (tables.agents.any fun old => old.agentId == agent.agentId || old.nodeName == agent.nodeName ||
      old.certSerial == agent.certSerial) = false := by
    rw [List.any_eq_false]
    intro old member
    obtain ⟨agentId, nodeName, certSerial⟩ := unused old member
    simp [agentId, nodeName, certSerial]
  simp [Statement.run, free]

theorem persist_same {clock : DateTime} {agent : StoredAgent} :
    Coro.Relates (served written) (served written)
      (fun postgres memory => SameWorld postgres memory ∧ Unused agent postgres.tables.agents)
      ((postgresEnrollmentStore clock).persistAgent agent)
      ((inMemoryEnrollmentStore 0 clock).persistAgent agent) fun _ => SameWorld := by
  rintro postgres memory ⟨same, unused⟩
  have persisted := same.tables.persist fun old member => (unused old member).1
  unfold postgresEnrollmentStore inMemoryEnrollmentStore
  dsimp only
  rw [run_execute _ (insertAgent_run unused), run_execute _ rfl, run_executed _ rfl]
  exact ⟨rfl, persisted, same.limiter⟩

/-- An audit event touches neither world. -/
theorem audit_same {audit : EnrollmentAudit} :
    Coro.Relates (served written) (served written) SameWorld (await (EnrollmentCall.writeAudit audit))
      (await (EnrollmentCall.writeAudit audit)) fun _ => SameWorld := by
  intro postgres memory same
  rw [run_call, run_call]
  exact ⟨rfl, same⟩

theorem limiter_same {α : Type} {block : EnrollmentRateLimiter → Except Exc α × EnrollmentRateLimiter}
    {holds : Tables → Prop} :
    Coro.Relates (served written) (served written)
      (fun postgres memory => SameWorld postgres memory ∧ holds postgres.tables)
      (change fun world => ((block world.limiter).1, { world with limiter := (block world.limiter).2 }))
      (change fun world => ((block world.limiter).1, { world with limiter := (block world.limiter).2 }))
      fun _ postgres memory => SameWorld postgres memory ∧ holds postgres.tables := by
  rintro postgres memory ⟨same, given⟩
  rw [run_change, run_change, same.limiter]
  exact ⟨rfl, ⟨same.tables, rfl⟩, given⟩
end Stores

/-! The service over the two stores. -/
section Service
variable (config : EnrollmentConfig)

def overPostgres (clock : DateTime) : EnrollmentService := ⟨config, postgresEnrollmentStore clock⟩

def inMemory (clock : DateTime) : EnrollmentService := ⟨config, inMemoryEnrollmentStore 0 clock⟩

variable {config} {written : EnrollmentAudit → Except Exc Unit} {clock now : DateTime}
  {draws : EnrollmentDraws}

/-- The hash of the new token is not taken. -/
def FreshToken (config : EnrollmentConfig) (draws : EnrollmentDraws) (tables : Tables) : Prop :=
  ∀ hash, EnrollmentService.tokenHashOf config.library draws.token = .ok hash →
    ∀ row ∈ tables.tokens, row.tokenHash ≠ hash

theorem validLabels {labels safe : List Str} (valid : labels.mapM validateLabel = .ok safe) :
    ∀ label ∈ safe, isLabel label = true := by
  obtain ⟨rfl, all⟩ := labelsOf_valid valid
  exact all

theorem createAgent_same {request : AgentRequest} :
    Coro.Relates (served written) (served written)
      (fun postgres memory => SameWorld postgres memory ∧ FreshToken config draws postgres.tables)
      ((overPostgres config clock).createAgent draws request now)
      ((inMemory config clock).createAgent draws request now) fun _ => SameWorld := by
  have refused : ∀ (fault : Exc) postgres memory,
      SameWorld postgres memory ∧ FreshToken config draws postgres.tables → SameWorld postgres memory :=
    fun _ _ _ => And.left
  refine Coro.relates_ofAnswer refused fun safeNodeName _ => ?_
  refine Coro.relates_ofAnswer refused fun safeLabels valid => ?_
  refine Coro.relates_ofAnswer refused fun tokenHash hashed => ?_
  refine Coro.relates_ofAnswer refused fun safeNodeHostKey _ => ?_
  refine Coro.relates_bind (Coro.relates_mono (create_same (validLabels valid)) ?_ fun _ _ _ => id) ?_ ?_
  · exact fun _ _ holds => ⟨holds.1, holds.2 tokenHash hashed⟩
  · exact fun _ _ _ => id
  intro _
  refine Coro.relates_bind (Coro.relates_onlyIf audit_same fun _ _ => id) (fun _ _ _ => id) ?_
  exact fun _ => Coro.relates_done fun _ _ => id

/-- The agent that a token and a request make is not taken. -/
def FreshAgent (config : EnrollmentConfig) (clock now : DateTime) (draws : EnrollmentDraws)
    (request : EnrollmentRequest) (record : EnrollmentTokenRecord) (agents : List StoredAgent) : Prop :=
  ∀ made, (overPostgres config clock).agentOf request draws request.nodeName record now = .ok made →
    Unused made.1 agents

theorem enrollConsumed_same {request : EnrollmentRequest} {record : EnrollmentTokenRecord} :
    Coro.Relates (served written) (served written)
      (fun postgres memory => SameWorld postgres memory ∧
        FreshAgent config clock now draws request record postgres.tables.agents)
      ((overPostgres config clock).enrollConsumed request draws request.nodeName record now)
      ((inMemory config clock).enrollConsumed request draws request.nodeName record now)
      fun _ => SameWorld := by
  refine Coro.relates_ofAnswer (fun _ _ _ => And.left) fun made given => ?_
  refine Coro.relates_bind (Coro.relates_mono persist_same ?_ fun _ _ _ => id) (fun _ _ _ => id) ?_
  · exact fun _ _ holds => ⟨holds.1, holds.2 made given⟩
  intro _
  refine Coro.relates_bind (Coro.relates_onlyIf audit_same fun _ _ => id) (fun _ _ _ => id) ?_
  intro _
  refine Coro.relates_ofAnswer (fun _ _ _ => id) fun certificate _ => ?_
  exact Coro.relates_done fun _ _ => id

/-- If the token is consumed, its agent is not taken. -/
def FreshEnrollment (config : EnrollmentConfig) (clock now : DateTime) (draws : EnrollmentDraws)
    (request : EnrollmentRequest) (tables : Tables) : Prop :=
  ∀ hash row, EnrollmentService.tokenHashOf config.library request.token = .ok hash →
    (Statement.consumeActive hash request.nodeName now.asUtc).taken tables = some row →
    FreshAgent config clock now draws request (recordOf row) tables.agents

theorem enrollBody_same {request : EnrollmentRequest} :
    Coro.Relates (served written) (served written)
      (fun postgres memory => SameWorld postgres memory ∧
        FreshEnrollment config clock now draws request postgres.tables)
      ((overPostgres config clock).enrollBody request draws now)
      ((inMemory config clock).enrollBody request draws now) fun _ => SameWorld := by
  refine Coro.relates_ofAnswer (fun _ _ _ => And.left) fun safeNodeName valid => ?_
  obtain ⟨-, rfl⟩ := validateNodeName_iff.mp valid
  refine Coro.relates_ofAnswer (fun _ _ _ => And.left) fun tokenHash hashed => ?_
  have limits := @limiter_same written Bool
    (fun limiter => (.ok (limiter.isLimited request.sourceAddress tokenHash now).1,
      (limiter.isLimited request.sourceAddress tokenHash now).2))
    (FreshEnrollment config clock now draws request)
  refine Coro.relates_bind limits (fun _ _ _ => And.left) fun limited => ?_
  cases limited with
  | true => exact Coro.relates_raise fun _ _ => And.left
  | false =>
      have taken := @consume_same written clock now tokenHash request.nodeName
        (FreshAgent config clock now draws request)
      refine Coro.relates_bind (Coro.relates_mono taken ?_ fun _ _ _ => id) (fun _ _ _ => And.left) ?_
      · exact fun _ _ holds => ⟨holds.1, fun row => holds.2 tokenHash row hashed⟩
      rintro (none | record)
      · exact Coro.relates_raise fun _ _ => And.left
      · refine Coro.relates_mono enrollConsumed_same ?_ fun _ _ _ => id
        exact fun _ _ holds => ⟨holds.1, holds.2 record rfl⟩

theorem failure_same {request : EnrollmentRequest} {raised : Exc} :
    Coro.Relates (served written) (served written) SameWorld
      ((overPostgres config clock).recordEnrollmentFailure request now raised)
      ((inMemory config clock).recordEnrollmentFailure request now raised) fun _ => SameWorld := by
  refine Coro.relates_ofAnswer (fun _ _ _ => id) fun tokenHash _ => ?_
  have recorded : Coro.Relates (served written) (served written) SameWorld
      (update fun world => { world with
        limiter := world.limiter.recordFailure request.sourceAddress tokenHash now })
      (update fun world => { world with
        limiter := world.limiter.recordFailure request.sourceAddress tokenHash now }) fun _ => SameWorld := by
    intro postgres memory same
    rw [run_update, run_update]
    exact ⟨rfl, same.tables, by rw [same.limiter]⟩
  refine Coro.relates_bind recorded (fun _ _ _ => id) fun _ => ?_
  exact Coro.relates_onlyIf audit_same fun _ _ => id

theorem enroll_same {request : EnrollmentRequest} :
    Coro.Relates (served written) (served written)
      (fun postgres memory => SameWorld postgres memory ∧
        FreshEnrollment config clock now.asUtc draws request postgres.tables)
      ((overPostgres config clock).enroll request draws now)
      ((inMemory config clock).enroll request draws now) fun _ => SameWorld := by
  have body := @enrollBody_same config written clock now.asUtc draws request
  refine Coro.relates_handle body (fun _ _ _ => id) fun raised => ?_
  unfold EnrollmentService.enrollFault
  split
  · exact Coro.relates_bind failure_same (fun _ _ _ => id) fun _ => Coro.relates_raise fun _ _ => id
  · exact Coro.relates_raise fun _ _ => id
end Service

/-! Requests one after another. -/

/-- A request, with what it draws and the two readings of the clock. -/
inductive ServiceCall where
  | createAgent (clock now : DateTime) (draws : EnrollmentDraws) (request : AgentRequest)
  | enroll (clock now : DateTime) (draws : EnrollmentDraws) (request : EnrollmentRequest)

inductive ServiceAnswer where
  | package (package : EnrollmentConfigPackage)
  | response (response : EnrollmentResponse)

def ServiceCall.on (service : DateTime → EnrollmentService) : ServiceCall → EnrollmentTask ServiceAnswer
  | .createAgent clock now draws request =>
      ServiceAnswer.package <$> (service clock).createAgent draws request now
  | .enroll clock now draws request => ServiceAnswer.response <$> (service clock).enroll request draws now

/-- No insert of the request breaks a constraint. -/
def ServiceCall.Unbroken (config : EnrollmentConfig) (tables : Tables) : ServiceCall → Prop
  | .createAgent _ _ draws _ => FreshToken config draws tables
  | .enroll clock now draws request => FreshEnrollment config clock now.asUtc draws request tables

/-- No insert of the run over PostgreSQL breaks a constraint. -/
def UnbrokenRun (config : EnrollmentConfig) (written : EnrollmentAudit → Except Exc Unit) :
    List ServiceCall → EnrollmentWorld → Prop
  | [], _ => True
  | call :: rest, world => call.Unbroken config world.tables ∧
      UnbrokenRun config written rest ((call.on (overPostgres config)).run (served written) world).2

theorem map_same {α β : Type} {written : EnrollmentAudit → Except Exc Unit}
    {before : EnrollmentWorld → EnrollmentWorld → Prop} {one two : EnrollmentTask α} {transform : α → β}
    (same : Coro.Relates (served written) (served written) before one two fun _ => SameWorld) :
    Coro.Relates (served written) (served written) before (transform <$> one) (transform <$> two)
      fun _ => SameWorld := by
  intro postgres memory holds
  obtain ⟨outcome, kept⟩ := same postgres memory holds
  rw [Coro.run_map, Coro.run_map, outcome]
  exact ⟨rfl, kept⟩

theorem call_same {config : EnrollmentConfig} {written : EnrollmentAudit → Except Exc Unit}
    (call : ServiceCall) :
    Coro.Relates (served written) (served written)
      (fun postgres memory => SameWorld postgres memory ∧ call.Unbroken config postgres.tables)
      (call.on (overPostgres config)) (call.on (inMemory config)) fun _ => SameWorld := by
  cases call with
  | createAgent clock now draws request => exact map_same createAgent_same
  | enroll clock now draws request => exact map_same enroll_same

/-- Requests one after another get the same answers over both stores, and leave the same tables, as long as no
insert into the database breaks a constraint. -/
theorem stores_agree (config : EnrollmentConfig) (written : EnrollmentAudit → Except Exc Unit)
    (calls : List ServiceCall) (postgres memory : EnrollmentWorld) (same : SameWorld postgres memory)
    (unbroken : UnbrokenRun config written calls postgres) :
    (Coro.inTurn (served written) (calls.map (ServiceCall.on (overPostgres config))) postgres).1 =
        (Coro.inTurn (served written) (calls.map (ServiceCall.on (inMemory config))) memory).1 ∧
      SameWorld (Coro.inTurn (served written) (calls.map (ServiceCall.on (overPostgres config))) postgres).2
        (Coro.inTurn (served written) (calls.map (ServiceCall.on (inMemory config))) memory).2 := by
  induction calls generalizing postgres memory with
  | nil => exact ⟨rfl, same⟩
  | cons call rest ih =>
      obtain ⟨answers, kept⟩ := call_same call postgres memory ⟨same, unbroken.1⟩
      obtain ⟨others, last⟩ := ih _ _ kept unbroken.2
      exact ⟨congrArg₂ List.cons answers others, last⟩

/-! A node is created and enrolled, and its token presented again. -/
def emptyWorld : EnrollmentWorld := ⟨⟨[], []⟩, .new, []⟩

def createNode : ServiceCall :=
  .createAgent ⟨0, some 0⟩ ⟨0, some 0⟩ drawsOne ⟨lit "node01", [lit "env:prod"], nodeKeyOne, lit "admin"⟩

def enrollNode (seconds : Int) : ServiceCall :=
  .enroll ⟨seconds * 1000000, some 0⟩ ⟨seconds * 1000000, some 0⟩ drawsOne (requestOne nodeKeyOne)

def tokenHashOne : Str := lit "66d34fba71f8f450f7e45598853e53bfc23bbd129027cbb131a2f4ffd7878cd0"

theorem createNode_agents : ((createNode.on (overPostgres configOne)).run (served fun _ => .ok ())
    emptyWorld).2.tables.agents.isEmpty = true := by
  decide +kernel

theorem enrollNode_spent : (Statement.taken (((enrollNode 1).on (overPostgres configOne)).run
      (served fun _ => .ok ()) ((createNode.on (overPostgres configOne)).run (served fun _ => .ok ())
        emptyWorld).2).2.tables
    (.consumeActive tokenHashOne (requestOne nodeKeyOne).nodeName
      (DateTime.mk (2 * 1000000) (some 0)).asUtc.asUtc)).isNone = true := by
  decide +kernel

theorem stores_agree_one : (Coro.inTurn (served fun _ => .ok ())
      ([createNode, enrollNode 1, enrollNode 2].map (ServiceCall.on (overPostgres configOne))) emptyWorld).1 =
    (Coro.inTurn (served fun _ => .ok ())
      ([createNode, enrollNode 1, enrollNode 2].map (ServiceCall.on (inMemory configOne))) emptyWorld).1 := by
  refine (stores_agree configOne (fun _ => .ok ()) [createNode, enrollNode 1, enrollNode 2] emptyWorld
    emptyWorld ⟨⟨.nil, .nil, List.nodup_nil, fun _ member => (nomatch member)⟩, rfl⟩
    ⟨?_, ?_, ?_, trivial⟩).1
  · exact fun _ _ row member => (nomatch member)
  · intro hash row _ _ made _ old member
    cases List.isEmpty_iff.mp createNode_agents ▸ member
  · have hashed : EnrollmentService.tokenHashOf libraryOne tokenOne = .ok tokenHashOne := by decide +kernel
    intro hash row again taken
    cases hashed.symm.trans again
    have spent := enrollNode_spent
    rw [taken] at spent
    cases spent

end VibeConnect.EnrollmentStores
