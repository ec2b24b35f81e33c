import VibeConnect.AdminAudit
import VibeConnect.EnrollmentTokens

/-! Reissue of enrollment tokens on PostgreSQL. Calls of both stores run at the
same time, one statement after the other in any order, and any statement can
fail; a failed statement has no effect. -/
namespace VibeConnect.TokenReissue
open Python.Text Python.Values Python.Coroutine Python.Tasks Models JumpCoordinator Enrollment
open EnrollmentLedger

/-- The two statements of a reissue. -/
def reissue (row : TokenRow) (now : DateTime) : EnrollmentTask Unit := do
  let _ ← execute (.disableActive row.nodeName now)
  let _ ← execute (.insertToken row)
  pure ()

/-- `PostgresAdminStore.create_enrollment_token`, on the connection of the pool. -/
def adminCreateEnrollmentToken (request : TokenRequest) (now : DateTime) : EnrollmentTask Unit :=
  reissue (request.row (some now)) now

inductive IssueStore where
  | enrollment | admin

/-- A call of `create_enrollment_token`; the enrollment store reads the clock for
what the admin store is given. -/
structure Issue where
  store : IssueStore
  request : TokenRequest
  now : DateTime

namespace Issue

def program (issue : Issue) : EnrollmentTask Unit :=
  match issue.store with
  | .enrollment => (postgresEnrollmentStore issue.now).createEnrollmentToken issue.request
  | .admin => adminCreateEnrollmentToken issue.request issue.now

/-- The row of the new token. -/
def row (issue : Issue) : TokenRow :=
  match issue.store with
  | .enrollment => { issue.request.row (some issue.now) with expiresAt := issue.request.expiresAt.asUtc }
  | .admin => issue.request.row (some issue.now)

/-- Both stores reissue in the same way. -/
theorem program_eq (issue : Issue) : issue.program = reissue issue.row issue.now := by
  obtain ⟨store, request, now⟩ := issue
  cases store <;> rfl

theorem row_active (issue : Issue) : issue.row.active = true := by
  obtain ⟨store, request, now⟩ := issue
  cases store <;> rfl

end Issue

/-! The admin store's own model takes the same steps. -/

/-- The statements of the admin connection that the reissue makes. -/
def refusal (connection : AdminAudit.AdminConnection) : Statement → Option Exc
  | .disableActive nodeName now => connection.statement (.disableActive nodeName now)
  | .insertToken row => connection.statement (.insertToken row)
  | _ => none

def onConnection (connection : AdminAudit.AdminConnection) :
    (call : EnrollmentCall) → EnrollmentWorld → Except Exc (EnrollmentResult call) × EnrollmentWorld
  | .execute statement, world => match refusal connection statement with
      | some raised => (.error raised, world)
      | none => world.execute 0 statement
  | .writeAudit _, world => (.ok (), world)

theorem storeToken_reissue (connection : AdminAudit.AdminConnection) (row : TokenRow) (now : DateTime)
    (world : AdminAudit.AdminWorld) (limiter : EnrollmentRateLimiter) :
    let stored := AdminAudit.run connection (AdminService.storeToken row now) world
    let reissued := (reissue row now).run (serve (onConnection connection))
      ⟨world.tables.toTables, limiter, []⟩
    stored.1 = reissued.1 ∧ stored.2.tables.toTables = reissued.2.tables := by
  intro stored reissued
  unfold stored reissued AdminAudit.run AdminService.storeToken reissue AdminService.execute
  simp only [Coro.run_bind, Coro.run_await, run_call, AdminAudit.serveAdmin, onConnection, refusal]
  cases connection.statement (.disableActive row.nodeName now) with
  | some raised => exact ⟨rfl, rfl⟩
  | none =>
      simp only [AdminService.AdminStatement.run, EnrollmentWorld.execute, Statement.run]
      cases connection.statement (.insertToken row) with
      | some raised => exact ⟨rfl, rfl⟩
      | none =>
          dsimp only
          cases (updateWhere (TokenRow.activeFor row.nodeName) (TokenRow.disable now)
            world.tables.tokens).any fun old => old.tokenHash == row.tokenHash with
          | true => exact ⟨rfl, rfl⟩
          | false =>
              cases row.active && (updateWhere (TokenRow.activeFor row.nodeName)
                (TokenRow.disable now) world.tables.tokens).any (TokenRow.activeFor row.nodeName) <;>
                exact ⟨rfl, rfl⟩

/-! Runs of any number of calls. -/

/-- A statement takes effect as a whole, or fails. -/
def statementWorld (task : Nat) : World EnrollmentWorld EnrollmentResult Exc
  | .execute statement, answer, before, after =>
      (answer, after) = before.execute task statement ∨
        (∃ fault, answer = .error fault) ∧ after = before
  | .writeAudit _, _, before, after => after = before

abbrev IssuePool := Pool Nat EnrollmentWorld EnrollmentResult Exc

/-- The calls on a table, in any order of their statements. -/
abbrev IssueReachable (issues : Nat → Issue) (tables : Tables) (limiter : EnrollmentRateLimiter) :
    IssuePool → Prop :=
  Reachable statementWorld (fun task program _ => program = (issues task).program)
    ⟨tables, limiter, []⟩

/-- The call has inserted its token as an active one, and each earlier token of
the node was used or disabled by then. -/
def Issued (issue : Issue) (task : Nat) (world : EnrollmentWorld) : Prop :=
  ∃ ran ∈ world.history, ran.task = task ∧ ran.statement = .insertToken issue.row ∧
    issue.row.active = true ∧
    (∃ result after, ran.statement.run ran.before = .ok (result, after) ∧ issue.row ∈ after.tokens) ∧
    ∀ old ∈ ran.before.tokens, old.nodeName = issue.row.nodeName → old.used = false →
      old.disabledAt.isSome

/-- No statement of the call has changed a row. -/
def Untouched (task : Nat) (world : EnrollmentWorld) : Prop :=
  ∀ ran ∈ world.history, ran.task = task →
    ∃ result, ran.statement.run ran.before = .ok (result, ran.before)

/-- A call that returned has reissued the token, and one that raised has done nothing. -/
def Atomic (issues : Nat → Issue) (task : Nat) (pool : IssuePool) : Prop :=
  (pool.tasks task = some (.done ()) → Issued (issues task) task pool.state) ∧
    ∀ raised, pool.tasks task = some (.raise raised) → Untouched task pool.state

/-- The update of the call found no active token of the node, or the insert of
the call went through. -/
def Replaced (issues : Nat → Issue) (task : Nat) (world : EnrollmentWorld) : Prop :=
  (∀ ran ∈ world.history, ran.task = task → ∀ old ∈ ran.before.tokens,
    old.activeFor (issues task).row.nodeName = false) ∨
  ∃ ran ∈ world.history, ran.task = task ∧ ran.statement = .insertToken (issues task).row

def Ended (task : Nat) (pool : IssuePool) : Prop :=
  pool.tasks task = some (.done ()) ∨ ∃ raised, pool.tasks task = some (.raise raised)

/-- How a call can end, by the statements of it that took effect. -/
def Outcome (issue : Issue) (task : Nat) : Except Exc Unit → EnrollmentWorld → Prop
  | .ok _, world => ∃ first second result,
      ranBy task world = [⟨task, first, .disableActive issue.row.nodeName issue.now⟩,
        ⟨task, second, .insertToken issue.row⟩] ∧
      Statement.run second (.insertToken issue.row) = .ok result
  | .error _, world => ranBy task world = [] ∨
      ∃ first, ranBy task world = [⟨task, first, .disableActive issue.row.nodeName issue.now⟩]

section Runs
variable {issues : Nat → Issue} {task : Nat} {state : EnrollmentWorld}

def contract (issues : Nat → Issue) (task : Nat) : Contract EnrollmentWorld Exc Unit :=
  { EnrollmentTokens.contract task with post := Outcome (issues task) task }

theorem contract_lawful (issues : Nat → Issue) (task : Nat) : (contract issues task).Lawful where
  rely_refl := (EnrollmentTokens.contract_lawful task).rely_refl
  rely_trans := (EnrollmentTokens.contract_lawful task).rely_trans
  guarantee_refl := (EnrollmentTokens.contract_lawful task).guarantee_refl
  guarantee_trans := (EnrollmentTokens.contract_lawful task).guarantee_trans
  stable outcome before after ended same := by
    have same : ranBy task after = ranBy task before := same
    cases outcome with
    | ok _ =>
        obtain ⟨first, second, result, ran, done⟩ := ended
        exact ⟨first, second, result, same.trans ran, done⟩
    | error _ =>
        rcases ended with none | ⟨first, ran⟩
        · exact .inl (same.trans none)
        · exact .inr ⟨first, same.trans ran⟩

abbrev Runs {α : Type} (task : Nat) (program : EnrollmentTask α)
    (post : Except Exc α → EnrollmentWorld → Prop) (state : EnrollmentWorld) : Prop :=
  program.wp (answered (statementWorld task) (fun _ => True) (EnrollmentTokens.contract task).rely)
    (obliged (fun _ => True) (EnrollmentTokens.contract task).guarantee) post state

/-- One statement of a call, after those that the call has run. -/
theorem execute_runs {mine : List Ran} {statement : Statement} (own : ranBy task state = mine) :
    Runs task (execute statement)
      (Coro.either (EnrollmentTokens.Did task mine statement) fun _ after => ranBy task after = mine)
      state := by
  refine call_safe trivial ?_
  intro answer resumed after relied _ given
  have now : ranBy task resumed = mine := (show ranBy task resumed = _ from relied).trans own
  rcases given with same | ⟨⟨fault, rfl⟩, rfl⟩
  · cases answer with
    | ok result => exact EnrollmentTokens.execute_did now same.symm
    | error fault =>
        unfold EnrollmentWorld.execute at same
        split at same
        · cases same
          exact now
        · cases same
  · exact now

theorem issue_runs (own : ranBy task state = []) :
    Runs task (issues task).program (Outcome (issues task) task) state := by
  rw [Issue.program_eq]
  refine Coro.wp_bind (Coro.wp_mono ?_ (execute_runs own))
  rintro (fault | result) middle disabled
  · exact .inl disabled
  obtain ⟨first, tables, -, ran⟩ := disabled
  refine Coro.wp_bind (Coro.wp_mono ?_ (execute_runs ran))
  rintro (fault | result) after inserted
  · exact .inr ⟨first, inserted⟩
  · obtain ⟨second, tables, done, both⟩ := inserted
    exact ⟨first, second, _, both, done⟩

theorem statementWorld_guarantee {call : EnrollmentCall} {answer : Except Exc (EnrollmentResult call)}
    {before after : EnrollmentWorld} (given : statementWorld task call answer before after) :
    (contract issues task).guarantee before after := by
  cases call with
  | writeAudit audit =>
      rw [show after = before from given]
      exact (contract_lawful issues task).guarantee_refl before
  | execute statement =>
      rcases given with same | ⟨-, rfl⟩
      · rw [show after = (before.execute task statement).2 from congrArg Prod.snd same]
        exact EnrollmentTokens.execute_guarantee task statement before
      · exact (contract_lawful issues task).guarantee_refl _

theorem pool_outcomes {tables : Tables} {limiter : EnrollmentRateLimiter} {pool : IssuePool}
    (reached : IssueReachable issues tables limiter pool) :
    pool.Safe statementWorld (fun _ => True) (contract issues) := by
  have safe := reachable_quiet (fun task state => ranBy task state = []) (contract_lawful issues)
    (fun _ _ _ _ different moved => EnrollmentTokens.guarantee_rely different moved)
    (fun _ _ _ _ different moved own =>
      (EnrollmentTokens.guarantee_rely different moved).trans own)
    (fun _ _ _ _ _ given => statementWorld_guarantee given)
    (fun task program state spawned _ own => by
      rw [spawned]
      exact Coro.wp_mono (fun _ _ ended => ⟨trivial, ended⟩) (issue_runs own))
    trivial (fun _ => rfl) reached
  exact safe.1
end Runs

section Outcomes
variable {issue : Issue} {task : Nat} {world : EnrollmentWorld}

/-- The update disables no row exactly if no token of the node is active. -/
theorem disable_same {nodeName : Str} {now : DateTime} {tables : Tables} :
    (∃ result, Statement.run tables (.disableActive nodeName now) = .ok (result, tables)) ↔
      ∀ old ∈ tables.tokens, old.activeFor nodeName = false := by
  have rows : (∃ result, Statement.run tables (.disableActive nodeName now) = .ok (result, tables)) ↔
      updateWhere (TokenRow.activeFor nodeName) (TokenRow.disable now) tables.tokens =
        tables.tokens := by
    constructor
    · rintro ⟨result, ran⟩
      exact congrArg Tables.tokens (congrArg Prod.snd (Except.ok.inj ran))
    · intro same
      refine ⟨⟨none, tables.tokens.countP (TokenRow.activeFor nodeName)⟩, ?_⟩
      show Except.ok (_, { tables with
        tokens := updateWhere (TokenRow.activeFor nodeName) (TokenRow.disable now) tables.tokens }) = _
      rw [same]
  exact rows.trans AdminAudit.disable_same

/-- A call that returned has issued its token. -/
theorem issued_of_outcome (outcome : Outcome issue task (.ok ()) world) : Issued issue task world := by
  obtain ⟨first, second, ⟨result, after⟩, ran, done⟩ := outcome
  have inserted : (⟨task, second, .insertToken issue.row⟩ : Ran) ∈ ranBy task world := by
    rw [ran]
    exact List.mem_cons_of_mem _ (List.mem_singleton_self _)
  have kept := done
  unfold Statement.run at done
  dsimp only at done
  split at done
  · cases done
  split at done
  · cases done
  rename_i alone
  cases done
  refine ⟨_, (mem_ranBy.mp inserted).1, rfl, rfl, issue.row_active, ⟨_, _, kept, by simp⟩, ?_⟩
  intro old member node unused
  -- the unique index has let the row in, so no other row of the node is active
  rw [issue.row_active, Bool.true_and, Bool.not_eq_true, List.any_eq_false] at alone
  cases enabled : old.disabledAt with
  | some time => rfl
  | none => exact (alone old member (activeFor_iff.mpr ⟨node, active_iff.mpr ⟨unused, enabled⟩⟩)).elim

/-- A call that raised has run its update at most. -/
theorem untouched_of_outcome {raised : Exc} (outcome : Outcome issue task (.error raised) world) :
    (Untouched task world ↔ ∀ ran ∈ world.history, ran.task = task → ∀ old ∈ ran.before.tokens,
      old.activeFor issue.row.nodeName = false) ∧
    ¬∃ ran ∈ world.history, ran.task = task ∧ ran.statement = .insertToken issue.row := by
  have only : ∀ ran ∈ world.history, ran.task = task →
      ran.statement = .disableActive issue.row.nodeName issue.now := by
    intro ran member mine
    have own := mem_ranBy.mpr ⟨member, mine⟩
    rcases outcome with none | ⟨first, one⟩
    · rw [none] at own
      cases own
    · rw [one, List.mem_singleton] at own
      rw [own]
  constructor
  · apply forall₂_congr
    intro ran member
    apply forall_congr'
    intro mine
    rw [only ran member mine]
    exact disable_same
  · rintro ⟨ran, member, mine, inserts⟩
    rw [only ran member mine] at inserts
    cases inserts
end Outcomes

/-- A call that has ended is atomic exactly if its update found no active token
of the node or its insert went through. -/
theorem token_reissue_atomic (issues : Nat → Issue) (tables : Tables) (limiter : EnrollmentRateLimiter)
    {pool : IssuePool} (reached : IssueReachable issues tables limiter pool) {task : Nat}
    (ended : Ended task pool) : Atomic issues task pool ↔ Replaced issues task pool.state := by
  have safe := pool_outcomes reached
  rcases ended with returned | ⟨raised, failed⟩
  · have issued := issued_of_outcome ((safe.2 task _ returned).2).2
    apply iff_of_true
    · refine ⟨fun _ => issued, fun raised impossible => ?_⟩
      rw [returned] at impossible
      cases impossible
    · obtain ⟨ran, member, mine, inserts, -⟩ := issued
      exact .inr ⟨ran, member, mine, inserts⟩
  · have outcome : Outcome (issues task) task (.error raised) pool.state :=
      ((safe.2 task _ failed).2).2
    obtain ⟨untouched, uninserted⟩ := untouched_of_outcome outcome
    constructor
    · intro atomic
      exact .inl (untouched.mp (atomic.2 raised failed))
    · intro replaced
      refine ⟨fun impossible => ?_, fun _ _ => untouched.mpr ?_⟩
      · rw [failed] at impossible
        cases impossible
      · exact replaced.resolve_right uninserted

/-! A node with an active token, and its reissue. -/
def activeOne : TokenRow :=
  ⟨lit "h0", lit "node01", [], lit "key", lit "admin", some ⟨0, some 0⟩, ⟨900000000, some 0⟩, false, none,
    none, none⟩

def issueOne (store : IssueStore) : Issue :=
  ⟨store, ⟨lit "h1", lit "node01", [], lit "key", lit "admin", ⟨900000000, some 0⟩⟩, ⟨5000000, some 0⟩⟩

def tablesOne : Tables := ⟨[activeOne], []⟩

def disableOne : Ran := ⟨0, tablesOne, .disableActive (lit "node01") ⟨5000000, some 0⟩⟩

def disabledOne : EnrollmentWorld :=
  ⟨⟨[activeOne.disable ⟨5000000, some 0⟩], []⟩, .new, [disableOne]⟩

/-- The update takes effect and the insert fails. -/
theorem reissue_fails (store : IssueStore) (fault : Exc) : ∃ pool,
    IssueReachable (fun _ => issueOne store) tablesOne .new pool ∧
      pool.tasks 0 = some (.raise fault) ∧ pool.state = disabledOne := by
  have fresh : IssueReachable (fun _ => issueOne store) tablesOne .new
      ⟨fun _ => none, ⟨tablesOne, .new, []⟩⟩ := .start
  have begins : ∃ resume, settle (issueOne store).program ⟨tablesOne, .new, []⟩ =
      (.call (.await (.execute (.disableActive (lit "node01") ⟨5000000, some 0⟩))) resume,
        ⟨tablesOne, .new, []⟩) ∧
      ∀ result state, ∃ finish, settle (resume (.ok result)) state =
        (.call (.await (.execute (.insertToken (issueOne store).row))) finish, state) ∧
        ∀ fault state, settle (finish (.error fault)) state = (.raise fault, state) := by
    rw [Issue.program_eq]
    cases store <;> exact ⟨_, rfl, fun _ _ => ⟨_, rfl, fun _ _ => rfl⟩⟩
  obtain ⟨resume, asks, inserts⟩ := begins
  obtain ⟨asking, reached, state, tasks⟩ := fresh.spawned 0 rfl rfl asks
  have disables : asking.state.execute 0 disableOne.statement = (.ok ⟨none, 1⟩, disabledOne) := by
    rw [state]
    rfl
  obtain ⟨finish, asksInsert, raises⟩ := inserts ⟨none, 1⟩ disabledOne
  obtain ⟨inserting, reached, state, tasks⟩ :=
    reached.resumed_beside tasks (.ok ⟨none, 1⟩) (.inl disables.symm) asksInsert
  obtain ⟨failed, reached, state, tasks⟩ := reached.resumed_beside tasks (.error fault)
    (.inr ⟨⟨fault, rfl⟩, rfl⟩) (raises fault inserting.state)
  have after : failed.state = disabledOne := by rw [state]; assumption
  refine ⟨failed, reached, ?_, after⟩
  rw [tasks]
  exact Function.update_self ..

theorem token_reissue_atomic_failed : ∃ pool, Ended 0 pool ∧
    (Atomic (fun _ => issueOne .enrollment) 0 pool ↔
      Replaced (fun _ => issueOne .enrollment) 0 pool.state) := by
  obtain ⟨pool, reached, failed, -⟩ := reissue_fails .enrollment .otherException
  have ended : Ended 0 pool := .inr ⟨_, failed⟩
  exact ⟨pool, ended,
    token_reissue_atomic (fun _ => issueOne .enrollment) tablesOne .new reached ended⟩

/-- A call of the store raises, and the node is left without an active token. -/
def DisablesOnly (store : IssueStore) : Prop :=
  ∃ pool, IssueReachable (fun _ => issueOne store) tablesOne .new pool ∧
    pool.tasks 0 = some (.raise .osError) ∧
    tablesOne.tokens.countP (TokenRow.activeFor (lit "node01")) = 1 ∧
    pool.state.tables.tokens.countP (TokenRow.activeFor (lit "node01")) = 0 ∧
    ¬Atomic (fun _ => issueOne store) 0 pool

theorem fails_half_done (store : IssueStore) : DisablesOnly store := by
  obtain ⟨pool, reached, failed, state⟩ := reissue_fails store .osError
  refine ⟨pool, reached, failed, by decide +kernel, ?_, fun atomic => ?_⟩
  · rw [state]
    decide +kernel
  have untouched := atomic.2 _ failed
  rw [state] at untouched
  have inactive := disable_same.mp (untouched disableOne (List.mem_singleton_self _) rfl) activeOne
    (List.mem_singleton_self _)
  have active : activeOne.activeFor (lit "node01") = true := by decide +kernel
  rw [active] at inactive
  cases inactive

/-- It is so for both stores. -/
theorem reissue_disables_only : DisablesOnly .enrollment ∧ DisablesOnly .admin :=
  ⟨fails_half_done .enrollment, fails_half_done .admin⟩

end VibeConnect.TokenReissue
