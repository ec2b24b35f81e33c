import VibeConnect.EnrollmentLedger

/-! Enrollment tokens are single use. Tasks create, expire and consume tokens in
any order over either store, and a statement of the database can raise with or
without its effect. -/
namespace VibeConnect.EnrollmentTokens
open Python.Text Python.Values Python.Coroutine Python.Tasks Models JumpCoordinator Enrollment
open TunnelAuthenticator EnrollmentLedger

/-! One task among the others. Its own statements only change when it runs one. -/
def contract (task : Nat) : Contract EnrollmentWorld Exc Unit where
  rely before after := ranBy task after = ranBy task before
  guarantee before after := ∃ more, after.history = before.history ++ more ∧
    ∀ ran ∈ more, ran.task = task
  post _ _ := True

theorem contract_lawful (task : Nat) : (contract task).Lawful where
  rely_refl _ := rfl
  rely_trans _ _ _ first second := Eq.trans second first
  guarantee_refl state := ⟨[], (List.append_nil _).symm, by simp⟩
  guarantee_trans := by
    rintro one two three ⟨more, first, mine⟩ ⟨most, second, also⟩
    refine ⟨more ++ most, by rw [second, first, List.append_assoc], ?_⟩
    intro ran member
    rcases List.mem_append.mp member with left | right
    · exact mine ran left
    · exact also ran right
  stable _ _ _ _ _ := trivial

theorem guarantee_rely {task other : Nat} {before after : EnrollmentWorld} (different : task ≠ other)
    (moved : (contract task).guarantee before after) : (contract other).rely before after := by
  obtain ⟨more, grown, mine⟩ := moved
  have none : more.filter (fun ran => decide (ran.task = other)) = [] := by
    rw [List.filter_eq_nil_iff]
    intro ran member same
    exact different ((mine ran member).symm.trans (of_decide_eq_true same))
  show ranBy other after = ranBy other before
  rw [ranBy, grown, List.filter_append, none, List.append_nil]
  rfl

/-- What a statement of a task logs. -/
theorem execute_history (task : Nat) (statement : Statement) (world : EnrollmentWorld) :
    (world.execute task statement).2.history = world.history ∨
      (world.execute task statement).2.history =
        world.history ++ [⟨task, world.tables, statement⟩] := by
  unfold EnrollmentWorld.execute
  split
  · exact .inl rfl
  · exact .inr rfl

theorem execute_guarantee (task : Nat) (statement : Statement) (world : EnrollmentWorld) :
    (contract task).guarantee world (world.execute task statement).2 := by
  rcases execute_history task statement world with same | grown
  · exact ⟨[], by rw [same, List.append_nil], by simp⟩
  · exact ⟨_, grown, by simp⟩

theorem enrollmentWorld_guarantee {task : Nat} {call : EnrollmentCall}
    {answer : Except Exc (EnrollmentResult call)} {before after : EnrollmentWorld}
    (given : enrollmentWorld task call answer before after) :
    (contract task).guarantee before after := by
  cases call with
  | writeAudit audit =>
      rw [show after = before from given]
      exact (contract_lawful task).guarantee_refl before
  | execute statement =>
      rcases given with same | ⟨-, rfl | rfl⟩
      · rw [show after = (before.execute task statement).2 from congrArg Prod.snd same]
        exact execute_guarantee task statement before
      · exact (contract_lawful task).guarantee_refl _
      · exact execute_guarantee task statement before

section Programs
variable {setting : Setting} {task : Nat} {state : EnrollmentWorld} {α : Type}

abbrev Runs (setting : Setting) (task : Nat) (program : EnrollmentTask α)
    (post : Except Exc α → EnrollmentWorld → Prop) (state : EnrollmentWorld) : Prop :=
  program.wp (answered (enrollmentWorld task) (Ledger setting) (contract task).rely)
    (obliged (Ledger setting) (contract task).guarantee) post state

/-- The statement took effect after the statements before it. -/
structure Did (task : Nat) (mine : List Ran) (statement : Statement) (result : StatementResult)
    (after : EnrollmentWorld) : Prop where
  ran : ∃ before tables, statement.run before = .ok (result, tables) ∧
    ranBy task after = mine ++ [⟨task, before, statement⟩]

/-- How a part of a task ends: with the ledger, and with `reached` if it returns. -/
abbrev Holding (setting : Setting) (reached : α → EnrollmentWorld → Prop) :
    Except Exc α → EnrollmentWorld → Prop :=
  fun outcome after => Ledger setting after ∧ Coro.either reached (fun _ _ => True) outcome after

theorem holding_bind {β : Type} {program : EnrollmentTask α} {next : α → EnrollmentTask β}
    {reached : α → EnrollmentWorld → Prop} {final : β → EnrollmentWorld → Prop}
    (first : Runs setting task program (Holding setting reached) state)
    (second : ∀ value after, Ledger setting after → reached value after →
      Runs setting task (next value) (Holding setting final) after) :
    Runs setting task (program >>= next) (Holding setting final) state := by
  refine Coro.wp_bind (Coro.wp_mono ?_ first)
  rintro (fault | value) after ⟨ledger, holds⟩
  · exact ⟨ledger, trivial⟩
  · exact second value after ledger holds

theorem holding_answer {β : Type} {answer : Except Exc α} {next : α → EnrollmentTask β}
    {final : β → EnrollmentWorld → Prop} (ledger : Ledger setting state)
    (follows : ∀ value, answer = .ok value →
      Runs setting task (next value) (Holding setting final) state) :
    Runs setting task (Coro.ofAnswer answer >>= next) (Holding setting final) state := by
  cases answer with
  | error fault => exact ⟨ledger, trivial⟩
  | ok value => exact follows value rfl

theorem execute_did {mine : List Ran} {statement : Statement} {result : StatementResult}
    {before after : EnrollmentWorld} (own : ranBy task before = mine)
    (ran : before.execute task statement = (.ok result, after)) :
    Did task mine statement result after := by
  unfold EnrollmentWorld.execute at ran
  split at ran
  · cases ran
  · rename_i other tables done
    cases ran
    refine ⟨before.tables, tables, done, ?_⟩
    rw [ranBy, List.filter_append, ← own]
    simp [ranBy]

theorem execute_runs {mine : List Ran} {statement : Statement} (distinct : Distinct setting)
    (permitted : Permitted setting task mine statement) (own : ranBy task state = mine)
    (ledger : Ledger setting state) :
    Runs setting task (execute statement) (Holding setting (Did task mine statement)) state := by
  refine call_safe ledger ?_
  intro answer resumed after relied still given
  have now : ranBy task resumed = mine := (show ranBy task resumed = _ from relied).trans own
  have kept := still.execute distinct (now ▸ permitted)
  rcases given with same | ⟨⟨fault, rfl⟩, rfl | rfl⟩
  · rw [show after = (resumed.execute task statement).2 from congrArg Prod.snd same]
    refine ⟨kept, ?_⟩
    cases answer with
    | error fault => trivial
    | ok result => exact execute_did now (by rw [← same])
  · exact ⟨still, trivial⟩
  · exact ⟨kept, trivial⟩

theorem change_runs {mine : List Ran} {statement : Statement} (distinct : Distinct setting)
    (permitted : Permitted setting task mine statement) (own : ranBy task state = mine)
    (ledger : Ledger setting state) :
    Runs setting task (change (EnrollmentWorld.execute task statement))
      (Holding setting (Did task mine statement)) state := by
  refine change_safe (execute_guarantee task statement state)
    ⟨ledger.execute distinct (own ▸ permitted), ?_⟩
  cases answer : (state.execute task statement).1 with
  | error fault => trivial
  | ok result => exact execute_did own (Prod.ext answer rfl)
/-- The audit insert changes neither table. -/
theorem audit_runs {audit : EnrollmentAudit} (flag : Bool) (ledger : Ledger setting state) :
    Runs setting task (Coro.onlyIf flag (await (EnrollmentCall.writeAudit audit)))
      (Holding setting fun _ _ => True) state := by
  refine Coro.wp_onlyIf (fun _ => call_safe ledger ?_) fun _ => ⟨ledger, trivial⟩
  rintro answer resumed after - still rfl
  exact ⟨still, by cases answer <;> trivial⟩

theorem permitted_plain {mine : List Ran} {statement : Statement} (adds : added statement = none)
    (enrolls : enrolled statement = none) : Permitted setting task mine statement where
  adds new impossible := by rw [adds] at impossible; cases impossible
  enrolls agent impossible := by rw [enrolls] at impossible; cases impossible

/-- A new token of the task that drew it. -/
theorem permitted_token {mine : List Ran} {statement : Statement} {row : TokenRow}
    (adds : added statement = some row) (enrolls : enrolled statement = none)
    (drawn : EnrollmentService.tokenHashOf setting.config.library (setting.draws task).token =
      .ok row.tokenHash) (first : ∀ ran ∈ mine, added ran.statement = none) :
    Permitted setting task mine statement where
  adds new same := by
    rw [adds] at same
    cases same
    exact ⟨drawn, first⟩
  enrolls agent impossible := by rw [enrolls] at impossible; cases impossible

/-- The agent of the task that took the token. -/
theorem permitted_agent {source : Ran} {row : TokenRow} {agent : StoredAgent} {statement : Statement}
    (adds : added statement = none) (enrolls : enrolled statement = some agent)
    (backs : Backs setting source row agent) (first : enrolled source.statement = none) :
    Permitted setting task [source] statement where
  adds new impossible := by rw [adds] at impossible; cases impossible
  enrolls other same := by
    rw [enrolls] at same
    cases same
    refine ⟨⟨source, List.mem_singleton_self _, row, backs⟩, ?_⟩
    intro ran member
    rw [List.mem_singleton.mp member]
    exact first

theorem create_runs (distinct : Distinct setting) (backend : Backend) {request : TokenRequest}
    {clock : DateTime} (drawn : EnrollmentService.tokenHashOf setting.config.library
      (setting.draws task).token = .ok request.tokenHash)
    (own : ranBy task state = []) (ledger : Ledger setting state) :
    Runs setting task ((backend.store task clock).createEnrollmentToken request)
      (Holding setting fun _ _ => True) state := by
  cases backend with
  | postgres =>
      apply holding_bind (execute_runs distinct (permitted_plain rfl rfl) own ledger)
      rintro result middle ledger ⟨before, tables, -, mine⟩
      apply holding_bind (execute_runs distinct
        (permitted_token rfl rfl (by exact drawn) (by simp [added])) mine ledger)
      exact fun _ after ledger _ => ⟨ledger, trivial⟩
  | inMemory =>
      apply holding_bind (change_runs distinct
        (permitted_token rfl rfl (by exact drawn) (by simp)) own ledger)
      exact fun _ after ledger _ => ⟨ledger, trivial⟩

/-- The record that a consumption returned. -/
structure Consumed (task : Nat) (nodeName : Str) (source : Ran) (row : TokenRow)
    (record : EnrollmentTokenRecord) (after : EnrollmentWorld) : Prop where
  own : ranBy task after = [source]
  task : source.task = task
  taken : source.statement.taken source.before = some row
  enrolls : enrolled source.statement = none
  nodeName : row.nodeName = nodeName
  labels : record.labels = row.labels
  hostKey : record.nodeSshHostPublicKey = row.nodeSshHostPublicKey

theorem consume_runs (distinct : Distinct setting) (backend : Backend) {tokenHash nodeName : Str}
    {now clock : DateTime} (own : ranBy task state = []) (ledger : Ledger setting state) :
    Runs setting task ((backend.store task clock).consumeEnrollmentToken tokenHash nodeName now)
      (Holding setting fun found after => ∀ record, found = some record →
        ∃ source row, Consumed task nodeName source row record after) state := by
  cases backend with
  | postgres =>
      apply holding_bind (execute_runs distinct (permitted_plain rfl rfl) own ledger)
      rintro ⟨taken, count⟩ after ledger ⟨before, tables, ran, mine⟩
      cases ran
      dsimp only
      split
      · exact ⟨ledger, fun _ impossible => nomatch impossible⟩
      · rename_i row found
        apply holding_answer ledger
        intro labels checked
        refine ⟨ledger, ?_⟩
        rintro record ⟨⟩
        obtain ⟨_, _, _, named, spec⟩ := taken_spec found
        cases named
        exact ⟨_, row, mine, rfl, found, rfl, spec.nodeName, (labelsOf_valid checked).1, rfl⟩
  | inMemory =>
      apply holding_bind (change_runs distinct (permitted_plain rfl rfl) own ledger)
      rintro ⟨taken, count⟩ after ledger ⟨before, tables, ran, mine⟩
      cases ran
      dsimp only
      split
      · exact ⟨ledger, fun _ impossible => nomatch impossible⟩
      · rename_i row found
        refine ⟨ledger, ?_⟩
        rintro record ⟨⟩
        obtain ⟨_, _, _, named, spec⟩ := taken_spec found
        cases named
        exact ⟨_, row, mine, rfl, found, rfl, spec.nodeName, rfl, rfl⟩

theorem persist_runs (distinct : Distinct setting) (backend : Backend) {clock : DateTime}
    {source : Ran} {row : TokenRow} {agent : StoredAgent} (own : ranBy task state = [source])
    (backs : Backs setting source row agent) (first : enrolled source.statement = none)
    (ledger : Ledger setting state) :
    Runs setting task ((backend.store task clock).persistAgent agent)
      (Holding setting fun _ _ => True) state := by
  cases backend with
  | postgres =>
      have stored : Backs setting source row { agent with certExpiresAt := agent.certExpiresAt.asUtc } :=
        ⟨backs.taken, backs.nodeName, backs.labels, backs.hostKey, backs.requested⟩
      apply holding_bind (execute_runs distinct (permitted_agent rfl rfl stored first) own ledger)
      rintro result middle ledger ⟨before, tables, -, mine⟩
      apply holding_bind (execute_runs distinct (permitted_plain rfl rfl) mine ledger)
      exact fun _ after ledger _ => ⟨ledger, trivial⟩
  | inMemory =>
      apply holding_bind (change_runs distinct (permitted_agent rfl rfl backs first) own ledger)
      exact fun _ after ledger _ => ⟨ledger, trivial⟩

theorem ledger_limited {limiter : EnrollmentRateLimiter} (ledger : Ledger setting state) :
    Ledger setting { state with limiter := limiter } :=
  ⟨ledger.hashes, ledger.active, ledger.origin, ledger.drawn, ledger.spent, ledger.once,
    ledger.agents, ledger.backed, ledger.single⟩

theorem limiter_guarantee (limiter : EnrollmentRateLimiter) :
    (contract task).guarantee state { state with limiter := limiter } :=
  ⟨[], (List.append_nil _).symm, by simp⟩

theorem createAgent_runs (distinct : Distinct setting) {request : AgentRequest} {now : DateTime}
    (own : ranBy task state = []) (ledger : Ledger setting state) :
    Runs setting task ((setting.serviceOf task).createAgent (setting.draws task) request now)
      (Holding setting fun _ _ => True) state := by
  apply holding_answer ledger
  intro safeNodeName _
  apply holding_answer ledger
  intro safeLabels _
  apply holding_answer ledger
  intro tokenHash drawn
  apply holding_answer ledger
  intro safeNodeHostKey _
  apply holding_bind (create_runs distinct setting.backend (by exact drawn) own ledger)
  intro _ after ledger _
  apply holding_bind (audit_runs _ ledger)
  exact fun _ last ledger _ => ⟨ledger, trivial⟩

/-- The agent carries the record's labels and the host key of both sides. -/
theorem agentOf_ok {service : EnrollmentService} {request : EnrollmentRequest}
    {draws : EnrollmentDraws} {nodeName : Str} {record : EnrollmentTokenRecord} {now : DateTime}
    {agent : StoredAgent} {issued : IssuedAgentCertificate}
    (made : service.agentOf request draws nodeName record now = .ok (agent, issued)) :
    agent.nodeName = nodeName ∧ agent.labels = record.labels ∧
      agent.nodeSshHostPublicKey = record.nodeSshHostPublicKey ∧
      validateNodeSshHostPublicKey service.library request.nodeSshHostPublicKey =
        .ok agent.nodeSshHostPublicKey := by
  obtain ⟨hostKey, requested, made⟩ := bind_ok.mp made
  split at made
  · cases made
  rename_i same
  obtain ⟨agentPublicKey, -, made⟩ := bind_ok.mp made
  obtain ⟨tunnelSecret, -, made⟩ := bind_ok.mp made
  obtain ⟨certificate, -, made⟩ := bind_ok.mp made
  obtain ⟨tunnelSecretHash, -, made⟩ := bind_ok.mp made
  cases made
  rw [EnrollmentService.requestedHostKey_ok requested, not_not.mp same]
  exact ⟨rfl, rfl, rfl, rfl⟩

theorem enrollConsumed_runs (distinct : Distinct setting) {request : EnrollmentRequest}
    {now time : DateTime} {nodeName : Str} {record : EnrollmentTokenRecord} {source : Ran}
    {row : TokenRow} (asked : setting.calls task = .enroll request time)
    (consumed : Consumed task nodeName source row record state) (ledger : Ledger setting state) :
    Runs setting task
      ((setting.serviceOf task).enrollConsumed request (setting.draws task) nodeName record now)
      (Holding setting fun _ _ => True) state := by
  apply holding_answer ledger
  rintro ⟨agent, issued⟩ made
  obtain ⟨node, labels, hostKey, requested⟩ := agentOf_ok made
  have backs : Backs setting source row agent := {
    taken := consumed.taken
    nodeName := consumed.nodeName.trans node.symm
    labels := consumed.labels.symm.trans labels.symm
    hostKey := consumed.hostKey.symm.trans hostKey.symm
    requested := ⟨request, time, by rw [consumed.task]; exact asked, requested⟩ }
  apply holding_bind (persist_runs distinct setting.backend consumed.own backs consumed.enrolls ledger)
  intro _ middle ledger _
  apply holding_bind (audit_runs _ ledger)
  intro _ after ledger _
  apply holding_answer ledger
  exact fun _ _ => ⟨ledger, trivial⟩

theorem enrollBody_runs (distinct : Distinct setting) {request : EnrollmentRequest}
    {now time : DateTime} (asked : setting.calls task = .enroll request time)
    (own : ranBy task state = []) (ledger : Ledger setting state) :
    Runs setting task ((setting.serviceOf task).enrollBody request (setting.draws task) now)
      (Holding setting fun _ _ => True) state := by
  apply holding_answer ledger
  intro safeNodeName _
  apply holding_answer ledger
  intro tokenHash _
  have looked : Runs setting task (change fun world =>
      (.ok (world.limiter.isLimited request.sourceAddress tokenHash now).1, { world with
        limiter := (world.limiter.isLimited request.sourceAddress tokenHash now).2 }))
      (Holding setting fun _ after => ranBy task after = []) state :=
    change_safe (limiter_guarantee _) ⟨ledger_limited ledger, by exact own⟩
  apply holding_bind looked
  intro limited middle ledger own
  split
  · exact ⟨ledger, trivial⟩
  apply holding_bind (consume_runs distinct setting.backend own ledger)
  intro found after ledger consumed
  cases found with
  | none => exact ⟨ledger, trivial⟩
  | some record =>
      obtain ⟨source, row, held⟩ := consumed record rfl
      exact enrollConsumed_runs distinct asked held ledger

theorem enrollFault_runs {request : EnrollmentRequest} {now : DateTime} {raised : Exc}
    (ledger : Ledger setting state) :
    Runs setting task ((setting.serviceOf task).enrollFault request now raised)
      (Holding setting fun _ _ => True) state := by
  unfold EnrollmentService.enrollFault
  split
  · have recorded : Runs setting task
        ((setting.serviceOf task).recordEnrollmentFailure request now raised)
        (Holding setting fun _ _ => True) state := by
      apply holding_answer ledger
      intro tokenHash _
      refine Coro.wp_bind (update_safe (limiter_guarantee _) ?_)
      exact audit_runs _ (ledger_limited ledger)
    apply holding_bind recorded
    exact fun _ after ledger _ => ⟨ledger, trivial⟩
  · exact ⟨ledger, trivial⟩

theorem program_safe (distinct : Distinct setting) (own : ranBy task state = [])
    (ledger : Ledger setting state) : Safe (enrollmentWorld task) (Ledger setting)
      (contract task) (setting.program task) state := by
  have runs : Runs setting task (setting.program task) (Holding setting fun _ _ => True) state := by
    unfold Setting.program
    split
    · apply holding_bind (createAgent_runs distinct own ledger)
      exact fun _ after ledger _ => ⟨ledger, trivial⟩
    · rename_i request now asked
      have enrolls : Runs setting task
          ((setting.serviceOf task).enroll request (setting.draws task) now)
          (Holding setting fun _ _ => True) state := by
        refine Coro.wp_handle (Coro.wp_mono ?_ (enrollBody_runs distinct asked own ledger))
        rintro (fault | response) after ⟨ledger, -⟩
        · exact enrollFault_runs ledger
        · exact ⟨ledger, trivial⟩
      apply holding_bind enrolls
      exact fun _ after ledger _ => ⟨ledger, trivial⟩
    · rename_i nodeName actor now asked
      have expires : Runs setting task (expireToken (setting.serviceOf task).audited nodeName actor now)
          (Holding setting fun _ _ => True) state := by
        apply holding_answer ledger
        intro safeNodeName _
        apply holding_bind (execute_runs distinct (permitted_plain rfl rfl) own ledger)
        intro result middle ledger _
        apply holding_bind (audit_runs _ ledger)
        exact fun _ after ledger _ => ⟨ledger, trivial⟩
      apply holding_bind expires
      exact fun _ after ledger _ => ⟨ledger, trivial⟩
  refine Coro.wp_mono ?_ runs
  exact fun outcome after held => ⟨held.1, trivial⟩
end Programs

/-- The task persisted the agent and consumed the token whose row was `row`
then: active, unexpired, of the agent's node, and with the labels and the host
key of the agent, which is also the host key of the task's request. -/
structure EnrolledWith (setting : Setting) (world : EnrollmentWorld) (task : Nat)
    (agent : StoredAgent) (row : TokenRow) : Prop where
  persisted : ∃ ran ∈ world.history, ran.task = task ∧ enrolled ran.statement = some agent
  consumed : ∃ ran ∈ world.history, ran.task = task ∧ row ∈ ran.before.tokens ∧
    ran.statement.taken ran.before = some row ∧ ∃ now,
      consuming ran.statement = some (row.tokenHash, agent.nodeName, now) ∧
        now.instant < row.expiresAt.instant
  unused : row.used = false
  enabled : row.disabledAt = none
  nodeName : row.nodeName = agent.nodeName
  labels : row.labels = agent.labels
  hostKey : row.nodeSshHostPublicKey = agent.nodeSshHostPublicKey
  requested : ∃ request now, setting.calls task = .enroll request now ∧
    validateNodeSshHostPublicKey setting.config.library request.nodeSshHostPublicKey =
      .ok agent.nodeSshHostPublicKey

structure SingleUse (setting : Setting) (world : EnrollmentWorld) : Prop where
  oneActive : ∀ nodeName, world.tables.tokens.countP (TokenRow.activeFor nodeName) ≤ 1
  oneAgent : ∀ task agent row other second third, EnrolledWith setting world task agent row →
    EnrolledWith setting world other second third → row.tokenHash = third.tokenHash → agent = second
  enrolled : ∀ agent ∈ world.tables.agents, ∃ task row, EnrolledWith setting world task agent row

section SingleUse
variable {setting : Setting} {world : EnrollmentWorld}

theorem one_active (ledger : Ledger setting world) (nodeName : Str) :
    world.tables.tokens.countP (TokenRow.activeFor nodeName) ≤ 1 := by
  rw [List.countP_eq_length_filter]
  have nodup : ((world.tables.tokens.filter (TokenRow.activeFor nodeName)).map (·.tokenHash)).Nodup :=
    ledger.hashes.sublist (List.filter_sublist.map _)
  have same : ∀ row ∈ world.tables.tokens.filter (TokenRow.activeFor nodeName),
      row ∈ world.tables.tokens ∧ row.nodeName = nodeName ∧ row.active = true := by
    intro row member
    obtain ⟨there, chosen⟩ := List.mem_filter.mp member
    exact ⟨there, activeFor_iff.mp chosen⟩
  match found : world.tables.tokens.filter (TokenRow.activeFor nodeName) with
  | [] => exact Nat.zero_le 1
  | [_] => exact le_refl 1
  | one :: two :: rest =>
      rw [found] at nodup same
      obtain ⟨left, leftNode, leftActive⟩ := same one (by simp)
      obtain ⟨right, rightNode, rightActive⟩ := same two (by simp)
      have equal := ledger.active one left two right leftActive rightActive
        (leftNode.trans rightNode.symm)
      simp [equal] at nodup

/-- What a task persisted rests on what it took, and nothing else it took. -/
theorem single_use (ledger : Ledger setting world) : SingleUse setting world where
  oneActive := one_active ledger
  oneAgent := by
    intro task agent row other second third first also same
    obtain ⟨one, inOne, rfl, -, takesOne, -⟩ := first.consumed
    obtain ⟨two, inTwo, rfl, -, takesTwo, -⟩ := also.consumed
    have shared : one = two := ledger.once one inOne two inTwo row third takesOne takesTwo same
    obtain ⟨left, inLeft, leftTask, enrollsLeft⟩ := first.persisted
    obtain ⟨right, inRight, rightTask, enrollsRight⟩ := also.persisted
    have together : left.task = right.task := by rw [leftTask, rightTask, shared]
    exact ledger.single left inLeft right inRight together agent second enrollsLeft enrollsRight
  enrolled := by
    intro agent member
    obtain ⟨ran, there, enrolls⟩ := ledger.agents agent member
    obtain ⟨source, found, mine, row, backs⟩ := ledger.backed ran there agent enrolls
    obtain ⟨tokenHash, nodeName, now, asked, spec⟩ := taken_spec backs.taken
    obtain ⟨unused, enabled⟩ := active_iff.mp spec.active
    rw [← spec.tokenHash, ← spec.nodeName, backs.nodeName] at asked
    exact ⟨source.task, row, ⟨ran, there, mine.symm, enrolls⟩,
      ⟨source, found, rfl, spec.member, backs.taken, now, asked, spec.unexpired⟩, unused, enabled,
      backs.nodeName, backs.labels, backs.hostKey, backs.requested⟩
end SingleUse

/-- Empty tables, and any limiter. -/
def emptyWorld (limiter : EnrollmentRateLimiter) : EnrollmentWorld := ⟨⟨[], []⟩, limiter, []⟩

theorem ledger_empty (setting : Setting) (limiter : EnrollmentRateLimiter) :
    Ledger setting (emptyWorld limiter) := by
  constructor <;> simp [emptyWorld]

abbrev EnrollmentPool := Pool Nat EnrollmentWorld EnrollmentResult Exc

/-- The runs of a setting: any of its tasks, in any order of steps. -/
abbrev EnrollmentReachable (setting : Setting) (limiter : EnrollmentRateLimiter) :
    EnrollmentPool → Prop :=
  Reachable enrollmentWorld (fun task program _ => program = setting.program task)
    (emptyWorld limiter)

theorem pool_ledger {setting : Setting} {limiter : EnrollmentRateLimiter} {pool : EnrollmentPool}
    (distinct : Distinct setting) (reached : EnrollmentReachable setting limiter pool) :
    Ledger setting pool.state := by
  have safe := reachable_quiet (fun task state => ranBy task state = []) contract_lawful
    (fun _ _ _ _ different moved => guarantee_rely different moved)
    (fun _ _ _ _ different moved own => (guarantee_rely different moved).trans own)
    (fun _ _ _ _ _ given => enrollmentWorld_guarantee given)
    (fun task program state spawned ledger own => by
      rw [spawned]
      exact program_safe distinct own ledger)
    (ledger_empty setting limiter) (fun _ => rfl) reached
  exact safe.1.1

/-- Enrollment tokens are single use, in every run over either store. -/
theorem enrollment_single_use (setting : Setting) (distinct : Distinct setting)
    (limiter : EnrollmentRateLimiter) {pool : EnrollmentPool}
    (reached : EnrollmentReachable setting limiter pool) : SingleUse setting pool.state :=
  single_use (pool_ledger distinct reached)

/-- A token for a node and two agents that ask with it. -/
def settingOne : Setting where
  backend := .inMemory
  config := configOne
  calls := fun task => match task with
    | 0 => .createAgent ⟨lit "node01", [lit "edge"], nodeKeyOne, lit "admin"⟩ ⟨0, some 0⟩
    | _ => .enroll (requestOne nodeKeyOne) ⟨1000000, some 0⟩
  draws := fun task => match task with
    | 0 => drawsOne
    | _ => { drawsOne with token := [] }
  clock := fun _ => ⟨0, some 0⟩

theorem settingOne_distinct : Distinct settingOne := by
  have first : ∀ task hash, EnrollmentService.tokenHashOf settingOne.config.library
      (settingOne.draws task).token = .ok hash → task = 0 := by
    intro task hash hashed
    cases task with
    | zero => rfl
    | succ task => cases hashed
  intro one two hash left right
  rw [first one hash left, first two hash right]

theorem enrollment_single_use_race : ∃ pool : EnrollmentPool, pool.state.tables.agents.length = 1 ∧
    SingleUse settingOne pool.state := by
  have fresh : EnrollmentReachable settingOne .new ⟨fun _ => none, emptyWorld .new⟩ := .start
  have created := fresh.spawn 0 _ rfl rfl
  have won := created.spawn 1 _ rfl rfl
  have lost := won.spawn 2 _ rfl rfl
  exact ⟨_, by decide +kernel, enrollment_single_use settingOne settingOne_distinct .new lost⟩

end VibeConnect.EnrollmentTokens
