import VibeConnect.Enrollment

/-! The ledger of enrollment. What one statement can do to the tables is said
once, for the statements of both stores; the ledger ties every token to the task
that drew it and every agent to the token its own task took, and every statement
a task may run keeps it. -/
namespace VibeConnect.EnrollmentLedger
open Python.Text Python.Values Python.Coroutine Python.Tasks Models JumpCoordinator Enrollment
open TunnelAuthenticator

/-! What one statement does to the tables. -/
section Statements

/-- The row a statement adds. -/
def added : Statement → Option TokenRow
  | .insertToken row | .createToken row _ => some row
  | _ => none

/-- The agent a statement stores. -/
def enrolled : Statement → Option StoredAgent
  | .insertAgent agent | .putAgent agent => some agent
  | _ => none

/-- What a consuming statement asks for: the token hash, the node and the time. -/
def consuming : Statement → Option (Str × Str × DateTime)
  | .consumeActive tokenHash nodeName now | .consumeToken tokenHash nodeName now =>
      some (tokenHash, nodeName, now)
  | _ => none

/-- An update leaves a row its token and node, never makes it active, and never
takes a use back. -/
structure Follows (old new : TokenRow) : Prop where
  tokenHash : new.tokenHash = old.tokenHash
  nodeName : new.nodeName = old.nodeName
  active : new.active = true → old.active = true
  used : old.used = true → new.used = true

theorem follows_refl (row : TokenRow) : Follows row row := ⟨rfl, rfl, id, id⟩

theorem follows_disable (now : DateTime) (row : TokenRow) : Follows row (row.disable now) where
  tokenHash := rfl
  nodeName := rfl
  active is := by simp [TokenRow.active, TokenRow.disable] at is
  used := id

theorem follows_use (now : DateTime) (row : TokenRow) : Follows row (row.use now) where
  tokenHash := rfl
  nodeName := rfl
  active is := by simp [TokenRow.active, TokenRow.use] at is
  used _ := rfl

theorem follows_bind (agentId : Uuid) (row : TokenRow) : Follows row (row.bind agentId) :=
  ⟨rfl, rfl, id, id⟩

theorem follows_if (chosen : TokenRow → Bool) {change : TokenRow → TokenRow}
    (follows : ∀ row, Follows row (change row)) (row : TokenRow) :
    Follows row (if chosen row then change row else row) := by
  split
  · exact follows row
  · exact follows_refl row

theorem activeFor_iff {nodeName : Str} {row : TokenRow} :
    row.activeFor nodeName = true ↔ row.nodeName = nodeName ∧ row.active = true := by
  simp [TokenRow.activeFor]

theorem active_iff {row : TokenRow} : row.active = true ↔ row.used = false ∧ row.disabledAt = none := by
  simp [TokenRow.active]

/-- What a consuming statement finds. -/
structure Found (tables : Tables) (row : TokenRow) (tokenHash nodeName : Str) (now : DateTime) :
    Prop where
  member : row ∈ tables.tokens
  active : row.active = true
  tokenHash : row.tokenHash = tokenHash
  nodeName : row.nodeName = nodeName
  unexpired : now.instant < row.expiresAt.instant

theorem taken_spec {statement : Statement} {tables : Tables} {row : TokenRow}
    (found : statement.taken tables = some row) : ∃ tokenHash nodeName now,
      consuming statement = some (tokenHash, nodeName, now) ∧
        Found tables row tokenHash nodeName now := by
  cases statement with
  | consumeActive tokenHash nodeName now =>
      have holds := List.find?_some found
      simp only [TokenRow.consumable, Bool.and_eq_true, activeFor_iff, decide_eq_true_eq,
        beq_iff_eq] at holds
      obtain ⟨hash, ⟨node, isActive⟩, early⟩ := holds
      exact ⟨_, _, _, rfl, List.mem_of_find?_eq_some found, isActive, hash, node, early⟩
  | consumeToken tokenHash nodeName now =>
      unfold Statement.taken at found
      dsimp only at found
      split at found
      · cases found
      rename_i other there
      have hash := List.find?_some there
      split at found
      · cases found
      rename_i node
      split at found
      · cases found
      rename_i unspent
      split at found
      · cases found
      rename_i early
      cases found
      rw [not_or] at unspent
      have isActive : row.active = true :=
        active_iff.mpr ⟨Bool.eq_false_iff.mpr unspent.1, Option.not_isSome_iff_eq_none.mp unspent.2⟩
      exact ⟨_, _, _, rfl, List.mem_of_find?_eq_some there, isActive, eq_of_beq hash,
        not_not.mp node, not_le.mp early⟩
  | _ => cases found

/-- What a statement does to the tokens: each row is followed by one, a new row
comes last and finds no active row of its node, and the row that was taken is
used. -/
structure Moves (statement : Statement) (tables after : Tables) (update : TokenRow → TokenRow) :
    Prop where
  follows : ∀ row, Follows row (update row)
  tokens : after.tokens = tables.tokens.map update ++ (added statement).toList
  alone : ∀ new, added statement = some new → new.active = true → ∀ old ∈ tables.tokens,
    (update old).active = true → (update old).nodeName ≠ new.nodeName
  used : ∀ row, statement.taken tables = some row → (update row).used = true

/-- A statement that adds no row and takes none. -/
theorem moves_quiet {statement : Statement} {tables after : Tables} {update : TokenRow → TokenRow}
    (adds : added statement = none) (takes : statement.taken tables = none)
    (follows : ∀ row, Follows row (update row)) (tokens : after.tokens = tables.tokens.map update) :
    Moves statement tables after update where
  follows := follows
  tokens := by rw [adds, tokens]; exact (List.append_nil _).symm
  alone new impossible := by rw [adds] at impossible; cases impossible
  used row impossible := by rw [takes] at impossible; cases impossible

theorem run_moves {statement : Statement} {tables after : Tables} {result : StatementResult}
    (fresh : ∀ new, added statement = some new → ∀ old ∈ tables.tokens, old.tokenHash ≠ new.tokenHash)
    (ran : statement.run tables = .ok (result, after)) :
    ∃ update, Moves statement tables after update := by
  cases statement with
  | disableActive nodeName now =>
      cases ran
      exact ⟨_, moves_quiet rfl rfl (follows_if _ (follows_disable now)) rfl⟩
  | insertToken row =>
      unfold Statement.run at ran
      dsimp only at ran
      split at ran
      · cases ran
      split at ran
      · cases ran
      rename_i alone
      cases ran
      refine ⟨id, follows_refl, by rw [List.map_id]; rfl, ?_, fun _ impossible => by cases impossible⟩
      rintro new ⟨⟩ isActive old member oldActive same
      apply alone
      rw [Bool.and_eq_true, List.any_eq_true]
      exact ⟨isActive, old, member, activeFor_iff.mpr ⟨same, oldActive⟩⟩
  | consumeActive tokenHash nodeName now =>
      cases ran
      refine ⟨_, follows_if _ (follows_use now), (List.append_nil _).symm,
        (fun _ impossible => nomatch impossible), fun row found => ?_⟩
      rw [if_pos (List.find?_some found)]
      rfl
  | insertAgent agent =>
      unfold Statement.run at ran
      dsimp only at ran
      split at ran
      · cases ran
      cases ran
      exact ⟨id, moves_quiet rfl rfl follows_refl (List.map_id _).symm⟩
  | bindTokens agentId nodeName =>
      cases ran
      exact ⟨_, moves_quiet rfl rfl (follows_if _ (follows_bind agentId)) rfl⟩
  | createToken row now =>
      cases ran
      refine ⟨_, follows_if (TokenRow.activeFor row.nodeName) (follows_disable now), ?_, ?_,
        fun _ impossible => nomatch impossible⟩
      · -- the hash is new, so nothing is overwritten
        apply if_neg
        intro taken
        obtain ⟨other, member, same⟩ := List.any_eq_true.mp taken
        obtain ⟨old, there, rfl⟩ := List.mem_map.mp member
        have follows := follows_if (TokenRow.activeFor row.nodeName) (follows_disable now) old
        exact fresh row rfl old there (follows.tokenHash.symm.trans (eq_of_beq same))
      · rintro new ⟨⟩ isActive old member oldActive same
        split at oldActive
        · simp [TokenRow.active, TokenRow.disable] at oldActive
        · rename_i other
          rw [if_neg other] at same
          exact other (activeFor_iff.mpr ⟨same, oldActive⟩)
  | consumeToken tokenHash nodeName now =>
      cases found : (Statement.consumeToken tokenHash nodeName now).taken tables with
      | none =>
          unfold Statement.run at ran
          dsimp only at ran
          rw [found] at ran
          cases ran
          exact ⟨id, moves_quiet rfl found follows_refl (List.map_id _).symm⟩
      | some row =>
          unfold Statement.run at ran
          dsimp only at ran
          rw [found] at ran
          cases ran
          refine ⟨_, follows_if _ (follows_use now), (List.append_nil _).symm,
            (fun _ impossible => nomatch impossible), fun other same => ?_⟩
          obtain ⟨_, _, _, named, spec⟩ := taken_spec same
          cases named
          rw [if_pos (beq_iff_eq.mpr spec.tokenHash)]
          rfl
  | putAgent agent =>
      cases ran
      exact ⟨id, moves_quiet rfl rfl follows_refl (List.map_id _).symm⟩

/-- An agent of the table was there before or is the statement's. -/
theorem run_agents {statement : Statement} {tables after : Tables} {result : StatementResult}
    (ran : statement.run tables = .ok (result, after)) :
    ∀ agent ∈ after.agents, agent ∈ tables.agents ∨ enrolled statement = some agent := by
  intro agent member
  cases statement with
  | insertAgent new =>
      unfold Statement.run at ran
      dsimp only at ran
      split at ran
      · cases ran
      cases ran
      rcases List.mem_append.mp member with old | same
      · exact .inl old
      · exact .inr (by rw [List.mem_singleton.mp same]; rfl)
  | insertToken row =>
      unfold Statement.run at ran
      dsimp only at ran
      split at ran
      · cases ran
      split at ran
      · cases ran
      cases ran
      exact .inl member
  | consumeToken tokenHash nodeName now =>
      unfold Statement.run at ran
      dsimp only at ran
      cases ran
      refine .inl ?_
      split at member
      · exact member
      · exact member
  | putAgent new =>
      cases ran
      dsimp only [setAgent] at member
      split at member
      · obtain ⟨old, there, same⟩ := List.mem_map.mp member
        split at same
        · exact .inr (congrArg some same)
        · exact .inl (same ▸ there)
      · rcases List.mem_append.mp member with old | same
        · exact .inl old
        · exact .inr (by rw [List.mem_singleton.mp same]; rfl)
  | _ =>
      cases ran
      exact .inl member
end Statements

/-! The runs. -/
inductive Backend where
  | postgres
  | inMemory

def Backend.store (task : Nat) (clock : DateTime) : Backend → EnrollmentStore
  | .postgres => postgresEnrollmentStore clock
  | .inMemory => inMemoryEnrollmentStore task clock

inductive ServiceCall where
  | createAgent (request : AgentRequest) (now : DateTime)
  | enroll (request : EnrollmentRequest) (now : DateTime)
  | expireToken (nodeName actor : Str) (now : DateTime)

/-- One service over one store, and what each task asks of it and draws. -/
structure Setting where
  backend : Backend
  config : EnrollmentConfig
  calls : Nat → ServiceCall
  draws : Nat → EnrollmentDraws
  clock : Nat → DateTime

def Setting.serviceOf (setting : Setting) (task : Nat) : EnrollmentService :=
  { setting.config with store := setting.backend.store task (setting.clock task) }

def Setting.program (setting : Setting) (task : Nat) : EnrollmentTask Unit :=
  match setting.calls task with
  | .createAgent request now => do
      let _ ← (setting.serviceOf task).createAgent (setting.draws task) request now
      pure ()
  | .enroll request now => do
      let _ ← (setting.serviceOf task).enroll request (setting.draws task) now
      pure ()
  | .expireToken nodeName actor now => do
      let _ ← expireToken (setting.serviceOf task).audited nodeName actor now
      pure ()

/-- A fault of the database can hide that the statement took effect. -/
def enrollmentWorld (task : Nat) : World EnrollmentWorld EnrollmentResult Exc
  | .execute statement, answer, before, after =>
      (answer, after) = before.execute task statement ∨
        (∃ fault, answer = .error fault) ∧
          (after = before ∨ after = (before.execute task statement).2)
  | .writeAudit _, _, before, after => after = before

/-- The statements of one task, in order. -/
def ranBy (task : Nat) (world : EnrollmentWorld) : List Ran :=
  world.history.filter fun ran => decide (ran.task = task)

/-- The agent is what its task's call makes of the row that the task took. -/
structure Backs (setting : Setting) (source : Ran) (row : TokenRow) (agent : StoredAgent) : Prop where
  taken : source.statement.taken source.before = some row
  nodeName : row.nodeName = agent.nodeName
  labels : row.labels = agent.labels
  hostKey : row.nodeSshHostPublicKey = agent.nodeSshHostPublicKey
  requested : ∃ request now, setting.calls source.task = .enroll request now ∧
    validateNodeSshHostPublicKey setting.config.library request.nodeSshHostPublicKey =
      .ok agent.nodeSshHostPublicKey

/-- Tokens are told apart by the task that drew them. -/
def Distinct (setting : Setting) : Prop :=
  ∀ one two hash,
    EnrollmentService.tokenHashOf setting.config.library (setting.draws one).token = .ok hash →
    EnrollmentService.tokenHashOf setting.config.library (setting.draws two).token = .ok hash →
    one = two

/-- The tables against the history. -/
structure Ledger (setting : Setting) (world : EnrollmentWorld) : Prop where
  hashes : (world.tables.tokens.map (·.tokenHash)).Nodup
  active : ∀ one ∈ world.tables.tokens, ∀ two ∈ world.tables.tokens, one.active = true →
    two.active = true → one.nodeName = two.nodeName → one.tokenHash = two.tokenHash
  origin : ∀ row ∈ world.tables.tokens, ∃ ran ∈ world.history, ∃ new,
    added ran.statement = some new ∧ new.tokenHash = row.tokenHash
  drawn : ∀ ran ∈ world.history, ∀ new, added ran.statement = some new →
    EnrollmentService.tokenHashOf setting.config.library (setting.draws ran.task).token =
      .ok new.tokenHash
  spent : ∀ ran ∈ world.history, ∀ row, ran.statement.taken ran.before = some row →
    ∃ old ∈ world.tables.tokens, old.tokenHash = row.tokenHash ∧ old.used = true
  once : ∀ one ∈ world.history, ∀ two ∈ world.history, ∀ row other,
    one.statement.taken one.before = some row → two.statement.taken two.before = some other →
    row.tokenHash = other.tokenHash → one = two
  agents : ∀ agent ∈ world.tables.agents, ∃ ran ∈ world.history, enrolled ran.statement = some agent
  backed : ∀ ran ∈ world.history, ∀ agent, enrolled ran.statement = some agent →
    ∃ source ∈ world.history, source.task = ran.task ∧ ∃ row, Backs setting source row agent
  single : ∀ one ∈ world.history, ∀ two ∈ world.history, one.task = two.task →
    ∀ agent other, enrolled one.statement = some agent → enrolled two.statement = some other →
    agent = other

/-- What a task may run after the statements it ran. -/
structure Permitted (setting : Setting) (task : Nat) (mine : List Ran) (statement : Statement) :
    Prop where
  adds : ∀ new, added statement = some new →
    EnrollmentService.tokenHashOf setting.config.library (setting.draws task).token =
      .ok new.tokenHash ∧ ∀ ran ∈ mine, added ran.statement = none
  enrolls : ∀ agent, enrolled statement = some agent →
    (∃ source ∈ mine, ∃ row, Backs setting source row agent) ∧
      ∀ ran ∈ mine, enrolled ran.statement = none

section Ledger
variable {setting : Setting} {world : EnrollmentWorld} {task : Nat} {statement : Statement}

theorem mem_ranBy {ran : Ran} : ran ∈ ranBy task world ↔ ran ∈ world.history ∧ ran.task = task := by
  simp [ranBy]

/-- A drawn token is no row of the table yet. -/
theorem Ledger.fresh (distinct : Distinct setting) (ledger : Ledger setting world)
    (permitted : Permitted setting task (ranBy task world) statement) {new : TokenRow}
    (adds : added statement = some new) : ∀ old ∈ world.tables.tokens, old.tokenHash ≠ new.tokenHash := by
  intro old member same
  obtain ⟨ran, there, first, addsFirst, named⟩ := ledger.origin old member
  have hash := ledger.drawn ran there first addsFirst
  obtain ⟨drawn, unadded⟩ := permitted.adds new adds
  have mine : ran.task = task := distinct _ _ _ hash (by rw [drawn, named, same])
  rw [unadded ran (mem_ranBy.mpr ⟨there, mine⟩)] at addsFirst
  cases addsFirst

/-- Equal hashes name the same row. -/
theorem Ledger.row_eq (ledger : Ledger setting world) {one two : TokenRow}
    (left : one ∈ world.tables.tokens) (right : two ∈ world.tables.tokens)
    (same : one.tokenHash = two.tokenHash) : one = two :=
  List.inj_on_of_nodup_map ledger.hashes left right same

/-- No task took the row of an active token before. -/
theorem Ledger.untaken (ledger : Ledger setting world) {row other : TokenRow} {ran : Ran}
    (found : statement.taken world.tables = some row) (member : ran ∈ world.history)
    (taken : ran.statement.taken ran.before = some other) : row.tokenHash ≠ other.tokenHash := by
  intro same
  obtain ⟨_, _, _, -, spec⟩ := taken_spec found
  obtain ⟨old, there, named, used⟩ := ledger.spent ran member other taken
  have equal : row = old := ledger.row_eq spec.member there (same.trans named.symm)
  have unused := (active_iff.mp spec.active).1
  rw [equal, used] at unused
  cases unused

section Step
variable {update : TokenRow → TokenRow} {after : Tables}

theorem Moves.mem (moves : Moves statement world.tables after update) {row : TokenRow} :
    row ∈ after.tokens ↔
      (∃ old ∈ world.tables.tokens, update old = row) ∨ added statement = some row := by
  rw [moves.tokens, List.mem_append, List.mem_map, Option.mem_toList]

theorem Moves.hashes (moves : Moves statement world.tables after update)
    (nodup : (world.tables.tokens.map (·.tokenHash)).Nodup)
    (fresh : ∀ new, added statement = some new →
      ∀ old ∈ world.tables.tokens, old.tokenHash ≠ new.tokenHash) :
    (after.tokens.map (·.tokenHash)).Nodup := by
  have same : (world.tables.tokens.map update).map (·.tokenHash) =
      world.tables.tokens.map (·.tokenHash) := by
    rw [List.map_map]
    exact List.map_congr_left fun row _ => (moves.follows row).tokenHash
  rw [moves.tokens, List.map_append, same]
  cases adds : added statement with
  | none => simpa using nodup
  | some new =>
      rw [List.nodup_append]
      refine ⟨nodup, List.nodup_singleton _, ?_⟩
      intro hash old other isNew equal
      obtain ⟨row, member, rfl⟩ := List.mem_map.mp old
      rw [List.mem_singleton.mp isNew] at equal
      exact fresh new adds row member equal

theorem Moves.active (moves : Moves statement world.tables after update)
    (active : ∀ one ∈ world.tables.tokens, ∀ two ∈ world.tables.tokens, one.active = true →
      two.active = true → one.nodeName = two.nodeName → one.tokenHash = two.tokenHash) :
    ∀ one ∈ after.tokens, ∀ two ∈ after.tokens, one.active = true → two.active = true →
      one.nodeName = two.nodeName → one.tokenHash = two.tokenHash := by
  intro one left two right oneActive twoActive same
  rcases moves.mem.mp left with ⟨first, there, rfl⟩ | addsOne
  · have follows := moves.follows first
    rcases moves.mem.mp right with ⟨second, also, rfl⟩ | addsTwo
    · have alike := moves.follows second
      rw [follows.tokenHash, alike.tokenHash]
      rw [follows.nodeName, alike.nodeName] at same
      exact active first there second also (follows.active oneActive) (alike.active twoActive) same
    · exact absurd same (moves.alone two addsTwo twoActive first there oneActive)
  · rcases moves.mem.mp right with ⟨second, also, rfl⟩ | addsTwo
    · exact absurd same.symm (moves.alone one addsOne oneActive second also twoActive)
    · rw [addsOne] at addsTwo
      cases addsTwo
      rfl

/-- A row of the table is still there under its hash, and used if it was. -/
theorem Moves.kept (moves : Moves statement world.tables after update) {old : TokenRow}
    (member : old ∈ world.tables.tokens) : ∃ new ∈ after.tokens, new.tokenHash = old.tokenHash ∧
      (old.used = true ∨ statement.taken world.tables = some old → new.used = true) := by
  refine ⟨update old, moves.mem.mpr (.inl ⟨old, member, rfl⟩), (moves.follows old).tokenHash, ?_⟩
  rintro (used | taken)
  · exact (moves.follows old).used used
  · exact moves.used old taken
end Step

theorem Ledger.execute (distinct : Distinct setting) (ledger : Ledger setting world)
    (permitted : Permitted setting task (ranBy task world) statement) :
    Ledger setting (world.execute task statement).2 := by
  unfold EnrollmentWorld.execute
  split
  · exact ledger
  rename_i result after ran
  have fresh : ∀ new, added statement = some new →
      ∀ old ∈ world.tables.tokens, old.tokenHash ≠ new.tokenHash :=
    fun new adds => ledger.fresh distinct permitted adds
  obtain ⟨update, moves⟩ := run_moves fresh ran
  have last : ∀ entry, entry ∈ world.history ++ [⟨task, world.tables, statement⟩] ↔
      entry ∈ world.history ∨ entry = ⟨task, world.tables, statement⟩ := by
    intro entry
    rw [List.mem_append, List.mem_singleton]
  constructor
  case hashes => exact moves.hashes ledger.hashes fresh
  case active => exact moves.active ledger.active
  case origin =>
    intro row member
    rcases moves.mem.mp member with ⟨old, there, rfl⟩ | adds
    · obtain ⟨entry, found, new, adds, named⟩ := ledger.origin old there
      exact ⟨entry, (last _).mpr (.inl found), new, adds, named.trans (moves.follows old).tokenHash.symm⟩
    · exact ⟨_, (last _).mpr (.inr rfl), row, adds, rfl⟩
  case drawn =>
    intro entry member new adds
    rcases (last _).mp member with old | rfl
    · exact ledger.drawn entry old new adds
    · exact (permitted.adds new adds).1
  case spent =>
    intro entry member row taken
    rcases (last _).mp member with old | rfl
    · obtain ⟨row', there, named, used⟩ := ledger.spent entry old row taken
      obtain ⟨new, found, same, keeps⟩ := moves.kept there
      exact ⟨new, found, same.trans named, keeps (.inl used)⟩
    · obtain ⟨_, _, _, -, spec⟩ := taken_spec taken
      obtain ⟨new, found, same, keeps⟩ := moves.kept spec.member
      exact ⟨new, found, same, keeps (.inr taken)⟩
  case once =>
    intro one left two right row other takesOne takesTwo same
    rcases (last _).mp left with old | rfl
    · rcases (last _).mp right with also | rfl
      · exact ledger.once one old two also row other takesOne takesTwo same
      · exact absurd same.symm (ledger.untaken takesTwo old takesOne)
    · rcases (last _).mp right with also | rfl
      · exact absurd same (ledger.untaken takesOne also takesTwo)
      · rfl
  case agents =>
    intro agent member
    rcases run_agents ran agent member with old | enrolls
    · obtain ⟨entry, found, enrolls⟩ := ledger.agents agent old
      exact ⟨entry, (last _).mpr (.inl found), enrolls⟩
    · exact ⟨_, (last _).mpr (.inr rfl), enrolls⟩
  case backed =>
    intro entry member agent enrolls
    rcases (last _).mp member with old | rfl
    · obtain ⟨source, found, rest⟩ := ledger.backed entry old agent enrolls
      exact ⟨source, (last _).mpr (.inl found), rest⟩
    · obtain ⟨⟨source, found, backs⟩, -⟩ := permitted.enrolls agent enrolls
      obtain ⟨there, mine⟩ := mem_ranBy.mp found
      exact ⟨source, (last _).mpr (.inl there), mine, backs⟩
  case single =>
    intro one left two right same agent other enrollsOne enrollsTwo
    -- a task that stored an agent is not permitted to store another
    rcases (last _).mp left with old | rfl
    · rcases (last _).mp right with also | rfl
      · exact ledger.single one old two also same agent other enrollsOne enrollsTwo
      · rw [(permitted.enrolls other enrollsTwo).2 one (mem_ranBy.mpr ⟨old, same⟩)] at enrollsOne
        cases enrollsOne
    · rcases (last _).mp right with also | rfl
      · rw [(permitted.enrolls agent enrollsOne).2 two (mem_ranBy.mpr ⟨also, same.symm⟩)] at enrollsTwo
        cases enrollsTwo
      · rw [enrollsOne] at enrollsTwo
        cases enrollsTwo
        rfl
end Ledger

end VibeConnect.EnrollmentLedger
