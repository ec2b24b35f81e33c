import VibeConnect.EnrollmentTokens

/-! Which agent a token of the PostgreSQL store is attributed to. The update that
attributes finds the token by its node, so a run attributes exactly as long as
each update finds no other used token of the node. -/
namespace VibeConnect.TokenAttribution
open Python.Text Python.Values Python.Coroutine Python.Tasks Models JumpCoordinator Enrollment
open TunnelAuthenticator EnrollmentLedger EnrollmentTokens

/-- A call consumed the token of this hash. -/
def ConsumedBy (world : EnrollmentWorld) (task : Nat) (tokenHash : Str) : Prop :=
  ∃ ran ∈ world.history, ran.task = task ∧ ∃ row,
    ran.statement.taken ran.before = some row ∧ row.tokenHash = tokenHash

/-- A call persisted the agent of this id. -/
def PersistedBy (world : EnrollmentWorld) (task : Nat) (agentId : Uuid) : Prop :=
  ∃ ran ∈ world.history, ran.task = task ∧ ∃ agent,
    enrolled ran.statement = some agent ∧ agent.agentId = agentId

/-- The statements that the PostgreSQL store sends. -/
def isSql : Statement → Bool
  | .createToken .. | .consumeToken .. | .putAgent .. => false
  | _ => true

/-- The update that attributes tokens. -/
def binds : Statement → Option (Uuid × Str)
  | .bindTokens agentId nodeName => some (agentId, nodeName)
  | _ => none

/-! What one statement does to the attribution of a row. -/
section Statements
variable {statement : Statement} {tables after : Tables} {result : StatementResult}

/-- A row is followed by one of the same token and node, which keeps its agent; the
update fills it in where it was missing. -/
structure Succeeds (statement : Statement) (old new : TokenRow) : Prop where
  tokenHash : new.tokenHash = old.tokenHash
  nodeName : new.nodeName = old.nodeName
  used : old.used = true → new.used = true
  bound : ∀ agentId nodeName, binds statement = some (agentId, nodeName) →
    old.unbound nodeName = true → new.agentId = some agentId
  other : new.agentId = old.agentId ∨ ∃ agentId nodeName, binds statement = some (agentId, nodeName) ∧
    old.unbound nodeName = true ∧ new.agentId = some agentId

theorem succeeds_plain {old new : TokenRow} (plain : binds statement = none)
    (tokenHash : new.tokenHash = old.tokenHash) (nodeName : new.nodeName = old.nodeName)
    (used : old.used = true → new.used = true) (agentId : new.agentId = old.agentId) :
    Succeeds statement old new where
  tokenHash := tokenHash
  nodeName := nodeName
  used := used
  bound agentId nodeName impossible := by
    rw [plain] at impossible
    cases impossible
  other := .inl agentId

theorem succeeds_self {row : TokenRow} (plain : binds statement = none) :
    Succeeds statement row row :=
  succeeds_plain plain rfl rfl id rfl

/-- Every row of the table is followed by one, and a new one has no agent. -/
structure Carries (statement : Statement) (tables after : Tables) (update : TokenRow → TokenRow) :
    Prop where
  succeeds : ∀ row ∈ tables.tokens, Succeeds statement row (update row)
  tokens : after.tokens = tables.tokens.map update ++ (added statement).toList
  fresh : ∀ new, added statement = some new → ∀ old ∈ tables.tokens, old.tokenHash ≠ new.tokenHash
  taken : ∀ row, statement.taken tables = some row → row ∈ tables.tokens ∧ (update row).used = true

/-- A statement that takes no token. -/
theorem carries_quiet {update : TokenRow → TokenRow}
    (succeeds : ∀ row ∈ tables.tokens, Succeeds statement row (update row))
    (tokens : after.tokens = tables.tokens.map update ++ (added statement).toList)
    (fresh : ∀ new, added statement = some new → ∀ old ∈ tables.tokens, old.tokenHash ≠ new.tokenHash)
    (takes : statement.taken tables = none) : Carries statement tables after update where
  succeeds := succeeds
  tokens := tokens
  fresh := fresh
  taken row impossible := by
    rw [takes] at impossible
    cases impossible

theorem unadded {holds : TokenRow → Prop} (silent : added statement = none) :
    ∀ new, added statement = some new → holds new := by
  intro new adds
  cases silent.symm.trans adds

theorem run_carries (sql : isSql statement = true) (ran : statement.run tables = .ok (result, after)) :
    ∃ update, Carries statement tables after update := by
  cases statement with
  | disableActive nodeName now =>
      cases ran
      refine ⟨_, carries_quiet (fun row _ => ?_) (List.append_nil _).symm
        (unadded rfl) rfl⟩
      split
      · exact succeeds_plain rfl rfl rfl id rfl
      · exact succeeds_self rfl
  | insertToken row =>
      unfold Statement.run at ran
      dsimp only at ran
      split at ran
      · cases ran
      rename_i free
      split at ran
      · cases ran
      cases ran
      have fresh : ∀ new, added (.insertToken row) = some new →
          ∀ old ∈ tables.tokens, old.tokenHash ≠ new.tokenHash := by
        rintro new ⟨⟩ old member same
        exact free (List.any_eq_true.mpr ⟨old, member, beq_iff_eq.mpr same⟩)
      exact ⟨id, carries_quiet (fun _ _ => succeeds_self rfl) (by rw [List.map_id]; rfl) fresh rfl⟩
  | consumeActive tokenHash nodeName now =>
      cases ran
      refine ⟨_, fun row _ => ?_, (List.append_nil _).symm,
        (unadded rfl), fun row found => ?_⟩
      · split
        · exact succeeds_plain rfl rfl rfl (fun _ => rfl) rfl
        · exact succeeds_self rfl
      · refine ⟨List.mem_of_find?_eq_some found, ?_⟩
        rw [if_pos (List.find?_some found)]
        rfl
  | insertAgent agent =>
      unfold Statement.run at ran
      dsimp only at ran
      split at ran
      · cases ran
      cases ran
      exact ⟨id, carries_quiet (fun row _ => succeeds_self rfl) (by rw [List.map_id]; simp [added])
        (unadded rfl) rfl⟩
  | bindTokens agentId nodeName =>
      cases ran
      refine ⟨_, carries_quiet (fun row _ => ?_) (List.append_nil _).symm
        (unadded rfl) rfl⟩
      split
      · rename_i unbound
        refine ⟨rfl, rfl, id, ?_, .inr ⟨agentId, nodeName, rfl, unbound, rfl⟩⟩
        rintro other node ⟨⟩ _
        rfl
      · rename_i bound
        refine ⟨rfl, rfl, id, ?_, .inl rfl⟩
        rintro other node ⟨⟩ unbound
        exact absurd unbound bound
  | createToken row now => cases sql
  | consumeToken tokenHash nodeName now => cases sql
  | putAgent agent => cases sql

theorem Carries.mem {update : TokenRow → TokenRow} (carries : Carries statement tables after update)
    {row : TokenRow} : row ∈ after.tokens ↔
      (∃ old ∈ tables.tokens, update old = row) ∨ added statement = some row := by
  rw [carries.tokens, List.mem_append, List.mem_map, Option.mem_toList]
end Statements

theorem unbound_iff {row : TokenRow} {nodeName : Str} : row.unbound nodeName = true ↔
    row.nodeName = nodeName ∧ row.used = true ∧ row.agentId = none := by
  simp [TokenRow.unbound, and_assoc]

/-- An agent once filled in stays. -/
theorem Succeeds.keeps {old new : TokenRow} (succeeds : Succeeds statement old new) {agentId : Uuid}
    (bound : old.agentId = some agentId) : new.agentId = some agentId := by
  rcases succeeds.other with same | ⟨_, _, -, unbound, -⟩
  · exact same.trans bound
  · rw [(unbound_iff.mp unbound).2.2] at bound
    cases bound

/-! The tokens against the history. -/
structure Book (world : EnrollmentWorld) : Prop where
  hashes : (world.tables.tokens.map (·.tokenHash)).Nodup
  spent : ∀ ran ∈ world.history, ∀ row, ran.statement.taken ran.before = some row →
    ∃ old ∈ world.tables.tokens, old.tokenHash = row.tokenHash ∧ old.nodeName = row.nodeName ∧
      old.used = true
  once : ∀ one ∈ world.history, ∀ two ∈ world.history, ∀ row other,
    one.statement.taken one.before = some row → two.statement.taken two.before = some other →
    row.tokenHash = other.tokenHash → one = two
  bound : ∀ row ∈ world.tables.tokens, ∀ agentId, row.agentId = some agentId →
    ∃ task, ConsumedBy world task row.tokenHash ∧ PersistedBy world task agentId

/-- What a call may run after the statements it ran. -/
structure Allowed (mine : List Ran) (statement : Statement) : Prop where
  sql : isSql statement = true
  unattributed : ∀ new, added statement = some new → new.agentId = none
  persisted : ∀ agentId nodeName, binds statement = some (agentId, nodeName) →
    ∃ ran ∈ mine, ∃ agent, enrolled ran.statement = some agent ∧ agent.agentId = agentId

/-- The update finds no used token of the node but what the call consumed. -/
def Exact (task : Nat) (world : EnrollmentWorld) (nodeName : Str) : Prop :=
  ∀ row ∈ world.tables.tokens, row.unbound nodeName = true → ConsumedBy world task row.tokenHash

section Book
variable {world : EnrollmentWorld} {task : Nat} {statement : Statement}

theorem Book.row_eq (book : Book world) {one two : TokenRow} (left : one ∈ world.tables.tokens)
    (right : two ∈ world.tables.tokens) (same : one.tokenHash = two.tokenHash) : one = two :=
  List.inj_on_of_nodup_map book.hashes left right same

/-- One call consumes a token. -/
theorem Book.consumer_eq (book : Book world) {other : Nat} {tokenHash : Str}
    (first : ConsumedBy world task tokenHash) (second : ConsumedBy world other tokenHash) :
    task = other := by
  obtain ⟨one, left, rfl, row, takesOne, hash⟩ := first
  obtain ⟨two, right, rfl, also, takesTwo, same⟩ := second
  rw [book.once one left two right row also takesOne takesTwo (hash.trans same.symm)]

theorem ConsumedBy.later {ran : Ran} {tables : Tables} {limiter : EnrollmentRateLimiter} {tokenHash : Str}
    (consumed : ConsumedBy world task tokenHash) :
    ConsumedBy ⟨tables, limiter, world.history ++ [ran]⟩ task tokenHash := by
  obtain ⟨source, member, rest⟩ := consumed
  exact ⟨source, List.mem_append_left _ member, rest⟩

theorem PersistedBy.later {ran : Ran} {tables : Tables} {limiter : EnrollmentRateLimiter} {agentId : Uuid}
    (persisted : PersistedBy world task agentId) :
    PersistedBy ⟨tables, limiter, world.history ++ [ran]⟩ task agentId := by
  obtain ⟨source, member, rest⟩ := persisted
  exact ⟨source, List.mem_append_left _ member, rest⟩

theorem ConsumedBy.earlier {ran : Ran} {tables : Tables} {limiter : EnrollmentRateLimiter}
    {tokenHash : Str} (takes : ran.statement.taken ran.before = none)
    (consumed : ConsumedBy ⟨tables, limiter, world.history ++ [ran]⟩ task tokenHash) :
    ConsumedBy world task tokenHash := by
  obtain ⟨source, member, mine, row, taken, hash⟩ := consumed
  rcases List.mem_append.mp member with old | new
  · exact ⟨source, old, mine, row, taken, hash⟩
  · rw [List.mem_singleton.mp new, takes] at taken
    cases taken

theorem PersistedBy.earlier {ran : Ran} {tables : Tables} {limiter : EnrollmentRateLimiter}
    {agentId : Uuid} (enrolls : enrolled ran.statement = none)
    (persisted : PersistedBy ⟨tables, limiter, world.history ++ [ran]⟩ task agentId) :
    PersistedBy world task agentId := by
  obtain ⟨source, member, mine, agent, stored, named⟩ := persisted
  rcases List.mem_append.mp member with old | new
  · exact ⟨source, old, mine, agent, stored, named⟩
  · rw [List.mem_singleton.mp new, enrolls] at stored
    cases stored

theorem Book.execute (book : Book world) (allowed : Allowed (ranBy task world) statement)
    (found : ∀ agentId nodeName, binds statement = some (agentId, nodeName) → Exact task world nodeName) :
    Book (world.execute task statement).2 := by
  unfold EnrollmentWorld.execute
  split
  · exact book
  rename_i result after ran
  obtain ⟨update, carries⟩ := run_carries allowed.sql ran
  have last : ∀ entry, entry ∈ world.history ++ [⟨task, world.tables, statement⟩] ↔
      entry ∈ world.history ∨ entry = ⟨task, world.tables, statement⟩ := by
    intro entry
    rw [List.mem_append, List.mem_singleton]
  -- a token that a call takes was not taken before
  have untaken : ∀ entry ∈ world.history, ∀ row other, statement.taken world.tables = some row →
      entry.statement.taken entry.before = some other → row.tokenHash ≠ other.tokenHash := by
    intro entry member row other takes taken same
    obtain ⟨_, _, _, -, spec⟩ := taken_spec takes
    obtain ⟨old, there, named, -, used⟩ := book.spent entry member other taken
    have equal : row = old := book.row_eq spec.member there (same.trans named.symm)
    have unused := (active_iff.mp spec.active).1
    rw [equal, used] at unused
    cases unused
  constructor
  case hashes =>
    have same : (world.tables.tokens.map update).map (·.tokenHash) =
        world.tables.tokens.map (·.tokenHash) := by
      rw [List.map_map]
      exact List.map_congr_left fun row member => (carries.succeeds row member).tokenHash
    dsimp only
    rw [carries.tokens, List.map_append, same]
    cases adds : added statement with
    | none => simpa using book.hashes
    | some new =>
        rw [List.nodup_append]
        refine ⟨book.hashes, List.nodup_singleton _, ?_⟩
        intro hash old other isNew equal
        obtain ⟨row, member, rfl⟩ := List.mem_map.mp old
        rw [List.mem_singleton.mp isNew] at equal
        exact carries.fresh new adds row member equal
  case spent =>
    intro entry member row taken
    have follows : ∀ old ∈ world.tables.tokens, old.tokenHash = row.tokenHash →
        old.nodeName = row.nodeName → (update old).used = true →
        ∃ new ∈ after.tokens, new.tokenHash = row.tokenHash ∧ new.nodeName = row.nodeName ∧
          new.used = true := by
      intro old there hash node used
      have succeeds := carries.succeeds old there
      exact ⟨update old, carries.mem.mpr (.inl ⟨old, there, rfl⟩), succeeds.tokenHash.trans hash,
        succeeds.nodeName.trans node, used⟩
    rcases (last _).mp member with earlier | rfl
    · obtain ⟨old, there, hash, node, used⟩ := book.spent entry earlier row taken
      exact follows old there hash node ((carries.succeeds old there).used used)
    · obtain ⟨there, used⟩ := carries.taken row taken
      exact follows row there rfl rfl used
  case once =>
    intro one left two right row other takesOne takesTwo same
    rcases (last _).mp left with old | rfl
    · rcases (last _).mp right with also | rfl
      · exact book.once one old two also row other takesOne takesTwo same
      · exact absurd same.symm (untaken one old other row takesTwo takesOne)
    · rcases (last _).mp right with also | rfl
      · exact absurd same (untaken two also row other takesOne takesTwo)
      · rfl
  case bound =>
    intro row member agentId bound
    rcases carries.mem.mp member with ⟨old, there, rfl⟩ | adds
    · have succeeds := carries.succeeds old there
      rcases succeeds.other with same | ⟨_, nodeName, bindsNode, unbound, filled⟩
      · obtain ⟨other, consumed, persisted⟩ := book.bound old there agentId (same.symm.trans bound)
        rw [succeeds.tokenHash]
        exact ⟨other, consumed.later, persisted.later⟩
      · cases filled.symm.trans bound
        obtain ⟨source, mine, agent, enrolls, named⟩ := allowed.persisted _ _ bindsNode
        obtain ⟨earlier, own⟩ := mem_ranBy.mp mine
        have persisted : PersistedBy world task agentId := ⟨source, earlier, own, agent, enrolls, named⟩
        rw [succeeds.tokenHash]
        exact ⟨task, (found _ _ bindsNode old there unbound).later, persisted.later⟩
    · rw [allowed.unattributed row adds] at bound
      cases bound
end Book

/-! The calls. -/

/-- The database takes the statements of the store and keeps no effect of an INSERT
from the call; the update of a call takes effect, and finds what the call consumed. -/
def Exactly (task : Nat) : (call : EnrollmentCall) → Except Exc (EnrollmentResult call) →
    EnrollmentWorld → EnrollmentWorld → Prop
  | .execute (.insertAgent _), .error _, before, after => after = before
  | .execute (.bindTokens agentId nodeName), _, before, after =>
      after = (before.execute task (.bindTokens agentId nodeName)).2 ∧ Exact task before nodeName
  | .execute statement, _, _, _ => isSql statement = true
  | .writeAudit _, _, _, _ => True

def attributionWorld (task : Nat) : World EnrollmentWorld EnrollmentResult Exc :=
  fun call answer before after =>
    enrollmentWorld task call answer before after ∧ Exactly task call answer before after

/-- Rows that have an agent keep it. -/
def Kept (before after : EnrollmentWorld) : Prop :=
  ∀ old ∈ before.tables.tokens, ∀ agentId, old.agentId = some agentId →
    ∃ new ∈ after.tables.tokens, new.tokenHash = old.tokenHash ∧ new.agentId = some agentId

theorem kept_refl (world : EnrollmentWorld) : Kept world world :=
  fun old member _ bound => ⟨old, member, rfl, bound⟩

theorem Kept.trans {one two three : EnrollmentWorld} (first : Kept one two) (second : Kept two three) :
    Kept one three := by
  intro old member agentId bound
  obtain ⟨middle, there, hash, still⟩ := first old member agentId bound
  obtain ⟨new, found, same, last⟩ := second middle there agentId still
  exact ⟨new, found, same.trans hash, last⟩

theorem execute_kept {statement : Statement} (sql : isSql statement = true) (task : Nat)
    (world : EnrollmentWorld) : Kept world (world.execute task statement).2 := by
  unfold EnrollmentWorld.execute
  split
  · exact kept_refl world
  rename_i result after ran
  obtain ⟨update, carries⟩ := run_carries sql ran
  intro old member agentId bound
  have succeeds := carries.succeeds old member
  exact ⟨update old, carries.mem.mpr (.inl ⟨old, member, rfl⟩), succeeds.tokenHash, succeeds.keeps bound⟩

/-- The agent that a call persisted is the one of the token that it consumed. -/
def Credited (task : Nat) (world : EnrollmentWorld) : Prop :=
  ∀ agentId tokenHash, PersistedBy world task agentId → ConsumedBy world task tokenHash →
    ∃ row ∈ world.tables.tokens, row.tokenHash = tokenHash ∧ row.agentId = some agentId

theorem consumedBy_iff {world : EnrollmentWorld} {task : Nat} {tokenHash : Str} :
    ConsumedBy world task tokenHash ↔ ∃ ran ∈ ranBy task world, ∃ row,
      ran.statement.taken ran.before = some row ∧ row.tokenHash = tokenHash := by
  constructor
  · rintro ⟨ran, member, mine, rest⟩
    exact ⟨ran, mem_ranBy.mpr ⟨member, mine⟩, rest⟩
  · rintro ⟨ran, member, rest⟩
    obtain ⟨member, mine⟩ := mem_ranBy.mp member
    exact ⟨ran, member, mine, rest⟩

theorem persistedBy_iff {world : EnrollmentWorld} {task : Nat} {agentId : Uuid} :
    PersistedBy world task agentId ↔ ∃ ran ∈ ranBy task world, ∃ agent,
      enrolled ran.statement = some agent ∧ agent.agentId = agentId := by
  constructor
  · rintro ⟨ran, member, mine, rest⟩
    exact ⟨ran, mem_ranBy.mpr ⟨member, mine⟩, rest⟩
  · rintro ⟨ran, member, rest⟩
    obtain ⟨member, mine⟩ := mem_ranBy.mp member
    exact ⟨ran, member, mine, rest⟩

/-- A call that persisted no agent has nothing to be credited with. -/
theorem credited_none {task : Nat} {world : EnrollmentWorld}
    (nobody : ∀ ran ∈ ranBy task world, enrolled ran.statement = none) : Credited task world := by
  intro agentId tokenHash persisted _
  obtain ⟨ran, member, agent, enrolls, -⟩ := persistedBy_iff.mp persisted
  rw [nobody ran member] at enrolls
  cases enrolls

def attribution (task : Nat) : Contract EnrollmentWorld Exc Unit where
  rely before after := ranBy task after = ranBy task before ∧ Kept before after
  guarantee before after := (contract task).guarantee before after ∧ Kept before after
  post _ after := Credited task after

theorem attribution_lawful (task : Nat) : (attribution task).Lawful where
  rely_refl state := ⟨rfl, kept_refl state⟩
  rely_trans _ _ _ first second := ⟨second.1.trans first.1, first.2.trans second.2⟩
  guarantee_refl state := ⟨(contract_lawful task).guarantee_refl state, kept_refl state⟩
  guarantee_trans _ _ _ first second :=
    ⟨(contract_lawful task).guarantee_trans _ _ _ first.1 second.1, first.2.trans second.2⟩
  stable := by
    rintro outcome before after credited ⟨own, kept⟩ agentId tokenHash persisted consumed
    rw [persistedBy_iff, own, ← persistedBy_iff] at persisted
    rw [consumedBy_iff, own, ← consumedBy_iff] at consumed
    obtain ⟨row, member, hash, bound⟩ := credited agentId tokenHash persisted consumed
    obtain ⟨new, there, same, still⟩ := kept row member agentId bound
    exact ⟨new, there, same.trans hash, still⟩

theorem attributionWorld_guarantee {task : Nat} {call : EnrollmentCall}
    {answer : Except Exc (EnrollmentResult call)} {before after : EnrollmentWorld}
    (given : attributionWorld task call answer before after) :
    (attribution task).guarantee before after := by
  obtain ⟨given, exactly⟩ := given
  refine ⟨enrollmentWorld_guarantee given, ?_⟩
  cases call with
  | writeAudit audit =>
      rw [show after = before from given]
      exact kept_refl before
  | execute statement =>
      have sql : isSql statement = true := by
        cases statement with
        | insertAgent agent => rfl
        | bindTokens agentId nodeName => rfl
        | _ => exact exactly
      rcases given with same | ⟨-, rfl | rfl⟩
      · rw [show after = (before.execute task statement).2 from congrArg Prod.snd same]
        exact execute_kept sql task before
      · exact kept_refl _
      · exact execute_kept sql task before

section Programs
variable {task : Nat} {state : EnrollmentWorld} {α : Type}

abbrev Attributes (task : Nat) (program : EnrollmentTask α)
    (post : Except Exc α → EnrollmentWorld → Prop) (state : EnrollmentWorld) : Prop :=
  program.wp (answered (attributionWorld task) Book (attribution task).rely)
    (obliged Book (attribution task).guarantee) post state

/-- How a part of a call ends: credited if it raises, with `reached` if it returns. -/
abbrev Ends (task : Nat) (reached : α → EnrollmentWorld → Prop) : Except Exc α → EnrollmentWorld → Prop :=
  fun outcome after => Book after ∧ Coro.either reached (fun _ after => Credited task after) outcome after

theorem ends_bind {β : Type} {program : EnrollmentTask α} {next : α → EnrollmentTask β}
    {reached : α → EnrollmentWorld → Prop} {final : β → EnrollmentWorld → Prop}
    (first : Attributes task program (Ends task reached) state)
    (second : ∀ value after, Book after → reached value after →
      Attributes task (next value) (Ends task final) after) :
    Attributes task (program >>= next) (Ends task final) state := by
  apply Coro.wp_bind
  apply Coro.wp_mono _ first
  rintro (raised | value) after ⟨book, holds⟩
  · exact ⟨book, holds⟩
  · exact second value after book holds

theorem ends_answer {β : Type} {answer : Except Exc α} {next : α → EnrollmentTask β}
    {final : β → EnrollmentWorld → Prop} (book : Book state) (credited : Credited task state)
    (follows : ∀ value, answer = .ok value → Attributes task (next value) (Ends task final) state) :
    Attributes task (Coro.ofAnswer answer >>= next) (Ends task final) state := by
  cases answer with
  | error raised => exact ⟨book, credited⟩
  | ok value => exact follows value rfl

theorem execute_ranBy (task : Nat) (statement : Statement) (world : EnrollmentWorld) :
    ranBy task (world.execute task statement).2 = ranBy task world ∨
      ranBy task (world.execute task statement).2 =
        ranBy task world ++ [⟨task, world.tables, statement⟩] := by
  rcases execute_history task statement world with same | grown
  · exact .inl (by rw [ranBy, same, ranBy])
  · exact .inr (by rw [ranBy, grown, List.filter_append]; simp [ranBy])

theorem execute_credited {statement : Statement} {world : EnrollmentWorld}
    (nobody : ∀ ran ∈ ranBy task world, enrolled ran.statement = none)
    (enrolls : enrolled statement = none) : Credited task (world.execute task statement).2 := by
  apply credited_none
  intro ran member
  rcases execute_ranBy task statement world with same | grown
  · rw [same] at member
    exact nobody ran member
  · rw [grown] at member
    rcases List.mem_append.mp member with old | new
    · exact nobody ran old
    · rw [List.mem_singleton.mp new]
      exact enrolls

/-- A statement of a call that has persisted no agent. -/
theorem execute_plain {mine : List Ran} {statement : Statement} (allowed : Allowed mine statement)
    (plain : binds statement = none) (nobody : ∀ ran ∈ mine, enrolled ran.statement = none)
    (enrolls : enrolled statement = none) (own : ranBy task state = mine) (book : Book state) :
    Attributes task (execute statement) (Ends task (Did task mine statement)) state := by
  apply call_safe book
  rintro answer resumed after ⟨same, -⟩ still ⟨given, -⟩
  have now : ranBy task resumed = mine := same.trans own
  have kept : Book (resumed.execute task statement).2 := by
    apply still.execute (now ▸ allowed)
    intro agentId nodeName impossible
    rw [plain] at impossible
    cases impossible
  have credited : Credited task (resumed.execute task statement).2 :=
    execute_credited (now ▸ nobody) enrolls
  rcases given with ran | ⟨⟨raised, rfl⟩, rfl | rfl⟩
  · rw [show after = (resumed.execute task statement).2 from congrArg Prod.snd ran]
    refine ⟨kept, ?_⟩
    cases answer with
    | error raised => exact credited
    | ok result => exact execute_did now (by rw [← ran])
  · exact ⟨still, credited_none (now ▸ nobody)⟩
  · exact ⟨kept, credited⟩

/-- The INSERT of a call that has persisted no agent yet. -/
theorem insertAgent_attributes {mine : List Ran} {agent : StoredAgent}
    (nobody : ∀ ran ∈ mine, enrolled ran.statement = none) (own : ranBy task state = mine)
    (book : Book state) :
    Attributes task (execute (.insertAgent agent)) (Ends task (Did task mine (.insertAgent agent)))
      state := by
  apply call_safe book
  rintro answer resumed after ⟨same, -⟩ still ⟨given, exactly⟩
  have now : ranBy task resumed = mine := same.trans own
  have allowed : Allowed mine (.insertAgent agent) :=
    ⟨rfl, (unadded rfl), fun _ _ impossible => nomatch impossible⟩
  cases answer with
  | error raised =>
      rw [show after = resumed from exactly]
      exact ⟨still, credited_none (now ▸ nobody)⟩
  | ok result =>
      rcases given with ran | ⟨⟨raised, impossible⟩, -⟩
      · rw [show after = (resumed.execute task (.insertAgent agent)).2 from congrArg Prod.snd ran]
        exact ⟨still.execute (now ▸ allowed) fun _ _ impossible => (nomatch impossible),
          execute_did now (by rw [← ran])⟩
      · cases impossible

/-- The update that follows it credits the agent with the token. -/
theorem bindTokens_attributes {source : Ran} {row : TokenRow} {before : Tables} (agent : StoredAgent)
    (taken : source.statement.taken source.before = some row) (nobody : enrolled source.statement = none)
    (node : row.nodeName = agent.nodeName)
    (own : ranBy task state = [source, ⟨task, before, .insertAgent agent⟩]) (book : Book state) :
    Attributes task (execute (.bindTokens agent.agentId agent.nodeName))
      (Ends task fun _ after => Credited task after) state := by
  apply call_safe book
  rintro answer resumed after ⟨same, -⟩ still ⟨-, rfl, found⟩
  have now : ranBy task resumed = [source, ⟨task, before, .insertAgent agent⟩] := same.trans own
  have persisted : PersistedBy resumed task agent.agentId := by
    rw [persistedBy_iff, now]
    exact ⟨_, List.mem_cons_of_mem _ List.mem_cons_self, agent, rfl, rfl⟩
  have sole : ∀ agentId, PersistedBy resumed task agentId → agentId = agent.agentId := by
    intro agentId other
    rw [persistedBy_iff, now] at other
    obtain ⟨ran, member, stored, enrolls, named⟩ := other
    rcases List.mem_cons.mp member with rfl | last
    · rw [nobody] at enrolls
      cases enrolls
    · rw [List.mem_singleton.mp last] at enrolls
      cases enrolls
      exact named.symm
  have allowed : Allowed (ranBy task resumed) (.bindTokens agent.agentId agent.nodeName) := by
    refine ⟨rfl, (unadded rfl), ?_⟩
    rintro _ _ ⟨⟩
    rw [now]
    exact ⟨_, List.mem_cons_of_mem _ List.mem_cons_self, agent, rfl, rfl⟩
  have kept : Book (resumed.execute task (.bindTokens agent.agentId agent.nodeName)).2 := by
    apply still.execute allowed
    rintro _ _ ⟨⟩
    exact found
  have credited : Credited task (resumed.execute task (.bindTokens agent.agentId agent.nodeName)).2 := by
    have ran : Statement.run resumed.tables (.bindTokens agent.agentId agent.nodeName) = .ok _ := rfl
    obtain ⟨update, carries⟩ := run_carries rfl ran
    intro agentId tokenHash later consumed
    have named := sole agentId (PersistedBy.earlier rfl later)
    have consumed : ConsumedBy resumed task tokenHash := ConsumedBy.earlier rfl consumed
    -- the token of the call, as it is in the table by now
    obtain ⟨old, there, hash, oldNode, used⟩ := still.spent source
      (mem_ranBy.mp (now ▸ List.mem_cons_self)).1 row taken
    have mine : ConsumedBy resumed task row.tokenHash := by
      rw [consumedBy_iff, now]
      exact ⟨source, List.mem_cons_self, row, taken, rfl⟩
    have same : row.tokenHash = tokenHash := by
      rw [consumedBy_iff, now] at consumed
      obtain ⟨ran, member, other, takes, hash⟩ := consumed
      rcases List.mem_cons.mp member with rfl | last
      · rw [taken] at takes
        cases takes
        exact hash
      · rw [List.mem_singleton.mp last] at takes
        cases takes
    have succeeds := carries.succeeds old there
    refine ⟨update old, carries.mem.mpr (.inl ⟨old, there, rfl⟩),
      succeeds.tokenHash.trans (hash.trans same), ?_⟩
    rw [named]
    cases bound : old.agentId with
    | none =>
        exact succeeds.bound _ _ rfl (unbound_iff.mpr ⟨oldNode.trans node, used, bound⟩)
    | some earlier =>
        obtain ⟨other, taker, keeper⟩ := still.bound old there earlier bound
        rw [hash] at taker
        rw [← still.consumer_eq mine taker] at keeper
        rw [← sole earlier keeper]
        exact succeeds.keeps bound
  cases answer with
  | error raised => exact ⟨kept, credited⟩
  | ok result => exact ⟨kept, credited⟩

theorem allowed_plain {mine : List Ran} {statement : Statement} (sql : isSql statement = true)
    (adds : added statement = none) (plain : binds statement = none) : Allowed mine statement where
  sql := sql
  unattributed new impossible := by
    rw [adds] at impossible
    cases impossible
  persisted agentId nodeName impossible := by
    rw [plain] at impossible
    cases impossible

/-- The audit insert changes nothing. -/
theorem audit_attributes {audit : EnrollmentAudit} (flag : Bool) (book : Book state)
    (credited : Credited task state) :
    Attributes task (Coro.onlyIf flag (await (EnrollmentCall.writeAudit audit)))
      (Ends task fun _ after => Credited task after) state := by
  apply Coro.wp_onlyIf
  · intro _
    apply call_safe book
    rintro answer resumed after relied still ⟨rfl, -⟩
    have credited := (attribution_lawful task).stable (.ok ()) _ _ credited relied
    refine ⟨still, ?_⟩
    cases answer with
    | error raised => exact credited
    | ok value => exact credited
  · exact fun _ => ⟨book, credited⟩

theorem createEnrollmentToken_attributes {clock : DateTime} {request : TokenRequest}
    (own : ranBy task state = []) (book : Book state) :
    Attributes task ((postgresEnrollmentStore clock).createEnrollmentToken request)
      (Ends task fun _ after => Credited task after) state := by
  apply ends_bind (execute_plain (allowed_plain rfl rfl rfl) rfl (by simp) rfl own book)
  rintro _ middle book ⟨before, tables, -, mine⟩
  have allowed : Allowed [⟨task, before, .disableActive request.nodeName clock⟩]
      (.insertToken { request.row (some clock) with expiresAt := request.expiresAt.asUtc }) := by
    refine ⟨rfl, ?_, fun _ _ impossible => nomatch impossible⟩
    rintro new ⟨⟩
    rfl
  apply ends_bind (execute_plain allowed rfl (by simp [enrolled]) rfl mine book)
  rintro _ after book ⟨last, filled, -, both⟩
  refine ⟨book, credited_none ?_⟩
  rw [both]
  simp [enrolled]

/-- What the consumption of a token leaves of a call: nothing, or the one statement
that took the token of the record. -/
def Drawn (task : Nat) (nodeName : Str) (found : Option EnrollmentTokenRecord) (after : EnrollmentWorld) :
    Prop :=
  match found with
  | none => Credited task after
  | some _ => ∃ source row, ranBy task after = [source] ∧ enrolled source.statement = none ∧
      source.statement.taken source.before = some row ∧ row.nodeName = nodeName

theorem consumeEnrollmentToken_attributes {clock now : DateTime} {tokenHash nodeName : Str}
    (own : ranBy task state = []) (book : Book state) :
    Attributes task ((postgresEnrollmentStore clock).consumeEnrollmentToken tokenHash nodeName now)
      (Ends task (Drawn task nodeName)) state := by
  apply ends_bind (execute_plain (allowed_plain rfl rfl rfl) rfl (by simp) rfl own book)
  rintro ⟨taken, count⟩ after book ⟨before, tables, ran, mine⟩
  have credited : Credited task after := by
    apply credited_none
    rw [mine]
    simp [enrolled]
  cases ran
  dsimp only
  split
  · exact ⟨book, credited⟩
  · rename_i row found
    apply ends_answer book credited
    intro labels _
    obtain ⟨_, _, _, named, spec⟩ := taken_spec found
    cases named
    exact ⟨book, _, row, mine, rfl, found, spec.nodeName⟩

theorem persistAgent_attributes {clock : DateTime} {source : Ran} {row : TokenRow} {agent : StoredAgent}
    (own : ranBy task state = [source]) (nobody : enrolled source.statement = none)
    (taken : source.statement.taken source.before = some row) (node : row.nodeName = agent.nodeName)
    (book : Book state) :
    Attributes task ((postgresEnrollmentStore clock).persistAgent agent)
      (Ends task fun _ after => Credited task after) state := by
  have first : ∀ ran ∈ [source], enrolled ran.statement = none := by
    intro ran member
    rw [List.mem_singleton.mp member]
    exact nobody
  apply ends_bind (insertAgent_attributes first own book)
  rintro _ middle book ⟨before, tables, -, mine⟩
  have bound := bindTokens_attributes { agent with certExpiresAt := agent.certExpiresAt.asUtc }
    taken nobody node mine book
  apply ends_bind bound
  exact fun _ after book credited => ⟨book, credited⟩

theorem createAgent_attributes {service : EnrollmentService} {clock now : DateTime}
    {draws : EnrollmentDraws} {request : AgentRequest}
    (postgres : service.store = postgresEnrollmentStore clock) (own : ranBy task state = [])
    (book : Book state) :
    Attributes task (service.createAgent draws request now)
      (Ends task fun _ after => Credited task after) state := by
  have credited : Credited task state := credited_none (by simp [own])
  apply ends_answer book credited
  intro safeNodeName _
  apply ends_answer book credited
  intro safeLabels _
  apply ends_answer book credited
  intro tokenHash _
  apply ends_answer book credited
  intro safeNodeHostKey _
  rw [postgres]
  apply ends_bind (createEnrollmentToken_attributes own book)
  intro _ after book credited
  apply ends_bind (audit_attributes _ book credited)
  exact fun _ last book credited => ⟨book, credited⟩

theorem enrollBody_attributes {service : EnrollmentService} {clock now : DateTime}
    {draws : EnrollmentDraws} {request : EnrollmentRequest}
    (postgres : service.store = postgresEnrollmentStore clock) (own : ranBy task state = [])
    (book : Book state) :
    Attributes task (service.enrollBody request draws now)
      (Ends task fun _ after => Credited task after) state := by
  have credited : Credited task state := credited_none (by simp [own])
  apply ends_answer book credited
  intro safeNodeName _
  apply ends_answer book credited
  intro tokenHash _
  have looked : Attributes task (change fun world =>
      (.ok (world.limiter.isLimited request.sourceAddress tokenHash now).1, { world with
        limiter := (world.limiter.isLimited request.sourceAddress tokenHash now).2 }))
      (Ends task fun _ after => ranBy task after = []) state := by
    apply change_safe ⟨limiter_guarantee _, kept_refl state⟩
    exact ⟨⟨book.hashes, book.spent, book.once, book.bound⟩, own⟩
  apply ends_bind looked
  intro limited middle book own
  have credited : Credited task middle := credited_none (by simp [own])
  split
  · exact ⟨book, credited⟩
  rw [postgres]
  apply ends_bind (consumeEnrollmentToken_attributes own book)
  intro found after book drawn
  cases found with
  | none => exact ⟨book, drawn⟩
  | some record =>
      obtain ⟨source, row, mine, nobody, taken, node⟩ := drawn
      have credited : Credited task after := credited_none (by simp [mine, nobody])
      apply ends_answer book credited
      rintro ⟨agent, issued⟩ made
      obtain ⟨named, -, -, -⟩ := agentOf_ok made
      rw [postgres]
      apply ends_bind (persistAgent_attributes mine nobody taken (node.trans named.symm) book)
      intro _ stored book credited
      apply ends_bind (audit_attributes _ book credited)
      intro _ last book credited
      apply ends_answer book credited
      exact fun _ _ => ⟨book, credited⟩

theorem enrollFault_attributes {service : EnrollmentService} {request : EnrollmentRequest}
    {now : DateTime} {raised : Exc} (book : Book state) (credited : Credited task state) :
    Attributes task (service.enrollFault request now raised)
      (Ends task fun _ after => Credited task after) state := by
  unfold EnrollmentService.enrollFault
  split
  · have recorded : Attributes task (service.recordEnrollmentFailure request now raised)
        (Ends task fun _ after => Credited task after) state := by
      apply ends_answer book credited
      intro tokenHash _
      apply Coro.wp_bind
      apply update_safe ⟨limiter_guarantee _, kept_refl state⟩
      exact audit_attributes _ ⟨book.hashes, book.spent, book.once, book.bound⟩ credited
    apply ends_bind recorded
    exact fun _ after book credited => ⟨book, credited⟩
  · exact ⟨book, credited⟩

theorem program_attributes {setting : Setting} (postgres : setting.backend = .postgres)
    (own : ranBy task state = []) (book : Book state) :
    Safe (attributionWorld task) Book (attribution task) (setting.program task) state := by
  have store : (setting.serviceOf task).store = postgresEnrollmentStore (setting.clock task) := by
    unfold Setting.serviceOf
    rw [postgres]
    rfl
  have runs : Attributes task (setting.program task) (Ends task fun _ after => Credited task after)
      state := by
    unfold Setting.program
    split
    · apply ends_bind (createAgent_attributes store own book)
      exact fun _ after book credited => ⟨book, credited⟩
    · rename_i request now asked
      have enrolls : Attributes task ((setting.serviceOf task).enroll request (setting.draws task) now)
          (Ends task fun _ after => Credited task after) state := by
        apply Coro.wp_handle
        apply Coro.wp_mono _ (enrollBody_attributes store own book)
        rintro (raised | response) after ⟨book, credited⟩
        · exact enrollFault_attributes book credited
        · exact ⟨book, credited⟩
      apply ends_bind enrolls
      exact fun _ after book credited => ⟨book, credited⟩
    · rename_i nodeName actor now asked
      have credited : Credited task state := credited_none (by simp [own])
      have expires : Attributes task
          (expireToken (setting.serviceOf task).audited nodeName actor now)
          (Ends task fun _ after => Credited task after) state := by
        apply ends_answer book credited
        intro safeNodeName _
        apply ends_bind (execute_plain (allowed_plain rfl rfl rfl) rfl (by simp) rfl own book)
        rintro result middle book ⟨before, tables, -, mine⟩
        have credited : Credited task middle := by
          apply credited_none
          rw [mine]
          simp [enrolled]
        apply ends_bind (audit_attributes _ book credited)
        exact fun _ after book credited => ⟨book, credited⟩
      apply ends_bind expires
      exact fun _ after book credited => ⟨book, credited⟩
  apply Coro.wp_mono _ runs
  rintro (raised | value) after ended
  · exact ended
  · exact ended
end Programs

/-! The runs. -/

/-- The call returned or raised. -/
def Ended (task : Nat) (pool : EnrollmentPool) : Prop :=
  ∃ outcome : Except Exc Unit, pool.tasks task = some (Coro.ofAnswer outcome)

/-- A row has the agent that the call which consumed its token persisted, and none
if that call persisted none. -/
structure Attributed (pool : EnrollmentPool) : Prop where
  known : ∀ row ∈ pool.state.tables.tokens, ∀ agentId, row.agentId = some agentId →
    ∃ task, ConsumedBy pool.state task row.tokenHash ∧ PersistedBy pool.state task agentId
  persisted : ∀ row ∈ pool.state.tables.tokens, ∀ task, ConsumedBy pool.state task row.tokenHash →
    Ended task pool → ∀ agentId, PersistedBy pool.state task agentId → row.agentId = some agentId
  burned : ∀ row ∈ pool.state.tables.tokens, ∀ task, ConsumedBy pool.state task row.tokenHash →
    (∀ agentId, ¬PersistedBy pool.state task agentId) → row.agentId = none

/-- Runs in which each update finds no other used token of its node. -/
abbrev ExactReachable (setting : Setting) (limiter : EnrollmentRateLimiter) : EnrollmentPool → Prop :=
  Reachable attributionWorld (fun task program _ => program = setting.program task) (emptyWorld limiter)

/-- Tokens are attributed exactly, in every such run. -/
theorem attribution_exact (setting : Setting) (postgres : setting.backend = .postgres)
    (limiter : EnrollmentRateLimiter) {pool : EnrollmentPool}
    (reached : ExactReachable setting limiter pool) : Attributed pool := by
  have initial : Book (emptyWorld limiter) := by
    constructor <;> simp [emptyWorld]
  have safe : pool.Safe attributionWorld Book attribution :=
    (reachable_quiet (fun task state => ranBy task state = []) attribution_lawful
      (fun _ _ _ _ different moved => ⟨guarantee_rely different moved.1, moved.2⟩)
      (fun _ _ _ _ different moved own => (guarantee_rely different moved.1).trans own)
      (fun _ _ _ _ _ given => attributionWorld_guarantee given)
      (fun task program state spawned book own => by
        rw [spawned]
        exact program_attributes postgres own book)
      initial (fun _ => rfl) reached).1
  obtain ⟨book, tasks⟩ := safe
  constructor
  · exact book.bound
  · intro row member task consumed finished agentId persisted
    obtain ⟨outcome, ended⟩ := finished
    have credited : Credited task pool.state := by
      obtain ⟨-, finished⟩ := tasks task _ ended
      cases outcome with
      | ok value => exact finished.2
      | error raised => exact finished.2
    obtain ⟨other, there, hash, bound⟩ := credited agentId row.tokenHash persisted consumed
    rw [book.row_eq member there hash.symm]
    exact bound
  · intro row member task consumed nobody
    cases bound : row.agentId with
    | none => rfl
    | some agentId =>
        obtain ⟨other, taker, keeper⟩ := book.bound row member agentId bound
        rw [← book.consumer_eq consumed taker] at keeper
        exact absurd keeper (nobody agentId)

/-! A node whose first token is burned by a request with another host key. -/
def tokenTwo : Str := List.replicate 43 (point 99)

def libraryTwo : EnrollmentLibrary :=
  { libraryOne with
    sha256Hex := fun bytes =>
      if bytes = List.replicate 43 99 then
        lit "0c49d89230696ff3c031ca5a128a4e121e3589bf872c17fa04487ed0cc245d21"
      else libraryOne.sha256Hex bytes }

def settingTwo : Setting where
  backend := .postgres
  config := { configOne with library := libraryTwo }
  calls := fun task => match task with
    | 0 => .createAgent ⟨lit "node01", [lit "edge"], nodeKeyOne, lit "admin"⟩ ⟨0, some 0⟩
    | 1 => .enroll (requestOne (lit "ssh-ed25519 other")) ⟨1000000, some 0⟩
    | 2 => .createAgent ⟨lit "node01", [lit "edge"], nodeKeyOne, lit "admin"⟩ ⟨2000000, some 0⟩
    | _ => .enroll { requestOne nodeKeyOne with token := tokenTwo } ⟨3000000, some 0⟩
  draws := fun task => match task with
    | 2 => { drawsOne with token := tokenTwo }
    | _ => drawsOne
  clock := fun task => ⟨1000000 * task, some 0⟩

/-- The database and the audit log serve everything. -/
def serving (task : Nat) : (call : EnrollmentCall) → EnrollmentWorld →
    Except Exc (EnrollmentResult call) × EnrollmentWorld
  | .execute statement, world => world.execute task statement
  | .writeAudit _, world => (.ok (), world)

/-- One call after another. -/
def called (setting : Setting) (task : Nat) (world : EnrollmentWorld) : EnrollmentWorld :=
  ((setting.program task).run (serve (serving task)) world).2

theorem called_reachable {setting : Setting} {limiter : EnrollmentRateLimiter} {pool : EnrollmentPool}
    (reached : EnrollmentReachable setting limiter pool) (task : Nat) (free : pool.tasks task = none) :
    ∃ next, EnrollmentReachable setting limiter next ∧ next.state = called setting task pool.state ∧
      ∀ other, other ≠ task → next.tasks other = pool.tasks other := by
  have started := reached.spawn task (setting.program task) free rfl
  have ended := started.served (serving task) (fun _ _ => true) task
    (by
      rintro (statement | audit) state -
      · exact .inl rfl
      · exact rfl)
    (staysWithin_all _ _ _)
  exact ⟨_, ended, rfl, fun other different => Function.update_of_ne different _ _⟩

def consumedIn (world : EnrollmentWorld) (task : Nat) (tokenHash : Str) : Bool :=
  world.history.any fun ran => ran.task == task &&
    (ran.statement.taken ran.before).any fun row => row.tokenHash == tokenHash

theorem consumedIn_iff {world : EnrollmentWorld} {task : Nat} {tokenHash : Str} :
    consumedIn world task tokenHash = true ↔ ConsumedBy world task tokenHash := by
  simp [consumedIn, ConsumedBy, Option.any_eq_true]

def burnedHash : Str := lit "66d34fba71f8f450f7e45598853e53bfc23bbd129027cbb131a2f4ffd7878cd0"

/-- The tables once the node is enrolled with its second token. -/
def enrolledTwo : EnrollmentWorld :=
  called settingTwo 3 (called settingTwo 2 (called settingTwo 1 (called settingTwo 0 (emptyWorld .new))))

theorem enrolledTwo_facts : (enrolledTwo.tables.tokens.any (fun row =>
      row.tokenHash == burnedHash && row.agentId == some agentIdOne) &&
    consumedIn enrolledTwo 1 burnedHash &&
    enrolledTwo.history.all (fun ran => ran.task != 1 || (enrolled ran.statement).isNone)) = true := by
  decide +kernel

/-- The token that the first request burned gets the agent of the second. -/
theorem burned_token_attributed : ∃ pool : EnrollmentPool,
    EnrollmentReachable settingTwo .new pool ∧ ¬Attributed pool := by
  have fresh : EnrollmentReachable settingTwo .new ⟨fun _ => none, emptyWorld .new⟩ := .start
  obtain ⟨created, reached, first, free⟩ := called_reachable fresh 0 rfl
  obtain ⟨burned, reached, second, free'⟩ := called_reachable reached 1 (free 1 (by decide))
  have idle : burned.tasks 2 = none := by rw [free' 2 (by decide), free 2 (by decide)]
  obtain ⟨renewed, reached, third, free''⟩ := called_reachable reached 2 idle
  have idle : renewed.tasks 3 = none := by
    rw [free'' 3 (by decide), free' 3 (by decide), free 3 (by decide)]
  obtain ⟨pool, reached, last, -⟩ := called_reachable reached 3 idle
  have state : pool.state = enrolledTwo := by
    rw [last, third, second, first]
    rfl
  refine ⟨pool, reached, fun attributed => ?_⟩
  obtain ⟨⟨named, consumed⟩, nobody⟩ := by simpa only [Bool.and_eq_true] using enrolledTwo_facts
  obtain ⟨row, member, found⟩ := List.any_eq_true.mp named
  simp only [Bool.and_eq_true, beq_iff_eq] at found
  have isNone : row.agentId = none := by
    apply attributed.burned row (state ▸ member) 1
    · rw [state, found.1]
      exact consumedIn_iff.mp consumed
    · rw [state]
      rintro agentId ⟨ran, there, mine, agent, enrolls, -⟩
      have silent := List.all_eq_true.mp nobody ran there
      simp [mine, enrolls] at silent
  rw [found.2] at isNone
  cases isNone

/-- Calls that attribute exactly. -/
def exactCall (task : Nat) : EnrollmentCall → EnrollmentWorld → Bool
  | .execute (.bindTokens _ nodeName), world => world.tables.tokens.all fun row =>
      !row.unbound nodeName || consumedIn world task row.tokenHash
  | .execute statement, _ => isSql statement
  | .writeAudit _, _ => true

theorem serving_exact {task : Nat} {call : EnrollmentCall} {world : EnrollmentWorld}
    (exactly : exactCall task call world = true) :
    attributionWorld task call (serving task call world).1 world (serving task call world).2 := by
  cases call with
  | writeAudit audit => exact ⟨rfl, trivial⟩
  | execute statement =>
      refine ⟨.inl rfl, ?_⟩
      cases statement with
      | insertAgent agent =>
          cases ran : Statement.run world.tables (.insertAgent agent) with
          | error raised => simp [serving, EnrollmentWorld.execute, ran, Exactly]
          | ok done => simp [serving, EnrollmentWorld.execute, ran, Exactly, isSql]
      | bindTokens agentId nodeName =>
          refine ⟨rfl, fun row member unbound => ?_⟩
          have found := List.all_eq_true.mp exactly row member
          rw [unbound] at found
          exact consumedIn_iff.mp found
      | _ => exact exactly

theorem exactly_called {setting : Setting} {limiter : EnrollmentRateLimiter} {pool : EnrollmentPool}
    (reached : ExactReachable setting limiter pool) (task : Nat) (free : pool.tasks task = none)
    (within : staysWithin (serving task) (exactCall task) (setting.program task) pool.state = true) :
    ∃ next, ExactReachable setting limiter next ∧ next.state = called setting task pool.state ∧
      ∀ other, other ≠ task → next.tasks other = pool.tasks other := by
  have started := reached.spawn task (setting.program task) free rfl
  have ended := started.served (serving task) (exactCall task) task
    (fun _ _ permitted => serving_exact permitted) within
  exact ⟨_, ended, rfl, fun other different => Function.update_of_ne different _ _⟩

/-- The token that is drawn second, before any other. -/
def createdTwo : EnrollmentWorld := called settingTwo 2 (emptyWorld .new)

theorem createdTwo_exact : (staysWithin (serving 3) (exactCall 3) (settingTwo.program 3) createdTwo &&
    (called settingTwo 3 createdTwo).tables.agents.length == 1) = true := by
  decide +kernel

/-- The node is enrolled with a token, and none was burned. -/
theorem attribution_exact_enrolled : ∃ pool : EnrollmentPool, pool.state.tables.agents.length = 1 ∧
    Attributed pool := by
  have fresh : ExactReachable settingTwo .new ⟨fun _ => none, emptyWorld .new⟩ := .start
  obtain ⟨created, reached, first, free⟩ := exactly_called fresh 2 rfl (by decide +kernel)
  obtain ⟨within, enrolledOne⟩ := Bool.and_eq_true_iff.mp createdTwo_exact
  have state : created.state = createdTwo := first
  obtain ⟨pool, reached, last, -⟩ := exactly_called reached 3 (free 3 (by decide)) (state ▸ within)
  refine ⟨pool, ?_, attribution_exact settingTwo rfl .new reached⟩
  rw [last, state]
  exact beq_iff_eq.mp enrolledOne

end VibeConnect.TokenAttribution
