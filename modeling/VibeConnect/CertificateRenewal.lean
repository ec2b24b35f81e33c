import VibeConnect.AdminService
import VibeConnect.Python.Calls

/-! Renewal of agent certificates beside the revocation of agents. A renewal reads the row of
its agent, signs, and updates the row if it is not revoked. It does not look at the number of
rows that the update found, so a revocation between the two leaves it with a certificate
that no row carries. -/
namespace VibeConnect.CertificateRenewal
open Python.Text Python.JsonCodec Python.Values Python.Coroutine Python.Tasks Models JumpCoordinator
open TunnelAuthenticator Enrollment AdminService

/-- The record that `get_agent` makes of a row. -/
def recordOf (tables : AdminTables) (agent : StoredAgent) : AgentTunnelRecord :=
  ⟨agent.agentId, agent.nodeName, agent.x509PublicKey, agent.tunnelSecretHash, agent.certSerial,
    agent.certExpiresAt.asUtc, (tables.revokedAt agent.agentId).map DateTime.asUtc⟩

/-- `WHERE id = $1 AND revoked = false`. -/
def updatable (tables : AdminTables) (agentId : Uuid) (agent : StoredAgent) : Bool :=
  decide (agent.agentId = agentId) && (tables.revokedAt agentId).isNone

/-- What `PostgresAgentTunnelStore` does for a renewal, and the commands of administrators. -/
inductive RenewalCall where
  | getAgent (agentId : Uuid)
  | updateAgentCertificate (agentId : Uuid) (publicKeyPem certSerial : Str) (expiresAt : DateTime)
  | admin (call : AdminCall)

/-- An update answers with the number of its rows. -/
abbrev RenewalAns : RenewalCall → Type
  | .getAgent _ => Option AgentTunnelRecord
  | .updateAgentCertificate .. => Nat
  | .admin call => AdminAns call

def renewedRow (publicKeyPem certSerial : Str) (expiresAt : DateTime) (agent : StoredAgent) :
    StoredAgent :=
  { agent with x509PublicKey := publicKeyPem, certSerial := certSerial, certExpiresAt := expiresAt }

/-- One statement, which takes effect as a whole or breaks the uniqueness of `cert_serial`. -/
def RenewalCall.run (tables : AdminTables) :
    (call : RenewalCall) → Except Exc (RenewalAns call × AdminTables)
  | .getAgent agentId =>
      .ok ((tables.agents.find? fun agent => agent.agentId == agentId).map (recordOf tables), tables)
  | .updateAgentCertificate agentId publicKeyPem certSerial expiresAt =>
      if tables.agents.any (updatable tables agentId) &&
          tables.agents.any (fun other => other.agentId != agentId && other.certSerial == certSerial) then
        .error .otherException
      else .ok (tables.agents.countP (updatable tables agentId), { tables with
        agents := tables.agents.map fun agent =>
          if updatable tables agentId agent then renewedRow publicKeyPem certSerial expiresAt agent
          else agent })
  | .admin (.execute statement) => statement.run tables
  | .admin (.insertAudit _) => .ok ((), tables)

/-- A statement that took effect, the call it is of, and the tables around it. -/
structure Ran where
  task : Nat
  call : RenewalCall
  before : AdminTables
  after : AdminTables

structure RenewedAgentCertificate where
  publicKeyPem : Str
  certificatePem : Str
  certSerial : Str
  certExpiresAt : DateTime

/-- The tables, the statements so far, and what the calls of `renew` have returned. -/
structure RenewalWorld where
  tables : AdminTables
  ran : List Ran
  returned : List (Nat × RenewedAgentCertificate)

namespace RenewalWorld
variable (world : RenewalWorld) (task : Nat)

def wrote (call : RenewalCall) (tables : AdminTables) : RenewalWorld :=
  { world with tables := tables, ran := world.ran ++ [⟨task, call, world.tables, tables⟩] }

def report (renewed : RenewedAgentCertificate) : RenewalWorld :=
  { world with returned := world.returned ++ [(task, renewed)] }
end RenewalWorld

abbrev Renewal (α : Type) := Coro RenewalCall RenewalAns Exc α

/-- An administrator's task beside the renewals. -/
def asAdmin {α : Type} : AdminTask α → Renewal α
  | .done value => .done value
  | .raise raised => .raise raised
  | .call op resume => .call (.admin op) fun answer => asAdmin (resume answer)

section Renewer
variable (library : EnrollmentLibrary)

/-- `_load_ed25519_public_key`, with the raw key. -/
def loadEd25519PublicKey (publicKeyPem : Str) : Except Exc Bytes := do
  let pem ← encodeAscii publicKeyPem
  match ← library.loadPemPublicKey pem with
  | .ed25519 raw => .ok raw
  | .other => .error (.tunnelAuthError "agent public key must be Ed25519")

/-- What `renew` refuses. -/
def renewable (record : Option AgentTunnelRecord) (nodeName : Str) : Except Exc Unit :=
  match record with
  | none => .error (.tunnelAuthError "agent cannot renew certificate")
  | some record =>
      if record.revokedAt.isSome ∨ record.nodeName ≠ nodeName then
        .error (.tunnelAuthError "agent cannot renew certificate")
      else .ok ()

/-- `AgentCertificateRenewer.renew`. -/
def renew (agentId : Uuid) (nodeName newPublicKeyPem : Str) (now : DateTime) :
    Renewal RenewedAgentCertificate := do
  let record ← Coro.await (RenewalCall.getAgent agentId)
  Coro.ofAnswer (renewable record nodeName)
  let publicKey ← Coro.ofAnswer (loadEd25519PublicKey library newPublicKeyPem)
  let issued ← Coro.ofAnswer
    (issueAgentClientCertificate library publicKey nodeName agentId now AGENT_CERT_DEFAULT_LIFETIME_DAYS)
  -- the number of rows is not looked at
  let _ ← Coro.await (RenewalCall.updateAgentCertificate agentId newPublicKeyPem issued.serial
    issued.expiresAt.asUtc)
  let certificatePem ← Coro.ofAnswer (decodeAscii issued.certificatePem)
  pure ⟨newPublicKeyPem, certificatePem, issued.serial, issued.expiresAt⟩

inductive RenewalCommand where
  | renew (agentId : Uuid) (nodeName newPublicKeyPem : Str) (now : DateTime)
  | revoke (nodeName : Str) (now : DateTime)

/-- A call beside others; what `renew` returns is kept. -/
def RenewalCommand.call (task : Nat) : RenewalCommand → Task RenewalWorld RenewalAns Exc Unit
  | .renew agentId nodeName newPublicKeyPem now => do
      let renewed ← calling (CertificateRenewal.renew library agentId nodeName newPublicKeyPem now)
      update fun world => world.report task renewed
  | .revoke nodeName now => calling (asAdmin (do
      let _ ← storeRevocation nodeName now
      pure ()))

/-- A statement takes effect and is answered, or its answer is lost, or it has no effect and
the call is told so. -/
def storage (task : Nat) : World RenewalWorld RenewalAns Exc :=
  fun call answer before after =>
    (∃ result tables, call.run before.tables = .ok (result, tables) ∧
      after = before.wrote task call tables ∧ (answer = .ok result ∨ ∃ raised, answer = .error raised)) ∨
    (∃ raised, answer = .error raised) ∧ after = before

abbrev RenewalPool := Pool Nat RenewalWorld RenewalAns Exc

/-- The call of each number, started at any time or never. -/
def programs (commands : Nat → RenewalCommand) (task : Nat)
    (program : Task RenewalWorld RenewalAns Exc Unit) (_ : RenewalWorld) : Prop :=
  program = (commands task).call library task

/-- A run of the calls on a database. -/
abbrev RenewalRun (commands : Nat → RenewalCommand) (tables : AdminTables) (pool : RenewalPool) : Prop :=
  Reachable storage (programs library commands) ⟨tables, [], []⟩ pool
end Renewer

/-! What is to hold of a certificate that was returned, and what can go wrong. -/
def Carries (agentId : Uuid) (renewed : RenewedAgentCertificate) (tables : AdminTables) : Prop :=
  tables.revokedAt agentId = none ∧ (∃ agent ∈ tables.agents, agent.agentId = agentId) ∧
    ∀ agent ∈ tables.agents, agent.agentId = agentId → agent.x509PublicKey = renewed.publicKeyPem ∧
      agent.certSerial = renewed.certSerial ∧ agent.certExpiresAt = renewed.certExpiresAt

/-- The update of a call was applied to an unrevoked row, which then carried the certificate. -/
def Stored (ran : List Ran) (task : Nat) (agentId : Uuid) (renewed : RenewedAgentCertificate) : Prop :=
  ∃ written ∈ ran, written.task = task ∧
    written.call = .updateAgentCertificate agentId renewed.publicKeyPem renewed.certSerial
      renewed.certExpiresAt ∧
    written.before.revokedAt agentId = none ∧ (∃ agent ∈ written.before.agents, agent.agentId = agentId) ∧
    Carries agentId renewed written.after

/-- Every certificate that was returned is stored. -/
def Reported (commands : Nat → RenewalCommand) (pool : RenewalPool) : Prop :=
  ∀ task renewed, (task, renewed) ∈ pool.state.returned → ∃ agentId nodeName newPublicKeyPem now,
    commands task = .renew agentId nodeName newPublicKeyPem now ∧
    Stored pool.state.ran task agentId renewed

def Ran.Revokes (agentId : Uuid) (ran : Ran) : Prop :=
  ran.before.revokedAt agentId = none ∧ ran.after.revokedAt agentId ≠ none

/-- A revocation of the agent takes effect between the reading of a call and its update. -/
def RevokedBetween (ran : List Ran) (task : Nat) (agentId : Uuid) : Prop :=
  ∃ past read middle written rest, ran = past ++ read :: (middle ++ written :: rest) ∧
    (read.task = task ∧ read.call = .getAgent agentId) ∧
    (written.task = task ∧ ∃ publicKeyPem certSerial expiresAt,
      written.call = .updateAgentCertificate agentId publicKeyPem certSerial expiresAt) ∧
    ∃ revoked ∈ middle, revoked.Revokes agentId

/-- No call that has returned was overtaken by a revocation. -/
def Undisturbed (commands : Nat → RenewalCommand) (pool : RenewalPool) : Prop :=
  ∀ task agentId nodeName newPublicKeyPem now,
    commands task = .renew agentId nodeName newPublicKeyPem now →
    task ∈ pool.state.returned.map Prod.fst → ¬RevokedBetween pool.state.ran task agentId

/-! What a statement does to the agents and to their revocation. -/
section Statements
variable {tables after first last : AdminTables} {agentId : Uuid} {ran : Ran}

def Present (agentId : Uuid) (tables : AdminTables) : Prop :=
  ∃ agent ∈ tables.agents, agent.agentId = agentId

/-- Agents stay with their ids, and revoked ones stay revoked. -/
structure Keeps (before after : AdminTables) : Prop where
  agents : ∃ change, (∀ agent : StoredAgent, (change agent).agentId = agent.agentId) ∧
    after.agents = before.agents.map change
  revoked : ∀ agentId, before.revokedAt agentId ≠ none → after.revokedAt agentId ≠ none

theorem keeps_agents (agents : after.agents = tables.agents) (revoked : after.revokedAt = tables.revokedAt) :
    Keeps tables after where
  agents := ⟨id, fun _ => rfl, by rw [agents, List.map_id]⟩
  revoked agentId still := by rwa [revoked]

theorem keeps_change {change : StoredAgent → StoredAgent} (agents : after.agents = tables.agents.map change)
    (same : ∀ agent, (change agent).agentId = agent.agentId) (revoked : after.revokedAt = tables.revokedAt) :
    Keeps tables after where
  agents := ⟨change, same, agents⟩
  revoked agentId still := by rwa [revoked]

theorem tokens_keep {statement : Statement} {result : StatementResult} {before later : Tables}
    (ran : Statement.run before statement = .ok (result, later))
    (tokens : (∃ nodeName now, statement = .disableActive nodeName now) ∨
      ∃ row, statement = .insertToken row) : later.agents = before.agents := by
  rcases tokens with ⟨nodeName, now, rfl⟩ | ⟨row, rfl⟩
  · cases ran
    rfl
  · unfold Statement.run at ran
    dsimp only at ran
    split at ran
    · cases ran
    split at ran
    · cases ran
    cases ran
    rfl

theorem statement_keeps {statement : AdminStatement} {result : AdminResult statement}
    (ran : statement.run tables = .ok (result, after)) : Keeps tables after := by
  have changed : ∀ (nodeName : Str) (change : StoredAgent → StoredAgent),
      (∀ agent, (change agent).agentId = agent.agentId) →
      Keeps tables (tables.setAgents nodeName change) := by
    intro nodeName change same
    refine keeps_change rfl (fun agent => ?_) rfl
    split
    · exact same agent
    · rfl
  cases statement with
  | disableActive nodeName now => cases ran; exact keeps_agents rfl rfl
  | insertToken row =>
      obtain ⟨_, changed, inserted, rfl⟩ := insertToken_ran ran
      exact keeps_agents (tokens_keep inserted (.inr ⟨row, rfl⟩)) rfl
  | revokeAgent nodeName now =>
      cases ran
      refine ⟨⟨id, fun _ => rfl, (List.map_id _).symm⟩, fun agentId still => ?_⟩
      unfold AdminTables.revoke
      dsimp only
      split
      · exact Option.some_ne_none now
      · exact still
  | rotateTunnelSecret nodeName tunnelSecretHash => cases ran; exact changed _ _ fun _ => rfl
  | updateNodeHostKey nodeName nodeSshHostPublicKey => cases ran; exact changed _ _ fun _ => rfl
  | insertRotation row =>
      change (if _ then Except.error _ else Except.ok _) = _ at ran
      split at ran
      · cases ran
      · cases ran
        exact keeps_agents rfl rfl
  | completeRotation rotationId now => cases ran; exact keeps_agents rfl rfl
  | selectRotation rotationId => cases ran; exact keeps_agents rfl rfl

theorem call_keeps {call : RenewalCall} {result : RenewalAns call}
    (ran : call.run tables = .ok (result, after)) : Keeps tables after := by
  cases call with
  | getAgent agentId => cases ran; exact keeps_agents rfl rfl
  | updateAgentCertificate agentId publicKeyPem certSerial expiresAt =>
      change (if _ then Except.error _ else Except.ok _) = _ at ran
      split at ran
      · cases ran
      · cases ran
        refine keeps_change rfl (fun agent => ?_) rfl
        split <;> rfl
  | admin call =>
      cases call with
      | execute statement => exact statement_keeps ran
      | insertAudit row => cases ran; exact keeps_agents rfl rfl

theorem Keeps.present (keeps : Keeps tables after) (present : Present agentId tables) :
    Present agentId after := by
  obtain ⟨⟨change, same, agents⟩, -⟩ := keeps
  obtain ⟨agent, member, rfl⟩ := present
  refine ⟨change agent, ?_, same agent⟩
  rw [agents]
  exact List.mem_map_of_mem member

def Ran.Effect (ran : Ran) : Prop := ∃ result, ran.call.run ran.before = .ok (result, ran.after)

theorem Ran.Effect.of_call {call : RenewalCall} (effect : ran.Effect) (same : ran.call = call) :
    ∃ result, call.run ran.before = .ok (result, ran.after) := by
  subst same
  exact effect

theorem Ran.Effect.reads (effect : ran.Effect) (same : ran.call = .getAgent agentId) :
    ran.after = ran.before := by
  obtain ⟨result, done⟩ := effect.of_call same
  exact (congrArg Prod.snd (Except.ok.inj done)).symm

theorem Ran.Effect.keeps (effect : ran.Effect) : Keeps ran.before ran.after := by
  obtain ⟨result, done⟩ := effect
  exact call_keeps done

/-- Each statement began with the tables that the one before it left. -/
def Linked : AdminTables → List Ran → AdminTables → Prop
  | first, [], last => last = first
  | first, ran :: rest, last => ran.before = first ∧ ran.Effect ∧ Linked ran.after rest last

theorem linked_append {before rest : List Ran} :
    Linked first (before ++ rest) last ↔
      ∃ middle, Linked first before middle ∧ Linked middle rest last := by
  induction before generalizing first with
  | nil =>
      constructor
      · intro linked
        exact ⟨first, rfl, linked⟩
      · rintro ⟨middle, rfl, linked⟩
        exact linked
  | cons ran before ih =>
      simp only [List.cons_append, Linked, ih]
      constructor
      · rintro ⟨same, effect, middle, one, two⟩
        exact ⟨middle, ⟨same, effect, one⟩, two⟩
      · rintro ⟨middle, ⟨same, effect, one⟩, two⟩
        exact ⟨same, effect, middle, one, two⟩

theorem linked_revoked {middle : List Ran} (linked : Linked first middle last)
    (revoked : first.revokedAt agentId ≠ none) : last.revokedAt agentId ≠ none := by
  induction middle generalizing first with
  | nil =>
      cases linked
      exact revoked
  | cons ran rest ih =>
      obtain ⟨rfl, effect, tail⟩ := linked
      exact ih tail (effect.keeps.revoked agentId revoked)

theorem linked_present {middle : List Ran} (linked : Linked first middle last)
    (present : Present agentId first) : Present agentId last := by
  induction middle generalizing first with
  | nil =>
      cases linked
      exact present
  | cons ran rest ih =>
      obtain ⟨rfl, effect, tail⟩ := linked
      exact ih tail (effect.keeps.present present)

/-- An agent is revoked by a statement, or it is not. -/
theorem linked_unrevoked {middle : List Ran} (linked : Linked first middle last)
    (unrevoked : first.revokedAt agentId = none) :
    last.revokedAt agentId = none ↔ ∀ ran ∈ middle, ¬ran.Revokes agentId := by
  induction middle generalizing first with
  | nil =>
      cases linked
      exact iff_of_true unrevoked fun _ none => nomatch none
  | cons ran rest ih =>
      obtain ⟨rfl, effect, tail⟩ := linked
      rw [List.forall_mem_cons]
      by_cases after : ran.after.revokedAt agentId = none
      · rw [ih tail after]
        exact (and_iff_right fun revokes => revokes.2 after).symm
      · refine iff_of_false (linked_revoked tail after) ?_
        exact fun never => never.1 ⟨unrevoked, after⟩
theorem linked_revokes {middle : List Ran} (linked : Linked first middle last)
    (revoked : ∃ ran ∈ middle, ran.Revokes agentId) : last.revokedAt agentId ≠ none := by
  obtain ⟨ran, member, revokes⟩ := revoked
  obtain ⟨before, rest, rfl⟩ := List.append_of_mem member
  obtain ⟨middle, -, -, -, tail⟩ := linked_append.mp linked
  exact linked_revoked tail revokes.2

/-- Two statements of a run and what stands between them. -/
theorem linked_around {read written : Ran} {past middle rest : List Ran}
    (linked : Linked first (past ++ read :: (middle ++ written :: rest)) last) :
    read.Effect ∧ Linked read.after middle written.before ∧ written.Effect := by
  obtain ⟨_, -, -, effect, tail⟩ := linked_append.mp linked
  obtain ⟨_, between, rfl, last, -⟩ := linked_append.mp tail
  exact ⟨effect, between, last⟩
end Statements

/-! One call among the others. -/
section Calls
variable (commands : Nat → RenewalCommand) (tables : AdminTables) (task : Nat)

def Ran.Updates (ran : Ran) : Prop := ∃ agentId publicKeyPem certSerial expiresAt,
  ran.call = .updateAgentCertificate agentId publicKeyPem certSerial expiresAt

/-- No two updates are of one call. -/
def Ran.Distinct (one two : Ran) : Prop := one.Updates → two.Updates → one.task ≠ two.task

instance : Std.Symm Ran.Distinct where
  symm _ _ distinct second first := (distinct first second).symm

/-- A call read the row of its agent, and the row was there and not revoked. -/
def Ran.Reads (agentId : Uuid) (ran : Ran) : Prop :=
  ran.task = task ∧ ran.call = .getAgent agentId ∧ Present agentId ran.before ∧
    ran.before.revokedAt agentId = none

/-- How a certificate came to be returned. -/
def Traced (ran : List Ran) (renewed : RenewedAgentCertificate) : Prop :=
  ∃ agentId nodeName newPublicKeyPem now past read middle written rest,
    commands task = .renew agentId nodeName newPublicKeyPem now ∧
    ran = past ++ read :: (middle ++ written :: rest) ∧ read.Reads task agentId ∧
    written.task = task ∧
    written.call = .updateAgentCertificate agentId renewed.publicKeyPem renewed.certSerial
      renewed.certExpiresAt

structure Sound (world : RenewalWorld) : Prop where
  linked : Linked tables world.ran world.tables
  distinct : world.ran.Pairwise Ran.Distinct
  returned : ∀ entry ∈ world.returned, Traced commands entry.1 world.ran entry.2

/-- The statements of a run are those of before, and more. -/
def contract : Contract RenewalWorld Exc Unit where
  rely before after := ∃ more, after.ran = before.ran ++ more ∧ ∀ ran ∈ more, ran.task ≠ task
  guarantee before after := ∃ more, after.ran = before.ran ++ more ∧ ∀ ran ∈ more, ran.task = task
  post _ _ := True

abbrev Ensures {α : Type} (program : Renewal α) (post : Except Exc α → RenewalWorld → Prop)
    (world : RenewalWorld) : Prop :=
  program.wp (asked (storage task) (Sound commands tables) (contract task).rely)
    (fun _ => Sound commands tables) post world

def NoUpdate (world : RenewalWorld) : Prop := ∀ ran ∈ world.ran, ran.task = task → ¬ran.Updates

/-- A call stands between its reading and its update. -/
def HasRead (agentId : Uuid) (world : RenewalWorld) : Prop :=
  ∃ past read rest, world.ran = past ++ read :: rest ∧ read.Reads task agentId
end Calls

section Calls
variable {library : EnrollmentLibrary} {commands : Nat → RenewalCommand} {tables : AdminTables}
  {task : Nat} {world resumed : RenewalWorld} {agentId : Uuid}

theorem contract_lawful (task : Nat) : (contract task).Lawful where
  rely_refl _ := ⟨[], (List.append_nil _).symm, fun _ none => nomatch none⟩
  rely_trans := by
    rintro one two three ⟨more, grown, others⟩ ⟨rest, last, also⟩
    refine ⟨more ++ rest, by rw [last, grown, List.append_assoc], fun ran member => ?_⟩
    exact (List.mem_append.mp member).elim (others ran) (also ran)
  guarantee_refl _ := ⟨[], (List.append_nil _).symm, fun _ none => nomatch none⟩
  guarantee_trans := by
    rintro one two three ⟨more, grown, mine⟩ ⟨rest, last, also⟩
    refine ⟨more ++ rest, by rw [last, grown, List.append_assoc], fun ran member => ?_⟩
    exact (List.mem_append.mp member).elim (mine ran) (also ran)
  stable _ _ _ _ _ := trivial

theorem storage_owed {call : RenewalCall} {answer : Except Exc (RenewalAns call)}
    {before after : RenewalWorld} (given : storage task call answer before after) :
    (contract task).guarantee before after := by
  rcases given with ⟨result, tables, -, rfl, -⟩ | ⟨-, rfl⟩
  · refine ⟨_, rfl, fun ran member => ?_⟩
    rw [List.mem_singleton.mp member]
  · exact (contract_lawful task).guarantee_refl _

theorem Traced.grows {ran more : List Ran} {renewed : RenewedAgentCertificate}
    (traced : Traced commands task ran renewed) : Traced commands task (ran ++ more) renewed := by
  obtain ⟨agentId, nodeName, newPublicKeyPem, now, past, read, middle, written, rest, named, rfl,
    reads, mine, call⟩ := traced
  refine ⟨agentId, nodeName, newPublicKeyPem, now, past, read, middle, written, rest ++ more, named, ?_,
    reads, mine, call⟩
  simp

theorem noUpdate_relied (none : NoUpdate task world) (relied : (contract task).rely world resumed) :
    NoUpdate task resumed := by
  obtain ⟨more, grown, others⟩ := relied
  intro ran member mine
  rw [grown] at member
  rcases List.mem_append.mp member with old | new
  · exact none ran old mine
  · exact absurd mine (others ran new)

theorem hasRead_relied (read : HasRead task agentId world)
    (relied : (contract task).rely world resumed) : HasRead task agentId resumed := by
  obtain ⟨more, grown, -⟩ := relied
  obtain ⟨past, entry, rest, before, reads⟩ := read
  refine ⟨past, entry, rest ++ more, ?_, reads⟩
  rw [grown, before, List.append_assoc, List.cons_append]

theorem Sound.wrote {call : RenewalCall} {result : RenewalAns call} {after : AdminTables}
    (sound : Sound commands tables world) (ran : call.run world.tables = .ok (result, after))
    (first : NoUpdate task world ∨ ¬Ran.Updates ⟨task, call, world.tables, after⟩) :
    Sound commands tables (world.wrote task call after) where
  linked := linked_append.mpr ⟨world.tables, sound.linked, rfl, ⟨result, ran⟩, rfl⟩
  distinct := by
    refine List.pairwise_append.mpr ⟨sound.distinct, List.pairwise_singleton .., ?_⟩
    intro one member two last oneUpdates twoUpdates same
    cases List.mem_singleton.mp last
    exact first.elim (fun none => none one member same oneUpdates) fun quiet => quiet twoUpdates
  returned entry member := (sound.returned entry member).grows

/-- The rule of one statement; a call that is not answered is left with an exception. -/
theorem statement_safe {call : RenewalCall} {post : Except Exc (RenewalAns call) → RenewalWorld → Prop}
    (sound : Sound commands tables world)
    (first : ∀ resumed, (contract task).rely world resumed → NoUpdate task resumed ∨
      ∀ before after, ¬Ran.Updates ⟨task, call, before, after⟩)
    (answered : ∀ resumed result after, (contract task).rely world resumed →
      call.run resumed.tables = .ok (result, after) →
      Sound commands tables (resumed.wrote task call after) → post (.ok result) (resumed.wrote task call after))
    (failed : ∀ raised after, Sound commands tables after → post (.error raised) after) :
    Ensures commands tables task (Coro.await call) post world := by
  apply asked_safe sound
  rintro answer resumed after relied holds (⟨result, later, ran, rfl, told⟩ | ⟨⟨raised, rfl⟩, rfl⟩)
  · have written : Sound commands tables (resumed.wrote task call later) :=
      holds.wrote ran ((first resumed relied).imp id fun never => never _ _)
    rcases told with rfl | ⟨raised, rfl⟩
    · exact answered resumed result later relied ran written
    · exact failed raised _ written
  · exact failed raised _ holds
theorem issued_utc {publicKey : Bytes} {nodeName : Str} {now : DateTime} {lifetimeDays : Int}
    {issued : IssuedAgentCertificate}
    (made : issueAgentClientCertificate library publicKey nodeName agentId now lifetimeDays = .ok issued) :
    issued.expiresAt.asUtc = issued.expiresAt := by
  unfold issueAgentClientCertificate at made
  split at made
  · cases made
  obtain ⟨safeNodeName, -, made⟩ := bind_ok.mp made
  obtain ⟨⟨pem, serialNumber⟩, -, made⟩ := bind_ok.mp made
  cases made
  simp [DateTime.asUtc, DateTime.addSeconds, DateTime.instant]

theorem renewable_read {nodeName : Str} {value : Unit}
    (found : renewable ((world.tables.agents.find? fun agent => agent.agentId == agentId).map
      (recordOf world.tables)) nodeName = .ok value) :
    Present agentId world.tables ∧ world.tables.revokedAt agentId = none := by
  unfold renewable at found
  cases read : world.tables.agents.find? fun agent => agent.agentId == agentId with
  | none =>
      rw [read] at found
      cases found
  | some agent =>
      rw [read] at found
      dsimp only [Option.map_some] at found
      split at found
      · cases found
      rename_i passed
      have same : agent.agentId = agentId := by simpa using List.find?_some read
      refine ⟨⟨agent, List.mem_of_find?_eq_some read, same⟩, ?_⟩
      have unrevoked := not_or.mp passed
      unfold recordOf at unrevoked
      rw [same] at unrevoked
      simpa using unrevoked.1

/-- The update of a renewal and what is left of it. -/
theorem updates_safe {nodeName newPublicKeyPem : Str} {now : DateTime} {issued : IssuedAgentCertificate}
    (named : commands task = .renew agentId nodeName newPublicKeyPem now)
    (sound : Sound commands tables world) (none : NoUpdate task world)
    (hasRead : HasRead task agentId world) (utc : issued.expiresAt.asUtc = issued.expiresAt) :
    Ensures commands tables task (do
        let _ ← Coro.await (RenewalCall.updateAgentCertificate agentId newPublicKeyPem issued.serial
          issued.expiresAt.asUtc)
        let certificatePem ← Coro.ofAnswer (decodeAscii issued.certificatePem)
        pure (⟨newPublicKeyPem, certificatePem, issued.serial, issued.expiresAt⟩ :
          RenewedAgentCertificate))
      (Coro.either (fun renewed after => Sound commands tables after ∧ Traced commands task after.ran renewed)
        (fun _ after => Sound commands tables after)) world := by
  rw [utc]
  apply Coro.wp_bind
  apply statement_safe sound
  · exact fun resumed relied => .inl (noUpdate_relied none relied)
  · intro resumed result after relied _ written
    apply Coro.wp_bind
    apply Coro.wp_ofAnswer
    cases decoded : decodeAscii issued.certificatePem with
    | error raised => exact written
    | ok certificatePem =>
        obtain ⟨past, read, middle, before, reads⟩ := hasRead_relied hasRead relied
        refine ⟨written, agentId, nodeName, newPublicKeyPem, now, past, read, middle,
          ⟨task, .updateAgentCertificate agentId newPublicKeyPem issued.serial issued.expiresAt,
            resumed.tables, after⟩, [], named, ?_, reads, rfl, rfl⟩
        change resumed.ran ++ _ = _
        rw [before, List.append_assoc, List.cons_append]
  · exact fun raised after holds => holds

/-- A call of `renew` returns what its update was to store. -/
theorem renew_safe {nodeName newPublicKeyPem : Str} {now : DateTime}
    (named : commands task = .renew agentId nodeName newPublicKeyPem now)
    (sound : Sound commands tables world) (none : NoUpdate task world) :
    Ensures commands tables task (renew library agentId nodeName newPublicKeyPem now)
      (Coro.either (fun renewed after => Sound commands tables after ∧ Traced commands task after.ran renewed)
        (fun _ after => Sound commands tables after)) world := by
  apply Coro.wp_bind
  apply statement_safe sound
  · exact fun resumed relied => .inl (noUpdate_relied none relied)
  · intro resumed result after relied ran read
    cases ran
    apply Coro.wp_bind
    apply Coro.wp_ofAnswer
    cases passed : renewable _ nodeName with
    | error raised => exact read
    | ok value =>
        obtain ⟨present, unrevoked⟩ := renewable_read passed
        have hasRead : HasRead task agentId (resumed.wrote task (.getAgent agentId) resumed.tables) :=
          ⟨_, _, [], rfl, rfl, rfl, present, unrevoked⟩
        have still : NoUpdate task (resumed.wrote task (.getAgent agentId) resumed.tables) := by
          intro ran member mine
          rcases List.mem_append.mp member with old | new
          · exact noUpdate_relied none relied ran old mine
          · cases List.mem_singleton.mp new
            rintro ⟨_, _, _, _, impossible⟩
            cases impossible
        apply Coro.wp_bind
        apply Coro.wp_ofAnswer
        cases loaded : loadEd25519PublicKey library newPublicKeyPem with
        | error raised => exact read
        | ok publicKey =>
            apply Coro.wp_bind
            apply Coro.wp_ofAnswer
            cases made : issueAgentClientCertificate library publicKey nodeName agentId now
                AGENT_CERT_DEFAULT_LIFETIME_DAYS with
            | error raised => exact read
            | ok issued => exact updates_safe named read still hasRead (issued_utc made)
  · exact fun raised after holds => holds
/-- An administrator's task, whatever it does, updates no certificate. -/
theorem asAdmin_safe {α : Type} (program : AdminTask α) (sound : Sound commands tables world) :
    Ensures commands tables task (asAdmin program) (fun _ after => Sound commands tables after) world := by
  induction program generalizing world with
  | done value => exact sound
  | raise raised => exact sound
  | call op resume ih =>
      refine ⟨sound, ?_⟩
      rintro answer after ⟨resumed, relied, holds, given⟩
      rcases given with ⟨result, later, ran, rfl, -⟩ | ⟨-, rfl⟩
      · have written : Sound commands tables (resumed.wrote task (.admin op) later) := by
          refine holds.wrote ran (.inr ?_)
          rintro ⟨_, _, _, _, impossible⟩
          cases impossible
        exact ih answer written
      · exact ih answer holds
end Calls

/-! Every run. -/
section Runs
variable {library : EnrollmentLibrary} {commands : Nat → RenewalCommand} {tables : AdminTables}
  {pool : RenewalPool}

theorem call_safe {task : Nat} {program : Task RenewalWorld RenewalAns Exc Unit} {world : RenewalWorld}
    (started : programs library commands task program world) (sound : Sound commands tables world)
    (quiet : NoUpdate task world) :
    Python.Tasks.Safe (storage task) (Sound commands tables) (contract task) program world := by
  cases started
  cases named : commands task with
  | renew agentId nodeName newPublicKeyPem now =>
      apply Coro.wp_bind
      refine Coro.wp_mono ?_ (calling_safe (renew_safe named sound quiet))
      intro outcome after ended
      cases outcome with
      | error raised => exact ⟨ended, trivial⟩
      | ok renewed =>
          obtain ⟨holds, traced⟩ := ended
          refine update_safe ((contract_lawful task).guarantee_refl after) ⟨?_, trivial⟩
          refine ⟨holds.linked, holds.distinct, fun entry member => ?_⟩
          rcases List.mem_append.mp member with old | new
          · exact holds.returned entry old
          · cases List.mem_singleton.mp new
            exact traced
  | revoke nodeName now =>
      apply calling_safe
      refine Coro.wp_mono ?_ (asAdmin_safe _ sound)
      exact fun outcome after holds => ⟨holds, trivial⟩

theorem reachable_sound (reached : RenewalRun library commands tables pool) :
    Sound commands tables pool.state := by
  have initial : Sound commands tables ⟨tables, [], []⟩ :=
    ⟨rfl, List.Pairwise.nil, fun _ none => nomatch none⟩
  have safe : pool.Safe storage (Sound commands tables) contract := by
    refine (reachable_quiet NoUpdate contract_lawful ?_ ?_ ?_ ?_ initial ?_ reached).1
    · rintro key other before after apart ⟨more, grown, mine⟩
      exact ⟨more, grown, fun ran member same => apart ((mine ran member).symm.trans same)⟩
    · rintro key other before after apart ⟨more, grown, mine⟩ none
      exact noUpdate_relied none ⟨more, grown, fun ran member same =>
        apart ((mine ran member).symm.trans same)⟩
    · exact fun _ _ _ _ _ given => storage_owed given
    · exact fun _ _ _ started sound quiet => call_safe started sound quiet
    · exact fun _ _ none => nomatch none
  exact safe.1

theorem update_carries {agentId : Uuid} {renewed : RenewedAgentCertificate} {before after : AdminTables}
    {count : Nat} (present : Present agentId before) (unrevoked : before.revokedAt agentId = none)
    (ran : (RenewalCall.updateAgentCertificate agentId renewed.publicKeyPem renewed.certSerial
      renewed.certExpiresAt).run before = .ok (count, after)) : Carries agentId renewed after := by
  have keeps := call_keeps ran
  change (if _ then Except.error _ else Except.ok _) = _ at ran
  split at ran
  · cases ran
  cases ran
  refine ⟨unrevoked, keeps.present present, fun agent member same => ?_⟩
  obtain ⟨old, there, rfl⟩ := List.mem_map.mp member
  by_cases found : updatable before agentId old = true
  · rw [if_pos found]
    exact ⟨rfl, rfl, rfl⟩
  · rw [if_neg found] at same
    refine absurd ?_ found
    simp [updatable, same, unrevoked]

/-- One certificate that was returned is stored, or the agent was revoked between. -/
theorem returned_stored (reached : RenewalRun library commands tables pool) {task : Nat}
    {renewed : RenewedAgentCertificate} (returned : (task, renewed) ∈ pool.state.returned) :
    ∃ agentId nodeName newPublicKeyPem now,
      commands task = .renew agentId nodeName newPublicKeyPem now ∧
      (Stored pool.state.ran task agentId renewed ↔ ¬RevokedBetween pool.state.ran task agentId) := by
  have sound := reachable_sound reached
  obtain ⟨agentId, nodeName, newPublicKeyPem, now, past, read, middle, written, rest, named, before,
    ⟨mine, reads, present, unrevoked⟩, also, call⟩ := sound.returned _ returned
  refine ⟨agentId, nodeName, newPublicKeyPem, now, named, ?_, ?_⟩
  · rintro ⟨stored, member, stores, updates, notRevoked, -, -⟩
    rintro ⟨_, _, _, other, _, split, -, ⟨others, updated⟩, revoked⟩
    have linked := sound.linked
    rw [split] at linked
    have same : other = stored := by
      by_contra apart
      have there : other ∈ pool.state.ran := by simp [split]
      exact sound.distinct.forall there member apart ⟨_, updated⟩ ⟨_, _, _, _, updates⟩
        (others.trans stores.symm)
    subst same
    exact linked_revokes (linked_around linked).2.1 revoked notRevoked
  · intro undisturbed
    have linked := sound.linked
    rw [before] at linked
    obtain ⟨readEffect, between, effect⟩ := linked_around linked
    rw [readEffect.reads reads] at between
    have quiet : ∀ ran ∈ middle, ¬ran.Revokes agentId := fun ran member revokes =>
      undisturbed ⟨past, read, middle, written, rest, before, ⟨mine, reads⟩, ⟨also, _, _, _, call⟩,
        ran, member, revokes⟩
    have notRevoked := (linked_unrevoked between unrevoked).mpr quiet
    have there := linked_present between present
    obtain ⟨count, done⟩ := effect.of_call call
    exact ⟨written, by simp [before], also, call, notRevoked, there, update_carries there notRevoked done⟩

/-- What calls of `renew` return is stored, as long as no revocation comes between the reading
of such a call and its update; what it returns after one is not. -/
theorem renewal_reported (library : EnrollmentLibrary) (commands : Nat → RenewalCommand)
    (tables : AdminTables) (pool : RenewalPool) (reached : RenewalRun library commands tables pool) :
    Reported commands pool ↔ Undisturbed commands pool := by
  constructor
  · intro reported task agentId nodeName newPublicKeyPem now named finished
    obtain ⟨⟨_, renewed⟩, returned, rfl⟩ := List.mem_map.mp finished
    obtain ⟨_, _, _, _, same, stored⟩ := reported _ _ returned
    obtain ⟨_, _, _, _, again, exactly⟩ := returned_stored reached returned
    cases named.symm.trans same
    cases named.symm.trans again
    exact exactly.mp stored
  · intro undisturbed task renewed returned
    obtain ⟨agentId, nodeName, newPublicKeyPem, now, named, exactly⟩ := returned_stored reached returned
    refine ⟨agentId, nodeName, newPublicKeyPem, now, named, exactly.mpr ?_⟩
    exact undisturbed task _ _ _ _ named (List.mem_map_of_mem returned)
end Runs

/-! One agent, a renewal, and a revocation that comes between. -/
def agentOne : StoredAgent :=
  ⟨agentIdOne, lit "node01", [], [], [], [], lit "1e", ⟨1795052441000000, some 0⟩⟩

def nowOne : DateTime := ⟨1795052441000000, some 0⟩

def tablesOne : AdminTables := ⟨⟨[], [agentOne]⟩, fun _ => none, []⟩
def tablesRevoked : AdminTables := tablesOne.revoke (lit "node01") nowOne

def tablesRenewed : AdminTables :=
  { tablesOne with
    agents := [renewedRow agentKeyPemOne (lit "1f") ⟨1802828441000000, some 0⟩ agentOne] }

def commandsOne : Nat → RenewalCommand
  | 0 => .renew agentIdOne (lit "node01") agentKeyPemOne nowOne
  | _ => .revoke (lit "node01") nowOne

def issuedOne : IssuedAgentCertificate :=
  ⟨(encode certificatePemOne).getD [], lit "1f", ⟨1802828441000000, some 0⟩⟩

def renewedOne (text : Str) : RenewedAgentCertificate :=
  ⟨agentKeyPemOne, text, issuedOne.serial, issuedOne.expiresAt⟩

theorem loads_one : loadEd25519PublicKey libraryOne agentKeyPemOne = .ok agentKeyOne := by
  decide +kernel

theorem issues_one : issueAgentClientCertificate libraryOne agentKeyOne (lit "node01") agentIdOne nowOne
    AGENT_CERT_DEFAULT_LIFETIME_DAYS = .ok issuedOne := by
  have named : validateNodeName (lit "node01") = .ok (lit "node01") := by decide +kernel
  unfold issueAgentClientCertificate
  rw [if_neg (by decide), named]
  rfl

/-- The stations of a renewal that nothing stops. -/
theorem renewal_settles {library : EnrollmentLibrary} {agentId : Uuid} {nodeName pem text : Str}
    {now : DateTime} {publicKey : Bytes} {issued : IssuedAgentCertificate} (task : Nat)
    (loads : loadEd25519PublicKey library pem = .ok publicKey)
    (issues : issueAgentClientCertificate library publicKey nodeName agentId now
      AGENT_CERT_DEFAULT_LIFETIME_DAYS = .ok issued)
    (decoded : decodeAscii issued.certificatePem = .ok text) :
    ∃ (reading : Except Exc (Option AgentTunnelRecord) → Task RenewalWorld RenewalAns Exc Unit)
      (updating : Except Exc Nat → Task RenewalWorld RenewalAns Exc Unit),
      (∀ world, settle ((RenewalCommand.renew agentId nodeName pem now).call library task) world =
        (.call (.await (.getAgent agentId)) reading, world)) ∧
      (∀ record world, renewable record nodeName = .ok () → settle (reading (.ok record)) world =
        (.call (.await (.updateAgentCertificate agentId pem issued.serial issued.expiresAt.asUtc))
          updating, world)) ∧
      ∀ count world, settle (updating (.ok count)) world =
        (.done (), world.report task ⟨pem, text, issued.serial, issued.expiresAt⟩) := by
  refine ⟨_, fun answer => calling (Coro.ofAnswer answer >>= fun _ =>
      Coro.ofAnswer (decodeAscii issued.certificatePem) >>= fun certificatePem =>
      pure ⟨pem, certificatePem, issued.serial, issued.expiresAt⟩) >>= fun renewed =>
      update fun world => world.report task renewed, fun _ => rfl, fun record world passed => ?_,
    fun count world => ?_⟩
  · change settle (calling (Coro.ofAnswer (renewable record nodeName) >>= fun _ =>
      Coro.ofAnswer (loadEd25519PublicKey library pem) >>= fun key =>
      Coro.ofAnswer (issueAgentClientCertificate library key nodeName agentId now
        AGENT_CERT_DEFAULT_LIFETIME_DAYS) >>= fun made => _) >>= _) world = _
    rw [passed, loads]
    change settle (calling (Coro.ofAnswer (issueAgentClientCertificate library publicKey nodeName agentId
      now AGENT_CERT_DEFAULT_LIFETIME_DAYS) >>= fun made => _) >>= _) world = _
    rw [issues]
    rfl
  · change settle (calling (Coro.ofAnswer (decodeAscii issued.certificatePem) >>= fun _ => _) >>= _) world = _
    rw [decoded]
    rfl

/-- The renewal has read its row and waits for its update. -/
theorem renewal_waits : ∃ (text : Str)
    (updating : Except Exc Nat → Task RenewalWorld RenewalAns Exc Unit) (pool : RenewalPool),
    RenewalRun libraryOne commandsOne tablesOne pool ∧
      pool.state = (⟨tablesOne, [], []⟩ : RenewalWorld).wrote 0 (.getAgent agentIdOne) tablesOne ∧
      pool.tasks = Function.update (fun _ => none) 0 (some (.call (.await
        (.updateAgentCertificate agentIdOne agentKeyPemOne issuedOne.serial issuedOne.expiresAt)) updating)) ∧
      ∀ count world, settle (updating (.ok count)) world =
        (.done (), world.report 0 (renewedOne text)) := by
  obtain ⟨text, decoded⟩ : ∃ text, decodeAscii issuedOne.certificatePem = .ok text := by
    unfold issuedOne
    dsimp only
    exact certificate_text
  obtain ⟨reading, updating, begins, reads, updates⟩ :=
    renewal_settles 0 loads_one issues_one decoded
  have command : commandsOne 0 = .renew agentIdOne (lit "node01") agentKeyPemOne nowOne := rfl
  have started : programs libraryOne commandsOne 0 ((RenewalCommand.renew agentIdOne (lit "node01")
      agentKeyPemOne nowOne).call libraryOne 0) ⟨tablesOne, [], []⟩ := by
    unfold programs
    rw [command]
  have fresh : RenewalRun libraryOne commandsOne tablesOne ⟨fun _ => none, ⟨tablesOne, [], []⟩⟩ := .start
  obtain ⟨first, begun, state, tasks⟩ := fresh.spawned 0 rfl started (begins _)
  obtain ⟨second, reached, later, waiting⟩ := begun.resumed_beside tasks
    (.ok (some (recordOf tablesOne agentOne))) (.inl ⟨_, tablesOne, by rw [state]; rfl, rfl, .inl rfl⟩)
    (reads _ _ rfl)
  refine ⟨text, updating, second, reached, ?_, waiting, updates⟩
  rw [later, state]

theorem renewal_stored : ∃ (pool : RenewalPool) (renewed : RenewedAgentCertificate),
    RenewalRun libraryOne commandsOne tablesOne pool ∧ (0, renewed) ∈ pool.state.returned ∧
      Reported commandsOne pool := by
  obtain ⟨text, updating, pool, reached, state, waiting, updates⟩ := renewal_waits
  obtain ⟨last, ended, after, -⟩ := reached.resumed_beside waiting (.ok 1)
    (.inl ⟨(1 : Nat), tablesRenewed, by rw [state]; rfl, rfl, .inl rfl⟩) (updates 1 _)
  have returned : (0, renewedOne text) ∈ last.state.returned := by
    rw [after]
    exact List.mem_append_right _ List.mem_cons_self
  refine ⟨last, _, ended, returned, (renewal_reported _ _ _ _ ended).mpr ?_⟩
  rintro task agentId - - - - - ⟨past, read, middle, written, rest, split, -, -, revoked, member, revokes⟩
  have two : last.state.ran = [⟨0, .getAgent agentIdOne, tablesOne, tablesOne⟩,
      ⟨0, .updateAgentCertificate agentIdOne agentKeyPemOne issuedOne.serial issuedOne.expiresAt,
        tablesOne, tablesRenewed⟩] := by
    rw [after, state]
    rfl
  have inRun : revoked ∈ last.state.ran := by simp [split, member]
  rw [two] at inRun
  rcases List.mem_cons.mp inRun with rfl | inRun
  · exact revokes.2 rfl
  cases List.mem_singleton.mp inRun
  exact revokes.2 rfl

/-- The agent is revoked after its row was read; the update finds no row, and the certificate is
returned as one that was renewed. -/
theorem renewal_lost : ∃ (pool : RenewalPool) (renewed : RenewedAgentCertificate),
    RenewalRun libraryOne commandsOne tablesOne pool ∧ (0, renewed) ∈ pool.state.returned ∧
      ¬Reported commandsOne pool := by
  obtain ⟨text, updating, pool, reached, state, waiting, updates⟩ := renewal_waits
  have free : pool.tasks 1 = none := by
    rw [waiting]
    rfl
  obtain ⟨first, begun, firstState, firstTasks⟩ := reached.spawned 1 free rfl rfl
  obtain ⟨second, revoked, secondState, secondTasks⟩ := begun.resumed_beside firstTasks
    (.ok (some agentIdOne)) (.inl ⟨_, tablesRevoked, by
      rw [firstState, state]; rfl, rfl, .inl rfl⟩) rfl
  have stands : second.tasks 0 = some (.call (.await (.updateAgentCertificate agentIdOne agentKeyPemOne
      issuedOne.serial issuedOne.expiresAt)) updating) := by
    rw [secondTasks, waiting]
    rfl
  have tables : second.state.tables = tablesRevoked := by
    rw [secondState]
    rfl
  obtain ⟨last, ended, after, -⟩ := revoked.resumed 0 stands (.ok 0)
    (.inl ⟨(0 : Nat), tablesRevoked, by rw [tables]; rfl, rfl, .inl rfl⟩)
    (updates 0 _)
  have returned : (0, renewedOne text) ∈ last.state.returned := by
    rw [after]
    exact List.mem_append_right _ List.mem_cons_self
  refine ⟨last, _, ended, returned, fun reported => ?_⟩
  obtain ⟨agentId, _, _, _, named, written, member, -, call, notRevoked, -⟩ := reported 0 _ returned
  cases named
  have three : last.state.ran = [⟨0, .getAgent agentIdOne, tablesOne, tablesOne⟩,
      ⟨1, .admin (.execute (.revokeAgent (lit "node01") nowOne)), tablesOne, tablesRevoked⟩,
      ⟨0, .updateAgentCertificate agentIdOne agentKeyPemOne issuedOne.serial issuedOne.expiresAt,
        tablesRevoked, tablesRevoked⟩] := by
    rw [after, secondState, firstState, state]
    rfl
  rw [three] at member
  rcases List.mem_cons.mp member with rfl | member
  · cases call
  rcases List.mem_cons.mp member with rfl | member
  · cases call
  cases List.mem_singleton.mp member
  cases notRevoked

end VibeConnect.CertificateRenewal
