import VibeConnect.Reenrollment
import VibeConnect.TunnelLink

/-! The tunnel secret of one agent: its hash in the database, the secret in the
agent's `identity.json`, and the tunnel between the two programs. An enrollment
writes both; `rotate_tunnel_secret` writes the hash only, and nothing that
crosses the tunnel reaches the file. The two agree in every state of a run that
has no rotation of the agent's secret. -/
namespace VibeConnect.SecretRotation
open Python.Text Python.Values Python.Coroutine Python.Tasks Models JumpCoordinator Enrollment
open TunnelAuthenticator TunnelBroker AgentTunnel TunnelLink EnrollmentLedger EnrollmentRollback
open AdminService AdminAudit AgentKey Reenrollment

/-- What stays the same in a run. -/
structure Site where
  library : EnrollmentLibrary
  certificates : CertificateLibrary
  broker : BrokerConfig
  connectionId : ConnectionId
  maxFrameBytes : Int

/-- The database and the limiter of the server, the response that `identity.json`
was written from, and the tasks of the tunnel that is connected. -/
structure Deployment where
  world : AdminWorld
  limiter : EnrollmentRateLimiter
  identity : Option EnrollmentResponse
  tunnel : Option LinkPool

namespace Deployment

def enroll (attempt : Attempt) (deployment : Deployment) :
    Except Exc EnrollmentResponse × EnrollmentWorld :=
  attempt.run ⟨deployment.world.tables.toTables, deployment.limiter, []⟩

/-- What an enrollment leaves at the server. -/
def store (after : EnrollmentWorld) (deployment : Deployment) : Deployment :=
  let tables := { deployment.world.tables with toTables := after.tables }
  { deployment with world := { deployment.world with tables := tables }, limiter := after.limiter }

def setTables (tables : AdminTables) (deployment : Deployment) : Deployment :=
  { deployment with world := { deployment.world with tables := tables } }

/-- Every frame that the server has sent was read by the agent's loop. -/
def Quiet (site : Site) (deployment : Deployment) : Prop :=
  ∀ pool, deployment.tunnel = some pool →
    sent site.connectionId pool.state = (loopOf site.connectionId pool.state).frames

/-- The secret in the file hashes to the stored hash, unless the agent is revoked. -/
def Unlocked (site : Site) (deployment : Deployment) : Prop :=
  ∀ response, deployment.identity = some response →
    ∀ agent ∈ deployment.world.tables.agents, agent.agentId = response.agentId →
      deployment.world.tables.revokedAt agent.agentId = none →
      EnrollmentService.tokenHashOf site.library response.tunnelSecret = .ok agent.tunnelSecretHash
end Deployment

/-- An enrollment of the agent or of another, the loss of the file after a write
that failed, a rotation, any other statement of the admin commands, and the
tunnel. -/
inductive Event where
  | enroll (attempt : Attempt)
  | enrollOther (attempt : Attempt)
  | loseIdentity
  | rotate (setting : AdminCase) (nodeName actor : Str)
  | command (statement : AdminStatement)
  | connect (nodeName : Str) (peerNow now : DateTime) (start : TunnelWorld)
  | disconnect
  | tunnel (pool : LinkPool)

def rotation (setting : AdminCase) (nodeName actor : Str) (world : AdminWorld) : AdminWorld :=
  performed setting.connection
    (AdminService.rotateTunnelSecret setting.config setting.draws nodeName actor setting.now) world

/-- `rotate_tunnel_secret` runs through its own command. -/
def isRotation : AdminStatement → Bool
  | .rotateTunnelSecret .. => true
  | _ => false

section Steps
variable (site : Site)

inductive Happens : Deployment → Event → Deployment → Prop
  | enrolled {before attempt response after} : attempt.backend = .postgres →
      attempt.config.library = site.library → before.enroll attempt = (.ok response, after) →
      Happens before (.enroll attempt) { before.store after with identity := some response }
  | refused {before attempt raised after} : attempt.backend = .postgres →
      before.enroll attempt = (.error raised, after) →
      Happens before (.enroll attempt) (before.store after)
  | enrolledOther {before attempt} : attempt.backend = .postgres →
      Happens before (.enrollOther attempt) (before.store (before.enroll attempt).2)
  | lost {before} : Happens before .loseIdentity { before with identity := none }
  | rotated {before setting nodeName actor} : Happens before (.rotate setting nodeName actor)
      { before with world := rotation setting nodeName actor before.world }
  | command {before : Deployment} {statement : AdminStatement} {result : AdminResult statement}
      {tables : AdminTables} : isRotation statement = false →
      statement.run before.world.tables = .ok (result, tables) →
      Happens before (.command statement) (before.setTables tables)
  | connected {before : Deployment} {response nodeName peerNow now record start} :
      before.identity = some response →
      admitted site.library.toLibrary site.certificates before.world.tables.toTables
        (identityOf response) nodeName peerNow now = .ok record →
      Established site.connectionId start →
      Happens before (.connect nodeName peerNow now start)
        { before with tunnel := some ⟨fun _ => none, start⟩ }
  | disconnected {before} : Happens before .disconnect { before with tunnel := none }
  | tunnel {before : Deployment} {pool next : LinkPool} : before.tunnel = some pool →
      Step (linkWorld site.connectionId)
        (linkPrograms site.library.toLibrary site.broker site.connectionId site.maxFrameBytes)
        pool next →
      Happens before (.tunnel next) { before with tunnel := some next }

/-- The runs whose steps are all allowed, from a database of any content and an
agent that has no file yet. -/
inductive Runs (allowed : Deployment → Event → Prop) : Deployment → Prop
  | start {deployment} : deployment.identity = none → deployment.tunnel = none → Runs allowed deployment
  | step {before event after} : Runs allowed before → allowed before event →
      Happens site before event after → Runs allowed after
end Steps

/-- A rotation leaves the agent the hash that it has. -/
def Spares (deployment : Deployment) : Event → Prop
  | .rotate setting nodeName _ => ∀ secretHash,
      EnrollmentService.tokenHashOf setting.config.library setting.draws.tunnelSecret = .ok secretHash →
      ∀ response, deployment.identity = some response →
        ∀ agent ∈ deployment.world.tables.agents, agent.agentId = response.agentId →
          deployment.world.tables.unrevoked nodeName agent = true → agent.tunnelSecretHash = secretHash
  | _ => True

/-- The agent has a row, and every row with its id has the hash of its secret. -/
def Matched (site : Site) (identity : Option EnrollmentResponse) (agents : List StoredAgent) : Prop :=
  ∀ response, identity = some response →
    (∃ agent ∈ agents, agent.agentId = response.agentId) ∧
      ∀ agent ∈ agents, agent.agentId = response.agentId →
        EnrollmentService.tokenHashOf site.library response.tunnelSecret = .ok agent.tunnelSecretHash

section Rows
variable {site : Site} {identity : Option EnrollmentResponse} {agents : List StoredAgent}

/-- Rows that are kept, or changed in neither id nor hash. -/
theorem matched_map {change : StoredAgent → StoredAgent} (matched : Matched site identity agents)
    (ids : ∀ agent, (change agent).agentId = agent.agentId)
    (hashes : ∀ response, identity = some response → ∀ agent ∈ agents,
      agent.agentId = response.agentId → (change agent).tunnelSecretHash = agent.tunnelSecretHash) :
    Matched site identity (agents.map change) := by
  intro response held
  obtain ⟨⟨agent, member, same⟩, hashed⟩ := matched response held
  constructor
  · exact ⟨change agent, List.mem_map_of_mem member, (ids agent).trans same⟩
  · intro new there own
    obtain ⟨old, oldMember, rfl⟩ := List.mem_map.mp there
    rw [ids] at own
    rw [hashes response held old oldMember own]
    exact hashed old oldMember own

/-- What an enrollment makes of the rows: it adds rows under new ids. -/
def Grows (agents grown : List StoredAgent) : Prop :=
  ∃ more, grown = agents ++ more ∧ ∀ new ∈ more, ∀ old ∈ agents, old.agentId ≠ new.agentId

theorem grows_keeps (agents : List StoredAgent) : Keeps fun tables => Grows agents tables.agents := by
  intro statement before result after posted grown ran
  cases statement with
  | insertAgent agent =>
      obtain ⟨more, same, fresh⟩ := grown
      have free := insertAgent_run.mp ⟨result, after, ran⟩
      unfold Statement.run at ran
      dsimp only at ran
      split at ran
      · cases ran
      cases ran
      refine ⟨more ++ [agent], ?_, ?_⟩
      · show before.agents ++ [agent] = _
        rw [same, List.append_assoc]
      · intro new member old there
        rcases List.mem_append.mp member with earlier | last
        · exact fresh new earlier old there
        · rw [List.mem_singleton.mp last]
          apply (free old _).1
          rw [same]
          exact List.mem_append_left _ there
  | insertToken row =>
      unfold Statement.run at ran
      dsimp only at ran
      split at ran
      · cases ran
      split at ran
      · cases ran
      cases ran
      exact grown
  | createToken row now => cases posted
  | consumeToken tokenHash nodeName now => cases posted
  | putAgent agent => cases posted
  | _ =>
      cases ran
      exact grown

theorem enroll_grows {attempt : Attempt} {world : EnrollmentWorld}
    (backend : attempt.backend = .postgres) :
    Grows world.tables.agents (attempt.run world).2.tables.agents :=
  enroll_keeps (grows_keeps world.tables.agents) backend ⟨[], (List.append_nil _).symm, by simp⟩

theorem matched_grows {grown : List StoredAgent} (matched : Matched site identity agents)
    (grows : Grows agents grown) : Matched site identity grown := by
  obtain ⟨more, rfl, fresh⟩ := grows
  intro response held
  obtain ⟨⟨agent, member, same⟩, hashed⟩ := matched response held
  constructor
  · exact ⟨agent, List.mem_append_left _ member, same⟩
  · intro row there own
    rcases List.mem_append.mp there with old | new
    · exact hashed row old own
    · exact (fresh row new agent member (same.trans own.symm)).elim

/-- The agent's own enrollment writes the hash and the file. -/
theorem matched_enrolled {attempt : Attempt} {world after : EnrollmentWorld}
    {response : EnrollmentResponse} (backend : attempt.backend = .postgres)
    (library : attempt.config.library = site.library)
    (accepted : attempt.run world = (.ok response, after)) :
    Matched site (some response) after.tables.agents := by
  obtain ⟨agentKey, issued, agent, enrolled⟩ := accepted_enrolled accepted
  have grown := enrolled.agents backend
  have fresh : ∀ old ∈ world.tables.agents, old.agentId ≠ agent.agentId := by
    obtain ⟨more, same, new⟩ := @enroll_grows attempt world backend
    rw [accepted] at same
    have only : more = [agent] := List.append_cancel_left (same.symm.trans grown)
    exact new agent (by rw [only]; exact List.mem_singleton_self agent)
  rintro _ ⟨⟩
  have own : agent.agentId = response.agentId := enrolled.agentId.trans enrolled.responseId.symm
  rw [grown]
  constructor
  · exact ⟨agent, by simp, own⟩
  · intro row there same
    rcases List.mem_append.mp there with old | last
    · exact (fresh row old (same.trans own.symm)).elim
    · rw [List.mem_singleton.mp last, enrolled.secret, ← library]
      exact enrolled.hashed
end Rows

/-! A rotation. -/
section Rotation
variable {site : Site} {world : AdminWorld} {setting : AdminCase} {nodeName actor : Str}

/-- A rotation has no effect on the rows, or sets the hash of the secret it drew. -/
theorem rotation_agents : (rotation setting nodeName actor world).tables = world.tables ∨
    ∃ secretHash, EnrollmentService.tokenHashOf setting.config.library setting.draws.tunnelSecret =
        .ok secretHash ∧
      (rotation setting nodeName actor world).tables =
        world.tables.setAgents nodeName fun agent => { agent with tunnelSecretHash := secretHash } := by
  unfold rotation performed run AdminService.rotateTunnelSecret
  rw [Coro.run_bind, Coro.run_ofAnswer]
  cases validated : validateNodeName nodeName with
  | error raised => exact .inl rfl
  | ok safeNodeName =>
  obtain ⟨-, rfl⟩ := validateNodeName_iff.mp validated
  dsimp only
  rw [Coro.run_bind, Coro.run_ofAnswer]
  cases hashed : EnrollmentService.tokenHashOf setting.config.library setting.draws.tunnelSecret with
  | error raised => exact .inl rfl
  | ok secretHash =>
  dsimp only
  rw [show (Coro.run _ _ world).2.tables = _ from stored_tables]
  unfold storeTunnelSecret
  rw [returnedAgent_run]
  cases answer : setting.connection.statement (.rotateTunnelSecret safeNodeName secretHash) with
  | some raised =>
      rw [refused_run answer]
      exact .inl rfl
  | none =>
      rw [served_run rfl answer]
      refine .inr ⟨secretHash, rfl, ?_⟩
      cases world.tables.returned safeNodeName <;> rfl
end Rotation

/-! One step, and a run. -/
section Runs
variable {site : Site} {before after : Deployment} {event : Event}

theorem command_matched {identity : Option EnrollmentResponse} {tables next : AdminTables}
    {statement : AdminStatement} {result : AdminResult statement}
    (other : isRotation statement = false) (ran : statement.run tables = .ok (result, next))
    (matched : Matched site identity tables.agents) : Matched site identity next.agents := by
  cases statement with
  | rotateTunnelSecret nodeName secretHash => cases other
  | updateNodeHostKey nodeName hostKey =>
      cases ran
      apply matched_map matched
      · intro agent
        split <;> rfl
      · intro _ _ agent _ _
        split <;> rfl
  | insertToken row =>
      unfold AdminStatement.run at ran
      dsimp only at ran
      split at ran
      · cases ran
      rename_i inserted stored
      cases ran
      obtain ⟨more, same, fresh⟩ := grows_keeps tables.agents (.insertToken row) tables.toTables _ _ rfl
        ⟨[], (List.append_nil _).symm, by simp⟩ stored
      exact matched_grows matched ⟨more, same, fresh⟩
  | insertRotation row =>
      unfold AdminStatement.run at ran
      dsimp only at ran
      split at ran
      · cases ran
      · cases ran
        exact matched
  | _ =>
      cases ran
      exact matched

theorem happens_matched (happens : Happens site before event after) (spares : Spares before event)
    (matched : Matched site before.identity before.world.tables.agents) :
    Matched site after.identity after.world.tables.agents := by
  cases happens with
  | enrolled backend library accepted => exact matched_enrolled backend library accepted
  | @refused attempt raised after backend refused =>
      have grows := @enroll_grows attempt ⟨before.world.tables.toTables, before.limiter, []⟩ backend
      rw [show attempt.run _ = _ from refused] at grows
      exact matched_grows matched grows
  | enrolledOther backend => exact matched_grows matched (enroll_grows backend)
  | lost =>
      intro response impossible
      cases impossible
  | rotated =>
      rcases rotation_agents with same | ⟨secretHash, drawn, same⟩
      · rw [same]
        exact matched
      rw [same]
      apply matched_map matched
      · intro agent
        split <;> rfl
      · intro response held agent member own
        split
        · rename_i live
          exact (spares secretHash drawn response held agent member own live).symm
        · rfl
  | command other ran => exact command_matched other ran matched
  | connected => exact matched
  | disconnected => exact matched
  | tunnel => exact matched

theorem runs_matched {deployment : Deployment} (ran : Runs site Spares deployment) :
    Matched site deployment.identity deployment.world.tables.agents := by
  induction ran with
  | start none _ =>
      intro response held
      rw [none] at held
      cases held
  | step _ spares happens ih => exact happens_matched happens spares ih

/-- In a run that has no rotation of the agent's secret the agent is never locked
out, whether frames are in flight or not. -/
theorem never_locked_out {deployment : Deployment} (ran : Runs site Spares deployment) :
    deployment.Quiet site → deployment.Unlocked site := by
  intro _ response held agent member own _
  exact (runs_matched ran response held).2 agent member own
end Runs

/-! A run of two steps. -/
section Steps
variable {site : Site} {before : Deployment} {allowed : Deployment → Event → Prop}

theorem enroll_runs {attempt : Attempt} (file : before.identity = none) (offline : before.tunnel = none)
    (backend : attempt.backend = .postgres) (library : attempt.config.library = site.library)
    (answered : (before.enroll attempt).1.isOk = true) (allows : allowed before (.enroll attempt)) :
    ∃ response : EnrollmentResponse, response.agentId = attempt.draws.agentId ∧
      response.tunnelSecret = attempt.draws.tunnelSecret ∧
      Runs site allowed { before.store (before.enroll attempt).2 with identity := some response } := by
  cases accepted : (before.enroll attempt).1 with
  | error raised =>
      rw [accepted] at answered
      cases answered
  | ok response =>
      have ran : before.enroll attempt = (.ok response, (before.enroll attempt).2) :=
        Prod.ext accepted rfl
      obtain ⟨agentKey, issued, agent, enrolled⟩ := accepted_enrolled ran
      refine ⟨response, enrolled.responseId, enrolled.secret, ?_⟩
      exact .step (.start file offline) allows (.enrolled backend library ran)

/-- A rotation of the secret of an agent that has no tunnel. -/
theorem rotation_locks {setting : AdminCase} {nodeName actor : Str} {response : EnrollmentResponse}
    {agent : StoredAgent} (ran : Runs site allowed { before with identity := some response })
    (allows : allowed { before with identity := some response } (.rotate setting nodeName actor))
    (offline : before.tunnel = none)
    (member : agent ∈ (rotation setting nodeName actor before.world).tables.agents)
    (own : agent.agentId = response.agentId)
    (unrevoked : (rotation setting nodeName actor before.world).tables.revokedAt agent.agentId = none)
    (changed : EnrollmentService.tokenHashOf site.library response.tunnelSecret ≠
      .ok agent.tunnelSecretHash) :
    ∃ deployment, Runs site allowed deployment ∧ deployment.Quiet site ∧ ¬deployment.Unlocked site := by
  refine ⟨_, .step ran allows .rotated, ?_, ?_⟩
  · intro pool connected
    cases offline.symm.trans connected
  · intro unlocked
    exact changed (unlocked response rfl agent member own unrevoked)
end Steps

/-! One agent: it enrolls, and its secret is rotated. -/
def siteOne : Site where
  library := libraryTwo
  certificates := certificatesOne
  broker := ⟨4, 30, 65536, by decide⟩
  connectionId := [99]
  maxFrameBytes := 65536

/-- The token is made, and the agent is not enrolled yet. -/
def deploymentOne : Deployment := ⟨(firstToken.created emptyWorld).2, .new, none, none⟩

def rotationOne : AdminCase :=
  ⟨⟨libraryTwo, AuditWriter.asciiLower, true⟩, ⟨⟨7⟩, [], List.replicate 43 (point 100), ⟨8⟩⟩,
    ⟨fun _ => none, fun _ => none⟩, ⟨2000000, some 0⟩⟩

/-- The agent is enrolled. -/
def storedOne : Deployment := deploymentOne.store (deploymentOne.enroll firstToken.attempt).2

/-- The hash of the secret that the agent is given. -/
def secretHashOne : Str := lit "f01b57226261ae3756b93936e1c4e6b849f9a5b0933fa3b91843bf4195b9d964"

/-- The enrollment is accepted, and the rotation sets another hash. -/
theorem rotation_changes : (deploymentOne.enroll firstToken.attempt).1.isOk = true ∧
    EnrollmentService.tokenHashOf libraryTwo tunnelSecretOne = .ok secretHashOne ∧
    ∃ agent ∈ (rotation rotationOne (lit "node01") (lit "admin") storedOne.world).tables.agents,
      agent.agentId = agentIdOne ∧ agent.tunnelSecretHash ≠ secretHashOne ∧
        ((rotation rotationOne (lit "node01") (lit "admin") storedOne.world).tables.revokedAt
          agent.agentId).isNone = true := by
  decide +kernel

/-- The run up to the end of the enrollment. -/
theorem enrolled_run {allowed : Deployment → Event → Prop}
    (allows : allowed deploymentOne (.enroll firstToken.attempt)) :
    ∃ response : EnrollmentResponse, response.agentId = agentIdOne ∧
      response.tunnelSecret = tunnelSecretOne ∧
      Runs siteOne allowed { storedOne with identity := some response } := by
  rw [storedOne]
  exact @enroll_runs siteOne deploymentOne allowed firstToken.attempt rfl rfl rfl rfl
    rotation_changes.1 allows

/-- An agent that was enrolled. -/
theorem enrolled_not_locked_out : ∃ deployment : Deployment, deployment.identity.isSome = true ∧
    (deployment.Quiet siteOne → deployment.Unlocked siteOne) := by
  have allows : Spares deploymentOne (.enroll firstToken.attempt) := trivial
  obtain ⟨response, -, -, ran⟩ := enrolled_run allows
  exact ⟨{ storedOne with identity := some response }, rfl, never_locked_out ran⟩

/-- One rotation locks the agent out, with no tunnel and nothing in flight. -/
theorem rotation_locks_out : ∃ deployment : Deployment, Runs siteOne (fun _ _ => True) deployment ∧
    deployment.Quiet siteOne ∧ ¬deployment.Unlocked siteOne := by
  obtain ⟨response, own, secret, ran⟩ := @enrolled_run (fun _ _ => True) trivial
  obtain ⟨-, known, agent, member, named, changed, unrevoked⟩ := rotation_changes
  have differs : EnrollmentService.tokenHashOf libraryTwo response.tunnelSecret ≠
      .ok agent.tunnelSecretHash := by
    rw [secret, known]
    intro same
    exact changed (Except.ok.inj same).symm
  have unset : (rotation rotationOne (lit "node01") (lit "admin") storedOne.world).tables.revokedAt
      agent.agentId = none := Option.isNone_iff_eq_none.mp unrevoked
  have offline : storedOne.tunnel = none := rfl
  exact @rotation_locks siteOne storedOne (fun _ _ => True) rotationOne (lit "node01") (lit "admin")
    response agent ran trivial offline member (named.trans own.symm) unset differs

end VibeConnect.SecretRotation
