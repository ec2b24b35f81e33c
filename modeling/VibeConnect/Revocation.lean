import VibeConnect.BrokerRuns
import VibeConnect.TunnelLink

/-! Revocation of a connected agent. The row changes in another process, so the
broker only meets the revocation where it asks the store: at authentication and
at the update of the row that every frame brings about. An update that goes
through for a revoked agent leaves the tunnel as it was. Here `received` holds
the frames that were read from a connection after its agent had been revoked;
where each of them ends its tunnel there is one of them at most, the agent
leaves the broker, and its streams get nothing more. -/
namespace VibeConnect.Revocation
open Python.Text Python.Values Python.Coroutine Python.Tasks Models TunnelProtocol TunnelState
open TunnelAuthenticator TunnelBroker BrokerCalls TunnelAdmission BrokerInvariant BrokerRuns
open TunnelLink (readNext arrive)

/-- The agent's row says that it is revoked. -/
def Revoked (agentId : Uuid) (world : TunnelWorld) : Prop :=
  ∃ record, world.agents agentId = some record ∧ record.revokedAt ≠ none

/-- The connection is one of a revoked agent. -/
def Outlived (connectionId : ConnectionId) (world : TunnelWorld) : Prop :=
  ∃ connection, world.broker.objects connectionId = some connection ∧
    Revoked connection.agent.agentId world

/-- A frame of the agent was read after its revocation. -/
def Silenced (agentId : Uuid) (world : TunnelWorld) : Prop :=
  ∃ connectionId connection, world.broker.objects connectionId = some connection ∧
    connection.agent.agentId = agentId ∧ world.received connectionId ≠ []

/-- What the agent has sent to a session stream and the server has not read. -/
def buffered (connectionId : ConnectionId) (channelId : ChannelId) (broker : Broker) : Bytes :=
  ((broker.streams connectionId channelId).map (·.buffer)).getD []

/-! The world of the broker's tasks. -/

/-- What goes on elsewhere while a call is answered: the clock and the rows may
change, but a revoked row stays revoked. -/
structure Elsewhere (before after : TunnelWorld) : Prop where
  broker : after.broker = before.broker
  received : after.received = before.received
  revoked : ∀ agentId, Revoked agentId before → Revoked agentId after

/-- Any call can be answered in any way, but for the store's rows. A frame is
noted if its agent was revoked before it was read. -/
def watchedWorld (connectionId : ConnectionId) : World TunnelWorld TunnelResult Exc
  | .readFrame, .ok (some decoded), before, after => ∃ frame middle,
      OutgoingFrame.decoded frame = decoded ∧ Elsewhere before middle ∧
        ((Outlived connectionId before ∧ after = arrive connectionId frame middle) ∨
          (¬Outlived connectionId before ∧ after = middle))
  | .getAgent agentId, .ok row, before, after => Elsewhere before after ∧
      row = before.agents agentId ∧ ∀ record, row = some record → record.agentId = agentId
  | _, _, before, after => Elsewhere before after

def revocationWorld : BrokerTask → World TunnelWorld TunnelResult Exc
  | .stream connectionId => watchedWorld connectionId
  | _ => fun _ _ => Elsewhere

/-- Going on after the update of the agent's row ends the tunnel: the frame that
was read after the revocation is not accepted, and a stream that is not
registered yet does not get the slot of an agent such a frame came from. -/
structure Cuts (connectionId : ConnectionId) (agentId : Uuid) (world : TunnelWorld) : Prop where
  rejects : ∀ frame ∈ world.received connectionId, ∃ fault,
    Broker.handleAgentFrame connectionId (OutgoingFrame.decoded frame) world.broker = .error fault
  refuses : Silenced agentId world → world.broker.connections agentId ≠ some connectionId →
    ∃ fault, Broker.register agentId connectionId world.broker = .error fault

/-- The same world where the update goes through only when it may. -/
def cutWorld : BrokerTask → World TunnelWorld TunnelResult Exc
  | .stream connectionId, .updateLastSeen agentId _, .ok _, before, after =>
      Cuts connectionId agentId before ∧ Elsewhere before after
  | task, call, answer, before, after => revocationWorld task call answer before after

/-- Streams that read frame by frame, and the calls of the jump code. -/
def revocablePrograms (library : Library) (config : BrokerConfig) (task : BrokerTask)
    (program : TunnelTask Unit) (world : TunnelWorld) : Prop :=
  match task with
  | .stream connectionId => ∃ peer now errorRequestId turns,
      program = handleStream library config readNext peer now connectionId errorRequestId turns ∧
        Unused connectionId world.broker
  | _ => brokerPrograms library config task program world

section Worlds
variable {before after : TunnelWorld} {connectionId : ConnectionId}

theorem Elsewhere.refl (world : TunnelWorld) : Elsewhere world world := ⟨rfl, rfl, fun _ => id⟩

theorem Elsewhere.silenced (elsewhere : Elsewhere before after) (agentId : Uuid) :
    Silenced agentId after ↔ Silenced agentId before := by
  unfold Silenced
  rw [elsewhere.broker, elsewhere.received]

theorem Elsewhere.cuts {agentId : Uuid} (elsewhere : Elsewhere before after)
    (cuts : Cuts connectionId agentId before) : Cuts connectionId agentId after := by
  constructor
  · rw [elsewhere.received, elsewhere.broker]
    exact cuts.rejects
  · rw [elsewhere.silenced, elsewhere.broker]
    exact cuts.refuses

/-- Only the arrival of a frame is noted. -/
theorem watchedWorld_elsewhere {call : TunnelCall} {answer : Except Exc (TunnelResult call)}
    (unread : call ≠ .readFrame) (given : watchedWorld connectionId call answer before after) :
    Elsewhere before after := by
  unfold watchedWorld at given
  split at given
  · exact absurd rfl unread
  · exact given.1
  · exact given

/-- Answers leave the tables alone. -/
theorem watchedWorld_broker {call : TunnelCall} {answer : Except Exc (TunnelResult call)}
    (given : watchedWorld connectionId call answer before after) : after.broker = before.broker := by
  unfold watchedWorld at given
  split at given
  · obtain ⟨frame, middle, -, elsewhere, ⟨-, rfl⟩ | ⟨-, rfl⟩⟩ := given <;> exact elsewhere.broker
  · exact given.1.broker
  · exact given.broker

theorem cutWorld_watched {call : TunnelCall} {answer : Except Exc (TunnelResult call)}
    (given : cutWorld (.stream connectionId) call answer before after) :
    watchedWorld connectionId call answer before after := by
  unfold cutWorld at given
  split at given
  · rename_i named _
    cases named
    exact given.2
  · exact given
end Worlds

/-! What every step goes on with. -/

/-- Connections keep their agents, a stream is fed by its own connection, an
agent that a frame was read from after its revocation feeds none, and what was
revoked or read stays so. -/
structure Onward (before after : TunnelWorld) : Prop where
  kept : ∀ connectionId connection, before.broker.objects connectionId = some connection →
    ∃ next, after.broker.objects connectionId = some next ∧ next.agent = connection.agent
  idle : ∀ connectionId, after.broker.objects connectionId = none →
    after.broker.streams connectionId = before.broker.streams connectionId
  quiet : ∀ agentId, Silenced agentId before → ∀ connectionId next channelId,
    after.broker.objects connectionId = some next → next.agent.agentId = agentId →
      buffered connectionId channelId after.broker <:+ buffered connectionId channelId before.broker
  revoked : ∀ agentId, Revoked agentId before → Revoked agentId after
  grown : ∀ connectionId, before.received connectionId <+: after.received connectionId

section Onward
variable {before after last : TunnelWorld} {connectionId : ConnectionId} {channelId : ChannelId}

theorem Onward.silenced (onward : Onward before after) {agentId : Uuid}
    (silenced : Silenced agentId before) : Silenced agentId after := by
  obtain ⟨connectionId, connection, object, named, some⟩ := silenced
  obtain ⟨next, there, same⟩ := onward.kept connectionId connection object
  refine ⟨connectionId, next, there, same ▸ named, fun none => some ?_⟩
  exact List.prefix_nil.mp (none ▸ onward.grown connectionId)

theorem Onward.of_broker (broker : after.broker = before.broker)
    (revoked : ∀ agentId, Revoked agentId before → Revoked agentId after)
    (grown : ∀ connectionId, before.received connectionId <+: after.received connectionId) :
    Onward before after where
  kept connectionId connection object := ⟨connection, by rw [broker, object], rfl⟩
  idle connectionId _ := by rw [broker]
  quiet _ _ _ _ _ _ _ := by rw [broker]
  revoked := revoked
  grown := grown

theorem Onward.refl (world : TunnelWorld) : Onward world world :=
  .of_broker rfl (fun _ => id) fun _ => List.prefix_rfl

theorem Onward.trans (first : Onward before after) (second : Onward after last) :
    Onward before last where
  kept connectionId connection object := by
    obtain ⟨middle, there, named⟩ := first.kept connectionId connection object
    obtain ⟨next, place, called⟩ := second.kept connectionId middle there
    exact ⟨next, place, called.trans named⟩
  idle connectionId absent := by
    -- an object of the state in between would still be there
    have earlier : after.broker.objects connectionId = none := by
      cases found : after.broker.objects connectionId with
      | none => rfl
      | some middle =>
          obtain ⟨next, there, -⟩ := second.kept connectionId middle found
          cases absent.symm.trans there
    exact (second.idle connectionId absent).trans (first.idle connectionId earlier)
  quiet agentId silenced connectionId next channelId object named := by
    have later := second.quiet agentId (first.silenced silenced) connectionId next channelId object named
    cases found : after.broker.objects connectionId with
    | none =>
        have same : buffered connectionId channelId after.broker =
            buffered connectionId channelId before.broker := by
          unfold buffered
          rw [first.idle connectionId found]
        exact same ▸ later
    | some middle =>
        obtain ⟨again, there, same⟩ := second.kept connectionId middle found
        cases object.symm.trans there
        exact later.trans (first.quiet agentId silenced connectionId middle channelId found (same ▸ named))
  revoked agentId was := second.revoked agentId (first.revoked agentId was)
  grown connectionId := (first.grown connectionId).trans (second.grown connectionId)

theorem Elsewhere.onward (elsewhere : Elsewhere before after) : Onward before after :=
  .of_broker elsewhere.broker elsewhere.revoked fun _ => by rw [elsewhere.received]

theorem watchedWorld_onward {call : TunnelCall} {answer : Except Exc (TunnelResult call)}
    (given : watchedWorld connectionId call answer before after) :
    Onward before after ∧ ∀ other, other ≠ connectionId → after.received other = before.received other := by
  unfold watchedWorld at given
  split at given
  · obtain ⟨frame, middle, -, elsewhere, ⟨-, rfl⟩ | ⟨-, rfl⟩⟩ := given
    · have arrives : Onward middle (arrive connectionId frame middle) := by
        refine .of_broker rfl (fun _ => id) fun other => ?_
        by_cases same : other = connectionId
        · subst same
          exact ⟨[frame], (Function.update_self other _ middle.received).symm⟩
        · exact (Function.update_of_ne same _ middle.received) ▸ List.prefix_rfl
      refine ⟨elsewhere.onward.trans arrives, fun other apart => ?_⟩
      exact (Function.update_of_ne apart _ middle.received).trans (congrFun elsewhere.received other)
    · exact ⟨elsewhere.onward, fun other _ => congrFun elsewhere.received other⟩
  · exact ⟨given.1.onward, fun other _ => congrFun given.1.received other⟩
  · exact ⟨given.onward, fun other _ => congrFun given.received other⟩

/-! The blocks on the tables. -/
variable {state : TunnelWorld} {broker : Broker}

/-- A block that adds nothing to any stream. -/
theorem onward_drains
    (kept : ∀ connectionId connection, state.broker.objects connectionId = some connection →
      ∃ next, broker.objects connectionId = some next ∧ next.agent = connection.agent)
    (idle : ∀ connectionId, broker.objects connectionId = none →
      broker.streams connectionId = state.broker.streams connectionId)
    (drains : ∀ connectionId channelId,
      buffered connectionId channelId broker <:+ buffered connectionId channelId state.broker) :
    Onward state (state.onBroker broker) where
  kept := kept
  idle := idle
  quiet _ _ connectionId _ channelId _ _ := drains connectionId channelId
  revoked _ := id
  grown _ := List.prefix_rfl

theorem onward_objects
    (kept : ∀ connectionId connection, state.broker.objects connectionId = some connection →
      ∃ next, broker.objects connectionId = some next ∧ next.agent = connection.agent)
    (streams : broker.streams = state.broker.streams) : Onward state (state.onBroker broker) := by
  apply onward_drains kept
  · exact fun connectionId _ => congrFun streams connectionId
  · intro connectionId channelId
    rw [buffered, streams, buffered]

theorem onward_setObject {connection : BrokerTunnelConnection}
    (agent : ∀ earlier, state.broker.objects connectionId = some earlier →
      connection.agent = earlier.agent) :
    Onward state (state.onBroker (state.broker.setObject connectionId connection)) := by
  refine onward_objects (fun other earlier object => ?_) rfl
  by_cases same : other = connectionId
  · subst same
    exact ⟨connection, objects_setObject.mpr (.inl ⟨rfl, rfl⟩), agent earlier object⟩
  · exact ⟨earlier, objects_setObject.mpr (.inr ⟨same, object⟩), rfl⟩

/-- A stream of a connection changes; where its agent is silenced it gets nothing. -/
theorem onward_setStream {connection : BrokerTunnelConnection} {stream : BrokerTunnelStream}
    (object : state.broker.objects connectionId = some connection)
    (fits : Silenced connection.agent.agentId state →
      stream.buffer <:+ buffered connectionId channelId state.broker) :
    Onward state (state.onBroker (state.broker.setStream connectionId channelId stream)) where
  kept _ connection found := ⟨connection, found, rfl⟩
  idle other absent := by
    have apart : other ≠ connectionId := by
      rintro rfl
      cases object.symm.trans absent
    exact Function.update_of_ne apart _ _
  quiet agentId silenced other next second found named := by
    unfold buffered
    change (Option.map _ ((state.broker.setStream connectionId channelId stream).streams other
      second)).getD [] <:+ _
    rw [streams_setStream]
    by_cases same : other = connectionId ∧ second = channelId
    · rw [if_pos same]
      obtain ⟨rfl, rfl⟩ := same
      cases object.symm.trans found
      exact fits (named ▸ silenced)
    · rw [if_neg same]
  revoked _ := id
  grown _ := List.prefix_rfl

theorem onward_dropped {agentId : Uuid} {connection : BrokerTunnelConnection}
    (object : state.broker.objects connectionId = some connection) :
    Onward state (state.onBroker (state.broker.dropped agentId connectionId connection)) := by
  apply onward_drains
  · exact fun _ connection found => ⟨connection, found, rfl⟩
  · intro other absent
    have apart : other ≠ connectionId := by
      rintro rfl
      cases object.symm.trans absent
    exact Function.update_of_ne apart _ _
  · intro other second
    unfold buffered Broker.dropped
    dsimp only
    by_cases own : other = connectionId
    · subst own
      rw [Function.update_self]
      split
      · rw [Option.map_map]
        exact List.suffix_rfl
      · exact List.suffix_rfl
    · rw [Function.update_of_ne own]

theorem onward_registryDisconnect {agentId : Uuid} :
    Onward state (state.onBroker (state.broker.registryDisconnect agentId connectionId)) := by
  rw [Broker.registryDisconnect_eq]
  exact onward_objects (fun _ connection found => ⟨connection, found, rfl⟩) rfl

theorem onward_dropConnection {config : BrokerConfig} {agentId : Uuid}
    (holds : Represented config state.broker) :
    Onward state (state.onBroker (state.broker.dropConnection agentId connectionId)) := by
  by_cases owns : state.broker.connections agentId = some connectionId
  · obtain ⟨connection, object, -⟩ := holds.live agentId connectionId owns
    rw [Broker.dropConnection_own owns object]
    exact (onward_dropped object).trans onward_registryDisconnect
  · rw [Broker.dropConnection_apart owns]
    exact onward_registryDisconnect

theorem onward_retired {connection : BrokerTunnelConnection} {channels : TunnelChannelRegistry}
    (object : state.broker.objects connectionId = some connection) :
    Onward state (state.onBroker (state.broker.retired connectionId connection channels channelId)) := by
  refine onward_objects (fun other earlier found => ?_) rfl
  by_cases same : other = connectionId
  · subst same
    cases object.symm.trans found
    exact ⟨_, objects_setObject.mpr (.inl ⟨rfl, rfl⟩), rfl⟩
  · exact ⟨earlier, objects_setObject.mpr (.inr ⟨same, found⟩), rfl⟩

/-- The stream of a new channel is empty. -/
theorem onward_opened {connection : BrokerTunnelConnection} {channels : TunnelChannelRegistry}
    {agentId : Uuid} (object : state.broker.objects connectionId = some connection) :
    Onward state
      (state.onBroker (state.broker.opened connectionId connection channels channelId agentId)) := by
  apply onward_drains
  · intro other earlier found
    by_cases same : other = connectionId
    · subst same
      cases object.symm.trans found
      exact ⟨_, objects_setObject.mpr (.inl ⟨rfl, rfl⟩), rfl⟩
    · exact ⟨earlier, objects_setObject.mpr (.inr ⟨same, found⟩), rfl⟩
  · intro other absent
    have apart : other ≠ connectionId := by
      rintro rfl
      cases (Function.update_self other _ state.broker.objects).symm.trans absent
    exact Function.update_of_ne apart _ _
  · intro other second
    unfold buffered
    change (Option.map _ ((Broker.setStream _ connectionId channelId _).streams other second)).getD [] <:+ _
    rw [streams_setStream]
    split
    · exact List.nil_suffix
    · exact List.suffix_rfl

theorem onward_register {agentId : Uuid}
    (registered : Broker.register agentId connectionId state.broker = .ok broker) :
    Onward state (state.onBroker broker) := by
  obtain ⟨-, rfl⟩ := Broker.register_ok registered
  exact onward_objects (fun _ connection found => ⟨connection, found, rfl⟩) rfl

theorem onward_send {frame : OutgoingFrame} : Onward state (state.send connectionId frame) :=
  onward_objects (fun _ connection found => ⟨connection, found, rfl⟩) rfl
end Onward

/-! What a task expects of the others, and promises them. -/
def expects (owner : Option ConnectionId) (before after : TunnelWorld) : Prop :=
  (∀ connectionId, owner = some connectionId → Apart connectionId before after ∧
    after.received connectionId = before.received connectionId) ∧ Onward before after

def promises (owner : Option ConnectionId) (before after : TunnelWorld) : Prop :=
  (∀ connectionId, owner ≠ some connectionId → Apart connectionId before after ∧
    after.received connectionId = before.received connectionId) ∧ Onward before after

def contract (owner : Option ConnectionId) : Contract TunnelWorld Exc Unit where
  rely := expects owner
  guarantee := promises owner
  post _ world := ∀ connectionId, owner = some connectionId → Gone connectionId world.broker

/-- At most one frame is read from a connection after the revocation of its
agent, and then no other connection has the agent's slot. -/
structure Cut (config : BrokerConfig) (world : TunnelWorld) : Prop where
  represented : Represented config world.broker
  single : ∀ connectionId, (world.received connectionId).length ≤ 1
  last : ∀ connectionId, world.received connectionId ≠ [] → ∃ connection,
    world.broker.objects connectionId = some connection ∧
      Revoked connection.agent.agentId world ∧
      ∀ other, world.broker.connections connection.agent.agentId = some other → other = connectionId

section Contract
variable {config : BrokerConfig} {before after : TunnelWorld} {owner : Option ConnectionId}
  {connectionId : ConnectionId}

theorem promises_refl (owner : Option ConnectionId) (world : TunnelWorld) :
    promises owner world world := ⟨fun _ _ => ⟨apart_of_broker rfl, rfl⟩, .refl world⟩

theorem promises_of (owed : owes owner before after) (received : after.received = before.received)
    (onward : Onward before after) : promises owner before after :=
  ⟨fun connectionId apart => ⟨owed connectionId apart, congrFun received connectionId⟩, onward⟩

theorem contract_lawful (owner : Option ConnectionId) : (contract owner).Lawful where
  rely_refl world := ⟨fun _ _ => ⟨apart_of_broker rfl, rfl⟩, .refl world⟩
  rely_trans _ _ _ first second := ⟨fun id owned => ⟨(first.1 id owned).1.trans (second.1 id owned).1,
    (second.1 id owned).2.trans (first.1 id owned).2⟩, first.2.trans second.2⟩
  guarantee_refl := promises_refl owner
  guarantee_trans _ _ _ first second :=
    ⟨fun id apart => ⟨(first.1 id apart).1.trans (second.1 id apart).1,
      (second.1 id apart).2.trans (first.1 id apart).2⟩, first.2.trans second.2⟩
  stable _ before after gone expected id owned := by
    subst owned
    refine steady_gone before after (fun other same => ?_) (gone id rfl)
    exact (expected.1 other same).1

theorem owner_apart {task other : BrokerTask} (apart : task ≠ other)
    (promised : promises task.owner before after) : expects other.owner before after := by
  refine ⟨fun connectionId owned => promised.1 connectionId fun same => ?_, promised.2⟩
  cases task <;> cases other <;> simp_all [BrokerTask.owner]

theorem Cut.unused (cut : Cut config before) (unused : before.broker.objects connectionId = none) :
    before.received connectionId = [] := by
  by_contra read
  obtain ⟨connection, object, -⟩ := cut.last connectionId read
  cases unused.symm.trans object

/-- Who has the slot of a silenced agent is who the last frame was read from. -/
theorem Cut.holder (cut : Cut config before) {agentId : Uuid} (silenced : Silenced agentId before)
    (held : before.broker.connections agentId = some connectionId) :
    before.received connectionId ≠ [] := by
  obtain ⟨other, connection, object, rfl, read⟩ := silenced
  obtain ⟨again, there, -, only⟩ := cut.last other read
  cases object.symm.trans there
  exact only connectionId held ▸ read

/-- A step that reads nothing and gives no slot away. -/
theorem Cut.step (cut : Cut config before) (represented : Represented config after.broker)
    (received : after.received = before.received) (onward : Onward before after)
    (slots : ∀ agentId other, Silenced agentId before →
      after.broker.connections agentId = some other → before.broker.connections agentId = some other) :
    Cut config after where
  represented := represented
  single connectionId := by
    rw [received]
    exact cut.single connectionId
  last connectionId read := by
    rw [received] at read
    obtain ⟨connection, object, revoked, only⟩ := cut.last connectionId read
    obtain ⟨next, there, same⟩ := onward.kept connectionId connection object
    refine ⟨next, there, ?_, ?_⟩ <;> rw [same]
    · exact onward.revoked _ revoked
    · intro other held
      exact only other (slots _ other ⟨connectionId, connection, object, rfl, read⟩ held)

theorem Elsewhere.cut (elsewhere : Elsewhere before after) (cut : Cut config before) :
    Cut config after := by
  refine cut.step ?_ elsewhere.received elsewhere.onward fun _ _ _ held => ?_
  · rw [elsewhere.broker]
    exact cut.represented
  · rwa [elsewhere.broker] at held

/-- A step of the broker in a run that is cut. -/
structure Fair (config : BrokerConfig) (owner : Option ConnectionId) (before after : TunnelWorld) :
    Prop where
  promised : promises owner before after
  cut : Cut config after

theorem fair_of (cut : Cut config before) (owed : owes owner before after)
    (represented : Represented config after.broker) (received : after.received = before.received)
    (onward : Onward before after)
    (slots : ∀ agentId other, Silenced agentId before →
      after.broker.connections agentId = some other → before.broker.connections agentId = some other) :
    Fair config owner before after :=
  ⟨promises_of owed received onward, cut.step represented received onward slots⟩
end Contract

/-! Facts that a task keeps while it waits. -/
structure Stable (connectionId : ConnectionId) (fact : TunnelWorld → Prop) : Prop where
  expected : ∀ before after, expects (some connectionId) before after → fact before → fact after
  elsewhere : ∀ before after, Elsewhere before after → fact before → fact after

/-- A fact of the tables beside the frames that were read. -/
def Standing (connectionId : ConnectionId) (fact : Broker → Prop) (frames : List OutgoingFrame)
    (world : TunnelWorld) : Prop := fact world.broker ∧ world.received connectionId = frames

section Stable
variable {connectionId : ConnectionId} {fact : Broker → Prop}

theorem stable_broker (steady : Steady (some connectionId) fact) :
    Stable connectionId fun world => fact world.broker where
  expected before after expected :=
    steady before after fun other same => (expected.1 other same).1
  elsewhere before after elsewhere known := by
    rw [elsewhere.broker]
    exact known

theorem stable_standing (steady : Steady (some connectionId) fact) (frames : List OutgoingFrame) :
    Stable connectionId (Standing connectionId fact frames) where
  expected before after expected known :=
    ⟨(stable_broker steady).expected before after expected known.1,
      ((expected.1 connectionId rfl).2).trans known.2⟩
  elsewhere before after elsewhere known :=
    ⟨(stable_broker steady).elsewhere before after elsewhere known.1,
      (congrFun elsewhere.received connectionId).trans known.2⟩
end Stable

end VibeConnect.Revocation
