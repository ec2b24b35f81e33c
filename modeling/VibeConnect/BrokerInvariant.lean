import VibeConnect.TunnelBroker

/-! What relates the broker's four tables to its connection and stream objects,
and that every block which runs between two awaits keeps it. -/
namespace VibeConnect.BrokerInvariant
open Python.Text Python.JsonCodec Python.Values Python.Coroutine Python.Tasks Models TunnelProtocol
open TunnelState TunnelAuthenticator TunnelBroker

/-- What relates the tables of a broker. -/
structure Represented (config : BrokerConfig) (broker : Broker) : Prop where
  registered : broker.active = broker.connections
  live : ∀ agentId connectionId, broker.connections agentId = some connectionId →
    ∃ connection, broker.objects connectionId = some connection ∧ connection.agent.agentId = agentId
  attached : ∀ connectionId connection, broker.objects connectionId = some connection →
    connection.adapters = connection.channels.openChannels
  limited : ∀ connectionId connection, broker.objects connectionId = some connection →
    connection.channels.maxSessions = config.maxSessionsPerAgent
  mapped : ∀ channelId agentId, broker.channelAgents channelId = some agentId ↔
    ∃ connectionId connection, broker.connections agentId = some connectionId ∧
      broker.objects connectionId = some connection ∧ channelId ∈ connection.channels.openChannels
  streamed : ∀ connectionId connection channelId, broker.objects connectionId = some connection →
    channelId ∈ connection.channels.known → ∃ stream,
      broker.streams connectionId channelId = some stream ∧ stream.agentId = connection.agent.agentId
  once : ∀ connectionId other connection second channelId,
    broker.objects connectionId = some connection → broker.objects other = some second →
    channelId ∈ connection.channels.known → channelId ∈ second.channels.known → connectionId = other
  delivered : ∀ sent ∈ broker.wire, ∀ channelId, sent.frame.channelId = some channelId →
    ∃ connection, broker.objects sent.connection = some connection ∧
      channelId ∈ connection.channels.known

section Blocks
variable {config : BrokerConfig} {broker after : Broker} {connectionId : ConnectionId}
  {connection : BrokerTunnelConnection} {channelId : ChannelId} {agentId : Uuid}

theorem open_known {channels : TunnelChannelRegistry} (member : channelId ∈ channels.openChannels) :
    channelId ∈ channels.known := Finset.mem_union_left _ member

theorem objects_setObject {other : ConnectionId} {found : BrokerTunnelConnection} :
    (broker.setObject connectionId connection).objects other = some found ↔
      (other = connectionId ∧ found = connection) ∨
        (other ≠ connectionId ∧ broker.objects other = some found) := by
  unfold Broker.setObject
  by_cases same : other = connectionId
  · subst same
    simp [eq_comm]
  · simp [same, Function.update_of_ne]

theorem streams_setStream {stream : BrokerTunnelStream} {other : ConnectionId} {second : ChannelId} :
    (broker.setStream connectionId channelId stream).streams other second =
      if other = connectionId ∧ second = channelId then some stream else broker.streams other second := by
  unfold Broker.setStream
  by_cases same : other = connectionId
  · subst same
    by_cases equal : second = channelId
    · subst equal
      simp
    · simp [equal, Function.update_of_ne]
  · simp [same, Function.update_of_ne]

theorem Represented.empty (config : BrokerConfig) : Represented config .empty := by
  constructor <;> simp [Broker.empty]

/-- Two agents never share a connection. -/
theorem Represented.injective (holds : Represented config broker) {other : Uuid}
    (first : broker.connections agentId = some connectionId)
    (second : broker.connections other = some connectionId) : agentId = other := by
  obtain ⟨one, found, named⟩ := holds.live _ _ first
  obtain ⟨two, again, called⟩ := holds.live _ _ second
  cases found.symm.trans again
  exact named.symm.trans called

/-- An object may change whatever the tables do not depend on. -/
theorem Represented.setObject {changed : BrokerTunnelConnection} (holds : Represented config broker)
    (object : broker.objects connectionId = some connection) (agent : changed.agent = connection.agent)
    (channels : changed.channels = connection.channels)
    (adapters : changed.adapters = connection.adapters) :
    Represented config (broker.setObject connectionId changed) := by
  -- every object of the new table stands for one of the old table
  have old : ∀ {other : ConnectionId} {found : BrokerTunnelConnection},
      (broker.setObject connectionId changed).objects other = some found →
      ∃ before, broker.objects other = some before ∧ found.agent = before.agent ∧
        found.channels = before.channels ∧ found.adapters = before.adapters := by
    intro other found held
    rcases objects_setObject.mp held with ⟨rfl, rfl⟩ | ⟨-, same⟩
    · exact ⟨connection, object, agent, channels, adapters⟩
    · exact ⟨found, same, rfl, rfl, rfl⟩
  have new : ∀ {other : ConnectionId} {before : BrokerTunnelConnection},
      broker.objects other = some before →
      ∃ found, (broker.setObject connectionId changed).objects other = some found ∧
        found.agent = before.agent ∧ found.channels = before.channels := by
    intro other before held
    by_cases same : other = connectionId
    · subst same
      cases object.symm.trans held
      exact ⟨changed, objects_setObject.mpr (.inl ⟨rfl, rfl⟩), agent, channels⟩
    · exact ⟨before, objects_setObject.mpr (.inr ⟨same, held⟩), rfl, rfl⟩
  constructor
  · exact holds.registered
  · intro agentId other held
    obtain ⟨before, found, named⟩ := holds.live agentId other held
    obtain ⟨next, there, same, -⟩ := new found
    exact ⟨next, there, by rw [same, named]⟩
  · intro other found held
    obtain ⟨before, there, -, same, equal⟩ := old held
    rw [same, equal, holds.attached other before there]
  · intro other found held
    obtain ⟨before, there, -, same, -⟩ := old held
    rw [same, holds.limited other before there]
  · intro channelId agentId
    refine (holds.mapped channelId agentId).trans ⟨?_, ?_⟩
    · rintro ⟨other, before, registered, held, member⟩
      obtain ⟨next, there, -, same⟩ := new held
      exact ⟨other, next, registered, there, same ▸ member⟩
    · rintro ⟨other, found, registered, held, member⟩
      obtain ⟨before, there, -, same, -⟩ := old held
      exact ⟨other, before, registered, there, same ▸ member⟩
  · intro other found channelId held member
    obtain ⟨before, there, named, same, -⟩ := old held
    rw [named]
    exact holds.streamed other before channelId there (same ▸ member)
  · intro one two found second channelId held again member repeated
    obtain ⟨before, there, -, same, -⟩ := old held
    obtain ⟨other, place, -, equal, -⟩ := old again
    exact holds.once one two before other channelId there place (same ▸ member) (equal ▸ repeated)
  · intro sent member channelId named
    obtain ⟨before, there, known⟩ := holds.delivered sent member channelId named
    obtain ⟨next, place, -, same⟩ := new there
    exact ⟨next, place, same ▸ known⟩

/-- Feeding a stream object leaves it the agent's. -/
theorem Represented.setStream {stream changed : BrokerTunnelStream}
    (holds : Represented config broker) (found : broker.streams connectionId channelId = some stream)
    (agent : changed.agentId = stream.agentId) :
    Represented config (broker.setStream connectionId channelId changed) := by
  refine { holds with streamed := fun other connection second held member => ?_ }
  obtain ⟨before, there, named⟩ := holds.streamed other connection second held member
  rw [streams_setStream]
  by_cases same : other = connectionId ∧ second = channelId
  · obtain ⟨rfl, rfl⟩ := same
    cases found.symm.trans there
    exact ⟨changed, if_pos ⟨rfl, rfl⟩, agent.trans named⟩
  · exact ⟨before, (if_neg same).trans there, named⟩

theorem Represented.newConnection {record : AgentTunnelRecord} {seenAt : DateTime}
    (holds : Represented config broker) (unused : broker.objects connectionId = none)
    (created : Broker.newConnection config record connectionId seenAt broker = .ok after) :
    Represented config after := by
  obtain ⟨fresh, rfl, -, opened, retired, limit, adapters⟩ := Broker.newConnection_ok created
  have empty : fresh.channels.known = ∅ := by simp [TunnelChannelRegistry.known, opened, retired]
  -- an object with a channel is an old one
  have old : ∀ {other : ConnectionId} {found : BrokerTunnelConnection} {channelId : ChannelId},
      (broker.setObject connectionId fresh).objects other = some found →
      channelId ∈ found.channels.known → broker.objects other = some found := by
    intro other found channelId held member
    rcases objects_setObject.mp held with ⟨-, rfl⟩ | ⟨-, same⟩
    · rw [empty] at member
      cases member
    · exact same
  have new : ∀ {other : ConnectionId} {found : BrokerTunnelConnection},
      broker.objects other = some found →
      (broker.setObject connectionId fresh).objects other = some found := by
    intro other found held
    refine objects_setObject.mpr (.inr ⟨?_, held⟩)
    rintro rfl
    rw [unused] at held
    cases held
  constructor
  · exact holds.registered
  · intro agentId other held
    obtain ⟨before, found, named⟩ := holds.live agentId other held
    exact ⟨before, new found, named⟩
  · intro other found held
    rcases objects_setObject.mp held with ⟨-, rfl⟩ | ⟨-, same⟩
    · rw [adapters, opened]
    · exact holds.attached other found same
  · intro other found held
    rcases objects_setObject.mp held with ⟨-, rfl⟩ | ⟨-, same⟩
    · exact limit
    · exact holds.limited other found same
  · intro channelId agentId
    refine (holds.mapped channelId agentId).trans ⟨?_, ?_⟩
    · rintro ⟨other, found, registered, held, member⟩
      exact ⟨other, found, registered, new held, member⟩
    · rintro ⟨other, found, registered, held, member⟩
      exact ⟨other, found, registered, old held (open_known member), member⟩
  · intro other found channelId held member
    exact holds.streamed other found channelId (old held member) member
  · intro one two found second channelId held again member repeated
    exact holds.once one two found second channelId (old held member) (old again repeated) member repeated
  · intro sent member channelId named
    obtain ⟨found, there, known⟩ := holds.delivered sent member channelId named
    exact ⟨found, new there, known⟩

/-- A connection without channels can take a slot. -/
theorem Represented.register (holds : Represented config broker)
    (object : broker.objects connectionId = some connection)
    (agent : connection.agent.agentId = agentId) (idle : connection.adapters = ∅)
    (registered : Broker.register agentId connectionId broker = .ok after) : Represented config after := by
  obtain ⟨free, rfl⟩ := Broker.register_ok registered
  have closed : connection.channels.openChannels = ∅ := by rw [← holds.attached _ _ object, idle]
  have slot : ∀ {other : Uuid} {current : ConnectionId},
      Function.update broker.connections agentId (some connectionId) other = some current →
      (other = agentId ∧ current = connectionId) ∨ broker.connections other = some current := by
    intro other current held
    by_cases same : other = agentId
    · subst same
      rw [Function.update_self] at held
      exact .inl ⟨rfl, (Option.some.inj held).symm⟩
    · rw [Function.update_of_ne same] at held
      exact .inr held
  refine { holds with registered := ?_, live := ?_, mapped := ?_ }
  · rw [holds.registered]
  · intro other current held
    rcases slot held with ⟨rfl, rfl⟩ | before
    · exact ⟨connection, object, agent⟩
    · exact holds.live other current before
  · intro channelId other
    refine (holds.mapped channelId other).trans ⟨?_, ?_⟩
    · rintro ⟨current, found, held, there, member⟩
      refine ⟨current, found, ?_, there, member⟩
      by_cases same : other = agentId
      · subst same
        rw [free current (holds.registered ▸ held)]
        exact Function.update_self ..
      · exact (Function.update_of_ne same _ _).trans held
    · rintro ⟨current, found, held, there, member⟩
      rcases slot held with ⟨-, rfl⟩ | before
      · cases object.symm.trans there
        rw [closed] at member
        cases member
      · exact ⟨current, found, before, there, member⟩

/-- Closing a channel of any connection, live or dropped, takes it out of the
channel map. -/
theorem Represented.retired {channels : TunnelChannelRegistry} (holds : Represented config broker)
    (object : broker.objects connectionId = some connection)
    (closed : connection.channels.closeChannel channelId = .ok channels) :
    Represented config (broker.retired connectionId connection channels channelId) := by
  obtain ⟨wasOpen, opened, retired, limit⟩ := TunnelChannelRegistry.closeChannel_ok closed
  have known : channels.known = connection.channels.known := by
    unfold TunnelChannelRegistry.known
    rw [opened, retired]
    ext other
    by_cases same : other = channelId
    · subst same
      simp [wasOpen]
    · simp [same]
  -- the channel is open on this connection, hence known on no other
  have only : ∀ {other : ConnectionId} {found : BrokerTunnelConnection},
      broker.objects other = some found → channelId ∈ found.channels.openChannels →
      other = connectionId := by
    intro other found held member
    exact holds.once other connectionId found connection channelId held object (open_known member)
      (open_known wasOpen)
  have old : ∀ {other : ConnectionId} {found : BrokerTunnelConnection},
      (broker.retired connectionId connection channels channelId).objects other = some found →
      ∃ before, broker.objects other = some before ∧ found.agent = before.agent ∧
        found.channels.known = before.channels.known ∧
        found.channels.openChannels = before.channels.openChannels.erase channelId := by
    intro other found held
    rcases objects_setObject.mp held with ⟨rfl, rfl⟩ | ⟨apart, same⟩
    · exact ⟨connection, object, rfl, known, opened⟩
    · refine ⟨found, same, rfl, rfl, (Finset.erase_eq_of_notMem fun member => ?_).symm⟩
      exact apart (only same member)
  have new : ∀ {other : ConnectionId} {before : BrokerTunnelConnection},
      broker.objects other = some before → ∃ found,
        (broker.retired connectionId connection channels channelId).objects other = some found ∧
          found.agent = before.agent ∧ found.channels.known = before.channels.known ∧
          found.channels.openChannels = before.channels.openChannels.erase channelId := by
    intro other before held
    by_cases same : other = connectionId
    · subst same
      cases object.symm.trans held
      exact ⟨_, objects_setObject.mpr (.inl ⟨rfl, rfl⟩), rfl, known, opened⟩
    · refine ⟨before, objects_setObject.mpr (.inr ⟨same, held⟩), rfl, rfl, ?_⟩
      exact (Finset.erase_eq_of_notMem fun member => same (only held member)).symm
  constructor
  · exact holds.registered
  · intro agentId other held
    obtain ⟨before, found, named⟩ := holds.live agentId other held
    obtain ⟨next, there, same, -⟩ := new found
    exact ⟨next, there, by rw [same, named]⟩
  · intro other found held
    rcases objects_setObject.mp held with ⟨rfl, rfl⟩ | ⟨-, same⟩
    · exact (congrArg (·.erase channelId) (holds.attached _ _ object)).trans opened.symm
    · exact holds.attached other found same
  · intro other found held
    rcases objects_setObject.mp held with ⟨rfl, rfl⟩ | ⟨-, same⟩
    · exact limit.trans (holds.limited _ _ object)
    · exact holds.limited other found same
  · intro second agentId
    by_cases same : second = channelId
    · subst same
      constructor
      · intro mapped
        have gone : (none : Option Uuid) = some agentId := by
          rw [← mapped]
          exact (Function.update_self second none broker.channelAgents).symm
        cases gone
      · rintro ⟨other, found, -, held, member⟩
        obtain ⟨before, -, -, -, erased⟩ := old held
        rw [erased] at member
        exact absurd member (Finset.notMem_erase _ _)
    · have unmoved : (broker.retired connectionId connection channels channelId).channelAgents second =
          broker.channelAgents second := Function.update_of_ne same _ _
      rw [unmoved]
      refine (holds.mapped second agentId).trans ⟨?_, ?_⟩
      · rintro ⟨other, before, registered, held, member⟩
        obtain ⟨next, there, -, -, erased⟩ := new held
        exact ⟨other, next, registered, there, erased ▸ Finset.mem_erase.mpr ⟨same, member⟩⟩
      · rintro ⟨other, found, registered, held, member⟩
        obtain ⟨before, there, -, -, erased⟩ := old held
        exact ⟨other, before, registered, there, Finset.mem_of_mem_erase (erased ▸ member)⟩
  · intro other found second held member
    obtain ⟨before, there, named, same, -⟩ := old held
    rw [named]
    exact holds.streamed other before second there (same ▸ member)
  · intro one two found second third held again member repeated
    obtain ⟨before, there, -, same, -⟩ := old held
    obtain ⟨other, place, -, equal, -⟩ := old again
    exact holds.once one two before other third there place (same ▸ member) (equal ▸ repeated)
  · intro sent member second named
    obtain ⟨before, there, member⟩ := holds.delivered sent member second named
    obtain ⟨next, place, -, same, -⟩ := new there
    exact ⟨next, place, same ▸ member⟩

/-- A channel id that no connection has seen. -/
def Unseen (channelId : ChannelId) (broker : Broker) : Prop :=
  ∀ connectionId connection, broker.objects connectionId = some connection →
    channelId ∉ connection.channels.known

theorem Represented.opened {channels : TunnelChannelRegistry} (holds : Represented config broker)
    (unseen : Unseen channelId broker) (held : broker.connections agentId = some connectionId)
    (object : broker.objects connectionId = some connection)
    (added : connection.channels.openChannel channelId = .ok channels) :
    Represented config (broker.opened connectionId connection channels channelId agentId) := by
  obtain ⟨-, opened, retired, limit⟩ := TunnelChannelRegistry.openChannel_ok added
  have owner : connection.agent.agentId = agentId := by
    obtain ⟨same, there, named⟩ := holds.live agentId connectionId held
    cases object.symm.trans there
    exact named
  have known : channels.known = insert channelId connection.channels.known := by
    rw [TunnelChannelRegistry.known, opened, retired, Finset.insert_union, TunnelChannelRegistry.known]
  have old : ∀ {other : ConnectionId} {found : BrokerTunnelConnection},
      (broker.opened connectionId connection channels channelId agentId).objects other = some found →
      ∃ before, broker.objects other = some before ∧ found.agent = before.agent ∧
        (∀ second ∈ found.channels.known, second ∈ before.channels.known ∨
          (second = channelId ∧ other = connectionId)) ∧
        (∀ second ∈ found.channels.openChannels, second ∈ before.channels.openChannels ∨
          (second = channelId ∧ other = connectionId)) := by
    intro other found there
    rcases objects_setObject.mp there with ⟨rfl, rfl⟩ | ⟨-, same⟩
    · refine ⟨connection, object, rfl, fun second member => ?_, fun second member => ?_⟩
      · rcases Finset.mem_insert.mp (known ▸ member) with rfl | before
        · exact .inr ⟨rfl, rfl⟩
        · exact .inl before
      · rcases Finset.mem_insert.mp (opened ▸ member) with rfl | before
        · exact .inr ⟨rfl, rfl⟩
        · exact .inl before
    · exact ⟨found, same, rfl, fun _ => .inl, fun _ => .inl⟩
  have new : ∀ {other : ConnectionId} {before : BrokerTunnelConnection},
      broker.objects other = some before → ∃ found,
        (broker.opened connectionId connection channels channelId agentId).objects other = some found ∧
          found.agent = before.agent ∧ before.channels.known ⊆ found.channels.known ∧
          before.channels.openChannels ⊆ found.channels.openChannels := by
    intro other before there
    by_cases same : other = connectionId
    · subst same
      cases object.symm.trans there
      refine ⟨_, objects_setObject.mpr (.inl ⟨rfl, rfl⟩), rfl, ?_, ?_⟩
      · exact known ▸ Finset.subset_insert _ _
      · exact opened ▸ Finset.subset_insert _ _
    · exact ⟨before, objects_setObject.mpr (.inr ⟨same, there⟩), rfl, subset_rfl, subset_rfl⟩
  have here : (broker.opened connectionId connection channels channelId agentId).objects connectionId =
      some { connection with
        channels := channels, adapters := insert channelId connection.adapters } :=
    objects_setObject.mpr (.inl ⟨rfl, rfl⟩)
  constructor
  · exact holds.registered
  · intro other current registered
    obtain ⟨before, there, named⟩ := holds.live other current registered
    obtain ⟨next, place, same, -⟩ := new there
    exact ⟨next, place, by rw [same, named]⟩
  · intro other found there
    rcases objects_setObject.mp there with ⟨rfl, rfl⟩ | ⟨-, same⟩
    · exact (congrArg (insert channelId) (holds.attached _ _ object)).trans opened.symm
    · exact holds.attached other found same
  · intro other found there
    rcases objects_setObject.mp there with ⟨rfl, rfl⟩ | ⟨-, same⟩
    · exact limit.trans (holds.limited _ _ object)
    · exact holds.limited other found same
  · intro second other
    by_cases same : second = channelId
    · subst same
      have mapped : (broker.opened connectionId connection channels second agentId).channelAgents second =
          some agentId := Function.update_self ..
      rw [mapped, Option.some.injEq]
      constructor
      · rintro rfl
        exact ⟨connectionId, _, held, here, opened ▸ Finset.mem_insert_self _ _⟩
      · rintro ⟨current, found, registered, there, member⟩
        obtain ⟨before, place, -, -, inside⟩ := old there
        rcases inside _ member with earlier | ⟨-, rfl⟩
        · exact absurd (open_known earlier) (unseen current before place)
        · exact holds.injective held registered
    · have unmoved : (broker.opened connectionId connection channels channelId agentId).channelAgents
          second = broker.channelAgents second := Function.update_of_ne same _ _
      rw [unmoved]
      refine (holds.mapped second other).trans ⟨?_, ?_⟩
      · rintro ⟨current, before, registered, there, member⟩
        obtain ⟨next, place, -, -, inside⟩ := new there
        exact ⟨current, next, registered, place, inside member⟩
      · rintro ⟨current, found, registered, there, member⟩
        obtain ⟨before, place, -, -, inside⟩ := old there
        rcases inside _ member with earlier | ⟨equal, -⟩
        · exact ⟨current, before, registered, place, earlier⟩
        · exact absurd equal same
  · intro other found second there member
    change ∃ stream, (Broker.setStream _ connectionId channelId _).streams other second = some stream ∧ _
    rw [streams_setStream]
    obtain ⟨before, place, named, inside, -⟩ := old there
    by_cases same : other = connectionId ∧ second = channelId
    · obtain ⟨rfl, rfl⟩ := same
      cases object.symm.trans place
      exact ⟨_, if_pos ⟨rfl, rfl⟩, by rw [named, owner]⟩
    · rw [if_neg same, named]
      rcases inside _ member with earlier | ⟨equal, rfl⟩
      · exact holds.streamed other before second place earlier
      · exact absurd ⟨rfl, equal⟩ same
  · intro one two found second third there again member repeated
    obtain ⟨before, place, -, inside, -⟩ := old there
    obtain ⟨other, spot, -, within, -⟩ := old again
    rcases inside _ member with earlier | ⟨rfl, rfl⟩ <;> rcases within _ repeated with prior | ⟨named, rfl⟩
    · exact holds.once one two before other third place spot earlier prior
    · exact absurd (named ▸ earlier) (unseen one before place)
    · exact absurd prior (unseen two other spot)
    · rfl
  · intro sent member second named
    obtain ⟨before, there, inside⟩ := holds.delivered sent member second named
    obtain ⟨next, place, -, more, -⟩ := new there
    exact ⟨next, place, more inside⟩

/-- Dropping a connection empties its slot and unmaps its channels. -/
theorem Represented.dropped (holds : Represented config broker)
    (held : broker.connections agentId = some connectionId)
    (object : broker.objects connectionId = some connection) :
    Represented config
      ((broker.dropped agentId connectionId connection).registryDisconnect agentId connectionId) := by
  rw [Broker.registryDisconnect_eq]
  have slot : ∀ {other : Uuid} {current : ConnectionId},
      (broker.dropped agentId connectionId connection).connections other = some current ↔
        other ≠ agentId ∧ broker.connections other = some current := by
    intro other current
    by_cases same : other = agentId
    · subst same
      simp [Broker.dropped]
    · simp [Broker.dropped, same, Function.update_of_ne]
  refine { holds with registered := ?_, live := ?_, mapped := ?_, streamed := ?_ }
  · funext other
    by_cases same : other = agentId
    · subst same
      have active : broker.active other = some connectionId := holds.registered ▸ held
      simp [Broker.dropped, active]
    · simp [Broker.dropped, same, Function.update_of_ne, holds.registered]
  · intro other current there
    exact holds.live other current (slot.mp there).2
  · intro channelId other
    by_cases member : channelId ∈ connection.adapters
    · have gone : (broker.dropped agentId connectionId connection).channelAgents channelId = none :=
        if_pos member
      constructor
      · intro mapped
        cases gone.symm.trans mapped
      · rintro ⟨current, found, there, place, inside⟩
        obtain ⟨apart, before⟩ := slot.mp there
        have isOpen : channelId ∈ connection.channels.openChannels :=
          holds.attached _ _ object ▸ member
        have same := holds.once current connectionId found connection channelId place object
          (open_known inside) (open_known isOpen)
        exact absurd (holds.injective (same ▸ before) held) apart
    · have unmoved : (broker.dropped agentId connectionId connection).channelAgents channelId =
          broker.channelAgents channelId := if_neg member
      refine Iff.trans (iff_of_eq (congrArg (· = some other) unmoved)) ?_
      refine (holds.mapped channelId other).trans ⟨?_, ?_⟩
      · rintro ⟨current, found, there, place, inside⟩
        refine ⟨current, found, slot.mpr ⟨?_, there⟩, place, inside⟩
        rintro rfl
        cases held.symm.trans there
        cases object.symm.trans place
        exact member (holds.attached _ _ object ▸ inside)
      · rintro ⟨current, found, there, place, inside⟩
        exact ⟨current, found, (slot.mp there).2, place, inside⟩
  · intro other found channelId place member
    obtain ⟨stream, there, named⟩ := holds.streamed other found channelId place member
    by_cases same : other = connectionId
    · subst same
      by_cases inside : channelId ∈ connection.adapters
      · exact ⟨stream.feedEof, by simp [Broker.dropped, inside, there], named⟩
      · exact ⟨stream, by simp [Broker.dropped, inside, there], named⟩
    · refine ⟨stream, ?_, named⟩
      exact (congrFun (Function.update_of_ne same _ _) channelId).trans there

/-- A frame for a channel goes to the connection that has seen the channel. -/
theorem Represented.send {world : TunnelWorld} {frame : OutgoingFrame}
    (holds : Represented config world.broker)
    (addressed : ∀ channelId, frame.channelId = some channelId → ∃ connection,
      world.broker.objects connectionId = some connection ∧ channelId ∈ connection.channels.known) :
    Represented config (world.send connectionId frame).broker := by
  refine { holds with delivered := fun sent member channelId named => ?_ }
  rcases List.mem_append.mp member with before | now
  · exact holds.delivered sent before channelId named
  · rw [List.mem_singleton.mp now] at named ⊢
    exact addressed channelId named
end Blocks

end VibeConnect.BrokerInvariant
