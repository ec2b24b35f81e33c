import VibeConnect.BrokerInvariant

/-! The tasks that read the broker's streams. A reader that finds nothing waits for the
stream's event; the event wakes whoever waits and is cleared by each that goes on. The
broker's blocks are those of its streams and calls, in any order. -/
namespace VibeConnect.StreamReaders
open Python.Text Python.Values Python.Coroutine Models TunnelProtocol TunnelState AgentChannels
open TunnelAuthenticator TunnelBroker BrokerInvariant

/-- A task inside `_data_ready.wait()`; `woken` says that its wake-up is scheduled. -/
structure Reader where
  connectionId : ConnectionId
  channelId : ChannelId
  woken : Bool
  deriving DecidableEq

structure Readers where
  broker : Broker
  readers : List Reader

inductive Event where
  | created (record : AgentTunnelRecord) (connectionId : ConnectionId) (seenAt : DateTime)
  | registered (agentId : Uuid) (connectionId : ConnectionId)
  | seen (connectionId : ConnectionId) (seenAt : DateTime)
  | opened (agentId : Uuid) (channelId : ChannelId)
      (nodeSshHostPublicKey username certificateUsername : Str) (now : DateTime)
  | frame (connectionId : ConnectionId) (decoded : DecodedTunnelFrame)
  | dropped (agentId : Uuid) (connectionId : ConnectionId)
  | retired (connectionId : ConnectionId) (channelId : ChannelId)
  | streamClosed (connectionId : ConnectionId) (channelId : ChannelId)
  | read (connectionId : ConnectionId) (channelId : ChannelId) (count : Int)
  | resumed (index : Nat) (count : Int)
  | cancelled (index : Nat)

/-- `Event.set` on the streams that a block has fed: their waiting readers are scheduled. An event
that is already set has woken its readers before. -/
def wake (state : Readers) : Readers :=
  { state with readers := state.readers.map fun reader => { reader with
      woken := reader.woken ||
        (state.broker.streams reader.connectionId reader.channelId).any (·.dataReady) } }

def onBroker (state : Readers) (block : Broker → Except Exc Broker) : Readers :=
  match block state.broker with
  | .ok broker => wake { state with broker := broker }
  | .error _ => state

/-- What a read takes of a buffer. -/
def taken (count : Int) (stream : BrokerTunnelStream) : BrokerTunnelStream :=
  if count < 0 ∨ (stream.buffer.length : Int) ≤ count then { stream with buffer := [] }
  else { stream with buffer := stream.buffer.drop count.toNat }

/-- `BrokerTunnelStream.read`, from its first line or from its wake-up. A set event is cleared
without waiting, and then the loop waits. -/
def readOn (state : Readers) (connectionId : ConnectionId) (channelId : ChannelId) (count : Int)
    (stream : BrokerTunnelStream) : Readers :=
  if stream.buffer = [] ∧ stream.closed = false then
    { broker := state.broker.setStream connectionId channelId { stream with dataReady := false }
      readers := state.readers ++ [⟨connectionId, channelId, false⟩] }
  else { state with broker := state.broker.setStream connectionId channelId (taken count stream) }

def step (config : BrokerConfig) (state : Readers) : Event → Readers
  | .created record connectionId seenAt =>
      if state.broker.objects connectionId = none then
        onBroker state (Broker.newConnection config record connectionId seenAt)
      else state
  | .registered agentId connectionId =>
      if state.broker.objects connectionId = none then state
      else onBroker state (Broker.register agentId connectionId)
  | .seen connectionId seenAt => onBroker state (Broker.markSeen connectionId seenAt)
  | .opened agentId channelId hostKey username certificateUsername now =>
      onBroker state fun broker =>
        (broker.openChannel agentId channelId hostKey username certificateUsername now).map Prod.fst
  | .frame connectionId decoded => onBroker state (Broker.handleAgentFrame connectionId decoded)
  | .dropped agentId connectionId =>
      onBroker state fun broker => .ok (broker.dropConnection agentId connectionId)
  | .retired connectionId channelId => onBroker state (Broker.retireChannel connectionId channelId)
  | .streamClosed connectionId channelId => match state.broker.streams connectionId channelId with
      | some stream => { state with
          broker := state.broker.setStream connectionId channelId { stream with closed := true } }
      | none => state
  | .read connectionId channelId count => match state.broker.streams connectionId channelId with
      | some stream => readOn state connectionId channelId count stream
      | none => state
  | .resumed index count => match state.readers[index]? with
      | some ⟨connectionId, channelId, true⟩ =>
          match state.broker.streams connectionId channelId with
          | some stream => readOn { state with readers := state.readers.eraseIdx index } connectionId
              channelId count { stream with dataReady := false }
          | none => state
      | _ => state
  | .cancelled index => { state with readers := state.readers.eraseIdx index }

def runs (config : BrokerConfig) (events : List Event) : Readers :=
  events.foldl (step config) ⟨.empty, []⟩

/-- The channel is open on a connection that its agent has. -/
def OpenOnLive (broker : Broker) (connectionId : ConnectionId) (channelId : ChannelId) : Prop :=
  ∃ agentId connection, broker.connections agentId = some connectionId ∧
    broker.objects connectionId = some connection ∧ channelId ∈ connection.channels.openChannels

/-- No reader sleeps on a dead stream. -/
def Awake (state : Readers) : Prop :=
  ∀ reader ∈ state.readers, reader.woken = false → ∃ stream,
    state.broker.streams reader.connectionId reader.channelId = some stream ∧
    stream.buffer = [] ∧ stream.closed = false ∧
    OpenOnLive state.broker reader.connectionId reader.channelId

/-- A stream is closed on this side only while nobody sleeps on it, and a channel is retired on this
side only once its stream is closed. -/
def Signalled (state : Readers) : Event → Prop
  | .streamClosed connectionId channelId => ∀ reader ∈ state.readers,
      reader.connectionId = connectionId → reader.channelId = channelId → reader.woken = true
  | .retired connectionId channelId => ∀ stream,
      state.broker.streams connectionId channelId = some stream → stream.closed = true
  | _ => True

/-- Every step of a run is signalled. -/
def AllSignalled (config : BrokerConfig) (events : List Event) : Prop :=
  ∀ earlier event later, events = earlier ++ event :: later → Signalled (runs config earlier) event

/-! The tables under the streams. -/
section Tables
variable {config : BrokerConfig} {broker after : Broker} {connectionId : ConnectionId}
  {channelId : ChannelId} {agentId : Uuid}

/-- A stream that has not ended stands for an open channel of a live connection. -/
structure Attached (broker : Broker) : Prop where
  registered : broker.active = broker.connections
  live : ∀ agentId connectionId, broker.connections agentId = some connectionId →
    ∃ connection, broker.objects connectionId = some connection
  attached : ∀ connectionId connection, broker.objects connectionId = some connection →
    connection.adapters = connection.channels.openChannels
  known : ∀ connectionId channelId stream, broker.streams connectionId channelId = some stream →
    ∃ connection, broker.objects connectionId = some connection ∧
      channelId ∈ connection.channels.known
  unended : ∀ connectionId channelId stream, broker.streams connectionId channelId = some stream →
    stream.closed = false → OpenOnLive broker connectionId channelId

/-- A block leaves every stream as it is or sets its event. -/
def Fed (broker after : Broker) : Prop :=
  ∀ connectionId channelId stream, broker.streams connectionId channelId = some stream →
    after.streams connectionId channelId = some stream ∨
    ∃ fed, after.streams connectionId channelId = some fed ∧ fed.dataReady = true

theorem Attached.empty : Attached .empty := by
  constructor <;> simp [Broker.empty]

theorem Fed.refl (broker : Broker) : Fed broker broker := fun _ _ _ found => .inl found

/-- A stream may change in every way but being reopened. -/
theorem Attached.setStream {stream changed : BrokerTunnelStream} (holds : Attached broker)
    (found : broker.streams connectionId channelId = some stream)
    (ended : changed.closed = false → stream.closed = false) :
    Attached (broker.setStream connectionId channelId changed) := by
  constructor
  · exact holds.registered
  · exact holds.live
  · exact holds.attached
  · intro other second given there
    rw [streams_setStream] at there
    split at there
    · rename_i same
      obtain ⟨rfl, rfl⟩ := same
      exact holds.known _ _ _ found
    · exact holds.known _ _ _ there
  · intro other second given there running
    rw [streams_setStream] at there
    split at there
    · rename_i same
      obtain ⟨rfl, rfl⟩ := same
      cases there
      exact holds.unended _ _ _ found (ended running)
    · exact holds.unended _ _ _ there running

theorem Fed.setStream {changed : BrokerTunnelStream} (set : changed.dataReady = true) :
    Fed broker (broker.setStream connectionId channelId changed) := by
  intro other second stream found
  rw [streams_setStream]
  by_cases same : other = connectionId ∧ second = channelId
  · exact .inr ⟨changed, if_pos same, set⟩
  · exact .inl ((if_neg same).trans found)

theorem Attached.newConnection {record : AgentTunnelRecord} {seenAt : DateTime}
    (holds : Attached broker) (unused : broker.objects connectionId = none)
    (created : Broker.newConnection config record connectionId seenAt broker = .ok after) :
    Attached after ∧ Fed broker after := by
  obtain ⟨fresh, rfl, -, opened, -, -, adapters⟩ := Broker.newConnection_ok created
  -- an object of the old table is not the new one
  have kept : ∀ other connection, broker.objects other = some connection →
      (broker.setObject connectionId fresh).objects other = some connection := by
    intro other connection found
    have differs : other ≠ connectionId := by
      rintro rfl
      cases unused.symm.trans found
    exact objects_setObject.mpr (.inr ⟨differs, found⟩)
  constructor
  · constructor
    · exact holds.registered
    · intro agentId other held
      obtain ⟨connection, found⟩ := holds.live agentId other held
      exact ⟨connection, kept other connection found⟩
    · intro other connection found
      rcases objects_setObject.mp found with ⟨-, rfl⟩ | ⟨-, found⟩
      · rw [adapters, opened]
      · exact holds.attached other connection found
    · intro other second stream there
      obtain ⟨connection, found, member⟩ := holds.known other second stream there
      exact ⟨connection, kept other connection found, member⟩
    · intro other second stream there running
      obtain ⟨agentId, connection, held, found, member⟩ :=
        holds.unended other second stream there running
      exact ⟨agentId, connection, held, kept other connection found, member⟩
  · exact fun _ _ _ found => .inl found

theorem Attached.register (holds : Attached broker)
    (object : broker.objects connectionId ≠ none)
    (done : Broker.register agentId connectionId broker = .ok after) :
    Attached after ∧ Fed broker after := by
  obtain ⟨free, rfl⟩ := Broker.register_ok done
  constructor
  · constructor
    · show Function.update _ _ _ = Function.update _ _ _
      rw [holds.registered]
    · intro other held mapped
      by_cases same : other = agentId
      · subst same
        cases (Function.update_self other _ broker.connections).symm.trans mapped
        exact Option.ne_none_iff_exists'.mp object
      · exact holds.live other held ((Function.update_of_ne same _ broker.connections).symm.trans mapped)
    · exact holds.attached
    · exact holds.known
    · intro other second stream there running
      obtain ⟨owner, connection, held, found, member⟩ :=
        holds.unended other second stream there running
      refine ⟨owner, connection, ?_, found, member⟩
      by_cases same : owner = agentId
      · -- the slot was free or its own
        subst same
        rw [← holds.registered] at held
        cases free other held
        exact Function.update_self ..
      · exact (Function.update_of_ne same _ broker.connections).trans held
  · exact fun _ _ _ found => .inl found

theorem Attached.markSeen {seenAt : DateTime} (holds : Attached broker)
    (marked : Broker.markSeen connectionId seenAt broker = .ok after) :
    Attached after ∧ Fed broker after := by
  obtain ⟨connection, object, rfl⟩ := Broker.markSeen_ok marked
  -- the object keeps its channels
  have kept : ∀ other found, broker.objects other = some found → ∃ next,
      (broker.setObject connectionId
        { connection with heartbeat := connection.heartbeat.markSeen seenAt }).objects other =
          some next ∧ next.channels = found.channels := by
    intro other found held
    by_cases same : other = connectionId
    · subst same
      cases object.symm.trans held
      exact ⟨_, objects_setObject.mpr (.inl ⟨rfl, rfl⟩), rfl⟩
    · exact ⟨found, objects_setObject.mpr (.inr ⟨same, held⟩), rfl⟩
  constructor
  · constructor
    · exact holds.registered
    · intro agentId other held
      obtain ⟨found, there⟩ := holds.live agentId other held
      obtain ⟨next, placed, -⟩ := kept other found there
      exact ⟨next, placed⟩
    · intro other found held
      rcases objects_setObject.mp held with ⟨-, rfl⟩ | ⟨-, held⟩
      · exact holds.attached connectionId connection object
      · exact holds.attached other found held
    · intro other second stream there
      obtain ⟨found, held, member⟩ := holds.known other second stream there
      obtain ⟨next, placed, channels⟩ := kept other found held
      exact ⟨next, placed, channels ▸ member⟩
    · intro other second stream there running
      obtain ⟨agentId, found, owned, held, member⟩ := holds.unended other second stream there running
      obtain ⟨next, placed, channels⟩ := kept other found held
      exact ⟨agentId, next, owned, placed, channels ▸ member⟩
  · exact fun _ _ _ found => .inl found

theorem Attached.openChannel {hostKey username certificateUsername : Str} {now : DateTime}
    (holds : Attached broker)
    (done : Broker.openChannel agentId channelId hostKey username certificateUsername now broker =
      .ok (after, connectionId)) : Attached after ∧ Fed broker after := by
  obtain ⟨connection, channels, owned, object, -, added, rfl⟩ := Broker.openChannel_ok done
  obtain ⟨unknown, opened, retired, -⟩ := TunnelChannelRegistry.openChannel_ok added
  have known : channels.known = insert channelId connection.channels.known := by
    rw [TunnelChannelRegistry.known, opened, retired, Finset.insert_union, TunnelChannelRegistry.known]
  -- an object keeps its channels, and one of them gets one more
  have kept : ∀ other found, broker.objects other = some found → ∃ next,
      (broker.opened connectionId connection channels channelId agentId).objects other = some next ∧
        found.channels.openChannels ⊆ next.channels.openChannels ∧
        found.channels.known ⊆ next.channels.known := by
    intro other found held
    by_cases same : other = connectionId
    · subst same
      cases object.symm.trans held
      refine ⟨_, objects_setObject.mpr (.inl ⟨rfl, rfl⟩), ?_, ?_⟩
      · rw [opened]
        exact Finset.subset_insert _ _
      · rw [known]
        exact Finset.subset_insert _ _
    · exact ⟨found, objects_setObject.mpr (.inr ⟨same, held⟩), subset_rfl, subset_rfl⟩
  have placed : (broker.opened connectionId connection channels channelId agentId).objects
      connectionId = some { connection with
        channels := channels, adapters := insert channelId connection.adapters } :=
    objects_setObject.mpr (.inl ⟨rfl, rfl⟩)
  have streams : ∀ other second,
      (broker.opened connectionId connection channels channelId agentId).streams other second =
        if other = connectionId ∧ second = channelId then some ⟨agentId, [], false, false⟩
        else broker.streams other second := fun other second => streams_setStream
  constructor
  · constructor
    · exact holds.registered
    · intro agentId other held
      obtain ⟨found, there⟩ := holds.live agentId other held
      obtain ⟨next, there, -⟩ := kept other found there
      exact ⟨next, there⟩
    · intro other found held
      rcases objects_setObject.mp held with ⟨-, rfl⟩ | ⟨-, held⟩
      · rw [opened, holds.attached connectionId connection object]
      · exact holds.attached other found held
    · intro other second stream there
      rw [streams] at there
      split at there
      · rename_i same
        obtain ⟨rfl, rfl⟩ := same
        refine ⟨_, placed, ?_⟩
        rw [known]
        exact Finset.mem_insert_self _ _
      · obtain ⟨found, held, member⟩ := holds.known other second stream there
        obtain ⟨next, held, -, more⟩ := kept other found held
        exact ⟨next, held, more member⟩
    · intro other second stream there running
      rw [streams] at there
      split at there
      · rename_i same
        obtain ⟨rfl, rfl⟩ := same
        refine ⟨agentId, _, owned, placed, ?_⟩
        rw [opened]
        exact Finset.mem_insert_self _ _
      · obtain ⟨owner, found, registered, held, member⟩ :=
          holds.unended other second stream there running
        obtain ⟨next, held, more, -⟩ := kept other found held
        exact ⟨owner, next, registered, held, more member⟩
  · -- no stream stood where the new one is put
    intro other second stream found
    have differs : ¬(other = connectionId ∧ second = channelId) := by
      rintro ⟨rfl, rfl⟩
      obtain ⟨again, held, member⟩ := holds.known _ _ _ found
      cases object.symm.trans held
      exact unknown member
    exact .inl ((streams other second).trans ((if_neg differs).trans found))

/-- A channel is retired without harm once its stream has ended. -/
theorem Attached.retired {connection : BrokerTunnelConnection} {channels : TunnelChannelRegistry}
    (holds : Attached broker) (object : broker.objects connectionId = some connection)
    (closed : connection.channels.closeChannel channelId = .ok channels)
    (ended : ∀ stream, broker.streams connectionId channelId = some stream → stream.closed = true) :
    Attached (broker.retired connectionId connection channels channelId) := by
  obtain ⟨wasOpen, opened, retired, -⟩ := TunnelChannelRegistry.closeChannel_ok closed
  have kept : ∀ other found, broker.objects other = some found → ∃ next,
      (broker.retired connectionId connection channels channelId).objects other = some next ∧
        found.channels.known ⊆ next.channels.known ∧
        ∀ second ∈ found.channels.openChannels, ¬(other = connectionId ∧ second = channelId) →
          second ∈ next.channels.openChannels := by
    intro other found held
    by_cases same : other = connectionId
    · subst same
      cases object.symm.trans held
      refine ⟨_, objects_setObject.mpr (.inl ⟨rfl, rfl⟩), ?_, ?_⟩
      · intro second member
        simp only [TunnelChannelRegistry.known, opened, retired, Finset.mem_union, Finset.mem_erase,
          Finset.mem_insert] at member ⊢
        tauto
      · intro second member differs
        rw [opened]
        exact Finset.mem_erase.mpr ⟨fun same => differs ⟨rfl, same⟩, member⟩
    · exact ⟨found, objects_setObject.mpr (.inr ⟨same, held⟩), subset_rfl, fun _ member _ => member⟩
  constructor
  · exact holds.registered
  · intro agentId other held
    obtain ⟨found, there⟩ := holds.live agentId other held
    obtain ⟨next, there, -⟩ := kept other found there
    exact ⟨next, there⟩
  · intro other found held
    rcases objects_setObject.mp held with ⟨-, rfl⟩ | ⟨-, held⟩
    · rw [opened, holds.attached connectionId connection object]
    · exact holds.attached other found held
  · intro other second stream there
    obtain ⟨found, held, member⟩ := holds.known other second stream there
    obtain ⟨next, held, more, -⟩ := kept other found held
    exact ⟨next, held, more member⟩
  · intro other second stream there running
    have differs : ¬(other = connectionId ∧ second = channelId) := by
      rintro ⟨rfl, rfl⟩
      rw [ended stream there] at running
      cases running
    obtain ⟨owner, found, registered, held, member⟩ :=
      holds.unended other second stream there running
    obtain ⟨next, held, -, still⟩ := kept other found held
    exact ⟨owner, next, registered, held, still second member differs⟩

theorem Attached.handleAgentFrame {decoded : DecodedTunnelFrame} (holds : Attached broker)
    (handled : Broker.handleAgentFrame connectionId decoded broker = .ok after) :
    Attached after ∧ Fed broker after := by
  rcases Broker.handleAgentFrame_ok handled with rfl |
    ⟨channelId, connection, stream, -, -, -, -, found, rfl⟩ |
    ⟨channelId, connection, channels, stream, -, object, closed, found, rfl⟩
  · exact ⟨holds, .refl _⟩
  · exact ⟨holds.setStream found fun running => running, .setStream rfl⟩
  · have fed : Attached (broker.setStream connectionId channelId stream.feedEof) :=
      holds.setStream found fun running => by cases running
    constructor
    · apply fed.retired object closed
      intro last there
      rw [streams_setStream, if_pos ⟨rfl, rfl⟩] at there
      cases there
      rfl
    · exact Fed.setStream rfl

/-- A dropped connection ends all its streams and no other. -/
theorem Attached.dropConnection (holds : Attached broker) (agentId : Uuid)
    (connectionId : ConnectionId) :
    Attached (broker.dropConnection agentId connectionId) ∧
      Fed broker (broker.dropConnection agentId connectionId) := by
  by_cases owns : broker.connections agentId = some connectionId
  · obtain ⟨connection, object⟩ := holds.live agentId connectionId owns
    rw [Broker.dropConnection_own owns object, Broker.registryDisconnect_eq]
    have streams : ∀ other second, (broker.dropped agentId connectionId connection).streams other second =
        if other = connectionId ∧ second ∈ connection.adapters then
          (broker.streams other second).map BrokerTunnelStream.feedEof
        else broker.streams other second := by
      intro other second
      by_cases same : other = connectionId
      · subst same
        by_cases attached : second ∈ connection.adapters <;> simp [Broker.dropped, attached]
      · simp [Broker.dropped, same, Function.update_of_ne]
    -- an open channel of the connection was fed its end
    have apart : ∀ other second stream, (broker.dropped agentId connectionId connection).streams other
        second = some stream → stream.closed = false → broker.streams other second = some stream ∧
          ¬(other = connectionId ∧ second ∈ connection.adapters) := by
      intro other second stream there running
      rw [streams] at there
      split at there
      · obtain ⟨before, -, rfl⟩ := Option.map_eq_some_iff.mp there
        cases running
      · rename_i outside
        exact ⟨there, outside⟩
    constructor
    · constructor
      · funext other
        show (if other = agentId ∧ broker.active other = some connectionId then none
          else broker.active other) = Function.update broker.connections agentId none other
        rw [holds.registered]
        by_cases same : other = agentId
        · subst same
          rw [if_pos ⟨rfl, owns⟩, Function.update_self]
        · rw [if_neg fun both => same both.1, Function.update_of_ne same]
      · intro other held mapped
        have mapped : Function.update broker.connections agentId none other = some held := mapped
        by_cases same : other = agentId
        · rw [same, Function.update_self] at mapped
          cases mapped
        · rw [Function.update_of_ne same] at mapped
          exact holds.live other held mapped
      · exact holds.attached
      · intro other second stream there
        have before : (broker.streams other second).isSome = true := by
          have there : (broker.dropped agentId connectionId connection).streams other second =
            some stream := there
          rw [streams] at there
          split at there
          · obtain ⟨before, found, -⟩ := Option.map_eq_some_iff.mp there
            rw [found]
            rfl
          · rw [there]
            rfl
        obtain ⟨earlier, found⟩ := Option.isSome_iff_exists.mp before
        exact holds.known other second earlier found
      · intro other second stream there running
        obtain ⟨found, outside⟩ := apart other second stream there running
        obtain ⟨owner, given, held, placed, member⟩ := holds.unended other second stream found running
        have differs : owner ≠ agentId := by
          rintro rfl
          cases owns.symm.trans held
          cases object.symm.trans placed
          exact outside ⟨rfl, (holds.attached connectionId connection object).symm ▸ member⟩
        refine ⟨owner, given, ?_, placed, member⟩
        show Function.update broker.connections agentId none owner = some other
        rw [Function.update_of_ne differs, held]
    · intro other second stream found
      have now := streams other second
      rw [found] at now
      by_cases fed : other = connectionId ∧ second ∈ connection.adapters
      · rw [if_pos fed] at now
        exact .inr ⟨stream.feedEof, now, rfl⟩
      · rw [if_neg fed] at now
        exact .inl now
  · rw [Broker.dropConnection_apart owns, Broker.registryDisconnect_eq]
    -- the registry holds what the map holds
    have unmoved : ∀ other, (if other = agentId ∧ broker.active other = some connectionId then none
        else broker.active other) = broker.connections other := by
      intro other
      split
      · rename_i both
        rw [holds.registered, both.1] at both
        exact absurd both.2 owns
      · rw [holds.registered]
    constructor
    · exact ⟨funext unmoved, holds.live, holds.attached, holds.known, holds.unended⟩
    · exact fun _ _ _ found => .inl found
end Tables

/-! The readers over the tables. -/
section Readers
variable {config : BrokerConfig} {state : Readers} {connectionId : ConnectionId}
  {channelId : ChannelId} {stream : BrokerTunnelStream} {count : Int}

/-- Nothing waits to be read by a sleeping reader. -/
def Waiting (broker : Broker) (reader : Reader) : Prop :=
  ∃ stream, broker.streams reader.connectionId reader.channelId = some stream ∧
    (reader.woken = false → stream.buffer = [] ∧ stream.closed = false ∧ stream.dataReady = false)

structure Settled (state : Readers) : Prop where
  tables : Attached state.broker
  waiting : ∀ reader ∈ state.readers, Waiting state.broker reader

theorem Settled.awake (holds : Settled state) : Awake state := by
  intro reader member asleep
  obtain ⟨stream, found, rest⟩ := holds.waiting reader member
  obtain ⟨empty, running, -⟩ := rest asleep
  exact ⟨stream, found, empty, running, holds.tables.unended _ _ _ found running⟩

/-- Who sleeps after the event was set sleeps on a stream that was not fed. -/
theorem Settled.wake {broker : Broker} (holds : Settled state) (tables : Attached broker)
    (fed : Fed state.broker broker) : Settled (wake { state with broker := broker }) := by
  constructor
  · exact tables
  · intro reader member
    obtain ⟨before, sleeping, rfl⟩ := List.mem_map.mp member
    obtain ⟨stream, found, rest⟩ := holds.waiting before sleeping
    rcases fed _ _ _ found with same | ⟨next, there, set⟩
    · refine ⟨stream, same, fun asleep => rest ?_⟩
      simp only [Bool.or_eq_false_iff] at asleep
      exact asleep.1
    · refine ⟨next, there, fun asleep => ?_⟩
      simp only [there, Option.any_some, set, Bool.or_true] at asleep
      cases asleep

theorem Settled.onBroker {block : Broker → Except Exc Broker} (holds : Settled state)
    (keeps : ∀ after, block state.broker = .ok after → Attached after ∧ Fed state.broker after) :
    Settled (onBroker state block) := by
  unfold StreamReaders.onBroker
  split
  · rename_i after done
    exact holds.wake (keeps after done).1 (keeps after done).2
  · exact holds

/-- Taking from a stream leaves the sleeping readers where they are: only an empty stream has any. -/
theorem Settled.setStream {changed : BrokerTunnelStream} (holds : Settled state)
    (found : state.broker.streams connectionId channelId = some stream)
    (ended : changed.closed = stream.closed)
    (less : stream.buffer = [] → changed.buffer = [])
    (quieter : stream.dataReady = false → changed.dataReady = false) :
    Settled { state with broker := state.broker.setStream connectionId channelId changed } := by
  constructor
  · exact holds.tables.setStream found fun running => ended ▸ running
  · intro reader member
    obtain ⟨before, there, rest⟩ := holds.waiting reader member
    by_cases same : reader.connectionId = connectionId ∧ reader.channelId = channelId
    · rw [same.1, same.2, found] at there
      cases there
      refine ⟨changed, streams_setStream.trans (if_pos same), fun asleep => ?_⟩
      obtain ⟨empty, running, unset⟩ := rest asleep
      exact ⟨less empty, ended.trans running, quieter unset⟩
    · exact ⟨before, streams_setStream.trans ((if_neg same).trans there), rest⟩

theorem taken_closed : (taken count stream).closed = stream.closed := by
  unfold taken
  split <;> rfl

theorem taken_dataReady : (taken count stream).dataReady = stream.dataReady := by
  unfold taken
  split <;> rfl

theorem taken_empty (empty : stream.buffer = []) : (taken count stream).buffer = [] := by
  unfold taken
  split <;> simp [empty]

theorem Settled.readOn {given : BrokerTunnelStream} (holds : Settled state)
    (found : state.broker.streams connectionId channelId = some stream)
    (ended : given.closed = stream.closed) (same : given.buffer = stream.buffer)
    (quieter : stream.dataReady = false → given.dataReady = false) :
    Settled (readOn state connectionId channelId count given) := by
  unfold StreamReaders.readOn
  split
  · rename_i nothing
    obtain ⟨empty, running⟩ := nothing
    have kept : Settled { state with
        broker := state.broker.setStream connectionId channelId { given with dataReady := false } } :=
      holds.setStream found ended (fun _ => empty) fun _ => rfl
    constructor
    · exact kept.tables
    · intro reader member
      rcases List.mem_append.mp member with member | member
      · exact kept.waiting reader member
      · -- the reader that goes to sleep has just looked
        cases List.mem_singleton.mp member
        exact ⟨{ given with dataReady := false }, streams_setStream.trans (if_pos ⟨rfl, rfl⟩),
          fun _ => ⟨empty, running, rfl⟩⟩
  · apply holds.setStream found
    · rw [taken_closed, ended]
    · intro empty
      exact taken_empty (same.trans empty)
    · intro unset
      rw [taken_dataReady]
      exact quieter unset

theorem Settled.erase (holds : Settled state) (index : Nat) :
    Settled { state with readers := state.readers.eraseIdx index } :=
  ⟨holds.tables, fun reader member => holds.waiting reader (List.mem_of_mem_eraseIdx member)⟩

/-- One signalled step. -/
theorem Settled.step (holds : Settled state) (event : Event) (signalled : Signalled state event) :
    Settled (step config state event) := by
  cases event with
  | created record connectionId seenAt =>
      simp only [StreamReaders.step]
      split
      · rename_i unused
        exact holds.onBroker fun after done => holds.tables.newConnection unused done
      · exact holds
  | registered agentId connectionId =>
      simp only [StreamReaders.step]
      split
      · exact holds
      · rename_i object
        exact holds.onBroker fun after done => holds.tables.register object done
  | seen connectionId seenAt => exact holds.onBroker fun after done => holds.tables.markSeen done
  | opened agentId channelId hostKey username certificateUsername now =>
      simp only [StreamReaders.step]
      apply holds.onBroker
      intro after done
      cases ran : state.broker.openChannel agentId channelId hostKey username certificateUsername now with
      | error raised =>
          rw [ran] at done
          cases done
      | ok result =>
          rw [ran] at done
          cases done
          exact holds.tables.openChannel ran
  | frame connectionId decoded =>
      exact holds.onBroker fun after done => holds.tables.handleAgentFrame done
  | dropped agentId connectionId =>
      simp only [StreamReaders.step]
      apply holds.onBroker
      intro after done
      cases done
      exact holds.tables.dropConnection agentId connectionId
  | retired connectionId channelId =>
      apply holds.onBroker
      intro after done
      obtain ⟨connection, channels, object, closed, rfl⟩ := Broker.retireChannel_ok done
      exact ⟨holds.tables.retired object closed signalled, fun _ _ _ found => .inl found⟩
  | streamClosed connectionId channelId =>
      simp only [StreamReaders.step]
      split
      · rename_i stream found
        constructor
        · exact holds.tables.setStream found fun running => by cases running
        · intro reader member
          obtain ⟨before, there, rest⟩ := holds.waiting reader member
          by_cases same : reader.connectionId = connectionId ∧ reader.channelId = channelId
          · refine ⟨_, streams_setStream.trans (if_pos same), fun asleep => ?_⟩
            rw [signalled reader member same.1 same.2] at asleep
            cases asleep
          · exact ⟨before, streams_setStream.trans ((if_neg same).trans there), rest⟩
      · exact holds
  | read connectionId channelId count =>
      simp only [StreamReaders.step]
      split
      · rename_i stream found
        exact holds.readOn found rfl rfl id
      · exact holds
  | resumed index count =>
      simp only [StreamReaders.step]
      split
      · rename_i connectionId channelId given
        split
        · rename_i stream found
          exact (holds.erase index).readOn found rfl rfl fun _ => rfl
        · exact holds
      · exact holds
  | cancelled index => exact holds.erase index

theorem runs_append (config : BrokerConfig) (earlier : List Event) (event : Event) :
    runs config (earlier ++ [event]) = step config (runs config earlier) event := by
  simp [runs]

theorem allSignalled_append (config : BrokerConfig) (events : List Event) (last : Event) :
    AllSignalled config (events ++ [last]) ↔
      AllSignalled config events ∧ Signalled (runs config events) last := by
  constructor
  · intro signalled
    constructor
    · intro earlier event later same
      exact signalled earlier event (later ++ [last]) (by simp [same])
    · exact signalled events last [] rfl
  · rintro ⟨before, atLast⟩ earlier event later same
    -- the event is the last one, or one of those before it
    rcases List.eq_nil_or_concat later with rfl | ⟨shorter, final, rfl⟩
    · obtain ⟨rfl, ended⟩ := List.append_inj' same rfl
      cases ended
      exact atLast
    · apply before earlier event shorter
      have split : events ++ [last] = (earlier ++ event :: shorter) ++ [final] := by simpa using same
      exact (List.append_inj' split rfl).1

theorem Settled.runs (config : BrokerConfig) (events : List Event)
    (signalled : AllSignalled config events) : Settled (runs config events) := by
  induction events using List.reverseRecOn with
  | nil => exact ⟨.empty, fun reader member => by cases member⟩
  | append_singleton earlier event ih =>
      obtain ⟨before, now⟩ := (allSignalled_append config earlier event).mp signalled
      rw [runs_append]
      exact (ih before).step event now

/-- No reader sleeps on a dead stream where this side closes streams that nobody sleeps on, and
retires channels after their streams. -/
theorem no_reader_sleeps (config : BrokerConfig) (events : List Event)
    (signalled : AllSignalled config events) : Awake (StreamReaders.runs config events) :=
  (Settled.runs config events signalled).awake
end Readers

/-! One reader of one channel. -/
theorem readBound_positive : (0 : Int) < 65536 := by decide

def configRead : BrokerConfig := ⟨4, 30, 65536, readBound_positive⟩

def agentRead : Uuid := ⟨7⟩

def seenAtRead : DateTime := ⟨0, some 0⟩

def recordRead : AgentTunnelRecord := ⟨agentRead, [110], [], [], [], seenAtRead, none⟩

/-- The reader has gone to sleep on its stream. -/
def readingRun : List Event :=
  [.created recordRead [99] seenAtRead, .registered agentRead [99],
    .opened agentRead [104] [107] [117] [117] seenAtRead, .read [99] [104] (-1)]

example : (runs configRead readingRun).readers = [⟨[99], [104], false⟩] := by decide +kernel

/-- The agent sends a byte, and the reader takes it. -/
def readRun : List Event :=
  readingRun ++ [.frame [99] ⟨⟨.SESSION_DATA, [114], some [104], 1⟩, [1]⟩, .resumed 0 (-1)]

theorem readRun_signalled : AllSignalled configRead readRun := by
  rintro earlier event later same
  have member : event ∈ readRun := by simp [same]
  simp only [readRun, readingRun, List.mem_append, List.mem_cons, List.not_mem_nil, or_false] at member
  rcases member with (rfl | rfl | rfl | rfl) | rfl | rfl <;> trivial

/-- A stream that nobody sleeps on is closed. -/
theorem no_reader_sleeps_read :
    AllSignalled configRead (readRun ++ [.streamClosed [99] [104]]) ∧
      Awake (runs configRead (readRun ++ [.streamClosed [99] [104]])) := by
  have nobody : (runs configRead readRun).readers = [] := by decide +kernel
  have signalled : AllSignalled configRead (readRun ++ [.streamClosed [99] [104]]) := by
    apply (allSignalled_append ..).mpr
    constructor
    · exact readRun_signalled
    · intro reader member
      rw [nobody] at member
      cases member
  exact ⟨signalled, no_reader_sleeps configRead _ signalled⟩

/-- Closing the stream from this side leaves its reader asleep. -/
theorem closed_reader_sleeps :
    ¬∀ (config : BrokerConfig) (events : List Event), Awake (runs config events) := by
  intro always
  have readers : (runs configRead (readingRun ++ [.streamClosed [99] [104]])).readers =
      [⟨[99], [104], false⟩] := by decide +kernel
  have closed : ((runs configRead (readingRun ++ [.streamClosed [99] [104]])).broker.streams [99]
      [104]).any (·.closed) = true := by decide +kernel
  obtain ⟨stream, found, -, running, -⟩ := always configRead _ ⟨[99], [104], false⟩
    (by rw [readers]; exact List.mem_singleton.mpr rfl) rfl
  rw [found] at closed
  exact absurd (running.symm.trans closed) (by decide)

end VibeConnect.StreamReaders
