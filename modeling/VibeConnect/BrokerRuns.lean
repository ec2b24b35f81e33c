import VibeConnect.BrokerCalls
import VibeConnect.BrokerInvariant
import VibeConnect.TunnelAdmission

/-! The broker in every reachable state. Any number of streams and broker calls
run as tasks of one pool. Each relies on the others leaving its own connection
alone, and owes the same to theirs. -/
namespace VibeConnect.BrokerRuns
open Python.Text Python.JsonCodec Python.Values Python.Coroutine Python.Tasks Models TunnelProtocol
open TunnelState TunnelAuthenticator TunnelBroker BrokerCalls TunnelAdmission BrokerInvariant

/-- What a step may do to a connection that is not the task's own: it stays in
its slot, and once out of it can only lose channels and never gains one. -/
structure Apart (connectionId : ConnectionId) (before after : TunnelWorld) : Prop extends
    OthersRan connectionId before after where
  held : ∀ agentId, before.broker.connections agentId = some connectionId →
    after.broker.connections agentId = some connectionId
  kept : ∀ connection, before.broker.objects connectionId = some connection → ∃ next,
    after.broker.objects connectionId = some next ∧ next.agent = connection.agent
  shrunk : (∀ agentId, before.broker.connections agentId ≠ some connectionId) →
    ∀ next, after.broker.objects connectionId = some next → ∃ connection,
      before.broker.objects connectionId = some connection ∧ next.adapters ⊆ connection.adapters
  fed : (∀ agentId, before.broker.connections agentId ≠ some connectionId) →
    ∀ channelId next, after.broker.streams connectionId channelId = some next → ∃ stream,
      before.broker.streams connectionId channelId = some stream ∧
        (stream.closed = true → next.closed = true)

section Frames
variable {connectionId other : ConnectionId} {before after : TunnelWorld}

/-- A step that leaves a connection's slot, object, streams and writer alone. -/
theorem apart_of_same
    (connections : ∀ agentId, after.broker.connections agentId = some other ↔
      before.broker.connections agentId = some other)
    (active : ∀ agentId, after.broker.active agentId = some other →
      before.broker.active agentId = some other)
    (objects : after.broker.objects other = before.broker.objects other)
    (streams : after.broker.streams other = before.broker.streams other)
    (wire : sentOn other after = sentOn other before) : Apart other before after where
  connections agentId := (connections agentId).mp
  active := active
  silent _ := wire
  held agentId := (connections agentId).mpr
  kept connection found := ⟨connection, objects.trans found, rfl⟩
  shrunk _ next found := ⟨next, objects.symm.trans found, subset_rfl⟩
  fed _ channelId next found := ⟨next, (congrFun streams channelId).symm.trans found, id⟩

theorem apart_of_broker (same : after.broker = before.broker) : Apart other before after := by
  apply apart_of_same
  · intro agentId
    rw [same]
  · intro agentId
    rw [same]
    exact id
  · rw [same]
  · rw [same]
  · rw [sentOn, same, sentOn]

theorem Apart.trans {last : TunnelWorld} (first : Apart other before after)
    (second : Apart other after last) : Apart other before last := by
  have unheld : (∀ agentId, before.broker.connections agentId ≠ some other) →
      ∀ agentId, after.broker.connections agentId ≠ some other :=
    fun free agentId taken => free agentId (first.connections agentId taken)
  constructor
  · constructor
    · exact fun agentId taken => first.connections agentId (second.connections agentId taken)
    · exact fun agentId taken => first.active agentId (second.active agentId taken)
    · exact fun free => (second.silent (unheld free)).trans (first.silent free)
  · exact fun agentId taken => second.held agentId (first.held agentId taken)
  · intro connection found
    obtain ⟨middle, there, named⟩ := first.kept connection found
    obtain ⟨next, place, called⟩ := second.kept middle there
    exact ⟨next, place, called.trans named⟩
  · intro free next found
    obtain ⟨middle, there, fewer⟩ := second.shrunk (unheld free) next found
    obtain ⟨connection, place, less⟩ := first.shrunk free middle there
    exact ⟨connection, place, fewer.trans less⟩
  · intro free channelId next found
    obtain ⟨middle, there, ended⟩ := second.fed (unheld free) channelId next found
    obtain ⟨stream, place, closed⟩ := first.fed free channelId middle there
    exact ⟨stream, place, fun was => ended (closed was)⟩

theorem sentOn_other {frame : OutgoingFrame} (apart : other ≠ connectionId) :
    sentOn other (before.send connectionId frame) = sentOn other before := by
  simp [sentOn, TunnelWorld.send, apart.symm]

/-- A frame on a writer is no business of a connection that has another one, or
that holds a slot. -/
theorem apart_send {frame : OutgoingFrame}
    (mine : other ≠ connectionId ∨ ∃ agentId, before.broker.connections agentId = some other) :
    Apart other before (before.send connectionId frame) where
  connections _ := id
  active _ := id
  silent free := by
    rcases mine with apart | ⟨agentId, taken⟩
    · exact sentOn_other apart
    · exact absurd taken (free agentId)
  held _ := id
  kept connection found := ⟨connection, found, rfl⟩
  shrunk _ next found := ⟨next, found, subset_rfl⟩
  fed _ _ next found := ⟨next, found, id⟩

theorem apart_setObject {connection : BrokerTunnelConnection} (apart : other ≠ connectionId) :
    Apart other before (before.onBroker (before.broker.setObject connectionId connection)) :=
  apart_of_same (fun _ => Iff.rfl) (fun _ => id) (Function.update_of_ne apart _ _) rfl rfl

theorem apart_setStream {channelId : ChannelId} {stream : BrokerTunnelStream}
    (apart : other ≠ connectionId) :
    Apart other before (before.onBroker (before.broker.setStream connectionId channelId stream)) :=
  apart_of_same (fun _ => Iff.rfl) (fun _ => id) rfl (Function.update_of_ne apart _ _) rfl

/-- Retiring a channel only takes an adapter away, wherever it is. -/
theorem apart_retired {connection : BrokerTunnelConnection} {channels : TunnelChannelRegistry}
    {channelId : ChannelId} (object : before.broker.objects connectionId = some connection) :
    Apart other before
      (before.onBroker (before.broker.retired connectionId connection channels channelId)) where
  connections _ := id
  active _ := id
  silent _ := rfl
  held _ := id
  kept found there := by
    by_cases same : other = connectionId
    · subst same
      cases object.symm.trans there
      exact ⟨_, objects_setObject.mpr (.inl ⟨rfl, rfl⟩), rfl⟩
    · exact ⟨found, objects_setObject.mpr (.inr ⟨same, there⟩), rfl⟩
  shrunk _ next there := by
    rcases objects_setObject.mp there with ⟨rfl, rfl⟩ | ⟨-, same⟩
    · exact ⟨connection, object, Finset.erase_subset _ _⟩
    · exact ⟨next, same, subset_rfl⟩
  fed _ _ next found := ⟨next, found, id⟩

/-- A channel is opened on a connection that holds a slot. -/
theorem apart_opened {connection : BrokerTunnelConnection} {channels : TunnelChannelRegistry}
    {channelId : ChannelId} {agentId : Uuid}
    (held : before.broker.connections agentId = some connectionId)
    (object : before.broker.objects connectionId = some connection) :
    Apart other before
      (before.onBroker (before.broker.opened connectionId connection channels channelId agentId)) := by
  by_cases same : other = connectionId
  · subst same
    constructor
    · exact ⟨fun _ => id, fun _ => id, fun free => absurd held (free agentId)⟩
    · exact fun _ => id
    · intro found there
      cases object.symm.trans there
      exact ⟨_, objects_setObject.mpr (.inl ⟨rfl, rfl⟩), rfl⟩
    · exact fun free => absurd held (free agentId)
    · exact fun free => absurd held (free agentId)
  · exact apart_of_same (fun _ => Iff.rfl) (fun _ => id) (Function.update_of_ne same _ _)
      (Function.update_of_ne same _ _) rfl

theorem apart_registryDisconnect {agentId : Uuid} :
    Apart other before (before.onBroker (before.broker.registryDisconnect agentId connectionId)) := by
  rw [Broker.registryDisconnect_eq]
  refine apart_of_same (fun _ => Iff.rfl) (fun agentId taken => ?_) rfl rfl rfl
  change (if _ then none else _) = _ at taken
  split at taken
  · cases taken
  · exact taken

theorem apart_dropConnection {config : BrokerConfig} {agentId : Uuid} (apart : other ≠ connectionId)
    (holds : Represented config before.broker) :
    Apart other before (before.onBroker (before.broker.dropConnection agentId connectionId)) := by
  by_cases owns : before.broker.connections agentId = some connectionId
  · obtain ⟨connection, object, -⟩ := holds.live agentId connectionId owns
    rw [Broker.dropConnection_own owns object]
    have first : Apart other before
        (before.onBroker (before.broker.dropped agentId connectionId connection)) := by
      refine apart_of_same (fun agent => ?_) (fun _ => id) rfl (Function.update_of_ne apart _ _) rfl
      change Function.update before.broker.connections agentId none agent = some other ↔ _
      by_cases same : agent = agentId
      · subst same
        rw [Function.update_self, owns]
        simp [apart.symm]
      · rw [Function.update_of_ne same]
    exact first.trans apart_registryDisconnect
  · rw [Broker.dropConnection_apart owns]
    exact apart_registryDisconnect

theorem apart_register {config : BrokerConfig} {agentId : Uuid} {broker : Broker}
    (apart : other ≠ connectionId) (holds : Represented config before.broker)
    (registered : Broker.register agentId connectionId before.broker = .ok broker) :
    Apart other before (before.onBroker broker) := by
  obtain ⟨free, rfl⟩ := Broker.register_ok registered
  have slot : ∀ agent, Function.update before.broker.connections agentId (some connectionId) agent =
      some other ↔ before.broker.connections agent = some other := by
    intro agent
    by_cases same : agent = agentId
    · subst same
      rw [Function.update_self]
      constructor
      · intro equal
        exact absurd (Option.some.inj equal).symm apart
      · intro taken
        exact absurd (free other (holds.registered ▸ taken)) apart
    · rw [Function.update_of_ne same]
  refine apart_of_same slot (fun agent taken => ?_) rfl rfl rfl
  change Function.update before.broker.active agentId (some connectionId) agent = some other at taken
  rw [holds.registered] at taken ⊢
  exact (slot agent).mp taken
end Frames

/-! The tasks of the pool, by what names them. -/
inductive BrokerTask where
  | stream (connectionId : ConnectionId)
  | opening (channelId : ChannelId)
  | call (serial : Nat)
  deriving DecidableEq

def BrokerTask.owner : BrokerTask → Option ConnectionId
  | .stream connectionId => some connectionId
  | _ => none

/-- What is left of a stream's connection when its run is over: it is in no
slot, and the streams still attached to it have been fed EOF. -/
structure Gone (connectionId : ConnectionId) (broker : Broker) : Prop where
  unheld : ∀ agentId, broker.connections agentId ≠ some connectionId
  eof : ∀ connection channelId stream, broker.objects connectionId = some connection →
    channelId ∈ connection.adapters → broker.streams connectionId channelId = some stream →
      stream.closed = true

def relies (owner : Option ConnectionId) (before after : TunnelWorld) : Prop :=
  ∀ connectionId, owner = some connectionId → Apart connectionId before after

def owes (owner : Option ConnectionId) (before after : TunnelWorld) : Prop :=
  ∀ connectionId, owner ≠ some connectionId → Apart connectionId before after

def contract (owner : Option ConnectionId) : Contract TunnelWorld Exc Unit where
  rely := relies owner
  guarantee := owes owner
  post _ world := ∀ connectionId, owner = some connectionId → Gone connectionId world.broker

/-- Any call can be answered in any way, and the world may change, but the
broker's tables only change by its own code. -/
def brokerWorld : World TunnelWorld TunnelResult Exc := fun _ _ before after =>
  after.broker = before.broker

/-- Facts about a broker that the others cannot take from a connection's owner. -/
def Steady (owner : Option ConnectionId) (fact : Broker → Prop) : Prop :=
  ∀ before after, relies owner before after → fact before.broker → fact after.broker

section Steady
variable {connectionId : ConnectionId}

theorem steady_gone : Steady (some connectionId) (Gone connectionId) := by
  intro before after relied gone
  have apart := relied connectionId rfl
  constructor
  · exact fun agentId held => gone.unheld agentId (apart.connections agentId held)
  · intro next channelId stream object member found
    obtain ⟨connection, there, fewer⟩ := apart.shrunk gone.unheld next object
    obtain ⟨earlier, place, closed⟩ := apart.fed gone.unheld channelId stream found
    exact closed (gone.eof connection channelId earlier there (fewer member) place)

/-- A connection id nobody uses yet. -/
def Unused (connectionId : ConnectionId) (broker : Broker) : Prop :=
  (∀ agentId, broker.connections agentId ≠ some connectionId) ∧ broker.objects connectionId = none

theorem steady_unused : Steady (some connectionId) (Unused connectionId) := by
  rintro before after relied ⟨unheld, none⟩
  have apart := relied connectionId rfl
  refine ⟨fun agentId held => unheld agentId (apart.connections agentId held), ?_⟩
  cases found : after.broker.objects connectionId with
  | none => rfl
  | some next =>
      obtain ⟨connection, there, -⟩ := apart.shrunk unheld next found
      cases none.symm.trans there

/-- A connection object that is not in its slot yet. -/
def Prepared (connectionId : ConnectionId) (record : AgentTunnelRecord) (broker : Broker) : Prop :=
  (∀ agentId, broker.connections agentId ≠ some connectionId) ∧ ∃ connection,
    broker.objects connectionId = some connection ∧ connection.agent = record ∧ connection.adapters = ∅

theorem steady_prepared {record : AgentTunnelRecord} :
    Steady (some connectionId) (Prepared connectionId record) := by
  rintro before after relied ⟨unheld, connection, object, agent, empty⟩
  have apart := relied connectionId rfl
  refine ⟨fun agentId held => unheld agentId (apart.connections agentId held), ?_⟩
  obtain ⟨next, there, named⟩ := apart.kept connection object
  obtain ⟨again, place, fewer⟩ := apart.shrunk unheld next there
  cases object.symm.trans place
  exact ⟨next, there, named.trans agent, Finset.subset_empty.mp (empty ▸ fewer)⟩

def Held (connectionId : ConnectionId) (agentId : Uuid) (broker : Broker) : Prop :=
  broker.connections agentId = some connectionId

theorem steady_held {agentId : Uuid} : Steady (some connectionId) (Held connectionId agentId) :=
  fun _ _ relied => (relied connectionId rfl).held agentId

theorem Unused.gone {broker : Broker} (unused : Unused connectionId broker) :
    Gone connectionId broker := by
  refine ⟨unused.1, fun connection _ _ object => ?_⟩
  cases unused.2.symm.trans object

theorem Prepared.gone {record : AgentTunnelRecord} {broker : Broker}
    (prepared : Prepared connectionId record broker) : Gone connectionId broker := by
  obtain ⟨unheld, connection, object, -, empty⟩ := prepared
  refine ⟨unheld, fun again channelId _ there member => ?_⟩
  cases object.symm.trans there
  rw [empty] at member
  cases member
end Steady

/-- How far the connection of a stream has come. -/
def Along (connectionId : ConnectionId) (record : AgentTunnelRecord) (broker : Broker) : Prop :=
  Unused connectionId broker ∨ Prepared connectionId record broker ∨
    Held connectionId record.agentId broker

theorem steady_along {connectionId : ConnectionId} {record : AgentTunnelRecord} :
    Steady (some connectionId) (Along connectionId record) := by
  rintro before after relied (unused | prepared | held)
  · exact .inl (steady_unused before after relied unused)
  · exact .inr (.inl (steady_prepared before after relied prepared))
  · exact .inr (.inr (steady_held before after relied held))

/-- What a property of the broker has to survive for the streams to keep it: each
block that a stream runs between two calls. -/
structure Upheld (config : BrokerConfig) (good : Broker → Prop) : Prop where
  represented : ∀ broker, good broker → Represented config broker
  created : ∀ broker after connectionId record seenAt, good broker → Unused connectionId broker →
    Broker.newConnection config record connectionId seenAt broker = .ok after → good after
  registered : ∀ broker after connectionId record, good broker → Prepared connectionId record broker →
    Broker.register record.agentId connectionId broker = .ok after → good after
  seen : ∀ broker after connectionId seenAt, good broker →
    Broker.markSeen connectionId seenAt broker = .ok after → good after
  handled : ∀ broker after connectionId decoded, good broker →
    Broker.handleAgentFrame connectionId decoded broker = .ok after → good after
  dropped : ∀ broker connectionId record, good broker → Along connectionId record broker →
    good (broker.dropConnection record.agentId connectionId)
  told : ∀ world connectionId frame, good world.broker → frame.channelId = none →
    good (TunnelWorld.send world connectionId frame).broker

/-- The same for the calls of the jump code: the frames for an open channel, the opening of a channel
that nobody knows yet, and the retiring of one. -/
structure UpheldByCalls (good : Broker → Prop) : Prop where
  sent : ∀ world channelId connectionId frame, good world.broker →
    world.broker.openConnection channelId = .ok connectionId → frame.channelId = some channelId →
      good (TunnelWorld.send world connectionId frame).broker
  opened : ∀ world broker agentId channelId hostKey username certificateUsername connectionId,
    good world.broker → Unseen channelId world.broker →
    world.broker.openChannel agentId channelId hostKey username certificateUsername world.clock =
      .ok (broker, connectionId) →
    good broker ∧ ∀ frame, frame.channelId = some channelId →
      good ((TunnelWorld.onBroker world broker).send connectionId frame).broker
  retired : ∀ world broker connectionId channelId, good (TunnelWorld.broker world) →
    Broker.retireChannel connectionId channelId world.broker = .ok broker → good broker

section Runs
variable (good : Broker → Prop) (owner : Option ConnectionId)

def Keeps (world : TunnelWorld) : Prop := good world.broker

abbrev Runs {α : Type} (program : TunnelTask α) (post : Except Exc α → TunnelWorld → Prop)
    (state : TunnelWorld) : Prop :=
  program.wp (answered brokerWorld (Keeps good) (relies owner))
    (obliged (Keeps good) (owes owner)) post state
end Runs

section Rules
variable {good : Broker → Prop} {owner : Option ConnectionId} {fact : Broker → Prop}
  {state : TunnelWorld}

theorem relies_refl (owner : Option ConnectionId) (world : TunnelWorld) : relies owner world world :=
  fun _ _ => apart_of_broker rfl

theorem owes_refl (owner : Option ConnectionId) (world : TunnelWorld) : owes owner world world :=
  fun _ _ => apart_of_broker rfl

/-- A fact survives a call. -/
theorem wait_runs {call : TunnelCall} (steady : Steady owner fact) (holds : Keeps good state)
    (known : fact state.broker) :
    Runs good owner (wait call) (fun _ after => Keeps good after ∧ fact after.broker) state := by
  refine call_safe holds ?_
  intro answer resumed after relied still same
  rw [Keeps, same]
  exact ⟨still, steady _ _ relied known⟩

theorem onBroker_runs {block : Broker → Except Exc Broker} {next : Broker → Prop}
    (holds : Keeps good state) (known : fact state.broker)
    (changed : ∀ broker, block state.broker = .ok broker → owes owner state (state.onBroker broker) ∧
      good broker ∧ next broker) :
    Runs good owner (onBroker block) (Coro.either (fun _ after => Keeps good after ∧ next after.broker)
      fun _ after => Keeps good after ∧ fact after.broker) state := by
  refine attempt_safe (owes_refl owner state) ?_ ?_
  · intro after done
    obtain ⟨broker, applied, done⟩ := bind_ok.mp done
    cases done
    exact changed broker applied
  · exact fun _ _ => ⟨holds, known⟩

theorem onBroker_keeps {block : Broker → Except Exc Broker} (holds : Keeps good state)
    (known : fact state.broker)
    (changed : ∀ broker, block state.broker = .ok broker → owes owner state (state.onBroker broker) ∧
      good broker ∧ fact broker) :
    Runs good owner (onBroker block) (fun _ after => Keeps good after ∧ fact after.broker) state := by
  refine Coro.wp_mono ?_ (onBroker_runs holds known changed)
  intro answer after kept
  cases answer <;> exact kept
end Rules

section Streams
variable {config : BrokerConfig} {good : Broker → Prop} {library : Library} {connectionId : ConnectionId}
  {fact : Broker → Prop} {state : TunnelWorld}

theorem not_owner {other : ConnectionId} (apart : some connectionId ≠ some other) :
    other ≠ connectionId := fun same => apart (congrArg some same.symm)

theorem readStream_runs (steady : Steady (some connectionId) fact) (holds : Keeps good state)
    (known : fact state.broker) : Runs good (some connectionId) (readStream library config)
      (fun _ after => Keeps good after ∧ fact after.broker) state := by
  refine Coro.wp_mono ?_ (FrameReaders.Server.readOneFrame_wp library.json config.maxFrameBytes
    (fun _ after => Keeps good after ∧ fact after.broker)
    (fun after => Keeps good after ∧ fact after.broker) ?_ (fun _ _ kept => kept) state ⟨holds, known⟩)
  · intro answer after reached
    cases answer with
    | error fault => exact reached
    | ok decoded =>
        obtain ⟨_, _, kept⟩ := reached
        exact kept
  · rintro count got before ⟨holds, known⟩
    refine Coro.wp_mono ?_ (wait_runs steady holds known)
    intro answer after kept
    cases answer <;> exact kept

theorem admission_runs {peer : PeerCertificateBinding} {now : Option DateTime}
    (steady : Steady (some connectionId) fact) (holds : Keeps good state) (known : fact state.broker) :
    Runs good (some connectionId) (admission library (readStream library config) peer now)
      (fun _ after => Keeps good after ∧ fact after.broker) state := by
  refine Coro.wp_bind (Coro.wp_mono ?_ (readStream_runs steady holds known))
  rintro (fault | first) read kept
  · exact kept
  dsimp only
  split
  · exact kept
  refine Coro.wp_bind (Coro.wp_ofAnswer ?_)
  cases decodeAuthPayload library first.payload with
  | error fault => exact kept
  | ok request =>
  refine Coro.wp_bind (Coro.wp_ofAnswer ?_)
  cases verifyPeerCertificateBinding request peer with
  | error fault => exact kept
  | ok _ =>
  refine Coro.wp_bind (look_safe ?_)
  refine Coro.wp_bind (Coro.wp_bind (Coro.wp_mono ?_ (wait_runs steady kept.1 kept.2)))
  rintro (fault | row) given kept
  · exact kept
  refine Coro.wp_ofAnswer ?_
  cases checkRecord library request row (now.getD read.clock) with
  | error fault => exact kept
  | ok record => exact kept

/-- A frame of the agent is its connection's own business, and keeps its slot. -/
theorem handleAgentFrame_owes {decoded : DecodedTunnelFrame} {broker : Broker}
    (handled : Broker.handleAgentFrame connectionId decoded state.broker = .ok broker) :
    owes (some connectionId) state (state.onBroker broker) ∧
      broker.connections = state.broker.connections := by
  rcases Broker.handleAgentFrame_ok handled with rfl |
    ⟨channelId, connection, stream, -, -, -, -, found, rfl⟩ |
    ⟨channelId, connection, channels, stream, -, object, closed, found, rfl⟩
  · exact ⟨fun _ _ => apart_of_broker rfl, rfl⟩
  · exact ⟨fun _ apart => apart_setStream (not_owner apart), rfl⟩
  · refine ⟨fun other apart => ?_, rfl⟩
    have first : Apart other state
        (state.onBroker (state.broker.setStream connectionId channelId stream.feedEof)) :=
      apart_setStream (not_owner apart)
    exact first.trans (apart_retired object)

theorem dispatch_runs {agentId : Uuid} (upheld : Upheld config good) (holds : Keeps good state)
    (held : Held connectionId agentId state.broker) :
    Runs good (some connectionId) (dispatchOne (readStream library config) connectionId agentId)
      (fun _ after => Keeps good after ∧ Held connectionId agentId after.broker) state := by
  refine Coro.wp_bind (Coro.wp_mono ?_ (readStream_runs steady_held holds held))
  rintro (fault | decoded) read ⟨holds, held⟩
  · exact ⟨holds, held⟩
  refine Coro.wp_bind (look_safe (Coro.wp_bind (Coro.wp_mono ?_ (onBroker_keeps holds held ?_))))
  · rintro (fault | _) marked ⟨holds, held⟩
    · exact ⟨holds, held⟩
    refine Coro.wp_bind (Coro.wp_mono ?_ (wait_runs steady_held holds held))
    rintro (fault | _) stored ⟨holds, held⟩
    · exact ⟨holds, held⟩
    refine onBroker_keeps holds held fun broker handled => ?_
    obtain ⟨owed, same⟩ := handleAgentFrame_owes handled
    exact ⟨owed, upheld.handled _ _ _ _ holds handled, (congrFun same agentId).trans held⟩
  · intro broker marked
    have kept := upheld.seen _ _ _ _ holds marked
    obtain ⟨connection, object, rfl⟩ := Broker.markSeen_ok marked
    exact ⟨fun _ apart => apart_setObject (not_owner apart), kept, held⟩

theorem forever_runs {agentId : Uuid} {turns : Nat} (upheld : Upheld config good)
    (holds : Keeps good state) (held : Held connectionId agentId state.broker) :
    Runs good (some connectionId)
      (forever (wait .never) (dispatchOne (readStream library config) connectionId agentId) turns)
      (fun _ after => Keeps good after ∧ Held connectionId agentId after.broker) state := by
  induction turns generalizing state with
  | zero => exact wait_runs steady_held holds held
  | succ turns ih =>
      refine Coro.wp_bind (Coro.wp_mono ?_ (dispatch_runs upheld holds held))
      rintro (fault | _) after ⟨holds, held⟩
      · exact ⟨holds, held⟩
      · exact ih holds held

theorem newConnection_owes {record : AgentTunnelRecord} {seenAt : DateTime} {broker : Broker}
    (unused : Unused connectionId state.broker)
    (created : Broker.newConnection config record connectionId seenAt state.broker = .ok broker) :
    owes (some connectionId) state (state.onBroker broker) ∧ Prepared connectionId record broker := by
  obtain ⟨connection, rfl, agent, -, -, -, empty⟩ := Broker.newConnection_ok created
  refine ⟨fun _ apart => apart_setObject (not_owner apart), unused.1, connection, ?_, agent, empty⟩
  exact objects_setObject.mpr (.inl ⟨rfl, rfl⟩)

theorem register_owes {record : AgentTunnelRecord} {broker : Broker}
    (holds : Represented config state.broker)
    (registered : Broker.register record.agentId connectionId state.broker = .ok broker) :
    owes (some connectionId) state (state.onBroker broker) ∧
      Held connectionId record.agentId broker := by
  refine ⟨fun _ apart => apart_register (not_owner apart) holds registered, ?_⟩
  obtain ⟨-, rfl⟩ := Broker.register_ok registered
  exact Function.update_self ..

/-- A frame of the stream's own goes out, then the writer is drained. -/
theorem ownFrame_runs {frame : OutgoingFrame} {maxFrameBytes : Int} (upheld : Upheld config good)
    (steady : Steady (some connectionId) fact) (holds : Keeps good state) (known : fact state.broker)
    (unmoved : fact (state.send connectionId frame).broker) (unaddressed : frame.channelId = none) :
    Runs good (some connectionId) (writeFrame library connectionId frame maxFrameBytes)
      (fun _ after => Keeps good after ∧ fact after.broker) state := by
  refine Coro.wp_bind (attempt_safe (owes_refl _ state) ?_ ?_)
  · intro after written
    obtain ⟨_, -, written⟩ := bind_ok.mp written
    cases written
    refine ⟨fun other apart => apart_send (.inl (not_owner apart)), ?_⟩
    exact wait_runs steady (upheld.told _ _ _ holds unaddressed) unmoved
  · exact fun _ _ => ⟨holds, known⟩

theorem serve_runs {first : DecodedTunnelFrame} {record : AgentTunnelRecord} {turns : Nat}
    (upheld : Upheld config good) (holds : Keeps good state)
    (unused : Unused connectionId state.broker) :
    Runs good (some connectionId)
      (serve library config (readStream library config) connectionId first record turns)
      (fun _ after => Keeps good after ∧ Along connectionId record after.broker) state := by
  have creates : ∀ broker,
      Broker.newConnection config record connectionId state.clock state.broker = .ok broker →
      owes (some connectionId) state (state.onBroker broker) ∧ good broker ∧
        Prepared connectionId record broker := by
    intro broker created
    obtain ⟨owed, prepared⟩ := newConnection_owes unused created
    exact ⟨owed, upheld.created _ _ _ _ _ holds unused created, prepared⟩
  refine Coro.wp_bind (look_safe (Coro.wp_bind (Coro.wp_mono ?_ (onBroker_runs holds unused creates))))
  rintro (fault | _) created ⟨holds, prepared⟩
  · exact ⟨holds, .inl prepared⟩
  refine Coro.wp_bind (Coro.wp_mono ?_ (wait_runs steady_prepared holds prepared))
  rintro (fault | _) stored ⟨holds, prepared⟩
  · exact ⟨holds, .inr (.inl prepared)⟩
  have registers : ∀ broker,
      Broker.register record.agentId connectionId stored.broker = .ok broker →
      owes (some connectionId) stored (stored.onBroker broker) ∧ good broker ∧
        Held connectionId record.agentId broker := by
    intro broker registered
    obtain ⟨owed, held⟩ := register_owes (upheld.represented _ holds) registered
    exact ⟨owed, upheld.registered _ _ _ _ holds prepared registered, held⟩
  refine Coro.wp_bind (Coro.wp_mono ?_ (onBroker_runs holds prepared registers))
  rintro (fault | _) registered ⟨holds, held⟩
  · exact ⟨holds, .inr (.inl held)⟩
  refine Coro.wp_bind (Coro.wp_mono ?_ (ownFrame_runs upheld steady_held holds held held rfl))
  rintro (fault | _) written ⟨holds, held⟩
  · exact ⟨holds, .inr (.inr held)⟩
  · exact Coro.wp_mono (fun _ _ kept => ⟨kept.1, .inr (.inr kept.2)⟩) (forever_runs upheld holds held)

/-- A frame on the stream's own writer moves none of its tables. -/
def Unmoved (connectionId : ConnectionId) (fact : Broker → Prop) : Prop :=
  ∀ world frame, fact world.broker → fact (TunnelWorld.send world connectionId frame).broker

theorem streamFault_runs {requestId : Str} {raised : Exc} (upheld : Upheld config good)
    (steady : Steady (some connectionId) fact) (unmoved : Unmoved connectionId fact)
    (holds : Keeps good state) (known : fact state.broker) :
    Runs good (some connectionId) (streamFault library connectionId requestId raised)
      (fun _ after => Keeps good after ∧ fact after.broker) state := by
  have told : Runs good (some connectionId) (bestEffortError library connectionId requestId)
      (fun _ after => Keeps good after ∧ fact after.broker) state := by
    refine Coro.wp_handle (Coro.wp_mono ?_
      (ownFrame_runs upheld steady holds known (unmoved _ _ known) rfl))
    rintro (fault | _) after kept
    · dsimp only
      split
      · exact kept
      · exact kept
    · exact kept
  unfold streamFault
  split
  · exact ⟨holds, known⟩
  · exact ⟨holds, known⟩
  · exact ⟨holds, known⟩
  · exact told
  · exact told
  · exact told
  · exact ⟨holds, known⟩

/-- A dropped connection is in no slot, and its streams are at EOF. -/
theorem gone_dropped {agentId : Uuid} {broker : Broker} {connection : BrokerTunnelConnection}
    (holds : Represented config broker) (held : broker.connections agentId = some connectionId)
    (object : broker.objects connectionId = some connection) :
    Gone connectionId
      ((broker.dropped agentId connectionId connection).registryDisconnect agentId connectionId) := by
  rw [Broker.registryDisconnect_eq]
  constructor
  · intro other taken
    change Function.update broker.connections agentId none other = some connectionId at taken
    by_cases same : other = agentId
    · subst same
      rw [Function.update_self] at taken
      cases taken
    · rw [Function.update_of_ne same] at taken
      exact same (holds.injective taken held)
  · intro again channelId stream there member found
    cases object.symm.trans there
    change Function.update broker.streams connectionId _ connectionId channelId = some stream at found
    rw [Function.update_self, if_pos member] at found
    obtain ⟨earlier, -, rfl⟩ := Option.map_eq_some_iff.mp found
    rfl

theorem dropConnection_gone {record : AgentTunnelRecord} {broker : Broker}
    (holds : Represented config broker) (along : Along connectionId record broker) :
    Gone connectionId (broker.dropConnection record.agentId connectionId) := by
  by_cases held : broker.connections record.agentId = some connectionId
  · obtain ⟨connection, object, -⟩ := holds.live _ _ held
    rw [Broker.dropConnection_own held object]
    exact gone_dropped holds held object
  · rw [Broker.dropConnection_apart held, unregistered (holds.registered ▸ held)]
    rcases along with unused | prepared | taken
    · exact unused.gone
    · exact prepared.gone
    · exact absurd taken held

theorem cleanup_runs {authenticated : Option AgentTunnelRecord} (upheld : Upheld config good)
    (holds : Keeps good state)
    (known : match authenticated with
      | none => Unused connectionId state.broker
      | some record => Along connectionId record state.broker) :
    Runs good (some connectionId) (streamCleanup authenticated connectionId)
      (fun _ after => Keeps good after ∧ Gone connectionId after.broker) state := by
  cases authenticated with
  | none => exact wait_runs steady_gone holds known.gone
  | some record =>
      have represented := upheld.represented _ holds
      refine Coro.wp_bind (attempt_safe (owes_refl _ state) ?_ ?_)
      · intro after dropped
        cases dropped
        refine ⟨fun other apart => apart_dropConnection (not_owner apart) represented, ?_⟩
        exact wait_runs steady_gone (upheld.dropped _ _ _ holds known)
          (dropConnection_gone represented known)
      · intro fault impossible
        cases impossible

theorem guarded_runs {authenticated : Option AgentTunnelRecord} {requestId : Str}
    {body : TunnelTask Unit} (upheld : Upheld config good) (steady : Steady (some connectionId) fact)
    (unmoved : Unmoved connectionId fact)
    (known : ∀ broker, fact broker → match authenticated with
      | none => Unused connectionId broker
      | some record => Along connectionId record broker)
    (ran : Runs good (some connectionId) body (fun _ after => Keeps good after ∧ fact after.broker)
      state) :
    Runs good (some connectionId) (guarded library authenticated connectionId requestId body)
      (fun _ after => Keeps good after ∧ Gone connectionId after.broker) state := by
  have caught : Runs good (some connectionId)
      (tryCatch body (streamFault library connectionId requestId))
      (fun _ after => Keeps good after ∧ fact after.broker) state := by
    refine Coro.wp_handle (Coro.wp_mono ?_ ran)
    rintro (fault | _) after ⟨holds, kept⟩
    · exact streamFault_runs upheld steady unmoved holds kept
    · exact ⟨holds, kept⟩
  refine Coro.wp_finallyDo (Coro.wp_mono ?_ caught)
  rintro _ after ⟨holds, kept⟩
  refine Coro.wp_mono ?_ (cleanup_runs upheld holds (known _ kept))
  rintro (fault | _) last gone <;> exact gone

theorem handle_runs {stream : AgentStream} {turns : Nat} (upheld : Upheld stream.config good)
    (holds : Keeps good state) (unused : Unused stream.connectionId state.broker) :
    Runs good (some stream.connectionId) (stream.handle turns)
      (fun _ after => Keeps good after ∧ Gone stream.connectionId after.broker) state := by
  refine Coro.wp_bind (Coro.wp_outcome (Coro.wp_mono ?_ (admission_runs steady_unused holds unused)))
  rintro (raised | ⟨first, record⟩) after ⟨holds, unused⟩
  · exact guarded_runs upheld steady_unused (fun _ _ kept => kept) (fun _ kept => kept) ⟨holds, unused⟩
  · exact guarded_runs upheld steady_along (fun _ _ kept => kept) (fun _ kept => kept)
      (serve_runs upheld holds unused)
end Streams

/-! The calls of the jump code on the broker. -/
section Calls
variable {good : Broker → Prop} {state after : TunnelWorld}

/-- A frame for an open channel is written to a connection that holds a slot. -/
theorem owes_send {connectionId : ConnectionId} {agentId : Uuid} {frame : OutgoingFrame}
    (held : state.broker.connections agentId = some connectionId) :
    owes none state (state.send connectionId frame) := by
  intro other _
  by_cases same : other = connectionId
  · exact apart_send (.inr ⟨agentId, same ▸ held⟩)
  · exact apart_send (.inl same)

theorem drained_keeps {answer : Except Exc (TunnelResult .drain)}
    (given : brokerWorld .drain answer state after) (holds : Keeps good state) : Keeps good after := by
  have same : after.broker = state.broker := given
  rw [Keeps, same]
  exact holds

/-- What the tables of a property have to survive for a channel's frames. -/
theorem maySend_of {channelId : ChannelId} (holds : Keeps good state)
    (sent : ∀ connectionId frame, state.broker.openConnection channelId = .ok connectionId →
      frame.channelId = some channelId →
      frame.type = .SESSION_DATA ∨ frame.type = .RESIZE_PTY ∨ frame.type = .CLOSE_SESSION →
      good (state.send connectionId frame).broker) :
    MaySend brokerWorld (Keeps good) (owes none) channelId state where
  holds := holds
  still := owes_refl none state
  drained _ _ _ := drained_keeps
  sent connectionId frame isOpen named type := by
    obtain ⟨agentId, connection, -, held, -, -⟩ := Broker.openConnection_ok isOpen
    exact ⟨owes_send held, sent connectionId frame isOpen named type⟩
end Calls

section Represented
variable {config : BrokerConfig} {library : Library} {state : TunnelWorld}

theorem represented_upheld (config : BrokerConfig) : Upheld config (Represented config) where
  represented _ := id
  created _ _ _ _ _ holds unused created := holds.newConnection unused.2 created
  registered _ _ _ _ holds prepared registered := by
    obtain ⟨-, connection, object, agent, empty⟩ := prepared
    exact holds.register object (congrArg _ agent) empty registered
  seen _ _ _ _ holds marked := by
    obtain ⟨connection, object, rfl⟩ := Broker.markSeen_ok marked
    exact holds.setObject object rfl rfl rfl
  handled _ _ _ _ holds handled := by
    rcases Broker.handleAgentFrame_ok handled with rfl |
      ⟨channelId, connection, stream, -, -, -, -, found, rfl⟩ |
      ⟨channelId, connection, channels, stream, -, object, closed, found, rfl⟩
    · exact holds
    · exact holds.setStream found rfl
    · have fed : Represented config (Broker.setStream _ _ channelId stream.feedEof) :=
        holds.setStream found rfl
      exact fed.retired object closed
  dropped broker connectionId record holds _ := by
    by_cases held : broker.connections record.agentId = some connectionId
    · obtain ⟨connection, object, -⟩ := holds.live _ _ held
      rw [Broker.dropConnection_own held object]
      exact holds.dropped held object
    · rw [Broker.dropConnection_apart held, unregistered (holds.registered ▸ held)]
      exact holds
  told _ _ _ holds unaddressed := by
    apply holds.send
    intro channelId named
    cases unaddressed.symm.trans named

/-- A frame for an open channel names a channel its connection knows. -/
theorem channelFrame_represented {connectionId : ConnectionId} {channelId : ChannelId}
    {frame : OutgoingFrame} (holds : Represented config state.broker)
    (isOpen : state.broker.openConnection channelId = .ok connectionId)
    (named : frame.channelId = some channelId) :
    Represented config (state.send connectionId frame).broker := by
  obtain ⟨agentId, connection, -, -, object, member⟩ := Broker.openConnection_ok isOpen
  apply holds.send
  intro other called
  cases named.symm.trans called
  exact ⟨connection, object, open_known member⟩

/-- The channel may be gone by the time the frame is out. -/
theorem retireChannel_represented {connectionId : ConnectionId} {channelId : ChannelId}
    {broker : Broker} (holds : Represented config state.broker)
    (closed : Broker.retireChannel connectionId channelId state.broker = .ok broker) :
    owes none state (state.onBroker broker) ∧ Represented config broker := by
  obtain ⟨connection, channels, object, done, rfl⟩ := Broker.retireChannel_ok closed
  exact ⟨fun _ _ => apart_retired object, holds.retired object done⟩

/-- A channel is opened, and its frame may go out. -/
theorem openChannel_represented {agentId : Uuid} {channelId : ChannelId}
    {hostKey username certificateUsername : Str} {broker : Broker} {connectionId : ConnectionId}
    (holds : Represented config state.broker) (unseen : Unseen channelId state.broker)
    (opened : state.broker.openChannel agentId channelId hostKey username certificateUsername
      state.clock = .ok (broker, connectionId)) :
    owes none state (state.onBroker broker) ∧ Represented config broker ∧
      ∀ frame, frame.channelId = some channelId →
        owes none (state.onBroker broker) ((state.onBroker broker).send connectionId frame) ∧
          Represented config ((state.onBroker broker).send connectionId frame).broker := by
  obtain ⟨connection, channels, held, object, -, added, rfl⟩ := Broker.openChannel_ok opened
  have kept := holds.opened unseen held object added
  refine ⟨fun _ _ => apart_opened held object, kept, fun frame named => ⟨owes_send held, ?_⟩⟩
  apply Represented.send kept
  intro other called
  cases named.symm.trans called
  refine ⟨_, objects_setObject.mpr (.inl ⟨rfl, rfl⟩), open_known ?_⟩
  exact (TunnelChannelRegistry.openChannel_ok added).2.1 ▸ Finset.mem_insert_self _ _

theorem represented_called (config : BrokerConfig) : UpheldByCalls (Represented config) where
  sent _ _ _ _ holds isOpen named := channelFrame_represented holds isOpen named
  opened _ _ _ _ _ _ _ _ holds unseen opened := by
    obtain ⟨-, kept, announced⟩ := openChannel_represented holds unseen opened
    exact ⟨kept, fun frame named => (announced frame named).2⟩
  retired _ _ _ _ holds closed := (retireChannel_represented holds closed).2
end Represented

/-! All of them together. -/
inductive BrokerCall (library : Library) (config : BrokerConfig) : TunnelTask Unit → Prop where
  | sendData (channelId payload requestId) :
      BrokerCall library config (sendData library config channelId payload requestId)
  | resizePty (channelId width height requestId) :
      BrokerCall library config (resizePty library config channelId width height requestId)
  | closeSession (channelId requestId) :
      BrokerCall library config (closeSession library config channelId requestId)
  | connectorForAgent (agentId channelId) :
      BrokerCall library config (Functor.discard (TunnelBroker.connectorForAgent agentId channelId))

/-- The programs a pool may start. The connection id of a stream and the channel
id of an opening are fresh. -/
def brokerPrograms (library : Library) (config : BrokerConfig) (task : BrokerTask)
    (program : TunnelTask Unit) (world : TunnelWorld) : Prop :=
  match task with
  | .stream connectionId => ∃ (stream : AgentStream) (turns : Nat), stream.library = library ∧ stream.config = config ∧
      stream.connectionId = connectionId ∧ program = stream.handle turns ∧
        Unused connectionId world.broker
  | .opening channelId => ∃ agentId nodeName hostKey username certificateUsername requestId,
      program = openSession library config agentId channelId nodeName hostKey username
        certificateUsername requestId ∧ Unseen channelId world.broker
  | .call _ => BrokerCall library config program

abbrev BrokerPool := Pool BrokerTask TunnelWorld TunnelResult Exc

def BrokerReachable (library : Library) (config : BrokerConfig) (start : TunnelWorld)
    (pool : BrokerPool) : Prop :=
  Reachable (fun _ => brokerWorld) (brokerPrograms library config) start pool

theorem contract_lawful (owner : Option ConnectionId) : (contract owner).Lawful where
  rely_refl := relies_refl owner
  rely_trans _ _ _ first second id owned := (first id owned).trans (second id owned)
  guarantee_refl := owes_refl owner
  guarantee_trans _ _ _ first second id apart := (first id apart).trans (second id apart)
  stable _ before after gone relied id owned := by
    subst owned
    exact steady_gone before after relied (gone id rfl)

/-- No two tasks own the same connection. -/
theorem owner_apart {task other : BrokerTask} {before after : TunnelWorld} (apart : task ≠ other)
    (owed : owes task.owner before after) : relies other.owner before after := by
  intro connectionId owned
  apply owed
  intro same
  cases task <;> cases other <;> simp_all [BrokerTask.owner]

theorem safe_of_calls {good : Broker → Prop} {program : TunnelTask Unit} {state : TunnelWorld}
    (runs : Runs good none program (fun _ after => Keeps good after) state) :
    Safe brokerWorld (Keeps good) (contract none) program state := by
  refine Coro.wp_mono ?_ runs
  intro outcome after holds
  refine ⟨holds, fun connectionId impossible => ?_⟩
  cases impossible

theorem safe_of_stream {good : Broker → Prop} {stream : AgentStream} {turns : Nat} {state : TunnelWorld}
    (upheld : Upheld stream.config good) (holds : Keeps good state)
    (unused : Unused stream.connectionId state.broker) :
    Safe brokerWorld (Keeps good) (contract (some stream.connectionId)) (stream.handle turns) state := by
  refine Coro.wp_mono ?_ (handle_runs upheld holds unused)
  rintro outcome after ⟨kept, gone⟩
  refine ⟨kept, fun connectionId same => ?_⟩
  cases same
  exact gone

/-- Any tasks of the broker that are safe one by one keep a property together. -/
theorem broker_pool_safe {good : Broker → Prop}
    {programs : BrokerTask → TunnelTask Unit → TunnelWorld → Prop} {start : TunnelWorld}
    {pool : BrokerPool} (initial : good start.broker)
    (starts : ∀ task program state, programs task program state → Keeps good state →
      Safe brokerWorld (Keeps good) (contract task.owner) program state)
    (reached : Reachable (fun _ => brokerWorld) programs start pool) :
    pool.Safe (fun _ => brokerWorld) (Keeps good) (fun task => contract task.owner) := by
  refine reachable_safe (fun task => contract_lawful task.owner) ?_ ?_ starts initial reached
  · exact fun task other before after apart owed => owner_apart apart owed
  · exact fun task call answer before after same connectionId _ => apart_of_broker same

/-- A property of the broker that the streams and the calls uphold is kept by every program. -/
theorem programs_keep {library : Library} {config : BrokerConfig} {good : Broker → Prop}
    (upheld : Upheld config good) (called : UpheldByCalls good) {task : BrokerTask}
    {program : TunnelTask Unit} {state : TunnelWorld}
    (started : brokerPrograms library config task program state) (holds : Keeps good state) :
    Safe brokerWorld (Keeps good) (contract task.owner) program state := by
  cases task with
  | stream connectionId =>
      obtain ⟨stream, turns, -, rfl, rfl, rfl, unused⟩ := started
      exact safe_of_stream upheld holds unused
  | opening channelId =>
      obtain ⟨agentId, nodeName, hostKey, username, certificateUsername, requestId, rfl, unseen⟩ := started
      refine safe_of_calls (openSession_calls holds (owes_refl none) (fun _ _ _ => drained_keeps) ?_)
      intro broker connectionId opened
      obtain ⟨kept, announced⟩ := called.opened _ _ _ _ _ _ _ _ holds unseen opened
      obtain ⟨owed, -, told⟩ := openChannel_represented (upheld.represented _ holds) unseen opened
      exact ⟨owed, fun _ => kept, fun frame _ named => ⟨(told frame named).1, announced frame named⟩⟩
  | call serial =>
      have maySend : ∀ channelId, MaySend brokerWorld (Keeps good) (owes none) channelId state :=
        fun _ => maySend_of holds fun connectionId frame isOpen named _ =>
          called.sent _ _ connectionId frame holds isOpen named
      cases started with
      | sendData => exact safe_of_calls (sendData_calls (maySend _))
      | resizePty => exact safe_of_calls (resizePty_calls (maySend _))
      | closeSession =>
          refine safe_of_calls (closeSession_calls (maySend _) (owes_refl none) ?_)
          intro connectionId before after broker given known closed
          have kept : Keeps good after := drained_keeps given known
          have owed := (retireChannel_represented (upheld.represented _ kept) closed).1
          exact ⟨owed, called.retired after _ _ _ kept closed⟩
      | connectorForAgent agentId channelId =>
          refine safe_of_calls (Coro.wp_bind (Coro.wp_mono ?_ (connectorForAgent_calls holds)))
          rintro (fault | found) after kept <;> exact kept

theorem pool_keeps {library : Library} {config : BrokerConfig} {good : Broker → Prop}
    (upheld : Upheld config good) (called : UpheldByCalls good) {start : TunnelWorld} {pool : BrokerPool}
    (initial : good start.broker) (reached : BrokerReachable library config start pool) :
    pool.Safe (fun _ => brokerWorld) (Keeps good) (fun task => contract task.owner) :=
  broker_pool_safe initial (fun _ _ _ => programs_keep upheld called) reached

theorem pool_safe {library : Library} {config : BrokerConfig} {start : TunnelWorld} {pool : BrokerPool}
    (empty : start.broker = .empty) (reached : BrokerReachable library config start pool) :
    pool.Safe (fun _ => brokerWorld) (Keeps (Represented config)) (fun task => contract task.owner) := by
  refine pool_keeps (represented_upheld config) (represented_called config) ?_ reached
  rw [empty]
  exact .empty config

/-- A task that returned or raised. -/
def Ended (program : TunnelTask Unit) : Prop :=
  (∃ value, program = .done value) ∨ ∃ fault, program = .raise fault

theorem unmapped_of_gone {config : BrokerConfig} {broker : Broker} {connectionId : ConnectionId}
    {connection : BrokerTunnelConnection} {channelId : ChannelId} (holds : Represented config broker)
    (gone : Gone connectionId broker) (object : broker.objects connectionId = some connection)
    (known : channelId ∈ connection.channels.known) : broker.channelAgents channelId = none := by
  cases mapped : broker.channelAgents channelId with
  | none => rfl
  | some agentId =>
      obtain ⟨other, found, held, there, member⟩ := (holds.mapped channelId agentId).mp mapped
      have same := holds.once other connectionId found connection channelId there object
        (open_known member) known
      exact absurd (same ▸ held) (gone.unheld agentId)

theorem lookup_succeeds {config : BrokerConfig} {broker : Broker} (holds : Represented config broker)
    (channelId : ChannelId) : broker.requireChannelConnection channelId ≠ .error .keyError := by
  unfold Broker.requireChannelConnection
  split
  · simp
  · rename_i agentId mapped
    obtain ⟨connectionId, -, held, -⟩ := (holds.mapped channelId agentId).mp mapped
    simp [held]

theorem fourChannels_positive : (0 : Int) < 4 := by decide

theorem noChannels_bounded : ((∅ : Finset ChannelId).card : Int) ≤ 4 := by decide

theorem noChannels_disjoint : Disjoint (∅ : Finset ChannelId) ∅ := by decide

theorem noChannels_named : [] ∉ (∅ : Finset ChannelId) := by decide

theorem halfMinute_positive : (0 : Int) < 30 := by decide

/-- The connection of one agent that was just seen. -/
def connectionOne : BrokerTunnelConnection where
  agent := rowOne
  channels := ⟨4, ∅, ∅, fourChannels_positive, noChannels_bounded, noChannels_disjoint,
    noChannels_named⟩
  heartbeat := ⟨30, some ⟨0, some 0⟩, halfMinute_positive⟩
  adapters := ∅

def connectedOne : Broker :=
  { Broker.empty.setObject (lit "c1") connectionOne with
    active := Function.update (fun _ => none) agentOne (some (lit "c1"))
    connections := Function.update (fun _ => none) agentOne (some (lit "c1")) }

theorem connectedOne_represented : Represented streamOne.config connectedOne := by
  have created : Broker.newConnection streamOne.config rowOne (lit "c1") ⟨0, some 0⟩ .empty =
      .ok (Broker.empty.setObject (lit "c1") connectionOne) := rfl
  have registered : Broker.register agentOne (lit "c1")
      (Broker.empty.setObject (lit "c1") connectionOne) = .ok connectedOne := rfl
  have object : (Broker.empty.setObject (lit "c1") connectionOne).objects (lit "c1") =
      some connectionOne := objects_setObject.mpr (.inl ⟨rfl, rfl⟩)
  exact ((Represented.empty _).newConnection rfl created).register object rfl rfl registered

theorem connectedOne_unseen (channelId : ChannelId) : Unseen channelId connectedOne := by
  intro connectionId connection object member
  have placed : (Broker.empty.setObject (lit "c1") connectionOne).objects connectionId =
      some connection := object
  rcases objects_setObject.mp placed with ⟨-, rfl⟩ | ⟨-, impossible⟩
  · cases member
  · cases impossible

end VibeConnect.BrokerRuns
