import VibeConnect.BrokerRuns

/-! The frames that the broker writes for one channel of a connection. A close
waits for the writer before it retires the channel, so a call made meanwhile
still finds the channel open; without such a call, and with every opening
announced, the frames are an opening, data and sizes, and at most one closing. -/
namespace VibeConnect.WireDiscipline
open Python.Text Python.Values Python.Coroutine Python.Tasks Models TunnelProtocol TunnelState
open TunnelAuthenticator AgentChannels TunnelBroker BrokerCalls TunnelAdmission BrokerInvariant BrokerRuns

/-- The types of the frames written for a channel of a connection, in order. -/
def written (connectionId : ConnectionId) (channelId : ChannelId) (wire : List Sent) :
    List TunnelFrameType :=
  (wire.filter fun sent => sent.connection = connectionId ∧ sent.frame.channelId = some channelId).map
    (·.frame.type)

def Between (type : TunnelFrameType) : Prop := type = .SESSION_DATA ∨ type = .RESIZE_PTY

/-- One opening, then data and sizes, then at most one closing. -/
def Disciplined (types : List TunnelFrameType) : Prop :=
  types = [] ∨ ∃ middle closing, types = .OPEN_SESSION :: middle ++ closing ∧
    (∀ type ∈ middle, Between type) ∧ (closing = [] ∨ closing = [.CLOSE_SESSION])

section Words
variable {types before after : List TunnelFrameType} {type : TunnelFrameType}

/-- An opened word without a closing can go on. -/
theorem Disciplined.going (disciplined : Disciplined types) (begun : types ≠ [])
    (unclosed : .CLOSE_SESSION ∉ types) :
    ∃ middle, types = .OPEN_SESSION :: middle ∧ ∀ type ∈ middle, Between type := by
  rcases disciplined with empty | ⟨middle, closing, rfl, between, none | closed⟩
  · exact absurd empty begun
  · subst none
    exact ⟨middle, List.append_nil _, between⟩
  · subst closed
    exact absurd (List.mem_append_right _ List.mem_cons_self) unclosed

theorem Disciplined.append (disciplined : Disciplined types) (begun : types ≠ [])
    (unclosed : .CLOSE_SESSION ∉ types) (allowed : Between type ∨ type = .CLOSE_SESSION) :
    Disciplined (types ++ [type]) := by
  obtain ⟨middle, rfl, between⟩ := disciplined.going begun unclosed
  rcases allowed with more | closing
  · refine .inr ⟨middle ++ [type], [], by simp, fun other member => ?_, .inl rfl⟩
    rcases List.mem_append.mp member with old | new
    · exact between other old
    · exact List.mem_singleton.mp new ▸ more
  · exact .inr ⟨middle, [.CLOSE_SESSION], by rw [closing], between, .inr rfl⟩

/-- Only an opened word without a closing stands before a frame that opens nothing. -/
theorem Disciplined.opened (disciplined : Disciplined (before ++ type :: after))
    (notOpening : type ≠ .OPEN_SESSION) :
    ∃ middle, before = .OPEN_SESSION :: middle ∧ ∀ type ∈ middle, Between type := by
  rcases disciplined with empty | ⟨middle, closing, same, between, ending⟩
  · simp at empty
  cases before with
  | nil =>
      cases same
      exact absurd rfl notOpening
  | cons first before =>
      obtain ⟨rfl, rest⟩ := List.cons.inj same
      refine ⟨before, rfl, fun other member => between other ?_⟩
      have short : before.length ≤ middle.length := by
        have lengths : before.length + (after.length + 1) = middle.length + closing.length := by
          simpa using congrArg List.length rest
        have one : closing.length ≤ 1 := by
          rcases ending with rfl | rfl <;> simp
        omega
      have inner : before <+: middle :=
        List.prefix_of_prefix_length_le ⟨_, rest⟩ (List.prefix_append _ _) short
      exact inner.subset member
end Words

/-! What the agent makes of the frames of one channel. -/
def typesFor (channelId : ChannelId) (frames : List OutgoingFrame) : List TunnelFrameType :=
  (frames.filter fun frame => frame.channelId = some channelId).map (·.type)

def openStep (was : Bool) : TunnelFrameType → Bool
  | .OPEN_SESSION => true
  | .CLOSE_SESSION => false
  | _ => was

def openAfter (types : List TunnelFrameType) : Bool := types.foldl openStep false

theorem openAfter_append (types : List TunnelFrameType) (type : TunnelFrameType) :
    openAfter (types ++ [type]) = openStep (openAfter types) type := by
  simp [openAfter]

theorem typesFor_append (channelId : ChannelId) (frames : List OutgoingFrame) (frame : OutgoingFrame) :
    typesFor channelId (frames ++ [frame]) =
      typesFor channelId frames ++ if frame.channelId = some channelId then [frame.type] else [] := by
  unfold typesFor
  rw [List.filter_append, List.map_append]
  by_cases named : frame.channelId = some channelId <;> simp [named]

theorem written_eq (connectionId : ConnectionId) (channelId : ChannelId) (world : TunnelWorld) :
    written connectionId channelId world.broker.wire =
      typesFor channelId (sentOn connectionId world) := by
  unfold written typesFor sentOn
  rw [List.filter_map, List.map_map, List.filter_filter]
  simp only [Function.comp_def, Bool.decide_and, Bool.and_comm]

theorem deliveredStep_isSome {channelId : ChannelId} {sent : Option Bytes}
    {decoded : DecodedTunnelFrame} (named : decoded.frame.channelId = some channelId) :
    (deliveredStep channelId sent decoded).isSome = openStep sent.isSome decoded.frame.type := by
  rw [deliveredStep, if_pos named]
  cases decoded.frame.type <;> simp [openStep]

theorem deliveredBy_isSome (channelId : ChannelId) (frames : List OutgoingFrame) :
    (deliveredBy channelId (frames.map (·.decoded))).isSome =
      openAfter (typesFor channelId frames) := by
  induction frames using List.reverseRecOn with
  | nil => rfl
  | append_singleton frames frame ih =>
      rw [List.map_append, List.map_singleton, deliveredBy_append, typesFor_append]
      split
      · next named =>
        rw [deliveredStep_isSome named, ih, openAfter_append]
        rfl
      · next elsewhere =>
        have other : ¬frame.decoded.frame.channelId = some channelId := elsewhere
        rw [List.append_nil, deliveredStep, if_neg other]
        exact ih

theorem openAfter_opened {middle : List TunnelFrameType} (between : ∀ type ∈ middle, Between type) :
    openAfter (.OPEN_SESSION :: middle) = true := by
  induction middle using List.reverseRecOn with
  | nil => rfl
  | append_singleton middle type ih =>
      have before := ih fun other member => between other (List.mem_append_left _ member)
      rw [← List.cons_append, openAfter_append, before]
      rcases between type (List.mem_append_right _ List.mem_cons_self) with rfl | rfl <;> rfl

/-! The invariant, beside the one of the tables. -/

/-- Every connection's words are disciplined, and a channel it knows was announced. -/
structure Ordered (config : BrokerConfig) (broker : Broker) : Prop where
  represented : Represented config broker
  disciplined : ∀ connectionId channelId, Disciplined (written connectionId channelId broker.wire)
  begun : ∀ connectionId connection channelId, broker.objects connectionId = some connection →
    channelId ∈ connection.channels.known → written connectionId channelId broker.wire ≠ []

section Ordered
variable {config : BrokerConfig} {broker after : Broker} {connectionId : ConnectionId}
  {channelId : ChannelId}

/-- A frame for a channel is only on the wire of a connection that knows it. -/
theorem written_unknown (holds : Represented config broker)
    (unknown : ∀ connection, broker.objects connectionId = some connection →
      channelId ∉ connection.channels.known) : written connectionId channelId broker.wire = [] := by
  unfold written
  rw [List.map_eq_nil_iff, List.filter_eq_nil_iff]
  intro sent member matching
  obtain ⟨place, named⟩ := of_decide_eq_true matching
  obtain ⟨connection, object, known⟩ := holds.delivered sent member channelId named
  exact unknown connection (place ▸ object) known

theorem written_send {world : TunnelWorld} {other : ConnectionId} {second : ChannelId}
    {frame : OutgoingFrame} : written other second (world.send connectionId frame).broker.wire =
      written other second world.broker.wire ++
        if connectionId = other ∧ frame.channelId = some second then [frame.type] else [] := by
  unfold written TunnelWorld.send
  rw [List.filter_append, List.map_append]
  by_cases mine : connectionId = other ∧ frame.channelId = some second <;> simp [mine]

/-- A block that writes nothing and lets no connection know a new channel. -/
theorem Ordered.of_quiet (ordered : Ordered config broker) (represented : Represented config after)
    (wire : after.wire = broker.wire)
    (known : ∀ connectionId connection channelId, after.objects connectionId = some connection →
      channelId ∈ connection.channels.known → ∃ before,
        broker.objects connectionId = some before ∧ channelId ∈ before.channels.known) :
    Ordered config after where
  represented := represented
  disciplined connectionId channelId := by
    rw [wire]
    exact ordered.disciplined connectionId channelId
  begun connectionId connection channelId object member := by
    obtain ⟨before, there, was⟩ := known connectionId connection channelId object member
    rw [wire]
    exact ordered.begun connectionId before channelId there was

theorem closeChannel_known {registry closed : TunnelChannelRegistry}
    (done : registry.closeChannel channelId = .ok closed) : closed.known = registry.known := by
  obtain ⟨wasOpen, opened, retired, -⟩ := TunnelChannelRegistry.closeChannel_ok done
  ext other
  simp only [TunnelChannelRegistry.known, opened, retired, Finset.mem_union, Finset.mem_erase,
    Finset.mem_insert]
  by_cases same : other = channelId
  · simp [same, wasOpen]
  · simp [same]

theorem Ordered.retired {connection : BrokerTunnelConnection} {channels : TunnelChannelRegistry}
    (ordered : Ordered config broker) (object : broker.objects connectionId = some connection)
    (closed : connection.channels.closeChannel channelId = .ok channels) :
    Ordered config (broker.retired connectionId connection channels channelId) := by
  apply ordered.of_quiet (ordered.represented.retired object closed) rfl
  intro other found second there member
  rcases objects_setObject.mp there with ⟨rfl, rfl⟩ | ⟨-, same⟩
  · exact ⟨connection, object, closeChannel_known closed ▸ member⟩
  · exact ⟨found, same, member⟩

theorem Ordered.setStream {stream changed : BrokerTunnelStream} (ordered : Ordered config broker)
    (found : broker.streams connectionId channelId = some stream)
    (agent : changed.agentId = stream.agentId) :
    Ordered config (broker.setStream connectionId channelId changed) :=
  ordered.of_quiet (ordered.represented.setStream found agent) rfl
    fun _ connection _ object member => ⟨connection, object, member⟩

theorem ordered_upheld (config : BrokerConfig) : Upheld config (Ordered config) where
  represented _ ordered := ordered.represented
  created broker after connectionId record seenAt ordered unused created := by
    have kept := (represented_upheld config).created _ _ _ _ _ ordered.represented unused created
    obtain ⟨connection, rfl, -, opened, retired, -, -⟩ := Broker.newConnection_ok created
    apply ordered.of_quiet kept rfl
    intro other found channelId there member
    rcases objects_setObject.mp there with ⟨rfl, rfl⟩ | ⟨-, same⟩
    · simp [TunnelChannelRegistry.known, opened, retired] at member
    · exact ⟨found, same, member⟩
  registered broker after connectionId record ordered prepared registered := by
    have kept := (represented_upheld config).registered _ _ _ _ ordered.represented prepared registered
    obtain ⟨-, rfl⟩ := Broker.register_ok registered
    exact ordered.of_quiet kept rfl fun _ connection _ object member => ⟨connection, object, member⟩
  seen broker after connectionId seenAt ordered marked := by
    have kept := (represented_upheld config).seen _ _ _ _ ordered.represented marked
    obtain ⟨connection, object, rfl⟩ := Broker.markSeen_ok marked
    apply ordered.of_quiet kept rfl
    intro other found channelId there member
    rcases objects_setObject.mp there with ⟨rfl, rfl⟩ | ⟨-, same⟩
    · exact ⟨connection, object, member⟩
    · exact ⟨found, same, member⟩
  handled broker after connectionId decoded ordered handled := by
    rcases Broker.handleAgentFrame_ok handled with rfl |
      ⟨channelId, connection, stream, -, -, -, -, found, rfl⟩ |
      ⟨channelId, connection, channels, stream, -, object, closed, found, rfl⟩
    · exact ordered
    · exact ordered.setStream found rfl
    · have fed : Ordered config (broker.setStream connectionId channelId stream.feedEof) :=
        ordered.setStream found rfl
      exact fed.retired object closed
  dropped broker connectionId record ordered along := by
    have kept := (represented_upheld config).dropped _ _ _ ordered.represented along
    have same : (broker.dropConnection record.agentId connectionId).wire = broker.wire ∧
        (broker.dropConnection record.agentId connectionId).objects = broker.objects := by
      unfold Broker.dropConnection
      split
      · split
        · rw [Broker.registryDisconnect_eq]
          exact ⟨rfl, rfl⟩
        · rw [Broker.registryDisconnect_eq]
          exact ⟨rfl, rfl⟩
      · rw [Broker.registryDisconnect_eq]
        exact ⟨rfl, rfl⟩
    apply ordered.of_quiet kept same.1
    intro other found channelId there member
    rw [same.2] at there
    exact ⟨found, there, member⟩
  told world connectionId frame ordered unaddressed := by
    have unnamed : ∀ other channelId,
        written other channelId (world.send connectionId frame).broker.wire =
          written other channelId world.broker.wire := by
      intro other channelId
      rw [written_send, unaddressed]
      simp
    have kept := (represented_upheld config).told _ connectionId _ ordered.represented unaddressed
    refine ⟨kept, fun other channelId => ?_, fun other connection channelId object member => ?_⟩
    · rw [unnamed]
      exact ordered.disciplined other channelId
    · rw [unnamed]
      exact ordered.begun other connection channelId object member
end Ordered

/-! Calls that keep to it. -/

/-- No closing was written for a channel that is still open. -/
def Unclosed (channelId : ChannelId) (broker : Broker) : Prop :=
  ∀ connectionId, broker.openConnection channelId = .ok connectionId →
    .CLOSE_SESSION ∉ written connectionId channelId broker.wire

/-- No other connection than the agent's knows the channel. -/
def Fresh (agentId : Uuid) (channelId : ChannelId) (broker : Broker) : Prop :=
  ∀ connectionId connection, broker.objects connectionId = some connection →
    broker.connections agentId ≠ some connectionId → channelId ∉ connection.channels.known

inductive CarefulCall (library : Library) (config : BrokerConfig) :
    TunnelTask Unit → Broker → Prop where
  | openSession {broker} (agentId channelId nodeName hostKey username certificateUsername requestId) :
      Announces library config channelId nodeName username requestId → Fresh agentId channelId broker →
      CarefulCall library config (openSession library config agentId channelId nodeName hostKey username
        certificateUsername requestId) broker
  | sendData {broker} (channelId payload requestId) : Unclosed channelId broker →
      CarefulCall library config (sendData library config channelId payload requestId) broker
  | resizePty {broker} (channelId width height requestId) : Unclosed channelId broker →
      CarefulCall library config (resizePty library config channelId width height requestId) broker
  | closeSession {broker} (channelId requestId) : Unclosed channelId broker →
      CarefulCall library config (closeSession library config channelId requestId) broker

/-- Any streams of agents, and any careful calls. -/
def carefulPrograms (library : Library) (config : BrokerConfig) (task : BrokerTask)
    (program : TunnelTask Unit) (world : TunnelWorld) : Prop :=
  match task with
  | .stream _ => brokerPrograms library config task program world
  | _ => CarefulCall library config program world.broker

section Calls
variable {library : Library} {config : BrokerConfig} {state : TunnelWorld} {channelId : ChannelId}

theorem Ordered.sent {connectionId : ConnectionId} {frame : OutgoingFrame}
    (ordered : Ordered config state.broker) (unclosed : Unclosed channelId state.broker)
    (isOpen : state.broker.openConnection channelId = .ok connectionId)
    (named : frame.channelId = some channelId)
    (type : frame.type = .SESSION_DATA ∨ frame.type = .RESIZE_PTY ∨ frame.type = .CLOSE_SESSION) :
    Ordered config (state.send connectionId frame).broker where
  represented := channelFrame_represented ordered.represented isOpen named
  disciplined other second := by
    rw [written_send]
    split
    · rename_i mine
      obtain ⟨rfl, equal⟩ := mine
      cases named.symm.trans equal
      obtain ⟨-, connection, -, -, object, member⟩ := Broker.openConnection_ok isOpen
      have begun := ordered.begun connectionId connection channelId object (open_known member)
      apply (ordered.disciplined connectionId channelId).append begun (unclosed connectionId isOpen)
      rcases type with data | resize | closing
      · exact .inl (.inl data)
      · exact .inl (.inr resize)
      · exact .inr closing
    · rw [List.append_nil]
      exact ordered.disciplined other second
  begun other connection second object member := by
    rw [written_send]
    intro empty
    exact ordered.begun other connection second object member (List.append_eq_nil_iff.mp empty).1

theorem maySend_ordered (ordered : Keeps (Ordered config) state)
    (unclosed : Unclosed channelId state.broker) :
    MaySend brokerWorld (Keeps (Ordered config)) (owes none) channelId state :=
  maySend_of ordered fun _ _ isOpen named type => Ordered.sent ordered unclosed isOpen named type

theorem retireChannel_ordered {connectionId : ConnectionId} {broker : Broker}
    (ordered : Ordered config state.broker)
    (closed : Broker.retireChannel connectionId channelId state.broker = .ok broker) :
    owes none state (state.onBroker broker) ∧ Ordered config broker := by
  obtain ⟨owed, -⟩ := retireChannel_represented ordered.represented closed
  obtain ⟨connection, channels, object, done, rfl⟩ := Broker.retireChannel_ok closed
  exact ⟨owed, ordered.retired object done⟩

theorem openChannel_ordered {agentId : Uuid} {hostKey username certificateUsername : Str}
    {broker : Broker} {connectionId : ConnectionId} {frame : OutgoingFrame}
    (ordered : Ordered config state.broker) (fresh : Fresh agentId channelId state.broker)
    (opened : state.broker.openChannel agentId channelId hostKey username certificateUsername
      state.clock = .ok (broker, connectionId))
    (type : frame.type = .OPEN_SESSION) (named : frame.channelId = some channelId) :
    Ordered config ((state.onBroker broker).send connectionId frame).broker := by
  obtain ⟨connection, channels, held, object, -, added, same⟩ := Broker.openChannel_ok opened
  obtain ⟨unknown, inserted, retired, -⟩ := TunnelChannelRegistry.openChannel_ok added
  have unseen : Unseen channelId state.broker := by
    intro other found there
    by_cases mine : state.broker.connections agentId = some other
    · cases held.symm.trans mine
      cases object.symm.trans there
      exact unknown
    · exact fresh other found there mine
  have wire : broker.wire = state.broker.wire := by rw [same]; rfl
  obtain ⟨-, -, announced⟩ := openChannel_represented ordered.represented unseen opened
  have before : written connectionId channelId state.broker.wire = [] :=
    written_unknown ordered.represented (unseen connectionId)
  have now : ∀ other second, written other second ((state.onBroker broker).send connectionId frame).broker.wire =
      written other second state.broker.wire ++
        if connectionId = other ∧ frame.channelId = some second then [frame.type] else [] := by
    intro other second
    rw [written_send, ← wire]
    rfl
  refine ⟨(announced frame named).2, fun other second => ?_, fun other found second there member => ?_⟩
  · rw [now]
    split
    · rename_i mine
      obtain ⟨rfl, equal⟩ := mine
      cases named.symm.trans equal
      rw [before, type]
      exact .inr ⟨[], [], rfl, fun _ impossible => (List.not_mem_nil impossible).elim, .inl rfl⟩
    · rw [List.append_nil]
      exact ordered.disciplined other second
  · rw [now]
    by_cases mine : connectionId = other ∧ frame.channelId = some second
    · simp [mine]
    · rw [if_neg mine, List.append_nil]
      subst same
      have placed : (state.broker.setObject connectionId _).objects other = some found := there
      rcases objects_setObject.mp placed with ⟨rfl, rfl⟩ | ⟨-, old⟩
      · have apart : second ≠ channelId := by
          rintro rfl
          exact mine ⟨rfl, named⟩
        refine ordered.begun other connection second object ?_
        simpa [TunnelChannelRegistry.known, inserted, retired, apart] using member
      · exact ordered.begun other found second old member
end Calls

theorem careful_safe {library : Library} {config : BrokerConfig} {task : BrokerTask}
    {program : TunnelTask Unit} {state : TunnelWorld}
    (started : carefulPrograms library config task program state)
    (ordered : Keeps (Ordered config) state) :
    Safe brokerWorld (Keeps (Ordered config)) (contract task.owner) program state := by
  have calls : ∀ {program}, CarefulCall library config program state.broker →
      Safe brokerWorld (Keeps (Ordered config)) (contract none) program state := by
    intro program careful
    cases careful with
    | openSession agentId channelId nodeName hostKey username certificateUsername requestId announces fresh =>
        refine safe_of_calls (openSession_calls ordered (owes_refl none) (fun _ _ _ => drained_keeps) ?_)
        intro broker connectionId opened
        obtain ⟨connection, channels, held, object, -, -, same⟩ := Broker.openChannel_ok opened
        refine ⟨by rw [same]; exact fun _ _ => apart_opened held object,
          fun silent => absurd announces silent, fun frame type named => ⟨?_, ?_⟩⟩
        · have still : (state.onBroker broker).broker.connections agentId = some connectionId := by
            rw [same]
            exact held
          exact owes_send still
        · exact openChannel_ordered ordered fresh opened type named
    | sendData channelId payload requestId unclosed =>
        exact safe_of_calls (sendData_calls (maySend_ordered ordered unclosed))
    | resizePty channelId width height requestId unclosed =>
        exact safe_of_calls (resizePty_calls (maySend_ordered ordered unclosed))
    | closeSession channelId requestId unclosed =>
        refine safe_of_calls
          (closeSession_calls (maySend_ordered ordered unclosed) (owes_refl none) ?_)
        intro connectionId before after broker given known closed
        exact retireChannel_ordered (drained_keeps given known) closed
  cases task with
  | stream connectionId =>
      obtain ⟨stream, turns, -, rfl, rfl, rfl, unused⟩ := started
      exact safe_of_stream (ordered_upheld stream.config) ordered unused
  | opening channelId => exact calls started
  | call serial => exact calls started

/-- While no call is made for a channel whose closing waits for the writer, and
every opening is announced, the frames for a channel are one opening, data and
sizes, and at most one closing. So whatever part of the link the agent has read,
data and sizes that come next are for a channel it has open. -/
theorem wire_disciplined (library : Library) (config : BrokerConfig) {start : TunnelWorld}
    {pool : BrokerPool} (represented : Represented config start.broker)
    (unused : ∀ channelId, Unseen channelId start.broker)
    (reached : Reachable (fun _ => brokerWorld) (carefulPrograms library config) start pool)
    (connectionId : ConnectionId) (channelId : ChannelId) :
    Disciplined (written connectionId channelId pool.state.broker.wire) ∧
    ∀ taken frame rest, sentOn connectionId pool.state = taken ++ frame :: rest →
      frame.channelId = some channelId → Between frame.type →
      (deliveredBy channelId (taken.map (·.decoded))).isSome := by
  have initial : Ordered config start.broker := by
    refine ⟨represented, fun other second => .inl ?_, fun other connection second object member => ?_⟩
    · exact written_unknown represented (unused second other)
    · exact absurd member (unused second other connection object)
  obtain ⟨ordered, -⟩ := broker_pool_safe initial (fun _ _ _ => careful_safe) reached
  have disciplined := ordered.disciplined connectionId channelId
  refine ⟨disciplined, fun taken frame rest sent named between => ?_⟩
  rw [written_eq, sent, typesFor, List.filter_append,
    List.filter_cons_of_pos (by simpa using named), List.map_append, List.map_cons] at disciplined
  have notOpening : frame.type ≠ .OPEN_SESSION := by
    rcases between with type | type <;> rw [type] <;> decide
  obtain ⟨middle, opened, inner⟩ := disciplined.opened notOpening
  have word : typesFor channelId taken = .OPEN_SESSION :: middle := opened
  rw [deliveredBy_isSome, word]
  exact openAfter_opened inner

/-! One channel of the connected agent, and the frames of its calls. -/
def worldConnected : TunnelWorld := { worldOne with broker := connectedOne }

def frameOne (type : TunnelFrameType) (payload : Bytes) : OutgoingFrame :=
  ⟨type, lit "r", some (lit "a"), payload⟩

abbrev openingOne : TunnelTask Unit :=
  openSession libraryOne streamOne.config agentOne (lit "a") (lit "n") (lit "key") (lit "alice")
    (lit "alice") (lit "r")

theorem dataOne_encodes : Encodes libraryOne streamOne.config (frameOne .SESSION_DATA [108]) := by
  decide +kernel

theorem closeOne_encodes : Encodes libraryOne streamOne.config (frameOne .CLOSE_SESSION []) := by
  decide +kernel

theorem openFrameOne : ∃ frame, openFrame libraryOne (lit "a") (lit "n") (lit "alice") (lit "r") =
    some frame ∧ Encodes libraryOne streamOne.config frame := by
  have encodes : (openFrame libraryOne (lit "a") (lit "n") (lit "alice") (lit "r")).any
      (fun frame => (frame.encode libraryOne.json streamOne.config.maxFrameBytes).toBool) = true := by
    decide +kernel
  cases made : openFrame libraryOne (lit "a") (lit "n") (lit "alice") (lit "r") with
  | none =>
      rw [made] at encodes
      cases encodes
  | some frame =>
      rw [made] at encodes
      exact ⟨frame, rfl, encodes⟩

/-- The channel is opened, and its opening waits for the writer. -/
theorem opened_one : ∃ frame after, frame.type = .OPEN_SESSION ∧ frame.channelId = some (lit "a") ∧
    Announces libraryOne streamOne.config (lit "a") (lit "n") (lit "alice") (lit "r") ∧
    settle openingOne worldConnected = (wait .drain, after) ∧
    after.broker.openConnection (lit "a") = .ok (lit "c1") ∧
    after.broker.wire = [⟨lit "c1", frame⟩] := by
  obtain ⟨frame, made, encodes⟩ := openFrameOne
  obtain ⟨broker, opened, silent⟩ : ∃ broker, worldConnected.broker.openChannel agentOne (lit "a")
      (lit "key") (lit "alice") (lit "alice") worldConnected.clock = .ok (broker, lit "c1") ∧
      broker.wire = [] := ⟨_, rfl, rfl⟩
  have settled : settle openingOne worldConnected =
      (wait .drain, (worldConnected.onBroker broker).send (lit "c1") frame) :=
    settle_openSession opened made encodes
  obtain ⟨type, named⟩ := openFrame_some made
  have wire : ((worldConnected.onBroker broker).send (lit "c1") frame).broker.wire =
      [⟨lit "c1", frame⟩] := congrArg (· ++ [Sent.mk (lit "c1") frame]) silent
  have isOpen : broker.openConnection (lit "a") = .ok (lit "c1") := Broker.openChannel_isOpen opened
  exact ⟨frame, _, type, named, encodes.announces made, settled, isOpen, wire⟩

abbrev CarefulOne : BrokerPool → Prop :=
  Reachable (fun _ => brokerWorld) (carefulPrograms libraryOne streamOne.config) worldConnected

/-- The channel is opened and a key is sent. -/
theorem wire_disciplined_key : ∃ pool, CarefulOne pool ∧
    written (lit "c1") (lit "a") pool.state.broker.wire = [.OPEN_SESSION, .SESSION_DATA] ∧
    Disciplined (written (lit "c1") (lit "a") pool.state.broker.wire) := by
  obtain ⟨frame, after, type, named, announces, settled, isOpen, wire⟩ := opened_one
  have fresh : CarefulOne ⟨fun _ => none, worldConnected⟩ := .start
  have unknown : Fresh agentOne (lit "a") worldConnected.broker :=
    fun connectionId connection object _ =>
      connectedOne_unseen (lit "a") connectionId connection object
  obtain ⟨opening, reached, state, tasks⟩ := fresh.spawned (.call 0) rfl
    (.openSession agentOne (lit "a") _ _ _ _ _ announces unknown) settled
  have unclosed : Unclosed (lit "a") opening.state.broker := by
    intro connectionId _
    rw [state, wire]
    unfold written
    by_cases place : lit "c1" = connectionId <;> simp [place, named, type]
  have free : opening.tasks (.call 1) = none := by
    rw [tasks]
    rfl
  obtain ⟨sending, typed, sent, -⟩ := reached.spawned (.call 1) free
    (.sendData (lit "a") [108] (lit "r") unclosed) (settle_sendData (by rw [state]; exact isOpen) dataOne_encodes)
  have word : written (lit "c1") (lit "a") sending.state.broker.wire = [.OPEN_SESSION, .SESSION_DATA] := by
    rw [sent, state, written_send, wire]
    simp [written, named, type]
  exact ⟨sending, typed, word, (wire_disciplined libraryOne streamOne.config connectedOne_represented
    connectedOne_unseen typed (lit "c1") (lit "a")).1⟩

abbrev ReachableOne : BrokerPool → Prop := BrokerReachable libraryOne streamOne.config worldConnected

/-- A key is sent while the channel's closing waits for the writer. -/
theorem key_after_closing : ∃ pool, ReachableOne pool ∧
    ¬ Disciplined (written (lit "c1") (lit "a") pool.state.broker.wire) := by
  obtain ⟨frame, after, type, named, announces, settled, isOpen, wire⟩ := opened_one
  have fresh : ReachableOne ⟨fun _ => none, worldConnected⟩ := .start
  obtain ⟨opening, reached, state, tasks⟩ := fresh.spawned (.opening (lit "a")) rfl
    ⟨agentOne, _, _, _, _, _, rfl, connectedOne_unseen (lit "a")⟩ settled
  have isOpen : opening.state.broker.openConnection (lit "a") = .ok (lit "c1") := by
    rw [state]
    exact isOpen
  have free : opening.tasks (.call 0) = none := by
    rw [tasks]
    rfl
  obtain ⟨closing, closed, shut, left⟩ := reached.spawned (.call 0) free
    (.closeSession (lit "a") (lit "r")) (settle_closeSession isOpen closeOne_encodes)
  have stillOpen : closing.state.broker.openConnection (lit "a") = .ok (lit "c1") := by
    rw [shut]
    exact isOpen
  have idle : closing.tasks (.call 1) = none := by
    rw [left, tasks]
    rfl
  obtain ⟨sending, typed, sent, -⟩ := closed.spawned (.call 1) idle
    (.sendData (lit "a") [108] (lit "r")) (settle_sendData stillOpen dataOne_encodes)
  have word : written (lit "c1") (lit "a") sending.state.broker.wire =
      [.OPEN_SESSION, .CLOSE_SESSION, .SESSION_DATA] := by
    rw [sent, written_send, shut, written_send, state, wire]
    simp [written, named, type]
  refine ⟨sending, typed, fun disciplined => ?_⟩
  rw [word] at disciplined
  have before : Disciplined ([.OPEN_SESSION, .CLOSE_SESSION] ++ .SESSION_DATA :: []) := disciplined
  obtain ⟨middle, same, between⟩ := before.opened (by decide)
  cases same
  rcases between .CLOSE_SESSION List.mem_cons_self with impossible | impossible <;> cases impossible

end VibeConnect.WireDiscipline
