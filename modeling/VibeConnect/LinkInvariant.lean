import VibeConnect.TunnelLink
import VibeConnect.WireDiscipline

/-! The invariant of a tunnel, end by end and link by link, and that everything
a task does between two awaits keeps it. Bytes are accounted for where they are:
on a link, in the buffer of a stream, or returned by a read. -/
namespace VibeConnect.LinkInvariant
open Python.Text Python.Values Python.Coroutine Python.Tasks Models TunnelProtocol TunnelState
open TunnelAuthenticator TunnelBroker TunnelAdmission BrokerInvariant AgentChannels AgentTunnel
open WireDiscipline TunnelLink

/-- The bytes that frames carry on a channel. -/
def outgoing (channelId : ChannelId) (frames : List OutgoingFrame) : Bytes :=
  dataFor channelId (frames.map (·.decoded))

/-- Everything a stream was fed: what its reads returned and what is buffered. -/
def total (reads : List StreamRead) (stream : Option BrokerTunnelStream) : Bytes :=
  (reads.map (·.data)).flatten ++ (stream.map (·.buffer)).getD []

section Bytes
variable {channelId : ChannelId} {frames part all : List OutgoingFrame} {frame : OutgoingFrame}

@[simp] theorem outgoing_append : outgoing channelId (frames ++ [frame]) =
    outgoing channelId frames ++ carried channelId frame.decoded := by
  unfold outgoing
  rw [List.map_append, List.map_singleton, dataFor_append]

theorem outgoing_grows (ahead : part <+: all) : outgoing channelId part <+: outgoing channelId all :=
  dataFor_prefix (ahead.map _)

theorem carried_other (other : frame.type ≠ .SESSION_DATA ∨ frame.channelId ≠ some channelId) :
    carried channelId frame.decoded = [] := by
  apply if_neg
  rintro ⟨type, named⟩
  rcases other with wrong | apart
  · exact wrong type
  · exact apart named

theorem outgoing_silent (silent : ∀ frame ∈ frames,
    frame.type ≠ .SESSION_DATA ∨ frame.channelId ≠ some channelId) : outgoing channelId frames = [] := by
  unfold outgoing dataFor
  apply List.flatMap_eq_nil_iff.mpr
  intro decoded member
  obtain ⟨frame, was, rfl⟩ := List.mem_map.mp member
  exact carried_other (silent frame was)
end Bytes

/-- The agent reads what the server wrote, and makes a local connection for each
opening; no channel is opened twice. -/
structure Downlink (loop : AgentLoop) (sent : List DecodedTunnelFrame)
    (streams : ChannelId → Option BrokerTunnelStream) : Prop where
  delivered : loop.frames <+: sent
  created : loop.created <+: opened sent
  once : (opened sent).Nodup
  known : ∀ channelId ∈ opened sent, (streams channelId).isSome

/-- The server reads what the agent wrote: heartbeats, and the bytes that local
connections produced. -/
structure Uplink (side : AgentSide) (received handled : List OutgoingFrame) : Prop where
  handled : handled <+: received
  received : received <+: side.emitted
  relayed : ∀ frame ∈ side.emitted, frame.type = .HEARTBEAT ∨
    frame.type = .SESSION_DATA ∧ ∃ channelId ∈ side.loop.created, frame.channelId = some channelId
  produced : ∀ number channelId, side.loop.created[number]? = some channelId →
    outgoing channelId side.emitted <+: (side.forwarders number).read

/-- Every known channel has a stream, which was fed what was handled. -/
structure Supplied (object : Option BrokerTunnelConnection)
    (streams : ChannelId → Option BrokerTunnelStream) (reads : ChannelId → List StreamRead)
    (handled : List OutgoingFrame) : Prop where
  attached : ∃ connection, object = some connection ∧
    connection.adapters = connection.channels.openChannels ∧
    ∀ channelId, channelId ∈ connection.channels.known ↔ (streams channelId).isSome
  unread : ∀ channelId, streams channelId = none → reads channelId = []
  fed : ∀ channelId, total (reads channelId) (streams channelId) <+: outgoing channelId handled
  ended : ∀ channelId, ∀ read ∈ reads channelId, read.data = [] → read.closed = true ∧ read.left = []

def IsOpen (connectionId : ConnectionId) (channelId : ChannelId) (world : TunnelWorld) : Prop :=
  ∃ connection, world.broker.objects connectionId = some connection ∧
    channelId ∈ connection.channels.openChannels

structure Linked (connectionId : ConnectionId) (world : TunnelWorld) : Prop where
  down : Downlink (loopOf connectionId world) (sent connectionId world)
    (world.broker.streams connectionId)
  up : Uplink (world.agentSide connectionId) (world.received connectionId) (world.handled connectionId)
  supplied : Supplied (world.broker.objects connectionId) (world.broker.streams connectionId)
    (world.reads connectionId) (world.handled connectionId)
  uncrossed : world.crossed = false → ∀ channelId, InFlight connectionId channelId world →
    IsOpen connectionId channelId world

section Downlinks
variable {loop after : AgentLoop} {frames : List DecodedTunnelFrame} {decoded : DecodedTunnelFrame}
  {streams next : ChannelId → Option BrokerTunnelStream} {channelId : ChannelId}

theorem Downlink.congr (down : Downlink loop frames streams) (read : after.frames = loop.frames)
    (created : after.created = loop.created)
    (known : ∀ channelId, (streams channelId).isSome → (next channelId).isSome) :
    Downlink after frames next where
  delivered := read ▸ down.delivered
  created := created ▸ down.created
  once := down.once
  known channelId member := known channelId (down.known channelId member)

/-- A frame that opens nothing. -/
theorem Downlink.plain (down : Downlink loop frames streams) (idle : opening decoded = none) :
    Downlink loop (frames ++ [decoded]) streams := by
  have same : opened (frames ++ [decoded]) = opened frames := by
    rw [opened_append, idle]
    exact List.append_nil _
  refine ⟨down.delivered.trans (List.prefix_append _ _), ?_, ?_, ?_⟩
  · rw [same]
    exact down.created
  · rw [same]
    exact down.once
  · rw [same]
    exact down.known

/-- The opening of a channel that has had no stream. -/
theorem Downlink.announce (down : Downlink loop frames streams)
    (opens : opening decoded = some channelId) (unknown : streams channelId = none)
    (known : ∀ channelId, (streams channelId).isSome → (next channelId).isSome)
    (placed : (next channelId).isSome) : Downlink loop (frames ++ [decoded]) next := by
  have more : opened (frames ++ [decoded]) = opened frames ++ [channelId] := by
    rw [opened_append, opens]
    rfl
  refine ⟨down.delivered.trans (List.prefix_append _ _), ?_, ?_, ?_⟩
  · rw [more]
    exact down.created.trans (List.prefix_append _ _)
  · rw [more]
    apply down.once.append (List.nodup_singleton channelId)
    intro other member same
    rw [List.mem_singleton.mp same] at member
    have absurdly := down.known channelId member
    rw [unknown] at absurdly
    cases absurdly
  · rw [more]
    intro other member
    rcases List.mem_append.mp member with old | new
    · exact known other (down.known other old)
    · rw [List.mem_singleton.mp new]
      exact placed

/-- Each local connection has a channel of its own. -/
theorem Downlink.sole (down : Downlink loop frames streams) : loop.created.Nodup :=
  down.once.sublist down.created.sublist
end Downlinks

section Uplinks
variable {side after : AgentSide} {received handled : List OutgoingFrame} {frame : OutgoingFrame}
  {channelId : ChannelId}

theorem Uplink.silent (up : Uplink side received handled) (absent : channelId ∉ side.loop.created) :
    outgoing channelId side.emitted = [] := by
  apply outgoing_silent
  intro frame member
  rcases up.relayed frame member with heartbeat | ⟨-, other, created, named⟩
  · rw [heartbeat]
    exact .inl TunnelFrameType.noConfusion
  · refine .inr fun same => ?_
    rw [Option.some.inj (same.symm.trans named)] at absent
    exact absent created

/-- Nothing that the uplink reads of the agent's side has changed, but local
connections may have produced more. -/
theorem Uplink.congr (up : Uplink side received handled) (created : after.loop.created = side.loop.created)
    (emitted : after.emitted = side.emitted)
    (read : ∀ number, (side.forwarders number).read <+: (after.forwarders number).read) :
    Uplink after received handled where
  handled := up.handled
  received := emitted ▸ up.received
  relayed frame member := by
    rw [created]
    exact up.relayed frame (emitted ▸ member)
  produced number channelId found := by
    rw [emitted]
    exact (up.produced number channelId (created ▸ found)).trans (read number)

/-- A new local connection, for a channel that had none. -/
theorem Uplink.create (up : Uplink side received handled) (fresh : channelId ∉ side.loop.created) :
    Uplink { side with loop := side.loop.create channelId } received handled where
  handled := up.handled
  received := up.received
  relayed frame member := by
    rcases up.relayed frame member with heartbeat | ⟨data, other, created, named⟩
    · exact .inl heartbeat
    · exact .inr ⟨data, other, List.mem_append_left _ created, named⟩
  produced number other found := by
    by_cases old : number < side.loop.created.length
    · exact up.produced number other ((List.getElem?_append_left old).symm.trans found)
    · have last : other = channelId := by
        have later : (side.loop.created ++ [channelId])[number]? = some other := found
        rw [List.getElem?_append_right (not_lt.mp old)] at later
        exact List.mem_singleton.mp (List.mem_of_getElem? later)
      have none : outgoing other side.emitted = [] := up.silent (last ▸ fresh)
      change outgoing other side.emitted <+: _
      rw [none]
      exact List.nil_prefix

theorem Uplink.heartbeat (up : Uplink side received handled) (type : frame.type = .HEARTBEAT) :
    Uplink { side with emitted := side.emitted ++ [frame] } received handled where
  handled := up.handled
  received := up.received.trans (List.prefix_append _ _)
  relayed other member := by
    rcases List.mem_append.mp member with old | new
    · exact up.relayed other old
    · rw [List.mem_singleton.mp new]
      exact .inl type
  produced number channelId found := by
    have dry : carried channelId frame.decoded = [] := carried_other (.inl (by rw [type]; decide))
    rw [outgoing_append, dry, List.append_nil]
    exact up.produced number channelId found

/-- What a local connection produced last goes on the link. -/
theorem Uplink.relay {number : Nat} (up : Uplink side received handled)
    (sole : side.loop.created.Nodup) (created : side.loop.created[number]? = some channelId)
    (type : frame.type = .SESSION_DATA) (named : frame.channelId = some channelId)
    (read : (side.forwarders number).read = outgoing channelId side.emitted ++ frame.payload) :
    Uplink { side with emitted := side.emitted ++ [frame] } received handled where
  handled := up.handled
  received := up.received.trans (List.prefix_append _ _)
  relayed other member := by
    rcases List.mem_append.mp member with old | new
    · exact up.relayed other old
    · rw [List.mem_singleton.mp new]
      exact .inr ⟨type, channelId, List.mem_of_getElem? created, named⟩
  produced second other found := by
    by_cases same : other = channelId
    · subst same
      have small : second < side.loop.created.length := (List.getElem?_eq_some_iff.mp found).1
      have equal : second = number := (List.getElem?_inj small sole).mp (found.trans created.symm)
      have data : carried other frame.decoded = frame.payload := if_pos ⟨type, named⟩
      rw [outgoing_append, data, equal]
      change _ <+: (side.forwarders number).read
      rw [read]
    · have dry : carried other frame.decoded = [] :=
        carried_other (.inr fun equal => same (Option.some.inj (equal.symm.trans named)))
      rw [outgoing_append, dry, List.append_nil]
      exact up.produced second other found
end Uplinks

section Supplies
variable {object after : Option BrokerTunnelConnection} {connection : BrokerTunnelConnection}
  {streams next : ChannelId → Option BrokerTunnelStream} {reads : ChannelId → List StreamRead}
  {handled : List OutgoingFrame} {channelId : ChannelId} {stream : BrokerTunnelStream}

theorem Supplied.placed (supplied : Supplied object streams reads handled)
    (found : object = some connection) : channelId ∈ connection.channels.known ↔
      (streams channelId).isSome := by
  obtain ⟨other, same, -, known⟩ := supplied.attached
  cases found.symm.trans same
  exact known channelId

/-- More was handled, or the same. -/
theorem Supplied.later {more : List OutgoingFrame} (supplied : Supplied object streams reads handled)
    (ahead : handled <+: more) : Supplied object streams reads more where
  attached := supplied.attached
  unread := supplied.unread
  fed channelId := (supplied.fed channelId).trans (outgoing_grows ahead)
  ended := supplied.ended

/-- Streams with the same bytes in them. -/
theorem Supplied.restream (supplied : Supplied object streams reads handled)
    (known : ∀ channelId, (next channelId).isSome = (streams channelId).isSome)
    (bytes : ∀ channelId, total (reads channelId) (next channelId) =
      total (reads channelId) (streams channelId)) : Supplied object next reads handled where
  attached := by
    obtain ⟨connection, found, attached, placed⟩ := supplied.attached
    exact ⟨connection, found, attached, fun channelId => by rw [known]; exact placed channelId⟩
  unread channelId none := by
    apply supplied.unread
    have gone := known channelId
    rw [none] at gone
    exact Option.isNone_iff_eq_none.mp (Option.isSome_eq_false_iff.mp gone.symm)
  fed channelId := by
    rw [bytes]
    exact supplied.fed channelId
  ended := supplied.ended

/-- A connection object whose channels are known to the same streams. -/
theorem Supplied.reobject {changed : BrokerTunnelConnection}
    (supplied : Supplied object streams reads handled) (found : object = some connection)
    (adapters : changed.adapters = changed.channels.openChannels)
    (known : changed.channels.known = connection.channels.known) :
    Supplied (some changed) streams reads handled where
  attached := by
    refine ⟨changed, rfl, adapters, fun channelId => ?_⟩
    rw [known]
    exact supplied.placed found
  unread := supplied.unread
  fed := supplied.fed
  ended := supplied.ended

theorem openChannel_known {registry opened : TunnelChannelRegistry} {other : ChannelId}
    (done : registry.openChannel channelId = .ok opened) :
    other ∈ opened.known ↔ other = channelId ∨ other ∈ registry.known := by
  obtain ⟨-, more, retired, -⟩ := TunnelChannelRegistry.openChannel_ok done
  unfold TunnelChannelRegistry.known
  rw [more, retired, Finset.insert_union, Finset.mem_insert]

/-- A channel that was not known gets a stream with nothing in it. -/
theorem Supplied.opened {channels : TunnelChannelRegistry} (supplied : Supplied object streams reads handled)
    (found : object = some connection) (added : connection.channels.openChannel channelId = .ok channels)
    (empty : stream.buffer = []) :
    Supplied (some { connection with
        channels := channels, adapters := insert channelId connection.adapters })
      (Function.update streams channelId (some stream)) reads handled := by
  obtain ⟨fresh, more, -, -⟩ := TunnelChannelRegistry.openChannel_ok added
  obtain ⟨other, same, attached, -⟩ := supplied.attached
  cases found.symm.trans same
  have none : streams channelId = none := by
    apply Option.isNone_iff_eq_none.mp
    rw [Option.isNone_iff_eq_none, ← Option.not_isSome_iff_eq_none]
    exact fun known => fresh ((supplied.placed found).mpr known)
  refine ⟨⟨_, rfl, ?_, fun other => ?_⟩, fun other unplaced => ?_, fun other => ?_, supplied.ended⟩
  · rw [more, attached]
  · rw [openChannel_known added]
    by_cases same : other = channelId
    · rw [same, Function.update_self]
      exact ⟨fun _ => rfl, fun _ => .inl rfl⟩
    · rw [Function.update_of_ne same, ← supplied.placed found]
      exact or_iff_right same
  · by_cases same : other = channelId
    · rw [same, Function.update_self] at unplaced
      cases unplaced
    · rw [Function.update_of_ne same] at unplaced
      exact supplied.unread other unplaced
  · by_cases same : other = channelId
    · rw [same, Function.update_self, total, supplied.unread channelId none, Option.map_some, empty]
      exact List.nil_prefix
    · rw [Function.update_of_ne same]
      exact supplied.fed other

theorem total_update {other : ChannelId} : total (reads other)
    (Function.update streams channelId (some stream) other) =
      if other = channelId then (reads channelId |>.map (·.data)).flatten ++ stream.buffer
      else total (reads other) (streams other) := by
  by_cases same : other = channelId
  · rw [same, Function.update_self, if_pos rfl]
    rfl
  · rw [Function.update_of_ne same, if_neg same]

theorem isSome_update {other : ChannelId} (found : streams channelId = some stream)
    (changed : BrokerTunnelStream) :
    (Function.update streams channelId (some changed) other).isSome = (streams other).isSome := by
  by_cases same : other = channelId
  · rw [same, Function.update_self, found]
    rfl
  · rw [Function.update_of_ne same]

/-- A change of a stream object's flags. -/
theorem Supplied.flagged {changed : BrokerTunnelStream}
    (supplied : Supplied object streams reads handled) (found : streams channelId = some stream)
    (buffer : changed.buffer = stream.buffer) :
    Supplied object (Function.update streams channelId (some changed)) reads handled := by
  apply supplied.restream fun other => isSome_update found changed
  intro other
  rw [total_update]
  split
  · rename_i same
    rw [same, total, found, buffer]
    rfl
  · rfl

/-- A data frame that was handled goes to the stream of its channel. -/
theorem Supplied.feed {payload : Bytes} (supplied : Supplied object streams reads handled)
    (found : streams channelId = some stream)
    (due : total (reads channelId) (streams channelId) ++ payload <+: outgoing channelId handled) :
    Supplied object (Function.update streams channelId (some (stream.feedData payload))) reads
      handled where
  attached := by
    obtain ⟨connection, object, attached, placed⟩ := supplied.attached
    refine ⟨connection, object, attached, fun other => ?_⟩
    rw [isSome_update found]
    exact placed other
  unread other none := by
    apply supplied.unread
    have gone : (Function.update streams channelId (some (stream.feedData payload)) other).isSome =
        (streams other).isSome := isSome_update found (stream.feedData payload)
    rw [none] at gone
    exact Option.isNone_iff_eq_none.mp (Option.isSome_eq_false_iff.mp gone.symm)
  fed other := by
    rw [total_update]
    split
    · rename_i same
      rw [same]
      rw [total, found, Option.map_some, Option.getD_some, List.append_assoc] at due
      exact due
    · exact supplied.fed other
  ended := supplied.ended

/-- A read takes its bytes out of the buffer. -/
theorem Supplied.draw {n : Int} (supplied : Supplied object streams reads handled)
    (found : streams channelId = some stream) (asked : n ≠ 0)
    (ready : stream.buffer ≠ [] ∨ stream.closed = true) :
    Supplied object (Function.update streams channelId (some (taken n stream).2))
      (Function.update reads channelId (reads channelId ++
        [⟨(taken n stream).1, stream.closed, (taken n stream).2.buffer⟩])) handled where
  attached := by
    obtain ⟨connection, object, attached, placed⟩ := supplied.attached
    refine ⟨connection, object, attached, fun other => ?_⟩
    rw [isSome_update found]
    exact placed other
  unread other none := by
    have apart : other ≠ channelId := by
      rintro rfl
      rw [Function.update_self] at none
      cases none
    rw [Function.update_of_ne apart] at none ⊢
    exact supplied.unread other none
  fed other := by
    by_cases same : other = channelId
    · have kept : total (reads channelId ++ [⟨(taken n stream).1, stream.closed,
          (taken n stream).2.buffer⟩]) (some (taken n stream).2) =
          total (reads channelId) (streams channelId) := by
        rw [total, total, found, List.map_append, List.flatten_append, Option.map_some,
          Option.map_some, Option.getD_some, Option.getD_some, List.append_assoc]
        have whole := taken_append n stream
        simpa using whole
      rw [same, Function.update_self, Function.update_self, kept]
      exact supplied.fed channelId
    · rw [Function.update_of_ne same, Function.update_of_ne same]
      exact supplied.fed other
  ended other read member empty := by
    by_cases same : other = channelId
    · rw [same, Function.update_self] at member
      rcases List.mem_append.mp member with old | new
      · exact supplied.ended channelId read old empty
      · rw [List.mem_singleton.mp new] at empty ⊢
        have dry := taken_empty asked empty
        have left : (taken n stream).2.buffer = [] := by
          have whole := taken_append n stream
          rw [dry] at whole
          exact (List.append_eq_nil_iff.mp whole).2
        exact ⟨ready.resolve_left fun wet => wet dry, left⟩
    · rw [Function.update_of_ne same] at member
      exact supplied.ended other read member empty
end Supplies

/-! What the tasks do to the world. -/
section Broker
variable {connectionId other : ConnectionId} {world : TunnelWorld} {broker : Broker}
  {frame : OutgoingFrame} {channelId : ChannelId}

theorem sent_send : sent connectionId (world.send other frame) =
    sent connectionId world ++ if other = connectionId then [frame.decoded] else [] := by
  by_cases same : other = connectionId
  · rw [if_pos same, same]
    simp [sent]
  · rw [if_neg same, List.append_nil]
    simp [sent, sentOn, TunnelWorld.send, same]

theorem Linked.cross (linked : Linked connectionId world) : Linked connectionId (cross world) where
  down := linked.down
  up := linked.up
  supplied := linked.supplied
  uncrossed impossible := by cases impossible

/-- A block on the broker's tables. -/
theorem Linked.rebroker (linked : Linked connectionId world) (wire : broker.wire = world.broker.wire)
    (known : ∀ channelId, (world.broker.streams connectionId channelId).isSome →
      (broker.streams connectionId channelId).isSome)
    (supplied : Supplied (broker.objects connectionId) (broker.streams connectionId)
      (world.reads connectionId) (world.handled connectionId))
    (still : world.crossed = false → ∀ channelId, InFlight connectionId channelId world →
      IsOpen connectionId channelId world → IsOpen connectionId channelId (world.onBroker broker)) :
    Linked connectionId (world.onBroker broker) where
  down := by
    have same : sent connectionId (world.onBroker broker) = sent connectionId world := by
      unfold sent sentOn TunnelWorld.onBroker
      rw [wire]
    rw [same]
    exact linked.down.congr rfl rfl known
  up := linked.up
  supplied := supplied
  uncrossed going channelId flying := still going channelId flying (linked.uncrossed going channelId flying)

theorem Linked.send (linked : Linked connectionId world) (idle : opening frame.decoded = none) :
    Linked connectionId (world.send other frame) where
  down := by
    rw [sent_send]
    split
    · exact linked.down.plain idle
    · rw [List.append_nil]
      exact linked.down
  up := linked.up
  supplied := linked.supplied
  uncrossed := linked.uncrossed

/-- A connection that a block leaves alone. -/
theorem Linked.aside (linked : Linked connectionId world) (wire : broker.wire = world.broker.wire)
    (object : broker.objects connectionId = world.broker.objects connectionId)
    (streams : broker.streams connectionId = world.broker.streams connectionId) :
    Linked connectionId (world.onBroker broker) := by
  refine linked.rebroker wire ?_ ?_ ?_
  · rw [streams]
    exact fun _ => id
  · rw [object, streams]
    exact linked.supplied
  · rintro - channelId - ⟨connection, found, member⟩
    exact ⟨connection, object.trans found, member⟩

/-- A channel is opened, on this connection or another, and its opening written. -/
theorem Linked.begin {agentId : Uuid} {hostKey username certificateUsername : Str} {now : DateTime}
    (linked : Linked connectionId world) (done : world.broker.openChannel agentId channelId hostKey
      username certificateUsername now = .ok (broker, other)) :
    Linked connectionId (world.onBroker broker) ∧ ∀ frame : OutgoingFrame, frame.type = .OPEN_SESSION →
      frame.channelId = some channelId →
      Linked connectionId ((world.onBroker broker).send other frame) := by
  obtain ⟨connection, channels, -, object, -, added, rfl⟩ := Broker.openChannel_ok done
  by_cases here : other = connectionId
  · subst here
    have placed : (world.broker.opened other connection channels channelId agentId).objects other =
        some { connection with
          channels := channels, adapters := insert channelId connection.adapters } :=
      Function.update_self ..
    have streams : (world.broker.opened other connection channels channelId agentId).streams other =
        Function.update (world.broker.streams other) channelId (some ⟨agentId, [], false, false⟩) :=
      Function.update_self ..
    obtain ⟨fresh, more, -, -⟩ := TunnelChannelRegistry.openChannel_ok added
    have unplaced : world.broker.streams other channelId = none := by
      apply Option.not_isSome_iff_eq_none.mp
      exact fun known => fresh ((linked.supplied.placed object).mpr known)
    have grown : ∀ second, (world.broker.streams other second).isSome →
        ((world.broker.opened other connection channels channelId agentId).streams other second).isSome := by
      intro second known
      rw [streams]
      by_cases same : second = channelId
      · rw [same, Function.update_self]
        rfl
      · rw [Function.update_of_ne same]
        exact known
    have whole : Linked other (world.onBroker
        (world.broker.opened other connection channels channelId agentId)) := by
      refine linked.rebroker rfl grown ?_ ?_
      · rw [placed, streams]
        exact linked.supplied.opened object added rfl
      · rintro - second - ⟨was, found, member⟩
        cases object.symm.trans found
        exact ⟨_, placed, by rw [more]; exact Finset.mem_insert_of_mem member⟩
    refine ⟨whole, fun frame type named => ⟨?_, whole.up, whole.supplied, whole.uncrossed⟩⟩
    rw [sent_send, if_pos rfl]
    have opens : opening frame.decoded = some channelId := (if_pos type).trans named
    refine linked.down.announce opens unplaced grown ?_
    change ((world.broker.opened other connection channels channelId agentId).streams other
      channelId).isSome
    rw [streams, Function.update_self]
    rfl
  · have whole : Linked connectionId (world.onBroker
        (world.broker.opened other connection channels channelId agentId)) :=
      linked.aside rfl (Function.update_of_ne (Ne.symm here) ..) (Function.update_of_ne (Ne.symm here) ..)
    refine ⟨whole, fun frame _ _ => ⟨?_, whole.up, whole.supplied, whole.uncrossed⟩⟩
    rw [sent_send, if_neg here, List.append_nil]
    exact whole.down

/-- A channel is retired, when none of the agent's data for it is on the link. -/
theorem Linked.retired (linked : Linked connectionId world)
    (closed : Broker.retireChannel other channelId world.broker = .ok broker)
    (landed : world.crossed = true ∨ ¬ InFlight connectionId channelId world) :
    Linked connectionId (world.onBroker broker) := by
  obtain ⟨connection, channels, object, done, rfl⟩ := Broker.retireChannel_ok closed
  by_cases here : other = connectionId
  · subst here
    obtain ⟨-, fewer, -, -⟩ := TunnelChannelRegistry.closeChannel_ok done
    obtain ⟨found, same, attached, -⟩ := linked.supplied.attached
    cases object.symm.trans same
    have placed : (world.broker.retired other connection channels channelId).objects other =
        some { connection with channels := channels, adapters := connection.adapters.erase channelId } :=
      Function.update_self ..
    refine linked.rebroker rfl (fun _ => id) ?_ ?_
    · rw [placed]
      refine linked.supplied.reobject object ?_ (closeChannel_known done)
      rw [attached, fewer]
    · rintro going second flying ⟨was, found, member⟩
      cases object.symm.trans found
      have apart : second ≠ channelId := by
        rintro rfl
        rcases landed with crossed | landed
        · cases going.symm.trans crossed
        · exact landed flying
      exact ⟨_, placed, by rw [fewer]; exact Finset.mem_erase.mpr ⟨apart, member⟩⟩
  · exact linked.aside rfl (Function.update_of_ne (Ne.symm here) ..) rfl

theorem streams_here {stream : BrokerTunnelStream} :
    (world.broker.setStream connectionId channelId stream).streams connectionId =
      Function.update (world.broker.streams connectionId) channelId (some stream) :=
  Function.update_self ..

theorem Linked.flagged {stream changed : BrokerTunnelStream} (linked : Linked connectionId world)
    (found : world.broker.streams connectionId channelId = some stream)
    (buffer : changed.buffer = stream.buffer) :
    Linked connectionId (world.onBroker (world.broker.setStream connectionId channelId changed)) := by
  refine linked.rebroker rfl (fun second known => ?_) ?_ fun _ _ _ => id
  · rw [streams_here, isSome_update found]
    exact known
  · rw [streams_here]
    exact linked.supplied.flagged found buffer

theorem Linked.draw {stream : BrokerTunnelStream} {n : Int} (linked : Linked connectionId world)
    (found : world.broker.streams connectionId channelId = some stream) (asked : n ≠ 0)
    (ready : stream.buffer ≠ [] ∨ stream.closed = true) :
    Linked connectionId (noteRead connectionId channelId (taken n stream).2
      ⟨(taken n stream).1, stream.closed, (taken n stream).2.buffer⟩ world) where
  down := by
    refine linked.down.congr rfl rfl fun second known => ?_
    change ((world.broker.setStream connectionId channelId _).streams connectionId second).isSome
    rw [streams_here, isSome_update found]
    exact known
  up := linked.up
  supplied := by
    change Supplied (world.broker.objects connectionId)
      ((world.broker.setStream connectionId channelId _).streams connectionId)
      (Function.update world.reads connectionId _ connectionId) _
    rw [streams_here, Function.update_self]
    exact linked.supplied.draw found asked ready
  uncrossed := linked.uncrossed

theorem Linked.seen {seenAt : DateTime} (linked : Linked connectionId world)
    (marked : Broker.markSeen other seenAt world.broker = .ok broker) :
    Linked connectionId (world.onBroker broker) := by
  obtain ⟨connection, object, rfl⟩ := Broker.markSeen_ok marked
  by_cases here : other = connectionId
  · subst here
    obtain ⟨found, same, attached, -⟩ := linked.supplied.attached
    cases object.symm.trans same
    have placed : (world.broker.setObject other { connection with
        heartbeat := connection.heartbeat.markSeen seenAt }).objects other = some { connection with
        heartbeat := connection.heartbeat.markSeen seenAt } := Function.update_self ..
    refine linked.rebroker rfl (fun _ => id) ?_ ?_
    · rw [placed]
      exact linked.supplied.reobject object attached rfl
    · rintro - second - ⟨was, found, member⟩
      cases object.symm.trans found
      exact ⟨_, placed, member⟩
  · exact linked.aside rfl (Function.update_of_ne (Ne.symm here) ..) rfl

/-- Dropping a connection ends its streams; it keeps its channels. -/
theorem dropConnection_same (broker : Broker) (agentId : Uuid) (other connectionId : ConnectionId) :
    (broker.dropConnection agentId other).wire = broker.wire ∧
      (broker.dropConnection agentId other).objects = broker.objects ∧
      ∀ channelId, (broker.dropConnection agentId other).streams connectionId channelId =
          broker.streams connectionId channelId ∨
        (broker.dropConnection agentId other).streams connectionId channelId =
          (broker.streams connectionId channelId).map BrokerTunnelStream.feedEof := by
  unfold Broker.dropConnection
  split
  · split
    · rw [Broker.registryDisconnect_eq]
      exact ⟨rfl, rfl, fun _ => .inl rfl⟩
    · rename_i current _ same
      rw [Broker.registryDisconnect_eq]
      refine ⟨rfl, rfl, fun channelId => ?_⟩
      dsimp only
      by_cases here : connectionId = current
      · subst here
        rw [Function.update_self]
        exact (ite_eq_or_eq _ _ _).symm
      · rw [Function.update_of_ne here]
        exact .inl rfl
  · rw [Broker.registryDisconnect_eq]
    exact ⟨rfl, rfl, fun _ => .inl rfl⟩

theorem Linked.dropped {agentId : Uuid} (linked : Linked connectionId world) :
    Linked connectionId (world.onBroker (world.broker.dropConnection agentId other)) := by
  obtain ⟨wire, objects, streams⟩ := dropConnection_same world.broker agentId other connectionId
  have known : ∀ channelId, ((world.broker.dropConnection agentId other).streams connectionId
      channelId).isSome = (world.broker.streams connectionId channelId).isSome := by
    intro channelId
    rcases streams channelId with same | ended
    · rw [same]
    · rw [ended, Option.isSome_map]
  refine linked.rebroker wire (fun channelId found => ?_) ?_ ?_
  · rw [known]
    exact found
  · rw [objects]
    refine linked.supplied.restream known fun channelId => ?_
    rcases streams channelId with same | ended
    · rw [same]
    · rw [ended]
      cases world.broker.streams connectionId channelId <;> rfl
  · rintro - channelId - ⟨connection, found, member⟩
    exact ⟨connection, (congrFun objects connectionId).trans found, member⟩
end Broker

/-! What the links and the agent do. -/
section Agent
variable {connectionId : ConnectionId} {world : TunnelWorld} {frame : OutgoingFrame}
  {channelId : ChannelId} {number : Nat}

theorem Linked.arrive (linked : Linked connectionId world)
    (next : world.received connectionId ++ [frame] <+: emitted connectionId world) :
    Linked connectionId (TunnelLink.arrive connectionId frame world) where
  down := linked.down
  up := by
    have up := linked.up
    change Uplink _ (Function.update world.received connectionId _ connectionId) _
    rw [Function.update_self]
    exact ⟨up.handled.trans (List.prefix_append _ _), next, up.relayed, up.produced⟩
  supplied := linked.supplied
  uncrossed := linked.uncrossed

theorem inFlight_less {part all frames : List OutgoingFrame} (ahead : part <+: all)
    (flying : frame ∈ frames.drop all.length) : frame ∈ frames.drop part.length := by
  have longer := ahead.length_le
  obtain ⟨extra, same⟩ := Nat.le.dest longer
  rw [← same, ← List.drop_drop] at flying
  exact List.mem_of_mem_drop flying

/-- All frames that were received count as handled now. -/
theorem Linked.takeUp (linked : Linked connectionId world) :
    Linked connectionId (TunnelLink.takeUp connectionId world) where
  down := linked.down
  up := by
    have up := linked.up
    change Uplink _ _ (Function.update world.handled connectionId _ connectionId)
    rw [Function.update_self]
    exact ⟨List.prefix_rfl, up.received, up.relayed, up.produced⟩
  supplied := by
    change Supplied _ _ _ (Function.update world.handled connectionId _ connectionId)
    rw [Function.update_self]
    exact linked.supplied.later linked.up.handled
  uncrossed going channelId flying := by
    apply linked.uncrossed going channelId
    obtain ⟨frame, member, data⟩ := flying
    have shorter : frame ∈ (emitted connectionId world).drop
        (Function.update world.handled connectionId (world.received connectionId) connectionId).length :=
      member
    rw [Function.update_self] at shorter
    exact ⟨frame, inFlight_less linked.up.handled shorter, data⟩

/-- A change of the agent's side that emits nothing. -/
theorem Linked.reside {change : AgentSide → AgentSide} (linked : Linked connectionId world)
    (read : (change (world.agentSide connectionId)).loop.frames <+: sent connectionId world)
    (created : (change (world.agentSide connectionId)).loop.created <+: opened (sent connectionId world))
    (up : Uplink (change (world.agentSide connectionId)) (world.received connectionId)
      (world.handled connectionId))
    (quiet : (change (world.agentSide connectionId)).emitted = emitted connectionId world) :
    Linked connectionId (onSide connectionId change world) where
  down := by
    refine ⟨?_, ?_, linked.down.once, linked.down.known⟩
    · rw [loopOf, onSide_same]
      exact read
    · rw [loopOf, onSide_same]
      exact created
  up := by
    rw [onSide_same]
    exact up
  supplied := linked.supplied
  uncrossed going channelId flying := by
    apply linked.uncrossed going channelId
    obtain ⟨frame, member, data⟩ := flying
    refine ⟨frame, ?_, data⟩
    rw [emitted, onSide_same, quiet] at member
    exact member

theorem Linked.onLoop {change : AgentLoop → AgentLoop} (linked : Linked connectionId world)
    (frames : (change (loopOf connectionId world)).frames <+: sent connectionId world)
    (created : (change (loopOf connectionId world)).created = (loopOf connectionId world).created) :
    Linked connectionId (onLoop connectionId change world) := by
  refine linked.reside frames ?_ ?_ rfl
  · change (change (loopOf connectionId world)).created <+: _
    rw [created]
    exact linked.down.created
  · exact linked.up.congr created rfl fun _ => List.prefix_rfl

/-- The opening that the loop has in hand makes a local connection. -/
theorem Linked.create (linked : Linked connectionId world)
    (opens : ((loopOf connectionId world).create channelId).created =
      opened (loopOf connectionId world).frames) :
    Linked connectionId (AgentTunnel.onLoop connectionId (·.create channelId) world) := by
  have ahead : (loopOf connectionId world).created ++ [channelId] <+: opened (sent connectionId world) := by
    change ((loopOf connectionId world).create channelId).created <+: _
    rw [opens]
    exact opened_prefix linked.down.delivered
  have fresh : channelId ∉ (loopOf connectionId world).created := by
    have distinct := linked.down.once.sublist ahead.sublist
    intro member
    exact (List.nodup_append.mp distinct).2.2 channelId member channelId List.mem_cons_self rfl
  exact linked.reside linked.down.delivered ahead (linked.up.create fresh) rfl

theorem Linked.onForwarder {change : LocalForwarder → LocalForwarder} (linked : Linked connectionId world)
    (read : ∀ forwarder, forwarder.read <+: (change forwarder).read) :
    Linked connectionId (AgentTunnel.onForwarder connectionId number change world) := by
  refine linked.reside linked.down.delivered linked.down.created ?_ rfl
  refine linked.up.congr rfl rfl fun second => ?_
  by_cases same : second = number
  · subst same
    dsimp only
    rw [Function.update_self]
    exact read _
  · dsimp only
    rw [Function.update_of_ne same]

theorem Linked.emit (linked : Linked connectionId world)
    (up : Uplink { world.agentSide connectionId with
        emitted := (world.agentSide connectionId).emitted ++ [frame] } (world.received connectionId)
      (world.handled connectionId))
    (isOpen : world.crossed = false → frame.type = .SESSION_DATA →
      ∀ channelId, frame.channelId = some channelId → IsOpen connectionId channelId world) :
    Linked connectionId (AgentTunnel.emit connectionId frame world) where
  down := by
    have same : loopOf connectionId (AgentTunnel.emit connectionId frame world) =
        loopOf connectionId world := loopOf_emit
    rw [same]
    exact linked.down
  up := by
    unfold AgentTunnel.emit
    rw [onSide_same]
    exact up
  supplied := linked.supplied
  uncrossed going channelId flying := by
    obtain ⟨other, member, type, named⟩ := flying
    have among : other ∈ ((emitted connectionId world) ++ [frame]).drop
        (world.handled connectionId).length := by
      rw [emitted, AgentTunnel.emit, onSide_same] at member
      exact member
    have shorter : (world.handled connectionId).length ≤ (emitted connectionId world).length :=
      (linked.up.handled.trans linked.up.received).length_le
    rw [List.drop_append_of_le_length shorter] at among
    rcases List.mem_append.mp among with old | new
    · exact linked.uncrossed going channelId ⟨other, old, type, named⟩
    · rw [List.mem_singleton.mp new] at type named
      exact isOpen going type channelId named
end Agent

end VibeConnect.LinkInvariant
