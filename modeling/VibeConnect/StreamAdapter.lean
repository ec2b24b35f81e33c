import VibeConnect.Python.Queues
import VibeConnect.TunnelState

/-! `TunnelStreamAdapter`, a channel of the tunnel as a byte stream: what the node sends is fed to a queue
from which the readers take it, and `None` in the queue is its end. Tasks read, write and close it in any
order, and a task that reads can be cancelled. -/
namespace VibeConnect.StreamAdapter
open Python.Text Python.Queues Models TunnelState

/-- What the adapter asks of its `TunnelPtyChannel`, at once and before it waits for it. -/
inductive ChannelCall where
  | sendData (channelId : ChannelId) (payload : Bytes)
  | resizePty (channelId : ChannelId) (width height : Int)
  | closeSession (channelId : ChannelId)
  deriving DecidableEq

structure TunnelStreamAdapter where
  channelId : ChannelId
  incoming : Queue (Option Bytes)
  closed : Bool
  eof : Bool

namespace TunnelStreamAdapter
variable (adapter : TunnelStreamAdapter)

def new (channelId : ChannelId) : Except Exc TunnelStreamAdapter :=
  if channelId = [] then .error (.jumpError "channel_id is required")
  else .ok ⟨channelId, .empty, false, false⟩

/-- `_ensure_open`. -/
def ensureOpen : Except Exc Unit :=
  if adapter.closed then .error (.jumpError "jump channel is closed") else .ok ()

/-- The end of `read`, after `get`: what it returns, or none where `get` waits or raises. Of what it
returns, none is the end, for which the caller has empty bytes. -/
def received : Option (Option Bytes) × Queue (Option Bytes) → Option (Option Bytes) × TunnelStreamAdapter
  | (some none, incoming) => (some none, { adapter with incoming := incoming, eof := true })
  | (got, incoming) => (got, { adapter with incoming := incoming })

def read : Option (Option Bytes) × TunnelStreamAdapter :=
  if adapter.eof = true ∧ adapter.incoming.items = [] then (some none, adapter)
  else adapter.received adapter.incoming.get

/-- `read` from its wait on. -/
def resume (index : Nat) : Option (Option Bytes) × TunnelStreamAdapter :=
  adapter.received (adapter.incoming.resume index)

def write (payload : Bytes) : Except Exc ChannelCall := do
  adapter.ensureOpen
  .ok (.sendData adapter.channelId payload)

def resizePty (width height : Int) : Except Exc ChannelCall := do
  adapter.ensureOpen
  if width ≤ 0 ∨ height ≤ 0 then .error (.jumpError "PTY size must be positive")
  else .ok (.resizePty adapter.channelId width height)

def feedData (payload : Bytes) : Except Exc TunnelStreamAdapter := do
  adapter.ensureOpen
  if adapter.eof then .error (.jumpError "jump channel has reached EOF")
  else .ok { adapter with incoming := adapter.incoming.putNowait (some payload) }

def feedEof : TunnelStreamAdapter :=
  if adapter.eof then adapter
  else { adapter with incoming := adapter.incoming.putNowait none, eof := true }

def close : List ChannelCall × TunnelStreamAdapter :=
  if adapter.closed then ([], adapter)
  else ([.closeSession adapter.channelId], feedEof { adapter with closed := true })
end TunnelStreamAdapter

/-! The runs. -/

inductive Event where
  | read
  | resumed (index : Nat)
  | cancelled (index : Nat)
  | wrote (payload : Bytes)
  | resized (width height : Int)
  | data (payload : Bytes)
  | eof
  | close

/-- The adapter with the payloads that were accepted, what the reads have returned and what the channel
was asked. -/
structure History where
  adapter : TunnelStreamAdapter
  fed : List Bytes
  returned : List (Option Bytes)
  asked : List ChannelCall

namespace History
variable (history : History)

def reads (result : Option (Option Bytes) × TunnelStreamAdapter) : History :=
  { history with adapter := result.2, returned := history.returned ++ result.1.toList }

def asks : Except Exc ChannelCall → History
  | .ok call => { history with asked := history.asked ++ [call] }
  | .error _ => history

def step : Event → History
  | .read => history.reads history.adapter.read
  | .resumed index => history.reads (history.adapter.resume index)
  | .cancelled index => { history with adapter :=
      { history.adapter with incoming := history.adapter.incoming.cancel index } }
  | .wrote payload => history.asks (history.adapter.write payload)
  | .resized width height => history.asks (history.adapter.resizePty width height)
  | .data payload => match history.adapter.feedData payload with
      | .ok adapter => { history with adapter := adapter, fed := history.fed ++ [payload] }
      | .error _ => history
  | .eof => { history with adapter := history.adapter.feedEof }
  | .close => { history with
      adapter := history.adapter.close.2
      asked := history.asked ++ history.adapter.close.1 }

def Ended : Prop := history.adapter.eof = true

/-- Nothing is left, not even the end. -/
def Drained : Prop := history.Ended ∧ history.adapter.incoming.items = []
end History

def runs (start : TunnelStreamAdapter) (events : List Event) : History :=
  events.foldl History.step ⟨start, [], [], []⟩

/-- A read starts when no other is waiting. -/
def OneReader (start : TunnelStreamAdapter) (events : List Event) : Prop :=
  ∀ earlier later : List Event, events = earlier ++ .read :: later →
    (runs start earlier).adapter.incoming.getters = []

/-- What stays as it is once the stream has ended, once the adapter is closed and once the end is taken. -/
structure Settled (before after : History) : Prop where
  ended : before.Ended → after.Ended ∧ after.fed = before.fed
  closed : before.adapter.closed = true → after.adapter.closed = true ∧ after.asked = before.asked
  drained : before.Drained → after.Drained

structure Delivers (channelId : ChannelId) (start : TunnelStreamAdapter) (events : List Event) : Prop where
  /-- The reads return the accepted payloads, each once and in their order, and then only the end. -/
  returned : ∃ (payloads : List Bytes) (ends : Nat),
    (runs start events).returned = payloads.map some ++ List.replicate ends none ∧
    payloads ++ (runs start events).adapter.incoming.items.filterMap id = (runs start events).fed ∧
    (0 < ends → (runs start events).Drained)
  /-- The channel is asked to close once, by the first close, and nothing after that. -/
  asked : ∃ calls, (∀ call ∈ calls, call ≠ .closeSession channelId) ∧ (runs start events).asked =
    calls ++ if (runs start events).adapter.closed then [.closeSession channelId] else []
  settled : ∀ earlier later : List Event, events = earlier ++ later →
    Settled (runs start earlier) (runs start events)
  /-- A read waits beside a queue that is not empty only while another task is about to run for it. -/
  awake : (runs start events).adapter.incoming.called = 0 →
    0 < (runs start events).adapter.incoming.waiting → (runs start events).adapter.incoming.items = []
  /-- The end is for one of the reads that wait for it: once it is taken, no other returns. -/
  stuck : (runs start events).Drained → ∀ index : Nat,
    ((runs start events).adapter.resume index).1 = none
  /-- A read that is the only one at its time returns after the end was fed, unless it is cancelled. -/
  released : OneReader start events → (runs start events).Ended →
    (runs start events).adapter.incoming.waiting = 0 ∧
    ∀ index : Nat, (runs start events).adapter.incoming.getters[index]? = some .woken →
      ∃ answer, ((runs start events).adapter.resume index).1 = some answer

/-! The stream in the queue. -/

/-- How the queue goes on: the payloads that wait in it, and how often the end was returned. -/
inductive Stage : Bool → Nat → List Bytes → List (Option Bytes) → Prop where
  | running (payloads : List Bytes) : Stage false 0 payloads (payloads.map some)
  | ending (payloads : List Bytes) : Stage true 0 payloads (payloads.map some ++ [none])
  | ended (ends : Nat) : Stage true ends [] []

def Streams (fed : List Bytes) (returned : List (Option Bytes)) (eof : Bool)
    (items : List (Option Bytes)) : Prop :=
  ∃ payloads waiting ends, fed = payloads ++ waiting ∧
    returned = payloads.map some ++ List.replicate ends none ∧ Stage eof ends waiting items

section Stream
variable {fed : List Bytes} {returned items : List (Option Bytes)} {eof : Bool}

theorem Streams.feed {payload : Bytes} (streams : Streams fed returned false items) :
    Streams (fed ++ [payload]) returned false (items ++ [some payload]) := by
  obtain ⟨payloads, waiting, ends, rfl, same, stage⟩ := streams
  cases stage
  refine ⟨payloads, waiting ++ [payload], 0, by simp, same, ?_⟩
  simpa using Stage.running (waiting ++ [payload])

theorem Streams.feedEof (streams : Streams fed returned false items) :
    Streams fed returned true (items ++ [none]) := by
  obtain ⟨payloads, waiting, ends, whole, same, stage⟩ := streams
  cases stage
  exact ⟨payloads, waiting, 0, whole, same, .ending waiting⟩

theorem Streams.take {item : Option Bytes} (streams : Streams fed returned eof (item :: items)) :
    Streams fed (returned ++ [item]) (eof || item.isNone) items := by
  obtain ⟨payloads, waiting, ends, whole, same, stage⟩ := streams
  generalize queued : item :: items = all at stage
  cases stage with
  | running =>
      cases waiting with
      | nil => cases queued
      | cons payload rest =>
          cases queued
          exact ⟨payloads ++ [payload], rest, 0, by simp [whole], by simp [same], .running rest⟩
  | ending =>
      cases waiting with
      | nil =>
          cases queued
          exact ⟨payloads, [], 1, whole, by simp [same], .ended 1⟩
      | cons payload rest =>
          cases queued
          exact ⟨payloads ++ [payload], rest, 0, by simp [whole], by simp [same], .ending rest⟩
  | ended => cases queued

/-- Past the end every read returns the end. -/
theorem Streams.again (streams : Streams fed returned true []) :
    Streams fed (returned ++ [none]) true [] := by
  obtain ⟨payloads, waiting, ends, whole, same, stage⟩ := streams
  generalize queued : ([] : List (Option Bytes)) = all at stage
  cases stage with
  | ending => cases waiting <;> cases queued
  | ended =>
      refine ⟨payloads, [], ends + 1, whole, ?_, .ended _⟩
      rw [same, List.append_assoc, List.replicate_succ']

theorem Streams.delivered (streams : Streams fed returned eof items) : ∃ (payloads : List Bytes) (ends : Nat),
    returned = payloads.map some ++ List.replicate ends none ∧ payloads ++ items.filterMap id = fed ∧
    (0 < ends → eof = true ∧ items = []) := by
  obtain ⟨payloads, waiting, ends, rfl, same, stage⟩ := streams
  refine ⟨payloads, ends, same, ?_, ?_⟩
  · cases stage <;> simp
  · cases stage <;> simp
end Stream

/-! One step. -/

structure Holds (channelId : ChannelId) (history : History) : Prop where
  channel : history.adapter.channelId = channelId
  streams : Streams history.fed history.returned history.adapter.eof history.adapter.incoming.items
  served : history.adapter.incoming.Served
  shut : history.adapter.closed = true → history.adapter.eof = true
  asked : ∃ calls, (∀ call ∈ calls, call ≠ .closeSession channelId) ∧ history.asked =
    calls ++ if history.adapter.closed then [.closeSession channelId] else []

section Step
variable {channelId : ChannelId} {history : History} {adapter : TunnelStreamAdapter} {payload : Bytes}
  {got : Option (Option Bytes)} {incoming : Queue (Option Bytes)} {event : Event}

theorem received_eq : adapter.received (got, incoming) =
    (got, { adapter with incoming := incoming, eof := adapter.eof || decide (got = some none) }) := by
  match got with
  | none => simp [TunnelStreamAdapter.received]
  | some none => simp [TunnelStreamAdapter.received]
  | some (some chunk) => simp [TunnelStreamAdapter.received]

theorem feedData_ok {after : TunnelStreamAdapter} (fed : adapter.feedData payload = .ok after) :
    adapter.closed = false ∧ adapter.eof = false ∧
      after = { adapter with incoming := adapter.incoming.putNowait (some payload) } := by
  cases closed : adapter.closed <;> cases eof : adapter.eof <;>
    simp_all [TunnelStreamAdapter.feedData, TunnelStreamAdapter.ensureOpen, bind, Except.bind]

theorem write_ok {call : ChannelCall} (wrote : adapter.write payload = .ok call) :
    adapter.closed = false ∧ call = .sendData adapter.channelId payload := by
  cases closed : adapter.closed <;>
    simp_all [TunnelStreamAdapter.write, TunnelStreamAdapter.ensureOpen, bind, Except.bind]

theorem resizePty_ok {call : ChannelCall} {width height : Int}
    (resized : adapter.resizePty width height = .ok call) :
    adapter.closed = false ∧ call = .resizePty adapter.channelId width height := by
  cases closed : adapter.closed <;> by_cases small : width ≤ 0 ∨ height ≤ 0 <;>
    simp_all [TunnelStreamAdapter.resizePty, TunnelStreamAdapter.ensureOpen, bind, Except.bind]

/-- A getter has run, and the queue is the one before without what the getter returned. -/
theorem Holds.received (holds : Holds channelId history)
    (whole : got.toList ++ incoming.items = history.adapter.incoming.items) (served : incoming.Served) :
    Holds channelId (history.reads (history.adapter.received (got, incoming))) := by
  have streams := holds.streams
  rw [← whole] at streams
  rw [received_eq]
  exact {
    channel := holds.channel
    streams := by
      match got with
      | none => simpa [History.reads] using streams
      | some item => cases item <;> simpa [History.reads] using streams.take
    served := served
    shut := fun closed => by simp [History.reads, holds.shut closed]
    asked := holds.asked }

theorem Holds.asks (holds : Holds channelId history) {answer : Except Exc ChannelCall}
    (ok : ∀ call, answer = .ok call → history.adapter.closed = false ∧ call ≠ .closeSession channelId) :
    Holds channelId (history.asks answer) := by
  cases answer with
  | error _ => exact holds
  | ok call =>
      obtain ⟨running, other⟩ := ok call rfl
      obtain ⟨calls, plain, asked⟩ := holds.asked
      rw [running] at asked
      refine { holds with asked := ⟨calls ++ [call], ?_, ?_⟩ }
      · intro earlier member
        rcases List.mem_append.mp member with there | last
        · exact plain earlier there
        · rw [List.mem_singleton.mp last]
          exact other
      · simpa [History.asks, running] using asked

theorem Holds.feedEof (holds : Holds channelId history) :
    Holds channelId { history with adapter := history.adapter.feedEof } := by
  by_cases eof : history.adapter.eof = true
  · rw [TunnelStreamAdapter.feedEof, if_pos eof]
    exact holds
  · rw [TunnelStreamAdapter.feedEof, if_neg eof]
    have streams := holds.streams
    rw [Bool.eq_false_of_not_eq_true eof] at streams
    exact { holds with
      streams := streams.feedEof
      served := holds.served.putNowait
      shut := fun _ => rfl }

theorem Holds.close (holds : Holds channelId history) : Holds channelId (history.step .close) := by
  by_cases closed : history.adapter.closed = true
  · simpa [History.step, TunnelStreamAdapter.close, closed] using holds
  · -- the end that `close` feeds is the one that `feed_eof` has fed, if it came first
    have fed := holds.feedEof
    obtain ⟨calls, plain, asked⟩ := holds.asked
    rw [if_neg closed] at asked
    have ended : history.adapter.feedEof.eof = true := by
      by_cases eof : history.adapter.eof = true <;> simp [TunnelStreamAdapter.feedEof, eof]
    have same : TunnelStreamAdapter.feedEof { history.adapter with closed := true } =
        { history.adapter.feedEof with closed := true } := by
      by_cases eof : history.adapter.eof = true <;> simp [TunnelStreamAdapter.feedEof, eof]
    rw [History.step, TunnelStreamAdapter.close, if_neg closed, same]
    exact { fed with
      shut := fun _ => ended
      asked := ⟨calls, plain, by simp [asked, holds.channel]⟩ }

theorem Holds.step (holds : Holds channelId history) (event : Event) :
    Holds channelId (history.step event) := by
  cases event with
  | read =>
      rw [History.step, TunnelStreamAdapter.read]
      split
      · rename_i drained
        have streams := holds.streams
        rw [drained.1, drained.2] at streams
        refine { holds with streams := ?_ }
        simpa [History.reads, drained.1, drained.2] using streams.again
      · exact holds.received get_items holds.served.get
  | resumed index => exact holds.received resume_items holds.served.resume
  | cancelled index =>
      have same : (history.adapter.incoming.cancel index).items = history.adapter.incoming.items :=
        cancel_items
      exact { holds with
        streams := same ▸ holds.streams
        served := holds.served.cancel }
  | wrote payload =>
      apply holds.asks
      intro call wrote
      obtain ⟨running, rfl⟩ := write_ok wrote
      exact ⟨running, nofun⟩
  | resized width height =>
      apply holds.asks
      intro call resized
      obtain ⟨running, rfl⟩ := resizePty_ok resized
      exact ⟨running, nofun⟩
  | data payload =>
      rw [History.step]
      split
      · rename_i adapter fed
        obtain ⟨running, unended, rfl⟩ := feedData_ok fed
        have streams := holds.streams
        rw [unended] at streams
        exact { holds with
          streams := by simpa [unended, Queue.putNowait] using streams.feed
          served := holds.served.putNowait }
      · exact holds
  | eof => exact holds.feedEof
  | close => exact holds.close

theorem Settled.refl (history : History) : Settled history history :=
  ⟨fun ended => ⟨ended, rfl⟩, fun closed => ⟨closed, rfl⟩, id⟩

theorem Settled.trans {later last : History} (first : Settled history later) (second : Settled later last) :
    Settled history last where
  ended := fun ended =>
    have early := first.ended ended
    have late := second.ended early.1
    ⟨late.1, late.2.trans early.2⟩
  closed := fun closed =>
    have early := first.closed closed
    have late := second.closed early.1
    ⟨late.1, late.2.trans early.2⟩
  drained := fun drained => second.drained (first.drained drained)

/-- A getter takes nothing from an empty queue, and leaves the rest to the others. -/
theorem settled_received (whole : got.toList ++ incoming.items = history.adapter.incoming.items) :
    Settled history (history.reads (history.adapter.received (got, incoming))) := by
  rw [received_eq]
  constructor
  · intro ended
    exact ⟨by simp [History.Ended, History.reads, show history.adapter.eof = true from ended], rfl⟩
  · exact fun closed => ⟨closed, rfl⟩
  · rintro ⟨ended, empty⟩
    rw [empty, List.append_eq_nil_iff] at whole
    exact ⟨by simp [History.Ended, History.reads, show history.adapter.eof = true from ended], whole.2⟩

theorem settled_asks {answer : Except Exc ChannelCall}
    (ok : ∀ call, answer = .ok call → history.adapter.closed = false) :
    Settled history (history.asks answer) := by
  cases answer with
  | error _ => exact .refl history
  | ok call => exact {
      ended := fun ended => ⟨ended, rfl⟩
      closed := fun closed => nomatch (ok call rfl).symm.trans closed
      drained := id }

theorem settled_step (event : Event) : Settled history (history.step event) := by
  cases event with
  | read =>
      rw [History.step, TunnelStreamAdapter.read]
      split
      · exact ⟨fun ended => ⟨ended, rfl⟩, fun closed => ⟨closed, rfl⟩, id⟩
      · exact settled_received get_items
  | resumed index => exact settled_received resume_items
  | cancelled index =>
      exact ⟨fun ended => ⟨ended, rfl⟩, fun closed => ⟨closed, rfl⟩,
        fun drained => ⟨drained.1, cancel_items.trans drained.2⟩⟩
  | wrote payload => exact settled_asks fun call wrote => (write_ok wrote).1
  | resized width height => exact settled_asks fun call resized => (resizePty_ok resized).1
  | data payload =>
      rw [History.step]
      split
      · rename_i adapter fed
        obtain ⟨running, unended, rfl⟩ := feedData_ok fed
        have unready : ¬history.Ended := fun ended => nomatch unended.symm.trans ended
        exact {
          ended := fun ended => absurd ended unready
          closed := fun closed => nomatch running.symm.trans closed
          drained := fun drained => absurd drained.1 unready }
      · exact .refl history
  | eof =>
      rw [History.step, TunnelStreamAdapter.feedEof]
      split
      · exact .refl history
      · rename_i unended
        exact {
          ended := fun ended => absurd ended unended
          closed := fun closed => ⟨closed, rfl⟩
          drained := fun drained => absurd drained.1 unended }
  | close =>
      by_cases closed : history.adapter.closed = true
      · have same : history.step .close = history := by
          simp [History.step, TunnelStreamAdapter.close, closed]
        rw [same]
        exact .refl history
      · by_cases eof : history.adapter.eof = true
        · constructor
          · intro ended
            simp [History.step, TunnelStreamAdapter.close, TunnelStreamAdapter.feedEof, History.Ended,
              closed, eof]
          · exact fun shut => absurd shut closed
          · intro drained
            simpa [History.step, TunnelStreamAdapter.close, TunnelStreamAdapter.feedEof, History.Drained,
              History.Ended, closed, eof] using drained.2
        · exact {
            ended := fun ended => absurd ended eof
            closed := fun shut => absurd shut closed
            drained := fun drained => absurd drained.1 eof }
end Step

/-! One reader at a time. -/

/-- Of a getter that is alone: once the end was fed it does not wait, and what it is called for is there. -/
structure Lone (eof : Bool) (queue : Queue (Option Bytes)) : Prop where
  single : queue.getters = [] ∨ ∃ getter, queue.getters = [getter]
  called : eof = true → .waiting ∉ queue.getters
  meant : .woken ∈ queue.getters → queue.items ≠ []

section Lone
variable {eof : Bool} {queue : Queue (Option Bytes)} {index : Nat}

theorem Lone.unread (unread : queue.getters = []) : Lone eof queue where
  single := .inl unread
  called := fun _ there => by simp [unread] at there
  meant := fun there => by simp [unread] at there

/-- Whatever is fed, a getter that waits is called for it. -/
theorem Lone.putNowait {ended : Bool} (lone : Lone eof queue) (item : Option Bytes) :
    Lone ended (queue.putNowait item) := by
  rcases lone.single with unread | ⟨getter, one⟩
  · exact .unread (by simp [Queue.putNowait, unread, wakeupNext])
  · constructor
    · right
      cases getter <;> simp [Queue.putNowait, one, wakeupNext]
    · intro _
      cases getter <;> simp [Queue.putNowait, one, wakeupNext]
    · simp [Queue.putNowait]

theorem Lone.get (unread : queue.getters = []) (ready : eof = true → queue.items ≠ []) :
    Lone (eof || decide (queue.get.1 = some none)) queue.get.2 := by
  unfold Queue.get
  split
  · rename_i empty
    have running : eof = false := Bool.eq_false_of_not_eq_true fun ended => ready ended empty
    constructor
    · exact .inr ⟨.waiting, by simp [unread]⟩
    · simp [running]
    · simp [unread]
  · exact .unread unread

theorem Lone.resume (lone : Lone eof queue) :
    Lone (eof || decide ((queue.resume index).1 = some none)) (queue.resume index).2 := by
  rcases lone.single with unread | ⟨getter, one⟩
  · exact .unread (by simp [Queue.resume, unread])
  · cases index with
    | succ index => simpa [Queue.resume, one] using lone
    | zero =>
        cases getter with
        | waiting => simpa [Queue.resume, one] using lone
        | cancelled => exact .unread (by simp [Queue.resume, one])
        | woken =>
            apply Lone.unread
            -- with nobody else to take it, the item is still there, and the getter does not wait again
            have there : queue.items ≠ [] := lone.meant (by simp [one])
            cases items : queue.items with
            | nil => exact absurd items there
            | cons item rest => simp [Queue.resume, Queue.get, one, items]
        | withdrawn =>
            apply Lone.unread
            cases items : queue.items <;> simp [Queue.resume, one, items, wakeupNext]

theorem Lone.cancel (lone : Lone eof queue) : Lone eof (queue.cancel index) := by
  rcases lone.single with unread | ⟨getter, one⟩
  · exact .unread (by simp [Queue.cancel, unread])
  · cases index with
    | succ index => simpa [Queue.cancel, one] using lone
    | zero =>
        cases getter with
        | waiting | woken => constructor <;> simp [Queue.cancel, one]
        | cancelled | withdrawn => simpa [Queue.cancel, one] using lone
end Lone

theorem Lone.step {history : History} {event : Event}
    (lone : Lone history.adapter.eof history.adapter.incoming)
    (alone : event = .read → history.adapter.incoming.getters = []) :
    Lone (history.step event).adapter.eof (history.step event).adapter.incoming := by
  cases event with
  | read =>
      rw [History.step, TunnelStreamAdapter.read]
      split
      · exact lone
      · rename_i ready
        rw [received_eq]
        exact .get (alone rfl) fun ended empty => ready ⟨ended, empty⟩
  | resumed index =>
      rw [History.step, TunnelStreamAdapter.resume, received_eq]
      exact lone.resume
  | cancelled index => exact lone.cancel
  | wrote payload => rw [History.step]; cases history.adapter.write payload <;> exact lone
  | resized width height => rw [History.step]; cases history.adapter.resizePty width height <;> exact lone
  | data payload =>
      rw [History.step]
      split
      · rename_i adapter fed
        obtain ⟨-, -, rfl⟩ := feedData_ok fed
        exact lone.putNowait _
      · exact lone
  | eof =>
      rw [History.step, TunnelStreamAdapter.feedEof]
      split
      · exact lone
      · exact lone.putNowait none
  | close =>
      rw [History.step, TunnelStreamAdapter.close, TunnelStreamAdapter.feedEof]
      split
      · exact lone
      · dsimp only
        split
        · exact lone
        · exact lone.putNowait none

/-! The runs. -/
section Runs
variable {channelId : ChannelId} {start : TunnelStreamAdapter}

theorem runs_append (earlier later : List Event) :
    runs start (earlier ++ later) = later.foldl History.step (runs start earlier) :=
  List.foldl_append ..

theorem runs_holds (created : TunnelStreamAdapter.new channelId = .ok start) (events : List Event) :
    Holds channelId (runs start events) := by
  induction events using List.reverseRecOn with
  | nil =>
      unfold TunnelStreamAdapter.new at created
      split at created
      · cases created
      · cases created
        exact {
          channel := rfl
          streams := ⟨[], [], 0, rfl, rfl, .running []⟩
          served := .empty
          shut := nofun
          asked := ⟨[], nofun, rfl⟩ }
  | append_singleton earlier event ih =>
      rw [runs_append]
      exact ih.step event

theorem runs_settled (history : History) (later : List Event) :
    Settled history (later.foldl History.step history) := by
  induction later generalizing history with
  | nil => exact .refl history
  | cons event rest ih => exact (settled_step event).trans (ih _)

theorem runs_lone (created : TunnelStreamAdapter.new channelId = .ok start) (events : List Event)
    (one : OneReader start events) :
    Lone (runs start events).adapter.eof (runs start events).adapter.incoming := by
  induction events using List.reverseRecOn with
  | nil =>
      unfold TunnelStreamAdapter.new at created
      split at created
      · cases created
      · cases created
        exact .unread rfl
  | append_singleton earlier event ih =>
      rw [runs_append]
      apply Lone.step
      · exact ih fun before after whole => one before (after ++ [event]) (by simp [whole])
      · rintro rfl
        exact one earlier [] rfl
end Runs

/-- Whatever the order of feeds, reads, wake-ups, cancellations, writes and closes: the reads share the
fed payloads out in order, and the end comes after all of them. -/
theorem stream_adapter_delivers (channelId : ChannelId) (start : TunnelStreamAdapter)
    (created : TunnelStreamAdapter.new channelId = .ok start) (events : List Event) :
    Delivers channelId start events := by
  have holds := runs_holds created events
  constructor
  · exact holds.streams.delivered
  · exact holds.asked
  · rintro earlier later rfl
    rw [runs_append]
    exact runs_settled _ later
  · exact holds.served.idle
  · intro drained index
    rw [TunnelStreamAdapter.resume, received_eq]
    exact resume_empty drained.2
  · intro one ended
    have lone := runs_lone created events one
    have called := lone.called ended
    constructor
    · rw [Queue.waiting, List.countP_eq_zero]
      intro getter member waits
      cases getter <;> first | exact called member | cases waits
    · intro index woken
      have there := lone.meant (List.mem_of_getElem? woken)
      rw [TunnelStreamAdapter.resume, received_eq, Queue.resume, woken]
      cases items : (runs start events).adapter.incoming.items with
      | nil => exact absurd items there
      | cons item rest => exact ⟨item, rfl⟩

/-- Two reads wait; the one that is called for the payload is cancelled, so the other is called. -/
theorem stream_adapter_delivers_two :
    let start : TunnelStreamAdapter := ⟨lit "channel-01", .empty, false, false⟩
    let events : List Event :=
      [.read, .read, .data [104, 105], .cancelled 0, .resumed 0, .resumed 0, .read, .close, .resumed 0, .read]
    Delivers (lit "channel-01") start events ∧ (runs start events).returned = [some [104, 105], none, none] ∧
      (runs start events).asked = [.closeSession (lit "channel-01")] :=
  ⟨stream_adapter_delivers _ _ (if_neg (by decide)) _, by decide, by decide⟩
end VibeConnect.StreamAdapter
