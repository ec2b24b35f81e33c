import Mathlib.Data.List.Nodup
import Mathlib.Logic.Function.Basic
import VibeConnect.TunnelProtocol
import VibeConnect.TunnelState

/-! The agent's tables: the dict of open channels, the local connections made
for them, and what the server's frames ask to be delivered to each channel. -/
namespace VibeConnect.AgentChannels
open Python.Text Models TunnelProtocol TunnelState

/-- The agent's loop: `channels` with a number for each local connection, the
channel each number was created for, what was written to each local sshd, whose
forwarders were cancelled and whose writers closed, and the frames read so far.
`isOver` says that the tunnel itself failed or ended, `localFault` that a local
error reached the loop. -/
structure AgentLoop where
  channels : List (ChannelId × Nat)
  created : List ChannelId
  written : Nat → Bytes
  cancelled : Nat → Bool
  closed : Nat → Bool
  frames : List DecodedTunnelFrame
  isOver : Bool
  localFault : Bool

/-- A forwarding task: what it read from the local sshd, whether a read failed,
and how it ended. -/
structure LocalForwarder where
  read : Bytes
  readFault : Bool
  outcome : Option (Except Exc Unit)

/-- The agent's end of a connection. `broken` is what a write to a local
connection raises at the moment. -/
structure AgentSide where
  loop : AgentLoop
  forwarders : Nat → LocalForwarder
  broken : Nat → Option Exc
  emitted : List OutgoingFrame

def AgentLoop.empty : AgentLoop :=
  ⟨[], [], fun _ => [], fun _ => false, fun _ => false, [], false, false⟩

def AgentSide.empty : AgentSide := ⟨.empty, fun _ => ⟨[], false, none⟩, fun _ => none, []⟩

theorem getElem?_of_prefix {α : Type} {part all : List α} {index : Nat} {item : α}
    (ahead : part <+: all) (found : part[index]? = some item) : all[index]? = some item := by
  obtain ⟨rest, rfl⟩ := ahead
  rw [List.getElem?_append_left (List.getElem?_eq_some_iff.mp found).1]
  exact found

namespace AgentLoop

/-- `channels.get(channel_id)`. -/
def find (channelId : ChannelId) (loop : AgentLoop) : Option Nat := loop.channels.lookup channelId

/-- `channels[channel_id] = _LocalChannel(...)` for a new local connection. -/
def create (channelId : ChannelId) (loop : AgentLoop) : AgentLoop :=
  { loop with
    channels := loop.channels ++ [(channelId, loop.created.length)]
    created := loop.created ++ [channelId] }

/-- `channels.pop(channel_id, None)`. -/
def pop (channelId : ChannelId) (loop : AgentLoop) : AgentLoop :=
  { loop with channels := loop.channels.filter fun entry => entry.1 ≠ channelId }

def write (number : Nat) (payload : Bytes) (loop : AgentLoop) : AgentLoop :=
  { loop with written := Function.update loop.written number (loop.written number ++ payload) }

def cancel (number : Nat) (loop : AgentLoop) : AgentLoop :=
  { loop with cancelled := Function.update loop.cancelled number true }

/-- `writer.close()`. -/
def closeWriter (number : Nat) (loop : AgentLoop) : AgentLoop :=
  { loop with closed := Function.update loop.closed number true }

def receive (decoded : DecodedTunnelFrame) (loop : AgentLoop) : AgentLoop :=
  { loop with frames := loop.frames ++ [decoded] }

/-- An error reached the loop from a local connection, or from the tunnel. -/
def fail (locally : Bool) (loop : AgentLoop) : AgentLoop :=
  if locally then { loop with localFault := true } else { loop with isOver := true }

/-- What the local connection of a channel was given; `none` when there is none. -/
def delivered (channelId : ChannelId) (loop : AgentLoop) : Option Bytes :=
  (loop.find channelId).map loop.written

/-- No local connection in the table was told to end. -/
def Live (loop : AgentLoop) : Prop :=
  ∀ entry ∈ loop.channels, loop.cancelled entry.2 = false

/-- The numbers in the table are those the connections were made with. -/
structure WellFormed (loop : AgentLoop) : Prop where
  named : ∀ entry ∈ loop.channels, loop.created[entry.2]? = some entry.1
  unwritten : ∀ number, loop.created.length ≤ number → loop.written number = []
  uncancelled : ∀ number, loop.created.length ≤ number → loop.cancelled number = false

theorem wellFormed_empty : empty.WellFormed where
  named _ impossible := by cases impossible
  unwritten _ _ := rfl
  uncancelled _ _ := rfl

section Operations
variable {loop : AgentLoop} {channelId other : ChannelId} {number : Nat}

theorem lookup_cons (entry : ChannelId × Nat) (rest : List (ChannelId × Nat)) :
    (entry :: rest).lookup other = if other = entry.1 then some entry.2 else rest.lookup other := by
  rw [List.lookup_cons]
  by_cases same : other = entry.1
  · rw [if_pos same, beq_iff_eq.mpr same]
  · rw [if_neg same, beq_false_of_ne same]

theorem find_create (absent : loop.find channelId = none) : (loop.create channelId).find other =
    if other = channelId then some loop.created.length else loop.find other := by
  unfold find create
  rw [List.lookup_append]
  by_cases same : other = channelId
  · subst same
    have free : List.lookup other loop.channels = none := absent
    simp [free]
  · rw [lookup_cons, if_neg same, if_neg same]
    exact Option.or_none

theorem find_pop : (loop.pop channelId).find other =
    if other = channelId then none else loop.find other := by
  unfold find pop
  dsimp only
  induction loop.channels with
  | nil => split <;> rfl
  | cons entry rest ih =>
      by_cases popped : entry.1 = channelId
      · rw [List.filter_cons_of_neg (by simpa using popped), ih, lookup_cons, popped]
        by_cases same : other = channelId
        · rw [if_pos same, if_pos same]
        · rw [if_neg same, if_neg same, if_neg same]
      · rw [List.filter_cons_of_pos (by simpa using popped), lookup_cons, lookup_cons, ih]
        by_cases same : other = channelId
        · have apart : other ≠ entry.1 := fun equal => popped (equal.symm.trans same)
          rw [if_pos same, if_pos same, if_neg apart]
        · rw [if_neg same, if_neg same]

theorem find_mem (found : loop.find channelId = some number) :
    (channelId, number) ∈ loop.channels := by
  unfold find at found
  revert found
  induction loop.channels with
  | nil =>
      intro impossible
      cases impossible
  | cons entry rest ih =>
      intro found
      rw [lookup_cons] at found
      split at found
      · rename_i same
        cases found
        rw [same]
        exact List.mem_cons_self
      · exact List.mem_cons_of_mem _ (ih found)

theorem WellFormed.create (formed : loop.WellFormed) : (loop.create channelId).WellFormed where
  named entry member := by
    rcases List.mem_append.mp member with old | new
    · have was := formed.named entry old
      have small : entry.2 < loop.created.length := (List.getElem?_eq_some_iff.mp was).1
      exact (List.getElem?_append_left small).trans was
    · cases List.mem_singleton.mp new
      exact List.getElem?_concat_length
  unwritten number large := by
    apply formed.unwritten
    have longer : (loop.create channelId).created.length = loop.created.length + 1 := by
      simp [AgentLoop.create]
    omega
  uncancelled number large := by
    apply formed.uncancelled
    have longer : (loop.create channelId).created.length = loop.created.length + 1 := by
      simp [AgentLoop.create]
    omega

theorem WellFormed.pop (formed : loop.WellFormed) : (loop.pop channelId).WellFormed where
  named entry member := formed.named entry (List.mem_of_mem_filter member)
  unwritten := formed.unwritten
  uncancelled := formed.uncancelled

theorem WellFormed.inUse {entry : ChannelId × Nat} (formed : loop.WellFormed)
    (member : entry ∈ loop.channels) : entry.2 < loop.created.length :=
  (List.getElem?_eq_some_iff.mp (formed.named entry member)).1

/-- A local connection serves one channel. -/
theorem WellFormed.owner (formed : loop.WellFormed) (found : (channelId, number) ∈ loop.channels)
    (again : (other, number) ∈ loop.channels) : other = channelId :=
  Option.some.inj ((formed.named _ again).symm.trans (formed.named _ found))

theorem Live.create (live : loop.Live) (formed : loop.WellFormed) : (loop.create channelId).Live := by
  intro entry member
  rcases List.mem_append.mp member with old | new
  · exact live entry old
  · cases List.mem_singleton.mp new
    exact formed.uncancelled _ le_rfl

/-- A connection taken out of the table can be told to end. -/
theorem Live.close (live : loop.Live) (formed : loop.WellFormed)
    (found : loop.find channelId = some number) : ((loop.pop channelId).cancel number).Live := by
  intro entry member
  obtain ⟨old, apart⟩ := List.mem_filter.mp member
  have elsewhere : entry.2 ≠ number := by
    rintro rfl
    exact of_decide_eq_true apart (formed.owner (find_mem found) old)
  exact (Function.update_of_ne elsewhere _ _).trans (live entry old)

theorem WellFormed.write {payload : Bytes} (formed : loop.WellFormed)
    (small : number < loop.created.length) : (loop.write number payload).WellFormed where
  named := formed.named
  unwritten late large := by
    have apart : late ≠ number := by
      intro same
      subst same
      exact absurd small (not_lt.mpr large)
    exact (Function.update_of_ne apart _ _).trans (formed.unwritten late large)
  uncancelled := formed.uncancelled

theorem WellFormed.cancel (formed : loop.WellFormed) (small : number < loop.created.length) :
    (loop.cancel number).WellFormed where
  named := formed.named
  unwritten := formed.unwritten
  uncancelled late large := by
    have apart : late ≠ number := by
      intro same
      subst same
      exact absurd small (not_lt.mpr large)
    exact (Function.update_of_ne apart _ _).trans (formed.uncancelled late large)

theorem delivered_create (formed : loop.WellFormed) (absent : loop.find channelId = none) :
    (loop.create channelId).delivered other =
      if other = channelId then some [] else loop.delivered other := by
  unfold delivered
  rw [find_create absent]
  split
  · exact congrArg some (formed.unwritten _ le_rfl)
  · rfl

theorem delivered_pop : (loop.pop channelId).delivered other =
    if other = channelId then none else loop.delivered other := by
  unfold delivered
  rw [find_pop]
  split
  · rfl
  · rfl

/-- A write reaches the channel the number is in the table for, and no other. -/
theorem delivered_write {payload : Bytes} (formed : loop.WellFormed)
    (found : loop.find channelId = some number) : (loop.write number payload).delivered other =
      if other = channelId then (loop.delivered other).map (· ++ payload)
      else loop.delivered other := by
  have same : (loop.write number payload).find other = loop.find other := rfl
  unfold delivered
  rw [same]
  by_cases mine : other = channelId
  · subst mine
    rw [if_pos rfl, found]
    exact congrArg some (Function.update_self ..)
  · rw [if_neg mine]
    cases there : loop.find other with
    | none => rfl
    | some elsewhere =>
        have apart : elsewhere ≠ number := by
          intro equal
          subst equal
          exact mine (formed.owner (find_mem found) (find_mem there))
        exact congrArg some (Function.update_of_ne apart _ _)
end Operations

end AgentLoop

/-! What the frames ask for, channel by channel. -/

/-- What a channel has been sent since it was opened; `none` while it is not open. -/
def deliveredStep (channelId : ChannelId) (sent : Option Bytes) (decoded : DecodedTunnelFrame) :
    Option Bytes :=
  if decoded.frame.channelId = some channelId then
    match decoded.frame.type with
    | .OPEN_SESSION => some []
    | .SESSION_DATA => sent.map (· ++ decoded.payload)
    | .CLOSE_SESSION => none
    | _ => sent
  else sent

def deliveredBy (channelId : ChannelId) (frames : List DecodedTunnelFrame) : Option Bytes :=
  frames.foldl (deliveredStep channelId) none

@[simp] theorem deliveredBy_nil (channelId : ChannelId) : deliveredBy channelId [] = none := rfl

@[simp] theorem deliveredBy_append (channelId : ChannelId) (frames : List DecodedTunnelFrame)
    (decoded : DecodedTunnelFrame) : deliveredBy channelId (frames ++ [decoded]) =
      deliveredStep channelId (deliveredBy channelId frames) decoded := by
  simp [deliveredBy]

/-- The data of a channel, from first to last. -/
def carried (channelId : ChannelId) (decoded : DecodedTunnelFrame) : Bytes :=
  if decoded.frame.type = .SESSION_DATA ∧ decoded.frame.channelId = some channelId then decoded.payload
  else []

def dataFor (channelId : ChannelId) (frames : List DecodedTunnelFrame) : Bytes :=
  frames.flatMap (carried channelId)

/-- The channels opened, in order. -/
def opening (decoded : DecodedTunnelFrame) : Option ChannelId :=
  if decoded.frame.type = .OPEN_SESSION then decoded.frame.channelId else none

def opened (frames : List DecodedTunnelFrame) : List ChannelId := frames.filterMap opening

@[simp] theorem dataFor_append (channelId : ChannelId) (frames : List DecodedTunnelFrame)
    (decoded : DecodedTunnelFrame) : dataFor channelId (frames ++ [decoded]) =
      dataFor channelId frames ++ carried channelId decoded := by
  simp [dataFor]

@[simp] theorem opened_append (frames : List DecodedTunnelFrame) (decoded : DecodedTunnelFrame) :
    opened (frames ++ [decoded]) = opened frames ++ (opening decoded).toList := by
  unfold opened
  rw [List.filterMap_append]
  cases same : opening decoded <;> simp [same]

theorem dataFor_prefix {channelId : ChannelId} {part all : List DecodedTunnelFrame}
    (ahead : part <+: all) : dataFor channelId part <+: dataFor channelId all := by
  obtain ⟨rest, rfl⟩ := ahead
  rw [dataFor, dataFor, List.flatMap_append]
  exact List.prefix_append _ _

theorem opened_prefix {part all : List DecodedTunnelFrame} (ahead : part <+: all) :
    opened part <+: opened all := by
  obtain ⟨rest, rfl⟩ := ahead
  rw [opened, opened, List.filterMap_append]
  exact List.prefix_append _ _

/-- Everything the loop ever did, over all local connections: one was made for
each opening, and while no channel is opened twice each was given its channel's
data. -/
structure Journal (loop : AgentLoop) (done : List DecodedTunnelFrame) : Prop where
  created : loop.created = opened done
  unopened : ∀ channelId, channelId ∉ loop.created → dataFor channelId done = []
  sole : loop.created.Nodup → ∀ number channelId, loop.created[number]? = some channelId →
    loop.written number = dataFor channelId done

namespace Journal
variable {loop after : AgentLoop} {done : List DecodedTunnelFrame} {decoded : DecodedTunnelFrame}

theorem empty : Journal .empty [] where
  created := rfl
  unopened _ _ := rfl
  sole _ _ _ impossible := by cases impossible

/-- A frame that neither opens a channel nor carries data. -/
theorem skip (journal : Journal loop done) (idle : opening decoded = none)
    (dry : ∀ channelId, carried channelId decoded = []) (created : after.created = loop.created)
    (written : after.written = loop.written) : Journal after (done ++ [decoded]) where
  created := by
    rw [created, opened_append, idle]
    simpa using journal.created
  unopened channelId absent := by
    rw [dataFor_append, dry, List.append_nil]
    exact journal.unopened channelId (created ▸ absent)
  sole once number channelId found := by
    rw [dataFor_append, dry, List.append_nil, written]
    exact journal.sole (created ▸ once) number channelId (created ▸ found)

theorem create {channelId : ChannelId} (journal : Journal loop done) (formed : loop.WellFormed)
    (opens : opening decoded = some channelId) (dry : ∀ channelId, carried channelId decoded = []) :
    Journal (loop.create channelId) (done ++ [decoded]) where
  created := by
    rw [opened_append, opens, ← journal.created]
    rfl
  unopened other absent := by
    rw [dataFor_append, dry, List.append_nil]
    exact journal.unopened other fun member => absent (List.mem_append_left _ member)
  sole once number other found := by
    rw [dataFor_append, dry, List.append_nil]
    have distinct := List.nodup_append.mp once
    by_cases old : number < loop.created.length
    · exact journal.sole distinct.1 number other ((List.getElem?_append_left old).symm.trans found)
    · -- the new local connection, of a channel that was not opened before
      have last : other = channelId := by
        rw [AgentLoop.create, List.getElem?_append_right (not_lt.mp old)] at found
        exact List.mem_singleton.mp (List.mem_of_getElem? found)
      subst last
      have absent : other ∉ loop.created := fun member =>
        distinct.2.2 other member other List.mem_cons_self rfl
      rw [journal.unopened other absent]
      exact formed.unwritten number (not_lt.mp old)

theorem write {channelId : ChannelId} {number : Nat} (journal : Journal loop done)
    (formed : loop.WellFormed) (found : loop.find channelId = some number)
    (type : decoded.frame.type = .SESSION_DATA) (named : decoded.frame.channelId = some channelId) :
    Journal (loop.write number decoded.payload) (done ++ [decoded]) := by
  have mine := formed.named _ (AgentLoop.find_mem found)
  have others : ∀ other, other ≠ channelId → carried other decoded = [] := by
    intro other apart
    apply if_neg
    rintro ⟨-, again⟩
    exact apart (Option.some.inj (again.symm.trans named))
  refine ⟨?_, fun other absent => ?_, fun once other second there => ?_⟩
  · have idle : opening decoded = none := by simp [opening, type]
    rw [opened_append, idle, Option.toList_none, List.append_nil]
    exact journal.created
  · have apart : other ≠ channelId := by
      rintro rfl
      exact absent (List.mem_of_getElem? mine)
    rw [dataFor_append, others other apart, List.append_nil]
    exact journal.unopened other absent
  · have before := journal.sole once other second there
    rw [dataFor_append, ← before]
    by_cases same : second = channelId
    · subst same
      have small : other < loop.created.length := (List.getElem?_eq_some_iff.mp there).1
      have equal : other = number := (List.getElem?_inj small once).mp (there.trans mine.symm)
      subst equal
      rw [carried, if_pos ⟨type, named⟩]
      exact Function.update_self ..
    · have apart : other ≠ number := by
        rintro rfl
        exact same (Option.some.inj (there.symm.trans mine))
      rw [others second same, List.append_nil]
      exact Function.update_of_ne apart _ _
end Journal

end VibeConnect.AgentChannels
