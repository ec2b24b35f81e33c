import VibeConnect.BrokerTransport

/-! What a transport sends of what it is given. The loop takes its ready tasks first in,
first out, the tunnel is up, and a frame that fits is always written. A write is a task of
its own, and a close cancels those that have not run. -/
namespace VibeConnect.TransportWrites
open Python.Text Python.Values TunnelBroker BrokerTransport

inductive LocalEvent where
  | write (data : Bytes)
  | drained
  | turn (drains : Bool) (onLost : Reaction)

section
variable (fits : Bytes → Bool)

/-- How a frame goes while the tunnel is up: a payload that does not fit is not encoded. -/
def sendingFor (drains : Bool) (handle : Handle) : Transport.Sending :=
  let sent := if drains then Transport.Sending.drained .returned else .waits
  match handle with
  | .writeStart payload _ => if fits payload then sent else .refused
  | _ => sent

def localStep (transport : Transport) : LocalEvent → Transport
  | .write data => step transport (.write data)
  | .drained => step transport (.drained .returned)
  | .turn drains onLost => match transport.ready with
      | [] => transport
      | handle :: _ =>
          step transport (.turn 0 (sendingFor fits drains handle) (.returned true) onLost)

def localRuns (transport : Transport) (events : List LocalEvent) : Transport :=
  events.foldl (localStep fits) transport

/-- The protocol may write as soon as it is told of its connection. -/
def opening (payloads : List Bytes) : Reaction := payloads.foldr .write (.returned true)

def connected (agentId : Uuid) (first : List Bytes) : Transport :=
  step (.fresh agentId) (.connect (opening first))

def turnsOf (events : List LocalEvent) : Nat :=
  events.countP fun event => match event with
    | .turn _ _ => true
    | _ => false

/-- After a close the channel's frames are what was written and then its end, from when the loop
has gone through what was ready. -/
def Delivered (transport : Transport) : Prop :=
  ∀ onLost later, let closed := step transport (.close onLost)
    let after := localRuns fits closed later
    (.closeSession ∈ after.wire →
      after.wire = transport.written.map .sessionData ++ [.closeSession]) ∧
    (closed.ready.length ≤ turnsOf later → .closeSession ∈ after.wire)

/-- Every write has taken its first turn, and every payload fits a frame. -/
def AllStarted (transport : Transport) : Prop :=
  (∀ payload ∈ transport.written, fits payload = true) ∧
    ∀ payload, .writeStart payload false ∉ transport.ready
end

/-! A transport that closes. -/
/-- Its write tasks are cancelled, and only the end of the channel is still to come. -/
structure Shut (sent : List Bytes) (transport : Transport) : Prop where
  created : transport.created = true
  closing : transport.closing = true
  readCancelled : transport.readCancelled = true
  dropped : ∀ payload, .writeStart payload false ∉ transport.ready
  wire : (transport.stream.closed = false ∧ transport.wire = sent.map .sessionData) ∨
    (transport.stream.closed = true ∧ transport.wire = sent.map .sessionData ++ [.closeSession])

/-- The end of the channel is sent, or it is in the queue before the given turn. -/
def Ends (turns : Nat) (transport : Transport) : Prop :=
  .closeSession ∈ transport.wire ∨ transport.stream.closed = false ∧ ∃ earlier rest,
    transport.ready = earlier ++ .closeTurn :: rest ∧ earlier.length < turns

section Closing
variable {sent : List Bytes} {transport : Transport} {turns : Nat}

/-- Once a transport is closing a reaction only writes in vain. -/
theorem perform_closing (reaction : Reaction) (closing : transport.closing = true) :
    ∃ more, (transport.perform reaction).1 =
      { transport with written := transport.written ++ more } := by
  induction reaction generalizing transport with
  | returned | raised | cancelled => exact ⟨[], by simp [Transport.perform]⟩
  | write data rest ih =>
      rw [Transport.perform]
      by_cases empty : data = []
      · simpa [Transport.write, empty] using ih closing
      · have vain : transport.write data =
            { transport with written := transport.written ++ [data] } := by
          simp [Transport.write, empty, closing]
        have still : (transport.write data).closing = true := by rw [vain]; exact closing
        obtain ⟨more, same⟩ := ih still
        exact ⟨data :: more, by rw [same, vain]; simp⟩
  | close onLost rest lost ih | abort onLost rest lost ih =>
      rw [Transport.perform, if_pos closing]
      exact ih closing

/-- A step that leaves the frames alone and only adds handles that send nothing. -/
structure Kept (before after : Transport) : Prop where
  created : after.created = before.created
  closing : after.closing = before.closing
  readCancelled : after.readCancelled = before.readCancelled
  closed : after.stream.closed = before.stream.closed
  wire : after.wire = before.wire
  written : before.written <+: after.written
  ready : ∃ more, after.ready = before.ready ++ more ∧ ∀ payload, .writeStart payload false ∉ more

theorem kept_refl (transport : Transport) : Kept transport transport :=
  ⟨rfl, rfl, rfl, rfl, rfl, List.prefix_refl _, [], by simp, by simp⟩

theorem Shut.kept {after : Transport} (shut : Shut sent transport) (kept : Kept transport after) :
    Shut sent after where
  created := kept.created.trans shut.created
  closing := kept.closing.trans shut.closing
  readCancelled := kept.readCancelled.trans shut.readCancelled
  dropped payload member := by
    obtain ⟨more, same, silent⟩ := kept.ready
    rw [same] at member
    exact (List.mem_append.mp member).elim (shut.dropped payload) (silent payload)
  wire := by rw [kept.closed, kept.wire]; exact shut.wire

theorem Ends.kept {after : Transport} (ends : Ends turns transport) (kept : Kept transport after) :
    Ends turns after := by
  rcases ends with there | ⟨open_, earlier, rest, split, soon⟩
  · exact .inl (kept.wire ▸ there)
  · obtain ⟨more, same, -⟩ := kept.ready
    exact .inr ⟨kept.closed.trans open_, earlier, rest ++ more, by simp [same, split], soon⟩

theorem kept_readTurn (cancelled : transport.readCancelled = true) (onData onLost : Reaction) :
    Kept transport (transport.readTurn onData onLost) := by
  unfold Transport.readTurn
  rw [if_pos cancelled]
  exact ⟨rfl, rfl, rfl, rfl, rfl, List.prefix_refl _, [], by simp [Transport.readEnded], by simp⟩

/-- While a transport closes, a handle other than the close task's sends nothing. -/
theorem Shut.run_kept (shut : Shut sent transport) {handle : Handle} (other : handle ≠ .closeTurn)
    (live : ∀ payload, handle ≠ .writeStart payload false) (sending : Transport.Sending)
    (onData onLost : Reaction) :
    Kept transport (Transport.run handle sending onData onLost transport) := by
  cases handle with
  | readTurn => exact kept_readTurn shut.readCancelled onData onLost
  | writeStart payload cancelled =>
      cases cancelled with
      | false => exact absurd rfl (live payload)
      | true => exact ⟨rfl, rfl, rfl, rfl, rfl, List.prefix_refl _, [.writeDone .cancelled], rfl, by simp⟩
  | writeWake how => exact ⟨rfl, rfl, rfl, rfl, rfl, List.prefix_refl _, [.writeDone how], rfl, by simp⟩
  | writeDone how =>
      cases how with
      | raised =>
          have same : Transport.run (.writeDone .raised) sending onData onLost transport =
              transport := by
            change transport.close onLost = transport
            rw [Transport.close, if_pos shut.closing]
          rw [same]
          exact kept_refl transport
      | returned | cancelled => exact kept_refl transport
  | closeTurn => exact absurd rfl other

/-- The close task sends the end of the channel, unless it was sent before. -/
theorem Shut.run_closeTurn (shut : Shut sent transport) {sending : Transport.Sending}
    (sends : sending ≠ .refused) (onData onLost : Reaction) :
    Shut sent (Transport.run .closeTurn sending onData onLost transport) ∧
      .closeSession ∈ (Transport.run .closeTurn sending onData onLost transport).wire ∧
      transport.written <+: (Transport.run .closeTurn sending onData onLost transport).written := by
  change Shut sent (transport.closeTurn sending) ∧ _ ∈ (transport.closeTurn sending).wire ∧
    _ <+: (transport.closeTurn sending).written
  unfold Transport.closeTurn
  rcases shut.wire with ⟨open_, wire⟩ | ⟨closed, wire⟩
  · rw [open_]
    cases sending with
    | refused => exact absurd rfl sends
    | waits | drained =>
        refine ⟨⟨shut.created, shut.closing, shut.readCancelled, shut.dropped, .inr ⟨rfl, ?_⟩⟩, ?_,
          List.prefix_refl _⟩
        · exact congrArg (· ++ [ChannelFrame.closeSession]) wire
        · exact List.mem_append_right _ List.mem_cons_self
  · rw [if_pos closed]
    refine ⟨shut, ?_, List.prefix_refl _⟩
    rw [wire]
    exact List.mem_append_right _ List.mem_cons_self

theorem sendingFor_sends (fits : Bytes → Bool) (drains : Bool) : sendingFor fits drains .closeTurn ≠ .refused := by
  cases drains <;> simp [sendingFor]

/-- A turn of a transport that closes takes the end of the channel one place on. -/
theorem Shut.turn (fits : Bytes → Bool) (shut : Shut sent transport) (drains : Bool) (onLost : Reaction) :
    Shut sent (localStep fits transport (.turn drains onLost)) ∧
      transport.written <+: (localStep fits transport (.turn drains onLost)).written ∧
      ∀ turns, Ends (turns + 1) transport →
        Ends turns (localStep fits transport (.turn drains onLost)) := by
  cases ready : transport.ready with
  | nil =>
      have idle : localStep fits transport (.turn drains onLost) = transport := by
        simp [localStep, ready]
      rw [idle]
      refine ⟨shut, List.prefix_refl _, fun turns ends => ?_⟩
      rcases ends with there | ⟨-, earlier, rest, split, -⟩
      · exact .inl there
      · rw [ready] at split
        simp at split
  | cons handle rest =>
      have ran : localStep fits transport (.turn drains onLost) =
          Transport.run handle (sendingFor fits drains handle) (.returned true) onLost
            { transport with ready := rest } := by
        simp [localStep, step, ready]
      have left : Shut sent { transport with ready := rest } :=
        ⟨shut.created, shut.closing, shut.readCancelled,
          fun payload member => shut.dropped payload (ready ▸ List.mem_cons_of_mem _ member), shut.wire⟩
      rw [ran]
      by_cases last : handle = .closeTurn
      · subst last
        have closed := left.run_closeTurn (sendingFor_sends fits drains) (.returned true) onLost
        exact ⟨closed.1, closed.2.2, fun _ _ => .inl closed.2.1⟩
      · have live : ∀ payload, handle ≠ .writeStart payload false := by
          rintro payload rfl
          exact shut.dropped payload (ready ▸ List.mem_cons_self)
        have kept := left.run_kept last live (sendingFor fits drains handle) (.returned true) onLost
        refine ⟨left.kept kept, kept.written, fun turns ends => Ends.kept ?_ kept⟩
        rcases ends with there | ⟨open_, earlier, after, split, soon⟩
        · exact .inl there
        · cases earlier with
          | nil =>
              rw [ready] at split
              exact absurd (List.cons.inj split).1 last
          | cons first more =>
              rw [ready] at split
              refine .inr ⟨open_, more, after, (List.cons.inj split).2, ?_⟩
              simp only [List.length_cons] at soon
              omega

theorem Shut.other (fits : Bytes → Bool) (shut : Shut sent transport) (event : LocalEvent)
    (calls : ∀ drains onLost, event ≠ .turn drains onLost) :
    Kept transport (localStep fits transport event) := by
  cases event with
  | write data =>
      simp only [localStep, step, shut.created, if_true]
      unfold Transport.write
      split
      · exact kept_refl transport
      · dsimp only
        rw [if_pos shut.closing]
        exact ⟨rfl, rfl, rfl, rfl, rfl, List.prefix_append _ _, [], by simp, by simp⟩
  | drained =>
      simp only [localStep, step]
      split
      · exact kept_refl transport
      · exact ⟨rfl, rfl, rfl, rfl, rfl, List.prefix_refl _, [.writeWake .returned], rfl, by simp⟩
  | turn drains onLost => exact absurd rfl (calls drains onLost)

theorem Ends.later (ends : Ends turns transport) : Ends (turns + 1) transport := by
  rcases ends with there | ⟨open_, earlier, rest, split, soon⟩
  · exact .inl there
  · exact .inr ⟨open_, earlier, rest, split, by omega⟩

theorem Shut.step (fits : Bytes → Bool) (shut : Shut sent transport) (event : LocalEvent) :
    Shut sent (localStep fits transport event) ∧
      transport.written <+: (localStep fits transport event).written := by
  cases event with
  | turn drains onLost =>
      have moved := Shut.turn fits shut drains onLost
      exact ⟨moved.1, moved.2.1⟩
  | write data =>
      have kept := Shut.other fits shut (.write data) (by simp)
      exact ⟨shut.kept kept, kept.written⟩
  | drained =>
      have kept := Shut.other fits shut .drained (by simp)
      exact ⟨shut.kept kept, kept.written⟩

/-- A run of a transport that closes sends nothing but the end of the channel. -/
theorem Shut.runs (fits : Bytes → Bool) (shut : Shut sent transport) (events : List LocalEvent) :
    Shut sent (localRuns fits transport events) := by
  induction events generalizing transport with
  | nil => exact shut
  | cons event rest ih => exact ih (Shut.step fits shut event).1

/-- It sends that within the turns it takes to come to it. -/
theorem Shut.ends (fits : Bytes → Bool) (shut : Shut sent transport) (events : List LocalEvent)
    (ends : Ends (turnsOf events) transport) : Ends 0 (localRuns fits transport events) := by
  induction events generalizing transport with
  | nil => exact ends
  | cons event rest ih =>
      have stepped := (Shut.step fits shut event).1
      cases event with
      | turn drains onLost =>
          apply ih stepped
          apply (Shut.turn fits shut drains onLost).2.2
          simpa [turnsOf] using ends
      | write data =>
          have kept := Shut.other fits shut (.write data) (by simp)
          exact ih stepped (Ends.kept (by simpa [turnsOf] using ends) kept)
      | drained =>
          have kept := Shut.other fits shut .drained (by simp)
          exact ih stepped (Ends.kept (by simpa [turnsOf] using ends) kept)
end Closing

/-! A transport that is open. -/
/-- What is still to be sent first. -/
def pending (ready : List Handle) : List Bytes :=
  ready.filterMap fun handle => match handle with
    | .writeStart payload false => some payload
    | _ => none

/-- A handle of a transport on which nothing has failed. -/
def Quiet (handle : Handle) : Prop :=
  handle = .readTurn ∨ (∃ payload, handle = .writeStart payload false) ∨
    handle = .writeWake .returned ∨ handle = .writeDone .returned

structure Live (sent : List Bytes) (transport : Transport) : Prop where
  created : transport.created = true
  closing : transport.closing = false
  reading : transport.readTask ≠ .absent
  empty : transport.stream.buffer = []
  closed : transport.stream.closed = false
  noClose : .closeTurn ∉ transport.ready
  wire : transport.wire = sent.map .sessionData

/-- Nothing has failed, and what was written was sent or waits for its turn, in this order. -/
structure Calm (sent : List Bytes) (transport : Transport) : Prop where
  quiet : ∀ handle ∈ transport.ready, Quiet handle
  order : transport.written = sent ++ pending transport.ready

/-- An open transport has lost nothing unless something did not fit; a transport that closed by
itself had something that did not. -/
inductive Upright (fits : Bytes → Bool) (sent : List Bytes) (transport : Transport) : Prop where
  | live (live : Live sent transport)
      (calm : (∀ payload ∈ transport.written, fits payload = true) → Calm sent transport)
  | shut (shut : Shut sent transport) (unfit : ∃ payload ∈ transport.written, fits payload = false)

section Opening
variable {fits : Bytes → Bool} {sent : List Bytes} {transport : Transport}

/-- Without data the read task only waits. -/
theorem Live.readTurn (live : Live sent transport) (onData onLost : Reaction) :
    ∃ task ready, task ≠ .absent ∧ transport.readTurn onData onLost =
      { transport with readTask := task, stream := { transport.stream with dataReady := ready } } := by
  have idle : transport.stream.buffer = [] ∧ transport.stream.closed = false := ⟨live.empty, live.closed⟩
  unfold Transport.readTurn
  by_cases cancelled : transport.readCancelled = true
  · rw [if_pos cancelled]
    exact ⟨.ended, transport.stream.dataReady, by simp, rfl⟩
  rw [if_neg cancelled]
  split
  · rename_i absent
    exact absurd absent live.reading
  · rename_i ended
    refine ⟨.ended, transport.stream.dataReady, by simp, ?_⟩
    rw [← ended]
  · rw [if_neg (by simp [live.closing])]
    refine ⟨.waiting, false, by simp, ?_⟩
    simp only [Transport.readOnce, idle, and_self, if_true]
  · refine ⟨.waiting, false, by simp, ?_⟩
    simp only [Transport.readOnce, idle, and_self, if_true]

theorem beginClose_ready (transport : Transport) : ∃ later, transport.beginClose.ready =
    transport.ready.map Transport.cancelHandle ++ .closeTurn :: later ∧
      ∀ payload, .writeStart payload false ∉ later := by
  refine ⟨(if transport.readTask = .waiting ∧ .readTurn ∉ transport.ready then [Handle.readTurn]
    else []) ++ List.replicate transport.draining (.writeWake .cancelled), ?_, ?_⟩
  · simp [Transport.beginClose, Transport.calling]
  · intro payload member
    rcases List.mem_append.mp member with reader | drained
    · split at reader <;> simp at reader
    · cases List.eq_of_mem_replicate drained

theorem cancelled_dropped (ready : List Handle) (payload : Bytes) :
    .writeStart payload false ∉ ready.map Transport.cancelHandle := by
  intro member
  obtain ⟨handle, -, same⟩ := List.mem_map.mp member
  cases handle <;> simp [Transport.cancelHandle] at same

/-- A close cancels the writes that have not run; what was sent stays sent. -/
theorem Live.close (live : Live sent transport) (onLost : Reaction) :
    Shut sent (transport.close onLost) ∧ transport.written <+: (transport.close onLost).written ∧
      Ends (transport.close onLost).ready.length (transport.close onLost) := by
  obtain ⟨more, performed⟩ := perform_closing onLost (show transport.beginClose.closing = true from rfl)
  obtain ⟨later, ready, silent⟩ := beginClose_ready transport
  have closed : transport.close onLost =
      { transport.beginClose with written := transport.beginClose.written ++ more } := by
    rw [Transport.close, if_neg (by simp [live.closing]), performed]
  rw [closed]
  refine ⟨⟨live.created, rfl, decide_eq_true live.reading, ?_, .inl ⟨live.closed, live.wire⟩⟩,
    List.prefix_append _ _, ?_⟩
  · intro payload member
    rw [show _ = _ from ready] at member
    rcases List.mem_append.mp member with cancelled | rest
    · exact cancelled_dropped _ payload cancelled
    · rcases List.mem_cons.mp rest with impossible | rest
      · cases impossible
      · exact silent payload rest
  · refine .inr ⟨live.closed, _, later, ready, ?_⟩
    rw [show _ = _ from ready]
    simp

theorem pending_append (one two : List Handle) : pending (one ++ two) = pending one ++ pending two :=
  List.filterMap_append

/-- A handle that sends nothing is added to the queue. -/
theorem Live.added (live : Live sent transport) (handle : Handle) (other : handle ≠ .closeTurn) :
    Live sent { transport with ready := transport.ready ++ [handle] } where
  created := live.created
  closing := live.closing
  reading := live.reading
  empty := live.empty
  closed := live.closed
  noClose member := (List.mem_append.mp member).elim live.noClose
    fun last => other (List.mem_singleton.mp last).symm
  wire := live.wire

theorem Calm.added (calm : Calm sent transport) (handle : Handle) (quiet : Quiet handle)
    (silent : pending [handle] = []) :
    Calm sent { transport with ready := transport.ready ++ [handle] } where
  quiet other member := (List.mem_append.mp member).elim (calm.quiet other)
    fun last => List.mem_singleton.mp last ▸ quiet
  order := by rw [pending_append, silent, List.append_nil]; exact calm.order

/-- The queue without its first handle, when that one sends nothing. -/
theorem Calm.rest (calm : Calm sent transport) {handle : Handle} {rest : List Handle}
    (ready : transport.ready = handle :: rest) (silent : pending [handle] = []) :
    Calm sent { transport with ready := rest } where
  quiet other member := calm.quiet other (ready ▸ List.mem_cons_of_mem _ member)
  order := by
    have order := calm.order
    rw [ready, ← List.singleton_append, pending_append, silent, List.nil_append] at order
    exact order

/-- A turn of an open transport. -/
theorem Upright.turn (live : Live sent transport)
    (calm : (∀ payload ∈ transport.written, fits payload = true) → Calm sent transport)
    (fitting : ∀ payload ∈ sent, fits payload = true) {handle : Handle} {rest : List Handle}
    (ready : transport.ready = handle :: rest) (drains : Bool) (onLost : Reaction) :
    ∃ sent, (∀ payload ∈ sent, fits payload = true) ∧ Upright fits sent
      (Transport.run handle (sendingFor fits drains handle) (.returned true) onLost
        { transport with ready := rest }) := by
  have left : Live sent { transport with ready := rest } :=
    ⟨live.created, live.closing, live.reading, live.empty, live.closed,
      fun member => live.noClose (ready ▸ List.mem_cons_of_mem _ member), live.wire⟩
  have first : handle ∈ transport.ready := ready ▸ List.mem_cons_self
  cases handle with
  | readTurn =>
      obtain ⟨task, flag, there, same⟩ := left.readTurn (.returned true) onLost
      refine ⟨sent, fitting, .live ?_ fun fit => ?_⟩
      · change Live sent (Transport.readTurn (.returned true) onLost { transport with ready := rest })
        rw [same]
        exact ⟨left.created, left.closing, there, left.empty, left.closed, left.noClose, left.wire⟩
      · change Calm sent (Transport.readTurn (.returned true) onLost { transport with ready := rest })
        change ∀ payload ∈ (Transport.readTurn (.returned true) onLost
          { transport with ready := rest }).written, _ at fit
        rw [same] at fit ⊢
        have still := (calm fit).rest ready rfl
        exact ⟨still.quiet, still.order⟩
  | writeStart payload cancelled =>
      cases cancelled with
      | true =>
          refine ⟨sent, fitting, .live (left.added (.writeDone .cancelled) (by simp)) ?_⟩
          intro fit
          have quiet := (calm fit).quiet _ first
          simp [Quiet] at quiet
      | false =>
      cases fit : fits payload with
      | false =>
          have refused : sendingFor fits drains (.writeStart payload false) = .refused := by
            simp [sendingFor, fit]
          rw [refused]
          refine ⟨sent, fitting, .live (left.added (.writeDone .raised) (by simp)) ?_⟩
          intro fitsAll
          have order := (calm fitsAll).order
          have written : payload ∈ transport.written := by
            rw [order, ready]
            simp [pending]
          rw [fitsAll payload written] at fit
          cases fit
      | true =>
          have more : ∀ other ∈ sent ++ [payload], fits other = true := by
            intro other member
            rcases List.mem_append.mp member with before | last
            · exact fitting other before
            · rw [List.mem_singleton.mp last]
              exact fit
          have wire : transport.wire ++ [.sessionData payload] =
              (sent ++ [payload]).map .sessionData := by
            rw [live.wire]
            simp
          have order : (∀ other ∈ transport.written, fits other = true) →
              transport.written = (sent ++ [payload]) ++ pending rest := by
            intro fitsAll
            rw [(calm fitsAll).order, ready]
            simp [pending]
          have still : ∀ fitsAll, ∀ other ∈ rest, Quiet other := fun fitsAll other member =>
            (calm fitsAll).quiet other (ready ▸ List.mem_cons_of_mem _ member)
          cases drains with
          | true =>
              have sends : sendingFor fits true (.writeStart payload false) = .drained .returned := by
                simp [sendingFor, fit]
              rw [sends]
              refine ⟨sent ++ [payload], more, .live ?_ fun fitsAll => ?_⟩
              · have added := left.added (.writeDone .returned) (by simp)
                exact ⟨added.created, added.closing, added.reading, added.empty, added.closed,
                  added.noClose, wire⟩
              · have base : Calm (sent ++ [payload]) { transport with ready := rest } :=
                  ⟨still fitsAll, order fitsAll⟩
                have added := base.added (.writeDone .returned) (by simp [Quiet]) rfl
                exact ⟨added.quiet, added.order⟩
          | false =>
              have sends : sendingFor fits false (.writeStart payload false) = .waits := by
                simp [sendingFor, fit]
              rw [sends]
              refine ⟨sent ++ [payload], more, .live ?_ fun fitsAll => ?_⟩
              · exact ⟨left.created, left.closing, left.reading, left.empty, left.closed, left.noClose,
                  wire⟩
              · exact ⟨still fitsAll, order fitsAll⟩
  | writeWake how =>
      refine ⟨sent, fitting, .live (left.added (.writeDone how) (by simp)) fun fit => ?_⟩
      have quiet := (calm fit).quiet _ first
      obtain rfl : how = .returned := by simpa [Quiet] using quiet
      exact ((calm fit).rest ready rfl).added _ (by simp [Quiet]) rfl
  | writeDone how =>
      cases how with
      | raised =>
          obtain ⟨shut, more, -⟩ := left.close onLost
          refine ⟨sent, fitting, .shut shut ?_⟩
          by_contra none
          have fit : ∀ payload ∈ transport.written, fits payload = true := by
            intro payload member
            by_contra unfit
            exact none ⟨payload, more.subset member, by simpa using unfit⟩
          have quiet := (calm fit).quiet _ first
          simp [Quiet] at quiet
      | returned => exact ⟨sent, fitting, .live left fun fit => (calm fit).rest ready rfl⟩
      | cancelled => exact ⟨sent, fitting, .live left fun fit => (calm fit).rest ready rfl⟩
  | closeTurn => exact absurd first live.noClose

theorem Upright.step (upright : Upright fits sent transport)
    (fitting : ∀ payload ∈ sent, fits payload = true) (event : LocalEvent) :
    ∃ sent, (∀ payload ∈ sent, fits payload = true) ∧
      Upright fits sent (localStep fits transport event) := by
  cases upright with
  | shut shut unfit =>
      obtain ⟨payload, written, misfit⟩ := unfit
      have stepped := Shut.step fits shut event
      exact ⟨sent, fitting, .shut stepped.1 ⟨payload, stepped.2.subset written, misfit⟩⟩
  | live live calm =>
  cases event with
  | write data =>
      refine ⟨sent, fitting, ?_⟩
      simp only [localStep, BrokerTransport.step, live.created, if_true]
      unfold Transport.write
      by_cases empty : data = []
      · rw [if_pos empty]
        exact .live live calm
      · rw [if_neg empty]
        dsimp only
        rw [if_neg (by simp [live.closing])]
        have added := live.added (.writeStart data false) (by simp)
        refine .live ⟨added.created, added.closing, added.reading, added.empty, added.closed,
          added.noClose, added.wire⟩ fun fit => ?_
        have before := calm fun payload member => fit payload (List.mem_append_left _ member)
        constructor
        · intro handle member
          rcases List.mem_append.mp member with old | last
          · exact before.quiet handle old
          · exact .inr (.inl ⟨data, List.mem_singleton.mp last⟩)
        · change transport.written ++ [data] = sent ++ pending (transport.ready ++ [_])
          rw [pending_append, before.order]
          simp [pending]
  | drained =>
      refine ⟨sent, fitting, ?_⟩
      simp only [localStep, BrokerTransport.step]
      split
      · exact .live live calm
      · have added := live.added (.writeWake .returned) (by simp)
        refine .live ⟨added.created, added.closing, added.reading, added.empty, added.closed,
          added.noClose, added.wire⟩ fun fit => ?_
        have still := (calm fit).added (.writeWake .returned) (by simp [Quiet]) rfl
        exact ⟨still.quiet, still.order⟩
  | turn drains onLost =>
      cases ready : transport.ready with
      | nil =>
          refine ⟨sent, fitting, ?_⟩
          simp only [localStep, ready]
          exact .live live calm
      | cons handle rest =>
          have ran : localStep fits transport (.turn drains onLost) =
              Transport.run handle (sendingFor fits drains handle) (.returned true) onLost
                { transport with ready := rest } := by
            simp [localStep, BrokerTransport.step, ready]
          rw [ran]
          exact Upright.turn live calm fitting ready drains onLost
end Opening

/-! From the connection on. -/
def nonempty (payloads : List Bytes) : List Bytes := payloads.filter (· ≠ [])

theorem perform_opening (payloads : List Bytes) (transport : Transport)
    (closing : transport.closing = false) :
    transport.perform (opening payloads) = ({ transport with
      written := transport.written ++ nonempty payloads
      ready := transport.ready ++ (nonempty payloads).map (.writeStart · false) },
      .returned true) := by
  induction payloads generalizing transport with
  | nil => simp [opening, nonempty, Transport.perform]
  | cons payload rest ih =>
      change (transport.write payload).perform (opening rest) = _
      by_cases empty : payload = []
      · have same : transport.write payload = transport := by simp [Transport.write, empty]
        rw [same, ih transport closing]
        simp [nonempty, empty]
      · have wrote : transport.write payload = { transport with
            written := transport.written ++ [payload]
            ready := transport.ready ++ [.writeStart payload false] } := by
          simp [Transport.write, empty, closing]
        have still : (transport.write payload).closing = false := by rw [wrote]; exact closing
        rw [ih _ still, wrote]
        simp [nonempty, empty]

theorem pending_started (payloads : List Bytes) :
    pending (payloads.map (.writeStart · false)) = payloads := by
  induction payloads with
  | nil => rfl
  | cons payload rest ih =>
      rw [List.map_cons, ← List.singleton_append, pending_append, ih]
      rfl

theorem upright_connected (fits : Bytes → Bool) (agentId : Uuid) (first : List Bytes) :
    Upright fits [] (connected agentId first) := by
  have start : connected agentId first = { Transport.calling .connectionMade
      { Transport.fresh agentId with created := true } with
        written := nonempty first
        ready := (nonempty first).map (.writeStart · false) ++ [.readTurn]
        readTask := .running } := by
    change Transport.connect (opening first) (.fresh agentId) = _
    unfold Transport.connect
    rw [perform_opening first _ rfl]
    rfl
  rw [start]
  refine .live ⟨rfl, rfl, by simp, rfl, rfl, ?_, rfl⟩ fun _ => ⟨?_, ?_⟩
  · simp
  · intro handle member
    rcases List.mem_append.mp member with started | last
    · obtain ⟨payload, -, same⟩ := List.mem_map.mp started
      exact .inr (.inl ⟨payload, same.symm⟩)
    · exact .inl (List.mem_singleton.mp last)
  · change nonempty first = [] ++ pending (_ ++ _)
    rw [pending_append, pending_started]
    simp [pending]

/-- Every state of a run is upright. -/
theorem upright_runs (fits : Bytes → Bool) (agentId : Uuid) (first : List Bytes)
    (events : List LocalEvent) : ∃ sent, (∀ payload ∈ sent, fits payload = true) ∧
      Upright fits sent (localRuns fits (connected agentId first) events) := by
  have all : ∀ (events : List LocalEvent) (sent : List Bytes) (transport : Transport),
      (∀ payload ∈ sent, fits payload = true) → Upright fits sent transport →
      ∃ sent, (∀ payload ∈ sent, fits payload = true) ∧
        Upright fits sent (localRuns fits transport events) := by
    intro events
    induction events with
    | nil => exact fun sent transport fitting upright => ⟨sent, fitting, upright⟩
    | cons event rest ih =>
        intro sent transport fitting upright
        obtain ⟨next, still, stepped⟩ := upright.step fitting event
        exact ih next _ still stepped
  exact all events [] _ (by simp) (upright_connected fits agentId first)

section Deliveries
variable {fits : Bytes → Bool} {sent : List Bytes} {transport : Transport}

theorem Shut.wire_ended (shut : Shut sent transport) (ended : .closeSession ∈ transport.wire) :
    transport.wire = sent.map .sessionData ++ [.closeSession] := by
  rcases shut.wire with ⟨-, wire⟩ | ⟨-, wire⟩
  · rw [wire] at ended
    simp at ended
  · exact wire

theorem ends_mono {few many : Nat} (ends : Ends few transport) (more : few ≤ many) :
    Ends many transport := by
  rcases ends with there | ⟨open_, earlier, rest, split, soon⟩
  · exact .inl there
  · exact .inr ⟨open_, earlier, rest, split, by omega⟩

/-- A delivery says that the frames that were sent are the writes. -/
theorem Delivered.written (delivered : Delivered fits transport)
    (shut : Shut sent (BrokerTransport.step transport (.close .raised))) :
    transport.written = sent := by
  let later := List.replicate (BrokerTransport.step transport (.close .raised)).ready.length
    (LocalEvent.turn true .raised)
  have long : turnsOf later = (BrokerTransport.step transport (.close .raised)).ready.length := by
    simp [turnsOf, later, List.countP_replicate]
  have ended := (delivered .raised later).2 long.ge
  have whole := (delivered .raised later).1 ended
  have wire := (Shut.runs fits shut later).wire_ended ended
  have same := List.append_cancel_right (wire.symm.trans whole)
  exact (List.map_injective_iff.mpr (fun _ _ => ChannelFrame.sessionData.inj) same).symm

theorem started_of_pending (none : pending transport.ready = []) (payload : Bytes) :
    .writeStart payload false ∉ transport.ready := by
  intro member
  have listed : payload ∈ pending transport.ready :=
    List.mem_filterMap.mpr ⟨_, member, rfl⟩
  rw [none] at listed
  cases listed

theorem pending_of_started (calm : Calm sent transport)
    (started : ∀ payload, .writeStart payload false ∉ transport.ready) :
    transport.written = sent := by
  have none : pending transport.ready = [] := by
    rw [List.eq_nil_iff_forall_not_mem]
    intro payload member
    obtain ⟨handle, held, same⟩ := List.mem_filterMap.mp member
    cases handle with
    | writeStart other cancelled =>
        cases cancelled with
        | false => exact started other held
        | true => cases same
    | _ => cases same
  rw [calm.order, none, List.append_nil]

theorem Upright.closed (upright : Upright fits sent transport) (onLost : Reaction) :
    Shut sent (BrokerTransport.step transport (.close onLost)) := by
  cases upright with
  | live live calm =>
      simp only [BrokerTransport.step, live.created, if_true]
      exact (live.close onLost).1
  | shut shut unfit =>
      simp only [BrokerTransport.step, shut.created, if_true]
      rw [Transport.close, if_pos shut.closing]
      exact shut
end Deliveries

/-- What a transport is given before it is closed is delivered exactly if every write has taken its
first turn by then and every payload fits a frame. -/
theorem delivered_iff (fits : Bytes → Bool) (agentId : Uuid) (first : List Bytes)
    (events : List LocalEvent) :
    Delivered fits (localRuns fits (connected agentId first) events) ↔
      AllStarted fits (localRuns fits (connected agentId first) events) := by
  obtain ⟨sent, fitting, upright⟩ := upright_runs fits agentId first events
  generalize localRuns fits (connected agentId first) events = transport at upright
  constructor
  · intro delivered
    have written := delivered.written (upright.closed .raised)
    have fit : ∀ payload ∈ transport.written, fits payload = true := written ▸ fitting
    refine ⟨fit, ?_⟩
    cases upright with
    | live live calm =>
        have order := (calm fit).order
        rw [written] at order
        exact started_of_pending (List.self_eq_append_right.mp order)
    | shut shut unfit =>
        obtain ⟨payload, member, misfit⟩ := unfit
        rw [fit payload member] at misfit
        cases misfit
  · rintro ⟨fit, started⟩ onLost later
    cases upright with
    | live live calm =>
        have written := pending_of_started (calm fit) started
        obtain ⟨shut, -, ends⟩ := live.close onLost
        have closed : BrokerTransport.step transport (.close onLost) = transport.close onLost := by
          simp only [BrokerTransport.step, live.created, if_true]
        dsimp only
        rw [closed, written]
        refine ⟨fun ended => (Shut.runs fits shut later).wire_ended ended, fun long => ?_⟩
        rcases Shut.ends fits shut later (ends_mono ends long) with there | ⟨-, earlier, -, -, soon⟩
        · exact there
        · exact absurd soon (Nat.not_lt_zero _)
    | shut shut unfit =>
        obtain ⟨payload, member, misfit⟩ := unfit
        rw [fit payload member] at misfit
        cases misfit

/-- A write and a close between two turns of the loop: the write is cancelled before it runs. -/
theorem same_turn_write_lost : ¬ ∀ (fits : Bytes → Bool) (agentId : Uuid) (first : List Bytes)
    (events : List LocalEvent),
    Delivered fits (localRuns fits (connected agentId first) events) := by
  intro always
  have delivered := always (fun _ => true) ⟨0⟩ [] [.turn true .raised, .write [1]]
  have turns := delivered .raised (List.replicate 3 (.turn true .raised))
  have ended := turns.2 (by decide)
  have whole := turns.1 ended
  revert whole
  decide

end VibeConnect.TransportWrites
