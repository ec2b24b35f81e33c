import VibeConnect.BrokerTransport

/-! What the protocol of a transport is called with, in any order of events and with any
reactions. The calls so far are in one of four phases; `_closing` says which of them can
still grow. -/
namespace VibeConnect.TransportCallbacks
open Python.Text Python.Values TunnelBroker BrokerTransport

/-- What the protocol has received. -/
def received (calls : List Called) : Bytes :=
  calls.flatMap fun called => match called.callback with
    | .dataReceived data => data
    | _ => []

def IsLost (called : Called) : Prop := ∃ failed, called.callback = .connectionLost failed

def IsData (called : Called) : Prop := ∃ data, called.callback = .dataReceived data

def IsEof (called : Called) : Prop := called.callback = .eofReceived

def IsMade (called : Called) : Prop := called.callback = .connectionMade

/-- No call of the second kind comes after one of the first kind. -/
def NeverAfter (one other : Called → Prop) (calls : List Called) : Prop :=
  ∀ before call after, calls = before ++ call :: after → one call → ∀ later ∈ after, ¬ other later

/-- The discipline of a protocol's callbacks. -/
structure Disciplined (transport : Transport) : Prop where
  madeFirst : ∀ first rest, transport.calls = first :: rest → IsMade first
  madeOnce : NeverAfter IsMade IsMade transport.calls
  made : transport.created = true → transport.calls ≠ []
  lostOnce : NeverAfter IsLost IsLost transport.calls
  eofOnce : NeverAfter IsEof IsEof transport.calls
  silent : NeverAfter IsLost IsData transport.calls
  delivered : received transport.calls <+: transport.fed
  whole : ∀ before eof after, transport.calls = before ++ eof :: after → IsEof eof →
    received before = eof.fed

inductive Phase where
  | fresh | receiving | finished | lost
  deriving DecidableEq

/-- The calls of each phase. -/
inductive Orderly : List Called → Phase → Prop where
  | fresh : Orderly [] .fresh
  | made (fed : Bytes) : Orderly [⟨.connectionMade, fed⟩] .receiving
  | data {calls : List Called} (ordered : Orderly calls .receiving) (data fed : Bytes) :
      Orderly (calls ++ [⟨.dataReceived data, fed⟩]) .receiving
  | eof {calls : List Called} (ordered : Orderly calls .receiving) :
      Orderly (calls ++ [⟨.eofReceived, received calls⟩]) .finished
  | lost {calls : List Called} {phase : Phase} (ordered : Orderly calls phase)
      (before : phase = .receiving ∨ phase = .finished) (failed : Bool) (fed : Bytes) :
      Orderly (calls ++ [⟨.connectionLost failed, fed⟩]) .lost

section Lists
variable {calls : List Called} {phase : Phase} {one other : Called → Prop} {last : Called}

theorem split_snoc {before after : List Called} {call : Called}
    (split : calls ++ [last] = before ++ call :: after) :
    (after = [] ∧ call = last ∧ before = calls) ∨
      ∃ earlier, after = earlier ++ [last] ∧ calls = before ++ call :: earlier := by
  rcases List.eq_nil_or_concat after with rfl | ⟨earlier, final, rfl⟩
  · obtain ⟨same, ended⟩ := List.append_inj' split rfl
    exact .inl ⟨rfl, (List.cons.inj ended).1.symm, same.symm⟩
  · have regrouped : calls ++ [last] = (before ++ call :: earlier) ++ [final] := by
      rw [split]
      simp
    obtain ⟨same, ended⟩ := List.append_inj' regrouped rfl
    obtain rfl := (List.cons.inj ended).1
    exact .inr ⟨earlier, by simp, same⟩

/-- A last call of neither kind changes nothing. -/
theorem neverAfter_snoc (kept : NeverAfter one other calls)
    (fresh : other last → ∀ call ∈ calls, ¬ one call) : NeverAfter one other (calls ++ [last]) := by
  intro before call after split is later member
  rcases split_snoc split with ⟨rfl, -, -⟩ | ⟨earlier, rfl, same⟩
  · cases member
  rcases List.mem_append.mp member with within | ended
  · exact kept before call earlier same is later within
  · obtain rfl := List.mem_singleton.mp ended
    intro others
    apply fresh others call _ is
    rw [same]
    simp

theorem neverAfter_single : NeverAfter one other [last] := by
  intro before call after split is later member
  rcases split_snoc (show [] ++ [_] = _ from split) with ⟨rfl, -, -⟩ | ⟨earlier, -, impossible⟩
  · cases member
  · cases before <;> cases impossible

/-- Before an end nothing has ended. -/
theorem Orderly.quiet (ordered : Orderly calls phase) :
    (phase ≠ .lost → ∀ call ∈ calls, ¬ IsLost call) ∧
      (phase = .receiving → ∀ call ∈ calls, ¬ IsEof call) := by
  induction ordered with
  | fresh => simp
  | made fed => simp [IsLost, IsEof]
  | data ordered data fed ih =>
      constructor
      · intro _ call member
        rcases List.mem_append.mp member with within | ended
        · exact ih.1 (by simp) call within
        · simp [List.mem_singleton.mp ended, IsLost]
      · intro _ call member
        rcases List.mem_append.mp member with within | ended
        · exact ih.2 rfl call within
        · simp [List.mem_singleton.mp ended, IsEof]
  | eof ordered ih =>
      refine ⟨fun _ call member => ?_, by simp⟩
      rcases List.mem_append.mp member with within | ended
      · exact ih.1 (by simp) call within
      · simp [List.mem_singleton.mp ended, IsLost]
  | lost => simp

theorem Orderly.begun (ordered : Orderly calls phase) :
    (phase ≠ .fresh → calls ≠ []) ∧ ∀ first rest, calls = first :: rest → IsMade first := by
  induction ordered with
  | fresh => simp
  | made fed => simp [IsMade]
  | data ordered data fed ih | eof ordered ih =>
      refine ⟨by simp, fun first rest same => ?_⟩
      obtain ⟨head, tail, split⟩ := List.exists_cons_of_ne_nil (ih.1 (by simp))
      rw [split] at same
      cases same
      exact ih.2 _ _ split
  | lost ordered before failed fed ih =>
      refine ⟨by simp, fun first rest same => ?_⟩
      obtain ⟨head, tail, split⟩ := List.exists_cons_of_ne_nil
        (ih.1 (by rcases before with rfl | rfl <;> simp))
      rw [split] at same
      cases same
      exact ih.2 _ _ split

theorem Orderly.fresh_nil (ordered : Orderly calls phase) (fresh : phase = .fresh) : calls = [] := by
  cases ordered with
  | fresh => rfl
  | _ => cases fresh

theorem Orderly.madeOnce (ordered : Orderly calls phase) : NeverAfter IsMade IsMade calls := by
  induction ordered with
  | fresh => intro before call after split; simp at split
  | made fed => exact neverAfter_single
  | data ordered data fed ih | eof ordered ih | lost ordered before failed fed ih =>
      exact neverAfter_snoc ih (by simp [IsMade])

theorem Orderly.lostOnce (ordered : Orderly calls phase) : NeverAfter IsLost IsLost calls := by
  induction ordered with
  | fresh => intro before call after split; simp at split
  | made fed => exact neverAfter_single
  | data ordered data fed ih | eof ordered ih => exact neverAfter_snoc ih (by simp [IsLost])
  | lost ordered before failed fed ih =>
      apply neverAfter_snoc ih
      exact fun _ => ordered.quiet.1 (by rcases before with rfl | rfl <;> simp)

theorem Orderly.eofOnce (ordered : Orderly calls phase) : NeverAfter IsEof IsEof calls := by
  induction ordered with
  | fresh => intro before call after split; simp at split
  | made fed => exact neverAfter_single
  | data ordered data fed ih | lost ordered before failed fed ih =>
      exact neverAfter_snoc ih (by simp [IsEof])
  | eof ordered ih => exact neverAfter_snoc ih fun _ => ordered.quiet.2 rfl

theorem Orderly.silent (ordered : Orderly calls phase) : NeverAfter IsLost IsData calls := by
  induction ordered with
  | fresh => intro before call after split; simp at split
  | made fed => exact neverAfter_single
  | data ordered data fed ih => exact neverAfter_snoc ih fun _ => ordered.quiet.1 (by simp)
  | eof ordered ih | lost ordered before failed fed ih => exact neverAfter_snoc ih (by simp [IsData])

/-- An end of file comes with all that was fed. -/
theorem Orderly.whole (ordered : Orderly calls phase) : ∀ before eof after,
    calls = before ++ eof :: after → IsEof eof → received before = eof.fed := by
  induction ordered with
  | fresh => simp
  | made fed =>
      intro before eof after split is
      rcases split_snoc (show [] ++ [_] = _ from split) with ⟨-, rfl, -⟩ | ⟨earlier, -, impossible⟩
      · cases is
      · cases before <;> cases impossible
  | data ordered data fed ih | lost ordered phase failed fed ih =>
      intro before eof after split is
      rcases split_snoc split with ⟨-, rfl, -⟩ | ⟨earlier, -, same⟩
      · cases is
      · exact ih before eof earlier same is
  | eof ordered ih =>
      intro before eof after split is
      rcases split_snoc split with ⟨-, rfl, rfl⟩ | ⟨earlier, -, same⟩
      · rfl
      · exact ih before eof earlier same is
end Lists

/-! What a reaction can do to its transport. -/
/-- Nothing that the protocol is told about has changed. -/
structure Untouched (before after : Transport) : Prop where
  created : after.created = before.created
  closing : after.closing = before.closing
  buffer : after.stream.buffer = before.stream.buffer
  readTask : after.readTask = before.readTask
  readCancelled : after.readCancelled = before.readCancelled
  fed : after.fed = before.fed
  calls : after.calls = before.calls

/-- The transport was closed, which the protocol was told. -/
structure ClosedBy (before after : Transport) : Prop where
  begun : before.closing = false
  created : after.created = before.created
  closing : after.closing = true
  buffer : after.stream.buffer = before.stream.buffer
  readTask : after.readTask = before.readTask
  readCancelled : before.readTask ≠ .absent → after.readCancelled = true
  fed : after.fed = before.fed
  calls : after.calls = before.calls ++ [⟨.connectionLost false, before.fed⟩]

def Reacted (before after : Transport) : Prop := Untouched before after ∨ ClosedBy before after

section Reactions
variable {before middle after : Transport}

theorem Untouched.refl (transport : Transport) : Untouched transport transport :=
  ⟨rfl, rfl, rfl, rfl, rfl, rfl, rfl⟩

theorem Untouched.trans (one : Untouched before middle) (two : Untouched middle after) :
    Untouched before after :=
  ⟨two.created.trans one.created, two.closing.trans one.closing, two.buffer.trans one.buffer,
    two.readTask.trans one.readTask, two.readCancelled.trans one.readCancelled,
    two.fed.trans one.fed, two.calls.trans one.calls⟩

theorem ClosedBy.then (closed : ClosedBy before middle) (same : Untouched middle after) :
    ClosedBy before after where
  begun := closed.begun
  created := same.created.trans closed.created
  closing := same.closing.trans closed.closing
  buffer := same.buffer.trans closed.buffer
  readTask := same.readTask.trans closed.readTask
  readCancelled there := same.readCancelled.trans (closed.readCancelled there)
  fed := same.fed.trans closed.fed
  calls := same.calls.trans closed.calls

/-- Once a transport is closing no reaction changes it. -/
theorem Reacted.closing (reacted : Reacted before after) (closing : before.closing = true) :
    Untouched before after := by
  rcases reacted with same | closed
  · exact same
  · rw [closed.begun] at closing
    cases closing

theorem untouched_write (data : Bytes) (transport : Transport) :
    Untouched transport (transport.write data) := by
  unfold Transport.write
  split
  · exact .refl transport
  dsimp only
  split <;> exact ⟨rfl, rfl, rfl, rfl, rfl, rfl, rfl⟩

theorem closedBy_beginClose {transport : Transport} (closing : transport.closing = false) :
    ClosedBy transport transport.beginClose where
  begun := closing
  created := rfl
  closing := rfl
  buffer := rfl
  readTask := rfl
  readCancelled there := decide_eq_true there
  fed := rfl
  calls := rfl

theorem Reacted.of_untouched (same : Untouched before middle) (reacted : Reacted middle after) :
    Reacted before after := by
  rcases reacted with later | closed
  · exact .inl (same.trans later)
  · refine .inr ⟨same.closing ▸ closed.begun, closed.created.trans same.created, closed.closing,
      closed.buffer.trans same.buffer, closed.readTask.trans same.readTask, ?_,
      closed.fed.trans same.fed, ?_⟩
    · intro there
      exact closed.readCancelled (same.readTask ▸ there)
    · rw [closed.calls, same.calls, same.fed]

theorem reacted_perform (reaction : Reaction) (transport : Transport) :
    Reacted transport (transport.perform reaction).1 := by
  induction reaction generalizing transport with
  | returned | raised | cancelled => exact .inl (.refl transport)
  | write data rest ih => exact (ih _).of_untouched (untouched_write data transport)
  | close onLost rest lost ih | abort onLost rest lost ih =>
      rw [Transport.perform]
      cases closing : transport.closing with
      | true => exact ih transport
      | false =>
          -- the nested callback finds the transport closing, and so does the rest
          have nested := (lost transport.beginClose).closing rfl
          have closed := (closedBy_beginClose closing).then nested
          exact .inr (closed.then ((ih _).closing closed.closing))

theorem reacted_close (onLost : Reaction) (transport : Transport) :
    Reacted transport (transport.close onLost) := by
  unfold Transport.close
  cases closing : transport.closing with
  | true => exact .inl (.refl transport)
  | false =>
      exact .inr ((closedBy_beginClose closing).then ((reacted_perform onLost _).closing rfl))
end Reactions

/-! The invariant. `missing` is what has been read and not been delivered yet. -/
structure Inv (missing : Bytes) (transport : Transport) (phase : Phase) : Prop where
  ordered : Orderly transport.calls phase
  created : transport.created = true ↔ phase ≠ .fresh
  going : transport.closing = false → phase = .fresh ∨ phase = .receiving
  kept : received transport.calls ++ missing ++ transport.stream.buffer = transport.fed
  waiting : transport.closing = true → transport.readTask = .waiting → transport.readCancelled = true
  idle : phase = .fresh → transport.readTask = .absent ∧ transport.closing = false ∧
    transport.ready = [] ∧ transport.draining = 0

section Invariant
variable {missing : Bytes} {before after : Transport} {phase : Phase}

theorem received_snoc (calls : List Called) (data fed : Bytes) :
    received (calls ++ [⟨.dataReceived data, fed⟩]) = received calls ++ data := by
  simp [received]

theorem received_other (calls : List Called) (called : Called) (other : ¬ IsData called) :
    received (calls ++ [called]) = received calls := by
  obtain ⟨callback, fed⟩ := called
  cases callback with
  | dataReceived data => exact absurd ⟨data, rfl⟩ other
  | _ => simp [received]

theorem Inv.receiving (inv : Inv missing before phase) (created : before.created = true)
    (closing : before.closing = false) : phase = .receiving :=
  (inv.going closing).resolve_left (inv.created.mp created)

theorem Inv.untouched (inv : Inv missing before phase) (created : before.created = true)
    (same : Untouched before after) : Inv missing after phase where
  ordered := same.calls ▸ inv.ordered
  created := same.created ▸ inv.created
  going := same.closing ▸ inv.going
  kept := by rw [same.calls, same.buffer, same.fed]; exact inv.kept
  waiting := by rw [same.closing, same.readTask, same.readCancelled]; exact inv.waiting
  idle fresh := absurd fresh (inv.created.mp created)

theorem Inv.closed (inv : Inv missing before phase) (created : before.created = true)
    (closed : ClosedBy before after) : Inv missing after .lost where
  ordered := by
    rw [closed.calls]
    exact inv.ordered.lost (.inl (inv.receiving created closed.begun)) false before.fed
  created := by simp [closed.created, created]
  going closing := by rw [closed.closing] at closing; cases closing
  kept := by
    rw [closed.calls, closed.buffer, closed.fed, received_other _ _ (by simp [IsData])]
    exact inv.kept
  waiting _ waits := closed.readCancelled (by rw [← closed.readTask, waits]; simp)
  idle impossible := by cases impossible

/-- What a reaction leaves: the same phase, or the end. -/
theorem Inv.reacted (inv : Inv missing before phase) (created : before.created = true)
    (reacted : Reacted before after) : ∃ phase, Inv missing after phase := by
  rcases reacted with same | closed
  · exact ⟨phase, inv.untouched created same⟩
  · exact ⟨.lost, inv.closed created closed⟩

theorem Inv.readEnded (inv : Inv missing before phase) (created : before.created = true) :
    Inv missing before.readEnded phase where
  ordered := inv.ordered
  created := inv.created
  going := inv.going
  kept := inv.kept
  waiting _ waits := by cases waits
  idle fresh := absurd fresh (inv.created.mp created)

theorem Reacted.created (reacted : Reacted before after) : after.created = before.created :=
  reacted.elim Untouched.created ClosedBy.created

/-- The loss of the connection is told by the read task as it ends. -/
theorem Inv.lost (inv : Inv missing before phase) (created : before.created = true)
    (running : before.readTask = .running) (begun : phase = .receiving ∨ phase = .finished)
    (failed : Bool) :
    Inv missing (Transport.calling (.connectionLost failed) { before with closing := true }) .lost where
  ordered := inv.ordered.lost begun failed before.fed
  created := by simp [Transport.calling, created]
  going impossible := by cases impossible
  kept := by
    change received (before.calls ++ [_]) ++ missing ++ before.stream.buffer = before.fed
    rw [received_other _ _ (by simp [IsData])]
    exact inv.kept
  waiting _ waits := by
    rw [show before.readTask = .waiting from waits] at running
    cases running
  idle impossible := by cases impossible

/-- An end of file is told once everything has been delivered. -/
theorem Inv.eof (inv : Inv [] before .receiving) (created : before.created = true)
    (running : before.readTask = .running) (empty : before.stream.buffer = []) :
    Inv [] (Transport.calling .eofReceived { before with closing := true }) .finished where
  ordered := by
    have fed : received before.calls = before.fed := by simpa [empty] using inv.kept
    change Orderly (before.calls ++ [⟨.eofReceived, before.fed⟩]) .finished
    rw [← fed]
    exact inv.ordered.eof
  created := by simp [Transport.calling, created]
  going impossible := by cases impossible
  kept := by
    change received (before.calls ++ [_]) ++ [] ++ before.stream.buffer = before.fed
    rw [received_other _ _ (by simp [IsData])]
    exact inv.kept
  waiting _ waits := by
    rw [show before.readTask = .waiting from waits] at running
    cases running
  idle impossible := by cases impossible

theorem inv_finishRead (inv : Inv [] before phase) (created : before.created = true)
    (running : before.readTask = .running) (empty : before.stream.buffer = [])
    (onEof onLost : Reaction) : ∃ phase, Inv [] (before.finishRead onEof onLost) phase := by
  unfold Transport.finishRead
  cases closing : before.closing with
  | true => exact ⟨phase, inv.readEnded created⟩
  | false =>
      obtain rfl := inv.receiving created closing
      have told := inv.eof created running empty
      have same := (reacted_perform onEof
        (Transport.calling .eofReceived { before with closing := true })).closing rfl
      simp only [Bool.false_eq_true, if_false]
      rcases reacted : Transport.perform onEof
        (Transport.calling .eofReceived { before with closing := true }) with ⟨after, outcome⟩
      rw [reacted] at same
      have inv := told.untouched created same
      have made : after.created = true := same.created.trans created
      cases outcome with
      | returned handled =>
          cases handled with
          | true => exact ⟨.finished, inv.readEnded made⟩
          | false =>
              have closing : after.closing = true := same.closing
              have lost := inv.lost made (same.readTask.trans running) (.inr rfl) false
              have eta : ({ after with closing := true } : Transport) = after := by
                rw [← closing]
              rw [eta] at lost
              have last := (reacted_perform onLost
                (after.calling (.connectionLost false))).closing closing
              exact ⟨.lost, (lost.untouched made last).readEnded (last.created.trans made)⟩
      | raised | cancelled => exact ⟨.finished, inv.readEnded made⟩

theorem inv_deliver {data : Bytes} (inv : Inv data before .receiving)
    (created : before.created = true) (running : before.readTask = .running)
    (closing : before.closing = false) (onData onLost : Reaction) :
    ∃ phase, Inv [] (before.deliver data onData onLost) phase := by
  have told : Inv [] (before.calling (.dataReceived data)) .receiving := by
    constructor
    · exact inv.ordered.data data before.fed
    · simp [Transport.calling, created]
    · exact fun _ => .inr rfl
    · change received (before.calls ++ [_]) ++ [] ++ before.stream.buffer = before.fed
      rw [received_snoc, List.append_nil]
      exact inv.kept
    · intro impossible
      rw [show before.closing = true from impossible] at closing
      cases closing
    · intro impossible
      cases impossible
  have reacts := reacted_perform onData (before.calling (.dataReceived data))
  unfold Transport.deliver
  rcases reacted : Transport.perform onData (before.calling (.dataReceived data)) with ⟨after, outcome⟩
  rw [reacted] at reacts
  have made : after.created = true := reacts.created.trans created
  obtain ⟨phase, inv⟩ := told.reacted created reacts
  cases outcome with
  | returned value =>
      refine ⟨phase, inv.ordered, inv.created, inv.going, inv.kept, ?_, ?_⟩
      · intro _ waits
        cases waits
      · exact fun fresh => absurd fresh (inv.created.mp made)
  | raised =>
      dsimp only
      cases still : after.closing with
      | true => exact ⟨phase, inv.readEnded made⟩
      | false =>
          have same : after.readTask = .running := by
            rcases reacts with same | closed
            · exact same.readTask.trans running
            · exact closed.readTask.trans running
          have lost := inv.lost made same (.inl (inv.receiving made still)) true
          have last := (reacted_perform onLost (Transport.calling (.connectionLost true)
            { after with closing := true })).closing rfl
          exact ⟨.lost, (lost.untouched made last).readEnded (last.created.trans made)⟩
  | cancelled => exact ⟨phase, inv.readEnded made⟩

/-- One read of the loop, and what it leads to. -/
theorem inv_readOnce (inv : Inv [] before phase) (created : before.created = true)
    (closing : before.closing = false) (onData onLost : Reaction) :
    ∃ phase, Inv [] (before.readOnce onData onLost) phase := by
  obtain rfl := inv.receiving created closing
  unfold Transport.readOnce
  dsimp only
  split
  · refine ⟨.receiving, inv.ordered, inv.created, inv.going, inv.kept, ?_, ?_⟩
    · intro impossible
      rw [show before.closing = true from impossible] at closing
      cases closing
    · intro impossible
      cases impossible
  have taken : Inv (before.stream.buffer.take 32768) { before with
      readTask := .running
      stream := { before.stream with buffer := before.stream.buffer.drop 32768 } } .receiving := by
    refine ⟨inv.ordered, inv.created, inv.going, ?_, ?_, ?_⟩
    · change received before.calls ++ before.stream.buffer.take 32768 ++
        before.stream.buffer.drop 32768 = before.fed
      rw [List.append_assoc, List.take_append_drop]
      simpa using inv.kept
    · intro _ waits
      cases waits
    · intro impossible
      cases impossible
  split
  · rename_i nothing
    rw [nothing] at taken
    have empty : before.stream.buffer.drop 32768 = [] := by
      rcases List.take_eq_nil_iff.mp nothing with impossible | empty
      · cases impossible
      · rw [empty]
        rfl
    exact inv_finishRead taken created rfl empty onData onLost
  · exact inv_deliver taken created rfl closing onData onLost

theorem inv_readTurn (inv : Inv [] before phase) (created : before.created = true)
    (onData onLost : Reaction) : ∃ phase, Inv [] (before.readTurn onData onLost) phase := by
  unfold Transport.readTurn
  by_cases cancelled : before.readCancelled = true
  · rw [if_pos cancelled]
    exact ⟨phase, inv.readEnded created⟩
  rw [if_neg cancelled]
  split
  · exact ⟨phase, inv⟩
  · exact ⟨phase, inv⟩
  · by_cases closing : before.closing = true
    · rw [if_pos closing]
      exact ⟨phase, inv.readEnded created⟩
    · rw [if_neg closing]
      exact inv_readOnce inv created (by simpa using closing) onData onLost
  · rename_i waits
    -- a reader that still waits was not closed, or it would have been cancelled
    have closing : before.closing = false := by
      cases was : before.closing with
      | false => rfl
      | true => exact absurd (inv.waiting was waits) cancelled
    have cleared : Inv [] { before with stream := { before.stream with dataReady := false } } phase :=
      ⟨inv.ordered, inv.created, inv.going, inv.kept, inv.waiting, inv.idle⟩
    exact inv_readOnce cleared created closing onData onLost

theorem inv_connect (inv : Inv [] before .fresh) (onMade : Reaction) :
    ∃ phase, Inv [] (before.connect onMade) phase := by
  obtain ⟨absent, closing, -, -⟩ := inv.idle rfl
  have none := inv.ordered.fresh_nil rfl
  have told : Inv [] (Transport.calling .connectionMade { before with created := true })
      .receiving := by
    constructor
    · change Orderly (before.calls ++ [_]) .receiving
      rw [none]
      exact .made before.fed
    · simp [Transport.calling]
    · exact fun _ => .inr rfl
    · change received (before.calls ++ [_]) ++ [] ++ before.stream.buffer = before.fed
      rw [received_other _ _ (by simp [IsData])]
      exact inv.kept
    · intro impossible
      rw [show before.closing = true from impossible] at closing
      cases closing
    · intro impossible
      cases impossible
  have reacts := reacted_perform onMade
    (Transport.calling .connectionMade { before with created := true })
  unfold Transport.connect
  rcases reacted : Transport.perform onMade
    (Transport.calling .connectionMade { before with created := true }) with ⟨after, outcome⟩
  rw [reacted] at reacts
  have made : after.created = true := reacts.created
  obtain ⟨phase, inv⟩ := told.reacted rfl reacts
  cases outcome with
  | returned value =>
      refine ⟨phase, inv.ordered, inv.created, inv.going, inv.kept, ?_, ?_⟩
      · intro _ waits
        cases waits
      · exact fun fresh => absurd fresh (inv.created.mp made)
  | raised | cancelled => exact ⟨phase, inv⟩

theorem untouched_wakeReader : Untouched before before.wakeReader := by
  unfold Transport.wakeReader
  split
  · exact ⟨rfl, rfl, rfl, rfl, rfl, rfl, rfl⟩
  · exact .refl before

/-- A handle of the queue runs. -/
theorem inv_run (inv : Inv [] before phase) (created : before.created = true) (handle : Handle)
    (sending : Transport.Sending) (onData onLost : Reaction) :
    ∃ phase, Inv [] (Transport.run handle sending onData onLost before) phase := by
  cases handle with
  | readTurn => exact inv_readTurn inv created onData onLost
  | writeStart payload cancelled =>
      refine ⟨phase, inv.untouched created ?_⟩
      change Untouched before (before.writeStart payload cancelled sending)
      unfold Transport.writeStart
      split
      · exact ⟨rfl, rfl, rfl, rfl, rfl, rfl, rfl⟩
      · split <;> exact ⟨rfl, rfl, rfl, rfl, rfl, rfl, rfl⟩
  | writeWake how => exact ⟨phase, inv.untouched created ⟨rfl, rfl, rfl, rfl, rfl, rfl, rfl⟩⟩
  | writeDone how =>
      cases how with
      | raised => exact inv.reacted created (reacted_close onLost before)
      | returned | cancelled => exact ⟨phase, inv⟩
  | closeTurn =>
      refine ⟨phase, inv.untouched created ?_⟩
      change Untouched before (before.closeTurn sending)
      unfold Transport.closeTurn
      split
      · exact .refl before
      · dsimp only
        split <;> exact ⟨rfl, rfl, rfl, rfl, rfl, rfl, rfl⟩

/-- A stream may be fed before there is a transport. -/
theorem inv_feed (inv : Inv [] before phase) (payload : Bytes) (closed ready : Bool) :
    Inv [] { before with
      stream := { before.stream with
        buffer := before.stream.buffer ++ payload, closed := closed, dataReady := ready }
      fed := before.fed ++ payload } phase where
  ordered := inv.ordered
  created := inv.created
  going := inv.going
  kept := by
    change received before.calls ++ [] ++ (before.stream.buffer ++ payload) = before.fed ++ payload
    rw [← List.append_assoc, inv.kept]
  waiting := inv.waiting
  idle := inv.idle

theorem inv_wakeReader (inv : Inv [] before phase) : Inv [] before.wakeReader phase := by
  by_cases created : before.created = true
  · exact inv.untouched created untouched_wakeReader
  · have fresh : phase = .fresh := by
      by_contra begun
      exact created (inv.created.mpr begun)
    unfold Transport.wakeReader
    rw [if_neg (by simp [(inv.idle fresh).1])]
    exact inv

theorem inv_step (inv : Inv [] before phase) (event : Event) :
    ∃ phase, Inv [] (step before event) phase := by
  cases event with
  | feedData payload => exact ⟨phase, inv_wakeReader (inv_feed inv payload before.stream.closed true)⟩
  | feedEof =>
      have fed := inv_feed inv [] true true
      simp only [List.append_nil] at fed
      exact ⟨phase, inv_wakeReader fed⟩
  | connect onMade =>
      by_cases created : before.created = true
      · exact ⟨phase, by simpa only [step, created, if_true] using inv⟩
      · have fresh : phase = .fresh := by
          by_contra begun
          exact created (inv.created.mpr begun)
        subst fresh
        simp only [step, created, Bool.false_eq_true, if_false]
        exact inv_connect inv onMade
  | write data =>
      by_cases created : before.created = true
      · simp only [step, created, if_true]
        exact ⟨phase, inv.untouched created (untouched_write data before)⟩
      · exact ⟨phase, by simpa only [step, created, Bool.false_eq_true, if_false] using inv⟩
  | close onLost | abort onLost =>
      by_cases created : before.created = true
      · simp only [step, created, if_true]
        exact inv.reacted created (reacted_close onLost before)
      · exact ⟨phase, by simpa only [step, created, Bool.false_eq_true, if_false] using inv⟩
  | drained how =>
      by_cases none : before.draining = 0
      · exact ⟨phase, by simpa only [step, none, if_true] using inv⟩
      · have created : before.created = true :=
          inv.created.mpr fun fresh => none (inv.idle fresh).2.2.2
        simp only [step, none, if_false]
        exact ⟨phase, inv.untouched created ⟨rfl, rfl, rfl, rfl, rfl, rfl, rfl⟩⟩
  | turn index sending onData onLost =>
      simp only [step]
      cases found : before.ready[index]? with
      | none => exact ⟨phase, inv⟩
      | some handle =>
          have created : before.created = true := by
            apply inv.created.mpr
            intro fresh
            rw [(inv.idle fresh).2.2.1] at found
            cases found
          have erased : Inv [] { before with ready := before.ready.eraseIdx index } phase :=
            inv.untouched created ⟨rfl, rfl, rfl, rfl, rfl, rfl, rfl⟩
          exact inv_run erased created handle sending onData onLost

theorem inv_runs (events : List Event) {transport : Transport} (inv : Inv [] transport phase) :
    ∃ phase, Inv [] (runs transport events) phase := by
  induction events generalizing transport phase with
  | nil => exact ⟨phase, inv⟩
  | cons event rest ih =>
      obtain ⟨next, stepped⟩ := inv_step inv event
      exact ih stepped

theorem inv_fresh (agentId : Uuid) : Inv [] (.fresh agentId) .fresh where
  ordered := .fresh
  created := by simp [Transport.fresh]
  going _ := .inl rfl
  kept := rfl
  waiting impossible := by cases impossible
  idle _ := ⟨rfl, rfl, rfl, rfl⟩

theorem Inv.disciplined (inv : Inv [] before phase) : Disciplined before where
  madeFirst := inv.ordered.begun.2
  madeOnce := inv.ordered.madeOnce
  made created := inv.ordered.begun.1 (inv.created.mp created)
  lostOnce := inv.ordered.lostOnce
  eofOnce := inv.ordered.eofOnce
  silent := inv.ordered.silent
  delivered := ⟨before.stream.buffer, by simpa using inv.kept⟩
  whole := inv.ordered.whole
end Invariant

/-- Whatever happens in whatever order, the protocol is told of its connection first and once, of
its loss and of an end of file at most once, gets no data after the loss, and what it gets is what
was fed, all of it by the end of file. -/
theorem callbacks_disciplined (agentId : Uuid) (events : List Event) :
    Disciplined (runs (.fresh agentId) events) := by
  obtain ⟨phase, inv⟩ := inv_runs events (inv_fresh agentId)
  exact inv.disciplined

end VibeConnect.TransportCallbacks
