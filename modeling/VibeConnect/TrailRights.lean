import VibeConnect.Python.OwnCalls
import VibeConnect.SessionTrail

/-! Who may write the trail of a session, its row and its recorder: the task that
starts the jump, then the one that decides what comes of it, then the first call
that asks the bridge to close. The others leave it all as it is. -/
namespace VibeConnect.SessionTrail
open Python.Text Python.JsonCodec Python.Values Python.Coroutine Python.Tasks Models JumpCoordinator
open Replay ReplayFile JumpBridge JumpRuns
variable {Rest : Type} {integrity : Integrity} {setup : SessionSetup Rest}

/-! Who may write. -/
def Holds : SessionKey → TrailWorld Rest → Prop
  | .start, world => world.rest.started = none
  | .outcome, world => world.rest.started ≠ none ∧ world.rest.bridged = false
  | .call serial, world => world.rest.closers.head? = some serial
  | .around _, _ => False

/-- Nothing of what only one task may write has changed. -/
structure Same (before after : TrailWorld Rest) : Prop where
  trail : after.rest.trail = before.rest.trail
  started : after.rest.started = before.rest.started
  bridged : after.rest.bridged = before.rest.bridged
  recorder : after.recorder = before.recorder
  row : after.row = before.row
  columns : after.columns = before.columns
  asked : after.channelAsked = before.channelAsked

theorem Same.refl (world : TrailWorld Rest) : Same world world := ⟨rfl, rfl, rfl, rfl, rfl, rfl, rfl⟩

theorem Same.trans {one two three : TrailWorld Rest} (first : Same one two) (second : Same two three) :
    Same one three where
  trail := second.trail.trans first.trail
  started := second.started.trans first.started
  bridged := second.bridged.trans first.bridged
  recorder := second.recorder.trans first.recorder
  row := second.row.trans first.row
  columns := second.columns.trans first.columns
  asked := second.asked.trans first.asked

/-- The session before its jump. -/
structure Fresh (world : TrailWorld Rest) : Prop where
  started : world.rest.started = none
  trail : world.rest.trail = []
  row : world.row = .OPEN

/-- A jump of which nothing has come yet. -/
structure Ready (setup : SessionSetup Rest) (jump : StartedJump) (world : TrailWorld Rest) : Prop where
  bridged : world.rest.bridged = false
  begins : Begins setup jump world.rest.trail
  row : world.row = .OPEN

/-- What a task that has not begun finds. -/
def Quiet (setup : SessionSetup Rest) : SessionKey → TrailWorld Rest → Prop
  | .start, world => Fresh world
  | .outcome, world => ∀ jump, world.rest.started = some jump → Ready setup jump world
  | .call serial, world => world.rest.closers.head? ≠ some serial
  | .around _, _ => True

/-- What the others leave to a task. -/
structure Spares (setup : SessionSetup Rest) (key : SessionKey) (before after : TrailWorld Rest) :
    Prop where
  started : ∀ jump, before.rest.started = some jump → after.rest.started = some jump
  bridged : before.rest.bridged = true → after.rest.bridged = true
  first : ∀ serial, before.rest.closers.head? = some serial → after.rest.closers.head? = some serial
  held : Holds key before → Same before after
  quiet : Quiet setup key before → Quiet setup key after

/-- What a task leaves to the others. -/
def Owes (setup : SessionSetup Rest) (key : SessionKey) (before after : TrailWorld Rest) : Prop :=
  ∀ other, other ≠ key → Spares setup other before after

section Relations
variable {key : SessionKey} {before after : TrailWorld Rest}

theorem Spares.refl (setup : SessionSetup Rest) (key : SessionKey) (world : TrailWorld Rest) :
    Spares setup key world world :=
  ⟨fun _ => id, id, fun _ => id, fun _ => .refl world, id⟩

/-- The right to write stays with a task until it uses it. -/
theorem Spares.holds (spares : Spares setup key before after) (holds : Holds key before) :
    Holds key after := by
  have same := spares.held holds
  cases key with
  | start => exact same.started.trans holds
  | outcome => exact ⟨by rw [same.started]; exact holds.1, same.bridged.trans holds.2⟩
  | call serial => exact spares.first serial holds
  | around _ => exact holds

theorem Spares.trans {one two three : TrailWorld Rest} (first : Spares setup key one two)
    (second : Spares setup key two three) : Spares setup key one three where
  started jump := second.started jump ∘ first.started jump
  bridged := second.bridged ∘ first.bridged
  first serial := second.first serial ∘ first.first serial
  held holds := (first.held holds).trans (second.held (first.holds holds))
  quiet := second.quiet ∘ first.quiet

theorem Owes.refl (setup : SessionSetup Rest) (key : SessionKey) (world : TrailWorld Rest) :
    Owes setup key world world := fun other _ => .refl setup other world

theorem Owes.trans {one two three : TrailWorld Rest} (first : Owes setup key one two)
    (second : Owes setup key two three) : Owes setup key one three :=
  fun other apart => (first other apart).trans (second other apart)

/-- A change of what is around touches nobody. -/
theorem Same.owes (same : Same before after) (closers : after.rest.closers = before.rest.closers) :
    Owes setup key before after := by
  intro other _
  refine ⟨fun jump => same.started.trans, same.bridged.trans, fun _ => ?_, fun _ => same, ?_⟩
  · rw [closers]
    exact id
  · cases other with
    | start =>
        intro fresh
        exact ⟨same.started.trans fresh.started, same.trail.trans fresh.trail, same.row.trans fresh.row⟩
    | outcome =>
        intro waits jump begun
        obtain ⟨bridged, begins, row⟩ := waits jump (same.started.symm.trans begun)
        exact ⟨same.bridged.trans bridged, by rw [same.trail]; exact begins, same.row.trans row⟩
    | call serial =>
        show before.rest.closers.head? ≠ _ → after.rest.closers.head? ≠ _
        rw [closers]
        exact id
    | around _ => exact id

/-- Where a bridge is asked to close there is a bridge. -/
structure Ordered (world : TrailWorld Rest) : Prop where
  unbridged : world.rest.started = none → world.rest.bridged = false
  closing : world.rest.closers ≠ [] → world.rest.bridged = true

theorem Ordered.bridged (ordered : Ordered before) {serial : Nat}
    (first : before.rest.closers.head? = some serial) :
    before.rest.bridged = true ∧ before.rest.started ≠ none := by
  have bridged := ordered.closing fun empty => by simp [empty] at first
  refine ⟨bridged, fun waiting => ?_⟩
  rw [ordered.unbridged waiting] at bridged
  cases bridged

/-- Only one task may write at a time. -/
theorem Ordered.sole (ordered : Ordered before) {other : SessionKey} (holds : Holds key before)
    (also : Holds other before) : other = key := by
  have bridged : ∀ serial, Holds (.call serial) before →
      before.rest.bridged = true ∧ before.rest.started ≠ none := fun _ => ordered.bridged
  cases key with
  | start =>
      cases other with
      | start => rfl
      | outcome => exact absurd holds also.1
      | call serial => exact absurd holds (bridged serial also).2
      | around _ => exact also.elim
  | outcome =>
      cases other with
      | start => exact absurd also holds.1
      | outcome => rfl
      | call serial => exact absurd (holds.2.symm.trans (bridged serial also).1) Bool.false_ne_true
      | around _ => exact also.elim
  | call serial =>
      cases other with
      | start => exact absurd also (bridged serial holds).2
      | outcome => exact absurd (also.2.symm.trans (bridged serial holds).1) Bool.false_ne_true
      | call another => rw [Option.some.inj (Eq.trans (Eq.symm also) holds)]
      | around _ => exact also.elim
  | around _ => exact holds.elim

/-- What the task does that may write. -/
theorem Ordered.owes (ordered : Ordered before) (holds : Holds key before)
    (started : after.rest.started = before.rest.started)
    (bridged : after.rest.bridged = before.rest.bridged)
    (closers : after.rest.closers = before.rest.closers) : Owes setup key before after := by
  intro other apart
  refine ⟨fun jump => started.trans, bridged.trans, fun _ => ?_,
    fun also => absurd (ordered.sole holds also) apart, ?_⟩
  · rw [closers]
    exact id
  cases other with
  | start =>
      intro fresh
      have also : Holds .start before := fresh.started
      exact absurd (ordered.sole holds also) apart
  | outcome =>
      intro waits jump begun
      rw [started] at begun
      have ready := waits jump begun
      have also : Holds .outcome before := ⟨by rw [begun]; exact Option.some_ne_none jump, ready.bridged⟩
      exact absurd (ordered.sole holds also) apart
  | call serial =>
      show before.rest.closers.head? ≠ _ → after.rest.closers.head? ≠ _
      rw [closers]
      exact id
  | around _ => exact id
end Relations

/-! What holds wherever a task waits or has ended. -/
structure Trailed (integrity : Integrity) (setup : SessionSetup Rest) (world : TrailWorld Rest) : Prop
    extends Ordered world where
  truthful : Truthful integrity setup world
  unclosed : world.rest.closers = [] → world.bridgeClosed = false ∧ world.recorder.published = none
  closed : world.rest.closers ≠ [] → world.bridgeClosed = true
  recording : world.recorder.closed = false → world.recorder.temp ≠ none
  digest : world.recorder.digest = integrity.digest
  bridge : ∀ jump, world.rest.started = some jump → world.rest.bridged = true →
    world.rest.closers = [] → Begins setup jump world.rest.trail ∧ world.row = .OPEN

section Invariant
variable {jump : StartedJump} {record : AuditRecord} {before after world : TrailWorld Rest}

theorem Same.tells (same : Same before after) (tells : Tells integrity setup jump record before) :
    Tells integrity setup jump record after where
  actor := tells.actor
  agent := tells.agent
  session := tells.session
  node := tells.node
  stopped := by rw [same.recorder]; exact tells.stopped
  asked := by rw [same.bridged, same.asked]; exact tells.asked
  told := by
    rcases tells.told with ⟨type, published⟩ | ⟨type, unpublished, ended⟩
    · refine .inl ⟨type, ?_⟩
      rw [same.recorder, same.row, same.columns]
      exact published
    · refine .inr ⟨type, ?_, ?_⟩
      · rw [same.recorder]
        exact unpublished
      · rw [same.row, same.columns, same.bridged]
        exact ended

theorem Same.truthful (same : Same before after) (truthful : Truthful integrity setup before) :
    Truthful integrity setup after := by
  cases truthful with
  | unstarted waiting records =>
      apply Truthful.unstarted (same.started.trans waiting)
      unfold Denies
      rw [same.trail, same.row]
      exact records
  | started jump opening ends begun trail begins tells count =>
      apply Truthful.started jump opening ends (same.started.trans begun) (same.trail.trans trail) begins
      · exact fun record member => same.tells (tells record member)
      · rw [same.bridged]
        exact count

theorem Same.trailed (same : Same before after) (closers : after.rest.closers = before.rest.closers)
    (closed : after.bridgeClosed = before.bridgeClosed) (trailed : Trailed integrity setup before) :
    Trailed integrity setup after where
  unbridged := by rw [same.started, same.bridged]; exact trailed.unbridged
  closing := by rw [closers, same.bridged]; exact trailed.closing
  truthful := same.truthful trailed.truthful
  unclosed := by rw [closers, closed, same.recorder]; exact trailed.unclosed
  closed := by rw [closers, closed]; exact trailed.closed
  recording := by rw [same.recorder]; exact trailed.recording
  digest := by rw [same.recorder]; exact trailed.digest
  bridge := by rw [same.started, same.bridged, closers, same.trail, same.row]; exact trailed.bridge

/-- A started jump whose end is not on the trail. -/
theorem truthful_begun (begun : world.rest.started = some jump)
    (begins : Begins setup jump world.rest.trail) : Truthful integrity setup world :=
  .started jump world.rest.trail [] begun (List.append_nil _).symm begins (by simp) (.inl (Nat.zero_le 1))
end Invariant

/-- The end of the session is on the trail. -/
def Ended (integrity : Integrity) (setup : SessionSetup Rest) (world : TrailWorld Rest) : Prop :=
  ∃ jump opening record, world.rest.started = some jump ∧ world.rest.trail = opening ++ [record] ∧
    Begins setup jump opening ∧ Tells integrity setup jump record world

/-- The call that closes the bridge has written the end when it returns. -/
def Post (integrity : Integrity) (setup : SessionSetup Rest) :
    SessionKey → Except Exc Unit → TrailWorld Rest → Prop
  | .call serial, outcome, world => outcome = .ok () → setup.audited = true →
      world.rest.closers.head? = some serial → Ended integrity setup world
  | _, _, _ => True

def contracts (integrity : Integrity) (setup : SessionSetup Rest) (key : SessionKey) :
    Contract (TrailWorld Rest) Exc Unit :=
  ⟨Spares setup key, Owes setup key, Post integrity setup key⟩

theorem contracts_lawful (key : SessionKey) : (contracts integrity setup key).Lawful where
  rely_refl := .refl setup key
  rely_trans _ _ _ := .trans
  guarantee_refl := .refl setup key
  guarantee_trans _ _ _ := .trans
  stable outcome before after post spares := by
    cases key with
    | call serial =>
        intro returned audited first
        by_cases was : before.rest.closers.head? = some serial
        · obtain ⟨jump, opening, record, begun, trail, begins, tells⟩ := post returned audited was
          have same := spares.held was
          exact ⟨jump, opening, record, same.started.trans begun, same.trail.trans trail, begins,
            same.tells tells⟩
        · exact absurd first (spares.quiet was)
    | _ => trivial

abbrev Runs {α : Type} (integrity : Integrity) (setup : SessionSetup Rest) (key : SessionKey)
    (program : TrailTask Rest α) (post : Except Exc α → TrailWorld Rest → Prop)
    (state : TrailWorld Rest) : Prop :=
  program.wp (answered trailWorld (Trailed integrity setup) (Spares setup key))
    (owing trailWorld (Trailed integrity setup) (Spares setup key) (Owes setup key)) post state

/-! The recorder. -/
theorem fail_published {faults : ReplayFaults} {recorder : ReplayRecorder} :
    (recorder.fail faults).2.published = recorder.published := by
  cases was : recorder.closed with
  | true => rw [ReplayRecorder.fail_closed was]
  | false => exact (ReplayRecorder.fail_open was).2.1

/-- The HMAC of a recording verifies what has the HMAC of its file. -/
theorem verify_digest (hexadecimal : integrity.Hexadecimal) (lines : List ReplayLine) :
    ∃ bytes, fileBytes integrity.secondsText lines = some bytes ∧
      ∀ content, verifyReplayHmac integrity (.ok content) (integrity.digest lines) = .ok true ↔
        integrity.hexdigest integrity.key content = integrity.hexdigest integrity.key bytes := by
  obtain ⟨bytes, -, file, -, -⟩ := fileBytes_split integrity.secondsText lines
  refine ⟨bytes, file, fun content => ?_⟩
  have ascii := hexadecimal integrity.key
  simp [verifyReplayHmac, Integrity.digest, file, TunnelAuthenticator.compareDigest, ascii, Bind.bind,
    Except.bind]

end VibeConnect.SessionTrail
