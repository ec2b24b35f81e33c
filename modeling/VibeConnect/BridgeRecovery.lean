import VibeConnect.JumpBridge

/-! Closing a bridge again after a close that raised. The recorder, the session
store, the channel and the audit sink may each raise in every call. A close that
raises before the channel was asked leaves the session open for good, because
the flag was set before. -/
namespace VibeConnect.BridgeRecovery
open Python.Text Python.Values Python.Coroutine Python.Tasks Models JumpCoordinator Replay JumpBridge
variable {Rest : Type}

/-- What each effect of a close raises. -/
structure CloseFaults where
  replay : ReplayFaults
  store : Option Exc
  tunnel : Option Exc
  audit : Option Exc

def CloseFaults.none : CloseFaults := ⟨.none, .none, .none, .none⟩

structure CloseCall where
  status : SessionStatus
  now : DateTime
  error : Option Str
  faults : CloseFaults

def raising {State : Type} (fault : Option Exc) (state after : State) : Except Exc Unit × State :=
  match fault with
  | some fault => (.error fault, state)
  | none => (.ok (), after)

/-- The dependencies of one close. It calls no others. -/
def dependencies (faults : CloseFaults) :
    (call : SessionCall) → JumpWorld Rest → Except Exc (SessionResult call) × JumpWorld Rest
  | .closeRow request, world => raising faults.store world (world.closeRow request)
  | .channelClosed _, world => raising faults.tunnel world world
  | .writeAudit _, world => raising faults.audit world world
  | _, world => (.error .otherException, world)

/-- One close against the dependencies it meets. -/
def closeOnce (bridge : JumpPtyBridge Rest) (world : JumpWorld Rest) (call : CloseCall) :
    JumpWorld Rest :=
  ((bridge.close call.status call.now call.error).run (serve (dependencies call.faults))
    { world with faults := call.faults.replay }).2

def closeAll (bridge : JumpPtyBridge Rest) (calls : List CloseCall) (world : JumpWorld Rest) :
    JumpWorld Rest := calls.foldl (closeOnce bridge) world

/-- The recorder's part of a close does not raise. -/
def EndsRecording (faults : ReplayFaults) (recorder : ReplayRecorder) : SessionStatus → Prop
  | .CLOSED => recorder.closed = false ∧ faults.flush = none ∧ recorder.Closable faults ∧
      faults.replace = none ∧ faults.read = none
  | .FAILED | .TERMINATED => recorder.closed = false → recorder.Closable faults ∧
      (recorder.audited = true → faults.audit = none) ∧ faults.unlink = none
  | .OPEN => False

/-- A close reaches the channel. -/
def ReachesChannel (recorder : ReplayRecorder) (call : CloseCall) : Prop :=
  EndsRecording call.faults.replay recorder call.status ∧ call.faults.store = none

theorem endRecording_ok {faults : ReplayFaults} {recorder : ReplayRecorder} {now : DateTime}
    (status : SessionStatus) : (∃ result, (JumpPtyBridge.endRecording status now faults recorder).1 =
      .ok result) ↔ EndsRecording faults recorder status := by
  cases status with
  | OPEN => simp [JumpPtyBridge.endRecording, EndsRecording]
  | CLOSED =>
      have spec : (∃ result, (recorder.close faults now).1 = .ok result) ↔ _ := ReplayRecorder.close_ok
      refine Iff.trans ?_ spec
      cases closed : (recorder.close faults now).1 <;>
        simp [JumpPtyBridge.endRecording, closed, Except.map]
  | FAILED | TERMINATED =>
      refine Iff.trans ?_ ReplayRecorder.fail_ok
      cases failed : (recorder.fail faults).1 <;>
        simp [JumpPtyBridge.endRecording, failed, Except.map]

/-- What a close does to the row and the channel once the recording has ended. -/
theorem endSession_run (bridge : JumpPtyBridge Rest) (faults : CloseFaults) (status : SessionStatus)
    (now : DateTime) (error : Option Str) (result : Option ReplayCloseResult)
    (world : JumpWorld Rest) :
    let after := ((bridge.endSession status now error result).run (serve (dependencies faults)) world).2
    after.bridgeClosed = world.bridgeClosed ∧
      after.row = (if bridge.stored = true ∧ faults.store = none ∧ world.row = .OPEN then status
        else world.row) ∧
      after.channelAsked =
        (world.channelAsked || !bridge.stored || faults.store.isNone) := by
  cases stored : bridge.stored <;> cases store : faults.store <;> cases tunnel : faults.tunnel <;>
    cases audited : bridge.audited <;> cases audit : faults.audit <;>
    simp [JumpPtyBridge.endSession, Coro.onlyIf, stored, audited, Coro.run_bind, PtyChannel.closeSession, waitFor,
      dependencies, raising, store, tunnel, audit, JumpPtyBridge.closeRowRequest]

/-- A close of a closed bridge changes neither. -/
theorem closeOnce_closed (bridge : JumpPtyBridge Rest) (call : CloseCall) {world : JumpWorld Rest}
    (was : world.bridgeClosed = true) :
    (closeOnce bridge world call).bridgeClosed = true ∧
      (closeOnce bridge world call).row = world.row ∧
      (closeOnce bridge world call).channelAsked = world.channelAsked := by
  simp [closeOnce, JumpPtyBridge.close, JumpPtyBridge.beginClose, Coro.run_bind, was]

theorem closeAll_closed (bridge : JumpPtyBridge Rest) (calls : List CloseCall)
    {world : JumpWorld Rest} (was : world.bridgeClosed = true) :
    (closeAll bridge calls world).row = world.row ∧
      (closeAll bridge calls world).channelAsked = world.channelAsked := by
  induction calls generalizing world with
  | nil => exact ⟨rfl, rfl⟩
  | cons call rest ih =>
      obtain ⟨still, sameRow, sameChannel⟩ := closeOnce_closed bridge call was
      have tail := ih still
      exact ⟨tail.1.trans sameRow, tail.2.trans sameChannel⟩

/-- The session is over: its row is not open and its channel was asked to close. -/
def Over (world : JumpWorld Rest) : Prop := world.row ≠ .OPEN ∧ world.channelAsked = true

/-- The first close decides. -/
theorem closeOnce_first (bridge : JumpPtyBridge Rest) (call : CloseCall)
    (recorder : ReplayRecorder) (faults : ReplayFaults) (columns : RowColumns)
    (recorded : List ReplayEvent) (rest : Rest) :
    let after := closeOnce bridge (inUse recorder faults columns recorded rest) call
    after.bridgeClosed = true ∧ (Over after ↔ bridge.stored = true ∧ ReachesChannel recorder call) := by
  have spec : (∃ result, (JumpPtyBridge.endRecording call.status call.now call.faults.replay
      recorder).1 = .ok result) ↔ _ := endRecording_ok call.status
  unfold closeOnce JumpPtyBridge.close
  dsimp only
  rw [Coro.run_bind, run_change]
  unfold JumpPtyBridge.beginClose onRecorder inUse
  dsimp only
  rw [if_neg Bool.false_ne_true]
  cases ended : (JumpPtyBridge.endRecording call.status call.now call.faults.replay recorder).1 with
  | error fault =>
      have fails : ¬ ReachesChannel recorder call := fun reaches => by
        obtain ⟨result, same⟩ := spec.mpr reaches.1
        rw [ended] at same
        cases same
      exact ⟨rfl, by simp [Over, fails]⟩
  | ok result =>
      have ends : EndsRecording call.faults.replay recorder call.status := spec.mp ⟨result, ended⟩
      have terminal : call.status ≠ .OPEN := fun same => by
        rw [same] at ends
        exact ends
      dsimp only
      obtain ⟨closed, row, asked⟩ := endSession_run bridge call.faults call.status call.now call.error
        result _
      refine ⟨closed, ?_⟩
      unfold Over
      rw [row, asked]
      by_cases stored : bridge.stored = true <;> by_cases store : call.faults.store = none <;>
        simp [stored, store, ReachesChannel, ends, terminal]

/-- After any closes and then a close to `FAILED` during which everything works,
the session is over exactly when the first of them reached the channel. -/
theorem close_recovers (bridge : JumpPtyBridge Rest) (recorder : ReplayRecorder)
    (faults : ReplayFaults) (columns : RowColumns) (recorded : List ReplayEvent) (rest : Rest)
    (earlier : List CloseCall)
    (now : DateTime) (error : Option Str) :
    Over (closeAll bridge (earlier ++ [⟨.FAILED, now, error, .none⟩])
        (inUse recorder faults columns recorded rest)) ↔
      bridge.stored = true ∧ ∀ first ∈ earlier.head?, ReachesChannel recorder first := by
  have works : ReachesChannel recorder ⟨.FAILED, now, error, .none⟩ :=
    ⟨fun _ => ⟨.inr rfl, fun _ => rfl, rfl⟩, rfl⟩
  cases earlier with
  | nil =>
      have spec := (closeOnce_first bridge ⟨.FAILED, now, error, .none⟩ recorder faults columns recorded rest).2
      simpa [closeAll, works] using spec
  | cons first more =>
      obtain ⟨closed, spec⟩ := closeOnce_first bridge first recorder faults columns recorded rest
      obtain ⟨row, asked⟩ := closeAll_closed bridge (more ++ [⟨.FAILED, now, error, .none⟩]) closed
      have kept : Over (closeAll bridge (first :: more ++ [⟨.FAILED, now, error, .none⟩])
          (inUse recorder faults columns recorded rest)) ↔
          Over (closeOnce bridge (inUse recorder faults columns recorded rest) first) := by
        unfold Over
        rw [← row, ← asked]
        rfl
      simpa using kept.trans spec

/-- The disk is full while output is recorded, the node process then ends, and
the failure handler closes the session. -/
theorem full_disk_leaves_session_open :
    let full : ReplayFaults := { ReplayFaults.none with write := some .osError }
    let recorder := (recorderOne.record full ⟨0, lit "o", lit "text"⟩).2
    let bridge : JumpPtyBridge Unit := ⟨startedOne, brokerChannel, true, true⟩
    ¬ Over (closeAll bridge
      [⟨.CLOSED, ⟨2000000, some 0⟩, none, .none⟩,
        ⟨.FAILED, ⟨3000000, some 0⟩, some (lit "jump session task failed"), .none⟩]
      (inUse recorder .none ⟨none, lit "3.cast", none⟩ [] ())) := by
  intro full recorder bridge isOver
  exact isOver.1 rfl

end VibeConnect.BridgeRecovery
