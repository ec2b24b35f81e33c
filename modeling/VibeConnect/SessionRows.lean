import Mathlib.Logic.Relation
import VibeConnect.JumpRuns

/-! Session rows end once and truthfully. Any tasks close the bridge, fail the
session in the store, or fail a jump that has no bridge yet, while every effect
on the storage can raise at any time. Each close of a row is only asked for with
what the recorder left, and a closed recorder does not change. -/
namespace VibeConnect.SessionRows
open Python.Text Python.Values Python.Coroutine Python.Tasks Models JumpCoordinator Replay JumpBridge
open JumpRuns
variable {Rest : Type}

/-- The recorder is as a successful close left it, with its published file named
and authenticated by the two columns. -/
def Published (recorder : ReplayRecorder) (replayPath : Str) (replayHmac : Option Str) : Prop :=
  ∃ faults now before result lines,
    ReplayRecorder.close faults now before = (.ok result, recorder) ∧
      recorder.published = some lines ∧ replayPath = recorder.path ∧
      replayHmac = some (recorder.digest lines)

/-- What the row says is so. -/
structure Truthful (world : JumpWorld Rest) : Prop where
  closed : world.row = .CLOSED →
    Published world.recorder world.columns.replayPath world.columns.replayHmac
  ended : world.row = .FAILED ∨ world.row = .TERMINATED → world.columns.replayHmac = none

/-- The truth with what it takes to keep it. -/
structure Truth (world : JumpWorld Rest) : Prop extends Truthful world where
  recording : world.recorder.closed = false → world.recorder.temp ≠ none
  stopped : world.row = .CLOSED → world.recorder.closed = true

/-- What a close that ended the recording may write. -/
def Knows (status : SessionStatus) (result : Option ReplayCloseResult) (world : JumpWorld Rest) :
    Prop :=
  match status with
  | .CLOSED => world.recorder.closed = true ∧ ∃ ended, result = some ended ∧
      Published world.recorder ended.path (some ended.hmacHex)
  | .FAILED | .TERMINATED => result = none
  | .OPEN => False

section Invariant
variable {world : JumpWorld Rest}

theorem close_publishes {faults : ReplayFaults} {now : DateTime} {recorder : ReplayRecorder}
    {result : ReplayCloseResult} (recording : recorder.closed = false → recorder.temp ≠ none)
    (returned : (recorder.close faults now).1 = .ok result) :
    (recorder.close faults now).2.closed = true ∧
      Published (recorder.close faults now).2 result.path (some result.hmacHex) := by
  obtain ⟨was, stopped, publishes, path, hmac⟩ := ReplayRecorder.close_published returned
  have kept : recorder.Continues (recorder.close faults now).2 := ReplayRecorder.close_continues
  obtain ⟨lines, temp⟩ := Option.ne_none_iff_exists'.mp (recording was)
  refine ⟨stopped, faults, now, recorder, result, lines, Prod.ext returned rfl,
    publishes.trans temp, path.trans kept.path.symm, ?_⟩
  rw [hmac, temp, kept.digest]
  rfl

/-- A change of the recorder alone keeps the truth. -/
theorem Truth.record {recorder : ReplayRecorder} {closes : List SessionStatus}
    {recorded : List ReplayEvent} {bridgeClosed : Bool} (truth : Truth world)
    (kept : world.recorder.Continues recorder)
    (recording : recorder.closed = false → recorder.temp ≠ none) :
    Truth { world with
      recorder := recorder, closes := closes, recorded := recorded, bridgeClosed := bridgeClosed } where
  closed was := by
    rw [show recorder = world.recorder from kept.closed (truth.stopped was)]
    exact truth.closed was
  ended := truth.ended
  recording := recording
  stopped was := by
    rw [show recorder = world.recorder from kept.closed (truth.stopped was)]
    exact truth.stopped was

/-- A failed recorder is closed, unless it was before. -/
theorem fail_recording {faults : ReplayFaults} {recorder : ReplayRecorder}
    (open_ : (recorder.fail faults).2.closed = false) : False := by
  cases was : recorder.closed with
  | true =>
      rw [ReplayRecorder.fail_closed was, was] at open_
      cases open_
  | false =>
      rw [(ReplayRecorder.fail_open was).1] at open_
      cases open_

theorem close_recording {faults : ReplayFaults} {now : DateTime} {recorder : ReplayRecorder}
    (open_ : (recorder.close faults now).2.closed = false) : False := by
  cases was : recorder.closed with
  | true =>
      rw [ReplayRecorder.close_closed was, was] at open_
      cases open_
  | false =>
      rw [(ReplayRecorder.close_open was).1] at open_
      cases open_

theorem Truth.recordEvent (seconds : Int) (stream : String) (payload : Bytes) (truth : Truth world) :
    Truth (JumpPtyBridge.recordEvent seconds stream payload world).2 := by
  rcases recordEvent_cases seconds stream payload world with
    ⟨open_, -, same⟩ | ⟨_, recorder, same, rfl | ⟨rfl, -⟩⟩
  · rw [same]
    refine truth.record ⟨rfl, rfl, fun closed => ?_⟩ fun _ => ?_
    · exact absurd (open_.symm.trans closed) Bool.false_ne_true
    · simpa using truth.recording open_
  · rw [same]
    exact truth
  · rw [same]
    exact truth.record ReplayRecorder.fail_continues fun open_ => (fail_recording open_).elim

theorem Truth.begins (status : SessionStatus) (now : DateTime) (truth : Truth world) :
    Truth (JumpPtyBridge.beginClose status now world).2 ∧
      ∀ result, (JumpPtyBridge.beginClose status now world).1 = .ok (some result) →
        Knows status result (JumpPtyBridge.beginClose status now world).2 := by
  rcases beginClose_cases status now world with ⟨was, same⟩ | ⟨was, same⟩
  · rw [same]
    exact ⟨truth.record (.refl _) truth.recording, fun _ impossible => by cases impossible⟩
  · rw [same]
    cases status with
    | OPEN => exact ⟨truth.record (.refl _) truth.recording, fun _ impossible => by cases impossible⟩
    | CLOSED =>
        refine ⟨truth.record ReplayRecorder.close_continues fun open_ => (close_recording open_).elim,
          fun result given => ?_⟩
        cases returned : (world.recorder.close world.faults now).1 with
        | error fault =>
            rw [JumpPtyBridge.endRecording, returned] at given
            cases given
        | ok ended =>
            rw [JumpPtyBridge.endRecording, returned] at given
            cases given
            obtain ⟨stopped, published⟩ := close_publishes truth.recording returned
            exact ⟨stopped, ended, rfl, published⟩
    | FAILED | TERMINATED =>
        refine ⟨truth.record ReplayRecorder.fail_continues fun open_ => (fail_recording open_).elim,
          fun result given => ?_⟩
        cases returned : (world.recorder.fail world.faults).1 with
        | error fault =>
            rw [JumpPtyBridge.endRecording, returned] at given
            cases given
        | ok ended =>
            rw [JumpPtyBridge.endRecording, returned] at given
            cases given
            rfl

/-- The update writes what the request says, if anything. -/
theorem Truth.closeRow {request : CloseRow} (truth : Truth world)
    (wanted : world.row = .OPEN → Truth { world with
      row := request.status
      columns := ⟨some request.endedAt.asUtc, request.replayPath, request.replayHmac⟩ }) :
    Truth (world.closeRow request) := by
  unfold JumpWorld.closeRow
  split
  · exact wanted (by assumption)
  · exact truth

theorem Truth.fails {columns : RowColumns} (truth : Truth world) (unsigned : columns.replayHmac = none)
    {status : SessionStatus} (failed : status = .FAILED ∨ status = .TERMINATED) :
    Truth { world with row := status, columns := columns } where
  closed was := by rcases failed with rfl | rfl <;> cases was
  ended _ := unsigned
  recording := truth.recording
  stopped was := by rcases failed with rfl | rfl <;> cases was

theorem Truth.persists {bridge : JumpPtyBridge Rest} {status : SessionStatus} {now : DateTime}
    {error : Option Str} {result : Option ReplayCloseResult} (truth : Truth world)
    (knows : Knows status result world) :
    Truth (world.closeRow (bridge.closeRowRequest status now error result)) := by
  refine truth.closeRow fun _ => ?_
  cases status with
  | OPEN => exact knows.elim
  | CLOSED =>
      obtain ⟨stopped, ended, rfl, published⟩ := knows
      exact ⟨⟨fun _ => published, fun impossible => by rcases impossible with h | h <;> cases h⟩,
        truth.recording, fun _ => stopped⟩
  | FAILED =>
      rw [show result = none from knows]
      exact truth.fails rfl (.inl rfl)
  | TERMINATED =>
      rw [show result = none from knows]
      exact truth.fails rfl (.inr rfl)

theorem knows_stable {status : SessionStatus} {result : Option ReplayCloseResult}
    {before after : JumpWorld Rest} (knows : Knows status result before)
    (continues : Continues before after) : Knows status result after := by
  cases status with
  | OPEN | FAILED | TERMINATED => exact knows
  | CLOSED =>
      unfold Knows
      rw [continues.recorder.closed knows.1]
      exact knows

theorem truth_upheld (bridge : JumpPtyBridge Rest) (allowed : ReplayFaults → Prop) :
    Upheld bridge allowed Truth Knows where
  blind _ _ _ truth := ⟨⟨truth.closed, truth.ended⟩, truth.recording, truth.stopped⟩
  storage _ _ _ truth := ⟨⟨truth.closed, truth.ended⟩, truth.recording, truth.stopped⟩
  record _ seconds stream payload truth _ := truth.recordEvent seconds stream payload
  begins _ status now truth := truth.begins status now
  stable _ _ _ _ knows continues := knows_stable knows continues
  persists _ _ _ _ _ truth knows := truth.persists knows
end Invariant

/-- Whatever ends a session: its bridge, `fail_session`, and `_fail_started_jump`
from before the bridge. -/
def rowPrograms (bridge : JumpPtyBridge Rest) (key : Nat) (program : SessionTask Rest Unit)
    (state : JumpWorld Rest) : Prop :=
  bridgePrograms bridge (fun _ => True) key program state ∨
    (∃ endedAt, program = failSession bridge.startedJump.session.sessionId endedAt) ∨
    ∃ stored audited error now, program = failWithoutBridge bridge.startedJump stored audited error now

section Runs
variable {state : JumpWorld Rest}

theorem failRow_runs {request : CloseRow} (failed : request.status = .FAILED)
    (unsigned : request.replayHmac = none) (truth : Truth state) :
    Runs Truth (waitFor (.closeRow request)) (fun _ after => Truth after) state := by
  refine call_safe truth ?_
  intro answer resumed after _ still given
  rcases given with same | ⟨-, same⟩
  · rw [same]
    exact still.closeRow fun _ => still.fails unsigned (.inl failed)
  · rw [same]
    exact still

theorem failWithoutBridge_runs (jump : StartedJump) (stored audited : Bool) (error : Str)
    (now : DateTime) (truth : Truth state) :
    Runs Truth (failWithoutBridge jump stored audited error now) (fun _ after => Truth after) state := by
  have failed : Truth (onRecorder (fun faults recorder => recorder.fail faults) state).2 :=
    truth.record ReplayRecorder.fail_continues fun open_ => (fail_recording open_).elim
  refine Coro.wp_bind (change_safe (continues_onRecorder ReplayRecorder.fail_continues) ?_)
  cases (onRecorder (fun faults recorder => recorder.fail faults) state).1 with
  | error fault => exact failed
  | ok _ =>
      have stores : Runs Truth (Coro.onlyIf stored (waitFor (.closeRow ⟨jump.session.sessionId,
          .FAILED, now, jump.session.replayPath, none, some error⟩))) (fun _ after => Truth after)
          (onRecorder (fun faults recorder => recorder.fail faults) state).2 :=
        Coro.wp_onlyIf (fun _ => failRow_runs rfl rfl failed) fun _ => failed
      refine Coro.wp_bind (Coro.wp_mono ?_ stores)
      rintro (fault | _) after still
      · exact still
      · refine Coro.wp_onlyIf (fun _ => ?_) fun _ => still
        exact waitFor_runs (fun _ impossible => by cases impossible) still

theorem programs_safe {bridge : JumpPtyBridge Rest} {key : Nat} {program : SessionTask Rest Unit}
    (spawned : rowPrograms bridge key program state) (truth : Truth state) :
    Safe sessionWorld Truth contract program state := by
  refine safe_of_runs ?_
  rcases spawned with ⟨call, rfl, permitted⟩ | ⟨endedAt, rfl⟩ | ⟨stored, audited, error, now, rfl⟩
  · exact call_runs (truth_upheld bridge fun _ => True) call permitted truth
  · exact failRow_runs rfl rfl truth
  · exact failWithoutBridge_runs _ stored audited error now truth
end Runs

theorem truth_started {path : Str} {digest : List ReplayLine → Str} {audited : Bool}
    {header : ReplayLine} {faults : ReplayFaults} {replayPath : Str} {rest : Rest} :
    Truth (started path digest audited header faults ⟨none, replayPath, none⟩ rest) where
  closed impossible := by cases impossible
  ended impossible := by rcases impossible with h | h <;> cases h
  recording _ := Option.some_ne_none _
  stopped impossible := by cases impossible

section Pools
variable {bridge : JumpPtyBridge Rest} {start : JumpWorld Rest} {pool later : SessionPool Rest}

abbrev RowsReachable (bridge : JumpPtyBridge Rest) : JumpWorld Rest → SessionPool Rest → Prop :=
  Reachable (fun _ => sessionWorld) (rowPrograms bridge)

abbrev RowsStep (bridge : JumpPtyBridge Rest) : SessionPool Rest → SessionPool Rest → Prop :=
  Step (fun _ => sessionWorld) (rowPrograms bridge)

theorem pool_safe (truth : Truth start) (reached : RowsReachable bridge start pool) :
    pool.Safe (fun _ => sessionWorld) Truth fun _ => contract :=
  reachable_safe (fun _ => contract_lawful) (fun _ _ _ _ _ moved => moved)
    (fun _ _ _ _ _ given => sessionWorld_continues given)
    (fun _ _ _ spawned truth => programs_safe spawned truth) truth reached

/-- Every run goes on from where it is without taking anything back. -/
theorem run_continues (truth : Truth start) (reached : RowsReachable bridge start pool)
    (runs : Relation.ReflTransGen (RowsStep bridge) pool later) :
    RowsReachable bridge start later ∧ Continues pool.state later.state := by
  induction runs with
  | refl => exact ⟨reached, .refl _⟩
  | tail _ step ih =>
      obtain ⟨key, moved⟩ := step_owed (fun _ => contract_lawful)
        (fun _ _ _ _ _ given => sessionWorld_continues given)
        (fun _ _ _ spawned truth => programs_safe spawned truth) (pool_safe truth ih.1) step
      exact ⟨.step ih.1 step, ih.2.trans moved⟩
end Pools

/-- A session row says the truth in every run, and once it is not open it stays
as it is. -/
theorem session_row_truthful (bridge : JumpPtyBridge Rest) (path : Str)
    (digest : List ReplayLine → Str) (audited : Bool) (header : ReplayLine) (faults : ReplayFaults)
    (replayPath : Str) (rest : Rest) {pool later : SessionPool Rest}
    (reached : RowsReachable bridge
      (started path digest audited header faults ⟨none, replayPath, none⟩ rest) pool)
    (runs : Relation.ReflTransGen (RowsStep bridge) pool later) :
    Truthful pool.state ∧ (pool.state.row ≠ .OPEN →
      later.state.row = pool.state.row ∧ later.state.columns = pool.state.columns) :=
  ⟨(pool_safe truth_started reached).1.toTruthful, (run_continues truth_started reached runs).2.row⟩

/-- The process ends and its row is closed, before the store fails the session. -/
theorem session_row_truthful_normal_exit :
    ∃ pool later : SessionPool Unit, pool.state.row = .CLOSED ∧ later.tasks 1 ≠ none ∧
      Truthful pool.state ∧ (pool.state.row ≠ .OPEN →
        later.state.row = pool.state.row ∧ later.state.columns = pool.state.columns) := by
  have fresh : RowsReachable bridgeOne (started (lit "3.cast") (fun _ => lit "digest") false
      (.header (lit "node-01") 80 24 1) .none ⟨none, lit "3.cast", none⟩ ()) ⟨fun _ => none, _⟩ :=
    .start
  have ended := fresh.spawn 0 _ rfl
    (.inl ⟨.connectionLost none ⟨2000000, some 0⟩, rfl, fun _ _ => trivial⟩)
  have stored := ended.resume 0 rfl (.ok ()) _ (.inl rfl)
  exact ⟨_, _, rfl, Option.some_ne_none _, session_row_truthful bridgeOne (lit "3.cast")
    (fun _ => lit "digest") false (.header (lit "node-01") 80 24 1) .none (lit "3.cast") () stored
    (.single (spawn_step _ 1 _ rfl (.inr (.inl ⟨⟨3000000, some 0⟩, rfl⟩))))⟩

end VibeConnect.SessionRows
