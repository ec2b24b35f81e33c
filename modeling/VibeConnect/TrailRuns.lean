import VibeConnect.JumpChecks
import VibeConnect.TrailEndings

/-! A session's trail tells the truth, in every order of steps and with any call
raising: from the request to the end of the session. -/
namespace VibeConnect.SessionTrail
open Python.Text Python.JsonCodec Python.Values Python.Coroutine Python.Tasks Models JumpCoordinator
open Replay ReplayFile JumpBridge JumpRuns
variable {Rest : Type} {integrity : Integrity} {setup : SessionSetup Rest}

/-! A jump that fails before there is a bridge. -/
section Failing
variable {jump : StartedJump} {count : Nat} {error : String} {now : DateTime}
  {before after state : TrailWorld Rest}

structure Failing (integrity : Integrity) (setup : SessionSetup Rest) (jump : StartedJump) (count : Nat)
    (world : TrailWorld Rest) : Prop where
  begun : world.rest.started = some jump
  unbridged : world.rest.bridged = false
  unasked : world.rest.closers = []
  opened : world.bridgeClosed = false
  unpublished : world.recorder.published = none
  recording : world.recorder.closed = false → world.recorder.temp ≠ none
  digest : world.recorder.digest = integrity.digest
  ends : ∃ opening ends, world.rest.trail = opening ++ ends ∧ Begins setup jump opening ∧
    (∀ record ∈ ends, Tells integrity setup jump record world) ∧ ends.length ≤ count
  row : world.row = .OPEN ∨ world.row = .FAILED ∧
    world.columns.replayPath = jump.session.replayPath ∧ world.columns.replayHmac = none

theorem Failing.trailed (failing : Failing integrity setup jump count state) (few : count ≤ 2) :
    Trailed integrity setup state where
  unbridged _ := failing.unbridged
  closing asked := absurd failing.unasked asked
  truthful := by
    obtain ⟨opening, ends, trail, begins, tells, short⟩ := failing.ends
    exact .started jump opening ends failing.begun trail begins tells
      (.inr ⟨failing.unbridged, short.trans few⟩)
  unclosed _ := ⟨failing.opened, failing.unpublished⟩
  closed asked := absurd failing.unasked asked
  recording := failing.recording
  digest := failing.digest
  bridge _ _ bridged := absurd (failing.unbridged.symm.trans bridged) Bool.false_ne_true

theorem Failing.longer (failing : Failing integrity setup jump count state) :
    Failing integrity setup jump (count + 1) state := by
  obtain ⟨opening, ends, trail, begins, tells, short⟩ := failing.ends
  exact { failing with ends := ⟨opening, ends, trail, begins, tells, Nat.le_succ_of_le short⟩ }

theorem Failing.holds (failing : Failing integrity setup jump count state) : Holds .outcome state :=
  ⟨by rw [failing.begun]; exact Option.some_ne_none jump, failing.unbridged⟩

theorem Failing.stays (failing : Failing integrity setup jump count before)
    (spares : Spares setup .outcome before after) (still : Trailed integrity setup after) :
    Failing integrity setup jump count after := by
  have same : Same before after := spares.held failing.holds
  have unbridged := same.bridged.trans failing.unbridged
  have unasked : after.rest.closers = [] := by
    by_contra asked
    exact Bool.false_ne_true (unbridged.symm.trans (still.closing asked))
  exact {
    begun := same.started.trans failing.begun
    unbridged := unbridged
    unasked := unasked
    opened := (still.unclosed unasked).1
    unpublished := (still.unclosed unasked).2
    recording := still.recording
    digest := still.digest
    ends := by
      obtain ⟨opening, ends, trail, begins, tells, short⟩ := failing.ends
      exact ⟨opening, ends, same.trail.trans trail, begins,
        fun record member => same.tells (tells record member), short⟩
    row := by rw [same.row, same.columns]; exact failing.row }

theorem Failing.owes (failing : Failing integrity setup jump count before) (few : count ≤ 2)
    (started : after.rest.started = before.rest.started)
    (bridged : after.rest.bridged = before.rest.bridged)
    (closers : after.rest.closers = before.rest.closers) : Owes setup .outcome before after :=
  (failing.trailed few).toOrdered.owes failing.holds started bridged closers

/-- A record of an end is there only once the recorder is closed and the row has ended. -/
theorem Failing.fails {faults : ReplayFaults} (failing : Failing integrity setup jump count state) :
    Failing integrity setup jump count { state with recorder := (state.recorder.fail faults).2 } := by
  cases was : state.recorder.closed with
  | true =>
      rw [ReplayRecorder.fail_closed was]
      exact failing
  | false =>
      obtain ⟨opening, ends, trail, begins, tells, short⟩ := failing.ends
      exact { failing with
        unpublished := fail_published.trans failing.unpublished
        recording := fun open_ => (SessionRows.fail_recording open_).elim
        digest := ReplayRecorder.fail_continues.digest.trans failing.digest
        ends := ⟨opening, ends, trail, begins, fun record member =>
          absurd ((tells record member).stopped.symm.trans was) (by decide), short⟩ }

theorem tells_ended {record : AuditRecord} (tells : Tells integrity setup jump record state)
    (stored : setup.stored = true) : state.row ≠ .OPEN := by
  rcases tells.told with ⟨-, _, _, _, -, -, -, -, -, row⟩ | ⟨-, -, status, _, failed, -, row⟩
  · rw [(row stored).1]
    decide
  · rw [(row stored).1]
    rcases failed with rfl | rfl <;> decide

theorem tells_note {record other : AuditRecord} (tells : Tells integrity setup jump record state) :
    Tells integrity setup jump record (note other state) where
  actor := tells.actor
  agent := tells.agent
  session := tells.session
  node := tells.node
  stopped := tells.stopped
  asked := tells.asked
  told := by
    rcases tells.told with ⟨type, published⟩ | ⟨type, unpublished, ended⟩
    · exact .inl ⟨type, published⟩
    · exact .inr ⟨type, unpublished, ended⟩

/-- The update of the row, whether it finds it open or not. -/
theorem Failing.closeRow (request : CloseRow) (failing : Failing integrity setup jump count state)
    (stored : setup.stored = true) (status : request.status = .FAILED)
    (path : request.replayPath = jump.session.replayPath) (unsigned : request.replayHmac = none) :
    Failing integrity setup jump count (state.closeRow request) ∧ (state.closeRow request).row = .FAILED := by
  by_cases was : state.row = .OPEN
  · have row : (state.closeRow request).row = .FAILED := by
      rw [JumpWorld.closeRow_row, if_pos was, status]
    have columns := JumpWorld.closeRow_columns request state was
    refine ⟨?_, row⟩
    obtain ⟨opening, ends, trail, begins, tells, short⟩ := failing.ends
    rw [JumpWorld.closeRow_same]
    exact { failing with
      ends := ⟨opening, ends, trail, begins, fun record member =>
        absurd was (tells_ended (tells record member) stored), short⟩
      row := .inr ⟨row, by rw [columns]; exact path, by rw [columns]; exact unsigned⟩ }
  · rw [JumpWorld.closeRow_closed request state was]
    exact ⟨failing, (failing.row.resolve_left was).1⟩

/-- The record that `_fail_started_jump` writes. -/
def failure (jump : StartedJump) (error : String) (now : DateTime) : AuditRecord :=
  ⟨.SESSION_FAILED, jump.userCertificate.username, some jump.target.agentId,
    some jump.session.sessionId, some jump.target.nodeName,
    [(lit "status", .str (lit SessionStatus.FAILED.value)), (lit "error", .str (lit error))], now⟩

theorem Failing.noted (failing : Failing integrity setup jump count state)
    (stopped : state.recorder.closed = true) (row : setup.stored = true → state.row = .FAILED) :
    Failing integrity setup jump (count + 1) (note (failure jump error now) state) := by
  have told : Tells integrity setup jump (failure jump error now)
      (note (failure jump error now) state) := {
    actor := rfl
    agent := rfl
    session := rfl
    node := rfl
    stopped := stopped
    asked := fun bridged => absurd (failing.unbridged.symm.trans bridged) Bool.false_ne_true
    told := by
      refine .inr ⟨rfl, failing.unpublished, .FAILED, lit error, .inl rfl, rfl, fun stored => ?_⟩
      have ended := failing.row.resolve_left (by rw [row stored]; decide)
      exact ⟨row stored, ended.2.1, ended.2.2, fun bridged =>
        absurd (failing.unbridged.symm.trans bridged) Bool.false_ne_true⟩ }
  obtain ⟨opening, ends, trail, begins, tells, short⟩ := failing.ends
  have longer : (note (failure jump error now) state).rest.trail =
      opening ++ (ends ++ [failure jump error now]) := by
    rw [← List.append_assoc, ← trail]
    rfl
  have all : ∀ record ∈ ends ++ [failure jump error now], Tells integrity setup jump record
      (note (failure jump error now) state) := by
    intro record member
    rcases List.mem_append.mp member with earlier | last
    · exact tells_note (tells record earlier)
    · rw [List.mem_singleton.mp last]
      exact told
  have counted : (ends ++ [failure jump error now]).length ≤ count + 1 := by simpa using short
  exact { failing with ends := ⟨opening, _, longer, begins, all, counted⟩ }

theorem failWithoutBridge_runs (failing : Failing integrity setup jump count state) (few : count ≤ 1) :
    Runs integrity setup .outcome (setup.failStartedJump jump error now)
      (fun _ after => Failing integrity setup jump (count + 1) after) state := by
  have fewer : count ≤ 2 := few.trans (by decide)
  have failed := @Failing.fails _ _ _ _ _ _ state.faults failing
  refine Coro.wp_bind (change_owned (failing.owes fewer rfl rfl rfl) ?_)
  cases stops : (onRecorder (fun faults recorder => recorder.fail faults) state).1 with
  | error fault => exact failed.longer
  | ok _ =>
  have stopped : ({ state with recorder := (state.recorder.fail state.faults).2 } :
      TrailWorld Rest).recorder.closed = true := fail_stops
  -- what is known once the row has been updated, if it is
  have stores : Runs integrity setup .outcome (Coro.onlyIf setup.stored (waitFor (.closeRow
      ⟨jump.session.sessionId, .FAILED, now, jump.session.replayPath, none, some (lit error)⟩)))
      (Coro.either (fun _ after => Failing integrity setup jump count after ∧
        after.recorder.closed = true ∧ (setup.stored = true → after.row = .FAILED))
        fun _ after => Failing integrity setup jump count after)
      { state with recorder := (state.recorder.fail state.faults).2 } := by
    refine Coro.wp_onlyIf (fun stored => call_owned (failed.trailed fewer) ?_) fun unstored => ?_
    · intro answer resumed after relied still given
      have here := failed.stays relied still
      have same : Same _ resumed := relied.held failed.holds
      obtain ⟨updated, row⟩ := here.closeRow ⟨jump.session.sessionId, .FAILED, now,
        jump.session.replayPath, none, some (lit error)⟩ stored rfl rfl rfl
      have left := JumpWorld.closeRow_same ⟨jump.session.sessionId, .FAILED, now,
        jump.session.replayPath, none, some (lit error)⟩ resumed
      rcases given with changed | ⟨⟨fault, raised⟩, changed⟩
      · dsimp only at changed
        subst changed
        refine ⟨here.owes fewer ?_ ?_ ?_, ?_⟩
        · rw [left]
        · rw [left]
        · rw [left]
        cases answer with
        | error fault => exact updated
        | ok _ =>
            refine ⟨updated, ?_, fun _ => row⟩
            rw [left]
            exact (congrArg ReplayRecorder.closed same.recorder).trans stopped
      · rw [changed, raised]
        exact ⟨.refl setup _ resumed, here⟩
    · refine ⟨failed, stopped, fun stored => ?_⟩
      rw [unstored] at stored
      cases stored
  refine Coro.wp_bind (Coro.wp_mono ?_ stores)
  rintro (fault | _) middle reached
  · exact reached.longer
  obtain ⟨updated, stopped, row⟩ := reached
  refine Coro.wp_onlyIf (fun _ => call_owned (updated.trailed fewer) ?_) fun _ => updated.longer
  intro answer resumed after relied still given
  have here := updated.stays relied still
  have same : Same middle resumed := relied.held updated.holds
  rcases given with changed | ⟨⟨fault, raised⟩, changed⟩
  · rw [changed]
    refine ⟨here.owes fewer rfl rfl rfl, here.noted ?_ fun stored => same.row.trans (row stored)⟩
    rw [same.recorder]
    exact stopped
  · rw [changed]
    exact ⟨.refl setup _ resumed, here.longer⟩

theorem Ready.failing (ready : Ready setup jump state) (begun : state.rest.started = some jump)
    (trailed : Trailed integrity setup state) : Failing integrity setup jump 0 state := by
  have unasked : state.rest.closers = [] := by
    by_contra asked
    exact Bool.false_ne_true (ready.bridged.symm.trans (trailed.closing asked))
  exact {
    begun := begun
    unbridged := ready.bridged
    unasked := unasked
    opened := (trailed.unclosed unasked).1
    unpublished := (trailed.unclosed unasked).2
    recording := trailed.recording
    digest := trailed.digest
    ends := ⟨_, [], (List.append_nil _).symm, ready.begins, by simp, Nat.le_refl 0⟩
    row := .inl ready.row }

theorem outcome_runs (outcome : Outcome) (ready : Ready setup jump state)
    (begun : state.rest.started = some jump) (trailed : Trailed integrity setup state) :
    Runs integrity setup .outcome (outcome.program setup jump)
      (fun _ after => Trailed integrity setup after) state := by
  have failing := ready.failing begun trailed
  have once : ∀ error now, Runs integrity setup .outcome (setup.failStartedJump jump error now)
      (fun _ after => Failing integrity setup jump 1 after) state :=
    fun _ _ => failWithoutBridge_runs failing (Nat.zero_le 1)
  have ends : ∀ count, count ≤ 2 → ∀ (outcome : Except Exc Unit) after,
      Failing integrity setup jump count after → Trailed integrity setup after :=
    fun _ few _ _ failing => failing.trailed few
  cases outcome with
  | bridged =>
      apply update_owned
      · -- the right to write goes to the calls of the bridge
        intro other apart
        refine ⟨fun _ => id, fun _ => rfl, fun _ => id, ?_, ?_⟩
        · cases other with
          | start => exact fun waiting => absurd (begun.symm.trans waiting) (Option.some_ne_none jump)
          | outcome => exact absurd rfl apart
          | call serial =>
              intro first
              have there : state.rest.closers.head? = some serial := first
              rw [failing.unasked] at there
              cases there
          | around _ => exact False.elim
        · cases other with
          | start => exact fun fresh => absurd (begun.symm.trans fresh.started) (Option.some_ne_none jump)
          | outcome => exact absurd rfl apart
          | call serial => exact id
          | around _ => exact id
      · exact {
          unbridged := fun waiting => absurd (begun.symm.trans waiting) (Option.some_ne_none jump)
          closing := fun _ => rfl
          truthful := truthful_begun begun ready.begins
          unclosed := trailed.unclosed
          closed := trailed.closed
          recording := trailed.recording
          digest := trailed.digest
          bridge := fun other same _ _ => by
            cases begun.symm.trans same
            exact ⟨ready.begins, ready.row⟩ }
  | processFailed now => exact Coro.wp_mono (ends 1 (by decide)) (once _ now)
  | taskFailed now => exact Coro.wp_mono (ends 1 (by decide)) (once _ now)
  | bothFailed now later =>
      refine Coro.wp_handle (Coro.wp_mono ?_ (once _ now))
      rintro (fault | _) after failed
      · dsimp only
        unfold SessionSetup.taskFailed
        split
        · exact failed.trailed (by decide)
        · exact Coro.wp_mono (ends 2 (Nat.le_refl 2)) (failWithoutBridge_runs failed (Nat.le_refl 1))
      · exact failed.trailed (by decide)
end Failing

/-! The start of the jump. -/
section Starting
variable {identity : ResolvedIdentity} {nodeName : Str} {target : JumpTarget} {session : JumpSession}
  {now : DateTime} {before after state : TrailWorld Rest}

/-- A session whose jump has not started. -/
structure Waiting (integrity : Integrity) (setup : SessionSetup Rest) (world : TrailWorld Rest) : Prop
    extends Trailed integrity setup world where
  started : world.rest.started = none

/-- Nothing is on the trail yet. -/
structure Silent (integrity : Integrity) (setup : SessionSetup Rest) (row : SessionStatus)
    (world : TrailWorld Rest) : Prop extends Waiting integrity setup world where
  trail : world.rest.trail = []
  status : world.row = row

theorem Waiting.unasked (waiting : Waiting integrity setup state) : state.rest.closers = [] := by
  by_contra asked
  exact absurd ((waiting.unbridged waiting.started).symm.trans (waiting.closing asked)) (by decide)

/-- The task that starts the jump is the one that may write. -/
theorem Waiting.owes (waiting : Waiting integrity setup before)
    (started : after.rest.started = before.rest.started)
    (bridged : after.rest.bridged = before.rest.bridged)
    (closers : after.rest.closers = before.rest.closers) : Owes setup .start before after := by
  have holds : Holds .start before := waiting.started
  exact waiting.toOrdered.owes holds started bridged closers

theorem Waiting.changes (waiting : Waiting integrity setup before)
    (started : after.rest.started = before.rest.started)
    (bridged : after.rest.bridged = before.rest.bridged)
    (closers : after.rest.closers = before.rest.closers)
    (closed : after.bridgeClosed = before.bridgeClosed)
    (published : after.recorder.published = before.recorder.published)
    (recording : after.recorder.closed = false → after.recorder.temp ≠ none)
    (digest : after.recorder.digest = before.recorder.digest)
    (records : after.rest.trail = [] ∨ ∃ record, after.rest.trail = [record] ∧
      (Denies record after ∨ record.eventType = .SESSION_STARTED)) : Waiting integrity setup after := by
  obtain ⟨opened, unpublished⟩ := waiting.unclosed waiting.unasked
  have waits := started.trans waiting.started
  have unasked := closers.trans waiting.unasked
  exact {
    unbridged := fun _ => bridged.trans (waiting.unbridged waiting.started)
    closing := fun asked => absurd unasked asked
    truthful := .unstarted waits records
    unclosed := fun _ => ⟨closed.trans opened, published.trans unpublished⟩
    closed := fun asked => absurd unasked asked
    recording := recording
    digest := digest.trans waiting.digest
    bridge := fun jump begun => absurd (waits.symm.trans begun) (Option.some_ne_none jump).symm
    started := waits }

theorem Silent.stays {row : SessionStatus} (silent : Silent integrity setup row before)
    (spares : Spares setup .start before after) (still : Trailed integrity setup after) :
    Silent integrity setup row after := by
  have same : Same before after := spares.held silent.started
  exact { still with
    started := same.started.trans silent.started
    trail := same.trail.trans silent.trail
    status := same.row.trans silent.status }

/-- The jump fails without a further record. -/
abbrev Fails {α : Type} (integrity : Integrity) (setup : SessionSetup Rest)
    (returns : α → TrailWorld Rest → Prop) : Except Exc α → TrailWorld Rest → Prop :=
  Coro.either returns fun _ after => Waiting integrity setup after

/-- A call that leaves the row, the recorder and the trail alone. -/
theorem ask_silent {call : JumpCall} (idle : ∀ answer (before after : TrailWorld Rest),
      trailWorld (.jump call) answer before after → after = before)
    (silent : Silent integrity setup .OPEN state) :
    Runs integrity setup .start (ask call)
      (fun _ after => Silent integrity setup .OPEN after) state := by
  apply call_owned silent.toTrailed
  intro answer resumed after relied still given
  rw [idle answer resumed after given]
  exact ⟨.refl setup _ resumed, silent.stays relied still⟩

theorem writeAudit_runs {row : SessionStatus} {record : AuditRecord}
    (silent : Silent integrity setup row state)
    (tells : (record.eventType = .NODE_AUTHORIZATION_DENIED ∧ (record.sessionId ≠ none → row = .FAILED)) ∨
      record.eventType = .SESSION_STARTED) :
    Runs integrity setup .start (ask (.writeAudit record))
      (Fails integrity setup fun _ after => Waiting integrity setup after ∧
        after.rest.trail = [record] ∧ after.row = row) state := by
  apply call_owned silent.toTrailed
  intro answer resumed after relied still given
  have here := silent.stays relied still
  have noted : Waiting integrity setup (note record resumed) := by
    refine here.toWaiting.changes rfl rfl rfl rfl rfl here.recording rfl (.inr ⟨record, ?_, ?_⟩)
    · show resumed.rest.trail ++ [record] = [record]
      rw [here.trail]
      rfl
    · unfold Denies
      rw [show (note record resumed).row = row from here.status]
      exact tells
  rcases given with changed | ⟨⟨fault, failed⟩, changed⟩
  · rw [changed]
    refine ⟨here.toWaiting.owes rfl rfl rfl, ?_⟩
    cases answer with
    | error fault => exact noted
    | ok _ =>
        refine ⟨noted, ?_, here.status⟩
        show resumed.rest.trail ++ [record] = [record]
        rw [here.trail]
        rfl
  · rw [changed, failed]
    exact ⟨.refl setup _ resumed, here.toWaiting⟩

/-- A denial ends the request. -/
theorem denial_runs {α : Type} {row : SessionStatus} {actor : Str} {agentId sessionId : Option Uuid}
    {nodeName : Option Str} {reason : String} {fault : Exc} {returns : α → TrailWorld Rest → Prop}
    (silent : Silent integrity setup row state) (sunk : sessionId ≠ none → row = .FAILED) :
    Runs integrity setup .start (do
      auditDenial ask setup.coordinatorAudited actor agentId nodeName reason now sessionId
      Coro.raise fault) (Fails integrity setup returns) state := by
  have denies : Runs integrity setup .start (auditDenial ask setup.coordinatorAudited actor
      agentId nodeName reason now sessionId) (fun _ after => Waiting integrity setup after) state := by
    unfold auditDenial
    split
    · refine Coro.wp_mono ?_ (writeAudit_runs silent (.inl ⟨rfl, sunk⟩))
      rintro (fault | _) after kept
      · exact kept
      · exact kept.1
    · exact silent.toWaiting
  refine Coro.wp_bind (Coro.wp_mono ?_ denies)
  rintro (fault | _) after kept <;> exact kept

theorem failSession_runs {sessionId : Uuid} (silent : Silent integrity setup .OPEN state) :
    Runs integrity setup .start (ask (.failSession sessionId now))
      (Fails integrity setup fun _ after => Silent integrity setup .FAILED after) state := by
  apply call_owned silent.toTrailed
  intro answer resumed after relied still given
  have here := silent.stays relied still
  have left := JumpWorld.closeRow_same
    ⟨sessionId, .FAILED, now, sessionId.text ++ lit ".cast", none, none⟩ resumed
  rcases given with changed | ⟨⟨fault, failed⟩, changed⟩
  · dsimp only at changed
    subst changed
    have row : (resumed.closeRow
        ⟨sessionId, .FAILED, now, sessionId.text ++ lit ".cast", none, none⟩).row = .FAILED := by
      rw [JumpWorld.closeRow_row, if_pos here.status]
    have trail : (resumed.closeRow
        ⟨sessionId, .FAILED, now, sessionId.text ++ lit ".cast", none, none⟩).rest.trail = [] := by
      rw [left]
      exact here.trail
    have sunk : Waiting integrity setup (resumed.closeRow
        ⟨sessionId, .FAILED, now, sessionId.text ++ lit ".cast", none, none⟩) := by
      rw [left] at trail ⊢
      exact here.toWaiting.changes rfl rfl rfl rfl rfl here.recording rfl (.inl trail)
    refine ⟨?_, ?_⟩
    · rw [left]
      exact here.toWaiting.owes rfl rfl rfl
    · cases answer with
      | error fault => exact sunk
      | ok _ => exact ⟨sunk, trail, row⟩
  · rw [changed, failed]
    exact ⟨.refl setup _ resumed, here.toWaiting⟩

theorem failReplay_runs {replay : ReplayHandle} {error : Str} (silent : Silent integrity setup .OPEN state) :
    Runs integrity setup .start (ask (.failReplay replay error now))
      (fun _ after => Silent integrity setup .OPEN after) state := by
  apply call_owned silent.toTrailed
  intro answer resumed after relied still given
  have here := silent.stays relied still
  rw [(Prod.mk.inj (show (answer, after) = _ from given)).2]
  refine ⟨here.toWaiting.owes rfl rfl rfl, ?_, here.trail, here.status⟩
  exact here.toWaiting.changes rfl rfl rfl rfl fail_published
    (fun open_ => (SessionRows.fail_recording open_).elim) ReplayRecorder.fail_continues.digest
    (.inl here.trail)

/-- A check, between calls. -/
theorem checked_runs {α : Type} {answer : Except Exc α} (silent : Silent integrity setup .OPEN state) :
    Runs integrity setup .start (Coro.ofAnswer answer)
      (Fails integrity setup fun value after => answer = .ok value ∧ Silent integrity setup .OPEN after)
      state := by
  apply Coro.wp_ofAnswer
  cases answer with
  | error fault => exact silent.toWaiting
  | ok value => exact ⟨rfl, silent⟩

theorem authorizedTarget_runs {command : Str} {visibleNodes : List NodeInventoryEntry}
    {presentedNodeHostKey : Option Str} (silent : Silent integrity setup .OPEN state) :
    Runs integrity setup .start (authorizedTarget ask setup.coordinatorAudited identity command visibleNodes
      presentedNodeHostKey now) (Fails integrity setup fun _ after => Silent integrity setup .OPEN after)
      state := by
  unfold authorizedTarget
  split
  · exact denial_runs silent fun named => absurd rfl named
  · exact silent.toWaiting
  refine Coro.wp_bind (Coro.wp_mono ?_ (ask_silent (fun _ _ _ => id) silent))
  rintro (fault | row) found silent
  · exact silent.toWaiting
  cases row with
  | none => exact denial_runs silent fun named => absurd rfl named
  | some target =>
      refine Coro.wp_bind (Coro.wp_mono ?_ (checked_runs silent))
      rintro (fault | _) pinned kept
      · exact kept
      · dsimp only
        split
        · exact kept.2
        · exact denial_runs kept.2 fun named => absurd rfl named

theorem startRecording_runs {width height : Int} (silent : Silent integrity setup .OPEN state) :
    Runs integrity setup .start (startRecording ask setup.coordinatorAudited identity target nodeName session
      width height now) (Fails integrity setup fun _ after => Silent integrity setup .OPEN after) state := by
  refine Coro.wp_handle (Coro.wp_mono ?_ (ask_silent (fun _ _ _ => id) silent))
  rintro (fault | replay) after silent
  · dsimp only
    unfold replayFault
    split
    · refine Coro.wp_bind (Coro.wp_mono ?_ (failSession_runs silent))
      rintro (fault | _) sunk kept
      · exact kept
      · exact denial_runs kept fun _ => rfl
    · exact silent.toWaiting
  · exact silent

theorem issueCertificate_runs {replay : ReplayHandle} (silent : Silent integrity setup .OPEN state) :
    Runs integrity setup .start (issueCertificate ask identity session replay now)
      (Fails integrity setup fun certificate after =>
        certificate.username = identity.username ∧ Silent integrity setup .OPEN after) state := by
  refine Coro.wp_bind (Coro.wp_mono ?_ (ask_silent (fun _ _ _ => id) silent))
  rintro (fault | certificate) after silent
  · exact silent.toWaiting
  dsimp only
  split
  · refine Coro.wp_bind (Coro.wp_mono ?_ (failReplay_runs silent))
    rintro (fault | _) failed silent
    · exact silent.toWaiting
    · refine Coro.wp_bind (Coro.wp_mono ?_ (failSession_runs silent))
      rintro (fault | _) sunk kept
      · exact kept
      · exact kept.toWaiting
  · rename_i same
    exact ⟨not_not.mp same, silent⟩

theorem openNode_runs {replay : ReplayHandle} {certificate : IssuedUserCertificate}
    {channelId : TunnelState.ChannelId} (silent : Silent integrity setup .OPEN state) :
    Runs integrity setup .start (openNode ask setup.coordinatorAudited identity target nodeName session replay
      certificate channelId now) (Fails integrity setup fun _ after => Silent integrity setup .OPEN after)
      state := by
  refine Coro.wp_handle (Coro.wp_mono ?_ (ask_silent (fun _ _ _ => id) silent))
  rintro (fault | connection) after silent
  · dsimp only
    unfold openFault
    split
    · refine Coro.wp_bind (Coro.wp_mono ?_ (failReplay_runs silent))
      rintro (fault | _) failed silent
      · exact silent.toWaiting
      refine Coro.wp_bind (Coro.wp_mono ?_ (failSession_runs silent))
      rintro (fault | _) sunk kept
      · exact kept
      · exact denial_runs kept fun _ => rfl
    · exact silent.toWaiting
  · exact silent

/-- The jump can be handed on. -/
structure Opened (integrity : Integrity) (setup : SessionSetup Rest) (jump : StartedJump)
    (world : TrailWorld Rest) : Prop extends Waiting integrity setup world where
  begins : Begins setup jump world.rest.trail
  row : world.row = .OPEN

theorem auditStarted_runs {jump : StartedJump} (silent : Silent integrity setup .OPEN state)
    (named : identity.username = jump.userCertificate.username) (on : target = jump.target)
    (of : session = jump.session) :
    Runs integrity setup .start (auditStarted ask setup.coordinatorAudited identity target nodeName session
      now) (Fails integrity setup fun _ after => Opened integrity setup jump after) state := by
  unfold auditStarted
  subst on of
  split
  · rename_i audited
    refine Coro.wp_mono ?_ (writeAudit_runs silent (.inr rfl))
    rintro (fault | _) after kept
    · exact kept
    · obtain ⟨waiting, trail, row⟩ := kept
      refine ⟨waiting, ?_, row⟩
      unfold Begins
      rw [if_pos audited, trail]
      exact ⟨_, rfl, rfl, named, rfl, rfl⟩
  · rename_i unaudited
    refine ⟨silent.toWaiting, ?_, silent.status⟩
    unfold Begins
    rw [if_neg unaudited]
    exact silent.trail

theorem startJump_runs {command : Str} {visibleNodes : List NodeInventoryEntry}
    {presentedNodeHostKey : Option Str} {width height : Int} (silent : Silent integrity setup .OPEN state) :
    Runs integrity setup .start (startJump ask setup.coordinatorAudited setup.sessionUuid setup.channelUuid
      identity command visibleNodes presentedNodeHostKey width height now)
      (Fails integrity setup fun jump after => Opened integrity setup jump after) state := by
  refine Coro.wp_bind (Coro.wp_mono ?_ (authorizedTarget_runs silent))
  rintro (fault | ⟨nodeName, target⟩) found kept
  · exact kept
  refine Coro.wp_bind (Coro.wp_mono ?_ (ask_silent (fun _ _ _ => id) kept))
  rintro (fault | session) created silent
  · exact silent.toWaiting
  refine Coro.wp_bind (Coro.wp_mono ?_ (startRecording_runs silent))
  rintro (fault | replay) recording kept
  · exact kept
  refine Coro.wp_bind (Coro.wp_mono ?_ (issueCertificate_runs kept))
  rintro (fault | certificate) issued kept
  · exact kept
  obtain ⟨principal, silent⟩ := kept
  refine Coro.wp_bind (Coro.wp_mono ?_ (openNode_runs silent))
  rintro (fault | connection) opened kept
  · exact kept
  refine Coro.wp_bind (Coro.wp_mono ?_ (@auditStarted_runs _ _ _ _ _ _ _ _ _
    ⟨session, target, certificate, replay, setup.channelUuid.text, connection⟩ kept principal.symm rfl rfl))
  rintro (fault | _) begun kept
  · exact kept
  · exact kept

theorem startUp_runs (silent : Silent integrity setup .OPEN state) :
    Runs integrity setup .start (startUp setup) (fun _ after => Trailed integrity setup after) state := by
  have starts : Runs integrity setup .start (JumpCoordinator.startExec ask setup.coordinatorAudited
      setup.sessionUuid setup.channelUuid setup.identity setup.command setup.width setup.height)
      (Fails integrity setup fun jump after => Opened integrity setup jump after) state := by
    unfold JumpCoordinator.startExec
    split
    · exact silent.toWaiting
    have refuses : ∀ fault after, Waiting integrity setup after → Runs integrity setup .start
        (denied fault) (Fails integrity setup fun jump after => Opened integrity setup jump after) after := by
      intro fault after waiting
      unfold denied
      split <;> exact waiting
    refine Coro.wp_handle (Coro.wp_bind (Coro.wp_mono ?_ (checked_runs silent)))
    rintro (fault | _) allowed kept
    · exact refuses fault allowed kept
    refine Coro.wp_bind (Coro.wp_mono ?_ (ask_silent (fun _ _ _ => id) kept.2))
    rintro (fault | visibleNodes) seen silent
    · exact refuses fault seen silent.toWaiting
    refine Coro.wp_bind (Coro.wp_mono ?_ (checked_runs silent))
    rintro (fault | nodeName) named kept
    · exact refuses fault named kept
    refine Coro.wp_bind (Coro.wp_mono ?_ (ask_silent (fun _ _ _ => id) kept.2))
    rintro (fault | hostKey) presented silent
    · exact refuses fault presented silent.toWaiting
    refine Coro.wp_bind (Coro.wp_mono ?_ (ask_silent (fun _ _ _ => id) silent))
    rintro (fault | now) timed silent
    · exact refuses fault timed silent.toWaiting
    refine Coro.wp_mono ?_ (startJump_runs silent)
    rintro (fault | jump) after kept
    · exact refuses fault after kept
    · exact kept
  refine Coro.wp_bind (Coro.wp_mono ?_ starts)
  rintro (fault | jump) after kept
  · exact kept.toTrailed
  have unbridged := kept.unbridged kept.started
  apply update_owned
  · -- the right to write goes to the task that decides what comes of the jump
    intro other apart
    refine ⟨fun _ begun => absurd (kept.started.symm.trans begun) (Option.some_ne_none _).symm, id,
      fun _ => id, ?_, ?_⟩
    · cases other with
      | start => exact absurd rfl apart
      | outcome => exact fun holds => absurd kept.started holds.1
      | call serial =>
          intro first
          have there : after.rest.closers.head? = some serial := first
          rw [kept.toWaiting.unasked] at there
          cases there
      | around _ => exact False.elim
    · cases other with
      | start => exact absurd rfl apart
      | outcome =>
          intro _ another same
          cases same
          exact ⟨unbridged, kept.begins, kept.row⟩
      | call serial => exact id
      | around _ => exact id
  · exact {
      unbridged := nofun
      closing := fun asked => absurd kept.toWaiting.unasked asked
      truthful := truthful_begun rfl kept.begins
      unclosed := kept.unclosed
      closed := kept.closed
      recording := kept.recording
      digest := kept.digest
      bridge := fun _ _ bridged => absurd (unbridged.symm.trans bridged) Bool.false_ne_true }
end Starting

/-! Every run. -/
section Pools
variable {state : TrailWorld Rest}

theorem program_owned (hexadecimal : integrity.Hexadecimal) {key : SessionKey} {program : TrailTask Rest Unit}
    (spawned : sessionPrograms setup key program state) (trailed : Trailed integrity setup state)
    (quiet : Quiet setup key state) :
    Owned trailWorld (Trailed integrity setup) (contracts integrity setup key) program state := by
  cases key with
  | start =>
      rw [show program = startUp setup from spawned]
      have fresh : Fresh state := quiet
      exact Coro.wp_mono (fun _ _ kept => ⟨kept, trivial⟩)
        (startUp_runs ⟨⟨trailed, fresh.started⟩, fresh.trail, fresh.row⟩)
  | outcome =>
      obtain ⟨jump, outcome, begun, rfl⟩ := spawned
      exact Coro.wp_mono (fun _ _ kept => ⟨kept, trivial⟩)
        (outcome_runs outcome (quiet jump begun) begun trailed)
  | call serial =>
      obtain ⟨jump, call, begun, bridged, rfl⟩ := spawned
      exact callBridge_runs hexadecimal call trailed ⟨⟨begun, bridged⟩, quiet⟩
  | around serial =>
      obtain ⟨faults, shift, rfl⟩ := spawned
      have same : Same state { state with
          faults := faults, rest := { state.rest with around := shift state.rest.around } } :=
        ⟨rfl, rfl, rfl, rfl, rfl, rfl, rfl⟩
      exact update_owned (same.owes rfl) ⟨same.trailed rfl rfl trailed, trivial⟩

theorem quiet_new {path : Str} {audited : Bool} {header : ReplayLine} {faults : ReplayFaults}
    {columns : RowColumns} {around : Rest} (key : SessionKey) :
    Quiet setup key (newSession integrity path audited header faults columns around) := by
  cases key with
  | start => exact ⟨rfl, rfl, rfl⟩
  | outcome => exact nofun
  | call serial => exact nofun
  | around _ => trivial

theorem trailed_new {path : Str} {audited : Bool} {header : ReplayLine} {faults : ReplayFaults}
    {columns : RowColumns} {around : Rest} :
    Trailed integrity setup (newSession integrity path audited header faults columns around) where
  unbridged _ := rfl
  closing asked := absurd rfl asked
  truthful := .unstarted rfl (.inl rfl)
  unclosed _ := ⟨rfl, rfl⟩
  closed asked := absurd rfl asked
  recording _ := Option.some_ne_none _
  digest := rfl
  bridge _ impossible := by cases impossible
end Pools

/-- In every run of a session its trail tells the truth, and when the call that
closed its bridge has returned, the end is on the trail. -/
theorem trail_truthful (integrity : Integrity) (hexadecimal : integrity.Hexadecimal)
    (setup : SessionSetup Rest) (path : Str) (audited : Bool) (header : ReplayLine) (faults : ReplayFaults)
    (columns : RowColumns) (around : Rest) {pool : TrailPool Rest}
    (reached : TrailReachable setup (newSession integrity path audited header faults columns around) pool) :
    Truthful integrity setup pool.state ∧ ∀ serial, setup.audited = true →
      pool.state.rest.closers.head? = some serial → pool.tasks (.call serial) = some (.done ()) →
      Ended integrity setup pool.state := by
  have owned : pool.Owned (fun _ => trailWorld) (Trailed integrity setup) (contracts integrity setup)
      (Quiet setup) :=
    reachable_owned contracts_lawful (fun _ _ _ _ apart owed => owed _ apart.symm)
      (fun _ _ _ _ apart owed => (owed _ apart.symm).quiet)
      (fun _ _ _ spawned trailed quiet => program_owned hexadecimal spawned trailed quiet) trailed_new
      quiet_new reached
  refine ⟨owned.holds.truthful, fun serial audited first finished => ?_⟩
  have ended : pool.tasks (.call serial) = some (Coro.ofAnswer (.ok ())) := finished
  exact owned.ended ended rfl audited first

/-! A session of alice on node-01 whose process ends. -/
def integrityOne (zero : FloatText) : Integrity := ⟨[1], fun _ _ => lit "a1", fun _ => zero⟩

def setupOne : SessionSetup Unit :=
  ⟨some ⟨lit "alice"⟩, lit "node-01", 80, 24, ⟨3⟩, ⟨4⟩, true, true, true, brokerChannel⟩

/-- Every call works. -/
def answersOne : (call : SessionCall) → TrailWorld Unit →
    Except Exc (SessionResult call) × TrailWorld Unit
  | .jump (.visibleNodes _), world => (.ok [⟨lit "node-01"⟩], world)
  | .jump (.presentedHostKey _), world => (.ok (some (lit "key")), world)
  | .jump .clock, world => (.ok ⟨1000000, some 0⟩, world)
  | .jump (.getJumpTarget _), world => (.ok (some JumpChecks.targetOne), world)
  | .jump (.createSession request), world =>
      (.ok ⟨⟨3⟩, 1, request.replayPath, request.startedAt⟩, world)
  | .jump (.startReplay _), world => (.ok ⟨0⟩, world)
  | .jump (.issue username ..), world => (.ok ⟨username⟩, world)
  | .jump (.openSession _), world => (.ok ⟨0⟩, world)
  | .jump (.writeAudit record), world => (.ok (), note record world)
  | .jump (.failReplay ..), world => onRecorder (fun faults recorder => recorder.fail faults) world
  | .closeRow request, world => (.ok (), world.closeRow request)
  | .channelClosed _, world => (.ok (), world)
  | .writeAudit record, world => (.ok (), note record world)
  | _, world => (.error .osError, world)

abbrev newOne (zero : FloatText) : TrailWorld Unit :=
  newSession (integrityOne zero) (lit "/replays/3.cast") false (.header (lit "node-01") 80 24 1) .none
    ⟨none, lit "3.cast", none⟩ ()

theorem answersOne_given (call : SessionCall) (world : TrailWorld Unit) :
    trailWorld call (answersOne call world).1 world (answersOne call world).2 := by
  cases call with
  | jump call =>
      cases call with
      | failSession => exact .inr ⟨⟨_, rfl⟩, rfl⟩
      | writeAudit record => exact .inl rfl
      | _ => rfl
  | closeRow request => exact .inl rfl
  | writeAudit record => exact .inl rfl
  | _ => rfl

theorem trail_truthful_alice : ∃ (zero : FloatText) (pool : TrailPool Unit),
    pool.state.rest.trail.map (·.eventType) = [.SESSION_STARTED, .SESSION_CLOSED] ∧
      Truthful (integrityOne zero) setupOne pool.state ∧ ∀ serial, setupOne.audited = true →
        pool.state.rest.closers.head? = some serial → pool.tasks (.call serial) = some (.done ()) →
        Ended (integrityOne zero) setupOne pool.state := by
  let zero : FloatText := ⟨false, 0, [48], none, by simp [isDigit], by simp, by simp⟩
  have serves : ∀ call (world : TrailWorld Unit), (fun _ _ => true) call world = true →
      trailWorld call (answersOne call world).1 world (answersOne call world).2 :=
    fun call world _ => answersOne_given call world
  have fresh : TrailReachable setupOne (newOne zero) ⟨fun _ => none, newOne zero⟩ := .start
  have started := Reachable.served answersOne (fun _ _ => true) SessionKey.start serves
    (fresh.spawn .start (startUp setupOne) rfl rfl) (staysWithin_all _ _ _)
  have bridged := started.spawn .outcome _ rfl ⟨_, .bridged, rfl, rfl⟩
  have closed := Reachable.served answersOne (fun _ _ => true) (SessionKey.call 0) serves
    (bridged.spawn (.call 0) _ rfl ⟨_, .connectionLost none ⟨2000000, some 0⟩, rfl, rfl, rfl⟩)
    (staysWithin_all _ _ _)
  have hexadecimal : (integrityOne zero).Hexadecimal := by
    intro key content
    show Ascii (lit "a1")
    decide
  exact ⟨zero, _, rfl, trail_truthful (integrityOne zero) hexadecimal setupOne (lit "/replays/3.cast") false
    (.header (lit "node-01") 80 24 1) .none ⟨none, lit "3.cast", none⟩ () closed⟩

end VibeConnect.SessionTrail
