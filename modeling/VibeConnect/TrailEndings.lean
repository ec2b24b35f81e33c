import VibeConnect.TrailRights

/-! The calls of a bridge and the trail. A call that does not close leaves the trail
alone, the first one that closes writes the end, and a later one finds the bridge
closed. -/
namespace VibeConnect.SessionTrail
open Python.Text Python.JsonCodec Python.Values Python.Coroutine Python.Tasks Models JumpCoordinator
open Replay ReplayFile JumpBridge JumpRuns
variable {Rest : Type} {integrity : Integrity} {setup : SessionSetup Rest}

/-! The calls of the bridge. -/
structure Attached (jump : StartedJump) (world : TrailWorld Rest) : Prop where
  begun : world.rest.started = some jump
  bridged : world.rest.bridged = true

section Calls
variable {jump : StartedJump} {key : SessionKey} {serial : Nat} {before after state : TrailWorld Rest}

theorem Attached.stays (attached : Attached jump before) (spares : Spares setup key before after) :
    Attached jump after :=
  ⟨spares.started jump attached.begun, spares.bridged attached.bridged⟩

/-- Once there is a bridge, only the calls of the bridge are left to spare. -/
theorem Attached.owes (attached : Attached jump before)
    (started : after.rest.started = before.rest.started)
    (bridged : after.rest.bridged = before.rest.bridged)
    (first : ∀ other, before.rest.closers.head? = some other → after.rest.closers.head? = some other)
    (held : ∀ other, .call other ≠ key → before.rest.closers.head? = some other → Same before after)
    (quiet : ∀ other, .call other ≠ key → before.rest.closers.head? ≠ some other →
      after.rest.closers.head? ≠ some other) : Owes setup key before after := by
  intro other apart
  have begun : ¬before.rest.started = none := by
    rw [attached.begun]
    exact Option.some_ne_none jump
  have there : ¬before.rest.bridged = false := by
    rw [attached.bridged]
    exact Bool.true_eq_false_eq_False.elim
  refine ⟨fun jump => started.trans, bridged.trans, first, ?_, ?_⟩
  · cases other with
    | start => exact fun waiting => absurd waiting begun
    | outcome => exact fun waiting => absurd waiting.2 there
    | call another => exact held another apart
    | around _ => exact False.elim
  · cases other with
    | start => exact fun fresh => absurd fresh.started begun
    | outcome => exact fun waits => absurd (waits jump attached.begun).bridged there
    | call another => exact quiet another apart
    | around _ => exact id

/-- What a call knows that is not the one that closes. -/
structure Known (jump : StartedJump) (serial : Nat) (world : TrailWorld Rest) : Prop
    extends Attached jump world where
  other : world.rest.closers.head? ≠ some serial

theorem Known.stays (known : Known jump serial before) (spares : Spares setup (.call serial) before after) :
    Known jump serial after :=
  ⟨known.toAttached.stays spares, spares.quiet known.other⟩

def Keeps (integrity : Integrity) (setup : SessionSetup Rest) (jump : StartedJump) (serial : Nat)
    (α : Type) (program : TrailTask Rest α) : Prop :=
  ∀ state, Trailed integrity setup state ∧ Known jump serial state →
    Runs integrity setup (.call serial) program
      (fun _ after => Trailed integrity setup after ∧ Known jump serial after) state

theorem keeps_composes : Coro.Composes (Keeps integrity setup jump serial) :=
  Coro.wp_composes _ _ _

/-- A change of what is around. -/
theorem Same.keeps (same : Same before after) (closers : after.rest.closers = before.rest.closers)
    (closed : after.bridgeClosed = before.bridgeClosed)
    (holds : Trailed integrity setup before ∧ Known jump serial before) :
    Owes setup key before after ∧ Trailed integrity setup after ∧ Known jump serial after := by
  have owes : ∀ key, Owes setup key before after := fun key => same.owes closers
  -- any task but this one leaves what this one knows
  have known := holds.2.stays (owes (.around 0) (.call serial) nofun)
  exact ⟨owes key, same.trailed closers closed holds.1, known⟩

theorem keeps_aside {α : Type} {block : TrailWorld Rest → Except Exc α × TrailWorld Rest}
    (same : ∀ world, Same world (block world).2)
    (closers : ∀ world, (block world).2.rest.closers = world.rest.closers)
    (closed : ∀ world, (block world).2.bridgeClosed = world.bridgeClosed) :
    Keeps integrity setup jump serial α (change block) := by
  intro state holds
  obtain ⟨owes, kept⟩ := (same state).keeps (closers state) (closed state) holds
  exact change_owned owes kept

theorem keeps_idle {call : SessionCall} (idle : ∀ answer (before after : TrailWorld Rest),
    trailWorld call answer before after → after = before) :
    Keeps integrity setup jump serial _ (waitFor call) := by
  rintro state ⟨trailed, known⟩
  apply call_owned trailed
  intro answer resumed after relied still given
  rw [idle answer resumed after given]
  exact ⟨.refl setup _ resumed, still, known.stays relied⟩

theorem keeps_bind {α β : Type} {program : TrailTask Rest α} {next : α → TrailTask Rest β}
    (first : Keeps integrity setup jump serial α program)
    (second : ∀ value, Keeps integrity setup jump serial β (next value)) :
    Keeps integrity setup jump serial β (program >>= next) :=
  keeps_composes.sequel first second

/-- A change of the recorder through an open bridge, before any close. -/
theorem Trailed.records (trailed : Trailed integrity setup before) (attached : Attached jump before)
    (open_ : before.bridgeClosed = false) (rest : after.rest = before.rest)
    (closed : after.bridgeClosed = before.bridgeClosed) (row : after.row = before.row)
    (published : after.recorder.published = before.recorder.published)
    (recording : after.recorder.closed = false → after.recorder.temp ≠ none)
    (digest : after.recorder.digest = before.recorder.digest) :
    (∀ key, Owes setup key before after) ∧ Trailed integrity setup after := by
  have unasked : before.rest.closers = [] := by
    by_contra asked
    exact Bool.false_ne_true (open_.symm.trans (trailed.closed asked))
  constructor
  · intro key
    apply attached.owes
    · rw [rest]
    · rw [rest]
    · rw [rest]
      exact fun _ => id
    · intro other _ first
      rw [unasked] at first
      cases first
    · rw [rest]
      exact fun _ _ => id
  · obtain ⟨begins, row_⟩ := trailed.bridge jump attached.begun attached.bridged unasked
    exact {
      unbridged := by rw [rest]; exact trailed.unbridged
      closing := by rw [rest]; exact trailed.closing
      truthful := truthful_begun (by rw [rest]; exact attached.begun) (by rw [rest]; exact begins)
      unclosed := fun _ => ⟨closed.trans open_, published.trans (trailed.unclosed unasked).2⟩
      closed := fun asked => absurd (rest ▸ unasked) asked
      recording := recording
      digest := digest.trans trailed.digest
      bridge := by rw [rest, row]; exact trailed.bridge }

theorem keeps_recorded {α : Type} {seconds : Int} {stream : String} {payload : Bytes}
    {next : TrailTask Rest α} (kept : Keeps integrity setup jump serial α next) :
    Keeps integrity setup jump serial α (do
      let world ← look
      Coro.ofAnswer (JumpPtyBridge.ensureOpen world)
      change (JumpPtyBridge.recordEvent seconds stream payload)
      next) := by
  rintro state ⟨trailed, known⟩
  refine Coro.wp_bind (look_owned (Coro.wp_bind (Coro.wp_ofAnswer ?_)))
  unfold JumpPtyBridge.ensureOpen
  cases open_ : state.bridgeClosed with
  | true => exact ⟨trailed, known⟩
  | false =>
      have moved : (∀ key, Owes setup key state (JumpPtyBridge.recordEvent seconds stream payload state).2) ∧
          Trailed integrity setup (JumpPtyBridge.recordEvent seconds stream payload state).2 := by
        rcases recordEvent_cases seconds stream payload state with
          ⟨was, -, done⟩ | ⟨fault, recorder, raised, left⟩
        · rw [done]
          have written : state.recorder.temp.map (· ++ [.event ⟨seconds, lit stream,
              decodeEscaped payload⟩]) ≠ none := by
            simpa using trailed.recording was
          exact trailed.records known.toAttached open_ rfl rfl rfl rfl (fun _ => written) rfl
        · rw [raised]
          rcases left with rfl | ⟨rfl, -⟩
          · exact trailed.records known.toAttached open_ rfl rfl rfl rfl trailed.recording rfl
          · exact trailed.records known.toAttached open_ rfl rfl rfl fail_published
              (fun open_ => (SessionRows.fail_recording open_).elim) ReplayRecorder.fail_continues.digest
      have still : Known jump serial (JumpPtyBridge.recordEvent seconds stream payload state).2 :=
        known.stays (moved.1 (.around 0) (.call serial) nofun)
      refine Coro.wp_bind (change_owned (moved.1 _) ?_)
      cases (JumpPtyBridge.recordEvent seconds stream payload state).1 with
      | error fault => exact ⟨moved.2, still⟩
      | ok _ => exact kept _ ⟨moved.2, still⟩

/-- What a channel does at once, and what it then waits for. -/
theorem keeps_channel {block : Progress Rest → Except Exc Unit × Progress Rest} {overLink : Bool}
    (around : ∀ progress, (block progress).2 =
      { progress with around := (block progress).2.around })
    {waits : TrailTask Rest Unit} (kept : Keeps integrity setup jump serial Unit waits) :
    Keeps integrity setup jump serial Unit (do
      change (onRest block)
      Coro.onlyIf overLink waits) := by
  apply keeps_bind
  · apply keeps_aside
    · intro world
      unfold onRest
      rw [around]
      exact ⟨rfl, rfl, rfl, rfl, rfl, rfl, rfl⟩
    · intro world
      unfold onRest
      rw [around]
    · exact fun world => rfl
  · exact fun _ => keeps_composes.onlyIf kept

theorem keeps_call (call : BridgeCall) (other : Closes call = false) :
    Keeps integrity setup jump serial Unit (call.program (setup.bridge jump)) := by
  cases call with
  | sendUserInput seconds payload =>
      apply keeps_recorded
      exact keeps_channel (fun _ => rfl) (keeps_idle fun _ _ _ => id)
  | receiveNodeOutput seconds payload =>
      apply keeps_bind
      · exact keeps_recorded (keeps_composes.returns payload)
      · exact fun _ => keeps_composes.returns ()
  | resizePty width height =>
      apply keeps_bind
      · exact fun state known => look_owned known
      intro world
      apply keeps_bind (keeps_composes.ofAnswer _)
      intro _
      split
      · exact keeps_composes.raises _
      · exact keeps_channel (fun _ => rfl) (keeps_idle fun _ _ _ => id)
  | storage faults =>
      intro state holds
      have same : Same state { state with faults := faults } := ⟨rfl, rfl, rfl, rfl, rfl, rfl, rfl⟩
      obtain ⟨owes, kept⟩ := same.keeps rfl rfl holds
      exact update_owned owes kept
  | _ => cases other
end Calls

/-! The call that closes the bridge. -/
section Closing
variable {jump : StartedJump} {serial : Nat} {status : SessionStatus} {now : DateTime}
  {error : Option Str} {result : Option ReplayCloseResult} {before after state : TrailWorld Rest}

/-- How the recording has ended. -/
def Recorded (integrity : Integrity) (status : SessionStatus) (recorder : ReplayRecorder) :
    Option ReplayCloseResult → Prop
  | some result => status = .CLOSED ∧ ∃ lines, recorder.published = some lines ∧ recorder.temp = none ∧
      result.path = recorder.path ∧ result.hmacHex = integrity.digest lines
  | none => (status = .FAILED ∨ status = .TERMINATED) ∧ recorder.published = none

/-- What the first call that closes goes on with. -/
structure Won (integrity : Integrity) (setup : SessionSetup Rest) (jump : StartedJump) (serial : Nat)
    (status : SessionStatus) (result : Option ReplayCloseResult) (world : TrailWorld Rest) : Prop
    extends Attached jump world where
  first : world.rest.closers.head? = some serial
  closed : world.bridgeClosed = true
  begins : Begins setup jump world.rest.trail
  stopped : world.recorder.closed = true
  digest : world.recorder.digest = integrity.digest
  told : Recorded integrity status world.recorder result

theorem Attached.ordered (attached : Attached jump state) : Ordered state where
  unbridged waiting := absurd (attached.begun.symm.trans waiting) (Option.some_ne_none jump)
  closing _ := attached.bridged

/-- A bridge that is closed, with its end not on the trail. -/
theorem Attached.trailed (attached : Attached jump state)
    (first : state.rest.closers.head? = some serial) (closed : state.bridgeClosed = true)
    (begins : Begins setup jump state.rest.trail)
    (recording : state.recorder.closed = false → state.recorder.temp ≠ none)
    (digest : state.recorder.digest = integrity.digest) : Trailed integrity setup state := by
  have asked : state.rest.closers ≠ [] := fun empty => by simp [empty] at first
  exact {
    toOrdered := attached.ordered
    truthful := truthful_begun attached.begun begins
    unclosed := fun empty => absurd empty asked
    closed := fun _ => closed
    recording := recording
    digest := digest
    bridge := fun _ _ _ empty => absurd empty asked }

theorem Won.trailed (won : Won integrity setup jump serial status result state) :
    Trailed integrity setup state := by
  have recording : state.recorder.closed = false → state.recorder.temp ≠ none :=
    fun open_ => absurd (won.stopped.symm.trans open_) (by decide)
  exact won.toAttached.trailed won.first won.closed won.begins recording won.digest

/-- The others leave it all as it was. -/
theorem Won.stays (won : Won integrity setup jump serial status result before)
    (spares : Spares setup (.call serial) before after) (still : Trailed integrity setup after) :
    Won integrity setup jump serial status result after ∧ Same before after := by
  have same : Same before after := spares.held won.first
  have first := spares.first serial won.first
  refine ⟨?_, same⟩
  exact {
    toAttached := won.toAttached.stays spares
    first := first
    closed := still.closed fun empty => by simp [empty] at first
    begins := by rw [same.trail]; exact won.begins
    stopped := by rw [same.recorder]; exact won.stopped
    digest := by rw [same.recorder]; exact won.digest
    told := by rw [same.recorder]; exact won.told }

theorem Won.owes (won : Won integrity setup jump serial status result before)
    (started : after.rest.started = before.rest.started)
    (bridged : after.rest.bridged = before.rest.bridged)
    (closers : after.rest.closers = before.rest.closers) : Owes setup (.call serial) before after := by
  have holds : Holds (.call serial) before := won.first
  exact won.trailed.toOrdered.owes holds started bridged closers

theorem Won.closeRow (won : Won integrity setup jump serial status result state) (request : CloseRow) :
    Won integrity setup jump serial status result (state.closeRow request) := by
  rw [JumpWorld.closeRow_same]
  exact ⟨⟨won.begun, won.bridged⟩, won.first, won.closed, won.begins, won.stopped, won.digest, won.told⟩

/-- What the row says once it has been updated. -/
def Rowed (setup : SessionSetup Rest) (request : CloseRow) (world : TrailWorld Rest) : Prop :=
  setup.stored = true → world.row = request.status ∧
    world.columns = ⟨some request.endedAt.asUtc, request.replayPath, request.replayHmac⟩

/-- The record and the update of a close that published. -/
theorem closeAudit_published (bridge : JumpPtyBridge (Progress Rest)) {ended : ReplayCloseResult}
    {path hmac : Str} (path_ : ended.path = path) (hmac_ : ended.hmacHex = hmac) :
    (bridge.closeAudit .CLOSED now error (some ended)).metadata =
      [(lit "status", .str (lit SessionStatus.CLOSED.value)), (lit "replay_path", .str path),
        (lit "replay_hmac", .str hmac)] := by
  rw [← path_, ← hmac_]
  rfl

theorem closeRowRequest_published (bridge : JumpPtyBridge (Progress Rest)) {ended : ReplayCloseResult}
    {path hmac : Str} (path_ : ended.path = path) (hmac_ : ended.hmacHex = hmac) :
    (bridge.closeRowRequest .CLOSED now error (some ended)).replayPath = path ∧
      (bridge.closeRowRequest .CLOSED now error (some ended)).replayHmac = some hmac := by
  rw [← path_, ← hmac_]
  exact ⟨rfl, rfl⟩

theorem won_tells (hexadecimal : integrity.Hexadecimal)
    (won : Won integrity setup jump serial status result state)
    (rowed : Rowed setup ((setup.bridge jump).closeRowRequest status now error result) state)
    (asked : state.channelAsked = true) :
    Tells integrity setup jump ((setup.bridge jump).closeAudit status now error result)
      (note ((setup.bridge jump).closeAudit status now error result) state) where
  actor := rfl
  agent := rfl
  session := rfl
  node := rfl
  stopped := won.stopped
  asked _ := asked
  told := by
    have told := won.told
    cases result with
    | some ended =>
        obtain ⟨rfl, lines, published, moved, path, hmac⟩ := told
        obtain ⟨bytes, file, verifies⟩ := verify_digest hexadecimal lines
        refine .inl ⟨rfl, lines, bytes, integrity.digest lines, published, moved, file,
          closeAudit_published _ path hmac, verifies, fun stored => ?_⟩
        obtain ⟨row, columns⟩ := rowed stored
        have named := @closeRowRequest_published _ now error (setup.bridge jump) _ _ _ path hmac
        refine ⟨row, columns.trans ?_⟩
        rw [named.1, named.2]
        rfl
    | none =>
        obtain ⟨failed, unpublished⟩ := told
        refine .inr ⟨rfl, unpublished, status, JumpPtyBridge.errorText status error, failed, rfl, ?_⟩
        intro stored
        obtain ⟨row, columns⟩ := rowed stored
        refine ⟨row, ?_, ?_, fun _ => ?_⟩
        · exact congrArg RowColumns.replayPath columns
        · exact congrArg RowColumns.replayHmac columns
        · exact congrArg RowColumns.endedAt columns

/-- What is left when a task has ended. -/
def Done (integrity : Integrity) (setup : SessionSetup Rest) (serial : Nat) (outcome : Except Exc Unit)
    (world : TrailWorld Rest) : Prop :=
  Trailed integrity setup world ∧ Post integrity setup (.call serial) outcome world

theorem done_error {fault : Exc} (trailed : Trailed integrity setup state) :
    Done integrity setup serial (.error fault) state := ⟨trailed, nofun⟩

theorem audit_runs (hexadecimal : integrity.Hexadecimal)
    (won : Won integrity setup jump serial status result state)
    (rowed : Rowed setup ((setup.bridge jump).closeRowRequest status now error result) state)
    (asked : state.channelAsked = true) :
    Runs integrity setup (.call serial) (Coro.onlyIf setup.audited
        (waitFor (.writeAudit ((setup.bridge jump).closeAudit status now error result))))
      (Done integrity setup serial) state := by
  refine Coro.wp_onlyIf (fun _ => call_owned won.trailed ?_) fun silent => ⟨won.trailed, ?_⟩
  · intro answer resumed after relied still given
    obtain ⟨won, same⟩ := won.stays relied still
    have tells := won_tells hexadecimal won (fun stored => by
      rw [same.row, same.columns]
      exact rowed stored) (same.asked.trans asked)
    have noted : Trailed integrity setup
        (note ((setup.bridge jump).closeAudit status now error result) resumed) := by
      have base := won.trailed
      have asks : resumed.rest.closers ≠ [] := fun empty => by simpa [empty] using won.first
      exact {
        unbridged := base.unbridged
        closing := base.closing
        truthful := .started jump resumed.rest.trail [_] won.begun rfl won.begins
          (by simpa using tells) (.inl (Nat.le_refl 1))
        unclosed := base.unclosed
        closed := base.closed
        recording := base.recording
        digest := base.digest
        bridge := fun _ _ _ empty => absurd empty asks }
    rcases given with same | ⟨⟨fault, failed⟩, same⟩
    · rw [same]
      refine ⟨won.owes rfl rfl rfl, noted, ?_⟩
      exact fun _ _ _ => ⟨jump, resumed.rest.trail, _, won.begun, rfl, won.begins, tells⟩
    · rw [same, failed]
      exact ⟨won.owes rfl rfl rfl, done_error won.trailed⟩
  · intro _ audited
    rw [silent] at audited
    cases audited

theorem endSession_runs (hexadecimal : integrity.Hexadecimal)
    (won : Won integrity setup jump serial status result state) (row : state.row = .OPEN) :
    Runs integrity setup (.call serial) ((setup.bridge jump).endSession status now error result)
      (Done integrity setup serial) state := by
  have stores : Runs integrity setup (.call serial) (Coro.onlyIf setup.stored
      (waitFor (.closeRow ((setup.bridge jump).closeRowRequest status now error result))))
      (Coro.either (fun _ after => Won integrity setup jump serial status result after ∧
        Rowed setup ((setup.bridge jump).closeRowRequest status now error result) after)
        fun _ after => Trailed integrity setup after) state := by
    refine Coro.wp_onlyIf (fun _ => call_owned won.trailed ?_) fun unstored => ⟨won, ?_⟩
    · intro answer resumed after relied still given
      obtain ⟨won, same⟩ := won.stays relied still
      have updated := won.closeRow ((setup.bridge jump).closeRowRequest status now error result)
      have owes : Owes setup (.call serial) resumed
          (resumed.closeRow ((setup.bridge jump).closeRowRequest status now error result)) := by
        rw [JumpWorld.closeRow_same]
        exact won.owes rfl rfl rfl
      rcases given with changed | ⟨⟨fault, failed⟩, changed⟩
      · rw [changed]
        refine ⟨owes, ?_⟩
        cases answer with
        | error fault => exact updated.trailed
        | ok _ =>
            refine ⟨updated, fun _ => ⟨?_, JumpWorld.closeRow_columns _ _ (same.row.trans row)⟩⟩
            rw [JumpWorld.closeRow_row, if_pos (same.row.trans row)]
      · rw [changed, failed]
        exact ⟨.refl setup _ resumed, won.trailed⟩
    · intro stored
      rw [unstored] at stored
      cases stored
  refine Coro.wp_bind (Coro.wp_mono ?_ stores)
  rintro (fault | _) written kept
  · exact done_error kept
  obtain ⟨won, rowed⟩ := kept
  -- the channel is asked to close, and then the end is written
  have asks : Runs integrity setup (.call serial)
      ((setup.bridge jump).tunnelChannel.closeSession (setup.bridge jump).startedJump.channelId)
      (Coro.either (fun _ after => Won integrity setup jump serial status result after ∧
        Rowed setup ((setup.bridge jump).closeRowRequest status now error result) after ∧
        after.channelAsked = true) fun _ after => Trailed integrity setup after) written := by
    have asked : Won integrity setup jump serial status result { written with
        channelAsked := true
        rest := (setup.bridge jump).tunnelChannel.closing jump.channelId written.rest } :=
      ⟨⟨won.begun, won.bridged⟩, won.first, won.closed, won.begins, won.stopped, won.digest, won.told⟩
    refine Coro.wp_bind (update_owned (won.owes rfl rfl rfl) (call_owned asked.trailed ?_))
    intro answer resumed after relied still given
    rw [show after = resumed from given]
    obtain ⟨won, same⟩ := asked.stays relied still
    refine ⟨.refl setup _ resumed, ?_⟩
    cases answer with
    | error fault => exact still
    | ok _ =>
        refine ⟨won, fun stored => ?_, same.asked⟩
        rw [same.row, same.columns]
        exact rowed stored
  refine Coro.wp_bind (Coro.wp_mono ?_ asks)
  rintro (fault | _) closed kept
  · exact done_error kept
  · exact audit_runs hexadecimal kept.1 kept.2.1 kept.2.2

/-! The recording ends. -/
theorem close_moved {faults : ReplayFaults} {recorder : ReplayRecorder} {ended : ReplayCloseResult}
    (returned : (recorder.close faults now).1 = .ok ended) : (recorder.close faults now).2.temp = none := by
  have was := (ReplayRecorder.close_published returned).1
  unfold ReplayRecorder.close ReplayRecorder.closeFile at returned ⊢
  revert returned
  cases recorder.fileClosed <;> cases faults.flush <;> cases faults.close <;>
    cases faults.replace <;> cases faults.read <;> simp [was]

theorem endRecording_recording {faults : ReplayFaults} {recorder : ReplayRecorder}
    (recording : recorder.closed = false → recorder.temp ≠ none)
    (open_ : (JumpPtyBridge.endRecording status now faults recorder).2.closed = false) :
    (JumpPtyBridge.endRecording status now faults recorder).2.temp ≠ none := by
  cases status with
  | OPEN => exact recording open_
  | CLOSED => exact (SessionRows.close_recording open_).elim
  | FAILED => exact (SessionRows.fail_recording open_).elim
  | TERMINATED => exact (SessionRows.fail_recording open_).elim

theorem fail_stops {faults : ReplayFaults} {recorder : ReplayRecorder} :
    (recorder.fail faults).2.closed = true := by
  by_contra open_
  exact SessionRows.fail_recording (Bool.eq_false_of_not_eq_true open_)

theorem endRecording_recorded {faults : ReplayFaults} {recorder : ReplayRecorder}
    (recording : recorder.closed = false → recorder.temp ≠ none) (unpublished : recorder.published = none)
    (digest : recorder.digest = integrity.digest)
    (ended : (JumpPtyBridge.endRecording status now faults recorder).1 = .ok result) :
    (JumpPtyBridge.endRecording status now faults recorder).2.closed = true ∧
      Recorded integrity status (JumpPtyBridge.endRecording status now faults recorder).2 result := by
  have fails : ∀ {given : SessionStatus}, given = .FAILED ∨ given = .TERMINATED →
      ((recorder.fail faults).1.map fun _ => (none : Option ReplayCloseResult)) = .ok result →
      (recorder.fail faults).2.closed = true ∧
        Recorded integrity given (recorder.fail faults).2 result := by
    intro given failed ended
    cases returned : (recorder.fail faults).1 with
    | error fault =>
        rw [returned] at ended
        cases ended
    | ok _ =>
        rw [returned] at ended
        cases ended
        exact ⟨fail_stops, failed, fail_published.trans unpublished⟩
  cases status with
  | OPEN => cases ended
  | FAILED => exact fails (.inl rfl) ended
  | TERMINATED => exact fails (.inr rfl) ended
  | CLOSED =>
      change ((recorder.close faults now).1.map some) = .ok result at ended
      cases returned : (recorder.close faults now).1 with
      | error fault =>
          rw [returned] at ended
          cases ended
      | ok published =>
          rw [returned] at ended
          cases ended
          obtain ⟨was, stopped, moves, path, hmac⟩ := ReplayRecorder.close_published returned
          obtain ⟨lines, temp⟩ := Option.ne_none_iff_exists'.mp (recording was)
          have kept : recorder.Continues (recorder.close faults now).2 := ReplayRecorder.close_continues
          refine ⟨stopped, rfl, lines, moves.trans temp, close_moved returned, path.trans kept.path.symm, ?_⟩
          rw [hmac, temp, digest]
          rfl

/-- What the first call that closes finds. -/
structure Closer (integrity : Integrity) (setup : SessionSetup Rest) (jump : StartedJump) (serial : Nat)
    (world : TrailWorld Rest) : Prop extends Attached jump world where
  first : world.rest.closers.head? = some serial
  opened : world.bridgeClosed = false
  begins : Begins setup jump world.rest.trail
  row : world.row = .OPEN
  unpublished : world.recorder.published = none
  recording : world.recorder.closed = false → world.recorder.temp ≠ none
  digest : world.recorder.digest = integrity.digest

theorem close_runs (hexadecimal : integrity.Hexadecimal) (closer : Closer integrity setup jump serial state) :
    Runs integrity setup (.call serial) ((setup.bridge jump).close status now error)
      (Done integrity setup serial) state := by
  have holds : Holds (.call serial) state := closer.first
  rcases beginClose_cases status now state with ⟨impossible, -⟩ | ⟨-, begun⟩
  · exact absurd (closer.opened.symm.trans impossible) Bool.false_ne_true
  have attached : Attached jump (JumpPtyBridge.beginClose status now state).2 := by
    rw [begun]
    exact ⟨closer.begun, closer.bridged⟩
  have kept := (endRecording_continues status now state.faults state.recorder).digest.trans closer.digest
  refine Coro.wp_bind (change_owned ?_ ?_)
  · apply closer.toAttached.ordered.owes holds <;> rw [begun]
  cases ended : (JumpPtyBridge.endRecording status now state.faults state.recorder).1 with
  | error fault =>
      rw [begun] at attached ⊢
      rw [ended]
      exact done_error (attached.trailed closer.first rfl closer.begins
        (endRecording_recording closer.recording) kept)
  | ok result =>
      obtain ⟨stopped, told⟩ := endRecording_recorded closer.recording closer.unpublished closer.digest ended
      rw [begun] at attached ⊢
      rw [ended]
      exact endSession_runs hexadecimal
        ⟨attached, closer.first, rfl, closer.begins, stopped, kept, told⟩ closer.row

/-- A bridge that was asked to close before only logs the call. -/
theorem close_again (trailed : Trailed integrity setup state) (known : Known jump serial state)
    (asked : state.rest.closers ≠ []) : Runs integrity setup (.call serial)
      ((setup.bridge jump).close status now error) (Done integrity setup serial) state := by
  have was := trailed.closed asked
  rcases beginClose_cases status now state with ⟨-, begun⟩ | ⟨impossible, -⟩
  · have same : Same state (JumpPtyBridge.beginClose status now state).2 := by
      rw [begun]
      exact ⟨rfl, rfl, rfl, rfl, rfl, rfl, rfl⟩
    obtain ⟨owes, still, other⟩ := @Same.keeps _ integrity setup jump (.call serial) serial _ _ same
      (by rw [begun]) (by rw [begun]) ⟨trailed, known⟩
    refine Coro.wp_bind (change_owned owes ?_)
    rw [begun] at still other ⊢
    exact ⟨still, fun _ _ first => absurd first other.other⟩
  · exact absurd (was.symm.trans impossible) (by decide)

theorem closes_program {call : BridgeCall} (closes : Closes call = true)
    (bridge : JumpPtyBridge (Progress Rest)) :
    ∃ status now error, call.program bridge = bridge.close status now error := by
  cases call with
  | close status now error => exact ⟨status, now, error, rfl⟩
  | connectionLost lost now =>
      cases lost with
      | none => exact ⟨.CLOSED, now, none, rfl⟩
      | some error => exact ⟨.FAILED, now, some error, rfl⟩
  | terminate reason now => exact ⟨.TERMINATED, now, some reason, rfl⟩
  | _ => cases closes

/-- The log of who asked is what decides who may write. -/
theorem callBridge_runs (hexadecimal : integrity.Hexadecimal) (call : BridgeCall)
    (trailed : Trailed integrity setup state) (known : Known jump serial state) :
    Runs integrity setup (.call serial) (callBridge setup jump serial call)
      (Done integrity setup serial) state := by
  cases closes : Closes call with
  | false =>
      refine Coro.wp_bind (Coro.wp_onlyIf (fun asks => ?_) fun _ => ?_)
      · rw [closes] at asks
        cases asks
      · refine Coro.wp_mono ?_ (keeps_call call closes state ⟨trailed, known⟩)
        rintro outcome after ⟨still, other⟩
        exact ⟨still, fun _ _ first => absurd first other.other⟩
  | true =>
      obtain ⟨status, now, error, same⟩ := closes_program closes (setup.bridge jump)
      refine Coro.wp_bind (Coro.wp_onlyIf (fun _ => ?_) fun silent => ?_)
      · have pushed : ∀ first, state.rest.closers.head? = some first →
            (state.rest.closers ++ [serial]).head? = some first := by
          intro first there
          rw [List.head?_append, there, Option.some_or]
        apply update_owned
        · refine known.toAttached.owes rfl rfl pushed ?_ ?_
          · exact fun _ _ _ => ⟨rfl, rfl, rfl, rfl, rfl, rfl, rfl⟩
          · intro other apart unasked
            show (state.rest.closers ++ [serial]).head? ≠ some other
            rw [List.head?_append]
            cases first : state.rest.closers.head? with
            | none => exact fun impossible => apart (by rw [Option.some.inj impossible])
            | some another => exact fun impossible => unasked (first.trans impossible)
        dsimp only
        rw [same]
        by_cases asked : state.rest.closers = []
        · -- the first to ask
          obtain ⟨begins, row⟩ := trailed.bridge jump known.begun known.bridged asked
          obtain ⟨opened, unpublished⟩ := trailed.unclosed asked
          apply close_runs hexadecimal
          refine ⟨⟨known.begun, known.bridged⟩, ?_, opened, begins, row, unpublished, trailed.recording,
            trailed.digest⟩
          show (state.rest.closers ++ [serial]).head? = some serial
          rw [asked]
          rfl
        · have kept : ∀ first, (state.rest.closers ++ [serial]).head? = some first →
              state.rest.closers.head? = some first := by
            intro first there
            rw [List.head?_append] at there
            cases was : state.rest.closers.head? with
            | none => exact absurd (List.head?_eq_none_iff.mp was) asked
            | some another => exact (was ▸ there : _)
          have longer : state.rest.closers ++ [serial] ≠ [] := by simp
          have same : Same state { state with rest := { state.rest with
              closers := state.rest.closers ++ [serial] } } := ⟨rfl, rfl, rfl, rfl, rfl, rfl, rfl⟩
          apply close_again
          · exact {
              unbridged := trailed.unbridged
              closing := fun _ => known.bridged
              truthful := same.truthful trailed.truthful
              unclosed := fun empty => absurd empty longer
              closed := fun _ => trailed.closed asked
              recording := trailed.recording
              digest := trailed.digest
              bridge := fun _ _ _ empty => absurd empty longer }
          · exact ⟨⟨known.begun, known.bridged⟩, fun first => known.other (kept serial first)⟩
          · exact longer
      · rw [closes] at silent
        cases silent
end Closing

end VibeConnect.SessionTrail
