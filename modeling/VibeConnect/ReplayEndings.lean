import VibeConnect.Python.Statements
import VibeConnect.Replay

/-! How a recorder ends. Here its file object has a buffer that a flush or a close
writes out, and the failures that reach the audit sink are noted; forgetting both
gives the recorder of `Replay`. Any file operation of any call can raise an
`OSError`. -/
namespace VibeConnect.ReplayEndings
open Python.Text Python.Values Python.Statements Models Replay

/-- The file operations of one call that raise, and the text of such an error. -/
structure DiskFaults where
  error : Str
  write : Bool
  flush : Bool
  fsync : Bool
  fileClose : Bool
  replace : Bool

def DiskFaults.none : DiskFaults := ⟨[], false, false, false, false, false⟩

/-- The audit record of a failed replay. -/
structure WriteFailed where
  replayPath : Str
  error : Str

structure RecorderState where
  closed : Bool
  fileClosed : Bool
  buffered : List ReplayLine
  temp : Option (List ReplayLine)
  published : Option (List ReplayLine)
  failures : List WriteFailed

abbrev Recording := Block RecorderState Exc

/-- A recorder's path and key, and its header already written. -/
structure RecorderConfig where
  path : Str
  digest : List ReplayLine → Str
  audited : Bool
  header : ReplayLine

def RecorderConfig.started (config : RecorderConfig) : RecorderState :=
  ⟨false, false, [config.header], some [], none, []⟩

/-! The file object. -/
section File
variable (faults : DiskFaults)

def raisesIf (fault : Bool) (otherwise : RecorderState → RecorderState) : Recording Unit :=
  if fault = true then throw .osError else modify otherwise

/-- What is buffered is written out. -/
def RecorderState.flushed (state : RecorderState) : RecorderState :=
  { state with temp := state.temp.map (· ++ state.buffered), buffered := [] }

def fileWrite (line : ReplayLine) : Recording Unit :=
  raisesIf faults.write fun state => { state with buffered := state.buffered ++ [line] }

def fileFlush : Recording Unit := raisesIf faults.flush RecorderState.flushed

def fileFsync : Recording Unit := raisesIf faults.fsync id

/-- Closing a file writes out what is buffered. -/
def fileClose : Recording Unit :=
  raisesIf faults.fileClose fun state => { state.flushed with fileClosed := true }

def osReplace : Recording Unit :=
  raisesIf faults.replace fun state => { state with published := state.temp, temp := none }
end File

section Methods
variable (config : RecorderConfig) (faults : DiskFaults)

/-- `_close_file`. -/
def closeFile : Recording Unit := do
  let state ← get
  if state.fileClosed = true then pure () else fileClose faults

/-- The audit event of a failure. -/
def writeReplayEvent (error : Str) : Recording Unit :=
  if config.audited = true then
    modify fun state => { state with failures := state.failures ++ [⟨config.path, error⟩] }
  else pure ()

def fail (error : Str) : Recording Unit := do
  let state ← get
  if state.closed = true then pure ()
  else do
    modify fun state => { state with closed := true }
    closeFile faults
    writeReplayEvent config error
    modify fun state => { state with temp := none }

def close (now : DateTime) : Recording ReplayCloseResult := do
  let state ← get
  if state.closed = true then throw (.replayError "replay is already closed")
  else do
    modify fun state => { state with closed := true }
    fileFlush faults
    fileFsync faults
    closeFile faults
    osReplace faults
    let state ← get
    pure ⟨config.path, config.digest (state.published.getD []), now.asUtc⟩

/-- `_record`. -/
def record (event : ReplayEvent) : Recording Unit := do
  let state ← get
  if state.closed = true then throw (.replayError "replay is already closed")
  else tryCatch (fileWrite faults (.event event)) fun raised =>
    if raised.isOSError = true then do
      fail config faults faults.error
      throw (.replayError "replay write failed")
    else throw raised
end Methods

inductive RecorderCall where
  | record (event : ReplayEvent)
  | fail (error : Str)
  | close (now : DateTime)

/-- A call with its outcome; a close returns a result. -/
structure Performed where
  call : RecorderCall
  outcome : Except Exc (Option ReplayCloseResult)

section Runs
variable (config : RecorderConfig)

def RecorderCall.body (faults : DiskFaults) : RecorderCall → Recording (Option ReplayCloseResult)
  | .record event => do
      ReplayEndings.record config faults event
      pure none
  | .fail error => do
      ReplayEndings.fail config faults error
      pure none
  | .close now => do
      let result ← ReplayEndings.close config faults now
      pure (some result)

/-- The calls of a run, each with the operations that raise in it. -/
def perform : List (RecorderCall × DiskFaults) → RecorderState → List Performed × RecorderState
  | [], state => ([], state)
  | (call, faults) :: rest, state =>
      let ended := ends (call.body config faults) state
      let run := perform rest ended.2
      (⟨call, ended.1⟩ :: run.1, run.2)

/-- The line that a call recorded. -/
def Performed.line : Performed → Option ReplayLine
  | ⟨.record event, .ok _⟩ => some (.event event)
  | _ => none

/-! What each method does, said once. -/
section Specs
variable {config : RecorderConfig} {faults : DiskFaults} {state : RecorderState}

/-- A recorder that is not closed: its file is open, and nothing is published. -/
structure Open (lines : List ReplayLine) (state : RecorderState) : Prop where
  closed : state.closed = false
  fileClosed : state.fileClosed = false
  buffered : state.buffered = lines
  temp : state.temp = some []
  published : state.published = none
  failures : state.failures = []

theorem fail_closed (error : Str) (was : state.closed = true) :
    ends (fail config faults error) state = (.ok (), state) := by
  unfold fail
  rw [ends_get, if_pos was, ends_pure]

/-- The recorder after a failure that worked. -/
def failed (config : RecorderConfig) (error : Str) (state : RecorderState) : RecorderState :=
  { state.flushed with
    closed := true
    fileClosed := true
    temp := none
    failures := if config.audited = true then [⟨config.path, error⟩] else [] }

theorem fail_open {lines : List ReplayLine} (error : Str) (was : Open lines state) :
    (faults.fileClose = true ∧ ends (fail config faults error) state =
        (.error .osError, { state with closed := true })) ∨
      (faults.fileClose = false ∧
        ends (fail config faults error) state = (.ok (), failed config error state)) := by
  unfold fail failed closeFile fileClose writeReplayEvent raisesIf
  cases faults.fileClose <;> cases config.audited <;>
    simp [ends_bind, was.closed, was.fileClosed, was.failures, RecorderState.flushed]

theorem close_closed (now : DateTime) (was : state.closed = true) :
    ends (close config faults now) state =
      (.error (.replayError "replay is already closed"), state) := by
  unfold close
  rw [ends_get, if_pos was, ends_throw]
/-- A close of an open recorder publishes every line, or it raises with nothing
published and its temporary file still there. -/
theorem close_open {lines : List ReplayLine} (now : DateTime) (was : Open lines state) :
    ((faults.flush = false ∧ faults.fsync = false ∧ faults.fileClose = false ∧
        faults.replace = false) ∧ ∃ result after, ends (close config faults now) state =
          (.ok result, after) ∧ after.closed = true ∧ after.published = some lines ∧ after.temp = none) ∨
      (¬(faults.flush = false ∧ faults.fsync = false ∧ faults.fileClose = false ∧
        faults.replace = false) ∧ ∃ after, ends (close config faults now) state =
          (.error .osError, after) ∧ after.closed = true ∧ after.published = none ∧
            after.temp ≠ none) := by
  unfold close closeFile fileFlush fileFsync fileClose osReplace raisesIf
  cases faults.flush <;> cases faults.fsync <;> cases faults.fileClose <;> cases faults.replace <;>
    simp [ends_bind, was.closed, was.fileClosed, was.temp, was.buffered, was.published,
      RecorderState.flushed, Except.map]

theorem record_closed (event : ReplayEvent) (was : state.closed = true) :
    ends (record config faults event) state =
      (.error (.replayError "replay is already closed"), state) := by
  unfold record
  rw [ends_get, if_pos was, ends_throw]

/-- A record of an open recorder adds its line, or it fails the recorder; the file
that cannot be closed lets its own error out. -/
theorem record_open {lines : List ReplayLine} (event : ReplayEvent) (was : Open lines state) :
    (faults.write = false ∧ ends (record config faults event) state =
        (.ok (), { state with buffered := state.buffered ++ [.event event] })) ∨
      (faults.write = true ∧ faults.fileClose = true ∧ ends (record config faults event) state =
        (.error .osError, { state with closed := true })) ∨
      (faults.write = true ∧ faults.fileClose = false ∧ ends (record config faults event) state =
        (.error (.replayError "replay write failed"), failed config faults.error state)) := by
  unfold record
  rw [ends_get, if_neg (by simp [was.closed]), ends_try]
  unfold fileWrite raisesIf
  cases faults.write with
  | false => exact .inl ⟨rfl, rfl⟩
  | true =>
      right
      rw [if_pos rfl, ends_throw]
      have handled : Exc.osError.isOSError = true := rfl
      dsimp only
      rw [if_pos handled]
      rcases fail_open faults.error was with ⟨unclosable, ended⟩ | ⟨closable, ended⟩
      · exact .inl ⟨rfl, unclosable, ends_raised ended⟩
      · right
        refine ⟨rfl, closable, ?_⟩
        rw [ends_after ended, ends_throw]
theorem Open.recorded {lines : List ReplayLine} (event : ReplayEvent) (was : Open lines state) :
    Open (lines ++ [.event event]) { state with buffered := state.buffered ++ [.event event] } :=
  ⟨was.closed, was.fileClosed, by rw [was.buffered], was.temp, was.published, was.failures⟩

/-- A failure that worked has removed the file and is reported once. -/
theorem failed_removed {lines : List ReplayLine} (audited : config.audited = true) (error : Str)
    (was : Open lines state) : (failed config error state).closed = true ∧
      (failed config error state).published = none ∧ (failed config error state).temp = none ∧
      (failed config error state).failures.length = 1 := by
  unfold failed
  simp [RecorderState.flushed, was.published, audited]
end Specs

/-- Published whole, after what was written before the run, or removed with one
failure reported; and a record that fails raises `ReplayError`. -/
structure EndsClean (written : List ReplayLine) (run : List Performed × RecorderState) : Prop where
  raises : ∀ event raised, ⟨.record event, .error raised⟩ ∈ run.1 →
    ∃ message, raised = .replayError message
  ended : run.2.closed = true →
    ((∃ now result, ⟨.close now, .ok (some result)⟩ ∈ run.1) ∧
        run.2.published = some (written ++ run.1.filterMap Performed.line) ∧ run.2.temp = none) ∨
      (run.2.published = none ∧ run.2.temp = none ∧ run.2.failures.length = 1)

/-- The call that ends the recording is not hindered by the disk. -/
def Unhindered : List (RecorderCall × DiskFaults) → Prop
  | [] => True
  | (.record _, faults) :: rest =>
      if faults.write = true then faults.fileClose = false else Unhindered rest
  | (.fail _, faults) :: _ => faults.fileClose = false
  | (.close _, faults) :: _ => faults.flush = false ∧ faults.fsync = false ∧
      faults.fileClose = false ∧ faults.replace = false
variable {config} {state : RecorderState}

/-- A closed recorder stays as it is, and refuses what it is called for. -/
theorem body_closed (call : RecorderCall) (faults : DiskFaults) (was : state.closed = true) :
    (ends (call.body config faults) state).2 = state ∧
      Performed.line ⟨call, (ends (call.body config faults) state).1⟩ = none ∧
      (∀ event raised, call = .record event →
        (ends (call.body config faults) state).1 = .error raised →
          ∃ message, raised = .replayError message) := by
  unfold RecorderCall.body
  cases call with
  | record event =>
      rw [ends_raised (record_closed event was)]
      refine ⟨rfl, rfl, fun _ raised _ failed => ?_⟩
      cases failed
      exact ⟨_, rfl⟩
  | fail error =>
      rw [ends_after (fail_closed error was), ends_pure]
      exact ⟨rfl, rfl, fun _ _ impossible => by cases impossible⟩
  | close now =>
      rw [ends_raised (close_closed now was)]
      exact ⟨rfl, rfl, fun _ _ impossible => by cases impossible⟩

theorem perform_closed (calls : List (RecorderCall × DiskFaults)) (was : state.closed = true) :
    (perform config calls state).2 = state ∧
      (perform config calls state).1.filterMap Performed.line = [] ∧
      ∀ event raised, ⟨.record event, .error raised⟩ ∈ (perform config calls state).1 →
        ∃ message, raised = .replayError message := by
  induction calls with
  | nil =>
      refine ⟨rfl, rfl, fun _ _ impossible => ?_⟩
      cases impossible
  | cons first rest ih =>
      obtain ⟨call, faults⟩ := first
      obtain ⟨same, silent, refused⟩ : (ends (call.body config faults) state).2 = state ∧ _ ∧ _ :=
        body_closed call faults was
      unfold perform
      dsimp only
      rw [same]
      refine ⟨ih.1, ?_, fun event raised member => ?_⟩
      · rw [List.filterMap_cons_none silent]
        exact ih.2.1
      · rcases List.mem_cons.mp member with here | later
        · obtain ⟨named, failed⟩ := Performed.mk.inj here
          exact refused event raised named.symm failed.symm
        · exact ih.2.2 event raised later

section Ended
variable {call : RecorderCall} {outcome : Except Exc (Option ReplayCloseResult)}
  {lines : List ReplayLine} {rest : List (RecorderCall × DiskFaults)}

/-- What a run raises whose first call closed the recorder. -/
theorem raises_after (was : state.closed = true)
    (refused : ∀ event raised, call = .record event → outcome = .error raised →
      ∃ message, raised = .replayError message) (event : ReplayEvent) (raised : Exc)
    (member : ⟨.record event, .error raised⟩ ∈ (⟨call, outcome⟩ : Performed) ::
      (perform config rest state).1) : ∃ message, raised = .replayError message := by
  rcases List.mem_cons.mp member with here | later
  · obtain ⟨named, failed⟩ := Performed.mk.inj here
    exact refused event raised named.symm failed.symm
  · exact (perform_closed rest was).2.2 event raised later

theorem clean_removed (was : state.closed = true)
    (refused : ∀ event raised, call = .record event → outcome = .error raised →
      ∃ message, raised = .replayError message)
    (published : state.published = none) (temp : state.temp = none)
    (reported : state.failures.length = 1) :
    EndsClean lines (⟨call, outcome⟩ :: (perform config rest state).1,
      (perform config rest state).2) := by
  constructor
  · exact raises_after was refused
  · intro _
    right
    dsimp only
    rw [(perform_closed rest was).1]
    exact ⟨published, temp, reported⟩

theorem clean_published {now : DateTime} {result : ReplayCloseResult} (was : state.closed = true)
    (published : state.published = some lines) (temp : state.temp = none) :
    EndsClean lines (⟨.close now, .ok (some result)⟩ :: (perform config rest state).1,
      (perform config rest state).2) := by
  obtain ⟨same, unwritten, -⟩ : (perform config rest state).2 = state ∧ _ ∧ _ :=
    perform_closed rest was
  constructor
  · exact raises_after was fun _ _ impossible => by cases impossible
  · intro _
    left
    refine ⟨⟨now, result, List.mem_cons_self⟩, ?_, ?_⟩
    · dsimp only
      rw [same, published, List.filterMap_cons_none rfl, unwritten, List.append_nil]
    · dsimp only
      rw [same, temp]

/-- A line that was recorded counts as written before the rest. -/
theorem clean_recorded {event : ReplayEvent} {run : List Performed × RecorderState} :
    EndsClean lines (⟨.record event, .ok none⟩ :: run.1, run.2) ↔
      EndsClean (lines ++ [.event event]) run := by
  have line : Performed.line ⟨.record event, .ok none⟩ = some (.event event) := rfl
  have written : lines ++ (⟨.record event, .ok none⟩ :: run.1).filterMap Performed.line =
      lines ++ [.event event] ++ run.1.filterMap Performed.line := by
    rw [List.filterMap_cons_some line, List.append_assoc]
    rfl
  constructor
  · rintro ⟨raises, ended⟩
    refine ⟨fun other raised member => raises other raised (List.mem_cons_of_mem _ member),
      fun closed => ?_⟩
    rcases ended closed with ⟨⟨now, result, member⟩, published, temp⟩ | removed
    · rcases List.mem_cons.mp member with impossible | later
      · cases impossible
      · exact .inl ⟨⟨now, result, later⟩, published.trans (congrArg some written), temp⟩
    · exact .inr removed
  · rintro ⟨raises, ended⟩
    refine ⟨fun other raised member => ?_, fun closed => ?_⟩
    · rcases List.mem_cons.mp member with impossible | later
      · cases impossible
      · exact raises other raised later
    · rcases ended closed with ⟨⟨now, result, member⟩, published, temp⟩ | removed
      · exact .inl ⟨⟨now, result, List.mem_cons_of_mem _ member⟩,
          published.trans (congrArg some written.symm), temp⟩
      · exact .inr removed

/-- A closed recorder with nothing published and a temporary file is not clean. -/
theorem unclean_left (was : state.closed = true) (published : state.published = none)
    (temp : state.temp ≠ none) : ¬EndsClean lines (⟨call, outcome⟩ :: (perform config rest state).1,
      (perform config rest state).2) := by
  have same : (perform config rest state).2 = state := (perform_closed rest was).1
  rintro ⟨-, ended⟩
  dsimp only at ended
  rw [same] at ended
  rcases ended was with ⟨-, whole, -⟩ | ⟨-, gone, -⟩
  · cases published.symm.trans whole
  · exact temp gone
end Ended

/-- A run ends clean exactly if the call that ends it is not hindered. -/
theorem perform_clean (audited : config.audited = true) (calls : List (RecorderCall × DiskFaults))
    {lines : List ReplayLine} (was : Open lines state) :
    EndsClean lines (perform config calls state) ↔ Unhindered calls := by
  induction calls generalizing lines state with
  | nil =>
      apply iff_of_true
      · refine ⟨fun _ _ impossible => ?_, fun closed => ?_⟩
        · cases impossible
        · cases was.closed.symm.trans closed
      · trivial
  | cons first rest ih =>
      obtain ⟨call, faults⟩ := first
      unfold perform
      dsimp only
      cases call with
      | record event =>
          unfold RecorderCall.body
          dsimp only
          rcases record_open event was with
            ⟨written, ended⟩ | ⟨unwritten, unclosable, ended⟩ | ⟨unwritten, closable, ended⟩
          · rw [ends_after ended, ends_pure]
            dsimp only
            rw [clean_recorded, ih (was.recorded event)]
            simp [Unhindered, written]
          · rw [ends_raised ended]
            apply iff_of_false
            · rintro ⟨raises, -⟩
              obtain ⟨message, impossible⟩ := raises event .osError List.mem_cons_self
              cases impossible
            · simp [Unhindered, unwritten, unclosable]
          · rw [ends_raised ended]
            obtain ⟨closed, published, temp, reported⟩ := failed_removed audited faults.error was
            apply iff_of_true
            · refine clean_removed closed (fun _ _ _ raises => ?_) published temp reported
              cases raises
              exact ⟨_, rfl⟩
            · simp [Unhindered, unwritten, closable]
      | fail error =>
          unfold RecorderCall.body
          dsimp only
          rcases fail_open error was with ⟨unclosable, ended⟩ | ⟨closable, ended⟩
          · rw [ends_raised ended]
            apply iff_of_false
            · have closed : ({ state with closed := true } : RecorderState).closed = true := rfl
              have present : state.temp ≠ none := by
                rw [was.temp]
                exact Option.some_ne_none _
              exact unclean_left closed was.published present
            · simp [Unhindered, unclosable]
          · rw [ends_after ended, ends_pure]
            obtain ⟨closed, published, temp, reported⟩ := failed_removed audited error was
            apply iff_of_true
            · refine clean_removed closed (fun _ _ impossible => ?_) published temp reported
              cases impossible
            · exact closable
      | close now =>
          unfold RecorderCall.body
          dsimp only
          rcases close_open now was with
            ⟨works, result, after, ended, closed, published, temp⟩ |
            ⟨hindered, after, ended, closed, published, temp⟩
          · rw [ends_after ended, ends_pure]
            exact iff_of_true (clean_published closed published temp) works
          · rw [ends_raised ended]
            exact iff_of_false (unclean_left closed published temp) hindered
end Runs

theorem started_open (config : RecorderConfig) : Open [config.header] config.started :=
  ⟨rfl, rfl, rfl, rfl, rfl, rfl⟩

/-- A recorder with an audit sink ends in one of the two clean states exactly if the
call that ends it is not hindered by the disk. -/
theorem recorder_ends_clean (config : RecorderConfig) (audited : config.audited = true)
    (calls : List (RecorderCall × DiskFaults)) :
    EndsClean [config.header] (perform config calls config.started) ↔ Unhindered calls :=
  perform_clean audited calls (started_open config)

/-! A full disk. -/
def configOne : RecorderConfig :=
  ⟨lit "/r/s.cast", fun _ => [], true, .header (lit "n") 80 24 0⟩

theorem recorder_ends_clean_closed : EndsClean [configOne.header]
    (perform configOne [(.record ⟨0, lit "o", lit "hi"⟩, .none), (.close ⟨0, some 0⟩, .none)]
      configOne.started) :=
  (recorder_ends_clean configOne rfl _).mpr (by simp [Unhindered, DiskFaults.none])

/-- A close that cannot flush leaves the temporary file and reports nothing. -/
theorem full_disk_unclean : ¬EndsClean [configOne.header]
    (perform configOne [(.close ⟨0, some 0⟩, { DiskFaults.none with flush := true })]
      configOne.started) := by
  intro clean
  rcases clean.ended rfl with ⟨-, published, -⟩ | ⟨-, temp, -⟩
  · cases published
  · cases temp

/-! Without the buffer and the reports this is the recorder of `Replay`. -/
section Refinement
variable (config : RecorderConfig) (faults : DiskFaults) (state : RecorderState)

/-- What `Replay` keeps of a recorder: the file has what the buffer holds. -/
def plain (config : RecorderConfig) (state : RecorderState) : ReplayRecorder :=
  ⟨config.path, config.digest, config.audited, state.closed, state.fileClosed,
    state.temp.map (· ++ state.buffered), state.published⟩

def raisedIf (fault : Bool) : Option Exc := if fault = true then some .osError else none

def plainFaults (faults : DiskFaults) : ReplayFaults where
  write := raisedIf faults.write
  flush := raisedIf (faults.flush || faults.fsync)
  close := raisedIf faults.fileClose
  replace := raisedIf faults.replace
  read := none
  unlink := none
  audit := none

theorem fail_refined (error : Str) :
    (plain config state).fail (plainFaults faults) =
      ((ends (fail config faults error) state).1, plain config (ends (fail config faults error) state).2) := by
  unfold fail closeFile fileClose writeReplayEvent raisesIf ReplayRecorder.fail ReplayRecorder.closeFile
  unfold plain plainFaults raisedIf
  rcases state with ⟨closed, fileClosed, buffered, temp, published, failures⟩
  cases closed <;> cases fileClosed <;> cases faults.fileClose <;> cases config.audited <;>
    cases temp <;> simp [ends_bind, RecorderState.flushed]
theorem close_refined (now : DateTime) :
    (plain config state).close (plainFaults faults) now =
      ((ends (close config faults now) state).1, plain config (ends (close config faults now) state).2) := by
  unfold close closeFile fileFlush fileFsync fileClose osReplace raisesIf ReplayRecorder.close
    ReplayRecorder.closeFile
  unfold plain plainFaults raisedIf
  rcases state with ⟨closed, fileClosed, buffered, temp, published, failures⟩
  cases closed <;> cases fileClosed <;> cases faults.flush <;> cases faults.fsync <;>
    cases faults.fileClose <;> cases faults.replace <;> cases temp <;>
    simp [ends_bind, RecorderState.flushed, Except.map]

theorem record_refined (event : ReplayEvent) :
    (plain config state).record (plainFaults faults) event =
      ((ends (record config faults event) state).1, plain config (ends (record config faults event) state).2) := by
  have failing := fail_refined config faults state faults.error
  have written : (plainFaults faults).write = raisedIf faults.write := rfl
  unfold record fileWrite raisesIf ReplayRecorder.record
  rw [written, failing, ends_get]
  unfold raisedIf
  by_cases was : state.closed = true
  · rw [if_pos was, if_pos (by exact was), ends_throw]
  rw [if_neg was, if_neg (by exact was), ends_try]
  cases faults.write with
  | false =>
      unfold plain
      cases temp : state.temp <;> simp [temp]
  | true =>
      -- a failing write ends as failing the recorder ends
      simp only [if_true, ends_throw, Exc.isOSError, ends_bind]
      rcases ends (fail config faults faults.error) state with ⟨raised | value, after⟩
      · rfl
      · rfl
end Refinement

end VibeConnect.ReplayEndings
