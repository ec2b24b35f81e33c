import VibeConnect.JumpRuns

/-! What is left of a recording after the session. While the storage works, the
bridge's first close decides: a close to `CLOSED` publishes everything that was
recorded, and every other close removes it before the row is written. -/
namespace VibeConnect.ReplayKept
open Python.Text Python.Values Python.Coroutine Python.Tasks Models JumpCoordinator Replay JumpBridge
open JumpRuns
variable {Rest : Type}

/-- No effect on the storage raises; the replay audit may. -/
structure StorageWorks (faults : ReplayFaults) : Prop where
  write : faults.write = none
  flush : faults.flush = none
  close : faults.close = none
  replace : faults.replace = none
  read : faults.read = none
  unlink : faults.unlink = none

/-- The lines of a file with everything recorded so far. -/
def fileOf (header : ReplayLine) (recorded : List ReplayEvent) : List ReplayLine :=
  header :: recorded.map .event

/-- Everything recorded is in a file of the replay directory, in order. -/
def Kept (world : JumpWorld Rest) : Prop :=
  world.recorded = [] ∨ ∃ lines, (world.recorder.temp = some lines ∨
    world.recorder.published = some lines) ∧ world.recorded.Sublist (eventsOf lines)

/-- How a close to a status leaves the files. -/
def Files (header : ReplayLine) (world : JumpWorld Rest) : SessionStatus → Prop
  | .CLOSED => world.recorder.published = some (fileOf header world.recorded)
  | .FAILED | .TERMINATED => world.recorder.temp = none ∧ world.recorder.published = none
  | .OPEN => False

structure Ended (header : ReplayLine) (status : SessionStatus) (world : JumpWorld Rest) : Prop where
  closed : world.bridgeClosed = true
  first : world.closes.head? = some status
  stopped : world.recorder.closed = true
  files : Files header world status

structure Intact (header : ReplayLine) (world : JumpWorld Rest) : Prop where
  storage : StorageWorks world.faults
  live : world.bridgeClosed = false → world.closes = [] ∧ world.row = .OPEN ∧
    world.recorder.closed = false ∧ world.recorder.published = none ∧
    world.recorder.temp = some (fileOf header world.recorded)
  isOver : world.bridgeClosed = true → ∃ status, world.closes.head? = some status ∧
    (world.row ≠ .OPEN → Ended header status world)

theorem eventsOf_fileOf (command : Str) (width height timestamp : Int) (recorded : List ReplayEvent) :
    eventsOf (fileOf (.header command width height timestamp) recorded) = recorded := by
  induction recorded with
  | nil => rfl
  | cons event rest ih => exact congrArg (List.cons event) ih

section Invariant
variable {header : ReplayLine} {world : JumpWorld Rest}

theorem Ended.stable {status : SessionStatus} {before after : JumpWorld Rest}
    (ended : Ended header status before) (continues : Continues before after) :
    Ended header status after := by
  have recorder := continues.recorder.closed ended.stopped
  obtain ⟨closed, recorded⟩ := continues.closed ended.closed
  refine ⟨closed, continues.head ended.first, by rw [recorder]; exact ended.stopped, ?_⟩
  have files := ended.files
  cases status <;> simp only [Files, recorder, recorded] at files ⊢ <;> exact files

theorem Intact.record (seconds : Int) (stream : String) (payload : Bytes)
    (intact : Intact header world) (was : world.bridgeClosed = false) :
    Intact header (JumpPtyBridge.recordEvent seconds stream payload world).2 := by
  obtain ⟨closes, row, open_, published, temp⟩ := intact.live was
  rcases recordEvent_cases seconds stream payload world with
    ⟨-, -, same⟩ | ⟨_, recorder, same, rfl | ⟨-, failing⟩⟩
  · rw [same]
    refine ⟨intact.storage, fun _ => ⟨closes, row, open_, published, ?_⟩,
      fun impossible => absurd (was.symm.trans impossible) Bool.false_ne_true⟩
    simp [temp, fileOf]
  · rw [same]
    exact intact
  · exact absurd intact.storage.write failing

/-- The first close knows the files it leaves. -/
theorem Intact.begins (status : SessionStatus) (now : DateTime) (intact : Intact header world) :
    Intact header (JumpPtyBridge.beginClose status now world).2 ∧
      ∀ result, (JumpPtyBridge.beginClose status now world).1 = .ok (some result) →
        Ended header status (JumpPtyBridge.beginClose status now world).2 := by
  rcases beginClose_cases status now world with ⟨was, same⟩ | ⟨was, same⟩
  · rw [same]
    obtain ⟨first, head, ended⟩ := intact.isOver was
    have longer : (world.closes ++ [status]).head? = some first := by
      rw [List.head?_append, head]
      rfl
    refine ⟨⟨intact.storage, fun impossible => absurd (impossible.symm.trans was) Bool.false_ne_true,
      fun _ => ⟨first, longer, fun closed => ?_⟩⟩, fun _ impossible => by cases impossible⟩
    have known := ended closed
    exact ⟨known.closed, longer, known.stopped, by cases first <;> exact known.files⟩
  · obtain ⟨closes, row, open_, published, temp⟩ := intact.live was
    rw [same]
    refine ⟨⟨intact.storage, fun impossible => absurd impossible.symm Bool.false_ne_true,
      fun _ => ⟨status, by simp [closes], fun closed => absurd row closed⟩⟩, fun result given => ?_⟩
    have head : (world.closes ++ [status]).head? = some status := by
      rw [closes]
      rfl
    cases status with
    | OPEN => cases given
    | CLOSED =>
        cases returned : (world.recorder.close world.faults now).1 with
        | error fault =>
            rw [JumpPtyBridge.endRecording, returned] at given
            cases given
        | ok result =>
            obtain ⟨-, stopped, publishes, -, -⟩ := ReplayRecorder.close_published returned
            exact ⟨rfl, head, stopped, publishes.trans temp⟩
    | FAILED | TERMINATED =>
        cases returned : (world.recorder.fail world.faults).1 with
        | error fault =>
            rw [JumpPtyBridge.endRecording, returned] at given
            cases given
        | ok _ =>
            obtain ⟨stopped, removed, unpublished⟩ := ReplayRecorder.fail_removed open_ returned
            exact ⟨rfl, head, stopped, removed, unpublished.trans published⟩

theorem Intact.persists (request : CloseRow) (intact : Intact header world)
    {status : SessionStatus} (ended : Ended header status world) :
    Intact header (world.closeRow request) := by
  have later := ended.stable (continues_closeRow request)
  rw [JumpWorld.closeRow_same] at later ⊢
  exact ⟨intact.storage, fun impossible => absurd (impossible.symm.trans ended.closed)
    Bool.false_ne_true, fun _ => ⟨status, ended.first, fun _ => later⟩⟩

theorem intact_upheld (header : ReplayLine) (bridge : JumpPtyBridge Rest) :
    Upheld bridge StorageWorks (Intact header) fun status _ world => Ended header status world where
  blind world asked rest intact := by
    refine ⟨intact.storage, intact.live, fun was => ?_⟩
    obtain ⟨status, first, ended⟩ := intact.isOver was
    exact ⟨status, first, fun closed => (ended closed).stable (continues_rest asked rest)⟩
  storage world faults works intact := by
    refine ⟨works, intact.live, fun was => ?_⟩
    obtain ⟨status, first, ended⟩ := intact.isOver was
    refine ⟨status, first, fun closed => (ended closed).stable ?_⟩
    exact ⟨.refl _, fun _ => ⟨rfl, rfl⟩, List.prefix_rfl, fun closed => ⟨closed, rfl⟩⟩
  record _ seconds stream payload intact was := intact.record seconds stream payload was
  begins _ status now intact := intact.begins status now
  stable _ _ _ _ ended continues := ended.stable continues
  persists _ _ _ _ _ intact ended := intact.persists _ ended
end Invariant

theorem intact_started {path : Str} {digest : List ReplayLine → Str} {audited : Bool}
    {header : ReplayLine} {faults : ReplayFaults} {columns : RowColumns} {rest : Rest}
    (works : StorageWorks faults) :
    Intact header (started path digest audited header faults columns rest) :=
  ⟨works, fun _ => ⟨rfl, rfl, rfl, rfl, rfl⟩, fun impossible => by cases impossible⟩

/-- The invariant decides what is left. -/
theorem Intact.kept {command : Str} {width height timestamp : Int} {world : JumpWorld Rest}
    (intact : Intact (.header command width height timestamp) world) :
    (world.row ≠ .OPEN → Kept world) ↔
      (world.row ≠ .OPEN → world.recorded = [] ∨ world.closes.head? = some .CLOSED) := by
  cases was : world.bridgeClosed with
  | false => simp [(intact.live was).2.1]
  | true =>
      obtain ⟨status, first, ended⟩ := intact.isOver was
      refine forall_congr' fun closed => ?_
      have files := (ended closed).files
      rw [first]
      cases status with
      | OPEN => exact files.elim
      | CLOSED =>
          have kept : Kept world :=
            .inr ⟨_, .inr files, by rw [eventsOf_fileOf]⟩
          simp [kept]
      | FAILED | TERMINATED => simp [Kept, files.1, files.2]

/-- The end of a session keeps its recording exactly when nothing was recorded
or the bridge was first closed to `CLOSED`. -/
theorem replay_kept (bridge : JumpPtyBridge Rest) (path : Str) (digest : List ReplayLine → Str)
    (audited : Bool) (command : Str) (width height timestamp : Int) {faults : ReplayFaults}
    (works : StorageWorks faults) (columns : RowColumns) (rest : Rest) {pool : SessionPool Rest}
    (reached : Reachable (fun _ => sessionWorld) (bridgePrograms bridge StorageWorks)
      (started path digest audited (.header command width height timestamp) faults columns rest)
      pool) :
    (pool.state.row ≠ .OPEN → Kept pool.state) ↔ (pool.state.row ≠ .OPEN →
      pool.state.recorded = [] ∨ pool.state.closes.head? = some .CLOSED) := by
  have safe := pool_upheld (intact_upheld _ bridge) (intact_started works) reached
  exact safe.kept

abbrev startedWorld : JumpWorld Unit :=
  started (lit "3.cast") (fun _ => lit "digest") false (.header (lit "node-01") 80 24 1) .none
    ⟨none, lit "3.cast", none⟩ ()

abbrev ReachableOne : SessionPool Unit → Prop :=
  Reachable (fun _ => sessionWorld) (bridgePrograms bridgeOne StorageWorks) startedWorld

/-- A key is recorded, the process ends, and the row is closed. -/
theorem replay_kept_normal_exit : ∃ pool, ReachableOne pool ∧ pool.state.row = .CLOSED ∧
    pool.state.recorded ≠ [] ∧ ((pool.state.row ≠ .OPEN → Kept pool.state) ↔
      (pool.state.row ≠ .OPEN → pool.state.recorded = [] ∨ pool.state.closes.head? = some .CLOSED)) := by
  have fresh : ReachableOne ⟨fun _ => none, startedWorld⟩ := .start
  have typed := fresh.spawn 0 _ rfl
    ⟨.sendUserInput 0 [108], rfl, fun _ impossible => by cases impossible⟩
  have ended := typed.spawn 1 _ rfl
    ⟨.connectionLost none ⟨2000000, some 0⟩, rfl, fun _ impossible => by cases impossible⟩
  have stored := ended.resume 1 rfl (.ok ()) _ (.inl rfl)
  exact ⟨_, stored, rfl, List.cons_ne_nil _ _, replay_kept bridgeOne (lit "3.cast")
    (fun _ => lit "digest") false (lit "node-01") 80 24 1 ⟨rfl, rfl, rfl, rfl, rfl, rfl⟩
    ⟨none, lit "3.cast", none⟩ () stored⟩

/-- A key is recorded and the user resets the connection. -/
theorem reset_removes_recording : ∃ pool, ReachableOne pool ∧ pool.state.row = .FAILED ∧
    ¬ Kept pool.state := by
  have fresh : ReachableOne ⟨fun _ => none, startedWorld⟩ := .start
  have typed := fresh.spawn 0 _ rfl
    ⟨.sendUserInput 0 [108], rfl, fun _ impossible => by cases impossible⟩
  have lost := typed.spawn 1 _ rfl
    ⟨.connectionLost (some (lit "reset")) ⟨2000000, some 0⟩, rfl, fun _ impossible => by cases impossible⟩
  have stored := lost.resume 1 rfl (.ok ()) _ (.inl rfl)
  refine ⟨_, stored, rfl, ?_⟩
  rintro (nothing | ⟨lines, temp | published, -⟩)
  · cases nothing
  · cases temp
  · cases published

end VibeConnect.ReplayKept
