import VibeConnect.JumpBridge

/-! Runs of a session's bridge. Any number of tasks call the bridge in any order,
and every call they wait for can be answered at any time, with any fault. The
storage of the replay can fail at any time too, as far as a run allows it. -/
namespace VibeConnect.JumpRuns
open Python.Text Python.Values Python.Coroutine Python.Tasks Models JumpCoordinator Replay JumpBridge
variable {Rest : Type}

/-- A call of the bridge, of its lifecycle, or a change of the storage. -/
inductive BridgeCall where
  | sendUserInput (seconds : Int) (payload : Bytes)
  | receiveNodeOutput (seconds : Int) (payload : Bytes)
  | resizePty (width height : Int)
  | close (status : SessionStatus) (now : DateTime) (error : Option Str)
  | connectionLost (lost : Option Str) (now : DateTime)
  | terminate (reason : Str) (now : DateTime)
  | storage (faults : ReplayFaults)

def BridgeCall.program (bridge : JumpPtyBridge Rest) : BridgeCall → SessionTask Rest Unit
  | sendUserInput seconds payload => bridge.sendUserInput seconds payload
  | receiveNodeOutput seconds payload => do
      let _ ← JumpPtyBridge.receiveNodeOutput seconds payload
      pure ()
  | resizePty width height => bridge.resizePty width height
  | close status now error => bridge.close status now error
  | connectionLost lost now => bridge.connectionLost lost now
  | terminate reason now => bridge.terminate reason now
  | storage faults => update fun world => { world with faults := faults }

/-- A new recording under a bridge that is in use. -/
def started (path : Str) (digest : List ReplayLine → Str) (audited : Bool) (header : ReplayLine)
    (faults : ReplayFaults) (columns : RowColumns) (rest : Rest) : JumpWorld Rest :=
  inUse (ReplayRecorder.new path digest audited header) faults columns [] rest

/-- A fault of the session store can hide that the update was made. -/
def sessionWorld : World (JumpWorld Rest) SessionResult Exc
  | .closeRow request, answer, before, after => after = before.closeRow request ∨
      (∃ fault, answer = .error fault) ∧ after = before
  | _, _, before, after => after = before

/-- What no task of a session takes back. -/
structure Continues (before after : JumpWorld Rest) : Prop where
  recorder : before.recorder.Continues after.recorder
  row : before.row ≠ .OPEN → after.row = before.row ∧ after.columns = before.columns
  closes : before.closes <+: after.closes
  closed : before.bridgeClosed = true →
    after.bridgeClosed = true ∧ after.recorded = before.recorded

theorem Continues.refl (world : JumpWorld Rest) : Continues world world :=
  ⟨.refl _, fun _ => ⟨rfl, rfl⟩, List.prefix_rfl, fun closed => ⟨closed, rfl⟩⟩

theorem Continues.trans {one two three : JumpWorld Rest} (first : Continues one two)
    (second : Continues two three) : Continues one three where
  recorder := first.recorder.trans second.recorder
  row ended := by
    obtain ⟨row, columns⟩ := first.row ended
    obtain ⟨rowLater, columnsLater⟩ := second.row (by rw [row]; exact ended)
    exact ⟨rowLater.trans row, columnsLater.trans columns⟩
  closes := first.closes.trans second.closes
  closed was := by
    obtain ⟨still, recorded⟩ := first.closed was
    obtain ⟨later, recordedLater⟩ := second.closed still
    exact ⟨later, recordedLater.trans recorded⟩

/-- The first close stays the first. -/
theorem Continues.head {before after : JumpWorld Rest} (continues : Continues before after)
    {status : SessionStatus} (first : before.closes.head? = some status) :
    after.closes.head? = some status := by
  obtain ⟨more, same⟩ := continues.closes
  rw [← same, List.head?_append, first]
  rfl

section Blocks
variable {world : JumpWorld Rest}

theorem continues_closeRow (request : CloseRow) : Continues world (world.closeRow request) := by
  rw [JumpWorld.closeRow_same]
  refine ⟨.refl _, fun ended => ?_, List.prefix_rfl, fun closed => ⟨closed, rfl⟩⟩
  rw [JumpWorld.closeRow_closed request world ended]
  exact ⟨rfl, rfl⟩

theorem continues_rest (asked : Bool) (rest : Rest) :
    Continues world { world with channelAsked := asked, rest := rest } :=
  ⟨.refl _, fun _ => ⟨rfl, rfl⟩, List.prefix_rfl, fun closed => ⟨closed, rfl⟩⟩

theorem continues_onRecorder {α : Type}
    {block : ReplayFaults → ReplayRecorder → Except Exc α × ReplayRecorder}
    (kept : world.recorder.Continues (block world.faults world.recorder).2) :
    Continues world (onRecorder block world).2 :=
  ⟨kept, fun _ => ⟨rfl, rfl⟩, List.prefix_rfl, fun closed => ⟨closed, rfl⟩⟩

/-- Recording through an open bridge logs what it wrote. -/
theorem recordEvent_cases (seconds : Int) (stream : String) (payload : Bytes)
    (world : JumpWorld Rest) :
    let event : ReplayEvent := ⟨seconds, lit stream, decodeEscaped payload⟩
    (world.recorder.closed = false ∧ world.faults.write = none ∧
      JumpPtyBridge.recordEvent seconds stream payload world = (.ok (), { world with
        recorder := { world.recorder with
          temp := world.recorder.temp.map (· ++ [.event event]) }
        recorded := world.recorded ++ [event] })) ∨
    ∃ fault recorder, JumpPtyBridge.recordEvent seconds stream payload world =
        (.error fault, { world with recorder := recorder }) ∧
      (recorder = world.recorder ∨ recorder = (world.recorder.fail world.faults).2 ∧
        world.faults.write ≠ none) := by
  intro event
  unfold JumpPtyBridge.recordEvent onRecorder
  rcases ReplayRecorder.record_cases world.faults event world.recorder with
    ⟨was, works, done⟩ | ⟨fault, raised, left⟩
  · refine .inl ⟨was, works, ?_⟩
    dsimp only [event] at done ⊢
    rw [done]
  · refine .inr ⟨fault, _, ?_, left⟩
    dsimp only [event] at raised ⊢
    rw [raised]

/-- A close either finds the bridge closed, or closes it and ends the recording. -/
theorem beginClose_cases (status : SessionStatus) (now : DateTime) (world : JumpWorld Rest) :
    let closing := { world with closes := world.closes ++ [status] }
    let ended := JumpPtyBridge.endRecording status now world.faults world.recorder
    (world.bridgeClosed = true ∧ JumpPtyBridge.beginClose status now world = (.ok none, closing)) ∨
      world.bridgeClosed = false ∧ JumpPtyBridge.beginClose status now world =
        (ended.1.map some, { closing with bridgeClosed := true, recorder := ended.2 }) := by
  unfold JumpPtyBridge.beginClose onRecorder
  dsimp only
  cases was : world.bridgeClosed with
  | true => exact .inl ⟨rfl, rfl⟩
  | false =>
      refine .inr ⟨rfl, ?_⟩
      rw [if_neg Bool.false_ne_true]
      cases (JumpPtyBridge.endRecording status now world.faults world.recorder).1 <;> rfl

theorem continues_recordEvent (seconds : Int) (stream : String) (payload : Bytes)
    (was : world.bridgeClosed = false) :
    Continues world (JumpPtyBridge.recordEvent seconds stream payload world).2 := by
  have frozen : ∀ {before after : ReplayRecorder} {recorded : List ReplayEvent},
      before = world.recorder → before.Continues after →
      Continues world { world with recorder := after, recorded := recorded } := by
    rintro _ after recorded rfl kept
    exact ⟨kept, fun _ => ⟨rfl, rfl⟩, List.prefix_rfl,
      fun impossible => absurd (was.symm.trans impossible) Bool.false_ne_true⟩
  rcases recordEvent_cases seconds stream payload world with
    ⟨open_, -, same⟩ | ⟨_, recorder, same, rfl | ⟨rfl, -⟩⟩
  · rw [same]
    exact frozen rfl ⟨rfl, rfl, fun impossible => absurd (open_.symm.trans impossible) Bool.false_ne_true⟩
  · rw [same]
    exact frozen rfl (.refl _)
  · rw [same]
    exact frozen rfl ReplayRecorder.fail_continues

theorem endRecording_continues (status : SessionStatus) (now : DateTime) (faults : ReplayFaults)
    (recorder : ReplayRecorder) :
    recorder.Continues (JumpPtyBridge.endRecording status now faults recorder).2 := by
  cases status with
  | OPEN => exact .refl recorder
  | CLOSED => exact ReplayRecorder.close_continues
  | FAILED | TERMINATED => exact ReplayRecorder.fail_continues

theorem continues_beginClose (status : SessionStatus) (now : DateTime) :
    Continues world (JumpPtyBridge.beginClose status now world).2 := by
  have longer : world.closes <+: world.closes ++ [status] := List.prefix_append _ _
  rcases beginClose_cases status now world with ⟨was, same⟩ | ⟨was, same⟩
  · rw [same]
    exact ⟨.refl _, fun _ => ⟨rfl, rfl⟩, longer, fun closed => ⟨closed, rfl⟩⟩
  · rw [same]
    exact ⟨endRecording_continues status now _ _, fun _ => ⟨rfl, rfl⟩, longer,
      fun impossible => absurd (was.symm.trans impossible) Bool.false_ne_true⟩
end Blocks

/-- Every task relies on what every task owes. -/
def contract : Contract (JumpWorld Rest) Exc Unit where
  rely := Continues
  guarantee := Continues
  post := fun _ _ => True

theorem contract_lawful : (contract : Contract (JumpWorld Rest) Exc Unit).Lawful where
  rely_refl := .refl
  rely_trans := fun _ _ _ => .trans
  guarantee_refl := .refl
  guarantee_trans := fun _ _ _ => .trans
  stable := fun _ _ _ _ _ => trivial

theorem sessionWorld_continues {call : SessionCall} {answer : Except Exc (SessionResult call)}
    {before after : JumpWorld Rest} (given : sessionWorld call answer before after) :
    Continues before after := by
  cases call with
  | closeRow request =>
      rcases given with same | ⟨-, same⟩
      · rw [same]
        exact continues_closeRow request
      · rw [same]
        exact .refl before
  | _ =>
      rw [show after = before from given]
      exact .refl before

/-- What an invariant of a session has to survive. `won` is what the close that
ended the recording goes on to know. -/
structure Upheld (bridge : JumpPtyBridge Rest) (allowed : ReplayFaults → Prop)
    (inv : JumpWorld Rest → Prop)
    (won : SessionStatus → Option ReplayCloseResult → JumpWorld Rest → Prop) : Prop where
  blind : ∀ world asked rest, inv world → inv { world with channelAsked := asked, rest := rest }
  storage : ∀ world faults, allowed faults → inv world → inv { world with faults := faults }
  record : ∀ world seconds stream payload, inv world → world.bridgeClosed = false →
    inv (JumpPtyBridge.recordEvent seconds stream payload world).2
  begins : ∀ world status now, inv world → inv (JumpPtyBridge.beginClose status now world).2 ∧
    ∀ result, (JumpPtyBridge.beginClose status now world).1 = .ok (some result) →
      won status result (JumpPtyBridge.beginClose status now world).2
  stable : ∀ status result before after, won status result before → Continues before after →
    won status result after
  persists : ∀ world status now error result, inv world → won status result world →
    inv (world.closeRow (bridge.closeRowRequest status now error result))

section Runs
variable {bridge : JumpPtyBridge Rest} {allowed : ReplayFaults → Prop} {inv : JumpWorld Rest → Prop}
  {won : SessionStatus → Option ReplayCloseResult → JumpWorld Rest → Prop} {state : JumpWorld Rest}

abbrev Runs {α : Type} (inv : JumpWorld Rest → Prop) (program : SessionTask Rest α)
    (post : Except Exc α → JumpWorld Rest → Prop) (state : JumpWorld Rest) : Prop :=
  program.wp (answered sessionWorld inv Continues) (obliged inv Continues) post state

/-- A call that leaves the row alone keeps the invariant. -/
theorem waitFor_runs {call : SessionCall} (quiet : ∀ request, call ≠ .closeRow request)
    (holds : inv state) : Runs inv (waitFor call) (fun _ after => inv after) state := by
  refine call_safe holds ?_
  intro answer resumed after _ still given
  cases call with
  | closeRow request => exact absurd rfl (quiet request)
  | _ =>
      rw [show after = resumed from given]
      exact still

theorem onRest_runs {α : Type} (upheld : Upheld bridge allowed inv won)
    {block : Rest → Except Exc α × Rest} (holds : inv state) :
    Runs inv (change (onRest block)) (fun _ after => inv after) state :=
  change_safe (continues_rest state.channelAsked _) (upheld.blind _ _ _ holds)

/-- What a channel does at once, and what it then waits for. -/
theorem channel_runs (upheld : Upheld bridge allowed inv won) {block : Rest → Except Exc Unit × Rest}
    {overLink : Bool} {waits : SessionTask Rest Unit}
    (kept : ∀ world, inv world → Runs inv waits (fun _ after => inv after) world)
    (holds : inv state) :
    Runs inv (do change (onRest block); Coro.onlyIf overLink waits)
      (fun _ after => inv after) state := by
  refine Coro.wp_bind (Coro.wp_mono ?_ (onRest_runs upheld holds))
  rintro (fault | _) after still
  · exact still
  · exact Coro.wp_onlyIf (fun _ => kept after still) fun _ => still

theorem closeSession_runs (upheld : Upheld bridge allowed inv won) {channel : PtyChannel Rest}
    {channelId : TunnelState.ChannelId} (holds : inv state) :
    Runs inv (channel.closeSession channelId) (fun _ after => inv after) state := by
  refine Coro.wp_bind (update_safe (continues_rest true _) ?_)
  exact waitFor_runs (fun _ impossible => by cases impossible) (upheld.blind _ _ _ holds)

/-- A checked record, and then what the caller does with it. -/
theorem recorded_runs {α : Type} (upheld : Upheld bridge allowed inv won) {seconds : Int}
    {stream : String} {payload : Bytes} {next : SessionTask Rest α}
    (kept : ∀ world, inv world → Runs inv next (fun _ after => inv after) world)
    (holds : inv state) :
    Runs inv (do
        let world ← look
        Coro.ofAnswer (JumpPtyBridge.ensureOpen world)
        change (JumpPtyBridge.recordEvent seconds stream payload)
        next)
      (fun _ after => inv after) state := by
  refine Coro.wp_bind (look_safe (Coro.wp_bind (Coro.wp_ofAnswer ?_)))
  unfold JumpPtyBridge.ensureOpen
  cases was : state.bridgeClosed with
  | true => exact holds
  | false =>
      refine Coro.wp_bind (change_safe ?_ ?_)
      · exact continues_recordEvent seconds stream payload was
      · have still := upheld.record state seconds stream payload holds was
        cases (JumpPtyBridge.recordEvent seconds stream payload state).1 with
        | error fault => exact still
        | ok _ => exact kept _ still

theorem endSession_runs (upheld : Upheld bridge allowed inv won) {status : SessionStatus}
    {now : DateTime} {error : Option Str} {result : Option ReplayCloseResult} (holds : inv state)
    (known : won status result state) :
    Runs inv (bridge.endSession status now error result) (fun _ after => inv after) state := by
  have stores : Runs inv (Coro.onlyIf bridge.stored
      (waitFor (.closeRow (bridge.closeRowRequest status now error result))))
      (fun _ after => inv after) state := by
    refine Coro.wp_onlyIf (fun _ => call_safe holds ?_) fun _ => holds
    intro answer resumed after relied still given
    rcases given with same | ⟨-, same⟩
    · rw [same]
      exact upheld.persists resumed status now error result still
        (upheld.stable status result state resumed known relied)
    · rw [same]
      exact still
  refine Coro.wp_bind (Coro.wp_mono ?_ stores)
  rintro (fault | _) stored still
  · exact still
  refine Coro.wp_bind (Coro.wp_mono ?_ (closeSession_runs upheld still))
  rintro (fault | _) asked still
  · exact still
  · refine Coro.wp_onlyIf (fun _ => ?_) fun _ => still
    exact waitFor_runs (fun _ impossible => by cases impossible) still

theorem close_runs (upheld : Upheld bridge allowed inv won) {status : SessionStatus}
    {now : DateTime} {error : Option Str} (holds : inv state) :
    Runs inv (bridge.close status now error) (fun _ after => inv after) state := by
  obtain ⟨still, known⟩ := upheld.begins state status now holds
  refine Coro.wp_bind (change_safe (continues_beginClose status now) ?_)
  cases begun : (JumpPtyBridge.beginClose status now state).1 with
  | error fault => exact still
  | ok result =>
      cases result with
      | none => exact still
      | some result => exact endSession_runs upheld still (known result begun)

theorem call_runs (upheld : Upheld bridge allowed inv won) (call : BridgeCall)
    (permitted : ∀ faults, call = .storage faults → allowed faults) (holds : inv state) :
    Runs inv (call.program bridge) (fun _ after => inv after) state := by
  cases call with
  | sendUserInput seconds payload =>
      refine recorded_runs upheld (fun world still => channel_runs upheld ?_ still) holds
      exact fun world still => waitFor_runs (fun _ impossible => by cases impossible) still
  | receiveNodeOutput seconds payload =>
      refine Coro.wp_bind (Coro.wp_mono ?_ (recorded_runs upheld (fun world still => still) holds))
      rintro (fault | output) after still <;> exact still
  | resizePty width height =>
      refine Coro.wp_bind (look_safe (Coro.wp_bind (Coro.wp_ofAnswer ?_)))
      unfold JumpPtyBridge.ensureOpen
      cases state.bridgeClosed with
      | true => exact holds
      | false =>
          rw [if_neg Bool.false_ne_true]
          dsimp only
          split
          · exact holds
          · refine channel_runs upheld ?_ holds
            exact fun world still => waitFor_runs (fun _ impossible => by cases impossible) still
  | close status now error => exact close_runs upheld holds
  | connectionLost lost now =>
      cases lost with
      | none => exact close_runs upheld holds
      | some error => exact close_runs upheld holds
  | terminate reason now => exact close_runs upheld holds
  | storage faults =>
      refine update_safe ?_ (upheld.storage state faults (permitted faults rfl) holds)
      exact ⟨.refl _, fun _ => ⟨rfl, rfl⟩, List.prefix_rfl, fun closed => ⟨closed, rfl⟩⟩

/-- The calls that a run can make. -/
def bridgePrograms (bridge : JumpPtyBridge Rest) (allowed : ReplayFaults → Prop) (_ : Nat)
    (program : SessionTask Rest Unit) (_ : JumpWorld Rest) : Prop :=
  ∃ call : BridgeCall, program = call.program bridge ∧
    ∀ faults, call = .storage faults → allowed faults

abbrev SessionPool (Rest : Type) := Pool Nat (JumpWorld Rest) SessionResult Exc

/-- A task that keeps the invariant is safe in a pool. -/
theorem safe_of_runs {program : SessionTask Rest Unit}
    (runs : Runs inv program (fun _ after => inv after) state) :
    Safe sessionWorld inv contract program state :=
  Coro.wp_mono (fun _ _ kept => ⟨kept, trivial⟩) runs

/-- An invariant that every block survives holds in every run. -/
theorem pool_upheld (upheld : Upheld bridge allowed inv won) {start : JumpWorld Rest}
    (initial : inv start) {pool : SessionPool Rest}
    (reached : Reachable (fun _ => sessionWorld) (bridgePrograms bridge allowed) start pool) :
    inv pool.state := by
  have starts : ∀ (key : Nat) (program : SessionTask Rest Unit) (state : JumpWorld Rest),
      bridgePrograms bridge allowed key program state → inv state →
      Safe sessionWorld inv contract program state := by
    rintro _ _ state ⟨call, rfl, permitted⟩ holds
    exact safe_of_runs (call_runs upheld call permitted holds)
  have safe : pool.Safe (fun _ => sessionWorld) inv (fun _ => contract) :=
    reachable_safe (fun _ => contract_lawful) (fun _ _ _ _ _ moved => moved)
      (fun _ _ _ _ _ given => sessionWorld_continues given) starts initial reached
  exact safe.1
end Runs

end VibeConnect.JumpRuns
