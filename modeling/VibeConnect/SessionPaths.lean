import Mathlib.Data.List.TakeWhile
import VibeConnect.JumpChecks
import VibeConnect.JumpRules
import VibeConnect.JumpRuns

/-! Where a session row points. One jump is started and then ended in any way,
and what else its bridge is asked for happens in between, while every call can
raise at any time. The uuid of the jump and the uuid of the row are the two that
the run draws. -/
namespace VibeConnect.SessionPaths
open Python.Text Python.Values Python.Coroutine Python.Tasks Models JumpCoordinator Replay JumpBridge
open JumpRules

/-! Names of files. -/
def slash : CodePoint := 47

def dot : CodePoint := 46

/-- The last component of a path that does not end in a slash. -/
def nameOf (path : Str) : Str := (path.reverse.takeWhile (· != slash)).reverse

/-- `PurePath.stem`: the name up to its last dot, unless the dot begins or ends it. -/
def stem (path : Str) : Str :=
  match (nameOf path).reverse.dropWhile (· != dot) with
  | [] => nameOf path
  | _ :: base =>
      if base = [] ∨ (nameOf path).getLast? = some dot then nameOf path else base.reverse

/-- `f"{session_id}.cast"`. -/
def castName (sessionId : Uuid) : Str := sessionId.text ++ lit ".cast"

/-- `directory / name`. -/
def inDirectory (directory name : Str) : Str := directory ++ [slash] ++ name

theorem castName_plain (sessionId : Uuid) : ∀ code ∈ castName sessionId, (code != slash) = true := by
  intro code member
  apply bne_iff_ne.mpr
  rintro rfl
  rcases List.mem_append.mp member with inText | inSuffix
  · rcases Uuid.text_member inText with digit | hyphen
    · unfold IsHexDigit at digit
      revert digit
      decide
    · revert hyphen
      decide
  · revert inSuffix
    decide

theorem nameOf_cast (sessionId : Uuid) : nameOf (castName sessionId) = castName sessionId := by
  unfold nameOf
  rw [List.takeWhile_eq_self_iff.mpr, List.reverse_reverse]
  intro code member
  exact castName_plain sessionId code (List.mem_reverse.mp member)

theorem nameOf_inDirectory (directory : Str) (sessionId : Uuid) :
    nameOf (inDirectory directory (castName sessionId)) = castName sessionId := by
  have plain : ∀ code ∈ (castName sessionId).reverse, (code != slash) = true :=
    fun code member => castName_plain sessionId code (List.mem_reverse.mp member)
  unfold nameOf inDirectory
  rw [List.reverse_append, List.reverse_append, List.takeWhile_append_of_pos plain]
  simp

theorem stem_of_name {path : Str} {sessionId : Uuid} (named : nameOf path = castName sessionId) :
    stem path = sessionId.text := by
  have suffix : (castName sessionId).reverse.dropWhile (· != dot) = dot :: sessionId.text.reverse := by
    have shape : (castName sessionId).reverse = (lit "cast").reverse ++ dot :: sessionId.text.reverse := by
      unfold castName
      rw [show lit ".cast" = dot :: lit "cast" by decide, List.reverse_append]
      simp
    have letters : (lit "cast").reverse.all (· != dot) = true := by decide
    rw [shape, List.dropWhile_append_of_pos (List.all_eq_true.mp letters),
      List.dropWhile_cons_of_neg (by decide)]
  have last : (castName sessionId).getLast? ≠ some dot := by
    unfold castName
    rw [List.getLast?_append, show (lit ".cast").getLast? = some 116 by decide, Option.some_or]
    decide
  unfold stem
  rw [named, suffix]
  dsimp only
  rw [if_neg, List.reverse_reverse]
  rintro (empty | ends)
  · exact sessionId.text_nonempty (List.reverse_eq_nil_iff.mp empty)
  · exact last ends

theorem stem_cast (sessionId : Uuid) : stem (castName sessionId) = sessionId.text :=
  stem_of_name (nameOf_cast sessionId)

theorem stem_inDirectory (directory : Str) (sessionId : Uuid) :
    stem (inDirectory directory (castName sessionId)) = sessionId.text :=
  stem_of_name (nameOf_inDirectory directory sessionId)

/-! One session from its jump on. -/
structure Setup where
  created : Option Uuid
  recording : Option Uuid
  started : Option StartedJump

abbrev PathWorld := JumpWorld Setup

/-- What a run draws and is given. -/
structure Given where
  sessionUuid : Uuid
  rowUuid : Uuid
  directory : Str
  digest : List ReplayLine → Str
  replayAudited : Bool

variable (given : Given)

/-- `INSERT INTO sessions`, with the status that the source always writes. -/
def insertRow (request : SessionRequest) (world : PathWorld) : PathWorld :=
  { world with
    row := .OPEN
    columns := ⟨none, request.replayPath, none⟩
    rest := { world.rest with created := some given.rowUuid } }

/-- `ReplayWriter.start`. -/
def startReplay (request : ReplayRequest) (header : ReplayLine) (world : PathWorld) : PathWorld :=
  { world with
    recorder := ReplayRecorder.new (inDirectory given.directory (castName request.sessionId))
      given.digest given.replayAudited header
    rest := { world.rest with recording := some request.sessionId } }

/-- The update finds its row by the id. -/
def updateRow (request : CloseRow) (world : PathWorld) : PathWorld :=
  if world.rest.created = some request.sessionId then world.closeRow request else world

/-- A change that was made, or a fault with or without it. -/
def Stored {α : Type} (change : PathWorld → PathWorld) (answer : Except Exc α)
    (before after : PathWorld) : Prop :=
  after = change before ∨ (∃ fault, answer = .error fault) ∧ after = before

/-- `PostgresJumpStore`, `ReplayWriter` and the recorder behind the calls. -/
def pathWorld : World PathWorld SessionResult Exc
  | .jump (.createSession request), answer, before, after =>
      Stored (insertRow given request) answer before after ∧ ∀ session, answer = .ok session →
        session.sessionId = given.rowUuid ∧ session.replayPath = request.replayPath
  | .jump (.startReplay request), .ok _, before, after =>
      ∃ header, after = startReplay given request header before
  | .jump (.failSession sessionId endedAt), answer, before, after =>
      Stored (updateRow ⟨sessionId, .FAILED, endedAt, castName sessionId, none, none⟩) answer before after
  | .jump (.failReplay ..), answer, before, after =>
      (answer, after) = onRecorder (fun faults recorder => recorder.fail faults) before
  | .closeRow request, answer, before, after => Stored (updateRow request) answer before after
  | _, _, before, after => after = before

def ask (call : JumpCall) : SessionTask Setup (JumpResult call) := waitFor (.jump call)

/-- The arguments of `start_jump` but the uuid. -/
structure Jump where
  audited : Bool
  channelUuid : Uuid
  identity : ResolvedIdentity
  command : Str
  visibleNodes : List NodeInventoryEntry
  presentedNodeHostKey : Option Str
  width : Int
  height : Int
  now : DateTime

def setUp (jump : Jump) : SessionTask Setup Unit := do
  let started ← startJump ask jump.audited given.sessionUuid jump.channelUuid jump.identity jump.command
    jump.visibleNodes jump.presentedNodeHostKey jump.width jump.height jump.now
  update fun world => { world with rest := { world.rest with started := some started } }

/-- What a started jump is asked for: a close of its bridge with any status, and
the failure handler from before the bridge. -/
inductive Ending where
  | close (audited stored : Bool) (status : SessionStatus) (now : DateTime) (error : Option Str)
  | failWithoutBridge (audited stored : Bool) (error : Str) (now : DateTime)

def Ending.program (jump : StartedJump) : Ending → SessionTask Setup Unit
  | close audited stored status now error =>
      (⟨jump, brokerChannel, audited, stored⟩ : JumpPtyBridge Setup).close status now error
  | failWithoutBridge audited stored error now =>
      JumpBridge.failWithoutBridge jump stored audited error now

inductive PathTask where
  | setUp
  | ending (serial : Nat)
  | record (serial : Nat)
  | storage (serial : Nat)
  deriving DecidableEq

def pathPrograms (task : PathTask) (program : SessionTask Setup Unit) (world : PathWorld) : Prop :=
  match task with
  | .setUp => ∃ jump, program = setUp given jump
  | .ending _ => ∃ jump ending, world.rest.started = some jump ∧ program = Ending.program jump ending
  | .record _ => ∃ seconds stream payload, world.rest.started ≠ none ∧
      program = change (JumpPtyBridge.recordEvent seconds stream payload)
  | .storage _ => ∃ faults, program = update fun world => { world with faults := faults }

/-- Before the jump there is no row and no recorder. -/
def beforeJump (faults : ReplayFaults) : PathWorld :=
  inUse (ReplayRecorder.new [] given.digest given.replayAudited (.header [] 0 0 0)) faults
    ⟨none, [], none⟩ [] ⟨none, none, none⟩

abbrev PathPool := Pool PathTask PathWorld SessionResult Exc

def PathReachable (faults : ReplayFaults) : PathPool → Prop :=
  Reachable (fun _ => pathWorld given) (pathPrograms given) (beforeJump given faults)

/-- The row points at its own recording. -/
def OwnPath (world : PathWorld) : Prop :=
  ∀ rowId, world.rest.created = some rowId → stem world.columns.replayPath = rowId.text ∧
    ∀ sessionId, world.rest.recording = some sessionId → stem world.recorder.path = rowId.text

/-! When the two draws agree. -/
section Agreeing
variable {given} {state world : PathWorld}

/-- The session and its path are those of the row. -/
def Mine (given : Given) (session : JumpSession) : Prop :=
  session.sessionId = given.rowUuid ∧ stem session.replayPath = given.rowUuid.text

structure Own (given : Given) (world : PathWorld) : Prop where
  created : ∀ rowId, world.rest.created = some rowId → rowId = given.rowUuid
  row : world.rest.created.isSome → stem world.columns.replayPath = given.rowUuid.text
  recorder : world.rest.recording.isSome → stem world.recorder.path = given.rowUuid.text
  started : ∀ jump, world.rest.started = some jump →
    world.rest.recording.isSome ∧ Mine given jump.session

theorem Own.ownPath (own : Own given world) : OwnPath world := by
  intro rowId made
  rw [own.created rowId made]
  have there : world.rest.created.isSome := by rw [made]; rfl
  refine ⟨own.row there, fun sessionId recording => own.recorder ?_⟩
  rw [recording]
  rfl

theorem own_before (faults : ReplayFaults) : Own given (beforeJump given faults) where
  created _ impossible := by cases impossible
  row impossible := by cases impossible
  recorder impossible := by cases impossible
  started _ impossible := by cases impossible

theorem Own.insert {request : SessionRequest} (own : Own given world)
    (named : stem request.replayPath = given.rowUuid.text) : Own given (insertRow given request world) where
  created := fun _ made => (Option.some_inj.mp made).symm
  row _ := named
  recorder := own.recorder
  started := own.started

theorem Own.startReplay {request : ReplayRequest} {header : ReplayLine} (own : Own given world)
    (mine : request.sessionId = given.rowUuid) :
    Own given (SessionPaths.startReplay given request header world) where
  created := own.created
  row := own.row
  recorder _ := by
    rw [← mine]
    exact stem_inDirectory given.directory request.sessionId
  started jump made := ⟨rfl, (own.started jump made).2⟩

/-- Whatever the recorder does, it keeps its path. -/
theorem Own.record {recorder : ReplayRecorder} {faults : ReplayFaults} {bridgeClosed channelAsked : Bool}
    {closes : List SessionStatus} {recorded : List ReplayEvent} (own : Own given world)
    (kept : recorder.path = world.recorder.path) :
    Own given { world with
      recorder := recorder, faults := faults, bridgeClosed := bridgeClosed,
      channelAsked := channelAsked, closes := closes, recorded := recorded } where
  created := own.created
  row := own.row
  recorder there := by
    rw [kept]
    exact own.recorder there
  started := own.started

theorem Own.updateRow {request : CloseRow} (own : Own given world)
    (named : request.sessionId = given.rowUuid → stem request.replayPath = given.rowUuid.text) :
    Own given (SessionPaths.updateRow request world) := by
  unfold SessionPaths.updateRow
  split
  · next found =>
    have path := named (own.created _ found)
    unfold JumpWorld.closeRow
    split
    · exact ⟨own.created, fun _ => path, own.recorder, own.started⟩
    · exact own
  · exact own

/-- What no task takes back: the recorder that was started. -/
def Stays (before after : PathWorld) : Prop :=
  before.rest.recording.isSome → after.rest.recording.isSome

abbrev Runs {α : Type} (given : Given) (program : SessionTask Setup α)
    (post : Except Exc α → PathWorld → Prop) (state : PathWorld) : Prop :=
  program.wp (answered (pathWorld given) (Own given) Stays) (obliged (Own given) Stays) post state

/-- The invariant, after the start of the recorder or at any time. -/
def Kept (given : Given) (recorded : Bool) (world : PathWorld) : Prop :=
  Own given world ∧ (recorded = true → world.rest.recording.isSome)

theorem updateRow_recording (request : CloseRow) :
    (updateRow request world).rest.recording = world.rest.recording := by
  unfold updateRow JumpWorld.closeRow
  split
  · split <;> rfl
  · rfl

theorem Kept.updateRow {recorded : Bool} {request : CloseRow} {α : Type} {answer : Except Exc α}
    {after : PathWorld} (kept : Kept given recorded world)
    (named : request.sessionId = given.rowUuid → stem request.replayPath = given.rowUuid.text)
    (stored : Stored (SessionPaths.updateRow request) answer world after) : Kept given recorded after := by
  rcases stored with rfl | ⟨-, rfl⟩
  · refine ⟨kept.1.updateRow named, fun asked => ?_⟩
    rw [updateRow_recording]
    exact kept.2 asked
  · exact kept

theorem Kept.fail {recorded : Bool} (kept : Kept given recorded world) :
    Kept given recorded (onRecorder (fun faults recorder => recorder.fail faults) world).2 :=
  ⟨kept.1.record ReplayRecorder.fail_continues.path, kept.2⟩

theorem plain_keeps {recorded : Bool} (call : JumpCall) (plain : Plain call) (state : PathWorld)
    (kept : Kept given recorded state) :
    Runs given (ask call) (fun _ => Kept given recorded) state := by
  apply call_safe kept.1
  intro answer resumed after relied still answers
  have later : Kept given recorded resumed := ⟨still, fun asked => relied (kept.2 asked)⟩
  cases call with
  | createSession request => exact plain.elim
  | startReplay request => exact plain.elim
  | failSession sessionId endedAt =>
      apply later.updateRow _ answers
      rintro rfl
      exact stem_cast _
  | failReplay replay error now =>
      rw [(Prod.mk.inj answers).2]
      exact later.fail
  | _ =>
      rw [show after = resumed from answers]
      exact later

theorem keeps_composes (given : Given) (recorded : Bool) :
    Coro.Composes fun (α : Type) (program : SessionTask Setup α) =>
      ∀ state, Kept given recorded state → Runs given program (fun _ => Kept given recorded) state :=
  Coro.wp_composes _ _ _
section Programs
variable {audited : Bool} {identity : ResolvedIdentity} {nodeName : Str} {target : JumpTarget}
  {session : JumpSession} {now : DateTime}

/-- A denial ends in its exception. -/
theorem denial_raises {α : Type} {agentId sessionId : Option Uuid} {named : Option Str}
    {reason : String} {fault : Exc} (own : Own given state) :
    Runs given (auditDenial ask audited identity.username agentId named reason now sessionId >>=
        fun _ => (.raise fault : SessionTask Setup α))
      (Coro.either (fun _ _ => False) fun _ => Own given) state := by
  have audits : Runs given
      (auditDenial ask audited identity.username agentId named reason now sessionId)
      (fun _ => Kept given false) state :=
    auditDenial_composes (keeps_composes given false) plain_keeps state
      ⟨own, fun impossible => by cases impossible⟩
  refine Coro.wp_bind (Coro.wp_mono ?_ audits)
  rintro (raised | _) after kept
  · exact kept.1
  · exact kept.1

/-- The recorder is started for the row's session, and under its name. -/
theorem startRecording_runs {width height : Int} (own : Own given state) (mine : Mine given session) :
    Runs given (startRecording ask audited identity target nodeName session width height now)
      (Coro.either (fun _ => Kept given true) fun _ => Own given) state := by
  refine Coro.wp_handle (call_safe own ?_)
  intro answer resumed after relied still answers
  cases answer with
  | ok replay =>
      obtain ⟨header, rfl⟩ := answers
      exact ⟨still.startReplay mine.1, fun _ => rfl⟩
  | error fault =>
      rw [show after = resumed from answers]
      cases fault with
      | replayError message =>
          have fails := plain_keeps (.failSession session.sessionId now) trivial resumed
            (show Kept given false resumed from ⟨still, fun impossible => by cases impossible⟩)
          refine Coro.wp_bind (Coro.wp_mono ?_ fails)
          rintro (raised | _) middle kept
          · exact kept.1
          refine Coro.wp_mono ?_ (denial_raises kept.1)
          rintro (raised | _) last ended
          · exact ended
          · exact ended.elim
      | _ => exact still

/-- The jump goes on with the session that it made. -/
theorem jumpSession_runs {channelUuid : Uuid} {width height : Int} (own : Own given state)
    (mine : Mine given session) :
    Runs given (jumpSession ask audited channelUuid identity nodeName target session width height now)
      (Coro.either (fun started after => Kept given true after ∧ Mine given started.session)
        fun _ => Own given) state := by
  have composes := keeps_composes given true
  refine Coro.wp_bind (Coro.wp_mono ?_ (startRecording_runs own mine))
  rintro (fault | replay) recorded kept
  · exact kept
  have issues : Runs given (issueCertificate ask identity session replay now)
      (fun _ => Kept given true) recorded :=
    issueCertificate_composes composes plain_keeps recorded kept
  refine Coro.wp_bind (Coro.wp_mono ?_ issues)
  rintro (fault | certificate) issued kept
  · exact kept.1
  have opens : Runs given (openNode ask audited identity target nodeName session replay certificate
      channelUuid.text now) (fun _ => Kept given true) issued :=
    openNode_composes composes plain_keeps issued kept
  refine Coro.wp_bind (Coro.wp_mono ?_ opens)
  rintro (fault | connection) opened kept
  · exact kept.1
  have audits : Runs given (auditStarted ask audited identity target nodeName session now)
      (fun _ => Kept given true) opened :=
    auditStarted_composes composes plain_keeps opened kept
  refine Coro.wp_bind (Coro.wp_mono ?_ audits)
  rintro (fault | _) last kept
  · exact kept.1
  · exact ⟨kept, mine⟩

theorem setUp_runs (agree : given.sessionUuid = given.rowUuid) (jump : Jump) (own : Own given state) :
    Runs given (setUp given jump) (fun _ => Own given) state := by
  have starts : Runs given (startJump ask jump.audited given.sessionUuid jump.channelUuid jump.identity
      jump.command jump.visibleNodes jump.presentedNodeHostKey jump.width jump.height jump.now)
      (Coro.either (fun started after => Kept given true after ∧ Mine given started.session)
        fun _ => Own given) state := by
    have authorizes : Runs given (authorizedTarget ask jump.audited jump.identity jump.command
        jump.visibleNodes jump.presentedNodeHostKey jump.now) (fun _ => Kept given false) state :=
      authorizedTarget_composes (keeps_composes given false) plain_keeps state
        ⟨own, fun impossible => by cases impossible⟩
    refine Coro.wp_bind (Coro.wp_mono ?_ authorizes)
    rintro (fault | ⟨nodeName, target⟩) authorized kept
    · exact kept.1
    -- the path that the row is created with is named after the other draw
    have named : stem (castName given.sessionUuid) = given.rowUuid.text := by
      rw [agree]
      exact stem_cast _
    refine Coro.wp_bind (call_safe kept.1 ?_)
    intro answer resumed after relied still answers
    have inserted : Own given after := by
      rcases answers.1 with rfl | ⟨-, rfl⟩
      · exact still.insert named
      · exact still
    cases answer with
    | error fault => exact inserted
    | ok session =>
        obtain ⟨own, path⟩ := answers.2 session rfl
        apply jumpSession_runs inserted
        exact ⟨own, by rw [path]; exact named⟩
  refine Coro.wp_bind (Coro.wp_mono ?_ starts)
  rintro (fault | started) after ended
  · exact ended
  refine update_safe (fun recording => recording) ?_
  refine ⟨ended.1.1.created, ended.1.1.row, ended.1.1.recorder, ?_⟩
  intro jump made
  cases made
  exact ⟨ended.1.2 rfl, ended.2⟩

/-- An update of the row that names the row's own path. -/
theorem closeRow_runs {request : CloseRow} (own : Own given state)
    (named : request.sessionId = given.rowUuid → stem request.replayPath = given.rowUuid.text) :
    Runs given (waitFor (.closeRow request)) (fun _ => Own given) state := by
  apply call_safe own
  intro answer resumed after relied still answers
  have kept : Kept given false resumed := ⟨still, fun impossible => by cases impossible⟩
  exact (kept.updateRow named answers).1

theorem waitFor_runs {call : SessionCall} (quiet : ∀ request, call ≠ .closeRow request)
    (outside : ∀ request, call ≠ .jump request) (own : Own given state) :
    Runs given (waitFor call) (fun _ => Own given) state := by
  apply call_safe own
  intro answer resumed after relied still answers
  cases call with
  | closeRow request => exact absurd rfl (quiet request)
  | jump request => exact absurd rfl (outside request)
  | _ =>
      rw [show after = resumed from answers]
      exact still
end Programs

section Endings
variable {jump : StartedJump} {status : SessionStatus} {now : DateTime} {error : Option Str}
  {audited stored : Bool} {result : Option ReplayCloseResult}

theorem endSession_runs (own : Own given state) (mine : Mine given jump.session)
    (ended : ∀ published, result = some published → stem published.path = given.rowUuid.text) :
    Runs given ((⟨jump, brokerChannel, audited, stored⟩ : JumpPtyBridge Setup).endSession status now
      error result) (fun _ => Own given) state := by
  have stores : Runs given (Coro.onlyIf stored (waitFor (.closeRow
      ((⟨jump, brokerChannel, audited, stored⟩ : JumpPtyBridge Setup).closeRowRequest status now error
        result)))) (fun _ => Own given) state := by
    refine Coro.wp_onlyIf (fun _ => closeRow_runs own fun _ => ?_) fun _ => own
    cases result with
    | none => exact mine.2
    | some published => exact ended published rfl
  refine Coro.wp_bind (Coro.wp_mono ?_ stores)
  rintro (fault | _) persisted own
  · exact own
  have asks : Runs given ((brokerChannel : PtyChannel Setup).closeSession jump.channelId)
      (fun _ => Own given) persisted := by
    refine Coro.wp_bind (update_safe (fun recording => recording) ?_)
    exact waitFor_runs (fun _ impossible => by cases impossible)
      (fun _ impossible => by cases impossible) (own.record rfl)
  refine Coro.wp_bind (Coro.wp_mono ?_ asks)
  rintro (fault | _) asked own
  · exact own
  · refine Coro.wp_onlyIf (fun _ => ?_) fun _ => own
    exact waitFor_runs (fun _ impossible => by cases impossible)
      (fun _ impossible => by cases impossible) own

theorem close_runs (own : Own given state) (recording : state.rest.recording.isSome)
    (mine : Mine given jump.session) :
    Runs given ((⟨jump, brokerChannel, audited, stored⟩ : JumpPtyBridge Setup).close status now error)
      (fun _ => Own given) state := by
  unfold JumpPtyBridge.close
  rcases JumpRuns.beginClose_cases status now state with ⟨-, begun⟩ | ⟨-, begun⟩
  · refine Coro.wp_bind (change_safe ?_ ?_)
    · rw [begun]
      exact fun recording => recording
    · rw [begun]
      exact own.record rfl
  · have kept := (JumpRuns.endRecording_continues status now state.faults state.recorder).path
    refine Coro.wp_bind (change_safe ?_ ?_)
    · rw [begun]
      exact fun recording => recording
    rw [begun]
    cases ended : (JumpPtyBridge.endRecording status now state.faults state.recorder).1 with
    | error fault => exact own.record kept
    | ok result =>
        apply endSession_runs (own.record kept) mine
        rintro published rfl
        -- only a close with the status CLOSED gives a path, that of the recorder
        cases status with
        | CLOSED =>
            rw [JumpPtyBridge.endRecording] at ended
            cases returned : (state.recorder.close state.faults now).1 with
            | error fault =>
                rw [returned] at ended
                cases ended
            | ok closed =>
                rw [returned] at ended
                cases ended
                rw [(ReplayRecorder.close_published returned).2.2.2.1]
                exact own.recorder recording
        | FAILED | TERMINATED =>
            rw [JumpPtyBridge.endRecording] at ended
            cases returned : (state.recorder.fail state.faults).1 with
            | error fault =>
                rw [returned] at ended
                cases ended
            | ok _ =>
                rw [returned] at ended
                cases ended
        | OPEN => cases ended

theorem failWithoutBridge_runs {error : Str} (own : Own given state) (mine : Mine given jump.session) :
    Runs given (failWithoutBridge jump stored audited error now) (fun _ => Own given) state := by
  have failed : Own given (onRecorder (fun faults recorder => recorder.fail faults) state).2 :=
    own.record ReplayRecorder.fail_continues.path
  refine Coro.wp_bind (change_safe (fun recording => recording) ?_)
  cases (onRecorder (fun faults recorder => recorder.fail faults) state).1 with
  | error fault => exact failed
  | ok _ =>
      have stores : Runs given (Coro.onlyIf stored (waitFor (.closeRow ⟨jump.session.sessionId, .FAILED,
          now, jump.session.replayPath, none, some error⟩))) (fun _ => Own given)
          (onRecorder (fun faults recorder => recorder.fail faults) state).2 :=
        Coro.wp_onlyIf (fun _ => closeRow_runs failed fun _ => mine.2) fun _ => failed
      refine Coro.wp_bind (Coro.wp_mono ?_ stores)
      rintro (fault | _) after own
      · exact own
      · refine Coro.wp_onlyIf (fun _ => ?_) fun _ => own
        exact waitFor_runs (fun _ impossible => by cases impossible)
          (fun _ impossible => by cases impossible) own
end Endings

def contract : Contract PathWorld Exc Unit := ⟨Stays, Stays, fun _ _ => True⟩

theorem contract_lawful : contract.Lawful where
  rely_refl _ recording := recording
  rely_trans _ _ _ first second := second ∘ first
  guarantee_refl _ recording := recording
  guarantee_trans _ _ _ first second := second ∘ first
  stable _ _ _ _ _ := trivial

theorem stored_stays {α : Type} {request : CloseRow} {answer : Except Exc α} {after : PathWorld}
    (stored : Stored (updateRow request) answer world after) : Stays world after := by
  rcases stored with rfl | ⟨-, rfl⟩
  · intro recording
    rw [updateRow_recording]
    exact recording
  · exact fun recording => recording

theorem pathWorld_stays {call : SessionCall} {answer : Except Exc (SessionResult call)}
    {before after : PathWorld} (given_ : pathWorld given call answer before after) :
    Stays before after := by
  cases call with
  | jump call =>
      cases call with
      | createSession request =>
          rcases given_.1 with rfl | ⟨-, rfl⟩ <;> exact fun recording => recording
      | startReplay request =>
          cases answer with
          | ok replay =>
              obtain ⟨header, rfl⟩ := given_
              exact fun _ => rfl
          | error fault =>
              rw [show after = before from given_]
              exact fun recording => recording
      | failSession sessionId endedAt => exact stored_stays given_
      | failReplay replay error now =>
          rw [(Prod.mk.inj given_).2]
          exact fun recording => recording
      | _ =>
          rw [show after = before from given_]
          exact fun recording => recording
  | closeRow request => exact stored_stays given_
  | _ =>
      rw [show after = before from given_]
      exact fun recording => recording

theorem program_safe (agree : given.sessionUuid = given.rowUuid) {task : PathTask}
    {program : SessionTask Setup Unit} (spawned : pathPrograms given task program state)
    (own : Own given state) : Safe (pathWorld given) (Own given) contract program state := by
  have runs : Runs given program (fun _ => Own given) state := by
    cases task with
    | setUp =>
        obtain ⟨jump, rfl⟩ := spawned
        exact setUp_runs agree jump own
    | ending serial =>
        obtain ⟨jump, ending, made, rfl⟩ := spawned
        obtain ⟨recording, mine⟩ := own.started jump made
        cases ending with
        | close audited stored status now error => exact close_runs own recording mine
        | failWithoutBridge audited stored error now => exact failWithoutBridge_runs own mine
    | record serial =>
        obtain ⟨seconds, stream, payload, -, rfl⟩ := spawned
        rcases JumpRuns.recordEvent_cases seconds stream payload state with
          ⟨-, -, same⟩ | ⟨_, recorder, same, left⟩
        · refine change_safe ?_ ?_
          · rw [same]
            exact fun recording => recording
          · rw [same]
            exact own.record rfl
        · have path : recorder.path = state.recorder.path := by
            rcases left with rfl | ⟨rfl, -⟩
            · rfl
            · exact ReplayRecorder.fail_continues.path
          refine change_safe ?_ ?_
          · rw [same]
            exact fun recording => recording
          · rw [same]
            exact own.record path
    | storage serial =>
        obtain ⟨faults, rfl⟩ := spawned
        exact update_safe (fun recording => recording) (own.record rfl)
  exact Coro.wp_mono (fun _ _ kept => ⟨kept, trivial⟩) runs

theorem pool_own (agree : given.sessionUuid = given.rowUuid) {faults : ReplayFaults} {pool : PathPool}
    (reached : PathReachable given faults pool) : Own given pool.state := by
  have safe : pool.Safe (fun _ => pathWorld given) (Own given) (fun _ => contract) :=
    reachable_safe (fun _ => contract_lawful) (fun _ _ _ _ _ moved => moved)
      (fun _ _ _ _ _ answers => pathWorld_stays answers)
      (fun _ _ _ spawned own => program_safe agree spawned own) (own_before faults) reached
  exact safe.1
end Agreeing

/-! A jump of alice to node-01, up to its row. -/
def jumpOne : Jump :=
  ⟨false, ⟨4⟩, ⟨lit "alice"⟩, lit "node-01", [⟨lit "node-01"⟩], some (lit "key"), 80, 24,
    ⟨1000000, some 0⟩⟩

theorem jumpOne_named : parseRestrictedShellCommand jumpOne.command
    (jumpOne.visibleNodes.map (·.nodeName)) = .ok (lit "node-01") := by
  decide +kernel

theorem jumpOne_pinned : validatePinnedHostKey (some JumpChecks.targetOne.nodeSshHostPublicKey)
    jumpOne.presentedNodeHostKey = .ok (lit "key") := by
  decide +kernel

theorem jumpOne_fresh : JumpChecks.targetOne.heartbeat.allowsNewJump jumpOne.now = true := by
  decide +kernel

/-- The target is found, and then the row is asked for, and then the recorder. -/
theorem settle_setUp (given : Given) (state : PathWorld) : ∃ resume,
    settle (setUp given jumpOne) state =
      (.call (.await (.jump (.getJumpTarget (lit "node-01")))) resume, state) ∧
    ∀ later, ∃ finish, settle (resume (.ok (some JumpChecks.targetOne))) later =
      (.call (.await (.jump (.createSession ⟨JumpChecks.targetOne.agentId, lit "alice",
        lit "node-01", castName given.sessionUuid, ⟨1000000, some 0⟩⟩))) finish, later) ∧
      ∀ (session : JumpSession) last, ∃ rest, settle (finish (.ok session)) last = (rest, last) := by
  unfold setUp startJump authorizedTarget
  rw [jumpOne_named]
  refine ⟨_, rfl, ?_⟩
  intro later
  dsimp only [Coro.ofAnswer, Coro.bind]
  rw [jumpOne_pinned]
  dsimp only [Bind.bind, Coro.bind]
  rw [jumpOne_fresh]
  exact ⟨_, rfl, fun session last => ⟨_, rfl⟩⟩

/-- The row is made with the path that is named after the draw of the jump. -/
theorem row_made (given : Given) (faults : ReplayFaults) : ∃ pool, PathReachable given faults pool ∧
    pool.state.rest.created = some given.rowUuid ∧
    pool.state.columns.replayPath = castName given.sessionUuid := by
  have fresh : PathReachable given faults ⟨fun _ => none, beforeJump given faults⟩ := .start
  obtain ⟨resume, asks, found⟩ := settle_setUp given (beforeJump given faults)
  obtain ⟨asking, reached, -, tasks⟩ := fresh.spawned .setUp rfl ⟨jumpOne, rfl⟩ asks
  obtain ⟨finish, asksRow, goesOn⟩ := found asking.state
  obtain ⟨making, reached, -, tasks⟩ :=
    reached.resumed_beside tasks (.ok (some JumpChecks.targetOne)) rfl asksRow
  let session : JumpSession := ⟨given.rowUuid, 1, castName given.sessionUuid, ⟨1000000, some 0⟩⟩
  obtain ⟨rest, settled⟩ := goesOn session (insertRow given ⟨JumpChecks.targetOne.agentId, lit "alice",
    lit "node-01", castName given.sessionUuid, ⟨1000000, some 0⟩⟩ making.state)
  have answered : pathWorld given (.jump (.createSession ⟨JumpChecks.targetOne.agentId, lit "alice",
      lit "node-01", castName given.sessionUuid, ⟨1000000, some 0⟩⟩)) (.ok session) making.state
      (insertRow given ⟨JumpChecks.targetOne.agentId, lit "alice", lit "node-01",
        castName given.sessionUuid, ⟨1000000, some 0⟩⟩ making.state) := by
    refine ⟨.inl rfl, fun made same => ?_⟩
    cases same
    exact ⟨rfl, rfl⟩
  obtain ⟨made, reached, state, -⟩ := reached.resumed_beside tasks (.ok session) answered settled
  refine ⟨made, reached, ?_⟩
  rw [state]
  exact ⟨rfl, rfl⟩

/-- Every session row points at its own recording in every state of every run
exactly if the jump and the row draw the same uuid. -/
theorem session_rows_own_path (given : Given) (faults : ReplayFaults) :
    (∀ pool, PathReachable given faults pool → OwnPath pool.state) ↔
      given.sessionUuid = given.rowUuid := by
  constructor
  · intro owns
    obtain ⟨pool, reached, created, path⟩ := row_made given faults
    obtain ⟨named, -⟩ := owns pool reached given.rowUuid created
    rw [path, stem_cast] at named
    exact Uuid.text_injective named
  · intro agree pool reached
    exact (pool_own agree reached).ownPath

/-- The jump draws 3 and the store draws 5. -/
def givenOne : Given := ⟨⟨3⟩, ⟨5⟩, lit "/replays", fun _ => lit "digest", false⟩

theorem row_points_elsewhere : ∃ pool, PathReachable givenOne .none pool ∧
    pool.state.rest.created = some ⟨5⟩ ∧
    stem pool.state.columns.replayPath = (⟨3⟩ : Uuid).text ∧ ¬OwnPath pool.state := by
  obtain ⟨pool, reached, created, path⟩ := row_made givenOne .none
  have named : stem pool.state.columns.replayPath = (⟨3⟩ : Uuid).text := by
    rw [path]
    exact stem_cast _
  refine ⟨pool, reached, created, named, fun own => ?_⟩
  have same := (own _ created).1
  rw [named] at same
  have equal := congrArg Uuid.value (Uuid.text_injective same)
  exact absurd equal (by decide)

end VibeConnect.SessionPaths
