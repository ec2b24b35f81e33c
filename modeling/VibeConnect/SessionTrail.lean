import VibeConnect.ReplayFile
import VibeConnect.SessionRows
import VibeConnect.TunnelAuthenticator

/-! The audit trail of one session. A jump is started, and then either its bridge
is made and called by any tasks in any order, or it fails before there is a bridge.
Every call can raise, with or without its work done, and what is around the session
changes at any time. `closers` logs the calls that ask the bridge to close. -/
namespace VibeConnect.SessionTrail
open Python.Text Python.JsonCodec Python.Values Python.Coroutine Python.Tasks Models JumpCoordinator
open Replay ReplayFile JumpBridge JumpRuns
variable {Rest : Type}

/-! The HMAC of a recording. -/
structure Integrity where
  key : Bytes
  hexdigest : Bytes → Bytes → Str
  secondsText : Int → FloatText

def Integrity.digest (integrity : Integrity) (lines : List ReplayLine) : Str :=
  integrity.hexdigest integrity.key ((fileBytes integrity.secondsText lines).getD [])

/-- `verify_replay_hmac`, with what reading the file gave. -/
def verifyReplayHmac (integrity : Integrity) (content : Except Exc Bytes) (expectedHmac : Str) :
    Except Exc Bool := do
  let replayBytes ← content
  TunnelAuthenticator.compareDigest (integrity.hexdigest integrity.key replayBytes) expectedHmac

/-- A hexadecimal digest is ASCII. -/
def Integrity.Hexadecimal (integrity : Integrity) : Prop :=
  ∀ key content, Ascii (integrity.hexdigest key content)

/-- What is written by the session, how far it is, and what is around it. -/
structure Progress (Rest : Type) where
  trail : List AuditRecord
  started : Option StartedJump
  bridged : Bool
  closers : List Nat
  around : Rest

abbrev TrailWorld (Rest : Type) := JumpWorld (Progress Rest)

abbrev TrailTask (Rest : Type) (α : Type) := SessionTask (Progress Rest) α

/-- A channel that knows only what is around the session. -/
def aroundChannel (channel : PtyChannel Rest) : PtyChannel (Progress Rest) where
  sending channelId payload progress :=
    ((channel.sending channelId payload progress.around).1,
      { progress with around := (channel.sending channelId payload progress.around).2 })
  resizing channelId width height progress :=
    ((channel.resizing channelId width height progress.around).1,
      { progress with around := (channel.resizing channelId width height progress.around).2 })
  closing channelId progress := { progress with around := channel.closing channelId progress.around }
  overLink := channel.overLink

/-- What a session is made with, and the request that it gets. -/
structure SessionSetup (Rest : Type) where
  identity : Option ResolvedIdentity
  command : Str
  width : Int
  height : Int
  sessionUuid : Uuid
  channelUuid : Uuid
  coordinatorAudited : Bool
  audited : Bool
  stored : Bool
  channel : PtyChannel Rest

section Programs
variable (setup : SessionSetup Rest)

def SessionSetup.bridge (jump : StartedJump) : JumpPtyBridge (Progress Rest) :=
  ⟨jump, aroundChannel setup.channel, setup.audited, setup.stored⟩

def onProgress (change : Progress Rest → Progress Rest) : TrailTask Rest Unit :=
  update fun world => { world with rest := change world.rest }

def ask (call : JumpCall) : TrailTask Rest (JumpResult call) := waitFor (.jump call)

/-- `_start_exec` up to the started jump. -/
def startUp : TrailTask Rest Unit := do
  let jump ← JumpCoordinator.startExec ask setup.coordinatorAudited setup.sessionUuid setup.channelUuid
    setup.identity setup.command setup.width setup.height
  onProgress fun progress => { progress with started := some jump }

/-- What comes of a started jump: its bridge, or a failure from before there is one.
`_start_exec` fails it when the process cannot be made, the failure task when
`_start_exec` raises, and that can be its own failing of the jump. -/
inductive Outcome where
  | bridged
  | processFailed (now : DateTime)
  | taskFailed (now : DateTime)
  | bothFailed (now later : DateTime)

/-- `_fail_started_jump` before there is a bridge. -/
def SessionSetup.failStartedJump (jump : StartedJump) (error : String) (now : DateTime) :
    TrailTask Rest Unit :=
  failWithoutBridge jump setup.stored setup.audited (lit error) now

def SessionSetup.processFailed (jump : StartedJump) (now : DateTime) : TrailTask Rest Unit :=
  setup.failStartedJump jump "node process start failed" now

/-- The failure task, which is not made for a task that was cancelled. -/
def SessionSetup.taskFailed (jump : StartedJump) (now : DateTime) (raised : Exc) : TrailTask Rest Unit :=
  if raised = .cancelledError then throw raised
  else setup.failStartedJump jump "jump session task failed" now

def Outcome.program (jump : StartedJump) : Outcome → TrailTask Rest Unit
  | bridged => onProgress fun progress => { progress with bridged := true }
  | processFailed now => setup.processFailed jump now
  | taskFailed now => setup.failStartedJump jump "jump session task failed" now
  | bothFailed now later => tryCatch (setup.processFailed jump now) (setup.taskFailed jump later)

/-- The calls that close the bridge. -/
def Closes : BridgeCall → Bool
  | .close .. | .connectionLost .. | .terminate .. => true
  | _ => false

def callBridge (jump : StartedJump) (serial : Nat) (call : BridgeCall) : TrailTask Rest Unit := do
  Coro.onlyIf (Closes call) (onProgress fun progress =>
    { progress with closers := progress.closers ++ [serial] })
  call.program (setup.bridge jump)

inductive SessionKey where
  | start
  | outcome
  | call (serial : Nat)
  | around (serial : Nat)
  deriving DecidableEq

def sessionPrograms (key : SessionKey) (program : TrailTask Rest Unit) (world : TrailWorld Rest) : Prop :=
  match key with
  | .start => program = startUp setup
  | .outcome => ∃ jump outcome, world.rest.started = some jump ∧
      program = Outcome.program setup jump outcome
  | .call serial => ∃ jump call, world.rest.started = some jump ∧ world.rest.bridged = true ∧
      program = callBridge setup jump serial call
  | .around _ => ∃ (faults : ReplayFaults) (shift : Rest → Rest), program = update fun world =>
      { world with faults := faults, rest := { world.rest with around := shift world.rest.around } }

/-- A change that was made, or a fault with or without it. -/
def Made {α : Type} (change : TrailWorld Rest → TrailWorld Rest) (answer : Except Exc α)
    (before after : TrailWorld Rest) : Prop :=
  after = change before ∨ (∃ fault, answer = .error fault) ∧ after = before

/-- The insert of one audit row. -/
def note (record : AuditRecord) (world : TrailWorld Rest) : TrailWorld Rest :=
  { world with rest := { world.rest with trail := world.rest.trail ++ [record] } }

def trailWorld : World (TrailWorld Rest) SessionResult Exc
  | .jump (.failSession sessionId endedAt), answer, before, after =>
      Made (·.closeRow ⟨sessionId, .FAILED, endedAt, sessionId.text ++ lit ".cast", none, none⟩)
        answer before after
  | .jump (.failReplay ..), answer, before, after =>
      (answer, after) = onRecorder (fun faults recorder => recorder.fail faults) before
  | .jump (.writeAudit record), answer, before, after => Made (note record) answer before after
  | .closeRow request, answer, before, after => Made (·.closeRow request) answer before after
  | .writeAudit record, answer, before, after => Made (note record) answer before after
  | _, _, before, after => after = before

abbrev TrailPool (Rest : Type) := Pool SessionKey (TrailWorld Rest) SessionResult Exc

def TrailReachable (start : TrailWorld Rest) : TrailPool Rest → Prop :=
  Reachable (fun _ => trailWorld) (sessionPrograms setup) start
end Programs

/-- Before its first request. The row and the recorder are those that the jump
will make. -/
def newSession (integrity : Integrity) (path : Str) (audited : Bool) (header : ReplayLine)
    (faults : ReplayFaults) (columns : RowColumns) (around : Rest) : TrailWorld Rest :=
  JumpRuns.started path integrity.digest audited header faults columns ⟨[], none, false, [], around⟩

/-! What a trail says of its session. -/
section Truth
variable (integrity : Integrity) (setup : SessionSetup Rest) (jump : StartedJump) (record : AuditRecord)
  (world : TrailWorld Rest)

/-- A denial. One that names a session comes after its row has failed. -/
def Denies : Prop :=
  record.eventType = .NODE_AUTHORIZATION_DENIED ∧ (record.sessionId ≠ none → world.row = .FAILED)

/-- The record of the start. -/
def Opens : Prop :=
  record.eventType = .SESSION_STARTED ∧ record.actor = jump.userCertificate.username ∧
    record.agentId = some jump.target.agentId ∧ record.sessionId = some jump.session.sessionId

/-- The recording is published under the path that the record gives, the HMAC of the
record verifies what has the HMAC of that file, and the row says the same. -/
structure TellsClosed : Prop where
  type : record.eventType = .SESSION_CLOSED
  published : ∃ lines bytes hmac, world.recorder.published = some lines ∧ world.recorder.temp = none ∧
    fileBytes integrity.secondsText lines = some bytes ∧
    record.metadata = [(lit "status", .str (lit SessionStatus.CLOSED.value)),
      (lit "replay_path", .str world.recorder.path), (lit "replay_hmac", .str hmac)] ∧
    (∀ content, verifyReplayHmac integrity (.ok content) hmac = .ok true ↔
      integrity.hexdigest integrity.key content = integrity.hexdigest integrity.key bytes) ∧
    (setup.stored = true → world.row = .CLOSED ∧
      world.columns = ⟨some record.now.asUtc, world.recorder.path, some hmac⟩)

/-- Nothing is published, and the row has ended without an HMAC. -/
structure TellsFailed : Prop where
  type : record.eventType = .SESSION_FAILED
  unpublished : world.recorder.published = none
  ended : ∃ status error, (status = SessionStatus.FAILED ∨ status = SessionStatus.TERMINATED) ∧
    record.metadata = [(lit "status", .str (lit status.value)), (lit "error", .str error)] ∧
    (setup.stored = true → world.row = status ∧
      world.columns.replayPath = jump.session.replayPath ∧ world.columns.replayHmac = none ∧
      (world.rest.bridged = true → world.columns.endedAt = some record.now.asUtc))

/-- What the record of a session's end tells is so. -/
structure Tells : Prop where
  actor : record.actor = jump.userCertificate.username
  agent : record.agentId = some jump.target.agentId
  session : record.sessionId = some jump.session.sessionId
  node : record.nodeName = some jump.target.nodeName
  stopped : world.recorder.closed = true
  asked : world.rest.bridged = true → world.channelAsked = true
  told : TellsClosed integrity setup record world ∨ TellsFailed setup jump record world

/-- The trail begins with the start, if that is audited. -/
def Begins (opening : List AuditRecord) : Prop :=
  if setup.coordinatorAudited then ∃ record, opening = [record] ∧ Opens jump record else opening = []

/-- A jump that has not started leaves at most one record. After the start comes at
most one record of the end; before there is a bridge a second one is possible. -/
inductive Truthful : Prop where
  | unstarted (waiting : world.rest.started = none) (records : world.rest.trail = [] ∨
      ∃ record, world.rest.trail = [record] ∧
        (Denies record world ∨ record.eventType = .SESSION_STARTED))
  | started (jump : StartedJump) (opening ends : List AuditRecord)
      (begun : world.rest.started = some jump) (trail : world.rest.trail = opening ++ ends)
      (begins : Begins setup jump opening)
      (tells : ∀ record ∈ ends, Tells integrity setup jump record world)
      (count : ends.length ≤ 1 ∨ world.rest.bridged = false ∧ ends.length ≤ 2)
end Truth

end VibeConnect.SessionTrail
