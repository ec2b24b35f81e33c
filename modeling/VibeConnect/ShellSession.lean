import VibeConnect.JumpBridge

/-! A restricted shell session on the event loop. The callbacks of the user's
channel run at once; everything else runs in tasks that they create. A task has
a number, and it may have been cancelled before it begins. When it has ended,
its done-callback runs. What the node's process and the user's channel were
asked to do is kept in the order in which it was asked. -/
namespace VibeConnect.ShellSession
open Python.Text Python.Values Python.Coroutine Python.Tasks Models JumpCoordinator Replay JumpBridge

inductive OutputStream where
  | stdout | stderr
  deriving DecidableEq

/-- What the user sends, and what the process is sent. -/
inductive InputEvent where
  | data (payload : Bytes)
  | eof
  deriving DecidableEq

/-- The calls on the user's channel; a write keeps the stream it comes from. -/
inductive ChannelCall where
  | write (origin : OutputStream) (payload : Bytes)
  | exit (status : Int)
  | close
  deriving DecidableEq

/-- The coroutines that a session makes tasks of. -/
inductive TaskBody where
  | startExec (command : Str)
  | sendUserInput (jump : StartedJump) (seconds : Int) (payload : Bytes)
  | resizePty (jump : StartedJump) (width height : Int)
  | pumpOutput (stream : OutputStream)
  | waitForProcess
  | connectionLost (jump : StartedJump) (lost : Option Str) (now : DateTime)
  | failStartedJump (error : Str)

/-- The channel to the node that a jump opens, with the SSH connection in it. -/
inductive NodeLink where
  | unopened | opened | closed
  deriving DecidableEq

/-- The session object, and what it uses. `bridge` is the bridge by the jump it
was made for; `_process` and `_lifecycle` are set with it, and nothing is awaited
in between. `arrived`, `closers`, `begun` and `lost` log the input that came, the
tasks that asked the bridge to close, the tasks that began and the end of the
user's channel. `content` is what the process writes in its life. -/
structure Shell where
  termSize : Int × Int
  started : Option StartedJump
  bridge : Option StartedJump
  taskFailed : Bool
  pendingInput : List Bytes
  pendingEof : Bool
  pumpTasks : List Nat
  created : List TaskBody
  begun : List Nat
  cancelled : List Nat
  outcomes : Nat → Option (Except Exc Unit)
  now : DateTime
  stdin : List InputEvent
  stdinFault : Option Exc
  resizeFault : Option Exc
  channel : List ChannelCall
  channelFault : Option Exc
  content : OutputStream → Bytes
  read : OutputStream → Bytes
  processEnded : Bool
  rowCreated : Bool
  recorderStarted : Bool
  node : NodeLink
  arrived : List InputEvent
  closers : List Nat
  lost : Bool

abbrev ShellWorld := JumpWorld Shell

abbrev ShellTask := SessionTask Shell

/-- What a session is made with. -/
structure ShellConfig where
  identity : Option ResolvedIdentity
  sessionUuid : Uuid
  channelUuid : Uuid
  coordinatorAudited : Bool
  audited : Bool
  stored : Bool
  hasChannel : Bool

namespace Shell

/-- `_elapsed_seconds`. -/
def elapsedSeconds (shell : Shell) : Int :=
  match shell.started with
  | none => 0
  | some jump => max 0 (shell.now.instant - jump.session.startedAt.instant)

/-- `_create_pump`. -/
def createPump (body : TaskBody) (shell : Shell) : Shell :=
  { shell with
    created := shell.created ++ [body], pumpTasks := shell.pumpTasks ++ [shell.created.length] }

/-- `_exit`. -/
def exitChannel (config : ShellConfig) (status : Int) (shell : Shell) : Shell :=
  if config.hasChannel then { shell with channel := shell.channel ++ [.exit status, .close] } else shell

def writeChannel (origin : OutputStream) (payload : Bytes) (shell : Shell) : Except Exc Unit × Shell :=
  match shell.channelFault with
  | some fault => (.error fault, shell)
  | none => (.ok (), { shell with channel := shell.channel ++ [.write origin payload] })

def writeStdin (payload : Bytes) (shell : Shell) : Except Exc Unit × Shell :=
  match shell.stdinFault with
  | some fault => (.error fault, shell)
  | none => (.ok (), { shell with stdin := shell.stdin ++ [InputEvent.data payload] })

def changeTerminalSize (shell : Shell) : Except Exc Unit × Shell :=
  match shell.resizeFault with
  | some fault => (.error fault, shell)
  | none => (.ok (), shell)

/-- The end of `_flush_pending_input`. -/
def flushed (shell : Shell) : Shell :=
  if shell.pendingEof then
    { shell with pendingInput := [], pendingEof := false, stdin := shell.stdin ++ [InputEvent.eof] }
  else { shell with pendingInput := [] }

def begin (number : Nat) (shell : Shell) : Shell := { shell with begun := shell.begun ++ [number] }

def finish (number : Nat) (ended : Except Exc Unit) (shell : Shell) : Shell :=
  { shell with outcomes := Function.update shell.outcomes number (some ended) }

/-- `_pump_done`. -/
def pumpDone (config : ShellConfig) (number : Nat) (shell : Shell) : Shell :=
  let shell := { shell with pumpTasks := shell.pumpTasks.erase number }
  match shell.outcomes number with
  | none | some (.ok _) | some (.error .cancelledError) => shell
  | some (.error _) =>
      if shell.taskFailed then shell
      else
        let shell := { shell with taskFailed := true, cancelled := shell.cancelled ++ shell.pumpTasks }
        (shell.createPump (.failStartedJump (lit "jump session task failed"))).exitChannel config 1

/-- `_failure_done`. -/
def failureDone (number : Nat) (shell : Shell) : Shell :=
  { shell with pumpTasks := shell.pumpTasks.erase number }

/-- The callback that a task was given when it was created. -/
def taskDone (config : ShellConfig) (number : Nat) (shell : Shell) : Shell :=
  match shell.created[number]? with
  | some (.failStartedJump _) => shell.failureDone number
  | _ => shell.pumpDone config number

/-! The callbacks of the user's channel. -/
def execRequested (command : Str) (shell : Shell) : Shell := shell.createPump (.startExec command)

def dataReceived (payload : Bytes) (shell : Shell) : Shell :=
  let shell := { shell with arrived := shell.arrived ++ [InputEvent.data payload] }
  match shell.bridge with
  | none => { shell with pendingInput := shell.pendingInput ++ [payload] }
  | some jump => shell.createPump (.sendUserInput jump shell.elapsedSeconds payload)

def eofReceived (shell : Shell) : Shell :=
  let shell := { shell with arrived := shell.arrived ++ [InputEvent.eof] }
  match shell.bridge with
  | none => { shell with pendingEof := true }
  | some _ => { shell with stdin := shell.stdin ++ [InputEvent.eof] }

def terminalSizeChanged (width height : Int) (shell : Shell) : Shell :=
  let shell := { shell with termSize := (width, height) }
  match shell.bridge with
  | none => shell
  | some jump => shell.createPump (.resizePty jump width height)

/-- Every task is cancelled but the one that closes the bridge. -/
def connectionLost (lost : Option Str) (shell : Shell) : Shell :=
  let shell := { shell with lost := true, cancelled := shell.cancelled ++ shell.pumpTasks }
  match shell.bridge with
  | none => shell
  | some jump => shell.createPump (.connectionLost jump lost shell.now)

end Shell

inductive Callback where
  | ptyRequested (width height : Int)
  | execRequested (command : Str)
  | dataReceived (payload : Bytes)
  | eofReceived
  | terminalSizeChanged (width height : Int)
  | connectionLost (lost : Option Str)

def Callback.apply : Callback → Shell → Shell
  | ptyRequested width height, shell => { shell with termSize := (width, height) }
  | execRequested command, shell => shell.execRequested command
  | dataReceived payload, shell => shell.dataReceived payload
  | eofReceived, shell => shell.eofReceived
  | terminalSizeChanged width height, shell => shell.terminalSizeChanged width height
  | connectionLost lost, shell => shell.connectionLost lost

/-- `_NodeProcessPtyChannel`. -/
def nodeChannel : PtyChannel Shell where
  sending _ payload shell := shell.writeStdin payload
  resizing _ _ _ shell := shell.changeTerminalSize
  closing _ shell := { shell with node := .closed }
  overLink := false

def bridgeOf (config : ShellConfig) (jump : StartedJump) : JumpPtyBridge Shell :=
  ⟨jump, nodeChannel, config.audited, config.stored⟩

def onShell (change : Shell → Shell) : ShellTask Unit :=
  update fun world => { world with rest := change world.rest }

def ask (call : JumpCall) : ShellTask (JumpResult call) := waitFor (.jump call)

section Tasks
variable (config : ShellConfig) (number : Nat)

/-- Log who asks the bridge to close. -/
def noteCloser : ShellTask Unit :=
  onShell fun shell => { shell with closers := shell.closers ++ [number] }

def failStartedJump (error : Str) : ShellTask Unit := do
  let world ← look
  match world.rest.started with
  | none => pure ()
  | some jump =>
      match world.rest.bridge with
      | some bridged => do
          noteCloser number
          (bridgeOf config bridged).close .FAILED world.rest.now (some error)
      | none => failWithoutBridge jump config.stored config.audited error world.rest.now

/-- The loop of `_flush_pending_input`. -/
def sendPending (jump : StartedJump) : List Bytes → ShellTask Unit
  | [] => pure ()
  | payload :: rest => do
      let world ← look
      (bridgeOf config jump).sendUserInput world.rest.elapsedSeconds payload
      sendPending jump rest

def flushPendingInput (jump : StartedJump) : ShellTask Unit := do
  let world ← look
  sendPending config jump world.rest.pendingInput
  onShell Shell.flushed

/-- `_start_exec` once the process exists. -/
def attach (jump : StartedJump) : ShellTask Unit := do
  onShell fun shell => { shell with bridge := some jump }
  flushPendingInput config jump
  onShell fun shell => ((shell.createPump (.pumpOutput .stdout)).createPump
    (.pumpOutput .stderr)).createPump .waitForProcess

/-- The `except` clauses of `_start_exec`. -/
def execFault : Exc → ShellTask Unit
  | .sshServerError _ => onShell (Shell.exitChannel config 1)
  | raised =>
      if raised.isOSError || raised = .asyncsshError then do
        failStartedJump config number (lit "node process start failed")
        onShell (Shell.exitChannel config 1)
      else throw raised

def startExec (command : Str) : ShellTask Unit :=
  tryCatch (do
    let world ← look
    let jump ← JumpCoordinator.startExec ask config.coordinatorAudited config.sessionUuid
      config.channelUuid config.identity command world.rest.termSize.1 world.rest.termSize.2
    onShell fun shell => { shell with started := some jump }
    waitFor (.createProcess jump.nodeConnection)
    attach config jump) (execFault config number)

/-- One turn of `_pump_output`. -/
def relayOutput (stream : OutputStream) (chunk : Bytes) : ShellTask Unit := do
  let world ← look
  let payload ← match world.rest.bridge with
    | none => pure chunk
    | some _ => JumpPtyBridge.receiveNodeOutput world.rest.elapsedSeconds chunk
  Coro.onlyIf config.hasChannel (change (onRest (Shell.writeChannel stream payload)))

def pumpOutput (stream : OutputStream) : Nat → ShellTask Unit
  | 0 => waitFor .never
  | turns + 1 => do
      let chunk ← waitFor (.readOutput 32768)
      if chunk = [] then pure ()
      else do
        relayOutput config stream chunk
        pumpOutput stream turns

def waitForProcess : ShellTask Unit := do
  waitFor .processClosed
  let world ← look
  match world.rest.bridge with
  | none => pure ()
  | some jump => do
      noteCloser number
      (bridgeOf config jump).connectionLost none world.rest.now
  onShell (Shell.exitChannel config 0)

def TaskBody.program (turns : Nat) : TaskBody → ShellTask Unit
  | startExec command => ShellSession.startExec config number command
  | sendUserInput jump seconds payload => (bridgeOf config jump).sendUserInput seconds payload
  | resizePty jump width height => (bridgeOf config jump).resizePty width height
  | pumpOutput stream => ShellSession.pumpOutput config stream turns
  | waitForProcess => ShellSession.waitForProcess config number
  | connectionLost jump lost now => do
      noteCloser number
      (bridgeOf config jump).connectionLost lost now
  | failStartedJump error => ShellSession.failStartedJump config number error

/-- A task from its first step on. One that was cancelled before does nothing. -/
def runTask (turns : Nat) (body : TaskBody) : ShellTask Unit := do
  onShell (Shell.begin number)
  let world ← look
  let ended ← if number ∈ world.rest.cancelled then pure (.error .cancelledError)
    else Coro.outcome (body.program config number turns)
  onShell (Shell.finish number ended)
end Tasks

/-! How the calls of a task are answered. A call that raises may have done its
work before. -/
def JumpAnswers : (call : JumpCall) → Except Exc (JumpResult call) → ShellWorld → ShellWorld → Prop
  | .createSession _, answer, before, after =>
      let inserted := { before with rest := { before.rest with rowCreated := true } }
      after = inserted ∨ (∃ fault, answer = .error fault) ∧ after = before
  | .failSession sessionId endedAt, answer, before, after =>
      after = before.closeRow ⟨sessionId, .FAILED, endedAt, sessionId.text ++ lit ".cast", none, none⟩ ∨
        (∃ fault, answer = .error fault) ∧ after = before
  | .startReplay _, .ok _, before, after =>
      after = { before with rest := { before.rest with recorderStarted := true } }
  | .failReplay .., answer, before, after =>
      (answer, after) = onRecorder (fun faults recorder => recorder.fail faults) before
  | .openSession _, answer, before, after =>
      let opened := { before with rest := { before.rest with node := .opened } }
      after = opened ∨ (∃ fault, answer = .error fault) ∧ after = before
  | _, _, before, after => after = before

/-- A read takes the next bytes, and nothing when there are no more. -/
def Reads (number count : Nat) (chunk : Bytes) (before after : ShellWorld) : Prop :=
  ∃ stream, before.rest.created[number]? = some (.pumpOutput stream) ∧ chunk.length ≤ count ∧
    before.rest.read stream ++ chunk <+: before.rest.content stream ∧
    (chunk = [] → before.rest.read stream = before.rest.content stream) ∧
    after = { before with rest := { before.rest with
      read := Function.update before.rest.read stream (before.rest.read stream ++ chunk) } }

def shellWorld (number : Nat) : World ShellWorld SessionResult Exc
  | .jump call, answer, before, after => JumpAnswers call answer before after
  | .closeRow request, answer, before, after =>
      after = before.closeRow request ∨ (∃ fault, answer = .error fault) ∧ after = before
  | .readOutput count, .ok chunk, before, after => Reads number count chunk before after
  | .processClosed, .ok _, before, after =>
      after = { before with rest := { before.rest with processEnded := true } }
  | .never, .ok _, _, _ => False
  | _, _, before, after => after = before

/-- What changes around a session at any time. -/
structure Surroundings where
  now : DateTime
  replay : ReplayFaults
  stdin : Option Exc
  resize : Option Exc
  channel : Option Exc

def Surroundings.enter (around : Surroundings) (world : ShellWorld) : ShellWorld :=
  { world with
    faults := around.replay
    rest := { world.rest with
      now := around.now
      stdinFault := around.stdin
      resizeFault := around.resize
      channelFault := around.channel } }

inductive LoopKey where
  | task (number : Nat)
  | ended (number : Nat)
  | callback (serial : Nat)
  | around (serial : Nat)
  deriving DecidableEq

/-- A channel makes one exec request, and its end is the last that comes of it. -/
def Callback.Delivered (callback : Callback) (shell : Shell) : Prop :=
  shell.lost = false ∧ ∀ command, callback = .execRequested command →
    ∀ other, TaskBody.startExec other ∉ shell.created

def shellPrograms (config : ShellConfig) (key : LoopKey) (program : ShellTask Unit)
    (world : ShellWorld) : Prop :=
  match key with
  | .task number => ∃ body turns, world.rest.created[number]? = some body ∧
      program = runTask config number turns body
  | .ended number => (world.rest.outcomes number).isSome ∧
      program = onShell (Shell.taskDone config number)
  | .callback _ => ∃ callback : Callback, callback.Delivered world.rest ∧
      program = onShell callback.apply
  | .around _ => ∃ around : Surroundings, program = update around.enter

/-- Only tasks make calls. -/
def loopWorld (worlds : Nat → World ShellWorld SessionResult Exc) : LoopKey →
    World ShellWorld SessionResult Exc
  | .task number => worlds number
  | _ => fun _ _ _ _ => False

abbrev ShellPool := Pool LoopKey ShellWorld SessionResult Exc

/-- A new session on a channel, before its first request. -/
def Shell.new (termSize : Int × Int) (now : DateTime) (content : OutputStream → Bytes) : Shell :=
  ⟨termSize, none, none, false, [], false, [], [], [], [], fun _ => none, now, [], none, none, [], none,
    content, fun _ => [], false, false, false, .unopened, [], [], false⟩

/-- The row and the recorder are those that the jump will make. -/
def newWorld (path : Str) (digest : List ReplayLine → Str) (replayAudited : Bool) (header : ReplayLine)
    (columns : RowColumns) (shell : Shell) : ShellWorld :=
  inUse (ReplayRecorder.new path digest replayAudited header) .none columns [] shell

end VibeConnect.ShellSession
