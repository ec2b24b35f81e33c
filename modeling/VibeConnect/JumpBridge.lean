import VibeConnect.JumpCoordinator
import VibeConnect.Python.Tasks
import VibeConnect.Replay

/-! The PTY bridge of a started jump and the lifecycle above it, as tasks. The
world they share holds the bridge's `_closed` flag, the recorder, the session
row and whether the channel was asked to close; what else a session keeps is a
parameter. `closes` and `recorded` only log what was asked of the bridge. -/
namespace VibeConnect.JumpBridge
open Python.Text Python.JsonCodec Python.Values Python.Coroutine Python.Tasks Models TunnelState
open JumpCoordinator Replay

/-- The columns of a session row that a close writes beside the status. -/
structure RowColumns where
  endedAt : Option DateTime
  replayPath : Str
  replayHmac : Option Str

structure JumpWorld (Rest : Type) where
  bridgeClosed : Bool
  recorder : ReplayRecorder
  faults : ReplayFaults
  row : SessionStatus
  columns : RowColumns
  channelAsked : Bool
  closes : List SessionStatus
  recorded : List ReplayEvent
  rest : Rest

/-- The arguments of the session store's `close_session`. -/
structure CloseRow where
  sessionId : Uuid
  status : SessionStatus
  endedAt : DateTime
  replayPath : Str
  replayHmac : Option Str
  error : Option Str

/-- `UPDATE sessions ... WHERE id = $1 AND status = 'open'`. -/
def JumpWorld.closeRow {Rest : Type} (request : CloseRow) (world : JumpWorld Rest) : JumpWorld Rest :=
  if world.row = .OPEN then
    { world with
      row := request.status
      columns := ⟨some request.endedAt.asUtc, request.replayPath, request.replayHmac⟩ }
  else world

section CloseRow
variable {Rest : Type} (request : CloseRow) (world : JumpWorld Rest)

@[simp] theorem JumpWorld.closeRow_row :
    (world.closeRow request).row = if world.row = .OPEN then request.status else world.row := by
  unfold closeRow
  split <;> rfl

/-- The update writes the row alone. -/
theorem JumpWorld.closeRow_same : world.closeRow request =
    { world with
      row := (world.closeRow request).row, columns := (world.closeRow request).columns } := by
  unfold closeRow
  split <;> rfl

@[simp] theorem JumpWorld.closeRow_bridgeClosed :
    (world.closeRow request).bridgeClosed = world.bridgeClosed := by
  rw [closeRow_same]

@[simp] theorem JumpWorld.closeRow_channelAsked :
    (world.closeRow request).channelAsked = world.channelAsked := by
  rw [closeRow_same]

theorem JumpWorld.closeRow_closed (closed : world.row ≠ .OPEN) : world.closeRow request = world := by
  unfold closeRow
  rw [if_neg closed]

theorem JumpWorld.closeRow_columns (was : world.row = .OPEN) : (world.closeRow request).columns =
    ⟨some request.endedAt.asUtc, request.replayPath, request.replayHmac⟩ := by
  unfold closeRow
  rw [if_pos was]
end CloseRow

/-- What the tasks of a session wait for. -/
inductive SessionCall where
  | jump (call : JumpCall)
  | closeRow (request : CloseRow)
  | sendData (channelId : ChannelId) (payload : Bytes)
  | resizePty (channelId : ChannelId) (width height : Int)
  | channelClosed (channelId : ChannelId)
  | writeAudit (record : AuditRecord)
  | createProcess (connection : NodeConnection)
  | readOutput (count : Nat)
  | processClosed
  | never

abbrev SessionResult : SessionCall → Type
  | .jump call => JumpResult call
  | .readOutput _ => Bytes
  | _ => Unit

abbrev SessionTask (Rest : Type) := Task (JumpWorld Rest) SessionResult Exc

def waitFor {Rest : Type} (call : SessionCall) : SessionTask Rest (SessionResult call) := await call

section Bridge
variable {Rest : Type}

/-- `TunnelPtyChannel`. A channel's operations first do something at once; those
of the broker then wait for the link, and those of a node process only do so to
close. -/
structure PtyChannel (Rest : Type) where
  sending : ChannelId → Bytes → Rest → Except Exc Unit × Rest
  resizing : ChannelId → Int → Int → Rest → Except Exc Unit × Rest
  closing : ChannelId → Rest → Rest
  overLink : Bool

def onRest {α : Type} (block : Rest → Except Exc α × Rest) (world : JumpWorld Rest) :
    Except Exc α × JumpWorld Rest :=
  ((block world.rest).1, { world with rest := (block world.rest).2 })

namespace PtyChannel
variable (channel : PtyChannel Rest)

def sendData (channelId : ChannelId) (payload : Bytes) : SessionTask Rest Unit := do
  change (onRest (channel.sending channelId payload))
  Coro.onlyIf channel.overLink (waitFor (.sendData channelId payload))

def resizePty (channelId : ChannelId) (width height : Int) : SessionTask Rest Unit := do
  change (onRest (channel.resizing channelId width height))
  Coro.onlyIf channel.overLink (waitFor (.resizePty channelId width height))

def closeSession (channelId : ChannelId) : SessionTask Rest Unit := do
  update fun world => { world with channelAsked := true, rest := channel.closing channelId world.rest }
  waitFor (.channelClosed channelId)

end PtyChannel

/-- The broker as the bridge's channel. -/
def brokerChannel : PtyChannel Rest where
  sending _ _ rest := (.ok (), rest)
  resizing _ _ _ rest := (.ok (), rest)
  closing _ rest := rest
  overLink := true

def onRecorder {α : Type} (block : ReplayFaults → ReplayRecorder → Except Exc α × ReplayRecorder)
    (world : JumpWorld Rest) : Except Exc α × JumpWorld Rest :=
  ((block world.faults world.recorder).1,
    { world with recorder := (block world.faults world.recorder).2 })

structure JumpPtyBridge (Rest : Type) where
  startedJump : StartedJump
  tunnelChannel : PtyChannel Rest
  audited : Bool
  stored : Bool

namespace JumpPtyBridge
variable (bridge : JumpPtyBridge Rest)

/-- `_ensure_open`. -/
def ensureOpen (world : JumpWorld Rest) : Except Exc Unit :=
  if world.bridgeClosed then .error (.jumpError "jump channel is closed") else .ok ()

/-- Record one event, and log it if that worked. -/
def recordEvent (seconds : Int) (stream : String) (payload : Bytes) (world : JumpWorld Rest) :
    Except Exc Unit × JumpWorld Rest :=
  let event : ReplayEvent := ⟨seconds, lit stream, decodeEscaped payload⟩
  match onRecorder (fun faults recorder => recorder.record faults event) world with
  | (.ok _, world) => (.ok (), { world with recorded := world.recorded ++ [event] })
  | (.error fault, world) => (.error fault, world)

def sendUserInput (seconds : Int) (payload : Bytes) : SessionTask Rest Unit := do
  let world ← look
  Coro.ofAnswer (ensureOpen world)
  change (recordEvent seconds "i" payload)
  bridge.tunnelChannel.sendData bridge.startedJump.channelId payload

def receiveNodeOutput (seconds : Int) (payload : Bytes) : SessionTask Rest Bytes := do
  let world ← look
  Coro.ofAnswer (ensureOpen world)
  change (recordEvent seconds "o" payload)
  pure payload

def resizePty (width height : Int) : SessionTask Rest Unit := do
  let world ← look
  Coro.ofAnswer (ensureOpen world)
  if width ≤ 0 ∨ height ≤ 0 then throw (.jumpError "PTY size must be positive")
  else bridge.tunnelChannel.resizePty bridge.startedJump.channelId width height

/-- `error or status.value`. -/
def errorText (status : SessionStatus) (error : Option Str) : Str :=
  if error.getD [] = [] then lit status.value else error.getD []

/-- The recorder's part of `close`. -/
def endRecording (status : SessionStatus) (now : DateTime) (faults : ReplayFaults)
    (recorder : ReplayRecorder) : Except Exc (Option ReplayCloseResult) × ReplayRecorder :=
  match status with
  | .CLOSED => ((recorder.close faults now).1.map some, (recorder.close faults now).2)
  | .FAILED | .TERMINATED => ((recorder.fail faults).1.map fun _ => none, (recorder.fail faults).2)
  | .OPEN => (.error (.jumpError "unsupported terminal session status"), recorder)

/-- `close` up to its first suspension; `none` when the bridge was closed before. -/
def beginClose (status : SessionStatus) (now : DateTime) (world : JumpWorld Rest) :
    Except Exc (Option (Option ReplayCloseResult)) × JumpWorld Rest :=
  let world := { world with closes := world.closes ++ [status] }
  if world.bridgeClosed then (.ok none, world)
  else match onRecorder (endRecording status now) { world with bridgeClosed := true } with
    | (.ok result, world) => (.ok (some result), world)
    | (.error fault, world) => (.error fault, world)

def closeRowRequest (status : SessionStatus) (now : DateTime) (error : Option Str)
    (result : Option ReplayCloseResult) : CloseRow where
  sessionId := bridge.startedJump.session.sessionId
  status := status
  endedAt := now
  replayPath := match result with
    | some result => result.path
    | none => bridge.startedJump.session.replayPath
  replayHmac := result.map (·.hmacHex)
  error := error

def closeAudit (status : SessionStatus) (now : DateTime) (error : Option Str)
    (result : Option ReplayCloseResult) : AuditRecord where
  eventType := match result with
    | some _ => .SESSION_CLOSED
    | none => .SESSION_FAILED
  actor := bridge.startedJump.userCertificate.username
  agentId := some bridge.startedJump.target.agentId
  sessionId := some bridge.startedJump.session.sessionId
  nodeName := some bridge.startedJump.target.nodeName
  metadata := match result with
    | some result => [(lit "status", .str (lit status.value)), (lit "replay_path", .str result.path),
        (lit "replay_hmac", .str result.hmacHex)]
    | none => [(lit "status", .str (lit status.value)), (lit "error", .str (errorText status error))]
  now := now

/-- `close` once the recording has ended. -/
def endSession (status : SessionStatus) (now : DateTime) (error : Option Str)
    (result : Option ReplayCloseResult) : SessionTask Rest Unit := do
  Coro.onlyIf bridge.stored (waitFor (.closeRow (bridge.closeRowRequest status now error result)))
  bridge.tunnelChannel.closeSession bridge.startedJump.channelId
  Coro.onlyIf bridge.audited (waitFor (.writeAudit (bridge.closeAudit status now error result)))

def close (status : SessionStatus) (now : DateTime) (error : Option Str) : SessionTask Rest Unit := do
  match ← change (beginClose status now) with
  | none => pure ()
  | some result => bridge.endSession status now error result

/-- `AsyncSshJumpSessionLifecycle.connection_lost`, with `str(exc) or name`. -/
def connectionLost (lost : Option Str) (now : DateTime) : SessionTask Rest Unit :=
  match lost with
  | none => bridge.close .CLOSED now none
  | some error => bridge.close .FAILED now (some error)

/-- `AsyncSshJumpSessionLifecycle.terminate`. -/
def terminate (reason : Str) (now : DateTime) : SessionTask Rest Unit :=
  bridge.close .TERMINATED now (some reason)

end JumpPtyBridge

/-- `PostgresJumpStore.fail_session`. -/
def failSession (sessionId : Uuid) (endedAt : DateTime) : SessionTask Rest Unit :=
  waitFor (.closeRow ⟨sessionId, .FAILED, endedAt, sessionId.text ++ lit ".cast", none, none⟩)

/-- `_fail_started_jump` while there is no bridge. -/
def failWithoutBridge (jump : StartedJump) (stored audited : Bool) (error : Str) (now : DateTime) :
    SessionTask Rest Unit := do
  change (onRecorder fun faults recorder => recorder.fail faults)
  Coro.onlyIf stored (waitFor
    (.closeRow ⟨jump.session.sessionId, .FAILED, now, jump.session.replayPath, none, some error⟩))
  Coro.onlyIf audited (waitFor
    (.writeAudit ⟨.SESSION_FAILED, jump.userCertificate.username, some jump.target.agentId,
      some jump.session.sessionId, some jump.target.nodeName,
      [(lit "status", .str (lit SessionStatus.FAILED.value)), (lit "error", .str error)], now⟩))
end Bridge

/-- A session in use, whose recorder may have failed already. -/
def inUse {Rest : Type} (recorder : ReplayRecorder) (faults : ReplayFaults) (columns : RowColumns)
    (recorded : List ReplayEvent) (rest : Rest) : JumpWorld Rest :=
  ⟨false, recorder, faults, .OPEN, columns, false, [], recorded, rest⟩

/-- A jump of alice to node-01. -/
def startedOne : StartedJump where
  session := ⟨⟨3⟩, 1, lit "3.cast", ⟨1000000, some 0⟩⟩
  target := ⟨⟨2⟩, lit "node-01", lit "key", ⟨15, none, by decide⟩⟩
  userCertificate := ⟨lit "alice"⟩
  replay := ⟨0⟩
  channelId := (⟨4⟩ : Uuid).text
  nodeConnection := ⟨0⟩

def recorderOne : ReplayRecorder :=
  .new (lit "3.cast") (fun _ => lit "digest") false (.header (lit "node-01") 80 24 1)

abbrev bridgeOne : JumpPtyBridge Unit := ⟨startedOne, brokerChannel, true, true⟩

end VibeConnect.JumpBridge
