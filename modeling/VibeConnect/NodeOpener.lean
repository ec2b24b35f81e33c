import VibeConnect.BrokerCalls
import VibeConnect.JumpCoordinator
import VibeConnect.TunnelFaults
import VibeConnect.WireDiscipline

/-! The opener of node SSH connections: it opens a channel at the broker, builds
the known-hosts entry and connects through the channel. The calls it awaits
answer as they like and may leave any world behind, so the others on the event
loop, the SSH transport that closes its stream among them, run there. -/
namespace VibeConnect.NodeOpener
open Python Python.Text Python.JsonCodec Python.Values Python.Coroutine Python.Tasks Models
open TunnelProtocol TunnelState TunnelAuthenticator TunnelBroker BrokerCalls TunnelFaults
open JumpCoordinator

/-- What the opener hands to `asyncssh.connect`. -/
structure ConnectRequest (KnownHosts : Type) where
  host : Str
  port : Int
  tunnel : ConnectionId × ChannelId
  username : Str
  clientKey : IssuedUserCertificate
  knownHosts : KnownHosts
  agentForwarding : Bool
  x11Forwarding : Bool

/-- AsyncSSH as the opener uses it. -/
structure AsyncSsh (KnownHosts : Type) where
  importKnownHosts : Str → Except Exc KnownHosts
  connect : ConnectRequest KnownHosts → TunnelTask NodeConnection

structure AsyncSshNodeTunnelOpener (KnownHosts : Type) where
  library : Library
  config : BrokerConfig
  asyncssh : AsyncSsh KnownHosts
  nodePort : Int

/-- `AsyncSshNodeTunnelOpener.__init__`. -/
def newOpener {KnownHosts : Type} (library : Library) (config : BrokerConfig)
    (asyncssh : AsyncSsh KnownHosts) (nodePort : Int) :
    Except Exc (AsyncSshNodeTunnelOpener KnownHosts) :=
  if 1 ≤ nodePort ∧ nodePort ≤ 65535 then .ok ⟨library, config, asyncssh, nodePort⟩
  else .error (.jumpError "node sshd port is outside valid TCP port bounds")

/-- `except (OSError, asyncssh.Error)`. -/
def isConnectFault (raised : Exc) : Bool := raised.isOSError || raised == .asyncsshError

section Opening
variable {KnownHosts : Type} (opener : AsyncSshNodeTunnelOpener KnownHosts)

/-- The line that pins the host key of a node. -/
def knownHostsText (nodeName : Str) (port : Int) (hostPublicKey : Str) : Str :=
  let hostPattern := if port ≠ 22 then lit "[" ++ nodeName ++ lit "]:" ++ intText port else nodeName
  hostPattern ++ lit " " ++ strip hostPublicKey ++ lit "\n"

/-- `_known_hosts_for_node`. -/
def knownHostsForNode (nodeName : Str) (port : Int) (hostPublicKey : Str) : Except Exc KnownHosts :=
  match opener.asyncssh.importKnownHosts (knownHostsText nodeName port hostPublicKey) with
  | .ok knownHosts => .ok knownHosts
  | .error raised =>
      if raised = .asyncsshError then .error (.jumpError "node sshd host key is invalid")
      else .error raised

def connectRequest (request : OpenRequest) (connector : ConnectionId × ChannelId)
    (knownHosts : KnownHosts) : ConnectRequest KnownHosts where
  host := request.nodeName
  port := opener.nodePort
  tunnel := connector
  username := request.username
  clientKey := request.userCertificate
  knownHosts := knownHosts
  agentForwarding := false
  x11Forwarding := false

/-- The handler of a connect that failed. -/
def connectFailed (channelId : ChannelId) (closeRequestId : Str) (raised : Exc) :
    TunnelTask NodeConnection :=
  if isConnectFault raised then do
    closeSession opener.library opener.config channelId closeRequestId
    throw (.jumpError "node SSH connection failed")
  else throw raised

/-- `open_session` of the opener; the request ids are the ones its two calls draw. -/
def openNodeSession (request : OpenRequest) (openRequestId closeRequestId : Str) :
    TunnelTask NodeConnection :=
  if request.userCertificate.username ≠ request.username then
    throw (.jumpError "user certificate principal mismatch")
  else if request.nodeSshHostPublicKey = [] then
    throw (.jumpError "node sshd host key is not pinned")
  else do
    openSession opener.library opener.config request.agentId request.channelId request.nodeName
      request.nodeSshHostPublicKey request.username request.userCertificate.username openRequestId
    let connector ← connectorForAgent request.agentId request.channelId
    let knownHosts ← Coro.ofAnswer
      (knownHostsForNode opener request.nodeName opener.nodePort request.nodeSshHostPublicKey)
    tryCatch (opener.asyncssh.connect (connectRequest opener request connector knownHosts))
      (connectFailed opener request.channelId closeRequestId)
end Opening

/-! What the claim asks of the end of a run. -/
def IsJumpError (raised : Exc) : Prop := ∃ message, raised = .jumpError message

def NotOpen (channelId : ChannelId) (world : TunnelWorld) : Prop :=
  ∀ connectionId, world.broker.openConnection channelId ≠ .ok connectionId

/-- A run that raises raises a `JumpError` and leaves no open channel. -/
def FailsCleanly (channelId : ChannelId) (ended : Except Exc NodeConnection × TunnelWorld) : Prop :=
  ∀ raised, ended.1 = .error raised → IsJumpError raised ∧ NotOpen channelId ended.2

/-- No run raises a `JumpError` here. -/
def Foreign {α : Type} (answer : Except Exc α) : Prop :=
  ∀ raised, answer = .error raised → ¬IsJumpError raised

/-! The blocks of the broker raise errors of their own. -/
section Errors
variable {broker : Broker} {connectionId : ConnectionId} {channelId : ChannelId} {agentId : Uuid}

theorem foreign_ok {α : Type} (value : α) : Foreign (.ok value : Except Exc α) := by
  intro raised impossible
  cases impossible

theorem foreign_error {α : Type} {raised : Exc} (apart : ¬IsJumpError raised) :
    Foreign (.error raised : Except Exc α) := by
  intro other same
  cases same
  exact apart

theorem foreign_bind {α β : Type} {first : Except Exc α} {next : α → Except Exc β}
    (before : Foreign first) (after : ∀ value, Foreign (next value)) : Foreign (first >>= next) := by
  intro raised failed
  rcases bind_error.mp failed with wrong | ⟨value, -, failed⟩
  · exact before raised wrong
  · exact after value raised failed

theorem foreign_state {α : Type} (message : String) :
    Foreign (.error (.tunnelStateError message) : Except Exc α) :=
  foreign_error fun ⟨_, same⟩ => nomatch same

theorem object_foreign : Foreign (broker.object connectionId) := by
  unfold Broker.object
  cases broker.objects connectionId with
  | some connection => exact foreign_ok connection
  | none => exact foreign_error fun ⟨_, same⟩ => nomatch same

theorem requireConnection_foreign : Foreign (broker.requireConnection agentId channelId) := by
  unfold Broker.requireConnection
  split
  · apply foreign_state
  · cases broker.connections agentId with
    | some current => exact foreign_ok current
    | none => apply foreign_state

theorem requireOpen_foreign {channels : TunnelChannelRegistry} :
    Foreign (channels.requireOpen channelId) := by
  unfold TunnelChannelRegistry.requireOpen
  split
  · exact foreign_ok ()
  · apply foreign_state

theorem openConnection_foreign : Foreign (broker.openConnection channelId) := by
  apply foreign_bind
  · unfold Broker.requireChannelConnection
    cases broker.channelAgents channelId with
    | none => apply foreign_state
    | some agentId =>
        dsimp only
        cases broker.connections agentId with
        | some current => exact foreign_ok current
        | none => exact foreign_error fun ⟨_, same⟩ => nomatch same
  intro connectionId
  apply foreign_bind object_foreign
  intro connection
  exact foreign_bind requireOpen_foreign fun _ => foreign_ok connectionId

theorem openChannel_foreign {hostKey username certificateUsername : Str} {now : DateTime} :
    Foreign (broker.openChannel agentId channelId hostKey username certificateUsername now) := by
  unfold Broker.openChannel
  split
  · apply foreign_state
  split
  · apply foreign_state
  apply foreign_bind requireConnection_foreign
  intro connectionId
  apply foreign_bind object_foreign
  intro connection
  split
  · apply foreign_state
  apply foreign_bind
  · change Foreign (connection.channels.openChannel channelId)
    unfold TunnelChannelRegistry.openChannel
    split_ifs
    all_goals first | apply foreign_state | apply foreign_ok
  · intro channels
    apply foreign_ok

theorem connectorForAgent_foreign : Foreign (broker.connectorForAgent agentId channelId) := by
  apply foreign_bind requireConnection_foreign
  intro connectionId
  apply foreign_bind object_foreign
  intro connection
  split
  · apply foreign_ok
  · apply foreign_state

theorem retireChannel_foreign : Foreign (Broker.retireChannel connectionId channelId broker) := by
  apply foreign_bind object_foreign
  intro connection
  apply foreign_bind
  · apply foreign_bind requireOpen_foreign
    intro _
    unfold TunnelChannelRegistry.closeChannel
    split
    · apply foreign_ok
    · apply foreign_state
  · intro channels
    apply foreign_ok

theorem encode_foreign {codec : Codec} {frame : OutgoingFrame} {maxFrameBytes : Int} :
    Foreign (frame.encode codec maxFrameBytes) := by
  intro raised failed
  obtain ⟨_, rfl⟩ := encodeFrame_raises failed
  exact fun ⟨_, same⟩ => nomatch same

/-- A retired channel is not open. -/
theorem retireChannel_notOpen {after : Broker}
    (retired : Broker.retireChannel connectionId channelId broker = .ok after)
    (other : ConnectionId) : after.openConnection channelId ≠ .ok other := by
  obtain ⟨connection, channels, -, -, rfl⟩ := Broker.retireChannel_ok retired
  intro opened
  obtain ⟨agentId, _, mapped, -⟩ := Broker.openConnection_ok opened
  have gone : (broker.retired connectionId connection channels channelId).channelAgents channelId =
      none := Function.update_self ..
  cases gone.symm.trans mapped
end Errors

abbrev Served := (call : TunnelCall) → TunnelWorld → Except Exc (TunnelResult call) × TunnelWorld

/-! What each part of `open_session` can end in. -/
section Runs
variable {calls : Served} {library : Library} {config : BrokerConfig} {state : TunnelWorld}
  {connectionId : ConnectionId} {frame : OutgoingFrame}

theorem writeFrame_refused {raised : Exc} (refused : frame.encode library.json config.maxFrameBytes =
      .error raised) :
    (writeFrame library connectionId frame config.maxFrameBytes).run (Tasks.serve calls) state =
      (.error raised, state) := by
  have unsent : (do
      let _ ← frame.encode library.json config.maxFrameBytes
      .ok (state.send connectionId frame) : Except Exc TunnelWorld) = .error raised := by
    rw [refused]
    rfl
  unfold writeFrame
  rw [Coro.run_bind, run_attempt_error unsent]

theorem writeFrame_sent (encodes : Encodes library config frame) :
    (writeFrame library connectionId frame config.maxFrameBytes).run (Tasks.serve calls) state =
      calls .drain (state.send connectionId frame) := by
  obtain ⟨bytes, encoded⟩ := encodes.ok
  have sent : (do
      let _ ← frame.encode library.json config.maxFrameBytes
      .ok (state.send connectionId frame) : Except Exc TunnelWorld) =
        .ok (state.send connectionId frame) := by
    rw [encoded]
    rfl
  unfold writeFrame
  rw [Coro.run_bind, run_attempt sent]
  exact run_call _ TunnelCall.drain

theorem encodes_or_refused (library : Library) (config : BrokerConfig) (frame : OutgoingFrame) :
    Encodes library config frame ∨
      ∃ raised, frame.encode library.json config.maxFrameBytes = .error raised := by
  unfold Encodes
  cases frame.encode library.json config.maxFrameBytes with
  | ok bytes => exact .inl rfl
  | error raised => exact .inr ⟨raised, rfl⟩

/-- Ended in an error that is no `JumpError`. -/
def Strays {α : Type} (ended : Except Exc α × TunnelWorld) : Prop :=
  ∃ raised left, ended = (.error raised, left) ∧ ¬IsJumpError raised

theorem strays_of {α : Type} {answer : Except Exc α} (foreign : Foreign answer) {raised : Exc}
    (failed : answer = .error raised) (left : TunnelWorld) {β : Type} :
    Strays ((.error raised, left) : Except Exc β × TunnelWorld) :=
  ⟨raised, left, rfl, foreign raised failed⟩

theorem Strays.bind {α β : Type} {program : TunnelTask α} {next : α → TunnelTask β}
    (strays : Strays (program.run (Tasks.serve calls) state)) :
    Strays ((program >>= next).run (Tasks.serve calls) state) := by
  obtain ⟨raised, left, ended, apart⟩ := strays
  exact ⟨raised, left, by rw [Coro.run_bind, ended], apart⟩

/-- A write is flushed or ends in an error that is no `JumpError`. -/
theorem writeFrame_ends (connectionId : ConnectionId) (frame : OutgoingFrame) (state : TunnelWorld)
    (answers : ∀ call state, Foreign (calls call state).1) :
    Strays ((writeFrame library connectionId frame config.maxFrameBytes).run (Tasks.serve calls) state) ∨
      Encodes library config frame ∧
        ∃ after, calls .drain (state.send connectionId frame) = (.ok (), after) := by
  rcases encodes_or_refused library config frame with encodes | ⟨raised, refused⟩
  · rw [writeFrame_sent encodes]
    rcases drained : calls .drain (state.send connectionId frame) with ⟨⟨⟩ | raised, after⟩
    · rename_i raised
      left
      have foreign := answers .drain (state.send connectionId frame)
      rw [drained] at foreign
      exact strays_of foreign rfl after
    · exact .inr ⟨encodes, after, rfl⟩
  · left
    rw [writeFrame_refused refused]
    exact strays_of encode_foreign refused state
end Runs

/-- The opener and what it calls: no answer is a `JumpError`, and a connect raises
what AsyncSSH raises. -/
structure Outside {KnownHosts : Type} (calls : Served)
    (opener : AsyncSshNodeTunnelOpener KnownHosts) : Prop where
  answers : ∀ call state, Foreign (calls call state).1
  knownHosts : ∀ text, Foreign (opener.asyncssh.importKnownHosts text)
  connects : ∀ request state raised left, (opener.asyncssh.connect request).run (Tasks.serve calls)
    state = (.error raised, left) → isConnectFault raised = true

section Condition
variable {KnownHosts : Type} (calls : Served) (opener : AsyncSshNodeTunnelOpener KnownHosts)
  (request : OpenRequest) (openRequestId closeRequestId : Str)

/-- The broker took the channel, and its frame was written and flushed. -/
def Opened (world opened : TunnelWorld) : Prop :=
  ∃ broker connectionId frame, world.broker.openChannel request.agentId request.channelId
      request.nodeSshHostPublicKey request.username request.userCertificate.username world.clock =
        .ok (broker, connectionId) ∧
    openFrame opener.library request.channelId request.nodeName request.username openRequestId =
      some frame ∧
    Encodes opener.library opener.config frame ∧
    calls .drain ((world.onBroker broker).send connectionId frame) = (.ok (), opened)

/-- The channel was still open, its frame was written and flushed, and nobody had
closed it meanwhile. -/
def Closed (left after : TunnelWorld) : Prop :=
  ∃ connectionId drained broker,
    left.broker.openConnection request.channelId = .ok connectionId ∧
    Encodes opener.library opener.config
      ⟨.CLOSE_SESSION, closeRequestId, some request.channelId, []⟩ ∧
    calls .drain (left.send connectionId
      ⟨.CLOSE_SESSION, closeRequestId, some request.channelId, []⟩) = (.ok (), drained) ∧
    Broker.retireChannel connectionId request.channelId drained.broker = .ok broker ∧
    after = drained.onBroker broker

/-- Wherever a connect fails, the channel can be closed. -/
def Connects (opened : TunnelWorld) : Prop :=
  let text := knownHostsText request.nodeName opener.nodePort request.nodeSshHostPublicKey
  ∃ connector, opened.broker.connectorForAgent request.agentId request.channelId = .ok connector ∧
    (opener.asyncssh.importKnownHosts text = .error .asyncsshError ∧ NotOpen request.channelId opened ∨
      ∃ knownHosts, opener.asyncssh.importKnownHosts text = .ok knownHosts ∧
        ∀ raised left, (opener.asyncssh.connect (connectRequest opener request connector knownHosts)).run
          (Tasks.serve calls) opened = (.error raised, left) →
            ∃ after, Closed calls opener request closeRequestId left after)

/-- Nothing gets in the way of the opening, and of the closing where it is needed. -/
def Smooth (world : TunnelWorld) : Prop :=
  if request.userCertificate.username ≠ request.username ∨ request.nodeSshHostPublicKey = [] then
    NotOpen request.channelId world
  else ∃ opened, Opened calls opener request openRequestId world opened ∧
    Connects calls opener request closeRequestId opened
end Condition

section Ends
variable {KnownHosts : Type} {calls : Served} {opener : AsyncSshNodeTunnelOpener KnownHosts}
  {request : OpenRequest} {openRequestId closeRequestId : Str} {world : TunnelWorld}

/-- The broker's call of an opening. -/
abbrev opening (opener : AsyncSshNodeTunnelOpener KnownHosts) (request : OpenRequest)
    (openRequestId : Str) : TunnelTask Unit :=
  openSession opener.library opener.config request.agentId request.channelId request.nodeName
    request.nodeSshHostPublicKey request.username request.userCertificate.username openRequestId

/-- `open_session` of the broker opens or ends in an error that is no `JumpError`. -/
theorem opening_ends (answers : ∀ call state, Foreign (calls call state).1) :
    Strays ((opening opener request openRequestId).run (Tasks.serve calls) world) ∨
      ∃ opened, Opened calls opener request openRequestId world opened := by
  unfold opening openSession
  rw [Coro.run_bind, run_look]
  dsimp only
  rw [Coro.run_bind, Coro.run_ofAnswer]
  cases tried : world.broker.openChannel request.agentId request.channelId
      request.nodeSshHostPublicKey request.username request.userCertificate.username world.clock with
  | error raised =>
      left
      exact strays_of openChannel_foreign tried world
  | ok result =>
      obtain ⟨broker, connectionId⟩ := result
      dsimp only
      rw [Coro.run_bind, run_update]
      dsimp only
      cases encoded : encode (opener.library.json.dumps (.object
          [(lit "node_name", .str request.nodeName), (lit "username", .str request.username)])) with
      | none =>
          left
          exact ⟨_, _, rfl, fun ⟨_, same⟩ => nomatch same⟩
      | some payload =>
          dsimp only
          have made : openFrame opener.library request.channelId request.nodeName request.username
              openRequestId = some ⟨.OPEN_SESSION, openRequestId, some request.channelId, payload⟩ := by
            unfold openFrame
            rw [encoded]
            rfl
          rcases writeFrame_ends connectionId ⟨.OPEN_SESSION, openRequestId, some request.channelId,
              payload⟩ (world.onBroker broker) answers with strays | ⟨encodes, after, drained⟩
          · exact .inl strays
          · exact .inr ⟨after, broker, connectionId, _, tried, made, encodes, drained⟩

/-- `close_session` of the broker closes or ends in an error that is no `JumpError`. -/
theorem closing_ends (answers : ∀ call state, Foreign (calls call state).1) (left : TunnelWorld) :
    Strays ((closeSession opener.library opener.config request.channelId closeRequestId).run
        (Tasks.serve calls) left) ∨
      ∃ after, Closed calls opener request closeRequestId left after := by
  unfold closeSession
  rw [Coro.run_bind, run_look]
  dsimp only
  rw [Coro.run_bind, Coro.run_ofAnswer]
  cases found : left.broker.openConnection request.channelId with
  | error raised =>
      exact .inl (strays_of openConnection_foreign found left)
  | ok connectionId =>
      dsimp only
      rcases writeFrame_ends connectionId ⟨.CLOSE_SESSION, closeRequestId, some request.channelId, []⟩
          left answers with strays | ⟨encodes, drained, flushed⟩
      · exact .inl strays.bind
      rw [Coro.run_bind, writeFrame_sent encodes, flushed]
      dsimp only
      cases retired : Broker.retireChannel connectionId request.channelId drained.broker with
      | error raised =>
          have refused : (do
              let broker ← Broker.retireChannel connectionId request.channelId drained.broker
              .ok (drained.onBroker broker) : Except Exc TunnelWorld) = .error raised := by
            rw [retired]
            rfl
          left
          unfold onBroker
          rw [run_attempt_error refused]
          exact strays_of retireChannel_foreign retired drained
      | ok broker =>
          exact .inr ⟨_, connectionId, drained, broker, found, encodes, flushed, retired, rfl⟩

/-- A closing that nothing gets in the way of succeeds. -/
theorem closed_run {left after : TunnelWorld}
    (closed : Closed calls opener request closeRequestId left after) :
    (closeSession opener.library opener.config request.channelId closeRequestId).run
      (Tasks.serve calls) left = (.ok (), after) := by
  obtain ⟨connectionId, drained, broker, found, encodes, flushed, retired, rfl⟩ := closed
  have changed : (do
      let broker ← Broker.retireChannel connectionId request.channelId drained.broker
      .ok (drained.onBroker broker) : Except Exc TunnelWorld) = .ok (drained.onBroker broker) := by
    rw [retired]
    rfl
  unfold closeSession
  rw [Coro.run_bind, run_look]
  dsimp only
  rw [Coro.run_bind, Coro.run_ofAnswer, found]
  dsimp only
  rw [Coro.run_bind, writeFrame_sent encodes, flushed]
  exact run_attempt changed

/-- An opening that nothing gets in the way of succeeds. -/
theorem opened_run {opened : TunnelWorld}
    (taken : Opened calls opener request openRequestId world opened) :
    (opening opener request openRequestId).run (Tasks.serve calls) world = (.ok (), opened) := by
  obtain ⟨broker, connectionId, frame, tried, made, encodes, drained⟩ := taken
  unfold openFrame at made
  obtain ⟨payload, encoded, rfl⟩ := Option.map_eq_some_iff.mp made
  unfold opening openSession
  rw [Coro.run_bind, run_look]
  dsimp only
  rw [Coro.run_bind, Coro.run_ofAnswer, tried]
  dsimp only
  rw [Coro.run_bind, run_update]
  dsimp only
  rw [encoded]
  dsimp only
  rw [writeFrame_sent encodes]
  exact drained

theorem Closed.notOpen {left after : TunnelWorld}
    (closed : Closed calls opener request closeRequestId left after) :
    NotOpen request.channelId after := by
  obtain ⟨connectionId, drained, broker, -, -, -, retired, rfl⟩ := closed
  exact retireChannel_notOpen retired

theorem Strays.unclean {ended : Except Exc NodeConnection × TunnelWorld} {channelId : ChannelId}
    (strays : Strays ended) : ¬FailsCleanly channelId ended := by
  obtain ⟨raised, left, rfl, apart⟩ := strays
  intro clean
  exact apart (clean raised rfl).1

/-- A run that raises a `JumpError` fails cleanly if the channel is gone. -/
theorem failsCleanly_jumpError {message : String} {left : TunnelWorld} {channelId : ChannelId} :
    FailsCleanly channelId (.error (.jumpError message), left) ↔ NotOpen channelId left := by
  constructor
  · intro clean
    exact (clean _ rfl).2
  · intro gone raised same
    cases same
    exact ⟨⟨message, rfl⟩, gone⟩

theorem failsCleanly_ok {value : NodeConnection} {left : TunnelWorld} {channelId : ChannelId} :
    FailsCleanly channelId (.ok value, left) := by
  intro raised impossible
  cases impossible

/-- A connect that fails is cleaned up exactly if the channel can be closed then. -/
theorem connect_clean (outside : Outside calls opener) (attempt : ConnectRequest KnownHosts)
    (opened : TunnelWorld) :
    FailsCleanly request.channelId ((tryCatch (opener.asyncssh.connect attempt)
        (connectFailed opener request.channelId closeRequestId) : TunnelTask NodeConnection).run
          (Tasks.serve calls) opened) ↔
      ∀ raised left, (opener.asyncssh.connect attempt).run (Tasks.serve calls) opened =
        (.error raised, left) → ∃ after, Closed calls opener request closeRequestId left after := by
  rw [Coro.run_handle]
  rcases ended : (opener.asyncssh.connect attempt).run (Tasks.serve calls) opened with
    ⟨raised | connection, left⟩
  · dsimp only
    have caught := outside.connects attempt opened raised left ended
    unfold connectFailed
    rw [if_pos caught, Coro.run_bind]
    rcases closing_ends outside.answers left with strays | ⟨after, closed⟩
    · constructor
      · intro clean
        obtain ⟨fault, rest, failed, apart⟩ := strays
        rw [failed] at clean
        exact absurd clean (Strays.unclean ⟨fault, rest, rfl, apart⟩)
      · intro closes
        obtain ⟨after, closed⟩ := closes raised left rfl
        obtain ⟨fault, rest, failed, -⟩ := strays
        have ran := closed_run closed
        rw [failed] at ran
        cases ran
    · rw [closed_run closed]
      constructor
      · intro _ other rest same
        cases same
        exact ⟨after, closed⟩
      · intro _
        exact failsCleanly_jumpError.mpr closed.notOpen
  · constructor
    · intro _ raised rest impossible
      cases impossible
    · intro _
      exact failsCleanly_ok

theorem knownHostsForNode_error {text : Str} {raised : Exc}
    (same : text = knownHostsText request.nodeName opener.nodePort request.nodeSshHostPublicKey)
    (failed : opener.asyncssh.importKnownHosts text = .error raised) :
    knownHostsForNode opener request.nodeName opener.nodePort request.nodeSshHostPublicKey =
      if raised = .asyncsshError then .error (.jumpError "node sshd host key is invalid")
      else .error raised := by
  unfold knownHostsForNode
  rw [← same, failed]

theorem knownHostsForNode_ok {text : Str} {knownHosts : KnownHosts}
    (same : text = knownHostsText request.nodeName opener.nodePort request.nodeSshHostPublicKey)
    (built : opener.asyncssh.importKnownHosts text = .ok knownHosts) :
    knownHostsForNode opener request.nodeName opener.nodePort request.nodeSshHostPublicKey =
      .ok knownHosts := by
  unfold knownHostsForNode
  rw [← same, built]

/-- What follows the opening, from the state it left. -/
theorem rest_clean (outside : Outside calls opener) (opened : TunnelWorld) :
    FailsCleanly request.channelId ((do
        let connector ← connectorForAgent request.agentId request.channelId
        let knownHosts ← Coro.ofAnswer
          (knownHostsForNode opener request.nodeName opener.nodePort request.nodeSshHostPublicKey)
        tryCatch (opener.asyncssh.connect (connectRequest opener request connector knownHosts))
          (connectFailed opener request.channelId closeRequestId) : TunnelTask NodeConnection).run
            (Tasks.serve calls) opened) ↔ Connects calls opener request closeRequestId opened := by
  unfold connectorForAgent
  rw [bind_assoc, Coro.run_bind, run_look]
  dsimp only
  rw [Coro.run_bind, Coro.run_ofAnswer]
  cases found : opened.broker.connectorForAgent request.agentId request.channelId with
  | error raised =>
      constructor
      · intro clean
        exact absurd clean (strays_of connectorForAgent_foreign found opened).unclean
      · rintro ⟨connector, impossible, -⟩
        cases found.symm.trans impossible
  | ok connector =>
  dsimp only
  rw [Coro.run_bind, Coro.run_ofAnswer]
  obtain ⟨text, same⟩ : ∃ text, text =
    knownHostsText request.nodeName opener.nodePort request.nodeSshHostPublicKey := ⟨_, rfl⟩
  cases built : opener.asyncssh.importKnownHosts text with
  | ok knownHosts =>
      rw [knownHostsForNode_ok same built]
      refine (connect_clean outside _ opened).trans ⟨fun closes => ?_, ?_⟩
      · exact ⟨connector, found, .inr ⟨knownHosts, same ▸ built, closes⟩⟩
      · rintro ⟨other, alsoFound, ⟨impossible, -⟩ | ⟨alsoHosts, alsoBuilt, closes⟩⟩
        · rw [← same, built] at impossible
          cases impossible
        · rw [← same, built] at alsoBuilt
          cases alsoBuilt
          cases found.symm.trans alsoFound
          exact closes
  | error raised =>
      rw [knownHostsForNode_error same built]
      by_cases invalid : raised = .asyncsshError
      · rw [if_pos invalid]
        refine failsCleanly_jumpError.trans ⟨fun gone => ?_, ?_⟩
        · exact ⟨connector, found, .inl ⟨same ▸ invalid ▸ built, gone⟩⟩
        · rintro ⟨other, alsoFound, ⟨-, gone⟩ | ⟨hosts, impossible, -⟩⟩
          · exact gone
          · rw [← same, built] at impossible
            cases impossible
      · rw [if_neg invalid]
        constructor
        · intro clean
          exact absurd clean (strays_of (outside.knownHosts text) built opened).unclean
        · rintro ⟨other, alsoFound, ⟨impossible, -⟩ | ⟨hosts, impossible, -⟩⟩
          · rw [← same, built] at impossible
            cases impossible
            exact absurd rfl invalid
          · rw [← same, built] at impossible
            cases impossible

/-- The opener fails cleanly exactly where nothing gets in the way of the broker's
opening, and of the closing after a connect that failed. -/
theorem fails_cleanly (outside : Outside calls opener) :
    FailsCleanly request.channelId
        ((openNodeSession opener request openRequestId closeRequestId).run (Tasks.serve calls) world) ↔
      Smooth calls opener request openRequestId closeRequestId world := by
  unfold openNodeSession Smooth
  by_cases mismatch : request.userCertificate.username ≠ request.username
  · rw [if_pos mismatch, if_pos (.inl mismatch)]
    exact failsCleanly_jumpError
  by_cases unpinned : request.nodeSshHostPublicKey = []
  · rw [if_neg mismatch, if_pos unpinned, if_pos (.inr unpinned)]
    exact failsCleanly_jumpError
  rw [if_neg mismatch, if_neg unpinned, if_neg (not_or.mpr ⟨mismatch, unpinned⟩)]
  rcases opening_ends outside.answers with strays | ⟨opened, taken⟩
  · constructor
    · intro clean
      exact absurd clean (Strays.bind strays).unclean
    · rintro ⟨opened, taken, -⟩
      obtain ⟨raised, left, failed, -⟩ := strays
      cases failed.symm.trans (opened_run taken)
  · rw [Coro.run_bind, opened_run taken]
    refine (rest_clean outside opened).trans ⟨fun connects => ⟨opened, taken, connects⟩, ?_⟩
    rintro ⟨other, alsoTaken, connects⟩
    cases (opened_run taken).symm.trans (opened_run alsoTaken)
    exact connects
end Ends

/-! One node behind the connected agent. -/
def requestOne : OpenRequest :=
  ⟨TunnelAdmission.agentOne, lit "a", lit "n", lit "key", lit "alice", ⟨lit "alice"⟩⟩

/-- The writer flushes at once; nothing else is awaited. -/
def flushing : Served
  | .drain, world => (.ok (), world)
  | _, world => (.error .osError, world)

theorem flushing_foreign (call : TunnelCall) (state : TunnelWorld) :
    Foreign (flushing call state).1 := by
  cases call
  case drain => exact foreign_ok ()
  all_goals exact foreign_error fun ⟨_, same⟩ => nomatch same

/-- An opener whose connects all run like this. -/
def openerOf (connect : TunnelTask NodeConnection) : AsyncSshNodeTunnelOpener Str where
  library := TunnelAdmission.libraryOne
  config := TunnelAdmission.streamOne.config
  asyncssh := ⟨.ok, fun _ => connect⟩
  nodePort := 2222

/-- The node refuses the connection. -/
def refused : TunnelTask NodeConnection := throw .osError

/-- The handshake fails, and the SSH transport has closed its stream by then. -/
def abandoned : TunnelTask NodeConnection := do
  closeSession TunnelAdmission.libraryOne TunnelAdmission.streamOne.config (lit "a") (lit "r")
  throw .asyncsshError

abbrev runOf (connect : TunnelTask NodeConnection) : Except Exc NodeConnection × TunnelWorld :=
  (openNodeSession (openerOf connect) requestOne (lit "r") (lit "r")).run (Tasks.serve flushing)
    WireDiscipline.worldConnected

theorem outside_refused : Outside flushing (openerOf refused) where
  answers := flushing_foreign
  knownHosts text := foreign_ok text
  connects _ _ raised left ended := by
    cases ended
    rfl

theorem fails_cleanly_refused : FailsCleanly (lit "a") (runOf refused) ∧
    Smooth flushing (openerOf refused) requestOne (lit "r") (lit "r") WireDiscipline.worldConnected := by
  have ran : (runOf refused).1 = .error (.jumpError "node SSH connection failed") ∧
      (runOf refused).2.broker.channelAgents (lit "a") = none := by
    decide +kernel
  have clean : FailsCleanly (lit "a") (runOf refused) := by
    intro raised ended
    cases ran.1.symm.trans ended
    refine ⟨⟨_, rfl⟩, fun connectionId opened => ?_⟩
    obtain ⟨agentId, _, mapped, -⟩ := Broker.openConnection_ok opened
    cases ran.2.symm.trans mapped
  exact ⟨clean, (fails_cleanly outside_refused).mp clean⟩

/-- The closing that cleans up finds the channel closed, and its error escapes. -/
theorem abandoned_channel_escapes : ¬FailsCleanly (lit "a") (runOf abandoned) := by
  have ran : (runOf abandoned).1 = .error (.tunnelStateError "channel is not open") := by
    decide +kernel
  intro clean
  obtain ⟨message, same⟩ := (clean _ ran).1
  cases same

end VibeConnect.NodeOpener
