import VibeConnect.TunnelBroker

/-! The calls of the jump code on the broker, whatever runs beside them. Each
rule says what has to hold of the call's own steps: the frame it writes at once,
and for a close the channel it retires once the writer has drained. -/
namespace VibeConnect.BrokerCalls
open Python.Text Python.JsonCodec Python.Values Python.Coroutine Python.Tasks Models TunnelProtocol
open TunnelState TunnelAuthenticator TunnelBroker

section Calls
variable {library : Library} {config : BrokerConfig} {world : World TunnelWorld TunnelResult Exc}
  {inv : TunnelWorld → Prop} {rely guarantee : TunnelWorld → TunnelWorld → Prop}
  {state : TunnelWorld} {channelId : ChannelId}

abbrev Calls (world : World TunnelWorld TunnelResult Exc) (inv : TunnelWorld → Prop)
    (rely guarantee : TunnelWorld → TunnelWorld → Prop) {α : Type} (program : TunnelTask α)
    (post : Except Exc α → TunnelWorld → Prop) (state : TunnelWorld) : Prop :=
  program.wp (answered world inv rely) (obliged inv guarantee) post state

/-- A frame for an open channel may be written now, and the writer's answer may
come at any time. -/
structure MaySend (world : World TunnelWorld TunnelResult Exc) (inv : TunnelWorld → Prop)
    (guarantee : TunnelWorld → TunnelWorld → Prop) (channelId : ChannelId) (state : TunnelWorld) :
    Prop where
  holds : inv state
  still : guarantee state state
  drained : ∀ answer before after, world .drain answer before after → inv before → inv after
  sent : ∀ connectionId frame, state.broker.openConnection channelId = .ok connectionId →
    frame.channelId = some channelId →
    frame.type = .SESSION_DATA ∨ frame.type = .RESIZE_PTY ∨ frame.type = .CLOSE_SESSION →
    guarantee state (state.send connectionId frame) ∧ inv (state.send connectionId frame)

theorem writeFrame_calls {connectionId : ConnectionId} {frame : OutgoingFrame} {maxFrameBytes : Int}
    {post : Except Exc Unit → TunnelWorld → Prop} (still : guarantee state state)
    (refused : ∀ fault, frame.encode library.json maxFrameBytes = .error fault →
      post (.error fault) state)
    (sent : ∀ bytes, frame.encode library.json maxFrameBytes = .ok bytes →
      guarantee state (state.send connectionId frame) ∧ inv (state.send connectionId frame))
    (drained : ∀ answer before after, world .drain answer before after → inv before →
      post answer after) :
    Calls world inv rely guarantee (writeFrame library connectionId frame maxFrameBytes) post state := by
  cases encoded : frame.encode library.json maxFrameBytes with
  | error fault =>
      refine Coro.wp_bind (attempt_safe still ?_ ?_)
      · intro after written
        rw [encoded] at written
        cases written
      · intro raised failed
        rw [encoded] at failed
        cases failed
        exact refused fault encoded
  | ok bytes =>
      obtain ⟨owed, holds⟩ := sent bytes encoded
      refine Coro.wp_bind (attempt_safe still ?_ ?_)
      · intro after written
        rw [encoded] at written
        cases written
        refine ⟨owed, call_safe holds ?_⟩
        exact fun answer resumed after _ still given => drained answer resumed after given still
      · intro raised failed
        rw [encoded] at failed
        cases failed

theorem sendData_calls {payload : Bytes} {requestId : Str}
    (may : MaySend world inv guarantee channelId state) :
    Calls world inv rely guarantee (sendData library config channelId payload requestId)
      (fun _ after => inv after) state := by
  refine Coro.wp_bind (look_safe (Coro.wp_bind (Coro.wp_ofAnswer ?_)))
  cases isOpen : state.broker.openConnection channelId with
  | error fault => exact may.holds
  | ok connectionId =>
      apply writeFrame_calls may.still
      · exact fun _ _ => may.holds
      · exact fun _ _ => may.sent connectionId _ isOpen rfl (.inl rfl)
      · exact may.drained

theorem resizePty_calls {width height : Int} {requestId : Str}
    (may : MaySend world inv guarantee channelId state) :
    Calls world inv rely guarantee (resizePty library config channelId width height requestId)
      (fun _ after => inv after) state := by
  refine Coro.wp_bind (look_safe (Coro.wp_bind (Coro.wp_ofAnswer ?_)))
  cases isOpen : state.broker.openConnection channelId with
  | error fault => exact may.holds
  | ok connectionId =>
      dsimp only
      split
      · exact may.holds
      apply writeFrame_calls may.still
      · exact fun _ _ => may.holds
      · exact fun _ _ => may.sent connectionId _ isOpen rfl (.inr (.inl rfl))
      · exact may.drained

/-- A close retires the channel in whatever state the writer's answer leaves. -/
theorem closeSession_calls {requestId : Str} (may : MaySend world inv guarantee channelId state)
    (still : ∀ state, guarantee state state)
    (retired : ∀ connectionId before after broker, world .drain (.ok ()) before after → inv before →
      Broker.retireChannel connectionId channelId after.broker = .ok broker →
      guarantee after (after.onBroker broker) ∧ inv (after.onBroker broker)) :
    Calls world inv rely guarantee (closeSession library config channelId requestId)
      (fun _ after => inv after) state := by
  refine Coro.wp_bind (look_safe (Coro.wp_bind (Coro.wp_ofAnswer ?_)))
  cases isOpen : state.broker.openConnection channelId with
  | error fault => exact may.holds
  | ok connectionId =>
      refine Coro.wp_bind ?_
      apply writeFrame_calls may.still
      · exact fun _ _ => may.holds
      · exact fun _ _ => may.sent connectionId _ isOpen rfl (.inr (.inr rfl))
      intro answer before after given known
      have holds := may.drained answer before after given known
      cases answer with
      | error fault => exact holds
      | ok _ =>
          refine attempt_safe (still after) ?_ fun _ _ => holds
          intro last done
          obtain ⟨broker, closed, done⟩ := bind_ok.mp done
          cases done
          exact retired connectionId before after broker given known closed

/-- The frame of an `open_session`, when its payload can be encoded. -/
def openFrame (library : Library) (channelId : ChannelId) (nodeName username requestId : Str) :
    Option OutgoingFrame :=
  (encode (library.json.dumps
    (.object [(lit "node_name", .str nodeName), (lit "username", .str username)]))).map fun payload =>
      ⟨.OPEN_SESSION, requestId, some channelId, payload⟩

/-- The `OPEN_SESSION` frame of a call can be written. -/
def Announces (library : Library) (config : BrokerConfig) (channelId : ChannelId)
    (nodeName username requestId : Str) : Prop :=
  ∃ frame bytes, openFrame library channelId nodeName username requestId = some frame ∧
    frame.encode library.json config.maxFrameBytes = .ok bytes

theorem openSession_calls {agentId : Uuid} {nodeName hostKey username certificateUsername requestId : Str}
    (holds : inv state) (still : ∀ state, guarantee state state)
    (drained : ∀ answer before after, world .drain answer before after → inv before → inv after)
    (opened : ∀ broker connectionId, state.broker.openChannel agentId channelId hostKey username
        certificateUsername state.clock = .ok (broker, connectionId) →
      guarantee state (state.onBroker broker) ∧
      (¬ Announces library config channelId nodeName username requestId → inv (state.onBroker broker)) ∧
      ∀ frame, frame.type = .OPEN_SESSION → frame.channelId = some channelId →
        guarantee (state.onBroker broker) ((state.onBroker broker).send connectionId frame) ∧
          inv ((state.onBroker broker).send connectionId frame)) :
    Calls world inv rely guarantee
      (openSession library config agentId channelId nodeName hostKey username certificateUsername
        requestId) (fun _ after => inv after) state := by
  refine Coro.wp_bind (look_safe (Coro.wp_bind (Coro.wp_ofAnswer ?_)))
  cases tried : state.broker.openChannel agentId channelId hostKey username certificateUsername
      state.clock with
  | error fault => exact holds
  | ok result =>
  obtain ⟨broker, connectionId⟩ := result
  obtain ⟨owed, silent, announced⟩ := opened broker connectionId tried
  refine Coro.wp_bind (update_safe owed ?_)
  dsimp only
  split
  · rename_i none
    apply silent
    rintro ⟨frame, -, made, -⟩
    rw [openFrame, none] at made
    cases made
  · rename_i payload made
    apply writeFrame_calls (still _)
    · intro fault refused
      apply silent
      rintro ⟨frame, bytes, same, encoded⟩
      rw [openFrame, made] at same
      cases same
      cases refused.symm.trans encoded
    · exact fun _ _ => announced _ rfl rfl
    · exact drained

theorem connectorForAgent_calls {agentId : Uuid} (holds : inv state) :
    Calls world inv rely guarantee (TunnelBroker.connectorForAgent agentId channelId)
      (fun _ after => inv after) state :=
  Coro.wp_bind (look_safe (Coro.wp_ofAnswer holds))
end Calls

/-! Where a call stands when it first waits, if its frame can be written. -/
section Settled
variable {library : Library} {config : BrokerConfig} {state : TunnelWorld} {connectionId : ConnectionId}
  {channelId : ChannelId}

abbrev Encodes (library : Library) (config : BrokerConfig) (frame : OutgoingFrame) : Prop :=
  (frame.encode library.json config.maxFrameBytes).toBool = true

theorem Encodes.ok {frame : OutgoingFrame} (encodes : Encodes library config frame) :
    ∃ bytes, frame.encode library.json config.maxFrameBytes = .ok bytes := by
  unfold Encodes at encodes
  cases encoded : frame.encode library.json config.maxFrameBytes with
  | error fault =>
      rw [encoded] at encodes
      cases encodes
  | ok bytes => exact ⟨bytes, rfl⟩

theorem settle_writeFrame {α : Type} {frame : OutgoingFrame} {next : Unit → TunnelTask α}
    (encodes : Encodes library config frame) :
    settle (writeFrame library connectionId frame config.maxFrameBytes >>= next) state =
      (wait .drain >>= next, state.send connectionId frame) := by
  obtain ⟨bytes, encoded⟩ := encodes.ok
  have sent : (do
      let _ ← frame.encode library.json config.maxFrameBytes
      .ok (state.send connectionId frame) : Except Exc TunnelWorld) =
        .ok (state.send connectionId frame) := by
    rw [encoded]
    rfl
  unfold writeFrame
  rw [bind_assoc, settle_attempt sent]
  rfl

theorem settle_lastFrame {frame : OutgoingFrame} (encodes : Encodes library config frame) :
    settle (writeFrame library connectionId frame config.maxFrameBytes) state =
      (wait .drain, state.send connectionId frame) := by
  have sent : settle (writeFrame library connectionId frame config.maxFrameBytes >>= pure) state =
      (wait .drain >>= pure, state.send connectionId frame) := settle_writeFrame encodes
  rwa [bind_pure, bind_pure] at sent

theorem settle_sendData {payload : Bytes} {requestId : Str}
    (isOpen : state.broker.openConnection channelId = .ok connectionId)
    (encodes : Encodes library config ⟨.SESSION_DATA, requestId, some channelId, payload⟩) :
    settle (sendData library config channelId payload requestId) state =
      (wait .drain, state.send connectionId ⟨.SESSION_DATA, requestId, some channelId, payload⟩) := by
  unfold sendData
  rw [settle_look, isOpen]
  exact settle_lastFrame encodes

theorem settle_closeSession {requestId : Str}
    (isOpen : state.broker.openConnection channelId = .ok connectionId)
    (encodes : Encodes library config ⟨.CLOSE_SESSION, requestId, some channelId, []⟩) :
    settle (closeSession library config channelId requestId) state =
      (do wait .drain; onBroker (Broker.retireChannel connectionId channelId),
        state.send connectionId ⟨.CLOSE_SESSION, requestId, some channelId, []⟩) := by
  unfold closeSession
  rw [settle_look, isOpen]
  exact settle_writeFrame encodes

theorem openFrame_some {nodeName username requestId : Str} {frame : OutgoingFrame}
    (made : openFrame library channelId nodeName username requestId = some frame) :
    frame.type = .OPEN_SESSION ∧ frame.channelId = some channelId := by
  unfold openFrame at made
  obtain ⟨payload, -, rfl⟩ := Option.map_eq_some_iff.mp made
  exact ⟨rfl, rfl⟩

theorem Encodes.announces {nodeName username requestId : Str} {frame : OutgoingFrame}
    (made : openFrame library channelId nodeName username requestId = some frame)
    (encodes : Encodes library config frame) :
    Announces library config channelId nodeName username requestId := by
  obtain ⟨bytes, encoded⟩ := encodes.ok
  exact ⟨frame, bytes, made, encoded⟩

theorem settle_openSession {agentId : Uuid}
    {nodeName hostKey username certificateUsername requestId : Str} {broker : Broker}
    {frame : OutgoingFrame} (opened : state.broker.openChannel agentId channelId hostKey username
      certificateUsername state.clock = .ok (broker, connectionId))
    (made : openFrame library channelId nodeName username requestId = some frame)
    (encodes : Encodes library config frame) :
    settle (openSession library config agentId channelId nodeName hostKey username certificateUsername
        requestId) state = (wait .drain, (state.onBroker broker).send connectionId frame) := by
  unfold openFrame at made
  obtain ⟨payload, encoded, rfl⟩ := Option.map_eq_some_iff.mp made
  unfold openSession
  rw [settle_look, opened]
  change settle (update (fun world => world.onBroker broker) >>= fun _ => _) state = _
  rw [settle_update]
  dsimp only
  rw [encoded]
  exact settle_lastFrame encodes
end Settled

end VibeConnect.BrokerCalls
