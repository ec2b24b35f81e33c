import VibeConnect.AgentReconnect
import VibeConnect.AgentRelease
import VibeConnect.TunnelFaults

/-! What ends the agent. Its loop retries on three kinds of error; a tunnel raises
one of those as long as every frame that the reader takes is one `decode_frame`
takes, and every frame that the agent has to write fits a header. -/
namespace VibeConnect.AgentSurvival
open Python.Text Python.JsonCodec Python.Stream Python.Coroutine Python.Tasks Models TunnelProtocol
open FrameReaders TunnelState TunnelAuthenticator TunnelBroker AgentChannels AgentTunnel AgentReconnect
open TunnelFaults TunnelAdmission

/-! The reader. -/

/-- The stream begins with a header of an accepted length. -/
structure Opens (content headerPrefix header rest : Bytes) : Prop where
  cut : content = headerPrefix ++ header ++ rest
  fourBytes : headerPrefix.length = 4
  announced : header.length = unpackLength headerPrefix
  nonempty : unpackLength headerPrefix ≠ 0
  bounded : unpackLength headerPrefix ≤ FRAME_HEADER_MAX_BYTES

/-- The next frame of the stream, where the reader takes one, is a frame. -/
structure WellFramed (codec : Codec) (maxFrameBytes : Int) (content : Bytes) : Prop where
  loadable : ∀ headerPrefix header rest, Opens content headerPrefix header rest →
    Loadable codec header
  decodes : ∀ headerPrefix header payload rest, Opens content headerPrefix header (payload ++ rest) →
    Agent.payloadLengthFromHeader codec (headerPrefix ++ header) = .ok payload.length →
    (payload.length : Int) ≤ maxFrameBytes →
    ∃ decoded, decodeFrame codec (headerPrefix ++ header ++ payload) maxFrameBytes = .ok decoded

section Reader
variable {codec : Codec} {maxFrameBytes : Int} {reader left : StreamReader} {raised : Exc}

theorem payloadLengthFromHeader_raises {headerPrefix header : Bytes} (four : headerPrefix.length = 4)
    (announced : header.length = unpackLength headerPrefix)
    (failed : Agent.payloadLengthFromHeader codec (headerPrefix ++ header) = .error raised) :
    isRetried raised = true ∨ ¬Loadable codec header := by
  have first : (headerPrefix ++ header).take 4 = headerPrefix := List.take_left' four
  have second : (headerPrefix ++ header).take (4 + unpackLength headerPrefix) = headerPrefix ++ header :=
    List.take_of_length_le (by rw [List.length_append, four, announced])
  unfold Agent.payloadLengthFromHeader at failed
  dsimp only at failed
  rw [first, second, List.drop_left' four] at failed
  rcases bind_error.mp failed with wrong | ⟨fields, -, failed⟩
  · rcases loadObject_raises wrong with ⟨-, rfl | rfl⟩ | ⟨unloadable, -⟩
    · exact .inl rfl
    · exact .inl rfl
    · exact .inr unloadable
  rcases bind_error.mp failed with wrong | ⟨payloadLength, -, failed⟩
  · rw [integerField_raises wrong]
    exact .inl rfl
  split at failed
  · cases failed
    exact .inl rfl
  · cases failed

/-- A read gives the next bytes, or the stream ends in it. -/
theorem await_cases (count : Nat) (reader : StreamReader) :
    (∃ bytes left, (Coro.await count : Reading Bytes).run onStream reader = (.ok bytes, left) ∧
      bytes.length = count ∧ reader.content = bytes ++ left.content) ∨
    ∃ received left, (Coro.await count : Reading Bytes).run onStream reader =
      (.error (.incompleteReadError received), left) := by
  rcases given : reader.readexactly count with ⟨received | bytes, left⟩
  · refine .inr ⟨received, left, ?_⟩
    rw [Coro.run_await, onStream, given]
  · obtain ⟨length, content⟩ := readexactly_ok _ _ _ _ given
    exact .inl ⟨bytes, left, await_ok.mpr given, length, content⟩

/-- What the reader gives for a frame of a well-framed stream is a frame. -/
theorem readOneFrame_run {outcome : Except Exc (Option Bytes)}
    (framed : WellFramed codec maxFrameBytes reader.content)
    (read : (Agent.readOneFrame codec Coro.await maxFrameBytes : Reading (Option Bytes)).run onStream
      reader = (outcome, left)) :
    (∀ raised, outcome = .error raised → isRetried raised = true) ∧
      ∀ data, outcome = .ok (some data) →
        ∃ decoded, decodeFrame codec data maxFrameBytes = .ok decoded := by
  have ends : ∀ {fault : Exc} {after : StreamReader}, isRetried fault = true →
      (Except.error fault, after) = (outcome, left) →
      (∀ raised, outcome = .error raised → isRetried raised = true) ∧
        ∀ data, outcome = .ok (some data) →
          ∃ decoded, decodeFrame codec data maxFrameBytes = .ok decoded := by
    intro fault after retried same
    cases same
    refine ⟨fun raised same => ?_, nofun⟩
    cases same
    exact retried
  unfold Agent.readOneFrame at read
  rw [Coro.run_bind, agentOpening_run] at read
  rcases given : reader.readexactly 4 with ⟨received | headerPrefix, first⟩
  · rw [given] at read
    cases received with
    | nil =>
        cases read
        exact ⟨nofun, nofun⟩
    | cons byte more => exact ends rfl read
  rw [given] at read
  obtain ⟨four, content⟩ := readexactly_ok _ _ _ _ given
  dsimp only at read
  split at read
  · exact ends rfl read
  rename_i lengthOk
  rw [not_or, not_lt] at lengthOk
  rw [Coro.run_bind] at read
  rcases await_cases (unpackLength headerPrefix) first with
    ⟨header, second, gotHeader, announced, rest⟩ | ⟨received, second, broken⟩
  rotate_left
  · rw [broken] at read
    exact ends rfl read
  rw [gotHeader] at read
  have opens : ∀ {tail : Bytes}, second.content = tail → Opens reader.content headerPrefix header tail := by
    rintro tail rfl
    refine ⟨?_, four, announced, lengthOk.1, lengthOk.2⟩
    rw [content, rest, List.append_assoc]
  dsimp only at read
  rw [Coro.run_bind, Coro.run_ofAnswer] at read
  cases sized : Agent.payloadLengthFromHeader codec (headerPrefix ++ header) with
  | error fault =>
      rw [sized] at read
      exact ends ((payloadLengthFromHeader_raises four announced sized).resolve_right
        fun unloadable => unloadable (framed.loadable _ _ _ (opens rfl))) read
  | ok payloadLength =>
  rw [sized] at read
  dsimp only at read
  split at read
  · exact ends rfl read
  rename_i small
  rw [Coro.run_bind] at read
  rcases await_cases payloadLength.toNat second with
    ⟨payload, third, gotPayload, length, last⟩ | ⟨received, third, broken⟩
  rotate_left
  · rw [broken] at read
    exact ends rfl read
  rw [gotPayload] at read
  -- the reader has refused a negative length, so the payload is as long as announced
  have nonnegative : 0 ≤ payloadLength := by
    obtain ⟨fields, -, checked⟩ := bind_ok.mp sized
    obtain ⟨value, -, checked⟩ := bind_ok.mp checked
    split at checked
    · cases checked
    · rename_i positive
      cases checked
      exact not_lt.mp positive
  have same : payloadLength = payload.length := by omega
  subst same
  cases read
  refine ⟨nofun, fun data given => ?_⟩
  cases given
  exact framed.decodes _ _ _ _ (opens last) sized (not_lt.mp small)

/-- A stream that begins with a frame is well framed. -/
theorem wellFramed_of_decodes {data rest : Bytes} {decoded : DecodedTunnelFrame}
    (decodes : decodeFrame codec data maxFrameBytes = .ok decoded) :
    WellFramed codec maxFrameBytes (data ++ rest) := by
  obtain ⟨headerPrefix, header, fields, frame⟩ := decodeFrame_iff.mp decodes
  obtain ⟨field, nonnegative, -⟩ := frameOfHeader_length frame.accepted
  have unique : ∀ {otherPrefix otherHeader tail : Bytes},
      Opens (data ++ rest) otherPrefix otherHeader tail →
      otherPrefix = headerPrefix ∧ otherHeader = header ∧ tail = decoded.payload ++ rest := by
    intro otherPrefix otherHeader tail opens
    have whole := opens.cut
    rw [frame.cut, List.append_assoc, List.append_assoc, List.append_assoc] at whole
    obtain ⟨samePrefix, behind⟩ := List.append_inj whole (frame.fourBytes.trans opens.fourBytes.symm)
    have announced : header.length = otherHeader.length := by
      rw [frame.announced, opens.announced, samePrefix]
    obtain ⟨sameHeader, last⟩ := List.append_inj behind announced
    exact ⟨samePrefix.symm, sameHeader.symm, last.symm⟩
  constructor
  · intro otherPrefix otherHeader tail opens
    obtain ⟨-, rfl, -⟩ := unique opens
    exact loadObject_loadable frame.loaded
  · intro otherPrefix otherHeader payload tail opens sized _
    obtain ⟨rfl, rfl, cut⟩ := unique opens
    rw [payloadLengthFromHeader_ok frame.fourBytes frame.announced frame.loaded field nonnegative] at sized
    -- the header says where the payload ends
    have announced : decoded.frame.payloadLength = (payload.length : Int) := Except.ok.inj sized
    have long := frame.length
    obtain ⟨rfl, -⟩ := List.append_inj cut (by omega)
    rw [← frame.cut]
    exact ⟨decoded, decodes⟩

/-- What the agent's loop raises for a turn of its reader is retried. -/
theorem agentRead_raises (framed : WellFramed codec maxFrameBytes reader.content)
    (read : (agentRead codec maxFrameBytes).run onStream reader = (.error raised, left)) :
    isRetried raised = true := by
  unfold agentRead Agent.readAndDecode at read
  rw [Coro.run_bind] at read
  rcases given : (Agent.readOneFrame codec Coro.await maxFrameBytes : Reading (Option Bytes)).run onStream
    reader with ⟨outcome, after⟩
  obtain ⟨retried, decodes⟩ := readOneFrame_run framed given
  rw [given] at read
  rcases outcome with fault | data | data
  · cases read
    exact retried _ rfl
  · cases read
  · obtain ⟨decoded, decodes⟩ := decodes data rfl
    dsimp only at read
    rw [Coro.run_map, Coro.run_ofAnswer, decodes] at read
    cases read
end Reader

/-! The tunnel. -/

/-- What may pass through a tunnel: what is left of the stream when a frame is read,
the frames themselves, and what a local connection gives for a channel. -/
structure Traffic where
  stream : Bytes → Prop
  frame : DecodedTunnelFrame → Prop
  chunk : ChannelId → Bytes → Prop

def anyTraffic : Traffic := ⟨fun _ => True, fun _ => True, fun _ _ => True⟩

def replyTo (decoded : DecodedTunnelFrame) : OutgoingFrame :=
  ⟨.HEARTBEAT, decoded.frame.requestId, none, []⟩

def dataFrame (channelId : ChannelId) (payload : Bytes) : OutgoingFrame :=
  ⟨.SESSION_DATA, channelId ++ lit ":data", some channelId, payload⟩

/-- Traffic that raises nothing but what is retried: whatever the reader takes is a
frame, and the agent's own frames can be encoded. -/
def coveredTraffic (codec : Codec) (maxFrameBytes : Int) : Traffic where
  stream := WellFramed codec maxFrameBytes
  frame decoded := decoded.frame.type = .HEARTBEAT →
    ∃ bytes, (replyTo decoded).encode codec DEFAULT_FRAME_MAX_BYTES = .ok bytes
  chunk channelId payload := payload ≠ [] →
    ∃ bytes, (dataFrame channelId payload).encode codec maxFrameBytes = .ok bytes

section Tunnel
variable (library : Library) (connectionId : ConnectionId) (maxFrameBytes : Int) (traffic : Traffic)

/-- The calls of a tunnel that nobody stops: bytes arrive, and connections fail with
`OSError`s. A forwarder may be cancelled. -/
def Carried : AgentTask → (call : TunnelCall) → Except Exc (TunnelResult call) → TunnelWorld → Prop
  | .loop, .readFrame, answer, _ =>
      (∃ reader left, traffic.stream reader.content ∧
        (agentRead library.json maxFrameBytes).run onStream reader = (answer, left) ∧
        ∀ decoded, answer = .ok (some decoded) → traffic.frame decoded) ∨
      ∃ raised, answer = .error raised ∧ raised.isOSError = true
  | .loop, .joinForwarder _, _, _ => True
  | .loop, _, .error raised, _ => raised.isOSError = true
  | .forwarder number, .localRead _ _, .ok payload, before => ∀ channelId,
      (loopOf connectionId before).created[number]? = some channelId → traffic.chunk channelId payload
  | .forwarder _, _, .error raised, _ => raised.isOSError = true ∨ raised = .cancelledError
  | _, _, _, _ => True

def tunnelWorld (task : AgentTask) : World TunnelWorld TunnelResult Exc :=
  fun call answer before after => agentWorld connectionId task call answer before after ∧
    Carried library connectionId maxFrameBytes traffic task call answer before

/-- The tasks of an agent, whose writes to local connections fail with `OSError`s. -/
def tunnelPrograms (task : AgentTask) (program : TunnelTask Unit) (world : TunnelWorld) : Prop :=
  agentPrograms connectionId library maxFrameBytes task program world ∧
    ∀ serial, task = .breaking serial → ∃ broken : Nat → Option Exc,
      (∀ number raised, broken number = some raised → raised.isOSError = true) ∧
        program = update (onSide connectionId fun side => { side with broken := broken })

/-- A forwarder keeps no error but one that is retried, beside its cancellation. -/
structure Sturdy (side : AgentSide) : Prop where
  outcomes : ∀ number raised, (side.forwarders number).outcome = some (.error raised) →
    isRetried raised = true ∨ raised = .cancelledError
  writes : ∀ number raised, side.broken number = some raised → raised.isOSError = true

def Holds (world : TunnelWorld) : Prop := Sturdy (world.agentSide connectionId)

/-- Local connections are only added. -/
def Grows (before after : TunnelWorld) : Prop :=
  (loopOf connectionId before).created <+: (loopOf connectionId after).created

def survivalContract : AgentTask → Contract TunnelWorld Exc Unit
  | .loop => ⟨Grows connectionId, Grows connectionId, fun outcome _ =>
      ∀ raised, outcome = .error raised → isRetried raised = true⟩
  | _ => ⟨Grows connectionId, Grows connectionId, fun _ _ => True⟩
end Tunnel

theorem isRetried_osError {raised : Exc} (system : raised.isOSError = true) : isRetried raised = true := by
  unfold isRetried
  split
  · rfl
  · rfl
  · rfl
  · exact system

section Rules
variable {library : Library} {connectionId : ConnectionId} {maxFrameBytes : Int}
  {state : TunnelWorld} {α : Type}

theorem contract_lawful (task : AgentTask) : (survivalContract connectionId task).Lawful := by
  have refl : ∀ world, Grows connectionId world world := fun world => List.prefix_refl _
  have trans : ∀ one two three, Grows connectionId one two → Grows connectionId two three →
      Grows connectionId one three := fun _ _ _ first second => first.trans second
  cases task with
  | loop => exact ⟨refl, trans, refl, trans, fun _ _ _ post _ => post⟩
  | forwarder number => exact ⟨refl, trans, refl, trans, fun _ _ _ _ _ => trivial⟩
  | breaking serial => exact ⟨refl, trans, refl, trans, fun _ _ _ _ _ => trivial⟩

/-- What an answer to the loop leaves of the rest. -/
theorem loopWorld_holds {call : TunnelCall} {answer : Except Exc (TunnelResult call)}
    {before after : TunnelWorld} (given : loopWorld connectionId call answer before after)
    (holds : Holds connectionId before) : Holds connectionId after := by
  have onLoop : ∀ change, Holds connectionId (onLoop connectionId change before) := by
    intro change
    unfold Holds AgentTunnel.onLoop
    rw [onSide_same]
    exact ⟨holds.outcomes, holds.writes⟩
  unfold loopWorld at given
  split at given
  · exact given ▸ onLoop _
  · exact given ▸ onLoop _
  · rcases given with ⟨-, same⟩ | ⟨-, -, same⟩
    · exact same ▸ holds
    · exact same ▸ onLoop _
  · exact given ▸ onLoop _
  · exact given ▸ onLoop _
  · exact given ▸ onLoop _
  · exact given.elim
  · exact given ▸ onLoop _

theorem loopWorld_grows {call : TunnelCall} {answer : Except Exc (TunnelResult call)}
    {before after : TunnelWorld} (given : loopWorld connectionId call answer before after) :
    Grows connectionId before after := by
  unfold Grows
  rw [(AgentRelease.loopWorld_alike given).created]

/-- Runs of the loop: it goes on, or raises what is retried. -/
abbrev Goes (library : Library) (connectionId : ConnectionId) (maxFrameBytes : Int)
    (program : TunnelTask α) (state : TunnelWorld) : Prop :=
  program.wp (answered (tunnelWorld library connectionId maxFrameBytes
      (coveredTraffic library.json maxFrameBytes) .loop) (Holds connectionId) (Grows connectionId))
    (obliged (Holds connectionId) (Grows connectionId))
    (Coro.either (fun _ after => Holds connectionId after)
      fun raised after => Holds connectionId after ∧ isRetried raised = true) state

theorem wait_goes (call : TunnelCall) (holds : Holds connectionId state)
    (reading : call ≠ .readFrame) (joining : ∀ number, call ≠ .joinForwarder number) :
    Goes library connectionId maxFrameBytes (wait call) state := by
  apply call_safe holds
  rintro answer resumed after - still ⟨given, carried⟩
  have given : loopWorld connectionId call answer resumed after := given
  have holds := loopWorld_holds given still
  cases answer with
  | ok value => exact holds
  | error raised =>
      refine ⟨holds, isRetried_osError ?_⟩
      cases call with
      | readFrame => exact absurd rfl reading
      | joinForwarder number => exact absurd rfl (joining number)
      | _ => exact carried

theorem onLoop_goes {change : AgentLoop → AgentLoop} (holds : Holds connectionId state)
    (grows : (loopOf connectionId state).created <+: (change (loopOf connectionId state)).created) :
    Goes library connectionId maxFrameBytes (update (onLoop connectionId change)) state := by
  apply update_safe
  · unfold Grows
    rw [loopOf_onLoop]
    exact grows
  · show Sturdy _
    unfold onLoop
    rw [onSide_same]
    exact ⟨holds.outcomes, holds.writes⟩

theorem writeFrame_wp {task : AgentTask} {frame : OutgoingFrame} {bound : Int}
    {post : Except Exc Unit → TunnelWorld → Prop} (holds : Holds connectionId state)
    (fits : ∃ bytes, frame.encode library.json bound = .ok bytes)
    (drained : ∀ after, Holds connectionId after → Grows connectionId state after →
      (wait .drain : TunnelTask Unit).wp (answered (tunnelWorld library connectionId maxFrameBytes
        (coveredTraffic library.json maxFrameBytes) task) (Holds connectionId) (Grows connectionId))
        (obliged (Holds connectionId) (Grows connectionId)) post after) :
    (AgentTunnel.writeFrame library connectionId frame bound).wp
      (answered (tunnelWorld library connectionId maxFrameBytes
        (coveredTraffic library.json maxFrameBytes) task) (Holds connectionId) (Grows connectionId))
      (obliged (Holds connectionId) (Grows connectionId)) post state := by
  obtain ⟨bytes, encoded⟩ := fits
  have still : Grows connectionId state state := List.prefix_refl _
  apply Coro.wp_bind (attempt_safe still _ _)
  · intro after written
    rw [encoded] at written
    cases written
    have grown : Grows connectionId state (emit connectionId frame state) := by
      unfold Grows
      rw [loopOf_emit]
    refine ⟨grown, drained _ ?_ grown⟩
    unfold Holds emit
    rw [onSide_same]
    exact ⟨holds.outcomes, holds.writes⟩
  · intro raised failed
    rw [encoded] at failed
    cases failed

theorem writeFrame_goes {frame : OutgoingFrame} {bound : Int} (holds : Holds connectionId state)
    (fits : ∃ bytes, frame.encode library.json bound = .ok bytes) :
    Goes library connectionId maxFrameBytes (AgentTunnel.writeFrame library connectionId frame bound)
      state :=
  writeFrame_wp holds fits fun _ holds _ => wait_goes .drain holds nofun nofun

/-- A forwarder's own error comes out of the closing of its channel. -/
theorem closeChannel_goes {number : Nat} (holds : Holds connectionId state) :
    Goes library connectionId maxFrameBytes (closeChannel connectionId number) state := by
  have closing : ∀ {state : TunnelWorld}, Holds connectionId state →
      Goes library connectionId maxFrameBytes (do
        update (onLoop connectionId (·.closeWriter number))
        wait (.localWaitClosed number)) state := by
    intro state holds
    apply Coro.wp_bind (Coro.wp_mono _ (onLoop_goes holds (List.prefix_refl _)))
    rintro (raised | _) after reached
    · exact reached
    · exact wait_goes _ reached nofun nofun
  apply Coro.wp_bind (Coro.wp_mono _ (onLoop_goes holds (List.prefix_refl _)))
  rintro (raised | _) cancelled reached
  · exact reached
  apply Coro.wp_bind (Coro.wp_handle _)
  apply call_safe reached
  rintro answer resumed after - still ⟨given, -⟩
  have given : loopWorld connectionId _ answer resumed after := given
  have holds := loopWorld_holds given still
  cases answer with
  | ok value => exact closing holds
  | error raised =>
      dsimp only
      split
      · exact closing holds
      · rename_i differs
        rcases given with ⟨same, -⟩ | ⟨-, stored, -⟩
        · exact absurd (Except.error.inj same) differs
        · exact ⟨holds, (still.outcomes number raised stored).resolve_right differs⟩

theorem named_goes {field : Option Str} {next : ChannelId → TunnelTask Unit}
    (holds : Holds connectionId state)
    (goes : ∀ channelId, Goes library connectionId maxFrameBytes (next channelId) state) :
    Goes library connectionId maxFrameBytes (Coro.ofAnswer (requireChannelId field) >>= next) state := by
  apply Coro.wp_bind (Coro.wp_ofAnswer _)
  cases named : requireChannelId field with
  | ok channelId => exact goes channelId
  | error raised =>
      refine ⟨holds, ?_⟩
      unfold requireChannelId at named
      split at named
      · cases named
      · cases named
        rfl

theorem handleFrame_goes {decoded : DecodedTunnelFrame} (holds : Holds connectionId state)
    (covered : (coveredTraffic library.json maxFrameBytes).frame decoded) :
    Goes library connectionId maxFrameBytes (handleFrame library connectionId decoded) state := by
  unfold handleFrame
  split
  · exact holds
  · rename_i heartbeat
    exact writeFrame_goes holds (covered heartbeat)
  · apply named_goes holds
    intro channelId
    apply Coro.wp_bind (look_safe _)
    dsimp only
    split
    · exact ⟨holds, rfl⟩
    · apply Coro.wp_bind (Coro.wp_mono _ (wait_goes .connectLocal holds nofun nofun))
      rintro (raised | _) connected reached
      · exact reached
      apply Coro.wp_bind (Coro.wp_mono _ (onLoop_goes reached (List.prefix_append _ _)))
      rintro (raised | _) created reached
      · exact reached
      · exact wait_goes _ reached nofun nofun
  · apply named_goes holds
    intro channelId
    apply Coro.wp_bind (look_safe _)
    dsimp only
    split
    · exact ⟨holds, rfl⟩
    · rename_i number _
      apply Coro.wp_bind (change_safe _ _)
      · unfold writeLocal Grows
        split
        · rw [loopOf_onLoop]
          exact List.prefix_refl _
        · rw [loopOf_onLoop]
          exact List.prefix_refl _
      · have kept : ∀ change, Holds connectionId (onLoop connectionId change state) := by
          intro change
          unfold Holds onLoop
          rw [onSide_same]
          exact ⟨holds.outcomes, holds.writes⟩
        unfold writeLocal
        cases wrong : (state.agentSide connectionId).broken number with
        | none => exact wait_goes _ (kept _) nofun nofun
        | some raised => exact ⟨kept _, isRetried_osError (holds.writes number raised wrong)⟩
  · apply named_goes holds
    intro channelId
    apply Coro.wp_bind (look_safe _)
    dsimp only
    split
    · exact ⟨holds, rfl⟩
    · exact holds
  · apply named_goes holds
    intro channelId
    apply Coro.wp_bind (look_safe _)
    dsimp only
    split
    · exact holds
    · apply Coro.wp_bind (Coro.wp_mono _ (onLoop_goes holds (List.prefix_refl _)))
      rintro (raised | _) popped reached
      · exact reached
      · exact closeChannel_goes reached
  · exact ⟨holds, rfl⟩

theorem frameLoop_goes {turns : Nat} (holds : Holds connectionId state) :
    Goes library connectionId maxFrameBytes (frameLoop library connectionId turns) state := by
  induction turns generalizing state with
  | zero => exact wait_goes _ holds nofun nofun
  | succ turns ih =>
      apply Coro.wp_bind (call_safe holds _)
      rintro answer resumed after - still ⟨given, carried⟩
      have given : loopWorld connectionId .readFrame answer resumed after := given
      have holds := loopWorld_holds given still
      rcases carried with ⟨reader, left, framed, read, covered⟩ | ⟨raised, rfl, system⟩
      · rcases answer with raised | read' | decoded
        · exact ⟨holds, agentRead_raises framed read⟩
        · exact holds
        · apply Coro.wp_bind (Coro.wp_mono _ (handleFrame_goes holds (covered decoded rfl)))
          rintro (raised | _) handled reached
          · exact reached
          · exact ih reached
      · exact ⟨holds, isRetried_osError system⟩

theorem closeEach_goes {rest : List (ChannelId × Nat)} (holds : Holds connectionId state) :
    Goes library connectionId maxFrameBytes (closeEach connectionId rest) state := by
  induction rest generalizing state with
  | nil => exact holds
  | cons entry rest ih =>
      apply Coro.wp_bind (Coro.wp_mono _ (closeChannel_goes holds))
      rintro (raised | _) after reached
      · exact reached
      · exact ih reached

theorem handleAgentTunnelStream_goes {turns : Nat} (holds : Holds connectionId state) :
    Goes library connectionId maxFrameBytes (handleAgentTunnelStream library connectionId turns) state := by
  apply Coro.wp_finallyDo (Coro.wp_mono _ (frameLoop_goes holds))
  intro ended left reached
  have holds : Holds connectionId left := by
    rcases ended with raised | value
    · exact reached.1
    · exact reached
  apply Coro.wp_bind (look_safe _)
  apply Coro.wp_mono _ (closeEach_goes holds)
  rintro (raised | _) after closed
  · exact closed
  · rcases ended with raised | value
    · exact ⟨closed, reached.2⟩
    · exact closed

/-- A forwarder knows which channel its local connection serves. -/
def Serves (connectionId : ConnectionId) (number : Nat) (channelId : ChannelId) (world : TunnelWorld) :
    Prop :=
  Holds connectionId world ∧ (loopOf connectionId world).created[number]? = some channelId

theorem Grows.serves {number : Nat} {channelId : ChannelId} {before after : TunnelWorld}
    (grows : Grows connectionId before after) (holds : Holds connectionId after)
    (serves : Serves connectionId number channelId before) :
    Serves connectionId number channelId after :=
  ⟨holds, getElem?_of_prefix grows serves.2⟩

/-- What an answer to a forwarder leaves of the rest. -/
theorem forwarderWorld_holds {number : Nat} {call : TunnelCall}
    {answer : Except Exc (TunnelResult call)} {before after : TunnelWorld}
    (given : forwarderWorld connectionId number call answer before after)
    (holds : Holds connectionId before) : Holds connectionId after := by
  have kept : ∀ (change : LocalForwarder → LocalForwarder),
      (∀ forwarder, (change forwarder).outcome = forwarder.outcome) →
      Holds connectionId (onForwarder connectionId number change before) := by
    intro change untouched
    unfold Holds onForwarder
    rw [onSide_same]
    refine ⟨fun other raised stored => ?_, holds.writes⟩
    dsimp only at stored
    by_cases same : other = number
    · subst same
      rw [Function.update_self, untouched] at stored
      exact holds.outcomes other raised stored
    · rw [Function.update_of_ne same] at stored
      exact holds.outcomes other raised stored
  unfold forwarderWorld at given
  split at given
  · rw [given.2]
    exact kept _ fun _ => rfl
  · rw [given]
    exact kept _ fun _ => rfl
  · exact given.elim
  · rw [given]
    exact holds

theorem forwarderWorld_grows {number : Nat} {call : TunnelCall}
    {answer : Except Exc (TunnelResult call)} {before after : TunnelWorld}
    (given : forwarderWorld connectionId number call answer before after) :
    Grows connectionId before after := by
  have same : loopOf connectionId after = loopOf connectionId before := by
    unfold forwarderWorld at given
    split at given
    · rw [given.2, loopOf_onForwarder]
    · rw [given, loopOf_onForwarder]
    · exact given.elim
    · rw [given]
  unfold Grows
  rw [same]

/-- Runs of a forwarder: what it raises is retried, or its own cancellation. -/
abbrev Forwards (library : Library) (connectionId : ConnectionId) (maxFrameBytes : Int) (number : Nat)
    (channelId : ChannelId) (program : TunnelTask α) (state : TunnelWorld) : Prop :=
  program.wp (answered (tunnelWorld library connectionId maxFrameBytes
      (coveredTraffic library.json maxFrameBytes) (.forwarder number)) (Holds connectionId)
      (Grows connectionId))
    (obliged (Holds connectionId) (Grows connectionId))
    (Coro.either (fun _ after => Serves connectionId number channelId after)
      fun raised after => Serves connectionId number channelId after ∧
        (isRetried raised = true ∨ raised = .cancelledError)) state

theorem forwarder_wait {number : Nat} {channelId : ChannelId} (call : TunnelCall)
    (serves : Serves connectionId number channelId state) :
    Forwards library connectionId maxFrameBytes number channelId (wait call) state := by
  apply call_safe serves.1
  rintro answer resumed after relied still ⟨given, carried⟩
  have holds := forwarderWorld_holds given still
  have serves := (forwarderWorld_grows given).serves holds (relied.serves still serves)
  cases answer with
  | ok value => exact serves
  | error raised =>
      have fault : raised.isOSError = true ∨ raised = .cancelledError := by
        cases call with
        | _ => exact carried
      exact ⟨serves, fault.imp_left isRetried_osError⟩

theorem forwardLocalToTunnel_goes {number turns : Nat} {channelId : ChannelId}
    (serves : Serves connectionId number channelId state) :
    Forwards library connectionId maxFrameBytes number channelId
      (forwardLocalToTunnel library connectionId maxFrameBytes number channelId turns) state := by
  induction turns generalizing state with
  | zero => exact forwarder_wait _ serves
  | succ turns ih =>
      apply Coro.wp_bind (call_safe serves.1 _)
      rintro answer resumed after relied still ⟨given, carried⟩
      have holds := forwarderWorld_holds given still
      have serves' := (forwarderWorld_grows given).serves holds (relied.serves still serves)
      cases answer with
      | error raised => exact ⟨serves', carried.imp_left isRetried_osError⟩
      | ok payload =>
          have chunk := carried channelId (relied.serves still serves).2
          dsimp only
          split
          · exact serves'
          · rename_i nonempty
            obtain ⟨bytes, encoded⟩ := chunk nonempty
            apply Coro.wp_bind
            apply writeFrame_wp holds ⟨bytes, encoded⟩
            intro emitted held grown
            apply Coro.wp_mono _ (forwarder_wait .drain (grown.serves held serves'))
            rintro (raised | _) drained reached
            · exact reached
            · exact ih reached

theorem forwarder_goes {number turns : Nat} {channelId : ChannelId}
    (serves : Serves connectionId number channelId state) :
    (forwarder library connectionId maxFrameBytes number channelId turns).wp
      (answered (tunnelWorld library connectionId maxFrameBytes
        (coveredTraffic library.json maxFrameBytes) (.forwarder number)) (Holds connectionId)
        (Grows connectionId))
      (obliged (Holds connectionId) (Grows connectionId)) (fun _ after => Holds connectionId after)
      state := by
  apply Coro.wp_bind
  apply Coro.wp_outcome
  apply Coro.wp_mono _ (forwardLocalToTunnel_goes serves)
  intro ended after reached
  have holds : Holds connectionId after := by
    rcases ended with raised | value
    · exact reached.1.1
    · exact reached.1
  apply update_safe
  · unfold Grows
    rw [loopOf_onForwarder]
  · unfold Holds onForwarder
    rw [onSide_same]
    constructor
    · intro other raised stored
      dsimp only at stored
      by_cases same : other = number
      · subst same
        rw [Function.update_self] at stored
        cases stored
        exact reached.2
      · rw [Function.update_of_ne same] at stored
        exact holds.outcomes other raised stored
    · exact holds.writes

theorem breaking_goes {serial : Nat} {broken : Nat → Option Exc} (holds : Holds connectionId state)
    (system : ∀ number raised, broken number = some raised → raised.isOSError = true) :
    (update (onSide connectionId fun side => { side with broken := broken }) : TunnelTask Unit).wp
      (answered (tunnelWorld library connectionId maxFrameBytes
        (coveredTraffic library.json maxFrameBytes) (.breaking serial)) (Holds connectionId)
        (Grows connectionId))
      (obliged (Holds connectionId) (Grows connectionId)) (fun _ after => Holds connectionId after)
      state := by
  apply update_safe
  · unfold Grows loopOf
    rw [onSide_same]
  · unfold Holds
    rw [onSide_same]
    exact ⟨holds.outcomes, system⟩

theorem tunnelWorld_grows {traffic : Traffic} {task : AgentTask} {call : TunnelCall}
    {answer : Except Exc (TunnelResult call)} {before after : TunnelWorld}
    (given : tunnelWorld library connectionId maxFrameBytes traffic task call answer before after) :
    Grows connectionId before after := by
  obtain ⟨given, -⟩ := given
  cases task with
  | loop => exact loopWorld_grows given
  | forwarder number => exact forwarderWorld_grows given
  | breaking serial =>
      have same : after = before := given
      rw [same]
      exact List.prefix_refl _

/-- In covered traffic the loop of a tunnel ends with an error that is retried. -/
theorem tunnel_safe {start : TunnelWorld} (initial : Holds connectionId start)
    {pool : AgentPool}
    (reached : Reachable (tunnelWorld library connectionId maxFrameBytes
      (coveredTraffic library.json maxFrameBytes)) (tunnelPrograms library connectionId maxFrameBytes)
      start pool) :
    pool.Safe (tunnelWorld library connectionId maxFrameBytes
      (coveredTraffic library.json maxFrameBytes)) (Holds connectionId)
      (survivalContract connectionId) := by
  apply reachable_safe contract_lawful _ _ _ initial reached
  · intro task other before after _ grows
    cases task <;> cases other <;> exact grows
  · intro task call answer before after given
    have grows := tunnelWorld_grows given
    cases task <;> exact grows
  · rintro task program state ⟨started, plain⟩ holds
    cases task with
    | loop =>
        obtain ⟨turns, rfl⟩ := started
        apply Coro.wp_mono _ (handleAgentTunnelStream_goes holds)
        rintro (raised | value) after ended
        · refine ⟨ended.1, fun other same => ?_⟩
          cases same
          exact ended.2
        · exact ⟨ended, nofun⟩
    | forwarder number =>
        obtain ⟨channelId, turns, made, rfl⟩ := started
        exact Coro.wp_mono (fun _ _ kept => ⟨kept, trivial⟩) (forwarder_goes ⟨holds, made⟩)
    | breaking serial =>
        obtain ⟨broken, system, rfl⟩ := plain serial rfl
        exact Coro.wp_mono (fun _ _ kept => ⟨kept, trivial⟩) (breaking_goes holds system)
end Rules

/-! The agent's life. -/

/-- How one `_run_tunnel_once` ends. -/
inductive Once (library : Library) (traffic : Traffic) : Except Exc Unit → Prop
  | opening {raised : Exc} (retried : isRetried raised = true) : Once library traffic (.error raised)
  | streamed {connectionId : ConnectionId} {start : TunnelWorld} {pool : AgentPool}
      {outcome : Except Exc Unit} (fresh : start.agentSide connectionId = .empty)
      (reached : Reachable (tunnelWorld library connectionId DEFAULT_FRAME_MAX_BYTES traffic)
        (tunnelPrograms library connectionId DEFAULT_FRAME_MAX_BYTES) start pool)
      (ended : pool.tasks .loop = some (Coro.ofAnswer outcome)) : Once library traffic outcome
  | closing {raised : Exc} (system : raised.isOSError = true) : Once library traffic (.error raised)

theorem once_retried {library : Library} {raised : Exc}
    (once : Once library (coveredTraffic library.json DEFAULT_FRAME_MAX_BYTES) (.error raised)) :
    isRetried raised = true := by
  cases once with
  | opening retried => exact retried
  | closing system => exact isRetried_osError system
  | @streamed connectionId start pool _ fresh reached ended =>
      have initial : Holds connectionId start := by
        unfold Holds
        rw [fresh]
        exact ⟨nofun, nofun⟩
      obtain ⟨-, -, post⟩ := (tunnel_safe initial reached).2 _ _ ended
      exact post raised rfl

/-- The tunnels an agent opens, one after another, in covered traffic and, where their
number is not limited below 1025, with no more than 1024 failures in a row. -/
structure Lived (library : Library) (config : ReconnectConfig) (tunnels : List Attempt) : Prop where
  once : ∀ tunnel ∈ tunnels, Once library (coveredTraffic library.json DEFAULT_FRAME_MAX_BYTES) tunnel.1
  drawn : ∀ tunnel ∈ tunnels, 0 ≤ tunnel.2 ∧ tunnel.2 ≤ 1
  few : config.maxReconnectAttempts = 0 ∨ 1024 < config.maxReconnectAttempts →
    ∀ past, past <+: tunnels → failures 0 past ≤ 1024

/-- The agent outlives its tunnels: each error is one that it retries on, and it ends
with the limit, at the failure that is one too many, or not at all. -/
theorem agent_survives (library : Library) (config : ReconnectConfig) {tunnels : List Attempt}
    (lived : Lived library config tunnels) :
    (∀ tunnel ∈ tunnels, ∀ raised, tunnel.1 = .error raised → isRetried raised = true) ∧
      (config.maxReconnectAttempts = 0 → runTunnel config 0 tunnels = none) ∧
      (runTunnel config 0 tunnels = some (limitError config) ↔ Exhausted config 0 tunnels) ∧
      (runTunnel config 0 tunnels = none ↔ ¬Exhausted config 0 tunnels) := by
  have retried : ∀ tunnel ∈ tunnels, ∀ raised, tunnel.1 = .error raised → isRetried raised = true := by
    intro tunnel member raised failed
    have once := lived.once tunnel member
    rw [failed] at once
    exact once_retried once
  have bearable : Bearable config 0 tunnels := ⟨retried, lived.drawn, lived.few⟩
  obtain ⟨ends, lasts⟩ := runTunnel_spec bearable fun _ => config.nonnegative
  refine ⟨retried, fun unlimited => ?_, ⟨fun ended => ?_, ends⟩, ⟨fun going exhausted => ?_, lasts⟩⟩
  · apply lasts
    rintro ⟨limited, -⟩
    omega
  · by_contra unexhausted
    rw [lasts unexhausted] at ended
    cases ended
  · rw [ends exhausted] at going
    cases going

/-- One try after each failure. -/
def oneRetry : ReconnectConfig := ⟨60, 1, by decide, one_pos.le⟩

def accepted : OutgoingFrame := ⟨.AUTH_OK, lit "a", none, []⟩

def acceptedBytes : Bytes :=
  packLength 72 ++ (lit ("\x7b\"channel_id\":null,\"payload_length\":0,\"request_id\":\"a\"," ++
    "\"type\":\"auth_ok\"\x7d")).map (fun code => UInt8.ofNat code.val)

theorem accepted_encoded : accepted.encode pythonJson DEFAULT_FRAME_MAX_BYTES = .ok acceptedBytes := by
  decide +kernel

/-- The server accepts the agent and closes the tunnel; then two connections are refused. -/
theorem agent_survives_one_retry : ∃ tunnels, Lived libraryOne oneRetry tunnels ∧
    runTunnel oneRetry 0 tunnels = some (limitError oneRetry) := by
  have decodes : decodeFrame pythonJson acceptedBytes DEFAULT_FRAME_MAX_BYTES = .ok accepted.decoded :=
    decodeFrame_encode ⟨(lit_ascii (by decide)).scalarText, trivial⟩ accepted_encoded
  have content : (⟨acceptedBytes, []⟩ : StreamReader).content = acceptedBytes ++ [] := rfl
  obtain ⟨left, read, -⟩ := agentRead_complete decodes content
  have framed : WellFramed pythonJson DEFAULT_FRAME_MAX_BYTES (acceptedBytes ++ []) :=
    wellFramed_of_decodes decodes
  have finished : WellFramed pythonJson DEFAULT_FRAME_MAX_BYTES [] := by
    have short : ∀ {headerPrefix header rest : Bytes}, ¬Opens [] headerPrefix header rest := by
      intro headerPrefix header rest opens
      have long := congrArg List.length opens.cut
      rw [List.length_append, List.length_append, opens.fourBytes, List.length_nil] at long
      omega
    exact ⟨fun _ _ _ opens => absurd opens short, fun _ _ _ _ opens => absurd opens short⟩
  have fresh : Reachable (tunnelWorld libraryOne (lit "c1") DEFAULT_FRAME_MAX_BYTES
      (coveredTraffic pythonJson DEFAULT_FRAME_MAX_BYTES))
      (tunnelPrograms libraryOne (lit "c1") DEFAULT_FRAME_MAX_BYTES) worldOne
      ⟨fun _ => none, worldOne⟩ := .start
  have started := fresh.spawn .loop (handleAgentTunnelStream libraryOne (lit "c1") 2) rfl
    ⟨⟨2, rfl⟩, nofun⟩
  have welcomed := started.resume .loop rfl (.ok (some accepted.decoded)) _
    ⟨rfl, .inl ⟨⟨acceptedBytes, []⟩, left, framed, read, fun decoded same => by
      cases same
      exact nofun⟩⟩
  have closed := welcomed.resume .loop rfl (.ok none) _
    ⟨rfl, .inl ⟨⟨[], []⟩, ⟨[], []⟩, finished, rfl, nofun⟩⟩
  have clean : Once libraryOne (coveredTraffic pythonJson DEFAULT_FRAME_MAX_BYTES) (.ok ()) :=
    .streamed rfl closed rfl
  have lived : Lived libraryOne oneRetry [(.ok (), 0), (.error .osError, 1 / 2), (.error .osError, 0)] := by
    constructor
    · intro tunnel member
      rcases member with _ | ⟨_, _ | ⟨_, _ | ⟨_, member⟩⟩⟩
      · exact clean
      · exact .opening rfl
      · exact .opening rfl
      · cases member
    · intro tunnel member
      rcases member with _ | ⟨_, _ | ⟨_, _ | ⟨_, member⟩⟩⟩
      · norm_num
      · norm_num
      · norm_num
      · cases member
    · intro unlimited
      have one : oneRetry.maxReconnectAttempts = 1 := rfl
      omega
  obtain ⟨-, -, limit, -⟩ := agent_survives libraryOne oneRetry lived
  exact ⟨_, lived, limit.mpr ⟨one_pos, _, List.prefix_refl _, rfl⟩⟩

def unlimited : ReconnectConfig := ⟨60, 0, by decide, le_rfl⟩

def strangerBytes : Bytes :=
  packLength 66 ++ (lit ("\x7b\"channel_id\":null,\"payload_length\":0,\"request_id\":\"a\"," ++
    "\"type\":\"x\"\x7d")).map (fun code => UInt8.ofNat code.val)

theorem stranger_read : ((agentRead pythonJson DEFAULT_FRAME_MAX_BYTES).run onStream
    ⟨strangerBytes, []⟩).1 = .error (.tunnelProtocolError "unknown frame type") := by
  decide +kernel

/-- One frame of an unknown type ends an agent that retries for ever. -/
theorem unknown_type_ends_agent :
    unlimited.maxReconnectAttempts = 0 ∧ ∃ raised, Once libraryOne anyTraffic (.error raised) ∧
      isRetried raised = false ∧ runTunnel unlimited 0 [(.error raised, 0)] = some raised := by
  have refused := stranger_read
  rcases read : (agentRead pythonJson DEFAULT_FRAME_MAX_BYTES).run onStream ⟨strangerBytes, []⟩ with
    ⟨outcome, left⟩
  rw [read] at refused
  have refused : outcome = .error (.tunnelProtocolError "unknown frame type") := refused
  subst refused
  have fresh : Reachable (tunnelWorld libraryOne (lit "c1") DEFAULT_FRAME_MAX_BYTES anyTraffic)
      (tunnelPrograms libraryOne (lit "c1") DEFAULT_FRAME_MAX_BYTES) worldOne
      ⟨fun _ => none, worldOne⟩ := .start
  have started := fresh.spawn .loop (handleAgentTunnelStream libraryOne (lit "c1") 1) rfl
    ⟨⟨1, rfl⟩, nofun⟩
  have raised := started.resume .loop rfl (.error (.tunnelProtocolError "unknown frame type")) _
    ⟨rfl, .inl ⟨⟨strangerBytes, []⟩, left, trivial, read, nofun⟩⟩
  exact ⟨rfl, _, .streamed rfl raised rfl, rfl, rfl⟩

end VibeConnect.AgentSurvival
