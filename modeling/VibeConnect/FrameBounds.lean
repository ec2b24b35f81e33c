import VibeConnect.AgentTunnel
import VibeConnect.BrokerRuns
import VibeConnect.TunnelFaults

/-! The frame bounds of the two ends. The server takes its bound from its
configuration and the agent runs with the default of the protocol, so what the
server sends fits the agent exactly if the configured bound is no larger. -/
namespace VibeConnect.FrameBounds
open Python.Text Python.JsonCodec Python.Values Python.Stream Python.Coroutine Python.Tasks Models
open TunnelProtocol FrameReaders TunnelState TunnelAuthenticator TunnelBroker AgentChannels AgentTunnel
open BrokerCalls TunnelAdmission TunnelFaults

/-! The configuration. -/

/-- The settings of the tunnel that `_validate_tunnel_bounds` lets pass. -/
structure TunnelConfig where
  maxSessionsPerAgent : Int
  heartbeatSeconds : Int
  frameMaxBytes : Int
  nodeSshPort : Int
  sessions : 1 ≤ maxSessionsPerAgent ∧ maxSessionsPerAgent ≤ 1024
  heartbeat : 5 ≤ heartbeatSeconds ∧ heartbeatSeconds ≤ 300
  frames : 65536 ≤ frameMaxBytes ∧ frameMaxBytes ≤ 16777216
  port : 1 ≤ nodeSshPort ∧ nodeSshPort ≤ 65535

def validateTunnelBounds (maxSessionsPerAgent heartbeatSeconds frameMaxBytes nodeSshPort : Int) :
    Except Exc TunnelConfig :=
  if sessions : 1 ≤ maxSessionsPerAgent ∧ maxSessionsPerAgent ≤ 1024 then
    if heartbeat : 5 ≤ heartbeatSeconds ∧ heartbeatSeconds ≤ 300 then
      if frames : 65536 ≤ frameMaxBytes ∧ frameMaxBytes ≤ 16777216 then
        if port : 1 ≤ nodeSshPort ∧ nodeSshPort ≤ 65535 then
          .ok ⟨maxSessionsPerAgent, heartbeatSeconds, frameMaxBytes, nodeSshPort, sessions, heartbeat,
            frames, port⟩
        else .error (.configError "node_ssh_port is outside valid TCP port bounds")
      else .error (.configError "frame_max_bytes is outside documented bounds")
    else .error (.configError "heartbeat_seconds is outside documented bounds")
  else .error (.configError "max_sessions_per_agent is outside documented bounds")

/-- `validate_server_config`, with what its checks of files and directories answer, and
after the bounds those of auth and metrics. -/
def validateServerConfig (files : Except Exc Unit) (userCertTtlHours : Int)
    (maxSessionsPerAgent heartbeatSeconds frameMaxBytes nodeSshPort : Int) (services : Except Exc Unit) :
    Except Exc TunnelConfig := do
  files
  if ¬(1 ≤ userCertTtlHours ∧ userCertTtlHours ≤ 12) then
    .error (.configError "user_cert_ttl_hours must be between 1 and 12")
  else do
    let config ← validateTunnelBounds maxSessionsPerAgent heartbeatSeconds frameMaxBytes nodeSshPort
    services
    .ok config

/-- An accepted configuration is the one that was checked. -/
theorem validateTunnelBounds_iff {maxSessionsPerAgent heartbeatSeconds frameMaxBytes nodeSshPort : Int}
    {config : TunnelConfig} :
    validateTunnelBounds maxSessionsPerAgent heartbeatSeconds frameMaxBytes nodeSshPort = .ok config ↔
      config.maxSessionsPerAgent = maxSessionsPerAgent ∧ config.heartbeatSeconds = heartbeatSeconds ∧
        config.frameMaxBytes = frameMaxBytes ∧ config.nodeSshPort = nodeSshPort := by
  obtain ⟨configured, seconds, bytes, sshPort, sessions, heartbeat, frames, port⟩ := config
  constructor
  · intro accepted
    unfold validateTunnelBounds at accepted
    split_ifs at accepted
    cases accepted
    exact ⟨rfl, rfl, rfl, rfl⟩
  · rintro ⟨rfl, rfl, rfl, rfl⟩
    unfold validateTunnelBounds
    rw [dif_pos sessions, dif_pos heartbeat, dif_pos frames, dif_pos port]

namespace TunnelConfig

theorem positive (config : TunnelConfig) : 0 < config.frameMaxBytes := by
  have frames := config.frames
  omega

/-- What the server gives to its broker. -/
def broker (config : TunnelConfig) : BrokerConfig :=
  ⟨config.maxSessionsPerAgent, config.heartbeatSeconds, config.frameMaxBytes, config.positive⟩

end TunnelConfig

/-! A frame at two bounds. -/
section Bounds
variable {codec : Codec} {bound other : Int} {frame : OutgoingFrame} {bytes : Bytes}

theorem encode_payload (encoded : frame.encode codec bound = .ok bytes) :
    0 < bound ∧ (frame.payload.length : Int) ≤ bound := by
  obtain ⟨_, valid, -⟩ := bind_ok.mp encoded
  exact validatePayloadLength_ok.mp valid

/-- The bound is not written into the frame. -/
theorem encode_bound (encoded : frame.encode codec bound = .ok bytes) (positive : 0 < other)
    (fits : (frame.payload.length : Int) ≤ other) : frame.encode codec other = .ok bytes := by
  obtain ⟨_, -, rest⟩ := bind_ok.mp encoded
  exact bind_ok.mpr ⟨(), validatePayloadLength_ok.mpr ⟨positive, fits⟩, rest⟩

theorem frameOfHeader_larger {header : List (Str × Json)} {accepted : TunnelFrame}
    (larger : other ≤ bound) (read : frameOfHeader header other = .ok accepted) :
    frameOfHeader header bound = .ok accepted := by
  obtain ⟨frameType, typed, read⟩ := bind_ok.mp read
  obtain ⟨requestId, requested, read⟩ := bind_ok.mp read
  obtain ⟨channelId, channelled, read⟩ := bind_ok.mp read
  obtain ⟨payloadLength, sized, read⟩ := bind_ok.mp read
  split at read
  · cases read
  rename_i nonnegative
  obtain ⟨_, valid, read⟩ := bind_ok.mp read
  obtain ⟨positive, small⟩ := validatePayloadLength_ok.mp valid
  refine bind_ok.mpr ⟨frameType, typed, bind_ok.mpr ⟨requestId, requested,
    bind_ok.mpr ⟨channelId, channelled, bind_ok.mpr ⟨payloadLength, sized, ?_⟩⟩⟩⟩
  rw [if_neg nonnegative]
  exact bind_ok.mpr ⟨(), validatePayloadLength_ok.mpr ⟨by omega, by omega⟩, read⟩

/-- A frame at a bound is one at a larger bound. -/
theorem decodeFrame_larger {decoded : DecodedTunnelFrame} (larger : other ≤ bound)
    (decodes : decodeFrame codec bytes other = .ok decoded) :
    decodeFrame codec bytes bound = .ok decoded := by
  obtain ⟨headerPrefix, header, fields, isFrame⟩ := decodeFrame_iff.mp decodes
  exact decodeFrame_iff.mpr ⟨headerPrefix, header, fields,
    { isFrame with accepted := frameOfHeader_larger larger isFrame.accepted }⟩

/-- A frame whose payload is longer than a reader's bound is no frame for it. -/
theorem unread_of_long (scalar : frame.ScalarIds) (encoded : frame.encode codec bound = .ok bytes)
    (long : other < frame.payload.length) {reader left : StreamReader} {decoded : DecodedTunnelFrame}
    (content : reader.content = bytes) :
    (agentRead codec other).run onStream reader ≠ (.ok (some decoded), left) := by
  intro read
  obtain ⟨data, decodes, cut⟩ := agentRead_sound read
  have larger : other ≤ bound := long.le.trans (encode_payload encoded).2
  have whole := decodeFrame_encode scalar encoded
  have first : data <+: reader.content := ⟨left.content, cut.symm⟩
  have second : bytes <+: reader.content := by rw [content]
  have same := prefix_unique first second (decodeFrame_larger larger decodes) whole
  rw [same] at decodes
  cases whole.symm.trans (decodeFrame_larger larger decodes)
  obtain ⟨headerPrefix, header, fields, isFrame⟩ := decodeFrame_iff.mp decodes
  obtain ⟨-, -, bounded⟩ := frameOfHeader_length isFrame.accepted
  exact absurd bounded (not_le.mpr long)
end Bounds

/-! The two ends. -/
def sessionData (request channel : Uuid) (payload : Bytes) : OutgoingFrame :=
  ⟨.SESSION_DATA, request.text, some channel.text, payload⟩

/-- What the forwarder makes of a local read. -/
def localData (channel : Uuid) (payload : Bytes) : OutgoingFrame :=
  ⟨.SESSION_DATA, channel.text ++ lit ":data", some channel.text, payload⟩

/-- `send_data` takes the payload, and waits for the writer. -/
def Sends (library : Library) (config : TunnelConfig) (world : TunnelWorld) (request channel : Uuid)
    (payload : Bytes) : Prop :=
  ∃ connectionId, settle (sendData library config.broker channel.text payload request.text) world =
    (wait .drain, world.send connectionId (sessionData request channel payload))

/-- The forwarder, as `_run_tunnel_once` starts it, writes what it has read. -/
def Relays (library : Library) (connectionId : ConnectionId) (number turns : Nat) (world : TunnelWorld)
    (channel : Uuid) (payload : Bytes) : Prop :=
  ∃ resume, forwardLocalToTunnel library connectionId DEFAULT_FRAME_MAX_BYTES number channel.text
      (turns + 1) = .call (.await (.localRead number 65536)) resume ∧
    (settle (resume (.ok payload)) world).2 = emit connectionId (localData channel payload) world

/-- What one end writes, the other reads. -/
structure Fits (library : Library) (config : TunnelConfig) (world : TunnelWorld) (channel : Uuid) :
    Prop where
  agent : ∀ request payload, Sends library config world request channel payload →
    ∃ bytes, (sessionData request channel payload).encode library.json config.frameMaxBytes = .ok bytes ∧
      ∀ reader rest, reader.content = bytes ++ rest → ∃ left,
        (agentRead library.json DEFAULT_FRAME_MAX_BYTES).run onStream reader =
          (.ok (some (sessionData request channel payload).decoded), left) ∧ left.content = rest
  server : ∀ connectionId number turns payload, payload.length ≤ 65536 →
    Relays library connectionId number turns world channel payload →
    ∃ bytes, (localData channel payload).encode library.json DEFAULT_FRAME_MAX_BYTES = .ok bytes ∧
      ∀ reader rest, reader.content = bytes ++ rest → ∃ left,
        (serverRead library.json config.frameMaxBytes).run onStream reader =
          (.ok (localData channel payload).decoded, left) ∧ left.content = rest

section Ends
variable {library : Library} {config : TunnelConfig} {world : TunnelWorld} {channel request : Uuid}
  {connectionId : ConnectionId} {payload : Bytes}

theorem sessionData_scalar : (sessionData request channel payload).ScalarIds :=
  ⟨(uuidText_ascii request).scalarText, (uuidText_ascii channel).scalarText⟩

theorem localData_scalar : (localData channel payload).ScalarIds :=
  ⟨(ascii_append (uuidText_ascii channel) (lit_ascii (by decide))).scalarText,
    (uuidText_ascii channel).scalarText⟩

/-- The payload is taken if its frame can be encoded. -/
theorem sends_iff (opened : world.broker.openConnection channel.text = .ok connectionId) :
    Sends library config world request channel payload ↔ ∃ bytes,
      (sessionData request channel payload).encode library.json config.frameMaxBytes = .ok bytes := by
  constructor
  · rintro ⟨other, waits⟩
    cases encoded : (sessionData request channel payload).encode library.json config.frameMaxBytes with
    | ok bytes => exact ⟨bytes, rfl⟩
    | error raised =>
        have failed : settle (sendData library config.broker channel.text payload request.text) world =
            (.raise raised, world) := by
          unfold sendData
          rw [settle_look, opened]
          apply settle_attempt_error
          rw [show (OutgoingFrame.mk .SESSION_DATA request.text (some channel.text) payload).encode
            library.json config.broker.maxFrameBytes = .error raised from encoded]
          rfl
        rw [failed] at waits
        cases waits
  · rintro ⟨bytes, encoded⟩
    refine ⟨connectionId, settle_sendData opened ?_⟩
    have accepted : (sessionData request channel payload).encode library.json
        config.broker.maxFrameBytes = .ok bytes := encoded
    unfold Encodes
    unfold sessionData at accepted
    rw [accepted]
    rfl

theorem Relays.encoded {number turns : Nat}
    (relays : Relays library connectionId number turns world channel payload) : ∃ bytes,
      (localData channel payload).encode library.json DEFAULT_FRAME_MAX_BYTES = .ok bytes := by
  obtain ⟨resume, reads, written⟩ := relays
  cases encoded : (localData channel payload).encode library.json DEFAULT_FRAME_MAX_BYTES with
  | ok bytes => exact ⟨bytes, rfl⟩
  | error raised =>
      exfalso
      have unwritten : (settle (resume (.ok payload)) world).2 = world := by
        cases reads
        show (settle (if payload = [] then pure () else _) world).2 = world
        split
        · rfl
        · have failed : (do
              let _ ← (localData channel payload).encode library.json DEFAULT_FRAME_MAX_BYTES
              .ok (emit connectionId (localData channel payload) world) : Except Exc TunnelWorld) =
                .error raised := by
            rw [encoded]
            rfl
          unfold AgentTunnel.writeFrame
          rw [bind_assoc]
          exact congrArg Prod.snd (settle_attempt_error failed)
      rw [unwritten] at written
      have longer := congrArg (fun after : TunnelWorld => (after.agentSide connectionId).emitted.length) written
      simp [emit] at longer

/-- One byte more than the agent takes. -/
def tooLong : Bytes := List.replicate 1048577 0

theorem tooLong_length : tooLong.length = 1048577 := List.length_replicate

/-- With a larger bound the server sends it. -/
theorem tooLong_encodes (compact : library.json.dumps = valueText) (request channel : Uuid)
    (larger : DEFAULT_FRAME_MAX_BYTES < config.frameMaxBytes) : ∃ bytes,
      (sessionData request channel tooLong).encode library.json config.frameMaxBytes = .ok bytes := by
  have bounded := objectText_length (frameHeader .SESSION_DATA request.text (some channel.text) 1048577)
  have requested := stringText_length request.text
  have channelled := stringText_length channel.text
  rw [uuidText_length] at requested channelled
  -- beside the two ids the header is a fixed text
  have rest : (stringText (lit "type")).length +
      (valueText (.str (lit TunnelFrameType.SESSION_DATA.value))).length +
      (stringText (lit "request_id")).length + (stringText (lit "channel_id")).length +
      (stringText (lit "payload_length")).length + (valueText (.int 1048577)).length ≤ 100 := by decide
  have valid : validatePayloadLength tooLong.length config.frameMaxBytes = .ok () := by
    apply validatePayloadLength_ok.mpr
    rw [tooLong_length]
    unfold DEFAULT_FRAME_MAX_BYTES at larger
    omega
  apply encodes_of_short (sessionData request channel tooLong) request.text_nonempty valid
  rw [compact]
  simp only [frameHeader, List.map_cons, List.map_nil, List.sum_cons, List.sum_nil] at bounded
  have written : (valueText (.str request.text)).length = (stringText request.text).length := rfl
  have named : (valueText (channelValue (some channel.text))).length =
      (stringText channel.text).length := rfl
  have counted : (valueText (.int ((1048577 : Nat) : Int))).length =
      (valueText (.int 1048577)).length := rfl
  unfold FRAME_HEADER_MAX_BYTES
  simp only [sessionData, frameHeader, tooLong_length]
  omega
end Ends

/-- A larger bound lets the server send what the agent refuses. -/
theorem unfit_of_larger {library : Library} (compact : library.json.dumps = valueText)
    {config : TunnelConfig} {world : TunnelWorld} {channel : Uuid} {connectionId : ConnectionId}
    (opened : world.broker.openConnection channel.text = .ok connectionId)
    (larger : DEFAULT_FRAME_MAX_BYTES < config.frameMaxBytes) : ¬Fits library config world channel := by
  intro fits
  have sends : Sends library config world ⟨0⟩ channel tooLong :=
    (sends_iff opened).mpr (tooLong_encodes compact ⟨0⟩ channel larger)
  obtain ⟨bytes, encoded, reads⟩ := fits.agent ⟨0⟩ tooLong sends
  have content : (⟨bytes, []⟩ : StreamReader).content = bytes ++ [] := by
    simp [StreamReader.content]
  obtain ⟨left, read, -⟩ := reads ⟨bytes, []⟩ [] content
  have long : DEFAULT_FRAME_MAX_BYTES < (tooLong.length : Int) := by
    rw [tooLong_length]
    decide
  exact unread_of_long sessionData_scalar encoded long (content.trans (List.append_nil _)) read

/-- What one end writes fits the other exactly if the configured bound is no larger
than the default, for every open channel in every state. -/
theorem frames_fit (library : Library) (compact : library.json.dumps = valueText)
    (config : TunnelConfig) {world : TunnelWorld} {channel : Uuid} {connectionId : ConnectionId}
    (opened : world.broker.openConnection channel.text = .ok connectionId) :
    Fits library config world channel ↔ config.frameMaxBytes ≤ DEFAULT_FRAME_MAX_BYTES := by
  constructor
  · intro fits
    by_contra exceeds
    exact unfit_of_larger compact opened (not_le.mp exceeds) fits
  · intro small
    constructor
    · intro request payload sends
      obtain ⟨bytes, encoded⟩ := (sends_iff opened).mp sends
      have within : (payload.length : Int) ≤ config.frameMaxBytes := (encode_payload encoded).2
      have accepted := encode_bound encoded (by decide : 0 < DEFAULT_FRAME_MAX_BYTES)
        (within.trans small)
      have decodes := decodeFrame_encode sessionData_scalar accepted
      exact ⟨bytes, encoded, fun reader rest content => agentRead_complete decodes content⟩
    · intro _ number turns payload read relays
      obtain ⟨bytes, encoded⟩ := relays.encoded
      have within : (payload.length : Int) ≤ config.frameMaxBytes := by
        have frames := config.frames
        omega
      have decodes := decodeFrame_encode localData_scalar (encode_bound encoded config.positive within)
      exact ⟨bytes, encoded, fun reader rest content => serverRead_complete decodes content⟩

/-! One open channel. -/
def channelOne : Uuid := ⟨0⟩

theorem channelOne_bounded : (({channelOne.text} : Finset ChannelId).card : Int) ≤ 4 := by simp

theorem channelOne_disjoint : Disjoint ({channelOne.text} : Finset ChannelId) ∅ :=
  Finset.disjoint_empty_right _

theorem channelOne_named : [] ∉ ({channelOne.text} : Finset ChannelId) := by
  rw [Finset.mem_singleton]
  exact channelOne.text_nonempty.symm

def openOne : TunnelWorld :=
  { worldOne with
    broker := { BrokerRuns.connectedOne.setObject (lit "c1") { BrokerRuns.connectionOne with
        channels := ⟨4, {channelOne.text}, ∅, BrokerRuns.fourChannels_positive, channelOne_bounded,
          channelOne_disjoint, channelOne_named⟩
        adapters := {channelOne.text} } with
      channelAgents := fun _ => some agentOne } }

theorem openOne_opened : openOne.broker.openConnection channelOne.text = .ok (lit "c1") := by
  decide +kernel

def boundsOf (frameMaxBytes : Int) : Except Exc TunnelConfig :=
  validateServerConfig (.ok ()) 4 64 30 frameMaxBytes 2222 (.ok ())

/-- The default bound. -/
theorem frames_fit_default : ∃ config, boundsOf 1048576 = .ok config ∧
    Fits libraryOne config openOne channelOne := by
  refine ⟨_, rfl, (frames_fit libraryOne rfl _ openOne_opened).mpr ?_⟩
  decide

/-- With an accepted bound of two MiB the server sends a payload that ends the tunnel. -/
theorem two_mebibytes_unfit : ∃ config, boundsOf 2097152 = .ok config ∧
    ¬Fits libraryOne config openOne channelOne := by
  refine ⟨_, rfl, unfit_of_larger rfl openOne_opened ?_⟩
  decide

end VibeConnect.FrameBounds
