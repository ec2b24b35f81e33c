import VibeConnect.Models
import VibeConnect.Python.Coroutine

/-! The framed tunnel protocol. A frame is a four-byte header length, a JSON
header and an opaque payload. `encodeFrame` and `decodeFrame` keep the order of
the source's checks; `decodeFrame_iff` says which byte strings are frames. -/
namespace VibeConnect.TunnelProtocol
open Python.Text Python.JsonCodec Python.Coroutine Models

def FRAME_HEADER_MAX_BYTES : Nat := 16 * 1024
def DEFAULT_FRAME_MAX_BYTES : Int := 1024 * 1024

structure TunnelFrame where
  type : TunnelFrameType
  requestId : Str
  channelId : Option Str
  payloadLength : Int
  deriving DecidableEq

structure DecodedTunnelFrame where
  frame : TunnelFrame
  payload : Bytes
  deriving DecidableEq

/-- `struct.pack("!I", length)` for a length below `2 ** 32`. -/
def packLength (length : Nat) : Bytes :=
  [UInt8.ofNat (length / 16777216), UInt8.ofNat (length / 65536), UInt8.ofNat (length / 256),
    UInt8.ofNat length]

/-- `struct.unpack("!I", data)[0]`. -/
def unpackLength (data : Bytes) : Nat := data.foldl (fun value byte => value * 256 + byte.toNat) 0

def validatePayloadLength (payloadLength maxFrameBytes : Int) : Except Exc Unit :=
  if maxFrameBytes ≤ 0 then .error (.tunnelProtocolError "max_frame_bytes must be positive")
  else if payloadLength > maxFrameBytes then .error (.tunnelProtocolError "frame payload is too large")
  else .ok ()

def channelValue : Option Str → Json
  | none => .null
  | some channelId => .str channelId

def frameHeader (frameType : TunnelFrameType) (requestId : Str) (channelId : Option Str)
    (payloadLength : Nat) : List (Str × Json) :=
  [(lit "type", .str (lit frameType.value)), (lit "request_id", .str requestId),
    (lit "channel_id", channelValue channelId), (lit "payload_length", .int payloadLength)]

def encodeFrame (codec : Codec) (frameType : TunnelFrameType) (requestId : Str)
    (channelId : Option Str) (payload : Bytes) (maxFrameBytes : Int) : Except Exc Bytes := do
  validatePayloadLength payload.length maxFrameBytes
  if requestId = [] then .error (.tunnelProtocolError "request_id is required")
  else match encode (codec.dumps (.object (frameHeader frameType requestId channelId payload.length))) with
    | none => .error .unicodeEncodeError
    | some headerBytes =>
        if headerBytes.length > FRAME_HEADER_MAX_BYTES then
          .error (.tunnelProtocolError "frame header is too large")
        else .ok (packLength headerBytes.length ++ headerBytes ++ payload)

/-- `json.loads(data.decode("utf-8"))`, required to be an object. A parser may
raise more than `JSONDecodeError`; what it raises besides is not caught. -/
def loadObject (codec : Codec) (fault : String → Exc) (notJson notObject : String) (data : Bytes) :
    Except Exc (List (Str × Json)) :=
  match decode data with
  | none => .error (fault notJson)
  | some text => match codec.loads text with
    | .error .decodeError => .error (fault notJson)
    | .error raised => .error (.ofJson raised)
    | .ok (.object fields) => .ok fields
    | .ok _ => .error (fault notObject)

/-- The check on `payload_length` that all three parsers make: an integer, and
`bool` is not one here. -/
def integerField (fault : Exc) : Option Json → Except Exc Int
  | some (.int value) => .ok value
  | _ => .error fault

def decodeFrameType : Option Json → Except Exc TunnelFrameType
  | some (.str value) => match TunnelFrameType.ofValue value with
    | some type => .ok type
    | none => .error (.tunnelProtocolError "unknown frame type")
  | _ => .error (.tunnelProtocolError "frame type is required")

def decodeRequestId : Option Json → Except Exc Str
  | some (.str (code :: rest)) => .ok (code :: rest)
  | _ => .error (.tunnelProtocolError "request_id is required")

def decodeChannelId : Option Json → Except Exc (Option Str)
  | none | some .null => .ok none
  | some (.str channelId) => .ok (some channelId)
  | some _ => .error (.tunnelProtocolError "channel_id must be a string or null")

/-- The envelope that a header object describes. -/
def frameOfHeader (header : List (Str × Json)) (maxFrameBytes : Int) : Except Exc TunnelFrame := do
  let frameType ← decodeFrameType (lookup (lit "type") header)
  let requestId ← decodeRequestId (lookup (lit "request_id") header)
  let channelId ← decodeChannelId (lookup (lit "channel_id") header)
  let payloadLength ← integerField (.tunnelProtocolError "payload_length must be an integer")
    (lookup (lit "payload_length") header)
  if payloadLength < 0 then .error (.tunnelProtocolError "payload_length cannot be negative")
  else do
    validatePayloadLength payloadLength maxFrameBytes
    .ok ⟨frameType, requestId, channelId, payloadLength⟩

def loadFrameHeader (codec : Codec) : Bytes → Except Exc (List (Str × Json)) :=
  loadObject codec .tunnelProtocolError "frame header is not valid JSON" "frame header must be an object"

def decodeFrame (codec : Codec) (data : Bytes) (maxFrameBytes : Int) : Except Exc DecodedTunnelFrame :=
  if data.length < 4 then .error (.tunnelProtocolError "frame header length is missing")
  else
    let headerLength := unpackLength (data.take 4)
    if headerLength = 0 ∨ headerLength > FRAME_HEADER_MAX_BYTES then
      .error (.tunnelProtocolError "frame header length is invalid")
    else
      let headerEnd := 4 + headerLength
      if data.length < headerEnd then .error (.tunnelProtocolError "frame header is incomplete")
      else do
        let header ← loadFrameHeader codec ((data.take headerEnd).drop 4)
        let frame ← frameOfHeader header maxFrameBytes
        let payload := data.drop headerEnd
        if (payload.length : Int) ≠ frame.payloadLength then
          .error (.tunnelProtocolError "frame payload length mismatch")
        else .ok ⟨frame, payload⟩

theorem length_packLength (length : Nat) : (packLength length).length = 4 := rfl

theorem unpackLength_packLength (length : Nat) (small : length < 4294967296) :
    unpackLength (packLength length) = length := by
  simp only [unpackLength, packLength, List.foldl_cons, List.foldl_nil, UInt8.toNat_ofNat']
  omega

theorem validatePayloadLength_ok {payloadLength maxFrameBytes : Int} :
    validatePayloadLength payloadLength maxFrameBytes = .ok () ↔
      0 < maxFrameBytes ∧ payloadLength ≤ maxFrameBytes := by
  unfold validatePayloadLength
  split
  · simp; omega
  split
  · simp; omega
  · simp; omega

theorem integerField_ok {fault : Exc} {field : Option Json} {value : Int} :
    integerField fault field = .ok value ↔ field = some (.int value) := by
  unfold integerField
  split
  · simp
  · rename_i other
    constructor
    · intro impossible; cases impossible
    · intro same; exact absurd same (other value)

/-- An accepted header carries the payload length it was accepted with, and the
length is in bounds. -/
theorem frameOfHeader_length {header : List (Str × Json)} {maxFrameBytes : Int} {frame : TunnelFrame}
    (accepted : frameOfHeader header maxFrameBytes = .ok frame) :
    lookup (lit "payload_length") header = some (.int frame.payloadLength) ∧
      0 ≤ frame.payloadLength ∧ frame.payloadLength ≤ maxFrameBytes := by
  unfold frameOfHeader at accepted
  obtain ⟨frameType, -, accepted⟩ := bind_ok.mp accepted
  obtain ⟨requestId, -, accepted⟩ := bind_ok.mp accepted
  obtain ⟨channelId, -, accepted⟩ := bind_ok.mp accepted
  obtain ⟨payloadLength, sized, accepted⟩ := bind_ok.mp accepted
  split at accepted
  · cases accepted
  rename_i nonnegative
  obtain ⟨_, valid, accepted⟩ := bind_ok.mp accepted
  cases accepted
  exact ⟨integerField_ok.mp sized, not_lt.mp nonnegative, (validatePayloadLength_ok.mp valid).2⟩

/-- Which byte strings are one frame, piece by piece. -/
structure IsFrame (codec : Codec) (maxFrameBytes : Int) (data headerPrefix header : Bytes)
    (fields : List (Str × Json)) (decoded : DecodedTunnelFrame) : Prop where
  cut : data = headerPrefix ++ header ++ decoded.payload
  fourBytes : headerPrefix.length = 4
  announced : header.length = unpackLength headerPrefix
  nonempty : unpackLength headerPrefix ≠ 0
  bounded : unpackLength headerPrefix ≤ FRAME_HEADER_MAX_BYTES
  loaded : loadFrameHeader codec header = .ok fields
  accepted : frameOfHeader fields maxFrameBytes = .ok decoded.frame
  length : (decoded.payload.length : Int) = decoded.frame.payloadLength

theorem three_slices (data : Bytes) (first second : Nat) :
    data = data.take first ++ (data.take (first + second)).drop first ++ data.drop (first + second) := by
  have head := List.take_append_drop first (data.take (first + second))
  rw [List.take_take, min_eq_left (Nat.le_add_right first second)] at head
  rw [head, List.take_append_drop]

theorem decodeFrame_iff {codec : Codec} {data : Bytes} {maxFrameBytes : Int}
    {decoded : DecodedTunnelFrame} : decodeFrame codec data maxFrameBytes = .ok decoded ↔
      ∃ headerPrefix header fields, IsFrame codec maxFrameBytes data headerPrefix header fields decoded := by
  constructor
  · intro read
    unfold decodeFrame at read
    split at read
    · cases read
    rename_i long
    dsimp only at read
    split at read
    · cases read
    rename_i lengthOk
    split at read
    · cases read
    rename_i complete
    obtain ⟨fields, loaded, read⟩ := bind_ok.mp read
    obtain ⟨frame, accepted, read⟩ := bind_ok.mp read
    split at read
    · cases read
    rename_i length
    cases read
    have four : (data.take 4).length = 4 := by simp only [List.length_take]; omega
    refine ⟨data.take 4, _, fields, ?_, four, ?_, by omega, by omega, loaded, accepted, not_not.mp length⟩
    · exact three_slices data 4 _
    · simp only [List.length_drop, List.length_take]
      omega
  · rintro ⟨headerPrefix, header, fields, frame⟩
    have whole : (headerPrefix ++ header).length = 4 + unpackLength headerPrefix := by
      rw [List.length_append, frame.fourBytes, frame.announced]
    have first : data.take 4 = headerPrefix := by
      rw [frame.cut, List.append_assoc, List.take_left' frame.fourBytes]
    have second : data.take (4 + unpackLength headerPrefix) = headerPrefix ++ header := by
      rw [frame.cut, List.take_left' whole]
    have third : data.drop (4 + unpackLength headerPrefix) = decoded.payload := by
      rw [frame.cut, List.drop_left' whole]
    have total := congrArg List.length frame.cut
    simp only [List.length_append, frame.fourBytes, frame.announced] at total
    have nonempty := frame.nonempty
    have bounded := frame.bounded
    unfold decodeFrame
    rw [if_neg (by omega), first]
    dsimp only
    rw [if_neg (by omega), if_neg (by omega), second, third, List.drop_left' frame.fourBytes,
      frame.loaded]
    refine bind_ok.mpr ⟨fields, rfl, bind_ok.mpr ⟨decoded.frame, frame.accepted, ?_⟩⟩
    rw [if_neg (not_not.mpr frame.length)]

/-- Only the four named fields of a header are looked at. -/
theorem frameOfHeader_congr {header other : List (Str × Json)} (maxFrameBytes : Int)
    (same : ∀ key, lookup key header = lookup key other) :
    frameOfHeader header maxFrameBytes = frameOfHeader other maxFrameBytes := by
  simp only [frameOfHeader, same]

def ScalarChannel : Option Str → Prop
  | none => True
  | some channelId => ScalarText channelId

theorem frameHeader_plain (frameType : TunnelFrameType) {requestId : Str} {channelId : Option Str}
    (payloadLength : Nat) (scalarRequest : ScalarText requestId)
    (scalarChannel : ScalarChannel channelId) :
    PlainFields (frameHeader frameType requestId channelId payloadLength) := by
  have distinct : [lit "type", lit "request_id", lit "channel_id", lit "payload_length"].Nodup := by
    decide
  refine ⟨distinct, fun field member => ?_⟩
  simp only [frameHeader, List.mem_cons, List.not_mem_nil, or_false] at member
  rcases member with same | same | same | same <;> subst same
  · exact ⟨(lit_ascii (by decide)).scalarText, frameType.value_ascii.scalarText⟩
  · exact ⟨(lit_ascii (by decide)).scalarText, scalarRequest⟩
  · refine ⟨(lit_ascii (by decide)).scalarText, ?_⟩
    cases channelId with
    | none => trivial
    | some channelId => exact scalarChannel
  · exact ⟨(lit_ascii (by decide)).scalarText, trivial⟩

theorem frameOfHeader_frameHeader (frameType : TunnelFrameType) {requestId : Str}
    (channelId : Option Str) {payloadLength : Nat} {maxFrameBytes : Int} (nonempty : requestId ≠ [])
    (valid : validatePayloadLength payloadLength maxFrameBytes = .ok ()) :
    frameOfHeader (frameHeader frameType requestId channelId payloadLength) maxFrameBytes =
      .ok ⟨frameType, requestId, channelId, payloadLength⟩ := by
  have typed : decodeFrameType (some (.str (lit frameType.value))) = .ok frameType := by
    rw [decodeFrameType, TunnelFrameType.ofValue_value]
  have requested : decodeRequestId (some (.str requestId)) = .ok requestId := by
    cases requestId with
    | nil => exact absurd rfl nonempty
    | cons code rest => rfl
  have channelled : decodeChannelId (some (channelValue channelId)) = .ok channelId := by
    cases channelId <;> rfl
  refine bind_ok.mpr ⟨frameType, typed, bind_ok.mpr ⟨requestId, requested,
    bind_ok.mpr ⟨channelId, channelled, bind_ok.mpr ⟨payloadLength, rfl, ?_⟩⟩⟩⟩
  rw [if_neg (by omega)]
  exact bind_ok.mpr ⟨(), valid, rfl⟩

/-- A frame as the sender hands it to `encode_frame`. -/
structure OutgoingFrame where
  type : TunnelFrameType
  requestId : Str
  channelId : Option Str
  payload : Bytes

def OutgoingFrame.decoded (frame : OutgoingFrame) : DecodedTunnelFrame :=
  ⟨⟨frame.type, frame.requestId, frame.channelId, frame.payload.length⟩, frame.payload⟩

def OutgoingFrame.encode (codec : Codec) (maxFrameBytes : Int) (frame : OutgoingFrame) :
    Except Exc Bytes :=
  encodeFrame codec frame.type frame.requestId frame.channelId frame.payload maxFrameBytes

/-- Identifiers that survive UTF-8: what `json.dumps` and `json.loads` agree on. -/
def OutgoingFrame.ScalarIds (frame : OutgoingFrame) : Prop :=
  ScalarText frame.requestId ∧ ScalarChannel frame.channelId

/-- A frame that was written, by what its header is read back as. -/
theorem encode_reads {codec : Codec} {maxFrameBytes : Int} {frame : OutgoingFrame} {bytes : Bytes}
    {parsed : List (Str × Json)} {read : TunnelFrame}
    (loads : codec.loads (codec.dumps (.object (frameHeader frame.type frame.requestId frame.channelId
      frame.payload.length))) = .ok (.object parsed))
    (accepted : frameOfHeader parsed maxFrameBytes = .ok read)
    (length : (frame.payload.length : Int) = read.payloadLength)
    (encoded : frame.encode codec maxFrameBytes = .ok bytes) :
    ∃ headerPrefix header, IsFrame codec maxFrameBytes bytes headerPrefix header parsed
      ⟨read, frame.payload⟩ := by
  unfold OutgoingFrame.encode encodeFrame at encoded
  obtain ⟨_, -, encoded⟩ := bind_ok.mp encoded
  split at encoded
  · cases encoded
  split at encoded
  · cases encoded
  rename_i header headerEncoded
  split at encoded
  · cases encoded
  rename_i small
  cases encoded
  have written := decode_encode _ header headerEncoded
  have loaded : loadFrameHeader codec header = .ok parsed := by
    rw [loadFrameHeader, loadObject, written]
    simp only [loads]
  have announced : unpackLength (packLength header.length) = header.length :=
    unpackLength_packLength _ (by unfold FRAME_HEADER_MAX_BYTES at small; omega)
  refine ⟨packLength header.length, header, rfl, rfl, announced.symm, ?_, ?_, loaded, accepted, length⟩
  · rw [announced]
    intro empty
    rw [List.length_eq_zero_iff.mp empty] at written
    obtain ⟨fault, raised⟩ := codec.loads_empty
    rw [← Option.some.inj written, raised] at loads
    cases loads
  · rw [announced]
    omega

/-- What `encode_frame` has checked of a frame that it accepts. -/
theorem encode_checked {codec : Codec} {maxFrameBytes : Int} {frame : OutgoingFrame} {bytes : Bytes}
    (encoded : frame.encode codec maxFrameBytes = .ok bytes) :
    validatePayloadLength frame.payload.length maxFrameBytes = .ok () ∧ frame.requestId ≠ [] := by
  unfold OutgoingFrame.encode encodeFrame at encoded
  obtain ⟨_, valid, encoded⟩ := bind_ok.mp encoded
  split at encoded
  · cases encoded
  · rename_i nonempty
    exact ⟨valid, nonempty⟩

theorem encode_isFrame {codec : Codec} {maxFrameBytes : Int} {frame : OutgoingFrame} {bytes : Bytes}
    (scalar : frame.ScalarIds) (encoded : frame.encode codec maxFrameBytes = .ok bytes) :
    ∃ headerPrefix header fields,
      IsFrame codec maxFrameBytes bytes headerPrefix header fields frame.decoded := by
  obtain ⟨valid, nonempty⟩ := encode_checked encoded
  have plain := frameHeader_plain frame.type frame.payload.length scalar.1 scalar.2
  obtain ⟨parsed, loads, lookups⟩ := codec.loads_dumps _ plain
  have accepted := frameOfHeader_frameHeader frame.type frame.channelId nonempty valid
  rw [← frameOfHeader_congr maxFrameBytes lookups] at accepted
  obtain ⟨headerPrefix, header, isFrame⟩ := encode_reads loads accepted rfl encoded
  exact ⟨headerPrefix, header, parsed, isFrame⟩

theorem decodeFrame_encode {codec : Codec} {maxFrameBytes : Int} {frame : OutgoingFrame} {bytes : Bytes}
    (scalar : frame.ScalarIds) (encoded : frame.encode codec maxFrameBytes = .ok bytes) :
    decodeFrame codec bytes maxFrameBytes = .ok frame.decoded :=
  decodeFrame_iff.mpr (encode_isFrame scalar encoded)

end VibeConnect.TunnelProtocol
