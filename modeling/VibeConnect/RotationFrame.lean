import VibeConnect.AgentKey
import VibeConnect.TunnelFaults

/-! The frame that carries a new tunnel secret: a JSON object in the payload of a control frame.
`decodeTunnelSecretRotation_iff` says which byte strings are one. The name and the secret in it are
checked by validators with exceptions of their own, which are let through. -/
namespace VibeConnect.RotationFrame
open Python.Text Python.JsonCodec Python.Coroutine Models TunnelProtocol TunnelAuthenticator
open TunnelFaults JumpCoordinator AgentKey

/-- A secret long enough to have been generated. -/
structure SecretValue where
  value : Str
  long : GENERATED_SECRET_MIN_CHARS ≤ value.length

/-- `SecretValue(value)`. -/
def SecretValue.of (value : Str) : Except Exc SecretValue :=
  if long : GENERATED_SECRET_MIN_CHARS ≤ value.length then .ok ⟨value, long⟩
  else .error (.secretError "secret value must be generated with at least 256 bits")

structure TunnelSecretRotation where
  requestId : Str
  nodeName : Str
  tunnelSecret : SecretValue

def rotationFields (nodeName tunnelSecret : Str) : List (Str × Json) :=
  [(lit "node_name", .str nodeName), (lit "tunnel_secret", .str tunnelSecret)]

def encodeTunnelSecretRotation (codec : Codec) (requestId nodeName : Str) (tunnelSecret : SecretValue)
    (maxFrameBytes : Int) : Except Exc Bytes := do
  let safeNodeName ← validateNodeName nodeName
  let payload ← encodeUtf8 (codec.dumps (.object (rotationFields safeNodeName tunnelSecret.value)))
  encodeFrame codec .ROTATE_TUNNEL_SECRET requestId none payload maxFrameBytes

def loadRotation (codec : Codec) : Bytes → Except Exc (List (Str × Json)) :=
  loadObject codec .tunnelProtocolError "tunnel-secret rotation payload is invalid"
    "tunnel-secret rotation payload must be an object"

def nodeNameField : Option Json → Except Exc Str
  | some (.str nodeName) => .ok nodeName
  | _ => .error (.tunnelProtocolError "node_name is required")

def tunnelSecretField : Option Json → Except Exc Str
  | some (.str (code :: rest)) => .ok (code :: rest)
  | _ => .error (.tunnelProtocolError "tunnel_secret is required")

/-- The rotation that a payload object describes. -/
def rotationOf (requestId : Str) (payload : List (Str × Json)) : Except Exc TunnelSecretRotation := do
  let nodeName ← nodeNameField (lookup (lit "node_name") payload)
  let tunnelSecret ← tunnelSecretField (lookup (lit "tunnel_secret") payload)
  let safeNodeName ← validateNodeName nodeName
  let secret ← SecretValue.of tunnelSecret
  .ok ⟨requestId, safeNodeName, secret⟩

def decodeTunnelSecretRotation (codec : Codec) (data : Bytes) (maxFrameBytes : Int) :
    Except Exc TunnelSecretRotation := do
  let decoded ← decodeFrame codec data maxFrameBytes
  if decoded.frame.type ≠ .ROTATE_TUNNEL_SECRET then
    .error (.tunnelProtocolError "frame is not a tunnel-secret rotation")
  else if decoded.frame.channelId ≠ none then
    .error (.tunnelProtocolError "tunnel-secret rotation must be a control frame")
  else do
    let payload ← loadRotation codec decoded.payload
    rotationOf decoded.frame.requestId payload

/-! What is accepted. -/
section Accepted
variable {codec : Codec} {maxFrameBytes : Int} {data : Bytes} {rotation : TunnelSecretRotation}

theorem secretValue_of {value : Str} {secret : SecretValue} :
    SecretValue.of value = .ok secret ↔ value = secret.value := by
  unfold SecretValue.of
  split
  · constructor
    · intro same
      cases same
      rfl
    · rintro rfl
      rfl
  · rename_i short
    constructor
    · intro impossible
      cases impossible
    · rintro rfl
      exact absurd secret.long short

theorem tunnelSecretField_iff {field : Option Json} {value : Str} :
    tunnelSecretField field = .ok value ↔ field = some (.str value) ∧ value ≠ [] := by
  unfold tunnelSecretField
  split
  · constructor
    · intro same
      cases same
      exact ⟨rfl, List.cons_ne_nil _ _⟩
    · rintro ⟨same, -⟩
      cases same
      rfl
  · rename_i other
    constructor
    · intro impossible
      cases impossible
    · rintro ⟨rfl, nonempty⟩
      cases value with
      | nil => exact absurd rfl nonempty
      | cons code rest => exact absurd rfl (other code rest)

theorem nodeNameField_iff {field : Option Json} {value : Str} :
    nodeNameField field = .ok value ↔ field = some (.str value) := by
  unfold nodeNameField
  split
  · constructor
    · intro same
      cases same
      rfl
    · intro same
      cases same
      rfl
  · rename_i other
    constructor
    · intro impossible
      cases impossible
    · rintro rfl
      exact absurd rfl (other value)

theorem SecretValue.nonempty (secret : SecretValue) : secret.value ≠ [] := by
  intro empty
  have long := secret.long
  rw [empty] at long
  exact absurd long (by decide)

theorem rotationOf_iff {requestId : Str} {payload : List (Str × Json)} :
    rotationOf requestId payload = .ok rotation ↔ requestId = rotation.requestId ∧
      lookup (lit "node_name") payload = some (.str rotation.nodeName) ∧
      lookup (lit "tunnel_secret") payload = some (.str rotation.tunnelSecret.value) ∧
      isNodeName rotation.nodeName = true := by
  constructor
  · intro described
    obtain ⟨nodeName, name, described⟩ := bind_ok.mp described
    obtain ⟨tunnelSecret, secret, described⟩ := bind_ok.mp described
    obtain ⟨safeNodeName, valid, described⟩ := bind_ok.mp described
    obtain ⟨long, made, described⟩ := bind_ok.mp described
    cases described
    obtain ⟨isName, rfl⟩ := validateNodeName_iff.mp valid
    cases secretValue_of.mp made
    exact ⟨rfl, nodeNameField_iff.mp name, (tunnelSecretField_iff.mp secret).1, isName⟩
  · rintro ⟨rfl, name, secret, valid⟩
    refine bind_ok.mpr ⟨_, nodeNameField_iff.mpr name, bind_ok.mpr ⟨_, tunnelSecretField_iff.mpr
      ⟨secret, rotation.tunnelSecret.nonempty⟩, bind_ok.mpr ⟨_, validateNodeName_iff.mpr ⟨valid, rfl⟩,
      bind_ok.mpr ⟨_, secretValue_of.mpr rfl, rfl⟩⟩⟩⟩

/-- Which byte strings are one rotation, piece by piece. -/
structure IsRotation (codec : Codec) (maxFrameBytes : Int) (data : Bytes)
    (decoded : DecodedTunnelFrame) (payload : List (Str × Json)) (rotation : TunnelSecretRotation) :
    Prop where
  complete : ∃ headerPrefix header fields, IsFrame codec maxFrameBytes data headerPrefix header fields decoded
  type : decoded.frame.type = .ROTATE_TUNNEL_SECRET
  control : decoded.frame.channelId = none
  requestId : decoded.frame.requestId = rotation.requestId
  loaded : loadRotation codec decoded.payload = .ok payload
  nodeName : lookup (lit "node_name") payload = some (.str rotation.nodeName)
  valid : isNodeName rotation.nodeName = true
  tunnelSecret : lookup (lit "tunnel_secret") payload = some (.str rotation.tunnelSecret.value)

theorem decodeTunnelSecretRotation_iff :
    decodeTunnelSecretRotation codec data maxFrameBytes = .ok rotation ↔
      ∃ decoded payload, IsRotation codec maxFrameBytes data decoded payload rotation := by
  constructor
  · intro read
    obtain ⟨decoded, frame, read⟩ := bind_ok.mp read
    split at read
    · cases read
    rename_i type
    split at read
    · cases read
    rename_i control
    obtain ⟨payload, loaded, read⟩ := bind_ok.mp read
    obtain ⟨requestId, nodeName, tunnelSecret, valid⟩ := rotationOf_iff.mp read
    exact ⟨decoded, payload, decodeFrame_iff.mp frame, not_not.mp type, not_not.mp control, requestId, loaded,
      nodeName, valid, tunnelSecret⟩
  · rintro ⟨decoded, payload, is⟩
    refine bind_ok.mpr ⟨decoded, decodeFrame_iff.mpr is.complete, ?_⟩
    rw [if_neg (not_not.mpr is.type), if_neg (not_not.mpr is.control)]
    exact bind_ok.mpr ⟨payload, is.loaded, rotationOf_iff.mpr
      ⟨is.requestId, is.nodeName, is.tunnelSecret, is.valid⟩⟩
end Accepted

/-! What is raised. -/
section Raised
variable {codec : Codec} {maxFrameBytes : Int} {data : Bytes} {raised : Exc}

/-- The header that the bytes announce is there. -/
def HeaderWhole (data : Bytes) : Prop :=
  4 ≤ data.length ∧ unpackLength (data.take 4) ≠ 0 ∧
    unpackLength (data.take 4) ≤ FRAME_HEADER_MAX_BYTES ∧ 4 + unpackLength (data.take 4) ≤ data.length

/-- The frame that the payload check sees. -/
structure IsControl (codec : Codec) (maxFrameBytes : Int) (data : Bytes) (decoded : DecodedTunnelFrame) :
    Prop where
  frame : decodeFrame codec data maxFrameBytes = .ok decoded
  type : decoded.frame.type = .ROTATE_TUNNEL_SECRET
  control : decoded.frame.channelId = none

/-- Nothing in the bytes makes a parser or a validator raise an exception of its own. -/
structure Contained (codec : Codec) (maxFrameBytes : Int) (data : Bytes) : Prop where
  header : HeaderWhole data → Loadable codec (headerBytes data)
  payload : ∀ decoded, IsControl codec maxFrameBytes data decoded → Loadable codec decoded.payload
  values : ∀ decoded payload nodeName tunnelSecret, IsControl codec maxFrameBytes data decoded →
    loadRotation codec decoded.payload = .ok payload →
    lookup (lit "node_name") payload = some (.str nodeName) →
    lookup (lit "tunnel_secret") payload = some (.str tunnelSecret) → tunnelSecret ≠ [] →
    isNodeName nodeName = true ∧ GENERATED_SECRET_MIN_CHARS ≤ tunnelSecret.length

theorem jsonFault_escapes (fault : IsJsonFault raised) : ¬IsProtocolError raised := by
  rintro ⟨message, rfl⟩
  rcases fault with impossible | impossible <;> cases impossible

theorem decodeFrame_whole (whole : HeaderWhole data) : decodeFrame codec data maxFrameBytes = (do
    let header ← loadFrameHeader codec (headerBytes data)
    let frame ← frameOfHeader header maxFrameBytes
    let payload := data.drop (4 + unpackLength (data.take 4))
    if (payload.length : Int) ≠ frame.payloadLength then
      .error (.tunnelProtocolError "frame payload length mismatch")
    else .ok ⟨frame, payload⟩) := by
  obtain ⟨four, nonempty, bounded, there⟩ := whole
  unfold decodeFrame
  rw [if_neg (by omega)]
  dsimp only
  rw [if_neg (by omega), if_neg (by omega)]
  rfl

theorem decodeFrame_cut (cut : ¬HeaderWhole data)
    (failed : decodeFrame codec data maxFrameBytes = .error raised) : IsProtocolError raised := by
  unfold decodeFrame at failed
  split at failed
  · cases failed
    exact ⟨_, rfl⟩
  dsimp only at failed
  split at failed
  · cases failed
    exact ⟨_, rfl⟩
  split at failed
  · cases failed
    exact ⟨_, rfl⟩
  · exact absurd ⟨by omega, by omega, by omega, by omega⟩ cut

/-- Bytes that do not load make the parser's own exception escape. -/
theorem loadObject_unloadable {fault : String → Exc} {notJson notObject : String}
    (unloadable : ¬Loadable codec data) :
    ∃ raised, loadObject codec fault notJson notObject data = .error raised ∧ IsJsonFault raised := by
  cases loaded : loadObject codec fault notJson notObject data with
  | ok fields => exact absurd (loadObject_loadable loaded) unloadable
  | error raised =>
      rcases loadObject_raises loaded with ⟨loadable, -⟩ | ⟨-, isFault⟩
      · exact absurd loadable unloadable
      · exact ⟨raised, rfl, isFault⟩

theorem decode_control {decoded : DecodedTunnelFrame} (is : IsControl codec maxFrameBytes data decoded) :
    decodeTunnelSecretRotation codec data maxFrameBytes = (do
      let payload ← loadRotation codec decoded.payload
      rotationOf decoded.frame.requestId payload) := by
  unfold decodeTunnelSecretRotation
  rw [is.frame]
  change (if _ then _ else _) = _
  rw [if_neg (not_not.mpr is.type), if_neg (not_not.mpr is.control)]

/-- The validators raise what they raise everywhere. -/
theorem rotationOf_escapes {requestId nodeName tunnelSecret : Str} {payload : List (Str × Json)}
    (name : lookup (lit "node_name") payload = some (.str nodeName))
    (secret : lookup (lit "tunnel_secret") payload = some (.str tunnelSecret))
    (nonempty : tunnelSecret ≠ [])
    (contained : ∀ raised, rotationOf requestId payload = .error raised → IsProtocolError raised) :
    isNodeName nodeName = true ∧ GENERATED_SECRET_MIN_CHARS ≤ tunnelSecret.length := by
  have described : rotationOf requestId payload = (do
      let safeNodeName ← validateNodeName nodeName
      let secret ← SecretValue.of tunnelSecret
      .ok ⟨requestId, safeNodeName, secret⟩) := by
    unfold rotationOf
    rw [nodeNameField_iff.mpr name, tunnelSecretField_iff.mpr ⟨secret, nonempty⟩]
    rfl
  rw [described] at contained
  unfold validateNodeName SecretValue.of at contained
  constructor
  · by_contra invalid
    rw [if_neg invalid] at contained
    obtain ⟨message, impossible⟩ := contained _ rfl
    cases impossible
  · by_contra short
    rw [dif_neg short] at contained
    split at contained
    · obtain ⟨message, impossible⟩ := contained _ rfl
      cases impossible
    · obtain ⟨message, impossible⟩ := contained _ rfl
      cases impossible

theorem rotationOf_raises {requestId : Str} {payload : List (Str × Json)}
    (values : ∀ nodeName tunnelSecret, lookup (lit "node_name") payload = some (.str nodeName) →
      lookup (lit "tunnel_secret") payload = some (.str tunnelSecret) → tunnelSecret ≠ [] →
      isNodeName nodeName = true ∧ GENERATED_SECRET_MIN_CHARS ≤ tunnelSecret.length)
    (failed : rotationOf requestId payload = .error raised) : IsProtocolError raised := by
  unfold rotationOf at failed
  rcases bind_error.mp failed with wrong | ⟨nodeName, name, failed⟩
  · unfold nodeNameField at wrong
    split at wrong
    · cases wrong
    · cases wrong
      exact ⟨_, rfl⟩
  rcases bind_error.mp failed with wrong | ⟨tunnelSecret, secret, failed⟩
  · unfold tunnelSecretField at wrong
    split at wrong
    · cases wrong
    · cases wrong
      exact ⟨_, rfl⟩
  obtain ⟨found, nonempty⟩ := tunnelSecretField_iff.mp secret
  obtain ⟨valid, long⟩ := values _ _ (nodeNameField_iff.mp name) found nonempty
  rw [validateNodeName_iff.mpr ⟨valid, rfl⟩, SecretValue.of, dif_pos long] at failed
  cases failed

/-- When every refusal is a `TunnelProtocolError`. -/
theorem decodeTunnelSecretRotation_raises :
    (∀ raised, decodeTunnelSecretRotation codec data maxFrameBytes = .error raised →
      IsProtocolError raised) ↔ Contained codec maxFrameBytes data := by
  constructor
  · intro contained
    refine ⟨fun whole => ?_, fun decoded is => ?_, fun decoded payload nodeName tunnelSecret is loaded
      name secret nonempty => ?_⟩
    · by_contra unloadable
      obtain ⟨raised, failed, fault⟩ := loadObject_unloadable unloadable
      refine jsonFault_escapes fault (contained raised ?_)
      unfold decodeTunnelSecretRotation
      rw [decodeFrame_whole whole, loadFrameHeader, failed]
      rfl
    · by_contra unloadable
      obtain ⟨raised, failed, fault⟩ := loadObject_unloadable unloadable
      refine jsonFault_escapes fault (contained raised ?_)
      rw [decode_control is, loadRotation, failed]
      rfl
    · have described : ∀ raised, rotationOf decoded.frame.requestId payload = .error raised →
          IsProtocolError raised := by
        intro raised failed
        apply contained raised
        rw [decode_control is, loaded]
        exact failed
      exact rotationOf_escapes name secret nonempty described
  · intro contained raised failed
    rcases bind_error.mp failed with wrong | ⟨decoded, frame, failed⟩
    · by_cases whole : HeaderWhole data
      · rcases decodeFrame_raises wrong with protocol | ⟨unloadable, -⟩
        · exact protocol
        · exact absurd (contained.header whole) unloadable
      · exact decodeFrame_cut whole wrong
    split at failed
    · cases failed
      exact ⟨_, rfl⟩
    rename_i type
    split at failed
    · cases failed
      exact ⟨_, rfl⟩
    rename_i control
    have is : IsControl codec maxFrameBytes data decoded := ⟨frame, not_not.mp type, not_not.mp control⟩
    rcases bind_error.mp failed with wrong | ⟨payload, loaded, failed⟩
    · rcases loadObject_raises wrong with ⟨-, rfl | rfl⟩ | ⟨unloadable, -⟩
      · exact ⟨_, rfl⟩
      · exact ⟨_, rfl⟩
      · exact absurd (contained.payload decoded is) unloadable
    · exact rotationOf_raises (fun nodeName tunnelSecret => contained.values decoded payload _ _ is loaded)
        failed
end Raised

/-! What is written. -/
section Written
variable {codec : Codec} {maxFrameBytes : Int} {requestId nodeName : Str} {tunnelSecret : SecretValue}
  {bytes : Bytes}

def rotationText (codec : Codec) (nodeName tunnelSecret : Str) : Str :=
  codec.dumps (.object (rotationFields nodeName tunnelSecret))

def rotationHeader (codec : Codec) (requestId : Str) (payloadLength : Nat) : Str :=
  codec.dumps (.object (frameHeader .ROTATE_TUNNEL_SECRET requestId none payloadLength))

/-- The arguments make a frame within the bounds. -/
structure Fits (codec : Codec) (requestId nodeName tunnelSecret : Str) (maxFrameBytes : Int) : Prop where
  valid : isNodeName nodeName = true
  identified : requestId ≠ []
  positive : 0 < maxFrameBytes
  payload : ((rotationText codec nodeName tunnelSecret).length : Int) ≤ maxFrameBytes
  header : (rotationHeader codec requestId (rotationText codec nodeName tunnelSecret).length).length ≤
    FRAME_HEADER_MAX_BYTES

def rotationFrame (requestId : Str) (payload : Bytes) : OutgoingFrame :=
  ⟨.ROTATE_TUNNEL_SECRET, requestId, none, payload⟩

/-- What is written is ASCII, so every text of it has its bytes. -/
theorem encode_dumps (codec : Codec) (value : Json) : ∃ written,
    encode (codec.dumps value) = some written ∧ written.length = (codec.dumps value).length := by
  have ascii : Ascii (codec.dumps value) := codec.dumps_ascii value
  obtain ⟨written, encoded⟩ := encode_scalar _ ascii.scalarText
  exact ⟨written, encoded, encode_ascii_length ascii encoded⟩

/-- The encoder writes the frame of its payload. -/
theorem encodeTunnelSecretRotation_frame
    (encoded : encodeTunnelSecretRotation codec requestId nodeName tunnelSecret maxFrameBytes = .ok bytes) :
    isNodeName nodeName = true ∧ ∃ payload,
      encode (rotationText codec nodeName tunnelSecret.value) = some payload ∧
        (rotationFrame requestId payload).encode codec maxFrameBytes = .ok bytes := by
  unfold encodeTunnelSecretRotation at encoded
  obtain ⟨safeNodeName, valid, built⟩ := bind_ok.mp encoded
  obtain ⟨isName, rfl⟩ := validateNodeName_iff.mp valid
  obtain ⟨payload, written, framed⟩ := bind_ok.mp built
  refine ⟨isName, payload, ?_, framed⟩
  unfold encodeUtf8 at written
  split at written
  · rename_i payload same
    cases written
    exact same
  · cases written

theorem encodeFrame_fits {payload : Bytes} :
    (∃ bytes, (rotationFrame requestId payload).encode codec maxFrameBytes = .ok bytes) ↔
      requestId ≠ [] ∧ 0 < maxFrameBytes ∧ (payload.length : Int) ≤ maxFrameBytes ∧
        (rotationHeader codec requestId payload.length).length ≤ FRAME_HEADER_MAX_BYTES := by
  obtain ⟨header, written, length⟩ :=
    encode_dumps codec (.object (frameHeader .ROTATE_TUNNEL_SECRET requestId none payload.length))
  unfold OutgoingFrame.encode encodeFrame rotationFrame rotationHeader
  rw [← length]
  constructor
  · rintro ⟨bytes, encoded⟩
    obtain ⟨_, valid, encoded⟩ := bind_ok.mp encoded
    obtain ⟨positive, small⟩ := validatePayloadLength_ok.mp valid
    split at encoded
    · cases encoded
    rename_i identified
    rw [written] at encoded
    dsimp only at encoded
    split at encoded
    · cases encoded
    · rename_i bounded
      exact ⟨identified, positive, small, by omega⟩
  · rintro ⟨identified, positive, small, bounded⟩
    have valid : validatePayloadLength payload.length maxFrameBytes = .ok () :=
      validatePayloadLength_ok.mpr ⟨positive, small⟩
    rw [length] at bounded
    exact encodes_of_short (rotationFrame requestId payload) identified valid bounded

/-- Which arguments the encoder accepts. -/
theorem encodeTunnelSecretRotation_ok :
    (∃ bytes, encodeTunnelSecretRotation codec requestId nodeName tunnelSecret maxFrameBytes = .ok bytes) ↔
      Fits codec requestId nodeName tunnelSecret.value maxFrameBytes := by
  obtain ⟨payload, written, length⟩ :=
    encode_dumps codec (.object (rotationFields nodeName tunnelSecret.value))
  constructor
  · rintro ⟨bytes, encoded⟩
    obtain ⟨valid, sent, same, encoded⟩ := encodeTunnelSecretRotation_frame encoded
    cases same.symm.trans written
    obtain ⟨identified, positive, small, bounded⟩ := encodeFrame_fits.mp ⟨bytes, encoded⟩
    rw [length] at small bounded
    exact ⟨valid, identified, positive, small, bounded⟩
  · rintro ⟨valid, identified, positive, small, bounded⟩
    rw [rotationText, ← length] at small bounded
    obtain ⟨bytes, encoded⟩ := encodeFrame_fits.mpr ⟨identified, positive, small, bounded⟩
    refine ⟨bytes, bind_ok.mpr ⟨nodeName, validateNodeName_iff.mpr ⟨valid, rfl⟩,
      bind_ok.mpr ⟨payload, ?_, encoded⟩⟩⟩
    rw [encodeUtf8, written]
end Written

/-! What is read back. -/
section ReadBack
variable {codec : StringCodec} {maxFrameBytes : Int} {requestId nodeName : Str}
  {tunnelSecret : SecretValue} {bytes : Bytes}

theorem type_readBack (type : TunnelFrameType) : joinPairs (lit type.value) = lit type.value :=
  joinPairs_eq_iff.mpr (noPair_unpaired fun code member => (type.value_ascii.scalarText code member).unpaired)

theorem nodeName_readBack (valid : isNodeName nodeName = true) : joinPairs nodeName = nodeName := by
  obtain ⟨-, -, ascii⟩ := nodeName_ok (validateNodeName_iff.mpr ⟨valid, rfl⟩)
  exact joinPairs_eq_iff.mpr (noPair_unpaired fun code member => (ascii.scalarText code member).unpaired)

theorem joinPairs_nonempty {text : Str} (nonempty : text ≠ []) : joinPairs text ≠ [] := by
  unfold joinPairs
  split
  · split
    · exact List.cons_ne_nil _ _
    · exact List.cons_ne_nil _ _
  · exact nonempty

theorem frameHeader_flat (type : TunnelFrameType) (requestId : Str) (payloadLength : Nat) :
    FlatFields (frameHeader type requestId none payloadLength) := by
  obtain ⟨distinct, plain⟩ := frameHeader_plain type payloadLength ascii_nil.scalarText
    (show ScalarChannel none from trivial)
  refine ⟨distinct, fun field member => ?_⟩
  simp only [frameHeader, List.mem_cons, List.not_mem_nil, or_false] at member
  rcases member with rfl | rfl | rfl | rfl
  · exact ⟨(lit_ascii rfl).scalarText, trivial⟩
  · exact ⟨(lit_ascii rfl).scalarText, trivial⟩
  · exact ⟨(lit_ascii rfl).scalarText, trivial⟩
  · exact ⟨(lit_ascii rfl).scalarText, trivial⟩

theorem frameHeader_readBack (type : TunnelFrameType) (requestId : Str) (payloadLength : Nat) :
    (frameHeader type requestId none payloadLength).map readField =
      frameHeader type (joinPairs requestId) none payloadLength := by
  simp only [frameHeader, List.map_cons, List.map_nil, readField, Json.readBack, type_readBack, channelValue]

theorem rotationFields_flat (nodeName tunnelSecret : Str) : FlatFields (rotationFields nodeName tunnelSecret) := by
  refine ⟨show [lit "node_name", lit "tunnel_secret"].Nodup by decide, fun field member => ?_⟩
  simp only [rotationFields, List.mem_cons, List.not_mem_nil, or_false] at member
  rcases member with rfl | rfl
  · exact ⟨(lit_ascii rfl).scalarText, trivial⟩
  · exact ⟨(lit_ascii rfl).scalarText, trivial⟩

theorem rotationFields_readBack (valid : isNodeName nodeName = true) (tunnelSecret : Str) :
    (rotationFields nodeName tunnelSecret).map readField = rotationFields nodeName (joinPairs tunnelSecret) := by
  simp only [rotationFields, List.map_cons, List.map_nil, readField, Json.readBack, nodeName_readBack valid]

/-- The lookups in an object that was written are those in the fields that it was written from, each
string with its pairs joined. -/
theorem loads_written {fields : List (Str × Json)} (flat : FlatFields fields) : ∃ parsed,
    codec.loads (codec.dumps (.object fields)) = .ok (.object parsed) ∧
      ∀ key, lookup key parsed = lookup key (fields.map readField) := by
  obtain ⟨parsed, loads, lookups⟩ := codec.loads_strings fields flat
  exact ⟨parsed, loads, fun key => (lookups key).trans (lookup_readField key fields).symm⟩

/-- Only the two named fields of a payload are looked at. -/
theorem rotationOf_congr {payload other : List (Str × Json)} (requestId : Str)
    (same : ∀ key, lookup key payload = lookup key other) :
    rotationOf requestId payload = rotationOf requestId other := by
  simp only [rotationOf, same]

/-- What is read of a frame with an object in its payload. -/
theorem decode_framed {fields : List (Str × Json)} {payload : Bytes} (flat : FlatFields fields)
    (written : encode (codec.dumps (.object fields)) = some payload)
    (framed : (rotationFrame requestId payload).encode codec.toCodec maxFrameBytes = .ok bytes) :
    decodeTunnelSecretRotation codec.toCodec bytes maxFrameBytes =
      rotationOf (joinPairs requestId) (fields.map readField) := by
  obtain ⟨sized, identified⟩ : validatePayloadLength payload.length maxFrameBytes = .ok () ∧ requestId ≠ [] :=
    encode_checked framed
  have framedHeader := frameHeader_flat .ROTATE_TUNNEL_SECRET requestId payload.length
  obtain ⟨header, headerLoads, headerLookups⟩ := @loads_written codec _ framedHeader
  have accepted := frameOfHeader_frameHeader .ROTATE_TUNNEL_SECRET none (joinPairs_nonempty identified) sized
  rw [← frameHeader_readBack, ← frameOfHeader_congr maxFrameBytes headerLookups] at accepted
  obtain ⟨headerPrefix, headerBytes, isFrame⟩ := encode_reads headerLoads accepted rfl framed
  have is : IsControl codec.toCodec maxFrameBytes bytes _ :=
    ⟨decodeFrame_iff.mpr ⟨headerPrefix, headerBytes, header, isFrame⟩, rfl, rfl⟩
  obtain ⟨parsed, loads, lookups⟩ := @loads_written codec _ flat
  have loaded : loadRotation codec.toCodec payload = .ok parsed := by
    rw [loadRotation, loadObject, decode_encode _ _ written]
    simp only [loads]
  calc decodeTunnelSecretRotation codec.toCodec bytes maxFrameBytes
      = (do
          let parsed ← loadRotation codec.toCodec payload
          rotationOf (joinPairs requestId) parsed) := decode_control is
    _ = rotationOf (joinPairs requestId) parsed := by
        rw [loaded]
        rfl
    _ = rotationOf (joinPairs requestId) (fields.map readField) := rotationOf_congr _ lookups

/-- What is read of a frame that the encoder wrote. -/
theorem decode_encoded (encoded : encodeTunnelSecretRotation codec.toCodec requestId nodeName tunnelSecret
      maxFrameBytes = .ok bytes) :
    decodeTunnelSecretRotation codec.toCodec bytes maxFrameBytes =
      rotationOf (joinPairs requestId) (rotationFields nodeName (joinPairs tunnelSecret.value)) := by
  obtain ⟨valid, payload, written, framed⟩ := encodeTunnelSecretRotation_frame encoded
  rw [← rotationFields_readBack valid]
  exact decode_framed (rotationFields_flat nodeName tunnelSecret.value) written framed

/-- The rotation comes back just when no pair of surrogates stands in its texts. -/
theorem decode_encoded_iff (encoded : encodeTunnelSecretRotation codec.toCodec requestId nodeName tunnelSecret
      maxFrameBytes = .ok bytes) :
    decodeTunnelSecretRotation codec.toCodec bytes maxFrameBytes = .ok ⟨requestId, nodeName, tunnelSecret⟩ ↔
      NoPair requestId ∧ NoPair tunnelSecret.value := by
  obtain ⟨valid, -⟩ := encodeTunnelSecretRotation_frame encoded
  rw [decode_encoded encoded, rotationOf_iff]
  constructor
  · rintro ⟨sameId, -, secret, -⟩
    have sameSecret := Json.str.inj (Option.some.inj secret)
    exact ⟨joinPairs_eq_iff.mp sameId, joinPairs_eq_iff.mp sameSecret⟩
  · rintro ⟨idPlain, secretPlain⟩
    refine ⟨joinPairs_eq_iff.mpr idPlain, rfl, ?_, valid⟩
    rw [joinPairs_eq_iff.mpr secretPlain]
    rfl
end ReadBack

/-- What holds of the rotation frames of a codec and a bound. -/
structure RotationCodec (codec : StringCodec) (maxFrameBytes : Int) : Prop where
  written : ∀ requestId nodeName (tunnelSecret : SecretValue),
    (∃ bytes, encodeTunnelSecretRotation codec.toCodec requestId nodeName tunnelSecret maxFrameBytes =
      .ok bytes) ↔ Fits codec.toCodec requestId nodeName tunnelSecret.value maxFrameBytes
  inverse : ∀ requestId nodeName (tunnelSecret : SecretValue) bytes,
    encodeTunnelSecretRotation codec.toCodec requestId nodeName tunnelSecret maxFrameBytes = .ok bytes →
      (decodeTunnelSecretRotation codec.toCodec bytes maxFrameBytes = .ok ⟨requestId, nodeName, tunnelSecret⟩ ↔
        NoPair requestId ∧ NoPair tunnelSecret.value)
  raised : ∀ data, (∀ raised, decodeTunnelSecretRotation codec.toCodec data maxFrameBytes = .error raised →
    IsProtocolError raised) ↔ Contained codec.toCodec maxFrameBytes data
  returned : ∀ data rotation, decodeTunnelSecretRotation codec.toCodec data maxFrameBytes = .ok rotation →
    ∃ decoded payload, IsRotation codec.toCodec maxFrameBytes data decoded payload rotation ∧
      43 ≤ rotation.tunnelSecret.value.length

/-- A rotation that fits comes back unless a surrogate pair stands in its texts; a refusal is a
`TunnelProtocolError` unless a validator or a parser raises its own; only a rotation is returned. -/
theorem rotationFrame_codec (codec : StringCodec) (maxFrameBytes : Int) : RotationCodec codec maxFrameBytes where
  written _ _ _ := encodeTunnelSecretRotation_ok
  inverse _ _ _ _ encoded := decode_encoded_iff encoded
  raised _ := decodeTunnelSecretRotation_raises
  returned data rotation read := by
    obtain ⟨decoded, payload, is⟩ := decodeTunnelSecretRotation_iff.mp read
    exact ⟨decoded, payload, is, rotation.tunnelSecret.long⟩

def secretOne : SecretValue := ⟨List.replicate 43 115, by decide⟩

/-- A request id of the two halves of one character. -/
def pairOne : Str := [0xD83D, 0xDE00]

/-- The pair does not come back, and a name that is none raises what the validator raises. -/
theorem rotation_escapes :
    (∃ bytes, encodeTunnelSecretRotation pythonJson pairOne (lit "node-01") secretOne
        DEFAULT_FRAME_MAX_BYTES = .ok bytes ∧
      decodeTunnelSecretRotation pythonJson bytes DEFAULT_FRAME_MAX_BYTES ≠
        .ok ⟨pairOne, lit "node-01", secretOne⟩) ∧
    ∃ payload bytes, encode (rotationText pythonJson (lit "-") secretOne.value) = some payload ∧
      (rotationFrame (lit "r") payload).encode pythonJson DEFAULT_FRAME_MAX_BYTES = .ok bytes ∧
      decodeTunnelSecretRotation pythonJson bytes DEFAULT_FRAME_MAX_BYTES =
        .error (.identifierError "invalid node_name") ∧
      ¬IsProtocolError (.identifierError "invalid node_name") := by
  constructor
  · have fits : Fits pythonJson pairOne (lit "node-01") secretOne.value DEFAULT_FRAME_MAX_BYTES :=
      ⟨by decide, by decide, by decide, by decide +kernel, by decide +kernel⟩
    obtain ⟨bytes, encoded⟩ := encodeTunnelSecretRotation_ok.mpr fits
    refine ⟨bytes, encoded, fun same => ?_⟩
    have unpaired := ((@decode_encoded_iff pythonStrings _ _ _ _ _ encoded).mp same).1
    exact absurd unpaired (by unfold NoPair pairOne; decide)
  · obtain ⟨payload, written, length⟩ :=
      encode_dumps pythonJson (.object (rotationFields (lit "-") secretOne.value))
    have short : payload.length = 79 := length.trans (by decide +kernel)
    have fits : (payload.length : Int) ≤ DEFAULT_FRAME_MAX_BYTES := by
      rw [short]
      decide
    have bounded : (rotationHeader pythonJson (lit "r") payload.length).length ≤ FRAME_HEADER_MAX_BYTES := by
      rw [short]
      decide +kernel
    obtain ⟨bytes, framed⟩ := encodeFrame_fits.mpr ⟨by decide, by decide, fits, bounded⟩
    refine ⟨payload, bytes, written, framed, ?_, fun ⟨message, impossible⟩ => by cases impossible⟩
    exact @decode_framed pythonStrings _ _ _ _ _ (rotationFields_flat _ _) written framed

end VibeConnect.RotationFrame
