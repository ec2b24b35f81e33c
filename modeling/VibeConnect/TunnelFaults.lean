import VibeConnect.TunnelBroker

/-! What the parts of a tunnel raise. `json.loads` raises more than the
`JSONDecodeError` that every caller of it expects, and whether it does depends on
the bytes alone: `Loadable` says that it does not. Around it each check raises an
error of its own module, so a fault of a reader, of the frame codec or of a block
on the broker's tables is placed by one lemma each. -/
namespace VibeConnect.TunnelFaults
open Python.Text Python.JsonCodec Python.Values Python.Coroutine Models TunnelProtocol
open TunnelState TunnelAuthenticator TunnelBroker

/-- `json.loads` of these bytes raises nothing but a `JSONDecodeError`: every
integer literal is within the digit limit, and the nesting within its own. -/
def Loadable (codec : Codec) (data : Bytes) : Prop :=
  ∀ text fault, decode data = some text → codec.loads text = .error fault → fault = .decodeError

/-- What `json.loads` raises beside the `JSONDecodeError`. -/
def IsJsonFault (raised : Exc) : Prop := raised = .valueError ∨ raised = .recursionError

section Json
variable {codec : Codec} {fault : String → Exc} {notJson notObject : String} {data : Bytes}

theorem loadObject_loadable {fields : List (Str × Json)}
    (loaded : loadObject codec fault notJson notObject data = .ok fields) : Loadable codec data := by
  intro text raised decoded failed
  unfold loadObject at loaded
  rw [decoded] at loaded
  dsimp only at loaded
  rw [failed] at loaded
  cases raised <;> cases loaded

/-- Bytes that do not load either raise the caller's own error, or are not
loadable. -/
theorem loadObject_raises {raised : Exc}
    (failed : loadObject codec fault notJson notObject data = .error raised) :
    (Loadable codec data ∧ (raised = fault notJson ∨ raised = fault notObject)) ∨
      (¬Loadable codec data ∧ IsJsonFault raised) := by
  unfold loadObject at failed
  cases decoded : decode data with
  | none =>
      rw [decoded] at failed
      cases failed
      refine .inl ⟨fun text other same => ?_, .inl rfl⟩
      rw [decoded] at same
      cases same
  | some text =>
      rw [decoded] at failed
      dsimp only at failed
      -- the faults of `json.loads` on this text are the ones of `Loadable`
      have unique : ∀ other, decode data = some other → other = text := by
        intro other same
        rw [decoded] at same
        exact (Option.some.inj same).symm
      cases loaded : codec.loads text with
      | ok value =>
          rw [loaded] at failed
          refine .inl ⟨fun other raised same wrong => ?_, ?_⟩
          · rw [unique other same, loaded] at wrong
            cases wrong
          · cases value <;> cases failed <;> exact .inr rfl
      | error wrong =>
          rw [loaded] at failed
          have only : Loadable codec data ↔ wrong = .decodeError := by
            constructor
            · exact fun loadable => loadable text wrong decoded loaded
            · intro decodes other raised same failed
              rw [unique other same, loaded] at failed
              cases failed
              exact decodes
          cases wrong with
          | decodeError =>
              cases failed
              exact .inl ⟨only.mpr rfl, .inl rfl⟩
          | valueError =>
              cases failed
              exact .inr ⟨fun loadable => (nomatch only.mp loadable), .inl rfl⟩
          | recursionError =>
              cases failed
              exact .inr ⟨fun loadable => (nomatch only.mp loadable), .inr rfl⟩
end Json

/-! The frame codec. -/
def IsProtocolError (raised : Exc) : Prop := ∃ message, raised = .tunnelProtocolError message

section Frames
variable {codec : Codec} {maxFrameBytes : Int} {raised : Exc}

theorem validatePayloadLength_raises {payloadLength : Int}
    (failed : validatePayloadLength payloadLength maxFrameBytes = .error raised) :
    IsProtocolError raised := by
  unfold validatePayloadLength at failed
  split at failed
  · cases failed
    exact ⟨_, rfl⟩
  split at failed
  · cases failed
    exact ⟨_, rfl⟩
  · cases failed

theorem integerField_raises {fault : Exc} {field : Option Json}
    (failed : integerField fault field = .error raised) : raised = fault := by
  unfold integerField at failed
  split at failed
  · cases failed
  · cases failed
    rfl

theorem frameOfHeader_raises {header : List (Str × Json)}
    (failed : frameOfHeader header maxFrameBytes = .error raised) : IsProtocolError raised := by
  unfold frameOfHeader at failed
  rcases bind_error.mp failed with wrong | ⟨frameType, -, failed⟩
  · unfold decodeFrameType at wrong
    split at wrong
    · split at wrong
      · cases wrong
      · cases wrong
        exact ⟨_, rfl⟩
    · cases wrong
      exact ⟨_, rfl⟩
  rcases bind_error.mp failed with wrong | ⟨requestId, -, failed⟩
  · unfold decodeRequestId at wrong
    split at wrong
    · cases wrong
    · cases wrong
      exact ⟨_, rfl⟩
  rcases bind_error.mp failed with wrong | ⟨channelId, -, failed⟩
  · unfold decodeChannelId at wrong
    split at wrong
    · cases wrong
    · cases wrong
    · cases wrong
    · cases wrong
      exact ⟨_, rfl⟩
  rcases bind_error.mp failed with wrong | ⟨payloadLength, -, failed⟩
  · exact ⟨_, integerField_raises wrong⟩
  split at failed
  · cases failed
    exact ⟨_, rfl⟩
  rcases bind_error.mp failed with wrong | ⟨_, -, failed⟩
  · exact validatePayloadLength_raises wrong
  · cases failed

/-- `encode_frame` raises its own error only: `json.dumps` writes ASCII. -/
theorem encodeFrame_raises {frame : OutgoingFrame}
    (failed : frame.encode codec maxFrameBytes = .error raised) : IsProtocolError raised := by
  unfold OutgoingFrame.encode encodeFrame at failed
  rcases bind_error.mp failed with wrong | ⟨_, -, failed⟩
  · exact validatePayloadLength_raises wrong
  split at failed
  · cases failed
    exact ⟨_, rfl⟩
  have ascii : Ascii (codec.dumps (.object
      (frameHeader frame.type frame.requestId frame.channelId frame.payload.length))) :=
    codec.dumps_ascii _
  obtain ⟨headerBytes, encoded⟩ := encode_scalar _ ascii.scalarText
  rw [encoded] at failed
  dsimp only at failed
  split at failed
  · cases failed
    exact ⟨_, rfl⟩
  · cases failed

/-- The header of the frame that these bytes begin with. -/
def headerBytes (data : Bytes) : Bytes := (data.take (4 + unpackLength (data.take 4))).drop 4

theorem decodeFrame_raises {data : Bytes} (failed : decodeFrame codec data maxFrameBytes = .error raised) :
    IsProtocolError raised ∨ (¬Loadable codec (headerBytes data) ∧ IsJsonFault raised) := by
  unfold decodeFrame at failed
  split at failed
  · cases failed
    exact .inl ⟨_, rfl⟩
  dsimp only at failed
  split at failed
  · cases failed
    exact .inl ⟨_, rfl⟩
  split at failed
  · cases failed
    exact .inl ⟨_, rfl⟩
  rcases bind_error.mp failed with wrong | ⟨fields, -, failed⟩
  · rcases loadObject_raises wrong with ⟨-, rfl | rfl⟩ | unloadable
    · exact .inl ⟨_, rfl⟩
    · exact .inl ⟨_, rfl⟩
    · exact .inr unloadable
  rcases bind_error.mp failed with wrong | ⟨frame, -, failed⟩
  · exact .inl (frameOfHeader_raises wrong)
  split at failed
  · cases failed
    exact .inl ⟨_, rfl⟩
  · cases failed

theorem headerBytes_append {headerPrefix header payload : Bytes} (four : headerPrefix.length = 4)
    (announced : header.length = unpackLength headerPrefix) :
    headerBytes (headerPrefix ++ header ++ payload) = header := by
  have first : (headerPrefix ++ header ++ payload).take 4 = headerPrefix := by
    rw [List.append_assoc, List.take_left' four]
  have second : (headerPrefix ++ header ++ payload).take (4 + unpackLength headerPrefix) =
      headerPrefix ++ header := List.take_left' (by rw [List.length_append, four, announced])
  rw [headerBytes, first, second, List.drop_left' four]
end Frames

/-! A header of the compact writer is no longer than its parts. -/
section Lengths

theorem escapePoint_length (code : CodePoint) : (escapePoint code).length ≤ 12 := by
  unfold escapePoint unicodeEscape
  split_ifs <;> simp

theorem stringText_length (value : Str) : (stringText value).length ≤ 12 * value.length + 2 := by
  have body : (value.flatMap escapePoint).length ≤ 12 * value.length := by
    induction value with
    | nil => simp
    | cons code rest ih =>
        have first := escapePoint_length code
        simp only [List.flatMap_cons, List.length_append, List.length_cons]
        omega
  simp only [stringText, List.length_cons, List.length_append, List.length_nil]
  omega

theorem joined_length_le (separator : CodePoint) (texts : List Str) :
    (joined separator texts).length ≤ (texts.map fun text => text.length + 1).sum := by
  induction texts with
  | nil => simp [joined]
  | cons first rest ih =>
      cases rest with
      | nil => simp [joined]
      | cons second rest =>
          simp only [joined, List.length_append, List.length_cons, List.map_cons, List.sum_cons] at ih ⊢
          omega

theorem objectText_length (fields : List (Str × Json)) :
    (valueText (.object fields)).length ≤ 2 + (fields.map fun field =>
      (stringText field.1).length + (valueText field.2).length + 2).sum := by
  have sorted : (sortFields fields).Perm fields := List.perm_insertionSort _ _
  have same := (sorted.map fun field : Str × Json => (printField field).length + 1).sum_eq
  have bounded := joined_length_le 0x2C ((sortFields fields).map printField)
  rw [List.map_map] at bounded
  have parts : (fields.map fun field : Str × Json => (printField field).length + 1) =
      fields.map fun field => (stringText field.1).length + (valueText field.2).length + 2 := by
    apply List.map_congr_left
    intro field _
    simp only [printField, fieldText, List.length_append, List.length_cons]
    omega
  rw [valueText, sortFields_fieldTexts]
  simp only [List.length_cons, List.length_append, List.length_nil]
  rw [parts] at same
  have equal : (List.map ((fun text : Str => text.length + 1) ∘ printField) (sortFields fields)).sum =
      (fields.map fun field => (stringText field.1).length + (valueText field.2).length + 2).sum := same
  omega

theorem encode_ascii_length {text : Str} {bytes : Bytes} (ascii : Ascii text)
    (encoded : encode text = some bytes) : bytes.length = text.length := by
  induction text generalizing bytes with
  | nil =>
      cases encoded
      rfl
  | cons code rest ih =>
      have small : code.val < 0x80 := ascii code List.mem_cons_self
      have first : encodePoint code = some [UInt8.ofNat code.val] := by
        unfold encodePoint
        exact if_pos small
      obtain ⟨tail, tailEncoded⟩ := encode_scalar rest
        fun other member => (Ascii.scalarText ascii) other (List.mem_cons_of_mem _ member)
      rw [encode_cons first tailEncoded] at encoded
      cases encoded
      rw [List.length_append, List.length_cons, ih (fun other member =>
        ascii other (List.mem_cons_of_mem _ member)) tailEncoded]
      simp [Nat.add_comm]

theorem uuidText_length (uuid : Uuid) : uuid.text.length = 36 := by
  unfold Uuid.text
  simp [hexDigits_length, lit]

/-- A frame is written if its header is short enough. -/
theorem encodes_of_short {codec : Codec} (frame : OutgoingFrame) {bound : Int}
    (named : frame.requestId ≠ [])
    (valid : validatePayloadLength frame.payload.length bound = .ok ())
    (short : (codec.dumps (.object (frameHeader frame.type frame.requestId frame.channelId
      frame.payload.length))).length ≤ FRAME_HEADER_MAX_BYTES) :
    ∃ bytes, frame.encode codec bound = .ok bytes := by
  have ascii : Ascii (codec.dumps (.object (frameHeader frame.type frame.requestId frame.channelId
    frame.payload.length))) := codec.dumps_ascii _
  obtain ⟨headerBytes, encoded⟩ := encode_scalar _ ascii.scalarText
  have length := encode_ascii_length ascii encoded
  refine ⟨packLength headerBytes.length ++ headerBytes ++ frame.payload, bind_ok.mpr ⟨(), valid, ?_⟩⟩
  rw [if_neg named, encoded]
  exact if_neg (by rw [length]; omega)

/-- The frame that reports an error is always written. -/
theorem errorFrame_encodes {codec : Codec} (compact : codec.dumps = valueText) (requestId : Uuid) :
    ∃ bytes, (OutgoingFrame.mk .ERROR requestId.text none []).encode codec (1024 * 1024) = .ok bytes := by
  have bounded := objectText_length (frameHeader .ERROR requestId.text none 0)
  have request := stringText_length requestId.text
  rw [uuidText_length] at request
  -- beside the request id the header is a fixed text
  have rest : (stringText (lit "type")).length + (valueText (.str (lit TunnelFrameType.ERROR.value))).length +
      (stringText (lit "request_id")).length + (stringText (lit "channel_id")).length +
      (valueText (channelValue none)).length + (stringText (lit "payload_length")).length +
      (valueText (.int 0)).length ≤ 100 := by decide
  have valid : validatePayloadLength (0 : Nat) (1024 * 1024) = .ok () := rfl
  apply encodes_of_short (OutgoingFrame.mk .ERROR requestId.text none []) requestId.text_nonempty valid
  rw [compact]
  simp only [frameHeader, List.map_cons, List.map_nil, List.sum_cons, List.sum_nil] at bounded
  have written : (valueText (.str requestId.text)).length = (stringText requestId.text).length := rfl
  have none : (valueText (.int ((0 : Nat) : Int))).length = (valueText (.int 0)).length := rfl
  unfold FRAME_HEADER_MAX_BYTES
  simp only [frameHeader, List.length_nil]
  omega
end Lengths

/-! What `handle_stream` turns away a stream for. -/
def IsRejection : Exc → Prop
  | .tunnelAuthError _ | .tunnelProtocolError _ | .tunnelStateError _ => True
  | _ => False

theorem IsProtocolError.rejection {raised : Exc} (protocol : IsProtocolError raised) :
    IsRejection raised := by
  obtain ⟨message, rfl⟩ := protocol
  trivial

theorem IsJsonFault.uncaught {raised : Exc} (fault : IsJsonFault raised) : ¬IsRejection raised := by
  rcases fault with rfl | rfl <;> exact id

section Authentication
variable {library : Library} {request : TunnelAuthRequest} {raised : Exc}

/-- `str` of a loaded value raises no more than `json.loads` may: a number beyond
the digit limit, or a nesting too deep. -/
def PlainText (library : Library) : Prop :=
  ∀ value raised, library.strOf value = .error raised → IsJsonFault raised

/-- `str` of the payload's fields does not run out of stack. -/
def Printable (library : Library) (payload : Bytes) : Prop :=
  ∀ values, loadObject library.json .tunnelProtocolError "auth payload is invalid"
    "auth payload must be an object" payload = .ok values →
    authRequestOf library values ≠ .error .recursionError

theorem authField_raises {values : List (Str × Json)} {key : String} (plain : PlainText library)
    (failed : authField library values key = .error raised) :
    raised = .keyError ∨ IsJsonFault raised := by
  unfold authField at failed
  split at failed
  · cases failed
    exact .inl rfl
  · exact .inr (plain _ _ failed)

theorem authRequestOf_raises {values : List (Str × Json)} (plain : PlainText library)
    (failed : authRequestOf library values = .error raised) :
    raised = .keyError ∨ IsJsonFault raised := by
  unfold authRequestOf at failed
  rcases bind_error.mp failed with wrong | ⟨agentText, -, failed⟩
  · exact authField_raises plain wrong
  dsimp only at failed
  split at failed
  rotate_left
  · cases failed
    exact .inr (.inl rfl)
  obtain ⟨agentId, -, failed⟩ := (bind_error.mp failed).resolve_left nofun
  rcases bind_error.mp failed with wrong | ⟨nodeName, -, failed⟩
  · exact authField_raises plain wrong
  rcases bind_error.mp failed with wrong | ⟨certSerial, -, failed⟩
  · exact authField_raises plain wrong
  rcases bind_error.mp failed with wrong | ⟨certPublicKey, -, failed⟩
  · exact authField_raises plain wrong
  rcases bind_error.mp failed with wrong | ⟨tunnelSecret, -, failed⟩
  · exact authField_raises plain wrong
  · cases failed

theorem decodeAuthPayload_raises {payload : Bytes} (plain : PlainText library)
    (failed : decodeAuthPayload library payload = .error raised) :
    (IsProtocolError raised ∧ Loadable library.json payload ∧ Printable library payload) ∨
      (¬(Loadable library.json payload ∧ Printable library payload) ∧ IsJsonFault raised) := by
  unfold decodeAuthPayload at failed
  rcases bind_error.mp failed with wrong | ⟨values, loaded, failed⟩
  · have printable : Printable library payload := by
      intro values loaded
      rw [wrong] at loaded
      cases loaded
    rcases loadObject_raises wrong with ⟨loadable, rfl | rfl⟩ | ⟨unloadable, fault⟩
    · exact .inl ⟨⟨_, rfl⟩, loadable, printable⟩
    · exact .inl ⟨⟨_, rfl⟩, loadable, printable⟩
    · exact .inr ⟨fun both => unloadable both.1, fault⟩
  have loadable := loadObject_loadable loaded
  cases built : authRequestOf library values with
  | ok request =>
      rw [built] at failed
      cases failed
  | error other =>
  rw [built] at failed
  have only : Printable library payload ↔ other ≠ .recursionError := by
    constructor
    · rintro printable rfl
      exact printable values loaded built
    · intro differs again same broken
      rw [loaded] at same
      cases same
      rw [built] at broken
      cases broken
      exact differs rfl
  rcases authRequestOf_raises plain built with rfl | rfl | rfl
  · cases failed
    exact .inl ⟨⟨_, rfl⟩, loadable, only.mpr nofun⟩
  · cases failed
    exact .inl ⟨⟨_, rfl⟩, loadable, only.mpr nofun⟩
  · cases failed
    exact .inr ⟨fun both => only.mp both.2 rfl, .inr rfl⟩

theorem decodeAuthPayload_readable {payload : Bytes}
    (decoded : decodeAuthPayload library payload = .ok request) :
    Loadable library.json payload ∧ Printable library payload := by
  obtain ⟨values, loaded, decoded⟩ := bind_ok.mp decoded
  refine ⟨loadObject_loadable loaded, fun again same failed => ?_⟩
  rw [loaded] at same
  cases same
  rw [failed] at decoded
  cases decoded

/-- The checks that come before the secret. -/
structure Presents (request : TunnelAuthRequest) (record : AgentTunnelRecord) (now : DateTime) : Prop where
  notRevoked : record.revokedAt = none
  notExpired : ¬record.certExpiresAt.asUtc.instant ≤ now.asUtc.instant
  sameNode : record.nodeName = request.nodeName
  sameSerial : record.certSerial = request.certSerial
  sameKey : record.x509PublicKey = request.certPublicKey
  longSecret : GENERATED_SECRET_MIN_CHARS ≤ request.tunnelSecret.length

theorem verifyPeerCertificateBinding_raises {peer : PeerCertificateBinding}
    (failed : verifyPeerCertificateBinding request peer = .error raised) : IsRejection raised := by
  unfold verifyPeerCertificateBinding at failed
  split at failed
  · cases failed
    trivial
  split at failed
  · cases failed
    trivial
  · cases failed

/-- Against hex digests the secret is refused, or it does not encode. -/
theorem verifySecretHash_raises {tunnelSecret expectedHash : Str}
    (hexDigest : ∀ bytes, Ascii (library.sha256Hex bytes)) (stored : Ascii expectedHash)
    (failed : verifySecretHash library tunnelSecret expectedHash = .error raised) :
    ((∃ message, raised = .secretError message) ∧
        tunnelSecret.length < GENERATED_SECRET_MIN_CHARS) ∨
      (raised = .unicodeEncodeError ∧ GENERATED_SECRET_MIN_CHARS ≤ tunnelSecret.length ∧
        encode tunnelSecret = none) := by
  unfold verifySecretHash at failed
  rcases bind_error.mp failed with short | ⟨secret, long, failed⟩
  · unfold secretValue at short
    split at short
    · rename_i few
      cases short
      exact .inl ⟨⟨_, rfl⟩, few⟩
    · cases short
  unfold secretValue at long
  split at long
  · cases long
  rename_i enough
  cases long
  rcases bind_error.mp failed with wrong | ⟨digest, hashed, failed⟩
  · unfold sha256HexOf at wrong
    split at wrong
    · cases wrong
    · rename_i unencodable
      cases wrong
      exact .inr ⟨rfl, not_lt.mp enough, unencodable⟩
  · unfold sha256HexOf at hashed
    split at hashed
    · cases hashed
      unfold compareDigest at failed
      rw [if_pos ⟨hexDigest _, stored⟩] at failed
      cases failed
    · cases hashed

theorem checkRecord_raises {row : Option AgentTunnelRecord} {now : DateTime}
    (hexDigest : ∀ bytes, Ascii (library.sha256Hex bytes))
    (stored : ∀ record, row = some record → Ascii record.tunnelSecretHash)
    (failed : checkRecord library request row now = .error raised) :
    (IsRejection raised ∧ ∀ record, row = some record → Presents request record now →
        encode request.tunnelSecret ≠ none) ∨
      (raised = .unicodeEncodeError ∧ ∃ record, row = some record ∧ Presents request record now ∧
        encode request.tunnelSecret = none) := by
  cases row with
  | none =>
      cases failed
      refine .inl ⟨trivial, fun record impossible => ?_⟩
      cases impossible
  | some record =>
  unfold checkRecord at failed
  dsimp only at failed
  -- a check before the secret that fails leaves nothing to hash
  have refused : ∀ {message : String}, ¬Presents request record now →
      (Except.error (Exc.tunnelAuthError message) : Except Exc AgentTunnelRecord) = .error raised →
      IsRejection raised ∧ ∀ other, some record = some other → Presents request other now →
        encode request.tunnelSecret ≠ none := by
    intro message absent same
    cases same
    refine ⟨trivial, fun other found presents => ?_⟩
    cases found
    exact absurd presents absent
  split at failed
  · rename_i revoked
    exact .inl (refused (fun presents => revoked presents.notRevoked) failed)
  rename_i notRevoked
  split at failed
  · rename_i expired
    exact .inl (refused (fun presents => presents.notExpired expired) failed)
  rename_i notExpired
  split at failed
  · rename_i differs
    exact .inl (refused (fun presents => differs presents.sameNode) failed)
  rename_i sameNode
  split at failed
  · rename_i differs
    exact .inl (refused (fun presents => differs presents.sameSerial) failed)
  rename_i sameSerial
  split at failed
  · rename_i differs
    exact .inl (refused (fun presents => differs presents.sameKey) failed)
  rename_i sameKey
  cases verified : verifySecretHash library request.tunnelSecret record.tunnelSecretHash with
  | ok matched =>
      rw [verified] at failed
      cases matched with
      | true => cases failed
      | false =>
          cases failed
          refine .inl ⟨trivial, fun other found _ => ?_⟩
          cases found
          intro unencodable
          obtain ⟨secret, long, verified⟩ := bind_ok.mp verified
          obtain ⟨digest, hashed, -⟩ := bind_ok.mp verified
          unfold secretValue at long
          split at long
          · cases long
          cases long
          unfold sha256HexOf at hashed
          rw [unencodable] at hashed
          cases hashed
  | error wrong =>
      rw [verified] at failed
      rcases verifySecretHash_raises hexDigest (stored record rfl) verified with
        ⟨⟨message, rfl⟩, short⟩ | ⟨rfl, long, unencodable⟩
      · exact .inl (refused (fun presents => absurd presents.longSecret (not_le.mpr short)) failed)
      · cases failed
        exact .inr ⟨rfl, record, rfl, ⟨not_not.mp notRevoked, notExpired, not_not.mp sameNode,
          not_not.mp sameSerial, not_not.mp sameKey, long⟩, unencodable⟩
end Authentication

/-! The blocks on the tables. -/
section Tables
variable {broker : Broker} {connectionId : ConnectionId} {raised : Exc}

theorem newConnection_raises {config : BrokerConfig} {record : AgentTunnelRecord} {seenAt : DateTime}
    (failed : Broker.newConnection config record connectionId seenAt broker = .error raised) :
    IsRejection raised := by
  unfold Broker.newConnection at failed
  rcases bind_error.mp failed with wrong | ⟨channels, -, failed⟩
  · unfold TunnelChannelRegistry.new at wrong
    split at wrong
    · cases wrong
    · cases wrong
      trivial
  rcases bind_error.mp failed with wrong | ⟨heartbeat, -, failed⟩
  · unfold HeartbeatState.new at wrong
    split at wrong
    · cases wrong
    · cases wrong
      trivial
  · cases failed

theorem register_raises {agentId : Uuid}
    (failed : Broker.register agentId connectionId broker = .error raised) : IsRejection raised := by
  unfold Broker.register at failed
  rcases bind_error.mp failed with wrong | ⟨connected, -, failed⟩
  · unfold Broker.registryConnect at wrong
    split at wrong
    · cases wrong
      trivial
    · cases wrong
  · cases failed

/-- The open channels of a connection have their stream adapters. -/
def Attached (connectionId : ConnectionId) (broker : Broker) : Prop :=
  ∀ connection, broker.objects connectionId = some connection →
    ∀ channelId ∈ connection.channels.openChannels, channelId ∈ connection.adapters ∧
      ∃ stream, broker.streams connectionId channelId = some stream

theorem requireOpen_raises {channels : TunnelChannelRegistry} {channelId : ChannelId}
    (failed : channels.requireOpen channelId = .error raised) : IsRejection raised := by
  unfold TunnelChannelRegistry.requireOpen at failed
  split at failed
  · cases failed
  · cases failed
    trivial

theorem retireChannel_raises {channelId : ChannelId} {connection : BrokerTunnelConnection}
    (object : broker.objects connectionId = some connection)
    (failed : Broker.retireChannel connectionId channelId broker = .error raised) :
    IsRejection raised := by
  unfold Broker.retireChannel at failed
  rcases bind_error.mp failed with wrong | ⟨found, -, failed⟩
  · rw [Broker.object_ok.mpr object] at wrong
    cases wrong
  rcases bind_error.mp failed with wrong | ⟨channels, -, failed⟩
  · rcases bind_error.mp wrong with refused | ⟨_, -, refused⟩
    · exact requireOpen_raises refused
    · unfold TunnelChannelRegistry.closeChannel at refused
      split at refused
      · cases refused
      · cases refused
        trivial
  · cases failed

theorem onAdapter_raises {channelId : ChannelId} {connection : BrokerTunnelConnection}
    {change : BrokerTunnelStream → BrokerTunnelStream} (attached : Attached connectionId broker)
    (object : broker.objects connectionId = some connection)
    (isOpen : channelId ∈ connection.channels.openChannels) :
    broker.onAdapter connectionId connection channelId change ≠ .error raised := by
  obtain ⟨member, stream, found⟩ := attached connection object channelId isOpen
  unfold Broker.onAdapter
  rw [if_pos member, found]
  exact fun impossible => nomatch impossible

/-- An agent's frame is accepted or refused: the tables hold what it looks up. -/
theorem handleAgentFrame_raises {decoded : DecodedTunnelFrame} {connection : BrokerTunnelConnection}
    (attached : Attached connectionId broker)
    (object : broker.objects connectionId = some connection)
    (failed : Broker.handleAgentFrame connectionId decoded broker = .error raised) :
    IsRejection raised := by
  have here := Broker.object_ok.mpr object
  unfold Broker.handleAgentFrame at failed
  split at failed
  · cases failed
  · cases failed
    trivial
  · cases failed
    trivial
  · rename_i channelId _ _
    obtain ⟨found, looked, failed⟩ := (bind_error.mp failed).resolve_left (here ▸ nofun)
    cases here.symm.trans looked
    rcases bind_error.mp failed with refused | ⟨_, isOpen, failed⟩
    · exact requireOpen_raises refused
    · have member := TunnelChannelRegistry.requireOpen_ok.mp isOpen
      exact absurd failed (onAdapter_raises attached object member)
  · rename_i channelId _ _
    obtain ⟨found, looked, failed⟩ := (bind_error.mp failed).resolve_left (here ▸ nofun)
    cases here.symm.trans looked
    rcases bind_error.mp failed with refused | ⟨_, isOpen, failed⟩
    · exact requireOpen_raises refused
    have member := TunnelChannelRegistry.requireOpen_ok.mp isOpen
    rcases bind_error.mp failed with wrong | ⟨fed, changed, failed⟩
    · exact absurd wrong (onAdapter_raises attached object member)
    · obtain ⟨stream, -, -, rfl⟩ := Broker.onAdapter_ok changed
      have still : (broker.setStream connectionId channelId stream.feedEof).objects connectionId =
          some connection := object
      exact retireChannel_raises still failed
  · cases failed
    trivial
end Tables

end VibeConnect.TunnelFaults
