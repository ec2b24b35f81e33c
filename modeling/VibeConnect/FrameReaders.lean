import VibeConnect.Python.Stream
import VibeConnect.TunnelProtocol

/-! The two stream readers, written over any `readexactly`. The server's reader
checks what it needs before it asks for the payload and then leaves the rest to
`decode_frame`; the agent's reader returns the bytes, and its loop decodes them.
Both are compared with `decode_frame` on prefixes of the stream. -/
namespace VibeConnect.FrameReaders
open Python.Text Python.JsonCodec Python.Stream Python.Coroutine Models TunnelProtocol

section Readers
variable {Op : Type} {Ans : Op → Type} (codec : Codec) (readexactly : Nat → Coro Op Ans Exc Bytes)
  (maxFrameBytes : Int)

/-- `server.tunnel._read_one_frame`. -/
def Server.readOneFrame : Coro Op Ans Exc DecodedTunnelFrame := do
  let headerPrefix ← readexactly 4
  let headerLength := unpackLength headerPrefix
  if headerLength = 0 ∨ headerLength > FRAME_HEADER_MAX_BYTES then
    throw (.tunnelProtocolError "frame header length is invalid")
  else
    let header ← readexactly headerLength
    let values ← Coro.ofAnswer (loadFrameHeader codec header)
    let payloadLength ← Coro.ofAnswer (integerField
      (.tunnelProtocolError "payload_length must be an integer") (lookup (lit "payload_length") values))
    if payloadLength < 0 ∨ payloadLength > maxFrameBytes then
      throw (.tunnelProtocolError "frame payload is too large")
    else
      let payload ← readexactly payloadLength.toNat
      Coro.ofAnswer (decodeFrame codec (headerPrefix ++ header ++ payload) maxFrameBytes)

/-- `agent.tunnel._payload_length_from_header`. -/
def Agent.payloadLengthFromHeader (headerData : Bytes) : Except Exc Int := do
  let headerLength := unpackLength (headerData.take 4)
  let header ← loadObject codec .agentTunnelError "tunnel frame header is not valid JSON"
    "tunnel frame header must be an object" ((headerData.take (4 + headerLength)).drop 4)
  let payloadLength ← integerField
    (.agentTunnelError "tunnel frame payload_length must be an integer")
    (lookup (lit "payload_length") header)
  if payloadLength < 0 then
    .error (.agentTunnelError "tunnel frame payload_length cannot be negative")
  else .ok payloadLength

/-- The end of the stream between two frames is no error. -/
def Agent.cleanEnd : Exc → Coro Op Ans Exc (Option Bytes)
  | .incompleteReadError received =>
      if received = [] then pure none else throw (.agentTunnelError "partial tunnel frame header")
  | raised => throw raised

/-- `agent.tunnel._read_one_frame`. -/
def Agent.readOneFrame : Coro Op Ans Exc (Option Bytes) := do
  match ← tryCatch (some <$> readexactly 4) Agent.cleanEnd with
  | none => pure none
  | some headerLengthBytes =>
      let headerLength := unpackLength headerLengthBytes
      if headerLength = 0 ∨ headerLength > FRAME_HEADER_MAX_BYTES then
        throw (.agentTunnelError "tunnel frame header length is invalid")
      else
        let headerBytes ← readexactly headerLength
        let payloadLength ← Coro.ofAnswer
          (Agent.payloadLengthFromHeader codec (headerLengthBytes ++ headerBytes))
        if payloadLength > maxFrameBytes then
          throw (.agentTunnelError "tunnel frame payload is too large")
        else
          let payload ← readexactly payloadLength.toNat
          pure (some (headerLengthBytes ++ headerBytes ++ payload))

/-- What the agent's loop does with one turn of its reader. -/
def Agent.readAndDecode : Coro Op Ans Exc (Option DecodedTunnelFrame) := do
  match ← Agent.readOneFrame codec readexactly maxFrameBytes with
  | none => pure none
  | some data => some <$> Coro.ofAnswer (decodeFrame codec data maxFrameBytes)
end Readers

/-! A stream in place of the connection. -/
abbrev Reading := Coro Nat (fun _ => Bytes) Exc

def onStream : Coro.Server Nat (fun _ => Bytes) Exc StreamReader := fun count reader =>
  match reader.readexactly count with
  | (.ok bytes, left) => (.ok bytes, left)
  | (.error received, left) => (.error (.incompleteReadError received), left)

def serverRead (codec : Codec) (maxFrameBytes : Int) : Reading DecodedTunnelFrame :=
  Server.readOneFrame codec Coro.await maxFrameBytes

def agentRead (codec : Codec) (maxFrameBytes : Int) : Reading (Option DecodedTunnelFrame) :=
  Agent.readAndDecode codec Coro.await maxFrameBytes

theorem await_ok {count : Nat} {reader left : StreamReader} {bytes : Bytes} :
    (Coro.await count : Reading Bytes).run onStream reader = (.ok bytes, left) ↔
      reader.readexactly count = (.ok bytes, left) := by
  rw [Coro.run_await, onStream]
  rcases reader.readexactly count with ⟨received | got, after⟩ <;> simp

theorem await_enough {reader : StreamReader} {head rest : Bytes} (content : reader.content = head ++ rest) :
    ∃ left, (Coro.await head.length : Reading Bytes).run onStream reader = (.ok head, left) ∧
      left.content = rest := by
  obtain ⟨left, read, same⟩ := readexactly_enough reader head rest content
  exact ⟨left, await_ok.mpr read, same⟩

theorem await_short {reader : StreamReader} {count : Nat} (short : reader.content.length < count) :
    (Coro.await count : Reading Bytes).run onStream reader =
      (.error (.incompleteReadError reader.content), ⟨[], []⟩) := by
  rw [Coro.run_await, onStream, readexactly_short reader count short]

theorem loadObject_ok {codec : Codec} {fault other : String → Exc} {a b c d : String} {data : Bytes}
    {fields : List (Str × Json)} (loaded : loadObject codec fault a b data = .ok fields) :
    loadObject codec other c d data = .ok fields := by
  unfold loadObject at loaded ⊢
  split at loaded
  · cases loaded
  split at loaded
  · cases loaded
  · cases loaded
  · exact loaded
  · cases loaded

theorem ofAnswer_ok {answer : Except Exc α} {before after : StreamReader} {value : α} :
    (Coro.ofAnswer answer : Reading α).run onStream before = (.ok value, after) ↔
      answer = .ok value ∧ before = after := by
  rw [Coro.run_ofAnswer, Prod.mk.injEq]

/-- An accepted frame is what `decode_frame` makes of the bytes read for it. The
bytes read so far are tracked by any predicate that `readexactly` extends. -/
theorem Server.readOneFrame_wp {Op : Type} {Ans : Op → Type} {σ : Type} (codec : Codec)
    (maxFrameBytes : Int) {readexactly : Nat → Coro Op Ans Exc Bytes}
    {answers : Coro.Answers Op Ans Exc σ} {pre : Op → σ → Prop} (received : Bytes → σ → Prop)
    (stopped : σ → Prop)
    (reads : ∀ count got state, received got state → (readexactly count).wp answers pre
      (Coro.either (fun bytes => received (got ++ bytes)) fun _ => stopped) state)
    (halts : ∀ got state, received got state → stopped state)
    (state : σ) (start : received [] state) :
    (Server.readOneFrame codec readexactly maxFrameBytes).wp answers pre
      (Coro.either (fun decoded after => ∃ data,
        decodeFrame codec data maxFrameBytes = .ok decoded ∧ received data after)
        fun _ => stopped) state := by
  refine Coro.wp_seq (reads 4 [] state start) fun headerPrefix first gotPrefix => ?_
  dsimp only
  split
  · exact halts _ _ gotPrefix
  refine Coro.wp_seq (reads _ _ first gotPrefix) fun header second gotHeader => ?_
  refine Coro.wp_bind (Coro.wp_ofAnswer ?_)
  cases loadFrameHeader codec header with
  | error fault => exact halts _ _ gotHeader
  | ok values =>
  refine Coro.wp_bind (Coro.wp_ofAnswer ?_)
  cases integerField (.tunnelProtocolError "payload_length must be an integer")
      (lookup (lit "payload_length") values) with
  | error fault => exact halts _ _ gotHeader
  | ok payloadLength =>
  dsimp only
  split
  · exact halts _ _ gotHeader
  refine Coro.wp_seq (reads _ _ second gotHeader) fun payload third gotPayload => ?_
  refine Coro.wp_ofAnswer ?_
  cases decodes : decodeFrame codec (headerPrefix ++ header ++ payload) maxFrameBytes with
  | error fault => exact halts _ _ gotPayload
  | ok decoded => exact ⟨_, decodes, gotPayload⟩

/-- Reading from a stream splits its content. -/
theorem await_wp {pre : Nat → StreamReader → Prop} (allowed : ∀ count left, pre count left)
    (content got : Bytes) (count : Nat) (reader : StreamReader)
    (split : content = got ++ reader.content) :
    (Coro.await count : Reading Bytes).wp
      (fun count answer before after => onStream count before = (answer, after)) pre
      (Coro.either (fun bytes left => content = got ++ bytes ++ left.content) fun _ _ => True)
      reader := by
  refine Coro.wp_await (allowed _ _) fun answer left answered => ?_
  cases answer with
  | error fault => trivial
  | ok bytes =>
      have read : (Coro.await count : Reading Bytes).run onStream reader = (.ok bytes, left) := by
        rw [Coro.run_await, answered]
      have consumed := (readexactly_ok _ _ _ _ (await_ok.mp read)).2
      rw [Coro.either_ok, split, consumed, List.append_assoc]

/-- An accepted frame is a prefix of the stream, and exactly it was consumed. -/
theorem serverRead_sound {codec : Codec} {maxFrameBytes : Int} {reader left : StreamReader}
    {decoded : DecodedTunnelFrame}
    (read : (serverRead codec maxFrameBytes).run onStream reader = (.ok decoded, left)) :
    ∃ data, decodeFrame codec data maxFrameBytes = .ok decoded ∧
      reader.content = data ++ left.content := by
  have tracked := Coro.wp_run (Server.readOneFrame_wp codec maxFrameBytes
    (fun got now => reader.content = got ++ now.content) (fun _ => True) (fun count got now =>
      await_wp (fun _ _ => trivial) reader.content got count now) (fun _ _ _ => trivial) reader rfl)
  rw [serverRead] at read
  rw [read] at tracked
  exact tracked

/-- How the agent's first read of a frame can go. -/
theorem agentOpening_run (reader : StreamReader) :
    (tryCatch (some <$> Coro.await 4) Agent.cleanEnd : Reading (Option Bytes)).run onStream reader =
      match reader.readexactly 4 with
      | (.ok bytes, left) => (.ok (some bytes), left)
      | (.error [], left) => (.ok none, left)
      | (.error (_ :: _), left) => (.error (.agentTunnelError "partial tunnel frame header"), left) := by
  rw [Coro.run_handle, Coro.run_map, Coro.run_await, onStream]
  rcases reader.readexactly 4 with ⟨received | bytes, left⟩
  · cases received <;> rfl
  · rfl

/-- The agent's reader returns the bytes it read for one frame. -/
theorem Agent.readOneFrame_wp {Op : Type} {Ans : Op → Type} {σ : Type} (codec : Codec)
    (maxFrameBytes : Int) {readexactly : Nat → Coro Op Ans Exc Bytes}
    {answers : Coro.Answers Op Ans Exc σ} {pre : Op → σ → Prop} (received : Bytes → σ → Prop)
    (stopped : σ → Prop)
    (reads : ∀ count got state, received got state → (readexactly count).wp answers pre
      (Coro.either (fun bytes => received (got ++ bytes)) fun _ => stopped) state)
    (halts : ∀ got state, received got state → stopped state)
    (state : σ) (start : received [] state) :
    (Agent.readOneFrame codec readexactly maxFrameBytes).wp answers pre
      (Coro.either (fun data after => ∀ bytes, data = some bytes → received bytes after)
        fun _ => stopped) state := by
  have opening : (tryCatch (some <$> readexactly 4) Agent.cleanEnd : Coro Op Ans Exc (Option Bytes)).wp
      answers pre (Coro.either (fun opened after => ∀ bytes, opened = some bytes → received bytes after)
        fun _ => stopped) state := by
    refine Coro.wp_handle ?_
    rw [map_eq_pure_bind]
    refine Coro.wp_bind (Coro.wp_mono ?_ (reads 4 [] state start))
    intro outcome first got
    cases outcome with
    | ok bytes =>
        intro same given
        cases given
        exact got
    | error fault =>
        unfold Agent.cleanEnd
        dsimp only
        split
        · split
          · intro bytes impossible
            cases impossible
          · exact got
        · exact got
  refine Coro.wp_seq opening fun opened first gotPrefix => ?_
  cases opened with
  | none =>
      intro bytes impossible
      cases impossible
  | some headerPrefix =>
  replace gotPrefix := gotPrefix headerPrefix rfl
  dsimp only
  split
  · exact halts _ _ gotPrefix
  refine Coro.wp_seq (reads _ _ first gotPrefix) fun header second gotHeader => ?_
  refine Coro.wp_bind (Coro.wp_ofAnswer ?_)
  cases Agent.payloadLengthFromHeader codec (headerPrefix ++ header) with
  | error fault => exact halts _ _ gotHeader
  | ok payloadLength =>
  dsimp only
  split
  · exact halts _ _ gotHeader
  refine Coro.wp_seq (reads _ _ second gotHeader) fun payload third gotPayload => ?_
  intro bytes given
  cases given
  exact gotPayload

theorem agentRead_sound {codec : Codec} {maxFrameBytes : Int} {reader left : StreamReader}
    {decoded : DecodedTunnelFrame}
    (read : (agentRead codec maxFrameBytes).run onStream reader = (.ok (some decoded), left)) :
    ∃ data, decodeFrame codec data maxFrameBytes = .ok decoded ∧
      reader.content = data ++ left.content := by
  obtain ⟨data, afterRead, gotData, read⟩ := Coro.run_bind_ok.mp read
  have tracked := Coro.wp_run (Agent.readOneFrame_wp codec maxFrameBytes
    (fun got now => reader.content = got ++ now.content) (fun _ => True) (fun count got now =>
      await_wp (fun _ _ => trivial) reader.content got count now) (fun _ _ _ => trivial) reader rfl)
  rw [gotData] at tracked
  cases data with
  | none => cases read
  | some data =>
      dsimp only at read
      rw [Coro.run_map, Coro.run_ofAnswer] at read
      cases decodes : decodeFrame codec data maxFrameBytes with
      | error fault =>
          rw [decodes] at read
          cases read
      | ok result =>
          rw [decodes] at read
          cases read
          exact ⟨data, decodes, tracked data rfl⟩

/-- A frame at the head of the stream is accepted, whatever follows it. -/
theorem serverRead_complete {codec : Codec} {maxFrameBytes : Int} {reader : StreamReader}
    {data rest : Bytes} {decoded : DecodedTunnelFrame}
    (decodes : decodeFrame codec data maxFrameBytes = .ok decoded)
    (content : reader.content = data ++ rest) :
    ∃ left, (serverRead codec maxFrameBytes).run onStream reader = (.ok decoded, left) ∧
      left.content = rest := by
  obtain ⟨headerPrefix, header, fields, frame⟩ := decodeFrame_iff.mp decodes
  obtain ⟨field, nonnegative, bounded⟩ := frameOfHeader_length frame.accepted
  have size : decoded.frame.payloadLength.toNat = decoded.payload.length := by
    have length := frame.length
    omega
  rw [frame.cut, List.append_assoc, List.append_assoc] at content
  obtain ⟨first, gotPrefix, content⟩ := await_enough content
  obtain ⟨second, gotHeader, content⟩ := await_enough content
  obtain ⟨third, gotPayload, content⟩ := await_enough content
  rw [frame.fourBytes] at gotPrefix
  rw [frame.announced] at gotHeader
  have nonempty := frame.nonempty
  have small := frame.bounded
  refine ⟨third, ?_, content⟩
  refine Coro.run_bind_ok.mpr ⟨headerPrefix, first, gotPrefix, ?_⟩
  dsimp only
  rw [if_neg (by omega)]
  refine Coro.run_bind_ok.mpr ⟨header, second, gotHeader, ?_⟩
  refine Coro.run_bind_ok.mpr ⟨fields, second, ofAnswer_ok.mpr ⟨frame.loaded, rfl⟩, ?_⟩
  refine Coro.run_bind_ok.mpr ⟨decoded.frame.payloadLength, second,
    ofAnswer_ok.mpr ⟨integerField_ok.mpr field, rfl⟩, ?_⟩
  rw [if_neg (by omega), size]
  refine Coro.run_bind_ok.mpr ⟨decoded.payload, third, gotPayload, ofAnswer_ok.mpr ⟨?_, rfl⟩⟩
  rw [← frame.cut, decodes]

theorem payloadLengthFromHeader_ok {codec : Codec} {headerPrefix header : Bytes}
    {fields : List (Str × Json)} {payloadLength : Int} (fourBytes : headerPrefix.length = 4)
    (announced : header.length = unpackLength headerPrefix)
    (loaded : loadFrameHeader codec header = .ok fields)
    (field : lookup (lit "payload_length") fields = some (.int payloadLength))
    (nonnegative : 0 ≤ payloadLength) :
    Agent.payloadLengthFromHeader codec (headerPrefix ++ header) = .ok payloadLength := by
  have whole : (headerPrefix ++ header).length = 4 + unpackLength headerPrefix := by
    rw [List.length_append, fourBytes, announced]
  unfold Agent.payloadLengthFromHeader
  dsimp only
  rw [List.take_left' fourBytes, List.take_of_length_le (by omega), List.drop_left' fourBytes]
  refine bind_ok.mpr ⟨fields, loadObject_ok loaded, bind_ok.mpr ⟨payloadLength,
    integerField_ok.mpr field, ?_⟩⟩
  rw [if_neg (by omega)]

theorem agentRead_complete {codec : Codec} {maxFrameBytes : Int} {reader : StreamReader}
    {data rest : Bytes} {decoded : DecodedTunnelFrame}
    (decodes : decodeFrame codec data maxFrameBytes = .ok decoded)
    (content : reader.content = data ++ rest) :
    ∃ left, (agentRead codec maxFrameBytes).run onStream reader = (.ok (some decoded), left) ∧
      left.content = rest := by
  obtain ⟨headerPrefix, header, fields, frame⟩ := decodeFrame_iff.mp decodes
  obtain ⟨field, nonnegative, bounded⟩ := frameOfHeader_length frame.accepted
  have size : decoded.frame.payloadLength.toNat = decoded.payload.length := by
    have length := frame.length
    omega
  have announced := payloadLengthFromHeader_ok frame.fourBytes frame.announced frame.loaded field
    nonnegative
  rw [frame.cut, List.append_assoc, List.append_assoc] at content
  obtain ⟨first, gotPrefix, content⟩ := await_enough content
  obtain ⟨second, gotHeader, content⟩ := await_enough content
  obtain ⟨third, gotPayload, content⟩ := await_enough content
  rw [frame.fourBytes] at gotPrefix
  rw [frame.announced] at gotHeader
  have opened : (tryCatch (some <$> Coro.await 4) Agent.cleanEnd : Reading (Option Bytes)).run
      onStream reader = (.ok (some headerPrefix), first) := by
    rw [agentOpening_run, await_ok.mp gotPrefix]
  have nonempty := frame.nonempty
  have small := frame.bounded
  refine ⟨third, ?_, content⟩
  refine Coro.run_bind_ok.mpr ⟨some data, third, ?_, ?_⟩
  · refine Coro.run_bind_ok.mpr ⟨some headerPrefix, first, opened, ?_⟩
    dsimp only
    rw [if_neg (by omega)]
    refine Coro.run_bind_ok.mpr ⟨header, second, gotHeader, ?_⟩
    refine Coro.run_bind_ok.mpr ⟨_, second, ofAnswer_ok.mpr ⟨announced, rfl⟩, ?_⟩
    rw [if_neg (by omega), size]
    refine Coro.run_bind_ok.mpr ⟨decoded.payload, third, gotPayload, ?_⟩
    rw [frame.cut]
    rfl
  · dsimp only
    rw [Coro.run_map, Coro.run_ofAnswer, decodes]
    rfl

/-! Requests. No answer of the stream makes a reader ask for more than a header
or a payload can have. -/
def Requested (maxFrameBytes : Int) (count : Nat) : Prop :=
  (count : Int) ≤ max 16384 maxFrameBytes

abbrev Asks (maxFrameBytes : Int) {α : Type} (program : Reading α) (reader : StreamReader) : Prop :=
  program.wp (fun count answer before after => onStream count before = (answer, after))
    (fun count _ => Requested maxFrameBytes count) (fun _ _ => True) reader

theorem asks_bind {maxFrameBytes : Int} {program : Reading α} {next : α → Reading β}
    {reader : StreamReader} (first : Asks maxFrameBytes program reader)
    (second : ∀ value left, Asks maxFrameBytes (next value) left) :
    Asks maxFrameBytes (program >>= next) reader := by
  refine Coro.wp_bind (Coro.wp_mono ?_ first)
  intro outcome left _
  cases outcome with
  | ok value => exact second value left
  | error fault => trivial

theorem asks_await {maxFrameBytes : Int} {count : Nat} {reader : StreamReader}
    (small : Requested maxFrameBytes count) :
    Asks maxFrameBytes (Coro.await count : Reading Bytes) reader :=
  Coro.wp_await small fun _ _ _ => trivial

theorem requested_header {maxFrameBytes : Int} {headerLength : Nat}
    (small : headerLength ≤ FRAME_HEADER_MAX_BYTES) : Requested maxFrameBytes headerLength := by
  unfold FRAME_HEADER_MAX_BYTES at small
  unfold Requested
  omega

theorem requested_payload {maxFrameBytes payloadLength : Int} (small : payloadLength ≤ maxFrameBytes) :
    Requested maxFrameBytes payloadLength.toNat := by
  unfold Requested
  omega

theorem serverRead_asks (codec : Codec) (maxFrameBytes : Int) (reader : StreamReader) :
    Asks maxFrameBytes (serverRead codec maxFrameBytes) reader := by
  refine asks_bind (asks_await (requested_header (by decide))) fun headerPrefix first => ?_
  dsimp only
  split
  · trivial
  rename_i headerOk
  refine asks_bind (asks_await (requested_header (by omega))) fun header second => ?_
  refine asks_bind (Coro.wp_ofAnswer trivial) fun values third => ?_
  refine asks_bind (Coro.wp_ofAnswer trivial) fun payloadLength fourth => ?_
  split
  · trivial
  rename_i payloadOk
  exact asks_bind (asks_await (requested_payload (by omega))) fun payload fifth =>
    Coro.wp_ofAnswer trivial

theorem cleanEnd_asks (maxFrameBytes : Int) (fault : Exc) (reader : StreamReader) :
    Asks maxFrameBytes (Agent.cleanEnd fault : Reading (Option Bytes)) reader := by
  unfold Agent.cleanEnd
  split
  · split <;> trivial
  · trivial

theorem agentRead_asks (codec : Codec) (maxFrameBytes : Int) (reader : StreamReader) :
    Asks maxFrameBytes (agentRead codec maxFrameBytes) reader := by
  have opening : Asks maxFrameBytes
      (tryCatch (some <$> Coro.await 4) Agent.cleanEnd : Reading (Option Bytes)) reader := by
    refine Coro.wp_handle ?_
    rw [map_eq_pure_bind]
    refine Coro.wp_bind (Coro.wp_await (requested_header (by decide)) fun answer left _ => ?_)
    cases answer with
    | ok bytes => trivial
    | error fault => exact cleanEnd_asks maxFrameBytes fault left
  refine asks_bind (asks_bind opening fun opened first => ?_) fun data last => ?_
  · cases opened with
    | none => trivial
    | some headerPrefix =>
        dsimp only
        split
        · trivial
        rename_i headerOk
        refine asks_bind (asks_await (requested_header (by omega))) fun header second => ?_
        refine asks_bind (Coro.wp_ofAnswer trivial) fun payloadLength third => ?_
        split
        · trivial
        rename_i payloadOk
        exact asks_bind (asks_await (requested_payload (by omega))) fun payload fourth => trivial
  · cases data with
    | none => trivial
    | some data =>
        dsimp only
        rw [map_eq_pure_bind]
        exact asks_bind (Coro.wp_ofAnswer trivial) fun decoded after => trivial

theorem serverRead_requests (codec : Codec) (maxFrameBytes : Int) (reader : StreamReader) :
    ∀ count ∈ (serverRead codec maxFrameBytes).calls onStream reader, Requested maxFrameBytes count :=
  Coro.wp_calls (serverRead_asks codec maxFrameBytes reader)

theorem agentRead_requests (codec : Codec) (maxFrameBytes : Int) (reader : StreamReader) :
    ∀ count ∈ (agentRead codec maxFrameBytes).calls onStream reader, Requested maxFrameBytes count :=
  Coro.wp_calls (agentRead_asks codec maxFrameBytes reader)

/-- A stream has at most one frame at its head. -/
theorem prefix_unique {codec : Codec} {maxFrameBytes : Int} {content data other : Bytes}
    {decoded result : DecodedTunnelFrame} (dataPrefix : data <+: content) (otherPrefix : other <+: content)
    (decodes : decodeFrame codec data maxFrameBytes = .ok decoded)
    (otherDecodes : decodeFrame codec other maxFrameBytes = .ok result) : data = other := by
  obtain ⟨rest, whole⟩ := dataPrefix
  obtain ⟨otherRest, otherWhole⟩ := otherPrefix
  have start : (⟨content, []⟩ : StreamReader).content = content := by simp [StreamReader.content]
  obtain ⟨left, read, leftover⟩ := serverRead_complete decodes (start.trans whole.symm)
  obtain ⟨_, otherRead, otherLeftover⟩ := serverRead_complete otherDecodes (start.trans otherWhole.symm)
  cases read.symm.trans otherRead
  rw [← leftover.symm.trans otherLeftover, ← whole] at otherWhole
  exact (List.append_cancel_right otherWhole).symm

/-- The server's reader, the agent's reader and `decode_frame` accept the same
frames, consume the same bytes, and ask for no more than the bounds allow. -/
theorem parsers_agree (codec : Codec) (maxFrameBytes : Int) (reader : StreamReader) :
    (∀ decoded,
      ((∃ left, (serverRead codec maxFrameBytes).run onStream reader = (.ok decoded, left)) ↔
        ∃ data, data <+: reader.content ∧ decodeFrame codec data maxFrameBytes = .ok decoded) ∧
      ((∃ left, (agentRead codec maxFrameBytes).run onStream reader = (.ok (some decoded), left)) ↔
        ∃ data, data <+: reader.content ∧ decodeFrame codec data maxFrameBytes = .ok decoded)) ∧
    (∀ data decoded, data <+: reader.content → decodeFrame codec data maxFrameBytes = .ok decoded →
      (∀ other result, other <+: reader.content →
        decodeFrame codec other maxFrameBytes = .ok result → other = data) ∧
      (∀ left, (serverRead codec maxFrameBytes).run onStream reader = (.ok decoded, left) →
        reader.content = data ++ left.content) ∧
      (∀ left, (agentRead codec maxFrameBytes).run onStream reader = (.ok (some decoded), left) →
        reader.content = data ++ left.content)) ∧
    (∀ count ∈ (serverRead codec maxFrameBytes).calls onStream reader,
      (count : Int) ≤ max 16384 maxFrameBytes) ∧
    (∀ count ∈ (agentRead codec maxFrameBytes).calls onStream reader,
      (count : Int) ≤ max 16384 maxFrameBytes) := by
  refine ⟨fun decoded => ⟨⟨?_, ?_⟩, ⟨?_, ?_⟩⟩, fun data decoded dataPrefix decodes => ⟨?_, ?_, ?_⟩,
    serverRead_requests codec maxFrameBytes reader, agentRead_requests codec maxFrameBytes reader⟩
  · rintro ⟨left, read⟩
    obtain ⟨data, decodes, content⟩ := serverRead_sound read
    exact ⟨data, ⟨_, content.symm⟩, decodes⟩
  · rintro ⟨data, ⟨rest, content⟩, decodes⟩
    obtain ⟨left, read, -⟩ := serverRead_complete decodes content.symm
    exact ⟨left, read⟩
  · rintro ⟨left, read⟩
    obtain ⟨data, decodes, content⟩ := agentRead_sound read
    exact ⟨data, ⟨_, content.symm⟩, decodes⟩
  · rintro ⟨data, ⟨rest, content⟩, decodes⟩
    obtain ⟨left, read, -⟩ := agentRead_complete decodes content.symm
    exact ⟨left, read⟩
  · intro other result otherPrefix otherDecodes
    exact prefix_unique otherPrefix dataPrefix otherDecodes decodes
  · intro left read
    obtain ⟨other, otherDecodes, content⟩ := serverRead_sound read
    rw [← prefix_unique ⟨_, content.symm⟩ dataPrefix otherDecodes decodes]
    exact content
  · intro left read
    obtain ⟨other, otherDecodes, content⟩ := agentRead_sound read
    rw [← prefix_unique ⟨_, content.symm⟩ dataPrefix otherDecodes decodes]
    exact content

/-! Whole streams. -/
abbrev Turn := StreamReader → Except Exc (Option DecodedTunnelFrame) × StreamReader

def serverTurn (codec : Codec) (maxFrameBytes : Int) : Turn :=
  (some <$> serverRead codec maxFrameBytes).run onStream

def agentTurn (codec : Codec) (maxFrameBytes : Int) : Turn :=
  (agentRead codec maxFrameBytes).run onStream

/-- Reading frame after frame, up to `turns` of them, and how the reading ended. -/
def readAll (turn : Turn) : Nat → StreamReader → List DecodedTunnelFrame × Option (Except Exc Unit)
  | 0, _ => ([], none)
  | turns + 1, reader => match turn reader with
    | (.ok (some decoded), left) =>
        (decoded :: (readAll turn turns left).1, (readAll turn turns left).2)
    | (.ok none, _) => ([], some (.ok ()))
    | (.error fault, _) => ([], some (.error fault))

/-- A reader that gives back the frame at the head of a stream gives back the
frames of a whole stream, and then ends as it ends on an empty one. -/
theorem readAll_frames {codec : Codec} {maxFrameBytes : Int} {turn : Turn} {ending : Except Exc Unit}
    (frameTurn : ∀ reader data rest decoded, decodeFrame codec data maxFrameBytes = .ok decoded →
      reader.content = data ++ rest →
      ∃ left, turn reader = (.ok (some decoded), left) ∧ left.content = rest)
    (emptyTurn : ∀ reader, reader.content = [] →
      ∃ left, turn reader = (ending.map fun _ => none, left))
    (frames : List OutgoingFrame) (encodings : List Bytes)
    (scalar : ∀ frame ∈ frames, frame.ScalarIds)
    (encoded : List.Forall₂ (fun frame bytes => frame.encode codec maxFrameBytes = .ok bytes)
      frames encodings)
    (reader : StreamReader) (delivered : reader.content = encodings.flatten)
    (turns : Nat) (enough : frames.length < turns) :
    readAll turn turns reader = (frames.map OutgoingFrame.decoded, some ending) := by
  induction encoded generalizing reader turns with
  | nil =>
      obtain ⟨turns, rfl⟩ : ∃ more, turns = more + 1 := ⟨turns - 1, by simp at enough; omega⟩
      obtain ⟨left, ended⟩ := emptyTurn reader delivered
      rw [readAll, ended]
      cases ending <;> rfl
  | @cons frame bytes frames encodings accepted _ ih =>
      obtain ⟨turns, rfl⟩ : ∃ more, turns = more + 1 := ⟨turns - 1, by simp at enough; omega⟩
      have decodes := decodeFrame_encode (scalar frame List.mem_cons_self) accepted
      obtain ⟨left, read, rest⟩ := frameTurn reader bytes _ _ decodes delivered
      have tail := ih (fun frame member => scalar frame (List.mem_cons_of_mem _ member)) left rest
        turns (by simpa using enough)
      rw [readAll, read]
      simp only [tail, List.map_cons]

/-- Frames survive the stream: however the transport cuts their encodings, both
readers give back the frames that were encoded, in order, and a clean end. -/
theorem stream_round_trip (codec : Codec) (maxFrameBytes : Int) (frames : List OutgoingFrame)
    (encodings : List Bytes) (scalar : ∀ frame ∈ frames, frame.ScalarIds)
    (encoded : List.Forall₂ (fun frame bytes => frame.encode codec maxFrameBytes = .ok bytes)
      frames encodings)
    (reader : StreamReader) (delivered : reader.content = encodings.flatten)
    (turns : Nat) (enough : frames.length < turns) :
    readAll (serverTurn codec maxFrameBytes) turns reader =
        (frames.map OutgoingFrame.decoded, some (.error (.incompleteReadError []))) ∧
      readAll (agentTurn codec maxFrameBytes) turns reader =
        (frames.map OutgoingFrame.decoded, some (.ok ())) := by
  constructor
  · refine readAll_frames ?_ ?_ frames encodings scalar encoded reader delivered turns enough
    · intro reader data rest decoded decodes content
      obtain ⟨left, read, same⟩ := serverRead_complete decodes content
      exact ⟨left, by rw [serverTurn, Coro.run_map, read]; rfl, same⟩
    · intro reader empty
      have short : (Coro.await 4 : Reading Bytes).run onStream reader = _ :=
        await_short (by rw [empty]; decide)
      refine ⟨⟨[], []⟩, ?_⟩
      rw [serverTurn, Coro.run_map, serverRead, Server.readOneFrame, Coro.run_bind, short, empty]
      rfl
  · refine readAll_frames ?_ ?_ frames encodings scalar encoded reader delivered turns enough
    · intro reader data rest decoded decodes content
      exact agentRead_complete decodes content
    · intro reader empty
      have short := readexactly_short reader 4 (by rw [empty]; decide)
      refine ⟨⟨[], []⟩, ?_⟩
      rw [agentTurn, agentRead, Agent.readAndDecode, Agent.readOneFrame, Coro.run_bind, Coro.run_bind,
        agentOpening_run, short, empty]
      rfl

/-- A frame whose payload looks like the start of another one. -/
def keystroke : OutgoingFrame :=
  ⟨.SESSION_DATA, lit "c:data", some (lit "c"), [0, 0, 0, 1, 0x7B]⟩

def keystrokeBytes : Bytes :=
  packLength 81 ++ (lit ("\x7b\"channel_id\":\"c\",\"payload_length\":5,\"request_id\":\"c:data\"," ++
    "\"type\":\"session_data\"\x7d")).map (fun code => UInt8.ofNat code.val) ++ [0, 0, 0, 1, 0x7B]

theorem keystroke_encoded : keystroke.encode pythonJson 8 = .ok keystrokeBytes := by decide +kernel

theorem stream_round_trip_two_chunks :
    readAll (serverTurn pythonJson 8) 2 ⟨keystrokeBytes.take 3, [keystrokeBytes.drop 3]⟩ =
        ([keystroke.decoded], some (.error (.incompleteReadError []))) ∧
      readAll (agentTurn pythonJson 8) 2 ⟨keystrokeBytes.take 3, [keystrokeBytes.drop 3]⟩ =
        ([keystroke.decoded], some (.ok ())) := by
  refine stream_round_trip pythonJson 8 [keystroke] [keystrokeBytes] ?_ (.cons keystroke_encoded .nil)
    _ ?_ 2 (by decide)
  · intro frame member
    rw [List.mem_singleton.mp member]
    exact ⟨(lit_ascii (by decide)).scalarText, (lit_ascii (by decide)).scalarText⟩
  · simp [StreamReader.content]

end VibeConnect.FrameReaders
