import VibeConnect.BrokerInvariant
import VibeConnect.TunnelAdmission
import VibeConnect.TunnelFaults

/-! How a stream that is turned away ends. One `handle_stream` reads any bytes, with a
store, a reader and a writer that work, while the other tasks do what they like
with the broker. It returns, and its last frame is an ERROR unless the stream broke
off, exactly when what it read was readable. -/
namespace VibeConnect.TunnelRejection
open Python.Text Python.JsonCodec Python.Values Python.Coroutine Python.Tasks Models TunnelProtocol
open TunnelState TunnelAuthenticator TunnelBroker TunnelAdmission TunnelFaults

/-! What a history shows. -/
def readOf : TunnelEntry → Option Bytes
  | ⟨.await (.readexactly _), .ok bytes, _, _⟩ => some bytes
  | _ => none

/-- What the reader gave, read by read. -/
def reads (history : List TunnelEntry) : List Bytes := history.filterMap readOf

def rowOf : TunnelEntry → Option (TunnelWorld × AgentTunnelRecord)
  | ⟨.await (.getAgent _), .ok (some record), asked, _⟩ => some (asked, record)
  | _ => none

/-- The rows that the store gave, with the worlds they were asked for in. -/
def rows (history : List TunnelEntry) : List (TunnelWorld × AgentTunnelRecord) :=
  history.filterMap rowOf

def brokeOff : TunnelEntry → Bool
  | ⟨.await (.readexactly _), .error _, _, _⟩ => true
  | _ => false

/-- The stream ended inside a read, or the read took too long. -/
def Interrupted (history : List TunnelEntry) : Prop := ∃ entry ∈ history, brokeOff entry = true

def writtenBy (connectionId : ConnectionId) : TunnelEntry → List OutgoingFrame
  | ⟨.atomic _, _, before, after⟩ =>
      (sentOn connectionId after).drop (sentOn connectionId before).length
  | _ => []

/-- The frames that the handler itself wrote. -/
def written (connectionId : ConnectionId) (history : List TunnelEntry) : List OutgoingFrame :=
  history.flatMap (writtenBy connectionId)

/-- A frame is read in three pieces, the second of which is its header. -/
def headers : List Bytes → List Bytes
  | _ :: header :: _ :: rest => header :: headers rest
  | [_, header] => [header]
  | _ => []

section Stream
variable (stream : AgentStream)

/-- The payload of the first frame, when that is an AUTH frame. -/
def loginPayload : List Bytes → Option Bytes
  | headerPrefix :: header :: payload :: _ =>
      match decodeFrame stream.library.json (headerPrefix ++ header ++ payload)
          stream.config.maxFrameBytes with
      | .ok first => if first.frame.type = .AUTH then some first.payload else none
      | .error _ => none
  | _ => none

/-- The request of an AUTH payload can be compared with the row of its agent: a
secret that gets as far as being hashed has no lone surrogate in it. -/
def Comparable (payload : Bytes) (given : List (TunnelWorld × AgentTunnelRecord)) : Prop :=
  ∀ request asked record, decodeAuthPayload stream.library payload = .ok request →
    (asked, record) ∈ given → Presents request record (stream.now.getD asked.clock) →
    encode request.tunnelSecret ≠ none

/-- What was read stays within what the parsers under the handler take. -/
structure Readable (received : List Bytes) (given : List (TunnelWorld × AgentTunnelRecord)) : Prop where
  headers : ∀ header ∈ headers received, Loadable stream.library.json header
  login : ∀ payload, loginPayload stream received = some payload →
    Loadable stream.library.json payload ∧ Printable stream.library payload ∧
      Comparable stream payload given

/-- What the handler relies on: its own open channels have their adapters, and the
store has the row of an agent under its id, with the hex digest of its secret. -/
structure Working (world : TunnelWorld) : Prop where
  attached : Attached stream.connectionId world.broker
  named : ∀ agentId record, world.agents agentId = some record → record.agentId = agentId
  digests : ∀ agentId record, world.agents agentId = some record → Ascii record.tunnelSecretHash

/-- What the other tasks do while the handler waits for a call, and which reads
take too long. -/
structure Surroundings where
  others : TunnelCall → Recorded → TunnelWorld
  late : Recorded → Bool
  working : ∀ call state, Working stream state.1 → Working stream (others call state)
  present : ∀ call state, (state.1.broker.objects stream.connectionId).isSome = true →
    ((others call state).broker.objects stream.connectionId).isSome = true

variable {stream} in
/-- The answers of a working reader, store and writer. -/
def Surroundings.answer (around : Surroundings stream) (content : Bytes) (call : TunnelCall)
    (state : Recorded) : Except Exc (TunnelResult call) :=
  match call with
  | .readexactly count =>
      let left := content.drop (received state.2).length
      if around.late state then .error .timeoutError
      else if left.length < count then .error (.incompleteReadError left)
      else .ok (left.take count)
  | .getAgent agentId => .ok ((around.others (.getAgent agentId) state).agents agentId)
  | .updateLastSeen _ _ | .drain | .waitClosed => .ok ()
  | _ => .error .cancelledError

variable {stream} in
def Surroundings.serve (around : Surroundings stream) (content : Bytes) :
    Coro.Server (TaskOp TunnelWorld TunnelCall Exc) (TaskAns TunnelWorld TunnelResult) Exc Recorded
  | .look, (world, history) => (.ok world, world, history ++ [⟨.look, .ok world, world, world⟩])
  | .atomic block, (world, history) =>
      let ended := block world
      (ended.1, ended.2, history ++ [⟨.atomic block, ended.1, world, ended.2⟩])
  | .await call, state =>
      let resumed := around.others call state
      (around.answer content call state, resumed,
        state.2 ++ [⟨.await call, around.answer content call state, state.1, resumed⟩])

/-- How a run of `handle_stream` ends: it returns, and a stream that did not break
off has been answered with one ERROR frame, the last that the handler wrote. -/
def ClosedCleanly (outcome : Except Exc Unit) (history : List TunnelEntry) : Prop :=
  outcome = .ok () ∧ (¬Interrupted history → ∃ frames error,
    written stream.connectionId history = frames ++ [error] ∧ error.type = .ERROR ∧
      ∀ frame ∈ frames, frame.type ≠ .ERROR)
end Stream

section Entries
variable {stream : AgentStream} {around : Surroundings stream} {content : Bytes}

theorem reads_append (history more : List TunnelEntry) :
    reads (history ++ more) = reads history ++ reads more := List.filterMap_append

theorem rows_append (history more : List TunnelEntry) :
    rows (history ++ more) = rows history ++ rows more := List.filterMap_append

theorem written_append (connectionId : ConnectionId) (history more : List TunnelEntry) :
    written connectionId (history ++ more) = written connectionId history ++ written connectionId more :=
  List.flatMap_append

theorem received_reads (history : List TunnelEntry) : received history = (reads history).flatten := by
  induction history with
  | nil => rfl
  | cons entry rest ih =>
      have tail : received (entry :: rest) = readBytes entry ++ received rest := rfl
      rw [tail, ih]
      rcases entry with ⟨_ | _ | call, answer, before, after⟩
      · rfl
      · rfl
      · cases call with
        | readexactly count => cases answer <;> rfl
        | _ => rfl

theorem Interrupted.later {history : List TunnelEntry} (interrupted : Interrupted history)
    (more : List TunnelEntry) : Interrupted (history ++ more) := by
  obtain ⟨entry, member, broke⟩ := interrupted
  exact ⟨entry, List.mem_append_left _ member, broke⟩

/-- Frame by frame, the headers are read one after another. -/
theorem headers_append {pieces : List Bytes} (more : List Bytes) (aligned : pieces.length % 3 = 0) :
    headers (pieces ++ more) = headers pieces ++ headers more := by
  induction pieces using headers.induct with
  | case1 headerPrefix header payload rest ih =>
      have tail := ih (by simp only [List.length_cons] at aligned; omega)
      simp only [List.cons_append, headers, tail]
  | case2 headerPrefix header => simp at aligned
  | case3 pieces whole partial' =>
      cases pieces with
      | nil => rfl
      | cons first rest =>
      cases rest with
      | nil => simp at aligned
      | cons second rest =>
      cases rest with
      | nil => exact absurd rfl (partial' first second)
      | cons third rest => exact absurd rfl (whole first second third rest)

/-- Where a run stands: what it has read, been given and written, and whether its
connection has been made. -/
structure At (stream : AgentStream) (content : Bytes) (held : Bool) (pieces : List Bytes)
    (given : List (TunnelWorld × AgentTunnelRecord)) (sent : List OutgoingFrame) (state : Recorded) :
    Prop where
  reads : reads state.2 = pieces
  rows : rows state.2 = given
  written : written stream.connectionId state.2 = sent
  working : Working stream state.1
  present : held = true → (state.1.broker.objects stream.connectionId).isSome = true
  position : pieces.flatten <+: content

abbrev Runs (around : Surroundings stream) (content : Bytes) {α : Type} (program : TunnelTask α)
    (post : Except Exc α → Recorded → Prop) (state : Recorded) : Prop :=
  program.wp (fun op answer before after => around.serve content op before = (answer, after))
    (fun _ _ => True) post state

variable {held : Bool} {pieces : List Bytes} {given : List (TunnelWorld × AgentTunnelRecord)}
  {sent : List OutgoingFrame} {state : Recorded}

theorem look_runs {post : Except Exc TunnelWorld → Recorded → Prop}
    (here : At stream content held pieces given sent state)
    (next : ∀ after, At stream content held pieces given sent (state.1, after) →
      post (.ok state.1) (state.1, after)) : Runs around content look post state := by
  apply wp_look trivial
  intro answer after served
  cases served
  apply next
  refine ⟨?_, ?_, ?_, here.working, here.present, here.position⟩
  · rw [reads_append, here.reads]
    exact List.append_nil _
  · rw [rows_append, here.rows]
    exact List.append_nil _
  · rw [written_append, here.written]
    exact List.append_nil _

/-- A change of the handler's own. What it appends to its wire it has written. -/
theorem attempt_runs {change : TunnelWorld → Except Exc TunnelWorld}
    {post : Except Exc Unit → Recorded → Prop} (more : List OutgoingFrame) (then' : Bool)
    (here : At stream content held pieces given sent state)
    (changed : ∀ after, change state.1 = .ok after →
      Working stream after ∧
      (then' = true → (after.broker.objects stream.connectionId).isSome = true) ∧
      sentOn stream.connectionId after = sentOn stream.connectionId state.1 ++ more)
    (done : ∀ after history, change state.1 = .ok after →
      At stream content then' pieces given (sent ++ more) (after, history) → post (.ok ()) (after, history))
    (failed : ∀ raised history, change state.1 = .error raised →
      At stream content held pieces given sent (state.1, history) →
      post (.error raised) (state.1, history)) : Runs around content (attempt change) post state := by
  apply wp_atomic trivial
  intro answer after served
  cases served
  have read : ∀ entry : TunnelEntry, readOf entry = none → rowOf entry = none →
      reads (state.2 ++ [entry]) = pieces ∧ rows (state.2 ++ [entry]) = given := by
    intro entry unread unasked
    rw [reads_append, rows_append, here.reads, here.rows, reads, rows, List.filterMap_cons_none unread,
      List.filterMap_cons_none unasked]
    exact ⟨List.append_nil _, List.append_nil _⟩
  cases tried : change state.1 with
  | ok world =>
      obtain ⟨working, present, wire⟩ := changed world tried
      dsimp only
      rw [tried]
      apply done world _ tried
      obtain ⟨readsSame, rowsSame⟩ := read ⟨.atomic _, .ok (), state.1, world⟩ rfl rfl
      refine ⟨readsSame, rowsSame, ?_, working, present, here.position⟩
      rw [written_append, here.written]
      change sent ++ ((sentOn stream.connectionId world).drop
        (sentOn stream.connectionId state.1).length ++ []) = _
      rw [wire, List.drop_left, List.append_nil]
  | error raised =>
      dsimp only
      rw [tried]
      apply failed raised _ tried
      obtain ⟨readsSame, rowsSame⟩ := read ⟨.atomic _, .error raised, state.1, state.1⟩ rfl rfl
      refine ⟨readsSame, rowsSame, ?_, here.working, here.present, here.position⟩
      rw [written_append, here.written]
      change sent ++ ((sentOn stream.connectionId state.1).drop
        (sentOn stream.connectionId state.1).length ++ []) = _
      rw [List.drop_length, List.append_nil, List.append_nil]
/-- A call that neither reads the stream nor asks for a row. -/
theorem wait_runs {call : TunnelCall} {post : Except Exc (TunnelResult call) → Recorded → Prop}
    (here : At stream content held pieces given sent state)
    (unread : readOf ⟨.await call, around.answer content call state, state.1,
      around.others call state⟩ = none)
    (unasked : rowOf ⟨.await call, around.answer content call state, state.1,
      around.others call state⟩ = none)
    (next : ∀ after, At stream content held pieces given sent after →
      post (around.answer content call state) after) : Runs around content (wait call) post state := by
  apply wp_call trivial
  intro answer after served
  cases served
  apply next
  refine ⟨?_, ?_, ?_, around.working _ _ here.working,
    fun made => around.present _ _ (here.present made), here.position⟩
  · rw [reads_append, here.reads, reads, List.filterMap_cons_none unread]
    exact List.append_nil _
  · rw [rows_append, here.rows, rows, List.filterMap_cons_none unasked]
    exact List.append_nil _
  · rw [written_append, here.written]
    exact List.append_nil _

/-- What the first `except` clause of the handler takes. -/
def IsEnd : Exc → Prop
  | .eofError | .incompleteReadError _ | .timeoutError => True
  | _ => False

/-- A read gives the next bytes of the stream, or breaks off. -/
theorem read_runs {count : Nat} (here : At stream content held pieces given sent state) :
    Runs around content (wait (.readexactly count)) (Coro.either
      (fun bytes after => At stream content held (pieces ++ [bytes]) given sent after ∧
        bytes.length = count)
      (fun raised after => At stream content held pieces given sent after ∧ IsEnd raised ∧
        Interrupted after.2)) state := by
  apply wp_call trivial
  intro answer after served
  cases served
  have working := around.working (.readexactly count) state here.working
  have present : held = true →
      ((around.others (.readexactly count) state).broker.objects stream.connectionId).isSome = true :=
    fun made => around.present _ _ (here.present made)
  -- a read that breaks off leaves the stream where it was
  have ended : ∀ raised, around.answer content (.readexactly count) state = .error raised →
      IsEnd raised → At stream content held pieces given sent
        (around.others (.readexactly count) state, state.2 ++ [⟨.await (.readexactly count),
          .error raised, state.1, around.others (.readexactly count) state⟩]) ∧ IsEnd raised ∧
        Interrupted (state.2 ++ [⟨.await (.readexactly count), .error raised, state.1,
          around.others (.readexactly count) state⟩]) := by
    intro raised _ isEnd
    refine ⟨⟨?_, ?_, ?_, working, present, here.position⟩, isEnd, _,
      List.mem_append_right _ (List.mem_singleton_self _), rfl⟩
    · rw [reads_append, here.reads]
      exact List.append_nil _
    · rw [rows_append, here.rows]
      exact List.append_nil _
    · rw [written_append, here.written]
      exact List.append_nil _
  by_cases late : around.late state = true
  · have answered : around.answer content (.readexactly count) state = .error .timeoutError :=
      if_pos late
    rw [answered]
    exact ended _ answered trivial
  by_cases short : (content.drop (received state.2).length).length < count
  · have answered : around.answer content (.readexactly count) state =
        .error (.incompleteReadError (content.drop (received state.2).length)) :=
      (if_neg late).trans (if_pos short)
    rw [answered]
    exact ended _ answered trivial
  have answered : around.answer content (.readexactly count) state =
      .ok ((content.drop (received state.2).length).take count) :=
    (if_neg late).trans (if_neg short)
  rw [answered]
  refine ⟨⟨?_, ?_, ?_, working, present, ?_⟩, ?_⟩
  · rw [reads_append, here.reads]
    rfl
  · rw [rows_append, here.rows]
    exact List.append_nil _
  · rw [written_append, here.written]
    exact List.append_nil _
  · obtain ⟨rest, split⟩ := here.position
    have left : content.drop (received state.2).length = rest := by
      rw [received_reads, here.reads, ← split, List.drop_left]
    rw [left, List.flatten_append, List.flatten_singleton]
    refine ⟨rest.drop count, ?_⟩
    rw [List.append_assoc, List.take_append_drop, split]
  · rw [List.length_take]
    omega

/-- How the reader ends that gives no frame, after the pieces it read. -/
structure Unread (stream : AgentStream) (more : List Bytes) (raised : Exc) (after : Recorded) : Prop where
  few : more.length ≤ 3
  undecoded : ∀ headerPrefix header payload, more = [headerPrefix, header, payload] →
    ∃ fault, decodeFrame stream.library.json (headerPrefix ++ header ++ payload)
      stream.config.maxFrameBytes = .error fault
  cause : ((IsEnd raised ∧ Interrupted after.2 ∨ IsRejection raised) ∧
      ∀ header ∈ headers more, Loadable stream.library.json header) ∨
    (IsJsonFault raised ∧ ∃ header ∈ headers more, ¬Loadable stream.library.json header)

/-- One turn of the reader: a frame in three pieces, or none and why. -/
theorem readStream_runs (here : At stream content held pieces given sent state) :
    Runs around content (readStream stream.library stream.config) (Coro.either
      (fun decoded after => ∃ headerPrefix header payload,
        At stream content held (pieces ++ [headerPrefix, header, payload]) given sent after ∧
        decodeFrame stream.library.json (headerPrefix ++ header ++ payload)
          stream.config.maxFrameBytes = .ok decoded ∧
        headerPrefix.length = 4 ∧ Loadable stream.library.json header)
      (fun raised after => ∃ more, At stream content held (pieces ++ more) given sent after ∧
        Unread stream more raised after)) state := by
  have stopped : ∀ {more : List Bytes} {raised : Exc} {after : Recorded},
      At stream content held (pieces ++ more) given sent after → more.length < 3 →
      (IsEnd raised ∧ Interrupted after.2 ∨ IsRejection raised) →
      (∀ header ∈ headers more, Loadable stream.library.json header) →
      ∃ more, At stream content held (pieces ++ more) given sent after ∧
        Unread stream more raised after := by
    intro more raised after there few why loadable
    refine ⟨more, there, by omega, ?_, .inl ⟨why, loadable⟩⟩
    rintro headerPrefix header payload rfl
    exact absurd few (by simp)
  unfold readStream FrameReaders.Server.readOneFrame
  apply Coro.wp_bind (Coro.wp_mono _ (read_runs here))
  rintro (raised | headerPrefix) first reached
  · obtain ⟨there, isEnd, interrupted⟩ := reached
    rw [← List.append_nil pieces] at there
    exact stopped there (by simp) (.inl ⟨isEnd, interrupted⟩) nofun
  obtain ⟨there, four⟩ := reached
  dsimp only
  split
  · exact stopped there (by simp) (.inr trivial) nofun
  rename_i lengthOk
  apply Coro.wp_bind (Coro.wp_mono _ (read_runs there))
  rintro (raised | header) second reached
  · obtain ⟨there, isEnd, interrupted⟩ := reached
    exact stopped there (by simp) (.inl ⟨isEnd, interrupted⟩) nofun
  obtain ⟨there, announced⟩ := reached
  rw [List.append_assoc] at there
  apply Coro.wp_bind (Coro.wp_ofAnswer _)
  cases loaded : loadFrameHeader stream.library.json header with
  | error raised =>
      rcases loadObject_raises loaded with ⟨loadable, rfl | rfl⟩ | ⟨unloadable, fault⟩
      · exact stopped there (by simp) (.inr trivial) (List.forall_mem_singleton.mpr loadable)
      · exact stopped there (by simp) (.inr trivial) (List.forall_mem_singleton.mpr loadable)
      · refine ⟨_, there, by simp, ?_, .inr ⟨fault, header, List.mem_singleton_self _, unloadable⟩⟩
        rintro one two three impossible
        cases impossible
  | ok values =>
  have loadable := loadObject_loadable loaded
  apply Coro.wp_bind (Coro.wp_ofAnswer _)
  cases sized : integerField (.tunnelProtocolError "payload_length must be an integer")
      (lookup (lit "payload_length") values) with
  | error raised =>
      rw [integerField_raises sized]
      exact stopped there (by simp) (.inr trivial) (List.forall_mem_singleton.mpr loadable)
  | ok payloadLength =>
  dsimp only
  split
  · exact stopped there (by simp) (.inr trivial) (List.forall_mem_singleton.mpr loadable)
  apply Coro.wp_bind (Coro.wp_mono _ (read_runs there))
  rintro (raised | payload) third reached
  · obtain ⟨there, isEnd, interrupted⟩ := reached
    exact stopped there (by simp) (.inl ⟨isEnd, interrupted⟩)
      (List.forall_mem_singleton.mpr loadable)
  obtain ⟨there, -⟩ := reached
  rw [List.append_assoc] at there
  apply Coro.wp_ofAnswer
  cases decodes : decodeFrame stream.library.json (headerPrefix ++ header ++ payload)
      stream.config.maxFrameBytes with
  | ok decoded => exact ⟨headerPrefix, header, payload, there, decodes, four, loadable⟩
  | error raised =>
      refine ⟨_, there, by simp, ?_, ?_⟩
      · rintro one two three same
        cases same
        exact ⟨raised, decodes⟩
      rcases decodeFrame_raises decodes with protocol | ⟨unloadable, -⟩
      · exact .inl ⟨.inr protocol.rejection, List.forall_mem_singleton.mpr loadable⟩
      · rw [headerBytes_append four announced] at unloadable
        exact absurd loadable unloadable
end Entries

section Admission
variable {stream : AgentStream} {around : Surroundings stream} {content : Bytes}
variable {held : Bool} {pieces : List Bytes} {given : List (TunnelWorld × AgentTunnelRecord)}
  {sent : List OutgoingFrame} {state : Recorded}

/-- The store gives the row of the id it is asked for, if there is one. -/
theorem ask_runs {agentId : Uuid} (here : At stream content held pieces given sent state) :
    Runs around content (wait (.getAgent agentId)) (fun answer after => ∃ row, answer = .ok row ∧
      At stream content held pieces (given ++ row.toList.map fun record => (state.1, record)) sent after ∧
      ∀ record, row = some record → Ascii record.tunnelSecretHash) state := by
  apply wp_call trivial
  intro answer after served
  cases served
  have working := around.working (.getAgent agentId) state here.working
  refine ⟨_, rfl, ⟨?_, ?_, ?_, working, fun made => around.present _ _ (here.present made),
    here.position⟩, fun record found => working.digests agentId record found⟩
  · rw [reads_append, here.reads]
    exact List.append_nil _
  · rw [rows_append, here.rows]
    cases found : (around.others (.getAgent agentId) state).agents agentId with
    | none =>
        have answered : around.answer content (.getAgent agentId) state = .ok none := congrArg _ found
        rw [answered]
        rfl
    | some record =>
        have answered : around.answer content (.getAgent agentId) state = .ok (some record) :=
          congrArg _ found
        rw [answered]
        rfl
  · rw [written_append, here.written]
    exact List.append_nil _

/-- What no clause of the handler takes. -/
def IsEscape (raised : Exc) : Prop := IsJsonFault raised ∨ raised = .unicodeEncodeError

/-- How the body of the handler ends: the stream broke off or was turned away after
what it read, or what it read was not readable. -/
def Ends (stream : AgentStream) (content : Bytes) (raised : Exc) (after : Recorded) : Prop :=
  ∃ held pieces given sent, At stream content held pieces given sent after ∧
    (∀ frame ∈ sent, frame.type ≠ .ERROR) ∧
    (((IsEnd raised ∧ Interrupted after.2 ∨ IsRejection raised) ∧ Readable stream pieces given) ∨
      (IsEscape raised ∧ ¬Readable stream pieces given))

theorem Unread.loginPayload {more : List Bytes} {raised : Exc} {after : Recorded}
    (unread : Unread stream more raised after) : loginPayload stream more = none := by
  unfold TunnelRejection.loginPayload
  split
  · rename_i headerPrefix header payload rest
    have last : rest = [] := by
      have few := unread.few
      simp only [List.length_cons] at few
      exact List.length_eq_zero_iff.mp (by omega)
    subst last
    obtain ⟨fault, failed⟩ := unread.undecoded _ _ _ rfl
    rw [failed]
  · rfl

/-- The first frame may not come, and that depends on its own header only. -/
theorem Unread.first {more : List Bytes} {raised : Exc} {after : Recorded}
    (there : At stream content held more given [] after) (unread : Unread stream more raised after) :
    Ends stream content raised after := by
  refine ⟨held, more, given, [], there, nofun, ?_⟩
  rcases unread.cause with ⟨why, loadable⟩ | ⟨fault, header, member, unloadable⟩
  · refine .inl ⟨why, loadable, fun payload impossible => ?_⟩
    rw [unread.loginPayload] at impossible
    cases impossible
  · exact .inr ⟨.inl fault, fun readable => unloadable (readable.headers header member)⟩

/-- A first frame has been read, and its login is as readable as said. -/
theorem readable_first {headerPrefix header payload : Bytes} {first : DecodedTunnelFrame}
    (decodes : decodeFrame stream.library.json (headerPrefix ++ header ++ payload)
      stream.config.maxFrameBytes = .ok first)
    (loadable : Loadable stream.library.json header) :
    Readable stream [headerPrefix, header, payload] given ↔ (first.frame.type = .AUTH →
      Loadable stream.library.json first.payload ∧ Printable stream.library first.payload ∧
        Comparable stream first.payload given) := by
  have login : loginPayload stream [headerPrefix, header, payload] =
      if first.frame.type = .AUTH then some first.payload else none := by
    unfold loginPayload
    dsimp only
    rw [decodes]
  constructor
  · intro readable auth
    exact readable.login first.payload (by rw [login, if_pos auth])
  · intro sound
    refine ⟨List.forall_mem_singleton.mpr loadable, fun other same => ?_⟩
    rw [login] at same
    split at same
    · rename_i auth
      cases same
      exact sound auth
    · cases same

theorem authenticate_runs {headerPrefix header payload : Bytes} {first : DecodedTunnelFrame}
    {request : TunnelAuthRequest} (hexDigest : ∀ bytes, Ascii (stream.library.sha256Hex bytes))
    (here : At stream content false [headerPrefix, header, payload] [] [] state)
    (decodes : decodeFrame stream.library.json (headerPrefix ++ header ++ payload)
      stream.config.maxFrameBytes = .ok first) (auth : first.frame.type = .AUTH)
    (loadable : Loadable stream.library.json header)
    (decoded : decodeAuthPayload stream.library first.payload = .ok request) :
    Runs around content (authenticate stream.library request (stream.now.getD state.1.clock))
      (Coro.either (fun _ after => ∃ given,
          At stream content false [headerPrefix, header, payload] given [] after ∧
          Readable stream [headerPrefix, header, payload] given)
        (Ends stream content)) state := by
  obtain ⟨payloadLoadable, printable⟩ := decodeAuthPayload_readable decoded
  -- what is left to say is whether the secret can be compared with the row
  have readable : ∀ row : Option AgentTunnelRecord,
      Readable stream [headerPrefix, header, payload] (row.toList.map fun record => (state.1, record)) ↔
        ∀ record, row = some record → Presents request record (stream.now.getD state.1.clock) →
          encode request.tunnelSecret ≠ none := by
    intro row
    rw [readable_first decodes loadable]
    constructor
    · intro sound record found presents
      subst found
      exact (sound auth).2.2 request state.1 record decoded (List.mem_singleton_self _) presents
    · intro sound _
      refine ⟨payloadLoadable, printable, fun other asked record again member presents => ?_⟩
      cases decoded.symm.trans again
      obtain ⟨stored, inside, same⟩ := List.mem_map.mp member
      cases same
      exact sound record (Option.mem_toList.mp inside) presents
  apply Coro.wp_bind (Coro.wp_mono _ (ask_runs here))
  rintro _ after ⟨row, rfl, there, stored⟩
  rw [List.nil_append] at there
  apply Coro.wp_ofAnswer
  cases checked : checkRecord stream.library request row (stream.now.getD state.1.clock) with
  | ok record =>
      refine ⟨_, there, (readable row).mpr fun other _ _ unencodable => ?_⟩
      obtain ⟨bytes, encoded, -⟩ := (checkRecord_ok stream.library checked).2.sameSecret
      rw [unencodable] at encoded
      cases encoded
  | error raised =>
      refine ⟨false, _, _, [], there, nofun, ?_⟩
      rcases checkRecord_raises hexDigest stored checked with
        ⟨rejection, encodable⟩ | ⟨rfl, record, found, presents, unencodable⟩
      · exact .inl ⟨.inr rejection, (readable row).mpr encodable⟩
      · exact .inr ⟨.inr rfl, fun sound => (readable row).mp sound record found presents unencodable⟩

theorem admission_runs (plain : PlainText stream.library)
    (hexDigest : ∀ bytes, Ascii (stream.library.sha256Hex bytes))
    (here : At stream content false [] [] [] state) :
    Runs around content (admission stream.library (readStream stream.library stream.config) stream.peer
        stream.now) (Coro.either (fun _ after => ∃ headerPrefix header payload given,
          At stream content false [headerPrefix, header, payload] given [] after ∧
          Readable stream [headerPrefix, header, payload] given)
        (Ends stream content)) state := by
  apply Coro.wp_bind (Coro.wp_mono _ (readStream_runs here))
  rintro (raised | first) read reached
  · obtain ⟨more, there, unread⟩ := reached
    exact Unread.first there unread
  obtain ⟨headerPrefix, header, payload, there, decodes, -, loadable⟩ := reached
  rw [List.nil_append] at there
  have readable : Readable stream [headerPrefix, header, payload] [] ↔ _ :=
    readable_first decodes loadable
  have turnedAway : ∀ {raised : Exc} {after : Recorded},
      At stream content false [headerPrefix, header, payload] [] [] after → IsRejection raised →
      Readable stream [headerPrefix, header, payload] [] → Ends stream content raised after :=
    fun there rejection sound => ⟨false, _, [], [], there, nofun, .inl ⟨.inr rejection, sound⟩⟩
  dsimp only
  split
  · rename_i other
    exact turnedAway there trivial (readable.mpr fun auth => absurd auth other)
  rename_i auth
  apply Coro.wp_bind (Coro.wp_ofAnswer _)
  cases decoded : decodeAuthPayload stream.library first.payload with
  | error raised =>
      rcases decodeAuthPayload_raises plain decoded with
        ⟨protocol, payloadLoadable, printable⟩ | ⟨unreadable, fault⟩
      · exact turnedAway there protocol.rejection
          (readable.mpr fun _ => ⟨payloadLoadable, printable, nofun⟩)
      · refine ⟨false, _, [], [], there, nofun, .inr ⟨.inl fault, fun sound => unreadable ?_⟩⟩
        obtain ⟨payloadLoadable, printable, -⟩ := readable.mp sound (not_not.mp auth)
        exact ⟨payloadLoadable, printable⟩
  | ok request =>
  obtain ⟨payloadLoadable, printable⟩ := decodeAuthPayload_readable decoded
  have sound := readable.mpr fun _ => ⟨payloadLoadable, printable, nofun⟩
  apply Coro.wp_bind (Coro.wp_ofAnswer _)
  cases bound : verifyPeerCertificateBinding request stream.peer with
  | error raised => exact turnedAway there (verifyPeerCertificateBinding_raises bound) sound
  | ok _ =>
  apply Coro.wp_bind
  apply look_runs there
  intro looked still
  apply Coro.wp_bind (Coro.wp_mono _
    (authenticate_runs hexDigest still decodes (not_not.mp auth) loadable decoded))
  rintro (raised | record) after ended
  · exact ended
  · exact ⟨headerPrefix, header, payload, ended⟩
end Admission

section Serving
variable {stream : AgentStream} {around : Surroundings stream} {content : Bytes}
variable {held : Bool} {pieces : List Bytes} {given : List (TunnelWorld × AgentTunnelRecord)}
  {sent : List OutgoingFrame} {state : Recorded}

/-- A block on the broker that writes nothing. -/
theorem onBroker_runs {block : Broker → Except Exc Broker}
    {post : Except Exc Unit → Recorded → Prop} (then' : Bool)
    (here : At stream content held pieces given sent state)
    (changed : ∀ broker, block state.1.broker = .ok broker → Attached stream.connectionId broker ∧
      (then' = true → (broker.objects stream.connectionId).isSome = true) ∧
      broker.wire = state.1.broker.wire)
    (done : ∀ after, At stream content then' pieces given sent after → post (.ok ()) after)
    (failed : ∀ raised after, block state.1.broker = .error raised →
      At stream content held pieces given sent after → post (.error raised) after) :
    Runs around content (onBroker block) post state := by
  apply attempt_runs [] then' here
  · intro after applied
    obtain ⟨broker, ran, applied⟩ := bind_ok.mp applied
    cases applied
    obtain ⟨attached, present, wire⟩ := changed broker ran
    refine ⟨⟨attached, here.working.named, here.working.digests⟩, present, ?_⟩
    rw [List.append_nil]
    exact congrArg (fun wire => (List.filter _ wire).map _) wire
  · intro after history _ there
    rw [List.append_nil] at there
    exact done _ there
  · intro raised history applied there
    rcases bind_error.mp applied with wrong | ⟨broker, -, impossible⟩
    · exact failed raised _ wrong there
    · cases impossible

/-- A frame is written, or it does not fit. -/
theorem writeFrame_runs {frame : OutgoingFrame} {maxFrameBytes : Int}
    (here : At stream content held pieces given sent state) :
    Runs around content (writeFrame stream.library stream.connectionId frame maxFrameBytes)
      (Coro.either (fun _ after => At stream content held pieces given (sent ++ [frame]) after)
        (fun raised after => frame.encode stream.library.json maxFrameBytes = .error raised ∧
          At stream content held pieces given sent after)) state := by
  apply Coro.wp_bind
  apply attempt_runs [frame] held here
  · intro after applied
    obtain ⟨bytes, -, applied⟩ := bind_ok.mp applied
    cases applied
    exact ⟨⟨here.working.attached, here.working.named, here.working.digests⟩, here.present,
      sentOn_send _ _ _⟩
  · intro after history _ there
    apply wait_runs there rfl rfl
    exact fun _ last => last
  · intro raised history applied there
    rcases bind_error.mp applied with wrong | ⟨bytes, -, impossible⟩
    · exact ⟨wrong, there⟩
    · cases impossible

/-- A connection that is being served, with everything read so far readable. -/
structure Serving (stream : AgentStream) (content : Bytes) (pieces : List Bytes) (state : Recorded) :
    Prop where
  standing : ∃ given sent, At stream content true pieces given sent state ∧
    Readable stream pieces given ∧ ∀ frame ∈ sent, frame.type ≠ .ERROR
  aligned : pieces.length % 3 = 0
  begun : 3 ≤ pieces.length

theorem loginPayload_append {more : List Bytes} (begun : 3 ≤ pieces.length) :
    loginPayload stream (pieces ++ more) = loginPayload stream pieces := by
  cases pieces with
  | nil => cases begun
  | cons first rest =>
  cases rest with
  | nil => simp at begun
  | cons second rest =>
  cases rest with
  | nil => simp at begun
  | cons third rest => rfl

/-- Later frames are readable when their headers are. -/
theorem readable_append {more : List Bytes} (aligned : pieces.length % 3 = 0)
    (begun : 3 ≤ pieces.length) (readable : Readable stream pieces given) :
    Readable stream (pieces ++ more) given ↔
      ∀ header ∈ headers more, Loadable stream.library.json header := by
  constructor
  · intro sound header member
    apply sound.headers
    rw [headers_append more aligned]
    exact List.mem_append_right _ member
  · intro loadable
    refine ⟨fun header member => ?_, fun payload same => ?_⟩
    · rw [headers_append more aligned] at member
      exact (List.mem_append.mp member).elim (readable.headers header) (loadable header)
    · rw [loginPayload_append begun] at same
      exact readable.login payload same

/-- One turn of the dispatch loop takes a frame off the stream, or the last. -/
theorem dispatch_runs {agentId : Uuid} (serving : Serving stream content pieces state) :
    Runs around content (dispatchOne (readStream stream.library stream.config) stream.connectionId
        agentId) (Coro.either (fun _ after => ∃ taken, taken ≠ [] ∧ taken.flatten ≠ [] ∧
          Serving stream content (pieces ++ taken) after) (Ends stream content)) state := by
  obtain ⟨given, sent, here, readable, quiet⟩ := serving.standing
  have later : ∀ {more : List Bytes}, Readable stream (pieces ++ more) given ↔
      ∀ header ∈ headers more, Loadable stream.library.json header :=
    readable_append serving.aligned serving.begun readable
  apply Coro.wp_bind (Coro.wp_mono _ (readStream_runs here))
  rintro (raised | decoded) read reached
  · obtain ⟨more, there, unread⟩ := reached
    refine ⟨true, _, given, sent, there, quiet, ?_⟩
    rcases unread.cause with ⟨why, loadable⟩ | ⟨fault, header, member, unloadable⟩
    · exact .inl ⟨why, later.mpr loadable⟩
    · exact .inr ⟨.inl fault, fun sound => unloadable (later.mp sound header member)⟩
  obtain ⟨headerPrefix, header, payload, there, -, four, loadable⟩ := reached
  have sound : Readable stream (pieces ++ [headerPrefix, header, payload]) given :=
    later.mpr (List.forall_mem_singleton.mpr loadable)
  apply Coro.wp_bind
  apply look_runs there
  intro looked there
  apply Coro.wp_bind
  apply onBroker_runs true there
  · intro broker marked
    obtain ⟨connection, object, rfl⟩ := Broker.markSeen_ok marked
    refine ⟨fun other found => ?_, fun _ => ?_, rfl⟩
    · rcases BrokerInvariant.objects_setObject.mp found with ⟨-, rfl⟩ | ⟨apart, -⟩
      · exact there.working.attached connection object
      · exact absurd rfl apart
    · exact Option.isSome_iff_exists.mpr
        ⟨_, BrokerInvariant.objects_setObject.mpr (.inl ⟨rfl, rfl⟩)⟩
  rotate_left
  · intro raised after failed still
    obtain ⟨connection, object⟩ := Option.isSome_iff_exists.mp (there.present rfl)
    rcases bind_error.mp failed with wrong | ⟨found, -, impossible⟩
    · rw [Broker.object_ok.mpr object] at wrong
      cases wrong
    · cases impossible
  intro marked still
  apply Coro.wp_bind
  apply wait_runs still rfl rfl
  intro stored still
  obtain ⟨connection, object⟩ := Option.isSome_iff_exists.mp (still.present rfl)
  apply onBroker_runs true still
  · intro broker handled
    rcases Broker.handleAgentFrame_ok handled with rfl |
      ⟨channelId, own, fed, -, found, isOpen, member, streamed, rfl⟩ |
      ⟨channelId, own, channels, fed, -, found, closed, streamed, rfl⟩
    · exact ⟨still.working.attached, still.present, rfl⟩
    · refine ⟨fun other held channel inside => ?_, still.present, rfl⟩
      obtain ⟨adapted, stream', there⟩ := still.working.attached other held channel inside
      rw [BrokerInvariant.streams_setStream]
      split
      · exact ⟨adapted, _, rfl⟩
      · exact ⟨adapted, stream', there⟩
    · refine ⟨fun other held channel inside => ?_, fun _ => ?_, rfl⟩
      · rcases BrokerInvariant.objects_setObject.mp held with ⟨-, rfl⟩ | ⟨apart, -⟩
        · obtain ⟨-, opened, -⟩ := TunnelChannelRegistry.closeChannel_ok closed
          rw [opened, Finset.mem_erase] at inside
          obtain ⟨adapted, stream', there⟩ := still.working.attached own found channel inside.2
          refine ⟨Finset.mem_erase.mpr ⟨inside.1, adapted⟩, stream', ?_⟩
          have unmoved : (stored.1.broker.setStream stream.connectionId channelId fed.feedEof).streams
              stream.connectionId channel = stored.1.broker.streams stream.connectionId channel :=
            BrokerInvariant.streams_setStream.trans (if_neg fun same => inside.1 same.2)
          exact unmoved.trans there
        · exact absurd rfl apart
      · exact Option.isSome_iff_exists.mpr
          ⟨_, BrokerInvariant.objects_setObject.mpr (.inl ⟨rfl, rfl⟩)⟩
  · intro after last
    refine ⟨[headerPrefix, header, payload], nofun, fun empty => ?_, ⟨given, sent, last, sound, quiet⟩,
      ?_, ?_⟩
    · have long := congrArg List.length empty
      simp [four] at long
    · have aligned := serving.aligned
      simp only [List.length_append, List.length_cons, List.length_nil]
      omega
    · have begun := serving.begun
      simp only [List.length_append]
      omega
  · intro raised after failed last
    exact ⟨true, _, given, sent, last, quiet, .inl ⟨.inr
      (handleAgentFrame_raises still.working.attached object failed), sound⟩⟩

/-- The loop ends with the stream: every turn takes at least a byte of it. -/
theorem forever_runs {agentId : Uuid} {turns : Nat} (serving : Serving stream content pieces state)
    (enough : content.length < pieces.flatten.length + turns) :
    Runs around content (forever (wait .never)
        (dispatchOne (readStream stream.library stream.config) stream.connectionId agentId) turns)
      (fun outcome after => ∃ raised, outcome = .error raised ∧ Ends stream content raised after)
      state := by
  induction turns generalizing pieces state with
  | zero =>
      obtain ⟨given, sent, here, -, -⟩ := serving.standing
      have short := here.position.length_le
      omega
  | succ turns ih =>
      apply Coro.wp_bind (Coro.wp_mono _ (dispatch_runs serving))
      rintro (raised | _) after reached
      · exact ⟨raised, rfl, reached⟩
      · obtain ⟨taken, -, bytes, next⟩ := reached
        apply ih next
        have more := List.length_pos_iff.mpr bytes
        rw [List.flatten_append, List.length_append]
        omega
end Serving

section Handling
variable {stream : AgentStream} {around : Surroundings stream} {content : Bytes}
variable {held : Bool} {pieces : List Bytes} {given : List (TunnelWorld × AgentTunnelRecord)}
  {sent : List OutgoingFrame} {state : Recorded}

theorem serve_runs {first : DecodedTunnelFrame} {record : AgentTunnelRecord} {turns : Nat}
    (here : At stream content false pieces given [] state) (readable : Readable stream pieces given)
    (aligned : pieces.length % 3 = 0) (begun : 3 ≤ pieces.length) (enough : content.length < turns) :
    Runs around content (serve stream.library stream.config
        (readStream stream.library stream.config) stream.connectionId first record turns)
      (fun outcome after => ∃ raised, outcome = .error raised ∧ Ends stream content raised after)
      state := by
  have turnedAway : ∀ {held : Bool} {raised : Exc} {after : Recorded},
      At stream content held pieces given [] after → IsRejection raised → ∃ other,
        (Except.error raised : Except Exc Unit) = .error other ∧ Ends stream content other after :=
    fun there rejection => ⟨_, rfl, _, _, _, [], there, nofun, .inl ⟨.inr rejection, readable⟩⟩
  apply Coro.wp_bind
  apply look_runs here
  intro looked there
  apply Coro.wp_bind
  apply onBroker_runs true there
  · intro broker created
    obtain ⟨connection, rfl, -, opened, -, -, -⟩ := Broker.newConnection_ok created
    refine ⟨fun other found channel inside => ?_, fun _ => ?_, rfl⟩
    · rcases BrokerInvariant.objects_setObject.mp found with ⟨-, rfl⟩ | ⟨apart, -⟩
      · rw [opened] at inside
        cases inside
      · exact absurd rfl apart
    · exact Option.isSome_iff_exists.mpr
        ⟨_, BrokerInvariant.objects_setObject.mpr (.inl ⟨rfl, rfl⟩)⟩
  rotate_left
  · exact fun raised after failed still => turnedAway still (newConnection_raises failed)
  intro created still
  apply Coro.wp_bind
  apply wait_runs still rfl rfl
  intro stored still
  apply Coro.wp_bind
  apply onBroker_runs true still
  · intro broker registered
    obtain ⟨-, rfl⟩ := Broker.register_ok registered
    exact ⟨still.working.attached, still.present, rfl⟩
  rotate_left
  · exact fun raised after failed last => turnedAway last (register_raises failed)
  intro registered still
  apply Coro.wp_bind (Coro.wp_mono _ (writeFrame_runs still))
  rintro (raised | _) after reached
  · exact turnedAway reached.2 (encodeFrame_raises reached.1).rejection
  · apply forever_runs ⟨⟨given, _, reached, readable, ?_⟩, aligned, begun⟩
    · omega
    · intro frame member
      rw [List.mem_singleton.mp member]
      nofun

/-- A run only ever adds to its history. -/
theorem runs_grow {α : Type} {program : TunnelTask α} {post : Except Exc α → Recorded → Prop}
    (runs : Runs around content program post state) :
    Runs around content program (fun outcome after => post outcome after ∧ state.2 <+: after.2)
      state := by
  induction program generalizing state with
  | done value => exact ⟨runs, List.prefix_refl _⟩
  | raise fault => exact ⟨runs, List.prefix_refl _⟩
  | call op resume ih =>
      refine ⟨trivial, fun answer after served => ?_⟩
      have grown : state.2 <+: after.2 := by
        obtain ⟨world, history⟩ := state
        cases op <;> cases served <;> exact List.prefix_append _ _
      apply Coro.wp_mono _ (ih answer (runs.2 answer after served))
      exact fun outcome last reached => ⟨reached.1, grown.trans reached.2⟩

theorem dropConnection_keeps {broker : Broker} {connectionId : ConnectionId} (agentId : Uuid)
    (attached : Attached connectionId broker) :
    Attached connectionId (broker.dropConnection agentId connectionId) ∧
      (broker.dropConnection agentId connectionId).objects = broker.objects ∧
      (broker.dropConnection agentId connectionId).wire = broker.wire := by
  by_cases owns : broker.connections agentId = some connectionId
  · cases object : broker.objects connectionId with
    | none =>
        have objects : (broker.dropConnection agentId connectionId).objects = broker.objects := by
          unfold Broker.dropConnection
          rw [owns]
          dsimp only
          rw [if_neg (not_not.mpr rfl), Broker.registryDisconnect_eq]
        refine ⟨fun connection found => ?_, objects, ?_⟩
        · rw [objects, object] at found
          cases found
        · unfold Broker.dropConnection
          rw [owns]
          dsimp only
          rw [if_neg (not_not.mpr rfl), Broker.registryDisconnect_eq]
    | some connection =>
        rw [Broker.dropConnection_own owns object, Broker.registryDisconnect_eq]
        refine ⟨fun other found channelId inside => ?_, rfl, rfl⟩
        obtain ⟨adapted, stream, held⟩ := attached other found channelId inside
        refine ⟨adapted, ?_⟩
        -- the streams of the connection are fed EOF, and none goes away
        have dropped : (broker.dropped agentId connectionId connection).streams connectionId channelId =
            if channelId ∈ connection.adapters then
              (broker.streams connectionId channelId).map BrokerTunnelStream.feedEof
            else broker.streams connectionId channelId := by
          simp only [Broker.dropped, Function.update_self]
        show ∃ stream, (broker.dropped agentId connectionId connection).streams connectionId channelId =
          some stream
        rw [dropped, held]
        split
        · exact ⟨_, rfl⟩
        · exact ⟨_, rfl⟩
  · rw [Broker.dropConnection_apart owns, Broker.registryDisconnect_eq]
    exact ⟨attached, rfl, rfl⟩

theorem cleanup_runs {authenticated : Option AgentTunnelRecord}
    (here : At stream content held pieces given sent state) :
    Runs around content (streamCleanup authenticated stream.connectionId) (fun outcome after =>
      outcome = .ok () ∧ At stream content held pieces given sent after) state := by
  have closes : ∀ {state : Recorded}, At stream content held pieces given sent state →
      Runs around content (wait .waitClosed) (fun outcome after => outcome = .ok () ∧
        At stream content held pieces given sent after) state := by
    intro state there
    apply wait_runs there rfl rfl
    exact fun after last => ⟨rfl, last⟩
  cases authenticated with
  | none => exact closes here
  | some record =>
      apply Coro.wp_bind
      apply onBroker_runs held here
      · intro broker dropped
        cases dropped
        obtain ⟨attached, objects, wire⟩ := dropConnection_keeps record.agentId here.working.attached
        refine ⟨attached, fun made => ?_, wire⟩
        rw [objects]
        exact here.present made
      · exact fun after there => closes there
      · intro raised after impossible
        cases impossible

/-- The ERROR frame of a stream that was turned away is written. -/
theorem bestEffortError_runs {requestId : Uuid} (compact : stream.library.json.dumps = valueText)
    (here : At stream content held pieces given sent state) :
    Runs around content (bestEffortError stream.library stream.connectionId requestId.text)
      (fun outcome after => outcome = .ok () ∧
        At stream content held pieces given (sent ++ [⟨.ERROR, requestId.text, none, []⟩]) after)
      state := by
  apply Coro.wp_handle (Coro.wp_mono _ (writeFrame_runs here))
  rintro (raised | _) after reached
  · obtain ⟨bytes, encoded⟩ := errorFrame_encodes compact requestId
    rw [encoded] at reached
    cases reached.1
  · exact ⟨rfl, reached⟩

theorem guarded_runs {authenticated : Option AgentTunnelRecord} {body : TunnelTask Unit}
    {requestId : Uuid} (compact : stream.library.json.dumps = valueText)
    (drawn : stream.errorRequestId = requestId.text)
    (ran : Runs around content body (fun outcome after =>
      ∃ raised, outcome = .error raised ∧ Ends stream content raised after) state) :
    Runs around content (guarded stream.library authenticated stream.connectionId stream.errorRequestId
        body) (fun outcome after => ClosedCleanly stream outcome after.2 ↔
          Readable stream (reads after.2) (rows after.2)) state := by
  -- after the `except` clauses: returned, or the fault of something not readable
  have caught : Runs around content
      (tryCatch body (streamFault stream.library stream.connectionId stream.errorRequestId))
      (fun outcome after => ∃ held pieces given sent, At stream content held pieces given sent after ∧
        ((outcome = .ok () ∧ Readable stream pieces given ∧ (¬Interrupted after.2 → ∃ frames error,
            sent = frames ++ [error] ∧ error.type = .ERROR ∧ ∀ frame ∈ frames, frame.type ≠ .ERROR)) ∨
          ((∃ raised, outcome = .error raised) ∧ ¬Readable stream pieces given))) state := by
    apply Coro.wp_handle (Coro.wp_mono _ ran)
    rintro _ after ⟨raised, rfl, held, pieces, given, sent, there, quiet, why⟩
    dsimp only
    rcases why with ⟨⟨isEnd, interrupted⟩ | rejection, readable⟩ | ⟨escape, unreadable⟩
    · have silent : streamFault stream.library stream.connectionId stream.errorRequestId raised =
          pure () := by
        cases raised <;> first | rfl | cases isEnd
      rw [silent]
      exact ⟨held, pieces, given, sent, there, .inl ⟨rfl, readable, fun still =>
        absurd interrupted still⟩⟩
    · have told : streamFault stream.library stream.connectionId stream.errorRequestId raised =
          bestEffortError stream.library stream.connectionId requestId.text := by
        rw [drawn]
        cases raised <;> first | rfl | cases rejection
      rw [told]
      apply Coro.wp_mono _ (bestEffortError_runs compact there)
      rintro outcome last ⟨returned, written⟩
      exact ⟨held, pieces, given, _, written, .inl ⟨returned, readable, fun _ =>
        ⟨sent, _, rfl, rfl, quiet⟩⟩⟩
    · have passed : streamFault stream.library stream.connectionId stream.errorRequestId raised =
          throw raised := by
        rcases escape with (rfl | rfl) | rfl <;> rfl
      rw [passed]
      exact ⟨held, pieces, given, sent, there, .inr ⟨⟨raised, rfl⟩, unreadable⟩⟩
  apply Coro.wp_finallyDo (Coro.wp_mono _ caught)
  rintro ended after ⟨held, pieces, given, sent, there, why⟩
  apply Coro.wp_mono _ (runs_grow (cleanup_runs there))
  rintro _ last ⟨⟨rfl, written⟩, grown⟩
  dsimp only
  rw [written.reads, written.rows]
  unfold ClosedCleanly
  rw [written.written]
  rcases why with ⟨returned, readable, told⟩ | ⟨⟨raised, failed⟩, unreadable⟩
  · refine iff_of_true ⟨returned, fun still => told fun interrupted => still ?_⟩ readable
    obtain ⟨more, same⟩ := grown
    rw [← same]
    exact interrupted.later more
  · refine iff_of_false (fun closed => ?_) unreadable
    rw [failed] at closed
    cases closed.1
end Handling

/-- What the handler relies on of its connection holds of every broker whose tables
fit together. -/
theorem attached_of_represented {config : BrokerConfig} {broker : Broker}
    (represented : BrokerInvariant.Represented config broker) (connectionId : ConnectionId) :
    Attached connectionId broker := by
  intro connection object channelId isOpen
  refine ⟨?_, ?_⟩
  · rw [represented.attached connectionId connection object]
    exact isOpen
  · obtain ⟨stream, found, -⟩ := represented.streamed connectionId connection channelId object
      (BrokerInvariant.open_known isOpen)
    exact ⟨stream, found⟩

/-- `handle_stream` on the bytes of a stream. -/
def runOn (stream : AgentStream) (around : Surroundings stream) (content : Bytes) (turns : Nat)
    (start : TunnelWorld) : Except Exc Unit × Recorded :=
  (stream.handle turns).run (around.serve content) (start, [])

/-- On every stream of bytes, whatever the other tasks do: the handler returns, and
answers a stream that did not break off with an ERROR frame as its last, if and only
if the headers and the login that it read are readable. -/
theorem stream_fails_closed (stream : AgentStream) (around : Surroundings stream) (content : Bytes)
    {turns : Nat} {start : TunnelWorld} {requestId : Uuid}
    (compact : stream.library.json.dumps = valueText) (plain : PlainText stream.library)
    (hexDigest : ∀ bytes, Ascii (stream.library.sha256Hex bytes))
    (drawn : stream.errorRequestId = requestId.text) (working : Working stream start)
    (enough : content.length < turns) :
    let ended := runOn stream around content turns start
    ClosedCleanly stream ended.1 ended.2.2 ↔
      Readable stream (reads ended.2.2) (rows ended.2.2) := by
  have begins : At stream content false [] [] [] (start, []) :=
    ⟨rfl, rfl, rfl, working, nofun, List.nil_prefix⟩
  have runs : Runs around content (stream.handle turns) (fun outcome after =>
      ClosedCleanly stream outcome after.2 ↔ Readable stream (reads after.2) (rows after.2))
      (start, []) := by
    apply Coro.wp_bind (Coro.wp_outcome (Coro.wp_mono _ (admission_runs plain hexDigest begins)))
    rintro (raised | ⟨first, record⟩) after reached
    · exact guarded_runs compact drawn ⟨raised, rfl, reached⟩
    · obtain ⟨headerPrefix, header, payload, given, there, readable⟩ := reached
      exact guarded_runs compact drawn (serve_runs there readable (by simp) (by simp) enough)
  exact Coro.wp_run runs

/-! The login of an agent that holds its certificate and knows its row, with a secret
that begins with a lone surrogate. -/
def plainLibrary : Library :=
  { libraryOne with strOf := fun value => match value with
      | .str text => .ok text
      | _ => .error .valueError }

def plainStream : AgentStream :=
  { streamOne with library := plainLibrary, errorRequestId := agentOne.text }

/-- Nobody else is there, and no read is late. -/
def undisturbed (stream : AgentStream) : Surroundings stream where
  others _ state := state.1
  late _ := false
  working _ _ holds := holds
  present _ _ holds := holds

def surrogateLogin : Bytes :=
  let payload := encode (pythonJson.dumps (.object [(lit "agent_id", .str agentOne.text),
    (lit "node_name", .str rowOne.nodeName), (lit "cert_serial", .str rowOne.certSerial),
    (lit "cert_public_key", .str rowOne.x509PublicKey),
    (lit "tunnel_secret", .str (point 0xD800 :: secretOne))]))
  match (OutgoingFrame.mk .AUTH (lit "login") none (payload.getD [])).encode pythonJson 4096 with
  | .ok bytes => bytes
  | .error _ => []

theorem plainLibrary_plain : PlainText plainLibrary := by
  intro value raised failed
  cases value <;> cases failed <;> exact .inl rfl

theorem plainLibrary_hexDigest (bytes : Bytes) : Ascii (plainLibrary.sha256Hex bytes) := by
  show Ascii (if bytes = List.replicate 43 97 then rowOne.tunnelSecretHash else [])
  split
  · exact lit_ascii (by decide)
  · exact ascii_nil

theorem worldOne_working : Working plainStream worldOne := by
  have only : ∀ agentId record, worldOne.agents agentId = some record →
      agentId = agentOne ∧ record = rowOne := by
    intro agentId record found
    by_cases same : agentId = agentOne
    · exact ⟨same, (Option.some.inj ((if_pos same).symm.trans found)).symm⟩
    · cases (if_neg same).symm.trans found
  refine ⟨fun connection impossible => ?_, fun agentId record found => ?_, fun agentId record found => ?_⟩
  · cases impossible
  · obtain ⟨rfl, rfl⟩ := only agentId record found
    rfl
  · obtain ⟨rfl, rfl⟩ := only agentId record found
    exact lit_ascii (by decide)

/-- A stream of four bytes that cannot begin a frame is answered with an ERROR. -/
theorem stream_fails_closed_garbage :
    let ended := runOn plainStream (undisturbed plainStream) [0, 0, 0, 0] 5 worldOne
    ClosedCleanly plainStream ended.1 ended.2.2 ↔
      Readable plainStream (reads ended.2.2) (rows ended.2.2) :=
  stream_fails_closed plainStream (undisturbed plainStream) [0, 0, 0, 0] rfl plainLibrary_plain
    plainLibrary_hexDigest rfl worldOne_working (by decide)

/-- Hashing the secret raises what no clause of the handler takes. -/
theorem surrogateLogin_raises : surrogateLogin.length < 512 ∧
    (runOn plainStream (undisturbed plainStream) surrogateLogin 512 worldOne).1 =
      .error .unicodeEncodeError := by
  decide +kernel

theorem surrogate_secret_escapes :
    surrogateLogin.length < 512 ∧ Working plainStream worldOne ∧
      (runOn plainStream (undisturbed plainStream) surrogateLogin 512 worldOne).1 =
        .error .unicodeEncodeError ∧
      ¬ClosedCleanly plainStream
        (runOn plainStream (undisturbed plainStream) surrogateLogin 512 worldOne).1
        (runOn plainStream (undisturbed plainStream) surrogateLogin 512 worldOne).2.2 := by
  obtain ⟨short, raised⟩ := surrogateLogin_raises
  refine ⟨short, worldOne_working, raised, fun closed => ?_⟩
  have returned := closed.1
  rw [raised] at returned
  cases returned

end VibeConnect.TunnelRejection
