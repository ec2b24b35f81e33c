import VibeConnect.TunnelBroker

/-! Soundness of tunnel authentication. One `handle_stream` runs against any
byte stream while any other tasks use the broker. Its history records what it
read, which row it was given and what it changed; a stream that is admitted has
a history that shows every check, and one that is not has changed nothing. -/
namespace VibeConnect.TunnelAdmission
open Python.Text Python.JsonCodec Python.Values Python.Coroutine Python.Tasks Models TunnelProtocol
open TunnelState TunnelAuthenticator TunnelBroker

abbrev TunnelEntry := Coro.Entry (TaskOp TunnelWorld TunnelCall Exc) (TaskAns TunnelWorld TunnelResult)
  Exc TunnelWorld

abbrev Recorded := TunnelWorld × List TunnelEntry

/-- The frames written to a connection so far. -/
def sentOn (connectionId : ConnectionId) (world : TunnelWorld) : List OutgoingFrame :=
  (world.broker.wire.filter (·.connection = connectionId)).map (·.frame)

def readBytes : TunnelEntry → Bytes
  | ⟨.await (.readexactly _), .ok bytes, _, _⟩ => bytes
  | _ => []

/-- The stream as far as it has been read. -/
def received (history : List TunnelEntry) : Bytes := history.flatMap readBytes

/-- What other tasks can do to a connection id that is not theirs. -/
structure OthersRan (connectionId : ConnectionId) (before after : TunnelWorld) : Prop where
  connections : ∀ agentId, after.broker.connections agentId = some connectionId →
    before.broker.connections agentId = some connectionId
  active : ∀ agentId, after.broker.active agentId = some connectionId →
    before.broker.active agentId = some connectionId
  silent : (∀ agentId, before.broker.connections agentId ≠ some connectionId) →
    sentOn connectionId after = sentOn connectionId before

/-- What a stream's calls can be answered with: a read gives as many bytes as it
asked for, the store gives the row of that id, and any call may raise. -/
def streamWorld : World TunnelWorld TunnelResult Exc
  | .readexactly count, .ok bytes, before, after => after = before ∧ bytes.length = count
  | .getAgent agentId, .ok row, before, after => after = before ∧ row = before.agents agentId ∧
      ∀ record, row = some record → record.agentId = agentId
  | _, _, before, after => after = before

theorem streamWorld_same {call : TunnelCall} {answer : Except Exc (TunnelResult call)}
    {before after : TunnelWorld} (answered : streamWorld call answer before after) : after = before := by
  unfold streamWorld at answered
  split at answered
  · exact answered.1
  · exact answered.1
  · exact answered

/-- The arguments of one `handle_stream`, with the uuids it draws. -/
structure AgentStream where
  library : Library
  config : BrokerConfig
  peer : PeerCertificateBinding
  now : Option DateTime
  connectionId : ConnectionId
  errorRequestId : Str

/-- The history shows every check for an agent: the first frame read is an AUTH
frame whose request matches the mTLS peer, and the row the store gave for it
matches the request at the time of asking. -/
structure Checked (stream : AgentStream) (history : List TunnelEntry) (agentId : Uuid) (data : Bytes)
    (first : DecodedTunnelFrame) (request : TunnelAuthRequest) (record : AgentTunnelRecord)
    (asked given : TunnelWorld) : Prop where
  decodes : decodeFrame stream.library.json data stream.config.maxFrameBytes = .ok first
  head : data <+: received history
  auth : first.frame.type = .AUTH
  payload : decodeAuthPayload stream.library first.payload = .ok request
  serial : request.certSerial = stream.peer.certSerial
  publicKey : request.certPublicKey = stream.peer.certPublicKey
  agent : request.agentId = agentId
  lookedUp : ⟨.await (.getAgent agentId), .ok (some record), asked, given⟩ ∈ history
  stored : given.agents agentId = some record
  admits : Admits stream.library request record (stream.now.getD asked.clock)

def Evidence (stream : AgentStream) (history : List TunnelEntry) (agentId : Uuid) : Prop :=
  ∃ data first request record asked given,
    Checked stream history agentId data first request record asked given

section Stream
variable (stream : AgentStream)

/-- The stream counts as admitted once it is in the connection map or has been
told so. -/
def Admitted (world : TunnelWorld) : Prop :=
  (∃ agentId, world.broker.connections agentId = some stream.connectionId) ∨
    ∃ frame ∈ sentOn stream.connectionId world, frame.type = .AUTH_OK

/-- The tables and the objects of other connections are as before. -/
structure Untouched (before after : TunnelWorld) : Prop where
  active : after.broker.active = before.broker.active
  connections : after.broker.connections = before.broker.connections
  channelAgents : after.broker.channelAgents = before.broker.channelAgents
  streams : after.broker.streams = before.broker.streams
  objects : ∀ other, other ≠ stream.connectionId →
    after.broker.objects other = before.broker.objects other

/-- At most one frame, and that one an ERROR. -/
def Mild (frames : List OutgoingFrame) : Prop :=
  frames = [] ∨ ∃ frame, frames = [frame] ∧ frame.type = .ERROR

structure QuietEntry (entry : TunnelEntry) : Prop where
  unadmitted : ¬Admitted stream entry.after
  mild : Mild (sentOn stream.connectionId entry.after)
  untouched : ∀ block, entry.op = .atomic block → Untouched stream entry.before entry.after

/-- Nothing has been admitted so far, and `sent` is all that was written. -/
structure Waiting (sent : List OutgoingFrame) (state : Recorded) : Prop where
  unheld : ∀ agentId, state.1.broker.connections agentId ≠ some stream.connectionId
  inactive : ∀ agentId, state.1.broker.active agentId ≠ some stream.connectionId
  wire : sentOn stream.connectionId state.1 = sent
  quiet : ∀ entry ∈ state.2, QuietEntry stream entry

/-- The stream was admitted, after a quiet part of the history that ends with
the evidence complete. -/
structure Accepted (agentId : Uuid) (state : Recorded) : Prop where
  evidence : Evidence stream state.2 agentId
  own : ∀ other, state.1.broker.connections other = some stream.connectionId → other = agentId
  turned : ∃ quiet entry later, state.2 = quiet ++ entry :: later ∧
    (∀ earlier ∈ quiet, QuietEntry stream earlier) ∧ Admitted stream entry.after

def Sound (state : Recorded) : Prop :=
  (∃ sent, Mild sent ∧ Waiting stream sent state) ∨ ∃ agentId, Accepted stream agentId state

/-- The runs of one stream among other tasks. -/
abbrev streamAnswers : Coro.Answers (TaskOp TunnelWorld TunnelCall Exc)
    (TaskAns TunnelWorld TunnelResult) Exc Recorded :=
  Coro.recording (answered streamWorld (fun _ => True) (OthersRan stream.connectionId))

abbrev Goes {α : Type} (program : TunnelTask α) (post : Except Exc α → Recorded → Prop)
    (state : Recorded) : Prop :=
  program.wp (streamAnswers stream) (fun _ => Sound stream) post state
end Stream

section Rules
variable {stream : AgentStream} {α : Type}

theorem mild_unadmitted {frames : List OutgoingFrame} (mild : Mild frames) :
    ¬∃ frame ∈ frames, frame.type = .AUTH_OK := by
  rintro ⟨frame, member, told⟩
  rcases mild with empty | ⟨only, alone, error⟩
  · rw [empty] at member
    cases member
  · rw [alone, List.mem_singleton] at member
    rw [member, error] at told
    cases told

theorem Waiting.unadmitted {sent : List OutgoingFrame} {state : Recorded} (mild : Mild sent)
    (waiting : Waiting stream sent state) : ¬Admitted stream state.1 := by
  rintro (⟨agentId, held⟩ | told)
  · exact waiting.unheld agentId held
  · rw [waiting.wire] at told
    exact mild_unadmitted mild told

theorem Evidence.extend {history : List TunnelEntry} {agentId : Uuid}
    (evidence : Evidence stream history agentId) (more : List TunnelEntry) :
    Evidence stream (history ++ more) agentId := by
  obtain ⟨data, first, request, record, asked, given, checked⟩ := evidence
  refine ⟨data, first, request, record, asked, given, { checked with
    head := checked.head.trans ?_, lookedUp := List.mem_append_left _ checked.lookedUp }⟩
  exact ⟨received more, by simp [received]⟩

/-- A step that keeps what counts keeps a stream waiting. -/
theorem Waiting.step {sent more : List OutgoingFrame} {state : Recorded} {next : TunnelWorld}
    {op : TaskOp TunnelWorld TunnelCall Exc} {answer : Except Exc (TaskAns TunnelWorld TunnelResult op)}
    (waiting : Waiting stream sent state) (mild : Mild more)
    (unheld : ∀ agentId, next.broker.connections agentId ≠ some stream.connectionId)
    (inactive : ∀ agentId, next.broker.active agentId ≠ some stream.connectionId)
    (wire : sentOn stream.connectionId next = more)
    (untouched : ∀ block, op = .atomic block → Untouched stream state.1 next) :
    Waiting stream more (next, state.2 ++ [⟨op, answer, state.1, next⟩]) := by
  refine ⟨unheld, inactive, wire, fun other member => ?_⟩
  rcases List.mem_append.mp member with old | new
  · exact waiting.quiet other old
  · rw [List.mem_singleton.mp new]
    refine ⟨?_, wire ▸ mild, untouched⟩
    rintro (⟨agentId, held⟩ | told)
    · exact unheld agentId held
    · rw [wire] at told
      exact mild_unadmitted mild told

theorem Accepted.step {agentId : Uuid} {state : Recorded} {next : TunnelWorld}
    {op : TaskOp TunnelWorld TunnelCall Exc} {answer : Except Exc (TaskAns TunnelWorld TunnelResult op)}
    (accepted : Accepted stream agentId state)
    (own : ∀ other, next.broker.connections other = some stream.connectionId →
      state.1.broker.connections other = some stream.connectionId) :
    Accepted stream agentId (next, state.2 ++ [⟨op, answer, state.1, next⟩]) := by
  obtain ⟨quiet, turn, later, split, before, admitted⟩ := accepted.turned
  refine ⟨accepted.evidence.extend _, fun other held => accepted.own other (own other held),
    quiet, turn, later ++ [⟨op, answer, state.1, next⟩], ?_, before, admitted⟩
  rw [split, List.append_assoc, List.cons_append]

theorem look_goes {post : Except Exc TunnelWorld → Recorded → Prop} {state : Recorded}
    (sound : Sound stream state)
    (next : post (.ok state.1) (state.1, state.2 ++ [⟨.look, .ok state.1, state.1, state.1⟩])) :
    Goes stream look post state := by
  refine wp_look sound ?_
  rintro answer ⟨world, history⟩ ⟨⟨same, unchanged⟩, recorded⟩
  cases same
  dsimp only at unchanged recorded
  subst unchanged recorded
  exact next

theorem atomic_goes {block : TunnelWorld → Except Exc Unit × TunnelWorld}
    {post : Except Exc Unit → Recorded → Prop} {state : Recorded} (sound : Sound stream state)
    (next : post (block state.1).1 ((block state.1).2,
      state.2 ++ [⟨.atomic block, (block state.1).1, state.1, (block state.1).2⟩])) :
    Goes stream (atomic block) post state := by
  refine wp_atomic sound ?_
  rintro answer ⟨world, history⟩ ⟨⟨same, changed⟩, recorded⟩
  cases same
  dsimp only at changed recorded
  subst changed recorded
  exact next

theorem wait_goes {call : TunnelCall} {post : Except Exc (TunnelResult call) → Recorded → Prop}
    {state : Recorded} (sound : Sound stream state)
    (next : ∀ answer resumed, OthersRan stream.connectionId state.1 resumed →
      streamWorld call answer resumed resumed →
      post answer (resumed, state.2 ++ [⟨.await call, answer, state.1, resumed⟩])) :
    Goes stream (wait call) post state := by
  refine wp_call sound ?_
  rintro answer ⟨world, history⟩ ⟨⟨resumed, others, -, given⟩, recorded⟩
  have same := streamWorld_same given
  dsimp only at same recorded given
  subst same recorded
  exact next answer _ others given

/-- An attempt that raises leaves the world as it was. -/
theorem attempt_goes {change : TunnelWorld → Except Exc TunnelWorld}
    {post : Except Exc Unit → Recorded → Prop} {state : Recorded} (sound : Sound stream state)
    (changed : ∀ block after, change state.1 = .ok after →
      post (.ok ()) (after, state.2 ++ [⟨.atomic block, .ok (), state.1, after⟩]))
    (raised : ∀ block fault, change state.1 = .error fault →
      post (.error fault) (state.1, state.2 ++ [⟨.atomic block, .error fault, state.1, state.1⟩])) :
    Goes stream (attempt change) post state := by
  refine atomic_goes sound ?_
  cases tried : change state.1 with
  | ok after => exact changed _ after tried
  | error fault => exact raised _ fault tried

theorem Waiting.sound {sent : List OutgoingFrame} {state : Recorded} (mild : Mild sent)
    (waiting : Waiting stream sent state) : Sound stream state := .inl ⟨sent, mild, waiting⟩

theorem Accepted.sound {agentId : Uuid} {state : Recorded} (accepted : Accepted stream agentId state) :
    Sound stream state := .inr ⟨agentId, accepted⟩

theorem Untouched.refl (world : TunnelWorld) : Untouched stream world world :=
  ⟨rfl, rfl, rfl, rfl, fun _ _ => rfl⟩

/-- A change of its own that touches nothing that counts keeps a stream waiting. -/
theorem Waiting.change {sent more : List OutgoingFrame} {state : Recorded} {after : TunnelWorld}
    {block : TunnelWorld → Except Exc Unit × TunnelWorld} {answer : Except Exc Unit}
    (waiting : Waiting stream sent state) (untouched : Untouched stream state.1 after)
    (mild : Mild more) (wire : sentOn stream.connectionId after = more) :
    Waiting stream more (after, state.2 ++ [⟨.atomic block, answer, state.1, after⟩]) := by
  refine waiting.step mild ?_ ?_ wire fun _ _ => untouched
  · intro agentId
    rw [untouched.connections]
    exact waiting.unheld agentId
  · intro agentId
    rw [untouched.active]
    exact waiting.inactive agentId

/-- Nor do the others let a stream in while it waits. -/
theorem Waiting.others {sent : List OutgoingFrame} {state : Recorded} {resumed : TunnelWorld}
    {call : TunnelCall} {answer : Except Exc (TunnelResult call)} (mild : Mild sent)
    (waiting : Waiting stream sent state) (ran : OthersRan stream.connectionId state.1 resumed) :
    Waiting stream sent (resumed, state.2 ++ [⟨.await call, answer, state.1, resumed⟩]) := by
  refine waiting.step mild ?_ ?_ ?_ ?_
  · exact fun agentId held => waiting.unheld agentId (ran.connections agentId held)
  · exact fun agentId held => waiting.inactive agentId (ran.active agentId held)
  · exact (ran.silent waiting.unheld).trans waiting.wire
  · intro block impossible
    cases impossible

theorem wait_waiting {sent : List OutgoingFrame} {call : TunnelCall} {state : Recorded} (mild : Mild sent)
    (waiting : Waiting stream sent state) :
    Goes stream (wait call) (fun _ => Waiting stream sent) state :=
  wait_goes (waiting.sound mild) fun _ _ ran _ => waiting.others mild ran

theorem look_waiting {sent : List OutgoingFrame} {state : Recorded} (mild : Mild sent)
    (waiting : Waiting stream sent state) : Goes stream look (fun answer after =>
      answer = .ok after.1 ∧ Waiting stream sent after ∧ received after.2 = received state.2) state := by
  refine look_goes (waiting.sound mild) ⟨rfl, waiting.step mild waiting.unheld waiting.inactive
    waiting.wire ?_, by simp [received, readBytes]⟩
  intro block impossible
  cases impossible

theorem wait_accepted {agentId : Uuid} {call : TunnelCall} {state : Recorded}
    (accepted : Accepted stream agentId state) :
    Goes stream (wait call) (fun _ => Accepted stream agentId) state :=
  wait_goes accepted.sound fun _ _ ran _ => accepted.step ran.connections

theorem look_accepted {agentId : Uuid} {state : Recorded} (accepted : Accepted stream agentId state) :
    Goes stream look (fun _ => Accepted stream agentId) state :=
  look_goes accepted.sound (accepted.step fun _ held => held)

/-- A change that puts the stream's connection nowhere it was not. -/
theorem attempt_accepted {agentId : Uuid} {change : TunnelWorld → Except Exc TunnelWorld}
    {state : Recorded} (accepted : Accepted stream agentId state)
    (own : ∀ after, change state.1 = .ok after →
      ∀ other, after.broker.connections other = some stream.connectionId →
        state.1.broker.connections other = some stream.connectionId) :
    Goes stream (attempt change) (fun _ => Accepted stream agentId) state :=
  attempt_goes accepted.sound (fun _ after changed => accepted.step (own after changed))
    fun _ _ _ => accepted.step fun _ held => held
end Rules

section Programs
variable {stream : AgentStream}

@[simp] theorem sentOn_send (connectionId : ConnectionId) (frame : OutgoingFrame) (world : TunnelWorld) :
    sentOn connectionId (world.send connectionId frame) = sentOn connectionId world ++ [frame] := by
  simp [sentOn, TunnelWorld.send]

theorem onBroker_waiting {sent : List OutgoingFrame} {block : Broker → Except Exc Broker}
    {state : Recorded} (mild : Mild sent) (waiting : Waiting stream sent state)
    (harmless : ∀ broker, block state.1.broker = .ok broker →
      Untouched stream state.1 (state.1.onBroker broker) ∧ broker.wire = state.1.broker.wire) :
    Goes stream (onBroker block) (fun _ after => Waiting stream sent after ∧
      ∀ agentId, Evidence stream state.2 agentId → Evidence stream after.2 agentId) state := by
  refine attempt_goes (waiting.sound mild) ?_ ?_
  · intro _ after changed
    obtain ⟨broker, applied, changed⟩ := bind_ok.mp changed
    cases changed
    obtain ⟨untouched, wire⟩ := harmless broker applied
    refine ⟨waiting.change untouched mild ?_, fun _ evidence => evidence.extend _⟩
    rw [← waiting.wire]
    exact congrArg (fun wire => (List.filter _ wire).map _) wire
  · intro _ _ _
    exact ⟨waiting.change (Untouched.refl _) mild waiting.wire, fun _ evidence => evidence.extend _⟩

theorem onBroker_accepted {agentId : Uuid} {block : Broker → Except Exc Broker} {state : Recorded}
    (accepted : Accepted stream agentId state)
    (own : ∀ broker, block state.1.broker = .ok broker → ∀ other,
      broker.connections other = some stream.connectionId →
        state.1.broker.connections other = some stream.connectionId) :
    Goes stream (onBroker block) (fun _ => Accepted stream agentId) state := by
  refine attempt_accepted accepted fun after changed => ?_
  obtain ⟨broker, applied, changed⟩ := bind_ok.mp changed
  cases changed
  exact own broker applied

/-- The error frame is all a stream that waits can be sent. -/
theorem writeError_waiting {frame : OutgoingFrame} {maxFrameBytes : Int} {state : Recorded}
    (error : frame.type = .ERROR) (waiting : Waiting stream [] state) :
    Goes stream (writeFrame stream.library stream.connectionId frame maxFrameBytes)
      (fun _ => Sound stream) state := by
  have silent : Mild [] := .inl rfl
  have told : Mild [frame] := .inr ⟨frame, rfl, error⟩
  refine Coro.wp_bind (attempt_goes (waiting.sound silent) ?_ ?_)
  · intro block after written
    obtain ⟨_, -, written⟩ := bind_ok.mp written
    cases written
    have sent : sentOn stream.connectionId (state.1.send stream.connectionId frame) = [frame] := by
      rw [sentOn_send, waiting.wire, List.nil_append]
    have untouched : Untouched stream state.1 (state.1.send stream.connectionId frame) :=
      ⟨rfl, rfl, rfl, rfl, fun _ _ => rfl⟩
    exact Coro.wp_mono (fun _ _ => Waiting.sound told)
      (wait_waiting told (waiting.change untouched told sent))
  · intro _ _ _
    exact (waiting.change (Untouched.refl _) silent waiting.wire).sound silent

theorem writeFrame_accepted {agentId : Uuid} {frame : OutgoingFrame} {maxFrameBytes : Int}
    {state : Recorded} (accepted : Accepted stream agentId state) :
    Goes stream (writeFrame stream.library stream.connectionId frame maxFrameBytes)
      (fun _ => Accepted stream agentId) state := by
  refine Coro.wp_bind (Coro.wp_mono ?_ (attempt_accepted accepted ?_))
  · intro answer after kept
    cases answer with
    | ok value => exact wait_accepted kept
    | error fault => exact kept
  · intro after written other held
    obtain ⟨_, -, written⟩ := bind_ok.mp written
    cases written
    exact held

theorem readStream_waiting {state : Recorded} (waiting : Waiting stream [] state)
    (start : received state.2 = []) :
    Goes stream (readStream stream.library stream.config) (fun answer after => Waiting stream [] after ∧
      ∀ decoded, answer = .ok decoded →
        decodeFrame stream.library.json (received after.2) stream.config.maxFrameBytes = .ok decoded)
      state := by
  have silent : Mild [] := .inl rfl
  refine Coro.wp_mono ?_ (FrameReaders.Server.readOneFrame_wp stream.library.json
    stream.config.maxFrameBytes (fun got after => Waiting stream [] after ∧ received after.2 = got)
    (Waiting stream []) ?_ (fun _ _ ready => ready.1) state ⟨waiting, start⟩)
  · intro answer after reached
    cases answer with
    | error fault => exact ⟨reached, by simp⟩
    | ok decoded =>
        obtain ⟨data, decodes, still, same⟩ := reached
        refine ⟨still, fun other equal => ?_⟩
        cases equal
        rw [same]
        exact decodes
  · intro count got before ready
    refine wait_goes (ready.1.sound silent) fun answer resumed ran _ => ?_
    cases answer with
    | error fault => exact ready.1.others silent ran
    | ok bytes => exact ⟨ready.1.others silent ran, by simp [received, readBytes, ← ready.2]⟩

theorem readStream_accepted {agentId : Uuid} {state : Recorded}
    (accepted : Accepted stream agentId state) :
    Goes stream (readStream stream.library stream.config) (fun _ => Accepted stream agentId) state := by
  refine Coro.wp_mono ?_ (FrameReaders.Server.readOneFrame_wp stream.library.json
    stream.config.maxFrameBytes (fun _ => Accepted stream agentId) (Accepted stream agentId) ?_
    (fun _ _ ready => ready) state accepted)
  · intro answer after reached
    cases answer with
    | error fault => exact reached
    | ok decoded =>
        obtain ⟨_, _, kept⟩ := reached
        exact kept
  · intro count got before ready
    refine Coro.wp_mono ?_ (wait_accepted ready)
    intro answer after kept
    cases answer <;> exact kept

/-- The row comes back only when the history shows that every check was made. -/
theorem authenticate_waiting {first : DecodedTunnelFrame} {request : TunnelAuthRequest}
    {data : Bytes} {state : Recorded} (waiting : Waiting stream [] state)
    (decodes : decodeFrame stream.library.json data stream.config.maxFrameBytes = .ok first)
    (read : received state.2 = data) (auth : first.frame.type = .AUTH)
    (payload : decodeAuthPayload stream.library first.payload = .ok request)
    (bound : request.certSerial = stream.peer.certSerial ∧
      request.certPublicKey = stream.peer.certPublicKey) :
    Goes stream (authenticate stream.library request (stream.now.getD state.1.clock))
      (fun answer after => Waiting stream [] after ∧
        ∀ record, answer = .ok record → Evidence stream after.2 record.agentId) state := by
  have silent : Mild [] := .inl rfl
  refine Coro.wp_bind (wait_goes (waiting.sound silent) fun answer resumed ran given => ?_)
  have still : Waiting stream []
      (resumed, state.2 ++ [⟨.await (.getAgent request.agentId), answer, state.1, resumed⟩]) :=
    waiting.others silent ran
  cases answer with
  | error fault => exact ⟨still, by simp⟩
  | ok row =>
  refine Coro.wp_ofAnswer ⟨still, fun record checked => ?_⟩
  obtain ⟨found, admits⟩ := checkRecord_ok stream.library checked
  obtain ⟨-, stored, keyed⟩ := given
  have named := keyed record found
  subst found
  rw [named]
  refine ⟨data, first, request, record, state.1, resumed, decodes, ?_, auth, payload, bound.1, bound.2,
    rfl, List.mem_append_right _ (List.mem_singleton_self _), stored.symm, admits⟩
  rw [← read]
  exact ⟨[], by simp [received, readBytes]⟩

theorem admission_waiting {state : Recorded} (waiting : Waiting stream [] state)
    (start : received state.2 = []) :
    Goes stream (admission stream.library (readStream stream.library stream.config) stream.peer stream.now)
      (fun answer after => Waiting stream [] after ∧
        ∀ first record, answer = .ok (first, record) → Evidence stream after.2 record.agentId) state := by
  have silent : Mild [] := .inl rfl
  refine Coro.wp_bind (Coro.wp_mono ?_ (readStream_waiting waiting start))
  rintro (fault | first) read ⟨still, decodes⟩
  · exact ⟨still, by simp⟩
  dsimp only
  split
  · exact ⟨still, by simp⟩
  rename_i auth
  refine Coro.wp_bind (Coro.wp_ofAnswer ?_)
  cases payload : decodeAuthPayload stream.library first.payload with
  | error fault => exact ⟨still, by simp⟩
  | ok request =>
  refine Coro.wp_bind (Coro.wp_ofAnswer ?_)
  cases bound : verifyPeerCertificateBinding request stream.peer with
  | error fault => exact ⟨still, by simp⟩
  | ok _ =>
  refine Coro.wp_bind (Coro.wp_mono ?_ (look_waiting silent still))
  rintro _ looked ⟨rfl, yet, unread⟩
  refine Coro.wp_bind (Coro.wp_mono ?_ (authenticate_waiting yet (decodes first rfl) unread
    (not_not.mp auth) payload (verifyPeerCertificateBinding_ok.mp bound)))
  rintro (fault | record) after ⟨last, evidence⟩
  · exact ⟨last, by simp⟩
  · refine ⟨last, fun _ other same => ?_⟩
    cases same
    exact evidence record rfl

/-- A frame of the agent moves no connection. -/
theorem dispatch_accepted {agentId : Uuid} {state : Recorded}
    (accepted : Accepted stream agentId state) :
    Goes stream (dispatchOne (readStream stream.library stream.config) stream.connectionId agentId)
      (fun _ => Accepted stream agentId) state := by
  refine Coro.wp_bind (Coro.wp_mono ?_ (readStream_accepted accepted))
  rintro (fault | decoded) read kept
  · exact kept
  refine Coro.wp_bind (Coro.wp_mono ?_ (look_accepted kept))
  rintro (fault | world) looked kept
  · exact kept
  refine Coro.wp_bind (Coro.wp_mono ?_ (onBroker_accepted kept ?_))
  · rintro (fault | _) marked kept
    · exact kept
    refine Coro.wp_bind (Coro.wp_mono ?_ (wait_accepted kept))
    rintro (fault | _) stored kept
    · exact kept
    refine onBroker_accepted kept fun broker handled other held => ?_
    rcases Broker.handleAgentFrame_ok handled with rfl | ⟨_, _, _, _, _, _, _, _, rfl⟩ |
      ⟨_, _, _, _, _, _, _, _, rfl⟩
    · exact held
    · exact held
    · exact held
  · intro broker marked other held
    obtain ⟨_, -, rfl⟩ := Broker.markSeen_ok marked
    exact held

theorem forever_accepted {agentId : Uuid} {turns : Nat} {state : Recorded}
    (accepted : Accepted stream agentId state) :
    Goes stream (forever (wait .never)
        (dispatchOne (readStream stream.library stream.config) stream.connectionId agentId) turns)
      (fun _ => Accepted stream agentId) state := by
  induction turns generalizing state with
  | zero => exact wait_accepted accepted
  | succ turns ih =>
      refine Coro.wp_bind (Coro.wp_mono ?_ (dispatch_accepted accepted))
      rintro (fault | _) after kept
      · exact kept
      · exact ih kept

/-- How the body of `handle_stream` leaves the world to its `except` clauses. -/
def Left (stream : AgentStream) (state : Recorded) : Prop :=
  Waiting stream [] state ∨ ∃ agentId, Accepted stream agentId state

/-- Registering is the step that admits the stream. -/
theorem register_goes {agentId : Uuid} {state : Recorded} (waiting : Waiting stream [] state)
    (evidence : Evidence stream state.2 agentId) :
    Goes stream (onBroker (Broker.register agentId stream.connectionId))
      (Coro.either (fun _ => Accepted stream agentId) fun _ => Waiting stream []) state := by
  have silent : Mild [] := .inl rfl
  refine attempt_goes (waiting.sound silent) ?_ ?_
  · intro block after changed
    obtain ⟨broker, registered, changed⟩ := bind_ok.mp changed
    cases changed
    obtain ⟨-, rfl⟩ := Broker.register_ok registered
    refine ⟨evidence.extend _, fun other held => ?_, state.2, _, [], rfl, waiting.quiet, ?_⟩
    · by_cases same : other = agentId
      · exact same
      · have before : state.1.broker.connections other = some stream.connectionId :=
          (Function.update_of_ne same _ _).symm.trans held
        exact absurd before (waiting.unheld other)
    · exact .inl ⟨agentId, Function.update_self ..⟩
  · intro _ _ _
    exact waiting.change (Untouched.refl _) silent waiting.wire

theorem newConnection_untouched {world : TunnelWorld} {record : AgentTunnelRecord} {seenAt : DateTime}
    {broker : Broker} (created : Broker.newConnection stream.config record stream.connectionId seenAt
      world.broker = .ok broker) :
    Untouched stream world (world.onBroker broker) ∧ broker.wire = world.broker.wire := by
  obtain ⟨connection, rfl, -⟩ := Broker.newConnection_ok created
  exact ⟨⟨rfl, rfl, rfl, rfl, fun other apart => Function.update_of_ne apart _ _⟩, rfl⟩

theorem serve_goes {first : DecodedTunnelFrame} {record : AgentTunnelRecord} {turns : Nat}
    {state : Recorded} (waiting : Waiting stream [] state)
    (evidence : Evidence stream state.2 record.agentId) :
    Goes stream (serve stream.library stream.config (readStream stream.library stream.config)
      stream.connectionId first record turns) (fun _ => Left stream) state := by
  have silent : Mild [] := .inl rfl
  refine Coro.wp_bind (look_goes (waiting.sound silent) ?_)
  have still : Waiting stream [] (state.1, state.2 ++ [⟨.look, .ok state.1, state.1, state.1⟩]) :=
    waiting.step silent waiting.unheld waiting.inactive waiting.wire fun block impossible => by
      cases impossible
  refine Coro.wp_bind (Coro.wp_mono ?_ (onBroker_waiting silent still fun _ => newConnection_untouched))
  rintro (fault | _) created ⟨still, kept⟩
  · exact .inl still
  have evidence := kept record.agentId (evidence.extend _)
  refine Coro.wp_bind (wait_goes (still.sound silent) fun answer resumed ran _ => ?_)
  cases answer with
  | error fault => exact .inl (still.others silent ran)
  | ok _ =>
  refine Coro.wp_bind (Coro.wp_mono ?_ (register_goes (still.others silent ran) (evidence.extend _)))
  rintro (fault | _) registered next
  · exact .inl next
  refine Coro.wp_bind (Coro.wp_mono ?_ (writeFrame_accepted next))
  rintro (fault | _) written next
  · exact .inr ⟨_, next⟩
  · exact Coro.wp_mono (fun _ _ accepted => .inr ⟨_, accepted⟩) (forever_accepted next)

theorem Left.sound {state : Recorded} (left : Left stream state) : Sound stream state := by
  rcases left with waiting | ⟨agentId, accepted⟩
  · exact waiting.sound (.inl rfl)
  · exact accepted.sound

theorem bestEffortError_goes {requestId : Str} {state : Recorded} (left : Left stream state) :
    Goes stream (bestEffortError stream.library stream.connectionId requestId)
      (fun _ => Sound stream) state := by
  have written : Goes stream (writeFrame stream.library stream.connectionId ⟨.ERROR, requestId, none, []⟩
      (1024 * 1024)) (fun _ => Sound stream) state := by
    rcases left with waiting | ⟨agentId, accepted⟩
    · exact writeError_waiting rfl waiting
    · exact Coro.wp_mono (fun _ _ => Accepted.sound) (writeFrame_accepted accepted)
  refine Coro.wp_handle (Coro.wp_mono ?_ written)
  rintro (fault | _) after sound
  · dsimp only
    split
    · exact sound
    · exact sound
  · exact sound

theorem streamFault_goes {requestId : Str} {raised : Exc} {state : Recorded} (left : Left stream state) :
    Goes stream (streamFault stream.library stream.connectionId requestId raised)
      (fun _ => Sound stream) state := by
  unfold streamFault
  split
  · exact left.sound
  · exact left.sound
  · exact left.sound
  · exact bestEffortError_goes left
  · exact bestEffortError_goes left
  · exact bestEffortError_goes left
  · exact left.sound

theorem wait_sound {call : TunnelCall} {state : Recorded} (sound : Sound stream state) :
    Goes stream (wait call) (fun _ => Sound stream) state := by
  rcases sound with ⟨sent, mild, waiting⟩ | ⟨agentId, accepted⟩
  · exact Coro.wp_mono (fun _ _ => Waiting.sound mild) (wait_waiting mild waiting)
  · exact Coro.wp_mono (fun _ _ => Accepted.sound) (wait_accepted accepted)

theorem unregistered {broker : Broker} {agentId : Uuid} {connectionId : ConnectionId}
    (inactive : broker.active agentId ≠ some connectionId) :
    broker.registryDisconnect agentId connectionId = broker := by
  unfold Broker.registryDisconnect
  rw [if_neg inactive]

/-- Cleaning up takes nothing from a stream that was never let in, and only its
own connection from one that was. -/
theorem cleanup_goes {authenticated : Option AgentTunnelRecord} {state : Recorded}
    (sound : Sound stream state) :
    Goes stream (streamCleanup authenticated stream.connectionId) (fun _ => Sound stream) state := by
  cases authenticated with
  | none => exact wait_sound sound
  | some record =>
  have drops : Goes stream (onBroker fun broker =>
      .ok (broker.dropConnection record.agentId stream.connectionId)) (fun _ => Sound stream) state := by
    rcases sound with ⟨sent, mild, waiting⟩ | ⟨agentId, accepted⟩
    · refine Coro.wp_mono (fun _ _ reached => Waiting.sound mild reached.1)
        (onBroker_waiting mild waiting fun broker same => ?_)
      cases same
      rw [Broker.dropConnection_apart (waiting.unheld _), unregistered (waiting.inactive _)]
      exact ⟨Untouched.refl _, rfl⟩
    · refine Coro.wp_mono (fun _ _ => Accepted.sound)
        (onBroker_accepted accepted fun broker same other held => ?_)
      cases same
      exact Broker.dropConnection_connections _ _ _ held
  refine Coro.wp_bind (Coro.wp_mono ?_ drops)
  rintro (fault | _) after kept
  · exact kept
  · exact wait_sound kept

theorem guarded_goes {authenticated : Option AgentTunnelRecord} {requestId : Str}
    {body : TunnelTask Unit} {state : Recorded} (ran : Goes stream body (fun _ => Left stream) state) :
    Goes stream (guarded stream.library authenticated stream.connectionId requestId body)
      (fun _ => Sound stream) state := by
  have caught : Goes stream
      (tryCatch body (streamFault stream.library stream.connectionId requestId))
      (fun _ => Sound stream) state := by
    refine Coro.wp_handle (Coro.wp_mono ?_ ran)
    rintro (fault | _) after left
    · exact streamFault_goes left
    · exact left.sound
  refine Coro.wp_finallyDo (Coro.wp_mono ?_ caught)
  intro _ after sound
  refine Coro.wp_mono ?_ (cleanup_goes sound)
  rintro (fault | _) last kept <;> exact kept
end Programs

/-- `handle_stream` on the stream. -/
def AgentStream.handle (stream : AgentStream) (turns : Nat) : TunnelTask Unit :=
  handleStream stream.library stream.config (readStream stream.library stream.config) stream.peer
    stream.now stream.connectionId stream.errorRequestId turns

/-- Nobody has used the connection id before. -/
structure Fresh (connectionId : ConnectionId) (world : TunnelWorld) : Prop where
  unheld : ∀ agentId, world.broker.connections agentId ≠ some connectionId
  inactive : ∀ agentId, world.broker.active agentId ≠ some connectionId
  silent : sentOn connectionId world = []

theorem handle_goes (stream : AgentStream) (turns : Nat) {start : TunnelWorld}
    (fresh : Fresh stream.connectionId start) :
    Goes stream (stream.handle turns) (fun _ => Sound stream) (start, []) := by
  have waiting : Waiting stream [] (start, []) := ⟨fresh.unheld, fresh.inactive, fresh.silent, by simp⟩
  refine Coro.wp_bind (Coro.wp_outcome (Coro.wp_mono ?_ (admission_waiting waiting rfl)))
  rintro (raised | ⟨first, record⟩) after ⟨still, evidence⟩
  · exact guarded_goes (Coro.wp_raise raised after |>.mpr (.inl still))
  · exact guarded_goes (serve_goes still (evidence first record rfl))

theorem quiet_before {stream : AgentStream} {agentId : Uuid} {state : Recorded}
    (accepted : Accepted stream agentId state) {quiet later : List TunnelEntry} {entry : TunnelEntry}
    (split : state.2 = quiet ++ entry :: later)
    (unadmitted : ∀ earlier ∈ quiet ++ [entry], ¬Admitted stream earlier.after) :
    QuietEntry stream entry := by
  obtain ⟨before, turn, rest, turned, silent, admitted⟩ := accepted.turned
  have left : quiet ++ [entry] <+: state.2 := ⟨later, by simp [split]⟩
  have right : before ++ [turn] <+: state.2 := ⟨rest, by simp [turned]⟩
  rcases List.prefix_or_prefix_of_prefix left right with short | long
  · have member : entry ∈ before ++ [turn] := short.subset (by simp)
    rcases List.mem_append.mp member with inside | last
    · exact silent entry inside
    · rw [List.mem_singleton.mp last] at unadmitted
      exact absurd admitted (unadmitted turn (by simp))
  · exact absurd admitted (unadmitted turn (long.subset (by simp)))

/-- Wherever a run of `handle_stream` stands: if its connection is held for an
agent or it was told AUTH_OK, its history shows every check; and up to that
point it has written at most one ERROR frame and changed no table. -/
theorem authentication_sound (stream : AgentStream) (turns : Nat) {start : TunnelWorld}
    {reached : Recorded} {rest : TunnelTask Unit} (fresh : Fresh stream.connectionId start)
    (run : Coro.Steps (streamAnswers stream) (stream.handle turns) (start, []) rest reached) :
    (∀ agentId, reached.1.broker.connections agentId = some stream.connectionId →
      Evidence stream reached.2 agentId) ∧
    ((∃ frame ∈ sentOn stream.connectionId reached.1, frame.type = .AUTH_OK) →
      ∃ agentId, Evidence stream reached.2 agentId) ∧
    ∀ quiet entry later, reached.2 = quiet ++ entry :: later →
      (∀ earlier ∈ quiet ++ [entry], ¬Admitted stream earlier.after) →
      Mild (sentOn stream.connectionId entry.after) ∧
        ∀ block, entry.op = .atomic block → Untouched stream entry.before entry.after := by
  have sound : Sound stream reached := Coro.wp_everywhere run (handle_goes stream turns fresh)
  rcases sound with ⟨sent, mild, waiting⟩ | ⟨agentId, accepted⟩
  · refine ⟨fun agentId held => absurd held (waiting.unheld agentId), fun told => ?_, ?_⟩
    · exact absurd (Or.inr told) (waiting.unadmitted mild)
    · intro quiet entry later split _
      have member : entry ∈ reached.2 := by simp [split]
      exact ⟨(waiting.quiet entry member).mild, (waiting.quiet entry member).untouched⟩
  · refine ⟨fun other held => ?_, fun _ => ⟨agentId, accepted.evidence⟩, ?_⟩
    · exact accepted.own other held ▸ accepted.evidence
    · intro quiet entry later split unadmitted
      have still := quiet_before accepted split unadmitted
      exact ⟨still.mild, still.untouched⟩

/-! A run against a stream of bytes, with nobody else there. -/
def alone (input : Bytes) (call : TunnelCall) (world : TunnelWorld) (history : List TunnelEntry) :
    Except Exc (TunnelResult call) :=
  match call with
  | .readexactly count =>
      let left := input.drop (received history).length
      if left.length < count then .error (.incompleteReadError left) else .ok (left.take count)
  | .getAgent agentId => match world.agents agentId with
      | some record => if record.agentId = agentId then .ok (some record) else .error .otherException
      | none => .ok none
  | .updateLastSeen _ _ | .drain | .waitClosed => .ok ()
  | _ => .error .cancelledError

def onlyStream (input : Bytes) : Coro.Server (TaskOp TunnelWorld TunnelCall Exc)
    (TaskAns TunnelWorld TunnelResult) Exc Recorded
  | .look, (world, history) => (.ok world, world, history ++ [⟨.look, .ok world, world, world⟩])
  | .atomic block, (world, history) =>
      let ended := block world
      (ended.1, ended.2, history ++ [⟨.atomic block, ended.1, world, ended.2⟩])
  | .await call, (world, history) =>
      (alone input call world history, world,
        history ++ [⟨.await call, alone input call world history, world, world⟩])

theorem OthersRan.refl (connectionId : ConnectionId) (world : TunnelWorld) :
    OthersRan connectionId world world := ⟨fun _ held => held, fun _ held => held, fun _ => rfl⟩

theorem onlyStream_serves (stream : AgentStream) (input : Bytes)
    (op : TaskOp TunnelWorld TunnelCall Exc) (state : Recorded) :
    streamAnswers stream op (onlyStream input op state).1 state (onlyStream input op state).2 := by
  obtain ⟨world, history⟩ := state
  cases op with
  | look => exact ⟨⟨rfl, rfl⟩, rfl⟩
  | atomic block => exact ⟨⟨rfl, rfl⟩, rfl⟩
  | await call =>
      refine ⟨⟨world, OthersRan.refl _ world, trivial, ?_⟩, rfl⟩
      change streamWorld call (alone input call world history) world world
      unfold streamWorld
      split
      · rename_i count bytes answered
        unfold alone at answered
        dsimp only at answered
        split at answered
        · cases answered
        · cases answered
          exact ⟨rfl, by simp_all⟩
      · rename_i agentId row answered
        unfold alone at answered
        dsimp only at answered
        split at answered
        · split at answered
          · cases answered
            simp_all
          · cases answered
        · cases answered
          simp_all
      · rfl

/-! One agent, its row, and the bytes it logs in with. -/
def agentOne : Uuid := ⟨1⟩

def secretOne : Str := List.replicate 43 (point 97)

def rowOne : AgentTunnelRecord where
  agentId := agentOne
  nodeName := lit "node01"
  x509PublicKey := lit "key"
  tunnelSecretHash := lit "66d34fba71f8f450f7e45598853e53bfc23bbd129027cbb131a2f4ffd7878cd0"
  certSerial := lit "serial"
  certExpiresAt := ⟨1000000, some 0⟩
  revokedAt := none

/-- `str`, `uuid.UUID` and SHA-256 on the values of this login. -/
def libraryOne : Library where
  json := pythonJson
  strOf := fun value => match value with
    | .str text => .ok text
    | _ => .error .otherException
  uuidOf := fun text => if text = agentOne.text then some agentOne else none
  sha256Hex := fun bytes => if bytes = List.replicate 43 97 then rowOne.tunnelSecretHash else []

def loginOne : Bytes :=
  let payload := encode (pythonJson.dumps (.object [(lit "agent_id", .str agentOne.text),
    (lit "node_name", .str (lit "node01")), (lit "cert_serial", .str (lit "serial")),
    (lit "cert_public_key", .str (lit "key")), (lit "tunnel_secret", .str secretOne)]))
  match (OutgoingFrame.mk .AUTH (lit "login") none (payload.getD [])).encode pythonJson 4096 with
  | .ok bytes => bytes
  | .error _ => []

def streamOne : AgentStream :=
  ⟨libraryOne, ⟨4, 30, 4096, by decide⟩, ⟨lit "serial", lit "key"⟩, none, lit "c1", lit "e1"⟩

def worldOne : TunnelWorld where
  broker := .empty
  clock := ⟨0, some 0⟩
  agents := fun agentId => if agentId = agentOne then some rowOne else none
  reads := fun _ _ => []
  received := fun _ => []
  handled := fun _ => []
  agentSide := fun _ => .empty
  crossed := false

theorem worldOne_fresh : Fresh streamOne.connectionId worldOne := by
  refine ⟨?_, ?_, rfl⟩ <;> intro agentId held <;> cases held

theorem authentication_sound_login : ∃ rest reached,
    Coro.Steps (streamAnswers streamOne) (streamOne.handle 1) (worldOne, []) rest reached ∧
    (∀ agentId, reached.1.broker.connections agentId = some streamOne.connectionId →
      Evidence streamOne reached.2 agentId) ∧
    ((∃ frame ∈ sentOn streamOne.connectionId reached.1, frame.type = .AUTH_OK) →
      ∃ agentId, Evidence streamOne reached.2 agentId) := by
  have run := Coro.steps_run (onlyStream_serves streamOne loginOne) (streamOne.handle 1) (worldOne, [])
  obtain ⟨held, told, -⟩ := authentication_sound streamOne 1 worldOne_fresh run
  exact ⟨_, _, run, held, told⟩

end VibeConnect.TunnelAdmission
