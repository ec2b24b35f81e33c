import VibeConnect.JumpCoordinator

/-! No tunnel session is opened before every check. The dependencies may answer
each call in any way; whenever `open_session` is called, the calls answered so
far are the checks, in order, and no other. -/
namespace VibeConnect.JumpChecks
open Python.Text Python.Values Python.Coroutine Models TunnelState JumpCoordinator

abbrev JumpEvent := Coro.Event JumpCall JumpResult Exc

def anyAnswers : Coro.Answers JumpCall JumpResult Exc (List JumpEvent) :=
  fun op answer before after => after = before ++ [⟨op, answer⟩]

/-- The arguments of one `start_jump` that its checks read. -/
structure JumpArguments where
  identity : ResolvedIdentity
  command : Str
  visibleNodes : List NodeInventoryEntry
  presentedNodeHostKey : Option Str
  width : Int
  height : Int
  now : DateTime

/-- Everything that must be true of an `open_session` call, with the calls
before it. -/
structure Checked (arguments : JumpArguments) (before history : List JumpEvent) (request : OpenRequest)
    (target : JumpTarget) (session : JumpSession) (replay : ReplayHandle) : Prop where
  username : request.username = arguments.identity.username
  node : request.nodeName = strip arguments.command
  visible : request.nodeName ∈ arguments.visibleNodes.map (·.nodeName)
  agent : request.agentId = target.agentId
  hostKey : request.nodeSshHostPublicKey = target.nodeSshHostPublicKey
  pinned : target.nodeSshHostPublicKey ≠ []
  presented : arguments.presentedNodeHostKey = some target.nodeSshHostPublicKey
  fresh : ∃ lastSeen, target.heartbeat.lastSeen = some lastSeen ∧ arguments.now.instant <
    lastSeen.instant + 2 * target.heartbeat.heartbeatSeconds * 1000000
  principal : request.userCertificate.username = arguments.identity.username
  calls : ∃ replayPath, history = before ++
    [⟨.getJumpTarget request.nodeName, .ok (some target)⟩,
      ⟨.createSession ⟨target.agentId, arguments.identity.username, request.nodeName, replayPath,
        arguments.now⟩, .ok session⟩,
      ⟨.startReplay ⟨session.sessionId, request.nodeName, arguments.width, arguments.height,
        session.startedAt⟩, .ok replay⟩,
      ⟨.issue arguments.identity.username session.sessionId session.userCertSerial arguments.now,
        .ok request.userCertificate⟩]

/-- No call of the history opened a session. -/
def Unopened (history : List JumpEvent) : Prop :=
  ∀ event ∈ history, ∀ request, event.op ≠ .openSession request

section Rules
variable {arguments : JumpArguments} {before history : List JumpEvent} {α : Type}
  {allowed : List JumpEvent → OpenRequest → Prop}

/-- What is asked of a call before it is made. -/
def Guards (allowed : List JumpEvent → OpenRequest → Prop) (op : JumpCall) (history : List JumpEvent) :
    Prop := ∀ request, op = .openSession request → allowed history request

abbrev Guarded (allowed : List JumpEvent → OpenRequest → Prop)
    (program : Coro JumpCall JumpResult Exc α) (post : Except Exc α → List JumpEvent → Prop)
    (history : List JumpEvent) : Prop :=
  program.wp anyAnswers (Guards allowed) post history

theorem ask_guarded {call : JumpCall} {post : Except Exc (JumpResult call) → List JumpEvent → Prop}
    (ready : Guards allowed call history)
    (next : ∀ answer, post answer (history ++ [⟨call, answer⟩])) :
    Guarded allowed (Coro.await call) post history := by
  refine Coro.wp_await ready ?_
  rintro answer _ rfl
  exact next answer

theorem auditDenial_guarded {audited : Bool} {actor : Str} {agentId sessionId : Option Uuid}
    {nodeName : Option Str} {reason : String} {now : DateTime} :
    Guarded allowed (auditDenial Coro.await audited actor agentId nodeName reason now sessionId)
      (fun _ _ => True) history := by
  unfold auditDenial
  split
  · apply ask_guarded
    · intro request impossible
      cases impossible
    · exact fun _ => trivial
  · trivial

/-- A denial ends without an open call. -/
theorem denial_guarded {β : Type} {audited : Bool} {actor : Str} {agentId sessionId : Option Uuid}
    {nodeName : Option Str} {reason : String} {now : DateTime} {fault : Exc}
    {post : Except Exc β → List JumpEvent → Prop} (raised : ∀ fault after, post (.error fault) after) :
    Guarded allowed (do
      auditDenial Coro.await audited actor agentId nodeName reason now sessionId
      throw fault) post history := by
  refine Coro.wp_bind (Coro.wp_mono ?_ auditDenial_guarded)
  rintro (fault | _) after - <;> exact raised _ after

theorem authorizedTarget_guarded {audited : Bool} :
    Guarded allowed (authorizedTarget Coro.await audited arguments.identity arguments.command
        arguments.visibleNodes arguments.presentedNodeHostKey arguments.now)
      (Coro.either (fun found after =>
        after = history ++ [⟨.getJumpTarget found.1, .ok (some found.2)⟩] ∧
        found.1 = strip arguments.command ∧ found.1 ∈ arguments.visibleNodes.map (·.nodeName) ∧
        found.2.nodeSshHostPublicKey ≠ [] ∧
        arguments.presentedNodeHostKey = some found.2.nodeSshHostPublicKey ∧
        found.2.heartbeat.allowsNewJump arguments.now = true) fun _ _ => True) history := by
  unfold authorizedTarget
  split
  · exact denial_guarded fun _ _ => trivial
  · trivial
  rename_i nodeName parsed
  obtain ⟨stripped, member⟩ := parseRestrictedShellCommand_ok parsed
  refine Coro.wp_bind (ask_guarded ?_ ?_)
  · intro request impossible
    cases impossible
  rintro (fault | row)
  · trivial
  cases row with
  | none => exact denial_guarded fun _ _ => trivial
  | some target =>
  refine Coro.wp_bind (Coro.wp_ofAnswer ?_)
  cases pinned : validatePinnedHostKey (some target.nodeSshHostPublicKey)
      arguments.presentedNodeHostKey with
  | error fault => trivial
  | ok key =>
  obtain ⟨named, same⟩ := validatePinnedHostKey_ok pinned
  dsimp only
  split
  · rename_i fresh
    exact ⟨rfl, stripped, member, named, same, fresh⟩
  · exact denial_guarded fun _ _ => trivial

theorem startRecording_guarded {audited : Bool} {target : JumpTarget} {nodeName : Str}
    {session : JumpSession} :
    Guarded allowed (startRecording Coro.await audited arguments.identity target nodeName session
        arguments.width arguments.height arguments.now)
      (Coro.either (fun replay after => after = history ++ [⟨.startReplay ⟨session.sessionId, nodeName,
        arguments.width, arguments.height, session.startedAt⟩, .ok replay⟩]) fun _ _ => True)
      history := by
  refine Coro.wp_handle (ask_guarded ?_ ?_)
  · intro request impossible
    cases impossible
  rintro (fault | replay)
  · dsimp only
    unfold replayFault
    split
    · refine Coro.wp_bind (ask_guarded ?_ ?_)
      · intro request impossible
        cases impossible
      rintro (fault | _)
      · trivial
      · exact denial_guarded fun _ _ => trivial
    · trivial
  · rfl

theorem issueCertificate_guarded {session : JumpSession} {replay : ReplayHandle} :
    Guarded allowed (issueCertificate Coro.await arguments.identity session replay arguments.now)
      (Coro.either (fun certificate after => certificate.username = arguments.identity.username ∧
        after = history ++ [⟨.issue arguments.identity.username session.sessionId
          session.userCertSerial arguments.now, .ok certificate⟩]) fun _ _ => True) history := by
  refine Coro.wp_bind (ask_guarded ?_ ?_)
  · intro request impossible
    cases impossible
  rintro (fault | certificate)
  · trivial
  dsimp only
  split
  · refine Coro.wp_bind (ask_guarded ?_ ?_)
    · intro request impossible
      cases impossible
    rintro (fault | _)
    · trivial
    refine Coro.wp_bind (ask_guarded ?_ ?_)
    · intro request impossible
      cases impossible
    rintro (fault | _) <;> trivial
  · rename_i same
    exact ⟨not_not.mp same, rfl⟩

/-- The only open call of the coordinator, and what follows it. -/
theorem openNode_guarded {audited : Bool} {target : JumpTarget} {nodeName : Str}
    {session : JumpSession} {replay : ReplayHandle} {certificate : IssuedUserCertificate}
    {channelId : ChannelId}
    (ready : allowed history ⟨target.agentId, channelId, nodeName, target.nodeSshHostPublicKey,
      arguments.identity.username, certificate⟩) :
    Guarded allowed (openNode Coro.await audited arguments.identity target nodeName session replay
      certificate channelId arguments.now) (fun _ _ => True) history := by
  refine Coro.wp_handle (ask_guarded ?_ ?_)
  · intro request same
    cases same
    exact ready
  rintro (fault | connection)
  · dsimp only
    unfold openFault
    split
    · refine Coro.wp_bind (ask_guarded ?_ ?_)
      · intro request impossible
        cases impossible
      rintro (fault | _)
      · trivial
      refine Coro.wp_bind (ask_guarded ?_ ?_)
      · intro request impossible
        cases impossible
      rintro (fault | _)
      · trivial
      · exact denial_guarded fun _ _ => trivial
    · trivial
  · trivial

theorem auditStarted_guarded {audited : Bool} {target : JumpTarget} {nodeName : Str}
    {session : JumpSession} :
    Guarded allowed (auditStarted Coro.await audited arguments.identity target nodeName session
      arguments.now) (fun _ _ => True) history := by
  unfold auditStarted
  split
  · apply ask_guarded
    · intro request impossible
      cases impossible
    · exact fun _ => trivial
  · trivial
end Rules

/-- The checks of a jump whose earlier calls are known. -/
def Allowed (arguments : JumpArguments) (before history : List JumpEvent) (request : OpenRequest) :
    Prop := ∃ target session replay, Checked arguments before history request target session replay

theorem startJump_guarded {audited : Bool} {sessionUuid channelUuid : Uuid}
    {allowed : List JumpEvent → OpenRequest → Prop} (arguments : JumpArguments) (before : List JumpEvent)
    (enough : ∀ history request, Allowed arguments before history request → allowed history request) :
    Guarded allowed (startJump Coro.await audited sessionUuid channelUuid arguments.identity
      arguments.command arguments.visibleNodes arguments.presentedNodeHostKey arguments.width
      arguments.height arguments.now) (fun _ _ => True) before := by
  refine Coro.wp_bind (Coro.wp_mono ?_ authorizedTarget_guarded)
  rintro (fault | ⟨nodeName, target⟩) after reached
  · trivial
  obtain ⟨rfl, stripped, member, pinned, presented, fresh⟩ := reached
  refine Coro.wp_bind (ask_guarded ?_ ?_)
  · intro request impossible
    cases impossible
  rintro (fault | session)
  · trivial
  refine Coro.wp_bind (Coro.wp_mono ?_ startRecording_guarded)
  rintro (fault | replay) after reached
  · trivial
  subst reached
  refine Coro.wp_bind (Coro.wp_mono ?_ issueCertificate_guarded)
  rintro (fault | certificate) after reached
  · trivial
  obtain ⟨principal, rfl⟩ := reached
  refine Coro.wp_bind (Coro.wp_mono ?_ (openNode_guarded ?_))
  · rintro (fault | connection) after -
    · trivial
    refine Coro.wp_bind (Coro.wp_mono ?_ auditStarted_guarded)
    rintro (fault | _) after - <;> trivial
  · apply enough
    refine ⟨target, session, replay, rfl, stripped, member, rfl, rfl, pinned, presented, ?_, principal,
      sessionUuid.text ++ lit ".cast", by simp⟩
    exact (target.heartbeat.allowsNewJump_iff arguments.now).mp fresh

theorem Allowed.unopened {arguments : JumpArguments} {before history : List JumpEvent}
    {request : OpenRequest} (earlier : Unopened before)
    (opened : Allowed arguments before history request) : Unopened history := by
  obtain ⟨target, session, replay, checked⟩ := opened
  obtain ⟨replayPath, rfl⟩ := checked.calls
  intro event member other
  rcases List.mem_append.mp member with old | new
  · exact earlier event old other
  · simp only [List.mem_cons, List.not_mem_nil, or_false] at new
    rcases new with rfl | rfl | rfl | rfl <;> simp

/-- The checks above the coordinator: an identity, and the coordinator's
arguments as the dependencies gave them. -/
def ExecAllowed (identity : Option ResolvedIdentity) (command : Str) (width height : Int)
    (history : List JumpEvent) (request : OpenRequest) : Prop :=
  ∃ arguments : JumpArguments, identity = some arguments.identity ∧ arguments.command = command ∧
    arguments.width = width ∧ arguments.height = height ∧ ∃ nodeName,
    nodeName = strip command ∧ Allowed arguments
      [⟨.visibleNodes arguments.identity, .ok arguments.visibleNodes⟩,
        ⟨.presentedHostKey nodeName, .ok arguments.presentedNodeHostKey⟩,
        ⟨.clock, .ok arguments.now⟩] history request

theorem startExec_guarded (audited : Bool) (sessionUuid channelUuid : Uuid)
    (identity : Option ResolvedIdentity) (command : Str) (width height : Int) :
    Guarded (ExecAllowed identity command width height)
      (startExec Coro.await audited sessionUuid channelUuid identity command width height)
      (fun _ _ => True) [] := by
  cases identity with
  | none => trivial
  | some identity =>
  refine Coro.wp_handle (Coro.wp_bind (Coro.wp_ofAnswer ?_))
  have refuses : ∀ fault history, Guarded (ExecAllowed (some identity) command width height)
      (denied fault) (fun _ _ => True) history := by
    intro fault history
    unfold denied
    split <;> trivial
  cases validateSshRequestPolicy identity.username (some command) none false false false with
  | error fault => exact refuses fault _
  | ok _ =>
  refine Coro.wp_bind (ask_guarded ?_ ?_)
  · intro request impossible
    cases impossible
  rintro (fault | visibleNodes)
  · exact refuses fault _
  refine Coro.wp_bind (Coro.wp_ofAnswer ?_)
  cases single : singleRequestedNode command visibleNodes with
  | error fault => exact refuses fault _
  | ok nodeName =>
  have stripped : nodeName = strip command := by
    unfold singleRequestedNode at single
    dsimp only at single
    split at single
    · cases single
      rfl
    · cases single
  refine Coro.wp_bind (ask_guarded ?_ ?_)
  · intro request impossible
    cases impossible
  rintro (fault | presentedHostKey)
  · exact refuses fault _
  refine Coro.wp_bind (ask_guarded ?_ ?_)
  · intro request impossible
    cases impossible
  rintro (fault | now)
  · exact refuses fault _
  refine Coro.wp_mono ?_ (startJump_guarded
    ⟨identity, command, visibleNodes, presentedHostKey, width, height, now⟩
    [⟨.visibleNodes identity, .ok visibleNodes⟩, ⟨.presentedHostKey nodeName, .ok presentedHostKey⟩,
      ⟨.clock, .ok now⟩] fun history request opened => ?_)
  · rintro (fault | started) after -
    · exact refuses fault _
    · trivial
  · exact ⟨_, rfl, rfl, rfl, rfl, nodeName, stripped, opened⟩

theorem ExecAllowed.unopened {identity : Option ResolvedIdentity} {command : Str} {width height : Int}
    {history : List JumpEvent} {request : OpenRequest}
    (opened : ExecAllowed identity command width height history request) : Unopened history := by
  obtain ⟨arguments, -, -, -, -, nodeName, -, opened⟩ := opened
  refine opened.unopened fun event member other => ?_
  simp only [List.mem_cons, List.not_mem_nil, or_false] at member
  rcases member with rfl | rfl | rfl <;> simp

/-- Whenever `start_jump`, by itself or under `start_exec`, calls `open_session`,
every check has passed in the calls before, none of which was `open_session`. -/
theorem open_session_after_checks (audited : Bool) (sessionUuid channelUuid : Uuid) :
    (∀ (arguments : JumpArguments) request resume history,
      Coro.Steps anyAnswers (startJump Coro.await audited sessionUuid channelUuid arguments.identity
        arguments.command arguments.visibleNodes arguments.presentedNodeHostKey arguments.width
        arguments.height arguments.now) [] (.call (.openSession request) resume) history →
      Allowed arguments [] history request ∧ Unopened history) ∧
    ∀ identity command width height request resume history,
      Coro.Steps anyAnswers (startExec Coro.await audited sessionUuid channelUuid identity command
        width height) [] (.call (.openSession request) resume) history →
      ExecAllowed identity command width height history request ∧ Unopened history := by
  constructor
  · intro arguments request resume history run
    have opened : Allowed arguments [] history request :=
      (Coro.wp_steps run (startJump_guarded arguments [] fun _ _ => id)).1 request rfl
    exact ⟨opened, opened.unopened fun event member => absurd member List.not_mem_nil⟩
  · intro identity command width height request resume history run
    have opened : ExecAllowed identity command width height history request :=
      (Coro.wp_steps run (startExec_guarded audited sessionUuid channelUuid identity command width
        height)).1 request rfl
    exact ⟨opened, opened.unopened⟩

/-! Dependencies that let one user through to one node. -/
def targetOne : JumpTarget where
  agentId := ⟨1⟩
  nodeName := lit "node-01"
  nodeSshHostPublicKey := lit "key"
  heartbeat := ⟨30, some ⟨0, some 0⟩, by decide⟩

def letsThrough : Coro.Behaviour JumpCall JumpResult Exc
  | .visibleNodes _ => .ok [⟨lit "node-01"⟩]
  | .presentedHostKey _ => .ok (some (lit "key"))
  | .clock => .ok ⟨1000000, some 0⟩
  | .getJumpTarget _ => .ok (some targetOne)
  | .createSession request => .ok ⟨⟨2⟩, 7, request.replayPath, request.startedAt⟩
  | .startReplay _ => .ok ⟨0⟩
  | .issue username _ _ _ => .ok ⟨username⟩
  | .openSession _ => .ok ⟨0⟩
  | .failSession .. | .failReplay .. | .writeAudit _ => .ok ()

def servedBy (behaviour : Coro.Behaviour JumpCall JumpResult Exc) :
    Coro.Server JumpCall JumpResult Exc (List JumpEvent) :=
  fun op history => (behaviour op, history ++ [⟨op, behaviour op⟩])

/-- The request of an open call that a coroutine is about to make. -/
def opening {α : Type} : Coro JumpCall JumpResult Exc α → Option OpenRequest
  | .call (.openSession request) _ => some request
  | _ => none

theorem opening_some {α : Type} {program : Coro JumpCall JumpResult Exc α} {request : OpenRequest}
    (opens : opening program = some request) : ∃ resume, program = .call (.openSession request) resume := by
  unfold opening at opens
  split at opens
  · cases opens
    exact ⟨_, rfl⟩
  · cases opens

def execOne : Coro JumpCall JumpResult Exc StartedJump :=
  startExec Coro.await true ⟨3⟩ ⟨4⟩ (some ⟨lit "alice"⟩) (lit " node-01 ") 80 24

theorem open_session_after_checks_alice : ∃ request history,
    ExecAllowed (some ⟨lit "alice"⟩) (lit " node-01 ") 80 24 history request ∧ Unopened history := by
  have reached : (opening (Coro.advance (servedBy letsThrough) 7 execOne []).1).isSome = true := by
    decide +kernel
  obtain ⟨request, opens⟩ := Option.isSome_iff_exists.mp reached
  obtain ⟨resume, waiting⟩ := opening_some opens
  have serves : ∀ op history, anyAnswers op (servedBy letsThrough op history).1 history
      (servedBy letsThrough op history).2 := fun _ _ => rfl
  have run := Coro.steps_advance serves 7 execOne []
  rw [waiting] at run
  exact ⟨request, _, (open_session_after_checks true ⟨3⟩ ⟨4⟩).2 _ _ _ _ request resume _ run⟩

end VibeConnect.JumpChecks
