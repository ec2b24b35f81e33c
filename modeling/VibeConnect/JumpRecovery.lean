import VibeConnect.JumpChecks

/-! What `start_jump` leaves behind when it raises. The run against fixed
answers has one trace; whether the session row and the recording are failed in
it depends on which dependency raises which exception. -/
namespace VibeConnect.JumpRecovery
open Python.Text Python.Values Python.Coroutine Models TunnelState JumpCoordinator JumpChecks

abbrev Dependencies := Coro.Behaviour JumpCall JumpResult Exc

/-! What one event of a trace did. -/
def createdSession : JumpEvent → Option JumpSession
  | ⟨.createSession _, .ok session⟩ => some session
  | _ => none

def failedSession : JumpEvent → Option Uuid
  | ⟨.failSession sessionId _, .ok _⟩ => some sessionId
  | _ => none

def startedReplay : JumpEvent → Option ReplayHandle
  | ⟨.startReplay _, .ok replay⟩ => some replay
  | _ => none

def failedReplay : JumpEvent → Option ReplayHandle
  | ⟨.failReplay replay _ _, .ok _⟩ => some replay
  | _ => none

/-- A session row was failed, and so was every recorder that was started. -/
def Failed (session : JumpSession) (trace : List JumpEvent) : Prop :=
  some session.sessionId ∈ trace.map failedSession ∧
    ∀ replay, some replay ∈ trace.map startedReplay → some replay ∈ trace.map failedReplay

/-- If the run raised, nothing is left open of a session row it created. -/
def NothingHalfOpen (trace : List JumpEvent) (outcome : Except Exc StartedJump) : Prop :=
  ∀ raised, outcome = .error raised → ∀ session, some session ∈ trace.map createdSession →
    Failed session trace

/-- Faults that the two `except` clauses take. -/
def isReplayError : Exc → Bool
  | .replayError _ => true
  | _ => false

def isJumpError : Exc → Bool
  | .jumpError _ => true
  | _ => false

section Jump
variable (dependencies : Dependencies) (audited : Bool) (sessionUuid channelUuid : Uuid)
  (arguments : JumpArguments)

def sessionRequest (nodeName : Str) (target : JumpTarget) : SessionRequest :=
  ⟨target.agentId, arguments.identity.username, nodeName, sessionUuid.text ++ lit ".cast", arguments.now⟩

/-- The dependencies let the jump come as far as a session row. -/
structure Reaches (nodeName : Str) (target : JumpTarget) (session : JumpSession) : Prop where
  parsed : parseRestrictedShellCommand arguments.command
    (arguments.visibleNodes.map (·.nodeName)) = .ok nodeName
  found : dependencies (.getJumpTarget nodeName) = .ok (some target)
  pinned : ∃ key, validatePinnedHostKey (some target.nodeSshHostPublicKey)
    arguments.presentedNodeHostKey = .ok key
  fresh : target.heartbeat.allowsNewJump arguments.now = true
  created : dependencies (.createSession (sessionRequest sessionUuid arguments nodeName target)) =
    .ok session

/-- Nothing the dependencies do after the session row goes past the `except`
clauses. -/
def Handled (nodeName : Str) (target : JumpTarget) (session : JumpSession) : Prop :=
  match dependencies (.startReplay ⟨session.sessionId, nodeName, arguments.width, arguments.height,
    session.startedAt⟩) with
  | .error fault => isReplayError fault = true
  | .ok replay =>
    match dependencies (.issue arguments.identity.username session.sessionId session.userCertSerial
      arguments.now) with
    | .error _ => False
    | .ok certificate =>
      if certificate.username ≠ arguments.identity.username then
        dependencies (.failReplay replay (lit "certificate principal mismatch") arguments.now) = .ok ()
      else
        match dependencies (.openSession ⟨target.agentId, channelUuid.text, nodeName,
          target.nodeSshHostPublicKey, arguments.identity.username, certificate⟩) with
        | .error fault => isJumpError fault = true ∧
            dependencies (.failReplay replay (lit "node SSH connection failed") arguments.now) = .ok ()
        | .ok _ => audited = true → dependencies (.writeAudit ⟨.SESSION_STARTED,
            arguments.identity.username, some target.agentId, some session.sessionId, some nodeName,
            [(lit "status", .str (lit SessionStatus.OPEN.value))], arguments.now⟩) = .ok ()

def AllHandled : Prop := ∀ nodeName target session,
  Reaches dependencies sessionUuid arguments nodeName target session →
    Handled dependencies audited channelUuid arguments nodeName target session

def jumpRun : List JumpEvent × Except Exc StartedJump :=
  (startJump Coro.await audited sessionUuid channelUuid arguments.identity arguments.command
    arguments.visibleNodes arguments.presentedNodeHostKey arguments.width arguments.height
    arguments.now).play dependencies
end Jump

/-- What is owed after the row. -/
def Undone (session : JumpSession) (outcome : Except Exc StartedJump) (tail : List JumpEvent) : Prop :=
  ∀ raised, outcome = .error raised → Failed session tail

section Runs
variable {dependencies : Dependencies} {audited : Bool} {sessionUuid channelUuid : Uuid}
  {arguments : JumpArguments} {nodeName : Str} {target : JumpTarget} {session : JumpSession}
  {history : List JumpEvent}

/-- How a program that creates no session row ends. -/
abbrev Ends {α : Type} (dependencies : Dependencies) (program : Coro JumpCall JumpResult Exc α)
    (post : Except Exc α → List JumpEvent → Prop) (history : List JumpEvent) : Prop :=
  program.wp (Coro.recorded dependencies) (fun op _ => ∀ request, op ≠ .createSession request) post
    history

theorem ask_ends {call : JumpCall} {post : Except Exc (JumpResult call) → List JumpEvent → Prop}
    (next : post (dependencies call) (history ++ [⟨call, dependencies call⟩]))
    (quiet : ∀ request, call ≠ .createSession request := by intro _ impossible; cases impossible) :
    Ends dependencies (Coro.await call) post history := by
  refine Coro.wp_await quiet ?_
  rintro answer _ ⟨rfl, rfl⟩
  exact next

/-- A denial is audited, or not, and raised. -/
theorem denial_ends {β : Type} {actor : Str} {agentId sessionId : Option Uuid} {node : Option Str}
    {reason : String} {now : DateTime} {fault : Exc} {post : Except Exc β → List JumpEvent → Prop}
    (told : ∀ raised record answer, post (.error raised) (history ++ [⟨.writeAudit record, answer⟩]))
    (untold : ∀ raised, post (.error raised) history) :
    Ends dependencies (do
      auditDenial Coro.await audited actor agentId node reason now sessionId
      throw fault) post history := by
  unfold auditDenial
  split
  · refine Coro.wp_bind (ask_ends ?_)
    split
    · exact told _ _ _
    · exact told _ _ _
  · exact untold _

/-- The store can always fail a session. -/
def FailsSessions (dependencies : Dependencies) : Prop :=
  ∀ sessionId endedAt, dependencies (.failSession sessionId endedAt) = .ok ()

theorem replayFault_ends {fault : Exc} {answer : Except Exc ReplayHandle} {start : ReplayRequest}
    (failing : FailsSessions dependencies) (raised : answer = .error fault) :
    Ends dependencies (replayFault Coro.await audited arguments.identity target nodeName session
        arguments.now fault)
      (fun outcome after => (∃ last, outcome = .error last) ∧
        (Failed session after ↔ isReplayError fault = true)) [⟨.startReplay start, answer⟩] := by
  subst raised
  unfold replayFault
  split
  · refine Coro.wp_bind (ask_ends ?_)
    rw [failing]
    refine denial_ends ?_ ?_
    · exact fun raised record answer => ⟨⟨raised, rfl⟩, by
        simp [Failed, failedSession, startedReplay, isReplayError]⟩
    · exact fun raised => ⟨⟨raised, rfl⟩, by
        simp [Failed, failedSession, startedReplay, isReplayError]⟩
  · rename_i other
    refine ⟨⟨_, rfl⟩, ?_⟩
    have unhandled : isReplayError fault = false := by
      unfold isReplayError
      split
      · exact absurd rfl (other _)
      · rfl
    simp [Failed, failedSession, unhandled]

/-- The trace once a recorder was started. -/
structure Recording (session : JumpSession) (replay : ReplayHandle) (history : List JumpEvent) :
    Prop where
  rows : ∀ other, some other ∉ history.map createdSession
  unfailed : some session.sessionId ∉ history.map failedSession
  started : ∀ other, some other ∈ history.map startedReplay ↔ other = replay
  running : some replay ∉ history.map failedReplay

theorem Recording.unfinished {replay : ReplayHandle} (recording : Recording session replay history) :
    ¬Failed session history := fun failed => recording.unfailed failed.1

theorem openFault_ends {fault : Exc} {replay : ReplayHandle} (failing : FailsSessions dependencies)
    (recording : Recording session replay history) :
    Ends dependencies (openFault Coro.await audited arguments.identity target nodeName session replay
        arguments.now fault)
      (fun outcome after => (∃ last, outcome = .error last) ∧
        (Failed session after ↔ isJumpError fault = true ∧
          dependencies (.failReplay replay (lit "node SSH connection failed") arguments.now) = .ok ()))
      history := by
  have started := recording.started
  unfold openFault
  split
  · refine Coro.wp_bind (ask_ends ?_)
    cases ended : dependencies (.failReplay replay (lit "node SSH connection failed")
        arguments.now) with
    | error fault =>
        refine ⟨⟨_, rfl⟩, ?_⟩
        have unfailed := recording.unfailed
        simp_all [Failed, failedSession]
    | ok _ =>
        refine Coro.wp_bind (ask_ends ?_)
        rw [failing]
        refine denial_ends ?_ ?_
        · exact fun raised record answer => ⟨⟨raised, rfl⟩, by
            simp_all [Failed, failedSession, startedReplay, failedReplay, isJumpError]⟩
        · exact fun raised => ⟨⟨raised, rfl⟩, by
            simp_all [Failed, failedSession, startedReplay, failedReplay, isJumpError]⟩
  · rename_i other
    refine ⟨⟨_, rfl⟩, ?_⟩
    have unhandled : isJumpError fault = false := by
      unfold isJumpError
      split
      · exact absurd rfl (other _)
      · rfl
    simp [recording.unfinished, unhandled]

theorem Recording.quiet {replay : ReplayHandle} (recording : Recording session replay history)
    (event : JumpEvent) (row : createdSession event = none)
    (failed : failedSession event = none) (start : startedReplay event = none)
    (stopped : failedReplay event = none) : Recording session replay (history ++ [event]) := by
  constructor
  · simpa [row] using recording.rows
  · simpa [failed] using recording.unfailed
  · simpa [start] using recording.started
  · simpa [stopped] using recording.running

theorem undone_error {raised : Exc} {condition : Prop}
    (same : Failed session history ↔ condition) :
    Undone session (.error raised) history ↔ condition := by
  refine Iff.trans ⟨fun undone => undone raised rfl, fun failed _ _ => failed⟩ same

theorem undone_ok {started : StartedJump} : Undone session (.ok started) history := by
  intro raised impossible
  cases impossible

/-- After the row, what is owed is done exactly when the dependencies stay within
the `except` clauses. -/
theorem jumpSession_ends (failing : FailsSessions dependencies) :
    Ends dependencies (jumpSession Coro.await audited channelUuid arguments.identity nodeName target
        session arguments.width arguments.height arguments.now)
      (fun outcome after => Undone session outcome after ↔
        Handled dependencies audited channelUuid arguments nodeName target session) [] := by
  unfold Handled
  refine Coro.wp_bind (Coro.wp_handle (ask_ends ?_))
  cases started : dependencies (.startReplay ⟨session.sessionId, nodeName, arguments.width,
      arguments.height, session.startedAt⟩) with
  | error fault =>
      refine Coro.wp_mono ?_ (replayFault_ends failing rfl)
      rintro outcome after ⟨⟨last, rfl⟩, same⟩
      exact undone_error same
  | ok replay =>
  have recording : Recording session replay [⟨.startReplay ⟨session.sessionId, nodeName,
      arguments.width, arguments.height, session.startedAt⟩, .ok replay⟩] := by
    constructor <;> simp [createdSession, failedSession, startedReplay, failedReplay]
  refine Coro.wp_bind (Coro.wp_bind (ask_ends ?_))
  cases issued : dependencies (.issue arguments.identity.username session.sessionId
      session.userCertSerial arguments.now) with
  | error fault =>
      refine undone_error ⟨fun failed => ?_, False.elim⟩
      exact (recording.quiet _ rfl rfl rfl rfl).unfinished failed
  | ok certificate =>
  have recording := recording.quiet ⟨.issue arguments.identity.username session.sessionId
    session.userCertSerial arguments.now, .ok certificate⟩ rfl rfl rfl rfl
  dsimp only
  split
  · refine Coro.wp_bind (ask_ends ?_)
    have running := recording.started
    have unfailed := recording.unfailed
    cases ended : dependencies (.failReplay replay (lit "certificate principal mismatch")
        arguments.now) with
    | error fault =>
        refine undone_error ⟨fun failed => ?_, fun impossible => by cases impossible⟩
        simp_all [Failed, failedSession]
    | ok _ =>
        refine Coro.wp_bind (ask_ends ?_)
        rw [failing]
        refine undone_error ⟨fun _ => rfl, fun _ => ?_⟩
        simp_all [Failed, failedSession, startedReplay, failedReplay]
  · refine Coro.wp_bind (Coro.wp_handle (ask_ends ?_))
    cases opened : dependencies (.openSession ⟨target.agentId, channelUuid.text, nodeName,
        target.nodeSshHostPublicKey, arguments.identity.username, certificate⟩) with
    | error fault =>
        refine Coro.wp_mono ?_ (openFault_ends failing (recording.quiet _ rfl rfl rfl rfl))
        rintro outcome after ⟨⟨last, rfl⟩, same⟩
        exact undone_error same
    | ok connection =>
        have recording := recording.quiet ⟨.openSession ⟨target.agentId, channelUuid.text,
          nodeName, target.nodeSshHostPublicKey, arguments.identity.username, certificate⟩,
          .ok connection⟩ rfl rfl rfl rfl
        unfold auditStarted
        dsimp only
        cases audited with
        | false =>
            constructor
            · intro _ impossible
              cases impossible
            · exact fun _ => undone_ok
        | true =>
            refine Coro.wp_bind (ask_ends ?_)
            split
            · rename_i told
              exact ⟨fun _ _ => told, fun _ => undone_ok⟩
            · rename_i told
              refine undone_error ⟨fun failed => ?_, fun owed => ?_⟩
              · exact absurd failed (recording.quiet _ rfl rfl rfl rfl).unfinished
              · cases told.symm.trans (owed rfl)

/-- The coordinator refuses, or has what a session row needs. -/
theorem authorizedTarget_ends (sessionUuid : Uuid) :
    Ends dependencies (authorizedTarget Coro.await audited arguments.identity arguments.command
        arguments.visibleNodes arguments.presentedNodeHostKey arguments.now)
      (Coro.either (fun found after => after = [⟨.getJumpTarget found.1, .ok (some found.2)⟩] ∧
        parseRestrictedShellCommand arguments.command (arguments.visibleNodes.map (·.nodeName)) =
          .ok found.1 ∧
        dependencies (.getJumpTarget found.1) = .ok (some found.2) ∧
        (∃ key, validatePinnedHostKey (some found.2.nodeSshHostPublicKey)
          arguments.presentedNodeHostKey = .ok key) ∧
        found.2.heartbeat.allowsNewJump arguments.now = true)
        fun _ _ => ∀ nodeName target session,
          ¬Reaches dependencies sessionUuid arguments nodeName target session) [] := by
  unfold authorizedTarget
  split
  · rename_i refused
    refine denial_ends ?_ ?_
    · intro raised record answer nodeName target session reaches
      cases refused.symm.trans reaches.parsed
    · intro raised nodeName target session reaches
      cases refused.symm.trans reaches.parsed
  · rename_i refused
    intro nodeName target session reaches
    cases refused.symm.trans reaches.parsed
  rename_i nodeName parsed
  refine Coro.wp_bind (ask_ends ?_)
  cases found : dependencies (.getJumpTarget nodeName) with
  | error fault =>
      intro other target session reaches
      cases parsed.symm.trans reaches.parsed
      cases found.symm.trans reaches.found
  | ok row =>
  cases row with
  | none =>
      have unreached : ∀ other target session,
          ¬Reaches dependencies sessionUuid arguments other target session := by
        intro other target session reaches
        cases parsed.symm.trans reaches.parsed
        cases found.symm.trans reaches.found
      exact denial_ends (fun _ _ _ => unreached) fun _ => unreached
  | some target =>
  refine Coro.wp_bind (Coro.wp_ofAnswer ?_)
  cases pinned : validatePinnedHostKey (some target.nodeSshHostPublicKey)
      arguments.presentedNodeHostKey with
  | error fault =>
      intro other second session reaches
      cases parsed.symm.trans reaches.parsed
      cases found.symm.trans reaches.found
      obtain ⟨key, same⟩ := reaches.pinned
      cases pinned.symm.trans same
  | ok key =>
  dsimp only
  split
  · rename_i fresh
    exact ⟨rfl, parsed, found, ⟨key, pinned⟩, fresh⟩
  · rename_i stale
    have unreached : ∀ other second session,
        ¬Reaches dependencies sessionUuid arguments other second session := by
      intro other second session reaches
      cases parsed.symm.trans reaches.parsed
      cases found.symm.trans reaches.found
      exact stale reaches.fresh
    exact denial_ends (fun _ _ _ => unreached) fun _ => unreached

/-- The trace of a program that creates no row shows none. -/
theorem rows_none {α : Type} {program : Coro JumpCall JumpResult Exc α}
    {post : Except Exc α → List JumpEvent → Prop} (ends : Ends dependencies program post [])
    (other : JumpSession) : some other ∉ (program.play dependencies).1.map createdSession := by
  intro member
  obtain ⟨event, inside, row⟩ := List.mem_map.mp member
  obtain ⟨before, after, split⟩ := List.append_of_mem inside
  have quiet := (Coro.wp_play ends).1 before event after split
  unfold createdSession at row
  split at row
  · exact quiet _ rfl
  · cases row

theorem refused_ends {trace : List JumpEvent} {raised : Exc}
    (rows : ∀ other, some other ∉ trace.map createdSession)
    (unreached : ∀ nodeName target session,
      ¬Reaches dependencies sessionUuid arguments nodeName target session) :
    NothingHalfOpen trace (.error raised) ↔
      AllHandled dependencies audited sessionUuid channelUuid arguments := by
  constructor
  · intro _ nodeName target session reaches
    exact absurd reaches (unreached nodeName target session)
  · intro _ _ _ session member
    exact absurd member (rows session)

theorem await_play (call : JumpCall) :
    (Coro.await call : Coro JumpCall JumpResult Exc (JumpResult call)).play dependencies =
      ([⟨call, dependencies call⟩], dependencies call) := by
  unfold Coro.await
  rw [Coro.play_call]
  cases dependencies call <;> rfl

/-- The jump as far as the row can only be reached in one way. -/
theorem Reaches.unique {other : Str} {second : JumpTarget} {last : JumpSession}
    (first : Reaches dependencies sessionUuid arguments nodeName target session)
    (again : Reaches dependencies sessionUuid arguments other second last) :
    other = nodeName ∧ second = target ∧ last = session := by
  cases first.parsed.symm.trans again.parsed
  cases first.found.symm.trans again.found
  cases first.created.symm.trans again.created
  exact ⟨rfl, rfl, rfl⟩

/-- With a row in the trace, nothing is half-open when what is owed after the row
is done. -/
theorem reached_ends {tail : List JumpEvent} {outcome : Except Exc StartedJump}
    {answer : Except Exc (Option JumpTarget)} {request : SessionRequest}
    (rows : ∀ other, some other ∉ tail.map createdSession) :
    NothingHalfOpen (⟨.getJumpTarget nodeName, answer⟩ :: ⟨.createSession request, .ok session⟩ :: tail)
        outcome ↔ Undone session outcome tail := by
  have same : Failed session
      (⟨.getJumpTarget nodeName, answer⟩ :: ⟨.createSession request, .ok session⟩ :: tail) ↔
      Failed session tail := by
    simp only [Failed, List.map_cons, failedSession, startedReplay, failedReplay, List.mem_cons,
      reduceCtorEq, false_or]
  constructor
  · intro nothing raised ended
    exact same.mp (nothing raised ended session (by simp [createdSession]))
  · intro undone raised ended other member
    simp only [List.map_cons, createdSession, List.mem_cons, reduceCtorEq, false_or,
      Option.some.injEq] at member
    rcases member with rfl | later
    · exact same.mpr (undone raised ended)
    · exact absurd later (rows other)
end Runs

/-- A jump that raises leaves neither an open session row nor a running recorder
exactly when the replay starter raises nothing but `ReplayError`, the issuer
nothing, the opener nothing but `JumpError`, and the audit sink takes the start. -/
theorem start_jump_leaves_nothing (dependencies : Dependencies) (audited : Bool)
    (sessionUuid channelUuid : Uuid) (arguments : JumpArguments)
    (failing : FailsSessions dependencies) :
    NothingHalfOpen (jumpRun dependencies audited sessionUuid channelUuid arguments).1
        (jumpRun dependencies audited sessionUuid channelUuid arguments).2 ↔
      AllHandled dependencies audited sessionUuid channelUuid arguments := by
  have checks : Ends dependencies (authorizedTarget Coro.await audited arguments.identity
      arguments.command arguments.visibleNodes arguments.presentedNodeHostKey arguments.now) _ [] :=
    authorizedTarget_ends sessionUuid
  have rows := rows_none checks
  have ended := (Coro.wp_play checks).2
  unfold jumpRun startJump
  rw [Coro.play_bind]
  rcases played : (authorizedTarget Coro.await audited arguments.identity arguments.command
    arguments.visibleNodes arguments.presentedNodeHostKey arguments.now).play dependencies
    with ⟨trace, raised | ⟨nodeName, target⟩⟩ <;> rw [played] at rows ended
  · exact refused_ends rows ended
  obtain ⟨single, parsed, found, pinned, fresh⟩ := ended
  dsimp only [List.nil_append] at rows single ⊢
  subst single
  rw [Coro.play_bind, await_play]
  generalize created : dependencies (.createSession ⟨target.agentId, arguments.identity.username,
    nodeName, sessionUuid.text ++ lit ".cast", arguments.now⟩) = answer
  cases answer with
  | error fault =>
      refine refused_ends ?_ ?_
      · simp [createdSession]
      · intro other second session reaches
        cases parsed.symm.trans reaches.parsed
        cases found.symm.trans reaches.found
        cases created.symm.trans reaches.created
  | ok session =>
      have owed : Ends dependencies (jumpSession Coro.await audited channelUuid arguments.identity
          nodeName target session arguments.width arguments.height arguments.now) _ [] :=
        jumpSession_ends failing
      have reaches : Reaches dependencies sessionUuid arguments nodeName target session :=
        ⟨parsed, found, pinned, fresh, created⟩
      refine (reached_ends (rows_none owed)).trans ((Coro.wp_play owed).2.trans ?_)
      constructor
      · intro handled other second last again
        obtain ⟨rfl, rfl, rfl⟩ := reaches.unique again
        exact handled
      · exact fun all => all nodeName target session reaches

def argumentsOne : JumpArguments where
  identity := ⟨lit "alice"⟩
  command := lit "node-01"
  visibleNodes := [⟨lit "node-01"⟩]
  presentedNodeHostKey := some (lit "key")
  width := 80
  height := 24
  now := ⟨1000000, some 0⟩

theorem start_jump_leaves_nothing_alice :
    NothingHalfOpen (jumpRun letsThrough true ⟨3⟩ ⟨4⟩ argumentsOne).1
      (jumpRun letsThrough true ⟨3⟩ ⟨4⟩ argumentsOne).2 := by
  refine (start_jump_leaves_nothing letsThrough true ⟨3⟩ ⟨4⟩ argumentsOne fun _ _ => rfl).mpr ?_
  intro nodeName target session reaches
  simp [Handled, letsThrough]

/-- The broker has lost the agent's tunnel by the time the node is opened. -/
def tunnelGone : Dependencies
  | .openSession _ => .error (.tunnelStateError "agent tunnel is not connected")
  | call => letsThrough call

theorem start_jump_half_open : FailsSessions tunnelGone ∧
    ¬NothingHalfOpen (jumpRun tunnelGone true ⟨3⟩ ⟨4⟩ argumentsOne).1
      (jumpRun tunnelGone true ⟨3⟩ ⟨4⟩ argumentsOne).2 := by
  refine ⟨fun _ _ => rfl, fun nothing => ?_⟩
  have raised : (jumpRun tunnelGone true ⟨3⟩ ⟨4⟩ argumentsOne).2 =
      .error (.tunnelStateError "agent tunnel is not connected") := by rfl
  have rows : (jumpRun tunnelGone true ⟨3⟩ ⟨4⟩ argumentsOne).1.map createdSession =
      [none, some ⟨⟨2⟩, 7, (⟨3⟩ : Uuid).text ++ lit ".cast", ⟨1000000, some 0⟩⟩, none, none, none] := by
    rfl
  have failed : (jumpRun tunnelGone true ⟨3⟩ ⟨4⟩ argumentsOne).1.map failedSession =
      [none, none, none, none, none] := by rfl
  have created : some ⟨⟨2⟩, 7, (⟨3⟩ : Uuid).text ++ lit ".cast", ⟨1000000, some 0⟩⟩ ∈
      (jumpRun tunnelGone true ⟨3⟩ ⟨4⟩ argumentsOne).1.map createdSession := by
    rw [rows]
    simp
  have owed := (nothing _ raised _ created).1
  rw [failed] at owed
  simp at owed

end VibeConnect.JumpRecovery
