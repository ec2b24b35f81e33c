import VibeConnect.JumpCoordinator

/-! Rules for the jump. What is true of each call that it makes of its
dependencies is true of the jump, whatever the calls answer. The two calls that
make the session row and the recorder are asked for one by one. -/
namespace VibeConnect.JumpRules
open Python.Text Python.Values Python.Coroutine Models JumpCoordinator

/-- The calls that make neither the row nor the recorder. -/
def Plain : JumpCall → Prop
  | .createSession _ | .startReplay _ => False
  | _ => True

section Jump
variable {Op : Type} {Ans : Op → Type} {holds : (α : Type) → Coro Op Ans Exc α → Prop}
  (composes : Coro.Composes holds) {ask : (call : JumpCall) → Coro Op Ans Exc (JumpResult call)}
  (asks : ∀ call, Plain call → holds _ (ask call)) {audited : Bool} {identity : ResolvedIdentity}
  {nodeName : Str} {target : JumpTarget} {session : JumpSession} {now : DateTime}
include composes asks

theorem auditDenial_composes {actor : Str} {agentId sessionId : Option Uuid} {nodeName : Option Str}
    {reason : String} :
    holds _ (auditDenial ask audited actor agentId nodeName reason now sessionId) := by
  unfold auditDenial
  split
  · exact asks (.writeAudit _) trivial
  · exact composes.returns ()

theorem denial_composes {α : Type} {actor : Str} {agentId sessionId : Option Uuid}
    {nodeName : Option Str} {reason : String} {fault : Exc} :
    holds α (auditDenial ask audited actor agentId nodeName reason now sessionId >>= fun _ =>
      .raise fault) :=
  composes.sequel (auditDenial_composes composes asks) fun _ => composes.raises fault

theorem authorizedTarget_composes {command : Str} {visibleNodes : List NodeInventoryEntry}
    {presentedNodeHostKey : Option Str} :
    holds _ (authorizedTarget ask audited identity command visibleNodes presentedNodeHostKey now) := by
  unfold authorizedTarget
  split
  · exact denial_composes composes asks
  · exact composes.raises _
  apply composes.sequel (asks (.getJumpTarget _) trivial)
  rintro (none | target)
  · exact denial_composes composes asks
  apply composes.sequel (composes.ofAnswer _)
  intro _
  split
  · exact composes.returns _
  · exact denial_composes composes asks

theorem replayFault_composes {fault : Exc} :
    holds _ (replayFault ask audited identity target nodeName session now fault) := by
  unfold replayFault
  split
  · exact composes.sequel (asks (.failSession _ _) trivial) fun _ => denial_composes composes asks
  · exact composes.raises _

theorem issueCertificate_composes {replay : ReplayHandle} :
    holds _ (issueCertificate ask identity session replay now) := by
  apply composes.sequel (asks (.issue ..) trivial)
  intro certificate
  split
  · exact composes.sequel (asks (.failReplay ..) trivial) fun _ =>
      composes.sequel (asks (.failSession _ _) trivial) fun _ => composes.raises _
  · exact composes.returns _

theorem openNode_composes {replay : ReplayHandle} {certificate : IssuedUserCertificate}
    {channelId : TunnelState.ChannelId} :
    holds _ (openNode ask audited identity target nodeName session replay certificate channelId now) := by
  apply composes.handled (asks (.openSession _) trivial)
  intro fault
  unfold openFault
  split
  · exact composes.sequel (asks (.failReplay ..) trivial) fun _ =>
      composes.sequel (asks (.failSession _ _) trivial) fun _ => denial_composes composes asks
  · exact composes.raises _

theorem auditStarted_composes : holds _ (auditStarted ask audited identity target nodeName session now) := by
  unfold auditStarted
  split
  · exact asks (.writeAudit _) trivial
  · exact composes.returns ()
end Jump

/-! The jump as a whole, for what holds of all its calls. -/
section Whole
variable {Op : Type} {Ans : Op → Type} {holds : (α : Type) → Coro Op Ans Exc α → Prop}
  (composes : Coro.Composes holds) {ask : (call : JumpCall) → Coro Op Ans Exc (JumpResult call)}
  (asks : ∀ call, holds _ (ask call)) {audited : Bool}
include composes asks

theorem startExec_composes {sessionUuid channelUuid : Uuid} {identity : Option ResolvedIdentity}
    {command : Str} {width height : Int} :
    holds _ (startExec ask audited sessionUuid channelUuid identity command width height) := by
  unfold startExec
  split
  · exact composes.raises _
  apply composes.handled
  · apply composes.sequel (composes.ofAnswer _)
    intro _
    apply composes.sequel (asks _)
    intro visibleNodes
    apply composes.sequel (composes.ofAnswer _)
    intro nodeName
    apply composes.sequel (asks _)
    intro presentedHostKey
    apply composes.sequel (asks _)
    intro now
    apply composes.sequel (authorizedTarget_composes composes fun call _ => asks call)
    rintro ⟨node, target⟩
    apply composes.sequel (asks _)
    intro session
    -- from the session row on
    apply composes.sequel
    · exact composes.handled (asks (.startReplay _)) fun _ =>
        replayFault_composes composes fun call _ => asks call
    intro replay
    apply composes.sequel (issueCertificate_composes composes fun call _ => asks call)
    intro certificate
    apply composes.sequel (openNode_composes composes fun call _ => asks call)
    intro connection
    apply composes.sequel (auditStarted_composes composes fun call _ => asks call)
    exact fun _ => composes.returns _
  · intro fault
    unfold denied
    split <;> exact composes.raises _
end Whole

end VibeConnect.JumpRules
