import Mathlib.Data.Finset.Card
import VibeConnect.EnrollmentFailures
import VibeConnect.EnrollmentTokens
import VibeConnect.LimiterCount

/-! Concurrent enrollments against the limiter. The check of a call and the record of its
failure stand on either side of the store's statements, so what bounds the failures is how many
calls are past the check at once. -/
namespace VibeConnect.EnrollmentRaces
open Python.Text Python.Values Python.Coroutine Python.Tasks Models JumpCoordinator Enrollment
open TunnelAuthenticator EnrollmentLedger EnrollmentFailures EnrollmentTokens

/-- What the limiter counts by. -/
inductive Counter where
  | source (address : Str)
  | token (tokenHash : Str)

namespace Counter

def failures (limiter : EnrollmentRateLimiter) : Counter → List DateTime
  | .source address => limiter.sourceFailures address
  | .token tokenHash => limiter.tokenFailures tokenHash

def most (limiter : EnrollmentRateLimiter) : Counter → Int
  | .source _ => limiter.maxSourceFailures
  | .token _ => limiter.maxTokenFailures

/-- A request of the source, or one whose token has the hash. -/
def counts (library : EnrollmentLibrary) (request : EnrollmentRequest) : Counter → Prop
  | .source address => request.sourceAddress = address
  | .token tokenHash => EnrollmentService.tokenHashOf library request.token = .ok tokenHash

end Counter

/-- The task is a call of `enroll` at the time, and the counter counts its request. -/
def Attempts (setting : Setting) (counter : Counter) (task : Nat) (time : DateTime) : Prop :=
  ∃ request now, setting.calls task = .enroll request now ∧ now.asUtc = time ∧
    counter.counts setting.config.library request

def startedAt (setting : Setting) (task : Nat) : Option DateTime :=
  match setting.calls task with
  | .enroll _ now => some now
  | _ => none

/-- The task has reached `consume_enrollment_token` and waits for its statement. -/
def Consuming (pool : EnrollmentPool) (task : Nat) : Prop :=
  ∃ tokenHash nodeName now resume, pool.tasks task =
    some (.call (.await (.execute (.consumeActive tokenHash nodeName now))) resume)

/-- An enrollment past the check waits for anything but the event of its failure. -/
def InFlight (pool : EnrollmentPool) (task : Nat) : Prop :=
  ∃ call resume, pool.tasks task = some (.call (.await call) resume) ∧
    ∀ audit, call = .writeAudit audit → isFailure audit = false

def Failed (pool : EnrollmentPool) (task : Nat) : Prop :=
  ∃ raised, pool.tasks task = some (.raise raised) ∧ raised.isException = true

/-- A run whose steps are all `allowed`, with the pools that it has been through. -/
inductive Run (setting : Setting) (allowed : EnrollmentPool → EnrollmentPool → Prop)
    (start : EnrollmentWorld) : List EnrollmentPool → EnrollmentPool → Prop
  | start : Run setting allowed start [] ⟨fun _ => none, start⟩
  | step {past before after} : Run setting allowed start past before →
      Step enrollmentWorld (fun task program _ => program = setting.program task) before after →
      allowed before after → Run setting allowed start (past ++ [before]) after

def Reached (past : List EnrollmentPool) (pool : EnrollmentPool) (task : Nat) : Prop :=
  Consuming pool task ∨ ∃ earlier ∈ past, Consuming earlier task

/-- In every window at most so many calls have reached the store and failed. -/
def Bounded (setting : Setting) (past : List EnrollmentPool) (pool : EnrollmentPool) : Prop :=
  ∀ (counter : Counter) (tasks : Finset Nat) (late : Int),
    (∀ task ∈ tasks, Reached past pool task ∧ Failed pool task ∧ ∃ time,
      Attempts setting counter task time ∧
        late - pool.state.limiter.windowSeconds * 1000000 < time.instant ∧ time.instant ≤ late) →
    tasks.card ≤ (counter.most pool.state.limiter).toNat

/-- A call passes the check only while the failures counted for it and the calls that are past the
check leave it room, and no call starts at an earlier time than one before it. -/
structure Roomy (setting : Setting) (before after : EnrollmentPool) : Prop where
  room : ∀ task, before.tasks task = none → Consuming after task → ∀ counter time,
    Attempts setting counter task time → ∀ flying : Finset Nat,
    (∀ other ∈ flying, InFlight before other ∧ ∃ earlier, Attempts setting counter other earlier ∧
      (time.addSeconds (-before.state.limiter.windowSeconds)).instant < earlier.instant) →
    ((before.state.limiter.counted (counter.failures before.state.limiter) time).length +
      flying.card : Int) < counter.most before.state.limiter
  forward : ∀ task other earlier later, before.tasks task = none → after.tasks task ≠ none →
    before.tasks other ≠ none → startedAt setting other = some earlier →
    startedAt setting task = some later → earlier.instant ≤ later.instant

/-! The counters. -/
section Counters
variable {limiter : EnrollmentRateLimiter} {failures : List DateTime} {cutoff : Int}

/-- How many failures are later than a time. -/
def countAfter (cutoff : Int) (failures : List DateTime) : Nat :=
  failures.countP fun failure => decide (cutoff < failure.instant)

/-- Pruning takes off the front what no later window counts. -/
theorem countAfter_counted {now : DateTime}
    (passed : (now.addSeconds (-limiter.windowSeconds)).instant ≤ cutoff) :
    countAfter cutoff (limiter.counted failures now) = countAfter cutoff failures := by
  unfold countAfter EnrollmentRateLimiter.counted
  induction failures with
  | nil => rfl
  | cons failure rest ih =>
      by_cases old : failure.instant ≤ (now.addSeconds (-limiter.windowSeconds)).instant
      · have out : ¬cutoff < failure.instant := not_lt.mpr (old.trans passed)
        rw [List.dropWhile_cons_of_pos (by simpa using old), ih,
          List.countP_cons_of_neg (by simpa using out)]
      · rw [List.dropWhile_cons_of_neg (by simpa using old)]

theorem countAfter_le (limiter : EnrollmentRateLimiter) (failures : List DateTime) (now : DateTime) :
    countAfter (now.addSeconds (-limiter.windowSeconds)).instant failures ≤
      (limiter.counted failures now).length := by
  rw [← countAfter_counted le_rfl]
  exact List.countP_le_length

/-- A limiter has the same limits and still counts what is later than the cutoff. -/
structure Grown (cutoff : Int) (limiter after : EnrollmentRateLimiter) : Prop where
  source : after.maxSourceFailures = limiter.maxSourceFailures
  token : after.maxTokenFailures = limiter.maxTokenFailures
  window : after.windowSeconds = limiter.windowSeconds
  counted : ∀ (counter : Counter) later, cutoff ≤ later →
    countAfter later (counter.failures limiter) ≤ countAfter later (counter.failures after)

theorem Grown.refl (cutoff : Int) (limiter : EnrollmentRateLimiter) : Grown cutoff limiter limiter :=
  ⟨rfl, rfl, rfl, fun _ _ _ => le_rfl⟩

theorem Grown.trans {middle after : EnrollmentRateLimiter} (first : Grown cutoff limiter middle)
    (second : Grown cutoff middle after) : Grown cutoff limiter after where
  source := second.source.trans first.source
  token := second.token.trans first.token
  window := second.window.trans first.window
  counted counter later passed :=
    (first.counted counter later passed).trans (second.counted counter later passed)

theorem Grown.later {after : EnrollmentRateLimiter} (grown : Grown cutoff limiter after) {later : Int}
    (passed : cutoff ≤ later) : Grown later limiter after where
  source := grown.source
  token := grown.token
  window := grown.window
  counted counter last after := grown.counted counter last (passed.trans after)

theorem grown_isLimited (limiter : EnrollmentRateLimiter) (source tokenHash : Str) (now : DateTime) :
    Grown (now.addSeconds (-limiter.windowSeconds)).instant limiter
      (limiter.isLimited source tokenHash now).2 := by
  -- each queue is as it was or pruned
  have pruned : ∀ (table : Str → List DateTime) (key other : Str) later,
      (now.addSeconds (-limiter.windowSeconds)).instant ≤ later →
      countAfter later (table other) ≤
        countAfter later (Function.update table key (limiter.counted (table key) now) other) := by
    intro table key other later passed
    by_cases same : other = key
    · rw [same, Function.update_self, countAfter_counted passed]
    · rw [Function.update_of_ne same]
  unfold EnrollmentRateLimiter.isLimited
  dsimp only
  split
  · constructor
    · rfl
    · rfl
    · rfl
    · intro counter later passed
      cases counter with
      | source address => exact pruned _ _ _ _ passed
      | token tokenHash => exact le_rfl
  · constructor
    · rfl
    · rfl
    · rfl
    · intro counter later passed
      cases counter with
      | source address => exact pruned _ _ _ _ passed
      | token tokenHash => exact pruned _ _ _ _ passed

/-- A recorded failure goes to the end of its two queues. -/
theorem failures_recordFailure (limiter : EnrollmentRateLimiter) (source tokenHash : Str)
    (now : DateTime) (counter : Counter) :
    counter.failures (limiter.recordFailure source tokenHash now) = counter.failures limiter ∨
      counter.failures (limiter.recordFailure source tokenHash now) =
        counter.failures limiter ++ [now] := by
  cases counter with
  | source address =>
      by_cases same : address = source
      · right
        rw [same]
        exact Function.update_self ..
      · exact .inl (Function.update_of_ne same ..)
  | token hash =>
      by_cases same : hash = tokenHash
      · right
        rw [same]
        exact Function.update_self ..
      · exact .inl (Function.update_of_ne same ..)

theorem grown_recordFailure (cutoff : Int) (limiter : EnrollmentRateLimiter) (source tokenHash : Str)
    (now : DateTime) : Grown cutoff limiter (limiter.recordFailure source tokenHash now) := by
  constructor
  · rfl
  · rfl
  · rfl
  · intro counter later _
    rcases failures_recordFailure limiter source tokenHash now counter with same | more
    · rw [same]
    · rw [more, countAfter, countAfter, List.countP_append]
      exact Nat.le_add_right _ _

/-- The handler hashes a token as the check did. -/
theorem bestEffort_hashed {library : EnrollmentLibrary} {token tokenHash : Str}
    (hashed : EnrollmentService.tokenHashOf library token = .ok tokenHash) :
    bestEffortTokenHash library token = .ok tokenHash := by
  obtain ⟨secret, checked, hashed⟩ := bind_ok.mp hashed
  have some : token ≠ [] := by
    rintro rfl
    cases checked
  unfold bestEffortTokenHash
  rw [if_neg some, checked]
  exact hashed

/-- A counter that counts the request counts its failure. -/
theorem counts_recordFailure {library : EnrollmentLibrary} {request : EnrollmentRequest}
    {tokenHash : Str} {counter : Counter} (counts : counter.counts library request)
    (hashed : bestEffortTokenHash library request.token = .ok tokenHash) (now : DateTime) :
    counter.failures (limiter.recordFailure request.sourceAddress tokenHash now) =
      counter.failures limiter ++ [now] := by
  cases counter with
  | source address =>
      obtain rfl : request.sourceAddress = address := counts
      exact Function.update_self ..
  | token hash =>
      cases (bestEffort_hashed counts).symm.trans hashed
      exact Function.update_self ..
end Counters

/-! The programs. -/

/-- The program only awaits calls, none of them the event of a failure. -/
def Proceeds {α : Type} : EnrollmentTask α → Prop
  | .done _ | .raise _ => True
  | .call op resume =>
      (∃ call, op = .await call ∧ ∀ audit, call = .writeAudit audit → isFailure audit = false) ∧
        ∀ answer, Proceeds (resume answer)

theorem proceeds_composes : Coro.Composes fun (α : Type) (program : EnrollmentTask α) =>
    Proceeds program where
  returns _ := trivial
  raises _ := trivial
  sequel {α β program next} first second := by
    induction program with
    | done value => exact second value
    | raise fault => trivial
    | call op resume ih => exact ⟨first.1, fun answer => ih answer (first.2 answer)⟩
  handled {α program handler} body caught := by
    induction program with
    | done value => trivial
    | raise fault => exact caught fault
    | call op resume ih => exact ⟨body.1, fun answer => ih answer (body.2 answer)⟩

theorem proceeds_answer {α : Type} (answer : Except Exc α) :
    Proceeds (Coro.ofAnswer answer : EnrollmentTask α) := proceeds_composes.ofAnswer answer

theorem proceeds_execute (statement : Statement) : Proceeds (execute statement) := by
  refine ⟨⟨.execute statement, rfl, fun audit impossible => ?_⟩, proceeds_answer⟩
  cases impossible

theorem proceeds_audit {audit : EnrollmentAudit} (other : isFailure audit = false) :
    Proceeds (await (EnrollmentCall.writeAudit audit) : EnrollmentTask Unit) := by
  refine ⟨⟨.writeAudit audit, rfl, fun written same => ?_⟩, proceeds_answer⟩
  cases same
  exact other

section Service
variable (setting : Setting) (task : Nat) (request : EnrollmentRequest) (now : DateTime)

/-- `enroll` behind the limiter's check. -/
def pursue (tokenHash safeNodeName : Str) : EnrollmentTask EnrollmentResponse := do
  match ← (setting.serviceOf task).store.consumeEnrollmentToken tokenHash safeNodeName now.asUtc with
  | none => throw (.enrollmentError "invalid_token")
  | some record =>
      (setting.serviceOf task).enrollConsumed request (setting.draws task) safeNodeName record now.asUtc

/-- What is left of the body inside the `try` of `enroll`. -/
def attempting (body : EnrollmentTask EnrollmentResponse) : EnrollmentTask Unit := do
  let _ ← tryCatch body ((setting.serviceOf task).enrollFault request now.asUtc)
  pure ()

/-- The failure is recorded, and at most its event is still to be written. -/
def Closing : EnrollmentTask Unit → Prop
  | .done _ => False
  | .raise _ => True
  | .call op resume => (∃ audit, op = .await (.writeAudit audit) ∧ isFailure audit = true) ∧
      ∀ answer, ∃ raised, resume answer = .raise raised

variable {setting task request now}

variable (task request now) in
theorem pursue_proceeds (postgres : setting.backend = .postgres) (tokenHash safeNodeName : Str) :
    Proceeds (pursue setting task request now tokenHash safeNodeName) := by
  have store : (setting.serviceOf task).store = postgresEnrollmentStore (setting.clock task) := by
    simp [Setting.serviceOf, postgres, Backend.store]
  unfold pursue
  rw [store]
  apply proceeds_composes.sequel
  · apply proceeds_composes.sequel (proceeds_execute _)
    intro result
    cases result.row with
    | none => exact proceeds_composes.returns _
    | some row =>
        exact proceeds_composes.sequel (proceeds_answer _) fun labels => proceeds_composes.returns _
  · intro found
    cases found with
    | none => exact proceeds_composes.raises _
    | some record =>
        unfold EnrollmentService.enrollConsumed
        rw [store]
        apply proceeds_composes.sequel (proceeds_answer _)
        rintro ⟨agent, issued⟩
        apply proceeds_composes.sequel
        · apply proceeds_composes.sequel (proceeds_execute _)
          intro inserted
          exact proceeds_composes.sequel (proceeds_execute _) fun _ => proceeds_composes.returns _
        · intro _
          apply proceeds_composes.sequel (proceeds_composes.onlyIf (proceeds_audit rfl))
          intro _
          exact proceeds_composes.sequel (proceeds_answer _) fun _ => proceeds_composes.returns _

/-- The program of another call never touches the limiter. -/
theorem program_proceeds (postgres : setting.backend = .postgres)
    (other : startedAt setting task = none) : Proceeds (setting.program task) := by
  have store : (setting.serviceOf task).store = postgresEnrollmentStore (setting.clock task) := by
    simp [Setting.serviceOf, postgres, Backend.store]
  unfold startedAt at other
  unfold Setting.program
  cases call : setting.calls task with
  | enroll request now =>
      rw [call] at other
      cases other
  | createAgent request now =>
      apply proceeds_composes.sequel _ fun _ => proceeds_composes.returns _
      unfold EnrollmentService.createAgent
      rw [store]
      apply proceeds_composes.sequel (proceeds_answer _)
      intro safeNodeName
      apply proceeds_composes.sequel (proceeds_answer _)
      intro safeLabels
      apply proceeds_composes.sequel (proceeds_answer _)
      intro tokenHash
      apply proceeds_composes.sequel (proceeds_answer _)
      intro hostKey
      apply proceeds_composes.sequel
      · apply proceeds_composes.sequel (proceeds_execute _)
        intro disabled
        exact proceeds_composes.sequel (proceeds_execute _) fun _ => proceeds_composes.returns _
      · intro _
        exact proceeds_composes.sequel (proceeds_composes.onlyIf (proceeds_audit rfl)) fun _ =>
          proceeds_composes.returns _
  | expireToken nodeName actor now =>
      apply proceeds_composes.sequel _ fun _ => proceeds_composes.returns _
      unfold expireToken
      apply proceeds_composes.sequel (proceeds_answer _)
      intro safeNodeName
      apply proceeds_composes.sequel (proceeds_execute _)
      intro result
      exact proceeds_composes.sequel (proceeds_composes.onlyIf (proceeds_audit rfl)) fun _ =>
        proceeds_composes.returns _

/-- A program that only awaits stands where it is. -/
theorem Proceeds.settle {program : EnrollmentTask Unit} (proceeds : Proceeds program)
    (state : EnrollmentWorld) : settle program state = (program, state) := by
  cases program with
  | done value => rfl
  | raise fault => rfl
  | call op resume =>
      obtain ⟨call, rfl, -⟩ := proceeds.1
      rfl

variable (setting task request now) in
/-- The handler records the failure of a token that can be hashed, and then only raises. -/
theorem settle_fault (raised : Exc) (state : EnrollmentWorld) :
    (raised.isException = false ∧
      settle (attempting setting task request now (.raise raised)) state = (.raise raised, state)) ∨
    (raised.isException = true ∧ ∃ fault,
      bestEffortTokenHash setting.config.library request.token = .error fault ∧
      settle (attempting setting task request now (.raise raised)) state = (.raise fault, state)) ∨
    (raised.isException = true ∧ ∃ tokenHash rest,
      bestEffortTokenHash setting.config.library request.token = .ok tokenHash ∧ Closing rest ∧
      settle (attempting setting task request now (.raise raised)) state = (rest, { state with
        limiter := state.limiter.recordFailure request.sourceAddress tokenHash now.asUtc })) := by
  unfold attempting EnrollmentService.enrollFault EnrollmentService.recordEnrollmentFailure
  rw [Coro.handle_raise]
  by_cases exception : raised.isException = true
  · rw [if_pos exception]
    have library : (setting.serviceOf task).library = setting.config.library := rfl
    rw [library]
    cases hashed : bestEffortTokenHash setting.config.library request.token with
    | error fault => exact .inr (.inl ⟨exception, fault, rfl, rfl⟩)
    | ok tokenHash =>
        refine .inr (.inr ⟨exception, tokenHash, ?_⟩)
        cases audited : (setting.serviceOf task).audited with
        | true =>
            refine ⟨_, rfl, ?_, rfl⟩
            constructor
            · exact ⟨_, rfl, rfl⟩
            · intro answer
              cases answer with
              | error fault => exact ⟨fault, rfl⟩
              | ok written => exact ⟨.enrollmentError "enrollment failed", rfl⟩
        | false =>
            refine ⟨_, rfl, ?_, rfl⟩
            trivial
  · rw [if_neg exception]
    exact .inl ⟨Bool.eq_false_iff.mpr exception, rfl⟩

variable (setting task request now) in
/-- A failure is recorded or escapes; no window counts less after it. -/
theorem fault_grown {body : EnrollmentTask EnrollmentResponse} {raised : Exc}
    (raises : body = .raise raised) (state : EnrollmentWorld) (cutoff : Int) :
    Closing (settle (attempting setting task request now body) state).1 ∧
      Grown cutoff state.limiter
        (settle (attempting setting task request now body) state).2.limiter := by
  rw [raises]
  rcases settle_fault setting task request now raised state with ⟨-, settled⟩ | ⟨-, fault, -, settled⟩ | ⟨-, tokenHash, rest, -, closing, settled⟩
  · rw [settled]
    exact ⟨trivial, .refl ..⟩
  · rw [settled]
    exact ⟨trivial, .refl ..⟩
  · rw [settled]
    exact ⟨closing, grown_recordFailure ..⟩

variable (task request now) in
theorem pursue_call (postgres : setting.backend = .postgres) (tokenHash safeNodeName : Str) :
    ∃ resume, pursue setting task request now tokenHash safeNodeName =
      .call (.await (.execute (.consumeActive tokenHash safeNodeName now.asUtc.asUtc))) resume := by
  have store : (setting.serviceOf task).store = postgresEnrollmentStore (setting.clock task) := by
    simp [Setting.serviceOf, postgres, Backend.store]
  unfold pursue
  rw [store]
  exact ⟨_, rfl⟩

/-- The check and what hangs on it run in one go. -/
theorem settle_checked {tokenHash safeNodeName : Str}
    (named : validateNodeName request.nodeName = .ok safeNodeName)
    (hashed : EnrollmentService.tokenHashOf setting.config.library request.token = .ok tokenHash)
    (state : EnrollmentWorld) :
    settle (attempting setting task request now
      ((setting.serviceOf task).enrollBody request (setting.draws task) now.asUtc)) state =
    settle (attempting setting task request now
      (if (state.limiter.isLimited request.sourceAddress tokenHash now.asUtc).1 = true then
        .raise (.enrollmentError "rate_limited")
      else pursue setting task request now tokenHash safeNodeName))
      { state with
        limiter := (state.limiter.isLimited request.sourceAddress tokenHash now.asUtc).2 } := by
  unfold EnrollmentService.enrollBody
  have library : (setting.serviceOf task).library = setting.config.library := rfl
  rw [library, named, hashed]
  rfl

/-- A call that is started fails at once, or passes the check and reaches the store. -/
theorem settle_started (postgres : setting.backend = .postgres)
    (called : setting.calls task = .enroll request now) (state : EnrollmentWorld) :
    Grown (now.asUtc.addSeconds (-state.limiter.windowSeconds)).instant state.limiter
      (settle (setting.program task) state).2.limiter ∧
    (Closing (settle (setting.program task) state).1 ∨ ∃ tokenHash safeNodeName,
      EnrollmentService.tokenHashOf setting.config.library request.token = .ok tokenHash ∧
      (settle (setting.program task) state).1 =
        attempting setting task request now (pursue setting task request now tokenHash safeNodeName)) := by
  have program : setting.program task = attempting setting task request now
      ((setting.serviceOf task).enrollBody request (setting.draws task) now.asUtc) := by
    unfold Setting.program
    rw [called]
    rfl
  rw [program]
  cases named : validateNodeName request.nodeName with
  | error raised =>
      have raises : (setting.serviceOf task).enrollBody request (setting.draws task) now.asUtc =
          .raise raised := by
        unfold EnrollmentService.enrollBody
        rw [named]
        rfl
      obtain ⟨closing, grown⟩ := fault_grown setting task request now raises state _
      exact ⟨grown, .inl closing⟩
  | ok safeNodeName =>
  cases hashed : EnrollmentService.tokenHashOf setting.config.library request.token with
  | error raised =>
      have raises : (setting.serviceOf task).enrollBody request (setting.draws task) now.asUtc =
          .raise raised := by
        unfold EnrollmentService.enrollBody
        have library : (setting.serviceOf task).library = setting.config.library := rfl
        rw [library, named, hashed]
        rfl
      obtain ⟨closing, grown⟩ := fault_grown setting task request now raises state _
      exact ⟨grown, .inl closing⟩
  | ok tokenHash =>
  rw [settle_checked named hashed]
  have pruned := grown_isLimited state.limiter request.sourceAddress tokenHash now.asUtc
  split
  · obtain ⟨closing, grown⟩ := fault_grown setting task request now rfl
      { state with
        limiter := (state.limiter.isLimited request.sourceAddress tokenHash now.asUtc).2 } _
    exact ⟨pruned.trans grown, .inl closing⟩
  · obtain ⟨resume, call⟩ := pursue_call task request now postgres tokenHash safeNodeName
    rw [call]
    refine ⟨pruned, .inr ⟨tokenHash, safeNodeName, rfl, ?_⟩⟩
    rw [call]
    rfl
end Service

section Runs
variable {setting : Setting} {past : List EnrollmentPool} {before after : EnrollmentPool} {task : Nat}

theorem Attempts.started {counter : Counter} {time : DateTime} (attempts : Attempts setting counter task time) :
    ∃ now, startedAt setting task = some now ∧ now.asUtc = time := by
  obtain ⟨request, now, called, same, -⟩ := attempts
  refine ⟨now, ?_, same⟩
  unfold startedAt
  rw [called]

theorem Reached.later (reached : Reached past before task) (after : EnrollmentPool) :
    Reached (past ++ [before]) after task := by
  right
  rcases reached with now | ⟨earlier, member, was⟩
  · exact ⟨before, List.mem_append_right _ List.mem_cons_self, now⟩
  · exact ⟨earlier, List.mem_append_left _ member, was⟩

theorem Reached.earlier (reached : Reached (past ++ [before]) after task) :
    Reached past before task ∨ Consuming after task := by
  rcases reached with now | ⟨earlier, member, was⟩
  · exact .inr now
  · rcases List.mem_append.mp member with member | member
    · exact .inl (.inr ⟨earlier, member, was⟩)
    · cases List.mem_singleton.mp member
      exact .inl (.inl was)
end Runs

end VibeConnect.EnrollmentRaces
