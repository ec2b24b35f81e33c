import Mathlib.Data.List.DropRight
import VibeConnect.EnrollmentRollback

/-! Failed enrollments and what is kept of them. One call of `enroll` runs alone
over either store with an audit writer that works. The handler of a failure
hashes the token once more, so a token that cannot be hashed escapes it. -/
namespace VibeConnect.EnrollmentFailures
open Python.Text Python.Values Python.Coroutine Python.Tasks Models JumpCoordinator Enrollment
open TunnelAuthenticator EnrollmentLedger EnrollmentRollback

/-- The world with the audit events that have been written. -/
structure Journal where
  world : EnrollmentWorld
  events : List EnrollmentAudit

/-- The store as in `dependencies`; every audit event is written. -/
def journaled (faults : Statement → Option Exc) :
    Coro.Server (TaskOp EnrollmentWorld EnrollmentCall Exc)
      (TaskAns EnrollmentWorld EnrollmentResult) Exc Journal
  | .look, journal => (.ok journal.world, journal)
  | .atomic block, journal => ((block journal.world).1, { journal with world := (block journal.world).2 })
  | .await (.execute statement), journal => match faults statement with
      | some raised => (.error raised, journal)
      | none => ((journal.world.execute 0 statement).1,
          { journal with world := (journal.world.execute 0 statement).2 })
  | .await (.writeAudit audit), journal => (.ok (), { journal with events := journal.events ++ [audit] })

def isFailure (audit : EnrollmentAudit) : Bool := audit.eventType == .ENROLLMENT_FAILED

section Attempts
variable (attempt : Attempt)

def enrolls (world : EnrollmentWorld) : Except Exc EnrollmentResponse × Journal :=
  (attempt.service.enroll attempt.request attempt.draws attempt.now).run
    (journaled attempt.faults.statement) ⟨world, []⟩

/-- The failures of the source address, as they were or with the old ones out. -/
def Kept (world : EnrollmentWorld) (failures : List DateTime) : Prop :=
  let before := world.limiter.sourceFailures attempt.request.sourceAddress
  failures = before ∨ failures = world.limiter.counted before attempt.now.asUtc

/-- A call that raises raises `EnrollmentError`, with one failure more for its
source and one event that says so. -/
def Accounted (world : EnrollmentWorld) : Prop :=
  ∀ raised after, enrolls attempt world = (.error raised, after) →
    (∃ message, raised = .enrollmentError message) ∧
    (∃ failures, Kept attempt world failures ∧
      after.world.limiter.sourceFailures attempt.request.sourceAddress =
        failures ++ [attempt.now.asUtc]) ∧
    after.events.countP isFailure = 1

/-- A token that the handler can hash, or need not. -/
def Hashable : Prop :=
  attempt.request.token.length < GENERATED_SECRET_MIN_CHARS ∨
    (encode attempt.request.token).isSome

/-- The store and the libraries fail with exceptions; a cancellation is none. -/
structure Ordinary : Prop where
  statement : ∀ statement raised, attempt.faults.statement statement = some raised →
    raised.isException = true
  importPublicKey : ∀ text raised, attempt.config.library.importPublicKey text = .error raised →
    raised.isException = true
  loadPemPublicKey : ∀ bytes raised, attempt.config.library.loadPemPublicKey bytes = .error raised →
    raised.isException = true
  sign : ∀ request raised, attempt.config.library.sign request = .error raised →
    raised.isException = true
end Attempts

/-- An answer whose error is an exception. -/
def Answered {α : Type} (answer : Except Exc α) : Prop :=
  ∀ raised, answer = .error raised → raised.isException = true

section Answers
variable {α β : Type}

theorem answered_ok (value : α) : Answered (.ok value) := by
  intro raised impossible
  cases impossible

theorem answered_error {raised : Exc} (exception : raised.isException = true) :
    Answered (.error raised : Except Exc α) := by
  rintro _ ⟨⟩
  exact exception

theorem answered_bind {answer : Except Exc α} {next : α → Except Exc β} (first : Answered answer)
    (second : ∀ value, Answered (next value)) : Answered (answer >>= next) := by
  cases answer with
  | error raised => exact answered_error (first raised rfl)
  | ok value => exact second value

theorem validateNodeName_answered (name : Str) : Answered (validateNodeName name) := by
  unfold validateNodeName
  split
  · exact answered_ok _
  · exact answered_error rfl

theorem validateLabel_answered (value : Str) : Answered (validateLabel value) := by
  unfold validateLabel
  split
  · exact answered_ok _
  · exact answered_error rfl

theorem labelsOf_answered (labels : List Str) : Answered (labelsOf labels) := by
  unfold labelsOf
  induction labels with
  | nil => exact answered_ok _
  | cons first rest ih =>
      rw [List.mapM_cons]
      exact answered_bind (validateLabel_answered first) fun _ =>
        answered_bind ih fun _ => answered_ok _

theorem secretValue_answered (value : Str) : Answered (secretValue value) := by
  unfold secretValue
  split
  · exact answered_error rfl
  · exact answered_ok _

theorem encodeAscii_answered (text : Str) : Answered (encodeAscii text) := by
  unfold encodeAscii
  split
  · exact answered_ok _
  · exact answered_error rfl

theorem decodeAscii_answered (bytes : Bytes) : Answered (decodeAscii bytes) := by
  unfold decodeAscii
  split
  · exact answered_ok _
  · exact answered_error rfl

section Library
variable {attempt : Attempt} (ordinary : Ordinary attempt)

theorem sha256HexOf_answered (secret : Str) :
    Answered (sha256HexOf attempt.config.library.toLibrary secret) := by
  unfold sha256HexOf
  split
  · exact answered_ok _
  · exact answered_error rfl

theorem tokenHashOf_answered (token : Str) :
    Answered (EnrollmentService.tokenHashOf attempt.config.library token) :=
  answered_bind (secretValue_answered token) sha256HexOf_answered

include ordinary

theorem validateNodeSshHostPublicKey_answered (value : Str) :
    Answered (validateNodeSshHostPublicKey attempt.config.library value) := by
  unfold validateNodeSshHostPublicKey
  dsimp only
  split
  · exact answered_error rfl
  split
  · rename_i raised checked
    split
    · exact answered_error rfl
    · exact answered_error (ordinary.importPublicKey _ _ checked)
  · split
    · exact answered_ok _
    · exact answered_error rfl

theorem requestedHostKey_answered (value : Str) :
    Answered (EnrollmentService.requestedHostKey attempt.config.library value) := by
  unfold EnrollmentService.requestedHostKey
  split
  · exact answered_ok _
  rename_i raised checked
  split
  · exact answered_error rfl
  · exact answered_error (validateNodeSshHostPublicKey_answered ordinary value raised checked)

theorem loadAgentPublicKey_answered (publicKeyPem : Str) :
    Answered (loadAgentPublicKey attempt.config.library publicKeyPem) := by
  apply answered_bind (encodeAscii_answered publicKeyPem)
  intro pem
  apply answered_bind (ordinary.loadPemPublicKey pem)
  intro key
  cases key with
  | ed25519 raw => exact answered_ok _
  | other => exact answered_error rfl

theorem issueAgentClientCertificate_answered (key : Bytes) (nodeName : Str) (agentId : Uuid)
    (now : DateTime) (lifetimeDays : Int) : Answered (issueAgentClientCertificate
      attempt.config.library key nodeName agentId now lifetimeDays) := by
  unfold issueAgentClientCertificate
  split
  · exact answered_error rfl
  apply answered_bind (validateNodeName_answered nodeName)
  intro safeNodeName
  apply answered_bind (ordinary.sign _)
  intro issued
  exact answered_ok _

theorem agentOf_answered (safeNodeName : Str) (record : EnrollmentTokenRecord) :
    Answered (attempt.service.agentOf attempt.request attempt.draws safeNodeName record
      attempt.now.asUtc) := by
  apply answered_bind (requestedHostKey_answered ordinary _)
  intro hostKey
  split
  · exact answered_error rfl
  apply answered_bind (loadAgentPublicKey_answered ordinary _)
  intro agentPublicKey
  apply answered_bind (secretValue_answered _)
  intro tunnelSecret
  apply answered_bind (issueAgentClientCertificate_answered ordinary _ _ _ _ _)
  intro issued
  apply answered_bind (sha256HexOf_answered tunnelSecret)
  intro tunnelSecretHash
  exact answered_ok _
end Library
end Answers

theorem isLimited_limiter (limiter : EnrollmentRateLimiter) (source tokenHash : Str) (now : DateTime) :
    (limiter.isLimited source tokenHash now).2.sourceFailures source =
        limiter.counted (limiter.sourceFailures source) now ∧
      (limiter.isLimited source tokenHash now).2.windowSeconds = limiter.windowSeconds := by
  unfold EnrollmentRateLimiter.isLimited
  dsimp only
  split
  · exact ⟨Function.update_self .., rfl⟩
  · exact ⟨Function.update_self .., rfl⟩

theorem counted_window {one two : EnrollmentRateLimiter} (same : one.windowSeconds = two.windowSeconds)
    (failures : List DateTime) (now : DateTime) : one.counted failures now = two.counted failures now := by
  unfold EnrollmentRateLimiter.counted
  rw [same]

/-- No failure is recorded yet. -/
structure Unfailed (attempt : Attempt) (world : EnrollmentWorld) (journal : Journal) : Prop where
  kept : Kept attempt world (journal.world.limiter.sourceFailures attempt.request.sourceAddress)
  window : journal.world.limiter.windowSeconds = world.limiter.windowSeconds
  events : journal.events.countP isFailure = 0

section Orders
variable {α β : Type} {attempt : Attempt} {world : EnrollmentWorld}

/-- A program that records no failure and raises only exceptions. -/
def Orderly (attempt : Attempt) (world : EnrollmentWorld) (program : EnrollmentTask α) : Prop :=
  ∀ journal, Unfailed attempt world journal →
    program.wp (fun op answer before after => journaled attempt.faults.statement op before = (answer, after))
      (fun _ _ => True) (fun outcome after => Unfailed attempt world after ∧ Answered outcome) journal

theorem orderly_answer {answer : Except Exc α} (answered : Answered answer) :
    Orderly attempt world (Coro.ofAnswer answer) :=
  fun _ unfailed => Coro.wp_ofAnswer ⟨unfailed, answered⟩

theorem orderly_bind {program : EnrollmentTask α} {next : α → EnrollmentTask β}
    (first : Orderly attempt world program) (second : ∀ value, Orderly attempt world (next value)) :
    Orderly attempt world (program >>= next) := by
  intro journal unfailed
  refine Coro.wp_bind (Coro.wp_mono ?_ (first journal unfailed))
  rintro (raised | value) after ⟨still, answered⟩
  · exact ⟨still, answered_error (answered raised rfl)⟩
  · exact second value after still

theorem orderly_onlyIf {flag : Bool} {body : EnrollmentTask Unit} (orderly : Orderly attempt world body) :
    Orderly attempt world (Coro.onlyIf flag body) := fun journal unfailed =>
  Coro.wp_onlyIf (fun _ => orderly journal unfailed) fun _ => ⟨unfailed, answered_ok _⟩

/-- A change of the world keeps its limiter, or takes old failures out of it. -/
theorem orderly_change {block : EnrollmentWorld → Except Exc α × EnrollmentWorld}
    (kept : ∀ journal, Unfailed attempt world journal →
      Unfailed attempt world { journal with world := (block journal.world).2 } ∧
        Answered (block journal.world).1) : Orderly attempt world (change block) := by
  intro journal unfailed
  obtain ⟨still, answered⟩ := kept journal unfailed
  refine Coro.wp_bind (wp_look trivial ?_)
  rintro answer after ⟨⟩
  refine Coro.wp_bind (wp_atomic trivial ?_)
  rintro answer after ⟨⟩
  exact Coro.wp_ofAnswer ⟨still, answered⟩

theorem execute_limiter (task : Nat) (statement : Statement) (before : EnrollmentWorld) :
    (before.execute task statement).2.limiter = before.limiter ∧
      Answered (before.execute task statement).1 := by
  unfold EnrollmentWorld.execute
  split
  · rename_i raised ran
    refine ⟨rfl, answered_error ?_⟩
    cases statement with
    | insertToken row =>
        unfold Statement.run at ran
        dsimp only at ran
        repeat' split at ran
        all_goals cases ran
        all_goals rfl
    | insertAgent agent =>
        unfold Statement.run at ran
        dsimp only at ran
        split at ran
        all_goals cases ran
        rfl
    | _ => cases ran
  · exact ⟨rfl, answered_ok _⟩

theorem Unfailed.execute {journal : Journal} (unfailed : Unfailed attempt world journal)
    (statement : Statement) :
    Unfailed attempt world { journal with world := (journal.world.execute 0 statement).2 } := by
  have same := (execute_limiter 0 statement journal.world).1
  refine ⟨?_, ?_, unfailed.events⟩
  · rw [same]
    exact unfailed.kept
  · rw [same]
    exact unfailed.window

theorem orderly_execute (ordinary : Ordinary attempt) (statement : Statement) :
    Orderly attempt world (execute statement) := by
  intro journal unfailed
  refine @wp_call _ _ _ EnrollmentResult _ _ _ _ (.execute statement) _ trivial ?_
  intro answer after given
  cases refused : attempt.faults.statement statement with
  | some raised =>
      simp only [journaled, refused] at given
      cases given
      exact ⟨unfailed, answered_error (ordinary.statement statement raised refused)⟩
  | none =>
      simp only [journaled, refused] at given
      cases given
      exact ⟨unfailed.execute statement, (execute_limiter 0 statement journal.world).2⟩

theorem orderly_audit {audit : EnrollmentAudit} (other : isFailure audit = false) :
    Orderly attempt world (await (EnrollmentCall.writeAudit audit)) := by
  intro journal unfailed
  refine @wp_call _ _ _ EnrollmentResult _ _ _ _ (.writeAudit audit) _ trivial ?_
  rintro answer after ⟨⟩
  refine ⟨⟨unfailed.kept, unfailed.window, ?_⟩, answered_ok _⟩
  rw [List.countP_append, unfailed.events, List.countP_singleton, other]
  rfl

theorem orderly_throw {raised : Exc} (exception : raised.isException = true) :
    Orderly attempt world (throw raised : EnrollmentTask α) :=
  fun _ unfailed => ⟨unfailed, answered_error exception⟩

/-- The limiter's look at the two windows. -/
theorem orderly_isLimited (tokenHash : Str) : Orderly attempt world (change fun before =>
    let (limited, limiter) := before.limiter.isLimited attempt.request.sourceAddress tokenHash
      attempt.now.asUtc
    (.ok limited, { before with limiter := limiter })) := by
  apply orderly_change
  intro journal unfailed
  obtain ⟨counted, window⟩ := isLimited_limiter journal.world.limiter attempt.request.sourceAddress
    tokenHash attempt.now.asUtc
  refine ⟨⟨.inr ?_, window.trans unfailed.window, unfailed.events⟩, answered_ok _⟩
  refine counted.trans ?_
  rw [counted_window unfailed.window]
  rcases unfailed.kept with same | same
  · rw [same]
  · rw [same]
    exact List.dropWhile_idempotent _ _

theorem orderly_store (statement : Statement) :
    Orderly attempt world (change (EnrollmentWorld.execute 0 statement)) := by
  apply orderly_change
  intro journal unfailed
  exact ⟨unfailed.execute statement, (execute_limiter 0 statement journal.world).2⟩

theorem orderly_consume (ordinary : Ordinary attempt) (tokenHash nodeName : Str) :
    Orderly attempt world
      (attempt.service.store.consumeEnrollmentToken tokenHash nodeName attempt.now.asUtc) := by
  cases backend : attempt.backend with
  | postgres =>
      rw [store_postgres backend]
      apply orderly_bind (orderly_execute ordinary _)
      intro result
      split
      · exact orderly_answer (answered_ok _)
      · exact orderly_bind (orderly_answer (labelsOf_answered _)) fun _ =>
          orderly_answer (answered_ok _)
  | inMemory =>
      rw [store_inMemory backend]
      apply orderly_bind (orderly_store _)
      intro result
      split
      · exact orderly_answer (answered_ok _)
      · exact orderly_answer (answered_ok _)

theorem orderly_persist (ordinary : Ordinary attempt) (agent : StoredAgent) :
    Orderly attempt world (attempt.service.store.persistAgent agent) := by
  cases backend : attempt.backend with
  | postgres =>
      rw [store_postgres backend]
      exact orderly_bind (orderly_execute ordinary _) fun _ =>
        orderly_bind (orderly_execute ordinary _) fun _ => orderly_answer (answered_ok _)
  | inMemory =>
      rw [store_inMemory backend]
      exact orderly_bind (orderly_store _) fun _ => orderly_answer (answered_ok _)

theorem orderly_consumed (ordinary : Ordinary attempt) (safeNodeName : Str)
    (record : EnrollmentTokenRecord) :
    Orderly attempt world (attempt.service.enrollConsumed attempt.request attempt.draws safeNodeName
      record attempt.now.asUtc) := by
  apply orderly_bind (orderly_answer (agentOf_answered ordinary safeNodeName record))
  rintro ⟨agent, issued⟩
  apply orderly_bind (orderly_persist ordinary agent)
  intro _
  apply orderly_bind (orderly_onlyIf (orderly_audit rfl))
  intro _
  apply orderly_bind (orderly_answer (decodeAscii_answered _))
  intro certificate
  exact orderly_answer (answered_ok _)

/-- The `try` block records no failure. -/
theorem orderly_body (ordinary : Ordinary attempt) : Orderly attempt world
    (attempt.service.enrollBody attempt.request attempt.draws attempt.now.asUtc) := by
  apply orderly_bind (orderly_answer (validateNodeName_answered _))
  intro safeNodeName
  apply orderly_bind (orderly_answer (tokenHashOf_answered _))
  intro tokenHash
  apply orderly_bind (orderly_isLimited tokenHash)
  intro limited
  split
  · exact orderly_throw rfl
  apply orderly_bind (orderly_consume ordinary tokenHash safeNodeName)
  intro record
  cases record with
  | none => exact orderly_throw rfl
  | some record => exact orderly_consumed ordinary safeNodeName record
end Orders

section Handler
variable {attempt : Attempt} {world : EnrollmentWorld}

/-- What the handler makes of the token. -/
theorem bestEffort_hashable (library : EnrollmentLibrary) (token : Str) :
    (∃ tokenHash, bestEffortTokenHash library token = .ok tokenHash) ↔
      token.length < GENERATED_SECRET_MIN_CHARS ∨ (encode token).isSome := by
  unfold bestEffortTokenHash secretValue sha256HexOf
  by_cases empty : token = []
  · simp [empty, GENERATED_SECRET_MIN_CHARS]
  by_cases short : token.length < GENERATED_SECRET_MIN_CHARS
  · simp [empty, short]
  · cases encoded : encode token <;> simp [empty, short, encoded]

theorem bestEffort_escapes {library : EnrollmentLibrary} {token : Str}
    (unhashable : ¬(token.length < GENERATED_SECRET_MIN_CHARS ∨ (encode token).isSome)) :
    bestEffortTokenHash library token = .error .unicodeEncodeError ∧
      EnrollmentService.tokenHashOf library token = .error .unicodeEncodeError := by
  obtain ⟨long, unencoded⟩ := not_or.mp unhashable
  have none : encode token = none := Option.not_isSome_iff_eq_none.mp unencoded
  have some : token ≠ [] := by
    rintro rfl
    exact long (by decide)
  unfold bestEffortTokenHash EnrollmentService.tokenHashOf secretValue
  rw [if_neg some, if_neg long]
  have raises : sha256HexOf library.toLibrary token = .error .unicodeEncodeError := by
    rw [sha256HexOf, none]
  exact ⟨raises, raises⟩

/-- The handler records one failure for the source. -/
theorem fault_accounts (audited : attempt.config.audited = true) {tokenHash : Str}
    (hashed : bestEffortTokenHash attempt.config.library attempt.request.token = .ok tokenHash)
    {raised : Exc} (exception : raised.isException = true) {journal : Journal}
    (unfailed : Unfailed attempt world journal) :
    (attempt.service.enrollFault attempt.request attempt.now.asUtc raised).wp
      (fun op answer before after => journaled attempt.faults.statement op before = (answer, after))
      (fun _ _ => True) (fun outcome after =>
        outcome = .error (.enrollmentError "enrollment failed") ∧
        (∃ failures, Kept attempt world failures ∧
          after.world.limiter.sourceFailures attempt.request.sourceAddress =
            failures ++ [attempt.now.asUtc]) ∧
        after.events.countP isFailure = 1) journal := by
  unfold EnrollmentService.enrollFault
  rw [if_pos exception]
  apply Coro.wp_bind
  refine Coro.wp_bind (Coro.wp_ofAnswer ?_)
  rw [show bestEffortTokenHash attempt.service.library attempt.request.token = .ok tokenHash from hashed]
  refine Coro.wp_bind (wp_atomic trivial ?_)
  rintro answer recorded ⟨⟩
  rw [show attempt.service.audited = true from audited]
  refine @wp_call _ _ _ EnrollmentResult _ _ _ _ (.writeAudit _) _ trivial ?_
  rintro answer after ⟨⟩
  refine ⟨rfl, ⟨_, unfailed.kept, Function.update_self ..⟩, ?_⟩
  rw [List.countP_append, unfailed.events]
  rfl

/-- A token that cannot be hashed leaves the call with the error of its hash. -/
theorem enroll_escapes (unhashable : ¬Hashable attempt) (world : EnrollmentWorld) :
    enrolls attempt world = (.error .unicodeEncodeError, ⟨world, []⟩) := by
  obtain ⟨escapes, unhashed⟩ := @bestEffort_escapes attempt.config.library _ unhashable
  have handled : ∀ raised : Exc, raised.isException = true →
      attempt.service.enrollFault attempt.request attempt.now.asUtc raised =
        .raise .unicodeEncodeError := by
    intro raised exception
    unfold EnrollmentService.enrollFault EnrollmentService.recordEnrollmentFailure
    rw [if_pos exception,
      show bestEffortTokenHash attempt.service.library attempt.request.token = _ from escapes]
    rfl
  have body : ∃ raised : Exc, raised.isException = true ∧
      attempt.service.enrollBody attempt.request attempt.draws attempt.now.asUtc = .raise raised := by
    unfold EnrollmentService.enrollBody
    cases named : validateNodeName attempt.request.nodeName with
    | error raised => exact ⟨raised, validateNodeName_answered _ _ named, rfl⟩
    | ok safeNodeName =>
        refine ⟨.unicodeEncodeError, rfl, ?_⟩
        rw [show EnrollmentService.tokenHashOf attempt.service.library attempt.request.token = _
          from unhashed]
        rfl
  obtain ⟨raised, exception, same⟩ := body
  unfold enrolls EnrollmentService.enroll
  rw [same, Coro.handle_raise, handled raised exception, Coro.run_raise]

/-- A failed enrollment is accounted for exactly if the handler can hash the
token or need not. -/
theorem enroll_accounted {attempt : Attempt} (audited : attempt.config.audited = true)
    (ordinary : Ordinary attempt) (world : EnrollmentWorld) :
    Accounted attempt world ↔ Hashable attempt := by
  constructor
  · intro accounted
    by_contra unhashable
    obtain ⟨⟨message, impossible⟩, -⟩ := accounted _ _ (enroll_escapes unhashable world)
    cases impossible
  · intro hashable raised after ran
    obtain ⟨tokenHash, hashed⟩ := (bestEffort_hashable attempt.config.library _).mpr hashable
    have start : Unfailed attempt world ⟨world, []⟩ := ⟨.inl rfl, rfl, rfl⟩
    have whole : (attempt.service.enroll attempt.request attempt.draws attempt.now).wp
        (fun op answer before after => journaled attempt.faults.statement op before = (answer, after))
        (fun _ _ => True) (fun outcome after => ∀ raised, outcome = .error raised →
          (∃ message, raised = .enrollmentError message) ∧
          (∃ failures, Kept attempt world failures ∧
            after.world.limiter.sourceFailures attempt.request.sourceAddress =
              failures ++ [attempt.now.asUtc]) ∧
          after.events.countP isFailure = 1) ⟨world, []⟩ := by
      refine Coro.wp_handle (Coro.wp_mono ?_ (orderly_body ordinary _ start))
      rintro (fault | response) middle ⟨unfailed, answered⟩
      · refine Coro.wp_mono ?_ (fault_accounts audited hashed (answered fault rfl) unfailed)
        rintro outcome last ⟨rfl, recorded, counted⟩ raised ⟨⟩
        exact ⟨⟨_, rfl⟩, recorded, counted⟩
      · intro raised impossible
        cases impossible
    have ends := Coro.wp_run whole
    rw [show Coro.run _ _ _ = _ from ran] at ends
    exact ends raised rfl
end Handler

theorem attemptOne_ordinary : Ordinary attemptOne where
  statement _ _ impossible := by cases impossible
  importPublicKey text raised failed := by
    change (if text = nodeKeyOne then _ else _) = _ at failed
    split at failed
    · cases failed
    · cases failed
      rfl
  loadPemPublicKey bytes raised failed := by
    change (if encodeAscii agentKeyPemOne = .ok bytes then _ else _) = _ at failed
    split at failed
    · cases failed
    · cases failed
      rfl
  sign _ _ impossible := by cases impossible

/-- A host key mismatch is accounted for. -/
theorem mismatch_accounted : Accounted attemptOne ⟨⟨[rowOne], []⟩, .new, []⟩ :=
  (enroll_accounted rfl attemptOne_ordinary _).mpr (.inr (by decide +kernel))

/-- The same request with 43 lone surrogates for a token. -/
def attemptSurrogates : Attempt :=
  { attemptOne with
    request := { attemptOne.request with token := List.replicate 43 (point 0xD800) } }

/-- They reach the caller as an error of the codec, with nothing recorded. -/
theorem surrogates_unaccounted : ¬Accounted attemptSurrogates ⟨⟨[rowOne], []⟩, .new, []⟩ := by
  intro accounted
  have unhashable : ¬Hashable attemptSurrogates := by
    rintro (short | encodes)
    · revert short
      decide
    · revert encodes
      decide +kernel
  obtain ⟨⟨message, impossible⟩, -⟩ := accounted _ _ (enroll_escapes unhashable _)
  cases impossible

end VibeConnect.EnrollmentFailures
