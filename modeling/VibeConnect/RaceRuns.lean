import VibeConnect.EnrollmentRaces

/-! The runs of concurrent enrollments. A failed call is in the limiter's queues or was seen as in
flight by every call that passed the check after it, and so the calls of a window are few. -/
namespace VibeConnect.RaceRuns
open Python.Text Python.Values Python.Coroutine Python.Tasks Models JumpCoordinator Enrollment
open TunnelAuthenticator EnrollmentLedger EnrollmentFailures EnrollmentTokens EnrollmentRaces

/-- Where a call of `enroll` stands: past the check, or at its end. -/
inductive Stage (setting : Setting) (task : Nat) (request : EnrollmentRequest) (now : DateTime)
    (reached : Prop) : EnrollmentTask Unit → Prop
  | waits {call : EnrollmentCall} {resume tokenHash} : reached →
      EnrollmentService.tokenHashOf setting.config.library request.token = .ok tokenHash →
      Proceeds (.call (.await call) resume : EnrollmentTask EnrollmentResponse) →
      Stage setting task request now reached
        (attempting setting task request now (.call (.await call) resume))
  | ended : Stage setting task request now reached (.done ())
  | closing {program} : Closing program → Stage setting task request now reached program

/-- The call has not succeeded and was not cancelled. -/
def Live (pool : EnrollmentPool) (task : Nat) : Prop :=
  ∃ program, pool.tasks task = some program ∧ program ≠ .done () ∧
    ∀ raised, program = .raise raised → raised.isException = true

/-- The call has left its failure with the limiter. -/
def Recorded (past : List EnrollmentPool) (pool : EnrollmentPool) (task : Nat) : Prop :=
  Reached past pool task ∧ Live pool task ∧ ¬InFlight pool task

/-- The cutoff is not before the window of any call so far. -/
def Passed (setting : Setting) (pool : EnrollmentPool) (windowSeconds cutoff : Int) : Prop :=
  ∀ task now, startedAt setting task = some now → pool.tasks task ≠ none →
    (now.asUtc.addSeconds (-windowSeconds)).instant ≤ cutoff

/-- The recorded failures that are later than a cutoff are in the limiter's queues. -/
def Accounted (setting : Setting) (past : List EnrollmentPool) (pool : EnrollmentPool) : Prop :=
  ∀ (counter : Counter) (cutoff : Int),
    Passed setting pool pool.state.limiter.windowSeconds cutoff → ∀ tasks : Finset Nat,
    (∀ task ∈ tasks, Recorded past pool task ∧ ∃ time, Attempts setting counter task time ∧
      cutoff < time.instant) →
    tasks.card ≤ countAfter cutoff (counter.failures pool.state.limiter)

/-- The calls that reached the store and have not succeeded are few in every window. -/
def Few (setting : Setting) (past : List EnrollmentPool) (pool : EnrollmentPool) : Prop :=
  ∀ (counter : Counter) (tasks : Finset Nat) (late : Int),
    (∀ task ∈ tasks, Reached past pool task ∧ Live pool task ∧ ∃ time,
      Attempts setting counter task time ∧
        late - pool.state.limiter.windowSeconds * 1000000 < time.instant ∧ time.instant ≤ late) →
    tasks.card ≤ (counter.most pool.state.limiter).toNat

structure Sound (setting : Setting) (past : List EnrollmentPool) (pool : EnrollmentPool) : Prop where
  stages : ∀ task request now program, setting.calls task = .enroll request now →
    pool.tasks task = some program →
    Stage setting task request now (Reached past pool task) program
  others : ∀ task program, startedAt setting task = none → pool.tasks task = some program →
    Proceeds program
  known : ∀ task, Reached past pool task → pool.tasks task ≠ none
  account : Accounted setting past pool
  few : Few setting past pool

section Runs
variable {setting : Setting} {past : List EnrollmentPool} {before after : EnrollmentPool} {key : Nat}
  {rest : EnrollmentTask Unit}

/-- One task has moved on. -/
def Moved (before after : EnrollmentPool) (key : Nat) (rest : EnrollmentTask Unit) : Prop :=
  after.tasks = Function.update before.tasks key (some rest)

theorem Moved.self (moved : Moved before after key rest) : after.tasks key = some rest := by
  rw [moved, Function.update_self]

theorem Moved.other (moved : Moved before after key rest) {other : Nat} (differs : other ≠ key) :
    after.tasks other = before.tasks other := by
  rw [moved, Function.update_of_ne differs]

theorem Moved.known (moved : Moved before after key rest) {other : Nat}
    (there : before.tasks other ≠ none) : after.tasks other ≠ none := by
  by_cases same : other = key
  · rw [same, moved.self]
    exact Option.some_ne_none rest
  · rwa [moved.other same]

theorem Moved.reached (moved : Moved before after key rest) {other : Nat} (differs : other ≠ key)
    (reached : Reached (past ++ [before]) after other) : Reached past before other := by
  rcases reached.earlier with was | now
  · exact was
  · unfold Consuming at now
    rw [moved.other differs] at now
    exact .inl now

theorem Moved.live (moved : Moved before after key rest) {other : Nat} (differs : other ≠ key) :
    Live after other ↔ Live before other := by
  unfold Live
  rw [moved.other differs]

theorem Moved.inFlight (moved : Moved before after key rest) {other : Nat} (differs : other ≠ key) :
    InFlight after other ↔ InFlight before other := by
  unfold InFlight
  rw [moved.other differs]

theorem Moved.recorded (moved : Moved before after key rest) {other : Nat} (differs : other ≠ key)
    (recorded : Recorded (past ++ [before]) after other) : Recorded past before other := by
  obtain ⟨reached, live, grounded⟩ := recorded
  refine ⟨moved.reached differs reached, (moved.live differs).mp live, fun flying => grounded ?_⟩
  exact (moved.inFlight differs).mpr flying

theorem Moved.passed (moved : Moved before after key rest) {windowSeconds cutoff : Int}
    (passed : Passed setting after windowSeconds cutoff) : Passed setting before windowSeconds cutoff :=
  fun task now started there => passed task now started (moved.known there)

/-- A step that records nothing of its task keeps the account. -/
theorem Accounted.kept (account : Accounted setting past before) (moved : Moved before after key rest)
    (grown : ∀ cutoff, Passed setting after before.state.limiter.windowSeconds cutoff →
      Grown cutoff before.state.limiter after.state.limiter)
    (window : after.state.limiter.windowSeconds = before.state.limiter.windowSeconds)
    (was : ∀ counter time, Attempts setting counter key time →
      Recorded (past ++ [before]) after key → Recorded past before key) :
    Accounted setting (past ++ [before]) after := by
  intro counter cutoff passed tasks recorded
  rw [window] at passed
  apply (account counter cutoff (moved.passed passed) tasks _).trans
  · exact (grown cutoff passed).counted counter cutoff le_rfl
  · intro task member
    obtain ⟨left, time, attempts, late⟩ := recorded task member
    refine ⟨?_, time, attempts, late⟩
    by_cases same : task = key
    · subst same
      exact was counter time attempts left
    · exact moved.recorded same left

/-- A recorded failure is one more in each queue that counts its call. -/
theorem Accounted.recorded (account : Accounted setting past before)
    (moved : Moved before after key rest) {request : EnrollmentRequest} {now : DateTime}
    {tokenHash : Str} (called : setting.calls key = .enroll request now)
    (hashed : bestEffortTokenHash setting.config.library request.token = .ok tokenHash)
    (limiter : after.state.limiter =
      before.state.limiter.recordFailure request.sourceAddress tokenHash now.asUtc) :
    Accounted setting (past ++ [before]) after := by
  classical
  intro counter cutoff passed tasks recorded
  have window : after.state.limiter.windowSeconds = before.state.limiter.windowSeconds := by
    rw [limiter]
    rfl
  rw [window] at passed
  -- every task but the one that moved was recorded before
  have earlier := account counter cutoff (moved.passed passed) (tasks.erase key) (by
    intro task member
    obtain ⟨differs, member⟩ := Finset.mem_erase.mp member
    obtain ⟨left, time, attempts, late⟩ := recorded task member
    exact ⟨moved.recorded differs left, time, attempts, late⟩)
  by_cases member : key ∈ tasks
  · obtain ⟨-, time, ⟨asked, stamp, again, same, counts⟩, late⟩ := recorded key member
    cases called.symm.trans again
    rw [limiter, counts_recordFailure counts hashed, countAfter, List.countP_append]
    rw [Finset.card_erase_of_mem member] at earlier
    have one : [now.asUtc].countP (fun failure => decide (cutoff < failure.instant)) = 1 := by
      rw [same]
      simp [late]
    rw [one]
    unfold countAfter at earlier
    omega
  · rw [Finset.erase_eq_of_notMem member] at earlier
    apply earlier.trans
    rw [limiter]
    exact (grown_recordFailure cutoff ..).counted counter cutoff le_rfl

/-- A step that starts no new call past the check leaves them few. -/
theorem Few.kept (few : Few setting past before) (moved : Moved before after key rest)
    (source : after.state.limiter.maxSourceFailures = before.state.limiter.maxSourceFailures)
    (token : after.state.limiter.maxTokenFailures = before.state.limiter.maxTokenFailures)
    (window : after.state.limiter.windowSeconds = before.state.limiter.windowSeconds)
    (was : ∀ counter time, Attempts setting counter key time → Reached (past ++ [before]) after key →
      Live after key → Reached past before key ∧ Live before key) :
    Few setting (past ++ [before]) after := by
  intro counter tasks late waiting
  have most : counter.most after.state.limiter = counter.most before.state.limiter := by
    cases counter with
    | source address => exact source
    | token tokenHash => exact token
  rw [most]
  apply few counter tasks late
  intro task member
  obtain ⟨reached, live, time, attempts, within⟩ := waiting task member
  rw [window] at within
  by_cases same : task = key
  · subst same
    obtain ⟨reached, live⟩ := was counter time attempts reached live
    exact ⟨reached, live, time, attempts, within⟩
  · exact ⟨moved.reached same reached, (moved.live same).mp live, time, attempts, within⟩

theorem Stage.later {task : Nat} {request : EnrollmentRequest} {now : DateTime} {one two : Prop}
    {program : EnrollmentTask Unit} (implies : one → two)
    (stage : Stage setting task request now one program) :
    Stage setting task request now two program := by
  cases stage with
  | waits reached hashed proceeds => exact .waits (implies reached) hashed proceeds
  | ended => exact .ended
  | closing closed => exact .closing closed

/-- The tasks that did not move stand where they stood. -/
theorem Sound.stages_moved (sound : Sound setting past before) (moved : Moved before after key rest)
    (mine : ∀ request now, setting.calls key = .enroll request now →
      Stage setting key request now (Reached (past ++ [before]) after key) rest) :
    ∀ task request now program, setting.calls task = .enroll request now →
      after.tasks task = some program →
      Stage setting task request now (Reached (past ++ [before]) after task) program := by
  intro task request now program called there
  by_cases same : task = key
  · subst same
    cases moved.self.symm.trans there
    exact mine request now called
  · rw [moved.other same] at there
    exact (sound.stages task request now program called there).later fun reached => reached.later after

theorem Sound.others_moved (sound : Sound setting past before) (moved : Moved before after key rest)
    (mine : startedAt setting key = none → Proceeds rest) :
    ∀ task program, startedAt setting task = none → after.tasks task = some program →
      Proceeds program := by
  intro task program other there
  by_cases same : task = key
  · subst same
    cases moved.self.symm.trans there
    exact mine other
  · rw [moved.other same] at there
    exact sound.others task program other there

theorem Sound.known_moved (sound : Sound setting past before) (moved : Moved before after key rest) :
    ∀ task, Reached (past ++ [before]) after task → after.tasks task ≠ none := by
  intro task reached
  rcases reached.earlier with was | ⟨tokenHash, nodeName, now, resume, there⟩
  · exact moved.known (sound.known task was)
  · rw [there]
    exact Option.some_ne_none _

theorem called_of_started {begun : DateTime} (started : startedAt setting key = some begun) :
    ∃ request, setting.calls key = .enroll request begun := by
  unfold startedAt at started
  split at started
  · rename_i request now called
    cases started
    exact ⟨request, called⟩
  · cases started

theorem notOther_of_called {request : EnrollmentRequest} {begun : DateTime}
    (called : setting.calls key = .enroll request begun) : startedAt setting key ≠ none := by
  unfold startedAt
  rw [called]
  exact Option.some_ne_none begun

theorem attempts_calls {counter : Counter} {time : DateTime} (attempts : Attempts setting counter key time)
    (other : startedAt setting key = none) : False := by
  obtain ⟨now, started, -⟩ := attempts.started
  cases other.symm.trans started

theorem closing_consuming {pool : EnrollmentPool} (closing : Closing rest)
    (there : pool.tasks key = some rest) : ¬Consuming pool key := by
  rintro ⟨tokenHash, nodeName, now, resume, same⟩
  cases there.symm.trans same
  obtain ⟨⟨audit, impossible, -⟩, -⟩ := closing
  cases impossible

/-- A call past the check is in flight wherever it waits. -/
theorem attempting_inFlight {pool : EnrollmentPool} {request : EnrollmentRequest} {now : DateTime}
    {call : EnrollmentCall}
    {resume : Except Exc (EnrollmentResult call) → EnrollmentTask EnrollmentResponse}
    (proceeds : Proceeds (.call (.await call) resume : EnrollmentTask EnrollmentResponse))
    (there : pool.tasks key =
      some (attempting setting key request now (.call (.await call) resume))) : InFlight pool key := by
  obtain ⟨⟨other, same, quiet⟩, -⟩ := proceeds
  cases same
  exact ⟨call, _, there, quiet⟩

/-- A call that passes the check with room for it is one of few. -/
theorem Few.admitted (sound : Sound setting past before) (moved : Moved before after key rest)
    (free : before.tasks key = none) (roomy : Roomy setting before after) (consuming : Consuming after key)
    {cutoff : Int} (grown : Grown cutoff before.state.limiter after.state.limiter) :
    Few setting (past ++ [before]) after := by
  classical
  intro counter tasks late waiting
  have most : counter.most after.state.limiter = counter.most before.state.limiter := by
    cases counter with
    | source address => exact grown.source
    | token tokenHash => exact grown.token
  rw [most]
  rw [grown.window] at waiting
  -- what there was before the call
  have earlier : ∀ task ∈ tasks.erase key, Reached past before task ∧ Live before task ∧ ∃ time,
      Attempts setting counter task time ∧
        late - before.state.limiter.windowSeconds * 1000000 < time.instant ∧ time.instant ≤ late := by
    intro task member
    obtain ⟨differs, member⟩ := Finset.mem_erase.mp member
    obtain ⟨reached, live, rest⟩ := waiting task member
    exact ⟨moved.reached differs reached, (moved.live differs).mp live, rest⟩
  by_cases member : key ∈ tasks
  · obtain ⟨-, -, time, attempts, -, upTo⟩ := waiting key member
    obtain ⟨begun, started, rfl⟩ := attempts.started
    let opens := (begun.asUtc.addSeconds (-before.state.limiter.windowSeconds)).instant
    have open_ : opens = begun.asUtc.instant - before.state.limiter.windowSeconds * 1000000 :=
      LimiterCount.instant_cutoff begun.asUtc
    have counted : ∀ task ∈ tasks.erase key, ∃ time, Attempts setting counter task time ∧
        opens < time.instant := by
      intro task among
      obtain ⟨-, -, time, attempts, after, -⟩ := earlier task among
      exact ⟨time, attempts, by omega⟩
    -- those in flight have room, and the others are in the queue
    have flying := roomy.room key free consuming counter begun.asUtc attempts
      ((tasks.erase key).filter fun task => InFlight before task) (by
        intro task among
        obtain ⟨among, flies⟩ := Finset.mem_filter.mp among
        exact ⟨flies, counted task among⟩)
    have passed : Passed setting before before.state.limiter.windowSeconds opens := by
      intro task now begunBefore there
      have ordered := roomy.forward key task now begun free (by
        rw [moved.self]
        exact Option.some_ne_none rest) there begunBefore started
      rw [LimiterCount.instant_cutoff, open_, DateTime.instant_asUtc, DateTime.instant_asUtc]
      omega
    have left := sound.account counter opens passed
      ((tasks.erase key).filter fun task => ¬InFlight before task) (by
        intro task among
        obtain ⟨among, grounded⟩ := Finset.mem_filter.mp among
        obtain ⟨reached, live, -⟩ := earlier task among
        exact ⟨⟨reached, live, grounded⟩, counted task among⟩)
    have queued : countAfter opens (counter.failures before.state.limiter) ≤
        (before.state.limiter.counted (counter.failures before.state.limiter) begun.asUtc).length :=
      countAfter_le ..
    have parts : ((tasks.erase key).filter fun task => InFlight before task).card +
        ((tasks.erase key).filter fun task => ¬InFlight before task).card = (tasks.erase key).card :=
      Finset.card_filter_add_card_filter_not _
    have erased := Finset.card_erase_add_one member
    omega
  · rw [Finset.erase_eq_of_notMem member] at earlier
    exact sound.few counter tasks late earlier

/-- What the step of a started call may leave: it is past the check only with room. -/
theorem Sound.spawn (postgres : setting.backend = .postgres) (sound : Sound setting past before)
    (free : before.tasks key = none)
    (roomy : Roomy setting before (before.advance key (setting.program key) before.state)) :
    Sound setting (past ++ [before]) (before.advance key (setting.program key) before.state) := by
  have moved : Moved before (before.advance key (setting.program key) before.state) key
      (settle (setting.program key) before.state).1 := rfl
  have unreached : ¬Reached past before key := fun reached => sound.known key reached free
  cases started : startedAt setting key with
  | none =>
      have proceeds := program_proceeds postgres started
      have settled := proceeds.settle before.state
      have same : (before.advance key (setting.program key) before.state).state = before.state :=
        congrArg Prod.snd settled
      constructor
      · apply sound.stages_moved moved
        intro request now called
        unfold startedAt at started
        rw [called] at started
        cases started
      · apply sound.others_moved moved
        intro _
        rw [settled]
        exact proceeds
      · exact sound.known_moved moved
      · apply sound.account.kept moved
        · intro cutoff _
          rw [same]
          exact .refl ..
        · rw [same]
        · intro counter time attempts
          exact (attempts_calls attempts started).elim
      · apply sound.few.kept moved
        · rw [same]
        · rw [same]
        · rw [same]
        · intro counter time attempts
          exact (attempts_calls attempts started).elim
  | some begun =>
      obtain ⟨request, called⟩ := called_of_started started
      have notOther := notOther_of_called called
      obtain ⟨grown, stands⟩ := settle_started postgres called before.state
      have grown : Grown (begun.asUtc.addSeconds (-before.state.limiter.windowSeconds)).instant
        before.state.limiter
        (before.advance key (setting.program key) before.state).state.limiter := grown
      have later : ∀ cutoff, Passed setting (before.advance key (setting.program key) before.state)
          before.state.limiter.windowSeconds cutoff → Grown cutoff before.state.limiter
            (before.advance key (setting.program key) before.state).state.limiter := by
        intro cutoff passed
        apply grown.later
        apply passed key begun started
        rw [moved.self]
        exact Option.some_ne_none _
      rcases stands with closing | ⟨tokenHash, safeNodeName, hashed, stands⟩
      · -- it failed before the store
        have never : ¬Reached (past ++ [before])
            (before.advance key (setting.program key) before.state) key := by
          intro reached
          rcases reached.earlier with was | consuming
          · exact unreached was
          · exact closing_consuming closing moved.self consuming
        constructor
        · apply sound.stages_moved moved
          intro _ _ _
          exact .closing closing
        · apply sound.others_moved moved
          intro other
          exact absurd other notOther
        · exact sound.known_moved moved
        · apply sound.account.kept moved later grown.window
          intro _ _ _ recorded
          exact absurd recorded.1 never
        · apply sound.few.kept moved grown.source grown.token grown.window
          intro _ _ _ reached
          exact absurd reached never
      · have proceeds := pursue_proceeds key request begun postgres tokenHash safeNodeName
        obtain ⟨resume, call⟩ := pursue_call key request begun postgres tokenHash safeNodeName
        rw [call] at stands proceeds
        have there := moved.self
        rw [stands] at there
        have consuming : Consuming (before.advance key (setting.program key) before.state) key :=
          ⟨_, _, _, _, there⟩
        constructor
        · apply sound.stages_moved moved
          intro again now calledAgain
          cases called.symm.trans calledAgain
          rw [stands]
          exact .waits (.inl consuming) hashed proceeds
        · apply sound.others_moved moved
          intro other
          exact absurd other notOther
        · exact sound.known_moved moved
        · apply sound.account.kept moved later grown.window
          intro _ _ _ recorded
          exact absurd (attempting_inFlight proceeds there) recorded.2.2
        · exact .admitted sound moved free roomy consuming grown

/-- The database and the journal leave the limiter alone. -/
theorem world_limiter {call : EnrollmentCall} {answer : Except Exc (EnrollmentResult call)}
    {one two : EnrollmentWorld} (given : enrollmentWorld key call answer one two) :
    two.limiter = one.limiter := by
  cases call with
  | execute statement =>
      rcases given with done | ⟨-, rfl | rfl⟩
      · have after : two = (one.execute key statement).2 := congrArg Prod.snd done
        rw [after]
        exact (execute_limiter key statement one).1
      · rfl
      · exact (execute_limiter key statement one).1
  | writeAudit audit =>
      obtain rfl : two = one := given
      rfl

theorem waits_live {pool : EnrollmentPool} {call : EnrollmentCall}
    {resume : Except Exc (EnrollmentResult call) → EnrollmentTask Unit}
    (waiting : pool.tasks key = some (.call (.await call) resume)) : Live pool key := by
  refine ⟨_, waiting, ?_, ?_⟩
  · intro impossible
    cases impossible
  · intro raised impossible
    cases impossible

/-- Keeping the limiter and recording nothing keeps everything but the stage of the task. -/
theorem Sound.quiet (sound : Sound setting past before) (moved : Moved before after key rest)
    (limiter : after.state.limiter = before.state.limiter)
    (stage : ∀ request now, setting.calls key = .enroll request now →
      Stage setting key request now (Reached (past ++ [before]) after key) rest)
    (other : startedAt setting key = none → Proceeds rest)
    (recorded : ∀ counter time, Attempts setting counter key time →
      Recorded (past ++ [before]) after key → Recorded past before key)
    (reached : ∀ counter time, Attempts setting counter key time →
      Reached (past ++ [before]) after key → Live after key → Reached past before key ∧ Live before key) :
    Sound setting (past ++ [before]) after where
  stages := sound.stages_moved moved stage
  others := sound.others_moved moved other
  known := sound.known_moved moved
  account := by
    apply sound.account.kept moved
    · intro cutoff _
      rw [limiter]
      exact .refl ..
    · rw [limiter]
    · exact recorded
  few := by
    apply sound.few.kept moved
    · rw [limiter]
    · rw [limiter]
    · rw [limiter]
    · exact reached

section Answers
variable {request : EnrollmentRequest} {begun : DateTime} {tokenHash : Str} {given : EnrollmentWorld}

/-- The event of a failure is all that was left of a call that closes. -/
theorem Sound.closes (sound : Sound setting past before)
    (called : setting.calls key = .enroll request begun)
    (limiter : given.limiter = before.state.limiter) {audit : EnrollmentAudit}
    {resume : Except Exc Unit → EnrollmentTask Unit}
    (waiting : before.tasks key = some (.call (.await (.writeAudit audit)) resume))
    (failure : isFailure audit = true) (raised : Exc) :
    Sound setting (past ++ [before]) (before.advance key (.raise raised) given) := by
  have moved : Moved before (before.advance key (.raise raised) given) key (.raise raised) := rfl
  have closing : Closing (.raise raised) := trivial
  -- it was past its record, and still is
  have earlier : Reached (past ++ [before]) (before.advance key (.raise raised) given) key →
      Reached past before key := by
    intro reached
    rcases reached.earlier with was | consuming
    · exact was
    · exact (closing_consuming closing moved.self consuming).elim
  have grounded : ¬InFlight before key := by
    rintro ⟨other, next, there, quiet⟩
    cases waiting.symm.trans there
    rw [quiet audit rfl] at failure
    cases failure
  apply sound.quiet moved limiter
  · intro _ _ _
    exact .closing trivial
  · intro other
    exact absurd other (notOther_of_called called)
  · intro _ _ _ recorded
    exact ⟨earlier recorded.1, waits_live waiting, grounded⟩
  · intro _ _ _ reached _
    exact ⟨earlier reached, waits_live waiting⟩

/-- A call that succeeded or was cancelled records nothing. -/
theorem Sound.ends (sound : Sound setting past before)
    (called : setting.calls key = .enroll request begun)
    (limiter : given.limiter = before.state.limiter) (reached : Reached past before key)
    (live : Live before key) {program : EnrollmentTask Unit}
    (settled : settle program given = (rest, given))
    (ended : rest = .done () ∨ ∃ raised, rest = .raise raised ∧ raised.isException = false) :
    Sound setting (past ++ [before]) (before.advance key program given) := by
  have moved : Moved before (before.advance key program given) key rest := by
    unfold Moved
    rw [Pool.advance, settled]
  apply sound.quiet moved
  · rw [Pool.advance, settled]
    exact limiter
  · intro _ _ _
    rcases ended with rfl | ⟨raised, rfl, -⟩
    · exact .ended
    · exact .closing trivial
  · intro other
    exact absurd other (notOther_of_called called)
  · rintro _ _ _ ⟨-, ⟨left, stands, unfinished, exception⟩, -⟩
    cases moved.self.symm.trans stands
    rcases ended with same | ⟨raised, same, cancelled⟩
    · exact absurd same unfinished
    · rw [exception raised same] at cancelled
      cases cancelled
  · intro _ _ _ _ _
    exact ⟨reached, live⟩

/-- A call that waits for its next answer is still in flight. -/
theorem Sound.goes_on (sound : Sound setting past before)
    (called : setting.calls key = .enroll request begun)
    (hashed : EnrollmentService.tokenHashOf setting.config.library request.token = .ok tokenHash)
    (limiter : given.limiter = before.state.limiter) (reached : Reached past before key)
    (live : Live before key) {call : EnrollmentCall}
    {next : Except Exc (EnrollmentResult call) → EnrollmentTask EnrollmentResponse}
    (proceeds : Proceeds (.call (.await call) next : EnrollmentTask EnrollmentResponse)) :
    Sound setting (past ++ [before])
      (before.advance key (attempting setting key request begun (.call (.await call) next)) given) := by
  have moved : Moved before
      (before.advance key (attempting setting key request begun (.call (.await call) next)) given) key
      (attempting setting key request begun (.call (.await call) next)) := rfl
  apply sound.quiet moved limiter
  · intro other now calledAgain
    cases called.symm.trans calledAgain
    exact .waits (reached.later _) hashed proceeds
  · intro other
    exact absurd other (notOther_of_called called)
  · intro _ _ _ recorded
    exact absurd (attempting_inFlight proceeds moved.self) recorded.2.2
  · intro _ _ _ _ _
    exact ⟨reached, live⟩

/-- A call that fails leaves one failure more. -/
theorem Sound.fails (sound : Sound setting past before)
    (called : setting.calls key = .enroll request begun)
    (hashed : bestEffortTokenHash setting.config.library request.token = .ok tokenHash)
    (limiter : given.limiter = before.state.limiter) (reached : Reached past before key)
    (live : Live before key) {program : EnrollmentTask Unit} (closes : Closing rest)
    (settled : settle program given = (rest, { given with
      limiter := given.limiter.recordFailure request.sourceAddress tokenHash begun.asUtc })) :
    Sound setting (past ++ [before]) (before.advance key program given) := by
  have moved : Moved before (before.advance key program given) key rest := by
    unfold Moved
    rw [Pool.advance, settled]
  have now : (before.advance key program given).state.limiter =
      before.state.limiter.recordFailure request.sourceAddress tokenHash begun.asUtc := by
    rw [Pool.advance, settled]
    show given.limiter.recordFailure _ _ _ = _
    rw [limiter]
  constructor
  · apply sound.stages_moved moved
    intro _ _ _
    exact .closing closes
  · apply sound.others_moved moved
    intro other
    exact absurd other (notOther_of_called called)
  · exact sound.known_moved moved
  · exact sound.account.recorded moved called hashed now
  · apply sound.few.kept moved
    · rw [now]
      rfl
    · rw [now]
      rfl
    · rw [now]
      rfl
    · intro _ _ _ _ _
      exact ⟨reached, live⟩

/-- What an answer makes of a call past the check. -/
theorem Sound.answered (sound : Sound setting past before)
    (called : setting.calls key = .enroll request begun)
    (hashed : EnrollmentService.tokenHashOf setting.config.library request.token = .ok tokenHash)
    (limiter : given.limiter = before.state.limiter) (reached : Reached past before key)
    (live : Live before key) {body : EnrollmentTask EnrollmentResponse} (proceeds : Proceeds body) :
    Sound setting (past ++ [before])
      (before.advance key (attempting setting key request begun body) given) := by
  cases body with
  | done value => exact sound.ends called limiter reached live rfl (.inl rfl)
  | call op next =>
      obtain ⟨call, rfl, -⟩ := proceeds.1
      exact sound.goes_on called hashed limiter reached live proceeds
  | raise raised =>
      rcases settle_fault setting key request begun raised given with
        ⟨cancelled, settled⟩ | ⟨-, fault, unhashed, -⟩ | ⟨-, hash, ended, same, closes, settled⟩
      · exact sound.ends called limiter reached live settled (.inr ⟨raised, rfl, cancelled⟩)
      · cases (bestEffort_hashed hashed).symm.trans unhashed
      · exact sound.fails called same limiter reached live closes settled
end Answers

/-- The answer of a call takes its task on. -/
theorem Sound.resume (sound : Sound setting past before) {call : EnrollmentCall}
    {resume : Except Exc (EnrollmentResult call) → EnrollmentTask Unit}
    {answer : Except Exc (EnrollmentResult call)} {given : EnrollmentWorld}
    (waiting : before.tasks key = some (.call (.await call) resume))
    (answers : enrollmentWorld key call answer before.state given) :
    Sound setting (past ++ [before]) (before.advance key (resume answer) given) := by
  have limiter := world_limiter answers
  cases started : startedAt setting key with
  | none =>
      have proceeds := (sound.others key _ started waiting).2 answer
      have settled := proceeds.settle given
      have moved : Moved before (before.advance key (resume answer) given) key (resume answer) := by
        unfold Moved
        rw [Pool.advance, settled]
      apply sound.quiet moved
      · rw [Pool.advance, settled]
        exact limiter
      · intro request now called
        exact absurd started (notOther_of_called called)
      · intro _
        exact proceeds
      · intro counter time attempts
        exact (attempts_calls attempts started).elim
      · intro counter time attempts
        exact (attempts_calls attempts started).elim
  | some begun =>
      obtain ⟨request, called⟩ := called_of_started started
      have live := waits_live waiting
      obtain ⟨program, same⟩ : ∃ program : EnrollmentTask Unit, program = .call (.await call) resume :=
        ⟨_, rfl⟩
      rw [← same] at waiting
      cases sound.stages key request begun program called waiting with
      | ended => cases same
      | closing closed =>
          rw [same] at closed waiting
          obtain ⟨⟨audit, event, failure⟩, ends⟩ := closed
          cases event
          obtain ⟨raised, ended⟩ := ends answer
          rw [ended]
          exact sound.closes called limiter waiting failure raised
      | @waits asked next tokenHash reached hashed proceeds =>
          have there : (Coro.call (TaskOp.await asked) fun given =>
              attempting setting key request begun (next given) : EnrollmentTask Unit) =
              .call (.await call) resume := same
          cases there
          exact sound.answered called hashed limiter reached live (proceeds.2 answer)

theorem sound_start (setting : Setting) (start : EnrollmentWorld) :
    Sound setting [] ⟨fun _ => none, start⟩ := by
  have nobody : ∀ task, ¬Reached [] (⟨fun _ => none, start⟩ : EnrollmentPool) task := by
    rintro task (⟨tokenHash, nodeName, now, resume, there⟩ | ⟨earlier, member, -⟩)
    · cases there
    · cases member
  have empty : ∀ (tasks : Finset Nat) (holds : Nat → Prop), (∀ task ∈ tasks, holds task) →
      (∀ task, holds task → Reached [] (⟨fun _ => none, start⟩ : EnrollmentPool) task) →
      tasks.card = 0 := by
    intro tasks holds each reached
    apply Finset.card_eq_zero.mpr
    apply Finset.eq_empty_of_forall_notMem
    intro task member
    exact nobody task (reached task (each task member))
  constructor
  · intro task request now program _ there
    cases there
  · intro task program _ there
    cases there
  · intro task reached
    exact (nobody task reached).elim
  · intro counter cutoff _ tasks recorded
    rw [empty tasks _ recorded fun task held => held.1.1]
    exact Nat.zero_le _
  · intro counter tasks late waiting
    rw [empty tasks _ waiting fun task held => held.1]
    exact Nat.zero_le _

theorem Sound.run (postgres : setting.backend = .postgres) {start : EnrollmentWorld}
    {pool : EnrollmentPool} (run : Run setting (Roomy setting) start past pool) :
    Sound setting past pool := by
  induction run with
  | start => exact sound_start setting start
  | step run step roomy sound =>
      cases step with
      | spawn free program =>
          cases program
          exact sound.spawn postgres free roomy
      | resume waiting given => exact sound.resume waiting given

/-- The failures of every source and of every token hash are bounded in every window, where calls
pass the check with room for those that are past it. -/
theorem failures_bounded (setting : Setting) (postgres : setting.backend = .postgres)
    (start : EnrollmentWorld) {past : List EnrollmentPool} {pool : EnrollmentPool}
    (run : Run setting (Roomy setting) start past pool) : Bounded setting past pool := by
  intro counter tasks late failed
  apply (Sound.run postgres run).few counter tasks late
  intro task member
  obtain ⟨reached, ⟨raised, ended, exception⟩, within⟩ := failed task member
  refine ⟨reached, ⟨.raise raised, ended, ?_, ?_⟩, within⟩
  · intro impossible
    cases impossible
  · rintro _ ⟨⟩
    exact exception
end Runs

/-! Calls with a token that the store does not know. -/
def settingRace : Setting where
  backend := .postgres
  config := { configOne with audited := false }
  calls := fun _ => .enroll (requestOne nodeKeyOne) ⟨0, some 0⟩
  draws := fun _ => drawsOne
  clock := fun _ => ⟨0, some 0⟩

def worldRace : EnrollmentWorld := ⟨⟨[], []⟩, .new, []⟩

def hashRace : Str := lit "66d34fba71f8f450f7e45598853e53bfc23bbd129027cbb131a2f4ffd7878cd0"

def waitingRace (task : Nat) : EnrollmentTask Unit :=
  attempting settingRace task (requestOne nodeKeyOne) ⟨0, some 0⟩
    (pursue settingRace task (requestOne nodeKeyOne) ⟨0, some 0⟩ hashRace (lit "node01"))

theorem named_race : validateNodeName (requestOne nodeKeyOne).nodeName = .ok (lit "node01") := by
  unfold validateNodeName
  exact if_pos (by decide +kernel)

theorem hashed_race : EnrollmentService.tokenHashOf settingRace.config.library
    (requestOne nodeKeyOne).token = .ok hashRace := by
  decide +kernel

theorem isLimited_new (source tokenHash : Str) (now : DateTime) :
    EnrollmentRateLimiter.new.isLimited source tokenHash now = (false, .new) := by
  unfold EnrollmentRateLimiter.isLimited EnrollmentRateLimiter.counted
  simp [EnrollmentRateLimiter.new]

/-- A call finds nothing to count and reaches the store. -/
theorem settle_race (task : Nat) :
    settle (settingRace.program task) worldRace = (waitingRace task, worldRace) := by
  have program : settingRace.program task = attempting settingRace task (requestOne nodeKeyOne)
      ⟨0, some 0⟩ ((settingRace.serviceOf task).enrollBody (requestOne nodeKeyOne)
        (settingRace.draws task) (⟨0, some 0⟩ : DateTime).asUtc) := rfl
  have fresh : worldRace.limiter = .new := rfl
  rw [program, settle_checked named_race hashed_race, fresh, isLimited_new]
  have postgres : settingRace.backend = .postgres := rfl
  obtain ⟨resume, call⟩ := pursue_call task (requestOne nodeKeyOne) ⟨0, some 0⟩ postgres hashRace
    (lit "node01")
  unfold waitingRace
  rw [if_neg Bool.false_ne_true, call]
  rfl

/-- The store knows no such token. -/
theorem waitingRace_rejected (task : Nat) : ∃ tokenHash nodeName now resume,
    waitingRace task = .call (.await (.execute (.consumeActive tokenHash nodeName now))) resume ∧
    resume (.ok ⟨none, 0⟩) = attempting settingRace task (requestOne nodeKeyOne) ⟨0, some 0⟩
      (.raise (.enrollmentError "invalid_token")) :=
  ⟨_, _, _, _, rfl, rfl⟩

theorem execute_unknown {state : EnrollmentWorld} (empty : state.tables = ⟨[], []⟩) (task : Nat)
    (tokenHash nodeName : Str) (now : DateTime) :
    ∃ given, enrollmentWorld task (.execute (.consumeActive tokenHash nodeName now)) (.ok ⟨none, 0⟩)
      state given ∧ given.tables = ⟨[], []⟩ := by
  refine ⟨{ state with
    tables := ⟨[], []⟩
    history := state.history ++ [⟨task, ⟨[], []⟩, .consumeActive tokenHash nodeName now⟩] }, .inl ?_, rfl⟩
  unfold EnrollmentWorld.execute
  rw [empty]
  rfl

/-- The failure is recorded, and the call raises. -/
theorem settle_rejected (task : Nat) (state : EnrollmentWorld) :
    ∃ after, settle (attempting settingRace task (requestOne nodeKeyOne) ⟨0, some 0⟩
      (.raise (.enrollmentError "invalid_token"))) state =
        (.raise (.enrollmentError "enrollment failed"), after) ∧ after.tables = state.tables ∧
      after.limiter.maxTokenFailures = state.limiter.maxTokenFailures ∧
      after.limiter.windowSeconds = state.limiter.windowSeconds := by
  have library : (settingRace.serviceOf task).library = settingRace.config.library := rfl
  unfold attempting EnrollmentService.enrollFault EnrollmentService.recordEnrollmentFailure
  rw [Coro.handle_raise, library, bestEffort_hashed hashed_race]
  exact ⟨_, rfl, rfl, rfl, rfl⟩

/-- Any number of calls wait for the store at once. -/
theorem race_waiting (count : Nat) : ∃ past pool,
    Run settingRace (fun _ _ => True) worldRace past pool ∧ pool.state = worldRace ∧
      ∀ task, pool.tasks task = if task < count then some (waitingRace task) else none := by
  induction count with
  | zero => exact ⟨[], _, .start, rfl, fun task => (if_neg (Nat.not_lt_zero task)).symm⟩
  | succ count ih =>
      obtain ⟨past, pool, run, state, tasks⟩ := ih
      have free : pool.tasks count = none := (tasks count).trans (if_neg (lt_irrefl count))
      have settled : settle (settingRace.program count) pool.state = (waitingRace count, worldRace) := by
        rw [state]
        exact settle_race count
      refine ⟨_, _, run.step (.spawn free rfl) trivial, ?_, ?_⟩
      · rw [Pool.advance, settled]
      · intro task
        rw [Pool.advance, settled]
        by_cases same : task = count
        · rw [same, if_pos (Nat.lt_succ_self count)]
          exact Function.update_self ..
        · have order : task < count + 1 ↔ task < count := by omega
          simp only [order]
          exact (Function.update_of_ne same ..).trans (tasks task)

/-- And then they all fail. -/
theorem race_failing (count done : Nat) (within : done ≤ count) : ∃ past pool,
    Run settingRace (fun _ _ => True) worldRace past pool ∧ pool.state.tables = ⟨[], []⟩ ∧
      (pool.state.limiter.maxTokenFailures = 5 ∧ pool.state.limiter.windowSeconds = 600) ∧
      (∀ task < count, Reached past pool task) ∧
      (∀ task < done, pool.tasks task = some (.raise (.enrollmentError "enrollment failed"))) ∧
      ∀ task, done ≤ task → task < count → pool.tasks task = some (waitingRace task) := by
  induction done with
  | zero =>
      obtain ⟨past, pool, run, state, tasks⟩ := race_waiting count
      refine ⟨past, pool, run, ?_, ?_, ?_, ?_, ?_⟩
      · rw [state]
        rfl
      · rw [state]
        exact ⟨rfl, rfl⟩
      · intro task below
        obtain ⟨tokenHash, nodeName, now, resume, waits, -⟩ := waitingRace_rejected task
        exact .inl ⟨tokenHash, nodeName, now, resume, by rw [tasks, if_pos below, waits]⟩
      · intro task below
        exact absurd below (Nat.not_lt_zero task)
      · intro task _ below
        rw [tasks, if_pos below]
  | succ done ih =>
      obtain ⟨past, pool, run, empty, limits, reached, failed, waiting⟩ := ih (by omega)
      obtain ⟨tokenHash, nodeName, now, resume, waits, rejected⟩ := waitingRace_rejected done
      have there := waiting done le_rfl (by omega)
      rw [waits] at there
      obtain ⟨given, answered, still⟩ := execute_unknown empty done tokenHash nodeName now
      obtain ⟨after, settled, tables, most, window⟩ := settle_rejected done given
      rw [← rejected] at settled
      rw [← world_limiter answered] at limits
      refine ⟨_, _, run.step (.resume there answered) trivial, ?_, ?_, ?_, ?_, ?_⟩
      · rw [Pool.advance, settled]
        exact tables.trans still
      · rw [Pool.advance, settled]
        exact ⟨most.trans limits.1, window.trans limits.2⟩
      · intro task below
        exact (reached task below).later _
      · intro task below
        rw [Pool.advance, settled]
        by_cases same : task = done
        · rw [same]
          exact Function.update_self ..
        · exact (Function.update_of_ne same ..).trans (failed task (by omega))
      · intro task above below
        rw [Pool.advance, settled]
        exact (Function.update_of_ne (by omega) ..).trans (waiting task (by omega) below)

/-- Six calls that are past the check at once fail with one token. -/
theorem limiter_outrun :
    ¬∀ (setting : Setting) (start : EnrollmentWorld) (past : List EnrollmentPool)
      (pool : EnrollmentPool), setting.backend = .postgres →
      Run setting (fun _ _ => True) start past pool → Bounded setting past pool := by
  intro always
  obtain ⟨past, pool, run, -, ⟨most, window⟩, reached, failed, -⟩ := race_failing 6 6 le_rfl
  have few := always settingRace worldRace past pool rfl run (.token hashRace) (Finset.range 6) 0 (by
    intro task member
    have below := Finset.mem_range.mp member
    refine ⟨reached task below, ⟨_, failed task below, rfl⟩, _, ⟨_, _, rfl, rfl, hashed_race⟩, ?_, ?_⟩
    · rw [window]
      decide
    · decide)
  have five : (Counter.token hashRace).most pool.state.limiter = 5 := most
  rw [five] at few
  exact absurd few (by decide)

/-- Only the start of a call needs room. -/
theorem roomy_resumed {setting : Setting} {before after : EnrollmentPool} {key : Nat}
    {rest : EnrollmentTask Unit} (started : before.tasks key ≠ none) (moved : Moved before after key rest) :
    Roomy setting before after := by
  have unchanged : ∀ task, before.tasks task = none → after.tasks task = none := by
    intro task free
    have differs : task ≠ key := by
      rintro rfl
      exact started free
    rw [moved.other differs, free]
  constructor
  · rintro task free ⟨tokenHash, nodeName, now, resume, there⟩
    rw [unchanged task free] at there
    cases there
  · intro task other earlier later free there
    exact absurd (unchanged task free) there

/-- The first call of all has room. -/
theorem roomy_first (after : EnrollmentPool) :
    Roomy settingRace ⟨fun _ => none, worldRace⟩ after := by
  constructor
  · intro task _ _ counter time _ flying flies
    have nobody : flying = ∅ := by
      apply Finset.eq_empty_of_forall_notMem
      intro other member
      obtain ⟨⟨call, resume, there, -⟩, -⟩ := flies other member
      cases there
    rw [nobody]
    cases counter with
    | source address => exact (by decide : (0 : Int) < 10)
    | token tokenHash => exact (by decide : (0 : Int) < 5)
  · intro task other earlier later _ _ there
    exact absurd rfl there

/-- One call that fails alone. -/
theorem failures_bounded_alone : ∃ past pool, Run settingRace (Roomy settingRace) worldRace past pool ∧
    Failed pool 0 ∧ Bounded settingRace past pool := by
  obtain ⟨tokenHash, nodeName, now, resume, waits, rejected⟩ := waitingRace_rejected 0
  obtain ⟨past, pool, run, tasks, state⟩ : ∃ past pool,
      Run settingRace (Roomy settingRace) worldRace past pool ∧
        pool.tasks 0 = some (waitingRace 0) ∧ pool.state.tables = ⟨[], []⟩ := by
    refine ⟨_, _, Run.start.step (spawn_step _ 0 (settingRace.program 0) rfl rfl) (roomy_first _), ?_, ?_⟩
    · rw [Pool.advance, settle_race]
      exact Function.update_self 0 _ fun _ => none
    · rw [Pool.advance, settle_race]
      rfl
  rw [waits] at tasks
  obtain ⟨given, answered, -⟩ := execute_unknown state 0 tokenHash nodeName now
  obtain ⟨after, settled, -⟩ := settle_rejected 0 given
  rw [← rejected] at settled
  have started : pool.tasks 0 ≠ none := by
    rw [tasks]
    exact Option.some_ne_none _
  have run := run.step (.resume tasks answered) (roomy_resumed started rfl)
  refine ⟨_, _, run, ⟨.enrollmentError "enrollment failed", ?_, rfl⟩,
    failures_bounded settingRace rfl worldRace run⟩
  rw [Pool.advance, settled]
  exact Function.update_self 0 _ pool.tasks

end VibeConnect.RaceRuns
