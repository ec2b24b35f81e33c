import Mathlib.Data.List.TakeWhile
import VibeConnect.Enrollment

/-! The limiter of failed enrollments, against the failures themselves. A queue
keeps the end of what was recorded for its key: what a query took off the front
was out of the window then, and times do not run backwards, so it is out of
every later window too. -/
namespace VibeConnect.LimiterCount
open Python.Text Python.Values Models Enrollment

/-- Failures recorded later than the window's beginning. -/
def recent (windowSeconds : Int) (now : DateTime) (failures : List DateTime) : List DateTime :=
  failures.filter fun failure => decide ((now.addSeconds (-windowSeconds)).instant < failure.instant)

abbrev InOrder (failures : List DateTime) : Prop :=
  failures.Pairwise fun earlier later => earlier.instant ≤ later.instant

/-- In order, what is left of a queue is what is recent. -/
theorem counted_recent (limiter : EnrollmentRateLimiter) {failures : List DateTime} (now : DateTime)
    (ordered : InOrder failures) :
    limiter.counted failures now = recent limiter.windowSeconds now failures := by
  unfold EnrollmentRateLimiter.counted recent
  induction failures with
  | nil => rfl
  | cons failure rest ih =>
      obtain ⟨first, ordered⟩ := List.pairwise_cons.mp ordered
      by_cases old : failure.instant ≤ (now.addSeconds (-limiter.windowSeconds)).instant
      · rw [List.dropWhile_cons_of_pos (by simpa using old), ih ordered,
          List.filter_cons_of_neg (by simpa using old)]
      · rw [List.dropWhile_cons_of_neg (by simpa using old)]
        -- the first failure is recent, so every later one is
        apply (List.filter_eq_self.mpr _).symm
        intro later member
        rcases List.mem_cons.mp member with rfl | member
        · simpa using old
        · have after := first later member
          simp only [decide_eq_true_eq]
          omega

/-- A queue holds the end of what was recorded; the rest is out of the window. -/
def Kept (windowSeconds now : Int) (recorded kept : List DateTime) : Prop :=
  ∃ gone, recorded = gone ++ kept ∧
    ∀ failure ∈ gone, failure.instant ≤ now - windowSeconds * 1000000

section Queues
variable {windowSeconds now : Int} {recorded kept : List DateTime}

theorem kept_empty : Kept windowSeconds now [] [] := ⟨[], rfl, by simp⟩

theorem Kept.later {later : Int} (held : Kept windowSeconds now recorded kept) (after : now ≤ later) :
    Kept windowSeconds later recorded kept := by
  obtain ⟨gone, split, old⟩ := held
  refine ⟨gone, split, fun failure member => ?_⟩
  have before := old failure member
  omega

theorem Kept.record (held : Kept windowSeconds now recorded kept) (failure : DateTime) :
    Kept windowSeconds now (recorded ++ [failure]) (kept ++ [failure]) := by
  obtain ⟨gone, split, old⟩ := held
  exact ⟨gone, by rw [split, List.append_assoc], old⟩

theorem instant_cutoff (time : DateTime) :
    (time.addSeconds (-windowSeconds)).instant = time.instant - windowSeconds * 1000000 := by
  rw [DateTime.instant_addSeconds]
  omega

/-- A query counts what is recent, and leaves the queue as it should be. -/
theorem Kept.count {limiter : EnrollmentRateLimiter} {time : DateTime}
    (held : Kept limiter.windowSeconds time.instant recorded kept) (ordered : InOrder recorded) :
    limiter.counted kept time = recent limiter.windowSeconds time recorded ∧
      Kept limiter.windowSeconds time.instant recorded (limiter.counted kept time) := by
  obtain ⟨gone, split, old⟩ := held
  rw [split] at ordered
  have counted := counted_recent limiter time (List.pairwise_append.mp ordered).2.1
  have none : recent limiter.windowSeconds time gone = [] := by
    apply List.filter_eq_nil_iff.mpr
    intro failure member
    rw [instant_cutoff, decide_eq_true_eq, not_lt]
    exact old failure member
  constructor
  · rw [counted, split]
    unfold recent at none ⊢
    rw [List.filter_append, none, List.nil_append]
  · refine ⟨gone ++ kept.takeWhile fun failure =>
      decide (failure.instant ≤ (time.addSeconds (-limiter.windowSeconds)).instant), ?_, ?_⟩
    · unfold EnrollmentRateLimiter.counted
      rw [split, List.append_assoc, List.takeWhile_append_dropWhile]
    · intro failure member
      rcases List.mem_append.mp member with early | taken
      · exact old failure early
      · have out := List.mem_takeWhile_imp taken
        rw [instant_cutoff, decide_eq_true_eq] at out
        exact out
end Queues

/-! Runs of the limiter. -/
inductive LimiterCall where
  | recordFailure (sourceAddress tokenHash : Str) (now : DateTime)
  | isLimited (sourceAddress tokenHash : Str) (now : DateTime)

namespace LimiterCall

def now : LimiterCall → DateTime
  | .recordFailure _ _ now | .isLimited _ _ now => now

def perform (limiter : EnrollmentRateLimiter) : LimiterCall → EnrollmentRateLimiter
  | .recordFailure source token now => limiter.recordFailure source token now
  | .isLimited source token now => (limiter.isLimited source token now).2

end LimiterCall

/-- `EnrollmentRateLimiter.__init__`. -/
def newLimiter (maxSourceFailures maxTokenFailures windowSeconds : Int) : EnrollmentRateLimiter :=
  ⟨maxSourceFailures, maxTokenFailures, windowSeconds, fun _ => [], fun _ => []⟩

/-- The failures recorded with a source and a token hash that match. -/
def recordedFor (matching : Str → Str → Bool) (calls : List LimiterCall) : List DateTime :=
  calls.filterMap fun call => match call with
    | .recordFailure source token now => if matching source token then some now else none
    | .isLimited _ _ _ => none

def sourceRecorded (source : Str) : List LimiterCall → List DateTime :=
  recordedFor fun other _ => other == source

def tokenRecorded (token : Str) : List LimiterCall → List DateTime :=
  recordedFor fun _ other => other == token

/-- Times do not run backwards. -/
abbrev Forward (calls : List LimiterCall) : Prop :=
  calls.Pairwise fun earlier later => earlier.now.instant ≤ later.now.instant

/-- The queues of a limiter hold the ends of what the calls so far recorded. -/
structure Accounts (maxSourceFailures maxTokenFailures windowSeconds : Int) (past : List LimiterCall)
    (limiter : EnrollmentRateLimiter) : Prop where
  maxSource : limiter.maxSourceFailures = maxSourceFailures
  maxToken : limiter.maxTokenFailures = maxTokenFailures
  window : limiter.windowSeconds = windowSeconds
  source : ∀ source now, (∀ call ∈ past, call.now.instant ≤ now) →
    Kept windowSeconds now (sourceRecorded source past) (limiter.sourceFailures source)
  token : ∀ token now, (∀ call ∈ past, call.now.instant ≤ now) →
    Kept windowSeconds now (tokenRecorded token past) (limiter.tokenFailures token)

section Runs
variable {maxSourceFailures maxTokenFailures windowSeconds : Int} {past : List LimiterCall}
  {limiter : EnrollmentRateLimiter} {source token : Str} {now : DateTime}

theorem recordedFor_ordered (forward : Forward past) (matching : Str → Str → Bool) :
    InOrder (recordedFor matching past) := by
  induction past with
  | nil => exact .nil
  | cons call past ih =>
      obtain ⟨first, rest⟩ := List.pairwise_cons.mp forward
      cases call with
      | isLimited source token now => exact ih rest
      | recordFailure source token now =>
          by_cases hit : matching source token
          · have here : recordedFor matching (.recordFailure source token now :: past) =
              now :: recordedFor matching past := List.filterMap_cons_some (if_pos hit)
            rw [here]
            apply List.Pairwise.cons _ (ih rest)
            intro failure member
            obtain ⟨call, among, found⟩ := List.mem_filterMap.mp member
            have before := first call among
            cases call with
            | isLimited => cases found
            | recordFailure other also later =>
                dsimp only at found
                split at found
                · cases found
                  exact before
                · cases found
          · have here : recordedFor matching (.recordFailure source token now :: past) =
              recordedFor matching past := List.filterMap_cons_none (if_neg hit)
            rw [here]
            exact ih rest

theorem recordedFor_query (matching : Str → Str → Bool) :
    recordedFor matching (past ++ [.isLimited source token now]) = recordedFor matching past := by
  simp [recordedFor]

theorem recordedFor_failure (matching : Str → Str → Bool) :
    recordedFor matching (past ++ [.recordFailure source token now]) =
      if matching source token then recordedFor matching past ++ [now]
      else recordedFor matching past := by
  split <;> simp_all [recordedFor]

/-- A failure goes to the end of the queues of its two keys. -/
theorem Accounts.recorded (accounts : Accounts maxSourceFailures maxTokenFailures windowSeconds past limiter) :
    Accounts maxSourceFailures maxTokenFailures windowSeconds
      (past ++ [.recordFailure source token now]) (limiter.recordFailure source token now) where
  maxSource := accounts.maxSource
  maxToken := accounts.maxToken
  window := accounts.window
  source other time after := by
    have held := accounts.source other time fun call member => after call (List.mem_append_left _ member)
    unfold sourceRecorded at held ⊢
    rw [recordedFor_failure]
    unfold EnrollmentRateLimiter.recordFailure
    dsimp only
    by_cases same : source = other
    · subst same
      rw [if_pos (beq_self_eq_true source), Function.update_self]
      exact held.record now
    · rw [if_neg (by simpa using same), Function.update_of_ne (Ne.symm same)]
      exact held
  token other time after := by
    have held := accounts.token other time fun call member => after call (List.mem_append_left _ member)
    unfold tokenRecorded at held ⊢
    rw [recordedFor_failure]
    unfold EnrollmentRateLimiter.recordFailure
    dsimp only
    by_cases same : token = other
    · subst same
      rw [if_pos (beq_self_eq_true token), Function.update_self]
      exact held.record now
    · rw [if_neg (by simpa using same), Function.update_of_ne (Ne.symm same)]
      exact held
/-- A query takes the same off a queue that holds what it should. -/
theorem Accounts.pruned {matching : Str → Str → Bool} {queue : List DateTime}
    (window : limiter.windowSeconds = windowSeconds)
    (forward : Forward (past ++ [.isLimited source token now]))
    (held : ∀ time, (∀ call ∈ past, call.now.instant ≤ time) →
      Kept windowSeconds time (recordedFor matching past) queue) :
    limiter.counted queue now = recent windowSeconds now (recordedFor matching past) ∧
      ∀ time, (∀ call ∈ past ++ [.isLimited source token now], call.now.instant ≤ time) →
        Kept windowSeconds time (recordedFor matching past) (limiter.counted queue now) := by
  subst window
  obtain ⟨before, -, last⟩ := List.pairwise_append.mp forward
  have counted := (held now.instant fun call member => last call member _ List.mem_cons_self).count
    (recordedFor_ordered before matching)
  refine ⟨counted.1, fun time after => counted.2.later ?_⟩
  exact after (.isLimited source token now) (List.mem_append_right _ List.mem_cons_self)

/-- A queue that a query pruned is held, and so are the others of its table. -/
theorem pruned_table {matching : Str → Str → Str → Bool} {table : Str → List DateTime} {key : Str}
    {calls : List LimiterCall} {left : List DateTime}
    (here : ∀ time, (∀ call ∈ calls, call.now.instant ≤ time) →
      Kept windowSeconds time (recordedFor (matching key) past) left)
    (others : ∀ other time, (∀ call ∈ calls, call.now.instant ≤ time) →
      Kept windowSeconds time (recordedFor (matching other) past) (table other))
    (other : Str) (time : Int) (after : ∀ call ∈ calls, call.now.instant ≤ time) :
    Kept windowSeconds time (recordedFor (matching other) past)
      (Function.update table key left other) := by
  by_cases same : other = key
  · rw [same, Function.update_self]
    exact here time after
  · rw [Function.update_of_ne same]
    exact others other time after

/-- After a query both tables are held, whichever queues it pruned. -/
theorem Accounts.tables {sources tokens : Str → List DateTime}
    (accounts : Accounts maxSourceFailures maxTokenFailures windowSeconds past limiter)
    (sourcesHeld : ∀ other time, (∀ call ∈ past ++ [LimiterCall.isLimited source token now],
      call.now.instant ≤ time) → Kept windowSeconds time (sourceRecorded other past) (sources other))
    (tokensHeld : ∀ other time, (∀ call ∈ past ++ [LimiterCall.isLimited source token now],
      call.now.instant ≤ time) → Kept windowSeconds time (tokenRecorded other past) (tokens other)) :
    Accounts maxSourceFailures maxTokenFailures windowSeconds (past ++ [.isLimited source token now])
      { limiter with sourceFailures := sources, tokenFailures := tokens } where
  maxSource := accounts.maxSource
  maxToken := accounts.maxToken
  window := accounts.window
  source other time after := by
    unfold sourceRecorded
    rw [recordedFor_query]
    exact sourcesHeld other time after
  token other time after := by
    unfold tokenRecorded
    rw [recordedFor_query]
    exact tokensHeld other time after

/-- A query answers as the recorded failures say, and keeps the account. -/
theorem Accounts.queried
    (accounts : Accounts maxSourceFailures maxTokenFailures windowSeconds past limiter)
    (forward : Forward (past ++ [.isLimited source token now])) :
    ((limiter.isLimited source token now).1 = true ↔
      maxSourceFailures ≤ (recent windowSeconds now (sourceRecorded source past)).length ∨
        maxTokenFailures ≤ (recent windowSeconds now (tokenRecorded token past)).length) ∧
    Accounts maxSourceFailures maxTokenFailures windowSeconds
      (past ++ [.isLimited source token now]) (limiter.isLimited source token now).2 := by
  obtain ⟨sourceCount, sourceKept⟩ := Accounts.pruned accounts.window forward (accounts.source source)
  obtain ⟨tokenCount, tokenKept⟩ := Accounts.pruned accounts.window forward (accounts.token token)
  have before : ∀ time, (∀ call ∈ past ++ [LimiterCall.isLimited source token now],
      call.now.instant ≤ time) → ∀ call ∈ past, call.now.instant ≤ time :=
    fun time after call member => after call (List.mem_append_left _ member)
  have sources := pruned_table sourceKept fun other time after =>
    accounts.source other time (before time after)
  have tokens := pruned_table tokenKept fun other time after =>
    accounts.token other time (before time after)
  obtain rfl := accounts.maxSource
  obtain rfl := accounts.maxToken
  unfold sourceRecorded tokenRecorded
  rw [← sourceCount, ← tokenCount]
  unfold EnrollmentRateLimiter.isLimited
  dsimp only
  by_cases full : limiter.maxSourceFailures ≤
      (limiter.counted (limiter.sourceFailures source) now).length
  · -- the queue of the token is left as it was
    rw [if_pos full]
    constructor
    · simp [full]
    · exact accounts.tables sources fun other time after =>
        accounts.token other time (before time after)
  · rw [if_neg full]
    constructor
    · simp [full]
    · exact accounts.tables sources tokens
/-- Every call keeps the account. -/
theorem Accounts.step (accounts : Accounts maxSourceFailures maxTokenFailures windowSeconds past limiter)
    (call : LimiterCall) (forward : Forward (past ++ [call])) :
    Accounts maxSourceFailures maxTokenFailures windowSeconds (past ++ [call]) (call.perform limiter) := by
  cases call with
  | recordFailure source token now => exact accounts.recorded
  | isLimited source token now => exact (accounts.queried forward).2

/-- The account of a run, over the calls before it. -/
theorem Accounts.run (accounts : Accounts maxSourceFailures maxTokenFailures windowSeconds past limiter)
    (calls : List LimiterCall) (forward : Forward (past ++ calls)) :
    Accounts maxSourceFailures maxTokenFailures windowSeconds (past ++ calls)
      (calls.foldl LimiterCall.perform limiter) := by
  induction calls generalizing past limiter with
  | nil => rwa [List.append_nil]
  | cons call calls ih =>
      rw [List.append_cons] at forward ⊢
      have upTo : Forward (past ++ [call]) := (List.pairwise_append.mp forward).1
      exact ih (accounts.step call upTo) forward
end Runs

theorem accounts_new (maxSourceFailures maxTokenFailures windowSeconds : Int) :
    Accounts maxSourceFailures maxTokenFailures windowSeconds []
      (newLimiter maxSourceFailures maxTokenFailures windowSeconds) := by
  constructor
  · rfl
  · rfl
  · rfl
  · exact fun _ _ _ => kept_empty
  · exact fun _ _ _ => kept_empty

/-- After any calls in time order the limiter answers as the failures recorded so
far do, whatever the queries among them have taken off its queues. -/
theorem limiter_counts_exactly (maxSourceFailures maxTokenFailures windowSeconds : Int)
    (calls : List LimiterCall) (source token : Str) (now : DateTime)
    (forward : Forward (calls ++ [.isLimited source token now])) :
    ((calls.foldl LimiterCall.perform
        (newLimiter maxSourceFailures maxTokenFailures windowSeconds)).isLimited source token now).1 = true ↔
      maxSourceFailures ≤ (recent windowSeconds now (sourceRecorded source calls)).length ∨
        maxTokenFailures ≤ (recent windowSeconds now (tokenRecorded token calls)).length := by
  have upTo : Forward ([] ++ calls) := (List.pairwise_append.mp forward).1
  have accounts := (accounts_new maxSourceFailures maxTokenFailures windowSeconds).run calls upTo
  exact (accounts.queried forward).1

/-- Two failures of one token, the first of them at the end of the window. -/
def failuresTwo : List LimiterCall :=
  [.recordFailure [1] [2] ⟨0, some 0⟩, .recordFailure [1] [2] ⟨1000000, some 0⟩]

theorem limiter_counts_exactly_late :
    ((failuresTwo.foldl LimiterCall.perform (newLimiter 2 2 600)).isLimited [1] [2]
        ⟨600000000, some 0⟩).1 = false ∧
      recent 600 ⟨600000000, some 0⟩ (sourceRecorded [1] failuresTwo) = [⟨1000000, some 0⟩] := by
  have answer := limiter_counts_exactly 2 2 600 failuresTwo [1] [2] ⟨600000000, some 0⟩ (by decide)
  constructor
  · apply Bool.eq_false_iff.mpr
    rw [ne_eq, answer]
    decide
  · decide

end VibeConnect.LimiterCount
