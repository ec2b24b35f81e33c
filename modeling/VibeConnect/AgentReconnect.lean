import Mathlib.Algebra.Order.Field.Basic
import Mathlib.Data.List.Infix
import Mathlib.Data.Rat.Cast.Order
import Mathlib.Tactic.Linarith
import Mathlib.Tactic.Positivity
import VibeConnect.Models

/-! The loop that keeps the agent connected, and the delay before it connects
again. Floats are exact rationals, but for the one operation of the source that
can leave their range. -/
namespace VibeConnect.AgentReconnect
open Models

/-- A float times an integer: the integer becomes a float first. -/
def floatTimes (value : ℚ) (count : Nat) : Except Exc ℚ :=
  if 2 ^ 1024 ≤ count then .error .overflowError else .ok (value * count)

/-- `next_reconnect_delay`; `drawn` is what `random.random()` gives. -/
def nextReconnectDelay (attempt : Int) (baseSeconds maxSeconds : ℚ) (jitter : Option ℚ) (drawn : ℚ) :
    Except Exc ℚ :=
  if attempt < 0 then .error (.agentTunnelError "attempt cannot be negative")
  else if baseSeconds ≤ 0 ∨ maxSeconds ≤ 0 then
    .error (.agentTunnelError "backoff values must be positive")
  else
    let actualJitter := jitter.getD drawn
    if actualJitter < 0 ∨ 1 < actualJitter then
      .error (.agentTunnelError "jitter must be between 0 and 1")
    else do
      let scaled ← floatTimes baseSeconds (2 ^ attempt.toNat)
      let exponential := min maxSeconds scaled
      .ok (min maxSeconds (exponential * (1 / 2 + actualJitter)))

section Delay
variable {baseSeconds maxSeconds : ℚ}

/-- What the delay is where the power of two is a float. -/
def delayOf (attempt : Nat) (baseSeconds maxSeconds jitter : ℚ) : ℚ :=
  min maxSeconds (min maxSeconds (baseSeconds * 2 ^ attempt) * (1 / 2 + jitter))

theorem floatTimes_small {value : ℚ} {attempt : Nat} (small : attempt < 1024) :
    floatTimes value (2 ^ attempt) = .ok (value * 2 ^ attempt) := by
  have fits : 2 ^ attempt < 2 ^ 1024 := Nat.pow_lt_pow_right (by decide) small
  unfold floatTimes
  rw [if_neg (Nat.not_le.mpr fits), Nat.cast_pow, Nat.cast_ofNat]

theorem floatTimes_large {value : ℚ} {attempt : Nat} (large : 1024 ≤ attempt) :
    floatTimes value (2 ^ attempt) = .error .overflowError :=
  if_pos (Nat.pow_le_pow_right (by decide) large)

/-- Accepted arguments leave only the multiplication to fail. -/
theorem nextReconnectDelay_accepted {attempt : Nat} {jitter : Option ℚ} {drawn : ℚ}
    (base : 0 < baseSeconds) (cap : 0 < maxSeconds) (least : 0 ≤ jitter.getD drawn)
    (most : jitter.getD drawn ≤ 1) :
    nextReconnectDelay attempt baseSeconds maxSeconds jitter drawn =
      (floatTimes baseSeconds (2 ^ attempt) >>= fun scaled =>
        .ok (min maxSeconds (min maxSeconds scaled * (1 / 2 + jitter.getD drawn)))) := by
  have positive : ¬(baseSeconds ≤ 0 ∨ maxSeconds ≤ 0) := by
    rw [not_or]
    exact ⟨not_le.mpr base, not_le.mpr cap⟩
  have between : ¬(jitter.getD drawn < 0 ∨ 1 < jitter.getD drawn) := by
    rw [not_or]
    exact ⟨not_lt.mpr least, not_lt.mpr most⟩
  unfold nextReconnectDelay
  rw [if_neg (not_lt.mpr (Int.natCast_nonneg attempt)), if_neg positive]
  dsimp only
  rw [if_neg between, Int.toNat_natCast]

theorem nextReconnectDelay_small {attempt : Nat} {jitter : Option ℚ} {drawn : ℚ}
    (base : 0 < baseSeconds) (cap : 0 < maxSeconds) (least : 0 ≤ jitter.getD drawn)
    (most : jitter.getD drawn ≤ 1) (small : attempt < 1024) :
    nextReconnectDelay attempt baseSeconds maxSeconds jitter drawn =
      .ok (delayOf attempt baseSeconds maxSeconds (jitter.getD drawn)) := by
  rw [nextReconnectDelay_accepted base cap least most, floatTimes_small small]
  rfl

theorem nextReconnectDelay_large {attempt : Nat} {jitter : Option ℚ} {drawn : ℚ}
    (base : 0 < baseSeconds) (cap : 0 < maxSeconds) (least : 0 ≤ jitter.getD drawn)
    (most : jitter.getD drawn ≤ 1) (large : 1024 ≤ attempt) :
    nextReconnectDelay attempt baseSeconds maxSeconds jitter drawn = .error .overflowError := by
  rw [nextReconnectDelay_accepted base cap least most, floatTimes_large large]
  rfl

theorem delayOf_nonneg {attempt : Nat} {jitter : ℚ} (base : 0 < baseSeconds) (cap : 0 < maxSeconds)
    (least : 0 ≤ jitter) : 0 ≤ delayOf attempt baseSeconds maxSeconds jitter := by
  have scaled : 0 ≤ min maxSeconds (baseSeconds * 2 ^ attempt) :=
    le_min cap.le (mul_nonneg base.le (pow_nonneg two_pos.le attempt))
  apply le_min cap.le
  exact mul_nonneg scaled (add_nonneg (by norm_num) least)

theorem delayOf_capped (attempt : Nat) (jitter : ℚ) :
    delayOf attempt baseSeconds maxSeconds jitter ≤ maxSeconds :=
  min_le_left _ _

theorem delayOf_mono {earlier later : Nat} {jitter : ℚ} (base : 0 < baseSeconds)
    (least : 0 ≤ jitter) (before : earlier ≤ later) :
    delayOf earlier baseSeconds maxSeconds jitter ≤ delayOf later baseSeconds maxSeconds jitter := by
  have powers : (2 : ℚ) ^ earlier ≤ 2 ^ later := pow_le_pow_right₀ one_le_two before
  have scaled : min maxSeconds (baseSeconds * 2 ^ earlier) ≤
      min maxSeconds (baseSeconds * 2 ^ later) :=
    min_le_min_left _ (mul_le_mul_of_nonneg_left powers base.le)
  apply min_le_min_left
  exact mul_le_mul_of_nonneg_right scaled (add_nonneg (by norm_num) least)

/-- The delay is there, within its bounds, and no shorter than any before it. -/
def DelayKept (attempt : Int) (baseSeconds maxSeconds : ℚ) (jitter : Option ℚ) (drawn : ℚ) : Prop :=
  ∃ delay, nextReconnectDelay attempt baseSeconds maxSeconds jitter drawn = .ok delay ∧
    0 ≤ delay ∧ delay ≤ maxSeconds ∧
    ∀ earlier, 0 ≤ earlier → earlier ≤ attempt → ∃ shorter,
      nextReconnectDelay earlier baseSeconds maxSeconds jitter drawn = .ok shorter ∧ shorter ≤ delay

/-- The delay is kept for as long as the power of two is a float. -/
theorem reconnect_delay_kept {attempt : Int} {jitter : Option ℚ} {drawn : ℚ} (counted : 0 ≤ attempt)
    (base : 0 < baseSeconds) (cap : 0 < maxSeconds) (least : 0 ≤ jitter.getD drawn)
    (most : jitter.getD drawn ≤ 1) :
    DelayKept attempt baseSeconds maxSeconds jitter drawn ↔ attempt < 1024 := by
  obtain ⟨attempt, rfl⟩ := Int.eq_ofNat_of_zero_le counted
  constructor
  · rintro ⟨delay, returned, -⟩
    by_contra large
    rw [nextReconnectDelay_large base cap least most (by omega)] at returned
    cases returned
  · intro small
    have fits : attempt < 1024 := by omega
    refine ⟨_, nextReconnectDelay_small base cap least most fits, delayOf_nonneg base cap least,
      delayOf_capped _ _, ?_⟩
    intro earlier started before
    obtain ⟨earlier, rfl⟩ := Int.eq_ofNat_of_zero_le started
    have sooner : earlier ≤ attempt := Int.ofNat_le.mp before
    exact ⟨_, nextReconnectDelay_small base cap least most (sooner.trans_lt fits),
      delayOf_mono base least sooner⟩

/-- The third attempt with the defaults. -/
theorem reconnect_delay_kept_third : DelayKept 2 1 60 (some (1 / 2)) 0 ↔ (2 : Int) < 1024 :=
  reconnect_delay_kept (by decide) one_pos (by norm_num) (by norm_num) (by norm_num)

/-- After 1024 failures in a row the next delay is not there. -/
theorem reconnect_delay_overflows :
    nextReconnectDelay 1024 1 60 (some 0) 0 = .error .overflowError ∧
      ¬DelayKept 1024 1 60 (some 0) 0 := by
  have raised : nextReconnectDelay (1024 : Nat) 1 60 (some 0) 0 = .error .overflowError :=
    nextReconnectDelay_large one_pos (by norm_num) le_rfl (by norm_num) le_rfl
  refine ⟨raised, ?_⟩
  rintro ⟨delay, returned, -⟩
  rw [show (1024 : Int) = (1024 : Nat) from rfl, raised] at returned
  cases returned
end Delay

/-! The loop. -/

/-- What `validate_agent_config` leaves of the loop's two settings. -/
structure ReconnectConfig where
  reconnectBackoffMaxSeconds : Int
  maxReconnectAttempts : Int
  documented : 30 ≤ reconnectBackoffMaxSeconds ∧ reconnectBackoffMaxSeconds ≤ 1800
  nonnegative : 0 ≤ maxReconnectAttempts

def validateReconnect (reconnectBackoffMaxSeconds maxReconnectAttempts : Int) :
    Except Exc ReconnectConfig :=
  if documented : 30 ≤ reconnectBackoffMaxSeconds ∧ reconnectBackoffMaxSeconds ≤ 1800 then
    if nonnegative : 0 ≤ maxReconnectAttempts then
      .ok ⟨reconnectBackoffMaxSeconds, maxReconnectAttempts, documented, nonnegative⟩
    else .error (.configError "max_reconnect_attempts cannot be negative")
  else .error (.configError "reconnect_backoff_max_seconds is outside documented bounds")

/-- `except (AgentTunnelError, OSError, asyncio.IncompleteReadError)`. -/
def isRetried : Exc → Bool
  | .agentTunnelError _ | .tunnelReconnectLimitError _ | .incompleteReadError _ => true
  | raised => raised.isOSError

/-- How one tunnel ended, and what `random.random()` gives after it. -/
abbrev Attempt := Except Exc Unit × ℚ

def limitError (config : ReconnectConfig) : Exc :=
  .tunnelReconnectLimitError
    ("exhausted " ++ toString config.maxReconnectAttempts ++ " reconnect attempts")

/-- `_run_tunnel` over the tunnels it opens, one after another: what ends it, or
`none` while it goes on. -/
def runTunnel (config : ReconnectConfig) : Nat → List Attempt → Option Exc
  | _, [] => none
  | _, (.ok _, _) :: rest => runTunnel config 0 rest
  | attempt, (.error raised, drawn) :: rest =>
      if isRetried raised = false then some raised
      else if config.maxReconnectAttempts > 0 ∧ (attempt : Int) ≥ config.maxReconnectAttempts then
        some (limitError config)
      else match nextReconnectDelay attempt 1 config.reconnectBackoffMaxSeconds none drawn with
        | .error fault => some fault
        | .ok _ => runTunnel config (attempt + 1) rest

def failed (count : Nat) : Attempt → Nat
  | (.ok _, _) => 0
  | (.error _, _) => count + 1

/-- Failures in a row since the last clean end of a tunnel. -/
def failures (start : Nat) (tunnels : List Attempt) : Nat := tunnels.foldl failed start

/-- More failures in a row than the agent is configured to retry. -/
def Exhausted (config : ReconnectConfig) (start : Nat) (tunnels : List Attempt) : Prop :=
  0 < config.maxReconnectAttempts ∧ ∃ past, past <+: tunnels ∧
    (failures start past : Int) = config.maxReconnectAttempts + 1

/-- The loop gets by: every error is one it retries on, and the delay is computed. -/
structure Bearable (config : ReconnectConfig) (start : Nat) (tunnels : List Attempt) : Prop where
  retried : ∀ tunnel ∈ tunnels, ∀ raised, tunnel.1 = .error raised → isRetried raised = true
  drawn : ∀ tunnel ∈ tunnels, 0 ≤ tunnel.2 ∧ tunnel.2 ≤ 1
  few : config.maxReconnectAttempts = 0 ∨ 1024 < config.maxReconnectAttempts →
    ∀ past, past <+: tunnels → failures start past ≤ 1024

section Loop
variable {config : ReconnectConfig} {start : Nat} {tunnel : Attempt} {rest : List Attempt}

/-- What is behind the first tunnel is seen from the failures that it leaves. -/
theorem exhausted_cons (below : (start : Int) ≤ config.maxReconnectAttempts) :
    Exhausted config start (tunnel :: rest) ↔ Exhausted config (failed start tunnel) rest := by
  constructor
  · rintro ⟨limited, past, ahead, counted⟩
    cases past with
    | nil =>
        have still : (start : Int) = config.maxReconnectAttempts + 1 := counted
        omega
    | cons first past =>
        obtain ⟨rfl, behind⟩ := List.cons_prefix_cons.mp ahead
        exact ⟨limited, past, behind, counted⟩
  · rintro ⟨limited, past, ahead, counted⟩
    exact ⟨limited, tunnel :: past, List.cons_prefix_cons.mpr ⟨rfl, ahead⟩, counted⟩

theorem Bearable.tail (bearable : Bearable config start (tunnel :: rest)) :
    Bearable config (failed start tunnel) rest where
  retried other member := bearable.retried other (List.mem_cons_of_mem _ member)
  drawn other member := bearable.drawn other (List.mem_cons_of_mem _ member)
  few unlimited past ahead :=
    bearable.few unlimited (tunnel :: past) (List.cons_prefix_cons.mpr ⟨rfl, ahead⟩)

/-- The loop ends with the limit, at the failure that is one too many, or not at all. -/
theorem runTunnel_spec {tunnels : List Attempt} (bearable : Bearable config start tunnels)
    (below : 0 < config.maxReconnectAttempts → (start : Int) ≤ config.maxReconnectAttempts) :
    (Exhausted config start tunnels → runTunnel config start tunnels = some (limitError config)) ∧
      (¬Exhausted config start tunnels → runTunnel config start tunnels = none) := by
  induction tunnels generalizing start with
  | nil =>
      refine ⟨fun exhausted => ?_, fun _ => rfl⟩
      obtain ⟨limited, past, ahead, counted⟩ := exhausted
      rw [List.prefix_nil.mp ahead] at counted
      have still : (start : Int) = config.maxReconnectAttempts + 1 := counted
      have low := below limited
      omega
  | cons tunnel rest ih =>
      have behind : Exhausted config start (tunnel :: rest) ↔
          Exhausted config (failed start tunnel) rest := by
        by_cases limited : 0 < config.maxReconnectAttempts
        · exact exhausted_cons (below limited)
        · exact iff_of_false (fun both => limited both.1) fun both => limited both.1
      rw [behind]
      obtain ⟨outcome, drawn⟩ := tunnel
      cases outcome with
      | ok value => exact ih bearable.tail fun limited => limited.le
      | error raised =>
      have retried := bearable.retried _ List.mem_cons_self raised rfl
      obtain ⟨least, most⟩ := bearable.drawn _ List.mem_cons_self
      unfold runTunnel
      rw [if_neg (by rw [retried]; exact nofun)]
      by_cases full : config.maxReconnectAttempts > 0 ∧ (start : Int) ≥ config.maxReconnectAttempts
      · have last : Exhausted config (start + 1) rest := by
          refine ⟨full.1, [], List.nil_prefix, ?_⟩
          have low := below full.1
          simp only [failures, List.foldl_nil, Nat.cast_add, Nat.cast_one]
          omega
        rw [if_pos full]
        exact ⟨fun _ => rfl, fun unexhausted => absurd last unexhausted⟩
      · -- the power of two is still a float
        have small : start < 1024 := by
          by_cases unlimited : config.maxReconnectAttempts = 0 ∨ 1024 < config.maxReconnectAttempts
          · have counted := bearable.few unlimited [(.error raised, drawn)]
              (List.cons_prefix_cons.mpr ⟨rfl, List.nil_prefix⟩)
            simp only [failures, failed, List.foldl_cons, List.foldl_nil] at counted
            omega
          · have nonnegative := config.nonnegative
            omega
        have cap : (0 : ℚ) < config.reconnectBackoffMaxSeconds := by
          have documented := config.documented
          exact_mod_cast (by omega : 0 < config.reconnectBackoffMaxSeconds)
        have delay : nextReconnectDelay start 1 config.reconnectBackoffMaxSeconds none drawn = .ok _ :=
          nextReconnectDelay_small one_pos cap least most small
        rw [if_neg full, delay]
        refine ih bearable.tail fun limited => ?_
        have low := below limited
        simp only [failed, Nat.cast_add, Nat.cast_one]
        omega
end Loop

end VibeConnect.AgentReconnect
