import Pingling.Lib.Duration

/-!
# Connection strategies

A plan tries its strategies in order, and each strategy retries as its policy says. The delay
of an exponential policy is computed in 32-bit words and in durations, both of which end; this
file says how far that is from doubling without end.
-/

namespace Pingling.Config
open Lib

inductive StackType where
  | system
  | gVisor
  | mixed
  deriving DecidableEq

inductive ResolverType where
  | doh
  | tcp
  | udp
  | system
  deriving DecidableEq

/-- How to retry within a single strategy. -/
inductive RetryPolicy where
  | noRetry
  | fixed (maxAttempts : UInt32) (delay : Duration)
  | exponential (maxAttempts : UInt32) (initialDelay maxDelay : Duration)
  deriving DecidableEq

/-- The delay before an attempt, counted from one. An underflow panics and gives nothing. -/
def RetryPolicy.delayFor (self : RetryPolicy) (nextAttempt : UInt32) : Option Duration :=
  if nextAttempt ≤ 1 then some .zero
  else
    match self with
    | .noRetry => some .zero
    | .fixed _ delay => some delay
    | .exponential _ initialDelay maxDelay => do
      let exponent ← checkedSub nextAttempt 2
      let multiplier := (checkedShl 1 exponent).getD 4294967295
      let proposed := (initialDelay.checkedMul multiplier).getD maxDelay
      some (min proposed maxDelay)

structure ConnectionStrategy where
  id : String
  stack : StackType
  resolverType : ResolverType
  totalTimeout : Duration
  retry : RetryPolicy
  deriving DecidableEq

/-- An ordered list of strategies and a cap on the time of all of them. -/
structure StrategyPlan where
  strategies : List ConnectionStrategy
  globalTimeout : Option Duration
  deriving DecidableEq

/-- The factor by which the initial delay is multiplied. -/
def multiplierOf (exponent : ℕ) : ℕ :=
  if exponent < 32 then 2 ^ exponent else 2 ^ 32 - 1

lemma toNat_multiplier (exponent : UInt32) :
    ((checkedShl 1 exponent).getD 4294967295).toNat = multiplierOf exponent.toNat := by
  unfold multiplierOf
  by_cases h : exponent.toNat < 32
  · obtain ⟨c, hc, hvalue⟩ := checkedShl_one h
    rw [hc, if_pos h, Option.getD_some, hvalue]
  · rw [checkedShl, if_neg h, if_neg h, Option.getD_none]
    rfl

/-- A product that is too long for a duration is longer than every cap. -/
lemma toNanos_capped (d cap : Duration) (r : UInt32) :
    (min ((d.checkedMul r).getD cap) cap).toNanos =
      min (d.toNanos * r.toNat) cap.toNanos := by
  have hspec := d.checkedMul_spec r
  rw [Duration.toNanos_min]
  cases hmul : d.checkedMul r with
  | none =>
    rw [hmul] at hspec
    have hcap := cap.toNanos_lt
    rw [Option.getD_none]
    dsimp only at hspec
    omega
  | some e =>
    rw [hmul] at hspec
    dsimp only at hspec
    rw [Option.getD_some, hspec]

lemma delayFor_exponential (maxAttempts : UInt32) (initialDelay maxDelay : Duration)
    {n : UInt32} (hn : 2 ≤ n.toNat) :
    ∃ d, (RetryPolicy.exponential maxAttempts initialDelay maxDelay).delayFor n = some d ∧
      d.toNanos = min (initialDelay.toNanos * multiplierOf (n.toNat - 2)) maxDelay.toNanos := by
  obtain ⟨exponent, hexponent, hvalue⟩ := checkedSub_of_le (a := n) (b := 2) hn
  have hlate : ¬n ≤ 1 := by
    rw [UInt32.le_iff_toNat_le]
    exact Nat.not_le.mpr hn
  refine ⟨min ((initialDelay.checkedMul ((checkedShl 1 exponent).getD 4294967295)).getD maxDelay)
    maxDelay, ?_, ?_⟩
  · rw [RetryPolicy.delayFor, if_neg hlate]
    simp only [hexponent]
    rfl
  · have htwo : (2 : UInt32).toNat = 2 := rfl
    rw [toNanos_capped, toNat_multiplier, hvalue, htwo]

/-- A factor that has stopped growing makes a difference only while its product is below the
cap. -/
lemma capped_eq_iff (d cap exponent : ℕ) :
    min (d * multiplierOf exponent) cap = min cap (d * 2 ^ exponent) ↔
      exponent < 32 ∨ d = 0 ∨ cap ≤ d * (2 ^ 32 - 1) := by
  unfold multiplierOf
  by_cases h : exponent < 32
  · rw [if_pos h, min_comm]
    exact ⟨fun _ => Or.inl h, fun _ => rfl⟩
  · have hpow : 2 ^ 32 ≤ 2 ^ exponent := Nat.pow_le_pow_right (by decide) (by omega)
    have hmul : d * 2 ^ 32 ≤ d * 2 ^ exponent := Nat.mul_le_mul_left d hpow
    have hmost : d * (2 ^ 32 - 1) + d ≤ d * 2 ^ exponent := by omega
    have hcapped : ∀ most doubled : ℕ, most + d ≤ doubled → (d = 0 → most = doubled) →
        (min most cap = min cap doubled ↔ exponent < 32 ∨ d = 0 ∨ cap ≤ most) := by
      intro most doubled hle hzero
      omega
    rw [if_neg h]
    refine hcapped _ _ hmost ?_
    rintro rfl
    rw [Nat.zero_mul, Nat.zero_mul]

/-- The delay before the `n`-th attempt never panics. It is the initial delay doubled `n - 2`
times, or the cap if that is less, exactly when the shift does not leave its word, or the
delay is zero, or the largest factor reaches the cap. -/
theorem exponential_delay_exact (maxAttempts : UInt32) (initialDelay maxDelay : Duration)
    (n : UInt32) (hn : 2 ≤ n.toNat) :
    ∃ d, (RetryPolicy.exponential maxAttempts initialDelay maxDelay).delayFor n = some d ∧
      (d.toNanos = min maxDelay.toNanos (initialDelay.toNanos * 2 ^ (n.toNat - 2)) ↔
        n.toNat ≤ 33 ∨ initialDelay = .zero ∨
          maxDelay.toNanos ≤ initialDelay.toNanos * (2 ^ 32 - 1)) := by
  obtain ⟨d, hd, hvalue⟩ := delayFor_exponential maxAttempts initialDelay maxDelay hn
  have hzero : initialDelay = .zero ↔ initialDelay.toNanos = 0 := by
    rw [← Duration.toNanos_inj]
    rfl
  have hlimit : n.toNat ≤ 33 ↔ n.toNat - 2 < 32 := by omega
  refine ⟨d, hd, ?_⟩
  rw [hvalue, hzero, hlimit]
  exact capped_eq_iff _ _ _

theorem exponential_delay_exact_fifth :
    ∃ d, (RetryPolicy.exponential 10 ⟨1, 0, by decide⟩ ⟨5, 0, by decide⟩).delayFor 5 =
        some d ∧ d.toNanos = 5000000000 := by
  obtain ⟨d, hd, hexact⟩ :=
    exponential_delay_exact 10 ⟨1, 0, by decide⟩ ⟨5, 0, by decide⟩ 5 (by decide)
  refine ⟨d, hd, (hexact.mpr (Or.inl (by decide))).trans ?_⟩
  simp [Duration.toNanos]

/-- From one nanosecond, the delay before attempt 40 should have reached its cap of one minute
long ago; it is less than five seconds. -/
theorem exponential_delay_stops :
    ∃ d, (RetryPolicy.exponential 50 ⟨0, 1, by decide⟩ ⟨60, 0, by decide⟩).delayFor 40 =
        some d ∧ d.toNanos = 4294967295 ∧
      min (Duration.toNanos ⟨60, 0, by decide⟩)
        (Duration.toNanos ⟨0, 1, by decide⟩ * 2 ^ (40 - 2)) = 60000000000 := by
  have hlate : 2 ≤ (40 : UInt32).toNat := by decide
  obtain ⟨d, hd, hvalue⟩ :=
    delayFor_exponential 50 ⟨0, 1, by decide⟩ ⟨60, 0, by decide⟩ hlate
  refine ⟨d, hd, hvalue.trans ?_, ?_⟩
  · simp [Duration.toNanos, multiplierOf]
  · simp [Duration.toNanos]

end Pingling.Config
