import Reprox.Routing.Proxy

/-!
# Where the backoff stops doubling

The delay before an attempt is computed with a saturating shift, a 32-bit factor
and a checked multiplication. The shift is wide enough for attempt 33 and the
factor stays at its largest value from attempt 34 on, so a base delay that has
not reached the cap by then never does. Everywhere else the delay is the exact
product, capped.
-/

namespace Reprox.Routing

open Foundations Config

namespace ConnectRetryPolicy

/-- The delay doubles from the base delay on until it reaches the cap, in exact arithmetic. -/
structure DoublesUntilCap (policy : ConnectRetryPolicy) (attempt : UInt32) : Prop where
  nanos_eq : (policy.getDelay attempt).nanos =
    min (policy.baseDelay.nanos * 2 ^ (attempt.toNat - 2)) policy.maxDelay.nanos
  capped : 0 < policy.baseDelay.nanos →
    policy.maxDelay.nanos ≤ policy.baseDelay.nanos * 2 ^ (attempt.toNat - 2) →
      policy.getDelay attempt = policy.maxDelay

/-- What the code computes, in exact arithmetic: the factor stops at `u32::MAX`. -/
theorem getDelay_nanos_eq (policy : ConnectRetryPolicy) {attempt : UInt32} (h : 2 ≤ attempt) :
    (policy.getDelay attempt).nanos =
      min (policy.baseDelay.nanos * min (2 ^ (attempt.toNat - 2)) (2 ^ 32 - 1))
        policy.maxDelay.nanos := by
  have hn : 2 ≤ attempt.toNat := UInt32.le_iff_toNat_le.mp h
  have hdelay := policy.getDelay_nanos hn attempt.toNat_lt
  rwa [toNat_multiplier hn attempt.toNat_lt, UInt32.ofNat_toNat] at hdelay

theorem doublesUntilCap_iff_nanos (policy : ConnectRetryPolicy) (attempt : UInt32) :
    policy.DoublesUntilCap attempt ↔ (policy.getDelay attempt).nanos =
      min (policy.baseDelay.nanos * 2 ^ (attempt.toNat - 2)) policy.maxDelay.nanos := by
  refine ⟨DoublesUntilCap.nanos_eq, fun h => ⟨h, fun _ hreached => ?_⟩⟩
  apply Duration.nanos_injective
  rw [h, min_eq_right hreached]

theorem min_pow_eq_iff (attempt : ℕ) :
    min (2 ^ (attempt - 2)) (2 ^ 32 - 1) = 2 ^ (attempt - 2) ↔ attempt ≤ 33 := by
  rw [min_eq_left_iff]
  constructor
  · intro h
    by_contra hlate
    have hpow : 2 ^ 32 ≤ 2 ^ (attempt - 2) := Nat.pow_le_pow_right (by norm_num) (by omega)
    omega
  · intro h
    have hpow : 2 ^ (attempt - 2) ≤ 2 ^ 31 := Nat.pow_le_pow_right (by norm_num) (by omega)
    omega

/-- The delay is exact up to attempt 33, and from then on when the base delay is
zero or the largest factor already takes it to the cap. -/
theorem doublesUntilCap_iff (policy : ConnectRetryPolicy) {attempt : UInt32} (h : 2 ≤ attempt) :
    policy.DoublesUntilCap attempt ↔
      attempt ≤ 33 ∨ policy.baseDelay.nanos = 0 ∨
        policy.maxDelay.nanos ≤ policy.baseDelay.nanos * (2 ^ 32 - 1) := by
  rw [doublesUntilCap_iff_nanos, policy.getDelay_nanos_eq h]
  have hlate : attempt ≤ 33 ↔ attempt.toNat ≤ 33 := UInt32.le_iff_toNat_le
  by_cases hearly : attempt.toNat ≤ 33
  · rw [(min_pow_eq_iff _).mpr hearly]
    exact iff_of_true rfl (Or.inl (hlate.mpr hearly))
  have hpow : 2 ^ 32 ≤ 2 ^ (attempt.toNat - 2) := Nat.pow_le_pow_right (by norm_num) (by omega)
  rw [min_eq_right (a := 2 ^ (attempt.toNat - 2)) (by omega), hlate, or_iff_right hearly]
  have hless : policy.baseDelay.nanos ≠ 0 →
      policy.baseDelay.nanos * (2 ^ 32 - 1) < policy.baseDelay.nanos * 2 ^ (attempt.toNat - 2) := by
    intro hbase
    exact Nat.mul_lt_mul_of_pos_left (by omega) (Nat.pos_of_ne_zero hbase)
  constructor
  · intro heq
    by_contra hnot
    obtain ⟨hbase, hcap⟩ := not_or.mp hnot
    have hlt := hless hbase
    omega
  · rintro (hbase | hcap)
    · rw [hbase, Nat.zero_mul, Nat.zero_mul]
    · have hle : policy.baseDelay.nanos * (2 ^ 32 - 1) ≤
          policy.baseDelay.nanos * 2 ^ (attempt.toNat - 2) := by
        gcongr
        omega
      rw [min_eq_right hcap, min_eq_right (hcap.trans hle)]

theorem doublesUntilCap_iff_default :
    default.DoublesUntilCap 4 ↔
      (4 : UInt32) ≤ 33 ∨ default.baseDelay.nanos = 0 ∨
        default.maxDelay.nanos ≤ default.baseDelay.nanos * (2 ^ 32 - 1) :=
  default.doublesUntilCap_iff (by decide)

/-- One nanosecond, doubled 32 times under a cap of ten seconds: the delay
before attempt 34 is one nanosecond short, and it never grows again. -/
theorem doublesUntilCap_fails :
    ¬DoublesUntilCap ⟨.fromMillis 3000, 40, ⟨1, by decide⟩, .fromMillis 10000⟩ 34 := by
  rw [doublesUntilCap_iff_nanos]
  decide

end ConnectRetryPolicy

end Reprox.Routing
