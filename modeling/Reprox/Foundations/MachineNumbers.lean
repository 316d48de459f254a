import Mathlib.Data.Int.Log
import Mathlib.Tactic

/-!
# Machine numbers

A 64-bit counter goes up without wrapping below any bound of its own width and
comes down without wrapping above zero; a saturating difference is the
truncated difference of the naturals.

The finite doubles are the multiples of a power of two, not below `2⁻¹⁰⁷⁴`, by
at most 53 bits. A rational is rounded to the last place of its own binade,
halves to the even side; what exceeds the largest double overflows. No double is
nearer than the result, and a double is its own result.
-/

namespace Reprox.Foundations

/-! ## Words as counters -/

/-- `usize` on the 64-bit targets. -/
abbrev Usize := UInt64

theorem toNat_succ_of_lt {a b : UInt64} (h : a < b) : (a + 1).toNat = a.toNat + 1 := by
  have hlt := UInt64.lt_iff_toNat_lt.mp h
  have hb := b.toNat_lt
  rw [UInt64.toNat_add, UInt64.toNat_one]
  apply Nat.mod_eq_of_lt
  omega

theorem toNat_pred_of_pos {a : UInt64} (h : 0 < a.toNat) : (a - 1).toNat = a.toNat - 1 := by
  have hle : 1 ≤ a := UInt64.le_iff_toNat_le.mpr h
  rw [UInt64.toNat_sub_of_le a 1 hle, UInt64.toNat_one]

def saturatingSub (a b : UInt64) : UInt64 := if b ≤ a then a - b else 0

theorem toNat_saturatingSub (a b : UInt64) : (saturatingSub a b).toNat = a.toNat - b.toNat := by
  unfold saturatingSub
  split_ifs with h
  · exact UInt64.toNat_sub_of_le a b h
  · have hlt := UInt64.lt_iff_toNat_lt.mp (UInt64.not_le.mp h)
    rw [UInt64.toNat_zero]
    omega

/-! ## Binary64 -/

namespace Binary64

variable {v w : ℚ}

/-- A finite double, but for the bound on its exponent. -/
def IsDouble (v : ℚ) : Prop := ∃ m q : ℤ, |m| ≤ 2 ^ 53 ∧ -1074 ≤ q ∧ v = m * 2 ^ q

def maxFinite : ℚ := (2 ^ 53 - 1) * 2 ^ 971

/-- The nearest integer, the even one when two are as near. -/
def roundHalfEven (v : ℚ) : ℤ :=
  let down := v.floor
  if v - down < 1 / 2 ∨ (v - down = 1 / 2 ∧ down % 2 = 0) then down else down + 1

/-- The exponent of the last place: 53 significant bits, fewer when subnormal. -/
def lastPlace (v : ℚ) : ℤ := max (Int.log 2 |v| - 52) (-1074)

def nearest (v : ℚ) : ℚ := roundHalfEven (v / 2 ^ lastPlace v) * 2 ^ lastPlace v

/-- The nearest double, none when that is an infinity. -/
def toDouble (v : ℚ) : Option ℚ := if |nearest v| ≤ maxFinite then some (nearest v) else none

/-! ## Rounding to an integer -/

theorem roundHalfEven_nonneg (h : 0 ≤ v) : 0 ≤ roundHalfEven v := by
  have hfloor : 0 ≤ v.floor := Rat.le_floor_iff.mpr (by exact_mod_cast h)
  unfold roundHalfEven
  dsimp only
  split_ifs
  · exact hfloor
  · omega

theorem abs_roundHalfEven_sub_le (v : ℚ) : |(roundHalfEven v : ℚ) - v| ≤ 1 / 2 := by
  have hlow : (v.floor : ℚ) ≤ v := Rat.floor_le v
  have hhigh : v < v.floor + 1 := by exact_mod_cast Rat.lt_floor_add_one v
  unfold roundHalfEven
  dsimp only
  split_ifs with h
  · have hnear : v - v.floor ≤ 1 / 2 := by
      rcases h with h | h
      · exact h.le
      · exact h.1.le
    rw [abs_le]
    constructor <;> linarith
  · rw [not_or, not_lt] at h
    push_cast
    rw [abs_le]
    constructor <;> linarith [h.1]

theorem abs_roundHalfEven_sub_le_intCast (v : ℚ) (n : ℤ) :
    |(roundHalfEven v : ℚ) - v| ≤ |(n : ℚ) - v| := by
  have hhalf := abs_roundHalfEven_sub_le v
  by_cases hn : n = roundHalfEven v
  · rw [hn]
  · -- another integer is at least one away from the result
    have hapart : (1 : ℚ) ≤ |(n : ℚ) - roundHalfEven v| := by
      exact_mod_cast Int.one_le_abs (sub_ne_zero.mpr hn)
    have htri := abs_sub_le (n : ℚ) v (roundHalfEven v)
    rw [abs_sub_comm v] at htri
    linarith

/-! ## Rounding to the last place -/

theorem lt_two_zpow (v : ℚ) : |v| < 2 ^ (lastPlace v + 53) := by
  have hlog : |v| < (2 : ℕ) ^ (Int.log 2 |v| + 1) := Int.lt_zpow_succ_log_self (by norm_num) |v|
  have hle : Int.log 2 |v| + 1 ≤ lastPlace v + 53 := by
    have := le_max_left (Int.log 2 |v| - 52) (-1074)
    unfold lastPlace
    omega
  exact hlog.trans_le (zpow_le_zpow_right₀ (by norm_num) hle)

theorem le_abs_of_lastPlace (hv : v ≠ 0) (h : -1074 < lastPlace v) :
    (2 : ℚ) ^ (lastPlace v + 52) ≤ |v| := by
  have hlog : lastPlace v + 52 = Int.log 2 |v| := by
    unfold lastPlace at *
    omega
  rw [hlog]
  exact Int.zpow_log_le_self (by norm_num) (abs_pos.mpr hv)

theorem abs_nearest_sub_le_mul (v : ℚ) (n : ℤ) :
    |nearest v - v| ≤ |n * 2 ^ lastPlace v - v| := by
  have hpos : (0 : ℚ) < 2 ^ lastPlace v := zpow_pos (by norm_num) _
  have hscale (k : ℤ) : |(k : ℚ) * 2 ^ lastPlace v - v| =
      |(k : ℚ) - v / 2 ^ lastPlace v| * 2 ^ lastPlace v := by
    rw [← abs_of_pos hpos, ← abs_mul, abs_of_pos hpos, sub_mul, div_mul_cancel₀ _ hpos.ne']
  rw [nearest, hscale, hscale]
  exact mul_le_mul_of_nonneg_right (abs_roundHalfEven_sub_le_intCast _ n) hpos.le

theorem isDouble_nearest (v : ℚ) : IsDouble (nearest v) := by
  have hpos : (0 : ℚ) < 2 ^ lastPlace v := zpow_pos (by norm_num) _
  refine ⟨roundHalfEven (v / 2 ^ lastPlace v), lastPlace v, ?_, le_max_right _ _, rfl⟩
  have hlt : |v / 2 ^ lastPlace v| < 2 ^ 53 := by
    rw [abs_div, abs_of_pos hpos, div_lt_iff₀ hpos, ← zpow_natCast, ← zpow_add₀ (by norm_num)]
    rw [add_comm]
    exact lt_two_zpow v
  have hround := abs_roundHalfEven_sub_le (v / 2 ^ lastPlace v)
  generalize v / 2 ^ lastPlace v = x at hlt hround
  have hsum : |(roundHalfEven x : ℚ)| < 2 ^ 53 + 1 := by
    have := abs_sub_abs_le_abs_sub (roundHalfEven x : ℚ) x
    linarith
  have hcast : |roundHalfEven x| < 2 ^ 53 + 1 := by exact_mod_cast hsum
  omega

theorem two_zpow_lastPlace_add (v : ℚ) :
    (2 : ℚ) ^ (lastPlace v + 52) = (2 ^ 52 : ℤ) * 2 ^ lastPlace v := by
  rw [add_comm, zpow_add₀ (by norm_num)]
  norm_num

/-- The bound of the binade is a candidate too. -/
theorem abs_nearest_sub_le_edge (h : (2 : ℚ) ^ (lastPlace v + 52) ≤ |v|) :
    |nearest v - v| ≤ |v| - 2 ^ (lastPlace v + 52) := by
  rcases le_or_gt 0 v with hsign | hsign
  · have hnear := abs_nearest_sub_le_mul v (2 ^ 52)
    rw [abs_of_nonneg hsign] at h ⊢
    have hdist : |(2 : ℚ) ^ (lastPlace v + 52) - v| = v - 2 ^ (lastPlace v + 52) := by
      rw [abs_sub_comm, abs_of_nonneg (sub_nonneg.mpr h)]
    rwa [← two_zpow_lastPlace_add, hdist] at hnear
  · have hnear := abs_nearest_sub_le_mul v (-(2 ^ 52))
    rw [abs_of_neg hsign] at h ⊢
    have hdist : |-(2 : ℚ) ^ (lastPlace v + 52) - v| = -v - 2 ^ (lastPlace v + 52) := by
      rw [abs_of_nonneg (by linarith)]
      ring
    rwa [Int.cast_neg, neg_mul, ← two_zpow_lastPlace_add, hdist] at hnear

theorem abs_mul_two_zpow_le {m q e : ℤ} (hm : |m| ≤ 2 ^ 53) (hq : q < e) :
    |(m : ℚ) * 2 ^ q| ≤ 2 ^ (e + 52) := by
  have hm' : |(m : ℚ)| ≤ 2 ^ 53 := by exact_mod_cast hm
  have hqpos : (0 : ℚ) < 2 ^ q := zpow_pos (by norm_num) _
  calc |(m : ℚ) * 2 ^ q| = |(m : ℚ)| * 2 ^ q := by rw [abs_mul, abs_of_pos hqpos]
    _ ≤ 2 ^ 53 * 2 ^ q := mul_le_mul_of_nonneg_right hm' hqpos.le
    _ = 2 ^ (53 + q) := by rw [zpow_add₀ (by norm_num)]; norm_num
    _ ≤ 2 ^ (e + 52) := zpow_le_zpow_right₀ (by norm_num) (by omega)

/-- No double is nearer to the number than the one it is rounded to. -/
theorem abs_nearest_sub_le (hw : IsDouble w) : |nearest v - v| ≤ |w - v| := by
  obtain ⟨m, q, hm, hq, rfl⟩ := hw
  rcases le_or_gt (lastPlace v) q with hle | hlt
  · -- a multiple of the last place
    have hmul : (m : ℚ) * 2 ^ q = (m * 2 ^ (q - lastPlace v).toNat : ℤ) * 2 ^ lastPlace v := by
      push_cast
      rw [mul_assoc, ← zpow_natCast, ← zpow_add₀ (by norm_num), Int.toNat_of_nonneg (by omega)]
      congr 2
      omega
    rw [hmul]
    exact abs_nearest_sub_le_mul v _
  · -- a double of a lower binade: the bound of the binade lies between
    by_cases hv : v = 0
    · have hnear := abs_nearest_sub_le_mul v 0
      rw [Int.cast_zero, zero_mul, hv, sub_self, abs_zero] at hnear
      rw [hv]
      exact hnear.trans (abs_nonneg _)
    · have hedge := abs_nearest_sub_le_edge (le_abs_of_lastPlace hv (lt_of_le_of_lt hq hlt))
      have hbound := abs_mul_two_zpow_le hm hlt
      have hdist := abs_sub_abs_le_abs_sub v (m * 2 ^ q)
      rw [abs_sub_comm] at hdist
      linarith

theorem nearest_eq_self (h : IsDouble v) : nearest v = v := by
  have hzero : |nearest v - v| ≤ |v - v| := abs_nearest_sub_le h
  rw [sub_self, abs_zero, abs_nonpos_iff] at hzero
  exact sub_eq_zero.mp hzero

/-! ## The largest double -/

theorem isDouble_maxFinite : IsDouble maxFinite :=
  ⟨2 ^ 53 - 1, 971, by norm_num, by norm_num, by norm_num [maxFinite]⟩

theorem abs_nearest_le (h : |v| ≤ maxFinite) : |nearest v| ≤ maxFinite := by
  obtain ⟨hlow, hhigh⟩ := abs_le.mp h
  have hmax : |nearest v - v| ≤ maxFinite - v := by
    have hnear := @abs_nearest_sub_le v _ isDouble_maxFinite
    rwa [abs_of_nonneg (by linarith : 0 ≤ maxFinite - v)] at hnear
  have hmin : |nearest v - v| ≤ maxFinite + v := by
    have hneg : IsDouble (-maxFinite) :=
      ⟨-(2 ^ 53 - 1), 971, by norm_num, by norm_num, by norm_num [maxFinite]⟩
    have hnear := @abs_nearest_sub_le v _ hneg
    rw [abs_of_nonpos (by linarith : -maxFinite - v ≤ 0)] at hnear
    linarith
  have hup := (abs_le.mp hmax).2
  have hdown := (abs_le.mp hmin).1
  exact abs_le.mpr ⟨by linarith, by linarith⟩

theorem toDouble_eq_some (h : |v| ≤ maxFinite) : toDouble v = some (nearest v) :=
  if_pos (abs_nearest_le h)

/-! ## Integers -/

theorem toDouble_intCast {n : ℤ} (h : |n| ≤ 2 ^ 53) : toDouble n = some (n : ℚ) := by
  have hdouble : IsDouble (n : ℚ) := ⟨n, 0, h, by norm_num, by simp⟩
  have hn : |(n : ℚ)| ≤ 2 ^ 53 := by exact_mod_cast h
  have hmax : (2 : ℚ) ^ 53 ≤ maxFinite := by
    have hscale : (2 : ℚ) ^ 1 ≤ 2 ^ 971 := pow_le_pow_right₀ (by norm_num) (by norm_num)
    rw [maxFinite]
    generalize (2 : ℚ) ^ 971 = scale at hscale ⊢
    linarith
  rw [toDouble_eq_some (hn.trans hmax), nearest_eq_self hdouble]

end Binary64

end Reprox.Foundations
