import Mathlib.Tactic

/-!
# Token buckets, lazy and greedy

A lazy bucket stores a level and the moment it was last brought up to date; a
greedy bucket looks at the whole admission history. `level` is the number of
tokens on show at a moment as a function of that history alone, and
`le_level_iff` turns a lower bound on it into one linear constraint for every
past admission. Nothing here depends on how the level is stored.
-/

namespace Reprox.Foundations.TokenBucket

variable {K : Type*} [Field K] [LinearOrder K] {cap rate : K}

/-- Tokens accrue at a fixed rate and never exceed the capacity. -/
def refill (cap rate level elapsed : K) : K := min (level + elapsed * rate) cap

theorem refill_le_cap (x d : K) : refill cap rate x d ≤ cap := min_le_right _ _

theorem refill_zero {x : K} (hx : x ≤ cap) : refill cap rate x 0 = x := by
  simp [refill, hx]

variable [IsStrictOrderedRing K]

theorem refill_cap (hr : 0 ≤ rate) {d : K} (hd : 0 ≤ d) : refill cap rate cap d = cap :=
  min_eq_right (le_add_of_nonneg_right (mul_nonneg hd hr))

theorem refill_nonneg (hc : 0 ≤ cap) (hr : 0 ≤ rate) {x d : K} (hx : 0 ≤ x) (hd : 0 ≤ d) :
    0 ≤ refill cap rate x d :=
  le_min (add_nonneg hx (mul_nonneg hd hr)) hc

theorem refill_mono (hr : 0 ≤ rate) (x : K) {d e : K} (h : d ≤ e) :
    refill cap rate x d ≤ refill cap rate x e := by
  unfold refill
  gcongr

/-- Two refills compose through the clamp: splitting a wait changes nothing. -/
theorem refill_refill (hr : 0 ≤ rate) (x : K) (d : K) {e : K} (he : 0 ≤ e) :
    refill cap rate (refill cap rate x d) e = refill cap rate x (d + e) := by
  have hgain : 0 ≤ e * rate := mul_nonneg he hr
  unfold refill
  rw [← min_add_add_right, min_assoc, min_eq_right (le_add_of_nonneg_right hgain)]
  congr 1
  ring

theorem refill_add_le (hr : 0 ≤ rate) (x : K) (d : K) {e : K} (he : 0 ≤ e) :
    refill cap rate x (d + e) ≤ refill cap rate x d + e * rate := by
  rw [← refill_refill hr x d he]
  exact min_le_left _ _

/-- Tokens on show at a moment, from the admission times, newest first. -/
def level (cap rate : K) : List K → K → K
  | [], _ => cap
  | s :: earlier, t => refill cap rate (level cap rate earlier s - 1) (t - s)

omit [IsStrictOrderedRing K] in
theorem level_le_cap (history : List K) (t : K) : level cap rate history t ≤ cap := by
  cases history with
  | nil => exact le_rfl
  | cons s earlier => exact refill_le_cap _ _

/-- Bringing the bucket up to date at `s` and again at `t` is bringing it up
to date at `t`: visits that admit nothing are harmless. -/
theorem refill_level (hr : 0 ≤ rate) (history : List K) {s t : K} (h : s ≤ t) :
    refill cap rate (level cap rate history s) (t - s) = level cap rate history t := by
  have hst : 0 ≤ t - s := sub_nonneg.mpr h
  cases history with
  | nil => exact refill_cap hr hst
  | cons u earlier =>
    simp only [level]
    rw [refill_refill hr _ _ hst]
    congr 1
    ring

theorem level_mono (hr : 0 ≤ rate) (history : List K) {s t : K} (h : s ≤ t) :
    level cap rate history s ≤ level cap rate history t := by
  cases history with
  | nil => exact le_rfl
  | cons u earlier => exact refill_mono hr _ (sub_le_sub_right h u)

theorem level_admit (history : List K) (t : K) :
    level cap rate (t :: history) t = level cap rate history t - 1 := by
  have h : level cap rate history t - 1 ≤ cap :=
    (sub_le_self _ zero_le_one).trans (level_le_cap history t)
  simp only [level, sub_self, refill_zero h]

/-- A bucket shows at least `x` tokens exactly when no suffix of its history
has spent more than the capacity plus the accrual leaves above `x`. -/
theorem le_level_iff {x t : K} {history : List K} :
    x ≤ level cap rate history t ↔
      x ≤ cap ∧ ∀ later s earlier, history = later ++ s :: earlier →
        x + (later.length + 1) ≤ cap + rate * (t - s) := by
  induction history generalizing x t with
  | nil => simp [level]
  | cons u history ih =>
    have hshift : x ≤ level cap rate history u - 1 + (t - u) * rate ↔
        x + 1 - (t - u) * rate ≤ level cap rate history u := by
      constructor <;> intro h <;> linarith
    rw [level, refill, le_min_iff, hshift, ih, and_comm]
    refine and_congr_right fun _ => ?_
    constructor
    · rintro ⟨hhead, hrest⟩ later s earlier hsplit
      cases later with
      | nil =>
        obtain ⟨rfl, -⟩ := List.cons.inj hsplit
        simp only [List.length_nil, Nat.cast_zero]
        linarith
      | cons v later =>
        obtain ⟨rfl, htail⟩ := List.cons.inj hsplit
        have h := hrest later s earlier htail
        simp only [List.length_cons, Nat.cast_add, Nat.cast_one]
        linarith
    · intro h
      constructor
      · have h₀ := h [] u history rfl
        simp only [List.length_nil, Nat.cast_zero] at h₀
        linarith
      · intro later s earlier hsplit
        have h₁ := h (u :: later) s earlier (by rw [hsplit]; rfl)
        simp only [List.length_cons, Nat.cast_add, Nat.cast_one] at h₁
        linarith

theorem level_lt_cap_iff {t : K} {history : List K} :
    level cap rate history t < cap ↔
      ∃ later s earlier, history = later ++ s :: earlier ∧
        rate * (t - s) < (later.length : K) + 1 := by
  rw [← not_le, le_level_iff]
  simp only [le_rfl, true_and, add_le_add_iff_left]
  push Not
  rfl

def Solvent (cap rate : K) : List K → Prop
  | [] => True
  | s :: earlier => 1 ≤ level cap rate earlier s ∧ Solvent cap rate earlier

/-- A solvent bucket owes at most its capacity, so a wait that accrues as much fills it. -/
theorem level_eq_cap_of_idle {s t : K} {earlier : List K} (h : Solvent cap rate (s :: earlier))
    (hidle : cap ≤ (t - s) * rate) : level cap rate (s :: earlier) t = cap := by
  have htoken := h.1
  rw [level, refill]
  apply min_eq_right
  linarith

/-- The greedy rate constraint: counting the new admission, no stretch that
ends now has more admissions than the burst plus what accrued over it. -/
def Admits (cap rate : K) (history : List K) (t : K) : Prop :=
  1 ≤ cap ∧ ∀ later s earlier, history = later ++ s :: earlier →
    ((later.length + 1 : ℕ) : K) + 1 ≤ cap + rate * (t - s)

/-- The lazy bucket has a token to spend exactly when the greedy one admits. -/
theorem one_le_level_iff_admits {history : List K} {t : K} :
    1 ≤ level cap rate history t ↔ Admits cap rate history t := by
  rw [le_level_iff, Admits]
  refine and_congr_right fun _ => ?_
  simp only [Nat.cast_add, Nat.cast_one]
  exact forall_congr' fun later => forall_congr' fun s => forall_congr' fun earlier =>
    imp_congr_right fun _ => by rw [add_comm 1]

end Reprox.Foundations.TokenBucket
