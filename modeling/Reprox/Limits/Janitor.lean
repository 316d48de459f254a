import Reprox.Limits.Sweep

/-!
# How much the rate limiter remembers

An address gets a bucket with its first call, and only the janitor takes buckets
away, when they are full. As long as the limiter is on, a bucket fills within the
time that its burst takes to accrue, and the janitor comes by once a period; so
the limiter remembers no address that has been quiet for longer than the two
together, and no more addresses than there were calls in that time.
-/

namespace Reprox.Limits

open Foundations Net

/-- The sweeps of `run_janitor`: one for every tick of an interval that starts at
`start`, each of them at most `late` seconds after its tick. -/
def JanitorRuns (period late start now : ℚ) (es : List RateEvent) : Prop :=
  ∀ k : ℕ, start + k * period + late ≤ now →
    ∃ t, ⟨.sweep, t⟩ ∈ es ∧ start + k * period ≤ t

/-- The limiter is on, with limits under which every bucket fills within `window` seconds. -/
def FillsWithin (window ratePerSec : ℚ) (burst : ℕ) : Prop :=
  0 < ratePerSec ∧ burst / ratePerSec ≤ window

def SetsFillWithin (window : ℚ) (es : List RateEvent) : Prop :=
  ∀ e ∈ es, ∀ ratePerSec burst, e.op = .setLimit ratePerSec burst →
    FillsWithin window ratePerSec burst

def callsSince (since : ℚ) (es : List RateEvent) : List IpAddr :=
  es.filterMap fun e =>
    match e.op with
    | .allow ip => if since ≤ e.time then some ip else none
    | .sweep => none
    | .setLimit _ _ => none

theorem mem_callsSince {since : ℚ} {es : List RateEvent} {ip : IpAddr} :
    ip ∈ callsSince since es ↔ ∃ t, ⟨.allow ip, t⟩ ∈ es ∧ since ≤ t := by
  rw [callsSince, List.mem_filterMap]
  constructor
  · rintro ⟨⟨op, t⟩, he, hip⟩
    cases op with
    | allow other =>
      obtain ⟨hsince, hother⟩ := Option.ite_none_right_eq_some.mp hip
      exact ⟨t, Option.some.inj hother ▸ he, hsince⟩
    | sweep => cases hip
    | setLimit ratePerSec burst => cases hip
  · rintro ⟨t, he, hsince⟩
    exact ⟨⟨.allow ip, t⟩, he, if_pos hsince⟩

namespace RateLimiter

/-! ## What one event does to a bucket -/

def Filled (l : RateLimiter) : Prop := ∀ ip bucket, l.buckets.get? ip = some bucket → 0 ≤ bucket.tokens

theorem refilled_nonneg {l : RateLimiter} (hrate : 0 ≤ l.refillPerSec) {bucket : Bucket}
    (h : 0 ≤ bucket.tokens) (now : ℚ) : 0 ≤ l.refilled bucket now :=
  TokenBucket.refill_nonneg (Nat.cast_nonneg _) hrate h (le_max_right _ _)

theorem get?_apply {l : RateLimiter} {e : RateEvent} {ip : IpAddr} {bucket : Bucket}
    (h : (l.apply e).buckets.get? ip = some bucket) :
    l.buckets.get? ip = some bucket ∨ e.op = .allow ip ∧ bucket.lastRefill = e.time := by
  obtain ⟨op, t⟩ := e
  cases op with
  | setLimit ratePerSec burst => exact Or.inl h
  | sweep => exact Or.inl (Option.filter_eq_some_iff.mp h).1
  | allow other =>
    by_cases hne : ip = other
    · subst hne
      simp only [apply, allow] at h
      split_ifs at h
      · exact Or.inl h
      · rw [Table.get?_insert_self] at h
        exact Or.inr ⟨rfl, by rw [← Option.some.inj h]⟩
      · rw [Table.get?_insert_self] at h
        exact Or.inr ⟨rfl, by rw [← Option.some.inj h]⟩
    · exact Or.inl ((l.allow_get?_of_ne hne t).symm.trans h)

theorem Filled.apply {l : RateLimiter} (h : l.Filled) (e : RateEvent) : (l.apply e).Filled := by
  obtain ⟨op, t⟩ := e
  cases op with
  | setLimit ratePerSec burst => exact h
  | sweep => exact fun ip bucket hget => h ip bucket (Option.filter_eq_some_iff.mp hget).1
  | allow other =>
    intro ip bucket hget
    by_cases hne : ip = other
    · subst hne
      simp only [RateLimiter.apply, allow] at hget
      split_ifs at hget with hoff hone
      · exact h ip bucket hget
      · rw [Table.get?_insert_self] at hget
        rw [← Option.some.inj hget]
        exact sub_nonneg.mpr hone
      · rw [Table.get?_insert_self] at hget
        rw [← Option.some.inj hget]
        apply refilled_nonneg (not_le.mp (not_or.mp hoff).1).le
        cases hold : l.buckets.get? ip with
        | none => exact Nat.cast_nonneg _
        | some old => exact h ip old hold
    · exact h ip bucket ((l.allow_get?_of_ne hne t).symm.trans hget)

/-! ## Runs -/

variable {l : RateLimiter} {es : List RateEvent} {window : ℚ}

theorem run_filled (rate : ℚ) (burst : ℕ) (es : List RateEvent) : ((new rate burst).run es).Filled :=
  foldl_history (R := fun _ (l : RateLimiter) => l.Filled) (fun _ _ h => by cases h)
    (fun _ _ e h => h.apply e) es

theorem run_called (rate : ℚ) (burst : ℕ) (es : List RateEvent) {ip : IpAddr} {bucket : Bucket}
    (h : ((new rate burst).run es).buckets.get? ip = some bucket) :
    ⟨.allow ip, bucket.lastRefill⟩ ∈ es := by
  have hall : ∀ ip bucket, ((new rate burst).run es).buckets.get? ip = some bucket →
      (⟨.allow ip, bucket.lastRefill⟩ : RateEvent) ∈ es := by
    refine foldl_history (R := fun es (l : RateLimiter) => ∀ ip bucket,
      l.buckets.get? ip = some bucket → (⟨.allow ip, bucket.lastRefill⟩ : RateEvent) ∈ es)
      (fun _ _ h => by cases h) ?_ es
    intro es l e ih ip bucket hget
    rw [List.mem_append, List.mem_singleton]
    rcases get?_apply hget with hold | ⟨hop, htime⟩
    · exact Or.inl (ih ip bucket hold)
    · right
      rw [htime, ← hop]
  exact hall ip bucket h

theorem run_fillsWithin {rate : ℚ} {burst : ℕ} (hlimits : FillsWithin window rate burst)
    (hsets : SetsFillWithin window es) :
    FillsWithin window ((new rate burst).run es).refillPerSec ((new rate burst).run es).capacity := by
  induction es using List.reverseRecOn with
  | nil => exact hlimits
  | append_singleton es e ih =>
    have hbefore := ih fun e' he' => hsets e' (List.mem_append_left _ he')
    rw [run_append]
    by_cases hset : ∃ ratePerSec burst, e.op = .setLimit ratePerSec burst
    · obtain ⟨ratePerSec, burst, hop⟩ := hset
      have hfills := hsets e (by simp) ratePerSec burst hop
      obtain ⟨op, t⟩ := e
      cases hop
      exact hfills
    · push Not at hset
      obtain ⟨hcap, hrate⟩ := apply_limits (l := (new rate burst).run es) hset
      change FillsWithin window (((new rate burst).run es).apply e).refillPerSec
        (((new rate burst).run es).apply e).capacity
      rw [hcap, hrate]
      exact hbefore

/-- What a sweep leaves was refilled less than the filling time ago. -/
theorem sweep_recent (hfilled : l.Filled) (hlimits : FillsWithin window l.refillPerSec l.capacity)
    {t : ℚ} {ip : IpAddr} {bucket : Bucket} (h : (l.sweep t).buckets.get? ip = some bucket) :
    t - window ≤ bucket.lastRefill := by
  obtain ⟨hget, hkept⟩ := Option.filter_eq_some_iff.mp h
  obtain ⟨hrate, hwindow⟩ := hlimits
  have hlow : bucket.tokens + max (t - bucket.lastRefill) 0 * l.refillPerSec < l.capacity := by
    rcases min_lt_iff.mp (of_decide_eq_true hkept) with h | h
    · exact h
    · exact absurd h (lt_irrefl _)
  have hgain : (t - bucket.lastRefill) * l.refillPerSec < l.capacity := by
    have hmax : (t - bucket.lastRefill) * l.refillPerSec ≤
        max (t - bucket.lastRefill) 0 * l.refillPerSec := by
      gcongr
      exact le_max_left _ _
    linarith [hfilled ip bucket hget]
  have helapsed := (lt_div_iff₀ hrate).mpr hgain
  linarith

theorem run_recent {since : ℚ} (hl : ∀ ip bucket, l.buckets.get? ip = some bucket →
      since ≤ bucket.lastRefill)
    (hes : ∀ e ∈ es, since ≤ e.time) {ip : IpAddr} {bucket : Bucket}
    (h : (l.run es).buckets.get? ip = some bucket) : since ≤ bucket.lastRefill := by
  induction es using List.reverseRecOn generalizing ip bucket with
  | nil => exact hl ip bucket h
  | append_singleton es e ih =>
    rw [run_append] at h
    rcases get?_apply h with hold | ⟨-, htime⟩
    · exact ih (fun e' he' => hes e' (List.mem_append_left _ he')) hold
    · rw [htime]
      exact hes e (by simp)

theorem exists_last_tick {period late start now : ℚ} (hperiod : 0 < period)
    (hstart : start + late ≤ now) :
    ∃ k : ℕ, start + k * period + late ≤ now ∧ now < start + k * period + late + period := by
  have hpos : 0 ≤ (now - late - start) / period := div_nonneg (by linarith) hperiod.le
  refine ⟨⌊(now - late - start) / period⌋₊, ?_, ?_⟩
  · have hfloor := (le_div_iff₀ hperiod).mp (Nat.floor_le hpos)
    linarith
  · have hceil := (div_lt_iff₀ hperiod).mp (Nat.lt_floor_add_one ((now - late - start) / period))
    linarith

theorem called_of_tracked {rate : ℚ} {burst : ℕ} {period late start now : ℚ}
    (hperiod : 0 < period) (hstart : start + late ≤ now) (hclock : Chronological es)
    (hjanitor : JanitorRuns period late start now es) (hlimits : FillsWithin window rate burst)
    (hsets : SetsFillWithin window es) {ip : IpAddr}
    (htracked : ((new rate burst).run es).Tracked ip) :
    ip ∈ callsSince (now - (period + late + window)) es := by
  obtain ⟨bucket, hbucket⟩ := htracked
  obtain ⟨k, hdone, hnext⟩ := exists_last_tick hperiod hstart
  obtain ⟨t, hsweep, hlate⟩ := hjanitor k hdone
  obtain ⟨before, after, hes⟩ := List.append_of_mem hsweep
  refine mem_callsSince.mpr ⟨bucket.lastRefill, run_called rate burst es hbucket, ?_⟩
  have hwindow : 0 ≤ window := (div_nonneg (Nat.cast_nonneg _) hlimits.1.le).trans hlimits.2
  have hsetsBefore : SetsFillWithin window before := fun e he => hsets e (by simp [hes, he])
  have hbefore := run_fillsWithin hlimits hsetsBefore
  have hafter : ∀ e ∈ after, t - window ≤ e.time := by
    rw [hes] at hclock
    intro e he
    have hle := List.rel_of_pairwise_cons (List.pairwise_append.mp hclock).2.1 he
    exact (sub_le_self t hwindow).trans hle
  rw [hes, run_append] at hbucket
  have hlast : t - window ≤ bucket.lastRefill :=
    run_recent (fun _ _ => sweep_recent (run_filled rate burst before) hbefore) hafter hbucket
  linarith

/-- With the janitor at work and limits under which every bucket fills within
the window, no address is remembered that has not called within the last period
and window, and there are no more of them than such calls. -/
theorem remembers_recent_calls {rate : ℚ} {burst : ℕ} {period late start now : ℚ}
    (hperiod : 0 < period) (hstart : start + late ≤ now) (hclock : Chronological es)
    (hjanitor : JanitorRuns period late start now es) (hlimits : FillsWithin window rate burst)
    (hsets : SetsFillWithin window es) :
    (∀ ip, ((new rate burst).run es).Tracked ip →
      ip ∈ callsSince (now - (period + late + window)) es) ∧
    ∀ tracked : Finset IpAddr, (∀ ip ∈ tracked, ((new rate burst).run es).Tracked ip) →
      tracked.card ≤ (callsSince (now - (period + late + window)) es).length := by
  have hcalled : ∀ ip, ((new rate burst).run es).Tracked ip →
      ip ∈ callsSince (now - (period + late + window)) es := fun ip =>
    called_of_tracked hperiod hstart hclock hjanitor hlimits hsets
  refine ⟨hcalled, fun tracked htracked => ?_⟩
  have hsubset : tracked ⊆ (callsSince (now - (period + late + window)) es).toFinset := by
    intro ip hip
    exact List.mem_toFinset.mpr (hcalled ip (htracked ip hip))
  exact (Finset.card_le_card hsubset).trans (List.toFinset_card_le _)

theorem remembers_recent_calls_reloaded :
    let ip : IpAddr := .v4 ⟨203, 0, 113, 5⟩
    let es : List RateEvent := [⟨.sweep, 0⟩, ⟨.allow ip, 250⟩, ⟨.setLimit 2 10, 260⟩, ⟨.sweep, 300⟩]
    (∀ ip, ((new 1 10).run es).Tracked ip → ip ∈ callsSince (400 - (300 + 0 + 10)) es) ∧
    ∀ tracked : Finset IpAddr, (∀ ip ∈ tracked, ((new 1 10).run es).Tracked ip) →
      tracked.card ≤ (callsSince (400 - (300 + 0 + 10)) es).length := by
  intro ip es
  have hjanitor : JanitorRuns 300 0 0 400 es := by
    intro k hk
    have hlt : k < 2 := by
      by_contra hge
      have hcast : (2 : ℚ) ≤ k := by exact_mod_cast not_lt.mp hge
      linarith
    interval_cases k
    · exact ⟨0, by simp [es], by norm_num⟩
    · exact ⟨300, by simp [es], by norm_num⟩
  have hsets : SetsFillWithin 10 es := by
    intro e he ratePerSec burst hop
    simp only [es, List.mem_cons, List.not_mem_nil, or_false] at he
    rcases he with rfl | rfl | rfl | rfl <;> cases hop
    exact ⟨by norm_num, by norm_num⟩
  exact remembers_recent_calls (by norm_num) (by norm_num) (by norm_num [es, Chronological])
    hjanitor ⟨by norm_num, by norm_num⟩ hsets

end RateLimiter

end Reprox.Limits
