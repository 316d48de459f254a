import Reprox.Foundations.Runs
import Reprox.Limits.RateLimiter

/-!
# What the janitor forgets

A sweep deletes the buckets that have refilled. With fixed limits it deletes
every bucket it can: an address stays tracked only as long as it owes something
for its admitted calls (`tracked_after_sweep_iff`). A deleted bucket counts as
full under whatever limits come later, a kept one only as far as it has
refilled; so a sweep goes unnoticed as long as the limits in force at the next
call would have filled the bucket as well (`sweeps_unnoticed_of_harmless`), and
always under fixed limits (`calls_eq_of_fixedLimits`).
-/

namespace Reprox.Limits

open Foundations Net

namespace RateLimiter

def Tracked (l : RateLimiter) (ip : IpAddr) : Prop := ∃ bucket, l.buckets.get? ip = some bucket

/-! ## What a sweep leaves -/

theorem tracked_sweep_iff (l : RateLimiter) (ip : IpAddr) (now : ℚ) :
    (l.sweep now).Tracked ip ↔ l.tokensAt ip now < l.capacity := by
  unfold Tracked
  cases h : l.buckets.get? ip with
  | none => simp [sweep, h, tokensAt_of_none h]
  | some bucket => simp [sweep, h, tokensAt_of_some h, Option.filter_eq_some_iff]

theorem apply_untracked_loopback {l : RateLimiter} {ip : IpAddr} (hip : ip.isLoopback = true)
    (h : l.buckets.get? ip = none) (e : RateEvent) : (l.apply e).buckets.get? ip = none := by
  obtain ⟨op, t⟩ := e
  cases op with
  | setLimit ratePerSec burst => exact h
  | sweep => simp [RateLimiter.apply, sweep, h]
  | allow other =>
    by_cases hne : ip = other
    · subst hne
      simpa [RateLimiter.apply, allow, hip] using h
    · exact (l.allow_get?_of_ne hne t).trans h

theorem run_untracked_loopback {ip : IpAddr} (hip : ip.isLoopback = true) (rate : ℚ) (burst : ℕ)
    (es : List RateEvent) : ¬((new rate burst).run es).Tracked ip := by
  have hnone : ((new rate burst).run es).buckets.get? ip = none := by
    refine foldl_history (R := fun _ (l : RateLimiter) => l.buckets.get? ip = none) rfl ?_ es
    intro _ l e h
    exact apply_untracked_loopback hip h e
  rintro ⟨bucket, hbucket⟩
  rw [hnone] at hbucket
  cases hbucket

theorem run_solvent {rate : ℚ} (hrate : 0 < rate) (burst : ℕ) {es : List RateEvent}
    (hfixed : FixedLimits es) (hclock : Chronological es) {ip : IpAddr}
    (hip : ip.isLoopback = false) :
    TokenBucket.Solvent (burst : ℚ) rate
      (admittedTimes ip ((new rate burst).calls es)).reverse := by
  induction es using List.reverseRecOn with
  | nil => trivial
  | append_singleton es e ih =>
    obtain ⟨hbefore, -, hcross⟩ := List.pairwise_append.mp hclock
    have hfixed' : FixedLimits es := fun e' he' => hfixed e' (List.mem_append_left _ he')
    have hup : ∀ e' ∈ es, e'.time ≤ e.time := fun e' he' => hcross e' he' e (List.mem_singleton_self e)
    have hsolvent := ih hfixed' hbefore
    obtain ⟨hcap, hr, htracks⟩ := run_tracks hrate burst hfixed' hbefore hup hip
    rw [calls_append, admittedTimes_append, List.reverse_append]
    obtain ⟨op, t⟩ := e
    cases op with
    | sweep => exact hsolvent
    | setLimit ratePerSec burst => exact absurd rfl (hfixed ⟨_, t⟩ (by simp) ratePerSec burst)
    | allow other =>
      by_cases hadmitted : ip = other ∧ (((new rate burst).run es).allow other t).1 = true
      · obtain ⟨rfl, hallow⟩ := hadmitted
        have hpos : 0 < ((new rate burst).run es).refillPerSec := by rwa [hr]
        have htoken := (allow_fst_iff _ t hpos hip).mp hallow
        rw [htracks.tokensAt_eq hpos le_rfl, hcap, hr] at htoken
        simpa [calls, answer, admittedTimes, hallow, TokenBucket.Solvent] using
          And.intro htoken hsolvent
      · have hnone : admittedTimes ip (((new rate burst).run es).calls [⟨.allow other, t⟩]) = [] := by
          simp only [calls, answer, admittedTimes, List.append_nil, List.map_eq_nil_iff,
            List.filter_eq_nil_iff, List.mem_singleton, decide_eq_true_eq]
          rintro c rfl ⟨heq, hallow⟩
          exact hadmitted ⟨heq.symm, hallow⟩
        rw [hnone]
        exact hsolvent

theorem tracked_after_sweep_iff_level {rate : ℚ} (hrate : 0 < rate) (burst : ℕ)
    {es : List RateEvent} (hfixed : FixedLimits es) {t : ℚ}
    (hclock : Chronological (es ++ [⟨.sweep, t⟩])) {ip : IpAddr} (hip : ip.isLoopback = false) :
    ((new rate burst).run (es ++ [⟨.sweep, t⟩])).Tracked ip ↔
      TokenBucket.level (burst : ℚ) rate
        (admittedTimes ip ((new rate burst).calls es)).reverse t < burst := by
  obtain ⟨hbefore, -, hcross⟩ := List.pairwise_append.mp hclock
  have hup : ∀ e ∈ es, e.time ≤ t := fun e he => hcross e he _ (List.mem_singleton_self _)
  have hrun : (new rate burst).run (es ++ [⟨.sweep, t⟩]) = ((new rate burst).run es).sweep t :=
    run_append _ es [⟨.sweep, t⟩]
  obtain ⟨hcap, hr, htracks⟩ := run_tracks hrate burst hfixed hbefore hup hip
  have hpos : 0 < ((new rate burst).run es).refillPerSec := by rwa [hr]
  rw [hrun, tracked_sweep_iff, htracks.tokensAt_eq hpos le_rfl, hcap, hr]

theorem level_of_idle {rate : ℚ} (hrate : 0 < rate) (burst : ℕ) {es : List RateEvent}
    (hfixed : FixedLimits es) (hclock : Chronological es) {t : ℚ} {ip : IpAddr}
    (hip : ip.isLoopback = false)
    (hidle : ∀ s, (admittedTimes ip ((new rate burst).calls es)).getLast? = some s →
      burst / rate ≤ t - s) :
    TokenBucket.level (burst : ℚ) rate
      (admittedTimes ip ((new rate burst).calls es)).reverse t = burst := by
  have hsolvent := run_solvent hrate burst hfixed hclock hip
  rw [← List.head?_reverse] at hidle
  cases hhistory : (admittedTimes ip ((new rate burst).calls es)).reverse with
  | nil => rfl
  | cons s earlier =>
    rw [hhistory] at hidle hsolvent
    have hwait : (burst : ℚ) ≤ (t - s) * rate := (div_le_iff₀ hrate).mp (hidle s rfl)
    exact TokenBucket.level_eq_cap_of_idle hsolvent hwait

/-- Right after a sweep an address is tracked exactly when, from some admitted
call on, it was admitted more often than tokens accrued since; loopback
addresses never are, and neither is an address whose last admitted call lies
back as long as it takes to refill. -/
theorem tracked_after_sweep_iff {rate : ℚ} (hrate : 0 < rate) (burst : ℕ) {es : List RateEvent}
    (hfixed : FixedLimits es) {t : ℚ} (hclock : Chronological (es ++ [⟨.sweep, t⟩])) (ip : IpAddr) :
    (ip.isLoopback = false →
      (((new rate burst).run (es ++ [⟨.sweep, t⟩])).Tracked ip ↔
        ∃ earlier s later, admittedTimes ip ((new rate burst).calls es) = earlier ++ s :: later ∧
          rate * (t - s) < (s :: later).length)) ∧
    (ip.isLoopback = true → ¬((new rate burst).run (es ++ [⟨.sweep, t⟩])).Tracked ip) ∧
    ((∀ s, (admittedTimes ip ((new rate burst).calls es)).getLast? = some s → burst / rate ≤ t - s) →
      ¬((new rate burst).run (es ++ [⟨.sweep, t⟩])).Tracked ip) := by
  have hloopback (hip : ip.isLoopback = true) :
      ¬((new rate burst).run (es ++ [⟨.sweep, t⟩])).Tracked ip :=
    run_untracked_loopback hip rate burst _
  refine ⟨?_, hloopback, ?_⟩
  · intro hip
    rw [tracked_after_sweep_iff_level hrate burst hfixed hclock hip, TokenBucket.level_lt_cap_iff]
    constructor
    · rintro ⟨later, s, earlier, hsplit, hdebt⟩
      refine ⟨earlier.reverse, s, later.reverse, ?_, ?_⟩
      · rw [← List.reverse_reverse (admittedTimes ip _), hsplit]
        simp
      · simpa using hdebt
    · rintro ⟨earlier, s, later, hsplit, hdebt⟩
      refine ⟨later.reverse, s, earlier.reverse, ?_, ?_⟩
      · rw [hsplit]
        simp
      · simpa using hdebt
  · intro hidle
    cases hip : ip.isLoopback with
    | true => exact hloopback hip
    | false =>
      have hbefore := (List.pairwise_append.mp hclock).1
      rw [tracked_after_sweep_iff_level hrate burst hfixed hclock hip,
        level_of_idle hrate burst hfixed hbefore hip hidle]
      exact lt_irrefl _

theorem tracked_after_sweep_iff_recovering :
    let ip : IpAddr := .v4 ⟨203, 0, 113, 5⟩
    let es : List RateEvent := [⟨.allow ip, 0⟩, ⟨.allow ip, 0⟩]
    (ip.isLoopback = false →
      (((new 1 1).run (es ++ [⟨.sweep, 1 / 2⟩])).Tracked ip ↔
        ∃ (earlier : List ℚ) (s : ℚ) (later : List ℚ),
          admittedTimes ip ((new 1 1).calls es) = earlier ++ s :: later ∧
          1 * (1 / 2 - s) < (s :: later).length)) ∧
    (ip.isLoopback = true → ¬((new 1 1).run (es ++ [⟨.sweep, 1 / 2⟩])).Tracked ip) ∧
    ((∀ s, (admittedTimes ip ((new 1 1).calls es)).getLast? = some s →
        ((1 : ℕ) : ℚ) / 1 ≤ 1 / 2 - s) →
      ¬((new 1 1).run (es ++ [⟨.sweep, 1 / 2⟩])).Tracked ip) :=
  tracked_after_sweep_iff (by norm_num) 1 (by simp [FixedLimits]) (by simp [Chronological]) _

/-- A loopback address with an admitted call at the time of the sweep is not tracked. -/
theorem tracked_after_sweep_loopback :
    let ip : IpAddr := .v4 ⟨127, 0, 0, 1⟩
    let es : List RateEvent := [⟨.allow ip, 0⟩]
    ¬(((new 1 1).run (es ++ [⟨.sweep, 0⟩])).Tracked ip ↔
      ∃ (earlier : List ℚ) (s : ℚ) (later : List ℚ),
          admittedTimes ip ((new 1 1).calls es) = earlier ++ s :: later ∧
        1 * (0 - s) < (s :: later).length) := by
  intro ip es h
  have hdebt : ∃ (earlier : List ℚ) (s : ℚ) (later : List ℚ),
          admittedTimes ip ((new 1 1).calls es) = earlier ++ s :: later ∧
      1 * (0 - s) < (s :: later).length := ⟨[], 0, [], by decide, by norm_num⟩
  exact run_untracked_loopback (by decide) 1 1 _ (h.mpr hdebt)

/-! ## Runs with and without sweeps -/

/-- Some or all of the sweeps are left out, and nothing else. -/
inductive SweepsDropped : List RateEvent → List RateEvent → Prop
  | nil : SweepsDropped [] []
  | keep {es es' : List RateEvent} (e : RateEvent) (h : SweepsDropped es es') :
      SweepsDropped (e :: es) (e :: es')
  | drop {es es' : List RateEvent} (t : ℚ) (h : SweepsDropped es es') :
      SweepsDropped (⟨.sweep, t⟩ :: es) es'

def withoutSweeps (es : List RateEvent) : List RateEvent := es.filter fun e => e.op ≠ .sweep

/-- A limiter beside one that has seen the same events and never swept. -/
structure Shadowed where
  limiter : RateLimiter
  unswept : RateLimiter

def Shadowed.step (s : Shadowed) (e : RateEvent) : Option Shadowed :=
  some ⟨s.limiter.apply e, s.unswept.run (withoutSweeps [e])⟩

/-- A call that is not let through unseen, of an address whose bucket a sweep
has deleted, comes when that bucket is full again under the limits in force. -/
def FullAgain (s : Shadowed) (e : RateEvent) : Prop :=
  ∀ ip bucket, e.op = .allow ip → 0 < s.limiter.refillPerSec → ip.isLoopback = false →
    ¬s.limiter.Tracked ip → s.unswept.buckets.get? ip = some bucket →
      s.limiter.refilled bucket e.time = s.limiter.capacity

/-- Every bucket that a sweep deletes is full again at the address's next call. -/
def Harmless (l : RateLimiter) (es : List RateEvent) : Prop :=
  Along Shadowed.step FullAgain ⟨l, l⟩ es

structure Within (l l' : RateLimiter) : Prop where
  capacity : l'.capacity = l.capacity
  rate : l'.refillPerSec = l.refillPerSec
  buckets : ∀ ip bucket, l.buckets.get? ip = some bucket → l'.buckets.get? ip = some bucket

theorem Within.refl (l : RateLimiter) : l.Within l := ⟨rfl, rfl, fun _ _ h => h⟩

theorem Within.trans {l l' l'' : RateLimiter} (h : l.Within l') (h' : l'.Within l'') :
    l.Within l'' :=
  ⟨h'.capacity.trans h.capacity, h'.rate.trans h.rate,
    fun ip bucket hget => h'.buckets ip bucket (h.buckets ip bucket hget)⟩

theorem Within.refilled {l l' : RateLimiter} (h : l.Within l') (bucket : Bucket) (now : ℚ) :
    l'.refilled bucket now = l.refilled bucket now := by
  simp only [RateLimiter.refilled, h.capacity, h.rate]

theorem sweep_within (l : RateLimiter) (now : ℚ) : (l.sweep now).Within l :=
  ⟨rfl, rfl, fun _ _ h => (Option.filter_eq_some_iff.mp h).1⟩

theorem Within.sweep {l l' : RateLimiter} (h : l.Within l') (now : ℚ) :
    (l.sweep now).Within (l'.sweep now) := by
  refine ⟨h.capacity, h.rate, ?_⟩
  intro ip bucket hget
  obtain ⟨hbucket, hkept⟩ := Option.filter_eq_some_iff.mp hget
  refine Option.filter_eq_some_iff.mpr ⟨h.buckets ip bucket hbucket, ?_⟩
  simpa only [h.refilled, h.capacity] using hkept

theorem Within.allow {l l' : RateLimiter} (h : l.Within l') (ip : IpAddr) (now : ℚ)
    (htokens : 0 < l.refillPerSec → ip.isLoopback = false →
      l'.tokensAt ip now = l.tokensAt ip now) :
    (l'.allow ip now).1 = (l.allow ip now).1 ∧ (l.allow ip now).2.Within (l'.allow ip now).2 := by
  by_cases hoff : l.refillPerSec ≤ 0 ∨ ip.isLoopback = true
  · have hoff' : l'.refillPerSec ≤ 0 ∨ ip.isLoopback = true := by rwa [h.rate]
    rw [RateLimiter.allow, RateLimiter.allow, if_pos hoff, if_pos hoff']
    exact ⟨rfl, h⟩
  · rw [not_or, not_le, Bool.not_eq_true] at hoff
    have hsame := htokens hoff.1 hoff.2
    have hinsert (x : ℚ) : Within { l with buckets := l.buckets.insert ip ⟨x, now⟩ }
        { l' with buckets := l'.buckets.insert ip ⟨x, now⟩ } := by
      refine ⟨h.capacity, h.rate, ?_⟩
      intro other bucket hget
      by_cases hne : other = ip
      · subst hne
        rwa [Table.get?_insert_self] at hget ⊢
      · rw [Table.get?_insert_of_ne _ _ hne] at hget ⊢
        exact h.buckets other bucket hget
    rw [l.allow_eq now hoff.1 hoff.2, l'.allow_eq now (h.rate.symm ▸ hoff.1) hoff.2, hsame]
    split_ifs
    · exact ⟨rfl, hinsert _⟩
    · exact ⟨rfl, hinsert _⟩

/-- Between the swept limiter and the one that never swept an address has the
same tokens at a call for which its deleted bucket is full again. -/
theorem FullAgain.tokensAt_eq {l l' unswept : RateLimiter} {ip : IpAddr} {now : ℚ}
    (hfull : FullAgain ⟨l, unswept⟩ ⟨.allow ip, now⟩) (h : l.Within l') (h' : l'.Within unswept)
    (hrate : 0 < l.refillPerSec) (hip : ip.isLoopback = false) :
    l'.tokensAt ip now = l.tokensAt ip now := by
  cases hget : l.buckets.get? ip with
  | some bucket =>
    rw [tokensAt_of_some hget, tokensAt_of_some (h.buckets ip bucket hget), h.refilled]
  | none =>
    rw [tokensAt_of_none hget]
    cases hget' : l'.buckets.get? ip with
    | none => rw [tokensAt_of_none hget', h.capacity]
    | some bucket =>
      have huntracked : ¬l.Tracked ip := by
        rintro ⟨b, hb⟩
        rw [hget] at hb
        cases hb
      rw [tokensAt_of_some hget', h.refilled]
      exact hfull ip bucket rfl hrate hip huntracked (h'.buckets ip bucket hget')

theorem FullAgain.step {l l' unswept : RateLimiter} {e : RateEvent}
    (hfull : FullAgain ⟨l, unswept⟩ e) (h : l.Within l') (h' : l'.Within unswept) :
    l'.answer e = l.answer e ∧ (l.apply e).Within (l'.apply e) ∧
      (l'.apply e).Within (unswept.run (withoutSweeps [e])) := by
  obtain ⟨op, now⟩ := e
  cases op with
  | setLimit ratePerSec burst =>
    exact ⟨rfl, ⟨rfl, rfl, h.buckets⟩, ⟨rfl, rfl, h'.buckets⟩⟩
  | sweep => exact ⟨rfl, h.sweep now, (sweep_within l' now).trans h'⟩
  | allow ip =>
    have htokens := hfull.tokensAt_eq h h'
    have htokens' := hfull.tokensAt_eq (h.trans h') (Within.refl unswept)
    obtain ⟨hanswer, hwithin⟩ := h.allow ip now htokens
    refine ⟨?_, hwithin, ?_⟩
    · simp only [answer, hanswer]
    · refine (h'.allow ip now ?_).2
      intro hrate hip
      rw [h.rate] at hrate
      rw [htokens' hrate hip, htokens hrate hip]

theorem calls_eq_of_along {es es' : List RateEvent} (hdropped : SweepsDropped es es')
    {l l' unswept : RateLimiter} (h : l.Within l') (h' : l'.Within unswept)
    (hfull : Along Shadowed.step FullAgain ⟨l, unswept⟩ es) : l'.calls es' = l.calls es := by
  induction hdropped generalizing l l' unswept with
  | nil => rfl
  | keep e _ ih =>
    obtain ⟨hanswer, hnext, hnext'⟩ := FullAgain.step hfull.1 h h'
    rw [calls, calls, hanswer, ih hnext hnext' (hfull.2 _ rfl)]
  | drop t _ ih =>
    exact ih ((sweep_within l t).trans h) h' (hfull.2 _ rfl)

/-! ## Sweeps under fixed limits -/

def ForgottenFull (s : Shadowed) (clock : ℚ) : Prop :=
  ∀ ip bucket t, s.limiter.buckets.get? ip = none → s.unswept.buckets.get? ip = some bucket →
    clock ≤ t → s.limiter.refilled bucket t = s.limiter.capacity

theorem refilled_mono {l : RateLimiter} (hrate : 0 ≤ l.refillPerSec) (bucket : Bucket) {s t : ℚ}
    (h : s ≤ t) : l.refilled bucket s ≤ l.refilled bucket t := by
  rw [refilled_eq, refilled_eq]
  apply TokenBucket.refill_mono hrate
  gcongr

theorem ForgottenFull.step {l unswept : RateLimiter} {clock : ℚ} {e : RateEvent}
    (hrate : 0 < l.refillPerSec) (h : ForgottenFull ⟨l, unswept⟩ clock) (hwithin : l.Within unswept)
    (he : ∀ ratePerSec burst, e.op ≠ .setLimit ratePerSec burst) (hclock : clock ≤ e.time) :
    ForgottenFull ⟨l.apply e, unswept.run (withoutSweeps [e])⟩ e.time := by
  obtain ⟨op, now⟩ := e
  intro ip bucket t hnone hbucket ht
  cases op with
  | setLimit ratePerSec burst => exact absurd rfl (he ratePerSec burst)
  | sweep =>
    cases hget : l.buckets.get? ip with
    | none => exact h ip bucket t hget hbucket (hclock.trans ht)
    | some held =>
      have hsame : bucket = held :=
        Option.some.inj (hbucket.symm.trans (hwithin.buckets ip held hget))
      have hfull : l.tokensAt ip now = l.capacity := by
        rcases l.sweep_get? ip now with hkept | ⟨-, hfull⟩
        · rw [hget] at hkept
          cases hkept.symm.trans hnone
        · exact hfull
      rw [tokensAt_of_some hget, ← hsame] at hfull
      exact le_antisymm (min_le_right _ _) (hfull.ge.trans (refilled_mono hrate.le bucket ht))
  | allow other =>
    obtain ⟨hcap, hr⟩ := l.allow_limits other now
    have hkeep (hl : (l.allow other now).2.buckets.get? ip = l.buckets.get? ip)
        (hu : (unswept.allow other now).2.buckets.get? ip = unswept.buckets.get? ip) :
        (l.allow other now).2.refilled bucket t = (l.allow other now).2.capacity := by
      have hold := h ip bucket t (hl.symm.trans hnone) (hu.symm.trans hbucket) (hclock.trans ht)
      simpa only [refilled, hcap, hr] using hold
    by_cases hne : ip = other
    · subst hne
      cases hip : ip.isLoopback with
      | true => exact hkeep (by simp [allow, hip]) (by simp [allow, hip])
      | false =>
        simp only [RateLimiter.apply] at hnone
        rw [l.allow_eq now hrate hip] at hnone
        split_ifs at hnone <;> simp at hnone
    · exact hkeep (l.allow_get?_of_ne hne now) (unswept.allow_get?_of_ne hne now)

/-- While the limits stay, every run is harmless. -/
theorem along_of_fixedLimits {l unswept : RateLimiter} {clock : ℚ} {es : List RateEvent}
    (hrate : 0 < l.refillPerSec) (h : ForgottenFull ⟨l, unswept⟩ clock) (hwithin : l.Within unswept)
    (hfixed : FixedLimits es) (hclock : Chronological es) (hfirst : ∀ e ∈ es, clock ≤ e.time) :
    Along Shadowed.step FullAgain ⟨l, unswept⟩ es := by
  induction es generalizing l unswept clock with
  | nil => trivial
  | cons e es ih =>
    obtain ⟨hlater, hrest⟩ := List.pairwise_cons.mp hclock
    have hnow := hfirst e List.mem_cons_self
    have hfull : FullAgain ⟨l, unswept⟩ e := by
      intro ip bucket _ _ _ huntracked hbucket
      apply h ip bucket e.time _ hbucket hnow
      exact Option.eq_none_iff_forall_ne_some.mpr fun b hb => huntracked ⟨b, hb⟩
    refine ⟨hfull, ?_⟩
    intro next hnext
    cases hnext
    have he := hfixed e List.mem_cons_self
    obtain ⟨-, hkept, hkept'⟩ := FullAgain.step hfull hwithin (.refl _)
    exact ih ((apply_limits he).2.symm ▸ hrate) (h.step hrate hwithin he hnow)
      (hkept.trans hkept') (fun e' he' => hfixed e' (List.mem_cons_of_mem e he')) hrest hlater

theorem calls_eq_of_fixedLimits {rate : ℚ} (hrate : 0 < rate) (burst : ℕ) {es es' : List RateEvent}
    (hfixed : FixedLimits es) (hclock : Chronological es) (hdropped : SweepsDropped es es') :
    (new rate burst).calls es' = (new rate burst).calls es := by
  cases es with
  | nil =>
    cases hdropped
    rfl
  | cons e es =>
    have hnone : ForgottenFull ⟨new rate burst, new rate burst⟩ e.time := by
      intro ip bucket t _ hbucket
      cases hbucket
    have hfirst : ∀ e' ∈ e :: es, e.time ≤ e'.time :=
      List.forall_mem_cons.mpr ⟨le_rfl, (List.pairwise_cons.mp hclock).1⟩
    exact calls_eq_of_along hdropped (.refl _) (.refl _)
      (along_of_fixedLimits hrate hnone (.refl _) hfixed hclock hfirst)

/-! ## A run that is not harmless -/

theorem exec_shadowed (l unswept : RateLimiter) (es : List RateEvent) :
    exec Shadowed.step ⟨l, unswept⟩ es = some ⟨l.run es, unswept.run (withoutSweeps es)⟩ := by
  induction es generalizing l unswept with
  | nil => rfl
  | cons e es ih =>
    rw [exec_cons, Shadowed.step, Option.bind_some, ih, ← run_append]
    congr 2
    exact congrArg unswept.run (List.filter_append ..).symm

theorem SweepsDropped.refl (es : List RateEvent) : SweepsDropped es es := by
  induction es with
  | nil => exact .nil
  | cons e es ih => exact .keep e ih

theorem dropped_withoutSweeps (es tail : List RateEvent) :
    SweepsDropped (es ++ tail) (withoutSweeps es ++ tail) := by
  induction es with
  | nil => exact .refl tail
  | cons e es ih =>
    obtain ⟨op, now⟩ := e
    cases op with
    | sweep => exact .drop now ih
    | allow ip => exact .keep _ ih
    | setLimit ratePerSec burst => exact .keep _ ih

theorem burst_admitted_iff {l : RateLimiter} {ip : IpAddr} {now : ℚ}
    (hrate : 0 < l.refillPerSec) (hip : ip.isLoopback = false) (n : ℕ) :
    (∀ c ∈ l.calls (List.replicate n ⟨.allow ip, now⟩), c.admitted = true) ↔
      n = 0 ∨ (n : ℚ) ≤ l.tokensAt ip now := by
  induction n generalizing l with
  | zero => simp [calls]
  | succ n ih =>
    have hcast : ((n + 1 : ℕ) : ℚ) = n + 1 := Nat.cast_succ n
    have hnonneg : (0 : ℚ) ≤ n := n.cast_nonneg
    rw [List.replicate_succ, calls, List.forall_mem_append, hcast,
      or_iff_right n.succ_ne_zero]
    simp only [answer, List.forall_mem_singleton, RateLimiter.apply, l.allow_eq now hrate hip]
    split_ifs with hone
    · have hle : l.tokensAt ip now - 1 ≤ l.capacity := by linarith [l.tokensAt_le ip now]
      have hrest := ih (l := { l with buckets := l.buckets.insert ip ⟨l.tokensAt ip now - 1, now⟩ })
        hrate
      rw [tokensAt_insert l ip hle] at hrest
      dsimp only
      rw [hrest]
      constructor
      · rintro ⟨-, rfl | hn⟩
        · simpa using hone
        · linarith
      · intro hn
        refine ⟨rfl, Or.inr ?_⟩
        linarith
    · constructor
      · rintro ⟨hfalse, -⟩
        cases hfalse
      · intro hn
        exact absurd (by linarith) hone

theorem within_of_along {l : RateLimiter} {es : List RateEvent} (h : Harmless l es) :
    (l.run es).Within (l.run (withoutSweeps es)) := by
  refine exec_invariant_along (I := fun s : Shadowed => s.limiter.Within s.unswept)
    (Within.refl l) ?_ h (exec_shadowed l l es)
  intro s e t hwithin hfull hstep
  obtain ⟨-, hnext, hnext'⟩ := FullAgain.step hfull hwithin (.refl _)
  cases hstep
  exact hnext.trans hnext'

theorem Chronological.burst {before after : List RateEvent} {e : RateEvent}
    (h : Chronological (before ++ e :: after)) (n : ℕ) :
    Chronological (before ++ List.replicate n e) := by
  obtain ⟨hbefore, -, hcross⟩ := List.pairwise_append.mp h
  refine List.pairwise_append.mpr ⟨hbefore, List.pairwise_replicate_of_refl, ?_⟩
  intro e' he' e'' he''
  rw [List.eq_of_mem_replicate he'']
  exact hcross e' he' e List.mem_cons_self

/-- When every deleted bucket is full again at the address's next call, no
sweep changes any answer. A run in which one is not may still get the same
answers, but another one, with a burst of such calls in that place, does not. -/
theorem sweeps_unnoticed_of_harmless (rate : ℚ) (burst : ℕ) (es : List RateEvent) :
    (Harmless (new rate burst) es → ∀ es', SweepsDropped es es' →
      (new rate burst).calls es' = (new rate burst).calls es) ∧
    (¬Harmless (new rate burst) es → ∃ before e after n es', es = before ++ e :: after ∧
      (Chronological es → Chronological (before ++ List.replicate n e)) ∧
      SweepsDropped (before ++ List.replicate n e) es' ∧
      (new rate burst).calls es' ≠ (new rate burst).calls (before ++ List.replicate n e)) := by
  constructor
  · intro hharmless es' hdropped
    exact calls_eq_of_along hdropped (.refl _) (.refl _) hharmless
  · intro hharm
    obtain ⟨before, ⟨op, now⟩, after, s, hes, hbefore, hrun, hfull⟩ :=
      exists_first_of_not_along hharm
    rw [exec_shadowed, Option.some.injEq] at hrun
    subst hrun
    simp only [FullAgain] at hfull
    push Not at hfull
    obtain ⟨ip, bucket, rfl, hrate, hip, huntracked, hbucket, hnotfull⟩ := hfull
    have hwithin := within_of_along hbefore
    have hnone : ((new rate burst).run before).buckets.get? ip = none :=
      Option.eq_none_iff_forall_ne_some.mpr fun b hb => huntracked ⟨b, hb⟩
    have hless : ((new rate burst).run (withoutSweeps before)).tokensAt ip now <
        ((new rate burst).run before).capacity := by
      rw [tokensAt_of_some hbucket, hwithin.refilled]
      exact lt_of_le_of_ne (min_le_right _ _) hnotfull
    refine ⟨before, ⟨.allow ip, now⟩, after, ((new rate burst).run before).capacity, _, hes,
      fun hclock => Chronological.burst (hes ▸ hclock) _, dropped_withoutSweeps before _, ?_⟩
    intro hsame
    have hprefix := calls_eq_of_along (by simpa using dropped_withoutSweeps before [])
      (.refl _) (.refl _) hbefore
    rw [calls_append, calls_append, hprefix, List.append_cancel_left_eq] at hsame
    have hswept := (burst_admitted_iff hrate hip ((new rate burst).run before).capacity).mpr
      (Or.inr (tokensAt_of_none hnone now).ge)
    rw [← hsame, burst_admitted_iff (hwithin.rate ▸ hrate) hip] at hswept
    rcases hswept with hzero | henough
    · have hpos := (run_nonneg (new_nonneg rate burst) (withoutSweeps before)).tokensAt
        (hwithin.rate ▸ hrate.le) ip now
      rw [hzero, Nat.cast_zero] at hless
      exact absurd hless (not_lt.mpr hpos)
    · exact absurd hless (not_lt.mpr henough)

/-- A bucket of one token is swept once it is full; then the burst is raised to
two. The swept address has two tokens at once, its kept bucket has one. -/
theorem sweeps_unnoticed_fails :
    let ip : IpAddr := .v4 ⟨203, 0, 113, 5⟩
    let es : List RateEvent := [⟨.allow ip, 0⟩, ⟨.sweep, 1⟩, ⟨.setLimit 1 2, 1⟩, ⟨.allow ip, 1⟩,
      ⟨.allow ip, 1⟩]
    let es' : List RateEvent := [⟨.allow ip, 0⟩, ⟨.setLimit 1 2, 1⟩, ⟨.allow ip, 1⟩,
      ⟨.allow ip, 1⟩]
    Chronological es ∧ SweepsDropped es es' ∧ (new 1 1).calls es' ≠ (new 1 1).calls es := by
  refine ⟨by simp [Chronological], .keep _ (.drop 1 (.refl _)), ?_⟩
  decide +kernel

end RateLimiter

end Reprox.Limits
