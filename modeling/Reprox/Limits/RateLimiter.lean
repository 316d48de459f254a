import Reprox.Foundations.Table
import Reprox.Foundations.TokenBucket
import Reprox.Net.Address

/-!
# The per-IP connection rate limiter

Floating-point numbers are read as exact rationals and a clock reading is a
rational number of seconds. The limiter itself is lazy: it stores a token count
and the time of the last refill, and a sweep deletes full buckets. Two results
say what it does. With fixed limits it decides exactly as the greedy rate
constraint on the admitted calls (`allow_iff_rateConstraint`); with limits that
change at any time, the cap of the limits in force holds over every stretch of
calls they cover (`rate_cap`).
-/

namespace Reprox.Limits

open Foundations Net

structure Bucket where
  tokens : ℚ
  lastRefill : ℚ
  deriving DecidableEq, Repr

structure RateLimiter where
  buckets : Table IpAddr Bucket
  capacity : ℕ
  refillPerSec : ℚ

namespace RateLimiter

def new (ratePerSec : ℚ) (burst : ℕ) : RateLimiter := ⟨.empty, burst, ratePerSec⟩

def setLimit (l : RateLimiter) (ratePerSec : ℚ) (burst : ℕ) : RateLimiter :=
  { l with capacity := burst, refillPerSec := ratePerSec }

/-- A bucket's tokens once it is refilled up to `now`; the elapsed time saturates at zero. -/
def refilled (l : RateLimiter) (bucket : Bucket) (now : ℚ) : ℚ :=
  let elapsed := max (now - bucket.lastRefill) 0
  min (bucket.tokens + elapsed * l.refillPerSec) l.capacity

def allow (l : RateLimiter) (ip : IpAddr) (now : ℚ) : Bool × RateLimiter :=
  if l.refillPerSec ≤ 0 ∨ ip.isLoopback then (true, l)
  else
    let bucket := (l.buckets.get? ip).getD ⟨l.capacity, now⟩
    let tokens := l.refilled bucket now
    if 1 ≤ tokens then (true, { l with buckets := l.buckets.insert ip ⟨tokens - 1, now⟩ })
    else (false, { l with buckets := l.buckets.insert ip ⟨tokens, now⟩ })

def sweep (l : RateLimiter) (now : ℚ) : RateLimiter :=
  { l with buckets := l.buckets.retain fun _ bucket => decide (l.refilled bucket now < l.capacity) }

end RateLimiter

/-! ## Runs -/

inductive RateOp where
  | allow (ip : IpAddr)
  | sweep
  | setLimit (ratePerSec : ℚ) (burst : ℕ)
  deriving DecidableEq, Repr

structure RateEvent where
  op : RateOp
  time : ℚ
  deriving DecidableEq, Repr

structure Call where
  ip : IpAddr
  time : ℚ
  admitted : Bool
  deriving DecidableEq, Repr

def Chronological (es : List RateEvent) : Prop := es.Pairwise fun e e' => e.time ≤ e'.time

def admittedTimes (ip : IpAddr) (calls : List Call) : List ℚ :=
  (calls.filter fun c => c.ip = ip ∧ c.admitted).map Call.time

namespace RateLimiter

def apply (l : RateLimiter) (e : RateEvent) : RateLimiter :=
  match e.op with
  | .allow ip => (l.allow ip e.time).2
  | .sweep => l.sweep e.time
  | .setLimit ratePerSec burst => l.setLimit ratePerSec burst

def answer (l : RateLimiter) (e : RateEvent) : List Call :=
  match e.op with
  | .allow ip => [⟨ip, e.time, (l.allow ip e.time).1⟩]
  | _ => []

def run (l : RateLimiter) (es : List RateEvent) : RateLimiter := es.foldl apply l

def calls : RateLimiter → List RateEvent → List Call
  | _, [] => []
  | l, e :: es => l.answer e ++ calls (l.apply e) es

theorem run_append (l : RateLimiter) (es es' : List RateEvent) :
    l.run (es ++ es') = (l.run es).run es' := List.foldl_append

theorem calls_append (l : RateLimiter) (es es' : List RateEvent) :
    l.calls (es ++ es') = l.calls es ++ (l.run es).calls es' := by
  induction es generalizing l with
  | nil => rfl
  | cons e es ih =>
    simp only [List.cons_append, calls, ih, List.append_assoc]
    rfl

theorem admittedTimes_append (ip : IpAddr) (cs cs' : List Call) :
    admittedTimes ip (cs ++ cs') = admittedTimes ip cs ++ admittedTimes ip cs' := by
  simp [admittedTimes]

/-! ## What an event does to one address -/

/-- The tokens an address has at `now`; without a bucket it has all of them. -/
def tokensAt (l : RateLimiter) (ip : IpAddr) (now : ℚ) : ℚ :=
  match l.buckets.get? ip with
  | some bucket => l.refilled bucket now
  | none => l.capacity

theorem refilled_eq (l : RateLimiter) (bucket : Bucket) (now : ℚ) :
    l.refilled bucket now =
      TokenBucket.refill (l.capacity : ℚ) l.refillPerSec bucket.tokens (max (now - bucket.lastRefill) 0) :=
  rfl

theorem tokensAt_of_some {l : RateLimiter} {ip : IpAddr} {bucket : Bucket}
    (h : l.buckets.get? ip = some bucket) (now : ℚ) : l.tokensAt ip now = l.refilled bucket now := by
  simp [tokensAt, h]

theorem tokensAt_of_none {l : RateLimiter} {ip : IpAddr} (h : l.buckets.get? ip = none) (now : ℚ) :
    l.tokensAt ip now = l.capacity := by
  simp [tokensAt, h]

theorem tokensAt_le (l : RateLimiter) (ip : IpAddr) (now : ℚ) : l.tokensAt ip now ≤ l.capacity := by
  cases h : l.buckets.get? ip with
  | none => exact (tokensAt_of_none h now).le
  | some bucket =>
    rw [tokensAt_of_some h]
    exact min_le_right _ _

theorem tokensAt_congr {l l' : RateLimiter} {ip : IpAddr}
    (hbucket : l'.buckets.get? ip = l.buckets.get? ip) (hcap : l'.capacity = l.capacity)
    (hrate : l'.refillPerSec = l.refillPerSec) (now : ℚ) : l'.tokensAt ip now = l.tokensAt ip now := by
  simp only [tokensAt, refilled, hbucket, hcap, hrate]

theorem tokensAt_insert (l : RateLimiter) (ip : IpAddr) {x : ℚ} (hx : x ≤ l.capacity) (now : ℚ) :
    tokensAt { l with buckets := l.buckets.insert ip ⟨x, now⟩ } ip now = x := by
  simp [tokensAt, refilled, hx]

theorem allow_eq (l : RateLimiter) {ip : IpAddr} (now : ℚ) (hrate : 0 < l.refillPerSec)
    (hip : ip.isLoopback = false) :
    l.allow ip now =
      if 1 ≤ l.tokensAt ip now then
        (true, { l with buckets := l.buckets.insert ip ⟨l.tokensAt ip now - 1, now⟩ })
      else (false, { l with buckets := l.buckets.insert ip ⟨l.tokensAt ip now, now⟩ }) := by
  have htokens : l.refilled ((l.buckets.get? ip).getD ⟨l.capacity, now⟩) now = l.tokensAt ip now := by
    cases h : l.buckets.get? ip with
    | none => simp [tokensAt, h, refilled]
    | some bucket => simp [tokensAt, h]
  have hon : ¬(l.refillPerSec ≤ 0 ∨ ip.isLoopback = true) := by
    simp [hip, hrate]
  simp only [allow, if_neg hon, htokens]

theorem allow_fst_iff (l : RateLimiter) {ip : IpAddr} (now : ℚ) (hrate : 0 < l.refillPerSec)
    (hip : ip.isLoopback = false) : (l.allow ip now).1 = true ↔ 1 ≤ l.tokensAt ip now := by
  rw [l.allow_eq now hrate hip]
  split_ifs with h <;> simp [h]

theorem allow_limits (l : RateLimiter) (ip : IpAddr) (now : ℚ) :
    (l.allow ip now).2.capacity = l.capacity ∧
      (l.allow ip now).2.refillPerSec = l.refillPerSec := by
  simp only [allow]
  split_ifs <;> exact ⟨rfl, rfl⟩

theorem allow_get?_of_ne (l : RateLimiter) {ip other : IpAddr} (h : other ≠ ip) (now : ℚ) :
    (l.allow ip now).2.buckets.get? other = l.buckets.get? other := by
  simp only [allow]
  split_ifs <;> simp [h]

theorem sweep_get? (l : RateLimiter) (ip : IpAddr) (now : ℚ) :
    (l.sweep now).buckets.get? ip = l.buckets.get? ip ∨
      ((l.sweep now).buckets.get? ip = none ∧ l.tokensAt ip now = l.capacity) := by
  cases h : l.buckets.get? ip with
  | none =>
    left
    simp [sweep, h]
  | some bucket =>
    by_cases hfull : l.refilled bucket now < l.capacity
    · left
      simp [sweep, h, Option.filter, hfull]
    · right
      refine ⟨by simp [sweep, h, Option.filter, hfull], ?_⟩
      rw [tokensAt_of_some h]
      exact le_antisymm (min_le_right _ _) (not_lt.mp hfull)

/-! ## Fixed limits: the greedy rate constraint -/

def FixedLimits (es : List RateEvent) : Prop :=
  ∀ e ∈ es, ∀ ratePerSec burst, e.op ≠ .setLimit ratePerSec burst

/-- The address's bucket, or its absence, stands for its admission history
(newest first): from `clock` on it shows the same number of tokens. -/
def Tracks (l : RateLimiter) (history : List ℚ) (clock : ℚ) (ip : IpAddr) : Prop :=
  match l.buckets.get? ip with
  | some bucket => bucket.lastRefill ≤ clock ∧
      bucket.tokens = TokenBucket.level (l.capacity : ℚ) l.refillPerSec history bucket.lastRefill
  | none => ∀ t, clock ≤ t → TokenBucket.level (l.capacity : ℚ) l.refillPerSec history t = l.capacity

theorem Tracks.tokensAt_eq {l : RateLimiter} {history : List ℚ} {clock t : ℚ} {ip : IpAddr}
    (h : l.Tracks history clock ip) (hrate : 0 < l.refillPerSec) (ht : clock ≤ t) :
    l.tokensAt ip t = TokenBucket.level (l.capacity : ℚ) l.refillPerSec history t := by
  cases hget : l.buckets.get? ip with
  | none =>
    simp only [Tracks, hget] at h
    rw [tokensAt_of_none hget, h t ht]
  | some bucket =>
    simp only [Tracks, hget] at h
    have hlast := h.1.trans ht
    rw [tokensAt_of_some hget, refilled_eq, h.2, max_eq_left (sub_nonneg.mpr hlast)]
    exact TokenBucket.refill_level hrate.le history hlast

theorem Tracks.of_insert {l : RateLimiter} {history : List ℚ} {t x : ℚ} {ip : IpAddr}
    (hx : x = TokenBucket.level (l.capacity : ℚ) l.refillPerSec history t) :
    Tracks { l with buckets := l.buckets.insert ip ⟨x, t⟩ } history t ip := by
  simp [Tracks, hx]

theorem Tracks.later {l l' : RateLimiter} {history : List ℚ} {clock t : ℚ} {ip : IpAddr}
    (h : l.Tracks history clock ip) (hbucket : l'.buckets.get? ip = l.buckets.get? ip)
    (hcap : l'.capacity = l.capacity) (hrate : l'.refillPerSec = l.refillPerSec) (ht : clock ≤ t) :
    l'.Tracks history t ip := by
  cases hget : l.buckets.get? ip with
  | none =>
    simp only [Tracks, hbucket, hcap, hrate, hget] at h ⊢
    intro u hu
    exact h u (ht.trans hu)
  | some bucket =>
    simp only [Tracks, hbucket, hcap, hrate, hget] at h ⊢
    exact ⟨h.1.trans ht, h.2⟩

theorem Tracks.apply {l : RateLimiter} {history : List ℚ} {clock : ℚ} {ip : IpAddr} {e : RateEvent}
    (h : l.Tracks history clock ip) (hrate : 0 < l.refillPerSec) (hip : ip.isLoopback = false)
    (he : ∀ ratePerSec burst, e.op ≠ .setLimit ratePerSec burst) (ht : clock ≤ e.time) :
    (l.apply e).Tracks ((admittedTimes ip (l.answer e)).reverse ++ history) e.time ip := by
  obtain ⟨op, t⟩ := e
  cases op with
  | setLimit ratePerSec burst => exact absurd rfl (he ratePerSec burst)
  | sweep =>
    simp only [RateLimiter.apply, answer, admittedTimes, List.filter_nil, List.map_nil,
      List.reverse_nil, List.nil_append]
    rcases l.sweep_get? ip t with hkeep | ⟨hgone, hfull⟩
    · exact h.later hkeep rfl rfl ht
    · simp only [Tracks, hgone]
      intro u hu
      have hlevel := h.tokensAt_eq hrate ht
      rw [hfull] at hlevel
      apply le_antisymm (TokenBucket.level_le_cap history u)
      calc (l.capacity : ℚ) = _ := hlevel
        _ ≤ _ := TokenBucket.level_mono hrate.le history hu
  | allow other =>
    by_cases hne : ip = other
    · subst hne
      have hlevel := h.tokensAt_eq hrate ht
      simp only [RateLimiter.apply, answer]
      rw [l.allow_eq t hrate hip]
      split_ifs with hone
      · apply Tracks.of_insert
        simp only [admittedTimes, and_self, decide_true, List.filter_cons_of_pos, List.filter_nil,
          List.map_cons, List.map_nil, List.reverse_singleton, List.singleton_append]
        rw [TokenBucket.level_admit, hlevel]
      · apply Tracks.of_insert
        simpa [admittedTimes] using hlevel
    · have hcalls : admittedTimes ip (l.answer ⟨.allow other, t⟩) = [] := by
        simp [admittedTimes, answer, Ne.symm hne]
      rw [hcalls]
      exact h.later (l.allow_get?_of_ne hne t) (l.allow_limits other t).1
        (l.allow_limits other t).2 ht

theorem apply_limits {l : RateLimiter} {e : RateEvent}
    (he : ∀ ratePerSec burst, e.op ≠ .setLimit ratePerSec burst) :
    (l.apply e).capacity = l.capacity ∧ (l.apply e).refillPerSec = l.refillPerSec := by
  obtain ⟨op, t⟩ := e
  cases op with
  | allow ip => exact l.allow_limits ip t
  | sweep => exact ⟨rfl, rfl⟩
  | setLimit ratePerSec burst => exact absurd rfl (he ratePerSec burst)

/-- The run rule: after any run the limits are the given ones and every bucket
stands for the admitted calls of its address. -/
theorem run_tracks {rate : ℚ} (hrate : 0 < rate) (burst : ℕ) {es : List RateEvent}
    (hfixed : FixedLimits es) {t : ℚ} (hclock : Chronological es) (hlast : ∀ e ∈ es, e.time ≤ t)
    {ip : IpAddr} (hip : ip.isLoopback = false) :
    ((new rate burst).run es).capacity = burst ∧ ((new rate burst).run es).refillPerSec = rate ∧
      ((new rate burst).run es).Tracks
        (admittedTimes ip ((new rate burst).calls es)).reverse t ip := by
  induction es using List.reverseRecOn generalizing t with
  | nil => exact ⟨rfl, rfl, fun _ _ => rfl⟩
  | append_singleton es e ih =>
    obtain ⟨hbefore, -, hcross⟩ := List.pairwise_append.mp hclock
    have hup : ∀ e' ∈ es, e'.time ≤ e.time := fun e' he' => hcross e' he' e (List.mem_singleton_self e)
    have hfix := hfixed e (by simp)
    obtain ⟨hcap, hr, htracks⟩ :=
      ih (fun e' he' => hfixed e' (List.mem_append_left _ he')) hbefore hup
    have hpos : 0 < ((new rate burst).run es).refillPerSec := by rwa [hr]
    have hlimits := apply_limits (l := (new rate burst).run es) hfix
    have hnext := htracks.apply hpos hip hfix le_rfl
    have hrun : (new rate burst).run (es ++ [e]) = ((new rate burst).run es).apply e :=
      run_append _ es [e]
    rw [hrun, calls_append, admittedTimes_append, List.reverse_append]
    refine ⟨hlimits.1.trans hcap, hlimits.2.trans hr, ?_⟩
    simp only [calls, List.append_nil]
    exact hnext.later rfl rfl rfl (hlast e (by simp))

/-- The greedy rule on the admitted calls, oldest first: counting the new call,
the calls from any admitted one on fit the burst plus what accrued since. -/
def RateConstraint (rate : ℚ) (burst : ℕ) (admitted : List ℚ) (t : ℚ) : Prop :=
  1 ≤ burst ∧ ∀ earlier s later, admitted = earlier ++ s :: later →
    ((s :: later).length : ℚ) + 1 ≤ burst + rate * (t - s)

theorem rateConstraint_iff_admits {rate : ℚ} {burst : ℕ} {admitted : List ℚ} {t : ℚ} :
    RateConstraint rate burst admitted t ↔
      TokenBucket.Admits (burst : ℚ) rate admitted.reverse t := by
  unfold RateConstraint TokenBucket.Admits
  rw [Nat.one_le_cast]
  refine and_congr_right fun _ => ?_
  constructor
  · intro h later s earlier hsplit
    have hrev : admitted = earlier.reverse ++ s :: later.reverse := by
      rw [← List.reverse_reverse admitted, hsplit]
      simp
    simpa using h earlier.reverse s later.reverse hrev
  · intro h earlier s later hsplit
    have hrev : admitted.reverse = later.reverse ++ s :: earlier.reverse := by
      rw [hsplit]
      simp
    simpa using h later.reverse s earlier.reverse hrev

theorem allow_iff_of_run {rate : ℚ} (hrate : 0 < rate) (burst : ℕ) {es : List RateEvent}
    (hfixed : FixedLimits es) {ip : IpAddr} (hip : ip.isLoopback = false) {t : ℚ}
    (hclock : Chronological (es ++ [⟨.allow ip, t⟩])) :
    (((new rate burst).run es).allow ip t).1 = true ↔
      RateConstraint rate burst (admittedTimes ip ((new rate burst).calls es)) t := by
  obtain ⟨hbefore, -, hcross⟩ := List.pairwise_append.mp hclock
  have hup : ∀ e ∈ es, e.time ≤ t := fun e he => hcross e he _ (List.mem_singleton_self _)
  obtain ⟨hcap, hr, htracks⟩ := run_tracks hrate burst hfixed hbefore hup hip
  have hpos : 0 < ((new rate burst).run es).refillPerSec := by rwa [hr]
  rw [allow_fst_iff _ t hpos hip, htracks.tokensAt_eq hpos le_rfl, hcap, hr,
    TokenBucket.one_le_level_iff_admits, rateConstraint_iff_admits]

/-- With fixed limits the lazy buckets decide exactly as the greedy rate
constraint, so the answer depends on the address's admitted calls alone. -/
theorem allow_iff_rateConstraint {rate : ℚ} (hrate : 0 < rate) (burst : ℕ) {es : List RateEvent}
    (hfixed : FixedLimits es) {ip : IpAddr} (hip : ip.isLoopback = false) {t : ℚ}
    (hclock : Chronological (es ++ [⟨.allow ip, t⟩])) :
    ((((new rate burst).run es).allow ip t).1 = true ↔
      RateConstraint rate burst (admittedTimes ip ((new rate burst).calls es)) t) ∧
    ∀ es', FixedLimits es' → Chronological (es' ++ [⟨.allow ip, t⟩]) →
      admittedTimes ip ((new rate burst).calls es') =
        admittedTimes ip ((new rate burst).calls es) →
      (((new rate burst).run es').allow ip t).1 = (((new rate burst).run es).allow ip t).1 := by
  have hthis := allow_iff_of_run hrate burst hfixed hip hclock
  refine ⟨hthis, ?_⟩
  intro es' hfixed' hclock' hsame
  have hother := allow_iff_of_run hrate burst hfixed' hip hclock'
  rw [hsame] at hother
  exact Bool.eq_iff_iff.mpr (hother.trans hthis.symm)

/-- A burst of two at one token per second, after a sweep and a call of
another address: the third call of an address in a row is refused. -/
theorem allow_iff_rateConstraint_burst_of_two :
    (((new 1 2).run [⟨.allow (.v4 ⟨203, 0, 113, 5⟩), 0⟩, ⟨.sweep, 0⟩,
      ⟨.allow (.v4 ⟨203, 0, 113, 5⟩), 0⟩, ⟨.allow (.v4 ⟨203, 0, 113, 6⟩), 0⟩]).allow
        (.v4 ⟨203, 0, 113, 5⟩) (1 / 2)).1 = true ↔
      RateConstraint 1 2 (admittedTimes (.v4 ⟨203, 0, 113, 5⟩) ((new 1 2).calls
        [⟨.allow (.v4 ⟨203, 0, 113, 5⟩), 0⟩, ⟨.sweep, 0⟩, ⟨.allow (.v4 ⟨203, 0, 113, 5⟩), 0⟩,
          ⟨.allow (.v4 ⟨203, 0, 113, 6⟩), 0⟩])) (1 / 2) :=
  (allow_iff_rateConstraint (by norm_num) 2 (by simp [FixedLimits]) (by decide)
    (by simp [Chronological])).1

/-! ## Changing limits: the cap over a stretch of calls -/

/-- The limits are these in every state from the first event to the last. -/
def LimitsStay (l : RateLimiter) (rate : ℚ) (burst : ℕ) (es : List RateEvent) : Prop :=
  ∀ passed, passed <+: es →
    (l.run passed).refillPerSec = rate ∧ (l.run passed).capacity = burst

def Nonneg (l : RateLimiter) : Prop :=
  ∀ ip bucket, l.buckets.get? ip = some bucket → 0 ≤ bucket.tokens

theorem Nonneg.tokensAt {l : RateLimiter} (h : l.Nonneg) (hrate : 0 ≤ l.refillPerSec)
    (ip : IpAddr) (now : ℚ) : 0 ≤ l.tokensAt ip now := by
  cases hget : l.buckets.get? ip with
  | none =>
    rw [tokensAt_of_none hget]
    exact l.capacity.cast_nonneg
  | some bucket =>
    rw [tokensAt_of_some hget, refilled_eq]
    exact TokenBucket.refill_nonneg l.capacity.cast_nonneg hrate (h ip bucket hget)
      (le_max_right _ _)

theorem Nonneg.insert {l : RateLimiter} (h : l.Nonneg) (ip : IpAddr) {x : ℚ} (hx : 0 ≤ x) (t : ℚ) :
    Nonneg { l with buckets := l.buckets.insert ip ⟨x, t⟩ } := by
  intro other bucket hget
  by_cases hne : other = ip
  · subst hne
    simp only [Table.get?_insert_self, Option.some.injEq] at hget
    rw [← hget]
    exact hx
  · rw [Table.get?_insert_of_ne _ _ hne] at hget
    exact h other bucket hget

theorem Nonneg.apply {l : RateLimiter} (h : l.Nonneg) (e : RateEvent) : (l.apply e).Nonneg := by
  obtain ⟨op, t⟩ := e
  cases op with
  | setLimit ratePerSec burst => exact h
  | sweep =>
    intro ip bucket hget
    apply h ip bucket
    exact (Option.filter_eq_some_iff.mp hget).1
  | allow ip =>
    by_cases hoff : l.refillPerSec ≤ 0 ∨ ip.isLoopback = true
    · simp only [RateLimiter.apply, allow, if_pos hoff]
      exact h
    · rw [not_or, not_le, Bool.not_eq_true] at hoff
      simp only [RateLimiter.apply]
      rw [l.allow_eq t hoff.1 hoff.2]
      split_ifs with hone
      · apply h.insert
        exact sub_nonneg.mpr hone
      · apply h.insert
        exact h.tokensAt hoff.1.le ip t

theorem run_nonneg {l : RateLimiter} (h : l.Nonneg) (es : List RateEvent) : (l.run es).Nonneg := by
  induction es generalizing l with
  | nil => exact h
  | cons e es ih => exact ih (h.apply e)

theorem new_nonneg (rate : ℚ) (burst : ℕ) : (new rate burst).Nonneg := by
  intro ip bucket hget
  cases hget

theorem tokensAt_le_add (l : RateLimiter) (hrate : 0 ≤ l.refillPerSec) (ip : IpAddr) {s t : ℚ}
    (h : s ≤ t) : l.tokensAt ip t ≤ l.tokensAt ip s + l.refillPerSec * (t - s) := by
  have hst : 0 ≤ t - s := sub_nonneg.mpr h
  cases hget : l.buckets.get? ip with
  | none =>
    rw [tokensAt_of_none hget, tokensAt_of_none hget]
    exact le_add_of_nonneg_right (mul_nonneg hrate hst)
  | some bucket =>
    have helapsed : max (t - bucket.lastRefill) 0 ≤ max (s - bucket.lastRefill) 0 + (t - s) := by
      apply max_le
      · linarith [le_max_left (s - bucket.lastRefill) 0]
      · linarith [le_max_right (s - bucket.lastRefill) 0]
    rw [tokensAt_of_some hget, tokensAt_of_some hget, refilled_eq, refilled_eq,
      mul_comm l.refillPerSec]
    calc _ ≤ _ := TokenBucket.refill_mono hrate bucket.tokens helapsed
      _ ≤ _ := TokenBucket.refill_add_le hrate bucket.tokens _ hst

/-- The step lemma: an event that keeps the limits spends the tokens it admits for. -/
theorem admitted_add_tokensAt_le {l : RateLimiter} (hrate : 0 < l.refillPerSec) {ip : IpAddr}
    (hip : ip.isLoopback = false) {e : RateEvent}
    (hr : (l.apply e).refillPerSec = l.refillPerSec) (hcap : (l.apply e).capacity = l.capacity) :
    ((admittedTimes ip (l.answer e)).length : ℚ) + (l.apply e).tokensAt ip e.time ≤
      l.tokensAt ip e.time := by
  have hkept (hnone : admittedTimes ip (l.answer e) = [])
      (hbucket : (l.apply e).buckets.get? ip = l.buckets.get? ip) :
      ((admittedTimes ip (l.answer e)).length : ℚ) + (l.apply e).tokensAt ip e.time ≤
        l.tokensAt ip e.time := by
    rw [hnone, tokensAt_congr hbucket hcap hr]
    simp
  obtain ⟨op, t⟩ := e
  cases op with
  | setLimit ratePerSec burst => exact hkept rfl rfl
  | sweep =>
    rcases l.sweep_get? ip t with hkeep | ⟨hgone, hfull⟩
    · exact hkept rfl hkeep
    · have hafter : (l.sweep t).tokensAt ip t = l.capacity := tokensAt_of_none hgone t
      simp [RateLimiter.apply, answer, admittedTimes, hafter, hfull]
  | allow other =>
    by_cases hne : ip = other
    · subst hne
      have hle := l.tokensAt_le ip t
      simp only [RateLimiter.apply, answer]
      rw [l.allow_eq t hrate hip]
      split_ifs with hone
      · rw [tokensAt_insert l ip (by linarith) t]
        simp [admittedTimes]
      · rw [tokensAt_insert l ip hle t]
        simp [admittedTimes]
    · apply hkept
      · simp [admittedTimes, answer, Ne.symm hne]
      · exact l.allow_get?_of_ne hne t

theorem LimitsStay.apply {l : RateLimiter} {rate : ℚ} {burst : ℕ} {e : RateEvent}
    {es : List RateEvent} (h : l.LimitsStay rate burst (e :: es)) :
    (l.apply e).LimitsStay rate burst es := by
  intro passed hpassed
  exact h (e :: passed) (List.cons_prefix_cons.mpr ⟨rfl, hpassed⟩)

theorem LimitsStay.of_fixed {l : RateLimiter} {rate : ℚ} {burst : ℕ} {es : List RateEvent}
    (hfixed : FixedLimits es) (hr : l.refillPerSec = rate) (hcap : l.capacity = burst) :
    l.LimitsStay rate burst es := by
  induction es generalizing l with
  | nil =>
    intro passed hpassed
    rw [List.prefix_nil.mp hpassed]
    exact ⟨hr, hcap⟩
  | cons e es ih =>
    intro passed hpassed
    rcases List.prefix_cons_iff.mp hpassed with rfl | ⟨passed, rfl, htail⟩
    · exact ⟨hr, hcap⟩
    · obtain ⟨hcap', hr'⟩ := apply_limits (l := l) (hfixed e List.mem_cons_self)
      exact ih (fun e' he' => hfixed e' (List.mem_cons_of_mem e he')) (hr'.trans hr)
        (hcap'.trans hcap) passed htail

/-- The run rule: what a stretch of events admits and what it leaves was there
at its start or accrued over it. -/
theorem admitted_add_tokensAt_run_le {rate : ℚ} (hrate : 0 < rate) {burst : ℕ} {ip : IpAddr}
    (hip : ip.isLoopback = false) {es : List RateEvent} {l : RateLimiter} {s t : ℚ}
    (hstay : l.LimitsStay rate burst es) (hclock : Chronological es)
    (hfirst : ∀ e ∈ es, s ≤ e.time) (hlast : ∀ e ∈ es, e.time ≤ t) (hst : s ≤ t) :
    ((admittedTimes ip (l.calls es)).length : ℚ) + (l.run es).tokensAt ip t ≤
      l.tokensAt ip s + rate * (t - s) := by
  induction es generalizing l s with
  | nil =>
    obtain ⟨hr, -⟩ := hstay [] (List.prefix_refl [])
    have hgrow := l.tokensAt_le_add (hr.symm ▸ hrate.le) ip hst
    rw [show l.refillPerSec = rate from hr] at hgrow
    simpa [calls, admittedTimes, run] using hgrow
  | cons e es ih =>
    obtain ⟨hr, hcap⟩ := hstay [] List.nil_prefix
    obtain ⟨hr', hcap'⟩ := hstay.apply [] List.nil_prefix
    obtain ⟨hlater, hrest⟩ := List.pairwise_cons.mp hclock
    have hstep := admitted_add_tokensAt_le (l := l) (hr.symm ▸ hrate) hip
      (hr'.trans hr.symm) (hcap'.trans hcap.symm)
    have hgrow := l.tokensAt_le_add (hr.symm ▸ hrate.le) ip (hfirst e List.mem_cons_self)
    have htail := ih hstay.apply hrest hlater (fun e' he' => hlast e' (List.mem_cons_of_mem e he'))
      (hlast e List.mem_cons_self)
    rw [show l.refillPerSec = rate from hr] at hgrow
    rw [calls, admittedTimes_append, List.length_append, Nat.cast_add]
    calc _ = ((admittedTimes ip (l.answer e)).length : ℚ) +
          (((admittedTimes ip ((l.apply e).calls es)).length : ℚ) +
            ((l.apply e).run es).tokensAt ip t) := by rw [add_assoc]; rfl
      _ ≤ ((admittedTimes ip (l.answer e)).length : ℚ) +
          ((l.apply e).tokensAt ip e.time + rate * (t - e.time)) := by gcongr
      _ ≤ l.tokensAt ip e.time + rate * (t - e.time) := by rw [← add_assoc]; gcongr
      _ ≤ l.tokensAt ip s + rate * (e.time - s) + rate * (t - e.time) := by gcongr
      _ = l.tokensAt ip s + rate * (t - s) := by ring

/-- From the first of two calls of an address to the second, the limits in
force over that stretch cap the admissions, whatever limits, buckets and
sweeps came before; and no stored count is ever negative. -/
theorem rate_cap (rate₀ : ℚ) (burst₀ : ℕ) (before between : List RateEvent) {ip : IpAddr}
    (hip : ip.isLoopback = false) {s t : ℚ}
    (hclock : Chronological (before ++ ⟨.allow ip, s⟩ :: (between ++ [⟨.allow ip, t⟩])))
    {rate : ℚ} (hrate : 0 < rate) {burst : ℕ}
    (hstay : ((new rate₀ burst₀).run before).LimitsStay rate burst
      (⟨.allow ip, s⟩ :: (between ++ [⟨.allow ip, t⟩]))) :
    ((admittedTimes ip (((new rate₀ burst₀).run before).calls
      (⟨.allow ip, s⟩ :: (between ++ [⟨.allow ip, t⟩])))).length : ℚ) ≤ burst + rate * (t - s) ∧
    ∀ es, ((new rate₀ burst₀).run es).Nonneg := by
  refine ⟨?_, run_nonneg (new_nonneg rate₀ burst₀)⟩
  obtain ⟨-, hwindow, -⟩ := List.pairwise_append.mp hclock
  obtain ⟨hlater, hrest⟩ := List.pairwise_cons.mp hwindow
  obtain ⟨-, -, hcross⟩ := List.pairwise_append.mp hrest
  have hst : s ≤ t := hlater ⟨.allow ip, t⟩ (by simp)
  have hfirst : ∀ e ∈ ⟨.allow ip, s⟩ :: (between ++ [⟨.allow ip, t⟩]), s ≤ e.time := by
    intro e he
    rcases List.mem_cons.mp he with rfl | he
    · exact le_rfl
    · exact hlater e he
  have hlast : ∀ e ∈ ⟨.allow ip, s⟩ :: (between ++ [⟨.allow ip, t⟩]), e.time ≤ t := by
    intro e he
    rcases List.mem_cons.mp he with rfl | he
    · exact hst
    · rcases List.mem_append.mp he with he | he
      · exact hcross e he _ (List.mem_singleton_self _)
      · rw [List.mem_singleton.mp he]
  have hrun := admitted_add_tokensAt_run_le hrate hip hstay hwindow hfirst hlast hst
  obtain ⟨hr, hcap⟩ := hstay _ (List.prefix_refl _)
  have hend := (run_nonneg (run_nonneg (new_nonneg rate₀ burst₀) before) _).tokensAt
    (hr.symm ▸ hrate.le) ip t
  have hstart := ((new rate₀ burst₀).run before).tokensAt_le ip s
  rw [show ((new rate₀ burst₀).run before).capacity = burst from
    (hstay [] List.nil_prefix).2] at hstart
  linarith

theorem rate_cap_after_set_limit :
    ((admittedTimes (.v4 ⟨203, 0, 113, 5⟩) (((new 0 9).run [⟨.setLimit 1 1, 0⟩]).calls
      [⟨.allow (.v4 ⟨203, 0, 113, 5⟩), 0⟩, ⟨.allow (.v4 ⟨203, 0, 113, 5⟩), 2⟩])).length : ℚ) ≤
        (1 : ℕ) + 1 * (2 - 0) ∧
    ∀ es, ((new 0 9).run es).Nonneg :=
  rate_cap 0 9 [⟨.setLimit 1 1, 0⟩] [] (by decide)
    (by simp [Chronological]) (by norm_num) (LimitsStay.of_fixed (by simp [FixedLimits]) rfl rfl)

end RateLimiter

end Reprox.Limits
