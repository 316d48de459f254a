import Reprox.Limits.RateLimiter
import Reprox.Server.Accounting

/-!
# How fast an address gets connections served

The rate limiter is asked before a connection is handed to a task, and nothing
hands one over without asking. A connection that is served has therefore spent a
token, and the connections of an address that are served over a stretch of a run
are bounded by the tokens there were and those that accrued.
-/

namespace Reprox.Server

open Foundations Net Config Tls Routing Limits Metrics

def clockReading : FrontEvent → Option ℚ
  | .main (.loop (.checkRate now)) => some now
  | .main (.sweep now) => some now
  | _ => none

def LoopPoint.carries (p : LoopPoint) (ip : IpAddr) : Bool :=
  match p with
  | .rateAllowed peer => peer.ip = ip
  | .spawning ipSlot => ipSlot.addr = ip
  | _ => false

namespace Front

/-- The connections of an address that a task was spawned for, finished ones included. -/
def served (front : Front) (ip : IpAddr) : ℕ := front.tasks.countP fun t => t.ipSlot.addr = ip

def passed (front : Front) (ip : IpAddr) : ℕ :=
  (if front.shared.loop.carries ip then 1 else 0) + front.served ip

variable {tls : Provider} {front next : Front} {e : FrontEvent}

theorem served_set {i : ℕ} {t t' : ConnTask} (ht : front.tasks[i]? = some t)
    (hslot : t'.ipSlot = t.ipSlot) (s : Shared) (ip : IpAddr) :
    served ⟨front.tasks.set i t', s⟩ ip = front.served ip := by
  obtain ⟨hi, rfl⟩ := List.getElem?_eq_some_iff.mp ht
  have hmem : (if decide (front.tasks[i].ipSlot.addr = ip) then 1 else 0) ≤
      front.tasks.countP fun t => decide (t.ipSlot.addr = ip) := by
    split_ifs with h
    · exact List.countP_pos_iff.mpr ⟨_, List.getElem_mem hi, h⟩
    · exact Nat.zero_le _
  simp only [served, List.countP_set hi, hslot]
  omega

theorem taskStep_ipSlot {t t' : ConnTask} {s s' : Shared} {e : TaskEvent}
    (h : taskStep tls t s e = some (t', s')) :
    t'.ipSlot = t.ipSlot ∧ s'.loop = s.loop ∧ s'.rateLimiter = s.rateLimiter := by
  rcases taskStep_cases h with ⟨-, rfl, rfl⟩ | ⟨-, rfl, rfl⟩ | ⟨-, rfl, rfl⟩ | ⟨-, rfl, rfl⟩ |
    ⟨q, st, -, rfl, rfl⟩
  all_goals exact ⟨rfl, rfl, rfl⟩

/-- What was let through and the tokens left do not grow together, at the time
the step reads or at any time if it reads none. -/
def Spends (front next : Front) (ip : IpAddr) (now : ℚ) : Prop :=
  (next.passed ip : ℚ) + next.shared.rateLimiter.tokensAt ip now ≤
    front.passed ip + front.shared.rateLimiter.tokensAt ip now

theorem Spends.of_eq {ip : IpAddr} {now : ℚ} (hpassed : next.passed ip ≤ front.passed ip)
    (hlimiter : next.shared.rateLimiter = front.shared.rateLimiter) :
    front.Spends next ip now := by
  unfold Spends
  rw [hlimiter]
  have hcast : (next.passed ip : ℚ) ≤ front.passed ip := by exact_mod_cast hpassed
  linarith

theorem passed_loop_le {s : Shared} {ip : IpAddr}
    (h : s.loop.carries ip = true → front.shared.loop.carries ip = true) :
    passed ⟨front.tasks ++ (none : Option ConnTask).toList, s⟩ ip ≤ front.passed ip := by
  simp only [passed, served, Option.toList_none, List.append_nil]
  split_ifs with hnow hbefore
  · exact le_rfl
  · exact absurd (h hnow) hbefore
  · omega
  · exact le_rfl

theorem admittedTimes_answer_allow (l : RateLimiter) (ip other : IpAddr) (now : ℚ) :
    (admittedTimes ip (l.answer ⟨.allow other, now⟩)).length =
      if other = ip ∧ (l.allow other now).1 = true then 1 else 0 := by
  simp only [admittedTimes, RateLimiter.answer, List.length_map]
  split_ifs with h
  · obtain ⟨rfl, hallow⟩ := h
    simp [hallow]
  · rw [List.filter_cons_of_neg (by simpa using h)]
    rfl

theorem spends_checkRate {peer : SocketAddr} {now : ℚ} {s : Shared} {ip : IpAddr}
    (hl : front.shared.loop = .accepted peer) (hrate : 0 < front.shared.rateLimiter.refillPerSec)
    (hip : ip.isLoopback = false)
    (hlimiter : s.rateLimiter = (front.shared.rateLimiter.allow peer.ip now).2)
    (hcarries : s.loop.carries ip = true →
      peer.ip = ip ∧ (front.shared.rateLimiter.allow peer.ip now).1 = true) :
    front.Spends ⟨front.tasks ++ (none : Option ConnTask).toList, s⟩ ip now := by
  obtain ⟨hcap, hrefill⟩ := front.shared.rateLimiter.allow_limits peer.ip now
  have hspend := RateLimiter.admitted_add_tokensAt_le hrate hip
    (show (front.shared.rateLimiter.apply ⟨.allow peer.ip, now⟩).refillPerSec = _ from hrefill)
    (show (front.shared.rateLimiter.apply ⟨.allow peer.ip, now⟩).capacity = _ from hcap)
  have hbefore : front.shared.loop.carries ip = false := by rw [hl]; rfl
  rw [admittedTimes_answer_allow] at hspend
  simp only [RateLimiter.apply] at hspend
  simp only [Spends, passed, served, hlimiter, hbefore, Option.toList_none, List.append_nil,
    Bool.false_eq_true, if_false, zero_add, Nat.cast_add]
  by_cases hnow : s.loop.carries ip = true
  · rw [if_pos hnow]
    rw [if_pos (hcarries hnow)] at hspend
    linarith
  · rw [if_neg hnow]
    have hlength : (0 : ℚ) ≤ ((if peer.ip = ip ∧
        (front.shared.rateLimiter.allow peer.ip now).1 = true then 1 else 0 : ℕ) : ℚ) :=
      Nat.cast_nonneg _
    push_cast
    linarith

/-- The step lemma. -/
theorem spends_step (hstep : front.step tls e = some next)
    (hrate : 0 < front.shared.rateLimiter.refillPerSec)
    (hfixed : ∀ rate burst, e ≠ .main (.setRateLimit rate burst)) {ip : IpAddr}
    (hip : ip.isLoopback = false) (now : ℚ) (hnow : ∀ t, clockReading e = some t → t = now) :
    front.Spends next ip now ∧
      next.shared.rateLimiter.refillPerSec = front.shared.rateLimiter.refillPerSec ∧
        next.shared.rateLimiter.capacity = front.shared.rateLimiter.capacity := by
  cases e with
  | task i e =>
    obtain ⟨t, t', s, ht, hact, rfl⟩ := Pool.fire_eq_some.mp hstep
    obtain ⟨hslot, hloop, hlimiter⟩ := taskStep_ipSlot hact
    refine ⟨.of_eq ?_ hlimiter, by rw [hlimiter], by rw [hlimiter]⟩
    rw [passed, served_set ht hslot, passed, hloop]
  | main n =>
    obtain ⟨s, t, hmain, rfl⟩ := Pool.advance_eq_some.mp hstep
    cases n with
    | loop n =>
      cases Shared.loopStep_inv hmain with
      | @rateAllowed peer clock hl hallow =>
        have hclock := hnow clock rfl
        subst hclock
        obtain ⟨hcap, hrefill⟩ := front.shared.rateLimiter.allow_limits peer.ip clock
        refine ⟨spends_checkRate hl hrate hip rfl fun h => ⟨?_, hallow⟩, hrefill, hcap⟩
        simpa [LoopPoint.carries] using h
      | @rateRejected peer clock hl hallow =>
        have hclock := hnow clock rfl
        subst hclock
        obtain ⟨hcap, hrefill⟩ := front.shared.rateLimiter.allow_limits peer.ip clock
        exact ⟨spends_checkRate hl hrate hip rfl (fun h => by cases h), hrefill, hcap⟩
      | @ipAllowed peer ipSlot hl hacq =>
        have hslot := (tryAcquireSlot_some _ _
          (show front.shared.ipLimiter.tryAcquireSlot peer.ip = (some ipSlot, _) from
            Prod.ext hacq rfl)).1
        refine ⟨.of_eq (passed_loop_le fun h => ?_) rfl, rfl, rfl⟩
        rw [hl]
        rw [hslot] at h
        exact h
      | @spawn ipSlot hl =>
        refine ⟨.of_eq ?_ rfl, rfl, rfl⟩
        simp [passed, served, hl, LoopPoint.carries, List.countP_append, List.countP_singleton,
          add_comm]
      | @releasePermit reason hl =>
        refine ⟨.of_eq (passed_loop_le fun h => ?_) rfl, rfl, rfl⟩
        cases reason <;> cases h
      | _ => exact ⟨.of_eq (passed_loop_le fun h => by cases h) rfl, rfl, rfl⟩
    | sweep clock =>
      cases hmain
      have hclock := hnow clock rfl
      subst hclock
      have hspend := RateLimiter.admitted_add_tokensAt_le hrate hip (e := ⟨.sweep, clock⟩) rfl rfl
      refine ⟨?_, rfl, rfl⟩
      have hzero : (admittedTimes ip (front.shared.rateLimiter.answer ⟨.sweep, clock⟩)).length = 0 :=
        rfl
      rw [hzero] at hspend
      simpa [Spends, passed, served, RateLimiter.apply] using hspend
    | setRateLimit rate burst => exact absurd rfl (hfixed rate burst)
    | _ =>
      cases hmain
      exact ⟨.of_eq (@passed_loop_le front _ _ fun h => h) rfl, rfl, rfl⟩

/-- The run lemma: over a stretch the connections let through are paid for by the
tokens there were at its start and those that accrued. -/
theorem spends_run {rate : ℚ} (hrate : 0 < rate) {ip : IpAddr} (hip : ip.isLoopback = false)
    {es : List FrontEvent} {s t : ℚ} (hlimit : front.shared.rateLimiter.refillPerSec = rate)
    (hfixed : ∀ rate burst, .main (.setRateLimit rate burst) ∉ es)
    (hclock : (es.filterMap clockReading).Pairwise (· ≤ ·))
    (hfirst : ∀ now ∈ es.filterMap clockReading, s ≤ now)
    (hlast : ∀ now ∈ es.filterMap clockReading, now ≤ t) (hst : s ≤ t)
    (run : exec (step tls) front es = some next) :
    (next.passed ip : ℚ) + next.shared.rateLimiter.tokensAt ip t ≤
      front.passed ip + front.shared.rateLimiter.tokensAt ip s + rate * (t - s) ∧
    next.shared.rateLimiter.refillPerSec = rate := by
  induction es generalizing front s with
  | nil =>
    cases run
    have hgrow := next.shared.rateLimiter.tokensAt_le_add (hlimit.symm ▸ hrate.le) ip hst
    rw [hlimit] at hgrow
    exact ⟨by linarith, hlimit⟩
  | cons e es ih =>
    obtain ⟨mid, hstep, hrest⟩ := exec_cons_eq_some.mp run
    have hne : ∀ rate burst, e ≠ .main (.setRateLimit rate burst) := by
      rintro r b rfl
      exact hfixed r b List.mem_cons_self
    have hlater : ∀ rate burst, .main (.setRateLimit rate burst) ∉ es :=
      fun r b hmem => hfixed r b (List.mem_cons_of_mem _ hmem)
    cases hreading : clockReading e with
    | none =>
      rw [List.filterMap_cons_none hreading] at hclock hfirst hlast
      obtain ⟨hspend, hrefill, -⟩ := spends_step hstep (hlimit.symm ▸ hrate) hne hip s
        (by rw [hreading]; simp)
      obtain ⟨htail, hend⟩ := ih (hrefill.trans hlimit) hlater hclock hfirst hlast hst hrest
      unfold Spends at hspend
      exact ⟨by linarith, hend⟩
    | some now =>
      rw [List.filterMap_cons_some hreading] at hclock hfirst hlast
      obtain ⟨hafter, hclock⟩ := List.pairwise_cons.mp hclock
      have hsnow : s ≤ now := hfirst now List.mem_cons_self
      obtain ⟨hspend, hrefill, -⟩ := spends_step hstep (hlimit.symm ▸ hrate) hne hip now
        (by rw [hreading]; intro t ht; exact (Option.some.inj ht).symm)
      obtain ⟨htail, hend⟩ := ih (hrefill.trans hlimit) hlater hclock hafter
        (fun t' ht' => hlast t' (List.mem_cons_of_mem _ ht')) (hlast now List.mem_cons_self) hrest
      have hgrow := front.shared.rateLimiter.tokensAt_le_add (hlimit.symm ▸ hrate.le) ip hsnow
      rw [hlimit] at hgrow
      unfold Spends at hspend
      exact ⟨by linarith, hend⟩

theorem nonneg_step (hnonneg : front.shared.rateLimiter.Nonneg)
    (hstep : front.step tls e = some next) : next.shared.rateLimiter.Nonneg := by
  cases e with
  | task i e =>
    obtain ⟨t, t', s, ht, hact, rfl⟩ := Pool.fire_eq_some.mp hstep
    exact (taskStep_ipSlot hact).2.2 ▸ hnonneg
  | main n =>
    obtain ⟨s, t, hmain, rfl⟩ := Pool.advance_eq_some.mp hstep
    cases n with
    | loop n =>
      cases Shared.loopStep_inv hmain with
      | @rateAllowed peer clock hl hallow => exact hnonneg.apply ⟨.allow peer.ip, clock⟩
      | @rateRejected peer clock hl hallow => exact hnonneg.apply ⟨.allow peer.ip, clock⟩
      | _ => exact hnonneg
    | sweep clock =>
      cases hmain
      exact hnonneg.apply ⟨.sweep, clock⟩
    | _ =>
      cases hmain
      exact hnonneg

/-- Over any stretch of a run in which the rate stays in force, no address gets
more connections served than the loop already carried for it, the burst, and
what the rate accrues over the time between the stretch's clock readings. -/
theorem served_within_rate {permits maxPerIp : Usize} {rate₀ : ℚ} {burst₀ : ℕ} {state : RouterState}
    {before es : List FrontEvent}
    (run₀ : exec (step tls) (start permits maxPerIp rate₀ burst₀ state) before = some front)
    (run : exec (step tls) front es = some next)
    (hrate : 0 < front.shared.rateLimiter.refillPerSec)
    (hfixed : ∀ rate burst, .main (.setRateLimit rate burst) ∉ es) {ip : IpAddr}
    (hip : ip.isLoopback = false) {s t : ℚ} (hst : s ≤ t)
    (hclock : (es.filterMap clockReading).Pairwise (· ≤ ·))
    (hwithin : ∀ now ∈ es.filterMap clockReading, s ≤ now ∧ now ≤ t) :
    (next.served ip : ℚ) ≤ front.passed ip + front.shared.rateLimiter.capacity +
      front.shared.rateLimiter.refillPerSec * (t - s) := by
  obtain ⟨hspent, hrefill⟩ := spends_run hrate hip rfl hfixed hclock (fun now h => (hwithin now h).1)
    (fun now h => (hwithin now h).2) hst run
  have hnonneg : next.shared.rateLimiter.Nonneg := by
    have hall := exec_append_eq_some.mpr ⟨front, run₀, run⟩
    exact exec_invariant (I := fun front : Front => front.shared.rateLimiter.Nonneg)
      (RateLimiter.new_nonneg rate₀ burst₀) (fun _ _ _ h hstep => nonneg_step h hstep) hall
  have hleft := hnonneg.tokensAt (hrefill.symm ▸ hrate.le) ip t
  have hthere := front.shared.rateLimiter.tokensAt_le ip s
  have hserved : (next.served ip : ℚ) ≤ next.passed ip := by
    exact_mod_cast Nat.le_add_left _ _
  linarith

/-- A visitor comes and goes, and two seconds later the limiter is swept. -/
def visitThenSweep : List FrontEvent :=
  visit (.v4 ⟨203, 0, 113, 5⟩ 50000) ++ [.main (.sweep 2)]

theorem served_within_rate_visit :
    ∃ front, exec (step .accepting) (start 2 0 1 1 minimal.shared.router) visitThenSweep =
        some front ∧
      (front.served (.v4 ⟨203, 0, 113, 5⟩) : ℚ) ≤
        (start 2 0 1 1 minimal.shared.router).passed (.v4 ⟨203, 0, 113, 5⟩) + (1 : ℕ) +
          1 * (2 - 0) := by
  have hrun : (exec (step .accepting) (start 2 0 1 1 minimal.shared.router) visitThenSweep).isSome := by
    decide +kernel
  obtain ⟨front, hrun⟩ := Option.isSome_iff_exists.mp hrun
  have hstart : exec (step .accepting) (start 2 0 1 1 minimal.shared.router) [] = some _ := rfl
  have hreadings : visitThenSweep.filterMap clockReading = [0, 2] := rfl
  refine ⟨front, hrun, ?_⟩
  exact served_within_rate hstart hrun (by norm_num [start, RateLimiter.new])
    (by simp [visitThenSweep, visit]) (by decide) (by norm_num) (by rw [hreadings]; norm_num)
    (by rw [hreadings]; norm_num)

end Front

end Reprox.Server
