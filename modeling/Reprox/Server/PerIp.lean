import Reprox.Limits.IpLimiter
import Reprox.Server.Accounting

/-!
# The per-IP limiter inside the server

The accept loop takes a per-IP slot, hands it to the task it spawns, and the task
drops it on its way out. No slot is taken, kept or dropped anywhere else, so
every run of the server is a run of the limiter whose live slots are the ones
that the loop and the tasks hold, and what is known of the limiter's runs is
known of the server.
-/

namespace Reprox.Server

open Foundations Net Config Tls Routing Limits Metrics

def LoopPoint.holds (p : LoopPoint) (ip : IpAddr) : Bool :=
  match p with
  | .spawning ipSlot => ipSlot.addr = ip
  | _ => false

/-- The task has not dropped its per-IP slot yet. -/
def TaskPoint.holdsIpSlot : TaskPoint → Bool
  | .ipSlotDropped | .decremented | .done => false
  | _ => true

def ConnTask.holds (t : ConnTask) (ip : IpAddr) : Bool := t.point.holdsIpSlot && t.ipSlot.addr = ip

def Front.held (front : Front) (ip : IpAddr) : ℕ :=
  (if front.shared.loop.holds ip then 1 else 0) + front.tasks.countP fun t => t.holds ip

/-! ## The server runs the limiter -/

/-- The run of the limiter is where the server's limiter is, with a live slot
for each one held. -/
structure SharesSlots (front : Front) (r : LimiterRun) : Prop where
  limiter : r.limiter = front.shared.ipLimiter
  live : ∀ ip, r.liveCount ip = front.held ip

/-- The operations of the limiter that an event of the server stands for. -/
def AnsweredBy : FrontEvent → List LimiterOp → Prop
  | .main (.loop .checkIp), ops => ∃ addr, ops = [.acquire addr]
  | .main (.setIpLimit maxPerIp), ops => ops = [.setLimit maxPerIp]
  | .main _, ops => ops = []
  | .task _ _, ops => ops = [] ∨ ∃ i, ops = [.drop i]

theorem advanceStats_holds {tls : Provider} {p q : TaskPoint} {st st' : Stats} {e : TaskEvent}
    (h : advanceStats tls p st e = some (q, st')) :
    p.holdsIpSlot = true ∧ q.holdsIpSlot = true := by
  cases advanceStats_inv h <;> exact ⟨rfl, rfl⟩

theorem taskStep_holds {tls : Provider} {t t' : ConnTask} {s s' : Shared} {e : TaskEvent}
    (h : taskStep tls t s e = some (t', s')) :
    s'.loop = s.loop ∧ ((s'.ipLimiter = s.ipLimiter ∧ ∀ ip, t'.holds ip = t.holds ip) ∨
      (s'.ipLimiter = t.ipSlot.drop s.ipLimiter ∧
        ∀ ip, t.holds ip = decide (t.ipSlot.addr = ip) ∧ t'.holds ip = false)) := by
  rcases taskStep_cases h with ⟨hp, rfl, rfl⟩ | ⟨hp, rfl, rfl⟩ | ⟨hp, rfl, rfl⟩ | ⟨hp, rfl, rfl⟩ |
    ⟨q, st, hadvance, rfl, rfl⟩
  · exact ⟨rfl, Or.inl ⟨rfl, by simp [ConnTask.holds, hp, TaskPoint.holdsIpSlot]⟩⟩
  · exact ⟨rfl, Or.inr ⟨rfl, by simp [ConnTask.holds, hp, TaskPoint.holdsIpSlot]⟩⟩
  · exact ⟨rfl, Or.inl ⟨rfl, by simp [ConnTask.holds, hp, TaskPoint.holdsIpSlot]⟩⟩
  · exact ⟨rfl, Or.inl ⟨rfl, by simp [ConnTask.holds, hp, TaskPoint.holdsIpSlot]⟩⟩
  · obtain ⟨hheld, hstill⟩ := advanceStats_holds hadvance
    exact ⟨rfl, Or.inl ⟨rfl, by simp [ConnTask.holds, hheld, hstill]⟩⟩

namespace Front

theorem held_set {front : Front} {i : ℕ} {t : ConnTask} (ht : front.tasks[i]? = some t)
    (t' : ConnTask) {s : Shared} (hs : s.loop = front.shared.loop) (ip : IpAddr) :
    held ⟨front.tasks.set i t', s⟩ ip + (if t.holds ip then 1 else 0) =
      front.held ip + (if t'.holds ip then 1 else 0) := by
  obtain ⟨hi, rfl⟩ := List.getElem?_eq_some_iff.mp ht
  have hmem : (if front.tasks[i].holds ip then 1 else 0) ≤
      front.tasks.countP fun t => t.holds ip := by
    split_ifs with h
    · exact List.countP_pos_iff.mpr ⟨_, List.getElem_mem hi, h⟩
    · exact Nat.zero_le _
  simp only [held, hs, List.countP_set hi]
  omega

theorem held_loop {front : Front} {s : Shared} (h : ∀ ip, s.loop.holds ip = front.shared.loop.holds ip)
    (ip : IpAddr) : held ⟨front.tasks ++ (none : Option ConnTask).toList, s⟩ ip = front.held ip := by
  simp [held, h ip]

theorem loopStep_answered {front : Front} {r : LimiterRun} (hr : SharesSlots front r) {s : Shared}
    {e : LoopEvent} {t : Option ConnTask} (h : front.shared.loopStep e = some (s, t)) :
    ∃ ops r', AnsweredBy (.main (.loop e)) ops ∧ exec LimiterRun.step r ops = some r' ∧
      SharesSlots ⟨front.tasks ++ t.toList, s⟩ r' := by
  obtain ⟨hlimiter, hlive⟩ := hr
  cases Shared.loopStep_inv h with
  | @ipAllowed peer ipSlot hl hacq =>
    have hcall : r.limiter.tryAcquireSlot peer.ip =
        (some ipSlot, (front.shared.ipLimiter.tryAcquireSlot peer.ip).2) := by
      rw [hlimiter]
      exact Prod.ext hacq rfl
    refine ⟨[.acquire peer.ip], ⟨(front.shared.ipLimiter.tryAcquireSlot peer.ip).2,
      r.live ++ [⟨ipSlot, r.limiter.maxPerIp != 0⟩]⟩, ⟨_, rfl⟩, ?_, rfl, fun ip => ?_⟩
    · simp [exec_cons, LimiterRun.step, hcall]
    · rw [LimiterRun.liveCount_concat, hlive ip]
      simp [held, hl, LoopPoint.holds, add_comm]
  | @ipRejected peer hl hacq =>
    have hcall : r.limiter.tryAcquireSlot peer.ip =
        (none, (front.shared.ipLimiter.tryAcquireSlot peer.ip).2) := by
      rw [hlimiter]
      exact Prod.ext hacq rfl
    refine ⟨[.acquire peer.ip], ⟨(front.shared.ipLimiter.tryAcquireSlot peer.ip).2, r.live⟩,
      ⟨_, rfl⟩, ?_, rfl, fun ip => ?_⟩
    · simp [exec_cons, LimiterRun.step, hcall]
    · rw [held_loop (by simp [hl, LoopPoint.holds])]
      exact hlive ip
  | @spawn ipSlot hl =>
    refine ⟨[], r, rfl, rfl, hlimiter, fun ip => ?_⟩
    rw [hlive ip]
    simp [held, hl, LoopPoint.holds, ConnTask.holds, TaskPoint.holdsIpSlot, List.countP_append,
      List.countP_singleton, add_comm]
  | @releasePermit reason hl =>
    refine ⟨[], r, rfl, rfl, hlimiter, fun ip => ?_⟩
    rw [held_loop (by cases reason <;> simp [hl, LoopPoint.holds, DropReason.next])]
    exact hlive ip
  | _ =>
    refine ⟨[], r, rfl, rfl, hlimiter, fun ip => ?_⟩
    rw [held_loop (by simp [LoopPoint.holds, *])]
    exact hlive ip

theorem taskStep_answered {tls : Provider} {front : Front} {r : LimiterRun}
    (hr : SharesSlots front r) {i : ℕ} {t t' : ConnTask} {s : Shared} {e : TaskEvent}
    (ht : front.tasks[i]? = some t) (h : taskStep tls t front.shared e = some (t', s)) :
    ∃ ops r', AnsweredBy (.task i e) ops ∧ exec LimiterRun.step r ops = some r' ∧
      SharesSlots ⟨front.tasks.set i t', s⟩ r' := by
  obtain ⟨hlimiter, hlive⟩ := hr
  obtain ⟨hloop, ⟨hsame, hholds⟩ | ⟨hdrop, hholds⟩⟩ := taskStep_holds h
  · refine ⟨[], r, Or.inl rfl, rfl, hlimiter.trans hsame.symm, fun ip => ?_⟩
    have hheld := held_set ht t' hloop ip
    rw [hholds ip] at hheld
    rw [hlive ip]
    exact (Nat.add_right_cancel hheld).symm
  · have hpos : 0 < r.liveCount t.ipSlot.addr := by
      have hheld := held_set ht t' hloop t.ipSlot.addr
      rw [(hholds _).1, (hholds _).2] at hheld
      simp only [decide_true, if_true, Bool.false_eq_true, if_false] at hheld
      rw [hlive]
      omega
    obtain ⟨live, hmem, haddr⟩ := List.countP_pos_iff.mp hpos
    obtain ⟨j, hj⟩ := List.getElem?_of_mem hmem
    have hslot : live.slot = t.ipSlot := by
      have haddr : live.slot.addr = t.ipSlot.addr := by simpa using haddr
      cases hlive : live.slot
      cases hown : t.ipSlot
      rw [hlive, hown] at haddr
      exact congrArg IpSlot.mk haddr
    refine ⟨[.drop j], ⟨t.ipSlot.drop r.limiter, r.live.eraseIdx j⟩, Or.inr ⟨j, rfl⟩, ?_, ?_,
      fun ip => ?_⟩
    · simp [exec_cons, LimiterRun.step, hj, hslot]
    · rw [hdrop, hlimiter]
    · have hheld := held_set ht t' hloop ip
      have hcount := LimiterRun.liveCount_eraseIdx r (t.ipSlot.drop r.limiter) hj ip
      rw [(hholds ip).1, (hholds ip).2] at hheld
      rw [hslot, hlive ip] at hcount
      simp only [decide_eq_true_eq, Bool.false_eq_true, if_false, Nat.add_zero] at hheld
      omega

/-- The simulation: the limiter's runs answer the server's. -/
theorem simulates_limiter (tls : Provider) :
    Simulates (step tls) LimiterRun.step SharesSlots AnsweredBy := by
  intro front r e next hr hstep
  cases e with
  | main n =>
    obtain ⟨s, t, hmain, rfl⟩ := Pool.advance_eq_some.mp hstep
    cases n with
    | loop n => exact loopStep_answered hr hmain
    | setIpLimit maxPerIp =>
      cases hmain
      refine ⟨[.setLimit maxPerIp], _, rfl, rfl, ?_, fun ip => ?_⟩
      · rw [hr.limiter]
      · exact (hr.live ip).trans (@held_loop front _ (fun _ => rfl) ip).symm
    | _ =>
      cases hmain
      exact ⟨[], r, rfl, rfl, hr.limiter,
        fun ip => (hr.live ip).trans (@held_loop front _ (fun _ => rfl) ip).symm⟩
  | task i e =>
    obtain ⟨t, t', s, ht, hact, rfl⟩ := Pool.fire_eq_some.mp hstep
    exact taskStep_answered hr ht hact

theorem sharesSlots_start (permits maxPerIp : Usize) (ratePerSec : ℚ) (burst : ℕ)
    (state : RouterState) :
    SharesSlots (start permits maxPerIp ratePerSec burst state) (.new maxPerIp) where
  limiter := rfl
  live _ := rfl

/-! ## What is known of the limiter is known of the server -/

theorem held_of_quiet {front : Front} (hquiet : front.Quiet) (ip : IpAddr) :
    front.held ip = if front.shared.loop.holds ip then 1 else 0 := by
  have htasks : front.tasks.countP (fun t => t.holds ip) = 0 := by
    rw [List.countP_eq_zero]
    intro t ht
    simp [ConnTask.holds, hquiet t ht, TaskPoint.holdsIpSlot]
  rw [held, htasks, add_zero]

theorem held_eq_zero {front : Front} (hquiet : front.Quiet)
    (hloop : ∀ ipSlot, front.shared.loop ≠ .spawning ipSlot) (ip : IpAddr) : front.held ip = 0 := by
  rw [held_of_quiet hquiet]
  cases hl : front.shared.loop with
  | spawning ipSlot => exact absurd hl (hloop ipSlot)
  | _ => rfl

variable {tls : Provider} {permits maxPerIp : Usize} {ratePerSec : ℚ} {burst : ℕ}
  {state : RouterState} {es : List FrontEvent} {front : Front}

theorem not_clone_of_answeredBy {e : FrontEvent} {ops : List LimiterOp} (h : AnsweredBy e ops) :
    ∀ op ∈ ops, (∀ i, op ≠ .clone i) ∧
      ∀ n, op = .setLimit n → e = .main (.setIpLimit n) := by
  intro op hop
  unfold AnsweredBy at h
  split at h
  · obtain ⟨addr, rfl⟩ := h
    cases List.mem_singleton.mp hop
    exact ⟨fun _ => by simp, fun _ h => by cases h⟩
  · subst h
    cases List.mem_singleton.mp hop
    exact ⟨fun _ => by simp, fun _ h => by cases h; rfl⟩
  · subst h
    cases hop
  · rcases h with rfl | ⟨i, rfl⟩
    · cases hop
    · cases List.mem_singleton.mp hop
      exact ⟨fun _ => by simp, fun _ h => by cases h⟩

theorem entry_le_held
    (run : exec (step tls) (start permits maxPerIp ratePerSec burst state) es = some front)
    {ip : IpAddr} {n : Usize} (hn : front.shared.ipLimiter.slots.get? ip = some n) :
    ip.isLoopback = false ∧ 1 ≤ n.toNat ∧ n.toNat ≤ front.held ip := by
  obtain ⟨r, ⟨hlimiter, hlive⟩, hbounded⟩ := (simulates_limiter tls).invariant
    (I := LimiterRun.Bounded) (C := fun _ => True)
    (fun r op r' hr _ h => LimiterRun.step_bounded r op r' hr h)
    (sharesSlots_start permits maxPerIp ratePerSec burst state) (LimiterRun.bounded_new maxPerIp)
    (fun _ _ _ _ _ _ => trivial) run
  rw [← hlimiter] at hn
  have hcount : r.limiter.count ip = n.toNat := by simp [IpLimiter.count, hn]
  refine ⟨?_, hbounded.positive ip n hn, ?_⟩
  · by_contra hloop
    rw [hbounded.no_loopback ip (by simpa using hloop)] at hn
    cases hn
  · rw [← hcount, ← hlive ip]
    exact hbounded.count_le ip

/-- Whatever limits are set, an entry of the table stands for at least one
connection and never for more than there are, and once the last connection is
gone the table is empty. -/
theorem ip_table_never_leaks
    (run : exec (step tls) (start permits maxPerIp ratePerSec burst state) es = some front) :
    (∀ ip n, front.shared.ipLimiter.slots.get? ip = some n →
      ip.isLoopback = false ∧ 1 ≤ n.toNat ∧ n.toNat ≤ front.held ip) ∧
    (front.Quiet → (∀ ipSlot, front.shared.loop ≠ .spawning ipSlot) →
      ∀ ip, front.shared.ipLimiter.slots.get? ip = none) := by
  refine ⟨fun ip n hn => entry_le_held run hn, fun hquiet hloop ip => ?_⟩
  by_contra hsome
  obtain ⟨n, hn⟩ := Option.ne_none_iff_exists'.mp hsome
  obtain ⟨-, hone, hle⟩ := entry_le_held run hn
  rw [held_eq_zero hquiet hloop ip] at hle
  omega

/-- A visitor comes under a limit of two, which is switched off while it is served. -/
def visitAcrossReload : List FrontEvent :=
  let visitor := visit (.v4 ⟨203, 0, 113, 5⟩ 50000)
  visitor.take 10 ++ .main (.setIpLimit 0) :: visitor.drop 10

theorem ip_table_never_leaks_visit :
    ∃ during front, exec (step .accepting) (start 1 2 0 10 minimal.shared.router)
        (visitAcrossReload.take 11) = some during ∧
      during.shared.ipLimiter.slots.get? (.v4 ⟨203, 0, 113, 5⟩) = some 1 ∧
      exec (step .accepting) (start 1 2 0 10 minimal.shared.router) visitAcrossReload =
        some front ∧ front.Quiet ∧
      (∀ ip n, front.shared.ipLimiter.slots.get? ip = some n →
        ip.isLoopback = false ∧ 1 ≤ n.toNat ∧ n.toNat ≤ front.held ip) ∧
      ∀ ip, front.shared.ipLimiter.slots.get? ip = none := by
  have hcomes : ∃ during ∈ exec (step .accepting) (start 1 2 0 10 minimal.shared.router)
      (visitAcrossReload.take 11),
      during.shared.ipLimiter.slots.get? (.v4 ⟨203, 0, 113, 5⟩) = some 1 := by decide +kernel
  have hgoes : ∃ front ∈ exec (step .accepting) (start 1 2 0 10 minimal.shared.router)
      visitAcrossReload, front.Quiet ∧ front.shared.loop = .acquiring := by decide +kernel
  obtain ⟨during, before, hentry⟩ := hcomes
  obtain ⟨front, run, hquiet, hloop⟩ := hgoes
  have h := ip_table_never_leaks run
  exact ⟨during, front, before, hentry, run, hquiet, h.1, h.2 hquiet (by simp [hloop])⟩

/-! ## With the limit always in force -/

structure Capped (bound : ℕ) (r : LimiterRun) : Prop where
  census : r.Census
  enabled : r.Enabled
  limit_le : r.limiter.maxPerIp.toNat ≤ bound
  live_le : ∀ ip, ip.isLoopback = false → r.liveCount ip ≤ bound

def KeepsBelow (bound : ℕ) (op : LimiterOp) : Prop :=
  LimiterRun.StaysEnabled op ∧ ∀ n, op = .setLimit n → n.toNat ≤ bound

/-- A slot is only handed out below the limit. -/
theorem step_capped {bound : ℕ} {r r' : LimiterRun} {op : LimiterOp} (hr : Capped bound r)
    (hop : KeepsBelow bound op) (h : r.step op = some r') : Capped bound r' := by
  have hcensus := LimiterRun.step_census r op r' hr.census (hr.enabled.not_strayDrop op) h
  have henabled := LimiterRun.step_enabled hr.enabled hop.1 h
  refine ⟨hcensus, henabled, ?_, ?_⟩
  · rcases LimiterRun.step_cases h with ⟨addr, limiter, -, hacq, rfl⟩ |
      ⟨addr, slot, limiter, -, hacq, rfl⟩ | ⟨i, s, -, -, rfl⟩ | ⟨i, s, -, -, rfl⟩ | ⟨n, rfl, rfl⟩
    · have hsame := tryAcquireSlot_maxPerIp r.limiter addr
      rw [hacq] at hsame
      exact hsame ▸ hr.limit_le
    · have hsame := tryAcquireSlot_maxPerIp r.limiter addr
      rw [hacq] at hsame
      exact hsame ▸ hr.limit_le
    · exact hr.limit_le
    · rw [drop_maxPerIp]
      exact hr.limit_le
    · exact hop.2 n rfl
  · intro ip hip
    have hle := hr.live_le ip hip
    rcases LimiterRun.step_cases h with ⟨addr, limiter, -, hacq, rfl⟩ |
      ⟨addr, slot, limiter, rfl, hacq, rfl⟩ | ⟨i, s, rfl, -, rfl⟩ | ⟨i, s, -, hs, rfl⟩ | ⟨n, -, rfl⟩
    · exact hle
    · have hslot := (tryAcquireSlot_some _ _ hacq).1
      rw [LimiterRun.liveCount_concat, hslot]
      split_ifs with he
      · have hsome : (r.limiter.tryAcquireSlot addr).1.isSome := by rw [hacq]; rfl
        have hbelow := ((hr.census.exact hr.enabled).acquire_iff addr).mp hsome
        rw [show addr = ip from he, hip] at hbelow
        simp only [Bool.false_eq_true, false_or] at hbelow
        have hlimit := hr.limit_le
        omega
      · exact hle
    · exact absurd hop.1 (by simp [LimiterRun.StaysEnabled])
    · have hcount := LimiterRun.liveCount_eraseIdx r (s.slot.drop r.limiter) hs ip
      omega
    · exact hle

def limitSet : FrontEvent → Option Usize
  | .main (.setIpLimit maxPerIp) => some maxPerIp
  | _ => none

theorem step_maxPerIp {next : Front} {e : FrontEvent} (h : front.step tls e = some next) :
    next.shared.ipLimiter.maxPerIp = (limitSet e).getD front.shared.ipLimiter.maxPerIp := by
  cases e with
  | main n =>
    obtain ⟨s, t, hmain, rfl⟩ := Pool.advance_eq_some.mp h
    cases n with
    | loop e => cases Shared.loopStep_inv hmain <;> first | rfl | exact tryAcquireSlot_maxPerIp _ _
    | _ =>
      cases hmain
      rfl
  | task i e =>
    obtain ⟨t, t', s, -, hact, rfl⟩ := Pool.fire_eq_some.mp h
    obtain ⟨-, ⟨hsame, -⟩ | ⟨hdrop, -⟩⟩ := taskStep_holds hact
    · exact congrArg IpLimiter.maxPerIp hsame
    · exact (congrArg IpLimiter.maxPerIp hdrop).trans (drop_maxPerIp _ _)

theorem keepsBelow_of_answeredBy {bound : ℕ} {e : FrontEvent} {ops : List LimiterOp}
    (hlimits : ∀ n, e = .main (.setIpLimit n) → n ≠ 0 ∧ n.toNat ≤ bound) (h : AnsweredBy e ops) :
    ∀ op ∈ ops, KeepsBelow bound op := by
  intro op hop
  obtain ⟨hclone, hset⟩ := not_clone_of_answeredBy h op hop
  cases op with
  | acquire addr => exact ⟨trivial, by simp⟩
  | clone i => exact absurd rfl (hclone i)
  | drop i => exact ⟨trivial, by simp⟩
  | setLimit n =>
    obtain ⟨hne, hle⟩ := hlimits n (hset n rfl)
    refine ⟨hne, ?_⟩
    rintro m hm
    cases hm
    exact hle

/-- The limiter of the server is that of a run whose limits are never off. -/
theorem exists_capped {bound : ℕ} (hstart : maxPerIp ≠ 0) (hstartLe : maxPerIp.toNat ≤ bound)
    (hreloads : ∀ n, .main (.setIpLimit n) ∈ es → n ≠ 0 ∧ n.toNat ≤ bound)
    (run : exec (step tls) (start permits maxPerIp ratePerSec burst state) es = some front) :
    ∃ r, SharesSlots front r ∧ Capped bound r := by
  have hcapped : Capped bound (.new maxPerIp) := by
    refine ⟨LimiterRun.census_new maxPerIp, ⟨hstart, by simp [LimiterRun.new]⟩, hstartLe, ?_⟩
    intro ip _
    exact Nat.zero_le _
  have hops : ∀ e ∈ es, ∀ ops, AnsweredBy e ops → ∀ op ∈ ops, KeepsBelow bound op := by
    intro e he ops hans
    refine keepsBelow_of_answeredBy ?_ hans
    rintro n rfl
    exact hreloads n he
  exact (simulates_limiter tls).invariant (I := Capped bound) (C := KeepsBelow bound)
    (fun r op r' hr hop h => step_capped hr hop h)
    (sharesSlots_start permits maxPerIp ratePerSec burst state) hcapped hops run

/-- As long as every limit in force is at least one and at most `bound`, the table
counts exactly the connections of each address, no address ever has more than
`bound`, and the loop lets the next one in exactly when the address is below the
limit that was set last. -/
theorem per_ip_limit_in_server {bound : ℕ} (hstart : maxPerIp ≠ 0) (hstartLe : maxPerIp.toNat ≤ bound)
    (hreloads : ∀ n, .main (.setIpLimit n) ∈ es → n ≠ 0 ∧ n.toNat ≤ bound)
    (run : exec (step tls) (start permits maxPerIp ratePerSec burst state) es = some front) :
    (∀ ip, ip.isLoopback = false →
      front.shared.ipLimiter.count ip = front.held ip ∧ front.held ip ≤ bound) ∧
    front.shared.ipLimiter.maxPerIp = lastSet limitSet maxPerIp es ∧
    ∀ (peer : SocketAddr) (next : Front), front.shared.loop = .rateAllowed peer →
      front.step tls (.main (.loop .checkIp)) = some next →
        next.shared.loop =
          if peer.ip.isLoopback = true ∨
            front.held peer.ip < front.shared.ipLimiter.maxPerIp.toNat then .spawning ⟨peer.ip⟩
          else .dropping (.rejected .ipLimit) := by
  obtain ⟨r, ⟨hlimiter, hlive⟩, hinv⟩ := exists_capped hstart hstartLe hreloads run
  have hlast : front.shared.ipLimiter.maxPerIp = lastSet limitSet maxPerIp es :=
    exec_lastSet (fun front : Front => front.shared.ipLimiter.maxPerIp)
      (fun _ _ _ hstep => step_maxPerIp hstep) run
  refine ⟨fun ip hip => ?_, hlast, fun peer next hl hstep => ?_⟩
  · have hcount := (hinv.census.count_eq ip hip).trans (hinv.enabled.limitedLive_eq ip)
    rw [← hlimiter, hcount, ← hlive ip]
    exact ⟨rfl, hinv.live_le ip hip⟩
  · have hdecide := (hinv.census.exact hinv.enabled).acquire_iff peer.ip
    rw [hlimiter, hlive peer.ip] at hdecide
    obtain ⟨s, t, hmain, rfl⟩ := Pool.advance_eq_some.mp hstep
    cases Shared.loopStep_inv hmain with
    | @ipAllowed peer' ipSlot hl' hacq =>
      cases hl.symm.trans hl'
      rw [hacq] at hdecide
      rw [if_pos (hdecide.mp rfl)]
      have hslot := (tryAcquireSlot_some _ _
        (show front.shared.ipLimiter.tryAcquireSlot peer.ip = (some ipSlot, _) from
          Prod.ext hacq rfl)).1
      rw [hslot]
    | @ipRejected peer' hl' hacq =>
      cases hl.symm.trans hl'
      rw [hacq] at hdecide
      rw [if_neg (fun h => by cases hdecide.mpr h)]

/-- Two peers from one address under a limit of two that is lowered to one; the
second is asked about when the first is still served. -/
def secondPeer : List FrontEvent :=
  visit (.v4 ⟨203, 0, 113, 5⟩ 50000) |>.take 10 |>.append
    [.main (.setIpLimit 1), .main (.loop .takePermit), .main (.loop .increment),
      .main (.loop (.acceptOk (.v4 ⟨203, 0, 113, 5⟩ 50001))), .main (.loop (.checkRate 0))]

theorem per_ip_limit_in_server_lowered :
    ∃ front, exec (step .accepting) (start 2 2 0 10 minimal.shared.router) secondPeer = some front ∧
      front.shared.loop = .rateAllowed (.v4 ⟨203, 0, 113, 5⟩ 50001) ∧
      (∀ ip, ip.isLoopback = false →
        front.shared.ipLimiter.count ip = front.held ip ∧ front.held ip ≤ 2) ∧
      front.shared.ipLimiter.maxPerIp = 1 ∧
      ∀ (peer : SocketAddr) (next : Front), front.shared.loop = .rateAllowed peer →
        front.step .accepting (.main (.loop .checkIp)) = some next →
          next.shared.loop =
            if peer.ip.isLoopback = true ∨
              front.held peer.ip < front.shared.ipLimiter.maxPerIp.toNat then .spawning ⟨peer.ip⟩
            else .dropping (.rejected .ipLimit) := by
  have hrun : ∃ front ∈ exec (step .accepting) (start 2 2 0 10 minimal.shared.router) secondPeer,
      front.shared.loop = .rateAllowed (.v4 ⟨203, 0, 113, 5⟩ 50001) := by decide +kernel
  obtain ⟨front, run, hloop⟩ := hrun
  refine ⟨front, run, hloop, per_ip_limit_in_server (by decide) (by decide) ?_ run⟩
  intro n hn
  have hone : n = 1 := by simpa [secondPeer, visit] using hn
  subst hone
  decide

end Front

end Reprox.Server
