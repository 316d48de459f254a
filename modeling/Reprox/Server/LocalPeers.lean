import Reprox.Server.AcceptLoop

/-!
# Peers from the local host

Both per-IP checks let loopback addresses through before they look at their
tables, so such a peer is never turned away and never tracked. The standard
library's `is_loopback` does not know the IPv4-mapped form, in which a
dual-stack listener reports an IPv4 peer: in that form a local peer is checked
like any other, and `localPeersExempt_iff` says that this is the only way for
it to leave a trace.
-/

namespace Reprox.Limits

open Foundations Net

theorem RateLimiter.allow_get?_eq_none {l : RateLimiter} {ip other : IpAddr} {now : ℚ}
    (h : l.buckets.get? ip = none)
    (hfree : ip = other → l.refillPerSec ≤ 0 ∨ other.isLoopback = true) :
    (l.allow other now).2.buckets.get? ip = none := by
  by_cases he : ip = other
  · rw [RateLimiter.allow, if_pos (hfree he)]
    exact h
  · rw [l.allow_get?_of_ne he now, h]

theorem RateLimiter.allow_get?_self {l : RateLimiter} {ip : IpAddr} (now : ℚ)
    (hrate : 0 < l.refillPerSec) (hip : ip.isLoopback = false) :
    ∃ bucket, (l.allow ip now).2.buckets.get? ip = some bucket := by
  rw [l.allow_eq now hrate hip]
  split_ifs
  · exact ⟨_, Table.get?_insert_self _ _ _⟩
  · exact ⟨_, Table.get?_insert_self _ _ _⟩

theorem IpLimiter.tryAcquireSlot_get?_eq_none {l : IpLimiter} {ip other : IpAddr}
    (h : l.slots.get? ip = none) (hfree : ip = other → l.Exempt other) :
    (l.tryAcquireSlot other).2.slots.get? ip = none := by
  by_cases he : ip = other
  · rw [IpLimiter.tryAcquireSlot, if_pos (hfree he)]
    exact h
  · unfold IpLimiter.tryAcquireSlot
    dsimp only
    split_ifs
    · exact h
    · exact (Table.get?_insert_of_ne _ _ he).trans h
    · exact (Table.get?_insert_of_ne _ _ he).trans h

theorem IpLimiter.tryAcquireSlot_get?_self {l : IpLimiter} {ip : IpAddr} (h : ¬l.Exempt ip) :
    ∃ n, (l.tryAcquireSlot ip).2.slots.get? ip = some n := by
  unfold IpLimiter.tryAcquireSlot
  rw [if_neg h]
  dsimp only
  split_ifs
  · exact ⟨_, Table.get?_insert_self _ _ _⟩
  · exact ⟨_, Table.get?_insert_self _ _ _⟩

end Reprox.Limits

namespace Reprox.Server

open Foundations Net Config Tls Routing Limits Metrics

namespace Front

/-- Neither table holds an entry for an address of the local host. -/
def NoLocalEntry (front : Front) : Prop :=
  ∀ ip : IpAddr, ip.isLocalHost = true →
    front.shared.rateLimiter.buckets.get? ip = none ∧ front.shared.ipLimiter.slots.get? ip = none

def RejectsLocal (tls : Provider) (front : Front) (e : FrontEvent) : Prop :=
  ∃ (peer : SocketAddr) (next : Front) (why : Rejection), peer.ip.isLocalHost = true ∧
    (front.shared.loop = .accepted peer ∨ front.shared.loop = .rateAllowed peer) ∧
      front.step tls e = some next ∧ next.shared.loop = .dropping (.rejected why)

/-- In every state of the run neither limiter tracks the local host, and none of
its checks turns a local peer away. -/
def LocalPeersExempt (tls : Provider) (front₀ : Front) (es : List FrontEvent) : Prop :=
  (∀ passed front, passed <+: es → exec (step tls) front₀ passed = some front →
    front.NoLocalEntry) ∧
  Along (step tls) (fun front e => ¬front.RejectsLocal tls e) front₀ es

/-- A local peer in the IPv4-mapped form is only checked by a limiter that is off. -/
structure MappedUnlimited (front : Front) (e : FrontEvent) : Prop where
  rate : ∀ peer now, front.shared.loop = .accepted peer → e = .main (.loop (.checkRate now)) →
    peer.ip.isMappedLoopback = true → front.shared.rateLimiter.refillPerSec ≤ 0
  ip : ∀ peer, front.shared.loop = .rateAllowed peer → e = .main (.loop .checkIp) →
    peer.ip.isMappedLoopback = true → front.shared.ipLimiter.maxPerIp = 0

theorem MappedUnlimited.exempt {front : Front} {e : FrontEvent} (h : front.MappedUnlimited e)
    {peer : SocketAddr} (hlocal : peer.ip.isLocalHost = true) :
    (∀ now, front.shared.loop = .accepted peer → e = .main (.loop (.checkRate now)) →
      front.shared.rateLimiter.refillPerSec ≤ 0 ∨ peer.ip.isLoopback = true) ∧
    (front.shared.loop = .rateAllowed peer → e = .main (.loop .checkIp) →
      front.shared.ipLimiter.Exempt peer.ip) := by
  rw [IpAddr.isLocalHost, Bool.or_eq_true] at hlocal
  rcases hlocal with hloop | hmapped
  · exact ⟨fun _ _ _ => Or.inr hloop, fun _ _ => Or.inr hloop⟩
  · exact ⟨fun now hl he => Or.inl (h.rate peer now hl he hmapped),
      fun hl he => Or.inl (h.ip peer hl he hmapped)⟩

variable {tls : Provider} {front next : Front} {e : FrontEvent}

section Loop

variable {peer : SocketAddr} {now : ℚ} {ip : IpAddr}

theorem MappedUnlimited.rate_entry (h : front.MappedUnlimited (.main (.loop (.checkRate now))))
    (hclean : front.NoLocalEntry) (hl : front.shared.loop = .accepted peer)
    (hlocal : ip.isLocalHost = true) :
    (front.shared.rateLimiter.allow peer.ip now).2.buckets.get? ip = none := by
  apply RateLimiter.allow_get?_eq_none (hclean ip hlocal).1
  rintro rfl
  exact (h.exempt hlocal).1 now hl rfl

theorem MappedUnlimited.ip_entry (h : front.MappedUnlimited (.main (.loop .checkIp)))
    (hclean : front.NoLocalEntry) (hl : front.shared.loop = .rateAllowed peer)
    (hlocal : ip.isLocalHost = true) :
    (front.shared.ipLimiter.tryAcquireSlot peer.ip).2.slots.get? ip = none := by
  apply IpLimiter.tryAcquireSlot_get?_eq_none (hclean ip hlocal).2
  rintro rfl
  exact (h.exempt hlocal).2 hl rfl

theorem MappedUnlimited.loopStep {s' : Shared} {n : LoopEvent} {t : Option ConnTask}
    (h : front.MappedUnlimited (.main (.loop n))) (hclean : front.NoLocalEntry)
    (hstep : front.shared.loopStep n = some (s', t)) :
    (∀ ip : IpAddr, ip.isLocalHost = true →
      s'.rateLimiter.buckets.get? ip = none ∧ s'.ipLimiter.slots.get? ip = none) ∧
    ∀ peer : SocketAddr, peer.ip.isLocalHost = true →
      front.shared.loop = .accepted peer ∨ front.shared.loop = .rateAllowed peer →
        ∀ why, s'.loop ≠ .dropping (.rejected why) := by
  cases Shared.loopStep_inv hstep with
  | rateAllowed hl hallow =>
    constructor
    · exact fun ip hlocal => ⟨h.rate_entry hclean hl hlocal, (hclean ip hlocal).2⟩
    · simp
  | rateRejected hl hallow =>
    constructor
    · exact fun ip hlocal => ⟨h.rate_entry hclean hl hlocal, (hclean ip hlocal).2⟩
    · intro other hlocal hother
      -- The peer that is turned away is the one that was asked about, and it is exempt.
      rw [hl] at hother
      simp only [LoopPoint.accepted.injEq, reduceCtorEq, or_false] at hother
      have hfree := (h.exempt hlocal).1 _ (hother ▸ hl) rfl
      simp [hother, RateLimiter.allow, hfree] at hallow
  | ipAllowed hl hacq =>
    constructor
    · exact fun ip hlocal => ⟨(hclean ip hlocal).1, h.ip_entry hclean hl hlocal⟩
    · simp
  | ipRejected hl hacq =>
    constructor
    · exact fun ip hlocal => ⟨(hclean ip hlocal).1, h.ip_entry hclean hl hlocal⟩
    · intro other hlocal hother
      rw [hl] at hother
      simp only [LoopPoint.rateAllowed.injEq, reduceCtorEq, false_or] at hother
      have hfree := (h.exempt hlocal).2 (hother ▸ hl) rfl
      simp [hother, IpLimiter.tryAcquireSlot, hfree] at hacq
  | @releasePermit reason hl =>
    constructor
    · exact hclean
    · cases reason <;> simp [DropReason.next]
  | _ => exact ⟨hclean, by simp⟩

end Loop

theorem not_rejectsLocal (hstep : front.step tls e = some next)
    (hpass : ∀ peer : SocketAddr, peer.ip.isLocalHost = true →
      front.shared.loop = .accepted peer ∨ front.shared.loop = .rateAllowed peer →
        ∀ why, next.shared.loop ≠ .dropping (.rejected why)) : ¬front.RejectsLocal tls e := by
  rintro ⟨peer, next', why, hlocal, hpeer, hstep', hdrop⟩
  cases hstep.symm.trans hstep'
  exact hpass peer hlocal hpeer why hdrop

theorem not_rejectsLocal_of_loop_eq (hstep : front.step tls e = some next)
    (hsame : next.shared.loop = front.shared.loop) : ¬front.RejectsLocal tls e := by
  apply not_rejectsLocal hstep
  intro peer _ hpeer why hdrop
  rw [hsame] at hdrop
  rcases hpeer with hpeer | hpeer
  · cases hpeer.symm.trans hdrop
  · cases hpeer.symm.trans hdrop

theorem NoLocalEntry.taskStep {i : ℕ} {n : TaskEvent} (h : front.NoLocalEntry)
    (hstep : front.step tls (.task i n) = some next) :
    next.NoLocalEntry ∧ next.shared.loop = front.shared.loop := by
  obtain ⟨t, t', s, -, hact, rfl⟩ := Pool.fire_eq_some.mp hstep
  rcases taskStep_cases hact with ⟨-, -, rfl⟩ | ⟨-, -, rfl⟩ | ⟨-, -, rfl⟩ | ⟨-, -, rfl⟩ |
    ⟨q, st, -, -, rfl⟩
  · exact ⟨h, rfl⟩
  · constructor
    · intro ip hlocal
      obtain ⟨hbucket, hslot⟩ := h ip hlocal
      exact ⟨hbucket, drop_get?_none _ _ hslot⟩
    · rfl
  · exact ⟨h, rfl⟩
  · exact ⟨h, rfl⟩
  · exact ⟨h, rfl⟩

/-- A step that keeps the condition leaves no trace of a local peer and turns none away. -/
theorem MappedUnlimited.step (h : front.MappedUnlimited e) (hclean : front.NoLocalEntry)
    (hstep : front.step tls e = some next) :
    next.NoLocalEntry ∧ ¬front.RejectsLocal tls e := by
  cases e with
  | main n =>
    obtain ⟨s, t, hmain, rfl⟩ := Pool.advance_eq_some.mp hstep
    cases n with
    | loop n =>
      obtain ⟨hclean', hpass⟩ := h.loopStep hclean hmain
      exact ⟨hclean', not_rejectsLocal hstep hpass⟩
    | reload state =>
      cases hmain
      exact ⟨hclean, not_rejectsLocal_of_loop_eq hstep rfl⟩
    | setIpLimit maxPerIp =>
      cases hmain
      exact ⟨hclean, not_rejectsLocal_of_loop_eq hstep rfl⟩
    | setRateLimit ratePerSec burst =>
      cases hmain
      exact ⟨hclean, not_rejectsLocal_of_loop_eq hstep rfl⟩
    | sweep now =>
      cases hmain
      constructor
      · intro ip hlocal
        obtain ⟨hbucket, hslot⟩ := hclean ip hlocal
        exact ⟨by simp [RateLimiter.sweep, hbucket], hslot⟩
      · exact not_rejectsLocal_of_loop_eq hstep rfl
  | task i n =>
    obtain ⟨hclean', hsame⟩ := hclean.taskStep hstep
    exact ⟨hclean', not_rejectsLocal_of_loop_eq hstep hsame⟩

/-- A check of a mapped loopback peer by a limiter that is on leaves an entry. -/
theorem exists_localEntry (tls : Provider) (h : ¬front.MappedUnlimited e) :
    ∃ next, front.step tls e = some next ∧ ¬next.NoLocalEntry := by
  have hlocal {ip : IpAddr} (hmapped : ip.isMappedLoopback = true) : ip.isLocalHost = true := by
    rw [IpAddr.isLocalHost, hmapped, Bool.or_true]
  by_contra hnone
  push Not at hnone
  refine h ⟨?_, ?_⟩
  · rintro peer now hl rfl hmapped
    by_contra hrate
    obtain ⟨bucket, hbucket⟩ := RateLimiter.allow_get?_self now (not_le.mp hrate)
      (IpAddr.isLoopback_of_isMappedLoopback hmapped)
    obtain ⟨s, hs, hsame⟩ : ∃ s, front.shared.loopStep (.checkRate now) = some (s, none) ∧
        s.rateLimiter = (front.shared.rateLimiter.allow peer.ip now).2 := by
      simp only [Shared.loopStep, hl]
      exact ⟨_, rfl, rfl⟩
    have hclean := hnone _ (Pool.advance_eq_some.mpr ⟨s, none, hs, rfl⟩)
    have hempty := (hclean peer.ip (hlocal hmapped)).1
    rw [hsame, hbucket] at hempty
    cases hempty
  · rintro peer hl rfl hmapped
    by_contra hlimit
    have hexempt : ¬front.shared.ipLimiter.Exempt peer.ip := by
      rintro (hzero | hloop)
      · exact hlimit hzero
      · rw [IpAddr.isLoopback_of_isMappedLoopback hmapped] at hloop
        cases hloop
    obtain ⟨n, hn⟩ := IpLimiter.tryAcquireSlot_get?_self hexempt
    obtain ⟨s, hs, hsame⟩ : ∃ s, front.shared.loopStep .checkIp = some (s, none) ∧
        s.ipLimiter = (front.shared.ipLimiter.tryAcquireSlot peer.ip).2 := by
      simp only [Shared.loopStep, hl]
      split
      · next hacq => exact ⟨_, rfl, by rw [hacq]⟩
      · next hacq => exact ⟨_, rfl, by rw [hacq]⟩
    have hclean := hnone _ (Pool.advance_eq_some.mpr ⟨s, none, hs, rfl⟩)
    have hempty := (hclean peer.ip (hlocal hmapped)).2
    rw [hsame, hn] at hempty
    cases hempty

theorem start_noLocalEntry (permits maxPerIp : Usize) (ratePerSec : ℚ) (burst : ℕ)
    (state : RouterState) : (start permits maxPerIp ratePerSec burst state).NoLocalEntry :=
  fun _ _ => ⟨rfl, rfl⟩

/-- Over a whole run of the front, local peers are never turned away and never
tracked exactly when no limiter that is on checks one in the IPv4-mapped form. -/
theorem localPeersExempt_iff (tls : Provider) (permits maxPerIp : Usize) (ratePerSec : ℚ)
    (burst : ℕ) (state : RouterState) (es : List FrontEvent) :
    LocalPeersExempt tls (start permits maxPerIp ratePerSec burst state) es ↔
      Along (step tls) MappedUnlimited (start permits maxPerIp ratePerSec burst state) es := by
  constructor
  · rintro ⟨hclean, -⟩
    rw [along_iff]
    intro before e after front hsplit hrun
    by_contra hchecked
    obtain ⟨next, hstep, hentry⟩ := exists_localEntry tls hchecked
    refine hentry (hclean (before ++ [e]) next ?_ (exec_concat_eq_some.mpr ⟨front, hrun, hstep⟩))
    exact ⟨after, by rw [hsplit, List.append_assoc, List.singleton_append]⟩
  · intro h
    have hclean {passed : List FrontEvent} {front : Front} (hpassed : passed <+: es)
        (hrun : exec (step tls) (start permits maxPerIp ratePerSec burst state) passed =
          some front) : front.NoLocalEntry := by
      obtain ⟨rest, rfl⟩ := hpassed
      exact exec_invariant_along (I := NoLocalEntry)
        (start_noLocalEntry permits maxPerIp ratePerSec burst state)
        (fun _ _ _ hclean hchecked hstep => (hchecked.step hclean hstep).1) h.of_append hrun
    refine ⟨fun passed front hpassed hrun => hclean hpassed hrun, ?_⟩
    have hpoint := along_iff.mp h
    rw [along_iff]
    intro before e after front hsplit hrun hreject
    have hstep := hreject
    obtain ⟨_, next, _, -, -, hstep, -⟩ := hstep
    have hbefore := hclean ⟨e :: after, hsplit.symm⟩ hrun
    exact ((hpoint before e after front hsplit hrun).step hbefore hstep).2 hreject

def acceptPeer (peer : SocketAddr) : List FrontEvent :=
  [.main (.loop .takePermit), .main (.loop .increment), .main (.loop (.acceptOk peer)),
    .main (.loop (.checkRate 0)), .main (.loop .checkIp)]

/-- A dual-stack listener accepts `127.0.0.1` twice under a limit of one
connection for each address: the first is tracked and the second turned away. -/
theorem localPeersExempt_fails :
    let peer : SocketAddr := .v6 ⟨0, 0, 0, 0, 0, 0xffff, 0x7f00, 1⟩ 50000 0 0
    let es := acceptPeer peer ++ .main (.loop .spawn) :: acceptPeer peer
    ¬LocalPeersExempt .accepting (start 2 1 0 10 minimal.shared.router) es ∧
      ∃ front, exec (step .accepting) (start 2 1 0 10 minimal.shared.router) es = some front ∧
        front.shared.loop = .dropping (.rejected .ipLimit) := by
  intro peer es
  have hrejected : ∃ front,
      exec (step .accepting) (start 2 1 0 10 minimal.shared.router) es = some front ∧
        front.shared.loop = .dropping (.rejected .ipLimit) := ⟨_, rfl, rfl⟩
  have htracked : ∃ front,
      exec (step .accepting) (start 2 1 0 10 minimal.shared.router) (acceptPeer peer) = some front ∧
        front.shared.ipLimiter.slots.get? peer.ip = some 1 := ⟨_, rfl, rfl⟩
  refine ⟨?_, hrejected⟩
  rintro ⟨hclean, -⟩
  obtain ⟨front, hrun, hentry⟩ := htracked
  have hempty := (hclean (acceptPeer peer) front (List.prefix_append _ _) hrun peer.ip (by decide)).2
  cases hentry.symm.trans hempty

end Front

end Reprox.Server
