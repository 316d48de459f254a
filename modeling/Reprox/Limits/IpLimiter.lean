import Reprox.Foundations.Runs
import Reprox.Foundations.Ledger
import Reprox.Foundations.Table
import Reprox.Foundations.MachineNumbers
import Reprox.Net.Address

/-!
# The per-IP connection limiter

The limiter of the source is a table of counters and a limit; a slot remembers
only its address. The run states below also list the live slots, each with the
one thing the source forgets: whether the limit was in force when the slot was
handed out. `Census` says the table counts exactly the slots taken under a
limit, and `perIpCap_iff` when the cap survives a run. Without any condition the
counts never exceed the live slots (`bookkeeping_bounded`).
-/

namespace Reprox.Limits

open Foundations Net

structure IpLimiter where
  slots : Table IpAddr Usize
  maxPerIp : Usize

structure IpSlot where
  addr : IpAddr
  deriving DecidableEq, Repr

def IpSlot.drop (slot : IpSlot) (l : IpLimiter) : IpLimiter :=
  match l.slots.get? slot.addr with
  | some n =>
    let n := n - 1
    if n = 0 then { l with slots := l.slots.remove slot.addr }
    else { l with slots := l.slots.insert slot.addr n }
  | none => l

namespace IpLimiter

def new (maxPerIp : Usize) : IpLimiter := ⟨.empty, maxPerIp⟩

/-- The limiter does not count at all: every slot is free. -/
def Exempt (l : IpLimiter) (addr : IpAddr) : Prop := l.maxPerIp = 0 ∨ addr.isLoopback

instance (l : IpLimiter) (addr : IpAddr) : Decidable (l.Exempt addr) :=
  inferInstanceAs (Decidable (_ ∨ _))

/-- `entry(addr).or_insert(0)` leaves its entry behind even when it is refused. -/
def tryAcquireSlot (l : IpLimiter) (addr : IpAddr) : Option IpSlot × IpLimiter :=
  if l.Exempt addr then (some ⟨addr⟩, l)
  else
    let slotCount := (l.slots.get? addr).getD 0
    if l.maxPerIp ≤ slotCount then (none, { l with slots := l.slots.insert addr slotCount })
    else (some ⟨addr⟩, { l with slots := l.slots.insert addr (slotCount + 1) })

def setLimit (l : IpLimiter) (maxPerIp : Usize) : IpLimiter := { l with maxPerIp }

/-- The table's count for an address, zero without an entry. -/
def count (l : IpLimiter) (addr : IpAddr) : ℕ := ((l.slots.get? addr).getD 0).toNat

end IpLimiter

/-! ## What the operations do to the counts -/

section Operations

variable (l : IpLimiter) (addr ip : IpAddr)

theorem tryAcquireSlot_some {slot : IpSlot} {l' : IpLimiter}
    (h : l.tryAcquireSlot addr = (some slot, l')) :
    slot = ⟨addr⟩ ∧ ((l.Exempt addr ∧ l' = l) ∨
      (¬l.Exempt addr ∧ (l.slots.get? addr).getD 0 < l.maxPerIp ∧
        l' = { l with slots := l.slots.insert addr ((l.slots.get? addr).getD 0 + 1) })) := by
  simp only [IpLimiter.tryAcquireSlot] at h
  split_ifs at h with hexempt hfull
  · cases h
    exact ⟨rfl, Or.inl ⟨hexempt, rfl⟩⟩
  · cases h
  · cases h
    exact ⟨rfl, Or.inr ⟨hexempt, UInt64.not_le.mp hfull, rfl⟩⟩

theorem tryAcquireSlot_none {l' : IpLimiter} (h : l.tryAcquireSlot addr = (none, l')) :
    ¬l.Exempt addr ∧ l.maxPerIp ≤ (l.slots.get? addr).getD 0 ∧
      l' = { l with slots := l.slots.insert addr ((l.slots.get? addr).getD 0) } := by
  simp only [IpLimiter.tryAcquireSlot] at h
  split_ifs at h with hexempt hfull
  · cases h
  · cases h
    exact ⟨hexempt, hfull, rfl⟩
  · cases h

def IpLimiter.Positive (l : IpLimiter) : Prop :=
  ∀ ip n, l.slots.get? ip = some n → 0 < n.toNat

theorem isSome_iff_count_pos (hl : l.Positive) :
    (l.slots.get? ip).isSome ↔ 0 < l.count ip := by
  unfold IpLimiter.count
  cases h : l.slots.get? ip with
  | none => simp
  | some n => simpa using hl ip n h

theorem tryAcquireSlot_isSome_iff (hlimit : l.maxPerIp ≠ 0) :
    (l.tryAcquireSlot addr).1.isSome ↔ addr.isLoopback ∨ l.count addr < l.maxPerIp.toNat := by
  unfold IpLimiter.tryAcquireSlot IpLimiter.Exempt IpLimiter.count
  rw [← UInt64.lt_iff_toNat_lt, ← UInt64.not_le]
  by_cases hloop : addr.isLoopback <;>
    by_cases hfull : l.maxPerIp ≤ (l.slots.get? addr).getD 0 <;> simp [hlimit, hloop, hfull]

/-- A refusal finds the entry it writes back, so it leaves no trace. -/
theorem tryAcquireSlot_refused (h : (l.tryAcquireSlot addr).1 = none) :
    (l.tryAcquireSlot addr).2 = l := by
  have hnone : l.tryAcquireSlot addr = (none, (l.tryAcquireSlot addr).2) := Prod.ext h rfl
  obtain ⟨hexempt, hfull, hl'⟩ := tryAcquireSlot_none l addr hnone
  rw [hl']
  cases hget : l.slots.get? addr with
  | none =>
    rw [hget, Option.getD_none, UInt64.le_zero_iff] at hfull
    exact absurd (Or.inl hfull) hexempt
  | some n => rw [Option.getD_some, Table.insert_eq_self hget]

theorem count_insert (n : Usize) :
    IpLimiter.count { l with slots := l.slots.insert addr n } ip =
      if ip = addr then n.toNat else l.count ip := by
  by_cases h : ip = addr <;> simp [IpLimiter.count, h]

theorem positive_insert {n : Usize} (hl : l.Positive) (hn : 0 < n.toNat) :
    IpLimiter.Positive { l with slots := l.slots.insert addr n } := by
  intro ip m hm
  by_cases h : ip = addr
  · subst h
    rw [Table.get?_insert_self] at hm
    exact Option.some.inj hm ▸ hn
  · rw [Table.get?_insert_of_ne _ _ h] at hm
    exact hl ip m hm

variable (slot : IpSlot)

theorem drop_of_no_entry (h : l.slots.get? slot.addr = none) : slot.drop l = l := by
  simp [IpSlot.drop, h]

theorem drop_count (hl : l.Positive) :
    (slot.drop l).count ip = l.count ip - (if ip = slot.addr then 1 else 0) := by
  unfold IpSlot.drop
  cases hget : l.slots.get? slot.addr with
  | none =>
    by_cases h : ip = slot.addr <;> simp [IpLimiter.count, h, hget]
  | some n =>
    have hpred := toNat_pred_of_pos (hl _ n hget)
    dsimp only
    split_ifs with hzero h h
    · subst h
      rw [hzero, UInt64.toNat_zero] at hpred
      simp only [IpLimiter.count, Table.get?_remove_self, hget, Option.getD_none, Option.getD_some,
        UInt64.toNat_zero]
      exact hpred
    · simp [IpLimiter.count, h]
    · rw [count_insert, if_pos h, hpred, h]
      simp [IpLimiter.count, hget]
    · rw [count_insert, if_neg h, Nat.sub_zero]

theorem drop_positive (hl : l.Positive) : (slot.drop l).Positive := by
  unfold IpSlot.drop
  cases hget : l.slots.get? slot.addr with
  | none => exact hl
  | some n =>
    dsimp only
    split_ifs with hzero
    · intro ip m hm
      by_cases h : ip = slot.addr
      · simp [h] at hm
      · rw [Table.get?_remove_of_ne _ h] at hm
        exact hl ip m hm
    · exact positive_insert l slot.addr hl
        (Nat.pos_of_ne_zero fun h => hzero (UInt64.toNat_inj.mp h))

theorem drop_get?_none {ip : IpAddr} (h : l.slots.get? ip = none) :
    (slot.drop l).slots.get? ip = none := by
  by_cases he : slot.addr = ip
  · rw [drop_of_no_entry l slot (he ▸ h), h]
  · unfold IpSlot.drop
    cases hget : l.slots.get? slot.addr with
    | none => exact h
    | some n =>
      dsimp only
      split_ifs <;> simp [Ne.symm he, h]

@[simp] theorem drop_maxPerIp : (slot.drop l).maxPerIp = l.maxPerIp := by
  unfold IpSlot.drop
  cases l.slots.get? slot.addr with
  | none => rfl
  | some n =>
    dsimp only
    split_ifs <;> rfl

@[simp] theorem tryAcquireSlot_maxPerIp : (l.tryAcquireSlot addr).2.maxPerIp = l.maxPerIp := by
  simp only [IpLimiter.tryAcquireSlot]
  split_ifs <;> rfl

end Operations

/-! ## Runs -/

/-- A live slot and whether the limit was in force when it was handed out. -/
structure LiveSlot where
  slot : IpSlot
  limited : Bool
  deriving DecidableEq, Repr

structure LimiterRun where
  limiter : IpLimiter
  live : List LiveSlot

inductive LimiterOp where
  | acquire (addr : IpAddr)
  | clone (i : ℕ)
  | drop (i : ℕ)
  | setLimit (maxPerIp : Usize)
  deriving DecidableEq, Repr

namespace LimiterRun

def new (maxPerIp : Usize) : LimiterRun := ⟨.new maxPerIp, []⟩

/-- A clone of a slot never goes through the limiter at all. -/
def step (r : LimiterRun) : LimiterOp → Option LimiterRun
  | .acquire addr =>
    match r.limiter.tryAcquireSlot addr with
    | (some slot, limiter) => some ⟨limiter, r.live ++ [⟨slot, r.limiter.maxPerIp != 0⟩]⟩
    | (none, limiter) => some { r with limiter }
  | .clone i => (r.live[i]?).map fun s => { r with live := r.live ++ [⟨s.slot, false⟩] }
  | .drop i => (r.live[i]?).map fun s => ⟨s.slot.drop r.limiter, r.live.eraseIdx i⟩
  | .setLimit maxPerIp => some { r with limiter := r.limiter.setLimit maxPerIp }

def limitedLive (r : LimiterRun) (ip : IpAddr) : ℕ :=
  r.live.countP fun s => s.slot.addr = ip ∧ s.limited

theorem step_cases {r r' : LimiterRun} {op : LimiterOp} (h : r.step op = some r') :
    (∃ addr limiter, op = .acquire addr ∧ r.limiter.tryAcquireSlot addr = (none, limiter) ∧
        r' = { r with limiter }) ∨
    (∃ addr slot limiter, op = .acquire addr ∧
        r.limiter.tryAcquireSlot addr = (some slot, limiter) ∧
        r' = ⟨limiter, r.live ++ [⟨slot, r.limiter.maxPerIp != 0⟩]⟩) ∨
    (∃ i s, op = .clone i ∧ r.live[i]? = some s ∧
        r' = { r with live := r.live ++ [⟨s.slot, false⟩] }) ∨
    (∃ i s, op = .drop i ∧ r.live[i]? = some s ∧
        r' = ⟨s.slot.drop r.limiter, r.live.eraseIdx i⟩) ∨
    (∃ n, op = .setLimit n ∧ r' = { r with limiter := r.limiter.setLimit n }) := by
  cases op with
  | acquire addr =>
    simp only [step] at h
    split at h
    · next slot limiter hacq =>
      exact Or.inr (Or.inl ⟨addr, slot, limiter, rfl, hacq, (Option.some.inj h).symm⟩)
    · next limiter hacq => exact Or.inl ⟨addr, limiter, rfl, hacq, (Option.some.inj h).symm⟩
  | clone i =>
    obtain ⟨s, hs, rfl⟩ := Option.map_eq_some_iff.mp h
    exact Or.inr (Or.inr (Or.inl ⟨i, s, rfl, hs, rfl⟩))
  | drop i =>
    obtain ⟨s, hs, rfl⟩ := Option.map_eq_some_iff.mp h
    exact Or.inr (Or.inr (Or.inr (Or.inl ⟨i, s, rfl, hs, rfl⟩)))
  | setLimit n => exact Or.inr (Or.inr (Or.inr (Or.inr ⟨n, rfl, (Option.some.inj h).symm⟩)))

theorem step_positive (r : LimiterRun) (op : LimiterOp) (r' : LimiterRun)
    (hr : r.limiter.Positive) (h : r.step op = some r') : r'.limiter.Positive := by
  rcases step_cases h with ⟨addr, limiter, -, hacq, rfl⟩ | ⟨addr, slot, limiter, -, hacq, rfl⟩ |
    ⟨i, s, -, -, rfl⟩ | ⟨i, s, -, -, rfl⟩ | ⟨n, -, rfl⟩
  · obtain ⟨hexempt, hfull, rfl⟩ := tryAcquireSlot_none _ _ hacq
    refine positive_insert _ addr hr ?_
    have hmax : r.limiter.maxPerIp.toNat ≠ 0 := fun h0 =>
      hexempt (Or.inl (UInt64.toNat_inj.mp h0))
    have hle := UInt64.le_iff_toNat_le.mp hfull
    omega
  · obtain ⟨-, ⟨-, rfl⟩ | ⟨-, hlt, rfl⟩⟩ := tryAcquireSlot_some _ _ hacq
    · exact hr
    · refine positive_insert _ addr hr ?_
      rw [toNat_succ_of_lt hlt]
      exact Nat.succ_pos _
  · exact hr
  · exact drop_positive _ s.slot hr
  · exact hr

structure Census (r : LimiterRun) : Prop where
  positive : r.limiter.Positive
  no_loopback : ∀ ip, ip.isLoopback → r.limiter.slots.get? ip = none
  count_eq : ∀ ip, ip.isLoopback = false → r.limiter.count ip = r.limitedLive ip

theorem census_new (maxPerIp : Usize) : (new maxPerIp).Census where
  positive := by
    intro ip n h
    cases h
  no_loopback _ _ := rfl
  count_eq _ _ := rfl

/-- The table has an entry for just the addresses with a slot taken under a limit. -/
theorem Census.tracked_iff {r : LimiterRun} (hr : r.Census) {ip : IpAddr}
    (hip : ip.isLoopback = false) :
    r.limiter.slots.get? ip ≠ none ↔ ∃ s ∈ r.live, s.slot.addr = ip ∧ s.limited := by
  rw [← Option.isSome_iff_ne_none, isSome_iff_count_pos _ _ hr.positive, hr.count_eq ip hip,
    limitedLive, List.countP_pos_iff]
  simp

/-- The slot that is dropped was not counted, and one of its address that was is
still alive. -/
def StrayDrop (r : LimiterRun) (op : LimiterOp) : Prop :=
  ∃ i s, op = .drop i ∧ r.live[i]? = some s ∧ s.limited = false ∧
    s.slot.addr.isLoopback = false ∧ ∃ counted ∈ r.live, counted.slot.addr = s.slot.addr ∧
      counted.limited

theorem Census.not_loopback_of_entry {r : LimiterRun} (hr : r.Census) {ip : IpAddr}
    (hentry : r.limiter.slots.get? ip ≠ none) : ip.isLoopback = false := by
  by_contra hloop
  exact hentry (hr.no_loopback ip (by simpa using hloop))

theorem limitedLive_concat (r : LimiterRun) (limiter : IpLimiter) (s : LiveSlot) (ip : IpAddr) :
    limitedLive ⟨limiter, r.live ++ [s]⟩ ip =
      r.limitedLive ip + (if s.slot.addr = ip ∧ s.limited then 1 else 0) := by
  simp [limitedLive, List.countP_append, List.countP_singleton]

theorem limitedLive_eraseIdx (r : LimiterRun) (limiter : IpLimiter) {i : ℕ} {s : LiveSlot}
    (hs : r.live[i]? = some s) (ip : IpAddr) :
    limitedLive ⟨limiter, r.live.eraseIdx i⟩ ip + (if s.slot.addr = ip ∧ s.limited then 1 else 0) =
      r.limitedLive ip := by
  simpa [limitedLive] using
    countP_eraseIdx (fun s : LiveSlot => decide (s.slot.addr = ip ∧ s.limited)) hs

theorem no_loopback_insert {l : IpLimiter} {addr : IpAddr}
    (h : ∀ ip, ip.isLoopback → l.slots.get? ip = none) (haddr : ¬addr.isLoopback = true)
    (n : Usize) : ∀ ip, ip.isLoopback → (l.slots.insert addr n).get? ip = none := by
  intro ip hip
  have hne : ip ≠ addr := fun he => haddr (he ▸ hip)
  rw [Table.get?_insert_of_ne _ _ hne]
  exact h ip hip

theorem Census.refused {r : LimiterRun} {addr : IpAddr} {limiter : IpLimiter} (hr : r.Census)
    (hacq : r.limiter.tryAcquireSlot addr = (none, limiter)) :
    Census { r with limiter } := by
  obtain ⟨hexempt, -, rfl⟩ := tryAcquireSlot_none _ _ hacq
  obtain ⟨hmax, hloop⟩ := not_or.mp hexempt
  refine ⟨step_positive r (.acquire addr) _ hr.positive (by simp only [step, hacq]),
    no_loopback_insert hr.no_loopback hloop _, ?_⟩
  intro ip hip
  rw [count_insert]
  split_ifs with he
  · subst he
    exact hr.count_eq ip hip
  · exact hr.count_eq ip hip

theorem Census.acquired {r : LimiterRun} {addr : IpAddr} {slot : IpSlot} {limiter : IpLimiter}
    (hr : r.Census) (hacq : r.limiter.tryAcquireSlot addr = (some slot, limiter)) :
    Census ⟨limiter, r.live ++ [⟨slot, r.limiter.maxPerIp != 0⟩]⟩ := by
  have hpositive : limiter.Positive :=
    step_positive r (.acquire addr) ⟨limiter, r.live ++ [⟨slot, r.limiter.maxPerIp != 0⟩]⟩
      hr.positive (by simp only [step, hacq])
  obtain ⟨rfl, ⟨hexempt, rfl⟩ | ⟨hexempt, hlt, rfl⟩⟩ := tryAcquireSlot_some _ _ hacq
  · refine ⟨hpositive, hr.no_loopback, fun ip hip => ?_⟩
    rw [limitedLive_concat, if_neg, Nat.add_zero]
    · exact hr.count_eq ip hip
    · rintro ⟨rfl, hlimited⟩
      rcases hexempt with hzero | hloop
      · simp [hzero] at hlimited
      · rw [hip] at hloop
        cases hloop
  · obtain ⟨hmax, hloop⟩ := not_or.mp hexempt
    refine ⟨hpositive, no_loopback_insert hr.no_loopback hloop _, ?_⟩
    intro ip hip
    have hcount := hr.count_eq ip hip
    rw [limitedLive_concat, count_insert, toNat_succ_of_lt hlt]
    by_cases he : ip = addr
    · subst he
      simpa [hmax, IpLimiter.count] using hcount
    · simpa [he, Ne.symm he] using hcount

theorem Census.dropped {r : LimiterRun} {i : ℕ} {s : LiveSlot} (hr : r.Census)
    (hs : r.live[i]? = some s)
    (hcounted : s.limited = true ∨ r.limiter.slots.get? s.slot.addr = none) :
    Census ⟨s.slot.drop r.limiter, r.live.eraseIdx i⟩ := by
  refine ⟨drop_positive _ s.slot hr.positive,
    fun ip hip => drop_get?_none _ _ (hr.no_loopback ip hip), fun ip hip => ?_⟩
  have hcount := hr.count_eq ip hip
  have hlive := limitedLive_eraseIdx r (s.slot.drop r.limiter) hs ip
  by_cases hlimited : s.limited
  · rw [drop_count _ _ _ hr.positive]
    by_cases he : ip = s.slot.addr
    · simp only [← he, hlimited, and_self, if_true] at hlive ⊢
      omega
    · simp only [he, Ne.symm he, false_and, if_false] at hlive ⊢
      omega
  · have hnone := hcounted.resolve_left hlimited
    rw [if_neg (by simp [hlimited]), Nat.add_zero] at hlive
    rw [hlive]
    show (s.slot.drop r.limiter).count ip = _
    rw [drop_of_no_entry _ _ hnone]
    exact hcount

theorem step_census (r : LimiterRun) (op : LimiterOp) (r' : LimiterRun) (hr : r.Census)
    (hstray : ¬r.StrayDrop op) (h : r.step op = some r') : r'.Census := by
  rcases step_cases h with ⟨addr, limiter, -, hacq, rfl⟩ | ⟨addr, slot, limiter, -, hacq, rfl⟩ |
    ⟨i, s, -, -, rfl⟩ | ⟨i, s, rfl, hs, rfl⟩ | ⟨n, -, rfl⟩
  · exact hr.refused hacq
  · exact hr.acquired hacq
  · refine ⟨hr.positive, hr.no_loopback, fun ip hip => ?_⟩
    rw [limitedLive_concat, if_neg (by simp), Nat.add_zero]
    exact hr.count_eq ip hip
  · apply hr.dropped hs
    by_contra hnot
    obtain ⟨hlimited, hsome⟩ := not_or.mp hnot
    have hip := hr.not_loopback_of_entry hsome
    exact hstray ⟨i, s, rfl, hs, by simpa using hlimited, hip, (hr.tracked_iff hip).mp hsome⟩
  · exact ⟨hr.positive, hr.no_loopback, hr.count_eq⟩

/-! ## The cap -/

/-- Whenever a slot is handed out under a limit, that address holds at most
that many slots taken under a limit, the new one included. -/
def CapHolds (r : LimiterRun) (op : LimiterOp) : Prop :=
  ∀ addr r', op = .acquire addr → addr.isLoopback = false → r.limiter.maxPerIp ≠ 0 →
    (r.limiter.tryAcquireSlot addr).1.isSome → r.step op = some r' →
    r'.limitedLive addr ≤ r.limiter.maxPerIp.toNat

/-- Dropping a slot that was handed out free of the limit frees nothing. -/
def CapacityKept (r : LimiterRun) (op : LimiterOp) : Prop :=
  ∀ i s, op = .drop i → r.live[i]? = some s → s.limited = false →
    (s.slot.drop r.limiter).count s.slot.addr = r.limiter.count s.slot.addr

theorem Census.capHolds {r : LimiterRun} (hr : r.Census) (op : LimiterOp) : r.CapHolds op := by
  rintro addr r' rfl hloop hmax hsome hstep
  rcases step_cases hstep with ⟨_, limiter, hop, hacq, -⟩ | ⟨_, slot, limiter, hop, hacq, rfl⟩ |
    ⟨_, _, hop, -⟩ | ⟨_, _, hop, -⟩ | ⟨_, hop, -⟩
  · cases hop
    simp [hacq] at hsome
  · cases hop
    obtain ⟨rfl, ⟨hexempt, -⟩ | ⟨-, hlt, -⟩⟩ := tryAcquireSlot_some _ _ hacq
    · rcases hexempt with h | h
      · exact absurd h hmax
      · rw [hloop] at h
        cases h
    · have hcount := hr.count_eq addr hloop
      have hltNat := UInt64.lt_iff_toNat_lt.mp hlt
      rw [limitedLive_concat, ← hcount]
      simp only [IpLimiter.count] at *
      split_ifs <;> omega
  all_goals cases hop

theorem Census.capacityKept_iff {r : LimiterRun} (hr : r.Census) (op : LimiterOp) :
    r.CapacityKept op ↔ ¬r.StrayDrop op := by
  constructor
  · rintro hkept ⟨i, s, hop, hs, hlimited, hip, hcounted⟩
    have hsame := hkept i s hop hs hlimited
    rw [drop_count _ _ _ hr.positive, if_pos rfl] at hsame
    obtain ⟨n, hn⟩ := Option.ne_none_iff_exists'.mp ((hr.tracked_iff hip).mpr hcounted)
    have hpos := hr.positive _ n hn
    simp only [IpLimiter.count, hn, Option.getD_some] at hsame
    omega
  · intro hstray i s hop hs hlimited
    have hnone : r.limiter.slots.get? s.slot.addr = none := by
      by_contra hsome
      have hip := hr.not_loopback_of_entry hsome
      exact hstray ⟨i, s, hop, hs, hlimited, hip, (hr.tracked_iff hip).mp hsome⟩
    rw [drop_of_no_entry _ _ hnone]

/-- Over a whole run the per-IP cap survives, and free slots free nothing,
exactly when no uncounted slot is dropped while a counted one of its address lives. -/
theorem perIpCap_iff (maxPerIp : Usize) (ops : List LimiterOp) :
    Along step (fun r op => r.CapHolds op ∧ r.CapacityKept op) (new maxPerIp) ops ↔
      Along step (fun r op => ¬r.StrayDrop op) (new maxPerIp) ops := by
  -- Without a stray drop so far the table is a census, and then both say the same.
  apply along_congr (census_new maxPerIp)
  · intro r op hr
    rw [hr.capacityKept_iff, and_iff_right (hr.capHolds op)]
  · intro r op r' hr hcap hstep
    exact step_census r op r' hr ((hr.capacityKept_iff op).mp hcap.2) hstep

/-- A slot taken while the limiter was disabled, dropped after the limit of one
was switched on and used: the address then holds two limited slots. -/
theorem perIpCap_fails :
    ¬Along step (fun r op => r.CapHolds op ∧ r.CapacityKept op) (new 0)
      [.acquire (.v4 ⟨203, 0, 113, 1⟩), .setLimit 1, .acquire (.v4 ⟨203, 0, 113, 1⟩), .drop 0,
        .acquire (.v4 ⟨203, 0, 113, 1⟩)] := by
  intro h
  have hlast := along_iff.mp h [_, _, _, _] _ [] _ rfl rfl
  have hcap := hlast.1 (.v4 ⟨203, 0, 113, 1⟩) _ rfl (by decide) (by decide) (by decide) rfl
  exact absurd hcap (by decide)

/-! ## The limit always in force -/

/-- The operation keeps the limit in force and hands out no slot behind it. -/
def StaysEnabled : LimiterOp → Prop
  | .acquire _ | .drop _ => True
  | .clone _ => False
  | .setLimit maxPerIp => maxPerIp ≠ 0

structure Enabled (r : LimiterRun) : Prop where
  limit : r.limiter.maxPerIp ≠ 0
  live : ∀ s ∈ r.live, s.limited

theorem step_enabled {r r' : LimiterRun} {op : LimiterOp} (hr : r.Enabled) (hop : StaysEnabled op)
    (h : r.step op = some r') : r'.Enabled := by
  rcases step_cases h with ⟨addr, limiter, -, hacq, rfl⟩ | ⟨addr, slot, limiter, -, hacq, rfl⟩ |
    ⟨i, s, rfl, -, rfl⟩ | ⟨i, s, -, -, rfl⟩ | ⟨n, rfl, rfl⟩
  · have hlimit := tryAcquireSlot_maxPerIp r.limiter addr
    rw [hacq] at hlimit
    exact ⟨hlimit ▸ hr.limit, hr.live⟩
  · have hlimit := tryAcquireSlot_maxPerIp r.limiter addr
    rw [hacq] at hlimit
    refine ⟨hlimit ▸ hr.limit, ?_⟩
    intro s hs
    rcases List.mem_append.mp hs with hs | hs
    · exact hr.live s hs
    · rw [List.mem_singleton.mp hs]
      simpa using hr.limit
  · cases hop
  · refine ⟨?_, fun t ht => hr.live t (List.mem_of_mem_eraseIdx ht)⟩
    rw [drop_maxPerIp]
    exact hr.limit
  · exact ⟨hop, hr.live⟩

theorem Enabled.not_strayDrop {r : LimiterRun} (hr : r.Enabled) (op : LimiterOp) :
    ¬r.StrayDrop op := by
  rintro ⟨i, s, -, hs, hlimited, -⟩
  rw [hr.live s (List.mem_of_getElem? hs)] at hlimited
  cases hlimited

def liveCount (r : LimiterRun) (ip : IpAddr) : ℕ := r.live.countP fun s => s.slot.addr = ip

theorem Enabled.limitedLive_eq {r : LimiterRun} (hr : r.Enabled) (ip : IpAddr) :
    r.limitedLive ip = r.liveCount ip := by
  apply List.countP_congr
  intro s hs
  simp [hr.live s hs]

/-- The table is the multiset of live slots, address by address, and a call is
decided by it. -/
structure ExactCensus (r : LimiterRun) : Prop where
  tracked_iff : ∀ ip, ip.isLoopback = false →
    ((r.limiter.slots.get? ip).isSome ↔ ∃ s ∈ r.live, s.slot.addr = ip)
  entry_eq : ∀ ip n, r.limiter.slots.get? ip = some n → n.toNat = r.liveCount ip
  no_loopback : ∀ ip, ip.isLoopback → r.limiter.slots.get? ip = none
  acquire_iff : ∀ ip, (r.limiter.tryAcquireSlot ip).1.isSome ↔
    ip.isLoopback ∨ r.liveCount ip < r.limiter.maxPerIp.toNat
  refused : ∀ ip, (r.limiter.tryAcquireSlot ip).1 = none →
    (r.limiter.tryAcquireSlot ip).2 = r.limiter

theorem Census.exact {r : LimiterRun} (hr : r.Census) (he : r.Enabled) : r.ExactCensus := by
  have hcount (ip : IpAddr) (hip : ip.isLoopback = false) : r.limiter.count ip = r.liveCount ip :=
    (hr.count_eq ip hip).trans (he.limitedLive_eq ip)
  constructor
  case tracked_iff =>
    intro ip hip
    rw [isSome_iff_count_pos _ _ hr.positive, hcount ip hip, liveCount, List.countP_pos_iff]
    simp
  case entry_eq =>
    intro ip n hn
    rw [← hcount ip (hr.not_loopback_of_entry (by simp [hn]))]
    simp [IpLimiter.count, hn]
  case no_loopback => exact hr.no_loopback
  case acquire_iff =>
    intro ip
    rw [tryAcquireSlot_isSome_iff _ _ he.limit]
    cases hip : ip.isLoopback with
    | true => simp
    | false => rw [hcount ip hip]
  case refused =>
    intro ip
    exact tryAcquireSlot_refused r.limiter ip

def limit? : LimiterOp → Option Usize
  | .setLimit maxPerIp => some maxPerIp
  | _ => none

theorem step_maxPerIp {r r' : LimiterRun} {op : LimiterOp} (h : r.step op = some r') :
    r'.limiter.maxPerIp = (limit? op).getD r.limiter.maxPerIp := by
  rcases step_cases h with ⟨addr, limiter, rfl, hacq, rfl⟩ | ⟨addr, slot, limiter, rfl, hacq, rfl⟩ |
    ⟨i, s, rfl, -, rfl⟩ | ⟨i, s, rfl, -, rfl⟩ | ⟨n, rfl, rfl⟩
  · have hsame := tryAcquireSlot_maxPerIp r.limiter addr
    rwa [hacq] at hsame
  · have hsame := tryAcquireSlot_maxPerIp r.limiter addr
    rwa [hacq] at hsame
  · rfl
  · exact drop_maxPerIp r.limiter s.slot
  · rfl

/-- While the limit stays in force the table is an exact census of the live
slots in every state that is reached, under the limit that was set last. -/
theorem always_enabled_census {n : Usize} (hn : n ≠ 0) {ops : List LimiterOp}
    (hops : ∀ op ∈ ops, StaysEnabled op) {r : LimiterRun} (run : exec step (new n) ops = some r) :
    r.ExactCensus ∧ r.limiter.maxPerIp = lastSet limit? n ops := by
  have hrun : r.Census ∧ r.Enabled := by
    refine exec_invariant_along (I := fun r : LimiterRun => r.Census ∧ r.Enabled)
      ⟨census_new n, hn, by simp [new]⟩ ?_ (along_of_forall hops _) run
    intro r op r' hr hop h
    exact ⟨step_census r op r' hr.1 (hr.2.not_strayDrop op) h, step_enabled hr.2 hop h⟩
  refine ⟨hrun.1.exact hrun.2, ?_⟩
  exact exec_lastSet (fun r : LimiterRun => r.limiter.maxPerIp)
    (fun _ _ _ hstep => step_maxPerIp hstep) run

/-- The limit is lowered to one below two live slots; the next call is refused. -/
theorem always_enabled_census_lowered :
    ∃ r, exec step (new 2) [.acquire (.v4 ⟨203, 0, 113, 1⟩), .acquire (.v4 ⟨203, 0, 113, 1⟩),
        .setLimit 1, .acquire (.v4 ⟨203, 0, 113, 1⟩), .drop 0] = some r ∧ r.ExactCensus ∧
      r.limiter.maxPerIp = 1 := by
  refine ⟨_, rfl, ?_⟩
  exact always_enabled_census (n := 2) (by decide) (by simp [StaysEnabled])
    (show exec step (new 2) [.acquire (.v4 ⟨203, 0, 113, 1⟩), .acquire (.v4 ⟨203, 0, 113, 1⟩),
      .setLimit 1, .acquire (.v4 ⟨203, 0, 113, 1⟩), .drop 0] = some _ from rfl)

/-! ## Whatever the limit does -/

theorem liveCount_concat (r : LimiterRun) (limiter : IpLimiter) (s : LiveSlot) (ip : IpAddr) :
    liveCount ⟨limiter, r.live ++ [s]⟩ ip =
      r.liveCount ip + (if s.slot.addr = ip then 1 else 0) := by
  simp [liveCount, List.countP_append, List.countP_singleton]

theorem liveCount_eraseIdx (r : LimiterRun) (limiter : IpLimiter) {i : ℕ} {s : LiveSlot}
    (hs : r.live[i]? = some s) (ip : IpAddr) :
    liveCount ⟨limiter, r.live.eraseIdx i⟩ ip + (if s.slot.addr = ip then 1 else 0) =
      r.liveCount ip := by
  simpa [liveCount] using countP_eraseIdx (fun s : LiveSlot => decide (s.slot.addr = ip)) hs

/-- The table counts no more slots of an address than are alive, uncounted
slots and clones included. -/
structure Bounded (r : LimiterRun) : Prop where
  positive : r.limiter.Positive
  no_loopback : ∀ ip, ip.isLoopback → r.limiter.slots.get? ip = none
  count_le : ∀ ip, r.limiter.count ip ≤ r.liveCount ip

theorem bounded_new (maxPerIp : Usize) : (new maxPerIp).Bounded where
  positive := (census_new maxPerIp).positive
  no_loopback := (census_new maxPerIp).no_loopback
  count_le _ := le_rfl

theorem Bounded.acquired {r : LimiterRun} {addr : IpAddr} {slot : IpSlot} {limiter : IpLimiter}
    (hr : r.Bounded) (hacq : r.limiter.tryAcquireSlot addr = (some slot, limiter)) :
    Bounded ⟨limiter, r.live ++ [⟨slot, r.limiter.maxPerIp != 0⟩]⟩ := by
  have hpositive : limiter.Positive :=
    step_positive r (.acquire addr) ⟨limiter, r.live ++ [⟨slot, r.limiter.maxPerIp != 0⟩]⟩
      hr.positive (by simp only [step, hacq])
  obtain ⟨rfl, ⟨-, rfl⟩ | ⟨hexempt, hlt, rfl⟩⟩ := tryAcquireSlot_some _ _ hacq
  · refine ⟨hpositive, hr.no_loopback, fun ip => ?_⟩
    rw [liveCount_concat]
    exact (hr.count_le ip).trans (Nat.le_add_right _ _)
  · obtain ⟨-, hloop⟩ := not_or.mp hexempt
    refine ⟨hpositive, no_loopback_insert hr.no_loopback hloop _, fun ip => ?_⟩
    have hle := hr.count_le ip
    rw [liveCount_concat, count_insert, toNat_succ_of_lt hlt]
    by_cases he : ip = addr
    · subst he
      simpa [IpLimiter.count] using hle
    · simpa [he, Ne.symm he] using hle

theorem Bounded.dropped {r : LimiterRun} {i : ℕ} {s : LiveSlot} (hr : r.Bounded)
    (hs : r.live[i]? = some s) : Bounded ⟨s.slot.drop r.limiter, r.live.eraseIdx i⟩ := by
  refine ⟨drop_positive _ s.slot hr.positive,
    fun ip hip => drop_get?_none _ _ (hr.no_loopback ip hip), fun ip => ?_⟩
  have hle := hr.count_le ip
  have hlive := liveCount_eraseIdx r (s.slot.drop r.limiter) hs ip
  rw [drop_count _ _ _ hr.positive]
  by_cases he : ip = s.slot.addr
  · rw [if_pos he.symm] at hlive
    rw [if_pos he]
    omega
  · rw [if_neg (Ne.symm he)] at hlive
    rw [if_neg he]
    omega

theorem step_bounded (r : LimiterRun) (op : LimiterOp) (r' : LimiterRun) (hr : r.Bounded)
    (h : r.step op = some r') : r'.Bounded := by
  rcases step_cases h with ⟨addr, limiter, -, hacq, rfl⟩ | ⟨addr, slot, limiter, -, hacq, rfl⟩ |
    ⟨i, s, -, -, rfl⟩ | ⟨i, s, -, hs, rfl⟩ | ⟨n, -, rfl⟩
  · have hsame := tryAcquireSlot_refused r.limiter addr (by rw [hacq])
    rw [hacq] at hsame
    cases hsame
    exact hr
  · exact hr.acquired hacq
  · refine ⟨hr.positive, hr.no_loopback, fun ip => ?_⟩
    rw [liveCount_concat]
    exact (hr.count_le ip).trans (Nat.le_add_right _ _)
  · exact hr.dropped hs
  · exact ⟨hr.positive, hr.no_loopback, hr.count_le⟩

/-- In every run, whatever limits are set and whatever is cloned, an entry
belongs to an address that is not loopback and lies between one and the number
of its live slots. So the subtraction of a drop never wraps around, and an
address without a live slot has no entry. -/
theorem bookkeeping_bounded {maxPerIp : Usize} {ops : List LimiterOp} {r : LimiterRun}
    (run : exec step (new maxPerIp) ops = some r) :
    (∀ ip n, r.limiter.slots.get? ip = some n →
      ip.isLoopback = false ∧ 1 ≤ n.toNat ∧ n.toNat ≤ r.liveCount ip) ∧
    (∀ (slot : IpSlot) n, r.limiter.slots.get? slot.addr = some n →
      (n - 1).toNat + 1 = n.toNat) ∧
    ∀ ip, (∀ s ∈ r.live, s.slot.addr ≠ ip) → r.limiter.slots.get? ip = none := by
  have hbounded : r.Bounded := exec_invariant (bounded_new maxPerIp) step_bounded run
  have hentry (ip : IpAddr) (n : Usize) (hn : r.limiter.slots.get? ip = some n) :
      0 < n.toNat ∧ n.toNat ≤ r.liveCount ip := by
    have hle := hbounded.count_le ip
    rw [IpLimiter.count, hn] at hle
    exact ⟨hbounded.positive ip n hn, hle⟩
  refine ⟨?_, ?_, ?_⟩
  · intro ip n hn
    refine ⟨?_, hentry ip n hn⟩
    by_contra hloop
    rw [hbounded.no_loopback ip (by simpa using hloop)] at hn
    cases hn
  · intro slot n hn
    have hpos := (hentry slot.addr n hn).1
    rw [toNat_pred_of_pos hpos]
    omega
  · intro ip hnone
    have hzero : r.liveCount ip = 0 := by
      rw [liveCount, List.countP_eq_zero]
      simpa using hnone
    cases hget : r.limiter.slots.get? ip with
    | none => rfl
    | some n =>
      have hpos := hentry ip n hget
      omega

/-- A slot taken while the limiter is disabled is dropped, and with it the
entry, while the limited slot and its clone are still alive. -/
theorem bookkeeping_bounded_stray :
    ∃ r, exec step (new 0) [.acquire (.v4 ⟨203, 0, 113, 1⟩), .setLimit 1,
        .acquire (.v4 ⟨203, 0, 113, 1⟩), .clone 1, .drop 0, .setLimit 0, .drop 0] = some r ∧
      (∀ ip n, r.limiter.slots.get? ip = some n →
        ip.isLoopback = false ∧ 1 ≤ n.toNat ∧ n.toNat ≤ r.liveCount ip) ∧
      (∀ (slot : IpSlot) n, r.limiter.slots.get? slot.addr = some n →
        (n - 1).toNat + 1 = n.toNat) ∧
      ∀ ip, (∀ s ∈ r.live, s.slot.addr ≠ ip) → r.limiter.slots.get? ip = none := by
  refine ⟨_, rfl, ?_⟩
  exact bookkeeping_bounded
    (show exec step (new 0) [.acquire (.v4 ⟨203, 0, 113, 1⟩), .setLimit 1,
      .acquire (.v4 ⟨203, 0, 113, 1⟩), .clone 1, .drop 0, .setLimit 0, .drop 0] = some _ from rfl)

end LimiterRun

end Reprox.Limits
