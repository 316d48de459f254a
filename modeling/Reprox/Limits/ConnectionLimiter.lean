import Mathlib.Data.UInt
import Reprox.Foundations.Runs
import Reprox.Foundations.Ledger
import Reprox.Foundations.MachineNumbers

/-!
# The connection limiter

A connection slot is a semaphore permit together with one unit of
`Stats::connections`. The two are moved by four separate effects: taking the
permit and incrementing in `acquire_slot`, decrementing in `Drop::drop`, and
releasing the permit when the slot's field is dropped after that. Every call of
`acquire_slot` is a task that stands between two of these effects, and any
number of tasks interleave.
-/

namespace Reprox.Limits

open Foundations

/-- Where a call of `acquire_slot` and the slot it returns have got to. -/
inductive SlotPoint where
  | waiting
  | permitTaken
  | held
  | decremented
  | released
  deriving DecidableEq, Repr

inductive SlotEffect where
  | takePermit
  | increment
  | decrement
  | releasePermit
  /-- The future is dropped while it waits for a permit. -/
  | cancel
  deriving DecidableEq, Repr

/-- The semaphore's free permits and the counter of `Stats`. -/
structure ConnectionLimiter where
  permits : ℕ
  connections : UInt64
  deriving DecidableEq, Repr

namespace ConnectionLimiter

def new (permits : Usize) : ConnectionLimiter := ⟨permits.toNat, 0⟩

def takePermit (l : ConnectionLimiter) : Option ConnectionLimiter :=
  if l.permits = 0 then none else some { l with permits := l.permits - 1 }

def increment (l : ConnectionLimiter) : ConnectionLimiter :=
  { l with connections := l.connections + 1 }

/-- `Drop` of `ConnectionSlot`; its permit is dropped after it. -/
def decrement (l : ConnectionLimiter) : ConnectionLimiter :=
  { l with connections := l.connections - 1 }

def releasePermit (l : ConnectionLimiter) : ConnectionLimiter := { l with permits := l.permits + 1 }

/-- One effect of one slot, in the order of the code. -/
def slotStep (p : SlotPoint) (l : ConnectionLimiter) (e : SlotEffect) :
    Option (SlotPoint × ConnectionLimiter) :=
  match p, e with
  | .waiting, .takePermit => l.takePermit.map fun l => (.permitTaken, l)
  | .waiting, .cancel => some (.released, l)
  | .permitTaken, .increment => some (.held, l.increment)
  | .held, .decrement => some (.decremented, l.decrement)
  | .decremented, .releasePermit => some (.released, l.releasePermit)
  | _, _ => none

def acquireSlot (l : ConnectionLimiter) (_ : Unit) :
    Option (ConnectionLimiter × Option SlotPoint) :=
  some (l, some .waiting)

/-- `Stats::snapshot`: `max_connections.saturating_sub(connections)`. -/
def connectionsAvailable (maxConnections : Usize) (l : ConnectionLimiter) : UInt64 :=
  saturatingSub maxConnections l.connections

/-- `Stats::active_connections`: the counter, reinterpreted as signed. -/
def activeConnections (l : ConnectionLimiter) : Int64 := l.connections.toInt64

theorem activeConnections_toInt {l : ConnectionLimiter} (h : l.connections.toNat < 2 ^ 63) :
    l.activeConnections.toInt = l.connections.toNat := by
  have hbits : l.activeConnections.toInt = l.connections.toBitVec.toInt := rfl
  rw [hbits, BitVec.toInt_eq_toNat_of_lt]
  · rfl
  · rw [UInt64.toNat_toBitVec]
    omega

end ConnectionLimiter

def SlotPoint.permit : SlotPoint → ℕ
  | .permitTaken | .held | .decremented => 1
  | .waiting | .released => 0

def SlotPoint.counted : SlotPoint → ℕ
  | .held => 1
  | .waiting | .permitTaken | .decremented | .released => 0

abbrev SlotPool := Pool SlotPoint ConnectionLimiter

abbrev SlotEvent := PoolEvent Unit SlotEffect

namespace SlotPool

def new (permits : Usize) : SlotPool := ⟨[], .new permits⟩

def step (pool : SlotPool) (e : SlotEvent) : Option SlotPool :=
  Pool.step ConnectionLimiter.acquireSlot ConnectionLimiter.slotStep pool e

/-- Permits checked out of the semaphore. -/
def checkedOut (pool : SlotPool) : ℕ := owed SlotPoint.permit pool.tasks

/-- Slots whose increment has happened and whose decrement has not. -/
def counted (pool : SlotPool) : ℕ := owed SlotPoint.counted pool.tasks

/-- A task is between the first and the last effect of an acquire or a drop. -/
def InProgress (pool : SlotPool) : Prop :=
  .permitTaken ∈ pool.tasks ∨ .decremented ∈ pool.tasks

/-! ## The two balances -/

theorem counted_le_checkedOut (pool : SlotPool) : pool.counted ≤ pool.checkedOut := by
  apply owed_le_owed
  intro p
  cases p <;> decide

theorem slotStep_cases {p q : SlotPoint} {l l' : ConnectionLimiter} {e : SlotEffect}
    (h : ConnectionLimiter.slotStep p l e = some (q, l')) :
    (p = .waiting ∧ q = .permitTaken ∧ l.permits ≠ 0 ∧ l' = { l with permits := l.permits - 1 }) ∨
    (p = .waiting ∧ q = .released ∧ l' = l) ∨
    (p = .permitTaken ∧ q = .held ∧ l' = l.increment) ∨
    (p = .held ∧ q = .decremented ∧ l' = l.decrement) ∨
    (p = .decremented ∧ q = .released ∧ l' = l.releasePermit) := by
  unfold ConnectionLimiter.slotStep at h
  split at h
  · obtain ⟨l₁, htake, heq⟩ := Option.map_eq_some_iff.mp h
    cases heq
    unfold ConnectionLimiter.takePermit at htake
    split_ifs at htake with hfree
    exact Or.inl ⟨rfl, rfl, hfree, (Option.some.inj htake).symm⟩
  · cases h
    exact Or.inr (Or.inl ⟨rfl, rfl, rfl⟩)
  · cases h
    exact Or.inr (Or.inr (Or.inl ⟨rfl, rfl, rfl⟩))
  · cases h
    exact Or.inr (Or.inr (Or.inr (Or.inl ⟨rfl, rfl, rfl⟩)))
  · cases h
    exact Or.inr (Or.inr (Or.inr (Or.inr ⟨rfl, rfl, rfl⟩)))
  · cases h

theorem permits_balanced :
    Pool.Balanced ConnectionLimiter.acquireSlot ConnectionLimiter.slotStep
      (fun p => -(p.permit : ℤ)) (fun l => (l.permits : ℤ)) where
  main := by
    intro l _ l' q h
    cases h
    simp [SlotPoint.permit]
  task := by
    intro p l e q l' h
    rcases slotStep_cases h with ⟨rfl, rfl, hfree, rfl⟩ | ⟨rfl, rfl, rfl⟩ | ⟨rfl, rfl, rfl⟩ |
      ⟨rfl, rfl, rfl⟩ | ⟨rfl, rfl, rfl⟩
    · simp only [SlotPoint.permit]
      omega
    all_goals simp [SlotPoint.permit, ConnectionLimiter.increment, ConnectionLimiter.decrement,
      ConnectionLimiter.releasePermit]

theorem connections_balanced :
    Pool.Balanced ConnectionLimiter.acquireSlot ConnectionLimiter.slotStep
      (fun p => UInt64.ofNat p.counted) ConnectionLimiter.connections where
  main := by
    intro l _ l' q h
    cases h
    simp [SlotPoint.counted]
  task := by
    intro p l e q l' h
    rcases slotStep_cases h with ⟨rfl, rfl, -, rfl⟩ | ⟨rfl, rfl, rfl⟩ | ⟨rfl, rfl, rfl⟩ |
      ⟨rfl, rfl, rfl⟩ | ⟨rfl, rfl, rfl⟩
    all_goals simp [SlotPoint.counted, ConnectionLimiter.increment, ConnectionLimiter.decrement,
      ConnectionLimiter.releasePermit]

def ofNatHom : ℕ →+ UInt64 where
  toFun := UInt64.ofNat
  map_zero' := rfl
  map_add' := UInt64.ofNat_add

structure Books (permits : Usize) (pool : SlotPool) : Prop where
  permits_eq : pool.shared.permits + pool.checkedOut = permits.toNat
  connections_eq : pool.shared.connections = UInt64.ofNat pool.counted

theorem run_books {permits : Usize} {es : List SlotEvent} {pool : SlotPool}
    (run : exec step (new permits) es = some pool) : pool.Books permits where
  permits_eq := by
    have hsum (tasks : List SlotPoint) :
        owed (fun p : SlotPoint => -(p.permit : ℤ)) tasks =
          -((owed SlotPoint.permit tasks : ℕ) : ℤ) :=
      (map_owed SlotPoint.permit (-Nat.castAddMonoidHom ℤ) tasks).symm
    have hrun := permits_balanced.run run
    rw [hsum, hsum] at hrun
    simp only [new, ConnectionLimiter.new, owed_nil] at hrun
    unfold checkedOut
    omega
  connections_eq := by
    have hrun := connections_balanced.run run
    simp only [new, ConnectionLimiter.new, owed_nil, sub_zero, sub_eq_zero] at hrun
    rw [hrun]
    exact (map_owed SlotPoint.counted ofNatHom pool.tasks).symm

/-- No counter is ever large enough to wrap. -/
theorem Books.connections_toNat {permits : Usize} {pool : SlotPool} (h : pool.Books permits) :
    pool.shared.connections.toNat = pool.counted := by
  have hpermits := h.permits_eq
  have hle := pool.counted_le_checkedOut
  have hwidth := permits.toNat_lt
  rw [h.connections_eq, UInt64.toNat_ofNat']
  apply Nat.mod_eq_of_lt
  omega

/-- A decrement is fired by a counted slot, so it has something to take. -/
theorem step_decrement {permits : Usize} {pool next : SlotPool} (h : pool.Books permits) {i : ℕ}
    (hstep : pool.step (.task i .decrement) = some next) :
    next.shared.connections.toNat + 1 = pool.shared.connections.toNat := by
  obtain ⟨p, q, l, hp, hact, rfl⟩ := Pool.fire_eq_some.mp hstep
  have hpos : 0 < pool.shared.connections.toNat := by
    have hheld : p = .held := by
      cases p <;> simp [ConnectionLimiter.slotStep] at hact ⊢
    rw [h.connections_toNat]
    subst hheld
    exact le_owed_of_mem (w := SlotPoint.counted) (fun q => q.counted.zero_le)
      (List.mem_of_getElem? hp)
  have hl : l = pool.shared.decrement := by
    cases p <;> simp [ConnectionLimiter.slotStep] at hact
    exact hact.2.symm
  rw [hl, ConnectionLimiter.decrement, toNat_pred_of_pos hpos]
  exact Nat.succ_pred_eq_of_pos hpos

theorem counted_eq_checkedOut {pool : SlotPool} (h : ¬pool.InProgress) :
    pool.counted = pool.checkedOut := by
  unfold counted checkedOut owed
  congr 1
  apply List.map_congr_left
  intro p hp
  cases p with
  | permitTaken => exact absurd (Or.inl hp) h
  | decremented => exact absurd (Or.inr hp) h
  | waiting => rfl
  | held => rfl
  | released => rfl

/-- In every state any interleaving reaches, the counter stays between zero
and the permits checked out, which the semaphore lacks, a decrement takes one
off it without wrapping, `connections_available` is the exact difference and
covers the free permits, and counter and permits agree whenever no acquire or
drop is in progress. -/
theorem connections_never_drift (permits : Usize) {es : List SlotEvent} {pool : SlotPool}
    (run : exec step (new permits) es = some pool) :
    pool.shared.connections.toNat ≤ pool.checkedOut ∧
    pool.shared.permits + pool.checkedOut = permits.toNat ∧ pool.checkedOut ≤ permits.toNat ∧
    (∀ i next, pool.step (.task i .decrement) = some next →
      next.shared.connections.toNat + 1 = pool.shared.connections.toNat) ∧
    (pool.shared.connectionsAvailable permits).toNat + pool.shared.connections.toNat =
      permits.toNat ∧
    pool.shared.permits ≤ (pool.shared.connectionsAvailable permits).toNat ∧
    (¬pool.InProgress → pool.shared.connections.toNat = pool.checkedOut) := by
  have hbooks := run_books run
  have hpermits := hbooks.permits_eq
  have hcount := hbooks.connections_toNat
  have hle := pool.counted_le_checkedOut
  have hbound : pool.shared.connections.toNat ≤ permits.toNat := by omega
  have havailable : (pool.shared.connectionsAvailable permits).toNat =
      permits.toNat - pool.shared.connections.toNat :=
    toNat_saturatingSub permits pool.shared.connections
  refine ⟨by omega, hpermits, by omega, ?_, by omega, by omega, ?_⟩
  · intro i next hstep
    exact step_decrement hbooks hstep
  · intro hidle
    rw [hcount]
    exact counted_eq_checkedOut hidle

/-- One permit: the second call waits while the first slot is being dropped. -/
theorem connections_never_drift_one_permit :
    let pool : SlotPool := ⟨[.decremented, .waiting], ⟨0, 0⟩⟩
    pool.shared.connections.toNat ≤ pool.checkedOut ∧
    pool.shared.permits + pool.checkedOut = (1 : Usize).toNat ∧
    pool.checkedOut ≤ (1 : Usize).toNat ∧
    (∀ i next, pool.step (.task i .decrement) = some next →
      next.shared.connections.toNat + 1 = pool.shared.connections.toNat) ∧
    (pool.shared.connectionsAvailable 1).toNat + pool.shared.connections.toNat =
      (1 : Usize).toNat ∧
    pool.shared.permits ≤ (pool.shared.connectionsAvailable 1).toNat ∧
    (¬pool.InProgress → pool.shared.connections.toNat = pool.checkedOut) :=
  connections_never_drift 1 (show exec step (new 1) [.main (), .main (),
    .task 0 .takePermit, .task 0 .increment, .task 0 .decrement] = some _ from rfl)

end SlotPool

end Reprox.Limits
