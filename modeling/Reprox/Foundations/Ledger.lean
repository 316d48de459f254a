import Mathlib.Tactic
import Mathlib.Algebra.BigOperators.Group.List.Basic
import Reprox.Foundations.Runs

/-!
# Conservation over a pool of tasks

Each task of a pool is at a program point, and each point has a weight: what a
task standing there still contributes to some balance. A step moves one task,
so the pool's total changes by that task's difference and nothing else. A
counter that moves by the same difference therefore stays in balance with the
pool under every interleaving.
-/

namespace Reprox.Foundations

variable {P M : Type*}

def owed [AddCommMonoid M] (w : P → M) (tasks : List P) : M := (tasks.map w).sum

section Totals

variable [AddCommMonoid M] (w : P → M)

@[simp] theorem owed_nil : owed w [] = 0 := rfl

@[simp] theorem owed_concat (tasks : List P) (p : P) :
    owed w (tasks ++ [p]) = owed w tasks + w p := by
  simp [owed]

theorem owed_eq_zero {tasks : List P} (h : ∀ p ∈ tasks, w p = 0) : owed w tasks = 0 := by
  apply List.sum_eq_zero
  simpa [owed] using h

theorem map_owed {N : Type*} [AddCommMonoid N] (f : M →+ N) (tasks : List P) :
    f (owed w tasks) = owed (fun p => f (w p)) tasks := by
  simp [owed, map_list_sum, Function.comp_def]

end Totals

theorem owed_eq_countP {w : P → ℕ} {c : P → Bool} {tasks : List P}
    (h : ∀ p ∈ tasks, w p = if c p then 1 else 0) : owed w tasks = tasks.countP c := by
  induction tasks with
  | nil => rfl
  | cons p tasks ih =>
    have htail := ih fun q hq => h q (List.mem_cons_of_mem p hq)
    have hhead := h p List.mem_cons_self
    rw [List.countP_cons, ← htail, ← hhead, add_comm]
    exact List.sum_cons

theorem owed_set [AddCommGroup M] (w : P → M) {tasks : List P} {i : ℕ} {p : P}
    (h : tasks[i]? = some p) (q : P) : owed w (tasks.set i q) = owed w tasks + (w q - w p) := by
  obtain ⟨hi, hp⟩ := List.getElem?_eq_some_iff.mp h
  unfold owed
  rw [List.map_set, List.sum_set', dif_pos (by simpa using hi), List.getElem_map, hp]
  abel

/-- Retiring one task takes it out of every count it was in. -/
theorem countP_eraseIdx (c : P → Bool) {tasks : List P} {i : ℕ} {p : P} (h : tasks[i]? = some p) :
    (tasks.eraseIdx i).countP c + (if c p then 1 else 0) = tasks.countP c := by
  obtain ⟨hi, rfl⟩ := List.getElem?_eq_some_iff.mp h
  rw [← (List.getElem_cons_eraseIdx_perm hi).countP_eq, List.countP_cons]

section Order

variable [AddCommMonoid M] [PartialOrder M] [IsOrderedAddMonoid M]

theorem owed_le_owed {v w : P → M} (h : ∀ p, v p ≤ w p) (tasks : List P) :
    owed v tasks ≤ owed w tasks :=
  List.sum_le_sum fun p _ => h p

theorem owed_nonneg {w : P → M} (h : ∀ p, 0 ≤ w p) (tasks : List P) : 0 ≤ owed w tasks := by
  simpa [owed] using owed_le_owed h tasks

theorem le_owed_of_mem {w : P → M} (h : ∀ p, 0 ≤ w p) {tasks : List P} {p : P} (hp : p ∈ tasks) :
    w p ≤ owed w tasks :=
  List.single_le_sum (by simpa using fun q _ => h q) _ (List.mem_map_of_mem hp)

theorem owed_eq_owed_iff {v w : P → ℕ} (h : ∀ p, v p ≤ w p) {tasks : List P} :
    owed v tasks = owed w tasks ↔ ∀ p ∈ tasks, v p = w p := by
  induction tasks with
  | nil => simp
  | cons p tasks ih =>
    have hhead := h p
    have htail := owed_le_owed h tasks
    have hv : owed v (p :: tasks) = v p + owed v tasks := List.sum_cons
    have hw : owed w (p :: tasks) = w p + owed w tasks := List.sum_cons
    rw [hv, hw, List.forall_mem_cons, ← ih]
    constructor
    · intro hsum
      omega
    · rintro ⟨hp, hrest⟩
      rw [hp, hrest]

end Order

/-- Tasks standing at program points, and the state they share. -/
structure Pool (P S : Type*) where
  tasks : List P
  shared : S

inductive PoolEvent (N L : Type*) where
  | main (n : N)
  | task (i : ℕ) (l : L)
  deriving DecidableEq, Repr

namespace Pool

variable {S N L : Type*}

def fire (act : P → S → L → Option (P × S)) (pool : Pool P S) (i : ℕ) (l : L) :
    Option (Pool P S) :=
  (pool.tasks[i]?).bind fun p =>
    (act p pool.shared l).map fun out => ⟨pool.tasks.set i out.1, out.2⟩

def advance (main : S → N → Option (S × Option P)) (pool : Pool P S) (n : N) :
    Option (Pool P S) :=
  (main pool.shared n).map fun out => ⟨pool.tasks ++ out.2.toList, out.1⟩

def step (main : S → N → Option (S × Option P)) (act : P → S → L → Option (P × S))
    (pool : Pool P S) : PoolEvent N L → Option (Pool P S)
  | .main n => pool.advance main n
  | .task i l => pool.fire act i l

variable {main : S → N → Option (S × Option P)} {act : P → S → L → Option (P × S)}
  {pool next : Pool P S}

theorem fire_eq_some {i : ℕ} {l : L} :
    pool.fire act i l = some next ↔
      ∃ p q s, pool.tasks[i]? = some p ∧ act p pool.shared l = some (q, s) ∧
        next = ⟨pool.tasks.set i q, s⟩ := by
  simp only [fire, Option.bind_eq_some_iff, Option.map_eq_some_iff, Prod.exists]
  constructor
  · intro h
    obtain ⟨p, hp, q, s, hact, rfl⟩ := h
    exact ⟨p, q, s, hp, hact, rfl⟩
  · intro h
    obtain ⟨p, q, s, hp, hact, rfl⟩ := h
    exact ⟨p, hp, q, s, hact, rfl⟩

theorem advance_eq_some {n : N} :
    pool.advance main n = some next ↔
      ∃ s q, main pool.shared n = some (s, q) ∧ next = ⟨pool.tasks ++ q.toList, s⟩ := by
  simp only [advance, Option.map_eq_some_iff, Prod.exists]
  constructor
  · intro h
    obtain ⟨s, q, hmain, rfl⟩ := h
    exact ⟨s, q, hmain, rfl⟩
  · intro h
    obtain ⟨s, q, hmain, rfl⟩ := h
    exact ⟨s, q, hmain, rfl⟩

/-- A reading of the shared state that every step moves with the weights: a
task's step by the difference of its own, the main thread's by the weight of
the task that joins. -/
structure Balanced {M : Type*} [AddCommGroup M] (main : S → N → Option (S × Option P))
    (act : P → S → L → Option (P × S)) (w : P → M) (reading : S → M) : Prop where
  main : ∀ s n s' q, main s n = some (s', q) → reading s' - reading s = (q.map w).getD 0
  task : ∀ p s l q s', act p s l = some (q, s') → reading s' - reading s = w q - w p

variable {M : Type*} [AddCommGroup M] {w : P → M} {reading : S → M}

theorem Balanced.step (h : Balanced main act w reading) {e : PoolEvent N L}
    (hstep : pool.step main act e = some next) :
    reading next.shared - owed w next.tasks = reading pool.shared - owed w pool.tasks := by
  cases e with
  | main n =>
    obtain ⟨s, q, hmain, rfl⟩ := advance_eq_some.mp hstep
    have hmove := h.main _ n s q hmain
    have hjoin : owed w (pool.tasks ++ q.toList) = owed w pool.tasks + (q.map w).getD 0 := by
      cases q <;> simp
    rw [hjoin, ← hmove]
    abel
  | task i l =>
    obtain ⟨p, q, s, hp, hact, rfl⟩ := fire_eq_some.mp hstep
    have hmove := h.task p _ l q s hact
    rw [owed_set w hp q, ← hmove]
    abel

/-- The run rule: what the reading and the tasks differ by never changes. -/
theorem Balanced.run (h : Balanced main act w reading) {es : List (PoolEvent N L)}
    (run : exec (Pool.step main act) pool es = some next) :
    reading next.shared - owed w next.tasks = reading pool.shared - owed w pool.tasks := by
  refine exec_invariant (I := fun next : Pool P S =>
    reading next.shared - owed w next.tasks = reading pool.shared - owed w pool.tasks) rfl ?_ run
  intro p e q hp hstep
  rw [h.step hstep, hp]

section Order

variable [PartialOrder M] [IsOrderedAddMonoid M]

/-- A reading that no step moves by less than the weights move: what a task gives
up without the reading falling by as much is lost to the tasks, not to the reading. -/
structure Covered (main : S → N → Option (S × Option P)) (act : P → S → L → Option (P × S))
    (w : P → M) (reading : S → M) : Prop where
  main : ∀ s n s' q, main s n = some (s', q) → (q.map w).getD 0 ≤ reading s' - reading s
  task : ∀ p s l q s', act p s l = some (q, s') → w q - w p ≤ reading s' - reading s

theorem Covered.step (h : Covered main act w reading) {e : PoolEvent N L}
    (hstep : pool.step main act e = some next)
    (hcovered : owed w pool.tasks ≤ reading pool.shared) :
    owed w next.tasks ≤ reading next.shared := by
  cases e with
  | main n =>
    obtain ⟨s, q, hmain, rfl⟩ := advance_eq_some.mp hstep
    have hmove := h.main _ n s q hmain
    have hjoin : owed w (pool.tasks ++ q.toList) = owed w pool.tasks + (q.map w).getD 0 := by
      cases q <;> simp
    calc owed w (pool.tasks ++ q.toList)
        ≤ reading pool.shared + (reading s - reading pool.shared) := by
          rw [hjoin]
          exact add_le_add hcovered hmove
      _ = reading s := add_sub_cancel _ _
  | task i l =>
    obtain ⟨p, q, s, hp, hact, rfl⟩ := fire_eq_some.mp hstep
    have hmove := h.task p _ l q s hact
    calc owed w (pool.tasks.set i q)
        ≤ reading pool.shared + (reading s - reading pool.shared) := by
          rw [owed_set w hp q]
          exact add_le_add hcovered hmove
      _ = reading s := add_sub_cancel _ _

theorem Covered.run (h : Covered main act w reading) {es : List (PoolEvent N L)}
    (run : exec (Pool.step main act) pool es = some next)
    (hstart : owed w pool.tasks ≤ reading pool.shared) :
    owed w next.tasks ≤ reading next.shared := by
  refine exec_invariant (I := fun next : Pool P S => owed w next.tasks ≤ reading next.shared)
    hstart ?_ run
  intro p e q hp hstep
  exact h.step hstep hp

end Order

end Pool

end Reprox.Foundations
