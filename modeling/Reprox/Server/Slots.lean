import Reprox.Limits.ConnectionLimiter
import Reprox.Server.AcceptLoop

/-!
# Connection slots of the running front

At every point of its code the loop, and each of its connections, holds a slot
in one of the stages of the connection limiter. Every effect either leaves
these stages alone, hands the loop's slot over to a new task, or is one effect
of the limiter on the slot that fires it. The books of the limiter therefore
stay balanced in every state of the front, whatever the loop goes through.
-/

namespace Reprox.Server

open Foundations Net Config Tls Routing Limits Metrics

/-- The stage of the slot the loop works with. -/
def LoopPoint.slot : LoopPoint → SlotPoint
  | .acquiring => .waiting
  | .permitTaken => .permitTaken
  | .accepting | .accepted _ | .rateAllowed _ | .spawning _ | .dropping _ => .held
  | .decremented _ => .decremented
  | .rejecting _ | .sleeping | .stopped => .released

/-- The stage of a connection's slot; it is dropped after the per-IP slot. -/
def TaskPoint.slot : TaskPoint → SlotPoint
  | .decremented => .decremented
  | .done => .released
  | _ => .held

def ConnTask.slot (t : ConnTask) : SlotPoint := t.point.slot

/-! ## The limiter seen from the front -/

theorem advanceStats_slot {tls : Provider} {p q : TaskPoint} {st st' : Stats} {e : TaskEvent}
    (h : advanceStats tls p st e = some (q, st')) : p.slot = .held ∧ q.slot = .held := by
  cases advanceStats_inv h <;> exact ⟨rfl, rfl⟩

theorem taskStep_slot {tls : Provider} {t t' : ConnTask} {s s' : Shared} {e : TaskEvent}
    (h : taskStep tls t s e = some (t', s')) :
    s'.loop = s.loop ∧ ((s'.connLimiter = s.connLimiter ∧ t'.slot = t.slot) ∨
      ∃ effect, ConnectionLimiter.slotStep t.slot s.connLimiter effect =
        some (t'.slot, s'.connLimiter)) := by
  rcases taskStep_cases h with ⟨hp, rfl, rfl⟩ | ⟨hp, rfl, rfl⟩ | ⟨hp, rfl, rfl⟩ | ⟨hp, rfl, rfl⟩ |
    ⟨q, st, hadvance, rfl, rfl⟩
  · exact ⟨rfl, Or.inl ⟨rfl, by simp [ConnTask.slot, hp, TaskPoint.slot]⟩⟩
  · exact ⟨rfl, Or.inl ⟨rfl, by simp [ConnTask.slot, hp, TaskPoint.slot]⟩⟩
  · exact ⟨rfl, Or.inr ⟨.decrement,
      by simp [ConnTask.slot, hp, TaskPoint.slot, ConnectionLimiter.slotStep]⟩⟩
  · exact ⟨rfl, Or.inr ⟨.releasePermit,
      by simp [ConnTask.slot, hp, TaskPoint.slot, ConnectionLimiter.slotStep]⟩⟩
  · obtain ⟨hheld, hstill⟩ := advanceStats_slot hadvance
    exact ⟨rfl, Or.inl ⟨rfl, hstill.trans hheld.symm⟩⟩

/-- A step of the loop keeps the permit and the count it holds, with what it
hands over to a new task, or is one effect on its slot. -/
theorem loopStep_slot {s s' : Shared} {e : LoopEvent} {t : Option ConnTask}
    (h : s.loopStep e = some (s', t)) :
    (s'.connLimiter = s.connLimiter ∧
      (t.map fun t => t.slot.permit).getD 0 + s'.loop.slot.permit = s.loop.slot.permit ∧
      (t.map fun t => t.slot.counted).getD 0 + s'.loop.slot.counted = s.loop.slot.counted) ∨
    (t = none ∧ ∃ effect, ConnectionLimiter.slotStep s.loop.slot s.connLimiter effect =
      some (s'.loop.slot, s'.connLimiter)) := by
  cases Shared.loopStep_inv h with
  | takePermit hl htake =>
    exact Or.inr ⟨rfl, .takePermit, by simp [hl, LoopPoint.slot, ConnectionLimiter.slotStep, htake]⟩
  | increment hl =>
    exact Or.inr ⟨rfl, .increment, by simp [hl, LoopPoint.slot, ConnectionLimiter.slotStep]⟩
  | decrement hl =>
    exact Or.inr ⟨rfl, .decrement, by simp [hl, LoopPoint.slot, ConnectionLimiter.slotStep]⟩
  | @releasePermit reason hl =>
    refine Or.inr ⟨rfl, .releasePermit, ?_⟩
    cases reason <;> simp [hl, LoopPoint.slot, ConnectionLimiter.slotStep, DropReason.next]
  | spawn hl =>
    refine Or.inl ⟨rfl, ?_⟩
    simp [hl, LoopPoint.slot, ConnTask.slot, TaskPoint.slot, SlotPoint.permit, SlotPoint.counted]
  | _ => exact Or.inl ⟨rfl, by simp [LoopPoint.slot, SlotPoint.permit, SlotPoint.counted, *]⟩

theorem mainStep_slot {s s' : Shared} {n : MainEvent} {t : Option ConnTask}
    (h : s.mainStep n = some (s', t)) :
    (s'.connLimiter = s.connLimiter ∧
      (t.map fun t => t.slot.permit).getD 0 + s'.loop.slot.permit = s.loop.slot.permit ∧
      (t.map fun t => t.slot.counted).getD 0 + s'.loop.slot.counted = s.loop.slot.counted) ∨
    (t = none ∧ ∃ effect, ConnectionLimiter.slotStep s.loop.slot s.connLimiter effect =
      some (s'.loop.slot, s'.connLimiter)) := by
  cases n with
  | loop e => exact loopStep_slot h
  | reload state => cases h; exact Or.inl ⟨rfl, Nat.zero_add _, Nat.zero_add _⟩
  | setIpLimit maxPerIp => cases h; exact Or.inl ⟨rfl, Nat.zero_add _, Nat.zero_add _⟩
  | setRateLimit ratePerSec burst => cases h; exact Or.inl ⟨rfl, Nat.zero_add _, Nat.zero_add _⟩
  | sweep now => cases h; exact Or.inl ⟨rfl, Nat.zero_add _, Nat.zero_add _⟩

/-! ## The two balances -/

/-- Free permits and the loop's own move against the permits of the tasks. -/
theorem front_permits_balanced (tls : Provider) :
    Pool.Balanced Shared.mainStep (taskStep tls) (fun t : ConnTask => -(t.slot.permit : ℤ))
      (fun s => (s.connLimiter.permits : ℤ) + s.loop.slot.permit) where
  main s n s' t h := by
    rcases mainStep_slot h with ⟨hlimiter, hpermit, -⟩ | ⟨rfl, effect, heffect⟩
    · rw [hlimiter]
      cases t <;> simp at hpermit ⊢ <;> omega
    · have hmove := SlotPool.permits_balanced.task _ _ _ _ _ heffect
      rw [Option.map_none, Option.getD_none]
      omega
  task t s e t' s' h := by
    obtain ⟨hloop, ⟨hlimiter, hslot⟩ | ⟨effect, heffect⟩⟩ := taskStep_slot h
    · rw [hloop, hlimiter, hslot, sub_self, sub_self]
    · have hmove := SlotPool.permits_balanced.task _ _ _ _ _ heffect
      rw [hloop]
      linarith

/-- The counter less the loop's own unit moves with the units of the tasks. -/
theorem front_connections_balanced (tls : Provider) :
    Pool.Balanced Shared.mainStep (taskStep tls)
      (fun t : ConnTask => UInt64.ofNat t.slot.counted)
      (fun s => s.connLimiter.connections - UInt64.ofNat s.loop.slot.counted) where
  main s n s' t h := by
    rcases mainStep_slot h with ⟨hlimiter, -, hcounted⟩ | ⟨rfl, effect, heffect⟩
    · rw [hlimiter, ← hcounted, UInt64.ofNat_add]
      cases t with
      | none => simp
      | some t =>
        simp only [Option.map_some, Option.getD_some]
        abel
    · have hmove := SlotPool.connections_balanced.task _ _ _ _ _ heffect
      rw [Option.map_none, Option.getD_none, sub_sub_sub_comm, hmove, sub_self]
  task t s e t' s' h := by
    obtain ⟨hloop, ⟨hlimiter, hslot⟩ | ⟨effect, heffect⟩⟩ := taskStep_slot h
    · rw [hloop, hlimiter, hslot, sub_self, sub_self]
    · have hmove := SlotPool.connections_balanced.task _ _ _ _ _ heffect
      rw [hloop, ← hmove]
      abel

namespace Front

def checkedOut (front : Front) : ℕ :=
  front.shared.loop.slot.permit + owed (fun t : ConnTask => t.slot.permit) front.tasks

def slotsHeld (front : Front) : ℕ :=
  front.shared.loop.slot.counted + owed (fun t : ConnTask => t.slot.counted) front.tasks

/-- Both balances of the limiter, over the loop and its connections. -/
structure Books (permits : Usize) (front : Front) : Prop where
  permits_eq : front.shared.connLimiter.permits + front.checkedOut = permits.toNat
  connections_eq : front.shared.connLimiter.connections.toNat = front.slotsHeld

theorem counted_le_permit (p : SlotPoint) : p.counted ≤ p.permit := by
  cases p <;> decide

theorem slotsHeld_le_checkedOut (front : Front) : front.slotsHeld ≤ front.checkedOut :=
  Nat.add_le_add (counted_le_permit _)
    (owed_le_owed (fun t : ConnTask => counted_le_permit t.slot) front.tasks)

theorem run_books {tls : Provider} {permits maxPerIp : Usize} {ratePerSec : ℚ} {burst : ℕ}
    {state : RouterState} {es : List FrontEvent} {front : Front}
    (run : exec (step tls) (start permits maxPerIp ratePerSec burst state) es = some front) :
    front.Books permits := by
  have hpermits : front.shared.connLimiter.permits + front.checkedOut = permits.toNat := by
    have hsum : owed (fun t : ConnTask => -(t.slot.permit : ℤ)) front.tasks =
        -((owed (fun t : ConnTask => t.slot.permit) front.tasks : ℕ) : ℤ) :=
      (map_owed (fun t : ConnTask => t.slot.permit) (-Nat.castAddMonoidHom ℤ) front.tasks).symm
    have hrun := (front_permits_balanced tls).run run
    have hstart : owed (fun t : ConnTask => -(t.slot.permit : ℤ))
        (start permits maxPerIp ratePerSec burst state).tasks = 0 := rfl
    have hfree : ((start permits maxPerIp ratePerSec burst state).shared.connLimiter.permits : ℤ) +
        (start permits maxPerIp ratePerSec burst state).shared.loop.slot.permit =
          permits.toNat := add_zero _
    rw [hsum, hstart, hfree] at hrun
    unfold checkedOut
    omega
  refine ⟨hpermits, ?_⟩
  have hcount : front.shared.connLimiter.connections = UInt64.ofNat front.slotsHeld := by
    have hrun := (front_connections_balanced tls).run run
    have hzero : (start permits maxPerIp ratePerSec burst state).shared.connLimiter.connections -
        UInt64.ofNat (start permits maxPerIp ratePerSec burst state).shared.loop.slot.counted -
          owed (fun t : ConnTask => UInt64.ofNat t.slot.counted)
            (start permits maxPerIp ratePerSec burst state).tasks = 0 :=
      show (0 : UInt64) - UInt64.ofNat 0 - 0 = 0 by decide
    rw [hzero, sub_sub, sub_eq_zero] at hrun
    rw [hrun, slotsHeld, UInt64.ofNat_add]
    exact congrArg _ (map_owed (fun t : ConnTask => t.slot.counted) SlotPool.ofNatHom
      front.tasks).symm
  have hle := front.slotsHeld_le_checkedOut
  have hwidth := permits.toNat_lt
  rw [hcount, UInt64.toNat_ofNat']
  apply Nat.mod_eq_of_lt
  omega

/-! ## The gauge of free slots -/

def liveTasks (front : Front) : ℕ := front.tasks.countP fun t => !t.point.isDone

/-- However the loop goes on by itself, it accepts nobody: a newly arriving
connection waits until some task gives its slot back. -/
def MustQueue (tls : Provider) (front : Front) : Prop :=
  ∀ (es : List LoopEvent) (next : Front),
    exec (step tls) front (es.map fun e => .main (.loop e)) = some next →
      ∀ peer, .acceptOk peer ∉ es

/-- The reported number of free slots is what the connections being served
leave over, and is zero exactly when a new one would have to queue. -/
structure GaugeExact (tls : Provider) (permits : Usize) (front : Front) : Prop where
  available : (front.shared.connLimiter.connectionsAvailable permits).toNat + front.liveTasks =
    permits.toNat
  zero_iff : front.shared.connLimiter.connectionsAvailable permits = 0 ↔ front.MustQueue tls

/-- With no slot halfway through its release the tasks hold one slot each. -/
theorem owed_counted_eq_liveTasks {front : Front}
    (hidle : ∀ t ∈ front.tasks, t.point ≠ .decremented) :
    owed (fun t : ConnTask => t.slot.counted) front.tasks = front.liveTasks := by
  apply owed_eq_countP
  intro t ht
  unfold ConnTask.slot
  cases hpoint : t.point with
  | decremented => exact absurd hpoint (hidle t ht)
  | _ => rfl

theorem owed_permit_eq_liveTasks {front : Front} :
    owed (fun t : ConnTask => t.slot.permit) front.tasks = front.liveTasks := by
  apply owed_eq_countP
  intro t _
  unfold ConnTask.slot
  cases t.point <;> rfl

theorem mustQueue_iff {tls : Provider} {front : Front} (hloop : front.shared.loop = .acquiring) :
    front.MustQueue tls ↔ front.shared.connLimiter.permits = 0 := by
  constructor
  · intro hqueue
    by_contra hfree
    have hrun : ∃ next, exec (step tls) front
        (([.takePermit, .increment, .acceptOk (.v4 ⟨0, 0, 0, 0⟩ 0)] : List LoopEvent).map
          fun e => .main (.loop e)) = some next := by
      simp [exec_cons, step, Pool.step, Pool.advance, Shared.mainStep, Shared.loopStep, hloop,
        ConnectionLimiter.takePermit, hfree]
    obtain ⟨next, hnext⟩ := hrun
    exact hqueue _ next hnext (.v4 ⟨0, 0, 0, 0⟩ 0) (by simp)
  · intro hfull es next run peer
    cases es with
    | nil => simp
    | cons e es =>
      obtain ⟨mid, hstep, hrest⟩ := exec_cons_eq_some.mp run
      obtain ⟨s, q, hmain, rfl⟩ := Pool.advance_eq_some.mp hstep
      have hcancel : e = .cancel ∧ s.loop = .stopped := by
        simp only [Shared.mainStep, Shared.loopStep, hloop] at hmain
        cases e with
        | takePermit => simp [ConnectionLimiter.takePermit, hfull] at hmain
        | cancel =>
          cases hmain
          exact ⟨rfl, rfl⟩
        | _ => cases hmain
      cases es with
      | nil => simp [hcancel.1]
      | cons e' es =>
        obtain ⟨_, hstep', -⟩ := exec_cons_eq_some.mp hrest
        obtain ⟨s', q', hmain', -⟩ := Pool.advance_eq_some.mp hstep'
        simp [Shared.mainStep, Shared.loopStep_of_stopped hcancel.2] at hmain'

/-- The gauge is exact while the loop waits for a slot. While it waits in
`accept` it has already taken the next connection's slot, and the gauge shows
one free slot less than there are. -/
theorem gauge_exact_iff {tls : Provider} {permits maxPerIp : Usize} {ratePerSec : ℚ} {burst : ℕ}
    {state : RouterState} {es : List FrontEvent} {front : Front}
    (run : exec (step tls) (start permits maxPerIp ratePerSec burst state) es = some front)
    (hwaiting : front.shared.loop = .acquiring ∨ front.shared.loop = .accepting)
    (hidle : ∀ t ∈ front.tasks, t.point ≠ .decremented) :
    front.GaugeExact tls permits ↔ front.shared.loop = .acquiring := by
  obtain ⟨hpermits, hconnections⟩ := run_books run
  have havailable : (front.shared.connLimiter.connectionsAvailable permits).toNat =
      permits.toNat - front.shared.connLimiter.connections.toNat :=
    toNat_saturatingSub permits front.shared.connLimiter.connections
  simp only [checkedOut, owed_permit_eq_liveTasks] at hpermits
  simp only [slotsHeld, owed_counted_eq_liveTasks hidle] at hconnections
  rcases hwaiting with hloop | hloop
  · simp only [hloop, LoopPoint.slot, SlotPoint.permit, SlotPoint.counted, zero_add]
      at hpermits hconnections
    refine iff_of_true ⟨by omega, ?_⟩ hloop
    rw [mustQueue_iff hloop, ← UInt64.toNat_inj, havailable, UInt64.toNat_zero]
    omega
  · simp only [hloop, LoopPoint.slot, SlotPoint.permit, SlotPoint.counted]
      at hpermits hconnections
    apply iff_of_false
    · intro hexact
      have hsum := hexact.available
      omega
    · rw [hloop]
      simp

def acceptOne (peer : SocketAddr) : List FrontEvent :=
  [.main (.loop .takePermit), .main (.loop .increment), .main (.loop (.acceptOk peer)),
    .main (.loop (.checkRate 0)), .main (.loop .checkIp), .main (.loop .spawn)]

theorem gauge_exact_iff_one_slot :
    ∃ front, exec (step .accepting) (start 1 0 0 10 minimal.shared.router)
        (acceptOne (.v4 ⟨203, 0, 113, 5⟩ 50000)) = some front ∧
      (front.GaugeExact .accepting 1 ↔ front.shared.loop = .acquiring) := by
  have hrun : ∃ front, exec (step .accepting) (start 1 0 0 10 minimal.shared.router)
      (acceptOne (.v4 ⟨203, 0, 113, 5⟩ 50000)) = some front ∧ front.shared.loop = .acquiring ∧
        ∀ t ∈ front.tasks, t.point ≠ .decremented := by
    refine ⟨_, rfl, rfl, ?_⟩
    intro t ht
    rw [List.mem_singleton.mp ht]
    nofun
  obtain ⟨front, run, hloop, hidle⟩ := hrun
  exact ⟨front, run, gauge_exact_iff run (Or.inl hloop) hidle⟩

/-- One slot, nobody connected and the loop in `accept`: the gauge reads zero
although the next connection is served at once. -/
theorem gauge_exact_fails :
    ∃ front, exec (step .accepting) (start 1 0 0 10 minimal.shared.router)
        [.main (.loop .takePermit), .main (.loop .increment)] = some front ∧
      front.shared.loop = .accepting ∧ front.tasks = [] ∧ ¬front.GaugeExact .accepting 1 := by
  refine ⟨_, rfl, rfl, rfl, ?_⟩
  intro h
  exact absurd h.available (by decide)

end Front

end Reprox.Server
