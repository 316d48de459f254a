import Reprox.Server.PerIp
import Reprox.Server.Slots

/-!
# What connections leave behind

Nothing that a connection takes outlives it. However the connections of a run
ended, and whatever was reloaded meanwhile, once they all have ended the permits,
the counter, the gauges and the per-IP table are as if none of them had been
there, but for what the accept loop has taken for the next. The semaphore alone
tells whether they have.
-/

namespace Reprox.Server

open Foundations Net Config Tls Routing Limits Metrics

namespace Front

variable {tls : Provider} {permits maxPerIp : Usize} {ratePerSec : ℚ} {burst : ℕ}
  {state : RouterState} {es : List FrontEvent} {front : Front}

structure AtRest (permits : Usize) (front : Front) : Prop where
  permits_eq : front.shared.connLimiter.permits + front.shared.loop.slot.permit = permits.toNat
  connections_eq : front.shared.connLimiter.connections.toNat = front.shared.loop.slot.counted
  active_eq : ∀ route, (front.shared.stats.ofRoute route).active = 0
  tracked : ∀ ip n, front.shared.ipLimiter.slots.get? ip = some n →
    front.shared.loop.holds ip = true ∧ n = 1

theorem quiet_iff_liveTasks : front.Quiet ↔ front.liveTasks = 0 := by
  simp [Quiet, liveTasks, List.countP_eq_zero, TaskPoint.isDone_iff]

theorem atRest_of_quiet
    (run : exec (step tls) (start permits maxPerIp ratePerSec burst state) es = some front)
    (hquiet : front.Quiet) : front.AtRest permits := by
  obtain ⟨hpermits, hconnections⟩ := run_books run
  have hnone := quiet_iff_liveTasks.mp hquiet
  have hidle : ∀ t ∈ front.tasks, t.point ≠ .decremented := by
    intro t ht
    rw [hquiet t ht]
    nofun
  constructor
  case permits_eq => rwa [checkedOut, owed_permit_eq_liveTasks, hnone, add_zero] at hpermits
  case connections_eq =>
    rwa [slotsHeld, owed_counted_eq_liveTasks hidle, hnone, add_zero] at hconnections
  case active_eq =>
    intro route
    have hreading := reading_of_quiet run hquiet (.active route)
    simpa [Account.reading, Account.ofStats] using hreading
  case tracked =>
    intro ip n hn
    obtain ⟨-, hpos, hle⟩ := entry_le_held run hn
    rw [held_of_quiet hquiet] at hle
    by_cases hholds : front.shared.loop.holds ip = true
    · rw [if_pos hholds] at hle
      exact ⟨hholds, UInt64.toNat_inj.mp (le_antisymm hle hpos)⟩
    · rw [if_neg hholds] at hle
      omega

/-- The connections have ended exactly when all permits but the loop's own are
back, and then everything else that they took is back too. -/
theorem everything_given_back
    (run : exec (step tls) (start permits maxPerIp ratePerSec burst state) es = some front) :
    (front.Quiet ↔
      front.shared.connLimiter.permits + front.shared.loop.slot.permit = permits.toNat) ∧
    (front.Quiet → front.AtRest permits) := by
  refine ⟨⟨fun hquiet => (atRest_of_quiet run hquiet).permits_eq, fun hback => ?_⟩,
    atRest_of_quiet run⟩
  have hpermits := (run_books run).permits_eq
  rw [checkedOut, owed_permit_eq_liveTasks] at hpermits
  exact quiet_iff_liveTasks.mpr (by omega)

/-- One visitor is tracked, served and gone, and the loop waits in `accept` for the
next. -/
theorem everything_given_back_visit :
    ∃ front, exec (step .accepting) (start 2 1 0 10 minimal.shared.router)
        (visit (.v4 ⟨203, 0, 113, 5⟩ 50000) ++
          [.main (.loop .takePermit), .main (.loop .increment)]) = some front ∧
      front.tasks.length = 1 ∧ front.shared.loop = .accepting ∧
      (front.Quiet ↔
        front.shared.connLimiter.permits + front.shared.loop.slot.permit = 2) ∧
      front.AtRest 2 := by
  have hrun : ∃ front ∈ exec (step .accepting) (start 2 1 0 10 minimal.shared.router)
      (visit (.v4 ⟨203, 0, 113, 5⟩ 50000) ++
        [.main (.loop .takePermit), .main (.loop .increment)]),
      front.tasks.length = 1 ∧ front.shared.loop = .accepting ∧ front.Quiet := by
    decide +kernel
  obtain ⟨front, run, hone, hloop, hquiet⟩ := hrun
  obtain ⟨hiff, hrest⟩ := everything_given_back run
  exact ⟨front, run, hone, hloop, hiff, hrest hquiet⟩

end Front

end Reprox.Server
