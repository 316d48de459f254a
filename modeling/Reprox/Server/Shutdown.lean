import Reprox.Server.Slots

/-!
# Graceful shutdown

`main` cancels the accept loop at one of its await points, which gives back
the slot the loop holds, and then polls the connection counter until it is zero
or the grace period is over. Connections go on meanwhile. Once the loop has
stopped the counter is the number of connections that still hold their slot, so
the polls neither miss one nor wait for one that is not there.
-/

namespace Reprox.Server

open Foundations Net Config Tls Routing Limits Metrics

/-- `SHUTDOWN_GRACE`, in seconds. -/
def shutdownGrace : ℚ := 30

/-- `Semaphore::MAX_PERMITS`; `Semaphore::new` panics on a larger number. -/
def maxPermits : ℕ := 2 ^ 61 - 1

/-- How far `main` has come. -/
inductive Drain where
  /-- In `select!`, with the accept loop. -/
  | serving
  /-- Between two polls of `wait_for_drain`. -/
  | waiting (deadline : ℚ)
  /-- `wait_for_drain` returned at `now`, with its last reading of the counter. -/
  | returned (now deadline : ℚ) (active : Int64)
  deriving DecidableEq

structure Shutdown where
  front : Front
  drain : Drain

inductive ShutdownEvent where
  | front (e : FrontEvent)
  | waitForDrain (now : ℚ)
  | poll (now : ℚ)

namespace Shutdown

def start (permits maxPerIp : Usize) (ratePerSec : ℚ) (burst : ℕ) (state : RouterState) :
    Shutdown :=
  ⟨.start permits maxPerIp ratePerSec burst state, .serving⟩

/-- The process ends when `wait_for_drain` returns. -/
def step (tls : Provider) (sd : Shutdown) : ShutdownEvent → Option Shutdown
  | .front e =>
    match sd.drain with
    | .returned _ _ _ => none
    | .serving | .waiting _ => (sd.front.step tls e).map fun front => { sd with front }
  | .waitForDrain now =>
    match sd.drain, sd.front.shared.loop with
    | .serving, .stopped => some { sd with drain := .waiting (now + shutdownGrace) }
    | _, _ => none
  | .poll now =>
    match sd.drain with
    | .waiting deadline =>
      let active := sd.front.shared.connLimiter.activeConnections
      if active ≤ 0 then some { sd with drain := .returned now deadline active }
      else if deadline ≤ now then some { sd with drain := .returned now deadline active }
      else some sd
    | _ => none

end Shutdown

def Front.unreleased (front : Front) : ℕ := front.tasks.countP fun t => t.slot = .held

namespace Shutdown

variable {tls : Provider} {permits maxPerIp : Usize} {ratePerSec : ℚ} {burst : ℕ}
  {state : RouterState}

theorem step_stopped {front next : Front} {e : FrontEvent} (h : front.step tls e = some next)
    (hstopped : front.shared.loop = .stopped) : next.shared.loop = .stopped := by
  cases e with
  | main n =>
    obtain ⟨s, q, hmain, rfl⟩ := Pool.advance_eq_some.mp h
    cases n with
    | loop e => simp [Shared.mainStep, Shared.loopStep_of_stopped hstopped] at hmain
    | _ =>
      cases hmain
      exact hstopped
  | task i e =>
    obtain ⟨t, t', s, -, hact, rfl⟩ := Pool.fire_eq_some.mp h
    exact (taskStep_slot hact).1.trans hstopped

/-- What holds of the shutdown in every state: its front has been reached, the
loop has stopped before anything waits, and a return has read the counter. -/
structure Invariant (tls : Provider) (permits maxPerIp : Usize) (ratePerSec : ℚ) (burst : ℕ)
    (state : RouterState) (sd : Shutdown) : Prop where
  reached : ∃ es, exec (Front.step tls) (.start permits maxPerIp ratePerSec burst state) es =
    some sd.front
  waiting : ∀ deadline, sd.drain = .waiting deadline → sd.front.shared.loop = .stopped
  returned : ∀ now deadline active, sd.drain = .returned now deadline active →
    sd.front.shared.loop = .stopped ∧
      active = sd.front.shared.connLimiter.activeConnections ∧ (active ≤ 0 ∨ deadline ≤ now)

theorem step_front {sd next : Shutdown} {e : FrontEvent}
    (hstep : sd.step tls (.front e) = some next) :
    ∃ front, sd.front.step tls e = some front ∧ next = { sd with front } ∧
      ∀ now deadline active, sd.drain ≠ .returned now deadline active := by
  obtain ⟨front, drain⟩ := sd
  cases drain with
  | returned now deadline active => cases hstep
  | _ =>
    obtain ⟨front', hfront', rfl⟩ := Option.map_eq_some_iff.mp hstep
    exact ⟨front', hfront', rfl, nofun⟩

theorem step_poll {sd next : Shutdown} {now : ℚ} (hstep : sd.step tls (.poll now) = some next) :
    ∃ deadline, sd.drain = .waiting deadline ∧
      (next = sd ∨ ∃ active, next = { sd with drain := .returned now deadline active } ∧
        active = sd.front.shared.connLimiter.activeConnections ∧
          (active ≤ 0 ∨ deadline ≤ now)) := by
  obtain ⟨front, drain⟩ := sd
  cases drain with
  | waiting deadline =>
    refine ⟨deadline, rfl, ?_⟩
    simp only [step] at hstep
    split_ifs at hstep with hactive hdeadline
    · exact Or.inr ⟨_, (Option.some.inj hstep).symm, rfl, Or.inl hactive⟩
    · exact Or.inr ⟨_, (Option.some.inj hstep).symm, rfl, Or.inr hdeadline⟩
    · exact Or.inl (Option.some.inj hstep).symm
  | _ => cases hstep

theorem step_invariant {sd next : Shutdown} {e : ShutdownEvent}
    (h : sd.Invariant tls permits maxPerIp ratePerSec burst state)
    (hstep : sd.step tls e = some next) :
    next.Invariant tls permits maxPerIp ratePerSec burst state := by
  cases e with
  | front e =>
    obtain ⟨es, hrun⟩ := h.reached
    obtain ⟨front, hfront, rfl, hopen⟩ := step_front hstep
    refine ⟨⟨es ++ [e], exec_concat_eq_some.mpr ⟨sd.front, hrun, hfront⟩⟩, ?_, ?_⟩
    · intro deadline hdrain
      exact step_stopped hfront (h.waiting deadline hdrain)
    · intro now deadline active hdrain
      exact absurd hdrain (hopen now deadline active)
  | waitForDrain now =>
    simp only [step] at hstep
    split at hstep
    · next hloop =>
      cases hstep
      exact ⟨h.reached, fun _ _ => hloop, nofun⟩
    · cases hstep
  | poll now =>
    obtain ⟨deadline, hdrain, rfl | ⟨active, rfl, hactive, hreason⟩⟩ := step_poll hstep
    · exact h
    · refine ⟨h.reached, nofun, ?_⟩
      intro _ _ _ hreturned
      cases hreturned
      exact ⟨h.waiting deadline hdrain, hactive, hreason⟩

theorem run_invariant {es : List ShutdownEvent} {sd : Shutdown}
    (run : exec (step tls) (start permits maxPerIp ratePerSec burst state) es = some sd) :
    sd.Invariant tls permits maxPerIp ratePerSec burst state :=
  exec_invariant (I := Invariant tls permits maxPerIp ratePerSec burst state)
    ⟨⟨[], rfl⟩, fun _ h => Drain.noConfusion h, fun _ _ _ h => Drain.noConfusion h⟩
    (fun _ _ _ h hstep => step_invariant h hstep) run

/-- Without the loop the counter is the number of unreleased connections. -/
theorem Invariant.activeConnections_eq {sd : Shutdown}
    (h : sd.Invariant tls permits maxPerIp ratePerSec burst state)
    (hpermits : permits.toNat ≤ maxPermits) (hstopped : sd.front.shared.loop = .stopped) :
    sd.front.shared.connLimiter.activeConnections.toInt = sd.front.unreleased := by
  obtain ⟨es, hrun⟩ := h.reached
  obtain ⟨hbound, hconnections⟩ := Front.run_books hrun
  have hle := sd.front.slotsHeld_le_checkedOut
  have hcount : sd.front.slotsHeld = sd.front.unreleased := by
    have howed : owed (fun t : ConnTask => t.slot.counted) sd.front.tasks =
        sd.front.unreleased := by
      apply owed_eq_countP
      intro t _
      cases t.slot <;> rfl
    rw [Front.slotsHeld, howed, hstopped]
    exact Nat.zero_add _
  rw [ConnectionLimiter.activeConnections_toInt, hconnections, hcount]
  unfold maxPermits at hpermits
  omega

/-- Once the loop has stopped, the counter is the number of connections that
still hold their slot. So `wait_for_drain` returns before its deadline only
when none does, and a poll that finds none returns. -/
theorem drain_exact (hpermits : permits.toNat ≤ maxPermits) {es : List ShutdownEvent}
    {sd : Shutdown}
    (run : exec (step tls) (start permits maxPerIp ratePerSec burst state) es = some sd) :
    (sd.front.shared.loop = .stopped →
      sd.front.shared.connLimiter.activeConnections.toInt = sd.front.unreleased) ∧
    (∀ now deadline active, sd.drain = .returned now deadline active → now < deadline →
      sd.front.shared.loop = .stopped ∧ sd.front.unreleased = 0) ∧
    (∀ deadline now, sd.drain = .waiting deadline → sd.front.unreleased = 0 →
      ∃ active, sd.step tls (.poll now) = some { sd with drain := .returned now deadline active }) := by
  have hinv := run_invariant run
  refine ⟨hinv.activeConnections_eq hpermits, ?_, ?_⟩
  · intro now deadline active hdrain hbefore
    obtain ⟨hstopped, hactive, hreason⟩ := hinv.returned now deadline active hdrain
    have hread := hinv.activeConnections_eq hpermits hstopped
    have hzero : active ≤ 0 := hreason.resolve_right (not_le.mpr hbefore)
    rw [Int64.le_iff_toInt_le, hactive, hread, Int64.toInt_zero] at hzero
    exact ⟨hstopped, by omega⟩
  · intro deadline now hdrain hnone
    have hread := hinv.activeConnections_eq hpermits (hinv.waiting deadline hdrain)
    have hzero : sd.front.shared.connLimiter.activeConnections ≤ 0 := by
      rw [Int64.le_iff_toInt_le, hread, hnone, Int64.toInt_zero]
      exact le_rfl
    refine ⟨sd.front.shared.connLimiter.activeConnections, ?_⟩
    simp only [step, hdrain, if_pos hzero]

/-- A connection is spawned, the loop is cancelled with the next slot in its hands,
and the connection ends between the two polls. -/
def straggler : List ShutdownEvent :=
  let spawned : List FrontEvent := Front.acceptOne (.v4 ⟨203, 0, 113, 5⟩ 50000)
  let cancelled : List FrontEvent :=
    [.main (.loop .takePermit), .main (.loop .increment), .main (.loop .cancel),
      .main (.loop .decrement), .main (.loop .releasePermit)]
  let timedOut : List FrontEvent :=
    [.task 0 .snapshot, .task 0 (.probed .timedOut), .task 0 .proceed, .task 0 .proceed,
      .task 0 .proceed, .task 0 .proceed]
  (spawned ++ cancelled).map .front ++ [.waitForDrain 0, .poll 1] ++ timedOut.map .front ++
    [.poll 2]

theorem drain_exact_cancelled_accept :
    ∃ polled sd, exec (step .accepting) (start 2 0 0 10 Front.minimal.shared.router)
        (straggler.take 13) = some polled ∧
      polled.front.shared.connLimiter.activeConnections.toInt = 1 ∧ polled.front.unreleased = 1 ∧
      exec (step .accepting) (start 2 0 0 10 Front.minimal.shared.router) straggler = some sd ∧
      sd.front.shared.loop = .stopped ∧ sd.front.unreleased = 0 := by
  have hpolled : ∃ polled ∈ exec (step .accepting) (start 2 0 0 10 Front.minimal.shared.router)
      (straggler.take 13), polled.front.shared.loop = .stopped ∧ polled.front.unreleased = 1 := by
    decide +kernel
  have hrun : ∃ sd ∈ exec (step .accepting) (start 2 0 0 10 Front.minimal.shared.router) straggler,
      sd.drain = .returned 2 shutdownGrace 0 := by decide +kernel
  obtain ⟨polled, before, hstopped, hone⟩ := hpolled
  obtain ⟨sd, run, hdrain⟩ := hrun
  have hcounted := (drain_exact (by decide) before).1 hstopped
  rw [hone] at hcounted
  obtain ⟨-, hreturned, -⟩ := drain_exact (by decide) run
  exact ⟨polled, sd, before, hcounted, hone, run,
    hreturned 2 shutdownGrace 0 hdrain (by norm_num [shutdownGrace])⟩

end Shutdown

end Reprox.Server
