import Reprox.Server.Shutdown

/-!
# How long a shutdown takes

`wait_for_drain` polls until the connections are gone or its deadline is over,
and sleeps between two polls. So whatever the connections do meanwhile, it polls
a limited number of times, none of them after the first at or past the deadline,
and the process ends.
-/

namespace Reprox.Server

open Foundations Net Config Tls Routing Limits Metrics

/-- `POLL_INTERVAL`, in seconds. -/
def pollInterval : ℚ := 1 / 5

def pollTimes (es : List ShutdownEvent) : List ℚ :=
  es.filterMap fun
    | .poll now => some now
    | .waitForDrain _ | .front _ => none

def waitTimes (es : List ShutdownEvent) : List ℚ :=
  es.filterMap fun
    | .waitForDrain now => some now
    | .poll _ | .front _ => none

/-- The polls come after `wait_for_drain` was entered, with a sleep between any two. -/
structure Paced (es : List ShutdownEvent) : Prop where
  entered : ∀ start ∈ waitTimes es, ∀ now ∈ pollTimes es, start ≤ now
  sleeps : (pollTimes es).IsChain fun earlier now => earlier + pollInterval ≤ now

/-- Readings that are a gap apart take up the gaps between them. -/
theorem le_getLast_of_isChain {K : Type*} [Field K] [LinearOrder K] [IsStrictOrderedRing K]
    {gap first : K} {times : List K}
    (h : (first :: times).IsChain fun earlier now => earlier + gap ≤ now) :
    first + times.length * gap ≤ (first :: times).getLast (List.cons_ne_nil first times) := by
  induction times generalizing first with
  | nil => simp
  | cons second times ih =>
    obtain ⟨hgap, hrest⟩ := List.isChain_cons_cons.mp h
    have hlast := ih hrest
    rw [List.getLast_cons (List.cons_ne_nil second times), List.length_cons]
    push_cast
    linarith

namespace Shutdown

variable {tls : Provider} {permits maxPerIp : Usize} {ratePerSec : ℚ} {burst : ℕ}
  {state : RouterState}

/-- Where the polls of a run stand: those that did not return came before the deadline. -/
def PollsSoFar (es : List ShutdownEvent) (sd : Shutdown) : Prop :=
  match sd.drain with
  | .serving => pollTimes es = []
  | .waiting deadline =>
    deadline - shutdownGrace ∈ waitTimes es ∧ ∀ now ∈ pollTimes es, now < deadline
  | .returned now deadline _ =>
    deadline - shutdownGrace ∈ waitTimes es ∧
      ∃ earlier, pollTimes es = earlier ++ [now] ∧ ∀ now ∈ earlier, now < deadline

theorem step_pollsSoFar {es : List ShutdownEvent} {sd next : Shutdown} {e : ShutdownEvent}
    (h : PollsSoFar es sd) (hstep : sd.step tls e = some next) : PollsSoFar (es ++ [e]) next := by
  cases e with
  | front e =>
    obtain ⟨front, -, rfl, -⟩ := step_front hstep
    have hpolls : pollTimes (es ++ [.front e]) = pollTimes es := by simp [pollTimes]
    have hwaits : waitTimes (es ++ [.front e]) = waitTimes es := by simp [waitTimes]
    rw [PollsSoFar, hpolls, hwaits]
    exact h
  | waitForDrain now =>
    obtain ⟨front, drain⟩ := sd
    simp only [step] at hstep
    split at hstep
    · cases hstep
      have hnone : pollTimes es = [] := h
      have hpolls : pollTimes (es ++ [.waitForDrain now]) = pollTimes es := by simp [pollTimes]
      refine ⟨by simp [waitTimes], ?_⟩
      rw [hpolls, hnone]
      simp
    · cases hstep
  | poll now =>
    obtain ⟨front, drain⟩ := sd
    have hpolls : pollTimes (es ++ [.poll now]) = pollTimes es ++ [now] := by simp [pollTimes]
    have hwaits : waitTimes (es ++ [.poll now]) = waitTimes es := by simp [waitTimes]
    cases drain with
    | serving => cases hstep
    | returned _ _ _ => cases hstep
    | waiting deadline =>
      obtain ⟨hentered, hearlier⟩ := h
      simp only [step] at hstep
      split_ifs at hstep with hactive hdeadline
      · cases hstep
        exact ⟨hwaits ▸ hentered, pollTimes es, hpolls, hearlier⟩
      · cases hstep
        exact ⟨hwaits ▸ hentered, pollTimes es, hpolls, hearlier⟩
      · cases hstep
        refine ⟨hwaits ▸ hentered, ?_⟩
        rw [hpolls]
        intro t ht
        rcases List.mem_append.mp ht with ht | ht
        · exact hearlier t ht
        · rw [List.mem_singleton.mp ht]
          exact not_le.mp hdeadline

theorem run_pollsSoFar {es : List ShutdownEvent} {sd : Shutdown}
    (run : exec (step tls) (start permits maxPerIp ratePerSec burst state) es = some sd) :
    PollsSoFar es sd := by
  have hstart : PollsSoFar [] (start permits maxPerIp ratePerSec burst state) := rfl
  exact exec_history hstart (fun _ _ _ _ h hstep => step_pollsSoFar h hstep) run

theorem length_le_of_spaced {start : ℚ} {times : List ℚ}
    (hsleeps : times.IsChain fun earlier now => earlier + pollInterval ≤ now)
    (hstart : ∀ now ∈ times, start ≤ now) (hend : ∀ now ∈ times, now < start + shutdownGrace) :
    times.length ≤ 150 := by
  cases times with
  | nil => exact Nat.zero_le _
  | cons first times =>
    have hgaps := le_getLast_of_isChain hsleeps
    have hfirst := hstart first List.mem_cons_self
    have hlast := hend _ (List.getLast_mem (List.cons_ne_nil first times))
    have hlt : (times.length : ℚ) < 150 := by
      unfold pollInterval shutdownGrace at *
      linarith
    rw [List.length_cons]
    exact_mod_cast hlt

/-- A shutdown ends. With a sleep between any two polls, `wait_for_drain` polls
151 times at most, whatever the connections do; only its last poll can come at the
deadline or later, and no poll from the deadline on goes on waiting. -/
theorem drain_bounded {es : List ShutdownEvent} {sd : Shutdown}
    (run : exec (step tls) (start permits maxPerIp ratePerSec burst state) es = some sd)
    (hpaced : Paced es) :
    (pollTimes es).length ≤ 151 ∧
    (∀ now deadline active, sd.drain = .returned now deadline active →
      ∃ earlier, pollTimes es = earlier ++ [now] ∧ ∀ t ∈ earlier, t < deadline) ∧
    (∀ deadline now, sd.drain = .waiting deadline → deadline ≤ now →
      ∃ active, sd.step tls (.poll now) = some { sd with drain := .returned now deadline active }) := by
  have hpolls := run_pollsSoFar run
  obtain ⟨front, drain⟩ := sd
  refine ⟨?_, ?_, ?_⟩
  · cases drain with
    | serving =>
      have hnone : pollTimes es = [] := hpolls
      simp [hnone]
    | waiting deadline =>
      obtain ⟨hentered, hbefore⟩ := hpolls
      have hroom : (pollTimes es).length ≤ 150 :=
        length_le_of_spaced hpaced.sleeps (hpaced.entered _ hentered) (by simpa using hbefore)
      omega
    | returned now deadline active =>
      obtain ⟨hentered, earlier, hsplit, hbefore⟩ := hpolls
      have hsleeps := hpaced.sleeps
      rw [hsplit] at hsleeps
      have hafter : ∀ t ∈ earlier, deadline - shutdownGrace ≤ t := by
        intro t ht
        refine hpaced.entered _ hentered t ?_
        rw [hsplit]
        exact List.mem_append_left _ ht
      have hroom : earlier.length ≤ 150 :=
        length_le_of_spaced (List.isChain_append.mp hsleeps).1 hafter (by simpa using hbefore)
      rw [hsplit, List.length_append, List.length_singleton]
      omega
  · intro now deadline active hdrain
    cases hdrain
    exact hpolls.2
  · intro deadline now hdrain hover
    cases hdrain
    simp only [step]
    split_ifs with hactive
    · exact ⟨_, rfl⟩
    · exact ⟨_, rfl⟩

/-- The first poll finds the connection that ends before the second. -/
theorem drain_bounded_straggler :
    ∃ sd, exec (step .accepting) (start 2 0 0 10 Front.minimal.shared.router) straggler = some sd ∧
      pollTimes straggler = [1, 2] ∧
      (pollTimes straggler).length ≤ 151 ∧
      (∀ now deadline active, sd.drain = .returned now deadline active →
        ∃ earlier, pollTimes straggler = earlier ++ [now] ∧ ∀ t ∈ earlier, t < deadline) ∧
      (∀ deadline now, sd.drain = .waiting deadline → deadline ≤ now → ∃ active,
        sd.step .accepting (.poll now) = some { sd with drain := .returned now deadline active }) := by
  have hrun : (exec (step .accepting) (start 2 0 0 10 Front.minimal.shared.router)
      straggler).isSome := by decide +kernel
  obtain ⟨sd, run⟩ := Option.isSome_iff_exists.mp hrun
  have hpolls : pollTimes straggler = [1, 2] := rfl
  have hwaits : waitTimes straggler = [0] := rfl
  refine ⟨sd, run, hpolls, drain_bounded run ⟨?_, ?_⟩⟩
  · simp [hpolls, hwaits]
  · norm_num [hpolls, pollInterval]

end Shutdown

end Reprox.Server
