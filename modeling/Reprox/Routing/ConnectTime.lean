import Reprox.Routing.Backoff

/-!
# How long a connect may take

Every attempt to connect is cut off by a timeout and every retry waits for its
delay, so a connect that nothing answers holds its connection for a time that the
policy alone determines. Time is that of the runtime's timers: a sleep takes its
delay, and a timeout ends when what it waits for does or else at its limit.
-/

namespace Reprox.Routing

open Foundations Config Metrics

/-- What a connect comes to if it is waited for: its result after that many
nanoseconds, or nothing ever. -/
abbrev Connecting (Stream : Type) := Option (ℕ × Except Text Stream)

section Timeout

variable {Stream : Type}

def Connecting.Answers (limit : Duration) (connecting : Connecting Stream) : Prop :=
  ∃ took result, connecting = some (took, result) ∧ took ≤ limit.nanos

/-- `tokio::time::timeout` of a connect, with the time it takes. -/
def timeout (limit : Duration) : Connecting Stream → ConnectOutcome Stream × ℕ
  | some (took, result) =>
    if took ≤ limit.nanos then
      match result with
      | .ok stream => (.connected stream, took)
      | .error e => (.failed e, took)
    else (.timedOut, limit.nanos)
  | none => (.timedOut, limit.nanos)

theorem timeout_le (limit : Duration) (connecting : Connecting Stream) :
    (timeout limit connecting).2 ≤ limit.nanos := by
  unfold timeout
  split
  · split_ifs with hin
    · split <;> exact hin
    · exact le_rfl
  · exact le_rfl

theorem timeout_of_not_answers {limit : Duration} {connecting : Connecting Stream}
    (h : ¬connecting.Answers limit) : timeout limit connecting = (.timedOut, limit.nanos) := by
  unfold timeout
  split
  · rename_i took result
    rw [if_neg fun hin => h ⟨took, result, rfl, hin⟩]
  · rfl

end Timeout

/-! ## The connect with a clock -/

section Clock

variable {Stream : Type} (endpoint : Text) (policy : ConnectRetryPolicy)
  (service : UInt32 → Connecting Stream)

def outcomeOf (n : UInt32) : ConnectOutcome Stream := (timeout policy.attemptTimeout (service n)).1

/-- The time attempt `n` takes, the delay before it included. -/
def spent (n : ℕ) : ℕ :=
  (policy.getDelay (.ofNat n)).nanos + (timeout policy.attemptTimeout (service (.ofNat n))).2

/-- `connect_with_backoff` against the clock `now`. -/
def connectTimed (stats : Stats) (now : ℕ) : Option (Except Text Stream) × Stats × ℕ :=
  retryWithBackoff policy
    (fun n s =>
      let (outcome, took) := timeout policy.attemptTimeout (service n)
      let (result, stats) := connectAttempt endpoint policy (fun _ => outcome) n s.1
      (result, stats, s.2 + took))
    (fun delay s => (s.1, s.2 + delay.nanos)) (stats, now)

theorem foldl_timed (step : Stats → ℕ → Stats) (cost : ℕ → ℕ) (ns : List ℕ) (stats : Stats)
    (now : ℕ) :
    ns.foldl (fun s n => (step s.1 n, s.2 + cost n)) (stats, now) =
      (ns.foldl step stats, now + owed cost ns) := by
  induction ns using List.reverseRecOn with
  | nil => rfl
  | append_singleton ns n ih => rw [List.foldl_concat, List.foldl_concat, ih, owed_concat, add_assoc]

theorem connectTimed_eq (stats : Stats) (now : ℕ) :
    connectTimed endpoint policy service stats now =
      ((connectWithBackoff endpoint policy (outcomeOf policy service) stats).1,
        (connectWithBackoff endpoint policy (outcomeOf policy service) stats).2,
        now + owed (spent policy service) (List.range' 1
          (policy.lastAttempt fun n => (outcomeOf policy service n).isConnected))) := by
  have hresult (n : UInt32) (s : Stats × ℕ) :
      (connectAttempt endpoint policy (fun _ => outcomeOf policy service n) n s.1).1 =
        attemptResult endpoint policy (outcomeOf policy service) n :=
    connectAttempt_fst endpoint policy (outcomeOf policy service) n s.1
  have hok : (fun n => (attemptResult endpoint policy (outcomeOf policy service) n).isOk) =
      fun n => (outcomeOf policy service n).isConnected :=
    funext (attemptResult_isOk endpoint policy (outcomeOf policy service))
  have hzero (d : Duration) (s : Stats × ℕ) :
      (if d.isZero then s else (s.1, s.2 + d.nanos)) = (s.1, s.2 + d.nanos) := by
    split_ifs with h
    · rw [beq_iff_eq.mp h, add_zero]
    · rfl
  rw [connectTimed, retryWithBackoff_eq policy hresult, connectWithBackoff,
    retryWithBackoff_eq policy (connectAttempt_fst endpoint policy (outcomeOf policy service)), hok,
    ← foldl_timed]
  simp only [hzero, ite_self, add_assoc]
  rfl

end Clock

/-! ## The bound -/

namespace ConnectRetryPolicy

def costOf (policy : ConnectRetryPolicy) (n : ℕ) : ℕ :=
  (policy.getDelay (.ofNat n)).nanos + policy.attemptTimeout.nanos

/-- The time of a connect whose attempts all run into the timeout. -/
def worstCase (policy : ConnectRetryPolicy) : ℕ :=
  owed policy.costOf (List.range' 1 policy.attempts)

/-- Four attempts of three seconds and delays of 200, 400 and 800 milliseconds. -/
theorem worstCase_default : default.worstCase = 13400 * 10 ^ 6 := by decide +kernel

theorem worstCase_le (policy : ConnectRetryPolicy) :
    policy.worstCase ≤ policy.attempts * policy.attemptTimeout.nanos +
      (policy.attempts - 1) * policy.maxDelay.nanos := by
  obtain ⟨j, hj⟩ := Nat.exists_eq_add_of_le' policy.attempts_pos
  have hlt := policy.attempts_lt
  have hfirst : policy.costOf 1 = policy.attemptTimeout.nanos := Nat.zero_add _
  have hretries : owed policy.costOf (List.range' 2 j) ≤
      j * (policy.maxDelay.nanos + policy.attemptTimeout.nanos) := by
    have hsum := List.sum_le_card_nsmul ((List.range' 2 j).map policy.costOf)
      (policy.maxDelay.nanos + policy.attemptTimeout.nanos) ?_
    · rwa [List.length_map, List.length_range', smul_eq_mul] at hsum
    · intro cost hcost
      obtain ⟨n, hn, rfl⟩ := List.mem_map.mp hcost
      obtain ⟨hretry, hlast⟩ := List.mem_range'_1.mp hn
      exact Nat.add_le_add_right
        (Duration.le_iff.mp (policy.getDelay_le_maxDelay hretry (by omega))) _
  have hsplit : policy.worstCase = policy.costOf 1 + owed policy.costOf (List.range' 2 j) := by
    rw [worstCase, hj, List.range'_succ]
    exact List.sum_cons
  rw [hsplit, hfirst, hj]
  calc policy.attemptTimeout.nanos + owed policy.costOf (List.range' 2 j)
      ≤ policy.attemptTimeout.nanos + j * (policy.maxDelay.nanos + policy.attemptTimeout.nanos) :=
        Nat.add_le_add_left hretries _
    _ = (j + 1) * policy.attemptTimeout.nanos + (j + 1 - 1) * policy.maxDelay.nanos := by
        rw [Nat.add_sub_cancel]
        ring

end ConnectRetryPolicy

section Bound

variable {Stream : Type} (endpoint : Text) (policy : ConnectRetryPolicy)
  (service : UInt32 → Connecting Stream)

theorem owed_spent_le {k : ℕ} (hk : k ≤ policy.attempts) :
    owed (spent policy service) (List.range' 1 k) ≤ policy.worstCase := by
  obtain ⟨more, hmore⟩ := Nat.exists_eq_add_of_le hk
  have hsplit : policy.worstCase =
      owed policy.costOf (List.range' 1 k) + owed policy.costOf (List.range' (1 + k) more) := by
    rw [ConnectRetryPolicy.worstCase, hmore, ← List.range'_append_1, owed, List.map_append,
      List.sum_append]
    rfl
  rw [hsplit]
  refine (owed_le_owed (fun n => ?_) _).trans (Nat.le_add_right _ _)
  exact Nat.add_le_add_left (timeout_le policy.attemptTimeout _) _

/-- A connect ends within a time that the policy determines, whatever the
service does; it takes all of it when no attempt is answered in time. That time
is 13.4 seconds under the policy in use, and at most the timeouts and the capped
delays under any. The clock changes neither the result nor the counters. -/
theorem connect_time_bounded (stats : Stats) (now : ℕ) :
    ((connectTimed endpoint policy service stats now).1,
        (connectTimed endpoint policy service stats now).2.1) =
      connectWithBackoff endpoint policy (outcomeOf policy service) stats ∧
    (connectTimed endpoint policy service stats now).2.2 ≤ now + policy.worstCase ∧
    ((∀ n, 1 ≤ n → n ≤ policy.attempts →
        ¬(service (.ofNat n)).Answers policy.attemptTimeout) →
      (connectTimed endpoint policy service stats now).2.2 = now + policy.worstCase) ∧
    policy.worstCase ≤ policy.attempts * policy.attemptTimeout.nanos +
      (policy.attempts - 1) * policy.maxDelay.nanos ∧
    ConnectRetryPolicy.default.worstCase = 13400 * 10 ^ 6 := by
  obtain ⟨hpos, hle, -, hend⟩ :=
    policy.lastAttempt_spec fun n => (outcomeOf policy service n).isConnected
  rw [connectTimed_eq]
  refine ⟨rfl, ?_, ?_, policy.worstCase_le, ConnectRetryPolicy.worstCase_default⟩
  · exact Nat.add_le_add_left (owed_spent_le policy service hle) now
  · intro hsilent
    have htimeout : ∀ n, 1 ≤ n → n ≤ policy.attempts →
        timeout policy.attemptTimeout (service (.ofNat n)) =
          (.timedOut, policy.attemptTimeout.nanos) :=
      fun n hn hmax => timeout_of_not_answers (hsilent n hn hmax)
    have hall : policy.lastAttempt (fun n => (outcomeOf policy service n).isConnected) =
        policy.attempts := by
      refine hend.resolve_left ?_
      rw [outcomeOf, htimeout _ hpos hle]
      exact Bool.false_ne_true
    have hcost : owed (spent policy service) (List.range' 1 policy.attempts) = policy.worstCase := by
      refine congrArg List.sum (List.map_congr_left fun n hn => ?_)
      obtain ⟨hn, hlt⟩ := List.mem_range'_1.mp hn
      rw [spent, htimeout n hn (by omega), ConnectRetryPolicy.costOf]
    rw [hall, hcost]

end Bound

end Reprox.Routing
