import Reprox.Config.Validation
import Reprox.Foundations.Attempts
import Reprox.Foundations.Ledger
import Reprox.Metrics.Stats

/-!
# Connecting to a service and relaying

A connect is retried with exponentially growing, capped delays; the session
that follows ends normally with its two byte totals or with an error. Connecting
and copying are the operating system's, so a run is given the outcome of every
attempt and what the session relayed before it ended. `retry_accounting` says
what the attempts, delays and counters of every policy come to, and
`bytesCounted_iff` which sessions are missing from the byte counters.
-/

namespace Reprox.Routing

open Foundations Config Metrics

/-! ## Durations -/

/-- `std::time::Duration`: less than 2^64 seconds, in nanoseconds. -/
structure Duration where
  nanos : ℕ
  bounded : nanos < 2 ^ 64 * 10 ^ 9

namespace Duration

theorem nanos_injective : Function.Injective nanos := by
  rintro ⟨m, _⟩ ⟨n, _⟩ rfl
  rfl

instance : LinearOrder Duration := LinearOrder.lift' nanos nanos_injective

theorem le_iff {d e : Duration} : d ≤ e ↔ d.nanos ≤ e.nanos := Iff.rfl

theorem nanos_min (d e : Duration) : (min d e).nanos = min d.nanos e.nanos := by
  rcases le_total d e with h | h
  · rw [min_eq_left h, min_eq_left (le_iff.mp h)]
  · rw [min_eq_right h, min_eq_right (le_iff.mp h)]

def zero : Duration := ⟨0, by norm_num⟩

def isZero (d : Duration) : Bool := d.nanos == 0

def fromMillis (ms : UInt32) : Duration :=
  ⟨ms.toNat * 10 ^ 6, by have := ms.toNat_lt; omega⟩

def checkedMul (d : Duration) (rhs : UInt32) : Option Duration :=
  if h : d.nanos * rhs.toNat < 2 ^ 64 * 10 ^ 9 then some ⟨d.nanos * rhs.toNat, h⟩ else none

/-- A whole part and a fraction of the given number of digits, without its trailing zeros. -/
def decimal (whole fraction width : ℕ) (unit : Text) : Text :=
  let digits := Text.ofNat fraction
  let padded : Text := List.replicate (width - digits.length) '0' ++ digits
  match padded.trimEndMatches '0' with
  | [] => Text.ofNat whole ++ unit
  | shown => Text.ofNat whole ++ '.' :: shown ++ unit

def debug (d : Duration) : Text :=
  if 10 ^ 9 ≤ d.nanos then decimal (d.nanos / 10 ^ 9) (d.nanos % 10 ^ 9) 9 "s".toList
  else if 10 ^ 6 ≤ d.nanos then decimal (d.nanos / 10 ^ 6) (d.nanos % 10 ^ 6) 6 "ms".toList
  else if 10 ^ 3 ≤ d.nanos then decimal (d.nanos / 10 ^ 3) (d.nanos % 10 ^ 3) 3 "µs".toList
  else Text.ofNat d.nanos ++ "ns".toList

end Duration

example : (Duration.fromMillis 1250).debug = "1.25s".toList := by decide

/-! ## The retry policy -/

structure ConnectRetryPolicy where
  attemptTimeout : Duration
  maxAttempts : UInt32
  baseDelay : Duration
  maxDelay : Duration

def checkedShl (a rhs : UInt32) : Option UInt32 := if rhs < 32 then some (a <<< rhs) else none

namespace ConnectRetryPolicy

def default : ConnectRetryPolicy where
  attemptTimeout := .fromMillis 3000
  maxAttempts := 4
  baseDelay := .fromMillis 200
  maxDelay := .fromMillis 2000

def getDelay (policy : ConnectRetryPolicy) (attempt : UInt32) : Duration :=
  if attempt ≤ 1 then .zero
  else
    let exponent := attempt - 2
    let multiplier := (checkedShl 1 exponent).getD 0xFFFFFFFF
    min ((policy.baseDelay.checkedMul multiplier).getD policy.maxDelay) policy.maxDelay

end ConnectRetryPolicy

/-- The `expect` that some attempt has left an error is the `none` of the result. -/
def retryWithBackoff {σ ε τ : Type} (policy : ConnectRetryPolicy)
    (func : UInt32 → σ → Except ε τ × σ) (sleep : Duration → σ → σ) (s : σ) :
    Option (Except ε τ) × σ :=
  tryEach
    (fun n s =>
      let delay := policy.getDelay (.ofNat n)
      func (.ofNat n) (if delay.isZero then s else sleep delay s))
    (List.range' 1 (max policy.maxAttempts 1).toNat) none s

inductive ConnectOutcome (Stream : Type) where
  | connected (stream : Stream)
  | failed (error : Text)
  | timedOut

/-- One attempt of `connect_with_backoff`. -/
def connectAttempt {Stream : Type} (endpoint : Text) (policy : ConnectRetryPolicy)
    (connect : UInt32 → ConnectOutcome Stream) (attempt : UInt32) (stats : Stats) :
    Except Text Stream × Stats :=
  let maxAttempts := max policy.maxAttempts 1
  let counted :=
    if attempt < maxAttempts then
      { stats with proxyServiceConnectRetries := stats.proxyServiceConnectRetries + 1 }
    else stats
  match connect attempt with
  | .connected stream => (.ok stream, stats)
  | .failed error => (.error error, counted)
  | .timedOut =>
    (.error ("connect to ".toList ++ endpoint ++ " timed out after ".toList ++
      policy.attemptTimeout.debug), counted)

/-- Sleeping touches no counter. -/
def connectWithBackoff {Stream : Type} (endpoint : Text) (policy : ConnectRetryPolicy)
    (connect : UInt32 → ConnectOutcome Stream) (stats : Stats) :
    Option (Except Text Stream) × Stats :=
  retryWithBackoff policy (connectAttempt endpoint policy connect) (fun _ stats => stats) stats

/-! ## The session -/

structure Session where
  fromClient : ℕ
  fromUpstream : ℕ
  ending : Except Text Unit
  deriving DecidableEq

/-- `copy_bidirectional`: the totals on success and only the error otherwise. -/
def copyBidirectional (session : Session) : Except Text (ℕ × ℕ) :=
  session.ending.map fun _ => (session.fromClient, session.fromUpstream)

/-- `relay_to_service` with the retry policy as a parameter. -/
def relayToServiceWith {Stream : Type} (policy : ConnectRetryPolicy) (endpoint : Text)
    (connect : UInt32 → ConnectOutcome Stream) (session : Session) (stats : Stats) :
    Option (Except Report Unit) × Stats :=
  match connectWithBackoff endpoint policy connect stats with
  | (none, stats) => (none, stats)
  | (some (.error e), stats) =>
    (some (.error ["failed to connect to service at ".toList ++ endpoint ++ " after ".toList ++
        Text.ofNat ConnectRetryPolicy.default.maxAttempts.toNat ++ " attempt(s)".toList, e]),
      { stats with proxyServiceConnectFailures := stats.proxyServiceConnectFailures + 1 })
  | (some (.ok _), stats) =>
    match copyBidirectional session with
    | .ok (fromClient, fromUpstream) =>
      (some (.ok ()),
        { stats with
          proxyBytesClientToService := stats.proxyBytesClientToService + fromClient
          proxyBytesServiceToClient := stats.proxyBytesServiceToClient + fromUpstream })
    | .error _ => (some (.ok ()), stats)

def relayToService {Stream : Type} (endpoint : Text) (connect : UInt32 → ConnectOutcome Stream)
    (session : Session) (stats : Stats) : Option (Except Report Unit) × Stats :=
  relayToServiceWith .default endpoint connect session stats

/-! ## Attempts and delays -/

namespace ConnectRetryPolicy

def attempts (policy : ConnectRetryPolicy) : ℕ := (max policy.maxAttempts 1).toNat

theorem attempts_pos (policy : ConnectRetryPolicy) : 0 < policy.attempts := by
  unfold attempts
  rw [UInt32.toNat_max, UInt32.toNat_one]
  exact Nat.lt_of_lt_of_le Nat.one_pos (le_max_right _ _)

/-- The first attempt that succeeds, or else the last that is made. -/
def lastAttempt (policy : ConnectRetryPolicy) (succeeds : UInt32 → Bool) : ℕ :=
  lastTried (fun n => succeeds (.ofNat n)) 1 policy.attempts

theorem attempts_lt (policy : ConnectRetryPolicy) : policy.attempts < 2 ^ 32 :=
  UInt32.toNat_lt _

theorem lastAttempt_spec (policy : ConnectRetryPolicy) (succeeds : UInt32 → Bool) :
    1 ≤ policy.lastAttempt succeeds ∧ policy.lastAttempt succeeds ≤ policy.attempts ∧
      (∀ n, 1 ≤ n → n < policy.lastAttempt succeeds → succeeds (.ofNat n) = false) ∧
      (succeeds (.ofNat (policy.lastAttempt succeeds)) = true ∨
        policy.lastAttempt succeeds = policy.attempts) := by
  have hspec := lastTried_spec (fun n => succeeds (.ofNat n)) 1 policy.attempts_pos
  rw [← lastAttempt] at hspec
  obtain ⟨hpos, hlt, hfailed, hend⟩ := hspec
  exact ⟨hpos, by omega, hfailed, hend.imp_right (by omega)⟩

def multiplier (attempt : UInt32) : UInt32 := (checkedShl 1 (attempt - 2)).getD 0xFFFFFFFF

theorem toNat_multiplier {n : ℕ} (hn : 2 ≤ n) (hlt : n < 2 ^ 32) :
    (multiplier (.ofNat n)).toNat = min (2 ^ (n - 2)) (2 ^ 32 - 1) := by
  have hattempt : (UInt32.ofNat n).toNat = n := UInt32.toNat_ofNat_of_lt' hlt
  have hexponent : (UInt32.ofNat n - 2).toNat = n - 2 := by
    rw [UInt32.toNat_sub_of_le _ _ (UInt32.le_iff_toNat_le.mpr (hattempt.symm ▸ hn)), hattempt]
    rfl
  unfold multiplier checkedShl
  split_ifs with hshift
  · rw [UInt32.lt_iff_toNat_lt, hexponent] at hshift
    have hsmall : n - 2 < 32 := hshift
    have hpow : 2 ^ (n - 2) ≤ 2 ^ 31 := Nat.pow_le_pow_right (by norm_num) (by omega)
    rw [Option.getD_some, UInt32.toNat_shiftLeft, hexponent, UInt32.toNat_one,
      Nat.mod_eq_of_lt hsmall, Nat.one_shiftLeft, Nat.mod_eq_of_lt (by omega), min_eq_left (by omega)]
  · rw [UInt32.lt_iff_toNat_lt, hexponent] at hshift
    have hlarge : 32 ≤ n - 2 := not_lt.mp hshift
    have hpow : 2 ^ 32 ≤ 2 ^ (n - 2) := Nat.pow_le_pow_right (by norm_num) hlarge
    rw [Option.getD_none, min_eq_right (by omega)]
    rfl

/-- A product that does not fit is above every cap. -/
theorem getDelay_nanos (policy : ConnectRetryPolicy) {n : ℕ} (hn : 2 ≤ n) (hlt : n < 2 ^ 32) :
    (policy.getDelay (.ofNat n)).nanos =
      min (policy.baseDelay.nanos * (multiplier (.ofNat n)).toNat) policy.maxDelay.nanos := by
  have hretry : ¬UInt32.ofNat n ≤ 1 := by
    rw [UInt32.le_iff_toNat_le, UInt32.toNat_ofNat_of_lt' hlt, UInt32.toNat_one]
    omega
  have hbounded := policy.maxDelay.bounded
  rw [getDelay, if_neg hretry, Duration.nanos_min]
  change min ((policy.baseDelay.checkedMul (multiplier (.ofNat n))).getD policy.maxDelay).nanos _ = _
  unfold Duration.checkedMul
  split_ifs with hfits
  · rfl
  · rw [Option.getD_none, min_self, min_eq_right (by omega)]

theorem getDelay_le_maxDelay (policy : ConnectRetryPolicy) {n : ℕ} (hn : 2 ≤ n) (hlt : n < 2 ^ 32) :
    policy.getDelay (.ofNat n) ≤ policy.maxDelay := by
  rw [Duration.le_iff, policy.getDelay_nanos hn hlt]
  exact min_le_right _ _

theorem getDelay_mono (policy : ConnectRetryPolicy) {m n : ℕ} (hm : 2 ≤ m) (h : m ≤ n)
    (hlt : n < 2 ^ 32) : policy.getDelay (.ofNat m) ≤ policy.getDelay (.ofNat n) := by
  rw [Duration.le_iff, policy.getDelay_nanos hm (h.trans_lt hlt),
    policy.getDelay_nanos (hm.trans h) hlt, toNat_multiplier hm (h.trans_lt hlt),
    toNat_multiplier (hm.trans h) hlt]
  gcongr
  norm_num

end ConnectRetryPolicy

theorem retryWithBackoff_eq {σ ε τ : Type} (policy : ConnectRetryPolicy)
    {func : UInt32 → σ → Except ε τ × σ} {outcome : UInt32 → Except ε τ}
    (houtcome : ∀ n s, (func n s).1 = outcome n) (sleep : Duration → σ → σ) (s : σ) :
    retryWithBackoff policy func sleep s =
      (some (outcome (.ofNat (policy.lastAttempt fun n => (outcome n).isOk))),
        (List.range' 1 (policy.lastAttempt fun n => (outcome n).isOk)).foldl
          (fun s n => (func (.ofNat n) (if (policy.getDelay (.ofNat n)).isZero then s
            else sleep (policy.getDelay (.ofNat n)) s)).2) s) :=
  tryEach_range' (fun n => outcome (.ofNat n)) (fun n _ => houtcome (.ofNat n) _)
    policy.attempts_pos none s

/-! ## The log of a retry -/

inductive RetryEffect where
  | sleep (delay : Duration)
  | attempt (n : UInt32)

def attemptsMade (log : List RetryEffect) : List UInt32 :=
  log.filterMap fun
    | .attempt n => some n
    | .sleep _ => none

def delaysSlept (log : List RetryEffect) : List Duration :=
  log.filterMap fun
    | .attempt _ => none
    | .sleep delay => some delay

def logAttempt {ε τ : Type} (outcome : UInt32 → Except ε τ) (n : UInt32)
    (log : List RetryEffect) : Except ε τ × List RetryEffect :=
  (outcome n, log ++ [.attempt n])

def logSleep (delay : Duration) (log : List RetryEffect) : List RetryEffect :=
  log ++ [.sleep delay]

def paced (policy : ConnectRetryPolicy) (n : ℕ) : List RetryEffect :=
  (if (policy.getDelay (.ofNat n)).isZero then [] else [.sleep (policy.getDelay (.ofNat n))]) ++
    [.attempt (.ofNat n)]

/-- Attempts `1` to `k` in order, each right after its own delay unless that is
zero; the delays never shrink or exceed the cap, and there is none before the
first attempt. -/
structure WellPaced (policy : ConnectRetryPolicy) (k : ℕ) (log : List RetryEffect) : Prop where
  order : log = (List.range' 1 k).flatMap (paced policy)
  attempts : attemptsMade log = (List.range' 1 k).map UInt32.ofNat
  nondecreasing : (delaysSlept log).Pairwise (· ≤ ·)
  bounded : ∀ delay ∈ delaysSlept log, delay ≤ policy.maxDelay
  slept : ∀ n, 2 ≤ n → n ≤ k → (policy.getDelay (.ofNat n)).isZero = false →
    [.sleep (policy.getDelay (.ofNat n)), .attempt (.ofNat n)] <:+: log
  first : log.head? = some (.attempt 1)

def pause (policy : ConnectRetryPolicy) (n : ℕ) : Option Duration :=
  if (policy.getDelay (.ofNat n)).isZero then none else some (policy.getDelay (.ofNat n))

theorem attemptsMade_flatMap (policy : ConnectRetryPolicy) (ns : List ℕ) :
    attemptsMade (ns.flatMap (paced policy)) = ns.map UInt32.ofNat := by
  induction ns with
  | nil => rfl
  | cons n ns ih =>
    have hn : attemptsMade (paced policy n) = [UInt32.ofNat n] := by
      unfold paced
      split_ifs <;> rfl
    rw [List.flatMap_cons, attemptsMade, List.filterMap_append]
    exact congrArg₂ (· ++ ·) hn ih

theorem delaysSlept_flatMap (policy : ConnectRetryPolicy) (ns : List ℕ) :
    delaysSlept (ns.flatMap (paced policy)) = ns.filterMap (pause policy) := by
  induction ns with
  | nil => rfl
  | cons n ns ih =>
    have hn : delaysSlept (paced policy n) = [n].filterMap (pause policy) := by
      unfold paced
      by_cases hzero : (policy.getDelay (.ofNat n)).isZero <;> simp [delaysSlept, pause, hzero]
    rw [List.flatMap_cons, delaysSlept, List.filterMap_append, ← List.singleton_append,
      List.filterMap_append]
    exact congrArg₂ (· ++ ·) hn ih

theorem pause_eq_some {policy : ConnectRetryPolicy} {n : ℕ} {delay : Duration} (hn : 1 ≤ n)
    (h : pause policy n = some delay) : 2 ≤ n ∧ delay = policy.getDelay (.ofNat n) := by
  unfold pause at h
  split_ifs at h with hzero
  refine ⟨?_, (Option.some.inj h).symm⟩
  rcases Nat.eq_or_lt_of_le hn with rfl | hn
  · exact absurd rfl hzero
  · exact hn

theorem wellPaced_flatMap (policy : ConnectRetryPolicy) {k : ℕ} (hpos : 1 ≤ k)
    (hk : k ≤ policy.attempts) :
    WellPaced policy k ((List.range' 1 k).flatMap (paced policy)) := by
  have hlt {n : ℕ} (hn : n ∈ List.range' 1 k) : 1 ≤ n ∧ n < 2 ^ 32 := by
    have hmem := List.mem_range'_1.mp hn
    have hmax := policy.attempts_lt
    omega
  refine ⟨rfl, attemptsMade_flatMap policy _, ?_, ?_, ?_, ?_⟩
  · rw [delaysSlept_flatMap, List.pairwise_filterMap]
    refine List.Pairwise.imp_of_mem ?_ List.pairwise_lt_range'
    intro m n hm hn hmn d hd d' hd'
    obtain ⟨hretry, rfl⟩ := pause_eq_some (hlt hm).1 hd
    obtain ⟨-, rfl⟩ := pause_eq_some (hlt hn).1 hd'
    exact policy.getDelay_mono hretry hmn.le (hlt hn).2
  · intro delay hdelay
    rw [delaysSlept_flatMap] at hdelay
    obtain ⟨n, hn, hpause⟩ := List.mem_filterMap.mp hdelay
    obtain ⟨hretry, rfl⟩ := pause_eq_some (hlt hn).1 hpause
    exact policy.getDelay_le_maxDelay hretry (hlt hn).2
  · intro n hn hle hdelay
    have hpaced : paced policy n = [.sleep (policy.getDelay (.ofNat n)), .attempt (.ofNat n)] := by
      simp [paced, hdelay]
    obtain ⟨before, after, hsplit⟩ :=
      List.append_of_mem (List.mem_range'_1.mpr ⟨by omega, (show n < 1 + k by omega)⟩)
    rw [hsplit, List.flatMap_append, List.flatMap_cons, hpaced, ← List.append_assoc]
    exact List.infix_append _ _ _
  · obtain ⟨k, rfl⟩ := Nat.exists_eq_add_of_le' hpos
    rw [List.range'_succ, List.flatMap_cons]
    rfl

theorem retryWithBackoff_log {ε τ : Type} (policy : ConnectRetryPolicy)
    (outcome : UInt32 → Except ε τ) :
    retryWithBackoff policy (logAttempt outcome) logSleep [] =
      (some (outcome (.ofNat (policy.lastAttempt fun n => (outcome n).isOk))),
        (List.range' 1 (policy.lastAttempt fun n => (outcome n).isOk)).flatMap (paced policy)) := by
  have houtcome (n : UInt32) (log : List RetryEffect) : (logAttempt outcome n log).1 = outcome n := rfl
  rw [retryWithBackoff_eq policy houtcome, List.flatMap_eq_foldl]
  congr 2
  funext log n
  unfold paced logAttempt logSleep
  split_ifs <;> simp

/-! ## The counters of a retry -/

def ConnectOutcome.isConnected {Stream : Type} : ConnectOutcome Stream → Bool
  | .connected _ => true
  | .failed _ => false
  | .timedOut => false

section Counters

variable {Stream : Type} (endpoint : Text) (policy : ConnectRetryPolicy)
  (connect : UInt32 → ConnectOutcome Stream)

def attemptResult (n : UInt32) : Except Text Stream :=
  (connectAttempt endpoint policy connect n .new).1

theorem connectAttempt_fst (n : UInt32) (stats : Stats) :
    (connectAttempt endpoint policy connect n stats).1 =
      attemptResult endpoint policy connect n := by
  unfold attemptResult connectAttempt
  cases connect n <;> rfl

theorem attemptResult_isOk (n : UInt32) :
    (attemptResult endpoint policy connect n).isOk = (connect n).isConnected := by
  unfold attemptResult connectAttempt
  cases connect n <;> rfl

theorem connectAttempt_snd (n : ℕ) (hn : n < 2 ^ 32) (stats : Stats) :
    (connectAttempt endpoint policy connect (.ofNat n) stats).2 =
      { stats with
        proxyServiceConnectRetries := stats.proxyServiceConnectRetries +
          if (connect (.ofNat n)).isConnected = false ∧ n < policy.attempts then 1 else 0 } := by
  have hlast : UInt32.ofNat n < max policy.maxAttempts 1 ↔ n < policy.attempts := by
    rw [UInt32.lt_iff_toNat_lt, UInt32.toNat_ofNat_of_lt' hn]
    rfl
  unfold connectAttempt
  cases connect (.ofNat n) with
  | connected stream => simp [ConnectOutcome.isConnected]
  | failed error => by_cases h : n < policy.attempts <;> simp [ConnectOutcome.isConnected, hlast, h]
  | timedOut => by_cases h : n < policy.attempts <;> simp [ConnectOutcome.isConnected, hlast, h]

theorem foldl_connectAttempt {k : ℕ} (hk : k < policy.attempts)
    (hfailed : ∀ n, 1 ≤ n → n ≤ k → (connect (.ofNat n)).isConnected = false) (stats : Stats) :
    (List.range' 1 k).foldl (fun stats n =>
        (connectAttempt endpoint policy connect (.ofNat n) stats).2) stats =
      { stats with proxyServiceConnectRetries := stats.proxyServiceConnectRetries + k } := by
  induction k with
  | zero => rfl
  | succ k ih =>
    have hlt : 1 + k < policy.attempts := by omega
    rw [List.range'_1_concat, List.foldl_concat,
      ih (by omega) fun n hn hle => hfailed n hn (hle.trans k.le_succ),
      connectAttempt_snd endpoint policy connect (1 + k) (hlt.trans policy.attempts_lt),
      if_pos ⟨hfailed (1 + k) (by omega) (by omega), hlt⟩]
    rfl

theorem connectWithBackoff_eq (stats : Stats) :
    connectWithBackoff endpoint policy connect stats =
      (some (attemptResult endpoint policy connect
          (.ofNat (policy.lastAttempt fun n => (connect n).isConnected))),
        { stats with
          proxyServiceConnectRetries := stats.proxyServiceConnectRetries +
            ((policy.lastAttempt fun n => (connect n).isConnected) - 1) }) := by
  have hok : (fun n => (attemptResult endpoint policy connect n).isOk) =
      fun n => (connect n).isConnected := funext (attemptResult_isOk endpoint policy connect)
  rw [connectWithBackoff,
    retryWithBackoff_eq policy (connectAttempt_fst endpoint policy connect), hok]
  obtain ⟨hpos, hle, hfailed, hend⟩ := policy.lastAttempt_spec fun n => (connect n).isConnected
  obtain ⟨j, hj⟩ := Nat.exists_eq_add_of_le' hpos
  rw [hj] at hle hfailed hend ⊢
  have hcounted : ¬((connect (.ofNat (1 + j))).isConnected = false ∧ 1 + j < policy.attempts) := by
    rintro ⟨hfail, hlt⟩
    rcases hend with hok | hlast
    · rw [add_comm, hok] at hfail
      cases hfail
    · omega
  have hbound : 1 + j < 2 ^ 32 := by
    have hmax := policy.attempts_lt
    omega
  simp only [ite_self]
  rw [List.range'_1_concat, List.foldl_concat,
    foldl_connectAttempt endpoint policy connect (by omega) fun n hn hlt => hfailed n hn (by omega),
    connectAttempt_snd endpoint policy connect (1 + j) hbound, if_neg hcounted]
  rfl

def AllFailed : Prop :=
  ∀ n, 1 ≤ n → n ≤ policy.attempts → (connect (.ofNat n)).isConnected = false

/-- The last attempt made decides whether all of them failed. -/
theorem allFailed_iff :
    AllFailed policy connect ↔
      (attemptResult endpoint policy connect
        (.ofNat (policy.lastAttempt fun n => (connect n).isConnected))).isOk = false := by
  obtain ⟨hpos, hle, hfailed, hend⟩ := policy.lastAttempt_spec fun n => (connect n).isConnected
  rw [attemptResult_isOk]
  constructor
  · intro h
    exact h _ hpos hle
  · intro h n hn hmax
    rcases hend with hok | hlast
    · rw [hok] at h
      cases h
    · rcases Nat.lt_or_eq_of_le hmax with hlt | rfl
      · exact hfailed n hn (hlast ▸ hlt)
      · rwa [hlast] at h

instance : Decidable (AllFailed policy connect) :=
  decidable_of_iff _ (allFailed_iff [] policy connect).symm

theorem relayToServiceWith_stats (session : Session) (stats : Stats) :
    (AllFailed policy connect →
      (relayToServiceWith policy endpoint connect session stats).2 =
        { stats with
          proxyServiceConnectRetries := stats.proxyServiceConnectRetries +
            ((policy.lastAttempt fun n => (connect n).isConnected) - 1)
          proxyServiceConnectFailures := stats.proxyServiceConnectFailures + 1 }) ∧
    (¬AllFailed policy connect →
      (relayToServiceWith policy endpoint connect session stats).2 =
        { stats with
          proxyServiceConnectRetries := stats.proxyServiceConnectRetries +
            ((policy.lastAttempt fun n => (connect n).isConnected) - 1)
          proxyBytesClientToService := stats.proxyBytesClientToService +
            if session.ending.isOk then session.fromClient else 0
          proxyBytesServiceToClient := stats.proxyBytesServiceToClient +
            if session.ending.isOk then session.fromUpstream else 0 }) := by
  rw [allFailed_iff endpoint, relayToServiceWith, connectWithBackoff_eq]
  cases hresult : attemptResult endpoint policy connect
      (.ofNat (policy.lastAttempt fun n => (connect n).isConnected)) with
  | error e => exact ⟨fun _ => rfl, fun h => absurd rfl h⟩
  | ok stream =>
    constructor
    · intro h
      cases h
    · intro _
      unfold copyBidirectional
      cases session.ending <;> rfl

end Counters

/-- For every policy and every outcome of the attempts: the driver makes the
attempts up to the first that succeeds or the last there is, well paced, and
returns the outcome of the last one it makes; every attempt but that one is
counted as a retry, and the relay counts a failure when none succeeds. -/
theorem retry_accounting (policy : ConnectRetryPolicy) :
    (∀ (ε τ : Type) (outcome : UInt32 → Except ε τ),
      (retryWithBackoff policy (logAttempt outcome) logSleep []).1 =
        some (outcome (.ofNat (policy.lastAttempt fun n => (outcome n).isOk))) ∧
      WellPaced policy (policy.lastAttempt fun n => (outcome n).isOk)
        (retryWithBackoff policy (logAttempt outcome) logSleep []).2) ∧
    ∀ (Stream : Type) (endpoint : Text) (connect : UInt32 → ConnectOutcome Stream)
      (session : Session) (stats : Stats),
      (connectWithBackoff endpoint policy connect stats).2.proxyServiceConnectRetries =
        stats.proxyServiceConnectRetries +
          ((policy.lastAttempt fun n => (connect n).isConnected) - 1) ∧
      (relayToServiceWith policy endpoint connect session stats).2.proxyServiceConnectRetries =
        stats.proxyServiceConnectRetries +
          ((policy.lastAttempt fun n => (connect n).isConnected) - 1) ∧
      (AllFailed policy connect →
        (relayToServiceWith policy endpoint connect session stats).2.proxyServiceConnectFailures =
          stats.proxyServiceConnectFailures + 1) ∧
      (¬AllFailed policy connect →
        (relayToServiceWith policy endpoint connect session stats).2.proxyServiceConnectFailures =
          stats.proxyServiceConnectFailures) := by
  constructor
  · intro ε τ outcome
    obtain ⟨hpos, hle, -⟩ := policy.lastAttempt_spec fun n => (outcome n).isOk
    rw [retryWithBackoff_log]
    exact ⟨rfl, wellPaced_flatMap policy hpos hle⟩
  · intro Stream endpoint connect session stats
    obtain ⟨hfailed, hconnected⟩ :=
      relayToServiceWith_stats endpoint policy connect session stats
    refine ⟨?_, ?_, ?_, ?_⟩
    · rw [connectWithBackoff_eq]
    · by_cases h : AllFailed policy connect
      · rw [hfailed h]
      · rw [hconnected h]
    · intro h
      rw [hfailed h]
    · intro h
      rw [hconnected h]

/-! ## Bytes -/

/-- A call of `relay_to_service`: how its attempts to connect end, and what
its session does if one of them succeeds. -/
structure RelayCall (Stream : Type) where
  endpoint : Text
  connect : UInt32 → ConnectOutcome Stream
  session : Session

section Bytes

variable {Stream : Type}

def relayAll (calls : List (RelayCall Stream)) (stats : Stats) : Stats :=
  calls.foldl (fun stats c => (relayToService c.endpoint c.connect c.session stats).2) stats

namespace RelayCall

def Connects (c : RelayCall Stream) : Prop := ¬AllFailed .default c.connect

instance (c : RelayCall Stream) : Decidable c.Connects :=
  inferInstanceAs (Decidable (¬AllFailed .default c.connect))

def fromClient (c : RelayCall Stream) : ℕ := if c.Connects then c.session.fromClient else 0

def fromUpstream (c : RelayCall Stream) : ℕ := if c.Connects then c.session.fromUpstream else 0

def Breaks (c : RelayCall Stream) : Prop := c.Connects ∧ c.session.ending.isOk = false

instance (c : RelayCall Stream) : Decidable c.Breaks :=
  inferInstanceAs (Decidable (c.Connects ∧ c.session.ending.isOk = false))

end RelayCall

theorem relayAll_bytes (calls : List (RelayCall Stream)) (stats : Stats) :
    (relayAll calls stats).proxyBytesClientToService = stats.proxyBytesClientToService +
        owed (fun c => if c.Breaks then 0 else c.fromClient) calls ∧
      (relayAll calls stats).proxyBytesServiceToClient = stats.proxyBytesServiceToClient +
        owed (fun c => if c.Breaks then 0 else c.fromUpstream) calls := by
  induction calls using List.reverseRecOn with
  | nil => exact ⟨rfl, rfl⟩
  | append_singleton calls c ih =>
    obtain ⟨hfailed, hconnected⟩ :=
      relayToServiceWith_stats c.endpoint .default c.connect c.session (relayAll calls stats)
    rw [owed_concat, owed_concat, ← add_assoc, ← add_assoc, ← ih.1, ← ih.2, relayAll,
      List.foldl_concat, relayToService]
    change (relayToServiceWith _ _ _ _ (relayAll calls stats)).2.proxyBytesClientToService = _ ∧
      (relayToServiceWith _ _ _ _ (relayAll calls stats)).2.proxyBytesServiceToClient = _
    by_cases h : AllFailed .default c.connect
    · rw [hfailed h]
      simp [RelayCall.Breaks, RelayCall.fromClient, RelayCall.fromUpstream, RelayCall.Connects, h]
    · rw [hconnected h]
      cases hend : c.session.ending.isOk <;>
        simp [RelayCall.Breaks, RelayCall.fromClient, RelayCall.fromUpstream, RelayCall.Connects, h,
          hend]

/-- Both byte totals are what all the sessions relayed exactly when no session
that broke had relayed anything. -/
theorem bytesCounted_iff (calls : List (RelayCall Stream)) :
    ((relayAll calls .new).proxyBytesClientToService = (calls.map RelayCall.fromClient).sum ∧
      (relayAll calls .new).proxyBytesServiceToClient = (calls.map RelayCall.fromUpstream).sum) ↔
    ∀ c ∈ calls, c.Breaks → c.session.fromClient = 0 ∧ c.session.fromUpstream = 0 := by
  obtain ⟨hclient, hupstream⟩ := relayAll_bytes calls .new
  have hle (w : RelayCall Stream → ℕ) (c : RelayCall Stream) : (if c.Breaks then 0 else w c) ≤ w c := by
    split_ifs
    · exact Nat.zero_le _
    · exact le_rfl
  have hzero : Stats.new.proxyBytesClientToService = 0 ∧ Stats.new.proxyBytesServiceToClient = 0 :=
    ⟨rfl, rfl⟩
  rw [hclient, hupstream, hzero.1, hzero.2, zero_add, zero_add]
  change owed _ calls = owed _ calls ∧ owed _ calls = owed _ calls ↔ _
  rw [owed_eq_owed_iff (hle RelayCall.fromClient), owed_eq_owed_iff (hle RelayCall.fromUpstream),
    ← forall₂_and]
  refine forall₂_congr fun c _ => ?_
  by_cases h : c.Breaks
  · simp [h, RelayCall.fromClient, RelayCall.fromUpstream, h.1, eq_comm]
  · simp [h]

end Bytes

theorem bytesCounted_fails :
    let calls : List (RelayCall Unit) :=
      [⟨"127.0.0.1:8080".toList, fun _ => .connected (),
        ⟨512, 4096, .error "connection reset by peer".toList⟩⟩]
    ¬((relayAll calls .new).proxyBytesClientToService = (calls.map RelayCall.fromClient).sum ∧
      (relayAll calls .new).proxyBytesServiceToClient = (calls.map RelayCall.fromUpstream).sum) := by
  intro calls h
  exact absurd h.1 (by decide)

end Reprox.Routing
