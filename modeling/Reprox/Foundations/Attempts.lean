import Mathlib.Tactic

/-!
# Trying until something succeeds

A loop over candidates that returns at the first success and otherwise keeps
the last error. When the outcome of a candidate does not depend on the state
the loop threads through, `tried` lists the candidates it gets to, and
`tryEach_eq` says what it returns and leaves.
-/

namespace Reprox.Foundations

variable {α σ ε τ : Type*}

/-- `none` when there is nothing to try and no earlier error. -/
def tryEach (body : α → σ → Except ε τ × σ) :
    List α → Option ε → σ → Option (Except ε τ) × σ
  | [], lastErr, s => (lastErr.map .error, s)
  | a :: l, _, s =>
    match body a s with
    | (.ok v, s) => (some (.ok v), s)
    | (.error e, s) => tryEach body l (some e) s

def tried (succeeds : α → Bool) : List α → List α
  | [] => []
  | a :: l => if succeeds a then [a] else a :: tried succeeds l

theorem tried_of_success {succeeds : α → Bool} {a : α} (h : succeeds a = true) (l : List α) :
    tried succeeds (a :: l) = [a] := if_pos h

theorem tried_of_failure {succeeds : α → Bool} {a : α} (h : succeeds a = false) (l : List α) :
    tried succeeds (a :: l) = a :: tried succeeds l := by
  simp [tried, h]

/-- The loop ends with the outcome of the last candidate it tries. -/
theorem tryEach_eq {body : α → σ → Except ε τ × σ} {outcome : α → Except ε τ}
    (houtcome : ∀ a s, (body a s).1 = outcome a) (l : List α) (lastErr : Option ε) (s : σ) :
    tryEach body l lastErr s =
      (((tried (fun a => (outcome a).isOk) l).getLast?.map outcome).or (lastErr.map .error),
        (tried (fun a => (outcome a).isOk) l).foldl (fun s a => (body a s).2) s) := by
  induction l generalizing lastErr s with
  | nil => rfl
  | cons a l ih =>
    have hbody : body a s = (outcome a, (body a s).2) := Prod.ext (houtcome a s) rfl
    rw [tryEach, hbody]
    cases hout : outcome a with
    | ok v =>
      rw [tried_of_success (by rw [hout]; rfl)]
      simp [hout]
    | error e =>
      rw [tried_of_failure (by rw [hout]; rfl)]
      dsimp only
      rw [ih, List.getLast?_cons, List.foldl_cons]
      cases (tried (fun a => (outcome a).isOk) l).getLast? <;> simp [hout]

/-- The first of `n` numbered candidates from `start` on that succeeds, or else the last. -/
def lastTried (succeeds : ℕ → Bool) (start n : ℕ) : ℕ :=
  ((List.range' start n).find? succeeds).getD (start + n - 1)

section Numbered

variable {succeeds : ℕ → Bool} {start n : ℕ}

theorem lastTried_of_success (h : succeeds start = true) :
    lastTried succeeds start (n + 1) = start := by
  simp [lastTried, List.range'_succ, h]

theorem lastTried_of_failure (h : succeeds start = false) (hn : 0 < n) :
    lastTried succeeds start (n + 1) = lastTried succeeds (start + 1) n := by
  have hlast : start + (n + 1) - 1 = start + 1 + n - 1 := by omega
  simp [lastTried, List.range'_succ, h, hlast]

theorem lastTried_one (start : ℕ) : lastTried succeeds start 1 = start := by
  cases h : succeeds start <;> simp [lastTried, h]

theorem lastTried_spec (succeeds : ℕ → Bool) (start : ℕ) (hn : 0 < n) :
    start ≤ lastTried succeeds start n ∧ lastTried succeeds start n < start + n ∧
      (∀ m, start ≤ m → m < lastTried succeeds start n → succeeds m = false) ∧
      (succeeds (lastTried succeeds start n) = true ∨ lastTried succeeds start n + 1 = start + n) := by
  induction n generalizing start with
  | zero => exact absurd hn (lt_irrefl 0)
  | succ n ih =>
    cases h : succeeds start with
    | true =>
      rw [lastTried_of_success h]
      exact ⟨le_rfl, by omega, fun m hm hlt => absurd hlt (not_lt.mpr hm), Or.inl h⟩
    | false =>
      rcases Nat.eq_zero_or_pos n with rfl | hpos
      · rw [lastTried_one]
        exact ⟨le_rfl, by omega, fun m hm hlt => absurd hlt (not_lt.mpr hm), Or.inr rfl⟩
      · rw [lastTried_of_failure h hpos]
        obtain ⟨hge, hlt, hfail, hend⟩ := ih (start + 1) hpos
        refine ⟨by omega, by omega, ?_, hend.imp_right (by omega)⟩
        intro m hm hmk
        rcases Nat.eq_or_lt_of_le hm with rfl | hm
        · exact h
        · exact hfail m hm hmk

theorem tried_range' (hn : 0 < n) :
    tried succeeds (List.range' start n) =
      List.range' start (lastTried succeeds start n + 1 - start) := by
  induction n generalizing start with
  | zero => exact absurd hn (lt_irrefl 0)
  | succ n ih =>
    rw [List.range'_succ]
    cases h : succeeds start with
    | true =>
      rw [tried_of_success h, lastTried_of_success h]
      simp
    | false =>
      rw [tried_of_failure h]
      rcases Nat.eq_zero_or_pos n with rfl | hpos
      · rw [lastTried_one]
        simp [tried]
      · obtain ⟨hge, -⟩ := lastTried_spec succeeds (start + 1) hpos
        have hcount : lastTried succeeds (start + 1) n + 1 - start =
            lastTried succeeds (start + 1) n + 1 - (start + 1) + 1 := by omega
        rw [ih hpos, lastTried_of_failure h hpos, hcount, List.range'_succ]

theorem tryEach_range' {body : ℕ → σ → Except ε τ × σ} (outcome : ℕ → Except ε τ)
    (houtcome : ∀ a s, (body a s).1 = outcome a) (hn : 0 < n) (lastErr : Option ε) (s : σ) :
    tryEach body (List.range' start n) lastErr s =
      (some (outcome (lastTried (fun a => (outcome a).isOk) start n)),
        (List.range' start (lastTried (fun a => (outcome a).isOk) start n + 1 - start)).foldl
          (fun s a => (body a s).2) s) := by
  obtain ⟨hge, -⟩ := lastTried_spec (fun a => (outcome a).isOk) start hn
  rw [tryEach_eq houtcome, tried_range' hn, List.getLast?_range', if_neg (by omega),
    Option.map_some, Option.some_or]
  congr 3
  omega

end Numbered

end Reprox.Foundations
