import Mathlib.Tactic

/-!
# Checks in a row

A pass over a list with a state, which stops at the first element it rejects.
What it reports is the rejection of one element, in the state left by those
before it, all of which were let through. Requirements without a state are such
a pass as well; the first of them that is not met is the one reported.
-/

namespace Reprox.Foundations.Checks

universe u v

variable {ε : Type u} {σ α β : Type v}

theorem ok_bind (a : α) (f : α → Except ε β) : (Except.ok a : Except ε α) >>= f = f a := rfl

theorem bind_eq_error {x : Except ε α} {f : α → Except ε β} {e : ε} :
    x >>= f = .error e ↔ x = .error e ∨ ∃ a, x = .ok a ∧ f a = .error e := by
  cases x <;> simp [bind, Except.bind]

/-- A pass fails at one element, having let through those before it. -/
theorem foldlM_eq_error {step : σ → α → Except ε σ} {s : σ} {l : List α} {e : ε} :
    l.foldlM step s = .error e ↔ ∃ before x after t, l = before ++ x :: after ∧
      before.foldlM step s = .ok t ∧ step t x = .error e := by
  induction l generalizing s with
  | nil =>
    constructor
    · intro h
      cases h
    · rintro ⟨before, x, after, t, hsplit, -⟩
      simp at hsplit
  | cons a l ih =>
    rw [List.foldlM_cons, bind_eq_error]
    constructor
    · rintro (hhead | ⟨s', hstep, hrest⟩)
      · exact ⟨[], a, l, s, rfl, rfl, hhead⟩
      · obtain ⟨before, x, after, t, rfl, hbefore, hx⟩ := ih.mp hrest
        refine ⟨a :: before, x, after, t, rfl, ?_, hx⟩
        rw [List.foldlM_cons, hstep]
        exact hbefore
    · rintro ⟨before, x, after, t, hsplit, hbefore, hx⟩
      cases before with
      | nil =>
        obtain ⟨rfl, rfl⟩ := List.cons.inj hsplit
        cases hbefore
        exact Or.inl hx
      | cons b before =>
        obtain ⟨rfl, rfl⟩ := List.cons.inj hsplit
        rw [List.foldlM_cons] at hbefore
        cases hstep : step s a with
        | error e' =>
          rw [hstep] at hbefore
          cases hbefore
        | ok s' =>
          rw [hstep] at hbefore
          exact Or.inr ⟨s', rfl, ih.mpr ⟨before, x, after, t, rfl, hbefore, hx⟩⟩

abbrev Requirement (ι : Type*) := ι × Prop

def FirstUnmet {ι : Type*} (requirements : List (Requirement ι)) (name : ι) : Prop :=
  ∃ before p after, requirements = before ++ (name, p) :: after ∧
    (∀ requirement ∈ before, requirement.2) ∧ ¬p

variable {ι : Type*} {requirements : List (Requirement ι)} {name first : ι} {p : Prop}

theorem FirstUnmet.head (h : ¬p) : FirstUnmet ((first, p) :: requirements) first :=
  ⟨[], p, requirements, rfl, by simp, h⟩

theorem FirstUnmet.tail (hp : p) (h : FirstUnmet requirements name) :
    FirstUnmet ((first, p) :: requirements) name := by
  obtain ⟨before, q, after, rfl, hbefore, hq⟩ := h
  refine ⟨(first, p) :: before, q, after, rfl, ?_, hq⟩
  intro requirement hmem
  rcases List.mem_cons.mp hmem with rfl | hmem
  · exact hp
  · exact hbefore requirement hmem

theorem FirstUnmet.not_forall (h : FirstUnmet requirements name) :
    ¬∀ requirement ∈ requirements, requirement.2 := by
  obtain ⟨before, q, after, rfl, -, hq⟩ := h
  intro hall
  exact hq (hall (name, q) (List.mem_append_right before List.mem_cons_self))

end Reprox.Foundations.Checks
