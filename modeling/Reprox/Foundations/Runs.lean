import Mathlib.Tactic

/-!
# Runs of a labelled machine

A machine is a partial step function: a label that is not enabled in a state
has no successor. `exec` fires a schedule of labels from left to right, so the
same function runs one concrete interleaving and, quantified over schedules,
describes every interleaving. The two induction rules below are the only
inductions over schedules the rest of the development needs.

A machine simulates another when every step of the one is answered by a schedule
of the other, possibly an empty one, that keeps the two states related. Runs are
then answered by runs, step for step, and what the other machine keeps along the
answers holds in every related state.
-/

namespace Reprox.Foundations

variable {σ α : Type*}

/-- Fire the labels in order; the run is `none` at the first disabled one. -/
def exec (step : σ → α → Option σ) : σ → List α → Option σ
  | s, [] => some s
  | s, a :: as => (step s a).bind fun t => exec step t as

section Exec

variable {step : σ → α → Option σ}

@[simp] theorem exec_nil (s : σ) : exec step s [] = some s := rfl

theorem exec_cons (s : σ) (a : α) (as : List α) :
    exec step s (a :: as) = (step s a).bind fun t => exec step t as := rfl

theorem exec_append (s : σ) (as bs : List α) :
    exec step s (as ++ bs) = (exec step s as).bind fun t => exec step t bs := by
  induction as generalizing s with
  | nil => rfl
  | cons a as ih =>
    simp only [List.cons_append, exec_cons, Option.bind_assoc]
    exact Option.bind_congr fun t _ => ih t

theorem exec_append_eq_some {s u : σ} {as bs : List α} :
    exec step s (as ++ bs) = some u ↔
      ∃ t, exec step s as = some t ∧ exec step t bs = some u := by
  rw [exec_append, Option.bind_eq_some_iff]

theorem exec_cons_eq_some {s u : σ} {a : α} {as : List α} :
    exec step s (a :: as) = some u ↔ ∃ t, step s a = some t ∧ exec step t as = some u := by
  rw [exec_cons, Option.bind_eq_some_iff]

theorem exec_concat_eq_some {s u : σ} {as : List α} {a : α} :
    exec step s (as ++ [a]) = some u ↔ ∃ t, exec step s as = some t ∧ step t a = some u := by
  rw [exec_append_eq_some]
  simp [exec_cons]

/-- A relation between the labels fired so far and the state they lead to
holds after every run as soon as one more label keeps it. -/
theorem exec_history {R : List α → σ → Prop} {s₀ : σ} (start : R [] s₀)
    (keep : ∀ as s a t, R as s → step s a = some t → R (as ++ [a]) t)
    {as : List α} {s : σ} (run : exec step s₀ as = some s) : R as s := by
  induction as using List.reverseRecOn generalizing s with
  | nil =>
    cases run
    exact start
  | append_singleton as a ih =>
    obtain ⟨t, ht, hs⟩ := exec_concat_eq_some.mp run
    exact keep as t a s (ih ht) hs

theorem exec_invariant {I : σ → Prop} {s₀ : σ} (start : I s₀)
    (keep : ∀ s a t, I s → step s a = some t → I t)
    {as : List α} {s : σ} (run : exec step s₀ as = some s) : I s :=
  exec_history (R := fun _ s => I s) start (fun _ s a t => keep s a t) run

end Exec

/-- The run rule for a machine that is never stuck: a relation between the
labels fired so far and the state is kept by one more label. -/
theorem foldl_history {step : σ → α → σ} {R : List α → σ → Prop} {s₀ : σ} (start : R [] s₀)
    (keep : ∀ as s a, R as s → R (as ++ [a]) (step s a)) (as : List α) :
    R as (as.foldl step s₀) := by
  induction as using List.reverseRecOn with
  | nil => exact start
  | append_singleton as a ih =>
    rw [List.foldl_concat]
    exact keep as _ a ih

/-- What the last label that sets anything sets, or else what was there before. -/
def lastSet {β : Type*} (set? : α → Option β) (start : β) (as : List α) : β :=
  (as.filterMap set?).getLast?.getD start

theorem lastSet_concat {β : Type*} (set? : α → Option β) (start : β) (as : List α) (a : α) :
    lastSet set? start (as ++ [a]) = (set? a).getD (lastSet set? start as) := by
  unfold lastSet
  rw [List.filterMap_append]
  cases h : set? a <;> simp [h]

theorem exec_lastSet {β : Type*} {step : σ → α → Option σ} {set? : α → Option β} (f : σ → β)
    (keep : ∀ s a t, step s a = some t → f t = (set? a).getD (f s)) {s₀ s : σ} {as : List α}
    (run : exec step s₀ as = some s) : f s = lastSet set? (f s₀) as := by
  refine exec_history (R := fun as s => f s = lastSet set? (f s₀) as) rfl ?_ run
  intro as s a t hs hstep
  rw [keep s a t hstep, hs, lastSet_concat]

theorem concat_eq_split {as before rest : List α} {a b : α} (h : as ++ [b] = before ++ a :: rest) :
    (rest = [] ∧ b = a ∧ as = before) ∨
      ∃ rest', rest = rest' ++ [b] ∧ as = before ++ a :: rest' := by
  rcases List.eq_nil_or_concat rest with rfl | ⟨rest', c, rfl⟩
  · obtain ⟨has, hb⟩ := List.append_inj' h rfl
    exact Or.inl ⟨rfl, List.singleton_inj.mp hb, has⟩
  · have hcut : as ++ [b] = (before ++ a :: rest') ++ [c] := by simpa using h
    obtain ⟨has, hb⟩ := List.append_inj' hcut rfl
    rw [List.singleton_inj.mp hb]
    exact Or.inr ⟨rest', by simp, has⟩

def Along (step : σ → α → Option σ) (C : σ → α → Prop) : σ → List α → Prop
  | _, [] => True
  | s, a :: as => C s a ∧ ∀ t, step s a = some t → Along step C t as

section Along

variable {step : σ → α → Option σ} {C : σ → α → Prop}

theorem along_iff {s₀ : σ} {as : List α} :
    Along step C s₀ as ↔
      ∀ pre a post s, as = pre ++ a :: post → exec step s₀ pre = some s → C s a := by
  induction as generalizing s₀ with
  | nil => simp [Along]
  | cons a as ih =>
    constructor
    · rintro ⟨ha, hrest⟩ pre b post s hsplit hrun
      cases pre with
      | nil =>
        obtain ⟨rfl, -⟩ := List.cons.inj hsplit
        cases hrun
        exact ha
      | cons c pre =>
        obtain ⟨rfl, htail⟩ := List.cons.inj hsplit
        obtain ⟨t, ht, hs⟩ := exec_cons_eq_some.mp hrun
        exact ih.mp (hrest t ht) pre b post s htail hs
    · intro h
      refine ⟨h [] a as s₀ rfl rfl, fun t ht => ih.mpr ?_⟩
      intro pre b post s hsplit hrun
      exact h (a :: pre) b post s (by rw [hsplit]; rfl) (exec_cons_eq_some.mpr ⟨t, ht, hrun⟩)

theorem along_of_forall {C : α → Prop} {as : List α} (h : ∀ a ∈ as, C a) (s₀ : σ) :
    Along step (fun _ a => C a) s₀ as := by
  rw [along_iff]
  rintro pre a post s rfl -
  exact h a (by simp)

theorem exists_first_of_not_along {s₀ : σ} {as : List α} (h : ¬Along step C s₀ as) :
    ∃ pre a post s, as = pre ++ a :: post ∧ Along step C s₀ pre ∧ exec step s₀ pre = some s ∧
      ¬C s a := by
  induction as generalizing s₀ with
  | nil => exact absurd trivial h
  | cons a as ih =>
    by_cases ha : C s₀ a
    · have hrest : ∃ t, step s₀ a = some t ∧ ¬Along step C t as := by
        by_contra hnone
        exact h ⟨ha, fun t ht => by_contra fun hbad => hnone ⟨t, ht, hbad⟩⟩
      obtain ⟨t, ht, hbad⟩ := hrest
      obtain ⟨pre, b, post, s, rfl, hpre, hrun, hb⟩ := ih hbad
      refine ⟨a :: pre, b, post, s, rfl, ⟨ha, ?_⟩, exec_cons_eq_some.mpr ⟨t, ht, hrun⟩, hb⟩
      intro t' ht'
      rwa [Option.some.inj (ht'.symm.trans ht)]
    · exact ⟨[], a, as, s₀, rfl, trivial, rfl, ha⟩

theorem Along.of_append {s₀ : σ} {as bs : List α} (h : Along step C s₀ (as ++ bs)) :
    Along step C s₀ as := by
  rw [along_iff] at h ⊢
  intro pre a post s hsplit hrun
  exact h pre a (post ++ bs) s (by rw [hsplit]; simp) hrun

/-- The invariant rule for runs that keep to a condition: the step lemma may
assume that the label was allowed. -/
theorem exec_invariant_along {I : σ → Prop} {s₀ : σ} (start : I s₀)
    (keep : ∀ s a t, I s → C s a → step s a = some t → I t)
    {as : List α} {s : σ} (allowed : Along step C s₀ as)
    (run : exec step s₀ as = some s) : I s := by
  induction as generalizing s₀ with
  | nil =>
    cases run
    exact start
  | cons a as ih =>
    obtain ⟨t, ht, hs⟩ := exec_cons_eq_some.mp run
    exact ih (keep s₀ a t start allowed.1 ht) (allowed.2 t ht) hs

/-- Two conditions that agree wherever an invariant holds, and either of which keeps
the invariant, hold along the same runs. -/
theorem along_congr {D : σ → α → Prop} {I : σ → Prop} {s₀ : σ} {as : List α} (start : I s₀)
    (same : ∀ s a, I s → (C s a ↔ D s a)) (keep : ∀ s a t, I s → C s a → step s a = some t → I t) :
    Along step C s₀ as ↔ Along step D s₀ as := by
  induction as generalizing s₀ with
  | nil => exact Iff.rfl
  | cons a as ih =>
    constructor
    · rintro ⟨ha, hrest⟩
      exact ⟨(same s₀ a start).mp ha, fun t ht => (ih (keep s₀ a t start ha ht)).mp (hrest t ht)⟩
    · rintro ⟨ha, hrest⟩
      have hC := (same s₀ a start).mpr ha
      exact ⟨hC, fun t ht => (ih (keep s₀ a t start hC ht)).mpr (hrest t ht)⟩

end Along

/-! ## Simulations -/

variable {τ β : Type*}

/-- Every step of the first machine is answered by a schedule of the second that
`L` allows for its label. -/
def Simulates (step : σ → α → Option σ) (step' : τ → β → Option τ) (R : σ → τ → Prop)
    (L : α → List β → Prop) : Prop :=
  ∀ s t a s', R s t → step s a = some s' →
    ∃ bs t', L a bs ∧ exec step' t bs = some t' ∧ R s' t'

section Simulates

variable {step : σ → α → Option σ} {step' : τ → β → Option τ} {R : σ → τ → Prop}
  {L : α → List β → Prop}

theorem Simulates.run (h : Simulates step step' R L) {s s' : σ} {t : τ} {as : List α} (hR : R s t)
    (run : exec step s as = some s') :
    ∃ bss t', List.Forall₂ L as bss ∧ exec step' t bss.flatten = some t' ∧ R s' t' := by
  induction as generalizing s t with
  | nil =>
    cases run
    exact ⟨[], t, .nil, rfl, hR⟩
  | cons a as ih =>
    obtain ⟨mid, hstep, hrest⟩ := exec_cons_eq_some.mp run
    obtain ⟨bs, u, hL, hanswer, hmid⟩ := h s t a mid hR hstep
    obtain ⟨bss, t', hLs, hrun, hlast⟩ := ih hmid hrest
    refine ⟨bs :: bss, t', .cons hL hLs, ?_, hlast⟩
    rw [List.flatten_cons]
    exact exec_append_eq_some.mpr ⟨u, hanswer, hrun⟩

/-- What the second machine keeps along every label the answers may use is there
in a state related to the one reached. -/
theorem Simulates.invariant (h : Simulates step step' R L) {I : τ → Prop} {C : β → Prop}
    (keep : ∀ t b t', I t → C b → step' t b = some t' → I t') {s s' : σ} {t : τ} {as : List α}
    (hR : R s t) (start : I t) (hC : ∀ a ∈ as, ∀ bs, L a bs → ∀ b ∈ bs, C b)
    (run : exec step s as = some s') : ∃ t', R s' t' ∧ I t' := by
  obtain ⟨bss, t', hLs, hrun, hlast⟩ := h.run hR run
  have hallowed : ∀ b ∈ bss.flatten, C b := by
    clear hrun run
    induction hLs with
    | nil => simp
    | cons hL _ ih =>
      intro b hb
      rw [List.flatten_cons, List.mem_append] at hb
      rcases hb with hb | hb
      · exact hC _ List.mem_cons_self _ hL b hb
      · exact ih (fun a ha => hC a (List.mem_cons_of_mem _ ha)) b hb
  exact ⟨t', hlast, exec_invariant_along start keep (along_of_forall hallowed t) hrun⟩

end Simulates

end Reprox.Foundations
