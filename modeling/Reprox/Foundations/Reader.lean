import Mathlib.Tactic

/-!
# Readers that lose nothing

A reader is polled repeatedly; a poll answers with some record and leaves the
reader in a new state. It is lossless when what a poll hands out, followed by
what is still to come, is what was to come before. Adapters that buffer, replay
or record are compared through `rest` alone: no matter how a stream is chunked,
everything handed out so far is a prefix of what was there at the start.
-/

namespace Reprox.Foundations

/-- A polled reader together with the proof that a poll loses, repeats and
reorders nothing. An impossible outcome of a poll is `none`. -/
structure Reader (σ ι ρ β : Type*) where
  poll : σ → ι → Option (ρ × σ)
  /-- What the poll handed to its caller. -/
  handed : ρ → List β
  /-- What the reader has yet to hand out. -/
  rest : σ → List β
  lossless : ∀ s i r t, poll s i = some (r, t) → handed r ++ rest t = rest s

namespace Reader

variable {σ ι ρ β : Type*} (R : Reader σ ι ρ β)

def drain : σ → List ι → Option (List ρ × σ)
  | s, [] => some ([], s)
  | s, i :: is => (R.poll s i).bind fun out =>
      (drain out.2 is).map fun more => (out.1 :: more.1, more.2)

variable {R} {s t : σ} {rs : List ρ}

theorem drain_cons_eq_some {i : ι} {is : List ι} :
    R.drain s (i :: is) = some (rs, t) ↔
      ∃ r u rs', R.poll s i = some (r, u) ∧ R.drain u is = some (rs', t) ∧ rs = r :: rs' := by
  simp only [drain, Option.bind_eq_some_iff, Option.map_eq_some_iff, Prod.exists, Prod.mk.injEq]
  constructor
  · rintro ⟨r, u, hp, rs', t', hd, rfl, rfl⟩
    exact ⟨r, u, rs', hp, hd, rfl⟩
  · rintro ⟨r, u, rs', hp, hd, rfl⟩
    exact ⟨r, u, hp, rs', t, hd, rfl, rfl⟩

/-- The run rule: over any number of polls nothing is lost. -/
theorem drain_append_rest {is : List ι} (h : R.drain s is = some (rs, t)) :
    rs.flatMap R.handed ++ R.rest t = R.rest s := by
  induction is generalizing s rs with
  | nil =>
    cases h
    rfl
  | cons i is ih =>
    obtain ⟨r, u, rs', hp, hd, rfl⟩ := drain_cons_eq_some.mp h
    rw [List.flatMap_cons, List.append_assoc, ih hd]
    exact R.lossless s i r u hp

theorem drain_prefix {is : List ι} (h : R.drain s is = some (rs, t)) :
    rs.flatMap R.handed <+: R.rest s :=
  ⟨R.rest t, drain_append_rest h⟩

theorem drain_eq_rest {is : List ι} (h : R.drain s is = some (rs, t)) (done : R.rest t = []) :
    rs.flatMap R.handed = R.rest s := by
  rw [← drain_append_rest h, done, List.append_nil]

theorem rest_eq_nil_of_drain {is : List ι} (h : R.drain s is = some (rs, t))
    (done : R.rest s = []) : R.rest t = [] :=
  (List.append_eq_nil_iff.mp ((drain_append_rest h).trans done)).2

theorem drain_eq_rest_of_last {is : List ι} (h : R.drain s is = some (rs, t)) {r : ρ}
    (hr : r ∈ rs) (last : ∀ u i v, R.poll u i = some (r, v) → R.rest v = []) :
    rs.flatMap R.handed = R.rest s := by
  refine drain_eq_rest h ?_
  induction is generalizing s rs with
  | nil =>
    cases h
    cases hr
  | cons i is ih =>
    obtain ⟨r', u, rs', hp, hd, rfl⟩ := drain_cons_eq_some.mp h
    rcases List.mem_cons.mp hr with rfl | hr
    · exact rest_eq_nil_of_drain hd (last s i u hp)
    · exact ih hd hr

theorem drain_record {record : σ → List β}
    (append : ∀ s i r t, R.poll s i = some (r, t) → record t = record s ++ R.handed r)
    {is : List ι} (h : R.drain s is = some (rs, t)) :
    record t = record s ++ rs.flatMap R.handed := by
  induction is generalizing s rs with
  | nil =>
    cases h
    simp
  | cons i is ih =>
    obtain ⟨r, u, rs', hp, hd, rfl⟩ := drain_cons_eq_some.mp h
    rw [ih hd, append s i r u hp, List.append_assoc, List.flatMap_cons]

end Reader

end Reprox.Foundations
