import Mathlib.Tactic

/-!
# Hash tables as their lookup function

Nothing that a program can observe of a hash table depends on the order of its
entries, so a table is what it answers to each key. Only tables built from
`empty` by the operations below occur, and each of them changes finitely many
answers.
-/

namespace Reprox.Foundations

/-- The contents of a hash table. -/
@[ext] structure Table (K V : Type*) where
  get? : K → Option V

namespace Table

variable {K V : Type*}

def empty : Table K V := ⟨fun _ => none⟩

@[simp] theorem get?_empty (k : K) : (empty : Table K V).get? k = none := rfl

def retain (t : Table K V) (p : K → V → Bool) : Table K V :=
  ⟨fun k => (t.get? k).filter (p k)⟩

@[simp] theorem get?_retain (t : Table K V) (p : K → V → Bool) (k : K) :
    (t.retain p).get? k = (t.get? k).filter (p k) := rfl

def keys (t : Table K V) : Set K := { k | ∃ v, t.get? k = some v }

theorem mem_keys {t : Table K V} {k : K} : k ∈ t.keys ↔ ∃ v, t.get? k = some v := Iff.rfl

noncomputable def size (t : Table K V) : ℕ := t.keys.ncard

variable [DecidableEq K]

def insert (t : Table K V) (k : K) (v : V) : Table K V :=
  ⟨fun k' => if k' = k then some v else t.get? k'⟩

def remove (t : Table K V) (k : K) : Table K V :=
  ⟨fun k' => if k' = k then none else t.get? k'⟩

@[simp] theorem get?_insert_self (t : Table K V) (k : K) (v : V) :
    (t.insert k v).get? k = some v := if_pos rfl

@[simp] theorem get?_insert_of_ne (t : Table K V) {k k' : K} (v : V) (h : k' ≠ k) :
    (t.insert k v).get? k' = t.get? k' := if_neg h

theorem insert_eq_self {t : Table K V} {k : K} {v : V} (h : t.get? k = some v) :
    t.insert k v = t := by
  ext1
  funext k'
  by_cases hk : k' = k
  · rw [hk, get?_insert_self, h]
  · rw [get?_insert_of_ne t v hk]

@[simp] theorem get?_remove_self (t : Table K V) (k : K) : (t.remove k).get? k = none :=
  if_pos rfl

@[simp] theorem get?_remove_of_ne (t : Table K V) {k k' : K} (h : k' ≠ k) :
    (t.remove k).get? k' = t.get? k' := if_neg h

section InsertAll

variable (key : V → K)

/-- Insert a list of values one after the other, each under its own key. -/
def insertAll (t : Table K V) (vs : List V) : Table K V :=
  vs.foldl (fun t v => t.insert (key v) v) t

/-- When no two values share a key, the table answers a key with the value
that carries it and nothing else. -/
theorem get?_insertAll_eq_some {vs : List V} (nodup : (vs.map key).Nodup) {k : K} {v : V} :
    ((empty : Table K V).insertAll key vs).get? k = some v ↔ v ∈ vs ∧ key v = k := by
  suffices ∀ t : Table K V, (t.insertAll key vs).get? k = some v ↔
      (v ∈ vs ∧ key v = k) ∨ (k ∉ vs.map key ∧ t.get? k = some v) by
    simpa using this empty
  induction vs with
  | nil => simp [insertAll]
  | cons w vs ih =>
    intro t
    obtain ⟨hw, hvs⟩ := List.nodup_cons.mp nodup
    have hstep := ih hvs (t.insert (key w) w)
    rw [show t.insertAll key (w :: vs) = (t.insert (key w) w).insertAll key vs from rfl, hstep]
    by_cases hk : k = key w
    · subst hk
      have hne : ∀ u ∈ vs, key u ≠ key w := fun u hu he =>
        hw (he ▸ List.mem_map_of_mem hu)
      constructor
      · rintro (⟨hv, he⟩ | ⟨-, he⟩)
        · exact absurd he (hne v hv)
        · rw [get?_insert_self, Option.some.injEq] at he
          exact Or.inl ⟨he ▸ List.mem_cons_self, by rw [he]⟩
      · rintro (⟨hv, he⟩ | ⟨hv, -⟩)
        · rcases List.mem_cons.mp hv with rfl | hv
          · exact Or.inr ⟨hw, get?_insert_self t _ _⟩
          · exact absurd he (hne v hv)
        · exact absurd List.mem_cons_self hv
    · have hv : v ∈ w :: vs ∧ key v = k ↔ v ∈ vs ∧ key v = k := by
        constructor
        · rintro ⟨hv, rfl⟩
          rcases List.mem_cons.mp hv with rfl | hv
          · exact absurd rfl hk
          · exact ⟨hv, rfl⟩
        · exact fun h => ⟨List.mem_cons_of_mem w h.1, h.2⟩
      rw [hv, get?_insert_of_ne t w hk, List.map_cons, List.mem_cons, not_or]
      simp only [hk, not_false_eq_true, true_and]

theorem size_insertAll {vs : List V} (nodup : (vs.map key).Nodup) :
    ((empty : Table K V).insertAll key vs).size = vs.length := by
  have hkeys : ((empty : Table K V).insertAll key vs).keys = ↑(vs.map key).toFinset := by
    ext k
    simp only [mem_keys, get?_insertAll_eq_some key nodup, Finset.mem_coe, List.mem_toFinset,
      List.mem_map]
  rw [size, hkeys, Set.ncard_coe_finset, List.toFinset_card_of_nodup nodup, List.length_map]

end InsertAll

section InsertEntries

def insertEntries (t : Table K V) (entries : List (K × V)) : Table K V :=
  entries.foldl (fun t e => t.insert e.1 e.2) t

theorem insertEntries_append (t : Table K V) (entries entries' : List (K × V)) :
    t.insertEntries (entries ++ entries') = (t.insertEntries entries).insertEntries entries' :=
  List.foldl_append

theorem get?_insertEntries (entries : List (K × V)) (k : K) :
    ((empty : Table K V).insertEntries entries).get? k =
      (entries.filter fun e => e.1 = k).getLast?.map Prod.snd := by
  induction entries using List.reverseRecOn with
  | nil => rfl
  | append_singleton entries e ih =>
    rw [insertEntries_append, List.filter_append]
    change ((empty.insertEntries entries).insert e.1 e.2).get? k = _
    by_cases hk : e.1 = k
    · simp [← hk]
    · rw [get?_insert_of_ne _ _ (Ne.symm hk), ih]
      simp [hk]

end InsertEntries

end Table

end Reprox.Foundations
