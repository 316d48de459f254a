import Mathlib.Tactic

/-!
# Length-prefixed lists

A list of items on the wire as TLS writes one: two bytes for the length of the
whole, then each item after a byte for its own length, neither of them empty. A
list can be written or not, and what is written is exactly what is read.
-/

namespace Reprox.Foundations.Prefixed

/-- An item of 1 to 255 bytes, after its length. -/
def encodeItem (item : List UInt8) : Option (List UInt8) :=
  if item ≠ [] ∧ item.length < 2 ^ 8 then some (UInt8.ofNat item.length :: item) else none

def encodeItems : List (List UInt8) → Option (List UInt8)
  | [] => some []
  | item :: items => do
    let first ← encodeItem item
    let rest ← encodeItems items
    some (first ++ rest)

/-- The items, at least one, after the length of all of them. -/
def encode (items : List (List UInt8)) : Option (List UInt8) := do
  let body ← encodeItems items
  if body ≠ [] ∧ body.length < 2 ^ 16 then
    some (UInt8.ofNat (body.length / 2 ^ 8) :: UInt8.ofNat (body.length % 2 ^ 8) :: body)
  else none

/-- Every item takes a byte at least, so the length is fuel enough. -/
def decodeItems : ℕ → List UInt8 → Option (List (List UInt8))
  | _, [] => some []
  | 0, _ :: _ => none
  | fuel + 1, len :: rest =>
    if 0 < len.toNat ∧ len.toNat ≤ rest.length then
      (decodeItems fuel (rest.drop len.toNat)).map (rest.take len.toNat :: ·)
    else none

def decode : List UInt8 → Option (List (List UInt8))
  | high :: low :: body =>
    if body ≠ [] ∧ body.length = high.toNat * 2 ^ 8 + low.toNat then decodeItems body.length body
    else none
  | _ => none

example : encode [[104, 50]] = some [0, 3, 2, 104, 50] := by decide

/-! ## What can be written -/

theorem encodeItem_eq_some {item wire : List UInt8} :
    encodeItem item = some wire ↔
      (item ≠ [] ∧ item.length < 2 ^ 8) ∧ wire = UInt8.ofNat item.length :: item := by
  unfold encodeItem
  split_ifs with h
  · rw [and_iff_right h, Option.some.injEq, eq_comm]
  · exact iff_of_false (by simp) fun hwire => h hwire.1

def body (items : List (List UInt8)) : List UInt8 :=
  items.flatMap fun item => UInt8.ofNat item.length :: item

theorem length_body (items : List (List UInt8)) :
    (body items).length = (items.map fun item => 1 + item.length).sum := by
  induction items with
  | nil => rfl
  | cons item items ih =>
    rw [body, List.flatMap_cons, List.length_append, List.length_cons, List.map_cons, List.sum_cons,
      ← ih, body]
    omega

theorem encodeItems_eq_some {items : List (List UInt8)} {wire : List UInt8} :
    encodeItems items = some wire ↔
      (∀ item ∈ items, item ≠ [] ∧ item.length < 2 ^ 8) ∧ wire = body items := by
  induction items generalizing wire with
  | nil => simp [encodeItems, body, eq_comm]
  | cons item items ih =>
    constructor
    · intro h
      obtain ⟨first, hfirst, h⟩ := Option.bind_eq_some_iff.mp h
      obtain ⟨rest, hrest, h⟩ := Option.bind_eq_some_iff.mp h
      obtain ⟨hitem, rfl⟩ := encodeItem_eq_some.mp hfirst
      obtain ⟨hitems, rfl⟩ := ih.mp hrest
      exact ⟨List.forall_mem_cons.mpr ⟨hitem, hitems⟩, (Option.some.inj h).symm⟩
    · rintro ⟨hall, rfl⟩
      obtain ⟨hitem, hitems⟩ := List.forall_mem_cons.mp hall
      have hfirst := encodeItem_eq_some.mpr ⟨hitem, rfl⟩
      have hrest := ih.mpr ⟨hitems, rfl⟩
      rw [encodeItems, hfirst, hrest]
      rfl

theorem body_eq_nil_iff {items : List (List UInt8)} : body items = [] ↔ items = [] := by
  cases items <;> simp [body]

theorem encode_eq_some {items : List (List UInt8)} {wire : List UInt8} :
    encode items = some wire ↔
      (∀ item ∈ items, item ≠ [] ∧ item.length < 2 ^ 8) ∧ items ≠ [] ∧
        (body items).length < 2 ^ 16 ∧
          wire = UInt8.ofNat ((body items).length / 2 ^ 8) ::
            UInt8.ofNat ((body items).length % 2 ^ 8) :: body items := by
  unfold encode
  constructor
  · intro h
    obtain ⟨written, hwritten, h⟩ := Option.bind_eq_some_iff.mp h
    obtain ⟨hitems, rfl⟩ := encodeItems_eq_some.mp hwritten
    split_ifs at h with hlength
    exact ⟨hitems, mt body_eq_nil_iff.mpr hlength.1, hlength.2, (Option.some.inj h).symm⟩
  · rintro ⟨hitems, hne, hlength, rfl⟩
    exact Option.bind_eq_some_iff.mpr ⟨body items, encodeItems_eq_some.mpr ⟨hitems, rfl⟩,
      if_pos ⟨mt body_eq_nil_iff.mp hne, hlength⟩⟩

/-! ## What is read -/

theorem decodeItems_body {items : List (List UInt8)}
    (hitems : ∀ item ∈ items, item ≠ [] ∧ item.length < 2 ^ 8) {fuel : ℕ}
    (hfuel : (body items).length ≤ fuel) : decodeItems fuel (body items) = some items := by
  induction items generalizing fuel with
  | nil => rw [body, List.flatMap_nil, decodeItems]
  | cons item items ih =>
    obtain ⟨⟨hne, hlt⟩, hrest⟩ := List.forall_mem_cons.mp hitems
    have hlen : (UInt8.ofNat item.length).toNat = item.length := UInt8.toNat_ofNat_of_lt' hlt
    have hpos : 0 < item.length := List.length_pos_iff.mpr hne
    have hsplit : body (item :: items) = UInt8.ofNat item.length :: (item ++ body items) := rfl
    rw [hsplit] at hfuel ⊢
    cases fuel with
    | zero => simp at hfuel
    | succ fuel =>
      have hshorter : (body items).length ≤ fuel := by
        simp at hfuel
        omega
      have htail := ih hrest hshorter
      rw [decodeItems, hlen, if_pos ⟨hpos, by simp⟩, List.drop_left, List.take_left, htail]
      rfl

theorem decodeItems_eq_some {fuel : ℕ} {wire : List UInt8} {items : List (List UInt8)}
    (h : decodeItems fuel wire = some items) :
    (∀ item ∈ items, item ≠ [] ∧ item.length < 2 ^ 8) ∧ wire = body items := by
  induction fuel generalizing wire items with
  | zero =>
    cases wire with
    | nil =>
      cases h
      exact ⟨by simp, rfl⟩
    | cons len rest => cases h
  | succ fuel ih =>
    cases wire with
    | nil =>
      cases h
      exact ⟨by simp, rfl⟩
    | cons len rest =>
      rw [decodeItems] at h
      split_ifs at h with hfits
      obtain ⟨hpos, hle⟩ := hfits
      obtain ⟨later, hlater, rfl⟩ := Option.map_eq_some_iff.mp h
      obtain ⟨hitems, hrest⟩ := ih hlater
      have htake : (rest.take len.toNat).length = len.toNat := List.length_take_of_le hle
      have hitem : rest.take len.toNat ≠ [] ∧ (rest.take len.toNat).length < 2 ^ 8 := by
        rw [htake, ← List.length_pos_iff, htake]
        exact ⟨hpos, len.toNat_lt⟩
      refine ⟨List.forall_mem_cons.mpr ⟨hitem, hitems⟩, ?_⟩
      rw [body, List.flatMap_cons, ← body, ← hrest, htake, UInt8.ofNat_toNat, List.cons_append,
        List.take_append_drop]

/-- The reader takes exactly the encodings, each to the list it was written for. -/
theorem decode_eq_some_iff {wire : List UInt8} {items : List (List UInt8)} :
    decode wire = some items ↔ encode items = some wire := by
  rw [encode_eq_some]
  constructor
  · intro h
    unfold decode at h
    split at h
    · next high low rest =>
      split_ifs at h with hlength
      obtain ⟨hitems, rfl⟩ := decodeItems_eq_some h
      obtain ⟨hne, hlength⟩ := hlength
      have hhigh := high.toNat_lt
      have hlow := low.toNat_lt
      have hdiv : (body items).length / 2 ^ 8 = high.toNat := by omega
      have hmod : (body items).length % 2 ^ 8 = low.toNat := by omega
      refine ⟨hitems, mt body_eq_nil_iff.mpr hne, by omega, ?_⟩
      rw [hdiv, hmod, UInt8.ofNat_toNat, UInt8.ofNat_toNat]
    · cases h
  · rintro ⟨hitems, hne, hlength, rfl⟩
    have hhigh : (UInt8.ofNat ((body items).length / 2 ^ 8)).toNat = (body items).length / 2 ^ 8 :=
      UInt8.toNat_ofNat_of_lt' (show _ < 2 ^ 8 by omega)
    have hlow : (UInt8.ofNat ((body items).length % 2 ^ 8)).toNat = (body items).length % 2 ^ 8 :=
      UInt8.toNat_ofNat_of_lt' (show _ < 2 ^ 8 by omega)
    rw [decode, hhigh, hlow, if_pos ⟨mt body_eq_nil_iff.mp hne, by omega⟩]
    exact decodeItems_body hitems le_rfl

end Reprox.Foundations.Prefixed
