import Reprox.Net.Address

/-!
# The language of the number readers

`from_str` of an unsigned type reads decimal digits after an optional plus sign,
leading zeros included, and nothing else. What was written with `Display` is read
back.
-/

namespace Reprox.Net

open Foundations

def IsDecimal (s : Text) : Prop := s ≠ [] ∧ ∀ c ∈ s, c.isDigit = true

def decimalValue (s : Text) : ℕ := Nat.ofDigitChars 10 s 0

theorem toDigit_ten (c : Char) :
    toDigit 10 c = if c.isDigit then some (c.toNat - '0'.toNat) else none := by
  have hdigit : c.isDigit = true ↔ '0' ≤ c ∧ c ≤ '9' := by simp [Char.isDigit, Char.le_def]
  have hbound (lo hi : Char) : lo ≤ c ∧ c ≤ hi ↔ lo.toNat ≤ c.toNat ∧ c.toNat ≤ hi.toNat := by
    simp only [Char.le_def, UInt32.le_iff_toNat_le]
    rfl
  simp only [toDigit, hdigit]
  by_cases h : '0' ≤ c ∧ c ≤ '9'
  · have hnat := (hbound '0' '9').mp h
    simp only [if_pos h]
    rw [if_pos]
    simp only [Char.reduceToNat] at hnat ⊢
    omega
  · simp only [if_neg h]
    rw [if_neg]
    split_ifs with hlow hup
    · simp
    · simp
    · simp

theorem readDigits_snd_eq_nil {s : Text} :
    (readDigits 10 s).2 = [] ↔ ∀ c ∈ s, c.isDigit = true := by
  induction s with
  | nil => simp [readDigits]
  | cons c s ih =>
    rw [readDigits, toDigit_ten]
    by_cases h : c.isDigit = true <;> simp [h, ih]

theorem readDigits_fst {s : Text} (h : ∀ c ∈ s, c.isDigit = true) :
    (readDigits 10 s).1 = s.map fun c => c.toNat - '0'.toNat := by
  induction s with
  | nil => rfl
  | cons c s ih =>
    obtain ⟨hc, hs⟩ := List.forall_mem_cons.mp h
    rw [readDigits, toDigit_ten, if_pos hc, List.map_cons, ← ih hs]

theorem ofDigits_map (s : Text) :
    ofDigits 10 (s.map fun c => c.toNat - '0'.toNat) = decimalValue s := by
  rw [decimalValue, Nat.ofDigitChars_eq_foldl, ofDigits, List.foldl_map]
  simp only [Nat.mul_comm 10]

theorem readNumber_eq_some_iff {max n : ℕ} {s : Text} :
    readNumber 10 none true max s = some (n, []) ↔
      IsDecimal s ∧ decimalValue s = n ∧ n ≤ max := by
  have hrest := readDigits_snd_eq_nil (s := s)
  by_cases hdigits : ∀ c ∈ s, c.isDigit = true
  · have hread : readDigits 10 s = (s.map fun c => c.toNat - '0'.toNat, []) :=
      Prod.ext (readDigits_fst hdigits) (hrest.mpr hdigits)
    simp only [readNumber, hread, ofDigits_map, List.map_eq_nil_iff, IsDecimal]
    by_cases hempty : s = []
    · simp [hempty]
    · by_cases hfits : max < decimalValue s
      · simp only [hempty, hfits, Option.any_none, Bool.false_eq_true, Bool.not_true,
          Bool.false_and, if_true, if_false, reduceCtorEq, false_iff]
        rintro ⟨-, rfl, hle⟩
        omega
      · simp only [hempty, hfits, Option.any_none, Bool.false_eq_true, Bool.not_true,
          Bool.false_and, if_false, Option.some.injEq, Prod.mk.injEq, and_true]
        constructor
        · rintro rfl
          exact ⟨⟨hempty, hdigits⟩, rfl, not_lt.mp hfits⟩
        · exact fun h => h.2.1
  · have hleft : (readDigits 10 s).2 ≠ [] := fun h => hdigits (hrest.mp h)
    constructor
    · intro h
      simp only [readNumber] at h
      split_ifs at h
      exact absurd (Prod.mk.inj (Option.some.inj h)).2 hleft
    · rintro ⟨⟨-, hall⟩, -⟩
      exact absurd hall hdigits

theorem parseUnsigned_eq_readNumber {max n : ℕ} {s : Text} :
    parseUnsigned max s = some n ↔
      readNumber 10 none true max (if s.head? = some '+' then s.tail else s) = some (n, []) := by
  unfold parseUnsigned
  dsimp only
  split
  · next m h => simp [h]
  · next h =>
    constructor
    · intro hnone
      cases hnone
    · intro hsome
      exact absurd hsome (h n)

/-- The language of `from_str`: an optional plus sign and decimal digits. -/
theorem parseUnsigned_eq_some_iff {max n : ℕ} {s : Text} :
    parseUnsigned max s = some n ↔
      ∃ digits, (s = digits ∨ s = '+' :: digits) ∧ IsDecimal digits ∧ decimalValue digits = n ∧
        n ≤ max := by
  rw [parseUnsigned_eq_readNumber, readNumber_eq_some_iff]
  by_cases hsign : s.head? = some '+'
  · obtain ⟨rest, rfl⟩ : ∃ rest, s = '+' :: rest := by
      cases s with
      | nil => cases hsign
      | cons c rest => exact ⟨rest, by rw [Option.some.inj hsign]⟩
    rw [if_pos hsign, List.tail_cons]
    constructor
    · intro h
      exact ⟨rest, Or.inr rfl, h⟩
    · rintro ⟨digits, rfl | hdigits, hdec, hval⟩
      · exact absurd (hdec.2 '+' List.mem_cons_self) (by decide)
      · rw [(List.cons.inj hdigits).2]
        exact ⟨hdec, hval⟩
  · rw [if_neg hsign]
    constructor
    · intro h
      exact ⟨s, Or.inl rfl, h⟩
    · rintro ⟨digits, rfl | rfl, h⟩
      · exact h
      · exact absurd rfl hsign

theorem parseU16_eq_some_iff {s : Text} {port : UInt16} :
    parseU16 s = some port ↔
      ∃ digits, (s = digits ∨ s = '+' :: digits) ∧ IsDecimal digits ∧
        decimalValue digits = port.toNat := by
  have hfits {n : ℕ} (hn : n ≤ 65535) : n.toUInt16 = port ↔ n = port.toNat := by
    rw [← UInt16.toNat_inj, Nat.toUInt16, UInt16.toNat_ofNat', Nat.mod_eq_of_lt (by omega)]
  have hport := port.toNat_lt
  rw [parseU16, Option.map_eq_some_iff]
  constructor
  · rintro ⟨n, hn, hval⟩
    obtain ⟨digits, hs, hdec, rfl, hle⟩ := parseUnsigned_eq_some_iff.mp hn
    exact ⟨digits, hs, hdec, (hfits hle).mp hval⟩
  · rintro ⟨digits, hs, hdec, hval⟩
    have hle : port.toNat ≤ 65535 := by omega
    exact ⟨port.toNat, parseUnsigned_eq_some_iff.mpr ⟨digits, hs, hdec, hval, hle⟩,
      (hfits hle).mpr rfl⟩

theorem isDecimal_ofNat (n : ℕ) : IsDecimal (Text.ofNat n) :=
  ⟨Nat.toDigits_ne_nil, fun _ hc => Nat.isDigit_of_mem_toDigits (by norm_num) le_rfl hc⟩

/-- A length that was written into a header is read back. -/
theorem parseU64_ofNat {n : ℕ} (h : n < 2 ^ 64) : parseU64 (Text.ofNat n) = some n.toUInt64 := by
  have hread : parseUnsigned 18446744073709551615 (Text.ofNat n) = some n :=
    parseUnsigned_eq_some_iff.mpr ⟨_, Or.inl rfl, isDecimal_ofNat n, Nat.ofDigitChars_ten_toDigits,
      by omega⟩
  rw [parseU64, hread, Option.map_some]

end Reprox.Net
