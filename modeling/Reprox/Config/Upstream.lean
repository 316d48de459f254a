import Reprox.Config.Validation
import Reprox.Net.Decimal

/-!
# What an upstream may be

An upstream is a socket address literal or a host name and a port. The two
readers overlap and one falls through to the other, and several checks reject
what the last ones would reject as well; what remains is a plain grammar
(`validateUpstream_ok_iff`). Its ports are those of `u16::from_str`, which
takes a plus sign before the digits.
-/

namespace Reprox.Config

open Foundations Net

/-! ## The grammar -/

def DecimalPort (port : Text) : Prop :=
  IsDecimal port ∧ 1 ≤ decimalValue port ∧ decimalValue port ≤ 65535

def SignedPort (port : Text) : Prop :=
  DecimalPort port ∨ ∃ digits, port = '+' :: digits ∧ DecimalPort digits

/-- A socket address literal whose port is not zero, or a host name and a port. -/
def IsUpstream (isPort : Text → Prop) (s : Text) : Prop :=
  (∃ addr, parseSocketAddr s = some addr ∧ addr.port ≠ 0) ∨
    ∃ host port, s = host ++ ':' :: port ∧ PlausibleHost host ∧ isPort port

theorem not_isDigit_colon {s : Text} (h : IsDecimal s) : ':' ∉ s := fun hmem =>
  absurd (h.2 ':' hmem) (by decide)

theorem signedPort_iff {port : Text} :
    SignedPort port ↔ ∃ n, parseU16 port = some n ∧ n ≠ 0 := by
  constructor
  · intro h
    obtain ⟨digits, hsign, hdec, hpos, hle⟩ : ∃ digits, (port = digits ∨ port = '+' :: digits) ∧
        DecimalPort digits := by
      rcases h with h | ⟨digits, rfl, h⟩
      · exact ⟨port, Or.inl rfl, h⟩
      · exact ⟨digits, Or.inr rfl, h⟩
    have hvalue : (decimalValue digits).toUInt16.toNat = decimalValue digits := by
      rw [Nat.toUInt16, UInt16.toNat_ofNat', Nat.mod_eq_of_lt (by omega)]
    refine ⟨(decimalValue digits).toUInt16, parseU16_eq_some_iff.mpr ⟨digits, hsign, hdec, hvalue.symm⟩, ?_⟩
    intro hzero
    rw [hzero, UInt16.toNat_zero] at hvalue
    omega
  · rintro ⟨n, hn, hne⟩
    obtain ⟨digits, hsign, hdec, hvalue⟩ := parseU16_eq_some_iff.mp hn
    have hpos : n.toNat ≠ 0 := fun h => hne (UInt16.toNat_inj.mp h)
    have hbound := n.toNat_lt
    have hport : DecimalPort digits := ⟨hdec, by omega, by omega⟩
    rcases hsign with rfl | rfl
    · exact Or.inl hport
    · exact Or.inr ⟨digits, rfl, hport⟩

theorem not_mem_colon_of_signedPort {port : Text} (h : SignedPort port) : ':' ∉ port := by
  rcases h with ⟨hdec, -⟩ | ⟨digits, rfl, hdec, -⟩
  · exact not_isDigit_colon hdec
  · simpa using not_isDigit_colon hdec

/-! ## The characters of a host and port -/

/-- A character that stands in a host name and its port. -/
def IsUpstreamChar (c : Char) : Prop :=
  Text.isAsciiAlphanumeric c = true ∨ c = '.' ∨ c = '-' ∨ c = '_' ∨ c = ':' ∨ c = '+'

theorem isUpstreamChar_of_isDigit {c : Char} (h : c.isDigit = true) : IsUpstreamChar c := by
  left
  simp only [Text.isAsciiAlphanumeric, Bool.or_eq_true, Bool.and_eq_true, decide_eq_true_eq]
  exact Or.inl (Or.inl (by simpa [Char.isDigit, Char.le_def] using h))

theorem isUpstreamChar_of_mem {host port : Text} (hhost : PlausibleHost host)
    (hport : SignedPort port) : ∀ c ∈ host ++ ':' :: port, IsUpstreamChar c := by
  intro c hc
  rcases List.mem_append.mp hc with hc | hc
  · rcases hhost.2 c hc with h | h | h | h
    · exact Or.inl h
    · exact Or.inr (Or.inl h)
    · exact Or.inr (Or.inr (Or.inl h))
    · exact Or.inr (Or.inr (Or.inr (Or.inl h)))
  · rcases List.mem_cons.mp hc with rfl | hc
    · exact Or.inr (Or.inr (Or.inr (Or.inr (Or.inl rfl))))
    · rcases hport with ⟨hdec, -⟩ | ⟨digits, rfl, hdec, -⟩
      · exact isUpstreamChar_of_isDigit (hdec.2 c hc)
      · rcases List.mem_cons.mp hc with rfl | hc
        · exact Or.inr (Or.inr (Or.inr (Or.inr (Or.inr rfl))))
        · exact isUpstreamChar_of_isDigit (hdec.2 c hc)

theorem not_isUpstreamChar_slash : ¬IsUpstreamChar '/' := by
  unfold IsUpstreamChar
  decide

theorem IsUpstreamChar.not_isWhitespace {c : Char} (h : IsUpstreamChar c) :
    Text.isWhitespace c = false := by
  rcases h with h | rfl | rfl | rfl | rfl | rfl
  · have hle (a b : Char) : a ≤ b ↔ a.toNat ≤ b.toNat := by
      rw [Char.le_def, UInt32.le_iff_toNat_le]
      rfl
    simp only [Text.isAsciiAlphanumeric, Bool.or_eq_true, Bool.and_eq_true, decide_eq_true_eq, hle,
      Char.reduceToNat] at h
    simp only [Text.isWhitespace, Bool.or_eq_false_iff, Bool.and_eq_false_iff, decide_eq_false_iff_not,
      beq_eq_false_iff_ne, ne_eq]
    omega
  all_goals decide

/-! ## The checks -/

theorem validateUpstream_ok_iff_wellFormed {upstream : Text} :
    validateUpstream upstream = .ok () ↔ WellFormedUpstream upstream := by
  refine ⟨wellFormedUpstream_of_ok, fun h => ?_⟩
  unfold validateUpstream
  split_ifs with hliteral
  · rfl
  rcases h with ⟨addr, haddr, hport⟩ | ⟨host, port, n, hsplit, hhost, hn, hne⟩
  · rw [haddr, Option.any_some, bne_iff_ne] at hliteral
    exact absurd hport hliteral
  have hsigned : SignedPort port := signedPort_iff.mpr ⟨n, hn, hne⟩
  have hchars := isUpstreamChar_of_mem hhost hsigned
  rw [← (Text.rsplitOnce_eq_some_iff.mp hsplit).1] at hchars
  have hslash : '/' ∉ upstream := fun hmem => not_isUpstreamChar_slash (hchars '/' hmem)
  have hscheme : Text.containsText "://".toList upstream = false := by
    rw [Bool.eq_false_iff]
    intro hfound
    exact hslash (Text.mem_of_containsText hfound (by decide))
  have hspace : upstream.any Text.isWhitespace = false := by
    rw [List.any_eq_false]
    intro c hc
    simp [(hchars c hc).not_isWhitespace]
  have hpath : '/' ∉ host := by
    intro hmem
    rcases hhost.2 '/' hmem with h | h | h | h <;> exact absurd h (by decide)
  have hall : (host.all fun c => Text.isAsciiAlphanumeric c || c == '.' || c == '-' || c == '_') =
      true := by
    simpa [or_assoc] using hhost.2
  simp only [bind_eq_ok, ensure_eq_ok, hsplit, hn]
  exact ⟨(), hscheme, (), hspace, (), hhost.1, (), hpath, (), hall, hne⟩

/-- An upstream is accepted exactly when it is a socket address literal whose
port is not zero, or a host name over the characters of host names and a port
that denotes a number from 1 to 65535, with a plus sign at most. -/
theorem validateUpstream_ok_iff (s : Text) :
    validateUpstream s = .ok () ↔ IsUpstream SignedPort s := by
  rw [validateUpstream_ok_iff_wellFormed]
  apply or_congr_right
  constructor
  · rintro ⟨host, port, n, hsplit, hhost, hn⟩
    obtain ⟨rfl, -⟩ := Text.rsplitOnce_eq_some_iff.mp hsplit
    exact ⟨host, port, rfl, hhost, signedPort_iff.mpr ⟨n, hn⟩⟩
  · rintro ⟨host, port, rfl, hhost, hport⟩
    obtain ⟨n, hn⟩ := signedPort_iff.mp hport
    refine ⟨host, port, n, ?_, hhost, hn⟩
    exact Text.rsplitOnce_eq_some_iff.mpr ⟨rfl, not_mem_colon_of_signedPort hport⟩

example : validateUpstream "https://127.0.0.1:8080".toList =
    .error ["must be a host:port pair, not a URL with a scheme".toList] := by decide

theorem validateUpstream_plus_sign :
    validateUpstream "backend.internal:+80".toList = .ok () ∧
      ¬IsUpstream DecimalPort "backend.internal:+80".toList := by
  refine ⟨by decide, ?_⟩
  rintro (⟨addr, haddr, -⟩ | ⟨host, port, hsplit, -, hport⟩)
  · have hnone : parseSocketAddr "backend.internal:+80".toList = none := by decide
    rw [hnone] at haddr
    cases haddr
  · have hdec := hport.1
    have hlast := Text.rsplitOnce_eq_some_iff.mpr ⟨hsplit, not_isDigit_colon hdec⟩
    have hfound : Text.rsplitOnce ':' "backend.internal:+80".toList =
        some ("backend.internal".toList, "+80".toList) := by decide
    rw [hfound] at hlast
    cases hlast
    exact absurd (hdec.2 '+' (by decide)) (by decide)

end Reprox.Config
