import Mathlib.Tactic
import Mathlib.Data.List.DropRight

/-!
# Text

Text is looked at character by character, and the operations here are the
standard library's: trimming, ASCII case, splitting at the last separator, the
components of a Unix path. Trimming a separator and folding case commute, and
what is left never ends in the separator; that is all a normal form of names
needs.
-/

namespace Reprox.Foundations

/-- Text that is looked at character by character. -/
abbrev Text := List Char

abbrev Bytes := List UInt8

namespace Text

/-- `char::is_whitespace`: the Unicode property `White_Space`. -/
def isWhitespace (c : Char) : Bool :=
  let n := c.toNat
  (9 ≤ n && n ≤ 13) || n == 0x20 || n == 0x85 || n == 0xA0 || n == 0x1680 ||
    (0x2000 ≤ n && n ≤ 0x200A) || n == 0x2028 || n == 0x2029 || n == 0x202F || n == 0x205F ||
    n == 0x3000

/-- `s.trim().is_empty()`. -/
def isBlank (s : Text) : Bool := s.all isWhitespace

def trimEndMatches (s : Text) (c : Char) : Text := s.rdropWhile (· == c)

def toAsciiLowercase (s : Text) : Text := s.map Char.toLower

def isAsciiAlphanumeric (c : Char) : Bool :=
  ('0' ≤ c && c ≤ '9') || ('a' ≤ c && c ≤ 'z') || ('A' ≤ c && c ≤ 'Z')

def containsText (pattern : Text) : Text → Bool
  | [] => pattern.isEmpty
  | c :: s => pattern.isPrefixOf (c :: s) || containsText pattern s

/-- `rsplit_once`: what stands before and after the last separator. -/
def rsplitOnce (c : Char) : Text → Option (Text × Text)
  | [] => none
  | d :: s =>
    match rsplitOnce c s with
    | some (before, after) => some (d :: before, after)
    | none => if d = c then some ([], s) else none

def utf8 (s : Text) : Bytes := s.flatMap String.utf8EncodeChar

def byteLen (s : Text) : ℕ := (s.map Char.utf8Size).sum

def ofNat (n : ℕ) : Text := Nat.toDigits 10 n

def ofNatHex (n : ℕ) : Text := Nat.toDigits 16 n

inductive Component where
  | rootDir
  | curDir
  | parentDir
  | normal (name : Text)
  deriving DecidableEq, Repr

def component : Text → Option Component
  | [] | ['.'] => none
  | ['.', '.'] => some .parentDir
  | name => some (.normal name)

/-- `Path::components`. A `.` counts at the front of a relative path only; two
`PathBuf`s are equal when they have the same components. -/
def components (path : Text) : List Component :=
  let pieces := path.splitOn '/'
  let front : List Component :=
    match pieces with
    | [] :: _ :: _ => [.rootDir]
    | ['.'] :: _ => [.curDir]
    | _ => []
  front ++ pieces.filterMap component

example : components "./a//b/../c/.".toList =
    [.curDir, .normal "a".toList, .normal "b".toList, .parentDir, .normal "c".toList] := by
  decide +kernel

/-- `Path::join`. -/
def pushPath (path name : Text) : Text :=
  if name.head? = some '/' then name
  else if path = [] ∨ path.getLast? = some '/' then path ++ name
  else path ++ '/' :: name

/-! ## Trimming and case -/

variable {s : Text} {c : Char}

theorem trimEndMatches_eq_self_iff : s.trimEndMatches c = s ↔ s.getLast? ≠ some c := by
  unfold trimEndMatches
  rw [List.rdropWhile_eq_self_iff]
  by_cases hs : s = []
  · simp [hs]
  · simp [hs, List.getLast?_eq_some_getLast hs]

theorem getLast?_trimEndMatches_ne (s : Text) (c : Char) :
    (s.trimEndMatches c).getLast? ≠ some c := by
  rw [← trimEndMatches_eq_self_iff]
  exact List.rdropWhile_idempotent (· == c) s

theorem trimEndMatches_append_replicate (s : Text) (c : Char) (n : ℕ) :
    trimEndMatches (s ++ List.replicate n c) c = s.trimEndMatches c := by
  induction n with
  | zero => simp
  | succ n ih =>
    unfold trimEndMatches at *
    rw [List.replicate_succ', ← List.append_assoc, List.rdropWhile_concat_pos _ _ _ (by simp)]
    exact ih

/-- Folding case commutes with trimming a character that has no case. -/
theorem toAsciiLowercase_trimEndMatches (hc : ∀ d : Char, d.toLower = c ↔ d = c) (s : Text) :
    (s.trimEndMatches c).toAsciiLowercase = s.toAsciiLowercase.trimEndMatches c := by
  induction s using List.reverseRecOn with
  | nil => rfl
  | append_singleton s d ih =>
    unfold trimEndMatches toAsciiLowercase at *
    rw [List.map_append, List.map_singleton]
    by_cases hd : d = c
    · have hlower : d.toLower = c := (hc d).mpr hd
      rw [List.rdropWhile_concat_pos _ _ _ (by simpa using hd),
        List.rdropWhile_concat_pos _ _ _ (by simpa using hlower)]
      exact ih
    · have hlower : d.toLower ≠ c := fun h => hd ((hc d).mp h)
      rw [List.rdropWhile_concat_neg _ _ _ (by simpa using hd),
        List.rdropWhile_concat_neg _ _ _ (by simpa using hlower)]
      simp

theorem getLast?_toAsciiLowercase (hc : ∀ d : Char, d.toLower = c ↔ d = c) :
    s.toAsciiLowercase.getLast? = some c ↔ s.getLast? = some c := by
  unfold toAsciiLowercase
  rw [List.getLast?_map, Option.map_eq_some_iff]
  constructor
  · intro h
    obtain ⟨d, hd, hlower⟩ := h
    rw [hd, (hc d).mp hlower]
  · intro h
    exact ⟨c, h, (hc c).mpr rfl⟩

/-! ## Splitting and searching -/

theorem rsplitOnce_eq_none_iff : rsplitOnce c s = none ↔ c ∉ s := by
  induction s with
  | nil => simp [rsplitOnce]
  | cons d s ih =>
    rw [rsplitOnce, List.mem_cons, not_or, ← ih]
    cases rsplitOnce c s with
    | some parts => simp
    | none =>
      by_cases hd : d = c
      · simp [hd]
      · simp [hd, Ne.symm hd]

/-- The last separator is where it splits, and the only place. -/
theorem rsplitOnce_eq_some_iff {before after : Text} :
    rsplitOnce c s = some (before, after) ↔ s = before ++ c :: after ∧ c ∉ after := by
  induction s generalizing before after with
  | nil => simp [rsplitOnce]
  | cons d s ih =>
    rw [rsplitOnce]
    cases hrest : rsplitOnce c s with
    | some parts =>
      obtain ⟨front, back⟩ := parts
      obtain ⟨hsplit, hback⟩ := ih.mp hrest
      constructor
      · intro h
        cases h
        exact ⟨by rw [hsplit, List.cons_append], hback⟩
      · rintro ⟨heq, hafter⟩
        cases before with
        | nil =>
          rw [(List.cons.inj heq).2] at hsplit
          exact absurd (hsplit ▸ List.mem_append_right _ List.mem_cons_self) hafter
        | cons e before =>
          obtain ⟨rfl, htail⟩ := List.cons.inj heq
          have hsame := hrest.symm.trans (ih.mpr ⟨htail, hafter⟩)
          cases hsame
          rfl
    | none =>
      have hnot := rsplitOnce_eq_none_iff.mp hrest
      constructor
      · intro h
        by_cases hd : d = c
        · rw [if_pos hd] at h
          cases h
          exact ⟨by rw [hd, List.nil_append], hnot⟩
        · rw [if_neg hd] at h
          cases h
      · rintro ⟨heq, -⟩
        cases before with
        | nil =>
          obtain ⟨rfl, rfl⟩ := List.cons.inj heq
          rw [if_pos rfl]
        | cons e before =>
          rw [(List.cons.inj heq).2] at hnot
          exact absurd (List.mem_append_right _ List.mem_cons_self) hnot

theorem mem_of_containsText {pattern : Text} {d : Char} (h : containsText pattern s = true)
    (hd : d ∈ pattern) : d ∈ s := by
  induction s with
  | nil =>
    rw [containsText, List.isEmpty_iff] at h
    rw [h] at hd
    exact absurd hd List.not_mem_nil
  | cons e s ih =>
    rw [containsText, Bool.or_eq_true] at h
    rcases h with hfront | hrest
    · exact (List.isPrefixOf_iff_prefix.mp hfront).subset hd
    · exact List.mem_cons_of_mem e (ih hrest)

/-! ## Hexadecimal numerals -/

theorem exists_of_mem_ofNatHex {n : ℕ} {c : Char} (hc : c ∈ ofNatHex n) :
    ∃ d < 16, c = Nat.digitChar d := by
  induction n using Nat.strongRecOn with
  | ind n ih =>
    unfold ofNatHex at *
    rw [Nat.toDigits_eq_if (by norm_num)] at hc
    split_ifs at hc with h
    · exact ⟨n, h, List.mem_singleton.mp hc⟩
    · rcases List.mem_append.mp hc with hc | hc
      · exact ih (n / 16) (by omega) hc
      · exact ⟨n % 16, Nat.mod_lt _ (by norm_num), List.mem_singleton.mp hc⟩

theorem ofNatHex_injective : Function.Injective ofNatHex := by
  have hdigit : ∀ a < 16, ∀ b < 16, Nat.digitChar a = Nat.digitChar b → a = b := by decide
  intro n
  induction n using Nat.strongRecOn with
  | ind n ih =>
    intro m h
    unfold ofNatHex at *
    rw [Nat.toDigits_eq_if (by norm_num), @Nat.toDigits_eq_if 16 m (by norm_num)] at h
    split_ifs at h with hn hm hm
    · exact hdigit n hn m hm (List.singleton_inj.mp h)
    · have hnil := (@List.append_inj' _ [] _ _ _ h rfl).1
      exact absurd hnil.symm Nat.toDigits_ne_nil
    · have hnil := (@List.append_inj' _ _ _ [] _ h rfl).1
      exact absurd hnil Nat.toDigits_ne_nil
    · obtain ⟨hhigh, hlow⟩ := List.append_inj' h rfl
      have hquot := ih (n / 16) (by omega) hhigh
      have hrem := hdigit _ (Nat.mod_lt n (by norm_num)) _ (Nat.mod_lt m (by norm_num))
        (List.singleton_inj.mp hlow)
      omega

end Text

end Reprox.Foundations
