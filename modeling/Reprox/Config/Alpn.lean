import Reprox.Config.Validation
import Reprox.Foundations.Prefixed

/-!
# What an ALPN extension can carry

The checks of a route's protocol list are those of the wire: a list passes when
no name is listed twice and the extension can be written and read back.
-/

namespace Reprox.Config

open Foundations Net

theorem length_utf8 (s : Text) : (Text.utf8 s).length = s.byteLen := by
  induction s with
  | nil => rfl
  | cons c s ih =>
    rw [Text.utf8, List.flatMap_cons, List.length_append, String.length_utf8EncodeChar, ← Text.utf8, ih]
    rfl

theorem utf8_eq_nil_iff {s : Text} : Text.utf8 s = [] ↔ s = [] := by
  cases s with
  | nil => exact iff_of_true rfl rfl
  | cons c s =>
    have hpos := c.utf8Size_pos
    have hlength : (Text.utf8 (c :: s)).length = c.utf8Size + Text.byteLen s := length_utf8 (c :: s)
    refine iff_of_false (fun hnil => ?_) (List.cons_ne_nil c s)
    rw [hnil, List.length_nil] at hlength
    omega

/-- The loop passes exactly the names of a size the wire can carry, each once. -/
theorem validateProtocols_eq_ok {i start : ℕ} {seen protocols : List Text} {len : ℕ} :
    validateProtocols i start seen protocols = .ok len ↔
      WellFormedNames seen protocols ∧
        len = start + (protocols.map fun proto => 1 + proto.byteLen).sum := by
  refine ⟨validateProtocols_ok, ?_⟩
  induction protocols generalizing i start seen with
  | nil =>
    rintro ⟨-, rfl⟩
    simp [validateProtocols]
  | cons proto protocols ih =>
    rintro ⟨hnames, rfl⟩
    obtain ⟨⟨hne, hlen⟩, hsizes⟩ := List.forall_mem_cons.mp hnames.sizes
    obtain ⟨hfresh, hunseen⟩ := List.forall_mem_cons.mp hnames.fresh
    obtain ⟨honce, hnodup⟩ := List.nodup_cons.mp hnames.nodup
    have hrest : WellFormedNames (proto :: seen) protocols := by
      refine ⟨hsizes, hnodup, fun other hother hmem => ?_⟩
      rcases List.mem_cons.mp hmem with rfl | hseen
      · exact honce hother
      · exact hunseen other hother hseen
    simp only [validateProtocols, bind_eq_ok, ensure_eq_ok]
    refine ⟨(), hne, (), hlen, (), hfresh, ih ⟨hrest, ?_⟩⟩
    rw [List.map_cons, List.sum_cons]
    omega

theorem validateAlpnProtocols_eq_ok {protocols : List Text} :
    validateAlpnProtocols (some protocols) = .ok () ↔ WellFormedAlpn protocols := by
  refine ⟨wellFormedAlpn_of_ok, fun h => ?_⟩
  simp only [validateAlpnProtocols, bind_eq_ok, ensure_eq_ok]
  refine ⟨(), h.nonempty, _, validateProtocols_eq_ok.mpr ⟨h.names, rfl⟩, ?_⟩
  rw [Nat.zero_add]
  exact h.length_le

/-- A protocol list passes when its names differ and the extension that lists
them can be written; a peer then reads these very names from it. -/
theorem alpn_passes_iff_encodable (protocols : List Text) :
    validateAlpnProtocols (some protocols) = .ok () ↔
      protocols.Nodup ∧ ∃ wire, Prefixed.encode (protocols.map Text.utf8) = some wire ∧
        Prefixed.decode wire = some (protocols.map Text.utf8) := by
  have hlength : (Prefixed.body (protocols.map Text.utf8)).length =
      (protocols.map fun proto => 1 + proto.byteLen).sum := by
    rw [Prefixed.length_body, List.map_map]
    exact congrArg List.sum (List.map_congr_left fun proto _ => by simp [length_utf8])
  have hitems : (∀ item ∈ protocols.map Text.utf8, item ≠ [] ∧ item.length < 2 ^ 8) ↔
      ∀ proto ∈ protocols, proto ≠ [] ∧ proto.byteLen ≤ maxProtocolLen := by
    rw [List.forall_mem_map]
    refine forall₂_congr fun proto _ => and_congr (not_congr utf8_eq_nil_iff) ?_
    rw [length_utf8]
    exact Nat.lt_succ_iff
  rw [validateAlpnProtocols_eq_ok]
  simp only [Prefixed.decode_eq_some_iff, and_self, Prefixed.encode_eq_some, hitems, hlength]
  constructor
  · intro h
    refine ⟨h.names.nodup, _, h.names.sizes, ?_, Nat.lt_succ_iff.mpr h.length_le, rfl⟩
    exact mt List.map_eq_nil_iff.mp h.nonempty
  · rintro ⟨hnodup, wire, hsizes, hne, hlt, -⟩
    exact ⟨mt List.map_eq_nil_iff.mpr hne, ⟨hsizes, hnodup, fun _ _ => List.not_mem_nil⟩,
      Nat.lt_succ_iff.mp hlt⟩

end Reprox.Config
