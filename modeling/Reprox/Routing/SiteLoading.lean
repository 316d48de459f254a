import Reprox.Config.Acceptance
import Reprox.Routing.SiteTree

/-!
# Loading a tree that may not be readable

The walk stops at the first leaf that cannot be read or whose date cannot be
formatted, and the site needs an index. So nothing is ever left out silently: a
site is all of its tree, and when there is none the fault is the first on the
way, a report in the words of the source or a panic.
-/

namespace Reprox.Routing

open Foundations Config

inductive LoadFailure (now : SystemTime) (root : Text) (listing : Except Report Directory) :
    Fault → Prop
  | unlisted (cause : Report) (h : listing = .error cause) :
    LoadFailure now root listing
      (.reported (("reading directory ".toList ++ Text.quoted root) :: cause))
  | atLeaf (directory : Directory) (hlisting : listing = .ok directory)
      (before : List Leaf) (leaf : Leaf) (after : List Leaf)
      (hsplit : directory.leaves [] = before ++ leaf :: after)
      (hbefore : ∀ earlier ∈ before, earlier.failure root = none)
      (fault : Fault) (h : leaf.failure root = some fault) :
    LoadFailure now root listing fault
  | noIndex (directory : Directory) (hlisting : listing = .ok directory)
      (hall : ∀ leaf ∈ directory.leaves [], leaf.failure root = none)
      (h : ∀ f ∈ directory.files [], urlPath f.rel ≠ StaticSite.indexKey) :
    LoadFailure now root listing
      (.reported ["static_dir (".toList ++ Text.quoted root ++
        ") must contain an index.html at its root".toList])
  /-- The page for what is missing is dated by a clock that cannot be formatted. -/
  | undated (directory : Directory) (hlisting : listing = .ok directory)
      (hall : ∀ leaf ∈ directory.leaves [], leaf.failure root = none)
      (hindex : ∃ f ∈ directory.files [], urlPath f.rel = StaticSite.indexKey)
      (hmissing : ∀ f ∈ directory.files [], urlPath f.rel ≠ "/404.html".toList)
      (h : ¬HasHttpDate now) :
    LoadFailure now root listing .panicked

section Load

variable {fmtHttpDate : SystemTime → Text} {now : SystemTime} {root : Text}

theorem walkDir_eq_error {directory : Directory} {fault : Fault} :
    walkDir fmtHttpDate root [] .empty directory = .error fault ↔
      ∃ before leaf after, directory.leaves [] = before ++ leaf :: after ∧
        (∀ earlier ∈ before, earlier.failure root = none) ∧ leaf.failure root = some fault := by
  rw [walkDir_eq_foldlM, Checks.foldlM_eq_error]
  constructor
  · rintro ⟨before, leaf, after, out, hsplit, hbefore, hleaf⟩
    refine ⟨before, leaf, after, hsplit, (foldlM_visit_eq_ok.mp hbefore).1, ?_⟩
    unfold visit at hleaf
    split at hleaf
    · rename_i hfailure
      rw [hfailure, Except.error.inj hleaf]
    · cases hleaf
  · rintro ⟨before, leaf, after, hsplit, hbefore, hleaf⟩
    refine ⟨before, leaf, after, _, hsplit, foldlM_visit_eq_ok.mpr ⟨hbefore, rfl⟩, ?_⟩
    simp [visit, hleaf]

theorem get?_pages_eq_none_iff {directory : Directory} {key : Text} :
    (Table.empty.insertEntries ((directory.files []).map (SiteFile.page fmtHttpDate))).get? key =
        none ↔ ∀ f ∈ directory.files [], urlPath f.rel ≠ key := by
  rw [get?_pages_of_files, Option.map_eq_none_iff, List.getLast?_eq_none_iff,
    List.filter_eq_nil_iff]
  simp

namespace StaticSite

theorem loadFailure_iff {listing : Except Report Directory} {fault : Fault} :
    tryLoad fmtHttpDate now root listing = .error fault ↔ LoadFailure now root listing fault := by
  rw [tryLoad, Checks.bind_eq_error, reported_eq_error]
  simp only [withContext_eq_error, reported_eq_ok, withContext_eq_ok]
  constructor
  · rintro (⟨-, ⟨cause, rfl, rfl⟩, rfl⟩ | ⟨directory, hlisting, h⟩)
    · exact .unlisted cause rfl
    rw [Checks.bind_eq_error] at h
    rcases h with h | ⟨files, hfiles, h⟩
    · obtain ⟨before, leaf, after, hsplit, hbefore, hleaf⟩ := walkDir_eq_error.mp h
      exact .atLeaf directory hlisting before leaf after hsplit hbefore fault hleaf
    · obtain ⟨hall, rfl⟩ := walkDir_eq_ok.mp hfiles
      rw [Checks.bind_eq_error, reported_eq_error] at h
      simp only [ensure_eq_error, reported_eq_ok, ensure_eq_ok] at h
      rcases h with ⟨-, ⟨hindex, rfl⟩, rfl⟩ | ⟨-, hindex, h⟩
      · rw [Option.isSome_iff_ne_none, not_not, get?_pages_eq_none_iff] at hindex
        exact .noIndex directory hlisting hall hindex
      · rw [Option.isSome_iff_ne_none, ne_eq, get?_pages_eq_none_iff] at hindex
        push Not at hindex
        split at h
        · cases h
        · rename_i hmissing
          split_ifs at h with hnow
          · cases h
          · rw [← Except.error.inj h]
            exact .undated directory hlisting hall hindex (get?_pages_eq_none_iff.mp hmissing) hnow
  · intro h
    cases h with
    | unlisted cause h => exact Or.inl ⟨_, ⟨cause, h, rfl⟩, rfl⟩
    | atLeaf directory hlisting before leaf after hsplit hbefore _ hleaf =>
      refine Or.inr ⟨directory, hlisting, ?_⟩
      rw [Checks.bind_eq_error]
      exact Or.inl (walkDir_eq_error.mpr ⟨before, leaf, after, hsplit, hbefore, hleaf⟩)
    | noIndex directory hlisting hall hindex =>
      refine Or.inr ⟨directory, hlisting, ?_⟩
      rw [Checks.bind_eq_error]
      refine Or.inr ⟨_, walkDir_eq_ok.mpr ⟨hall, rfl⟩, ?_⟩
      rw [Checks.bind_eq_error, reported_eq_error]
      refine Or.inl ⟨_, ensure_eq_error.mpr ⟨?_, rfl⟩, rfl⟩
      rw [Option.isSome_iff_ne_none, not_not]
      exact get?_pages_eq_none_iff.mpr hindex
    | undated directory hlisting hall hindex hmissing hnow =>
      refine Or.inr ⟨directory, hlisting, ?_⟩
      rw [Checks.bind_eq_error]
      refine Or.inr ⟨_, walkDir_eq_ok.mpr ⟨hall, rfl⟩, ?_⟩
      rw [Checks.bind_eq_error]
      refine Or.inr ⟨(), ?_, ?_⟩
      · rw [reported_eq_ok, ensure_eq_ok, Option.isSome_iff_ne_none, ne_eq, get?_pages_eq_none_iff]
        push Not
        exact hindex
      · simp only [get?_pages_eq_none_iff.mpr hmissing, if_neg hnow]

/-- Loading is all or nothing. It fails exactly when the root cannot be listed,
the walk stops at a leaf, which is the first one at fault, no file has the key of
the index, or the page for what is missing cannot be dated; and a loaded site
answers every key with the last file of the tree that has it. -/
theorem loads_all_or_reports (fmtHttpDate : SystemTime → Text) (now : SystemTime) (root : Text)
    (listing : Except Report Directory) :
    (∀ fault, tryLoad fmtHttpDate now root listing = .error fault ↔
        LoadFailure now root listing fault) ∧
      ∀ site, tryLoad fmtHttpDate now root listing = .ok site →
        ∃ directory, listing = .ok directory ∧ ∀ key, site.files.get? key =
          (((directory.files []).filter fun f => urlPath f.rel = key).getLast?).map
            (SiteFile.entry fmtHttpDate) := by
  refine ⟨fun fault => loadFailure_iff, fun site h => ?_⟩
  obtain ⟨directory, files, hlisting, hwalk, -, -, rfl⟩ := tryLoad_eq_ok.mp h
  obtain ⟨-, rfl⟩ := walkDir_eq_ok.mp hwalk
  exact ⟨directory, hlisting, fun key => get?_pages_of_files (directory.files []) key⟩

/-- A file dated before 1970 stops the start, and no report names it. -/
example : tryLoad (fun _ => []) 0 "static/".toList
    (.ok (.cons "index.html".toList (.file [] (some (-1))) .nil)) = .error .panicked := rfl

example : tryLoad (fun _ => []) 0 "static/".toList
    (.ok (.cons "a".toList (.unreadableFile ["denied".toList]) .nil)) =
      .error (.reported ["reading file \"static/a\"".toList, "denied".toList]) := by
  rfl

end StaticSite

end Load

end Reprox.Routing
