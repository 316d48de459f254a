import Reprox.Routing.Fallback

/-!
# The files of a directory tree

A tree on Unix names its files by paths: names that are not empty and hold no
slash, each only once in its directory. The walk is one pass over the leaves of
the tree, in the order it finds them: it files every regular file under its path
with backslashes turned into slashes and stops at the first leaf at fault. Two
files of a tree never have one path, but may have one key.
-/

namespace Reprox.Routing

open Foundations Config

/-- A regular file below the root, with the names on the way to it. -/
structure SiteFile where
  rel : List Text
  bytes : Bytes
  modified : Option SystemTime

mutual

def Entry.files (rel : List Text) : Entry → List SiteFile
  | .file bytes modified => [⟨rel, bytes, modified⟩]
  | .dir children => children.files rel
  | .other | .unreadableFile _ | .unreadableDir _ | .failing _ => []

/-- The files below `rel` in the order of the walk. -/
def Directory.files (rel : List Text) : Directory → List SiteFile
  | .nil => []
  | .cons name entry rest => entry.files (rel ++ [name]) ++ rest.files rel

end

def Directory.names : Directory → List Text
  | .nil => []
  | .cons name _ rest => name :: rest.names

def IsFileName (name : Text) : Prop := name ≠ [] ∧ '/' ∉ name

mutual

def Entry.Intact : Entry → Prop
  | .file _ _ | .other => True
  | .dir children => children.Intact
  | .unreadableFile _ | .unreadableDir _ | .failing _ => False

/-- Everything can be read, and the names are those of a Unix directory. -/
def Directory.Intact : Directory → Prop
  | .nil => True
  | .cons name entry rest =>
    IsFileName name ∧ name ∉ rest.names ∧ entry.Intact ∧ rest.Intact

end

structure Tree where
  directory : Directory
  intact : directory.Intact

def Tree.onePage : Tree where
  directory := .cons "index.html".toList (.file [104, 105] none) .nil
  intact := ⟨⟨by decide, by decide⟩, by decide, trivial, trivial⟩

def Tree.files (tree : Tree) : List SiteFile := tree.directory.files []

def Tree.paths (tree : Tree) : List (List Text) := tree.files.map SiteFile.rel

/-- The file kept under a key: of several with the key, the last one found. -/
def Tree.kept (tree : Tree) (key : Text) : Option SiteFile :=
  (tree.files.filter fun f => urlPath f.rel = key).getLast?

def url (rel : List Text) : Text := '/' :: ['/'].intercalate rel

/-! ## The walk as a pass over the leaves -/

/-- Anything below the root but a directory that could be listed. -/
abbrev Leaf := List Text × Entry

mutual

def Entry.leaves (rel : List Text) : Entry → List Leaf
  | .dir children => children.leaves rel
  | entry => [(rel, entry)]

def Directory.leaves (rel : List Text) : Directory → List Leaf
  | .nil => []
  | .cons name entry rest => entry.leaves (rel ++ [name]) ++ rest.leaves rel

end

def Leaf.failure (root : Text) : Leaf → Option Fault
  | (rel, .unreadableFile cause) =>
    some (.reported (("reading file ".toList ++ Text.quoted (joinPath root rel)) :: cause))
  | (rel, .unreadableDir cause) =>
    some (.reported (("reading directory ".toList ++ Text.quoted (joinPath root rel)) :: cause))
  | (_, .failing cause) => some (.reported cause)
  | (_, .file _ modified) => if HasHttpDate (modified.getD 0) then none else some .panicked
  | (_, .dir _) | (_, .other) => none

def Leaf.files (leaf : Leaf) : List SiteFile := leaf.2.files leaf.1

mutual

theorem Entry.files_eq_flatMap (rel : List Text) (entry : Entry) :
    entry.files rel = (entry.leaves rel).flatMap Leaf.files := by
  cases entry with
  | dir children => exact Directory.files_eq_flatMap rel children
  | _ => rfl

theorem Directory.files_eq_flatMap (rel : List Text) (directory : Directory) :
    directory.files rel = (directory.leaves rel).flatMap Leaf.files := by
  cases directory with
  | nil => rfl
  | cons name entry rest =>
    rw [Directory.files, Directory.leaves, List.flatMap_append,
      Entry.files_eq_flatMap (rel ++ [name]) entry, Directory.files_eq_flatMap rel rest]

end

section Walk

variable (fmtHttpDate : SystemTime → Text)

def SiteFile.entry (f : SiteFile) : FileEntry :=
  fileEntry fmtHttpDate (f.rel.getLastD []) f.bytes f.modified

/-- The key a file is kept under, and the page made from it. -/
def SiteFile.page (f : SiteFile) : Text × FileEntry := (urlPath f.rel, f.entry fmtHttpDate)

variable (root : Text)

def visit (out : Table Text FileEntry) (leaf : Leaf) : Except Fault (Table Text FileEntry) :=
  match leaf.failure root with
  | some fault => .error fault
  | none => .ok (out.insertEntries (leaf.files.map (SiteFile.page fmtHttpDate)))

mutual

theorem walkEntry_eq_foldlM (rel : List Text) (name : Text) (out : Table Text FileEntry)
    (entry : Entry) :
    walkEntry fmtHttpDate root rel name out entry =
      (entry.leaves (rel ++ [name])).foldlM (visit fmtHttpDate root) out := by
  cases entry with
  | dir children => exact walkDir_eq_foldlM (rel ++ [name]) out children
  | file bytes modified =>
    by_cases h : HasHttpDate (modified.getD 0) <;>
      simp [walkEntry, Entry.leaves, visit, Leaf.failure, Leaf.files, Entry.files, SiteFile.page,
        SiteFile.entry, Table.insertEntries, h]
  | _ => simp [walkEntry, Entry.leaves, visit, Leaf.failure, Leaf.files, Entry.files, withContext,
      reported, Table.insertEntries]

theorem walkDir_eq_foldlM (rel : List Text) (out : Table Text FileEntry) (directory : Directory) :
    walkDir fmtHttpDate root rel out directory =
      (directory.leaves rel).foldlM (visit fmtHttpDate root) out := by
  cases directory with
  | nil => rfl
  | cons name entry rest =>
    rw [walkDir, Directory.leaves, List.foldlM_append, walkEntry_eq_foldlM rel name out entry]
    exact bind_congr fun out' => walkDir_eq_foldlM rel out' rest

end

variable {fmtHttpDate root}

theorem foldlM_visit_eq_ok {leaves : List Leaf} {out files : Table Text FileEntry} :
    leaves.foldlM (visit fmtHttpDate root) out = .ok files ↔
      (∀ leaf ∈ leaves, leaf.failure root = none) ∧
        files =
          out.insertEntries ((leaves.flatMap Leaf.files).map (SiteFile.page fmtHttpDate)) := by
  induction leaves generalizing out with
  | nil => simp [Table.insertEntries, pure, Except.pure, eq_comm]
  | cons leaf leaves ih =>
    rw [List.foldlM_cons, bind_eq_ok, List.forall_mem_cons, List.flatMap_cons, List.map_append,
      Table.insertEntries_append]
    cases hfailure : leaf.failure root with
    | some fault => simp [visit, hfailure]
    | none => simp [visit, hfailure, ih]

theorem walkDir_eq_ok {directory : Directory} {files : Table Text FileEntry} :
    walkDir fmtHttpDate root [] .empty directory = .ok files ↔
      (∀ leaf ∈ directory.leaves [], leaf.failure root = none) ∧
        files = Table.empty.insertEntries
          ((directory.files []).map (SiteFile.page fmtHttpDate)) := by
  rw [walkDir_eq_foldlM, foldlM_visit_eq_ok, Directory.files_eq_flatMap]

end Walk

def Dated (files : List SiteFile) : Prop := ∀ f ∈ files, HasHttpDate (f.modified.getD 0)

instance (files : List SiteFile) : Decidable (Dated files) :=
  inferInstanceAs (Decidable (∀ f ∈ files, _))

mutual

theorem Entry.failure_eq_none {root : Text} {rel : List Text} {entry : Entry} (h : entry.Intact)
    (hdates : Dated (entry.files rel)) : ∀ leaf ∈ entry.leaves rel, leaf.failure root = none := by
  cases entry with
  | dir children => exact Directory.failure_eq_none h hdates
  | file bytes modified =>
    intro leaf hleaf
    rw [List.mem_singleton.mp hleaf]
    exact if_pos (hdates _ List.mem_cons_self)
  | other =>
    intro leaf hleaf
    rw [List.mem_singleton.mp hleaf]
    rfl
  | _ => exact h.elim

theorem Directory.failure_eq_none {root : Text} {rel : List Text} {directory : Directory}
    (h : directory.Intact) (hdates : Dated (directory.files rel)) :
    ∀ leaf ∈ directory.leaves rel, leaf.failure root = none := by
  cases directory with
  | nil => exact List.forall_mem_nil _
  | cons name entry rest =>
    obtain ⟨-, -, hentry, hrest⟩ := h
    obtain ⟨hdated, hmore⟩ := List.forall_mem_append.mp hdates
    exact List.forall_mem_append.mpr
      ⟨Entry.failure_eq_none hentry hdated, Directory.failure_eq_none hrest hmore⟩

end

/-! ## Paths -/

mutual

theorem Entry.rel_of_mem_files {rel : List Text} {entry : Entry} (h : entry.Intact) {f : SiteFile}
    (hf : f ∈ entry.files rel) : ∃ tail, f.rel = rel ++ tail ∧ ∀ name ∈ tail, IsFileName name := by
  cases entry with
  | file bytes modified =>
    rw [List.mem_singleton.mp hf]
    exact ⟨[], (List.append_nil _).symm, by simp⟩
  | dir children =>
    obtain ⟨name, tail, -, hrel, hnames⟩ := Directory.rel_of_mem_files h hf
    exact ⟨name :: tail, hrel, hnames⟩
  | _ => cases hf

/-- A file lies below one of the names of the directory. -/
theorem Directory.rel_of_mem_files {rel : List Text} {directory : Directory}
    (h : directory.Intact) {f : SiteFile} (hf : f ∈ directory.files rel) :
    ∃ name tail, name ∈ directory.names ∧ f.rel = rel ++ name :: tail ∧
      ∀ name' ∈ name :: tail, IsFileName name' := by
  cases directory with
  | nil => cases hf
  | cons name entry rest =>
    obtain ⟨hname, -, hentry, hrest⟩ := h
    rcases List.mem_append.mp hf with hf | hf
    · obtain ⟨tail, hrel, htail⟩ := Entry.rel_of_mem_files hentry hf
      refine ⟨name, tail, List.mem_cons_self, ?_, List.forall_mem_cons.mpr ⟨hname, htail⟩⟩
      rw [hrel, List.append_assoc, List.singleton_append]
    · obtain ⟨name', tail, hmem, hrel, htail⟩ := Directory.rel_of_mem_files hrest hf
      exact ⟨name', tail, List.mem_cons_of_mem _ hmem, hrel, htail⟩

end

mutual

theorem Entry.nodup_files (rel : List Text) {entry : Entry} (h : entry.Intact) :
    ((entry.files rel).map SiteFile.rel).Nodup := by
  cases entry with
  | file bytes modified => exact List.nodup_singleton _
  | dir children => exact Directory.nodup_files rel h
  | _ => exact List.nodup_nil

theorem Directory.nodup_files (rel : List Text) {directory : Directory} (h : directory.Intact) :
    ((directory.files rel).map SiteFile.rel).Nodup := by
  cases directory with
  | nil => exact List.nodup_nil
  | cons name entry rest =>
    have hintact := h
    obtain ⟨-, hfresh, hentry, hrest⟩ := h
    rw [Directory.files, List.map_append, List.nodup_append]
    refine ⟨Entry.nodup_files _ hentry, Directory.nodup_files rel hrest, ?_⟩
    intro path hpath path' hpath' heq
    obtain ⟨f, hf, rfl⟩ := List.mem_map.mp hpath
    obtain ⟨g, hg, rfl⟩ := List.mem_map.mp hpath'
    obtain ⟨tail, hrel, -⟩ := Entry.rel_of_mem_files hentry hf
    obtain ⟨name', tail', hmem, hrel', -⟩ := Directory.rel_of_mem_files hrest hg
    rw [hrel, hrel', List.append_assoc, List.append_cancel_left_eq, List.singleton_append] at heq
    exact hfresh ((List.cons.inj heq).1 ▸ hmem)

end

namespace Tree

variable {tree : Tree} {f g : SiteFile}

theorem eq_of_rel_eq (hf : f ∈ tree.files) (hg : g ∈ tree.files) (h : f.rel = g.rel) : f = g :=
  List.inj_on_of_nodup_map (Directory.nodup_files [] tree.intact) hf hg h

theorem rel_spec (hf : f ∈ tree.files) : f.rel ≠ [] ∧ ∀ name ∈ f.rel, IsFileName name := by
  obtain ⟨name, tail, -, hrel, hnames⟩ := Directory.rel_of_mem_files tree.intact hf
  rw [hrel, List.nil_append]
  exact ⟨List.cons_ne_nil _ _, hnames⟩

theorem eq_of_url_eq (hf : f ∈ tree.files) (hg : g ∈ tree.files) (h : url f.rel = url g.rel) :
    f = g := by
  obtain ⟨hne, hnames⟩ := rel_spec hf
  obtain ⟨hne', hnames'⟩ := rel_spec hg
  have hjoined := (List.cons.inj h).2
  apply eq_of_rel_eq hf hg
  rw [← List.splitOn_intercalate '/' (fun name hname => (hnames name hname).2) hne,
    ← List.splitOn_intercalate '/' (fun name hname => (hnames' name hname).2) hne', hjoined]

end Tree

/-! ## Keys -/

/-- Of several files with a key, the last one inserted answers. -/
theorem get?_pages_of_files {fmtHttpDate : SystemTime → Text} (files : List SiteFile) (key : Text) :
    (Table.empty.insertEntries (files.map (SiteFile.page fmtHttpDate))).get? key =
      ((files.filter fun f => urlPath f.rel = key).getLast?).map (SiteFile.entry fmtHttpDate) := by
  have hkey : ((fun e : Text × FileEntry => decide (e.1 = key)) ∘ SiteFile.page fmtHttpDate) =
      fun f => decide (urlPath f.rel = key) := rfl
  rw [Table.get?_insertEntries, List.filter_map, hkey, List.getLast?_map, Option.map_map]
  rfl

namespace Tree

variable {tree : Tree} {f : SiteFile} {key : Text}

theorem mem_of_kept_eq_some (h : tree.kept key = some f) : f ∈ tree.files ∧ urlPath f.rel = key := by
  have hf := List.mem_of_getLast? h
  rw [List.mem_filter, decide_eq_true_eq] at hf
  exact hf

theorem kept_eq_none_iff : tree.kept key = none ↔ ∀ f ∈ tree.files, urlPath f.rel ≠ key := by
  simp [kept]

theorem get?_pages (fmtHttpDate : SystemTime → Text) (tree : Tree) (key : Text) :
    (Table.empty.insertEntries (tree.files.map (SiteFile.page fmtHttpDate))).get? key =
      (tree.kept key).map (SiteFile.entry fmtHttpDate) :=
  get?_pages_of_files tree.files key

theorem kept_eq_some (hf : f ∈ tree.files) (hkey : urlPath f.rel = key)
    (honly : ∀ g ∈ tree.files, urlPath g.rel = key → g = f) : tree.kept key = some f := by
  cases hkept : tree.kept key with
  | none => exact absurd hkey (kept_eq_none_iff.mp hkept f hf)
  | some g =>
    obtain ⟨hg, hgkey⟩ := mem_of_kept_eq_some hkept
    rw [honly g hg hgkey]

end Tree

theorem backslash_notMem_urlPath (rel : List Text) : '\\' ∉ urlPath rel := by
  intro h
  obtain ⟨c, -, hc⟩ := List.mem_map.mp ((List.mem_cons.mp h).resolve_left (by decide))
  split_ifs at hc with hbackslash
  · exact absurd hc (by decide)
  · exact hbackslash hc

theorem urlPath_eq_url {rel : List Text} (h : '\\' ∉ url rel) : urlPath rel = url rel := by
  unfold urlPath url at *
  rw [List.cons.injEq]
  refine ⟨rfl, (List.map_congr_left ?_).trans (List.map_id _)⟩
  intro c hc
  refine if_neg fun hbackslash => h ?_
  rw [← hbackslash]
  exact List.mem_cons_of_mem _ hc

example : urlPath ["a\\b".toList] = urlPath ["a".toList, "b".toList] := by decide

theorem intercalate_ne_nil {rel : List Text} (hne : rel ≠ [])
    (hnames : ∀ name ∈ rel, IsFileName name) : ['/'].intercalate rel ≠ [] := by
  intro hnil
  have hsplit := List.splitOn_intercalate '/' (fun name hname => (hnames name hname).2) hne
  rw [hnil, List.splitOn_nil] at hsplit
  rw [← hsplit] at hnames
  exact (hnames [] List.mem_cons_self).1 rfl

theorem rel_eq_of_urlPath_eq_indexKey {rel : List Text} (hne : rel ≠ [])
    (hnames : ∀ name ∈ rel, IsFileName name) (h : urlPath rel = StaticSite.indexKey) :
    rel = ["index.html".toList] := by
  have hkey : StaticSite.indexKey = '/' :: "index.html".toList := by decide
  rw [hkey] at h
  have hbackslash : '\\' ∉ url rel := by
    intro hmem
    have hslash : '/' ∈ "index.html".toList := by
      rw [← (List.cons.inj h).2]
      exact List.mem_map.mpr ⟨'\\', (List.mem_cons.mp hmem).resolve_left (by decide), if_pos rfl⟩
    exact absurd hslash (by decide)
  rw [urlPath_eq_url hbackslash] at h
  have hsplit := List.splitOn_intercalate '/' (fun name hname => (hnames name hname).2) hne
  rw [← hsplit, (List.cons.inj h).2]
  decide

/-! ## Loaded sites -/

section Loaded

variable {fmtHttpDate : SystemTime → Text} {now : SystemTime} {root : Text} {site : StaticSite}

namespace StaticSite

theorem tryLoad_eq_ok {listing : Except Report Directory} :
    tryLoad fmtHttpDate now root listing = .ok site ↔
      ∃ directory files, listing = .ok directory ∧
        walkDir fmtHttpDate root [] .empty directory = .ok files ∧
          (files.get? indexKey).isSome ∧
            (files.get? "/404.html".toList = none → HasHttpDate now) ∧
            site = ⟨files, (files.get? "/404.html".toList).getD (default404 fmtHttpDate now)⟩ := by
  simp only [tryLoad, bind_eq_ok, reported_eq_ok, withContext_eq_ok, ensure_eq_ok]
  constructor
  · rintro ⟨directory, hlisting, files, hwalk, -, hindex, h⟩
    refine ⟨directory, files, hlisting, hwalk, hindex, ?_⟩
    cases hpage : files.get? "/404.html".toList with
    | some page =>
      rw [hpage] at h
      exact ⟨fun hnone => (Option.some_ne_none page hnone).elim, (Except.ok.inj h).symm⟩
    | none =>
      simp only [hpage] at h
      split_ifs at h with hnow
      exact ⟨fun _ => hnow, (Except.ok.inj h).symm⟩
  · rintro ⟨directory, files, hlisting, hwalk, hindex, hnow, rfl⟩
    refine ⟨directory, hlisting, files, hwalk, (), hindex, ?_⟩
    cases hpage : files.get? "/404.html".toList with
    | some page => rfl
    | none =>
      simp only [if_pos (hnow hpage)]
      rfl

/-- What holds of every page a file is turned into holds of all pages of a loaded site. -/
theorem forall_of_tryLoad {P : FileEntry → Prop} {listing : Except Report Directory}
    (hP : ∀ name bytes modified, P (fileEntry fmtHttpDate name bytes modified))
    (hdefault : P (default404 fmtHttpDate now))
    (h : tryLoad fmtHttpDate now root listing = .ok site) :
    (∀ k e, site.files.get? k = some e → P e) ∧ P site.notFound := by
  obtain ⟨directory, files, -, hwalk, -, -, rfl⟩ := tryLoad_eq_ok.mp h
  have hpages : ∀ k e, files.get? k = some e → P e := by
    intro k e hk
    rw [(walkDir_eq_ok.mp hwalk).2, get?_pages_of_files, Option.map_eq_some_iff] at hk
    obtain ⟨f, -, rfl⟩ := hk
    exact hP _ _ _
  refine ⟨hpages, ?_⟩
  change P ((files.get? "/404.html".toList).getD (default404 fmtHttpDate now))
  cases hfound : files.get? "/404.html".toList with
  | none => exact hdefault
  | some e => exact hpages _ e hfound

variable {tree : Tree}

theorem files_of_tryLoad (h : tryLoad fmtHttpDate now root (.ok tree.directory) = .ok site) :
    site.files = Table.empty.insertEntries (tree.files.map (SiteFile.page fmtHttpDate)) := by
  obtain ⟨directory, files, hlisting, hwalk, -, -, rfl⟩ := tryLoad_eq_ok.mp h
  cases hlisting
  exact (walkDir_eq_ok.mp hwalk).2

theorem get?_files (h : tryLoad fmtHttpDate now root (.ok tree.directory) = .ok site)
    (key : Text) : site.files.get? key = (tree.kept key).map (SiteFile.entry fmtHttpDate) := by
  rw [files_of_tryLoad h, Tree.get?_pages]

theorem exists_index (h : tryLoad fmtHttpDate now root (.ok tree.directory) = .ok site) :
    ∃ f, tree.kept indexKey = some f ∧ f ∈ tree.files ∧ f.rel = ["index.html".toList] := by
  obtain ⟨directory, files, -, -, hindex, -, hsite⟩ := tryLoad_eq_ok.mp h
  have hfiles : files = site.files := by rw [hsite]
  rw [hfiles, get?_files h, Option.isSome_map] at hindex
  obtain ⟨f, hkept⟩ := Option.isSome_iff_exists.mp hindex
  obtain ⟨hf, hkey⟩ := Tree.mem_of_kept_eq_some hkept
  obtain ⟨hne, hnames⟩ := Tree.rel_spec hf
  exact ⟨f, hkept, hf, rel_eq_of_urlPath_eq_indexKey hne hnames hkey⟩

theorem exists_tryLoad (h : ["index.html".toList] ∈ tree.paths) (hdates : Dated tree.files)
    (hnow : HasHttpDate now) :
    ∃ site, tryLoad fmtHttpDate now root (.ok tree.directory) = .ok site := by
  have hwalk : walkDir fmtHttpDate root [] .empty tree.directory =
      .ok (Table.empty.insertEntries (tree.files.map (SiteFile.page fmtHttpDate))) :=
    walkDir_eq_ok.mpr ⟨Directory.failure_eq_none tree.intact hdates, rfl⟩
  have hindex : ((Table.empty.insertEntries
      (tree.files.map (SiteFile.page fmtHttpDate))).get? indexKey).isSome := by
    obtain ⟨f, hf, hrel⟩ := List.mem_map.mp h
    have hkey : urlPath f.rel = indexKey := by
      rw [hrel]
      decide
    rw [Tree.get?_pages, Option.isSome_map, Option.isSome_iff_ne_none]
    exact fun hnone => Tree.kept_eq_none_iff.mp hnone f hf hkey
  exact ⟨_, tryLoad_eq_ok.mpr ⟨_, _, rfl, hwalk, hindex, fun _ => hnow, rfl⟩⟩

end StaticSite

end Loaded

end Reprox.Routing
