import Reprox.Routing.Http

/-!
# Every file under its own URL

The paths of a tree's files are the URLs the site should answer. What it answers
instead is the key of a request, which is cut at a question mark once more after
it was decoded, and looked up among keys in which backslashes became slashes. The
two agree for the paths that neither of them touches.
-/

namespace Reprox.Routing

open Foundations Config Metrics

def requestKey (path : Text) : Text :=
  let path := path.takeWhile (· ≠ '?')
  if path = "/".toList ∨ path = [] then StaticSite.indexKey else path

def SiteFile.etag (f : SiteFile) : Text :=
  makeEtag f.bytes.length (f.modified.getD 0 / 1000000000).toNat

def Answers (response : Option Response) (status : ℕ) (body : Bytes) : Prop :=
  ∃ r, response = some r ∧ r.status = status ∧ r.body = body

section Served

variable (lib : HttpLibrary)

/-- The file is sent, or nothing to a client that has it. -/
def ServesFile (f : SiteFile) (headers : Headers) (response : Option Response) : Prop :=
  if (headers.get? HeaderName.ifNoneMatch).bind lib.toStr = some f.etag then Answers response 304 []
  else Answers response 200 f.bytes

structure Get where
  headers : Headers
  config : ServiceConfig
  now : SystemTime
  stats : HttpStats

def Get.answer (get : Get) (site : StaticSite) (path : Text) : Option Response :=
  (handleHttp lib site get.config get.now ⟨.get, path, get.headers⟩ get.stats).1

/-- The answers to a path are those that the tree's own paths ask for. -/
structure ServedByPath (tree : Tree) (site : StaticSite) (path : Text) : Prop where
  own : ∀ f ∈ tree.files, url f.rel = lib.percentDecode path → ∀ get : Get,
    ServesFile lib f get.headers (get.answer lib site path)
  unshared : ∀ f ∈ tree.files, url f.rel = lib.percentDecode path →
    ∀ g ∈ tree.files, urlPath g.rel = urlPath f.rel → g = f
  index : lib.percentDecode path = "/".toList ∨ lib.percentDecode path = [] →
    ∃ f ∈ tree.files, f.rel = ["index.html".toList] ∧ ∀ get : Get,
      ServesFile lib f get.headers (get.answer lib site path)
  missing : lib.percentDecode path ≠ "/".toList → lib.percentDecode path ≠ [] →
    (∀ f ∈ tree.files, url f.rel ≠ lib.percentDecode path) → ∀ get : Get,
      Answers (get.answer lib site path) 404 site.notFound.bytes

end Served

/-- A decoded path that neither the second cut nor the backslashes lead astray. -/
inductive Servable (tree : Tree) (decoded : Text) : Prop
  /-- There is nothing to cut, and the files with the path are those with the key. -/
  | uncut (hcut : '?' ∉ decoded)
      (hkey : ∀ f ∈ tree.files, url f.rel = decoded ↔ urlPath f.rel = decoded)
  /-- What is cut off changes nothing, as no file has the path or the key. -/
  | missing (hcut : '?' ∈ decoded) (hpath : ∀ f ∈ tree.files, url f.rel ≠ decoded)
      (hkey : ∀ f ∈ tree.files, urlPath f.rel ≠ requestKey decoded)
  /-- A file has the path, alone, and the file under the cut path is a copy of it. -/
  | copy (hcut : '?' ∈ decoded) (f g : SiteFile) (hf : f ∈ tree.files)
      (hpath : url f.rel = decoded)
      (halone : ∀ f' ∈ tree.files, urlPath f'.rel = urlPath f.rel → f' = f)
      (hkept : tree.kept (requestKey decoded) = some g) (hbytes : g.bytes = f.bytes)
      (hetag : g.etag = f.etag)

/-! ## Keys of requests -/

theorem requestKey_root {path : Text} (h : path = "/".toList ∨ path = []) :
    requestKey path = StaticSite.indexKey := by
  rcases h with rfl | rfl <;> decide

theorem requestKey_of_uncut {path : Text} (hcut : '?' ∉ path) (hroot : path ≠ "/".toList)
    (hnil : path ≠ []) : requestKey path = path := by
  have hwhole : path.takeWhile (· ≠ '?') = path := by
    rw [List.takeWhile_eq_self_iff]
    intro c hc
    exact decide_eq_true fun h => hcut (h ▸ hc)
  unfold requestKey
  rw [hwhole]
  exact if_neg (not_or.mpr ⟨hroot, hnil⟩)

theorem Tree.url_ne_root {tree : Tree} {f : SiteFile} (hf : f ∈ tree.files) :
    url f.rel ≠ "/".toList ∧ url f.rel ≠ [] := by
  obtain ⟨hne, hnames⟩ := rel_spec hf
  constructor
  · intro h
    exact intercalate_ne_nil hne hnames (List.cons.inj h).2
  · exact List.cons_ne_nil _ _

theorem Tree.urlPath_ne_root {tree : Tree} {f : SiteFile} (hf : f ∈ tree.files) :
    urlPath f.rel ≠ "/".toList ∧ urlPath f.rel ≠ [] := by
  obtain ⟨hne, hnames⟩ := rel_spec hf
  constructor
  · intro h
    exact intercalate_ne_nil hne hnames (List.map_eq_nil_iff.mp (List.cons.inj h).2)
  · exact List.cons_ne_nil _ _

/-! ## Answers -/

section Answered

variable {lib : HttpLibrary} {f g : SiteFile} {response : Option Response}

theorem Answers.unique {status status' : ℕ} {body body' : Bytes} (h : Answers response status body)
    (h' : Answers response status' body') : status = status' ∧ body = body' := by
  obtain ⟨r, hr, rfl, rfl⟩ := h
  obtain ⟨r', hr', rfl, rfl⟩ := h'
  cases hr.symm.trans hr'
  exact ⟨rfl, rfl⟩

theorem IsResponse.answers {status : ℕ} {body : Bytes} {declared : Option UInt64}
    (h : IsResponse lib response status body declared) : Answers response status body := by
  obtain ⟨r, hr, hstatus, hbody, -⟩ := h
  exact ⟨r, hr, hstatus, hbody⟩

theorem ServesFile.not_missing {headers : Headers} {body : Bytes}
    (h : ServesFile lib f headers response) : ¬Answers response 404 body := by
  intro hmissing
  unfold ServesFile at h
  split_ifs at h
  · exact absurd (h.unique hmissing).1 (by decide)
  · exact absurd (h.unique hmissing).1 (by decide)

variable {site : StaticSite} {path : Text}

theorem Get.answer_eq (get : Get) (site : StaticSite) (path : Text) :
    get.answer lib site path =
      responseTo lib site get.config get.now ⟨.get, path, get.headers⟩ := by
  unfold answer handleHttp
  cases responseTo lib site get.config get.now ⟨.get, path, get.headers⟩ <;> rfl

theorem copy_of_servesFile (hlib : lib.Documented)
    (h : ∀ get : Get, ServesFile lib f get.headers (get.answer lib site path))
    (h' : ∀ get : Get, ServesFile lib g get.headers (get.answer lib site path)) :
    g.bytes = f.bytes ∧ g.etag = f.etag := by
  have hbytes : g.bytes = f.bytes := by
    have hsent := h ⟨[], plainConfig, 0, .new⟩
    have hsent' := h' ⟨[], plainConfig, 0, .new⟩
    exact (Answers.unique hsent' hsent).2
  -- A client that has `f` is told so by `f`'s tag and by no other.
  obtain ⟨v, -, hread⟩ := hlib.header f.etag (isVisible_makeEtag _ _)
  have hsent := h ⟨[(HeaderName.ifNoneMatch, v)], plainConfig, 0, .new⟩
  have hsent' := h' ⟨[(HeaderName.ifNoneMatch, v)], plainConfig, 0, .new⟩
  have hmatch : (Headers.get? [(HeaderName.ifNoneMatch, v)] HeaderName.ifNoneMatch).bind lib.toStr =
      some f.etag := by
    simpa [Headers.get?] using hread
  unfold ServesFile at hsent hsent'
  rw [if_pos hmatch] at hsent
  rw [hmatch] at hsent'
  split_ifs at hsent' with hetag
  · exact ⟨hbytes, (Option.some.inj hetag).symm⟩
  · exact absurd (hsent'.unique hsent).1 (by decide)

variable {tree : Tree} {loadedAt : SystemTime} {root : Text}

theorem servesFile_of_kept (hlib : lib.Documented)
    (hload : StaticSite.tryLoad lib.fmtHttpDate loadedAt root (.ok tree.directory) = .ok site)
    (hkept : tree.kept (requestKey (lib.percentDecode path)) = some f) (get : Get) :
    ServesFile lib f get.headers (get.answer lib site path) := by
  have hpage : site.resolve (lib.percentDecode path) = some (f.entry lib.fmtHttpDate) := by
    change site.files.get? (requestKey (lib.percentDecode path)) = _
    rw [StaticSite.get?_files hload, hkept]
    rfl
  have hsendable := (sendable_of_tryLoad hlib hload).1 _ _ hpage
  have hspec := fileResponse_spec hlib get.config get.now hsendable ⟨.get, path, get.headers⟩
  have hanswer : get.answer lib site path =
      fileResponse lib ⟨.get, path, get.headers⟩ (f.entry lib.fmtHttpDate) get.config get.now := by
    rw [Get.answer_eq]
    simp [responseTo, hpage]
  have hetag : (f.entry lib.fmtHttpDate).etag = f.etag := rfl
  rw [hanswer]
  unfold ServesFile
  by_cases hmatch : (get.headers.get? HeaderName.ifNoneMatch).bind lib.toStr = some f.etag
  · rw [hetag, if_pos hmatch] at hspec
    rw [if_pos hmatch]
    exact hspec.answers
  · rw [hetag, if_neg hmatch] at hspec
    rw [if_neg hmatch]
    exact hspec.answers

theorem answers_of_not_kept (hlib : lib.Documented)
    (hload : StaticSite.tryLoad lib.fmtHttpDate loadedAt root (.ok tree.directory) = .ok site)
    (hkept : tree.kept (requestKey (lib.percentDecode path)) = none) (get : Get) :
    Answers (get.answer lib site path) 404 site.notFound.bytes := by
  have hpage : site.resolve (lib.percentDecode path) = none := by
    change site.files.get? (requestKey (lib.percentDecode path)) = _
    rw [StaticSite.get?_files hload, hkept]
    rfl
  have hsendable := (sendable_of_tryLoad hlib hload).2
  have hanswer : get.answer lib site path =
      notFoundResponse lib .get site get.config get.now := by
    rw [Get.answer_eq]
    simp [responseTo, hpage]
  rw [hanswer]
  exact (notFoundResponse_spec hlib get.config get.now hsendable .get).answers

/-! ## When the paths are answered as they are -/

namespace ServedByPath

section Converse

variable (hlib : lib.Documented)
  (hload : StaticSite.tryLoad lib.fmtHttpDate loadedAt root (.ok tree.directory) = .ok site)
  (h : ServedByPath lib tree site path)
include hlib hload h

theorem exists_kept (hf : f ∈ tree.files) (hpath : url f.rel = lib.percentDecode path) :
    ∃ g, tree.kept (requestKey (lib.percentDecode path)) = some g := by
  rw [← Option.ne_none_iff_exists']
  intro hnone
  have hserved := h.own f hf hpath ⟨[], plainConfig, 0, .new⟩
  exact hserved.not_missing (answers_of_not_kept hlib hload hnone _)

theorem exists_path (hroot : lib.percentDecode path ≠ "/".toList)
    (hnil : lib.percentDecode path ≠ []) (hf : f ∈ tree.files)
    (hkey : urlPath f.rel = requestKey (lib.percentDecode path)) :
    ∃ g ∈ tree.files, url g.rel = lib.percentDecode path := by
  by_contra hno
  have hmissing := h.missing hroot hnil (fun g hg hpath => hno ⟨g, hg, hpath⟩)
    ⟨[], plainConfig, 0, .new⟩
  cases hkept : tree.kept (requestKey (lib.percentDecode path)) with
  | none => exact Tree.kept_eq_none_iff.mp hkept f hf hkey
  | some g => exact (servesFile_of_kept hlib hload hkept _).not_missing hmissing

theorem servable_of_cut (hcut : '?' ∈ lib.percentDecode path) :
    Servable tree (lib.percentDecode path) := by
  have hroot : lib.percentDecode path ≠ "/".toList := by
    intro hroot
    rw [hroot] at hcut
    exact absurd hcut (by decide)
  have hnil : lib.percentDecode path ≠ [] := List.ne_nil_of_mem hcut
  by_cases hpath : ∃ f ∈ tree.files, url f.rel = lib.percentDecode path
  · obtain ⟨f, hf, hpath⟩ := hpath
    obtain ⟨g, hkept⟩ := h.exists_kept hlib hload hf hpath
    obtain ⟨hbytes, hetag⟩ :=
      copy_of_servesFile hlib (h.own f hf hpath) (servesFile_of_kept hlib hload hkept)
    exact .copy hcut f g hf hpath (h.unshared f hf hpath) hkept hbytes hetag
  · have hno : ∀ f ∈ tree.files, url f.rel ≠ lib.percentDecode path :=
      fun f hf hf' => hpath ⟨f, hf, hf'⟩
    have hkey : ∀ f ∈ tree.files, urlPath f.rel ≠ requestKey (lib.percentDecode path) :=
      fun f hf hkey => hpath (h.exists_path hlib hload hroot hnil hf hkey)
    exact .missing hcut hno hkey

theorem servable_of_uncut (hcut : '?' ∉ lib.percentDecode path) :
    Servable tree (lib.percentDecode path) := by
  have hforward : ∀ f ∈ tree.files, url f.rel = lib.percentDecode path →
      urlPath f.rel = lib.percentDecode path := by
    intro f hf hpath
    obtain ⟨hroot, hnil⟩ := Tree.url_ne_root hf
    rw [hpath] at hroot hnil
    obtain ⟨g, hkept⟩ := h.exists_kept hlib hload hf hpath
    have hkey := (Tree.mem_of_kept_eq_some hkept).2
    rw [requestKey_of_uncut hcut hroot hnil] at hkey
    -- Whatever is kept under the path is kept under a key, and no key has a backslash.
    have hbackslash : '\\' ∉ url f.rel := by
      rw [hpath, ← hkey]
      exact backslash_notMem_urlPath g.rel
    rw [urlPath_eq_url hbackslash, hpath]
  have hbackward : ∀ f ∈ tree.files, urlPath f.rel = lib.percentDecode path →
      url f.rel = lib.percentDecode path := by
    intro f hf hkey
    obtain ⟨hroot, hnil⟩ := Tree.urlPath_ne_root hf
    rw [hkey] at hroot hnil
    have hlookup : urlPath f.rel = requestKey (lib.percentDecode path) := by
      rw [hkey, requestKey_of_uncut hcut hroot hnil]
    -- The file that has the path shares the key with `f`, so the two are one file.
    obtain ⟨g, hg, hpath⟩ := h.exists_path hlib hload hroot hnil hf hlookup
    have hsame : urlPath f.rel = urlPath g.rel := hkey.trans (hforward g hg hpath).symm
    rw [h.unshared g hg hpath f hf hsame, hpath]
  exact .uncut hcut fun f hf => ⟨hforward f hf, hbackward f hf⟩

end Converse

section Forward

variable (hlib : lib.Documented)
  (hload : StaticSite.tryLoad lib.fmtHttpDate loadedAt root (.ok tree.directory) = .ok site)
include hlib hload

theorem index_served (hdecoded : lib.percentDecode path = "/".toList ∨ lib.percentDecode path = []) :
    ∃ f ∈ tree.files, f.rel = ["index.html".toList] ∧ ∀ get : Get,
      ServesFile lib f get.headers (get.answer lib site path) := by
  obtain ⟨f, hkept, hf, hrel⟩ := StaticSite.exists_index hload
  rw [← requestKey_root hdecoded] at hkept
  exact ⟨f, hf, hrel, servesFile_of_kept hlib hload hkept⟩

theorem of_servable (h : Servable tree (lib.percentDecode path)) :
    ServedByPath lib tree site path := by
  cases h with
  | uncut hcut hkey =>
    have honly : ∀ f ∈ tree.files, url f.rel = lib.percentDecode path →
        ∀ g ∈ tree.files, urlPath g.rel = lib.percentDecode path → g = f := by
      intro f hf hpath g hg hgkey
      exact Tree.eq_of_url_eq hg hf (((hkey g hg).mpr hgkey).trans hpath.symm)
    constructor
    · intro f hf hpath
      obtain ⟨hroot, hnil⟩ := Tree.url_ne_root hf
      rw [hpath] at hroot hnil
      apply servesFile_of_kept hlib hload
      rw [requestKey_of_uncut hcut hroot hnil]
      exact Tree.kept_eq_some hf ((hkey f hf).mp hpath) (honly f hf hpath)
    · intro f hf hpath g hg hsame
      exact honly f hf hpath g hg (hsame.trans ((hkey f hf).mp hpath))
    · exact index_served hlib hload
    · intro hroot hnil hno
      apply answers_of_not_kept hlib hload
      rw [requestKey_of_uncut hcut hroot hnil, Tree.kept_eq_none_iff]
      exact fun f hf hfkey => hno f hf ((hkey f hf).mpr hfkey)
  | missing hcut hpath hkey =>
    constructor
    · exact fun f hf hf' => absurd hf' (hpath f hf)
    · exact fun f hf hf' => absurd hf' (hpath f hf)
    · exact index_served hlib hload
    · intro _ _ _
      exact answers_of_not_kept hlib hload (Tree.kept_eq_none_iff.mpr hkey)
  | copy hcut f g hf hpath halone hkept hbytes hetag =>
    have honly : ∀ f' ∈ tree.files, url f'.rel = lib.percentDecode path → f' = f :=
      fun f' hf' hpath' => Tree.eq_of_url_eq hf' hf (hpath'.trans hpath.symm)
    constructor
    · intro f' hf' hpath' get
      have hserved := servesFile_of_kept hlib hload hkept get
      rw [honly f' hf' hpath']
      unfold ServesFile at hserved ⊢
      rwa [← hbytes, ← hetag]
    · intro f' hf' hpath'
      rw [honly f' hf' hpath']
      exact halone
    · exact index_served hlib hload
    · exact fun _ _ hno => absurd hpath (hno f hf)

end Forward

end ServedByPath

/-- The requests for a path are answered as the tree's paths say exactly when the path is servable. -/
theorem servedByPath_iff (hlib : lib.Documented)
    (hload : StaticSite.tryLoad lib.fmtHttpDate loadedAt root (.ok tree.directory) = .ok site)
    (path : Text) :
    ServedByPath lib tree site path ↔ Servable tree (lib.percentDecode path) := by
  constructor
  · intro h
    by_cases hcut : '?' ∈ lib.percentDecode path
    · exact h.servable_of_cut hlib hload hcut
    · exact h.servable_of_uncut hlib hload hcut
  · exact ServedByPath.of_servable hlib hload

end Answered

theorem servedByPath_iff_onePage :
    ∃ site, StaticSite.tryLoad HttpLibrary.ascii.fmtHttpDate 0 "/srv/www".toList
        (.ok Tree.onePage.directory) = .ok site ∧
      (ServedByPath .ascii .onePage site "/index%2Ehtml".toList ↔
        Servable .onePage (HttpLibrary.ascii.percentDecode "/index%2Ehtml".toList)) := by
  obtain ⟨site, hload⟩ := exists_onePage
  exact ⟨site, hload, servedByPath_iff HttpLibrary.ascii_documented hload _⟩

/-- A question mark that was escaped is cut off, and the index is sent in place of the 404 page. -/
theorem servedByPath_fails :
    ∃ site, StaticSite.tryLoad HttpLibrary.ascii.fmtHttpDate 0 "/srv/www".toList
        (.ok Tree.onePage.directory) = .ok site ∧
      ¬ServedByPath .ascii .onePage site "/index.html%3Fx".toList := by
  obtain ⟨site, hload⟩ := exists_onePage
  refine ⟨site, hload, fun h => ?_⟩
  have hmissing := h.missing (by decide) (by decide) (by decide) ⟨[], plainConfig, 0, .new⟩
  obtain ⟨f, hkept, -⟩ := StaticSite.exists_index hload
  have hkey : requestKey (HttpLibrary.ascii.percentDecode "/index.html%3Fx".toList) =
      StaticSite.indexKey := by decide
  rw [← hkey] at hkept
  exact (servesFile_of_kept HttpLibrary.ascii_documented hload hkept _).not_missing hmissing

end Reprox.Routing
