import Reprox.Foundations.Validators
import Reprox.Routing.ResponseHeaders
import Reprox.Routing.SiteServing

/-!
# Conditional requests

The entity tag of a page is made of its size and of the second it was modified.
A client keeps what it was sent, with the tag, and asks with the tag from then
on; the server may have been restarted on a changed directory in the meantime.
As long as a file's size and time tell its contents apart, the client sees what
it would have been sent without its copies.
-/

namespace Reprox.Routing

open Foundations Config Metrics

/-! ## Tags -/

def SiteFile.mtimeSecs (f : SiteFile) : ℕ := (f.modified.getD 0 / 1000000000).toNat

/-- The tag tells the size and the time of modification. -/
theorem makeEtag_injective {size size' mtimeSecs mtimeSecs' : ℕ}
    (h : makeEtag size mtimeSecs = makeEtag size' mtimeSecs') :
    size = size' ∧ mtimeSecs = mtimeSecs' := by
  have hdash (n : ℕ) : '-' ∉ Text.ofNatHex n ++ ['"'] := by
    have hdigit : ∀ d < 16, '-' ≠ Nat.digitChar d := by decide
    intro hmem
    rcases List.mem_append.mp hmem with hmem | hmem
    · obtain ⟨d, hd, hc⟩ := Text.exists_of_mem_ofNatHex hmem
      exact hdigit d hd hc
    · exact absurd (List.mem_singleton.mp hmem) (by decide)
  have hsplit (size mtimeSecs : ℕ) : Text.rsplitOnce '-' (makeEtag size mtimeSecs) =
      some ('"' :: Text.ofNatHex mtimeSecs, Text.ofNatHex size ++ ['"']) := by
    rw [Text.rsplitOnce_eq_some_iff]
    exact ⟨List.append_assoc _ _ _, hdash size⟩
  have hparts := (hsplit size mtimeSecs).symm.trans ((congrArg _ h).trans (hsplit size' mtimeSecs'))
  obtain ⟨hmtime, hsize⟩ := Prod.mk.inj (Option.some.inj hparts)
  exact ⟨Text.ofNatHex_injective (List.append_cancel_right hsize),
    Text.ofNatHex_injective (List.cons.inj hmtime).2⟩

/-! ## Clients -/

section Client

variable {ι : Type*} (lib : HttpLibrary)

/-- The site as one start of the server loads it. -/
structure LoadedSite where
  tree : Tree
  loadedAt : SystemTime
  root : Text
  site : StaticSite
  loaded : StaticSite.tryLoad lib.fmtHttpDate loadedAt root (.ok tree.directory) = .ok site

variable {lib}

def LoadedSite.page (s : LoadedSite lib) (path : Text) : Option (HeaderValue × Bytes) :=
  (s.tree.kept (requestKey (lib.percentDecode path))).bind fun f =>
    (lib.fromStr f.etag).map fun v => (v, f.bytes)

def pages (sites : ι → LoadedSite lib) :
    Validators.Store ι (ℕ × Text) HeaderValue Bytes :=
  fun i name => (sites i).page name.2

/-- Of the files that were under one key at some time, those of one size and
modified in one second are the same. -/
def TimesTell (sites : ι → LoadedSite lib) : Prop :=
  ∀ i j key f g, (sites i).tree.kept key = some f → (sites j).tree.kept key = some g →
    f.bytes.length = g.bytes.length → f.mtimeSecs = g.mtimeSecs → f.bytes = g.bytes

/-- A client asks one of the servers for a path, and has no condition of its own. -/
structure Fetch (ι : Type*) where
  server : ι
  client : ℕ
  path : Text
  others : Headers
  config : ServiceConfig
  now : SystemTime
  stats : HttpStats
  unconditional : others.get? HeaderName.ifNoneMatch = none

namespace Fetch

def name (x : Fetch ι) : ℕ × Text := (x.client, x.path)

def headers (x : Fetch ι) (copy : Option (HeaderValue × Bytes)) : Headers :=
  (copy.map fun c => (HeaderName.ifNoneMatch, c.1)).toList ++ x.others

def answer (x : Fetch ι) (sites : ι → LoadedSite lib) (copy : Option (HeaderValue × Bytes)) :
    Option Response :=
  (handleHttp lib (sites x.server).site x.config x.now ⟨.get, x.path, x.headers copy⟩ x.stats).1

theorem headers_condition (x : Fetch ι) (copy : Option (HeaderValue × Bytes)) :
    (x.headers copy).get? HeaderName.ifNoneMatch = copy.map Prod.fst := by
  cases copy with
  | none => exact x.unconditional
  | some copy => simp [headers, Headers.get?]

end Fetch

/-- The copy after an answer: what was sent with a tag is kept. -/
def learn (copy : Option (HeaderValue × Bytes)) (r : Response) : Option (HeaderValue × Bytes) :=
  if r.status = 304 then copy
  else if r.status = 200 then (r.headers.get? HeaderName.etag).map fun v => (v, r.body)
  else none

/-- The status and the body that the client acts on: its copy stands in for what
was not sent. -/
def display (copy : Option (HeaderValue × Bytes)) (r : Response) : ℕ × Bytes :=
  if r.status = 304 then (200, (copy.map Prod.snd).getD []) else (r.status, r.body)

abbrev Copies := Validators.Copies (ℕ × Text) HeaderValue Bytes

def browse (sites : ι → LoadedSite lib) : Copies → List (Fetch ι) → Option (List (ℕ × Bytes))
  | _, [] => some []
  | copies, x :: xs => do
    let r ← x.answer sites (copies x.name)
    let seen ← browse sites (Function.update copies x.name (learn (copies x.name) r)) xs
    some (display (copies x.name) r :: seen)

def browseAfresh (sites : ι → LoadedSite lib) (xs : List (Fetch ι)) : Option (List (ℕ × Bytes)) :=
  xs.mapM fun x => (x.answer sites none).map fun r => (r.status, r.body)

/-! ## The answers are those of a store -/

variable {sites : ι → LoadedSite lib}

theorem toStr_etag (hlib : lib.Documented) {f : SiteFile} {v : HeaderValue}
    (h : lib.fromStr f.etag = some v) : lib.toStr v = some f.etag := by
  obtain ⟨v', hv', hread⟩ := hlib.header f.etag (isVisible_makeEtag _ _)
  cases hv'.symm.trans h
  exact hread

theorem faithful_pages (hlib : lib.Documented) (htimes : TimesTell sites) :
    Validators.Faithful (pages sites) := by
  intro i j name tag page page' hpage hpage'
  obtain ⟨f, hf, hpage⟩ := Option.bind_eq_some_iff.mp hpage
  obtain ⟨g, hg, hpage'⟩ := Option.bind_eq_some_iff.mp hpage'
  obtain ⟨v, hv, hpage⟩ := Option.map_eq_some_iff.mp hpage
  obtain ⟨w, hw, hpage'⟩ := Option.map_eq_some_iff.mp hpage'
  obtain ⟨rfl, rfl⟩ := Prod.mk.inj hpage
  obtain ⟨rfl, rfl⟩ := Prod.mk.inj hpage'
  have htag : f.etag = g.etag :=
    Option.some.inj ((toStr_etag hlib hv).symm.trans (toStr_etag hlib hw))
  obtain ⟨hsize, htime⟩ := makeEtag_injective htag
  exact htimes i j _ f g hf hg hsize htime

theorem answer_of_missing (hlib : lib.Documented) {x : Fetch ι}
    (hpage : pages sites x.server x.name = none) (copy : Option (HeaderValue × Bytes)) :
    ∃ r, x.answer sites copy = some r ∧ r.status = 404 ∧
      r.body = (sites x.server).site.notFound.bytes := by
  have hkept : (sites x.server).tree.kept (requestKey (lib.percentDecode x.path)) = none := by
    cases hfile : (sites x.server).tree.kept (requestKey (lib.percentDecode x.path)) with
    | none => rfl
    | some f =>
      obtain ⟨v, hv, -⟩ := hlib.header f.etag (isVisible_makeEtag _ _)
      simp [pages, LoadedSite.page, Fetch.name, hfile, hv] at hpage
  exact answers_of_not_kept hlib (sites x.server).loaded hkept
    ⟨x.headers copy, x.config, x.now, x.stats⟩

theorem answer_of_page (hlib : lib.Documented) {x : Fetch ι} {tag : HeaderValue} {page : Bytes}
    (hpage : pages sites x.server x.name = some (tag, page))
    {copy : Option (HeaderValue × Bytes)}
    (hcopy : ∀ v body, copy = some (v, body) → ∃ f : SiteFile, lib.fromStr f.etag = some v) :
    ∃ r, x.answer sites copy = some r ∧
      if copy.map Prod.fst = some tag then r.status = 304
      else r.status = 200 ∧ r.headers.get? HeaderName.etag = some tag ∧ r.body = page := by
  obtain ⟨f, hkept, hpage⟩ := Option.bind_eq_some_iff.mp hpage
  obtain ⟨v, hv, hpage⟩ := Option.map_eq_some_iff.mp hpage
  obtain ⟨rfl, rfl⟩ := Prod.mk.inj hpage
  have hfile := StaticSite.get?_files (sites x.server).loaded (requestKey (lib.percentDecode x.path))
  have hresolve : (sites x.server).site.resolve (lib.percentDecode x.path) =
      some (f.entry lib.fmtHttpDate) := by
    refine hfile.trans ?_
    rw [show (sites x.server).tree.kept (requestKey (lib.percentDecode x.path)) = some f from hkept]
    rfl
  have hanswer : x.answer sites copy = fileResponse lib ⟨.get, x.path, x.headers copy⟩
      (f.entry lib.fmtHttpDate) x.config x.now := by
    refine (Get.answer_eq ⟨x.headers copy, x.config, x.now, x.stats⟩ _ x.path).trans ?_
    simp [responseTo, hresolve]
  have hcondition : ((x.headers copy).get? HeaderName.ifNoneMatch).bind lib.toStr = some f.etag ↔
      copy.map Prod.fst = some v := by
    rw [x.headers_condition]
    constructor
    · intro h
      obtain ⟨w, hw, hread⟩ := Option.bind_eq_some_iff.mp h
      obtain ⟨⟨w, body⟩, hcopy', rfl⟩ := Option.map_eq_some_iff.mp hw
      obtain ⟨g, hg⟩ := hcopy w body hcopy'
      have htag : g.etag = f.etag := Option.some.inj ((toStr_etag hlib hg).symm.trans hread)
      rw [htag] at hg
      rw [hw, ← hg, hv]
    · intro h
      rw [h]
      exact toStr_etag hlib hv
  have hserved := servesFile_of_kept hlib (sites x.server).loaded hkept
    ⟨x.headers copy, x.config, x.now, x.stats⟩
  unfold ServesFile at hserved
  by_cases hheld : copy.map Prod.fst = some v
  · rw [if_pos (hcondition.mpr hheld)] at hserved
    obtain ⟨r, hr, hstatus, -⟩ := hserved
    refine ⟨r, hr, ?_⟩
    rw [if_pos hheld]
    exact hstatus
  · rw [if_neg (mt hcondition.mp hheld)] at hserved
    obtain ⟨r, hr, hstatus, hbody⟩ := hserved
    have htag := (fileResponse_eq_some (hanswer.symm.trans hr)).2
    refine ⟨r, hr, ?_⟩
    rw [if_neg hheld]
    exact ⟨hstatus, htag.trans hv, hbody⟩

def Fetch.plain (sites : ι → LoadedSite lib) (x : Fetch ι) : ℕ × Bytes :=
  match pages sites x.server x.name with
  | some (_, page) => (200, page)
  | none => (404, (sites x.server).site.notFound.bytes)

/-- One fetch: the client learns what a store would have told it, and sees what it
would have seen without its copy. -/
theorem answer_spec (hlib : lib.Documented) (htimes : TimesTell sites) {copies : Copies}
    (hsound : Validators.Sound (pages sites) copies) (x : Fetch ι) :
    ∃ r, x.answer sites (copies x.name) = some r ∧
      learn (copies x.name) r = pages sites x.server x.name ∧
        display (copies x.name) r = x.plain sites := by
  have hreply := Validators.receive_reply (faithful_pages hlib htimes) hsound x.server x.name
  unfold Fetch.plain
  unfold Validators.reply at hreply
  cases hpage : pages sites x.server x.name with
  | none =>
    obtain ⟨r, hr, hstatus, hbody⟩ := answer_of_missing hlib hpage (copies x.name)
    exact ⟨r, hr, by simp [learn, hstatus], by simp [display, hstatus, hbody]⟩
  | some page =>
    obtain ⟨tag, page⟩ := page
    have hcopy : ∀ v body, copies x.name = some (v, body) →
        ∃ f : SiteFile, lib.fromStr f.etag = some v := by
      intro v body h
      obtain ⟨i, hi⟩ := hsound x.name v body h
      obtain ⟨f, -, hf⟩ := Option.bind_eq_some_iff.mp hi
      obtain ⟨w, hw, heq⟩ := Option.map_eq_some_iff.mp hf
      exact ⟨f, hw.trans (congrArg some (Prod.mk.inj heq).1)⟩
    obtain ⟨r, hr, hspec⟩ := answer_of_page hlib hpage hcopy
    rw [hpage] at hreply
    simp only at hreply
    refine ⟨r, hr, ?_⟩
    split_ifs at hspec hreply with hheld
    · have hcopy : copies x.name = some (tag, page) := hreply
      simp [learn, display, hspec, hcopy]
    · obtain ⟨hstatus, htag, hbody⟩ := hspec
      simp [learn, display, hstatus, htag, hbody]

/-- The run lemma: whatever the copies, the clients see what the servers have. -/
theorem browse_eq (hlib : lib.Documented) (htimes : TimesTell sites) {copies : Copies}
    (hsound : Validators.Sound (pages sites) copies) (xs : List (Fetch ι)) :
    browse sites copies xs = some (xs.map (Fetch.plain sites)) := by
  induction xs generalizing copies with
  | nil => rfl
  | cons x xs ih =>
    obtain ⟨r, hr, hlearn, hdisplay⟩ := answer_spec hlib htimes hsound x
    have hrest := ih (hsound.update x.server x.name)
    simp [browse, hr, hlearn, hdisplay, hrest]

theorem answer_plain (sites : ι → LoadedSite lib) (hlib : lib.Documented) (x : Fetch ι) :
    ∃ r, x.answer sites none = some r ∧ (r.status, r.body) = x.plain sites := by
  unfold Fetch.plain
  cases hpage : pages sites x.server x.name with
  | none =>
    obtain ⟨r, hr, hstatus, hbody⟩ := answer_of_missing hlib hpage none
    exact ⟨r, hr, Prod.ext hstatus hbody⟩
  | some page =>
    have hcopy : ∀ v body, (none : Option (HeaderValue × Bytes)) = some (v, body) →
        ∃ f : SiteFile, lib.fromStr f.etag = some v := by
      intro v body h
      cases h
    obtain ⟨r, hr, hstatus, -, hbody⟩ := answer_of_page hlib hpage hcopy
    exact ⟨r, hr, Prod.ext hstatus hbody⟩

theorem browseAfresh_eq (hlib : lib.Documented) (xs : List (Fetch ι)) :
    browseAfresh sites xs = some (xs.map (Fetch.plain sites)) := by
  induction xs with
  | nil => rfl
  | cons x xs ih =>
    obtain ⟨r, hr, hplain⟩ := answer_plain sites hlib x
    unfold browseAfresh at ih ⊢
    simp [List.mapM_cons, hr, hplain, ih]

/-- Clients that revalidate their copies, across restarts of the server and in
any order of fetches, see exactly what they would see without any. -/
theorem revalidation_transparent (hlib : lib.Documented) (htimes : TimesTell sites)
    (xs : List (Fetch ι)) :
    ∃ seen, browse sites (fun _ => none) xs = some seen ∧ browseAfresh sites xs = some seen :=
  ⟨_, browse_eq hlib htimes (Validators.sound_empty _) xs, browseAfresh_eq hlib xs⟩

/-- The index of `onePage`, written anew. -/
def Tree.revised : Tree where
  directory := .cons "index.html".toList (.file [104, 101, 121] (some 5000000000)) .nil
  intact := ⟨⟨by decide, by decide⟩, by decide, trivial, trivial⟩

/-- One client asks for the root twice before and once after the index is revised. -/
def revisit : List (Fetch Bool) :=
  [false, false, true].map fun server => ⟨server, 0, "/".toList, [], plainConfig, 0, .new, rfl⟩

theorem revalidation_transparent_revised :
    ∃ sites : Bool → LoadedSite .ascii,
      (sites false).tree = .onePage ∧ (sites true).tree = .revised ∧
        ∃ seen, browse sites (fun _ => none) revisit = some seen ∧
          browseAfresh sites revisit = some seen := by
  obtain ⟨before, hbefore⟩ := exists_onePage
  obtain ⟨after, hafter⟩ : ∃ site, StaticSite.tryLoad HttpLibrary.ascii.fmtHttpDate 0
      "/srv/www".toList (.ok Tree.revised.directory) = .ok site :=
    StaticSite.exists_tryLoad (by decide) (by decide) (by decide)
  let sites : Bool → LoadedSite .ascii := fun restarted =>
    if restarted then ⟨.revised, 0, "/srv/www".toList, after, hafter⟩
    else ⟨.onePage, 0, "/srv/www".toList, before, hbefore⟩
  have hfiles : ∀ i, ∀ f ∈ (sites i).tree.files,
      f.bytes = if i then [104, 101, 121] else [104, 105] := by
    intro i f hf
    cases i <;> rw [List.mem_singleton.mp hf] <;> rfl
  have htimes : TimesTell sites := by
    intro i j key f g hf hg hsize htime
    have hf := hfiles i f (Tree.mem_of_kept_eq_some hf).1
    have hg := hfiles j g (Tree.mem_of_kept_eq_some hg).1
    cases i <;> cases j <;> simp_all
  exact ⟨sites, rfl, rfl, revalidation_transparent HttpLibrary.ascii_documented htimes revisit⟩

end Client

end Reprox.Routing
