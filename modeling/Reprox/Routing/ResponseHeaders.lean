import Reprox.Routing.Http

/-!
# The headers of a response

Every answer of the fallback site carries the common headers, each of them once,
and no name twice; what a builder puts under another name is left as it is. An
answer to HEAD is the answer to GET without its body.
-/

namespace Reprox.Routing

open Foundations Config Metrics

/-! ## Maps of headers -/

namespace Headers

def names (headers : Headers) : List Text := headers.map Prod.fst

theorem get?_eq_none_of_notMem {headers : Headers} {name : Text} (h : name ∉ headers.names) :
    headers.get? name = none := by
  unfold get?
  rw [Option.map_eq_none_iff, List.find?_eq_none]
  intro e he hname
  exact h (List.mem_map.mpr ⟨e, he, of_decide_eq_true hname⟩)

theorem get?_isSome_iff {headers : Headers} {name : Text} :
    (headers.get? name).isSome ↔ name ∈ headers.names := by
  constructor
  · intro h
    by_contra hnot
    rw [get?_eq_none_of_notMem hnot] at h
    cases h
  · intro h
    obtain ⟨e, he, rfl⟩ := List.mem_map.mp h
    unfold get?
    rw [Option.isSome_map, List.find?_isSome]
    exact ⟨e, he, decide_eq_true rfl⟩

theorem get?_insert_self (headers : Headers) (name : Text) (value : HeaderValue) :
    (headers.insert name value).get? name = some value := by
  have hbefore : (headers.filter fun e => e.1 ≠ name).find? (fun e => e.1 = name) = none := by
    rw [List.find?_eq_none]
    intro e he hname
    exact of_decide_eq_true (List.mem_filter.mp he).2 (of_decide_eq_true hname)
  unfold get? insert
  rw [List.find?_append, hbefore]
  simp

theorem mem_names_insert {headers : Headers} {name other : Text} {value : HeaderValue}
    (h : other ∈ (headers.insert name value).names) : other = name ∨ other ∈ headers.names := by
  obtain ⟨e, he, rfl⟩ := List.mem_map.mp h
  rcases List.mem_append.mp he with he | he
  · exact Or.inr (List.mem_map_of_mem (List.mem_of_mem_filter he))
  · exact Or.inl (congrArg Prod.fst (List.mem_singleton.mp he))

theorem nodup_insert {headers : Headers} (h : headers.names.Nodup) (name : Text)
    (value : HeaderValue) : (headers.insert name value).names.Nodup := by
  have hkept : ((headers.filter fun e => e.1 ≠ name).map Prod.fst).Nodup :=
    h.sublist (List.filter_sublist.map Prod.fst)
  unfold names insert
  rw [List.map_append, List.nodup_append]
  refine ⟨hkept, List.nodup_singleton _, ?_⟩
  intro other hother last hlast heq
  obtain ⟨e, he, rfl⟩ := List.mem_map.mp hother
  exact of_decide_eq_true (List.mem_filter.mp he).2 (heq.trans (List.mem_singleton.mp hlast))

end Headers

/-! ## Builders -/

section Built

variable {lib : HttpLibrary}

theorem mapM_headers_eq_some {headers : List (Text × Text)} {built : Headers}
    (h : headers.mapM (fun h => (lib.fromStr h.2).map fun v => (h.1, v)) = some built) :
    built.names = headers.map Prod.fst ∧
      ∀ name, built.get? name = (headers.find? fun e => e.1 = name).bind fun e => lib.fromStr e.2 := by
  induction headers generalizing built with
  | nil =>
    cases h
    exact ⟨rfl, fun _ => rfl⟩
  | cons e headers ih =>
    rw [List.mapM_cons] at h
    obtain ⟨first, hfirst, h⟩ := Option.bind_eq_some_iff.mp h
    obtain ⟨rest, hrest, h⟩ := Option.bind_eq_some_iff.mp h
    cases h
    obtain ⟨v, hv, rfl⟩ := Option.map_eq_some_iff.mp hfirst
    obtain ⟨hnames, hget⟩ := ih hrest
    refine ⟨congrArg (e.1 :: ·) hnames, fun name => ?_⟩
    have htail := hget name
    unfold Headers.get? at htail ⊢
    by_cases hname : e.1 = name
    · simp [hname, hv]
    · simpa [hname] using htail

theorem insertIfValid_spec {headers : Headers} (honce : headers.names.Nodup) {name : Text}
    (hnew : name ∉ headers.names) (value : Text) :
    (insertIfValid lib headers name value).names.Nodup ∧
      (insertIfValid lib headers name value).get? name = lib.fromStr value ∧
      ∀ other ∈ (insertIfValid lib headers name value).names, other = name ∨ other ∈ headers.names := by
  unfold insertIfValid
  cases lib.fromStr value with
  | none => exact ⟨honce, Headers.get?_eq_none_of_notMem hnew, fun _ hother => Or.inr hother⟩
  | some v =>
    exact ⟨Headers.nodup_insert honce name v, Headers.get?_insert_self headers name v,
      fun _ hother => Headers.mem_names_insert hother⟩

theorem foldlM_insert_eq_some {added : List (Text × Text)} (hadded : (added.map Prod.fst).Nodup)
    {headers built : Headers} (honce : headers.names.Nodup)
    (h : added.foldlM (fun headers h => (lib.fromStr h.2).map (headers.insert h.1)) headers =
      some built) :
    built.names.Nodup ∧ (∀ e ∈ added, built.get? e.1 = lib.fromStr e.2) ∧
      ∀ name, (∀ e ∈ added, name ≠ e.1) → built.get? name = headers.get? name := by
  induction added generalizing headers with
  | nil =>
    cases h
    exact ⟨honce, by simp, fun _ _ => rfl⟩
  | cons e added ih =>
    obtain ⟨hfresh, hadded⟩ := List.nodup_cons.mp hadded
    obtain ⟨next, hnext, h⟩ := Option.bind_eq_some_iff.mp h
    obtain ⟨v, hv, rfl⟩ := Option.map_eq_some_iff.mp hnext
    obtain ⟨hbuilt, hin, hout⟩ := ih hadded (Headers.nodup_insert honce e.1 v) h
    have hlater : ∀ e' ∈ added, e.1 ≠ e'.1 := by
      intro e' he' heq
      exact hfresh (heq ▸ List.mem_map_of_mem he')
    refine ⟨hbuilt, List.forall_mem_cons.mpr ⟨?_, hin⟩, fun name hname => ?_⟩
    · rw [hout e.1 hlater, Headers.get?_insert_self, hv]
    · obtain ⟨hne, hname⟩ := List.forall_mem_cons.mp hname
      rw [hout name hname, Headers.get?_insert_of_ne _ _ hne]

def commonNames : List Text :=
  HeaderName.server :: HeaderName.date :: staticHeaders.map Prod.fst

/-- The names a builder writes itself, by the status it answers with. -/
def ownNames : ℕ → List Text
  | 200 => [HeaderName.contentType, HeaderName.contentLength, HeaderName.etag,
    HeaderName.lastModified, HeaderName.cacheControl]
  | 204 => [HeaderName.allow, HeaderName.contentLength]
  | 304 => [HeaderName.etag, HeaderName.lastModified]
  | 404 => [HeaderName.contentType, HeaderName.contentLength, HeaderName.cacheControl]
  | 405 => [HeaderName.contentType, HeaderName.allow, HeaderName.contentLength]
  | _ => []

def countedStatuses : List ℕ := [200, 204, 304, 404, 405]

/-- No name is there twice, the common headers all are, and the others are those
that go with the status, which is one of the counted ones. -/
structure Response.Standard (lib : HttpLibrary) (config : ServiceConfig) (now : SystemTime)
    (r : Response) : Prop where
  once : r.headers.names.Nodup
  security : ∀ h ∈ staticHeaders, r.headers.get? h.1 = lib.fromStr h.2
  server : r.headers.get? HeaderName.server = lib.fromStr config.serverHeader
  date : r.headers.get? HeaderName.date = lib.fromStr (lib.fmtHttpDate now)
  own : ∀ name ∉ commonNames, name ∈ r.headers.names ↔ name ∈ ownNames r.status
  counted : r.status ∈ countedStatuses

theorem respond_eq_some {config : ServiceConfig} {now : SystemTime} {status : ℕ}
    {headers : List (Text × Text)} {body : Bytes} {r : Response}
    (hown : headers.map Prod.fst = ownNames status) (hcounted : status ∈ countedStatuses)
    (honce : (commonNames ++ ownNames status).Nodup)
    (h : respond lib config now status headers body = some r) :
    r.status = status ∧ r.body = body ∧ r.Standard lib config now ∧
      ∀ name ∉ commonNames, r.headers.get? name =
        (headers.find? fun e => e.1 = name).bind fun e => lib.fromStr e.2 := by
  obtain ⟨built, hbuilt, h⟩ := Option.bind_eq_some_iff.mp h
  obtain ⟨all, hall, h⟩ := Option.bind_eq_some_iff.mp h
  cases h
  obtain ⟨hnames, hget⟩ := @mapM_headers_eq_some lib headers built hbuilt
  obtain ⟨hcommon, hnodup, hapart⟩ := List.nodup_append.mp honce
  rw [← hown, ← hnames] at hnodup hapart
  have hserver : HeaderName.server ∉ Headers.names built :=
    fun hin => hapart _ List.mem_cons_self _ hin rfl
  have hdate : HeaderName.date ∉ Headers.names built :=
    fun hin => hapart _ (List.mem_cons_of_mem _ List.mem_cons_self) _ hin rfl
  obtain ⟨honce₁, hserver₁, hnames₁⟩ := @insertIfValid_spec lib _ hnodup _ hserver config.serverHeader
  have hdate₁ : HeaderName.date ∉
      (insertIfValid lib built HeaderName.server config.serverHeader).names := by
    intro hin
    exact (hnames₁ _ hin).elim (by decide) hdate
  obtain ⟨honce₂, hdate₂, -⟩ := insertIfValid_spec honce₁ hdate₁ (lib.fmtHttpDate now)
  obtain ⟨hall₁, hstatic, hkept⟩ := foldlM_insert_eq_some (by decide) honce₂ hall
  have hothers : ∀ name ∉ commonNames, all.get? name = Headers.get? built name := by
    intro name hname
    have hnotStatic : ∀ e ∈ staticHeaders, name ≠ e.1 := by
      rintro e he rfl
      exact hname (List.mem_cons_of_mem _ (List.mem_cons_of_mem _ (List.mem_map_of_mem he)))
    have hnotServer : name ≠ HeaderName.server := fun h => hname (h ▸ List.mem_cons_self)
    have hnotDate : name ≠ HeaderName.date :=
      fun h => hname (h ▸ List.mem_cons_of_mem _ List.mem_cons_self)
    rw [hkept _ hnotStatic, get?_insertIfValid _ _ hnotDate, get?_insertIfValid _ _ hnotServer]
  refine ⟨rfl, rfl, ⟨hall₁, hstatic, ?_, ?_, fun name hname => ?_, hcounted⟩, fun name hname => ?_⟩
  · rw [hkept _ (by decide), get?_insertIfValid _ _ (by decide), hserver₁]
  · rw [hkept _ (by decide), hdate₂]
  · change name ∈ all.names ↔ name ∈ ownNames status
    rw [← Headers.get?_isSome_iff, hothers name hname, Headers.get?_isSome_iff, hnames, hown]
  · exact (hothers name hname).trans (hget name)

theorem respond_body (lib : HttpLibrary) (config : ServiceConfig) (now : SystemTime) (status : ℕ)
    (headers : List (Text × Text)) (body other : Bytes) :
    respond lib config now status headers other =
      (respond lib config now status headers body).map fun r => { r with body := other } := by
  unfold respond
  cases headers.mapM fun h => (lib.fromStr h.2).map fun v => (h.1, v) with
  | none => rfl
  | some built =>
    cases hall : applyCommonHeaders lib config now built <;> simp [hall]

end Built

/-! ## Answers -/

section Answers

variable {lib : HttpLibrary} {config : ServiceConfig} {now : SystemTime}

theorem fileResponse_eq_some {req : Request} {entry : FileEntry} {r : Response}
    (h : fileResponse lib req entry config now = some r) :
    r.Standard lib config now ∧ r.headers.get? HeaderName.etag = lib.fromStr entry.etag := by
  have htag : HeaderName.etag ∉ commonNames := by decide
  unfold fileResponse at h
  by_cases hmatch : (req.headers.get? HeaderName.ifNoneMatch).bind lib.toStr = some entry.etag
  · rw [if_pos hmatch] at h
    obtain ⟨-, -, hstandard, hget⟩ := respond_eq_some rfl (by decide) (by decide) h
    exact ⟨hstandard, hget _ htag⟩
  · rw [if_neg hmatch] at h
    obtain ⟨-, -, hstandard, hget⟩ := respond_eq_some rfl (by decide) (by decide) h
    exact ⟨hstandard, hget _ htag⟩

variable {site : StaticSite}

theorem standard_of_responseTo {req : Request} {r : Response}
    (h : responseTo lib site config now req = some r) : r.Standard lib config now := by
  unfold responseTo at h
  split_ifs at h
  · exact (respond_eq_some rfl (by decide) (by decide) h).2.2.1
  · exact (respond_eq_some rfl (by decide) (by decide) h).2.2.1
  · cases hresolve : site.resolve (lib.percentDecode req.path) with
    | none =>
      rw [hresolve] at h
      exact (respond_eq_some rfl (by decide) (by decide) h).2.2.1
    | some entry =>
      rw [hresolve] at h
      exact (fileResponse_eq_some h).1

theorem responseTo_head (path : Text) (headers : Headers) :
    responseTo lib site config now ⟨.head, path, headers⟩ =
      (responseTo lib site config now ⟨.get, path, headers⟩).map fun r => { r with body := [] } := by
  cases hresolve : site.resolve (lib.percentDecode path) with
  | none =>
    simp only [responseTo, hresolve, notFoundResponse, reduceCtorEq, if_false, if_true, ne_eq,
      not_true_eq_false, not_false_eq_true, and_false, false_and]
    exact respond_body lib config now 404 _ _ _
  | some entry =>
    simp only [responseTo, hresolve, fileResponse, reduceCtorEq, if_false, if_true, ne_eq,
      not_true_eq_false, not_false_eq_true, and_false, false_and]
    split_ifs
    · exact respond_body lib config now 304 _ _ _
    · exact respond_body lib config now 200 _ _ _

variable (config now) in
theorem exists_responseTo (hlib : lib.Documented) {loadedAt : SystemTime} {root : Text}
    {listing : Except Report Directory}
    (hload : StaticSite.tryLoad lib.fmtHttpDate loadedAt root listing = .ok site) (req : Request) :
    ∃ r, responseTo lib site config now req = some r := by
  obtain ⟨hpages, hmissing⟩ := sendable_of_tryLoad hlib hload
  unfold responseTo
  split_ifs
  · obtain ⟨r, hr, -⟩ := optionsResponse_spec hlib config now
    exact ⟨r, hr⟩
  · obtain ⟨r, hr, -⟩ := methodNotAllowedResponse_spec hlib config now
    exact ⟨r, hr⟩
  · cases hresolve : site.resolve (lib.percentDecode req.path) with
    | none =>
      obtain ⟨r, hr, -⟩ := notFoundResponse_spec hlib config now hmissing req.method
      exact ⟨r, hr⟩
    | some entry =>
      have hspec := fileResponse_spec hlib config now (hpages _ _ hresolve) req
      by_cases hmatch : (req.headers.get? HeaderName.ifNoneMatch).bind lib.toStr = some entry.etag
      · rw [if_pos hmatch] at hspec
        obtain ⟨r, hr, -⟩ := hspec
        exact ⟨r, hr⟩
      · rw [if_neg hmatch] at hspec
        obtain ⟨r, hr, -⟩ := hspec
        exact ⟨r, hr⟩

/-- A loaded site answers every request, with a standard response, and a HEAD
with what the GET would be answered with but for the body. -/
theorem every_answer_standard (hlib : lib.Documented) {loadedAt : SystemTime} {root : Text}
    {listing : Except Report Directory}
    (hload : StaticSite.tryLoad lib.fmtHttpDate loadedAt root listing = .ok site)
    (config : ServiceConfig) (now : SystemTime) :
    (∀ req, ∃ r, responseTo lib site config now req = some r ∧ r.Standard lib config now) ∧
      ∀ path headers, responseTo lib site config now ⟨.head, path, headers⟩ =
        (responseTo lib site config now ⟨.get, path, headers⟩).map fun r => { r with body := [] } := by
  refine ⟨fun req => ?_, responseTo_head⟩
  obtain ⟨r, hr⟩ := exists_responseTo config now hlib hload req
  exact ⟨r, hr, standard_of_responseTo hr⟩

theorem every_answer_standard_onePage :
    ∃ site, StaticSite.tryLoad HttpLibrary.ascii.fmtHttpDate 0 "/srv/www".toList
        (.ok Tree.onePage.directory) = .ok site ∧
      (∀ req, ∃ r, responseTo .ascii site plainConfig 0 req = some r ∧
        r.Standard .ascii plainConfig 0) ∧
      ∀ path headers, responseTo .ascii site plainConfig 0 ⟨.head, path, headers⟩ =
        (responseTo .ascii site plainConfig 0 ⟨.get, path, headers⟩).map
          fun r => { r with body := [] } := by
  obtain ⟨site, hload⟩ := exists_onePage
  exact ⟨site, hload, every_answer_standard HttpLibrary.ascii_documented hload plainConfig 0⟩

end Answers

end Reprox.Routing
