import Reprox.Metrics.Stats
import Reprox.Net.Decimal
import Reprox.Routing.SiteTree

/-!
# The HTTP handler of the fallback site

`handle_http` with its five response builders and the counters it records. Header
values, dates and percent-decoding belong to libraries and are parameters; a
builder whose header values are refused panics, and its result is then `none`.
With values of visible ASCII, as all of the handler's own are, none is.
-/

namespace Reprox.Routing

open Foundations Net Config Metrics

/-! ## Libraries -/

/-- `http::HeaderValue`: its bytes. -/
abbrev HeaderValue := Bytes

structure HttpLibrary where
  /-- `HeaderValue::from_str`. -/
  fromStr : Text → Option HeaderValue
  /-- `HeaderValue::to_str`. -/
  toStr : HeaderValue → Option Text
  fmtHttpDate : SystemTime → Text
  /-- `percent_decode_str` and `decode_utf8_lossy`. -/
  percentDecode : Text → Text

/-- Visible ASCII characters and blanks. -/
def IsVisible (s : Text) : Prop := ∀ c ∈ s, 32 ≤ c.toNat ∧ c.toNat ≤ 126

instance (s : Text) : Decidable (IsVisible s) :=
  List.decidableBAll (fun c : Char => 32 ≤ c.toNat ∧ c.toNat ≤ 126) s

/-- Visible ASCII is a header value and reads back as it was; dates are visible ASCII. -/
structure HttpLibrary.Documented (lib : HttpLibrary) : Prop where
  header : ∀ s, IsVisible s → ∃ v, lib.fromStr s = some v ∧ lib.toStr v = some s
  date : ∀ t, IsVisible (lib.fmtHttpDate t)

section Ascii

def hexDigit? (c : Char) : Option ℕ :=
  if '0' ≤ c ∧ c ≤ '9' then some (c.toNat - '0'.toNat)
  else if 'a' ≤ c ∧ c ≤ 'f' then some (c.toNat - 'a'.toNat + 10)
  else if 'A' ≤ c ∧ c ≤ 'F' then some (c.toNat - 'A'.toNat + 10)
  else none

/-- Percent-decoding where every escape stands for an ASCII character. -/
def percentDecodeAscii : Text → Text
  | '%' :: hi :: lo :: rest =>
    match hexDigit? hi, hexDigit? lo with
    | some h, some l => Char.ofNat (16 * h + l) :: percentDecodeAscii rest
    | _, _ => '%' :: percentDecodeAscii (hi :: lo :: rest)
  | c :: rest => c :: percentDecodeAscii rest
  | [] => []

def HttpLibrary.ascii : HttpLibrary where
  fromStr s :=
    if (Text.utf8 s).all fun b => b == 9 || (decide (32 ≤ b) && b != 127) then some (Text.utf8 s)
    else none
  toStr v :=
    if v.all fun b => b == 9 || (decide (32 ≤ b) && decide (b < 127)) then
      some (v.map fun b => Char.ofNat b.toNat)
    else none
  fmtHttpDate _ := "Thu, 01 Jan 1970 00:00:00 GMT".toList
  percentDecode := percentDecodeAscii

theorem utf8_eq_map {s : Text} (h : IsVisible s) :
    Text.utf8 s = s.map fun c => UInt8.ofNat c.toNat := by
  unfold Text.utf8
  rw [List.map_eq_flatMap]
  refine List.flatMap_congr fun c hc => ?_
  have hsize : c.utf8Size = 1 := by
    rw [Char.utf8Size_eq_one_iff, UInt32.le_iff_toNat_le]
    exact (h c hc).2.trans (by decide)
  rw [String.utf8EncodeChar_eq_singleton hsize]
  rfl

theorem HttpLibrary.ascii_documented : ascii.Documented := by
  refine ⟨fun s hs => ?_, fun _ => ?_⟩
  · have hbyte : ∀ b ∈ Text.utf8 s, 32 ≤ b ∧ b < 127 := by
      rw [utf8_eq_map hs, List.forall_mem_map]
      intro c hc
      obtain ⟨hlow, hhigh⟩ := hs c hc
      rw [UInt8.le_iff_toNat_le, UInt8.lt_iff_toNat_lt, UInt8.toNat_ofNat',
        Nat.mod_eq_of_lt (by omega)]
      exact ⟨hlow, Nat.lt_succ_of_le hhigh⟩
    refine ⟨Text.utf8 s, if_pos ?_, ?_⟩
    · rw [List.all_eq_true]
      intro b hb
      simp [hbyte b hb, UInt8.ne_of_lt (hbyte b hb).2]
    · have hread : ((Text.utf8 s).all fun b => b == 9 || (decide (32 ≤ b) && decide (b < 127))) =
          true := by
        rw [List.all_eq_true]
        intro b hb
        simp [hbyte b hb]
      refine (if_pos hread).trans (congrArg some ?_)
      rw [utf8_eq_map hs, List.map_map]
      refine (List.map_congr_left fun c hc => ?_).trans (List.map_id s)
      have hsmall : c.toNat < 2 ^ 8 := by
        have := (hs c hc).2
        omega
      simp only [Function.comp_apply, UInt8.toNat_ofNat', Nat.mod_eq_of_lt hsmall,
        Char.ofNat_toNat, id]
  · change IsVisible "Thu, 01 Jan 1970 00:00:00 GMT".toList
    decide

theorem exists_onePage :
    ∃ site, StaticSite.tryLoad HttpLibrary.ascii.fmtHttpDate 0 "/srv/www".toList
      (.ok Tree.onePage.directory) = .ok site :=
  StaticSite.exists_tryLoad (by decide) (by decide) (by decide)

def plainConfig : ServiceConfig :=
  ({ listenAddr := .v4 ⟨0, 0, 0, 0⟩ 443
     routes := []
     tlsCertPath := "cert.pem".toList
     tlsKeyPath := "key.pem".toList
     staticDir := "/srv/www".toList
     serverHeader := none
     startHandshakeTimeoutSecs := none
     handshakeTimeoutSecs := none
     tlsMinVersion := none
     metricsAddr := none
     maxConnections := none
     maxConnectionsPerIp := none
     connectionRatePerIp := none
     connectionBurstPerIp := none } : Document).deserialize

end Ascii

/-! ## Headers -/

/-- `http::HeaderMap`, in the order of insertion. -/
abbrev Headers := List (Text × HeaderValue)

namespace Headers

/-- `get`: the first value under the name. -/
def get? (headers : Headers) (name : Text) : Option HeaderValue :=
  (headers.find? fun h => h.1 = name).map Prod.snd

def insert (headers : Headers) (name : Text) (value : HeaderValue) : Headers :=
  headers.filter (fun h => h.1 ≠ name) ++ [(name, value)]

theorem get?_insert_of_ne (headers : Headers) {name other : Text} (value : HeaderValue)
    (h : other ≠ name) : (headers.insert name value).get? other = headers.get? other := by
  have hothers : (headers.filter fun e => e.1 ≠ name).find? (fun e => e.1 = other) =
      headers.find? fun e => e.1 = other := by
    rw [List.find?_filter]
    congr 1
    funext e
    by_cases he : e.1 = other <;> simp [he, h]
  unfold get? insert
  rw [List.find?_append, hothers]
  simp [Ne.symm h]

end Headers

namespace HeaderName

def contentType : Text := "content-type".toList
def contentLength : Text := "content-length".toList
def etag : Text := "etag".toList
def lastModified : Text := "last-modified".toList
def cacheControl : Text := "cache-control".toList
def allow : Text := "allow".toList
def ifNoneMatch : Text := "if-none-match".toList
def server : Text := "server".toList
def date : Text := "date".toList

end HeaderName

/-! ## Requests and responses -/

inductive Method where
  | get
  | head
  | options
  | other (name : Text)
  deriving DecidableEq, Repr

structure Request where
  method : Method
  path : Text
  headers : Headers
  deriving DecidableEq, Repr

structure Response where
  status : ℕ
  headers : Headers
  body : Bytes
  deriving DecidableEq, Repr

/-- The headers of `apply_common_headers` that never change. -/
def staticHeaders : List (Text × Text) :=
  [("strict-transport-security".toList, "max-age=63072000; includeSubDomains; preload".toList),
    ("x-content-type-options".toList, "nosniff".toList),
    ("x-frame-options".toList, "SAMEORIGIN".toList),
    ("referrer-policy".toList, "strict-origin-when-cross-origin".toList)]

def cacheControlFor (contentType : Text) : Text :=
  if "text/html".toList.isPrefixOf contentType then "no-cache".toList
  else "public, max-age=2592000, immutable".toList

def allowedMethods : Text := "GET, HEAD, OPTIONS".toList

def notAllowedHtml : Text :=
  ("<!doctype html><html><head><title>405 Not Allowed</title></head>" ++
    "<body><center><h1>405 Not Allowed</h1></center></body></html>").toList

section Handler

variable (lib : HttpLibrary)

/-- `headers.insert` of a value that may be refused, and is then left out. -/
def insertIfValid (headers : Headers) (name value : Text) : Headers :=
  match lib.fromStr value with
  | some v => headers.insert name v
  | none => headers

def applyCommonHeaders (config : ServiceConfig) (now : SystemTime) (headers : Headers) :
    Option Headers :=
  let headers := insertIfValid lib headers HeaderName.server config.serverHeader
  let headers := insertIfValid lib headers HeaderName.date (lib.fmtHttpDate now)
  staticHeaders.foldlM (fun headers h => (lib.fromStr h.2).map (headers.insert h.1)) headers

/-- `Response::builder` with the headers in the order given, then the common headers. -/
def respond (config : ServiceConfig) (now : SystemTime) (status : ℕ)
    (headers : List (Text × Text)) (body : Bytes) : Option Response := do
  let headers ← headers.mapM fun h => (lib.fromStr h.2).map fun v => (h.1, v)
  let headers ← applyCommonHeaders lib config now headers
  some ⟨status, headers, body⟩

def notModifiedResponse (entry : FileEntry) (config : ServiceConfig) (now : SystemTime) :
    Option Response :=
  respond lib config now 304
    [(HeaderName.etag, entry.etag), (HeaderName.lastModified, entry.lastModified)] []

def fileResponse (req : Request) (entry : FileEntry) (config : ServiceConfig) (now : SystemTime) :
    Option Response :=
  if (req.headers.get? HeaderName.ifNoneMatch).bind lib.toStr = some entry.etag then
    notModifiedResponse lib entry config now
  else
    respond lib config now 200
      [(HeaderName.contentType, entry.contentType),
        (HeaderName.contentLength, Text.ofNat entry.bytes.length), (HeaderName.etag, entry.etag),
        (HeaderName.lastModified, entry.lastModified),
        (HeaderName.cacheControl, cacheControlFor entry.contentType)]
      (if req.method = .head then [] else entry.bytes)

def notFoundResponse (method : Method) (site : StaticSite) (config : ServiceConfig)
    (now : SystemTime) : Option Response :=
  respond lib config now 404
    [(HeaderName.contentType, site.notFound.contentType),
      (HeaderName.contentLength, Text.ofNat site.notFound.bytes.length),
      (HeaderName.cacheControl, "no-cache".toList)]
    (if method = .head then [] else site.notFound.bytes)

def optionsResponse (config : ServiceConfig) (now : SystemTime) : Option Response :=
  respond lib config now 204
    [(HeaderName.allow, allowedMethods), (HeaderName.contentLength, "0".toList)] []

def methodNotAllowedResponse (config : ServiceConfig) (now : SystemTime) : Option Response :=
  let html := Text.utf8 notAllowedHtml
  respond lib config now 405
    [(HeaderName.contentType, "text/html; charset=utf-8".toList),
      (HeaderName.allow, allowedMethods), (HeaderName.contentLength, Text.ofNat html.length)]
    html

/-- The length that a response declares, as far as it can be read. -/
def declaredLength (headers : Headers) : Option UInt64 :=
  ((headers.get? HeaderName.contentLength).bind lib.toStr).bind parseU64

def recordResponseMetrics (stats : HttpStats) (resp : Response) : HttpStats :=
  let stats := stats.countStatus resp.status
  match declaredLength lib resp.headers with
  | some len => { stats with httpBytesSent := stats.httpBytesSent + len.toNat }
  | none => stats

def countMethod (stats : HttpStats) (method : Method) : HttpStats :=
  if method = .get then { stats with httpMethodGet := stats.httpMethodGet + 1 }
  else if method = .head then { stats with httpMethodHead := stats.httpMethodHead + 1 }
  else if method = .options then { stats with httpMethodOptions := stats.httpMethodOptions + 1 }
  else { stats with httpMethodOther := stats.httpMethodOther + 1 }

/-- The response of `handle_http`, before it is recorded. -/
def responseTo (site : StaticSite) (config : ServiceConfig) (now : SystemTime) (req : Request) :
    Option Response :=
  if req.method = .options then optionsResponse lib config now
  else if req.method ≠ .get ∧ req.method ≠ .head then methodNotAllowedResponse lib config now
  else
    match site.resolve (lib.percentDecode req.path) with
    | some entry => fileResponse lib req entry config now
    | none => notFoundResponse lib req.method site config now

def handleHttp (site : StaticSite) (config : ServiceConfig) (now : SystemTime) (req : Request)
    (stats : HttpStats) : Option Response × HttpStats :=
  let stats := countMethod stats req.method
  match responseTo lib site config now req with
  | some response => (some response, recordResponseMetrics lib stats response)
  | none => (none, stats)

/-! ## What the builders answer -/

variable {lib}

theorem mapM_headers (hlib : lib.Documented) {headers : List (Text × Text)}
    (h : ∀ e ∈ headers, IsVisible e.2) :
    ∃ built : Headers, headers.mapM (fun h => (lib.fromStr h.2).map fun v => (h.1, v)) = some built ∧
      ∀ name, (built.get? name).bind lib.toStr =
        (headers.find? fun e => e.1 = name).map Prod.snd := by
  induction headers with
  | nil => exact ⟨[], rfl, fun _ => rfl⟩
  | cons e headers ih =>
    obtain ⟨he, hrest⟩ := List.forall_mem_cons.mp h
    obtain ⟨v, hv, hread⟩ := hlib.header e.2 he
    obtain ⟨built, hbuilt, hget⟩ := ih hrest
    refine ⟨(e.1, v) :: built, ?_, ?_⟩
    · simp [List.mapM_cons, hv, hbuilt]
    · intro name
      have hrest := hget name
      unfold Headers.get? at hrest ⊢
      by_cases hname : e.1 = name
      · simp [hname, hread]
      · simpa [hname] using hrest

theorem foldlM_headers (hlib : lib.Documented) {added : List (Text × Text)}
    (h : ∀ e ∈ added, IsVisible e.2) (headers : Headers) :
    ∃ built, added.foldlM (fun headers h => (lib.fromStr h.2).map (headers.insert h.1)) headers =
        some built ∧
      ∀ name, (∀ e ∈ added, name ≠ e.1) → built.get? name = headers.get? name := by
  induction added generalizing headers with
  | nil => exact ⟨headers, rfl, fun _ _ => rfl⟩
  | cons e added ih =>
    obtain ⟨he, hrest⟩ := List.forall_mem_cons.mp h
    obtain ⟨v, hv, -⟩ := hlib.header e.2 he
    obtain ⟨built, hbuilt, hget⟩ := ih hrest (headers.insert e.1 v)
    refine ⟨built, ?_, ?_⟩
    · simpa [List.foldlM_cons, hv] using hbuilt
    · intro name hname
      obtain ⟨hne, hothers⟩ := List.forall_mem_cons.mp hname
      rw [hget name hothers, Headers.get?_insert_of_ne _ _ hne]

theorem get?_insertIfValid (headers : Headers) {name other : Text} (value : Text)
    (h : other ≠ name) : (insertIfValid lib headers name value).get? other = headers.get? other := by
  unfold insertIfValid
  cases lib.fromStr value with
  | none => rfl
  | some v => exact Headers.get?_insert_of_ne _ _ h

/-- The common headers never fail and leave the length alone. -/
theorem applyCommonHeaders_spec (hlib : lib.Documented) (config : ServiceConfig) (now : SystemTime)
    (headers : Headers) :
    ∃ built, applyCommonHeaders lib config now headers = some built ∧
      built.get? HeaderName.contentLength = headers.get? HeaderName.contentLength := by
  have hvisible : ∀ e ∈ staticHeaders, IsVisible e.2 := by decide
  obtain ⟨built, hbuilt, hget⟩ := foldlM_headers hlib hvisible
    (insertIfValid lib (insertIfValid lib headers HeaderName.server config.serverHeader)
      HeaderName.date (lib.fmtHttpDate now))
  refine ⟨built, hbuilt, ?_⟩
  rw [hget _ (by decide), get?_insertIfValid _ _ (by decide), get?_insertIfValid _ _ (by decide)]

def IsResponse (lib : HttpLibrary) (resp : Option Response) (status : ℕ) (body : Bytes)
    (declared : Option UInt64) : Prop :=
  ∃ r, resp = some r ∧ r.status = status ∧ r.body = body ∧ declaredLength lib r.headers = declared

theorem respond_spec (hlib : lib.Documented) {headers : List (Text × Text)}
    (h : ∀ e ∈ headers, IsVisible e.2) (config : ServiceConfig) (now : SystemTime) (status : ℕ)
    (body : Bytes) :
    IsResponse lib (respond lib config now status headers body) status body
      (((headers.find? fun e => e.1 = HeaderName.contentLength).map Prod.snd).bind parseU64) := by
  obtain ⟨built, hbuilt, hget⟩ := mapM_headers hlib h
  obtain ⟨all, hall, hkept⟩ := applyCommonHeaders_spec hlib config now built
  refine ⟨⟨status, all, body⟩, ?_, rfl, rfl, ?_⟩
  · simp [respond, hbuilt, hall]
  · rw [declaredLength, hkept, hget]

structure FileEntry.Sendable (entry : FileEntry) : Prop where
  contentType : IsVisible entry.contentType
  etag : IsVisible entry.etag
  lastModified : IsVisible entry.lastModified

theorem isVisible_ofNat (n : ℕ) : IsVisible (Text.ofNat n) := by
  intro c hc
  have hdigit := (isDecimal_ofNat n).2 c hc
  simp only [Char.isDigit, Bool.and_eq_true, decide_eq_true_eq, UInt32.le_iff_toNat_le] at hdigit
  change 48 ≤ c.toNat ∧ c.toNat ≤ 57 at hdigit
  omega

theorem isVisible_cacheControlFor (contentType : Text) : IsVisible (cacheControlFor contentType) := by
  unfold cacheControlFor
  split_ifs <;> decide

theorem isVisible_contentTypeFor (ext : Text) : IsVisible (contentTypeFor ext) := by
  unfold contentTypeFor
  split <;> decide

theorem isVisible_html : IsVisible "text/html; charset=utf-8".toList := by decide

theorem isVisible_ofNatHex (n : ℕ) : IsVisible (Text.ofNatHex n) := by
  induction n using Nat.strongRecOn with
  | ind n ih =>
    have hdigit : ∀ d < 16, 32 ≤ (Nat.digitChar d).toNat ∧ (Nat.digitChar d).toNat ≤ 126 := by
      decide
    unfold Text.ofNatHex at *
    rw [Nat.toDigits_eq_if (by norm_num)]
    split_ifs with h
    · intro c hc
      rw [List.mem_singleton.mp hc]
      exact hdigit n h
    · intro c hc
      rcases List.mem_append.mp hc with hc | hc
      · exact ih (n / 16) (by omega) c hc
      · rw [List.mem_singleton.mp hc]
        exact hdigit _ (Nat.mod_lt _ (by norm_num))

theorem isVisible_makeEtag (size mtimeSecs : ℕ) : IsVisible (makeEtag size mtimeSecs) := by
  have hquote : IsVisible ['"'] := by decide
  have hdash : IsVisible ['-'] := by decide
  refine List.forall_mem_append.mpr ⟨List.forall_mem_append.mpr ⟨?_, ?_⟩, hquote⟩
  · exact List.forall_mem_append.mpr ⟨hquote, isVisible_ofNatHex mtimeSecs⟩
  · exact List.forall_mem_append.mpr ⟨hdash, isVisible_ofNatHex size⟩

theorem sendable_of_tryLoad (hlib : lib.Documented) {now : SystemTime} {root : Text}
    {listing : Except Report Directory} {site : StaticSite}
    (h : StaticSite.tryLoad lib.fmtHttpDate now root listing = .ok site) :
    (∀ k e, site.files.get? k = some e → e.Sendable) ∧ site.notFound.Sendable := by
  refine StaticSite.forall_of_tryLoad ?_ ?_ h
  · intro name bytes modified
    exact ⟨isVisible_contentTypeFor _, isVisible_makeEtag _ _, hlib.date _⟩
  · exact ⟨isVisible_html, isVisible_makeEtag _ _, hlib.date now⟩

section Builders

variable (hlib : lib.Documented) (config : ServiceConfig) (now : SystemTime)
include hlib

theorem notModifiedResponse_spec {entry : FileEntry} (h : entry.Sendable) :
    IsResponse lib (notModifiedResponse lib entry config now) 304 [] none := by
  have hheaders : ∀ e ∈ [(HeaderName.etag, entry.etag),
      (HeaderName.lastModified, entry.lastModified)], IsVisible e.2 := by
    simp [h.etag, h.lastModified]
  exact respond_spec hlib hheaders config now 304 []

/-- A file is sent whole, to a HEAD without the body, and not at all to who has it. -/
theorem fileResponse_spec {entry : FileEntry} (h : entry.Sendable) (req : Request) :
    if (req.headers.get? HeaderName.ifNoneMatch).bind lib.toStr = some entry.etag then
      IsResponse lib (fileResponse lib req entry config now) 304 [] none
    else
      IsResponse lib (fileResponse lib req entry config now) 200
        (if req.method = .head then [] else entry.bytes)
        (parseU64 (Text.ofNat entry.bytes.length)) := by
  unfold fileResponse
  by_cases hmatch : (req.headers.get? HeaderName.ifNoneMatch).bind lib.toStr = some entry.etag
  · rw [if_pos hmatch, if_pos hmatch]
    exact notModifiedResponse_spec hlib config now h
  · rw [if_neg hmatch, if_neg hmatch]
    have hheaders : ∀ e ∈ [(HeaderName.contentType, entry.contentType),
        (HeaderName.contentLength, Text.ofNat entry.bytes.length),
        (HeaderName.etag, entry.etag), (HeaderName.lastModified, entry.lastModified),
        (HeaderName.cacheControl, cacheControlFor entry.contentType)], IsVisible e.2 := by
      simp [h.contentType, h.etag, h.lastModified, isVisible_ofNat, isVisible_cacheControlFor]
    exact respond_spec hlib hheaders config now 200 _

theorem notFoundResponse_spec {site : StaticSite} (h : site.notFound.Sendable) (method : Method) :
    IsResponse lib (notFoundResponse lib method site config now) 404
      (if method = .head then [] else site.notFound.bytes)
      (parseU64 (Text.ofNat site.notFound.bytes.length)) := by
  have hcache : IsVisible "no-cache".toList := by decide
  have hheaders : ∀ e ∈ [(HeaderName.contentType, site.notFound.contentType),
      (HeaderName.contentLength, Text.ofNat site.notFound.bytes.length),
      (HeaderName.cacheControl, "no-cache".toList)], IsVisible e.2 := by
    simp only [List.forall_mem_cons, h.contentType, isVisible_ofNat, hcache, true_and]
    exact List.forall_mem_nil _
  exact respond_spec hlib hheaders config now 404 _

theorem optionsResponse_spec :
    IsResponse lib (optionsResponse lib config now) 204 [] (some 0) :=
  respond_spec hlib (by decide) config now 204 []

theorem methodNotAllowedResponse_spec :
    IsResponse lib (methodNotAllowedResponse lib config now) 405 (Text.utf8 notAllowedHtml)
      (parseU64 (Text.ofNat (Text.utf8 notAllowedHtml).length)) := by
  have hallow : IsVisible allowedMethods := by decide
  unfold methodNotAllowedResponse
  generalize Text.utf8 notAllowedHtml = html
  have hheaders : ∀ e ∈ [(HeaderName.contentType, "text/html; charset=utf-8".toList),
      (HeaderName.allow, allowedMethods),
      (HeaderName.contentLength, Text.ofNat html.length)], IsVisible e.2 := by
    simp only [List.forall_mem_cons, hallow, isVisible_html, isVisible_ofNat, true_and]
    exact List.forall_mem_nil _
  exact respond_spec hlib hheaders config now 405 html

end Builders

end Handler

end Reprox.Routing
