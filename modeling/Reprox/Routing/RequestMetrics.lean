import Reprox.Routing.Http

/-!
# What the request metrics add up to

One site answers requests one after the other. Every request moves one method
counter and one status counter. The byte counter is read from the declared
length, and the answer to a HEAD declares a length without sending a body, so
the bytes counted are those of the bodies and of the bodies withheld.
-/

namespace Reprox.Routing

open Foundations Net Config Metrics

structure Exchange where
  request : Request
  config : ServiceConfig
  now : SystemTime

/-- The length of a body; an answer that was never made has none. -/
def bodySize : Option Response → ℕ
  | some response => response.body.length
  | none => 0

/-- Every page is a slice in memory, and its length a `usize`. -/
def StaticSite.FitsMemory (site : StaticSite) : Prop :=
  ∀ key page, site.files.get? key = some page → page.bytes.length < 2 ^ 64

theorem StaticSite.fitsMemory_of_tree {fmtHttpDate : SystemTime → Text} {now : SystemTime}
    {root : Text} {tree : Tree} {site : StaticSite}
    (h : tryLoad fmtHttpDate now root (.ok tree.directory) = .ok site)
    (hfiles : ∀ f ∈ tree.files, f.bytes.length < 2 ^ 64) : site.FitsMemory := by
  intro key page hpage
  rw [get?_files h, Option.map_eq_some_iff] at hpage
  obtain ⟨f, hkept, rfl⟩ := hpage
  exact hfiles f (Tree.mem_of_kept_eq_some hkept).1

section Handled

variable (lib : HttpLibrary) (site : StaticSite)

/-- The answers to the requests, and the counters after the last. -/
def handleAll : List Exchange → HttpStats → List (Option Response) × HttpStats
  | [], stats => ([], stats)
  | x :: xs, stats =>
    let (response, stats) := handleHttp lib site x.config x.now x.request stats
    let (responses, stats) := handleAll xs stats
    (response :: responses, stats)

/-- The length of the body that a HEAD would get as a GET. -/
def withheldSize (x : Exchange) : ℕ :=
  if x.request.method = .head then
    bodySize (responseTo lib site x.config x.now { x.request with method := .get })
  else 0

/-- Methods and statuses are counted once for each request, and the bytes are
those of the bodies sent. -/
def MetricsAddUp (xs : List Exchange) : Prop :=
  (handleAll lib site xs .new).2.methods = xs.length ∧
    (handleAll lib site xs .new).2.statuses = xs.length ∧
      (handleAll lib site xs .new).2.httpBytesSent =
        ((handleAll lib site xs .new).1.map bodySize).sum

variable {lib site}

/-! ## One request -/

theorem countMethod_spec (stats : HttpStats) (method : Method) :
    (countMethod stats method).methods = stats.methods + 1 ∧
      (countMethod stats method).statuses = stats.statuses ∧
        (countMethod stats method).httpBytesSent = stats.httpBytesSent := by
  unfold countMethod
  split_ifs <;> simp only [HttpStats.methods, HttpStats.statuses, and_true] <;> omega

variable (lib) in
theorem recordResponseMetrics_spec (stats : HttpStats) (r : Response) :
    (recordResponseMetrics lib stats r).methods = stats.methods ∧
      (recordResponseMetrics lib stats r).statuses = stats.statuses + 1 ∧
        (recordResponseMetrics lib stats r).httpBytesSent =
          stats.httpBytesSent + ((declaredLength lib r.headers).map UInt64.toNat).getD 0 := by
  obtain ⟨hstatuses, hmethods, hbytes⟩ := HttpStats.countStatus_spec stats r.status
  unfold recordResponseMetrics
  cases declaredLength lib r.headers with
  | none => exact ⟨hmethods, hstatuses, hbytes⟩
  | some len => exact ⟨hmethods, hstatuses, congrArg (· + len.toNat) hbytes⟩

theorem declared_ofNat {n : ℕ} (h : n < 2 ^ 64) :
    ((parseU64 (Text.ofNat n)).map UInt64.toNat).getD 0 = n := by
  rw [parseU64_ofNat h]
  exact UInt64.toNat_ofNat_of_lt' h

theorem length_default404_lt {fmtHttpDate : SystemTime → Text} {now : SystemTime} :
    (default404 fmtHttpDate now).bytes.length < 2 ^ 64 := by
  dsimp only [default404]
  decide +kernel

theorem length_notAllowed_lt : (Text.utf8 notAllowedHtml).length < 2 ^ 64 := by decide +kernel

theorem IsResponse.bodySize {response : Option Response} {status : ℕ} {body : Bytes}
    {declared : Option UInt64} (h : IsResponse lib response status body declared) :
    bodySize response = body.length := by
  obtain ⟨r, rfl, -, hbody, -⟩ := h
  exact congrArg List.length hbody

section Loaded

variable {loadedAt : SystemTime} {root : Text} {listing : Except Report Directory}
  (hlib : lib.Documented)
  (hload : StaticSite.tryLoad lib.fmtHttpDate loadedAt root listing = .ok site)
  (hfits : site.FitsMemory)
include hload hfits

theorem notFound_length_lt : site.notFound.bytes.length < 2 ^ 64 := by
  obtain ⟨directory, files, -, -, -, -, rfl⟩ := StaticSite.tryLoad_eq_ok.mp hload
  change ((files.get? "/404.html".toList).getD (default404 lib.fmtHttpDate loadedAt)).bytes.length < _
  cases hfound : files.get? "/404.html".toList with
  | none => exact length_default404_lt
  | some page => exact hfits _ page hfound

include hlib

/-- A page is answered alike to a GET and to a HEAD, which does not get the body. -/
theorem responseTo_page (config : ServiceConfig) (now : SystemTime) (path : Text)
    (headers : Headers) :
    ∃ status body declared, (declared.map UInt64.toNat).getD 0 = body.length ∧
      ∀ method, method = .get ∨ method = .head →
        IsResponse lib (responseTo lib site config now ⟨method, path, headers⟩) status
          (if method = .head then [] else body) declared := by
  obtain ⟨hpages, hmissing⟩ := sendable_of_tryLoad hlib hload
  cases hpage : site.resolve (lib.percentDecode path) with
  | none =>
    refine ⟨404, site.notFound.bytes, _, declared_ofNat (notFound_length_lt hload hfits), ?_⟩
    intro method hmethod
    have hresponse : responseTo lib site config now ⟨method, path, headers⟩ =
        notFoundResponse lib method site config now := by
      rcases hmethod with rfl | rfl <;> simp [responseTo, hpage]
    rw [hresponse]
    exact notFoundResponse_spec hlib config now hmissing method
  | some page =>
    have hresponse : ∀ method, method = .get ∨ method = .head →
        responseTo lib site config now ⟨method, path, headers⟩ =
          fileResponse lib ⟨method, path, headers⟩ page config now := by
      rintro method (rfl | rfl) <;> simp [responseTo, hpage]
    -- The tag is compared before the method is looked at.
    by_cases hmatch : (headers.get? HeaderName.ifNoneMatch).bind lib.toStr = some page.etag
    · refine ⟨304, [], none, rfl, ?_⟩
      intro method hmethod
      have hspec := fileResponse_spec hlib config now (hpages _ _ hpage) ⟨method, path, headers⟩
      rw [if_pos hmatch] at hspec
      rw [hresponse method hmethod, ite_self]
      exact hspec
    · refine ⟨200, page.bytes, _, declared_ofNat (hfits _ _ hpage), ?_⟩
      intro method hmethod
      have hspec := fileResponse_spec hlib config now (hpages _ _ hpage) ⟨method, path, headers⟩
      rw [if_neg hmatch] at hspec
      rw [hresponse method hmethod]
      exact hspec

theorem responseTo_declared (x : Exchange) :
    ∃ r, responseTo lib site x.config x.now x.request = some r ∧
      ((declaredLength lib r.headers).map UInt64.toNat).getD 0 =
        r.body.length + withheldSize lib site x := by
  obtain ⟨⟨method, path, headers⟩, config, now⟩ := x
  obtain ⟨status, body, declared, hlength, hpage⟩ :=
    responseTo_page hlib hload hfits config now path headers
  have hnone : ∀ method, method ≠ .head →
      withheldSize lib site ⟨⟨method, path, headers⟩, config, now⟩ = 0 :=
    fun method hmethod => if_neg hmethod
  cases method with
  | get =>
    obtain ⟨r, hr, -, hbody, hdeclared⟩ := hpage .get (Or.inl rfl)
    rw [if_neg (by decide)] at hbody
    exact ⟨r, hr, by rw [hdeclared, hlength, hbody, hnone .get (by decide), Nat.add_zero]⟩
  | head =>
    obtain ⟨r, hr, -, hbody, hdeclared⟩ := hpage .head (Or.inr rfl)
    rw [if_pos rfl] at hbody
    have hget := (hpage .get (Or.inl rfl)).bodySize
    rw [if_neg (by decide)] at hget
    have hwithheld : withheldSize lib site ⟨⟨.head, path, headers⟩, config, now⟩ = body.length :=
      (if_pos rfl).trans hget
    exact ⟨r, hr, by rw [hdeclared, hlength, hbody, hwithheld, List.length_nil, Nat.zero_add]⟩
  | options =>
    obtain ⟨r, hr, -, hbody, hdeclared⟩ := optionsResponse_spec hlib config now
    exact ⟨r, hr, by rw [hdeclared, hbody, hnone .options (by decide)]; rfl⟩
  | other name =>
    obtain ⟨r, hr, -, hbody, hdeclared⟩ := methodNotAllowedResponse_spec hlib config now
    have hother : Method.other name ≠ .head := by simp
    exact ⟨r, hr, by
      rw [hdeclared, hbody, declared_ofNat length_notAllowed_lt, hnone _ hother, Nat.add_zero]⟩

theorem handleHttp_spec (x : Exchange) (stats : HttpStats) :
    (handleHttp lib site x.config x.now x.request stats).1.isSome ∧
      (handleHttp lib site x.config x.now x.request stats).2.methods = stats.methods + 1 ∧
      (handleHttp lib site x.config x.now x.request stats).2.statuses = stats.statuses + 1 ∧
      (handleHttp lib site x.config x.now x.request stats).2.httpBytesSent =
        stats.httpBytesSent + bodySize (handleHttp lib site x.config x.now x.request stats).1 +
          withheldSize lib site x := by
  obtain ⟨r, hr, hdeclared⟩ := responseTo_declared hlib hload hfits x
  obtain ⟨hmethods, hstatuses, hbytes⟩ := countMethod_spec stats x.request.method
  obtain ⟨hmethods', hstatuses', hbytes'⟩ :=
    recordResponseMetrics_spec lib (countMethod stats x.request.method) r
  have hresult : handleHttp lib site x.config x.now x.request stats =
      (some r, recordResponseMetrics lib (countMethod stats x.request.method) r) := by
    rw [handleHttp, hr]
  rw [hresult]
  exact ⟨rfl, by rw [hmethods', hmethods], by rw [hstatuses', hstatuses],
    by rw [hbytes', hbytes, hdeclared, ← Nat.add_assoc]; rfl⟩

theorem handleAll_spec (xs : List Exchange) (stats : HttpStats) :
    (∀ response ∈ (handleAll lib site xs stats).1, response.isSome) ∧
      (handleAll lib site xs stats).2.methods = stats.methods + xs.length ∧
      (handleAll lib site xs stats).2.statuses = stats.statuses + xs.length ∧
      (handleAll lib site xs stats).2.httpBytesSent =
        stats.httpBytesSent + ((handleAll lib site xs stats).1.map bodySize).sum +
          (xs.map (withheldSize lib site)).sum := by
  induction xs generalizing stats with
  | nil => simp [handleAll]
  | cons x xs ih =>
    obtain ⟨hanswered, hmethods, hstatuses, hbytes⟩ := handleHttp_spec hlib hload hfits x stats
    obtain ⟨hanswered', hmethods', hstatuses', hbytes'⟩ :=
      ih (handleHttp lib site x.config x.now x.request stats).2
    simp only [handleAll, List.map_cons, List.sum_cons, List.length_cons]
    constructor
    · exact List.forall_mem_cons.mpr ⟨hanswered, hanswered'⟩
    · omega

end Loaded

/-- Every request is answered and counted once, under its method and under its
status. The bytes counted are those of the bodies sent and, for each HEAD, of the
body that the same request gets as a GET. -/
theorem requestMetrics_addUp (hlib : lib.Documented) {loadedAt : SystemTime} {root : Text}
    {listing : Except Report Directory}
    (hload : StaticSite.tryLoad lib.fmtHttpDate loadedAt root listing = .ok site)
    (hfits : site.FitsMemory) (xs : List Exchange) :
    (∀ response ∈ (handleAll lib site xs .new).1, response.isSome) ∧
      (handleAll lib site xs .new).2.methods = xs.length ∧
      (handleAll lib site xs .new).2.statuses = xs.length ∧
      (handleAll lib site xs .new).2.httpBytesSent =
        ((handleAll lib site xs .new).1.map bodySize).sum +
          (xs.map (withheldSize lib site)).sum := by
  obtain ⟨hanswered, hmethods, hstatuses, hbytes⟩ := handleAll_spec hlib hload hfits xs .new
  exact ⟨hanswered, hmethods.trans (Nat.zero_add _), hstatuses.trans (Nat.zero_add _),
    hbytes.trans (by rw [show HttpStats.new.httpBytesSent = 0 from rfl, Nat.zero_add])⟩

end Handled

theorem requestMetrics_addUp_onePage :
    ∃ site, StaticSite.tryLoad HttpLibrary.ascii.fmtHttpDate 0 "/srv/www".toList
        (.ok Tree.onePage.directory) = .ok site ∧
      let xs : List Exchange := [⟨⟨.get, "/".toList, []⟩, plainConfig, 0⟩,
        ⟨⟨.head, "/".toList, []⟩, plainConfig, 0⟩]
      (∀ response ∈ (handleAll .ascii site xs .new).1, response.isSome) ∧
        (handleAll .ascii site xs .new).2.methods = xs.length ∧
        (handleAll .ascii site xs .new).2.statuses = xs.length ∧
        (handleAll .ascii site xs .new).2.httpBytesSent =
          ((handleAll .ascii site xs .new).1.map bodySize).sum +
            (xs.map (withheldSize .ascii site)).sum := by
  obtain ⟨site, hload⟩ := exists_onePage
  have hfits : site.FitsMemory := StaticSite.fitsMemory_of_tree hload (by decide)
  exact ⟨site, hload, requestMetrics_addUp HttpLibrary.ascii_documented hload hfits _⟩

/-- A HEAD for the index sends nothing, and its two bytes are counted. -/
theorem metricsAddUp_fails :
    ∃ site, StaticSite.tryLoad HttpLibrary.ascii.fmtHttpDate 0 "/srv/www".toList
        (.ok Tree.onePage.directory) = .ok site ∧
      ¬MetricsAddUp .ascii site [⟨⟨.head, "/".toList, []⟩, plainConfig, 0⟩] := by
  refine ⟨_, rfl, ?_⟩
  unfold MetricsAddUp
  decide +kernel

end Reprox.Routing
