import Reprox.Server.Scrape
import Reprox.Server.Slots

/-!
# What the counters say of each other

Every proxied connection is allowed three retries and one end: a failed
handshake, or the failure that follows the three retries. What is left of each
allowance stands with the tasks, and the counters always cover it. A page is
loaded counter by counter, so of these relations only those survive on it whose
smaller side is loaded first.
-/

namespace Reprox.Server

open Foundations Net Config Tls Routing Limits Metrics

/-! ## Allowances -/

inductive Allowance where
  /-- Failures, of which three retries allow one. -/
  | failures
  /-- Retries, of which a connection has three, and none once its handshake failed. -/
  | retries
  /-- Failed handshakes and failures, together one for each connection. -/
  | ends
  /-- Handshakes, one for each connection. -/
  | handshakes
  deriving DecidableEq, Repr

namespace Allowance

/-- What the counters leave of an allowance. -/
def ofStats (st : Stats) : Allowance → ℤ
  | .failures => st.proxyServiceConnectRetries - 3 * st.proxyServiceConnectFailures
  | .retries =>
    3 * st.proxied.total - (st.proxyServiceConnectRetries + 3 * st.proxyTlsHandshakeFailure)
  | .ends =>
    st.proxied.total - (st.proxyServiceConnectFailures + st.proxyTlsHandshakeFailure)
  | .handshakes =>
    st.proxied.total - (st.proxyTlsHandshakeSuccess + st.proxyTlsHandshakeFailure)

/-- What a proxied connection brings when it is counted. -/
def granted : Allowance → ℕ
  | .failures => 0
  | .retries => 3
  | .ends | .handshakes => 1

/-- What a connection that has made `attempt - 1` retries has left. -/
def leftAt (attempt : ℕ) : Allowance → ℕ
  | .failures => attempt - 1
  | .retries => maxAttempts - attempt
  | .ends => 1
  | .handshakes => 0

def ofRoute (a : Allowance) : Route → ℕ
  | .proxied => a.granted
  | .fallback => 0

def left (a : Allowance) : TaskPoint → ℕ
  | .begun plan | .active plan => a.ofRoute (routeOf plan)
  | .relaying _ attempt => a.leftAt attempt
  | _ => 0

theorem ofStats_new (a : Allowance) : a.ofStats .new = 0 := by
  cases a <;> rfl

section Updates

variable (a : Allowance) (st : Stats) (route : Route)

@[simp] theorem ofStats_countRejection (why : Rejection) :
    a.ofStats (st.countRejection why) = a.ofStats st := by
  cases why <;> cases a <;> rfl

@[simp] theorem ofStats_countProbe (timedOut : Bool) :
    a.ofStats (st.countProbe timedOut) = a.ofStats st := by
  cases timedOut <;> cases a <;> rfl

@[simp] theorem ofStats_countSni (present : Bool) :
    a.ofStats (st.countSni present) = a.ofStats st := by
  cases present <;> cases a <;> rfl

@[simp] theorem ofStats_countAlpn (alpn : Alpn) : a.ofStats (st.countAlpn alpn) = a.ofStats st := by
  cases alpn <;> cases a <;> rfl

theorem ofStats_onRoute {f : RouteStats → RouteStats} (h : ∀ r, (f r).total = r.total) :
    a.ofStats (st.onRoute route f) = a.ofStats st := by
  cases route <;> cases a <;> simp [ofStats, Stats.onRoute, h]

@[simp] theorem ofStats_enter : a.ofStats (st.onRoute route .enter) = a.ofStats st :=
  ofStats_onRoute a st route fun _ => rfl

@[simp] theorem ofStats_leave : a.ofStats (st.onRoute route .leave) = a.ofStats st :=
  ofStats_onRoute a st route fun _ => rfl

@[simp] theorem ofStats_countCompleted :
    a.ofStats (st.onRoute route .countCompleted) = a.ofStats st :=
  ofStats_onRoute a st route fun _ => rfl

@[simp] theorem ofStats_addDuration (ms : ℕ) :
    a.ofStats (st.onRoute route (·.addDuration ms)) = a.ofStats st :=
  ofStats_onRoute a st route fun _ => rfl

@[simp] theorem ofStats_countTotal :
    a.ofStats (st.onRoute route .countTotal) = a.ofStats st + a.ofRoute route := by
  cases route <;> cases a <;>
    simp [ofStats, Stats.onRoute, RouteStats.countTotal, ofRoute, granted] <;> ring

@[simp] theorem ofStats_countHandshake_fallback (success : Bool) :
    a.ofStats (st.countHandshake .fallback success) = a.ofStats st := by
  cases success <;> cases a <;> rfl

theorem le_ofStats_countHandshake_true :
    a.ofStats st + (a.leftAt 1 - a.granted) ≤ a.ofStats (st.countHandshake .proxied true) := by
  cases a <;> simp [ofStats, Stats.countHandshake, leftAt, granted, maxAttempts]
  omega

theorem le_ofStats_countHandshake_false :
    a.ofStats st - a.granted ≤ a.ofStats (st.countHandshake .proxied false) := by
  cases a <;> simp [ofStats, Stats.countHandshake, granted] <;> omega

theorem le_ofStats_retry {attempt : ℕ} (h : attempt < maxAttempts) :
    a.ofStats st + (a.leftAt (attempt + 1) - a.leftAt attempt) ≤
      a.ofStats { st with proxyServiceConnectRetries := st.proxyServiceConnectRetries + 1 } := by
  cases a <;> simp [ofStats, leftAt, maxAttempts] at h ⊢ <;> omega

theorem le_ofStats_failure {attempt : ℕ} (h : maxAttempts ≤ attempt) :
    a.ofStats st - a.leftAt attempt ≤
      a.ofStats { st with proxyServiceConnectFailures := st.proxyServiceConnectFailures + 1 } := by
  cases a <;> simp [ofStats, leftAt, maxAttempts] at h ⊢ <;> omega

@[simp] theorem ofStats_bytes (fromClient fromUpstream : ℕ) :
    a.ofStats { st with
      proxyBytesClientToService := fromClient
      proxyBytesServiceToClient := fromUpstream } = a.ofStats st := by
  cases a <;> rfl

end Updates

theorem leftAt_one_le (a : Allowance) : a.leftAt 1 ≤ a.granted := by
  cases a <;> decide

end Allowance

/-- A step of a task takes no more out of the counters than it gives up itself. -/
theorem advanceStats_covered {tls : Provider} {p q : TaskPoint} {st st' : Stats} {e : TaskEvent}
    (h : advanceStats tls p st e = some (q, st')) (a : Allowance) :
    (a.left q : ℤ) - a.left p ≤ a.ofStats st' - a.ofStats st := by
  cases advanceStats_inv h with
  | passThrough =>
    have hleft := a.leftAt_one_le
    simp [Allowance.left, routeOf, Plan.target, Allowance.ofRoute]
    omega
  | terminate =>
    have hmove := a.le_ofStats_countHandshake_true st
    simp only [Allowance.left, routeOf, Plan.target, Allowance.ofRoute, Option.isSome_some, if_true]
    omega
  | failProxied =>
    have hmove := a.le_ofStats_countHandshake_false st
    simp [Allowance.left, routeOf, Plan.target, Allowance.ofRoute]
    omega
  | retry hmore =>
    have hmove := a.le_ofStats_retry st hmore
    simp only [Allowance.left]
    omega
  | giveUp hlast =>
    have hmove := a.le_ofStats_failure st hlast
    simp only [Allowance.left]
    omega
  | _ => simp [Allowance.left]

theorem front_covered (tls : Provider) (a : Allowance) :
    Pool.Covered Shared.mainStep (taskStep tls) (fun t => (a.left t.point : ℤ))
      fun s => a.ofStats s.stats where
  task t s e t' s' h := by
    rcases taskStep_cases h with ⟨hp, rfl, rfl⟩ | ⟨hp, rfl, rfl⟩ | ⟨hp, rfl, rfl⟩ | ⟨hp, rfl, rfl⟩ |
      ⟨q, st, hadvance, rfl, rfl⟩
    · simp [Allowance.left]
    · simp [Allowance.left]
    · simp [Allowance.left]
    · simp [Allowance.left]
    · exact advanceStats_covered hadvance a
  main s n s' t h := by
    cases n with
    | loop e =>
      rcases loopStep_cases h with ⟨-, -, hst, rfl⟩ | ⟨-, -, -, hst, rfl⟩ |
        ⟨ipSlot, -, -, -, hst, rfl⟩ | ⟨why, -, -, -, hst, rfl⟩
      · simp [hst]
      · simp [hst]
      · simp [hst, Allowance.left]
      · simp [hst]
    | _ =>
      cases h
      simp

variable {tls : Provider} {permits maxPerIp : Usize} {ratePerSec : ℚ} {burst : ℕ}
  {state : RouterState}

/-- The run lemma: no allowance is ever overdrawn. -/
theorem ofStats_nonneg {es : List FrontEvent} {front : Front}
    (run : exec (Front.step tls) (Front.start permits maxPerIp ratePerSec burst state) es =
      some front) (a : Allowance) : 0 ≤ a.ofStats front.shared.stats := by
  have hstart : owed (fun t : ConnTask => (a.left t.point : ℤ))
      (Front.start permits maxPerIp ratePerSec burst state).tasks ≤
        a.ofStats (Front.start permits maxPerIp ratePerSec burst state).shared.stats := by
    simp [Front.start, a.ofStats_new]
  have hcovered := (front_covered tls a).run run hstart
  exact (owed_nonneg (fun t => Int.natCast_nonneg _) _).trans hcovered

structure ProxyRelated (st : Stats) : Prop where
  /-- Three retries precede each failure. -/
  failures_le : 3 * st.proxyServiceConnectFailures ≤ st.proxyServiceConnectRetries
  /-- A connection makes three retries at most, and none after a failed handshake. -/
  retries_le :
    st.proxyServiceConnectRetries + 3 * st.proxyTlsHandshakeFailure ≤ 3 * st.proxied.total
  /-- It ends in a failure or in a failed handshake, if in either. -/
  ends_le : st.proxyServiceConnectFailures + st.proxyTlsHandshakeFailure ≤ st.proxied.total
  /-- It has one handshake at most. -/
  handshakes_le : st.proxyTlsHandshakeSuccess + st.proxyTlsHandshakeFailure ≤ st.proxied.total

theorem proxyRelated_of_ofStats_nonneg {st : Stats} (h : ∀ a : Allowance, 0 ≤ a.ofStats st) :
    ProxyRelated st := by
  have hfailures := h .failures
  have hretries := h .retries
  have hends := h .ends
  have hhandshakes := h .handshakes
  simp only [Allowance.ofStats] at hfailures hretries hends hhandshakes
  constructor <;> omega

/-- In every state that any interleaving of connections, reloads and sweeps
reaches, the counters of the proxied connections are so related. -/
theorem proxy_counters_related {es : List FrontEvent} {front : Front}
    (run : exec (Front.step tls) (Front.start permits maxPerIp ratePerSec burst state) es =
      some front) : ProxyRelated front.shared.stats :=
  proxyRelated_of_ofStats_nonneg (ofStats_nonneg run)

def unanswered : List FrontEvent :=
  Front.acceptOne (.v4 ⟨203, 0, 113, 5⟩ 50000) ++
    [.task 0 .snapshot, .task 0 (.probed (.hello (some "example.com".toList))), .task 0 .proceed,
      .task 0 .proceed, .task 0 .proceed, .task 0 .proceed, .task 0 .attemptFailed,
      .task 0 .attemptFailed, .task 0 .attemptFailed, .task 0 .attemptFailed]

theorem proxy_counters_related_unanswered :
    ∃ front, exec (Front.step .accepting) (.start 1 0 0 10 Front.minimal.shared.router)
        unanswered = some front ∧ front.shared.stats.proxyServiceConnectFailures = 1 ∧
      ProxyRelated front.shared.stats := by
  have hrun : ∃ front ∈ exec (Front.step .accepting) (.start 1 0 0 10 Front.minimal.shared.router)
      unanswered, front.shared.stats.proxyServiceConnectFailures = 1 := by decide +kernel
  obtain ⟨front, run, hone⟩ := hrun
  exact ⟨front, run, hone, proxy_counters_related run⟩

/-! ## On one page -/

/-- A route is begun once the server name is counted. -/
theorem sni_le {es : List FrontEvent} {front : Front}
    (run : exec (Front.step tls) (Front.start permits maxPerIp ratePerSec burst state) es =
      some front) :
    front.shared.stats.proxied.total + front.shared.stats.fallback.total ≤
      front.shared.stats.sniPresent + front.shared.stats.sniAbsent := by
  have h := reading_nonneg run .sni
  simp [Account.reading, Account.ofStats] at h
  omega

namespace Served

theorem front_run {lib : HttpLibrary} {site : StaticSite} {s s' : Served} {es : List ServedEvent}
    (run : exec (step tls lib site) s es = some s') :
    ∃ fs, exec (Front.step tls) s.front fs = some s'.front := by
  refine exec_invariant (I := fun t : Served => ∃ fs, exec (Front.step tls) s.front fs =
    some t.front) ⟨[], rfl⟩ ?_ run
  rintro t e t' ⟨fs, hfs⟩ hstep
  have hfront {e : FrontEvent} {front : Front} (h : t.front.step tls e = some front) :
      ∃ fs, exec (Front.step tls) s.front fs = some front :=
    ⟨fs ++ [e], exec_append_eq_some.mpr ⟨t.front, hfs, by simp [exec, h]⟩⟩
  cases e with
  | front e =>
    obtain ⟨front, h, rfl⟩ := Option.map_eq_some_iff.mp hstep
    exact hfront h
  | request task x =>
    obtain ⟨front, h, rfl⟩ := Option.map_eq_some_iff.mp hstep
    exact hfront h
  | handle request =>
    obtain ⟨requests, -, rfl⟩ := Option.map_eq_some_iff.mp hstep
    exact ⟨fs, hfs⟩

end Served

namespace Scrape

variable {lib : HttpLibrary} {site : StaticSite} {requests : Pool RequestPoint HttpStats}
  {es : List ServedEvent}

/-- However the loads of a scrape fall among the steps of the connections, the
page shows no more routes begun than server names counted, and at most one
failure for every three retries. -/
theorem page_relations
    (scrape : Scrape tls lib site ⟨.start permits maxPerIp ratePerSec burst state, requests⟩ es)
    (hinOrder : Monotone scrape.times) (uptime : Float64) (config : ServiceConfig) :
    ∃ found, Exposition.parse parseDecimal (scrape.page uptime config) = some found ∧
      ∃ proxied fallback present absent failures retries : ℚ,
        Shows found "reprox_connections_total" [("route", "proxied")] proxied ∧
        Shows found "reprox_connections_total" [("route", "fallback")] fallback ∧
        Shows found "reprox_clienthello_total" [("result", "sni_present")] present ∧
        Shows found "reprox_clienthello_total" [("result", "sni_absent")] absent ∧
        Shows found "reprox_proxy_service_connect_failures_total" [] failures ∧
        Shows found "reprox_proxy_service_connect_retries_total" [] retries ∧
        proxied + fallback ≤ present + absent ∧ 3 * failures ≤ retries := by
  have hgrows {earlier later : Total} (h : earlier.load ≤ later.load) :
      Grows (scrape.seen earlier.load).counters (scrape.seen later.load).counters :=
    grows_seen scrape scrape (hinOrder h)
  let loads := fun n => (scrape.seen n).counters
  let shown (total : Total) : ℕ := total.read (loads total.load)
  have hshows (total : Total) {name : String} {labels : List (String × String)}
      (hc : ⟨total, total.load, name, labels⟩ ∈ pageCounters) :
      Shows ((snapshot loads uptime config).metrics.map (Exposition.Family.map Value.shown))
        name labels (shown total) := PageCounter.shows hc loads uptime config
  refine ⟨_, parse_renderPrometheus parseDecimal_display (snapshot loads uptime config),
    shown (.routeTotal .proxied), shown (.routeTotal .fallback), shown .sniPresent,
    shown .sniAbsent, shown .proxyServiceConnectFailures, shown .proxyServiceConnectRetries,
    hshows _ (by decide), hshows _ (by decide), hshows _ (by decide), hshows _ (by decide),
    hshows _ (by decide), hshows _ (by decide), ?_, ?_⟩
  · -- The routes are loaded first, the server names when they have only become more.
    obtain ⟨fs, hfs⟩ := Served.front_run (scrape.reached (Total.routeTotal .fallback).load)
    have hproxied := hgrows (show (Total.routeTotal .proxied).load ≤
      (Total.routeTotal .fallback).load by decide) (.routeTotal .proxied)
    have hpresent := hgrows (show (Total.routeTotal .fallback).load ≤ Total.sniPresent.load
      by decide) .sniPresent
    have habsent := hgrows (show (Total.routeTotal .fallback).load ≤ Total.sniAbsent.load
      by decide) .sniAbsent
    have hle : shown (.routeTotal .proxied) + shown (.routeTotal .fallback) ≤
        shown .sniPresent + shown .sniAbsent :=
      (Nat.add_le_add_right hproxied _).trans ((sni_le hfs).trans (Nat.add_le_add hpresent habsent))
    exact_mod_cast hle
  · obtain ⟨fs, hfs⟩ := Served.front_run (scrape.reached Total.proxyServiceConnectFailures.load)
    have hfailures := (proxyRelated_of_ofStats_nonneg (ofStats_nonneg hfs)).failures_le
    have hretries := hgrows (show Total.proxyServiceConnectFailures.load ≤
      Total.proxyServiceConnectRetries.load by decide) .proxyServiceConnectRetries
    have hle : 3 * shown .proxyServiceConnectFailures ≤ shown .proxyServiceConnectRetries :=
      hfailures.trans hretries
    exact_mod_cast hle

theorem page_relations_unanswered :
    ∃ (site : StaticSite) (scrape : Scrape .accepting .ascii site
        (.idle (.start 1 0 0 10 Front.minimal.shared.router)) (unanswered.map .front)),
      scrape.times = id ∧
      ∃ found, Exposition.parse parseDecimal (scrape.page (.finite 1) plainConfig) = some found ∧
        ∃ proxied fallback present absent failures retries : ℚ,
          Shows found "reprox_connections_total" [("route", "proxied")] proxied ∧
          Shows found "reprox_connections_total" [("route", "fallback")] fallback ∧
          Shows found "reprox_clienthello_total" [("result", "sni_present")] present ∧
          Shows found "reprox_clienthello_total" [("result", "sni_absent")] absent ∧
          Shows found "reprox_proxy_service_connect_failures_total" [] failures ∧
          Shows found "reprox_proxy_service_connect_retries_total" [] retries ∧
          proxied + fallback ≤ present + absent ∧ 3 * failures ≤ retries := by
  obtain ⟨site, -⟩ := exists_onePage
  have hrun : ∃ s, exec (Served.step .accepting .ascii site)
      (.idle (.start 1 0 0 10 Front.minimal.shared.router)) (unanswered.map .front) = some s :=
    ⟨_, rfl⟩
  obtain ⟨s, hs⟩ := hrun
  have hprefix (n : ℕ) : ∃ s, exec (Served.step .accepting .ascii site)
      (.idle (.start 1 0 0 10 Front.minimal.shared.router)) ((unanswered.map .front).take n) =
        some s := by
    rw [← List.take_append_drop n (unanswered.map ServedEvent.front)] at hs
    obtain ⟨before, hbefore, -⟩ := exec_append_eq_some.mp hs
    exact ⟨before, hbefore⟩
  choose seen hseen using hprefix
  exact ⟨site, ⟨id, seen, hseen⟩, rfl, page_relations _ monotone_id _ _⟩

end Scrape

end Reprox.Server
