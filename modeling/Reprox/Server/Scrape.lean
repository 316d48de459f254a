import Reprox.Metrics.Page
import Reprox.Routing.RequestMetrics
import Reprox.Server.Accounting

/-!
# Scraping the counters

A scrape loads one counter after the other while connections go on and requests
are answered, so the numbers on one page need not have held at one time. Each of
them held at some time during the scrape, though, and whatever the page declares
to be a counter never goes down: of two scrapes one after the other, the second
reads at least as much.
-/

namespace Reprox.Server

open Foundations Net Config Tls Routing Limits Metrics

/-! ## Requests -/

inductive RequestPoint where
  | received (x : Exchange)
  | methodCounted (x : Exchange)
  | statusCounted (response : Response)
  | handled

/-- The second update of `record_response_metrics`. -/
def countBytes (lib : HttpLibrary) (stats : HttpStats) (resp : Response) : HttpStats :=
  match declaredLength lib resp.headers with
  | some len => { stats with httpBytesSent := stats.httpBytesSent + len.toNat }
  | none => stats

/-- The next effect of `handle_http`; no response means that it panicked. -/
def requestStep (lib : HttpLibrary) (site : StaticSite) (p : RequestPoint) (http : HttpStats)
    (_ : Unit) : Option (RequestPoint × HttpStats) :=
  match p with
  | .received x => some (.methodCounted x, countMethod http x.request.method)
  | .methodCounted x =>
    match responseTo lib site x.config x.now x.request with
    | some response => some (.statusCounted response, http.countStatus response.status)
    | none => some (.handled, http)
  | .statusCounted response => some (.handled, countBytes lib http response)
  | .handled => none

/-- The effects of one request, put together, are those of `handleHttp`. -/
theorem handleHttp_steps (lib : HttpLibrary) (site : StaticSite) (x : Exchange)
    (http : HttpStats) :
    ∃ es, exec (fun s => requestStep lib site s.1 s.2) (.received x, http) es =
      some (.handled, (handleHttp lib site x.config x.now x.request http).2) := by
  cases hresponse : responseTo lib site x.config x.now x.request with
  | none =>
    refine ⟨[(), ()], ?_⟩
    simp [exec_cons, requestStep, handleHttp, hresponse]
  | some response =>
    refine ⟨[(), (), ()], ?_⟩
    have hbytes : countBytes lib ((countMethod http x.request.method).countStatus response.status)
        response = recordResponseMetrics lib (countMethod http x.request.method) response := by
      unfold countBytes recordResponseMetrics
      cases declaredLength lib response.headers <;> rfl
    simp [exec_cons, requestStep, handleHttp, hresponse, hbytes]

/-! ## What only grows -/

/-- The counters, without the gauges. -/
inductive Total where
  | routeTotal (route : Route)
  | routeCompleted (route : Route)
  | routeDurationMs (route : Route)
  | rejectedIpLimit
  | rejectedRateLimit
  | probeTimeout
  | probeIoError
  | sniPresent
  | sniAbsent
  | proxyBytesClientToService
  | proxyBytesServiceToClient
  | proxyServiceConnectFailures
  | proxyServiceConnectRetries
  | proxyTlsHandshakeSuccess
  | proxyTlsHandshakeFailure
  | fallbackTlsHandshakeSuccess
  | fallbackTlsHandshakeFailure
  | fallbackAlpnH2
  | fallbackAlpnHttp1
  | fallbackAlpnNone
  | httpMethodGet
  | httpMethodHead
  | httpMethodOptions
  | httpMethodOther
  | httpStatus200
  | httpStatus204
  | httpStatus304
  | httpStatus404
  | httpStatus405
  | httpStatusOther
  | httpBytesSent
  deriving DecidableEq, Repr

def Total.read (c : Counters) : Total → ℕ
  | routeTotal route => (c.stats.ofRoute route).total
  | routeCompleted route => (c.stats.ofRoute route).completed
  | routeDurationMs route => (c.stats.ofRoute route).durationMs
  | rejectedIpLimit => c.stats.rejectedIpLimit
  | rejectedRateLimit => c.stats.rejectedRateLimit
  | probeTimeout => c.stats.probeTimeout
  | probeIoError => c.stats.probeIoError
  | sniPresent => c.stats.sniPresent
  | sniAbsent => c.stats.sniAbsent
  | proxyBytesClientToService => c.stats.proxyBytesClientToService
  | proxyBytesServiceToClient => c.stats.proxyBytesServiceToClient
  | proxyServiceConnectFailures => c.stats.proxyServiceConnectFailures
  | proxyServiceConnectRetries => c.stats.proxyServiceConnectRetries
  | proxyTlsHandshakeSuccess => c.stats.proxyTlsHandshakeSuccess
  | proxyTlsHandshakeFailure => c.stats.proxyTlsHandshakeFailure
  | fallbackTlsHandshakeSuccess => c.stats.fallbackTlsHandshakeSuccess
  | fallbackTlsHandshakeFailure => c.stats.fallbackTlsHandshakeFailure
  | fallbackAlpnH2 => c.stats.fallbackAlpnH2
  | fallbackAlpnHttp1 => c.stats.fallbackAlpnHttp1
  | fallbackAlpnNone => c.stats.fallbackAlpnNone
  | httpMethodGet => c.http.httpMethodGet
  | httpMethodHead => c.http.httpMethodHead
  | httpMethodOptions => c.http.httpMethodOptions
  | httpMethodOther => c.http.httpMethodOther
  | httpStatus200 => c.http.httpStatus200
  | httpStatus204 => c.http.httpStatus204
  | httpStatus304 => c.http.httpStatus304
  | httpStatus404 => c.http.httpStatus404
  | httpStatus405 => c.http.httpStatus405
  | httpStatusOther => c.http.httpStatusOther
  | httpBytesSent => c.http.httpBytesSent

def Grows (a b : Counters) : Prop := ∀ k : Total, k.read a ≤ k.read b

theorem Grows.refl (a : Counters) : Grows a a := fun _ => le_rfl

theorem Grows.trans {a b c : Counters} (h : Grows a b) (h' : Grows b c) : Grows a c :=
  fun k => (h k).trans (h' k)

section Updates

variable (st : Stats) (http : HttpStats) (l l' : ConnectionLimiter)

theorem grows_onRoute {f : RouteStats → RouteStats} (route : Route)
    (htotal : ∀ r, r.total ≤ (f r).total) (hcompleted : ∀ r, r.completed ≤ (f r).completed)
    (hduration : ∀ r, r.durationMs ≤ (f r).durationMs) :
    Grows ⟨st, http, l⟩ ⟨st.onRoute route f, http, l⟩ := by
  intro k
  cases k with
  | routeTotal r => cases route <;> cases r <;> first | exact le_rfl | exact htotal _
  | routeCompleted r => cases route <;> cases r <;> first | exact le_rfl | exact hcompleted _
  | routeDurationMs r => cases route <;> cases r <;> first | exact le_rfl | exact hduration _
  | _ => cases route <;> exact le_rfl

theorem grows_countRejection (why : Rejection) :
    Grows ⟨st, http, l⟩ ⟨st.countRejection why, http, l⟩ := by
  intro k
  cases why <;> cases k <;> first | exact le_rfl | exact Nat.le_succ _

theorem grows_countProbe (timedOut : Bool) :
    Grows ⟨st, http, l⟩ ⟨st.countProbe timedOut, http, l⟩ := by
  intro k
  cases timedOut <;> cases k <;> first | exact le_rfl | exact Nat.le_succ _

theorem grows_countSni (present : Bool) : Grows ⟨st, http, l⟩ ⟨st.countSni present, http, l⟩ := by
  intro k
  cases present <;> cases k <;> first | exact le_rfl | exact Nat.le_succ _

theorem grows_countHandshake (route : Route) (success : Bool) :
    Grows ⟨st, http, l⟩ ⟨st.countHandshake route success, http, l⟩ := by
  intro k
  cases route <;> cases success <;> cases k <;> first | exact le_rfl | exact Nat.le_succ _

theorem grows_countAlpn (alpn : Alpn) : Grows ⟨st, http, l⟩ ⟨st.countAlpn alpn, http, l⟩ := by
  intro k
  cases alpn <;> cases k <;> first | exact le_rfl | exact Nat.le_succ _

theorem grows_advanceStats {tls : Provider} {p q : TaskPoint} {st' : Stats} {e : TaskEvent}
    (h : advanceStats tls p st e = some (q, st')) : Grows ⟨st, http, l⟩ ⟨st', http, l⟩ := by
  cases advanceStats_inv h with
  | countProbe => exact grows_countProbe st http l _
  | countSni => exact grows_countSni st http l _
  | countTotal =>
    exact grows_onRoute st http l _ (fun _ => Nat.le_succ _) (fun _ => le_rfl) fun _ => le_rfl
  | terminate => exact grows_countHandshake st http l _ _
  | failProxied => exact grows_countHandshake st http l _ _
  | retry =>
    intro k
    cases k <;> first | exact le_rfl | exact Nat.le_succ _
  | giveUp =>
    intro k
    cases k <;> first | exact le_rfl | exact Nat.le_succ _
  | endSession =>
    intro k
    cases k <;> first | exact le_rfl | exact Nat.le_add_right _ _
  | countBytes =>
    intro k
    cases k <;> first | exact le_rfl | exact Nat.le_add_right _ _
  | secure => exact grows_countHandshake st http l _ _
  | failFallback => exact grows_countHandshake st http l _ _
  | countAlpn => exact grows_countAlpn st http l _
  | countCompleted =>
    exact grows_onRoute st http l _ (fun _ => le_rfl) (fun _ => Nat.le_succ _) fun _ => le_rfl
  | elapse =>
    exact grows_onRoute st http l _ (fun _ => le_rfl) (fun _ => le_rfl) fun _ =>
      Nat.le_add_right _ _
  | enter | leave =>
    exact grows_onRoute st http l _ (fun _ => le_rfl) (fun _ => le_rfl) fun _ => le_rfl
  | _ => exact .refl _

theorem grows_countMethod (method : Method) :
    Grows ⟨st, http, l⟩ ⟨st, countMethod http method, l⟩ := by
  intro k
  unfold countMethod
  split_ifs <;> cases k <;> first | exact le_rfl | exact Nat.le_succ _

theorem grows_countStatus (status : ℕ) :
    Grows ⟨st, http, l⟩ ⟨st, http.countStatus status, l⟩ := by
  intro k
  unfold HttpStats.countStatus
  split <;> cases k <;> first | exact le_rfl | exact Nat.le_succ _

theorem grows_countBytes (lib : HttpLibrary) (response : Response) :
    Grows ⟨st, http, l⟩ ⟨st, countBytes lib http response, l⟩ := by
  intro k
  unfold countBytes
  split
  · cases k <;> first | exact le_rfl | exact Nat.le_add_right _ _
  · exact le_rfl

end Updates

/-! ## The process that is scraped -/

/-- The connections, and the requests that the fallback site answers on them. -/
structure Served where
  front : Front
  requests : Pool RequestPoint HttpStats

inductive ServedEvent where
  | front (e : FrontEvent)
  /-- A request arrives on a connection that the fallback site serves. -/
  | request (task : ℕ) (x : Exchange)
  /-- The next effect of the handling of a request. -/
  | handle (request : ℕ)

namespace Served

def idle (front : Front) : Served := ⟨front, [], .new⟩

def counters (s : Served) : Counters :=
  ⟨s.front.shared.stats, s.requests.shared, s.front.shared.connLimiter⟩

variable (tls : Provider) (lib : HttpLibrary) (site : StaticSite)

def step (s : Served) : ServedEvent → Option Served
  | .front e => (s.front.step tls e).map fun front => { s with front }
  | .request task x =>
    (s.front.step tls (.task task .requested)).map fun front =>
      { front, requests := { s.requests with tasks := s.requests.tasks ++ [.received x] } }
  | .handle request =>
    (s.requests.fire (requestStep lib site) request ()).map fun requests => { s with requests }

variable {tls lib site}

theorem grows_loopStep {s s' : Shared} {http : HttpStats} {e : LoopEvent} {t : Option ConnTask}
    (h : s.loopStep e = some (s', t)) :
    Grows ⟨s.stats, http, s.connLimiter⟩ ⟨s'.stats, http, s'.connLimiter⟩ := by
  cases Shared.loopStep_inv h with
  | count hl => exact grows_countRejection s.stats http s.connLimiter _
  | _ => exact fun k => by cases k <;> exact le_rfl

theorem grows_mainStep {s s' : Shared} {http : HttpStats} {e : MainEvent} {t : Option ConnTask}
    (h : s.mainStep e = some (s', t)) :
    Grows ⟨s.stats, http, s.connLimiter⟩ ⟨s'.stats, http, s'.connLimiter⟩ := by
  cases e with
  | loop e => exact grows_loopStep h
  | _ =>
    cases h
    exact .refl _

theorem grows_taskStep {t t' : ConnTask} {s s' : Shared} {http : HttpStats} {e : TaskEvent}
    (h : taskStep tls t s e = some (t', s')) :
    Grows ⟨s.stats, http, s.connLimiter⟩ ⟨s'.stats, http, s'.connLimiter⟩ := by
  rcases taskStep_cases h with ⟨-, -, rfl⟩ | ⟨-, -, rfl⟩ | ⟨-, -, rfl⟩ | ⟨-, -, rfl⟩ |
    ⟨q, st, hst, -, rfl⟩
  · exact .refl _
  · exact .refl _
  · exact fun k => by cases k <;> exact le_rfl
  · exact fun k => by cases k <;> exact le_rfl
  · exact grows_advanceStats s.stats http s.connLimiter hst

theorem grows_front {front next : Front} {http : HttpStats} {e : FrontEvent}
    (h : front.step tls e = some next) :
    Grows ⟨front.shared.stats, http, front.shared.connLimiter⟩
      ⟨next.shared.stats, http, next.shared.connLimiter⟩ := by
  cases e with
  | main e =>
    obtain ⟨shared, t, hmain, rfl⟩ := Pool.advance_eq_some.mp h
    exact grows_mainStep hmain
  | task i e =>
    obtain ⟨t, t', shared, -, hact, rfl⟩ := Pool.fire_eq_some.mp h
    exact grows_taskStep hact

theorem grows_requestStep {p q : RequestPoint} {http http' : HttpStats} {st : Stats}
    {l : ConnectionLimiter} (h : requestStep lib site p http () = some (q, http')) :
    Grows ⟨st, http, l⟩ ⟨st, http', l⟩ := by
  cases p with
  | received x =>
    cases h
    exact grows_countMethod st http l x.request.method
  | methodCounted x =>
    simp only [requestStep] at h
    split at h
    · cases h
      exact grows_countStatus st http l _
    · cases h
      exact .refl _
  | statusCounted response =>
    cases h
    exact grows_countBytes st http l lib response
  | handled => cases h

/-- The step lemma: no step of any party lowers a counter. -/
theorem grows_step {s s' : Served} {e : ServedEvent} (h : s.step tls lib site e = some s') :
    Grows s.counters s'.counters := by
  cases e with
  | front e =>
    obtain ⟨front, hfront, rfl⟩ := Option.map_eq_some_iff.mp h
    exact grows_front hfront
  | request task x =>
    obtain ⟨front, hfront, rfl⟩ := Option.map_eq_some_iff.mp h
    exact grows_front hfront
  | handle request =>
    obtain ⟨requests, hrequest, rfl⟩ := Option.map_eq_some_iff.mp h
    obtain ⟨p, q, http, -, hact, rfl⟩ := Pool.fire_eq_some.mp hrequest
    exact grows_requestStep hact

/-- The run lemma. -/
theorem grows_run {s s' : Served} {es : List ServedEvent}
    (run : exec (step tls lib site) s es = some s') : Grows s.counters s'.counters := by
  refine exec_invariant (I := fun t : Served => Grows s.counters t.counters) (.refl _) ?_ run
  intro t e t' hgrown hstep
  exact hgrown.trans (grows_step hstep)

end Served

/-! ## Where the counters are on the page -/

/-- A counter on the page: the load that reads it, and where it is printed. -/
structure PageCounter where
  total : Total
  load : ℕ
  name : String
  labels : List (String × String)
  deriving DecidableEq, Repr

def pageCounters : List PageCounter :=
  [⟨.routeTotal .proxied, 0, "reprox_connections_total", [("route", "proxied")]⟩,
    ⟨.routeTotal .fallback, 1, "reprox_connections_total", [("route", "fallback")]⟩,
    ⟨.routeDurationMs .proxied, 6, "reprox_connection_duration_ms_sum", [("route", "proxied")]⟩,
    ⟨.routeDurationMs .fallback, 7, "reprox_connection_duration_ms_sum", [("route", "fallback")]⟩,
    ⟨.routeCompleted .proxied, 2, "reprox_connection_duration_ms_count", [("route", "proxied")]⟩,
    ⟨.routeCompleted .fallback, 3, "reprox_connection_duration_ms_count", [("route", "fallback")]⟩,
    ⟨.probeTimeout, 8, "reprox_connections_rejected_total", [("reason", "probe_timeout")]⟩,
    ⟨.probeIoError, 9, "reprox_connections_rejected_total", [("reason", "probe_io_error")]⟩,
    ⟨.rejectedIpLimit, 11, "reprox_connections_rejected_total", [("reason", "ip_limit")]⟩,
    ⟨.rejectedRateLimit, 12, "reprox_connections_rejected_total", [("reason", "rate_limit")]⟩,
    ⟨.sniPresent, 13, "reprox_clienthello_total", [("result", "sni_present")]⟩,
    ⟨.sniAbsent, 14, "reprox_clienthello_total", [("result", "sni_absent")]⟩,
    ⟨.proxyBytesClientToService, 15, "reprox_proxy_bytes_total",
      [("direction", "client_to_service")]⟩,
    ⟨.proxyBytesServiceToClient, 16, "reprox_proxy_bytes_total",
      [("direction", "service_to_client")]⟩,
    ⟨.proxyServiceConnectFailures, 17, "reprox_proxy_service_connect_failures_total", []⟩,
    ⟨.proxyServiceConnectRetries, 18, "reprox_proxy_service_connect_retries_total", []⟩,
    ⟨.fallbackTlsHandshakeSuccess, 19, "reprox_fallback_tls_handshakes_total",
      [("result", "success")]⟩,
    ⟨.fallbackTlsHandshakeFailure, 20, "reprox_fallback_tls_handshakes_total",
      [("result", "failure")]⟩,
    ⟨.fallbackAlpnH2, 21, "reprox_fallback_alpn_selected_total", [("protocol", "h2")]⟩,
    ⟨.fallbackAlpnHttp1, 22, "reprox_fallback_alpn_selected_total", [("protocol", "http1")]⟩,
    ⟨.fallbackAlpnNone, 23, "reprox_fallback_alpn_selected_total", [("protocol", "none")]⟩,
    ⟨.proxyTlsHandshakeSuccess, 24, "reprox_proxy_tls_handshakes_total", [("result", "success")]⟩,
    ⟨.proxyTlsHandshakeFailure, 25, "reprox_proxy_tls_handshakes_total", [("result", "failure")]⟩,
    ⟨.httpMethodGet, 26, "reprox_http_requests_total", [("method", "GET")]⟩,
    ⟨.httpMethodHead, 27, "reprox_http_requests_total", [("method", "HEAD")]⟩,
    ⟨.httpMethodOptions, 28, "reprox_http_requests_total", [("method", "OPTIONS")]⟩,
    ⟨.httpMethodOther, 29, "reprox_http_requests_total", [("method", "other")]⟩,
    ⟨.httpStatus200, 30, "reprox_http_responses_total", [("status", "200")]⟩,
    ⟨.httpStatus204, 31, "reprox_http_responses_total", [("status", "204")]⟩,
    ⟨.httpStatus304, 32, "reprox_http_responses_total", [("status", "304")]⟩,
    ⟨.httpStatus404, 33, "reprox_http_responses_total", [("status", "404")]⟩,
    ⟨.httpStatus405, 34, "reprox_http_responses_total", [("status", "405")]⟩,
    ⟨.httpStatusOther, 35, "reprox_http_responses_total", [("status", "other")]⟩,
    ⟨.httpBytesSent, 36, "reprox_http_response_bytes_total", []⟩]

def labelTexts (labels : List (String × String)) : List (Text × Text) :=
  labels.map fun (k, v) => (k.toList, v.toList)

def PageCounter.printed (c : PageCounter) (loads : ℕ → Counters) :
    Text × Exposition.Sample Value :=
  (c.name.toList, ⟨labelTexts c.labels, .u (c.total.read (loads c.load))⟩)

def Total.load (total : Total) : ℕ :=
  ((pageCounters.find? fun c => c.total = total).map PageCounter.load).getD 0

/-- The samples of the families that are declared counters, with their names. -/
def counterSamples (metrics : List (Exposition.Family Value)) :
    List (Text × Exposition.Sample Value) :=
  metrics.flatMap fun m =>
    if m.kind = "counter".toList then m.samples.map fun s => (m.name, s) else []

theorem mem_counterSamples {metrics : List (Exposition.Family Value)} {name : Text}
    {s : Exposition.Sample Value} :
    (name, s) ∈ counterSamples metrics ↔
      ∃ m ∈ metrics, m.kind = "counter".toList ∧ m.name = name ∧ s ∈ m.samples := by
  simp only [counterSamples, List.mem_flatMap]
  refine exists_congr fun m => and_congr_right fun _ => ?_
  split
  · rename_i hkind
    simp [hkind, and_comm]
  · rename_i hkind
    exact iff_of_false List.not_mem_nil fun h => hkind h.1

theorem counterSamples_counter (name help : String)
    (samples : List (List (String × String) × Value)) (rest : List (Exposition.Family Value)) :
    counterSamples (metric name "counter" help samples :: rest) =
      (samples.map fun s => (name.toList, ⟨labelTexts s.1, s.2⟩)) ++ counterSamples rest := by
  have hkind : (metric name "counter" help samples).kind = "counter".toList := rfl
  rw [counterSamples, List.flatMap_cons, if_pos hkind]
  exact congrArg (· ++ _) List.map_map

theorem counterSamples_gauge (name help : String)
    (samples : List (List (String × String) × Value)) (rest : List (Exposition.Family Value)) :
    counterSamples (metric name "gauge" help samples :: rest) = counterSamples rest := by
  have hkind : (metric name "gauge" help samples).kind ≠ "counter".toList :=
    show "gauge".toList ≠ "counter".toList by decide
  rw [counterSamples, List.flatMap_cons, if_neg hkind, List.nil_append, counterSamples]

/-- What the page declares a counter is one of the counters that only grow. -/
theorem counterSamples_metrics (loads : ℕ → Counters) (uptime : Float64) (config : ServiceConfig) :
    counterSamples (snapshot loads uptime config).metrics =
      pageCounters.map fun c => c.printed loads := by
  simp only [MetricsSnapshot.metrics, counterSamples_counter, counterSamples_gauge]
  rfl

def Shows (found : List (Exposition.Family Float64)) (name : String)
    (labels : List (String × String)) (x : ℚ) : Prop :=
  Exposition.value? found name.toList (labelTexts labels) = some (.finite x)

theorem PageCounter.shows {c : PageCounter} (hc : c ∈ pageCounters) (loads : ℕ → Counters)
    (uptime : Float64) (config : ServiceConfig) :
    Shows ((snapshot loads uptime config).metrics.map (Exposition.Family.map Value.shown))
      c.name c.labels (c.total.read (loads c.load)) := by
  have hprinted : c.printed loads ∈ counterSamples (snapshot loads uptime config).metrics := by
    rw [counterSamples_metrics]
    exact List.mem_map_of_mem hc
  obtain ⟨m, hm, -, hname, hs⟩ := mem_counterSamples.mp hprinted
  have hreadable := (Exposition.wellFormed_map Value.shown).mpr
    (metrics_wellFormed (snapshot loads uptime config))
  have hfound := Exposition.value?_of_mem hreadable (List.mem_map_of_mem hm)
    (List.mem_map_of_mem hs)
  rw [Shows, ← hname]
  exact hfound

/-! ## Scrapes -/

/-- The loads of one scrape: load `n` sees the process after `times n` of its events. -/
structure Scrape (tls : Provider) (lib : HttpLibrary) (site : StaticSite) (s₀ : Served)
    (es : List ServedEvent) where
  times : ℕ → ℕ
  seen : ℕ → Served
  reached : ∀ n, exec (Served.step tls lib site) s₀ (es.take (times n)) = some (seen n)

namespace Scrape

variable {tls : Provider} {lib : HttpLibrary} {site : StaticSite} {s₀ : Served}
  {es : List ServedEvent}

def page (scrape : Scrape tls lib site s₀ es) (uptimeSeconds : Float64) (config : ServiceConfig) :
    Text :=
  (snapshot (fun n => (scrape.seen n).counters) uptimeSeconds config).renderPrometheus

/-- What a later load sees has been reached from what an earlier one saw. -/
theorem grows_seen (first second : Scrape tls lib site s₀ es) {m n : ℕ}
    (hlater : first.times m ≤ second.times n) :
    Grows (first.seen m).counters (second.seen n).counters := by
  have hsplit : es.take (second.times n) =
      es.take (first.times m) ++ (es.take (second.times n)).drop (first.times m) := by
    conv_lhs => rw [← List.take_append_drop (first.times m) (es.take (second.times n)),
      List.take_take, min_eq_left hlater]
  have hsecond := second.reached n
  rw [hsplit] at hsecond
  obtain ⟨s, hs, hrest⟩ := exec_append_eq_some.mp hsecond
  rw [first.reached m] at hs
  cases hs
  exact Served.grows_run hrest

/-- Of two scrapes of one process, the second starting when the first is through,
the second page has every counter of the first, and none of them went down. -/
theorem counters_never_decrease (first second : Scrape tls lib site s₀ es)
    (hlater : ∀ m n, first.times m ≤ second.times n) (uptime uptime' : Float64)
    (config : ServiceConfig) :
    ∃ before after, Exposition.parse parseDecimal (first.page uptime config) = some before ∧
      Exposition.parse parseDecimal (second.page uptime' config) = some after ∧
      ∀ family ∈ before, family.kind = "counter".toList → ∀ s ∈ family.samples, ∃ x y : ℚ,
        s.value = .finite x ∧
          Exposition.value? after family.name s.labels = some (.finite y) ∧ x ≤ y := by
  refine ⟨_, _, parse_renderPrometheus parseDecimal_display _,
    parse_renderPrometheus parseDecimal_display _, ?_⟩
  intro family hfamily hkind s hs
  obtain ⟨m, hm, rfl⟩ := List.mem_map.mp hfamily
  obtain ⟨sample, hsample, rfl⟩ := List.mem_map.mp hs
  have hcounter := mem_counterSamples.mpr ⟨m, hm, hkind, rfl, hsample⟩
  rw [counterSamples_metrics] at hcounter
  obtain ⟨c, hc, hprinted⟩ := List.mem_map.mp hcounter
  obtain ⟨hname, rfl⟩ := Prod.mk.inj hprinted
  have hle := grows_seen first second (hlater c.load c.load) c.total
  refine ⟨_, _, rfl, ?_, Nat.cast_le.mpr hle⟩
  have hshown := PageCounter.shows hc (fun n => (second.seen n).counters) uptime' config
  rw [Shows, hname] at hshown
  exact hshown

def oneRequest : List ServedEvent :=
  let visit := Front.visit (.v4 ⟨203, 0, 113, 5⟩ 50000)
  (visit.take 13).map .front ++
    [.request 0 ⟨⟨.get, "/".toList, []⟩, plainConfig, 0⟩, .handle 0, .handle 0, .handle 0] ++
      (visit.drop 13).map .front

theorem counters_never_decrease_oneRequest :
    ∃ (site : StaticSite)
      (first second : Scrape .accepting .ascii site (.idle .minimal) oneRequest),
      first.times 0 = 0 ∧ second.times 0 = oneRequest.length ∧
      ∃ before after,
        Exposition.parse parseDecimal (first.page (.finite 1) plainConfig) = some before ∧
        Exposition.parse parseDecimal (second.page (.finite 2) plainConfig) = some after ∧
        ∀ family ∈ before, family.kind = "counter".toList → ∀ s ∈ family.samples, ∃ x y : ℚ,
          s.value = .finite x ∧
            Exposition.value? after family.name s.labels = some (.finite y) ∧ x ≤ y := by
  have hrun : ∃ site s, StaticSite.tryLoad HttpLibrary.ascii.fmtHttpDate 0 "/srv/www".toList
      (.ok Tree.onePage.directory) = .ok site ∧
        exec (Served.step .accepting .ascii site) (.idle .minimal) oneRequest = some s :=
    ⟨_, _, rfl, rfl⟩
  obtain ⟨site, s, -, hs⟩ := hrun
  let first : Scrape .accepting .ascii site (.idle .minimal) oneRequest :=
    ⟨fun _ => 0, fun _ => .idle .minimal, fun _ => rfl⟩
  let second : Scrape .accepting .ascii site (.idle .minimal) oneRequest :=
    ⟨fun _ => oneRequest.length, fun _ => s, fun _ => by rw [List.take_length]; exact hs⟩
  exact ⟨site, first, second, rfl, rfl, counters_never_decrease first second
    (fun _ _ => Nat.zero_le _) _ _ _⟩

end Scrape

end Reprox.Server
