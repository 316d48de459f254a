import Reprox.Config.Schema
import Reprox.Foundations.Exposition
import Reprox.Limits.ConnectionLimiter
import Reprox.Metrics.Stats
import Reprox.Net.Decimal

/-!
# The page of metrics

`Stats::snapshot` loads every counter once; `render_prometheus` prints what it
loaded. The page is written by plain formatting, so that it can be read at all
rests on the names, labels and help texts that are written out in the source.
Uptime is the only fraction and is printed with three decimals.
-/

namespace Reprox.Metrics

open Foundations Net Config Limits Binary64

/-! ## The snapshot -/

structure ConnectionsSnapshot where
  proxiedTotal : ℕ
  fallbackTotal : ℕ
  proxiedCompletedTotal : ℕ
  fallbackCompletedTotal : ℕ
  activeProxied : ℤ
  activeFallback : ℤ
  proxiedDurationMsSum : ℕ
  fallbackDurationMsSum : ℕ
  probeTimeoutTotal : ℕ
  probeIoErrorTotal : ℕ
  connectionsLimit : ℕ
  connectionsAvailable : ℕ
  ipLimitTotal : ℕ
  rateLimitTotal : ℕ
  deriving DecidableEq, Repr

structure ClientHelloSnapshot where
  sniPresentTotal : ℕ
  sniAbsentTotal : ℕ
  deriving DecidableEq, Repr

structure ProxySnapshot where
  bytesClientToServiceTotal : ℕ
  bytesServiceToClientTotal : ℕ
  serviceConnectFailuresTotal : ℕ
  serviceConnectRetriesTotal : ℕ
  deriving DecidableEq, Repr

structure TlsSnapshot where
  fallbackHandshakeSuccessTotal : ℕ
  fallbackHandshakeFailureTotal : ℕ
  fallbackAlpnH2Total : ℕ
  fallbackAlpnHttp1Total : ℕ
  fallbackAlpnNoneTotal : ℕ
  proxyHandshakeSuccessTotal : ℕ
  proxyHandshakeFailureTotal : ℕ
  deriving DecidableEq, Repr

structure HttpSnapshot where
  methodGetTotal : ℕ
  methodHeadTotal : ℕ
  methodOptionsTotal : ℕ
  methodOtherTotal : ℕ
  status200Total : ℕ
  status204Total : ℕ
  status304Total : ℕ
  status404Total : ℕ
  status405Total : ℕ
  statusOtherTotal : ℕ
  bytesSentTotal : ℕ
  deriving DecidableEq, Repr

structure ConfigSnapshot where
  routesCount : ℕ
  tlsProfile : Text
  deriving DecidableEq, Repr

structure MetricsSnapshot where
  uptimeSeconds : Float64
  connections : ConnectionsSnapshot
  clienthello : ClientHelloSnapshot
  proxy : ProxySnapshot
  tls : TlsSnapshot
  http : HttpSnapshot
  config : ConfigSnapshot
  deriving DecidableEq, Repr

/-- Everything the fields of `Stats` hold; `connections` is the limiter's counter. -/
structure Counters where
  stats : Stats
  http : HttpStats
  limiter : ConnectionLimiter
  deriving DecidableEq, Repr

/-- `Stats::snapshot`. The counters move on while it loads them: load `n` sees
`loads n`. The clock answers `uptimeSeconds`. -/
def snapshot (loads : ℕ → Counters) (uptimeSeconds : Float64) (config : ServiceConfig) :
    MetricsSnapshot where
  uptimeSeconds := uptimeSeconds
  connections :=
    { proxiedTotal := (loads 0).stats.proxied.total
      fallbackTotal := (loads 1).stats.fallback.total
      proxiedCompletedTotal := (loads 2).stats.proxied.completed
      fallbackCompletedTotal := (loads 3).stats.fallback.completed
      activeProxied := (loads 4).stats.proxied.active
      activeFallback := (loads 5).stats.fallback.active
      proxiedDurationMsSum := (loads 6).stats.proxied.durationMs
      fallbackDurationMsSum := (loads 7).stats.fallback.durationMs
      probeTimeoutTotal := (loads 8).stats.probeTimeout
      probeIoErrorTotal := (loads 9).stats.probeIoError
      connectionsLimit := config.maxConnections.toNat
      connectionsAvailable :=
        ((loads 10).limiter.connectionsAvailable config.maxConnections).toNat
      ipLimitTotal := (loads 11).stats.rejectedIpLimit
      rateLimitTotal := (loads 12).stats.rejectedRateLimit }
  clienthello :=
    { sniPresentTotal := (loads 13).stats.sniPresent
      sniAbsentTotal := (loads 14).stats.sniAbsent }
  proxy :=
    { bytesClientToServiceTotal := (loads 15).stats.proxyBytesClientToService
      bytesServiceToClientTotal := (loads 16).stats.proxyBytesServiceToClient
      serviceConnectFailuresTotal := (loads 17).stats.proxyServiceConnectFailures
      serviceConnectRetriesTotal := (loads 18).stats.proxyServiceConnectRetries }
  tls :=
    { fallbackHandshakeSuccessTotal := (loads 19).stats.fallbackTlsHandshakeSuccess
      fallbackHandshakeFailureTotal := (loads 20).stats.fallbackTlsHandshakeFailure
      fallbackAlpnH2Total := (loads 21).stats.fallbackAlpnH2
      fallbackAlpnHttp1Total := (loads 22).stats.fallbackAlpnHttp1
      fallbackAlpnNoneTotal := (loads 23).stats.fallbackAlpnNone
      proxyHandshakeSuccessTotal := (loads 24).stats.proxyTlsHandshakeSuccess
      proxyHandshakeFailureTotal := (loads 25).stats.proxyTlsHandshakeFailure }
  http :=
    { methodGetTotal := (loads 26).http.httpMethodGet
      methodHeadTotal := (loads 27).http.httpMethodHead
      methodOptionsTotal := (loads 28).http.httpMethodOptions
      methodOtherTotal := (loads 29).http.httpMethodOther
      status200Total := (loads 30).http.httpStatus200
      status204Total := (loads 31).http.httpStatus204
      status304Total := (loads 32).http.httpStatus304
      status404Total := (loads 33).http.httpStatus404
      status405Total := (loads 34).http.httpStatus405
      statusOtherTotal := (loads 35).http.httpStatusOther
      bytesSentTotal := (loads 36).http.httpBytesSent }
  config :=
    { routesCount := config.routes.length
      tlsProfile := config.tlsMinVersion }

/-! ## Values -/

inductive Value where
  | u (v : ℕ)
  | i (v : ℤ)
  | f (v : Float64)
  deriving DecidableEq, Repr

def signText (negative : Bool) : Text := if negative then ['-'] else []

def threeDigits (n : ℕ) : Text :=
  [Nat.digitChar (n / 100 % 10), Nat.digitChar (n / 10 % 10), Nat.digitChar (n % 10)]

/-- `{v:.3}` of a finite number, given in thousandths. -/
def thousandthsText (negative : Bool) (n : ℕ) : Text :=
  signText negative ++ (Text.ofNat (n / 1000) ++ '.' :: threeDigits n)

def Value.display : Value → Text
  | .u v => Text.ofNat v
  | .i v => signText (decide (v < 0)) ++ Text.ofNat v.natAbs
  | .f (.finite v) => thousandthsText (decide (v < 0)) (roundHalfEven (|v| * 1000)).toNat
  | .f (.infinity negative) => signText negative ++ "inf".toList
  | .f .nan => "NaN".toList

example : Value.display (.f (.finite (-1 / 16))) = "-0.062".toList := by decide +kernel

/-- The number a displayed value denotes: a fraction is rounded to thousandths. -/
def Value.shown : Value → Float64
  | .u v => .finite v
  | .i v => .finite v
  | .f (.finite v) =>
    let rounded : ℚ := (roundHalfEven (|v| * 1000)).toNat / 1000
    .finite (if v < 0 then -rounded else rounded)
  | .f v => v

/-! ## The page -/

/-- `label_str` of a sample: a comma goes before every label but the first. -/
def labelStr (labels : List (Text × Text)) : Text :=
  labels.zipIdx.foldl (fun text ((k, v), i) =>
    let text := if i > 0 then text ++ [','] else text
    text ++ (k ++ ['=', '"'] ++ v ++ ['"'])) []

def pushMetric (out name metricType help : Text) (samples : List (List (Text × Text) × Value)) :
    Text :=
  let out := out ++ ("# HELP ".toList ++ name ++ [' '] ++ help ++ ['\n'])
  let out := out ++ ("# TYPE ".toList ++ name ++ [' '] ++ metricType ++ ['\n'])
  let out := samples.foldl (fun out (labels, value) =>
    if labels.isEmpty then out ++ (name ++ [' '] ++ value.display ++ ['\n'])
    else out ++ (name ++ ['{'] ++ labelStr labels ++ ['}', ' '] ++ value.display ++ ['\n'])) out
  out ++ ['\n']

/-- The arguments of one call of `push_metric`, texts as they stand in the source. -/
def metric (name metricType help : String) (samples : List (List (String × String) × Value)) :
    Exposition.Family Value where
  name := name.toList
  kind := metricType.toList
  help := help.toList
  samples := samples.map fun (labels, value) =>
    ⟨labels.map fun (k, v) => (k.toList, v.toList), value⟩

/-- The calls of `push_metric` in `render_prometheus`, in order. -/
def MetricsSnapshot.metrics (s : MetricsSnapshot) : List (Exposition.Family Value) :=
  [metric "reprox_uptime_seconds" "gauge" "Time in seconds since the process started."
      [([], .f s.uptimeSeconds)],
    metric "reprox_connections_total" "counter" "Total TCP connections accepted, by route."
      [([("route", "proxied")], .u s.connections.proxiedTotal),
        ([("route", "fallback")], .u s.connections.fallbackTotal)],
    metric "reprox_connections_active" "gauge" "Connections currently being served, by route."
      [([("route", "proxied")], .i s.connections.activeProxied),
        ([("route", "fallback")], .i s.connections.activeFallback)],
    metric "reprox_connection_duration_ms_sum" "counter"
      "Total time spent serving completed connections, by route, in milliseconds."
      [([("route", "proxied")], .u s.connections.proxiedDurationMsSum),
        ([("route", "fallback")], .u s.connections.fallbackDurationMsSum)],
    metric "reprox_connection_duration_ms_count" "counter"
      "Number of completed connections included in connection_duration_ms_sum, by route."
      [([("route", "proxied")], .u s.connections.proxiedCompletedTotal),
        ([("route", "fallback")], .u s.connections.fallbackCompletedTotal)],
    metric "reprox_connections_rejected_total" "counter"
      "Connections that never produced a usable ClientHello."
      [([("reason", "probe_timeout")], .u s.connections.probeTimeoutTotal),
        ([("reason", "probe_io_error")], .u s.connections.probeIoErrorTotal),
        ([("reason", "ip_limit")], .u s.connections.ipLimitTotal),
        ([("reason", "rate_limit")], .u s.connections.rateLimitTotal)],
    metric "reprox_connections_limit" "gauge"
      "Configured cap on connections handled at once, across both routes (max_connections)."
      [([], .u s.connections.connectionsLimit)],
    metric "reprox_connections_available" "gauge"
      "Connections currently free out of reprox_connections_limit. A sustained 0 means max_connections is the current bottleneck."
      [([], .u s.connections.connectionsAvailable)],
    metric "reprox_clienthello_total" "counter"
      "ClientHello classification results (see sni::ProbeResult)."
      [([("result", "sni_present")], .u s.clienthello.sniPresentTotal),
        ([("result", "sni_absent")], .u s.clienthello.sniAbsentTotal)],
    metric "reprox_proxy_bytes_total" "counter" "Bytes relayed between clients and service."
      [([("direction", "client_to_service")], .u s.proxy.bytesClientToServiceTotal),
        ([("direction", "service_to_client")], .u s.proxy.bytesServiceToClientTotal)],
    metric "reprox_proxy_service_connect_failures_total" "counter"
      "Connections that could not reach the local service instance after exhausting connect retries (see reprox_proxy_service_connect_retries_total). A non-zero rate usually means the service is down or misconfigured."
      [([], .u s.proxy.serviceConnectFailuresTotal)],
    metric "reprox_proxy_service_connect_retries_total" "counter"
      "Individual failed connect attempts to the local service that were retried with backoff (excludes each route's final, giving-up attempt, which is counted in reprox_proxy_service_connect_failures_total instead). A high rate here relative to the failures counter means the service is usually just briefly slow to accept, not actually down."
      [([], .u s.proxy.serviceConnectRetriesTotal)],
    metric "reprox_fallback_tls_handshakes_total" "counter" "Fallback-path TLS handshake outcomes."
      [([("result", "success")], .u s.tls.fallbackHandshakeSuccessTotal),
        ([("result", "failure")], .u s.tls.fallbackHandshakeFailureTotal)],
    metric "reprox_fallback_alpn_selected_total" "counter"
      "Negotiated ALPN protocol on the fallback path."
      [([("protocol", "h2")], .u s.tls.fallbackAlpnH2Total),
        ([("protocol", "http1")], .u s.tls.fallbackAlpnHttp1Total),
        ([("protocol", "none")], .u s.tls.fallbackAlpnNoneTotal)],
    metric "reprox_proxy_tls_handshakes_total" "counter" "Proxy-path TLS handshake outcomes."
      [([("result", "success")], .u s.tls.proxyHandshakeSuccessTotal),
        ([("result", "failure")], .u s.tls.proxyHandshakeFailureTotal)],
    metric "reprox_http_requests_total" "counter" "Fallback-site HTTP requests, by method."
      [([("method", "GET")], .u s.http.methodGetTotal),
        ([("method", "HEAD")], .u s.http.methodHeadTotal),
        ([("method", "OPTIONS")], .u s.http.methodOptionsTotal),
        ([("method", "other")], .u s.http.methodOtherTotal)],
    metric "reprox_http_responses_total" "counter" "Fallback-site HTTP responses, by status code."
      [([("status", "200")], .u s.http.status200Total),
        ([("status", "204")], .u s.http.status204Total),
        ([("status", "304")], .u s.http.status304Total),
        ([("status", "404")], .u s.http.status404Total),
        ([("status", "405")], .u s.http.status405Total),
        ([("status", "other")], .u s.http.statusOtherTotal)],
    metric "reprox_http_response_bytes_total" "counter"
      "Approximate response body bytes sent by the fallback site (read from Content-Length)."
      [([], .u s.http.bytesSentTotal)],
    metric "reprox_config_secret_domains" "gauge" "Number of service routes currently configured."
      [([], .u s.config.routesCount)]]

def MetricsSnapshot.shape : List (Exposition.Family Unit) :=
  (MetricsSnapshot.mk .nan ⟨0, 0, 0, 0, 0, 0, 0, 0, 0, 0, 0, 0, 0, 0⟩ ⟨0, 0⟩ ⟨0, 0, 0, 0⟩
    ⟨0, 0, 0, 0, 0, 0, 0⟩ ⟨0, 0, 0, 0, 0, 0, 0, 0, 0, 0, 0⟩ ⟨0, []⟩).metrics.map
      (Exposition.Family.map fun _ => ())

def MetricsSnapshot.renderPrometheus (s : MetricsSnapshot) : Text :=
  s.metrics.foldl (fun out m => pushMetric out m.name m.kind m.help
    (m.samples.map fun sample => (sample.labels, sample.value))) []

/-! ## Reading a value -/

theorem readDigits_append {digits rest : Text} (h : ∀ c ∈ digits, c.isDigit = true)
    (hrest : rest = [] ∨ rest.head? = some '.') :
    readDigits 10 (digits ++ rest) = (digits.map fun c => c.toNat - '0'.toNat, rest) := by
  induction digits with
  | nil =>
    cases rest with
    | nil => rfl
    | cons c rest =>
      have hc : c = '.' := by simpa using hrest
      rw [List.nil_append, readDigits, hc]
      rfl
  | cons c digits ih =>
    obtain ⟨hc, hmore⟩ := List.forall_mem_cons.mp h
    rw [List.cons_append, readDigits, toDigit_ten, if_pos hc, ih hmore, List.map_cons]

theorem toLower_of_isDigit {c : Char} (h : c.isDigit = true) : c.toLower = c := by
  unfold Char.toLower
  rw [dif_neg]
  simp only [Char.isDigit, ge_iff_le, Bool.and_eq_true, decide_eq_true_eq,
    UInt32.le_iff_toNat_le] at h ⊢
  have hletter : ('A'.val).toNat = 65 := rfl
  have hdigit : ('9'.val).toNat = 57 := rfl
  omega

theorem ne_of_isDigit {c d : Char} (hc : c.isDigit = true) (hd : d.isDigit = false) : c ≠ d := by
  rintro rfl
  rw [hc] at hd
  cases hd

/-- What starts with a digit is none of the words. -/
theorem toAsciiLowercase_ne_of_isDigit {c d : Char} (hc : c.isDigit = true)
    (hd : d.isDigit = false) (s keyword : Text) :
    Text.toAsciiLowercase (c :: s) ≠ d :: keyword := by
  rw [Text.toAsciiLowercase, List.map_cons, toLower_of_isDigit hc]
  exact fun h => ne_of_isDigit hc hd (List.cons.inj h).1

theorem parseDecimal_digits {whole fraction rest : Text} (hwhole : IsDecimal whole)
    (hfraction : ∀ c ∈ fraction, c.isDigit = true)
    (hrest : rest = [] ∧ fraction = [] ∨ rest = '.' :: fraction) (negative : Bool) :
    parseDecimal (signText negative ++ (whole ++ rest)) =
      some (.finite
        (let magnitude : ℚ := decimalValue (whole ++ fraction) / 10 ^ fraction.length
        if negative then -magnitude else magnitude)) := by
  obtain ⟨hne, hdigits⟩ := hwhole
  obtain ⟨c, digits, rfl⟩ := List.exists_cons_of_ne_nil hne
  have hc : c.isDigit = true := hdigits c List.mem_cons_self
  have hplus : c ≠ '+' := ne_of_isDigit hc rfl
  have hminus : c ≠ '-' := ne_of_isDigit hc rfl
  have hnan := toAsciiLowercase_ne_of_isDigit hc (show 'n'.isDigit = false from rfl)
    (digits ++ rest) ['a', 'n']
  have hinf := toAsciiLowercase_ne_of_isDigit hc (show 'i'.isDigit = false from rfl)
    (digits ++ rest) ['n', 'f']
  have hinfinity := toAsciiLowercase_ne_of_isDigit hc (show 'i'.isDigit = false from rfl)
    (digits ++ rest) ['n', 'f', 'i', 'n', 'i', 't', 'y']
  have hbody : readDigits 10 (c :: (digits ++ rest)) =
      ((c :: digits).map fun c => c.toNat - '0'.toNat, rest) := by
    apply readDigits_append hdigits
    rcases hrest with ⟨rfl, -⟩ | rfl
    · exact Or.inl rfl
    · exact Or.inr rfl
  have hvalue : ofDigits 10 (((c :: digits).map fun c => c.toNat - '0'.toNat) ++
      fraction.map fun c => c.toNat - '0'.toNat) = decimalValue ((c :: digits) ++ fraction) := by
    rw [← List.map_append, ofDigits_map]
  have hfractionDigits : readDigits 10 fraction = (fraction.map fun c => c.toNat - '0'.toNat, []) :=
    Prod.ext (readDigits_fst hfraction) (readDigits_snd_eq_nil.mpr hfraction)
  have hexponent : readExponent [] = some 0 := rfl
  have hnonempty : (c :: digits).map (fun c => c.toNat - '0'.toNat) ≠ [] := by simp
  have hlength : (fraction.map fun c => c.toNat - '0'.toNat).length = fraction.length :=
    List.length_map _
  generalize (c :: digits).map (fun c => c.toNat - '0'.toNat) = wholeDigits at *
  generalize fraction.map (fun c => c.toNat - '0'.toNat) = fractionDigits at *
  unfold parseDecimal
  -- with no fraction there are no digits after the point, and no point either
  rcases hrest with ⟨rfl, rfl⟩ | rfl
  · have hnone : fractionDigits = [] := List.eq_nil_of_length_eq_zero hlength
    subst hnone
    simp only [List.append_nil] at hnan hinf hinfinity hbody hvalue
    cases negative <;>
      simp [signText, hplus, hminus, hnan, hinf, hinfinity, hbody, hexponent, hvalue, hnonempty]
  · cases negative <;>
      simp [signText, hplus, hminus, hnan, hinf, hinfinity, hbody, hfractionDigits, hexponent,
        hvalue, hnonempty, hlength, div_eq_mul_inv]

theorem digitChar_isDigit {d : ℕ} (h : d < 10) : (Nat.digitChar d).isDigit = true := by
  interval_cases d <;> rfl

theorem threeDigits_isDigit (n : ℕ) : ∀ c ∈ threeDigits n, c.isDigit = true := by
  intro c hc
  simp only [threeDigits, List.mem_cons, List.not_mem_nil, or_false] at hc
  rcases hc with rfl | rfl | rfl <;> exact digitChar_isDigit (Nat.mod_lt _ (by omega))

theorem decimalValue_thousandths (n : ℕ) :
    decimalValue (Text.ofNat (n / 1000) ++ threeDigits n) = n := by
  have hdigit (d : ℕ) : (Nat.digitChar (d % 10)).toNat - '0'.toNat = d % 10 := by
    have hd : d % 10 < 10 := Nat.mod_lt _ (by omega)
    interval_cases d % 10 <;> rfl
  rw [← ofDigits_map, List.map_append, ofDigits, List.foldl_append]
  have hwhole := ofDigits_map (Text.ofNat (n / 1000))
  rw [ofDigits, decimalValue, Text.ofNat, Nat.ofDigitChars_ten_toDigits] at hwhole
  rw [Text.ofNat, hwhole]
  simp only [threeDigits, List.map_cons, List.map_nil, hdigit, List.foldl_cons, List.foldl_nil]
  omega

theorem parseDecimal_integer (negative : Bool) (n : ℕ) :
    parseDecimal (signText negative ++ Text.ofNat n) =
      some (.finite (if negative then -(n : ℚ) else n)) := by
  have hvalue : decimalValue (Text.ofNat n) = n := Nat.ofDigitChars_ten_toDigits
  have hread := parseDecimal_digits (isDecimal_ofNat n) (List.forall_mem_nil _) (Or.inl ⟨rfl, rfl⟩)
    negative
  simpa [hvalue] using hread

theorem parseDecimal_thousandthsText (negative : Bool) (n : ℕ) :
    parseDecimal (thousandthsText negative n) =
      some (.finite (if negative then -((n : ℚ) / 1000) else n / 1000)) := by
  have hread := parseDecimal_digits (isDecimal_ofNat (n / 1000)) (threeDigits_isDigit n)
    (Or.inr rfl) negative
  rw [decimalValue_thousandths] at hread
  rw [thousandthsText, hread]
  norm_num [threeDigits]

theorem parseDecimal_display (v : Value) : parseDecimal v.display = some v.shown := by
  cases v with
  | u n => simpa [signText, Value.display, Value.shown] using parseDecimal_integer false n
  | i z =>
    have hread := parseDecimal_integer (decide (z < 0)) z.natAbs
    have hvalue : (if decide (z < 0) then -(z.natAbs : ℚ) else z.natAbs) = z := by
      by_cases hz : z < 0
      · have habs : (z.natAbs : ℤ) = -z := by omega
        simp only [hz, decide_true, if_true]
        rw [← Int.cast_natCast z.natAbs, habs]
        push_cast
        ring
      · have habs : (z.natAbs : ℤ) = z := by omega
        simp only [hz, decide_false, Bool.false_eq_true, if_false]
        rw [← Int.cast_natCast z.natAbs, habs]
    rwa [hvalue] at hread
  | f v =>
    cases v with
    | finite v =>
      simpa [Value.display, Value.shown] using
        parseDecimal_thousandthsText (decide (v < 0)) (roundHalfEven (|v| * 1000)).toNat
    | infinity negative => cases negative <;> decide +kernel
    | nan => decide +kernel

theorem newline_not_mem_display (v : Value) : '\n' ∉ v.display := by
  have hdigits {s : Text} (h : ∀ c ∈ s, c.isDigit = true) : '\n' ∉ s := by
    intro hmem
    have hline := h _ hmem
    cases hline
  have hnat (n : ℕ) : '\n' ∉ Text.ofNat n := hdigits (isDecimal_ofNat n).2
  have hsign (negative : Bool) : '\n' ∉ signText negative := by cases negative <;> decide
  cases v with
  | u n => exact hnat n
  | i z =>
    rw [Value.display, List.mem_append, not_or]
    exact ⟨hsign _, hnat _⟩
  | f v =>
    cases v with
    | finite v => simp [Value.display, thousandthsText, hsign, hnat, hdigits (threeDigits_isDigit _)]
    | infinity negative => cases negative <;> decide
    | nan => decide

/-! ## Reading the page -/

theorem labelStr_eq (labels : List (Text × Text)) :
    labelStr labels = Exposition.labelsText labels := by
  have hrest (labels : List (Text × Text)) (text : Text) {n : ℕ} (hn : 0 < n) :
      (labels.zipIdx n).foldl (fun text ((k, v), i) =>
        let text := if i > 0 then text ++ [','] else text
        text ++ (k ++ ['=', '"'] ++ v ++ ['"'])) text =
      text ++ labels.flatMap fun label => ',' :: Exposition.labelText label := by
    induction labels generalizing text n with
    | nil => simp
    | cons label labels ih =>
      rw [List.zipIdx_cons, List.foldl_cons, ih _ (Nat.succ_pos n)]
      simp [hn, Exposition.labelText]
  cases labels with
  | nil => rfl
  | cons label labels =>
    rw [Exposition.labelsText_cons, labelStr, List.zipIdx_cons, List.foldl_cons,
      hrest _ _ (Nat.succ_pos 0)]
    simp [Exposition.labelText]

theorem pushMetric_eq (out : Text) (m : Exposition.Family Value) :
    pushMetric out m.name m.kind m.help (m.samples.map fun s => (s.labels, s.value)) =
      out ++ Exposition.unlines (m.lines Value.display) := by
  have hsamples (samples : List (Exposition.Sample Value)) (out : Text) :
      (samples.map fun s => (s.labels, s.value)).foldl (fun out (labels, value) =>
        if labels.isEmpty then out ++ (m.name ++ [' '] ++ value.display ++ ['\n'])
        else out ++ (m.name ++ ['{'] ++ labelStr labels ++ ['}', ' '] ++ value.display ++ ['\n']))
        out =
      out ++ Exposition.unlines (samples.map (Exposition.sampleLine Value.display m.name)) := by
    induction samples generalizing out with
    | nil => simp [Exposition.unlines]
    | cons s samples ih =>
      rw [List.map_cons, List.foldl_cons, ih]
      by_cases hs : s.labels = [] <;>
        simp [Exposition.unlines, Exposition.sampleLine, hs, labelStr_eq]
  unfold pushMetric
  dsimp only
  rw [hsamples]
  simp only [Exposition.Family.lines, Exposition.unlines, Exposition.helpLine, Exposition.kindLine,
    List.flatMap_cons, List.flatMap_append, List.flatMap_nil, List.append_assoc, List.cons_append,
    List.nil_append, List.append_nil]
  rfl

theorem renderPrometheus_eq (s : MetricsSnapshot) :
    s.renderPrometheus = Exposition.render Value.display s.metrics := by
  have hpage (metrics : List (Exposition.Family Value)) (out : Text) :
      metrics.foldl (fun out m => pushMetric out m.name m.kind m.help
        (m.samples.map fun sample => (sample.labels, sample.value))) out =
      out ++ Exposition.render Value.display metrics := by
    induction metrics generalizing out with
    | nil => simp [Exposition.render, Exposition.unlines]
    | cons m metrics ih =>
      rw [List.foldl_cons, ih, pushMetric_eq]
      simp [Exposition.render, Exposition.unlines]
  rw [MetricsSnapshot.renderPrometheus, hpage, List.nil_append]

set_option maxRecDepth 8000 in
theorem shape_wellFormed : Exposition.WellFormed MetricsSnapshot.shape := by
  unfold MetricsSnapshot.shape MetricsSnapshot.metrics metric
  simp only [List.map_cons, List.map_nil, Exposition.Family.map, Exposition.Sample.map]
  -- the literals are spelled out once; decoding them is most of the work otherwise
  repeat rw [String.toList_ofList]
  decide +kernel

/-- Whether the page can be read depends on no value, only on what the source spells out. -/
theorem metrics_wellFormed (s : MetricsSnapshot) : Exposition.WellFormed s.metrics :=
  (Exposition.wellFormed_map fun _ => ()).mp shape_wellFormed

/-- The page denotes this number for the value: counters and gauges exactly, a
fraction to the nearest thousandth. -/
def Value.Denotes : Value → Float64 → Prop
  | .u v, x => x = .finite v
  | .i v, x => x = .finite v
  | .f (.finite v), x => ∃ w, x = .finite w ∧ |w - v| ≤ 1 / 2000
  | .f v, x => x = v

theorem denotes_shown (v : Value) : v.Denotes v.shown := by
  cases v with
  | u n => rfl
  | i z => rfl
  | f v =>
    cases v with
    | finite v =>
      have hround := abs_roundHalfEven_sub_le (|v| * 1000)
      have hnonneg : 0 ≤ roundHalfEven (|v| * 1000) := roundHalfEven_nonneg (by positivity)
      have hcast : ((roundHalfEven (|v| * 1000)).toNat : ℚ) = roundHalfEven (|v| * 1000) := by
        exact_mod_cast Int.toNat_of_nonneg hnonneg
      refine ⟨_, rfl, ?_⟩
      rw [hcast]
      generalize (roundHalfEven (|v| * 1000) : ℚ) = rounded at hround ⊢
      rw [abs_le] at hround ⊢
      by_cases hv : v < 0
      · rw [if_pos hv]
        rw [abs_of_neg hv] at hround
        constructor <;> linarith [hround.1, hround.2]
      · rw [if_neg hv]
        rw [abs_of_nonneg (not_lt.mp hv)] at hround
        constructor <;> linarith [hround.1, hround.2]
    | infinity negative => rfl
    | nan => rfl

/-- The double for a number in their range: no other is nearer. -/
def NearestDouble (v : ℚ) (x : Float64) : Prop :=
  |v| ≤ maxFinite → ∃ w, x = .finite w ∧ |w| ≤ maxFinite ∧ IsDouble w ∧
    ∀ u, IsDouble u → |w - v| ≤ |u - v|

/-- A reader that holds numbers in doubles takes this one for the value: whole
numbers up to `2⁵³` exactly, larger ones and fractions to the nearest double of
what the page denotes. -/
def Value.ReadAs : Value → Float64 → Prop
  | .u v, x => NearestDouble v x ∧ (v ≤ 2 ^ 53 → x = .finite v)
  | .i v, x => NearestDouble v x ∧ (|v| ≤ 2 ^ 53 → x = .finite v)
  | .f (.finite v), x => ∃ w, |w - v| ≤ 1 / 2000 ∧ NearestDouble w x
  | .f v, x => x = v

theorem nearestDouble_rounded (v : ℚ) : NearestDouble v (Float64.finite v).rounded := by
  intro h
  refine ⟨nearest v, ?_, abs_nearest_le h, isDouble_nearest v, fun u hu => abs_nearest_sub_le hu⟩
  rw [Float64.rounded, toDouble_eq_some h]

theorem rounded_intCast {z : ℤ} (h : |z| ≤ 2 ^ 53) :
    (Float64.finite z).rounded = .finite z := by
  rw [Float64.rounded, toDouble_intCast h]

theorem readAs_rounded {v : Value} {x : Float64} (h : v.Denotes x) : v.ReadAs x.rounded := by
  cases v with
  | u n =>
    rw [show x = .finite n from h]
    refine ⟨nearestDouble_rounded n, fun hn => ?_⟩
    exact @rounded_intCast n (by rw [abs_of_nonneg (Int.natCast_nonneg n)]; exact_mod_cast hn)
  | i z =>
    rw [show x = .finite z from h]
    exact ⟨nearestDouble_rounded z, rounded_intCast⟩
  | f v =>
    cases v with
    | finite v =>
      obtain ⟨w, rfl, hw⟩ := h
      exact ⟨w, hw, nearestDouble_rounded w⟩
    | infinity negative =>
      rw [show x = .infinity negative from h]
      rfl
    | nan =>
      rw [show x = .nan from h]
      rfl

/-- The two families say the same, each value being read as `R` allows. -/
def Same (R : Value → Float64 → Prop) (printed : Exposition.Family Value)
    (found : Exposition.Family Float64) : Prop :=
  found.name = printed.name ∧ found.kind = printed.kind ∧ found.help = printed.help ∧
    List.Forall₂ (fun s t => s.labels = t.labels ∧ R s.value t.value) printed.samples found.samples

theorem same_map {R : Value → Float64 → Prop} {f : Value → Float64} (h : ∀ v, R v (f v))
    (metrics : List (Exposition.Family Value)) :
    List.Forall₂ (Same R) metrics (metrics.map (Exposition.Family.map f)) := by
  rw [List.forall₂_map_right_iff, List.forall₂_same]
  intro m _
  refine ⟨rfl, rfl, rfl, ?_⟩
  rw [Exposition.Family.map, List.forall₂_map_right_iff, List.forall₂_same]
  exact fun sample _ => ⟨rfl, h sample.value⟩

theorem parse_renderPrometheus {number : Text → Option Float64} {f : Value → Float64}
    (h : ∀ v : Value, number v.display = some (f v)) (s : MetricsSnapshot) :
    Exposition.parse number s.renderPrometheus =
      some (s.metrics.map (Exposition.Family.map f)) := by
  rw [renderPrometheus_eq]
  exact Exposition.parse_render (metrics_wellFormed s) newline_not_mem_display h

/-- A reader of the exposition format finds on the page the metrics of the
snapshot, under their names, kinds, help texts and labels. Taken as the decimals
they are, the numbers are the counters and gauges themselves and the uptime to
the nearest millisecond; a reader that holds them in doubles gets the nearest one
of each. -/
theorem page_reads_back (loads : ℕ → Counters) (uptimeSeconds : Float64) (config : ServiceConfig) :
    (∃ found, Exposition.parse parseDecimal
        (snapshot loads uptimeSeconds config).renderPrometheus = some found ∧
      List.Forall₂ (Same Value.Denotes) (snapshot loads uptimeSeconds config).metrics found) ∧
    ∃ found, Exposition.parse parseF64
        (snapshot loads uptimeSeconds config).renderPrometheus = some found ∧
      List.Forall₂ (Same Value.ReadAs) (snapshot loads uptimeSeconds config).metrics found := by
  constructor
  · exact ⟨_, parse_renderPrometheus parseDecimal_display _, same_map denotes_shown _⟩
  · have hread (v : Value) : parseF64 v.display = some v.shown.rounded := by
      rw [parseF64, parseDecimal_display, Option.map_some]
    exact ⟨_, parse_renderPrometheus hread _,
      same_map (fun v => readAs_rounded (denotes_shown v)) _⟩

end Reprox.Metrics
