import Mathlib.Tactic

/-!
# The counters of the process

The counters and gauges that connections move. Totals only grow and are
naturals here; the two gauges are signed, as in the source. Every update below
is one atomic operation; `ActiveGuard` updates three of them one after the
other when it is dropped.
-/

namespace Reprox.Metrics

inductive Route where
  | proxied
  | fallback
  deriving DecidableEq, Repr

inductive Rejection where
  | rateLimit
  | ipLimit
  deriving DecidableEq, Repr

structure RouteStats where
  total : ℕ
  active : ℤ
  completed : ℕ
  durationMs : ℕ
  deriving DecidableEq, Repr

/-- What became of the ALPN negotiation on the fallback site. -/
inductive Alpn where
  | h2
  | http1
  | none
  deriving DecidableEq, Repr

/-- The connection counters; `Stats::connections` lives in the connection limiter. -/
structure Stats where
  proxied : RouteStats
  fallback : RouteStats
  rejectedIpLimit : ℕ
  rejectedRateLimit : ℕ
  probeTimeout : ℕ
  probeIoError : ℕ
  sniPresent : ℕ
  sniAbsent : ℕ
  proxyBytesClientToService : ℕ
  proxyBytesServiceToClient : ℕ
  proxyServiceConnectFailures : ℕ
  proxyServiceConnectRetries : ℕ
  proxyTlsHandshakeSuccess : ℕ
  proxyTlsHandshakeFailure : ℕ
  fallbackTlsHandshakeSuccess : ℕ
  fallbackTlsHandshakeFailure : ℕ
  fallbackAlpnH2 : ℕ
  fallbackAlpnHttp1 : ℕ
  fallbackAlpnNone : ℕ
  deriving DecidableEq, Repr

def RouteStats.new : RouteStats := ⟨0, 0, 0, 0⟩

namespace Stats

def new : Stats := ⟨.new, .new, 0, 0, 0, 0, 0, 0, 0, 0, 0, 0, 0, 0, 0, 0, 0, 0, 0⟩

def ofRoute (st : Stats) : Route → RouteStats
  | .proxied => st.proxied
  | .fallback => st.fallback

/-- One atomic update of the counters of a route. -/
def onRoute (st : Stats) (route : Route) (f : RouteStats → RouteStats) : Stats :=
  match route with
  | .proxied => { st with proxied := f st.proxied }
  | .fallback => { st with fallback := f st.fallback }

def countRejection (st : Stats) : Rejection → Stats
  | .rateLimit => { st with rejectedRateLimit := st.rejectedRateLimit + 1 }
  | .ipLimit => { st with rejectedIpLimit := st.rejectedIpLimit + 1 }

def countSni (st : Stats) (present : Bool) : Stats :=
  if present then { st with sniPresent := st.sniPresent + 1 }
  else { st with sniAbsent := st.sniAbsent + 1 }

def countProbe (st : Stats) (timedOut : Bool) : Stats :=
  if timedOut then { st with probeTimeout := st.probeTimeout + 1 }
  else { st with probeIoError := st.probeIoError + 1 }

def countHandshake (st : Stats) (route : Route) (success : Bool) : Stats :=
  match route, success with
  | .proxied, true => { st with proxyTlsHandshakeSuccess := st.proxyTlsHandshakeSuccess + 1 }
  | .proxied, false => { st with proxyTlsHandshakeFailure := st.proxyTlsHandshakeFailure + 1 }
  | .fallback, true =>
    { st with fallbackTlsHandshakeSuccess := st.fallbackTlsHandshakeSuccess + 1 }
  | .fallback, false =>
    { st with fallbackTlsHandshakeFailure := st.fallbackTlsHandshakeFailure + 1 }

def countAlpn (st : Stats) (alpn : Alpn) : Stats :=
  match alpn with
  | .h2 => { st with fallbackAlpnH2 := st.fallbackAlpnH2 + 1 }
  | .http1 => { st with fallbackAlpnHttp1 := st.fallbackAlpnHttp1 + 1 }
  | .none => { st with fallbackAlpnNone := st.fallbackAlpnNone + 1 }

end Stats

/-! ## Atomic updates of a route's counters -/

namespace RouteStats

/-- The first update of `begin_proxied` and `begin_fallback`. -/
def countTotal (r : RouteStats) : RouteStats := { r with total := r.total + 1 }

/-- Their second update. -/
def enter (r : RouteStats) : RouteStats := { r with active := r.active + 1 }

/-- The three updates of `ActiveGuard::drop`, in order. -/
def leave (r : RouteStats) : RouteStats := { r with active := r.active - 1 }

def countCompleted (r : RouteStats) : RouteStats := { r with completed := r.completed + 1 }

def addDuration (r : RouteStats) (ms : ℕ) : RouteStats := { r with durationMs := r.durationMs + ms }

end RouteStats

/-! ## Requests of the fallback site -/

structure HttpStats where
  httpMethodGet : ℕ
  httpMethodHead : ℕ
  httpMethodOptions : ℕ
  httpMethodOther : ℕ
  httpStatus200 : ℕ
  httpStatus204 : ℕ
  httpStatus304 : ℕ
  httpStatus404 : ℕ
  httpStatus405 : ℕ
  httpStatusOther : ℕ
  httpBytesSent : ℕ
  deriving DecidableEq, Repr

namespace HttpStats

def new : HttpStats := ⟨0, 0, 0, 0, 0, 0, 0, 0, 0, 0, 0⟩

def countStatus (st : HttpStats) : ℕ → HttpStats
  | 200 => { st with httpStatus200 := st.httpStatus200 + 1 }
  | 204 => { st with httpStatus204 := st.httpStatus204 + 1 }
  | 304 => { st with httpStatus304 := st.httpStatus304 + 1 }
  | 404 => { st with httpStatus404 := st.httpStatus404 + 1 }
  | 405 => { st with httpStatus405 := st.httpStatus405 + 1 }
  | _ => { st with httpStatusOther := st.httpStatusOther + 1 }

def methods (st : HttpStats) : ℕ :=
  st.httpMethodGet + st.httpMethodHead + st.httpMethodOptions + st.httpMethodOther

def statuses (st : HttpStats) : ℕ :=
  st.httpStatus200 + st.httpStatus204 + st.httpStatus304 + st.httpStatus404 + st.httpStatus405 +
    st.httpStatusOther

theorem countStatus_spec (st : HttpStats) (status : ℕ) :
    (st.countStatus status).statuses = st.statuses + 1 ∧
      (st.countStatus status).methods = st.methods ∧
        (st.countStatus status).httpBytesSent = st.httpBytesSent := by
  unfold countStatus
  split <;> simp only [statuses, methods, and_true] <;> omega

end HttpStats

end Reprox.Metrics
