import Reprox.Net.Address
import Reprox.Foundations.MachineNumbers
import Reprox.Foundations.Quoted

/-!
# The configuration

The configuration as the rest of the program sees it, the document it is read
from, and the two passes that fill it in: defaults for what the document leaves
out, and the environment variables that override single fields. The TOML reader
is not modelled; a document is what it hands over.
-/

namespace Reprox.Config

open Foundations Net

/-- An `f64`, with its finite values read as exact rationals. -/
inductive Float64 where
  | finite (value : ℚ)
  | infinity (negative : Bool)
  | nan
  deriving DecidableEq, Repr

/-- One `[[routes]]` entry. A protocol name stands for its UTF-8 bytes. -/
structure ProxyTarget where
  sni : Text
  upstream : Text
  alpnProtocols : Option (List Text)
  tlsPassthrough : Bool
  deriving DecidableEq, Repr

structure ServiceConfig where
  listenAddr : SocketAddr
  routes : List ProxyTarget
  tlsCertPath : Text
  tlsKeyPath : Text
  staticDir : Text
  serverHeader : Text
  startHandshakeTimeoutSecs : UInt64
  handshakeTimeoutSecs : UInt64
  tlsMinVersion : Text
  metricsAddr : Option SocketAddr
  maxConnections : Usize
  maxConnectionsPerIp : Option Usize
  connectionRatePerIp : Option Float64
  connectionBurstPerIp : Option UInt64
  deriving DecidableEq, Repr

/-! ## Defaults -/

def defaultServerHeader : Text := "nginx/1.26.2 (Ubuntu)".toList

def defaultStartHandshakeTimeout : UInt64 := 10

def defaultHandshakeTimeout : UInt64 := 10

def defaultTlsMinVersion : Text := "1.2".toList

def defaultMaxConnections : Usize := 10000

def defaultTlsPassthrough : Bool := true

structure RawTarget where
  sni : Text
  upstream : Text
  alpnProtocols : Option (List Text)
  tlsPassthrough : Option Bool
  deriving DecidableEq, Repr

structure Document where
  listenAddr : SocketAddr
  routes : List RawTarget
  tlsCertPath : Text
  tlsKeyPath : Text
  staticDir : Text
  serverHeader : Option Text
  startHandshakeTimeoutSecs : Option UInt64
  handshakeTimeoutSecs : Option UInt64
  tlsMinVersion : Option Text
  metricsAddr : Option SocketAddr
  maxConnections : Option Usize
  maxConnectionsPerIp : Option Usize
  connectionRatePerIp : Option Float64
  connectionBurstPerIp : Option UInt64
  deriving DecidableEq, Repr

def RawTarget.deserialize (r : RawTarget) : ProxyTarget where
  sni := r.sni
  upstream := r.upstream
  alpnProtocols := r.alpnProtocols
  tlsPassthrough := r.tlsPassthrough.getD defaultTlsPassthrough

def Document.deserialize (d : Document) : ServiceConfig where
  listenAddr := d.listenAddr
  routes := d.routes.map RawTarget.deserialize
  tlsCertPath := d.tlsCertPath
  tlsKeyPath := d.tlsKeyPath
  staticDir := d.staticDir
  serverHeader := d.serverHeader.getD defaultServerHeader
  startHandshakeTimeoutSecs := d.startHandshakeTimeoutSecs.getD defaultStartHandshakeTimeout
  handshakeTimeoutSecs := d.handshakeTimeoutSecs.getD defaultHandshakeTimeout
  tlsMinVersion := d.tlsMinVersion.getD defaultTlsMinVersion
  metricsAddr := d.metricsAddr
  maxConnections := d.maxConnections.getD defaultMaxConnections
  maxConnectionsPerIp := d.maxConnectionsPerIp
  connectionRatePerIp := d.connectionRatePerIp
  connectionBurstPerIp := d.connectionBurstPerIp

/-! ## Environment variables -/

def readExponent : Text → Option ℤ
  | [] => some 0
  | c :: s =>
    if c.toLower ≠ 'e' then none
    else
      let (sign, digits) : ℤ × Text :=
        match s with
        | '+' :: t => (1, t)
        | '-' :: t => (-1, t)
        | t => (1, t)
      match readDigits 10 digits with
      | ([], _) => none
      | (ds, []) => some (sign * ofDigits 10 ds)
      | (_, _ :: _) => none

/-- The numbers `f64::from_str` reads, as the exact values they denote. -/
def parseDecimal (s : Text) : Option Float64 :=
  let (negative, body) : Bool × Text :=
    match s with
    | '+' :: t => (false, t)
    | '-' :: t => (true, t)
    | t => (false, t)
  let word := body.toAsciiLowercase
  if word = "nan".toList then some .nan
  else if word = "inf".toList ∨ word = "infinity".toList then some (.infinity negative)
  else do
    let (whole, rest) := readDigits 10 body
    let (fraction, rest) :=
      match rest with
      | '.' :: t => readDigits 10 t
      | t => ([], t)
    if whole = [] ∧ fraction = [] then none
    else
      let exponent ← readExponent rest
      let magnitude : ℚ := ofDigits 10 (whole ++ fraction) * 10 ^ (exponent - fraction.length)
      some (.finite (if negative then -magnitude else magnitude))

/-- The nearest double; from half a place above the largest one on, an infinity. -/
def Float64.rounded : Float64 → Float64
  | .finite v =>
    match Binary64.toDouble v with
    | some w => .finite w
    | none => .infinity (decide (v < 0))
  | x => x

def parseF64 (s : Text) : Option Float64 := (parseDecimal s).map Float64.rounded

example : parseF64 "-12.5e-1".toList = some (.finite (-5 / 4)) ∧
    parseF64 "1e400".toList = some (.infinity false) ∧
    parseF64 "1e-400".toList = some (.finite 0) := by
  decide +kernel

namespace ServiceConfig

/-- A field keeps its value unless the variable is set and can be read. -/
def override {α : Type} (var : Text → Option Text) (name : String) (parse : Text → Option α)
    (value : α) : α :=
  ((var name.toList).bind parse).getD value

/-- `apply_env_overrides`; `routes` and `start_handshake_timeout_secs` have no variable. -/
def applyEnvOverrides (cfg : ServiceConfig) (var : Text → Option Text) : ServiceConfig :=
  { cfg with
    listenAddr := override var "REPROX_LISTEN_ADDR" parseSocketAddr cfg.listenAddr
    tlsCertPath := override var "REPROX_TLS_CERT_PATH" some cfg.tlsCertPath
    tlsKeyPath := override var "REPROX_TLS_KEY_PATH" some cfg.tlsKeyPath
    staticDir := override var "REPROX_STATIC_DIR" some cfg.staticDir
    serverHeader := override var "REPROX_SERVER_HEADER" some cfg.serverHeader
    handshakeTimeoutSecs :=
      override var "REPROX_HANDSHAKE_TIMEOUT_SECS" parseU64 cfg.handshakeTimeoutSecs
    tlsMinVersion := override var "REPROX_TLS_MIN_VERSION" some cfg.tlsMinVersion
    metricsAddr :=
      override var "REPROX_METRICS_ADDR" (fun v => (parseSocketAddr v).map some) cfg.metricsAddr
    maxConnections := override var "REPROX_MAX_CONNECTIONS" parseU64 cfg.maxConnections
    maxConnectionsPerIp :=
      override var "REPROX_MAX_CONNECTIONS_PER_IP" (fun v => (parseU64 v).map some)
        cfg.maxConnectionsPerIp
    connectionRatePerIp :=
      override var "REPROX_CONNECTION_RATE_PER_IP" (fun v => (parseF64 v).map some)
        cfg.connectionRatePerIp
    connectionBurstPerIp :=
      override var "REPROX_CONNECTION_BURST_PER_IP" (fun v => (parseU64 v).map some)
        cfg.connectionBurstPerIp }

@[simp] theorem applyEnvOverrides_routes (cfg : ServiceConfig) (var : Text → Option Text) :
    (cfg.applyEnvOverrides var).routes = cfg.routes := rfl

/-! ## Values handed to the limiters -/

/-- `max_connections_per_ip.unwrap_or(0)`. -/
def ipLimit (cfg : ServiceConfig) : Usize := cfg.maxConnectionsPerIp.getD 0

/-- `connection_rate_per_ip.unwrap_or(0.0)`; only finite rates pass `validate`. -/
def rateLimit (cfg : ServiceConfig) : ℚ :=
  match cfg.connectionRatePerIp with
  | some (.finite rate) => rate
  | _ => 0

/-- `connection_burst_per_ip.unwrap_or(10)`. -/
def rateBurst (cfg : ServiceConfig) : ℕ := (cfg.connectionBurstPerIp.getD 10).toNat

end ServiceConfig

end Reprox.Config
