import Reprox.Config.Schema

/-!
# Loading and checking a configuration

`tryLoad` reads the document, normalises the configured names, applies the
environment and validates. A failure carries its report: the message and the
contexts wrapped around it, outermost first. The second half says what passes:
`Valid` is the meaning of `validate`, and a loaded configuration is valid and
has its names in normal form.
-/

namespace Reprox.Config

open Foundations Net

/-- An error with its contexts, outermost first. -/
abbrev Report := List Text

def ensure (p : Prop) [Decidable p] (message : Text) : Except Report Unit :=
  if p then .ok () else .error [message]

def ensureSome {α : Type} (x : Option α) (p : α → Prop) [DecidablePred p] (message : α → Text) :
    Except Report Unit :=
  match x with
  | some a => ensure (p a) (message a)
  | none => .ok ()

def withContext {α : Type} (context : Text) : Except Report α → Except Report α
  | .ok a => .ok a
  | .error report => .error (context :: report)

/-! ## Routes -/

def validateUpstream (upstream : Text) : Except Report Unit :=
  if (parseSocketAddr upstream).any (·.port != 0) then .ok ()
  else do
    ensure (Text.containsText "://".toList upstream = false)
      "must be a host:port pair, not a URL with a scheme".toList
    ensure (upstream.any Text.isWhitespace = false) "must not contain whitespace".toList
    match Text.rsplitOnce ':' upstream with
    | none => .error ["must be a host:port pair (missing ':port')".toList]
    | some (host, port) => do
      ensure (host ≠ []) "has an empty host before the ':'".toList
      ensure ('/' ∉ host) "must not contain a path".toList
      ensure (host.all fun c => Text.isAsciiAlphanumeric c || c == '.' || c == '-' || c == '_')
        ("host ".toList ++ Text.quoted host ++
          " contains characters not valid in a hostname".toList)
      match parseU16 port with
      | some n => ensure (n ≠ 0) "port 0 is not a valid upstream port".toList
      | none => .error [Text.quoted port ++ " is not a valid port number".toList]

def maxProtocolLen : ℕ := 255

def maxListLen : ℕ := 65535

/-- The loop over the protocol list; the result is the encoded length of the list. -/
def validateProtocols (i totalLen : ℕ) (seen : List Text) : List Text → Except Report ℕ
  | [] => .ok totalLen
  | proto :: protocols => do
    ensure (proto ≠ [])
      ("ALPN protocol #".toList ++ Text.ofNat i ++
        " is empty: protocol name must be 1..=".toList ++ Text.ofNat maxProtocolLen ++
        " bytes long".toList)
    ensure (proto.byteLen ≤ maxProtocolLen)
      ("ALPN protocol #".toList ++ Text.ofNat i ++ " is too long (".toList ++
        Text.ofNat proto.byteLen ++ " bytes), max is ".toList ++ Text.ofNat maxProtocolLen)
    ensure (proto ∉ seen)
      ("ALPN protocol #".toList ++ Text.ofNat i ++ " (".toList ++ Text.quoted proto ++
        ") is duplicated in the list".toList)
    validateProtocols (i + 1) (totalLen + (1 + proto.byteLen)) (proto :: seen) protocols

def validateAlpnProtocols : Option (List Text) → Except Report Unit
  | none => .ok ()
  | some protocols => do
    ensure (protocols ≠ []) "ALPN protocol list must not be empty".toList
    let totalLen ← validateProtocols 0 0 [] protocols
    ensure (totalLen ≤ maxListLen)
      ("total encoded ALPN list length ".toList ++ Text.ofNat totalLen ++
        " bytes exceeds the limit of ".toList ++ Text.ofNat maxListLen)

def validateRoutes (seen : List Text) : List ProxyTarget → Except Report Unit
  | [] => .ok ()
  | target :: routes => do
    ensure (target.sni.isBlank = false ∧ target.upstream.isBlank = false)
      "routes contains an empty string".toList
    ensure (target.sni ∉ seen) ("duplicate sni in routes: ".toList ++ Text.quoted target.sni)
    withContext ("invalid upstream for sni ".toList ++ Text.quoted target.sni)
      (validateUpstream target.upstream)
    withContext ("invalid alpn protocols for sni ".toList ++ Text.quoted target.sni)
      (validateAlpnProtocols target.alpnProtocols)
    validateRoutes (target.sni :: seen) routes

/-! ## The whole configuration -/

structure Environment where
  var : Text → Option Text
  readToString : Text → Except Report Text
  /-- `toml::from_str`. -/
  parse : Text → Except Report Document
  isFile : Text → Bool
  isDir : Text → Bool

def Float64.isPositiveFinite : Float64 → Bool
  | .finite value => 0 < value
  | .infinity _ => false
  | .nan => false

namespace ServiceConfig

def validate (cfg : ServiceConfig) (env : Environment) : Except Report Unit := do
  validateRoutes [] cfg.routes
  ensure (cfg.startHandshakeTimeoutSecs ≠ 0)
    "start_handshake_timeout_secs must be greater than 0".toList
  ensure (cfg.handshakeTimeoutSecs ≠ 0) "handshake_timeout_secs must be greater than 0".toList
  ensure (env.isFile cfg.tlsCertPath)
    ("tls_cert_path not found: ".toList ++ Text.quoted cfg.tlsCertPath)
  ensure (env.isFile cfg.tlsKeyPath)
    ("tls_key_path not found: ".toList ++ Text.quoted cfg.tlsKeyPath)
  ensure (env.isDir cfg.staticDir)
    ("static_dir not found or is not a directory: ".toList ++ Text.quoted cfg.staticDir)
  ensure (cfg.tlsMinVersion = "1.2".toList ∨ cfg.tlsMinVersion = "1.3".toList)
    ("tls_min_version must be \"1.2\" or \"1.3\", got ".toList ++ Text.quoted cfg.tlsMinVersion)
  ensureSome cfg.metricsAddr (fun addr => addr.ip.isLoopback) fun addr =>
    "metrics_addr must be a loopback address (127.0.0.1/::1), got ".toList ++ addr.display
  ensure (cfg.maxConnections ≠ 0) "max_connections must be greater than 0".toList
  ensureSome cfg.connectionRatePerIp (fun rate => rate.isPositiveFinite) fun _ =>
    "connection_rate_per_ip must be positive".toList
  ensureSome cfg.connectionBurstPerIp (fun burst => 1 ≤ burst) fun _ =>
    "connection_burst_per_ip must be at least 1".toList

end ServiceConfig

/-- The normal form of a host name: trailing dots stripped, ASCII lowercase. -/
def norm (name : Text) : Text := (name.trimEndMatches '.').toAsciiLowercase

def ProxyTarget.normalize (target : ProxyTarget) : ProxyTarget :=
  { target with sni := norm target.sni }

def configPath (env : Environment) : Text :=
  (env.var "REPROX_CONFIG".toList).getD "config.toml".toList

def readDocument (env : Environment) : Except Report Document := do
  let raw ← withContext ("failed to read config file ".toList ++ configPath env)
    (env.readToString (configPath env))
  withContext ("failed to parse config file ".toList ++ configPath env) (env.parse raw)

namespace ServiceConfig

def tryLoad (env : Environment) : Except Report ServiceConfig := do
  let document ← readDocument env
  let cfg := document.deserialize
  let cfg := { cfg with routes := cfg.routes.map ProxyTarget.normalize }
  let cfg := cfg.applyEnvOverrides env.var
  cfg.validate env
  pure cfg

end ServiceConfig

/-! ## What passes -/

@[simp] theorem ensure_eq_ok {p : Prop} [Decidable p] {message : Text} {u : Unit} :
    ensure p message = .ok u ↔ p := by
  unfold ensure
  split_ifs with h <;> simp [h]

@[simp] theorem ensureSome_eq_ok {α : Type} {x : Option α} {p : α → Prop} [DecidablePred p]
    {message : α → Text} {u : Unit} :
    ensureSome x p message = .ok u ↔ ∀ a, x = some a → p a := by
  cases x <;> simp [ensureSome]

@[simp] theorem withContext_eq_ok {α : Type} {context : Text} {x : Except Report α} {a : α} :
    withContext context x = .ok a ↔ x = .ok a := by
  cases x <;> simp [withContext]

@[simp] theorem bind_eq_ok {ε α β : Type} {x : Except ε α} {f : α → Except ε β} {b : β} :
    x >>= f = .ok b ↔ ∃ a, x = .ok a ∧ f a = .ok b := by
  cases x with
  | error report => simp [bind, Except.bind]
  | ok a => simp [bind, Except.bind]

/-- What a host must look like: not empty and made of hostname characters. -/
def PlausibleHost (host : Text) : Prop :=
  host ≠ [] ∧ ∀ c ∈ host, Text.isAsciiAlphanumeric c ∨ c = '.' ∨ c = '-' ∨ c = '_'

/-- An upstream is a socket address or a `host:port` pair, with a port that is not zero. -/
def WellFormedUpstream (upstream : Text) : Prop :=
  (∃ addr, parseSocketAddr upstream = some addr ∧ addr.port ≠ 0) ∨
    ∃ host port n, Text.rsplitOnce ':' upstream = some (host, port) ∧ PlausibleHost host ∧
      parseU16 port = some n ∧ n ≠ 0

theorem wellFormedUpstream_of_ok {upstream : Text} (h : validateUpstream upstream = .ok ()) :
    WellFormedUpstream upstream := by
  unfold validateUpstream at h
  split_ifs at h with hliteral
  · left
    cases haddr : parseSocketAddr upstream with
    | none => simp [haddr] at hliteral
    | some addr =>
      simp only [haddr, Option.any_some, bne_iff_ne] at hliteral
      exact ⟨addr, rfl, hliteral⟩
  · simp only [bind_eq_ok, ensure_eq_ok] at h
    obtain ⟨-, -, -, -, h⟩ := h
    right
    cases hsplit : Text.rsplitOnce ':' upstream with
    | none => simp [hsplit] at h
    | some parts =>
      obtain ⟨host, port⟩ := parts
      simp only [hsplit, bind_eq_ok, ensure_eq_ok] at h
      obtain ⟨-, hhost, -, -, -, hchars, h⟩ := h
      cases hport : parseU16 port with
      | none => simp [hport] at h
      | some n =>
        simp only [hport, ensure_eq_ok] at h
        exact ⟨host, port, n, rfl, ⟨hhost, by simpa [or_assoc] using hchars⟩, hport, h⟩

structure WellFormedNames (seen protocols : List Text) : Prop where
  sizes : ∀ proto ∈ protocols, proto ≠ [] ∧ proto.byteLen ≤ maxProtocolLen
  nodup : protocols.Nodup
  fresh : ∀ proto ∈ protocols, proto ∉ seen

theorem validateProtocols_ok {i start : ℕ} {seen protocols : List Text} {len : ℕ}
    (h : validateProtocols i start seen protocols = .ok len) :
    WellFormedNames seen protocols ∧
      len = start + (protocols.map fun proto => 1 + proto.byteLen).sum := by
  induction protocols generalizing i start seen with
  | nil =>
    cases h
    exact ⟨⟨by simp, by simp, by simp⟩, by simp⟩
  | cons proto protocols ih =>
    simp only [validateProtocols, bind_eq_ok, ensure_eq_ok] at h
    obtain ⟨-, hne, -, hlen, -, hfresh, h⟩ := h
    obtain ⟨hrest, hsum⟩ := ih h
    refine ⟨⟨?_, ?_, ?_⟩, ?_⟩
    · intro p hp
      rcases List.mem_cons.mp hp with rfl | hp
      · exact ⟨hne, hlen⟩
      · exact hrest.sizes p hp
    · rw [List.nodup_cons]
      refine ⟨?_, hrest.nodup⟩
      intro hmem
      exact hrest.fresh proto hmem List.mem_cons_self
    · intro p hp
      rcases List.mem_cons.mp hp with rfl | hp
      · exact hfresh
      · intro hseen
        exact hrest.fresh p hp (List.mem_cons_of_mem proto hseen)
    · rw [hsum, List.map_cons, List.sum_cons]
      omega

structure WellFormedAlpn (protocols : List Text) : Prop where
  nonempty : protocols ≠ []
  names : WellFormedNames [] protocols
  length_le : (protocols.map fun proto => 1 + proto.byteLen).sum ≤ maxListLen

theorem wellFormedAlpn_of_ok {protocols : List Text}
    (h : validateAlpnProtocols (some protocols) = .ok ()) : WellFormedAlpn protocols := by
  simp only [validateAlpnProtocols, bind_eq_ok, ensure_eq_ok] at h
  obtain ⟨-, hne, len, hloop, hle⟩ := h
  obtain ⟨hnames, hsum⟩ := validateProtocols_ok hloop
  refine ⟨hne, hnames, ?_⟩
  omega

structure ProxyTarget.Valid (target : ProxyTarget) : Prop where
  sni_not_blank : target.sni.isBlank = false
  upstream : WellFormedUpstream target.upstream
  alpn : ∀ protocols, target.alpnProtocols = some protocols → WellFormedAlpn protocols

structure ProxyTarget.Checked (target : ProxyTarget) : Prop where
  sni_not_blank : target.sni.isBlank = false
  upstream_not_blank : target.upstream.isBlank = false
  upstream : validateUpstream target.upstream = .ok ()
  alpn : validateAlpnProtocols target.alpnProtocols = .ok ()

theorem ProxyTarget.Checked.valid {target : ProxyTarget} (h : target.Checked) : target.Valid := by
  refine ⟨h.sni_not_blank, wellFormedUpstream_of_ok h.upstream, ?_⟩
  intro protocols hprotocols
  have halpn := h.alpn
  rw [hprotocols] at halpn
  exact wellFormedAlpn_of_ok halpn

theorem validateRoutes_eq_ok {seen : List Text} {routes : List ProxyTarget} :
    validateRoutes seen routes = .ok () ↔
      (∀ target ∈ routes, target.Checked ∧ target.sni ∉ seen) ∧
        (routes.map ProxyTarget.sni).Nodup := by
  induction routes generalizing seen with
  | nil => simp [validateRoutes]
  | cons target routes ih =>
    simp only [validateRoutes, bind_eq_ok, ensure_eq_ok, withContext_eq_ok, ih, List.map_cons,
      List.nodup_cons, List.mem_map]
    constructor
    · rintro ⟨-, ⟨hsni, hblank⟩, -, hfresh, ⟨⟩, hupstream, ⟨⟩, halpn, hrest, hnodup⟩
      refine ⟨?_, ?_, hnodup⟩
      · intro t ht
        rcases List.mem_cons.mp ht with rfl | ht
        · exact ⟨⟨hsni, hblank, hupstream, halpn⟩, hfresh⟩
        · refine ⟨(hrest t ht).1, ?_⟩
          intro hseen
          exact (hrest t ht).2 (List.mem_cons_of_mem _ hseen)
      · rintro ⟨t, ht, heq⟩
        apply (hrest t ht).2
        rw [heq]
        exact List.mem_cons_self
    · rintro ⟨hall, hnew, hnodup⟩
      obtain ⟨hchecked, hfresh⟩ := hall target List.mem_cons_self
      refine ⟨(), ⟨hchecked.sni_not_blank, hchecked.upstream_not_blank⟩, (), hfresh, (),
        hchecked.upstream, (), hchecked.alpn, ?_, hnodup⟩
      intro t ht
      obtain ⟨htail, hunseen⟩ := hall t (List.mem_cons_of_mem target ht)
      refine ⟨htail, ?_⟩
      intro hmem
      rcases List.mem_cons.mp hmem with heq | hseen
      · exact hnew ⟨t, ht, heq⟩
      · exact hunseen hseen

namespace ServiceConfig

structure Valid (cfg : ServiceConfig) (env : Environment) : Prop where
  routes : ∀ target ∈ cfg.routes, target.Valid
  snis_nodup : (cfg.routes.map ProxyTarget.sni).Nodup
  start_handshake_timeout_pos : cfg.startHandshakeTimeoutSecs ≠ 0
  handshake_timeout_pos : cfg.handshakeTimeoutSecs ≠ 0
  cert_is_file : env.isFile cfg.tlsCertPath
  key_is_file : env.isFile cfg.tlsKeyPath
  static_dir_is_dir : env.isDir cfg.staticDir
  tls_min_version : cfg.tlsMinVersion = "1.2".toList ∨ cfg.tlsMinVersion = "1.3".toList
  metrics_loopback : ∀ addr, cfg.metricsAddr = some addr → addr.ip.isLoopback
  max_connections_pos : cfg.maxConnections ≠ 0
  rate_pos : ∀ rate, cfg.connectionRatePerIp = some rate → rate.isPositiveFinite
  burst_pos : ∀ burst, cfg.connectionBurstPerIp = some burst → 1 ≤ burst

theorem valid_of_validate {cfg : ServiceConfig} {env : Environment}
    (h : cfg.validate env = .ok ()) : cfg.Valid env := by
  simp only [validate, bind_eq_ok, ensure_eq_ok, ensureSome_eq_ok] at h
  obtain ⟨⟨⟩, hroutes, -, hstart, -, hhandshake, -, hcert, -, hkey, -, hdir, -, htls, -, hmetrics,
    -, hmax, -, hrate, hburst⟩ := h
  obtain ⟨hchecked, hnodup⟩ := validateRoutes_eq_ok.mp hroutes
  exact ⟨fun target ht => (hchecked target ht).1.valid, hnodup, hstart, hhandshake, hcert, hkey, hdir,
    htls, hmetrics, hmax, hrate, hburst⟩

/-- What a loaded configuration is made of: the document's routes in normal
form and in order, and every check passed. -/
theorem tryLoad_eq_ok {env : Environment} {cfg : ServiceConfig} (h : tryLoad env = .ok cfg) :
    ∃ document, readDocument env = .ok document ∧
      cfg.routes = document.routes.map (fun r => r.deserialize.normalize) ∧
      cfg.validate env = .ok () := by
  simp only [tryLoad, bind_eq_ok] at h
  obtain ⟨document, hread, ⟨⟩, hvalidate, hcfg⟩ := h
  cases hcfg
  refine ⟨document, hread, ?_, hvalidate⟩
  simp [Document.deserialize]

end ServiceConfig

/-! ## The order of the routes -/

structure Environment.SameAround (env env' : Environment) : Prop where
  var : env'.var = env.var
  isFile : env'.isFile = env.isFile
  isDir : env'.isDir = env.isDir

namespace ServiceConfig

theorem validate_reorder {cfg : ServiceConfig} {env env' : Environment} {routes : List ProxyTarget}
    (haround : env.SameAround env') (hperm : routes.Perm cfg.routes)
    (h : cfg.validate env = .ok ()) : ({ cfg with routes } : ServiceConfig).validate env' = .ok () := by
  simp only [validate, bind_eq_ok, haround.isFile, haround.isDir] at h ⊢
  obtain ⟨⟨⟩, hroutes, hrest⟩ := h
  obtain ⟨hchecked, hnodup⟩ := validateRoutes_eq_ok.mp hroutes
  refine ⟨(), validateRoutes_eq_ok.mpr ⟨?_, ?_⟩, hrest⟩
  · intro target ht
    exact hchecked target (hperm.subset ht)
  · exact (hperm.map ProxyTarget.sni).nodup_iff.mpr hnodup

def ofDocument (document : Document) (var : Text → Option Text) : ServiceConfig :=
  ({ document.deserialize with
    routes := document.deserialize.routes.map ProxyTarget.normalize } : ServiceConfig).applyEnvOverrides var

theorem tryLoad_of_readDocument {env : Environment} {document : Document} {cfg : ServiceConfig}
    (hread : readDocument env = .ok document) :
    tryLoad env = .ok cfg ↔ ofDocument document env.var = cfg ∧ cfg.validate env = .ok () := by
  simp only [tryLoad, hread, bind_eq_ok, Except.ok.injEq, exists_eq_left']
  constructor
  · rintro ⟨⟨⟩, hvalidate, hcfg⟩
    cases hcfg
    exact ⟨rfl, hvalidate⟩
  · rintro ⟨rfl, hvalidate⟩
    exact ⟨(), hvalidate, rfl⟩

theorem ofDocument_routes (document : Document) (listed : List RawTarget)
    (var : Text → Option Text) :
    ofDocument { document with routes := listed } var =
      { ofDocument document var with routes := listed.map fun r => r.deserialize.normalize } := by
  have hmap : (listed.map RawTarget.deserialize).map ProxyTarget.normalize =
      listed.map fun r => r.deserialize.normalize := List.map_map
  rw [← hmap]
  rfl

theorem tryLoad_reorder {env env' : Environment} {document : Document} {cfg : ServiceConfig}
    {listed : List RawTarget} (haround : env.SameAround env')
    (hread : readDocument env = .ok document) (hload : tryLoad env = .ok cfg)
    (hread' : readDocument env' = .ok { document with routes := listed })
    (hperm : listed.Perm document.routes) :
    tryLoad env' = .ok { cfg with routes := listed.map fun r => r.deserialize.normalize } := by
  obtain ⟨rfl, hvalidate⟩ := (tryLoad_of_readDocument hread).mp hload
  have hroutes : (listed.map fun r => r.deserialize.normalize).Perm
      (ofDocument document env.var).routes := by
    rw [show (ofDocument document env.var).routes =
      document.routes.map fun r => r.deserialize.normalize from List.map_map]
    exact hperm.map _
  rw [tryLoad_of_readDocument hread', haround.var, ofDocument_routes]
  exact ⟨rfl, validate_reorder haround hroutes hvalidate⟩

end ServiceConfig

/-! ## Changes a reload cannot apply -/

structure Warning where
  message : Text
  old : Text
  new : Text
  deriving DecidableEq, Repr

/-- One comparison: a warning when the field differs in what equality sees of it. -/
def warnIfChanged {α κ : Type} [DecidableEq κ] (field : ServiceConfig → α) (seen : α → κ)
    (display : α → Text) (message : String) (cfg new : ServiceConfig) : List Warning :=
  if seen (field cfg) ≠ seen (field new) then
    [⟨message.toList, display (field cfg), display (field new)⟩]
  else []

def debugAddr : Option SocketAddr → Text
  | some addr => "Some(".toList ++ addr.display ++ [')']
  | none => "None".toList

/-- `static_dir` is a `PathBuf`, which is compared by its components. -/
def ServiceConfig.warnAboutUnreloadableChanges (cfg new : ServiceConfig) : List Warning :=
  warnIfChanged listenAddr id SocketAddr.display
    ("listen_addr changed in config.toml, but SIGHUP can't rebind the listener — " ++
      "restart the process to apply this") cfg new ++
  warnIfChanged metricsAddr id debugAddr
    ("metrics_addr changed in config.toml, but SIGHUP can't rebind the metrics listener — " ++
      "restart the process to apply this") cfg new ++
  warnIfChanged tlsMinVersion id id
    ("tls_min_version changed in config.toml, but SIGHUP only swaps the certificate," ++
      "not the negotiated TLS versions — restart the process to apply this") cfg new ++
  warnIfChanged maxConnections id (fun n => Text.ofNat n.toNat)
    ("max_connections changed in config.toml, but SIGHUP can't resize " ++
      "the connection-slot limiter — restart the process to apply this") cfg new ++
  warnIfChanged staticDir Text.components Text.quoted
    ("static_dir changed in config.toml, but SIGHUP doesn't reload " ++
      "the in-memory static site — restart the process to apply this") cfg new

/-- An environment without variables, whose configuration file is the given
document and in which every path exists. -/
def Environment.providing (document : Document) : Environment where
  var _ := none
  readToString _ := .ok []
  parse _ := .ok document
  isFile _ := true
  isDir _ := true

def minimalDocument (sni : String) : Document where
  listenAddr := .v4 ⟨0, 0, 0, 0⟩ 443
  routes := [⟨sni.toList, "127.0.0.1:8080".toList, none, none⟩]
  tlsCertPath := "cert.pem".toList
  tlsKeyPath := "key.pem".toList
  staticDir := "static".toList
  serverHeader := none
  startHandshakeTimeoutSecs := none
  handshakeTimeoutSecs := none
  tlsMinVersion := none
  metricsAddr := none
  maxConnections := none
  maxConnectionsPerIp := none
  connectionRatePerIp := none
  connectionBurstPerIp := none

end Reprox.Config
