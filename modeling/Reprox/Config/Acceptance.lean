import Reprox.Config.Upstream
import Reprox.Config.Alpn
import Reprox.Foundations.Checks

/-!
# What loads, and why the rest does not

Loading succeeds on exactly the documents whose configuration is valid, and
what it reports otherwise is true: the report names the first fault in the order
of the checks, and everything checked before it is in order.
-/

namespace Reprox.Config

open Foundations Net

/-! ## Upstreams are never blank -/

theorem not_isBlank_of_mem {s : Text} {c : Char} (hmem : c ∈ s) (hc : Text.isWhitespace c = false) :
    s.isBlank = false := by
  rw [Text.isBlank, List.all_eq_false]
  exact ⟨c, hmem, by simp [hc]⟩

/-- A literal starts with a digit or with a bracket. -/
theorem head_of_parseSocketAddr {s : Text} {addr : SocketAddr} (h : parseSocketAddr s = some addr) :
    ∃ c ∈ s, c.isDigit = true ∨ c = '[' := by
  cases s with
  | nil =>
    have hnone : parseSocketAddr [] = none := by decide
    rw [hnone] at h
    cases h
  | cons c s =>
    refine ⟨c, List.mem_cons_self, ?_⟩
    by_contra hother
    obtain ⟨hdigit, hbracket⟩ := not_or.mp hother
    have hnumber : readNumber 10 (some 3) false 255 (c :: s) = none := by
      simp [readNumber, readDigits, toDigit_ten, hdigit]
    have hv4 : readSocketAddrV4 (c :: s) = none := by
      simp [readSocketAddrV4, readIpv4Addr, readSeparator, hnumber]
    have hv6 : readSocketAddrV6 (c :: s) = none := by
      simp [readSocketAddrV6, readGivenChar, hbracket]
    rw [parseSocketAddr, hv4, hv6] at h
    cases h

theorem WellFormedUpstream.not_blank {upstream : Text} (h : WellFormedUpstream upstream) :
    upstream.isBlank = false := by
  rcases h with ⟨addr, haddr, -⟩ | ⟨host, port, n, hsplit, -⟩
  · obtain ⟨c, hmem, hc⟩ := head_of_parseSocketAddr haddr
    rcases hc with hdigit | rfl
    · exact not_isBlank_of_mem hmem (isUpstreamChar_of_isDigit hdigit).not_isWhitespace
    · exact not_isBlank_of_mem hmem (by decide)
  · obtain ⟨rfl, -⟩ := Text.rsplitOnce_eq_some_iff.mp hsplit
    exact not_isBlank_of_mem (List.mem_append_right host List.mem_cons_self) (by decide)

/-! ## What loads -/

theorem ProxyTarget.checked_iff_valid {target : ProxyTarget} : target.Checked ↔ target.Valid := by
  refine ⟨ProxyTarget.Checked.valid, fun h => ?_⟩
  refine ⟨h.sni_not_blank, h.upstream.not_blank,
    validateUpstream_ok_iff_wellFormed.mpr h.upstream, ?_⟩
  cases hprotocols : target.alpnProtocols with
  | none => rfl
  | some protocols => exact validateAlpnProtocols_eq_ok.mpr (h.alpn protocols hprotocols)

namespace ServiceConfig

theorem validate_eq_ok {cfg : ServiceConfig} {env : Environment} :
    cfg.validate env = .ok () ↔ cfg.Valid env := by
  refine ⟨valid_of_validate, fun h => ?_⟩
  have hroutes : validateRoutes [] cfg.routes = .ok () :=
    validateRoutes_eq_ok.mpr ⟨fun target ht =>
      ⟨ProxyTarget.checked_iff_valid.mpr (h.routes target ht), List.not_mem_nil⟩, h.snis_nodup⟩
  simp only [validate, bind_eq_ok, ensure_eq_ok, ensureSome_eq_ok]
  exact ⟨(), hroutes, (), h.start_handshake_timeout_pos, (), h.handshake_timeout_pos, (),
    h.cert_is_file, (), h.key_is_file, (), h.static_dir_is_dir, (), h.tls_min_version, (),
    h.metrics_loopback, (), h.max_connections_pos, (), h.rate_pos, h.burst_pos⟩

/-- Loading gives exactly the valid configurations: no other one passes, and no
document that describes a valid one is rejected. -/
theorem loads_iff_valid (env : Environment) (cfg : ServiceConfig) :
    tryLoad env = .ok cfg ↔ ∃ document, readDocument env = .ok document ∧
      ofDocument document env.var = cfg ∧ cfg.Valid env := by
  constructor
  · intro h
    obtain ⟨document, hread, -⟩ := tryLoad_eq_ok h
    obtain ⟨heq, hvalidate⟩ := (tryLoad_of_readDocument hread).mp h
    exact ⟨document, hread, heq, validate_eq_ok.mp hvalidate⟩
  · rintro ⟨document, hread, heq, hvalid⟩
    exact (tryLoad_of_readDocument hread).mpr ⟨heq, validate_eq_ok.mpr hvalid⟩

end ServiceConfig

/-! ## Reports of single checks -/

theorem ensure_eq_error {p : Prop} [Decidable p] {message : Text} {report : Report} :
    ensure p message = .error report ↔ ¬p ∧ report = [message] := by
  unfold ensure
  split_ifs with h <;> simp [h, eq_comm]

theorem withContext_eq_error {α : Type} {context : Text} {x : Except Report α} {report : Report} :
    withContext context x = .error report ↔ ∃ cause, x = .error cause ∧ report = context :: cause := by
  cases x <;> simp [withContext, eq_comm]

/-! ## Protocol lists -/

/-- One turn of the loop over the protocols, with its counters and the names seen so far. -/
def checkProtocol (state : ℕ × ℕ × List Text) (proto : Text) : Except Report (ℕ × ℕ × List Text) := do
  let (i, totalLen, seen) := state
  let totalLen ← validateProtocols i totalLen seen [proto]
  pure (i + 1, totalLen, proto :: seen)

theorem validateProtocols_eq_foldlM (i totalLen : ℕ) (seen protocols : List Text) :
    validateProtocols i totalLen seen protocols =
      protocols.foldlM checkProtocol (i, totalLen, seen) >>= fun state => .ok state.2.1 := by
  induction protocols generalizing i totalLen seen with
  | nil => rfl
  | cons proto protocols ih =>
    simp only [validateProtocols, List.foldlM_cons, checkProtocol, bind_assoc, pure_bind,
      Checks.ok_bind, ih]

theorem foldlM_checkProtocol {protocols : List Text} {state : ℕ × ℕ × List Text}
    (h : protocols.foldlM checkProtocol (0, 0, []) = .ok state) :
    state.1 = protocols.length ∧ state.2.2 = protocols.reverse := by
  induction protocols using List.reverseRecOn generalizing state with
  | nil =>
    cases h
    exact ⟨rfl, rfl⟩
  | append_singleton protocols proto ih =>
    rw [List.foldlM_append, bind_eq_ok] at h
    obtain ⟨middle, hmiddle, hlast⟩ := h
    obtain ⟨hcount, hseen⟩ := ih hmiddle
    simp only [List.foldlM_cons, List.foldlM_nil, checkProtocol, bind_eq_ok] at hlast
    obtain ⟨_, ⟨_, -, hnext⟩, hstate⟩ := hlast
    cases hnext
    cases hstate
    simp [hcount, hseen]

/-- What is wrong with a protocol list, and how it is reported. -/
inductive AlpnFault (protocols : List Text) : Text → Prop
  | nothingListed (h : protocols = []) :
    AlpnFault protocols "ALPN protocol list must not be empty".toList
  | emptyName (before after : List Text) (h : protocols = before ++ [] :: after) :
    AlpnFault protocols
      ("ALPN protocol #".toList ++ Text.ofNat before.length ++
        " is empty: protocol name must be 1..=".toList ++ Text.ofNat maxProtocolLen ++
        " bytes long".toList)
  | longName (before : List Text) (proto : Text) (after : List Text)
      (h : protocols = before ++ proto :: after) (hlong : maxProtocolLen < proto.byteLen) :
    AlpnFault protocols
      ("ALPN protocol #".toList ++ Text.ofNat before.length ++ " is too long (".toList ++
        Text.ofNat proto.byteLen ++ " bytes), max is ".toList ++ Text.ofNat maxProtocolLen)
  | listedTwice (before : List Text) (proto : Text) (after : List Text)
      (h : protocols = before ++ proto :: after) (htwice : proto ∈ before) :
    AlpnFault protocols
      ("ALPN protocol #".toList ++ Text.ofNat before.length ++ " (".toList ++ Text.quoted proto ++
        ") is duplicated in the list".toList)
  | longList (len : ℕ) (h : len = (protocols.map fun proto => 1 + proto.byteLen).sum)
      (hlong : maxListLen < len) :
    AlpnFault protocols
      ("total encoded ALPN list length ".toList ++ Text.ofNat len ++
        " bytes exceeds the limit of ".toList ++ Text.ofNat maxListLen)

theorem AlpnFault.not_wellFormed {protocols : List Text} {message : Text}
    (h : AlpnFault protocols message) : ¬WellFormedAlpn protocols := by
  intro hwell
  cases h with
  | nothingListed h => exact hwell.nonempty h
  | emptyName before after h => exact (hwell.names.sizes [] (by simp [h])).1 rfl
  | longName before proto after h hlong =>
    exact absurd (hwell.names.sizes proto (by simp [h])).2 (Nat.not_le.mpr hlong)
  | listedTwice before proto after h htwice =>
    have hnodup := hwell.names.nodup
    rw [h] at hnodup
    exact List.disjoint_of_nodup_append hnodup htwice List.mem_cons_self
  | longList len h hlong =>
    rw [h] at hlong
    exact absurd hwell.length_le (Nat.not_le.mpr hlong)

theorem alpnFault_of_error {protocols : List Text} {report : Report}
    (h : validateAlpnProtocols (some protocols) = .error report) :
    ∃ message, report = [message] ∧ AlpnFault protocols message := by
  rw [validateAlpnProtocols, Checks.bind_eq_error, ensure_eq_error] at h
  rcases h with ⟨hempty, rfl⟩ | ⟨-, -, h⟩
  · exact ⟨_, rfl, .nothingListed (not_not.mp hempty)⟩
  rw [Checks.bind_eq_error] at h
  rcases h with h | ⟨len, hlen, h⟩
  · rw [validateProtocols_eq_foldlM, Checks.bind_eq_error, Checks.foldlM_eq_error] at h
    rcases h with ⟨before, proto, after, state, hsplit, hbefore, hproto⟩ | ⟨state, -, h⟩
    · obtain ⟨hcount, hseen⟩ := foldlM_checkProtocol hbefore
      simp only [checkProtocol, validateProtocols, bind_assoc, Checks.ok_bind,
        Checks.bind_eq_error, ensure_eq_error, ensure_eq_ok, hcount, hseen, List.mem_reverse,
        not_not, Nat.not_le] at hproto
      rcases hproto with ⟨rfl, rfl⟩ | ⟨-, -, ⟨hlong, rfl⟩ | ⟨-, -, ⟨htwice, rfl⟩ | ⟨-, -, hdone⟩⟩⟩
      · exact ⟨_, rfl, .emptyName before after hsplit⟩
      · exact ⟨_, rfl, .longName before proto after hsplit hlong⟩
      · exact ⟨_, rfl, .listedTwice before proto after hsplit htwice⟩
      · cases hdone
    · cases h
  · obtain ⟨hnot, rfl⟩ := ensure_eq_error.mp h
    refine ⟨_, rfl, .longList len ?_ (Nat.not_le.mp hnot)⟩
    simpa using (validateProtocols_ok hlen).2

/-! ## Upstreams -/

inductive UpstreamFault (upstream : Text) : Text → Prop
  | scheme (h : Text.containsText "://".toList upstream = true) :
    UpstreamFault upstream "must be a host:port pair, not a URL with a scheme".toList
  | space (c : Char) (h : c ∈ upstream) (hspace : Text.isWhitespace c = true) :
    UpstreamFault upstream "must not contain whitespace".toList
  | noPort (h : ':' ∉ upstream) :
    UpstreamFault upstream "must be a host:port pair (missing ':port')".toList
  | noHost (port : Text) (h : Text.rsplitOnce ':' upstream = some ([], port)) :
    UpstreamFault upstream "has an empty host before the ':'".toList
  | path (host port : Text) (h : Text.rsplitOnce ':' upstream = some (host, port))
      (hpath : '/' ∈ host) :
    UpstreamFault upstream "must not contain a path".toList
  | host (host port : Text) (h : Text.rsplitOnce ':' upstream = some (host, port))
      (hhost : ¬PlausibleHost host) :
    UpstreamFault upstream ("host ".toList ++ Text.quoted host ++
      " contains characters not valid in a hostname".toList)
  | portZero (host port : Text) (h : Text.rsplitOnce ':' upstream = some (host, port))
      (hport : parseU16 port = some 0) :
    UpstreamFault upstream "port 0 is not a valid upstream port".toList
  | port (host port : Text) (h : Text.rsplitOnce ':' upstream = some (host, port))
      (hport : parseU16 port = none) :
    UpstreamFault upstream (Text.quoted port ++ " is not a valid port number".toList)

theorem upstreamFault_of_error {upstream : Text} {report : Report}
    (h : validateUpstream upstream = .error report) :
    ¬WellFormedUpstream upstream ∧ ∃ message, report = [message] ∧ UpstreamFault upstream message := by
  have hnot : ¬WellFormedUpstream upstream := by
    rw [← validateUpstream_ok_iff_wellFormed, h]
    intro hok
    cases hok
  refine ⟨hnot, ?_⟩
  unfold validateUpstream at h
  split_ifs at h with hliteral
  simp only [Checks.bind_eq_error, ensure_eq_error, ensure_eq_ok, Bool.not_eq_false,
    List.any_eq_true] at h
  rcases h with ⟨hscheme, rfl⟩ | ⟨-, -, ⟨⟨c, hc, hspace⟩, rfl⟩ | ⟨-, -, h⟩⟩
  · exact ⟨_, rfl, .scheme hscheme⟩
  · exact ⟨_, rfl, .space c hc hspace⟩
  cases hsplit : Text.rsplitOnce ':' upstream with
  | none =>
    rw [hsplit] at h
    cases h
    exact ⟨_, rfl, .noPort (Text.rsplitOnce_eq_none_iff.mp hsplit)⟩
  | some parts =>
    obtain ⟨host, port⟩ := parts
    simp only [hsplit, Checks.bind_eq_error, ensure_eq_error, ensure_eq_ok, not_not] at h
    rcases h with ⟨rfl, rfl⟩ | ⟨-, -, ⟨hpath, rfl⟩ | ⟨-, -, ⟨hchars, rfl⟩ | ⟨-, -, h⟩⟩⟩
    · exact ⟨_, rfl, .noHost port hsplit⟩
    · exact ⟨_, rfl, .path host port hsplit hpath⟩
    · refine ⟨_, rfl, .host host port hsplit fun hhost => hchars ?_⟩
      simpa [or_assoc] using hhost.2
    · cases hport : parseU16 port with
      | none =>
        rw [hport] at h
        cases h
        exact ⟨_, rfl, .port host port hsplit hport⟩
      | some n =>
        rw [hport] at h
        obtain ⟨hzero, rfl⟩ := ensure_eq_error.mp h
        rw [not_not.mp hzero] at hport
        exact ⟨_, rfl, .portZero host port hsplit hport⟩

/-! ## Routes -/

def checkRoute (seen : List Text) (target : ProxyTarget) : Except Report (List Text) := do
  validateRoutes seen [target]
  pure (target.sni :: seen)

theorem validateRoutes_eq_foldlM (seen : List Text) (routes : List ProxyTarget) :
    validateRoutes seen routes = routes.foldlM checkRoute seen >>= fun _ => .ok () := by
  induction routes generalizing seen with
  | nil => rfl
  | cons target routes ih =>
    simp only [validateRoutes, List.foldlM_cons, checkRoute, bind_assoc, pure_bind,
      Checks.ok_bind, ih]

theorem foldlM_checkRoute {routes : List ProxyTarget} {seen : List Text}
    (h : routes.foldlM checkRoute [] = .ok seen) : seen = (routes.map ProxyTarget.sni).reverse := by
  induction routes using List.reverseRecOn generalizing seen with
  | nil =>
    cases h
    rfl
  | append_singleton routes target ih =>
    rw [List.foldlM_append, bind_eq_ok] at h
    obtain ⟨middle, hmiddle, hlast⟩ := h
    simp only [List.foldlM_cons, List.foldlM_nil, checkRoute, bind_eq_ok] at hlast
    obtain ⟨_, ⟨_, -, hnext⟩, hseen⟩ := hlast
    cases hnext
    cases hseen
    simp [ih hmiddle]

inductive RouteFault (before : List ProxyTarget) (target : ProxyTarget) : Report → Prop
  | blank (h : target.sni.isBlank = true ∨ target.upstream.isBlank = true) :
    RouteFault before target ["routes contains an empty string".toList]
  | duplicate (other : ProxyTarget) (h : other ∈ before) (hsni : other.sni = target.sni) :
    RouteFault before target ["duplicate sni in routes: ".toList ++ Text.quoted target.sni]
  | upstream (message : Text) (h : ¬WellFormedUpstream target.upstream)
      (fault : UpstreamFault target.upstream message) :
    RouteFault before target
      ["invalid upstream for sni ".toList ++ Text.quoted target.sni, message]
  | alpn (protocols : List Text) (message : Text) (h : target.alpnProtocols = some protocols)
      (fault : AlpnFault protocols message) :
    RouteFault before target
      ["invalid alpn protocols for sni ".toList ++ Text.quoted target.sni, message]

theorem RouteFault.not_valid {before after : List ProxyTarget} {target : ProxyTarget}
    {report : Report} (h : RouteFault before target report)
    (hnodup : ((before ++ target :: after).map ProxyTarget.sni).Nodup) : ¬target.Valid := by
  intro hvalid
  cases h with
  | blank h =>
    have hupstream := hvalid.upstream.not_blank
    rcases h with h | h
    · simp [hvalid.sni_not_blank] at h
    · simp [hupstream] at h
  | duplicate other hmem hsni =>
    rw [List.map_append, List.map_cons] at hnodup
    refine List.disjoint_of_nodup_append hnodup (List.mem_map_of_mem hmem) ?_
    rw [hsni]
    exact List.mem_cons_self
  | upstream message hnot fault => exact hnot hvalid.upstream
  | alpn protocols message h fault => exact fault.not_wellFormed (hvalid.alpn protocols h)

/-- The first route with a fault is the one reported. -/
theorem routeFault_of_error {routes : List ProxyTarget} {report : Report}
    (h : validateRoutes [] routes = .error report) :
    ∃ before target after, routes = before ++ target :: after ∧ (∀ t ∈ before, t.Valid) ∧
      (before.map ProxyTarget.sni).Nodup ∧ RouteFault before target report := by
  rw [validateRoutes_eq_foldlM, Checks.bind_eq_error, Checks.foldlM_eq_error] at h
  rcases h with ⟨before, target, after, seen, hsplit, hbefore, htarget⟩ | ⟨seen, -, h⟩
  swap
  · cases h
  have hpassed : validateRoutes [] before = .ok () := by
    rw [validateRoutes_eq_foldlM, hbefore]
    rfl
  obtain ⟨hchecked, hnodup⟩ := validateRoutes_eq_ok.mp hpassed
  refine ⟨before, target, after, hsplit, fun t ht => (hchecked t ht).1.valid, hnodup, ?_⟩
  rw [foldlM_checkRoute hbefore] at htarget
  simp only [checkRoute, validateRoutes, bind_assoc, Checks.ok_bind, Checks.bind_eq_error,
    ensure_eq_error, withContext_eq_error, not_and_or, Bool.not_eq_false, not_not,
    List.mem_reverse, List.mem_map] at htarget
  rcases htarget with ⟨hblank, rfl⟩ | ⟨-, -, ⟨⟨other, hmem, hsni⟩, rfl⟩ | ⟨-, -,
    ⟨cause, hupstream, rfl⟩ | ⟨-, -, ⟨cause, halpn, rfl⟩ | ⟨-, -, hdone⟩⟩⟩⟩
  · exact .blank hblank
  · exact .duplicate other hmem hsni
  · obtain ⟨hnot, message, rfl, hfault⟩ := upstreamFault_of_error hupstream
    exact .upstream message hnot hfault
  · cases hprotocols : target.alpnProtocols with
    | none =>
      rw [hprotocols] at halpn
      cases halpn
    | some protocols =>
      rw [hprotocols] at halpn
      obtain ⟨message, rfl, hfault⟩ := alpnFault_of_error halpn
      exact .alpn protocols message hprotocols hfault
  · cases hdone

/-! ## Single fields -/

/-- What `validate` asks of the fields besides the routes, in the order in which it asks. -/
def ServiceConfig.requirements (cfg : ServiceConfig) (env : Environment) :
    List (Checks.Requirement String) :=
  [("start_handshake_timeout_secs", cfg.startHandshakeTimeoutSecs ≠ 0),
    ("handshake_timeout_secs", cfg.handshakeTimeoutSecs ≠ 0),
    ("tls_cert_path", env.isFile cfg.tlsCertPath),
    ("tls_key_path", env.isFile cfg.tlsKeyPath),
    ("static_dir", env.isDir cfg.staticDir),
    ("tls_min_version", cfg.tlsMinVersion = "1.2".toList ∨ cfg.tlsMinVersion = "1.3".toList),
    ("metrics_addr", ∀ addr, cfg.metricsAddr = some addr → addr.ip.isLoopback),
    ("max_connections", cfg.maxConnections ≠ 0),
    ("connection_rate_per_ip", ∀ rate, cfg.connectionRatePerIp = some rate → rate.isPositiveFinite),
    ("connection_burst_per_ip", ∀ burst, cfg.connectionBurstPerIp = some burst → 1 ≤ burst)]

/-- A report that starts with the name of the first requirement that is not met. -/
def FieldFault (requirements : List (Checks.Requirement String)) (report : Report) : Prop :=
  ∃ name message, report = [message] ∧ name.toList <+: message ∧ Checks.FirstUnmet requirements name

section Fields

variable {requirements : List (Checks.Requirement String)} {report : Report} {name : String}

theorem FieldFault.tail {p : Prop} (hp : p) (h : FieldFault requirements report) :
    FieldFault ((name, p) :: requirements) report := by
  obtain ⟨first, message, hreport, hname, hunmet⟩ := h
  exact ⟨first, message, hreport, hname, hunmet.tail hp⟩

theorem fieldFault_of_ensure {p : Prop} [Decidable p] {message : Text} {rest : Except Report Unit}
    (hname : name.toList <+: message)
    (hrest : rest = .error report → FieldFault requirements report)
    (h : (ensure p message >>= fun _ => rest) = .error report) :
    FieldFault ((name, p) :: requirements) report := by
  rw [Checks.bind_eq_error, ensure_eq_error] at h
  rcases h with ⟨hnot, rfl⟩ | ⟨_, hok, h⟩
  · exact ⟨name, message, rfl, hname, .head hnot⟩
  · exact (hrest h).tail (ensure_eq_ok.mp hok)

theorem fieldFault_of_ensureSome {α : Type} {x : Option α} {p : α → Prop} [DecidablePred p]
    {message : α → Text} (rest : Except Report Unit) (hname : ∀ a, name.toList <+: message a)
    (hrest : rest = .error report → FieldFault requirements report)
    (h : (ensureSome x p message >>= fun _ => rest) = .error report) :
    FieldFault ((name, ∀ a, x = some a → p a) :: requirements) report := by
  cases x with
  | none => exact (hrest h).tail (fun a ha => by cases ha)
  | some a =>
    rw [ensureSome, Checks.bind_eq_error, ensure_eq_error] at h
    rcases h with ⟨hnot, rfl⟩ | ⟨_, hok, h⟩
    · exact ⟨name, message a, rfl, hname a, .head fun hall => hnot (hall a rfl)⟩
    · refine (hrest h).tail fun b hb => ?_
      cases hb
      exact ensure_eq_ok.mp hok

end Fields

theorem isPrefix_append {s t : Text} (name : String) (h : name.toList <+: s) :
    name.toList <+: s ++ t :=
  h.trans (List.prefix_append s t)

namespace ServiceConfig

theorem valid_iff_requirements {cfg : ServiceConfig} {env : Environment} :
    cfg.Valid env ↔ (∀ target ∈ cfg.routes, target.Valid) ∧
      (cfg.routes.map ProxyTarget.sni).Nodup ∧
      ∀ requirement ∈ cfg.requirements env, requirement.2 := by
  simp only [requirements, List.forall_mem_cons, List.not_mem_nil, false_implies, implies_true,
    and_true]
  constructor
  · intro h
    exact ⟨h.routes, h.snis_nodup, h.start_handshake_timeout_pos, h.handshake_timeout_pos,
      h.cert_is_file, h.key_is_file, h.static_dir_is_dir, h.tls_min_version, h.metrics_loopback,
      h.max_connections_pos, h.rate_pos, h.burst_pos⟩
  · rintro ⟨hroutes, hnodup, hstart, hhandshake, hcert, hkey, hdir, htls, hmetrics, hmax, hrate, hburst⟩
    exact ⟨hroutes, hnodup, hstart, hhandshake, hcert, hkey, hdir, htls, hmetrics, hmax, hrate, hburst⟩

theorem fieldFault_of_error {cfg : ServiceConfig} {env : Environment} {report : Report}
    (hroutes : validateRoutes [] cfg.routes = .ok ()) (h : cfg.validate env = .error report) :
    FieldFault (cfg.requirements env) report := by
  rw [validate, hroutes] at h
  refine fieldFault_of_ensure (by decide) (fun h => ?_) h
  refine fieldFault_of_ensure (by decide) (fun h => ?_) h
  refine fieldFault_of_ensure (isPrefix_append _ (by decide)) (fun h => ?_) h
  refine fieldFault_of_ensure (isPrefix_append _ (by decide)) (fun h => ?_) h
  refine fieldFault_of_ensure (isPrefix_append _ (by decide)) (fun h => ?_) h
  refine fieldFault_of_ensure (isPrefix_append _ (by decide)) (fun h => ?_) h
  refine fieldFault_of_ensureSome _ (fun _ => isPrefix_append _ (by decide)) (fun h => ?_) h
  refine fieldFault_of_ensure (by decide) (fun h => ?_) h
  refine fieldFault_of_ensureSome _ (fun _ => by decide) (fun h => ?_) h
  rw [← bind_pure (ensureSome _ _ _)] at h
  refine fieldFault_of_ensureSome (p := fun burst => 1 ≤ burst) (pure ()) ?_ (fun h => ?_) h
  · exact fun _ => by decide
  · cases h

end ServiceConfig

/-! ## Reports of loading -/

/-- The report is that of the first fault the environment gives rise to. -/
inductive Rejected (env : Environment) : Report → Prop
  | unreadable (cause : Report) (h : env.readToString (configPath env) = .error cause) :
    Rejected env (("failed to read config file ".toList ++ configPath env) :: cause)
  | unparsable (raw : Text) (cause : Report) (hraw : env.readToString (configPath env) = .ok raw)
      (h : env.parse raw = .error cause) :
    Rejected env (("failed to parse config file ".toList ++ configPath env) :: cause)
  | route (document : Document) (hread : readDocument env = .ok document)
      (before : List ProxyTarget) (target : ProxyTarget) (after : List ProxyTarget)
      (hsplit : (ServiceConfig.ofDocument document env.var).routes = before ++ target :: after)
      (hbefore : ∀ t ∈ before, t.Valid) (hnodup : (before.map ProxyTarget.sni).Nodup)
      (report : Report) (fault : RouteFault before target report) :
    Rejected env report
  | field (document : Document) (hread : readDocument env = .ok document)
      (hroutes : ∀ target ∈ (ServiceConfig.ofDocument document env.var).routes, target.Valid)
      (hnodup : ((ServiceConfig.ofDocument document env.var).routes.map ProxyTarget.sni).Nodup)
      (report : Report)
      (fault : FieldFault ((ServiceConfig.ofDocument document env.var).requirements env) report) :
    Rejected env report

theorem Rejected.not_loads {env : Environment} {report : Report} (h : Rejected env report)
    (cfg : ServiceConfig) : ServiceConfig.tryLoad env ≠ .ok cfg := by
  intro hload
  obtain ⟨document, hread, -⟩ := ServiceConfig.tryLoad_eq_ok hload
  obtain ⟨rfl, hvalidate⟩ := (ServiceConfig.tryLoad_of_readDocument hread).mp hload
  have hvalid := ServiceConfig.validate_eq_ok.mp hvalidate
  cases h with
  | unreadable cause h => simp [readDocument, h, withContext, bind, Except.bind] at hread
  | unparsable raw cause hraw h =>
    simp [readDocument, hraw, h, withContext, bind, Except.bind] at hread
  | route other hother before target after hsplit _ _ _ fault =>
    cases hother.symm.trans hread
    have hnodup := hvalid.snis_nodup
    rw [hsplit] at hnodup
    exact fault.not_valid hnodup (hvalid.routes target (by simp [hsplit]))
  | field other hother _ _ _ fault =>
    cases hother.symm.trans hread
    obtain ⟨name, message, -, -, hunmet⟩ := fault
    exact hunmet.not_forall (ServiceConfig.valid_iff_requirements.mp hvalid).2.2

theorem rejected_of_readDocument {env : Environment} {report : Report}
    (h : readDocument env = .error report) : Rejected env report := by
  rw [readDocument, Checks.bind_eq_error, withContext_eq_error] at h
  rcases h with ⟨cause, hread, rfl⟩ | ⟨raw, hread, h⟩
  · exact .unreadable cause hread
  · obtain ⟨cause, hparse, rfl⟩ := withContext_eq_error.mp h
    exact .unparsable raw cause (withContext_eq_ok.mp hread) hparse

namespace ServiceConfig

theorem rejected_of_error {env : Environment} {report : Report}
    (h : tryLoad env = .error report) : Rejected env report := by
  rw [tryLoad, Checks.bind_eq_error] at h
  rcases h with h | ⟨document, hread, h⟩
  · exact rejected_of_readDocument h
  rw [Checks.bind_eq_error] at h
  rcases h with h | ⟨-, -, h⟩
  swap
  · cases h
  cases hroutes : validateRoutes [] (ofDocument document env.var).routes with
  | error cause =>
    have hcause : cause = report := by
      have hvalidate : (ofDocument document env.var).validate env = .error cause := by
        rw [validate, hroutes]
        rfl
      exact Except.error.inj (hvalidate.symm.trans h)
    obtain ⟨before, target, after, hsplit, hbefore, hnodup, hfault⟩ :=
      routeFault_of_error (hcause ▸ hroutes)
    exact .route document hread before target after hsplit hbefore hnodup report hfault
  | ok _ =>
    obtain ⟨hchecked, hnodup⟩ := validateRoutes_eq_ok.mp hroutes
    exact .field document hread (fun target ht => (hchecked target ht).1.valid) hnodup report
      (fieldFault_of_error hroutes h)

/-- Every report of a failed load is true: it tells of a fault that is there,
and nothing that is checked earlier is at fault. A fault of that kind makes the load fail. -/
theorem reports_first_fault (env : Environment) :
    (∀ report, tryLoad env = .error report → Rejected env report) ∧
      ∀ fault, Rejected env fault → ∃ report, tryLoad env = .error report := by
  refine ⟨fun report h => rejected_of_error h, fun fault hfault => ?_⟩
  cases h : tryLoad env with
  | ok cfg => exact absurd h (hfault.not_loads cfg)
  | error report => exact ⟨report, rfl⟩

theorem reports_first_fault_duplicate :
    Rejected (Environment.providing { minimalDocument "api.example" with
        routes := (minimalDocument "api.example").routes ++ (minimalDocument "API.example.").routes })
      ["duplicate sni in routes: \"api.example\"".toList] :=
  (reports_first_fault _).1 _ (by decide)

end ServiceConfig

end Reprox.Config
