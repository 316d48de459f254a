import Reprox.Foundations.Runs
import Reprox.Limits.IpLimiter
import Reprox.Limits.RateLimiter
import Reprox.Routing.Fallback
import Reprox.Routing.Router

/-!
# Starting and reloading the process

A process is what `main` builds from its first configuration. A pass of the
reload loop reads the configuration and the certificate again and only then
writes the certificate, the router state and the limits. Two results say what a
run of passes and traffic leaves: every reloadable part belongs to one and the
same configuration (`reload_all_or_nothing`), and the settings that need a
restart stay what they were except for one of them (`restartOnly_iff`).
-/

namespace Reprox.Server

open Foundations Net Config Tls Routing Limits

structure Surroundings where
  env : Environment
  /-- `fs::read`. -/
  read : Text → Except Report Bytes
  /-- The directory tree below a path. -/
  listing : Text → Except Report Directory
  now : SystemTime

structure Process where
  listener : SocketAddr
  /-- The metrics endpoint, with the configuration it reports. -/
  metrics : Option (SocketAddr × ServiceConfig)
  /-- The size of the connection limiter. -/
  permits : Usize
  site : StaticSite
  router : RouterState
  certResolver : ReloadableCertResolver
  ipLimiter : IpLimiter
  rateLimiter : RateLimiter
  /-- The configuration the reload loop compares the next one with. -/
  currentConfig : ServiceConfig
  /-- The reload loop is still running. -/
  watching : Bool

/-- The two fallible loads of a reload, and the first two of `main`. -/
def loaded (tls : Provider) (s : Surroundings) : Except Report (ServiceConfig × CertifiedKey) := do
  let config ← ServiceConfig.tryLoad s.env
  let key ← certifiedKeyOf tls s.read config
  pure (config, key)

/-- `main` up to the accept loop. -/
def startup (tls : Provider) (fmtHttpDate : SystemTime → Text)
    (bind : SocketAddr → Except Report Unit) (s : Surroundings) : Except Fault Process := do
  let (config, key) ← reported (loaded tls s)
  let site ← StaticSite.tryLoad fmtHttpDate s.now config.staticDir (s.listing config.staticDir)
  reported (bind config.listenAddr)
  let router ← reported (RouterState.new tls config)
  pure
    { listener := config.listenAddr
      metrics := config.metricsAddr.map fun addr => (addr, config)
      permits := config.maxConnections
      site
      router
      certResolver := ⟨key⟩
      ipLimiter := .new config.ipLimit
      rateLimiter := .new config.rateLimit config.rateBurst
      currentConfig := config
      watching := true }

inductive PassEnd where
  | configFailed (report : Report)
  | certificateFailed (report : Report)
  /-- `expect` on the router's server configuration. -/
  | panicked (report : Report)
  | complete
  deriving DecidableEq, Repr

/-- One pass of `hot_reload`, with the warnings it logs. -/
def hotReload (tls : Provider) (p : Process) (s : Surroundings) :
    PassEnd × List Warning × Process :=
  match ServiceConfig.tryLoad s.env with
  | .error report => (.configFailed report, [], p)
  | .ok newConfig =>
    let warnings := p.currentConfig.warnAboutUnreloadableChanges newConfig
    match certifiedKeyOf tls s.read newConfig with
    | .error report => (.certificateFailed report, warnings, p)
    | .ok certifiedKey =>
      let p := { p with certResolver := p.certResolver.update certifiedKey }
      match RouterState.new tls newConfig with
      | .error report => (.panicked report, warnings, { p with watching := false })
      | .ok state =>
        (.complete, warnings,
          { p with
            router := state
            ipLimiter := p.ipLimiter.setLimit newConfig.ipLimit
            rateLimiter := p.rateLimiter.setLimit newConfig.rateLimit newConfig.rateBurst
            currentConfig := newConfig })

inductive ProcessEvent where
  | sighup (s : Surroundings)
  | allow (ip : IpAddr) (now : ℚ)
  | sweep (now : ℚ)
  | acquireSlot (addr : IpAddr)
  | dropSlot (slot : IpSlot)

namespace Process

def step (tls : Provider) (p : Process) : ProcessEvent → Process
  | .sighup s => if p.watching then (hotReload tls p s).2.2 else p
  | .allow ip now => { p with rateLimiter := (p.rateLimiter.allow ip now).2 }
  | .sweep now => { p with rateLimiter := p.rateLimiter.sweep now }
  | .acquireSlot addr => { p with ipLimiter := (p.ipLimiter.tryAcquireSlot addr).2 }
  | .dropSlot slot => { p with ipLimiter := slot.drop p.ipLimiter }

def run (tls : Provider) (p : Process) (es : List ProcessEvent) : Process := es.foldl (step tls) p

end Process

/-! ## One configuration in force -/

/-- Every reloadable part of the process is derived from this configuration and key. -/
structure InForce (tls : Provider) (p : Process) (config : ServiceConfig) (key : CertifiedKey) :
    Prop where
  router : RouterState.new tls config = .ok p.router
  snapshot : p.router.config = config
  certificate : p.certResolver.resolve = key
  ip_limit : p.ipLimiter.maxPerIp = config.ipLimit
  rate : p.rateLimiter.refillPerSec = config.rateLimit
  burst : p.rateLimiter.capacity = config.rateBurst
  current : p.currentConfig = config
  watching : p.watching = true

section Steps

variable {tls : Provider} {p : Process} {config : ServiceConfig} {key : CertifiedKey}

theorem loaded_eq_ok {s : Surroundings} :
    loaded tls s = .ok (config, key) ↔
      ServiceConfig.tryLoad s.env = .ok config ∧ certifiedKeyOf tls s.read config = .ok key := by
  simp only [loaded, bind_eq_ok]
  constructor
  · intro h
    obtain ⟨c, hload, k, hkey, h⟩ := h
    cases h
    exact ⟨hload, hkey⟩
  · intro h
    exact ⟨config, h.1, key, h.2, rfl⟩

theorem validate_of_loaded {s : Surroundings} (h : loaded tls s = .ok (config, key)) :
    config.validate s.env = .ok () := by
  obtain ⟨-, -, -, hvalidate⟩ := ServiceConfig.tryLoad_eq_ok (loaded_eq_ok.mp h).1
  exact hvalidate

/-- A pass that fails to load anything leaves the process as it was. -/
theorem hotReload_of_failed {s : Surroundings} {report : Report}
    (h : loaded tls s = .error report) : (hotReload tls p s).2.2 = p := by
  unfold loaded at h
  unfold hotReload
  cases hload : ServiceConfig.tryLoad s.env with
  | error r => rfl
  | ok newConfig =>
    cases hkey : certifiedKeyOf tls s.read newConfig with
    | error r => simp [hkey]
    | ok certifiedKey => simp [hload, hkey, bind, Except.bind, pure, Except.pure] at h

theorem hotReload_of_loaded (hversions : tls.SupportsVersions) {s : Surroundings}
    (h : loaded tls s = .ok (config, key)) :
    (hotReload tls p s).2.2 =
      { p with
        certResolver := p.certResolver.update key
        router := ⟨Table.empty.insertAll ProxyTarget.sni config.routes,
          ⟨versionsFor config, defaultAlpnProtocols⟩, config⟩
        ipLimiter := p.ipLimiter.setLimit config.ipLimit
        rateLimiter := p.rateLimiter.setLimit config.rateLimit config.rateBurst
        currentConfig := config } := by
  obtain ⟨hload, hkey⟩ := loaded_eq_ok.mp h
  simp only [hotReload, hload, hkey, RouterState.new_of_supports hversions]

theorem InForce.sighup (hversions : tls.SupportsVersions) (h : InForce tls p config key)
    (s : Surroundings) :
    InForce tls (p.step tls (.sighup s)) ((loaded tls s).toOption.getD (config, key)).1
      ((loaded tls s).toOption.getD (config, key)).2 := by
  rw [Process.step, if_pos h.watching]
  cases hs : loaded tls s with
  | error report =>
    rw [hotReload_of_failed hs]
    exact h
  | ok new =>
    rw [hotReload_of_loaded hversions hs]
    exact ⟨RouterState.new_of_supports hversions new.1, rfl, rfl, rfl, rfl, rfl, rfl, h.watching⟩

theorem InForce.allow (h : InForce tls p config key) (ip : IpAddr) (now : ℚ) :
    InForce tls (p.step tls (.allow ip now)) config key := by
  obtain ⟨hcap, hrate⟩ := p.rateLimiter.allow_limits ip now
  exact ⟨h.router, h.snapshot, h.certificate, h.ip_limit, hrate.trans h.rate,
    hcap.trans h.burst, h.current, h.watching⟩

theorem InForce.acquireSlot (h : InForce tls p config key) (addr : IpAddr) :
    InForce tls (p.step tls (.acquireSlot addr)) config key :=
  ⟨h.router, h.snapshot, h.certificate,
    (tryAcquireSlot_maxPerIp p.ipLimiter addr).trans h.ip_limit, h.rate, h.burst, h.current,
    h.watching⟩

theorem InForce.dropSlot (h : InForce tls p config key) (slot : IpSlot) :
    InForce tls (p.step tls (.dropSlot slot)) config key :=
  ⟨h.router, h.snapshot, h.certificate, (drop_maxPerIp p.ipLimiter slot).trans h.ip_limit, h.rate,
    h.burst, h.current, h.watching⟩

def applied (tls : Provider) : ProcessEvent → Option (ServiceConfig × CertifiedKey)
  | .sighup s => (loaded tls s).toOption
  | _ => none

theorem InForce.step (hversions : tls.SupportsVersions) (h : InForce tls p config key)
    (e : ProcessEvent) :
    InForce tls (p.step tls e) ((applied tls e).getD (config, key)).1
      ((applied tls e).getD (config, key)).2 := by
  cases e with
  | sighup s => exact h.sighup hversions s
  | allow ip now => exact h.allow ip now
  | sweep now => exact ⟨h.router, h.snapshot, h.certificate, h.ip_limit, h.rate, h.burst, h.current,
      h.watching⟩
  | acquireSlot addr => exact h.acquireSlot addr
  | dropSlot slot => exact h.dropSlot slot

end Steps

def latest (tls : Provider) (start : ServiceConfig × CertifiedKey) (es : List ProcessEvent) :
    ServiceConfig × CertifiedKey :=
  lastSet (applied tls) start es

section Runs

variable {tls : Provider} {fmtHttpDate : SystemTime → Text}
  {bind : SocketAddr → Except Report Unit} {s₀ : Surroundings} {p₀ : Process}

theorem latest_concat (start : ServiceConfig × CertifiedKey) (es : List ProcessEvent)
    (e : ProcessEvent) :
    latest tls start (es ++ [e]) = (applied tls e).getD (latest tls start es) :=
  lastSet_concat (applied tls) start es e

/-- The configuration in force was loaded at the start or by one of the signals. -/
theorem latest_loaded {start : ServiceConfig × CertifiedKey} (hstart : loaded tls s₀ = .ok start)
    (es : List ProcessEvent) :
    ∃ s, (s = s₀ ∨ .sighup s ∈ es) ∧ loaded tls s = .ok (latest tls start es) := by
  induction es using List.reverseRecOn with
  | nil => exact ⟨s₀, Or.inl rfl, hstart⟩
  | append_singleton es e ih =>
    obtain ⟨s, hs, hload⟩ := ih
    rw [latest_concat]
    cases happlied : applied tls e with
    | none =>
      refine ⟨s, ?_, hload⟩
      exact hs.imp id fun hmem => List.mem_append_left [e] hmem
    | some new =>
      cases e with
      | sighup s' =>
        refine ⟨s', Or.inr (by simp), ?_⟩
        simp only [applied] at happlied
        cases hnew : loaded tls s' with
        | error report => simp [hnew, Except.toOption] at happlied
        | ok loadedNew =>
          simp only [hnew, Except.toOption, Option.some.injEq] at happlied
          rw [happlied]
          rfl
      | _ => cases happlied

theorem startup_ok (hstart : startup tls fmtHttpDate bind s₀ = .ok p₀) :
    ∃ start, loaded tls s₀ = .ok start ∧ InForce tls p₀ start.1 start.2 ∧
      p₀.listener = start.1.listenAddr ∧ p₀.permits = start.1.maxConnections ∧
      p₀.metrics = start.1.metricsAddr.map (fun addr => (addr, start.1)) ∧
      StaticSite.tryLoad fmtHttpDate s₀.now start.1.staticDir (s₀.listing start.1.staticDir) =
        .ok p₀.site := by
  simp only [startup, bind_eq_ok, reported_eq_ok] at hstart
  obtain ⟨start, hload, site, hsite, ⟨⟩, -, router, hrouter, h⟩ := hstart
  rw [← Except.ok.inj h]
  refine ⟨start, hload, ⟨hrouter, ?_, rfl, rfl, rfl, rfl, rfl, rfl⟩, rfl, rfl, rfl, hsite⟩
  rw [RouterState.new_ok hrouter]

/-- The run rule: after any signals and traffic the process is on the last
configuration that loaded. -/
theorem inForce_run (hversions : tls.SupportsVersions) {start : ServiceConfig × CertifiedKey}
    (h : InForce tls p₀ start.1 start.2) (es : List ProcessEvent) :
    InForce tls (p₀.run tls es) (latest tls start es).1 (latest tls start es).2 := by
  refine foldl_history
    (R := fun es p => InForce tls p (latest tls start es).1 (latest tls start es).2) h ?_ es
  intro es p e hp
  rw [latest_concat]
  exact hp.step hversions e

end Runs

/-- Surroundings in which the document is found, every file has the same
content and every directory holds an index page. -/
def Surroundings.providing (document : Document) : Surroundings where
  env := .providing document
  read _ := .ok [1]
  listing _ := .ok (.cons "index.html".toList (.file [2] none) .nil)
  now := 0

def Surroundings.unreadable : Surroundings where
  env := { Environment.providing (minimalDocument "example.com") with
    readToString := fun _ => .error ["No such file or directory".toList] }
  read _ := .ok [1]
  listing _ := .ok .nil
  now := 0

def startMinimal : Except Fault Process :=
  startup .accepting (fun _ => []) (fun _ => .ok ()) (.providing (minimalDocument "example.com"))

theorem exists_startMinimal : ∃ p₀, startMinimal = .ok p₀ := ⟨_, by rfl⟩

section Restart

variable {tls : Provider} {fmtHttpDate : SystemTime → Text}
  {bind : SocketAddr → Except Report Unit} {s₀ : Surroundings} {p₀ : Process}

/-! ## Settings that need a restart -/

/-- The listener, the metrics address, the size of the connection limiter, the
site, and the TLS versions offered wherever TLS is terminated are those of the
process `p₀` as started. -/
structure KeepsSettings (tls : Provider) (p₀ p : Process) : Prop where
  listener : p.listener = p₀.currentConfig.listenAddr
  metrics : p.metrics.map Prod.fst = p₀.currentConfig.metricsAddr
  permits : p.permits = p₀.currentConfig.maxConnections
  site : p.site = p₀.site
  versions : ∀ sni serverConfig, (p.router.plan tls sni).serverConfig = some serverConfig →
    serverConfig.versions = versionsFor p₀.currentConfig

theorem hotReload_fixed (p : Process) (s : Surroundings) :
    (hotReload tls p s).2.2.listener = p.listener ∧ (hotReload tls p s).2.2.metrics = p.metrics ∧
      (hotReload tls p s).2.2.permits = p.permits ∧ (hotReload tls p s).2.2.site = p.site := by
  unfold hotReload
  split
  · exact ⟨rfl, rfl, rfl, rfl⟩
  · dsimp only
    split
    · exact ⟨rfl, rfl, rfl, rfl⟩
    · split <;> exact ⟨rfl, rfl, rfl, rfl⟩

theorem step_fixed (tls : Provider) (p : Process) (e : ProcessEvent) :
    (p.step tls e).listener = p.listener ∧ (p.step tls e).metrics = p.metrics ∧
      (p.step tls e).permits = p.permits ∧ (p.step tls e).site = p.site := by
  cases e with
  | sighup s =>
    simp only [Process.step]
    split_ifs
    · exact hotReload_fixed p s
    · exact ⟨rfl, rfl, rfl, rfl⟩
  | _ => exact ⟨rfl, rfl, rfl, rfl⟩

theorem run_fixed (tls : Provider) (p₀ : Process) (es : List ProcessEvent) :
    (p₀.run tls es).listener = p₀.listener ∧ (p₀.run tls es).metrics = p₀.metrics ∧
      (p₀.run tls es).permits = p₀.permits ∧ (p₀.run tls es).site = p₀.site := by
  refine foldl_history
    (R := fun _ (p : Process) => p.listener = p₀.listener ∧ p.metrics = p₀.metrics ∧
      p.permits = p₀.permits ∧ p.site = p₀.site) ⟨rfl, rfl, rfl, rfl⟩ ?_ es
  intro _ p e hp
  obtain ⟨hlistener, hmetrics, hpermits, hsite⟩ := step_fixed tls p e
  exact ⟨hlistener.trans hp.1, hmetrics.trans hp.2.1, hpermits.trans hp.2.2.1,
    hsite.trans hp.2.2.2⟩

/-- On a validated configuration the versions on offer determine the setting. -/
theorem tlsMinVersion_eq_of_versionsFor {c d : ServiceConfig} {env env' : Environment}
    (hc : c.Valid env) (hd : d.Valid env') (h : versionsFor c = versionsFor d) :
    c.tlsMinVersion = d.tlsMinVersion := by
  unfold versionsFor at h
  rcases hc.tls_min_version with hc | hc <;> rcases hd.tls_min_version with hd | hd <;>
    simp [hc, hd] at h ⊢

theorem applied_eq_some {e : ProcessEvent} {new : ServiceConfig × CertifiedKey} :
    applied tls e = some new ↔ ∃ s, e = .sighup s ∧ loaded tls s = .ok new := by
  cases e with
  | sighup s => cases h : loaded tls s <;> simp [applied, h, Except.toOption]
  | _ => simp [applied]

/-- Only the TLS versions can move, and they are those of the configuration in force. -/
theorem keepsSettings_run_iff (hversions : tls.SupportsVersions)
    {start : ServiceConfig × CertifiedKey} (hforce : InForce tls p₀ start.1 start.2)
    (hlistener : p₀.listener = start.1.listenAddr) (hpermits : p₀.permits = start.1.maxConnections)
    (hmetrics : p₀.metrics = start.1.metricsAddr.map fun addr => (addr, start.1))
    (es : List ProcessEvent) :
    KeepsSettings tls p₀ (p₀.run tls es) ↔
      versionsFor (latest tls start es).1 = versionsFor start.1 := by
  obtain ⟨hlistener', hmetrics', hpermits', hsite'⟩ := run_fixed tls p₀ es
  have hplans := RouterState.plan_versions_iff (inForce_run hversions hforce es).router
    (versionsFor start.1)
  constructor
  · intro h
    apply hplans.mp
    rw [← hforce.current]
    exact h.versions
  · intro h
    have hoffered := hplans.mpr h
    rw [← hforce.current] at hlistener hpermits hoffered
    refine ⟨hlistener'.trans hlistener, ?_, hpermits'.trans hpermits, hsite', hoffered⟩
    rw [hmetrics', hmetrics, hforce.current]
    cases start.1.metricsAddr <;> rfl

/-- The settings stay fixed in every state of a run exactly when every reload
that is applied asks for the TLS versions the process was started with. -/
theorem restartOnly_iff (hversions : tls.SupportsVersions)
    (hstart : startup tls fmtHttpDate bind s₀ = .ok p₀) (es : List ProcessEvent) :
    (∀ passed, passed <+: es → KeepsSettings tls p₀ (p₀.run tls passed)) ↔
      ∀ e ∈ es, ∀ new, applied tls e = some new →
        new.1.tlsMinVersion = p₀.currentConfig.tlsMinVersion := by
  obtain ⟨start, hload, hforce, hlistener, hpermits, hmetrics, -⟩ := startup_ok hstart
  have hkeeps := keepsSettings_run_iff hversions hforce hlistener hpermits hmetrics
  have hvalid := ServiceConfig.valid_of_validate (validate_of_loaded hload)
  rw [hforce.current]
  constructor
  · intro h e he new hnew
    obtain ⟨before, after, rfl⟩ := List.append_of_mem he
    have hreached := (hkeeps (before ++ [e])).mp (h _ ⟨after, by simp⟩)
    rw [latest_concat, hnew, Option.getD_some] at hreached
    obtain ⟨s, -, hs⟩ := applied_eq_some.mp hnew
    exact tlsMinVersion_eq_of_versionsFor
      (ServiceConfig.valid_of_validate (validate_of_loaded hs)) hvalid hreached
  · intro h passed hpassed
    rw [hkeeps]
    have hsame : (latest tls start passed).1.tlsMinVersion = start.1.tlsMinVersion := by
      obtain ⟨s, hs, hlatest⟩ := latest_loaded hload passed
      rcases hs with rfl | hs
      · rw [Except.ok.inj (hlatest.symm.trans hload)]
      · exact h _ (hpassed.subset hs) _ (applied_eq_some.mpr ⟨s, rfl, hlatest⟩)
    unfold versionsFor
    rw [hsame]

end Restart

theorem restartOnly_iff_routes_changed :
    ∃ p₀, startMinimal = .ok p₀ ∧
      let es : List ProcessEvent := [.sighup (.providing (minimalDocument "example.org"))]
      ((∀ passed, passed <+: es → KeepsSettings .accepting p₀ (p₀.run .accepting passed)) ↔
        ∀ e ∈ es, ∀ new, applied .accepting e = some new →
          new.1.tlsMinVersion = p₀.currentConfig.tlsMinVersion) := by
  obtain ⟨p₀, hp₀⟩ := exists_startMinimal
  exact ⟨p₀, hp₀, restartOnly_iff Provider.accepting_supportsVersions hp₀ _⟩

/-- A process started with TLS 1.2 and 1.3 offers only TLS 1.3 on the fallback
site after a reload that asks for it. -/
theorem restartOnly_fails :
    ∃ p₀, startMinimal = .ok p₀ ∧
      ¬KeepsSettings .accepting p₀ (p₀.run .accepting [.sighup (.providing
        { minimalDocument "example.com" with tlsMinVersion := some "1.3".toList })]) := by
  refine ⟨_, by rfl, ?_⟩
  intro h
  have hversions := h.versions none _ rfl
  exact absurd hversions (by decide)

end Reprox.Server
