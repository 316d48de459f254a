import Reprox.Server.HotReload

/-!
# What reloads report

The operator learns about a reload from two places: the number of routes on the
metrics endpoint and the warnings about settings that need a restart. The
endpoint keeps the configuration it was started with. The reload loop compares
a new configuration with the last one it applied, which may already differ from
the process in the settings it could not apply.
-/

namespace Reprox.Server

open Foundations Net Config Tls Routing Limits

/-! ## The number of routes -/

/-- `ConfigSnapshot::routes_count`, also rendered as `reprox_config_secret_domains`. -/
def routesCount (config : ServiceConfig) : ℕ := config.routes.length

def Process.reportedRoutes (p : Process) : Option ℕ :=
  p.metrics.map fun endpoint => routesCount endpoint.2

/-- What the endpoint reports is the number of routes that connections are matched against. -/
def Process.ReportsItsRoutes (p : Process) : Prop :=
  ∀ n, p.reportedRoutes = some n → n = p.router.routes.size

section Runs

variable {tls : Provider} {fmtHttpDate : SystemTime → Text}
  {bind : SocketAddr → Except Report Unit} {s₀ : Surroundings} {p₀ : Process}

theorem InForce.routes_size {p : Process} {config : ServiceConfig} {key : CertifiedKey}
    {s : Surroundings} (h : InForce tls p config key) (hload : loaded tls s = .ok (config, key)) :
    p.router.routes.size = config.routes.length := by
  rw [RouterState.new_ok h.router]
  exact Table.size_insertAll ProxyTarget.sni
    (ServiceConfig.valid_of_validate (validate_of_loaded hload)).snis_nodup

/-- The reported number follows the table through a whole run exactly when
every reload that is applied has as many routes as the process started with. -/
theorem reportsItsRoutes_iff (hversions : tls.SupportsVersions)
    (hstart : startup tls fmtHttpDate bind s₀ = .ok p₀) (es : List ProcessEvent) :
    (∀ passed, passed <+: es → (p₀.run tls passed).ReportsItsRoutes) ↔
      p₀.metrics = none ∨ ∀ e ∈ es, ∀ new, applied tls e = some new →
        new.1.routes.length = p₀.currentConfig.routes.length := by
  obtain ⟨start, hload, hforce, -, -, hmetrics, -⟩ := startup_ok hstart
  have hreports (passed : List ProcessEvent) : (p₀.run tls passed).ReportsItsRoutes ↔
      p₀.metrics = none ∨
        (latest tls start passed).1.routes.length = start.1.routes.length := by
    obtain ⟨s, -, hlatest⟩ := latest_loaded hload passed
    rw [Process.ReportsItsRoutes, (inForce_run hversions hforce passed).routes_size hlatest,
      Process.reportedRoutes, (run_fixed tls p₀ passed).2.1, hmetrics]
    cases start.1.metricsAddr <;> simp [routesCount, eq_comm]
  simp only [hreports, hforce.current]
  by_cases hoff : p₀.metrics = none
  · simp [hoff]
  simp only [hoff, false_or]
  constructor
  · intro h e he new hnew
    obtain ⟨before, after, rfl⟩ := List.append_of_mem he
    have hreached := h (before ++ [e]) ⟨after, by simp⟩
    rwa [latest_concat, hnew, Option.getD_some] at hreached
  · intro h passed hpassed
    obtain ⟨s, hs, hlatest⟩ := latest_loaded hload passed
    rcases hs with rfl | hs
    · rw [Except.ok.inj (hlatest.symm.trans hload)]
    · exact h _ (hpassed.subset hs) _ (applied_eq_some.mpr ⟨s, rfl, hlatest⟩)

end Runs

def measuredDocument (snis : List String) : Document :=
  { minimalDocument "example.com" with
    routes := snis.map fun sni => ⟨sni.toList, "127.0.0.1:8080".toList, none, none⟩
    metricsAddr := some (.v4 ⟨127, 0, 0, 1⟩ 9090) }

def startMeasured : Except Fault Process :=
  startup .accepting (fun _ => []) (fun _ => .ok ()) (.providing (measuredDocument ["example.com"]))

theorem reportsItsRoutes_iff_renamed :
    ∃ p₀, startMeasured = .ok p₀ ∧
      let es : List ProcessEvent := [.sighup (.providing (measuredDocument ["example.org"]))]
      ((∀ passed, passed <+: es → (p₀.run .accepting passed).ReportsItsRoutes) ↔
        p₀.metrics = none ∨ ∀ e ∈ es, ∀ new, applied .accepting e = some new →
          new.1.routes.length = p₀.currentConfig.routes.length) := by
  have hstart : ∃ p₀, startMeasured = .ok p₀ := ⟨_, by rfl⟩
  obtain ⟨p₀, hp₀⟩ := hstart
  exact ⟨p₀, hp₀, reportsItsRoutes_iff Provider.accepting_supportsVersions hp₀ _⟩

/-- A second route is added by a reload, and the endpoint still reports one. -/
theorem reportsItsRoutes_fails :
    ∃ p₀, startMeasured = .ok p₀ ∧
      ¬(p₀.run .accepting [.sighup (.providing (measuredDocument ["example.com", "example.org"]))]
        ).ReportsItsRoutes := by
  refine ⟨_, by rfl, ?_⟩
  intro h
  have htwo : (Table.empty.insertAll ProxyTarget.sni
      [⟨"example.com".toList, "127.0.0.1:8080".toList, none, true⟩,
        ⟨"example.org".toList, "127.0.0.1:8080".toList, none, true⟩]).size = 2 :=
    Table.size_insertAll ProxyTarget.sni (by decide)
  have hone : 1 = (Table.empty.insertAll ProxyTarget.sni
      [⟨"example.com".toList, "127.0.0.1:8080".toList, none, true⟩,
        ⟨"example.org".toList, "127.0.0.1:8080".toList, none, true⟩]).size := h 1 rfl
  rw [htwo] at hone
  exact absurd hone (by decide)

/-! ## The warnings -/

/-- A setting of which a reload reports that it needs a restart, and which
keeps its value until then. -/
inductive Setting where
  | listenAddr
  | metricsAddr
  | maxConnections
  | staticDir
  deriving DecidableEq, Repr

namespace Setting

def message : Setting → String
  | .listenAddr =>
    "listen_addr changed in config.toml, but SIGHUP can't rebind the listener — restart the process to apply this"
  | .metricsAddr =>
    "metrics_addr changed in config.toml, but SIGHUP can't rebind the metrics listener — restart the process to apply this"
  | .maxConnections =>
    "max_connections changed in config.toml, but SIGHUP can't resize the connection-slot limiter — restart the process to apply this"
  | .staticDir =>
    "static_dir changed in config.toml, but SIGHUP doesn't reload the in-memory static site — restart the process to apply this"

/-- Two configurations have the same value of the setting; paths with the same
components are the same path. -/
def Same (setting : Setting) (c d : ServiceConfig) : Prop :=
  match setting with
  | .listenAddr => c.listenAddr = d.listenAddr
  | .metricsAddr => c.metricsAddr = d.metricsAddr
  | .maxConnections => c.maxConnections = d.maxConnections
  | .staticDir => Text.components c.staticDir = Text.components d.staticDir

instance (setting : Setting) (c d : ServiceConfig) : Decidable (setting.Same c d) :=
  match setting with
  | .listenAddr => inferInstanceAs (Decidable (c.listenAddr = d.listenAddr))
  | .metricsAddr => inferInstanceAs (Decidable (c.metricsAddr = d.metricsAddr))
  | .maxConnections => inferInstanceAs (Decidable (c.maxConnections = d.maxConnections))
  | .staticDir =>
    inferInstanceAs (Decidable (Text.components c.staticDir = Text.components d.staticDir))

theorem Same.symm {setting : Setting} {c d : ServiceConfig} (h : setting.Same c d) :
    setting.Same d c := by
  cases setting <;> exact Eq.symm h

theorem Same.trans {setting : Setting} {c d e : ServiceConfig} (h : setting.Same c d)
    (h' : setting.Same d e) : setting.Same c e := by
  cases setting <;> exact Eq.trans h h'

end Setting

def WarnsAbout (warnings : List Warning) (setting : Setting) : Prop :=
  ∃ w ∈ warnings, w.message = setting.message.toList

theorem warnsAbout_append {warnings more : List Warning} {setting : Setting} :
    WarnsAbout (warnings ++ more) setting ↔
      WarnsAbout warnings setting ∨ WarnsAbout more setting := by
  simp only [WarnsAbout, List.mem_append, or_and_right, exists_or]

theorem warnsAbout_warnIfChanged {α κ : Type} [DecidableEq κ] {field : ServiceConfig → α}
    {seen : α → κ} {display : α → Text} {message : String} {cfg new : ServiceConfig}
    {setting : Setting} :
    WarnsAbout (warnIfChanged field seen display message cfg new) setting ↔
      seen (field cfg) ≠ seen (field new) ∧ message = setting.message := by
  unfold WarnsAbout warnIfChanged
  split_ifs with h <;> simp [h, String.toList_inj]

theorem warnsAbout_iff (cfg new : ServiceConfig) (setting : Setting) :
    WarnsAbout (cfg.warnAboutUnreloadableChanges new) setting ↔ ¬setting.Same cfg new := by
  simp only [ServiceConfig.warnAboutUnreloadableChanges, warnsAbout_append,
    warnsAbout_warnIfChanged]
  cases setting <;>
    simp only [Setting.message, String.reduceAppend, String.reduceEq, and_true, and_false,
      or_false, false_or, Setting.Same, id_eq, ne_eq]

/-- A pass that loads a configuration logs what changed since the last one applied. -/
theorem hotReload_warnings {tls : Provider} {p : Process} {s : Surroundings} {new : ServiceConfig}
    (hload : ServiceConfig.tryLoad s.env = .ok new) :
    (hotReload tls p s).2.1 = p.currentConfig.warnAboutUnreloadableChanges new := by
  simp only [hotReload, hload]
  split
  · rfl
  · split <;> rfl

/-- Every reload whose configuration loads warns about exactly the settings it
asks to change from the values `p₀` was started with. -/
def WarnsExactly (tls : Provider) (p₀ : Process) (es : List ProcessEvent) : Prop :=
  ∀ before s after new, es = before ++ .sighup s :: after →
    ServiceConfig.tryLoad s.env = .ok new → ∀ setting,
      (WarnsAbout (hotReload tls (p₀.run tls before) s).2.1 setting ↔
        ¬setting.Same p₀.currentConfig new)

def Process.inForce (p : Process) : ServiceConfig × CertifiedKey :=
  (p.currentConfig, p.certResolver.resolve)

section Runs

variable {tls : Provider} {fmtHttpDate : SystemTime → Text}
  {bind : SocketAddr → Except Report Unit} {s₀ : Surroundings} {p₀ : Process}

/-- The warnings of a whole run are exact exactly when, at each reload that
loads and for each setting, the configuration applied last still has the value
the process was started with, or the new value differs from both. -/
theorem warnsExactly_iff (hversions : tls.SupportsVersions)
    (hstart : startup tls fmtHttpDate bind s₀ = .ok p₀) (es : List ProcessEvent) :
    WarnsExactly tls p₀ es ↔
      ∀ before s after new, es = before ++ .sighup s :: after →
        ServiceConfig.tryLoad s.env = .ok new → ∀ setting : Setting,
          setting.Same (latest tls p₀.inForce before).1 p₀.currentConfig ∨
            (¬setting.Same (latest tls p₀.inForce before).1 new ∧
              ¬setting.Same p₀.currentConfig new) := by
  obtain ⟨start, -, hforce, -⟩ := startup_ok hstart
  have hin : p₀.inForce = start := Prod.ext hforce.current hforce.certificate
  unfold WarnsExactly
  rw [hin, hforce.current]
  refine forall_congr' fun before => forall_congr' fun s => forall_congr' fun after =>
    forall_congr' fun new => imp_congr_right fun _ => imp_congr_right fun hload =>
      forall_congr' fun setting => ?_
  rw [hotReload_warnings hload, (inForce_run hversions hforce before).current, warnsAbout_iff]
  constructor
  · intro h
    by_cases hnew : setting.Same start.1 new
    · left
      have hbase : setting.Same (latest tls start before).1 new := by
        by_contra hne
        exact h.mp hne hnew
      exact hbase.trans hnew.symm
    · exact Or.inr ⟨h.mpr hnew, hnew⟩
  · intro h
    rcases h with hbase | ⟨hbase, hnew⟩
    · exact not_congr ⟨hbase.symm.trans, hbase.trans⟩
    · exact iff_of_true hbase hnew

end Runs

def movedDocument (port : UInt16) : Document :=
  { minimalDocument "example.com" with listenAddr := .v4 ⟨0, 0, 0, 0⟩ port }

def relocatedDocument (staticDir : String) : Document :=
  { minimalDocument "example.com" with staticDir := staticDir.toList }

example : (relocatedDocument "static").deserialize.warnAboutUnreloadableChanges
    (relocatedDocument "static/.").deserialize = [] := by
  decide +kernel

/-- The site is written with a slash at its end, and the listener is asked to move. -/
theorem warnsExactly_iff_moved :
    ∃ p₀, startMinimal = .ok p₀ ∧
      let es : List ProcessEvent :=
        [.sighup (.providing (relocatedDocument "static/")),
          .sighup (.providing (movedDocument 8443))]
      (WarnsExactly .accepting p₀ es ↔
        ∀ before s after new, es = before ++ .sighup s :: after →
          ServiceConfig.tryLoad s.env = .ok new → ∀ setting : Setting,
            setting.Same (latest .accepting p₀.inForce before).1 p₀.currentConfig ∨
              (¬setting.Same (latest .accepting p₀.inForce before).1 new ∧
                ¬setting.Same p₀.currentConfig new)) := by
  obtain ⟨p₀, hp₀⟩ := exists_startMinimal
  exact ⟨p₀, hp₀, warnsExactly_iff Provider.accepting_supportsVersions hp₀ _⟩

/-- The same edit is loaded twice. The process still listens on the port it was
started on, and the second reload is silent. -/
theorem warnsExactly_fails :
    ∃ p₀, startMinimal = .ok p₀ ∧
      ¬WarnsExactly .accepting p₀
        [.sighup (.providing (movedDocument 8443)), .sighup (.providing (movedDocument 8443))] := by
  refine ⟨_, by rfl, ?_⟩
  intro h
  have hsecond := h [.sighup (.providing (movedDocument 8443))] _ [] (movedDocument 8443).deserialize
    rfl (by rfl) .listenAddr
  obtain ⟨w, hw, -⟩ := hsecond.mpr (by decide)
  cases hw

end Reprox.Server
