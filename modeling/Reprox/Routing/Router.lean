import Reprox.Foundations.Table
import Reprox.Tls

/-!
# Routing by server name

A router state is the table of routes keyed by their configured names, the
server configuration of the fallback site, and the configuration both came
from. A connection takes one such state and decides from the server name of its
ClientHello. `NameLaw` is what the table is for: names match up to case
and trailing dots. `nameLaw_iff` says for which names it does.
-/

namespace Reprox.Routing

open Foundations Config Tls

def defaultAlpnProtocols : List Text := ["h2".toList, "http/1.1".toList]

structure RouterState where
  routes : Table Text ProxyTarget
  serverConfig : ServerConfig
  config : ServiceConfig

inductive Plan where
  /-- The bytes are relayed to the upstream as they are. -/
  | passthrough (target : ProxyTarget)
  /-- TLS ends here and the plaintext is relayed. -/
  | terminate (target : ProxyTarget) (serverConfig : ServerConfig)
  /-- No server configuration could be built for the route. -/
  | refused (target : ProxyTarget) (report : Report)
  | fallback (serverConfig : ServerConfig)

namespace Plan

/-- The proxied route a plan is for. -/
def target : Plan → Option ProxyTarget
  | .passthrough target => some target
  | .terminate target _ => some target
  | .refused target _ => some target
  | .fallback _ => none

def serverConfig : Plan → Option ServerConfig
  | .passthrough _ => none
  | .terminate _ serverConfig => some serverConfig
  | .refused _ _ => none
  | .fallback serverConfig => some serverConfig

end Plan

namespace RouterState

variable (tls : Provider)

/-- The `expect` on the server configuration is the error of the result. -/
def new (config : ServiceConfig) : Except Report RouterState := do
  let serverConfig ← buildServerConfig tls defaultAlpnProtocols config
  pure ⟨Table.empty.insertAll ProxyTarget.sni config.routes, serverConfig, config⟩

/-- The decision of `route`, from the server name of the ClientHello. -/
def plan (state : RouterState) (sni : Option Text) : Plan :=
  match sni.bind state.routes.get? with
  | some target =>
    if target.tlsPassthrough then .passthrough target
    else
      match target.alpnProtocols with
      | some alpnProtocols =>
        match buildServerConfig tls alpnProtocols state.config with
        | .ok serverConfig => .terminate target serverConfig
        | .error report => .refused target report
      | none => .terminate target state.serverConfig
  | none => .fallback state.serverConfig

variable {tls}

theorem new_ok {config : ServiceConfig} {state : RouterState} (h : new tls config = .ok state) :
    state = ⟨Table.empty.insertAll ProxyTarget.sni config.routes,
      ⟨versionsFor config, defaultAlpnProtocols⟩, config⟩ := by
  simp only [new, bind_eq_ok] at h
  obtain ⟨serverConfig, hbuild, h⟩ := h
  rw [buildServerConfig_ok hbuild] at h
  exact (Except.ok.inj h).symm

theorem new_of_supports (h : tls.SupportsVersions) (config : ServiceConfig) :
    new tls config = .ok ⟨Table.empty.insertAll ProxyTarget.sni config.routes,
      ⟨versionsFor config, defaultAlpnProtocols⟩, config⟩ := by
  simp only [new, buildServerConfig_of_supports h]
  rfl

theorem plan_target (state : RouterState) (sni : Option Text) :
    (state.plan tls sni).target = sni.bind state.routes.get? := by
  unfold plan
  cases sni.bind state.routes.get? with
  | none => rfl
  | some target =>
    by_cases hpass : target.tlsPassthrough
    · simp [hpass, Plan.target]
    · simp only [hpass]
      cases target.alpnProtocols with
      | none => rfl
      | some alpnProtocols =>
        cases h : buildServerConfig tls alpnProtocols state.config <;> simp [h, Plan.target]

/-- Only the fallback site is served without a proxied route. -/
theorem plan_eq_fallback {state : RouterState} {sni : Option Text}
    (h : (state.plan tls sni).target = none) : state.plan tls sni = .fallback state.serverConfig := by
  rw [plan_target] at h
  simp [plan, h]

theorem plan_versions {config : ServiceConfig} {state : RouterState}
    (hnew : new tls config = .ok state) {sni : Option Text} {serverConfig : ServerConfig}
    (h : (state.plan tls sni).serverConfig = some serverConfig) :
    serverConfig.versions = versionsFor config := by
  rw [new_ok hnew] at h
  unfold plan at h
  split at h
  · next target htarget =>
    split_ifs at h
    · cases h
    · split at h
      · next alpnProtocols halpn =>
        split at h
        · next built hbuild =>
          rw [← Option.some.inj h, buildServerConfig_ok hbuild]
        · cases h
      · rw [← Option.some.inj h]
  · rw [← Option.some.inj h]

/-- All server configurations in use offer `versions` exactly when the
configuration of the state asks for them: the fallback site is always in use. -/
theorem plan_versions_iff {config : ServiceConfig} {state : RouterState}
    (hnew : new tls config = .ok state) (versions : List ProtocolVersion) :
    (∀ sni serverConfig, (state.plan tls sni).serverConfig = some serverConfig →
      serverConfig.versions = versions) ↔ versionsFor config = versions := by
  constructor
  · intro h
    have hfallback := h none state.serverConfig rfl
    rw [← hfallback, new_ok hnew]
  · intro h sni serverConfig hplan
    rw [plan_versions hnew hplan, h]

theorem get?_routes {env : Environment} {config : ServiceConfig} {state : RouterState}
    (hvalid : config.Valid env) (hnew : new tls config = .ok state) {name : Text}
    {target : ProxyTarget} :
    state.routes.get? name = some target ↔ target ∈ config.routes ∧ target.sni = name := by
  rw [new_ok hnew]
  exact Table.get?_insertAll_eq_some ProxyTarget.sni hvalid.snis_nodup

end RouterState

/-! ## Names up to case and trailing dots -/

/-- The server name handed to `route` for a name in the ClientHello. -/
def serverName (host : Text) : Text := host.toAsciiLowercase

/-- A host gets the route whose configured name has the same normal form, and
the fallback site when there is none. -/
def NameLaw (tls : Provider) (document : Document) (state : RouterState) (host : Text) : Prop :=
  (∀ target, (state.plan tls (some (serverName host))).target = some target ↔
    ∃ r ∈ document.routes, norm r.sni = norm host ∧ target = r.deserialize.normalize) ∧
  ((∀ r ∈ document.routes, norm r.sni ≠ norm host) →
    state.plan tls (some (serverName host)) = .fallback state.serverConfig)

theorem toLower_eq_dot_iff (c : Char) : c.toLower = '.' ↔ c = '.' := by
  constructor
  · intro h
    unfold Char.toLower at h
    split at h
    · next hupper =>
      have hlow := UInt32.le_iff_toNat_le.mp hupper.1
      have hhigh := UInt32.le_iff_toNat_le.mp hupper.2
      have hcode := congrArg UInt32.toNat (congrArg Char.val h)
      simp at hlow hhigh hcode
      omega
    · exact h
  · intro h
    rw [h]
    rfl

theorem norm_eq (name : Text) : norm name = name.toAsciiLowercase.trimEndMatches '.' :=
  Text.toAsciiLowercase_trimEndMatches toLower_eq_dot_iff name

theorem getLast?_norm_ne (name : Text) : (norm name).getLast? ≠ some '.' := by
  rw [norm_eq]
  exact Text.getLast?_trimEndMatches_ne _ '.'

/-- Lowercasing alone reaches the normal form of the names that do not end in a dot. -/
theorem serverName_eq_norm_iff {host : Text} :
    serverName host = norm host ↔ host.getLast? ≠ some '.' := by
  rw [norm_eq, eq_comm, serverName, Text.trimEndMatches_eq_self_iff, not_iff_not]
  exact Text.getLast?_toAsciiLowercase toLower_eq_dot_iff

section Loaded

variable {tls : Provider} {env : Environment} {document : Document} {config : ServiceConfig}
  {state : RouterState} (hread : readDocument env = .ok document)
  (hload : ServiceConfig.tryLoad env = .ok config) (hnew : RouterState.new tls config = .ok state)

include hread hload hnew

theorem plan_target_iff (name : Text) (target : ProxyTarget) :
    (state.plan tls (some name)).target = some target ↔
      ∃ r ∈ document.routes, norm r.sni = name ∧ target = r.deserialize.normalize := by
  obtain ⟨document', hread', hroutes, hvalidate⟩ := ServiceConfig.tryLoad_eq_ok hload
  have hsame : document' = document := Except.ok.inj (hread'.symm.trans hread)
  rw [RouterState.plan_target, Option.bind_some,
    RouterState.get?_routes (ServiceConfig.valid_of_validate hvalidate) hnew, hroutes, hsame,
    List.mem_map]
  constructor
  · intro h
    obtain ⟨⟨r, hr, rfl⟩, hname⟩ := h
    exact ⟨r, hr, hname, rfl⟩
  · intro h
    obtain ⟨r, hr, hname, rfl⟩ := h
    exact ⟨⟨r, hr, rfl⟩, hname⟩

/-- Names match up to case and trailing dots exactly for the hosts that do not
end in a dot and for the hosts no route is configured for. -/
theorem nameLaw_iff (host : Text) :
    NameLaw tls document state host ↔
      host.getLast? ≠ some '.' ∨ ∀ r ∈ document.routes, norm r.sni ≠ norm host := by
  have hlookup (target : ProxyTarget) :=
    plan_target_iff hread hload hnew (serverName host) target
  constructor
  · intro h
    by_cases hdot : host.getLast? = some '.'
    · right
      intro r hr hnorm
      have hselected := (h.1 r.deserialize.normalize).mpr ⟨r, hr, hnorm, rfl⟩
      obtain ⟨r', -, hname, -⟩ := (hlookup _).mp hselected
      apply getLast?_norm_ne r'.sni
      rw [hname]
      exact (Text.getLast?_toAsciiLowercase toLower_eq_dot_iff).mpr hdot
    · exact Or.inl hdot
  · intro h
    have hselect (target : ProxyTarget) :
        (state.plan tls (some (serverName host))).target = some target ↔
          ∃ r ∈ document.routes, norm r.sni = norm host ∧ target = r.deserialize.normalize := by
      by_cases hdot : host.getLast? = some '.'
      · have hnone := h.resolve_left (not_not.mpr hdot)
        rw [hlookup]
        constructor
        · intro hfound
          obtain ⟨r, -, hname, -⟩ := hfound
          have hlast := getLast?_norm_ne r.sni
          rw [hname] at hlast
          exact absurd ((Text.getLast?_toAsciiLowercase toLower_eq_dot_iff).mpr hdot) hlast
        · intro hfound
          obtain ⟨r, hr, hnorm, -⟩ := hfound
          exact absurd hnorm (hnone r hr)
      · rw [hlookup, serverName_eq_norm_iff.mpr hdot]
    refine ⟨hselect, ?_⟩
    intro hnone
    apply RouterState.plan_eq_fallback
    rw [Option.eq_none_iff_forall_ne_some]
    intro target htarget
    obtain ⟨r, hr, hnorm, -⟩ := (hselect target).mp htarget
    exact hnone r hr hnorm

end Loaded

theorem nameLaw_iff_mixed_case :
    NameLaw .accepting (minimalDocument "example.com")
        ⟨Table.empty.insertAll ProxyTarget.sni
            [⟨"example.com".toList, "127.0.0.1:8080".toList, none, true⟩],
          ⟨[.tls12, .tls13], defaultAlpnProtocols⟩, (minimalDocument "example.com").deserialize⟩
        "Example.COM".toList ↔
      "Example.COM".toList.getLast? ≠ some '.' ∨
        ∀ r ∈ (minimalDocument "example.com").routes, norm r.sni ≠ norm "Example.COM".toList :=
  nameLaw_iff (show readDocument (.providing (minimalDocument "example.com")) = .ok _ from rfl)
    (by rfl) (by rfl) _

/-- The host `example.com.` has the normal form of the one configured name and
gets the fallback site. -/
theorem nameLaw_fails :
    ∃ env document config state, readDocument env = .ok document ∧
      ServiceConfig.tryLoad env = .ok config ∧ RouterState.new .accepting config = .ok state ∧
      ¬NameLaw .accepting document state "example.com.".toList := by
  refine ⟨.providing (minimalDocument "example.com"), _, _, _, rfl, by rfl, by rfl, ?_⟩
  intro h
  have hselected := (h.1 _).mpr ⟨_, List.mem_singleton_self _, by decide, rfl⟩
  exact absurd hselected (by decide)

end Reprox.Routing
