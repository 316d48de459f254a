import Reprox.Routing.Router

/-!
# The table of an accepted configuration

The duplicate check and the table use the same key, the normalised name, so no
route of an accepted configuration is lost in the table and the order in which
the routes are listed has no effect. Two entries whose names differ only in
case or trailing dots never get that far.
-/

namespace Reprox.Routing

open Foundations Config Tls

/-- The names differ at most in ASCII case and in trailing dots. -/
def SameHost (name name' : Text) : Prop :=
  ∃ stem stem' m n, name = stem ++ List.replicate m '.' ∧ name' = stem' ++ List.replicate n '.' ∧
    stem.toAsciiLowercase = stem'.toAsciiLowercase

theorem SameHost.norm_eq {name name' : Text} (h : SameHost name name') : norm name = norm name' := by
  obtain ⟨stem, stem', m, n, rfl, rfl, hstem⟩ := h
  unfold Config.norm
  rw [Text.trimEndMatches_append_replicate, Text.trimEndMatches_append_replicate,
    Text.toAsciiLowercase_trimEndMatches toLower_eq_dot_iff,
    Text.toAsciiLowercase_trimEndMatches toLower_eq_dot_iff, hstem]

/-- The table holds the listed routes under their normalised names, one entry
for each, and nothing else. -/
structure HoldsExactly (routes : Table Text ProxyTarget) (listed : List RawTarget) : Prop where
  size : routes.size = listed.length
  found : ∀ r ∈ listed, routes.get? (norm r.sni) = some r.deserialize.normalize
  other : ∀ name, (∀ r ∈ listed, norm r.sni ≠ name) → routes.get? name = none

theorem holdsExactly_insertAll {listed : List RawTarget}
    (nodup : ((listed.map fun r => r.deserialize.normalize).map ProxyTarget.sni).Nodup) :
    HoldsExactly (Table.empty.insertAll ProxyTarget.sni
      (listed.map fun r => r.deserialize.normalize)) listed where
  size := by rw [Table.size_insertAll ProxyTarget.sni nodup, List.length_map]
  found r hr := by
    rw [Table.get?_insertAll_eq_some ProxyTarget.sni nodup]
    exact ⟨List.mem_map_of_mem hr, rfl⟩
  other name hname := by
    rw [Option.eq_none_iff_forall_ne_some]
    intro target htarget
    obtain ⟨hlisted, hsni⟩ := (Table.get?_insertAll_eq_some ProxyTarget.sni nodup).mp htarget
    obtain ⟨r, hr, rfl⟩ := List.mem_map.mp hlisted
    exact hname r hr hsni

theorem HoldsExactly.eq_of_perm {routes routes' : Table Text ProxyTarget}
    {listed listed' : List RawTarget} (h : HoldsExactly routes listed)
    (h' : HoldsExactly routes' listed') (hperm : listed'.Perm listed) : routes' = routes := by
  ext1
  funext name
  by_cases hname : ∃ r ∈ listed, norm r.sni = name
  · obtain ⟨r, hr, rfl⟩ := hname
    rw [h.found r hr, h'.found r (hperm.mem_iff.mpr hr)]
  · have hnone : ∀ r ∈ listed, norm r.sni ≠ name := fun r hr heq => hname ⟨r, hr, heq⟩
    rw [h.other name hnone, h'.other name fun r hr => hnone r (hperm.mem_iff.mp hr)]

section Loaded

variable {tls : Provider} {env : Environment} {document : Document}

theorem listed_of_tryLoad {config : ServiceConfig} (hread : readDocument env = .ok document)
    (hload : ServiceConfig.tryLoad env = .ok config) :
    ((document.routes.map fun r => r.deserialize.normalize).map ProxyTarget.sni).Nodup ∧
      config.routes = document.routes.map fun r => r.deserialize.normalize := by
  obtain ⟨document', hdocument', hroutes, hvalidate⟩ := ServiceConfig.tryLoad_eq_ok hload
  cases Except.ok.inj (hdocument'.symm.trans hread)
  rw [← hroutes]
  exact ⟨(ServiceConfig.valid_of_validate hvalidate).snis_nodup, rfl⟩

/-- The table of an accepted configuration is built, no route is shadowed in it,
their order has no effect, and entries whose names differ only in case or
trailing dots are not accepted. -/
theorem routeTable_exact (hversions : tls.SupportsVersions)
    (hread : readDocument env = .ok document) :
    (∀ config, ServiceConfig.tryLoad env = .ok config →
      ∃ state, RouterState.new tls config = .ok state ∧
        HoldsExactly state.routes document.routes ∧
        ∀ listed env', listed.Perm document.routes → env.SameAround env' →
          readDocument env' = .ok { document with routes := listed } →
            ∃ config' state', ServiceConfig.tryLoad env' = .ok config' ∧
              RouterState.new tls config' = .ok state' ∧ state'.routes = state.routes) ∧
    ∀ (i j : ℕ) (r r' : RawTarget), i ≠ j → document.routes[i]? = some r →
      document.routes[j]? = some r' → SameHost r.sni r'.sni →
        ∃ report, ServiceConfig.tryLoad env = .error report := by
  constructor
  · intro config hload
    obtain ⟨hnodup, hroutes⟩ := listed_of_tryLoad hread hload
    have hnew := RouterState.new_of_supports hversions config
    have hexact : HoldsExactly (Table.empty.insertAll ProxyTarget.sni config.routes)
        document.routes := by
      rw [hroutes]
      exact holdsExactly_insertAll hnodup
    refine ⟨_, hnew, hexact, ?_⟩
    intro listed env' hperm haround hread'
    have hload' := ServiceConfig.tryLoad_reorder haround hread hload hread' hperm
    refine ⟨_, _, hload', RouterState.new_of_supports hversions _, ?_⟩
    exact hexact.eq_of_perm (holdsExactly_insertAll (listed_of_tryLoad hread' hload').1) hperm
  · intro i j r r' hij hr hr' hsame
    cases hload : ServiceConfig.tryLoad env with
    | error report => exact ⟨report, rfl⟩
    | ok config =>
      obtain ⟨hnodup, -⟩ := listed_of_tryLoad hread hload
      have hi : i < document.routes.length := (List.getElem?_eq_some_iff.mp hr).1
      have hsni : (document.routes.map fun r : RawTarget => r.deserialize.normalize.sni)[i]? =
          (document.routes.map fun r : RawTarget => r.deserialize.normalize.sni)[j]? := by
        rw [List.getElem?_map, List.getElem?_map, hr, hr']
        exact congrArg some hsame.norm_eq
      rw [List.map_map] at hnodup
      exact absurd ((List.getElem?_inj (by simpa using hi) hnodup).mp hsni) hij

end Loaded

def routedDocument (routes : List RawTarget) : Document :=
  { minimalDocument "example.com" with routes }

def passthroughRoute : RawTarget := ⟨"Example.com".toList, "127.0.0.1:8080".toList, none, none⟩

def terminatingRoute : RawTarget :=
  ⟨"example.org.".toList, "localhost:9090".toList, some ["h2".toList], some false⟩

/-- Two routes are accepted in both orders, with one table. A third, for the name
of the first spelled otherwise, is not. -/
theorem routeTable_exact_swapped :
    (∃ config state,
      ServiceConfig.tryLoad (.providing (routedDocument [passthroughRoute, terminatingRoute])) =
        .ok config ∧
      RouterState.new .accepting config = .ok state ∧
      HoldsExactly state.routes [passthroughRoute, terminatingRoute] ∧
      ∃ config' state',
        ServiceConfig.tryLoad (.providing (routedDocument [terminatingRoute, passthroughRoute])) =
          .ok config' ∧
        RouterState.new .accepting config' = .ok state' ∧ state'.routes = state.routes) ∧
    ∃ report, ServiceConfig.tryLoad (.providing (routedDocument
      [passthroughRoute, terminatingRoute,
        { passthroughRoute with sni := "eXample.COM..".toList }])) = .error report := by
  have hversions := Provider.accepting_supportsVersions
  have hload : ∃ config, ServiceConfig.tryLoad
      (.providing (routedDocument [passthroughRoute, terminatingRoute])) = .ok config :=
    ⟨_, by rfl⟩
  obtain ⟨config, hconfig⟩ := hload
  constructor
  · obtain ⟨state, hnew, hexact, hperm⟩ := (routeTable_exact hversions rfl).1 config hconfig
    refine ⟨config, state, hconfig, hnew, hexact, ?_⟩
    exact hperm _ _ (List.Perm.swap _ _ _) ⟨rfl, rfl, rfl⟩ rfl
  · refine (routeTable_exact hversions rfl).2 0 2 _ _ (by decide) rfl rfl ?_
    exact ⟨"Example.com".toList, "eXample.COM".toList, 0, 2, by decide, by decide, by decide⟩

end Reprox.Routing
