import Reprox.Server.HotReload

/-!
# Configuration versions seen by a connection

A reload writes two cells one after the other: the certificate resolver and the
router state. A connection reads them at two moments: the router state when it
starts, the certificate during its handshake. Both cells and both readings are
stamped here with the number of the load they belong to, and the four kinds of
steps interleave freely. `sameLoad_iff` says which interleavings let every
connection use a certificate and routes of one load.
-/

namespace Reprox.Server

open Foundations Config Tls Routing

/-- A value with the number of the configuration load it comes from. -/
structure Stamped (α : Type) where
  value : α
  load : ℕ

structure Connection where
  snapshot : Stamped RouterState
  sni : Option Text
  /-- What `resolve` answered, once it was asked. -/
  certificate : Option (Stamped CertifiedKey)

structure ReloadWorld where
  certResolver : Stamped ReloadableCertResolver
  router : Stamped RouterState
  /-- The load whose certificate is written and whose routes are not yet. -/
  pending : Option (Stamped ServiceConfig)
  connections : List Connection

inductive ReloadEvent where
  /-- `ReloadableCertResolver::update` of a reload that loaded everything. -/
  | update (s : Surroundings)
  /-- `Router::reload` of the same reload. -/
  | reload
  /-- A connection takes its snapshot at the start of `Router::route`. -/
  | route (sni : Option Text)
  /-- `ReloadableCertResolver::resolve` in a connection's handshake. -/
  | resolve (connection : ℕ)

namespace ReloadWorld

def new (state : RouterState) (key : CertifiedKey) : ReloadWorld :=
  ⟨⟨⟨key⟩, 0⟩, ⟨state, 0⟩, none, []⟩

def step (tls : Provider) (w : ReloadWorld) : ReloadEvent → Option ReloadWorld
  | .update s =>
    match w.pending, loaded tls s with
    | none, .ok (config, key) =>
      let load := w.certResolver.load + 1
      some { w with
        certResolver := ⟨w.certResolver.value.update key, load⟩
        pending := some ⟨config, load⟩ }
    | _, _ => none
  | .reload =>
    match w.pending with
    | some config =>
      match RouterState.new tls config.value with
      | .ok state => some { w with router := ⟨state, config.load⟩, pending := none }
      | .error _ => none
    | none => none
  | .route sni => some { w with connections := w.connections ++ [⟨w.router, sni, none⟩] }
  | .resolve i =>
    match w.connections[i]? with
    | some c =>
      -- a connection asks once, and only if it terminates TLS here
      if c.certificate.isNone ∧ (c.snapshot.value.plan tls c.sni).serverConfig.isSome then
        some { w with
          connections := w.connections.set i
            { c with
              certificate := some ⟨w.certResolver.value.resolve, w.certResolver.load⟩ } }
      else none
    | none => none

end ReloadWorld

/-- The certificate a connection uses is of the load its routes are of. -/
def Connection.SameLoad (c : Connection) : Prop :=
  ∀ used, c.certificate = some used → used.load = c.snapshot.load

/-! ## Counting the steps of a schedule -/

def updates (es : List ReloadEvent) : ℕ := es.countP fun | .update _ => true | _ => false

def reloads (es : List ReloadEvent) : ℕ := es.countP fun | .reload => true | _ => false

def routed (es : List ReloadEvent) : ℕ := es.countP fun | .route _ => true | _ => false

/-- No connection that reads a certificate took its snapshot between the two
writes of a reload, and none of them sees the certificate change between its
two readings. Connections are numbered in the order of their snapshots. -/
def Separated (es : List ReloadEvent) : Prop :=
  ∀ before sni between after,
    es = before ++ .route sni :: (between ++ .resolve (routed before) :: after) →
      updates before = reloads before ∧ updates between = 0

namespace ReloadWorld

variable {tls : Provider} {w w' : ReloadWorld} {e : ReloadEvent}

theorem step_cases (h : w.step tls e = some w') :
    (∃ s config key, e = .update s ∧ w.pending = none ∧ loaded tls s = .ok (config, key) ∧
      w' = { w with
        certResolver := ⟨w.certResolver.value.update key, w.certResolver.load + 1⟩
        pending := some ⟨config, w.certResolver.load + 1⟩ }) ∨
    (∃ config state, e = .reload ∧ w.pending = some config ∧
      RouterState.new tls config.value = .ok state ∧
      w' = { w with router := ⟨state, config.load⟩, pending := none }) ∨
    (∃ sni, e = .route sni ∧
      w' = { w with connections := w.connections ++ [⟨w.router, sni, none⟩] }) ∨
    (∃ i c, e = .resolve i ∧ w.connections[i]? = some c ∧ c.certificate = none ∧
      w' = { w with
        connections := w.connections.set i
          { c with certificate := some ⟨w.certResolver.value.resolve, w.certResolver.load⟩ } }) := by
  cases e with
  | update s =>
    simp only [step] at h
    split at h
    · next config key hpending hload =>
      exact Or.inl ⟨s, config, key, rfl, hpending, hload, (Option.some.inj h).symm⟩
    · cases h
  | reload =>
    simp only [step] at h
    split at h
    · next config hpending =>
      split at h
      · next state hnew =>
        exact Or.inr (Or.inl ⟨config, state, rfl, hpending, hnew, (Option.some.inj h).symm⟩)
      · cases h
    · cases h
  | route sni => exact Or.inr (Or.inr (Or.inl ⟨sni, rfl, (Option.some.inj h).symm⟩))
  | resolve i =>
    simp only [step] at h
    split at h
    · next c hc =>
      split_ifs at h with hasks
      exact Or.inr (Or.inr (Or.inr ⟨i, c, rfl, hc, Option.isNone_iff_eq_none.mp hasks.1,
        (Option.some.inj h).symm⟩))
    · cases h

/-- What the schedule so far says about the two cells. -/
structure Cells (es : List ReloadEvent) (w : ReloadWorld) : Prop where
  certificate : w.certResolver.load = updates es
  routes : w.router.load = reloads es
  pending_none : w.pending = none → updates es = reloads es
  pending_some : ∀ config, w.pending = some config →
    config.load = updates es ∧ updates es = reloads es + 1

theorem step_cells {es : List ReloadEvent} (h : Cells es w) (hstep : w.step tls e = some w') :
    Cells (es ++ [e]) w' := by
  have hcert := h.certificate
  have hroutes := h.routes
  rcases step_cases hstep with ⟨s, config, key, rfl, hpending, -, rfl⟩ |
    ⟨config, state, rfl, hpending, -, rfl⟩ | ⟨sni, rfl, rfl⟩ | ⟨i, c, rfl, -, -, rfl⟩
  · have hidle := h.pending_none hpending
    refine ⟨?_, ?_, ?_, ?_⟩
    · simp [updates] at hcert ⊢
      omega
    · simpa [reloads] using hroutes
    · intro hnone
      cases hnone
    · intro config' hsome
      cases hsome
      simp [updates, reloads] at hcert hidle ⊢
      omega
  · obtain ⟨hload, hhalf⟩ := h.pending_some config hpending
    refine ⟨?_, ?_, ?_, ?_⟩
    · simpa [updates] using hcert
    · simp [updates, reloads] at hload hhalf ⊢
      omega
    · intro _
      simpa [updates, reloads] using hhalf
    · intro config' hsome
      cases hsome
  · exact ⟨by simpa [updates] using hcert, by simpa [reloads] using hroutes,
      by simpa [updates, reloads] using h.pending_none,
      by simpa [updates, reloads] using h.pending_some⟩
  · exact ⟨by simpa [updates] using hcert, by simpa [reloads] using hroutes,
      by simpa [updates, reloads] using h.pending_none,
      by simpa [updates, reloads] using h.pending_some⟩

theorem step_keeps (h : w.step tls e = some w') {i : ℕ} {c : Connection}
    (hc : w.connections[i]? = some c) :
    ∃ c', w'.connections[i]? = some c' ∧ c'.snapshot = c.snapshot ∧
      ∀ used, c.certificate = some used → c'.certificate = some used := by
  rcases step_cases h with ⟨s, config, key, -, -, -, rfl⟩ | ⟨config, state, -, -, -, rfl⟩ |
    ⟨sni, -, rfl⟩ | ⟨j, d, -, hd, hnone, rfl⟩
  · exact ⟨c, hc, rfl, fun _ hused => hused⟩
  · exact ⟨c, hc, rfl, fun _ hused => hused⟩
  · refine ⟨c, ?_, rfl, fun _ hused => hused⟩
    exact List.getElem?_append_left (List.getElem?_eq_some_iff.mp hc).1 ▸ hc
  · by_cases hij : j = i
    · subst hij
      rw [hc] at hd
      cases hd
      refine ⟨_, List.getElem?_set_self (List.getElem?_eq_some_iff.mp hc).1, rfl, ?_⟩
      intro used hused
      rw [hnone] at hused
      cases hused
    · refine ⟨c, ?_, rfl, fun _ hused => hused⟩
      rw [List.getElem?_set_ne hij]
      exact hc

theorem step_origin (h : w.step tls e = some w') {i : ℕ} {c' : Connection}
    (hc' : w'.connections[i]? = some c') :
    w.connections[i]? = some c' ∨
    (∃ sni, e = .route sni ∧ i = w.connections.length ∧ c' = ⟨w.router, sni, none⟩) ∨
    (e = .resolve i ∧ ∃ c, w.connections[i]? = some c ∧ c'.snapshot = c.snapshot ∧
      ∀ used, c'.certificate = some used → used.load = w.certResolver.load) := by
  rcases step_cases h with ⟨s, config, key, -, -, -, rfl⟩ | ⟨config, state, -, -, -, rfl⟩ |
    ⟨sni, rfl, rfl⟩ | ⟨j, d, rfl, hd, -, rfl⟩
  · exact Or.inl hc'
  · exact Or.inl hc'
  · rw [List.getElem?_append] at hc'
    split_ifs at hc' with hlt
    · exact Or.inl hc'
    · right; left
      obtain ⟨hi, hval⟩ := List.getElem?_eq_some_iff.mp hc'
      simp only [List.length_singleton] at hi
      refine ⟨sni, rfl, by omega, ?_⟩
      simpa using hval.symm
  · by_cases hij : j = i
    · subst hij
      right; right
      rw [List.getElem?_set_self (List.getElem?_eq_some_iff.mp hd).1] at hc'
      cases hc'
      refine ⟨rfl, d, hd, rfl, ?_⟩
      intro used hused
      cases hused
      rfl
    · left
      rwa [List.getElem?_set_ne hij] at hc'

theorem step_route {sni : Option Text} (h : w.step tls (.route sni) = some w') :
    w'.connections = w.connections ++ [⟨w.router, sni, none⟩] := by
  rcases step_cases h with ⟨_, _, _, he, -⟩ | ⟨_, _, he, -⟩ | ⟨_, he, rfl⟩ | ⟨_, _, he, -⟩
  · cases he
  · cases he
  · cases he
    rfl
  · cases he

theorem step_resolve {i : ℕ} (h : w.step tls (.resolve i) = some w') :
    ∃ c' used, w'.connections[i]? = some c' ∧ c'.certificate = some used ∧
      used.load = w.certResolver.load := by
  rcases step_cases h with ⟨_, _, _, he, -⟩ | ⟨_, _, he, -⟩ | ⟨_, he, -⟩ | ⟨j, c, he, hc, -, rfl⟩
  · cases he
  · cases he
  · cases he
  · cases he
    exact ⟨_, _, List.getElem?_set_self (List.getElem?_eq_some_iff.mp hc).1, rfl, rfl⟩

theorem step_length (h : w.step tls e = some w') :
    w'.connections.length = w.connections.length + routed [e] := by
  rcases step_cases h with ⟨s, config, key, rfl, -, -, rfl⟩ | ⟨config, state, rfl, -, -, rfl⟩ |
    ⟨sni, rfl, rfl⟩ | ⟨i, c, rfl, -, -, rfl⟩ <;> simp [routed]

/-- What the schedule so far says about the connections. -/
structure Readings (es : List ReloadEvent) (w : ReloadWorld) : Prop where
  length : w.connections.length = routed es
  kept : ∀ before sni rest, es = before ++ .route sni :: rest →
    ∃ c : Connection, w.connections[routed before]? = some c ∧
      c.snapshot.load = reloads before
  taken : ∀ (i : ℕ) (c : Connection), w.connections[i]? = some c →
    ∃ before sni rest, es = before ++ .route sni :: rest ∧ routed before = i ∧
      c.snapshot.load = reloads before
  answered : ∀ before sni between after,
    es = before ++ .route sni :: (between ++ .resolve (routed before) :: after) →
      ∃ (c : Connection) (used : Stamped CertifiedKey), w.connections[routed before]? = some c ∧
        c.certificate = some used ∧ c.snapshot.load = reloads before ∧
          used.load = updates before + updates between
  asked : ∀ (i : ℕ) (c : Connection) (used : Stamped CertifiedKey),
    w.connections[i]? = some c → c.certificate = some used →
    ∃ before sni between after,
      es = before ++ .route sni :: (between ++ .resolve (routed before) :: after) ∧
        c.snapshot.load = reloads before ∧ used.load = updates before + updates between

theorem updates_route (before between : List ReloadEvent) (sni : Option Text) :
    updates (before ++ .route sni :: between) = updates before + updates between := by
  simp [updates]

theorem step_readings {es : List ReloadEvent} (hcells : Cells es w) (h : Readings es w)
    (hstep : w.step tls e = some w') : Readings (es ++ [e]) w' where
  length := by
    rw [step_length hstep, h.length]
    simp [routed]
  kept := by
    intro before sni rest hsplit
    rcases concat_eq_split hsplit with ⟨-, rfl, rfl⟩ | ⟨rest', -, hes⟩
    · refine ⟨⟨w.router, sni, none⟩, ?_, hcells.routes⟩
      rw [step_route hstep, ← h.length]
      exact List.getElem?_concat_length
    · obtain ⟨c, hc, hload⟩ := h.kept before sni rest' hes
      obtain ⟨c', hc', hsnapshot, -⟩ := step_keeps hstep hc
      exact ⟨c', hc', hsnapshot ▸ hload⟩
  taken := by
    intro i c' hc'
    have hold {c : Connection} (hc : w.connections[i]? = some c)
        (hsnapshot : c'.snapshot = c.snapshot) :
        ∃ before sni rest, es ++ [e] = before ++ .route sni :: rest ∧ routed before = i ∧
          c'.snapshot.load = reloads before := by
      obtain ⟨before, sni, rest, rfl, hi, hload⟩ := h.taken i c hc
      exact ⟨before, sni, rest ++ [e], by simp, hi, hsnapshot ▸ hload⟩
    rcases step_origin hstep hc' with hc | ⟨sni, rfl, hi, rfl⟩ | ⟨-, c, hc, hsnapshot, -⟩
    · exact hold hc rfl
    · exact ⟨es, sni, [], rfl, h.length.symm.trans hi.symm, hcells.routes⟩
    · exact hold hc hsnapshot
  answered := by
    intro before sni between after hsplit
    rw [← List.cons_append, ← List.append_assoc] at hsplit
    rcases concat_eq_split hsplit with ⟨-, rfl, hes⟩ | ⟨after', -, hes⟩
    · obtain ⟨c, hc, hload⟩ := h.kept before sni between hes
      obtain ⟨c', hc', hsnapshot, -⟩ := step_keeps hstep hc
      obtain ⟨c'', used, hc'', hused, hat⟩ := step_resolve hstep
      rw [hc'] at hc''
      cases hc''
      refine ⟨c', used, hc', hused, hsnapshot ▸ hload, ?_⟩
      rw [hat, hcells.certificate, hes, updates_route]
    · rw [List.append_assoc, List.cons_append] at hes
      obtain ⟨c, used, hc, hused, hload, hat⟩ := h.answered before sni between after' hes
      obtain ⟨c', hc', hsnapshot, hkept⟩ := step_keeps hstep hc
      exact ⟨c', used, hc', hkept used hused, hsnapshot ▸ hload, hat⟩
  asked := by
    intro i c' used hc' hused
    rcases step_origin hstep hc' with hc | ⟨sni, rfl, hi, rfl⟩ | ⟨rfl, c, hc, hsnapshot, hat⟩
    · obtain ⟨before, sni, between, after, rfl, hload, hused'⟩ := h.asked i c' used hc hused
      exact ⟨before, sni, between, after ++ [e], by simp, hload, hused'⟩
    · cases hused
    · obtain ⟨before, sni, rest, hes, rfl, hload⟩ := h.taken i c hc
      refine ⟨before, sni, rest, [], ?_, hsnapshot ▸ hload, ?_⟩
      · rw [hes]
        simp
      · rw [hat used hused, hcells.certificate, hes, updates_route]

/-- The run rule: both readings of every connection, in terms of the schedule. -/
theorem run_readings {state : RouterState} {key : CertifiedKey} {es : List ReloadEvent}
    (run : exec (step tls) (new state key) es = some w) : Cells es w ∧ Readings es w := by
  refine exec_history (R := fun es w => Cells es w ∧ Readings es w) ⟨?_, ?_⟩ ?_ run
  · exact ⟨rfl, rfl, fun _ => rfl, fun _ h => by cases h⟩
  · exact ⟨rfl, by simp, by simp [new], by simp, by simp [new]⟩
  · intro es w e w' h hstep
    exact ⟨step_cells h.1 hstep, step_readings h.1 h.2 hstep⟩

/-- In every interleaving of reloads and connections, every connection uses a
certificate and routes of one load exactly when no reload comes between its
two readings, or stands between its own two writes at the first of them. -/
theorem sameLoad_iff {state : RouterState} {key : CertifiedKey} {es : List ReloadEvent}
    (run : exec (step tls) (new state key) es = some w) :
    (∀ c ∈ w.connections, c.SameLoad) ↔ Separated es := by
  obtain ⟨-, hreadings⟩ := run_readings run
  have hhalf {before rest : List ReloadEvent} (hcut : es = before ++ rest) :
      reloads before ≤ updates before := by
    rw [hcut] at run
    obtain ⟨u, hu, -⟩ := exec_append_eq_some.mp run
    obtain ⟨hcells, -⟩ := run_readings hu
    cases hpending : u.pending with
    | none => exact (hcells.pending_none hpending).ge
    | some config => exact (hcells.pending_some config hpending).2 ▸ Nat.le_succ _
  constructor
  · intro h before sni between after hsplit
    obtain ⟨c, used, hc, hused, hload, hat⟩ := hreadings.answered before sni between after hsplit
    have hsame := h c (List.mem_of_getElem? hc) used hused
    have hle := hhalf hsplit
    omega
  · intro h c hc used hused
    obtain ⟨i, hi⟩ := List.mem_iff_getElem?.mp hc
    obtain ⟨before, sni, between, after, hsplit, hload, hat⟩ := hreadings.asked i c used hi hused
    obtain ⟨hidle, hquiet⟩ := h before sni between after hsplit
    omega

theorem sameLoad_iff_reload_between :
    ∃ p₀ w, startMinimal = .ok p₀ ∧
      exec (step .accepting) (new p₀.router p₀.certResolver.certKey) [.route none, .resolve 0,
        .update (.providing (minimalDocument "example.org")), .reload, .route none,
        .resolve 1] = some w ∧
      ((∀ c ∈ w.connections, c.SameLoad) ↔ Separated [.route none, .resolve 0,
        .update (.providing (minimalDocument "example.org")), .reload, .route none,
        .resolve 1]) := by
  refine ⟨_, _, by rfl, by rfl, ?_⟩
  exact sameLoad_iff (show exec (step .accepting) _ _ = some _ by rfl)

/-- A whole reload between the snapshot and the handshake of one connection:
old routes, new certificate. -/
theorem sameLoad_fails :
    ∃ p₀ w, startMinimal = .ok p₀ ∧
      exec (step .accepting) (new p₀.router p₀.certResolver.certKey) [.route none,
        .update (.providing (minimalDocument "example.org")), .reload, .resolve 0] = some w ∧
      ¬∀ c ∈ w.connections, c.SameLoad := by
  refine ⟨_, _, by rfl, by rfl, ?_⟩
  intro h
  have hsame := h _ (List.mem_singleton_self _) _ rfl
  exact absurd hsame (by decide)

end ReloadWorld

end Reprox.Server
