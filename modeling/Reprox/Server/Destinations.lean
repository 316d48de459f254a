import Reprox.Server.Slots

/-!
# Where connections go

A connection takes the routing state once, when its task begins. Where it goes
follows from that state and the name it asks for, whatever is reloaded while it
waits, and the state is that of a configuration that loaded. What a task has to
show for the point where it stands is a matter of the events so far, so the
invariant relates the two.
-/

namespace Reprox.Server

open Foundations Net Config Tls Routing Limits Metrics

/-! ## The routing state in force -/

def swappedIn : FrontEvent → Option RouterState
  | .main (.reload state) => some state
  | _ => none

def routerAfter (start : RouterState) (es : List FrontEvent) : RouterState :=
  lastSet swappedIn start es

theorem routerAfter_concat (start : RouterState) (es : List FrontEvent) (e : FrontEvent) :
    routerAfter start (es ++ [e]) = (swappedIn e).getD (routerAfter start es) :=
  lastSet_concat swappedIn start es e

theorem routerAfter_cases (start : RouterState) (es : List FrontEvent) :
    routerAfter start es = start ∨ .main (.reload (routerAfter start es)) ∈ es := by
  induction es using List.reverseRecOn with
  | nil => exact Or.inl rfl
  | append_singleton es e ih =>
    rw [routerAfter_concat]
    cases h : swappedIn e with
    | none => exact ih.imp id fun hmem => List.mem_append_left [e] hmem
    | some state =>
      right
      unfold swappedIn at h
      split at h
      · cases h
        simp
      · cases h

theorem loopStep_router {s s' : Shared} {e : LoopEvent} {t : Option ConnTask}
    (h : s.loopStep e = some (s', t)) : s'.router = s.router := by
  cases Shared.loopStep_inv h <;> rfl

theorem taskStep_router {tls : Provider} {t t' : ConnTask} {s s' : Shared} {e : TaskEvent}
    (h : taskStep tls t s e = some (t', s')) : s'.router = s.router := by
  rcases taskStep_cases h with ⟨-, -, rfl⟩ | ⟨-, -, rfl⟩ | ⟨-, -, rfl⟩ | ⟨-, -, rfl⟩ |
    ⟨q, st, -, -, rfl⟩ <;> rfl

theorem step_router {tls : Provider} {front next : Front} {e : FrontEvent}
    (h : front.step tls e = some next) :
    next.shared.router = (swappedIn e).getD front.shared.router := by
  cases e with
  | main n =>
    obtain ⟨s, t, hmain, rfl⟩ := Pool.advance_eq_some.mp h
    cases n with
    | loop e => exact loopStep_router hmain
    | _ =>
      cases hmain
      rfl
  | task i e =>
    obtain ⟨t, t', s, -, hact, rfl⟩ := Pool.fire_eq_some.mp h
    exact taskStep_router hact

/-! ## What a task follows -/

section Follows

variable (tls : Provider) (start : RouterState) (es : List FrontEvent) (i : ℕ)

/-- Task `i` took this state, which was in force then; `after` is what came later. -/
def Took (state : RouterState) (after : List FrontEvent) : Prop :=
  ∃ before, es = before ++ .task i .snapshot :: after ∧ state = routerAfter start before

/-- The plan of task `i` is that of the state it took, for the name it asked for. -/
def Routed (plan : Plan) : Prop :=
  ∃ state after sni, Took start es i state after ∧ .task i (.probed (.hello sni)) ∈ after ∧
    plan = state.plan tls sni

/-- The relay is to the target of the plan of task `i`, at the address the target has. -/
def Relays (relay : Relay) : Prop :=
  ∃ plan, Routed tls start es i plan ∧ plan.target = some relay.target ∧
    relay.endpoint = relay.target.upstream

def Follows : TaskPoint → Prop
  | .probing state => ∃ after, Took start es i state after
  | .helloRead state sni =>
    ∃ after, Took start es i state after ∧ .task i (.probed (.hello sni)) ∈ after
  | .sniCounted plan | .begun plan | .active plan => Routed tls start es i plan
  | .relaying relay _ | .copying relay _ _ | .bytesCounted relay _ => Relays tls start es i relay
  | .secured _ | .serving => ∃ plan, Routed tls start es i plan ∧ plan.target = none
  | _ => True

variable {tls start es i}

theorem Took.concat {state : RouterState} {after : List FrontEvent}
    (h : Took start es i state after) (e : FrontEvent) :
    Took start (es ++ [e]) i state (after ++ [e]) := by
  obtain ⟨before, rfl, hstate⟩ := h
  exact ⟨before, by simp, hstate⟩

theorem Routed.concat {plan : Plan} (h : Routed tls start es i plan) (e : FrontEvent) :
    Routed tls start (es ++ [e]) i plan := by
  obtain ⟨state, after, sni, htook, hprobed, hplan⟩ := h
  exact ⟨state, after ++ [e], sni, htook.concat e, List.mem_append_left _ hprobed, hplan⟩

theorem Relays.concat {relay : Relay} (h : Relays tls start es i relay) (e : FrontEvent) :
    Relays tls start (es ++ [e]) i relay :=
  h.imp fun _ hplan => ⟨hplan.1.concat e, hplan.2⟩

/-- What other parties do is nothing to a task. -/
theorem Follows.concat {p : TaskPoint} (h : Follows tls start es i p) (e : FrontEvent) :
    Follows tls start (es ++ [e]) i p := by
  cases p with
  | probing state =>
    obtain ⟨after, htook⟩ := h
    exact ⟨after ++ [e], htook.concat e⟩
  | helloRead state sni =>
    obtain ⟨after, htook, hprobed⟩ := h
    exact ⟨after ++ [e], htook.concat e, List.mem_append_left _ hprobed⟩
  | sniCounted plan => exact Routed.concat h e
  | begun plan => exact Routed.concat h e
  | active plan => exact Routed.concat h e
  | relaying relay attempt => exact Relays.concat h e
  | copying relay fromClient fromUpstream => exact Relays.concat h e
  | bytesCounted relay fromUpstream => exact Relays.concat h e
  | secured alpn => exact h.imp fun plan hplan => ⟨hplan.1.concat e, hplan.2⟩
  | serving => exact h.imp fun plan hplan => ⟨hplan.1.concat e, hplan.2⟩
  | _ => trivial

theorem Follows.advance {p q : TaskPoint} {st st' : Stats} {e : TaskEvent}
    (h : Follows tls start es i p) (hadvance : advanceStats tls p st e = some (q, st')) :
    Follows tls start (es ++ [.task i e]) i q := by
  have hkept := h.concat (.task i e)
  cases advanceStats_inv hadvance with
  | hello =>
    obtain ⟨after, htook⟩ := h
    exact ⟨_, htook.concat _, by simp⟩
  | countSni =>
    obtain ⟨after, htook, hprobed⟩ := hkept
    exact ⟨_, after, _, htook, hprobed, rfl⟩
  -- The relay is made of the plan's own target.
  | passThrough | terminate => exact ⟨_, hkept, rfl, rfl⟩
  | secure => exact ⟨_, hkept, rfl⟩
  | countTotal | enter | retry | connect | copy | endSession | countAlpn | request => exact hkept
  | _ => trivial

end Follows

/-! ## Whole runs -/

section Runs

variable {tls : Provider} {front₀ front : Front} {es : List FrontEvent}

theorem follows_of_spawned {s s' : Shared} {e : MainEvent} {t : ConnTask}
    (h : s.mainStep e = some (s', some t)) : t.point = .entered := by
  cases e with
  | loop e =>
    cases Shared.loopStep_inv h
    rfl
  | _ => cases h

theorem eq_snapshot_of_entered {t t' : ConnTask} {s s' : Shared} {e : TaskEvent}
    (h : taskStep tls t s e = some (t', s')) (ht : t.point = .entered) : e = .snapshot := by
  unfold taskStep at h
  rw [ht] at h
  cases e <;> first | rfl | cases h

/-- A step of the task itself; its snapshot is of the state then in force. -/
theorem Follows.taskStep {start : RouterState} {i : ℕ} {t t' : ConnTask} {s s' : Shared}
    {e : TaskEvent} (h : Follows tls start es i t.point) (hrouter : s.router = routerAfter start es)
    (hact : Server.taskStep tls t s e = some (t', s')) :
    Follows tls start (es ++ [.task i e]) i t'.point := by
  rcases taskStep_cases hact with ⟨hp, rfl, rfl⟩ | ⟨hp, rfl, rfl⟩ | ⟨hp, rfl, rfl⟩ |
    ⟨hp, rfl, rfl⟩ | ⟨q, st, hadvance, rfl, rfl⟩
  · rw [eq_snapshot_of_entered hact hp]
    exact ⟨[], es, rfl, hrouter⟩
  · trivial
  · trivial
  · trivial
  · exact h.advance hadvance

theorem step_follows {next : Front} {e : FrontEvent} {start : RouterState}
    (hrouter : front.shared.router = routerAfter start es)
    (h : ∀ i t, front.tasks[i]? = some t → Follows tls start es i t.point)
    (hstep : front.step tls e = some next) :
    ∀ i t, next.tasks[i]? = some t → Follows tls start (es ++ [e]) i t.point := by
  intro i t ht
  cases e with
  | main n =>
    obtain ⟨s, spawned, hmain, rfl⟩ := Pool.advance_eq_some.mp hstep
    by_cases hlt : i < front.tasks.length
    · rw [List.getElem?_append_left hlt] at ht
      exact (h i t ht).concat _
    · rw [List.getElem?_append_right (not_lt.mp hlt)] at ht
      have hmem := List.mem_of_getElem? ht
      rw [Option.mem_toList] at hmem
      rw [Option.mem_def.mp hmem] at hmain
      rw [follows_of_spawned hmain]
      trivial
  | task j l =>
    obtain ⟨t₀, t', s, ht₀, hact, rfl⟩ := Pool.fire_eq_some.mp hstep
    by_cases hij : j = i
    · subst hij
      obtain ⟨hlt, -⟩ := List.getElem?_eq_some_iff.mp ht₀
      rw [List.getElem?_set_self hlt] at ht
      cases ht
      exact (h j t₀ ht₀).taskStep hrouter hact
    · rw [List.getElem?_set_ne hij] at ht
      exact (h i t ht).concat _

/-- The run lemma. -/
theorem follows_run {permits maxPerIp : Usize} {ratePerSec : ℚ} {burst : ℕ} {start : RouterState}
    (run : exec (Front.step tls) (.start permits maxPerIp ratePerSec burst start) es = some front) :
    ∀ i t, front.tasks[i]? = some t → Follows tls start es i t.point := by
  have hboth : front.shared.router = routerAfter start es ∧
      ∀ i t, front.tasks[i]? = some t → Follows tls start es i t.point := by
    refine exec_history (R := fun es (front : Front) => front.shared.router = routerAfter start es ∧
      ∀ i t, front.tasks[i]? = some t → Follows tls start es i t.point) ⟨rfl, ?_⟩ ?_ run
    · intro i t ht
      cases ht
    · intro es front e next hfront hstep
      refine ⟨?_, step_follows hfront.1 hfront.2 hstep⟩
      rw [step_router hstep, routerAfter_concat, hfront.1]
  exact hboth.2

end Runs

/-! ## Under the reloads of the process -/

namespace TaskPoint

def relay? : TaskPoint → Option Relay
  | .relaying relay _ | .copying relay _ _ | .bytesCounted relay _ => some relay
  | _ => none

def serves : TaskPoint → Bool
  | .secured _ | .serving => true
  | _ => false

/-- The task holds its guard and its session is not over. -/
def inSession : TaskPoint → Bool
  | .active _ => true
  | p => p.relay?.isSome || p.serves

theorem serves_of_relay {p : TaskPoint} {relay : Relay} (h : p.relay? = some relay) :
    p.serves = false := by
  cases p <;> first | rfl | cases h

theorem inSession_iff {p : TaskPoint} :
    p.inSession = true ↔
      (∃ plan, p = .active plan) ∨ (∃ relay, p.relay? = some relay) ∨ p.serves = true := by
  cases p <;> simp [inSession, relay?, serves]

end TaskPoint

theorem Follows.relays {tls : Provider} {start : RouterState} {es : List FrontEvent} {i : ℕ}
    {p : TaskPoint} (h : Follows tls start es i p) {relay : Relay} (hp : p.relay? = some relay) :
    Relays tls start es i relay := by
  cases p <;> cases hp <;> exact h

theorem Follows.serves {tls : Provider} {start : RouterState} {es : List FrontEvent} {i : ℕ}
    {p : TaskPoint} (h : Follows tls start es i p) (hp : p.serves = true) :
    ∃ plan, Routed tls start es i plan ∧ plan.target = none := by
  cases p <;> first | exact h | cases hp

/-- Task `i` goes by this configuration: it loaded, it was in force when the task
took its snapshot, and later the client asked for `sni`. -/
structure GoesBy (tls : Provider) (start : RouterState) (es : List FrontEvent) (i : ℕ)
    (config : ServiceConfig) (sni : Option Text) : Prop where
  loads : ∃ env, ServiceConfig.tryLoad env = .ok config
  in_force : ∃ before after, es = before ++ .task i .snapshot :: after ∧
    RouterState.new tls config = .ok (routerAfter start before) ∧
      .task i (.probed (.hello sni)) ∈ after

/-- Where a configuration sends the clients that ask for `sni`. -/
structure Destined (config : ServiceConfig) (sni : Option Text) (p : TaskPoint) : Prop where
  active : ∀ plan, p = .active plan →
    ∀ target, plan.target = some target ↔ target ∈ config.routes ∧ sni = some target.sni
  relayed : ∀ relay, p.relay? = some relay →
    relay.target ∈ config.routes ∧ relay.target.Valid ∧ sni = some relay.target.sni ∧
      relay.endpoint = relay.target.upstream
  serves : p.serves = true → ∀ target ∈ config.routes, sni ≠ some target.sni

section Destined

variable {config : ServiceConfig} {sni : Option Text} {p : TaskPoint}

theorem Destined.of_active {plan : Plan} (h : ∀ target,
    plan.target = some target ↔ target ∈ config.routes ∧ sni = some target.sni) :
    Destined config sni (.active plan) := by
  refine ⟨?_, nofun, nofun⟩
  intro plan' heq
  cases heq
  exact h

theorem Destined.of_relay {relay : Relay} (hp : p.relay? = some relay)
    (h : relay.target ∈ config.routes ∧ relay.target.Valid ∧ sni = some relay.target.sni ∧
      relay.endpoint = relay.target.upstream) : Destined config sni p := by
  refine ⟨?_, ?_, ?_⟩
  · intro plan heq
    rw [heq] at hp
    cases hp
  · intro relay' hp'
    rw [hp] at hp'
    cases hp'
    exact h
  · intro hserves
    rw [TaskPoint.serves_of_relay hp] at hserves
    cases hserves

theorem Destined.of_serves (hp : p.serves = true)
    (h : ∀ target ∈ config.routes, sni ≠ some target.sni) : Destined config sni p := by
  refine ⟨?_, ?_, fun _ => h⟩
  · intro plan heq
    rw [heq] at hp
    cases hp
  · intro relay hrelay
    rw [TaskPoint.serves_of_relay hrelay] at hp
    cases hp

end Destined

/-- A pass of `hot_reload` went through and put this state in force. -/
def InstalledBy (tls : Provider) (state : RouterState) : Prop :=
  ∃ p s, (hotReload tls p s).1 = .complete ∧ (hotReload tls p s).2.2.router = state

section Process

variable {tls : Provider}

theorem InstalledBy.loads {state : RouterState} (h : InstalledBy tls state) :
    ∃ env config, ServiceConfig.tryLoad env = .ok config ∧
      RouterState.new tls config = .ok state := by
  obtain ⟨p, s, hcomplete, rfl⟩ := h
  cases hload : ServiceConfig.tryLoad s.env with
  | error report => simp [hotReload, hload] at hcomplete
  | ok config =>
    refine ⟨s.env, config, hload, ?_⟩
    cases hkey : certifiedKeyOf tls s.read config with
    | error report => simp [hotReload, hload, hkey] at hcomplete
    | ok key =>
      cases hnew : RouterState.new tls config with
      | error report => simp [hotReload, hload, hkey, hnew] at hcomplete
      | ok state => simp [hotReload, hload, hkey, hnew]

theorem target_iff {env : Environment} {config : ServiceConfig} {state : RouterState}
    (hload : ServiceConfig.tryLoad env = .ok config) (hnew : RouterState.new tls config = .ok state)
    (sni : Option Text) (target : ProxyTarget) :
    (state.plan tls sni).target = some target ↔ target ∈ config.routes ∧ sni = some target.sni := by
  obtain ⟨-, -, -, hvalidate⟩ := ServiceConfig.tryLoad_eq_ok hload
  have hvalid := ServiceConfig.valid_of_validate hvalidate
  rw [RouterState.plan_target]
  cases sni with
  | none => simp
  | some name =>
    rw [Option.bind_some, RouterState.get?_routes hvalid hnew, Option.some_inj, eq_comm (a := name)]

variable {fmtHttpDate : SystemTime → Text} {bind : SocketAddr → Except Report Unit}
  {s₀ : Surroundings} {p₀ : Process} {es : List FrontEvent} {front : Front}

/-- Every routing state in force is that of a configuration that loaded. -/
theorem loads_routerAfter (hstart : startup tls fmtHttpDate bind s₀ = .ok p₀)
    (hreloads : ∀ state, .main (.reload state) ∈ es → InstalledBy tls state) :
    ∃ env config, ServiceConfig.tryLoad env = .ok config ∧
      RouterState.new tls config = .ok (routerAfter p₀.router es) := by
  rcases routerAfter_cases p₀.router es with heq | hmem
  · obtain ⟨start, hload, hforce, -⟩ := startup_ok hstart
    rw [heq]
    exact ⟨s₀.env, start.1, (loaded_eq_ok.mp hload).1, hforce.router⟩
  · exact (hreloads _ hmem).loads

theorem destined_of_routed (hstart : startup tls fmtHttpDate bind s₀ = .ok p₀)
    (hreloads : ∀ state, .main (.reload state) ∈ es → InstalledBy tls state) {i : ℕ} {plan : Plan}
    (h : Routed tls p₀.router es i plan) :
    ∃ config sni, GoesBy tls p₀.router es i config sni ∧ (∀ target ∈ config.routes, target.Valid) ∧
      ∀ target, plan.target = some target ↔ target ∈ config.routes ∧ sni = some target.sni := by
  obtain ⟨state, after, sni, ⟨before, hsplit, rfl⟩, hprobed, rfl⟩ := h
  have hbefore : ∀ state, .main (.reload state) ∈ before → InstalledBy tls state := by
    intro state hmem
    refine hreloads state ?_
    rw [hsplit]
    exact List.mem_append_left _ hmem
  obtain ⟨env, config, hload, hnew⟩ := loads_routerAfter hstart hbefore
  obtain ⟨-, -, -, hvalidate⟩ := ServiceConfig.tryLoad_eq_ok hload
  refine ⟨config, sni, ⟨⟨env, hload⟩, before, after, hsplit, hnew, hprobed⟩, ?_, ?_⟩
  · exact (ServiceConfig.valid_of_validate hvalidate).routes
  · exact target_iff hload hnew sni

/-- Whatever is reloaded meanwhile, a connection goes where the configuration sends
it that was in force when its task began: to the route of the name it asked for,
which passed validation, or to the fallback site when there is none. -/
theorem connections_go_by_configuration (hstart : startup tls fmtHttpDate bind s₀ = .ok p₀)
    (hreloads : ∀ state, .main (.reload state) ∈ es → InstalledBy tls state)
    (run : exec (Front.step tls) p₀.front es = some front) {i : ℕ} {t : ConnTask}
    (ht : front.tasks[i]? = some t) (hsession : t.point.inSession = true) :
    ∃ config sni, GoesBy tls p₀.router es i config sni ∧ Destined config sni t.point := by
  have hfollows := follows_run run i t ht
  rcases TaskPoint.inSession_iff.mp hsession with ⟨plan, hactive⟩ | ⟨relay, hrelay⟩ | hserves
  · rw [hactive] at hfollows ⊢
    obtain ⟨config, sni, hgoes, -, htarget⟩ := destined_of_routed hstart hreloads hfollows
    exact ⟨config, sni, hgoes, .of_active htarget⟩
  · obtain ⟨plan, hrouted, hplan, hendpoint⟩ := hfollows.relays hrelay
    obtain ⟨config, sni, hgoes, hvalid, htarget⟩ := destined_of_routed hstart hreloads hrouted
    obtain ⟨hmem, hname⟩ := (htarget relay.target).mp hplan
    exact ⟨config, sni, hgoes, .of_relay hrelay ⟨hmem, hvalid relay.target hmem, hname, hendpoint⟩⟩
  · obtain ⟨plan, hrouted, hnone⟩ := hfollows.serves hserves
    obtain ⟨config, sni, hgoes, -, htarget⟩ := destined_of_routed hstart hreloads hrouted
    refine ⟨config, sni, hgoes, .of_serves hserves ?_⟩
    intro target hmem hname
    rw [(htarget target).mpr ⟨hmem, hname⟩] at hnone
    cases hnone

def movedService : Surroundings :=
  .providing { minimalDocument "example.com" with
    routes := [⟨"example.com".toList, "127.0.0.1:9090".toList, none, none⟩] }

/-- While a visitor of `example.com` sends its ClientHello, the service moves. -/
def reloadedMeanwhile (p : Process) : List FrontEvent :=
  Front.acceptOne (.v4 ⟨203, 0, 113, 5⟩ 50000) ++
    [.task 0 .snapshot, .main (.reload (hotReload .accepting p movedService).2.2.router),
      .task 0 (.probed (.hello (some "example.com".toList))), .task 0 .proceed, .task 0 .proceed,
      .task 0 .proceed, .task 0 .proceed]

theorem connections_go_by_configuration_reloadedMeanwhile :
    ∃ p₀ front t relay, startMinimal = .ok p₀ ∧
      exec (Front.step .accepting) p₀.front (reloadedMeanwhile p₀) = some front ∧
      front.tasks[0]? = some t ∧ t.point.relay? = some relay ∧
      relay.endpoint = "127.0.0.1:8080".toList ∧
      ∃ config sni, GoesBy .accepting p₀.router (reloadedMeanwhile p₀) 0 config sni ∧
        Destined config sni t.point := by
  have hrun : ∃ p₀ ∈ startMinimal.toOption, ∃ front ∈ exec (Front.step .accepting) p₀.front
      (reloadedMeanwhile p₀), ∃ t ∈ front.tasks[0]?, ∃ relay ∈ t.point.relay?,
        relay.endpoint = "127.0.0.1:8080".toList := by decide +kernel
  obtain ⟨p₀, hp₀, front, run, t, ht, relay, hrelay, hendpoint⟩ := hrun
  have hstart : startMinimal = .ok p₀ := by
    cases h : startMinimal with
    | error fault =>
      rw [h] at hp₀
      cases hp₀
    | ok p =>
      rw [h] at hp₀
      cases hp₀
      rfl
  refine ⟨p₀, front, t, relay, hstart, run, ht, hrelay, hendpoint, ?_⟩
  refine connections_go_by_configuration hstart ?_ run ht
    (TaskPoint.inSession_iff.mpr (Or.inr (Or.inl ⟨relay, hrelay⟩)))
  intro state hmem
  have hstate : state = (hotReload .accepting p₀ movedService).2.2.router := by
    simpa [reloadedMeanwhile, Front.acceptOne] using hmem
  rw [hstate]
  exact ⟨_, _, rfl, rfl⟩

end Process

end Reprox.Server
