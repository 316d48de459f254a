import Reprox.Server.AcceptLoop

/-!
# Every accepted connection is accounted for

Each account below is a difference of counters that is zero when nothing is
under way. A task owes an account one unit while it stands between the update
that opens the difference and the one that closes it, and so does the accept
loop for a connection it has accepted but neither spawned nor counted. Every
step of the loop and of a task moves each account exactly by what it owes, so
the accounts agree with the tasks in every state that is reached.
-/

namespace Reprox.Server

open Foundations Net Config Tls Routing Limits Metrics

inductive Account where
  /-- Accepted connections against the ones a counter has classified. -/
  | accepts
  /-- Server names counted against routes begun. -/
  | sni
  /-- The gauge of a route. -/
  | active (route : Route)
  /-- Routes begun against routes completed. -/
  | begun (route : Route)
  /-- Connections of the fallback site against their handshakes. -/
  | handshakes
  /-- Handshakes of the fallback site against their ALPN results. -/
  | alpn
  deriving DecidableEq, Repr

namespace Account

def ofStats (st : Stats) : Account → ℤ
  | .accepts => -(st.rejectedRateLimit + st.rejectedIpLimit + st.probeTimeout + st.probeIoError +
      st.proxied.total + st.fallback.total)
  | .sni => st.sniPresent + st.sniAbsent - (st.proxied.total + st.fallback.total)
  | .active route => (st.ofRoute route).active
  | .begun route => (st.ofRoute route).total - (st.ofRoute route).completed
  | .handshakes => st.fallback.total -
      (st.fallbackTlsHandshakeSuccess + st.fallbackTlsHandshakeFailure)
  | .alpn => st.fallbackTlsHandshakeSuccess -
      (st.fallbackAlpnH2 + st.fallbackAlpnHttp1 + st.fallbackAlpnNone)

def mark (a : Account) (accounts : List Account) : ℤ := accounts.count a

@[simp] theorem mark_nil (a : Account) : a.mark [] = 0 := rfl

@[simp] theorem mark_cons (a b : Account) (accounts : List Account) :
    a.mark (b :: accounts) = a.mark accounts + if b = a then 1 else 0 := by
  unfold mark
  rw [List.count_cons]
  push_cast
  simp

theorem mark_nonneg (a : Account) (accounts : List Account) : 0 ≤ a.mark accounts :=
  Int.natCast_nonneg _

end Account

/-- The loop holds an accepted connection that is neither spawned nor counted. -/
def LoopPoint.inHand : LoopPoint → ℕ
  | .accepted _ | .rateAllowed _ | .spawning _ | .dropping (.rejected _) |
    .decremented (.rejected _) | .rejecting _ => 1
  | .acquiring | .permitTaken | .accepting | .dropping .acceptError | .dropping .cancelled |
    .decremented .acceptError | .decremented .cancelled | .sleeping | .stopped => 0

def Account.reading (a : Account) (s : Shared) : ℤ :=
  a.ofStats s.stats + (s.accepts - s.loop.inHand) * a.mark [.accepts]

/-- What beginning a route opens: its completion, and on the fallback site also
the outcome of its handshake. -/
def beginning : Route → List Account
  | .proxied => [.begun .proxied]
  | .fallback => [.begun .fallback, .handshakes]

/-- The accounts a task has opened and has yet to close. -/
def TaskPoint.owes : TaskPoint → List Account
  | .entered | .probing _ | .probeFailed _ | .helloRead _ _ => [.accepts]
  | .sniCounted _ => [.accepts, .sni]
  | .begun plan => beginning (routeOf plan)
  | .active plan => .active (routeOf plan) :: beginning (routeOf plan)
  | .relaying _ _ | .copying _ _ _ | .bytesCounted _ _ => [.begun .proxied, .active .proxied]
  | .secured _ => [.begun .fallback, .active .fallback, .alpn]
  | .serving => [.begun .fallback, .active .fallback]
  | .unwinding route => [.begun route, .active route]
  | .inactive route => [.begun route]
  | .completed _ | .leaving | .ipSlotDropped | .decremented | .done => []

/-- What a task owes an account. -/
def Account.due (a : Account) (t : ConnTask) : ℤ := a.mark t.point.owes

/-! ## What one update does to the accounts -/

section Updates

open Account

variable (a : Account) (st : Stats) (route : Route)

theorem ofStats_new : a.ofStats .new = 0 := by
  rcases a with _ | _ | route | route | _ | _
  case active => cases route <;> rfl
  case begun => cases route <;> rfl
  all_goals rfl

@[simp] theorem ofStats_countRejection (why : Rejection) :
    a.ofStats (st.countRejection why) = a.ofStats st - a.mark [.accepts] := by
  cases why <;> cases a <;> simp [ofStats, Stats.countRejection, Stats.ofRoute] <;> ring

@[simp] theorem ofStats_countProbe (timedOut : Bool) :
    a.ofStats (st.countProbe timedOut) = a.ofStats st - a.mark [.accepts] := by
  cases timedOut <;> cases a <;> simp [ofStats, Stats.countProbe, Stats.ofRoute] <;> ring

@[simp] theorem ofStats_countSni (present : Bool) :
    a.ofStats (st.countSni present) = a.ofStats st + a.mark [.sni] := by
  cases present <;> cases a <;> simp [ofStats, Stats.countSni, Stats.ofRoute] <;> ring

theorem ofStats_onRoute {f : RouteStats → RouteStats} {total active completed : ℤ}
    (htotal : ∀ r, ((f r).total : ℤ) = r.total + total)
    (hactive : ∀ r, (f r).active = r.active + active)
    (hcompleted : ∀ r, ((f r).completed : ℤ) = r.completed + completed) :
    a.ofStats (st.onRoute route f) =
      a.ofStats st + total * (a.mark (beginning route) - a.mark [.accepts, .sni]) +
        active * a.mark [.active route] - completed * a.mark [.begun route] := by
  rcases a with _ | _ | r | r | _ | _
  case active =>
    cases r <;> cases route <;>
      simp [ofStats, Stats.onRoute, Stats.ofRoute, beginning, hactive]
  case begun =>
    cases r <;> cases route <;>
      simp [ofStats, Stats.onRoute, Stats.ofRoute, beginning, htotal, hcompleted] <;> ring
  all_goals
    cases route <;> simp [ofStats, Stats.onRoute, beginning, htotal] <;> ring

@[simp] theorem ofStats_countTotal :
    a.ofStats (st.onRoute route .countTotal) =
      a.ofStats st + a.mark (beginning route) - a.mark [.accepts, .sni] := by
  have h := ofStats_onRoute a st route (f := .countTotal) (fun _ => Nat.cast_succ _)
    (fun _ => (add_zero _).symm) (fun _ => (add_zero _).symm)
  rw [h]
  ring

@[simp] theorem ofStats_enter :
    a.ofStats (st.onRoute route .enter) = a.ofStats st + a.mark [.active route] := by
  have h := ofStats_onRoute a st route (f := .enter) (fun _ => (add_zero _).symm)
    (fun _ => rfl) (fun _ => (add_zero _).symm)
  rw [h]
  ring

@[simp] theorem ofStats_leave :
    a.ofStats (st.onRoute route .leave) = a.ofStats st - a.mark [.active route] := by
  have h := ofStats_onRoute a st route (f := .leave) (fun _ => (add_zero _).symm)
    (fun _ => sub_eq_add_neg _ _) (fun _ => (add_zero _).symm)
  rw [h]
  ring

@[simp] theorem ofStats_countCompleted :
    a.ofStats (st.onRoute route .countCompleted) = a.ofStats st - a.mark [.begun route] := by
  have h := ofStats_onRoute a st route (f := .countCompleted) (fun _ => (add_zero _).symm)
    (fun _ => (add_zero _).symm) (fun _ => Nat.cast_succ _)
  rw [h]
  ring

@[simp] theorem ofStats_addDuration (ms : ℕ) :
    a.ofStats (st.onRoute route (·.addDuration ms)) = a.ofStats st := by
  have h := ofStats_onRoute a st route (f := (·.addDuration ms)) (fun _ => (add_zero _).symm)
    (fun _ => (add_zero _).symm) (fun _ => (add_zero _).symm)
  rw [h]
  ring

@[simp] theorem ofStats_countHandshake_proxied (success : Bool) :
    a.ofStats (st.countHandshake .proxied success) = a.ofStats st := by
  cases success <;> cases a <;> rfl

@[simp] theorem ofStats_countHandshake_fallback (success : Bool) :
    a.ofStats (st.countHandshake .fallback success) =
      a.ofStats st + (if success then a.mark [.alpn] else 0) - a.mark [.handshakes] := by
  cases success <;> cases a <;> simp [ofStats, Stats.countHandshake, Stats.ofRoute] <;> ring

@[simp] theorem ofStats_countAlpn (alpn : Alpn) :
    a.ofStats (st.countAlpn alpn) = a.ofStats st - a.mark [.alpn] := by
  cases alpn <;> cases a <;> simp [ofStats, Stats.countAlpn, Stats.ofRoute] <;> ring

@[simp] theorem ofStats_relay (retries failures fromClient fromUpstream : ℕ) :
    a.ofStats { st with
      proxyServiceConnectRetries := retries
      proxyServiceConnectFailures := failures
      proxyBytesClientToService := fromClient
      proxyBytesServiceToClient := fromUpstream } = a.ofStats st := by
  cases a <;> rfl

end Updates

/-! ## Every step keeps the accounts in balance -/

/-- A step of a task moves an account by what the task then owes it. -/
theorem advanceStats_balanced {tls : Provider} {p q : TaskPoint} {st st' : Stats} {e : TaskEvent}
    (h : advanceStats tls p st e = some (q, st')) (a : Account) :
    a.ofStats st' - a.ofStats st = a.mark q.owes - a.mark p.owes := by
  cases advanceStats_inv h <;> simp [TaskPoint.owes, routeOf, Plan.target, beginning] <;> ring

theorem taskStep_balanced {tls : Provider} {t t' : ConnTask} {s s' : Shared} {e : TaskEvent}
    (h : taskStep tls t s e = some (t', s')) (a : Account) :
    a.reading s' - a.reading s = a.due t' - a.due t := by
  rcases taskStep_cases h with ⟨hp, rfl, rfl⟩ | ⟨hp, rfl, rfl⟩ | ⟨hp, rfl, rfl⟩ | ⟨hp, rfl, rfl⟩ |
    ⟨q, st, hadvance, rfl, rfl⟩
  · simp [Account.due, hp, TaskPoint.owes]
  · simp [Account.reading, Account.due, hp, TaskPoint.owes]
  · simp [Account.reading, Account.due, hp, TaskPoint.owes]
  · simp [Account.reading, Account.due, hp, TaskPoint.owes]
  · have hmove := advanceStats_balanced hadvance a
    simp only [Account.reading, Account.due]
    rw [← hmove]
    ring

theorem loopStep_cases {s s' : Shared} {e : LoopEvent} {t : Option ConnTask}
    (h : s.loopStep e = some (s', t)) :
    (s'.accepts = s.accepts ∧ s'.loop.inHand = s.loop.inHand ∧ s'.stats = s.stats ∧ t = none) ∨
      (s'.accepts = s.accepts + 1 ∧ s.loop.inHand = 0 ∧ s'.loop.inHand = 1 ∧
        s'.stats = s.stats ∧ t = none) ∨
      (∃ ipSlot, s'.accepts = s.accepts ∧ s.loop.inHand = 1 ∧ s'.loop.inHand = 0 ∧
        s'.stats = s.stats ∧ t = some ⟨ipSlot, .entered⟩) ∨
      (∃ why, s'.accepts = s.accepts ∧ s.loop.inHand = 1 ∧ s'.loop.inHand = 0 ∧
        s'.stats = s.stats.countRejection why ∧ t = none) := by
  cases Shared.loopStep_inv h with
  | acceptOk peer hl => exact .inr (.inl (by simp [hl, LoopPoint.inHand]))
  | @spawn ipSlot hl => exact .inr (.inr (.inl ⟨ipSlot, by simp [hl, LoopPoint.inHand]⟩))
  | @count why hl => exact .inr (.inr (.inr ⟨why, by simp [hl, LoopPoint.inHand]⟩))
  | @decrement reason hl => cases reason <;> simp [hl, LoopPoint.inHand]
  | @releasePermit reason hl => cases reason <;> simp [hl, LoopPoint.inHand, DropReason.next]
  | _ => simp [LoopPoint.inHand, *]

theorem loopStep_balanced {s s' : Shared} {e : LoopEvent} {t : Option ConnTask}
    (h : s.loopStep e = some (s', t)) (a : Account) :
    a.reading s' - a.reading s = (t.map a.due).getD 0 := by
  rcases loopStep_cases h with ⟨haccepts, hhand, hst, rfl⟩ | ⟨haccepts, hhand, hhand', hst, rfl⟩ |
    ⟨ipSlot, haccepts, hhand, hhand', hst, rfl⟩ | ⟨why, haccepts, hhand, hhand', hst, rfl⟩
  · simp [Account.reading, haccepts, hhand, hst]
  · simp [Account.reading, haccepts, hhand, hhand', hst]
  · simp only [Account.reading, haccepts, hhand, hhand', hst, Option.map_some, Option.getD_some,
      Account.due, TaskPoint.owes]
    push_cast
    ring
  · simp only [Account.reading, haccepts, hhand, hhand', hst, ofStats_countRejection,
      Option.map_none, Option.getD_none]
    push_cast
    ring

theorem front_balanced (tls : Provider) (a : Account) :
    Pool.Balanced Shared.mainStep (taskStep tls) a.due a.reading where
  task t s e t' s' h := taskStep_balanced h a
  main s n s' t h := by
    cases n with
    | loop e => exact loopStep_balanced h a
    | reload state => cases h; simp [Account.reading]
    | setIpLimit maxPerIp => cases h; simp [Account.reading]
    | setRateLimit ratePerSec burst => cases h; simp [Account.reading]
    | sweep now => cases h; simp [Account.reading]

/-! ## Whole runs -/

variable {tls : Provider} {permits maxPerIp : Usize} {ratePerSec : ℚ} {burst : ℕ}
  {state : RouterState} {es : List FrontEvent} {front : Front}

/-- In every state that is reached, the counters show an account as far open as
the tasks leave it. -/
theorem reading_eq_owed
    (run : exec (Front.step tls) (Front.start permits maxPerIp ratePerSec burst state) es =
      some front) (a : Account) : a.reading front.shared = owed a.due front.tasks := by
  have hbalance := (front_balanced tls a).run run
  have hstart : a.reading (Front.start permits maxPerIp ratePerSec burst state).shared = 0 := by
    simp [Account.reading, Front.start, ofStats_new, LoopPoint.inHand]
  have hnone : owed a.due (Front.start permits maxPerIp ratePerSec burst state).tasks = 0 := rfl
  rw [hstart, hnone] at hbalance
  linarith

theorem reading_nonneg
    (run : exec (Front.step tls) (Front.start permits maxPerIp ratePerSec burst state) es =
      some front) (a : Account) : 0 ≤ a.reading front.shared := by
  rw [reading_eq_owed run a]
  exact owed_nonneg (fun t => Account.mark_nonneg a t.point.owes) front.tasks

theorem reading_of_quiet
    (run : exec (Front.step tls) (Front.start permits maxPerIp ratePerSec burst state) es =
      some front) (quiet : front.Quiet) (a : Account) : a.reading front.shared = 0 := by
  rw [reading_eq_owed run a]
  apply owed_eq_zero
  intro t ht
  simp [Account.due, quiet t ht, TaskPoint.owes]

/-- Every accepted connection is in one of the counters, or still in the hands
of the accept loop, and each stage counts what the stage before it counted. -/
structure Shared.Accounted (s : Shared) : Prop where
  accepts : s.accepts = s.stats.rejectedRateLimit + s.stats.rejectedIpLimit +
    s.stats.probeTimeout + s.stats.probeIoError + s.stats.proxied.total +
    s.stats.fallback.total + s.loop.inHand
  sni : s.stats.sniPresent + s.stats.sniAbsent = s.stats.proxied.total + s.stats.fallback.total
  completed : ∀ route, (s.stats.ofRoute route).total = (s.stats.ofRoute route).completed
  active : ∀ route, (s.stats.ofRoute route).active = 0
  handshakes : s.stats.fallback.total =
    s.stats.fallbackTlsHandshakeSuccess + s.stats.fallbackTlsHandshakeFailure
  alpn : s.stats.fallbackTlsHandshakeSuccess =
    s.stats.fallbackAlpnH2 + s.stats.fallbackAlpnHttp1 + s.stats.fallbackAlpnNone

namespace Front

/-- Under every interleaving the gauges stay at or above zero and no route
completes more often than it began; once the spawned tasks are through, every
accepted connection is accounted for. -/
theorem accounted_once
    (run : exec (Front.step tls) (Front.start permits maxPerIp ratePerSec burst state) es =
      some front) :
    (∀ route, 0 ≤ (front.shared.stats.ofRoute route).active ∧
      (front.shared.stats.ofRoute route).completed ≤ (front.shared.stats.ofRoute route).total) ∧
    (front.Quiet → front.shared.Accounted) := by
  constructor
  · intro route
    have hactive := reading_nonneg run (.active route)
    have hbegun := reading_nonneg run (.begun route)
    simp only [Account.reading, Account.ofStats, Account.mark_cons, Account.mark_nil, ↓reduceIte,
      reduceCtorEq, add_zero, mul_zero] at hactive hbegun
    exact ⟨hactive, by omega⟩
  · intro quiet
    have haccepts := reading_of_quiet run quiet .accepts
    have hsni := reading_of_quiet run quiet .sni
    have hactive := fun route => reading_of_quiet run quiet (.active route)
    have hbegun := fun route => reading_of_quiet run quiet (.begun route)
    have hhandshakes := reading_of_quiet run quiet .handshakes
    have halpn := reading_of_quiet run quiet .alpn
    simp only [Account.reading, Account.ofStats, Account.mark_cons, Account.mark_nil, ↓reduceIte,
      reduceCtorEq, zero_add, add_zero, mul_one, mul_zero]
      at haccepts hsni hactive hbegun hhandshakes halpn
    constructor
    case accepts => omega
    case sni => omega
    case completed =>
      intro route
      have h := hbegun route
      omega
    case active => exact hactive
    case handshakes => omega
    case alpn => omega

/-- A connection without a server name, served by the fallback site over HTTP/2. -/
def visit (peer : SocketAddr) : List FrontEvent :=
  [.main (.loop .takePermit), .main (.loop .increment), .main (.loop (.acceptOk peer)),
    .main (.loop (.checkRate 0)), .main (.loop .checkIp), .main (.loop .spawn),
    .task 0 .snapshot, .task 0 (.probed (.hello none)), .task 0 .proceed, .task 0 .proceed,
    .task 0 .proceed, .task 0 (.handshake (some .h2)), .task 0 .proceed, .task 0 .served,
    .task 0 .proceed, .task 0 .proceed, .task 0 (.elapsed 5), .task 0 .proceed, .task 0 .proceed,
    .task 0 .proceed]

theorem accounted_once_visit :
    ∃ front, exec (Front.step .accepting) minimal (visit (.v4 ⟨203, 0, 113, 5⟩ 50000)) =
        some front ∧ front.Quiet ∧
      (∀ route, 0 ≤ (front.shared.stats.ofRoute route).active ∧
        (front.shared.stats.ofRoute route).completed ≤ (front.shared.stats.ofRoute route).total) ∧
      front.shared.Accounted := by
  have hvisit : ∃ front ∈ exec (Front.step .accepting) minimal
      (visit (.v4 ⟨203, 0, 113, 5⟩ 50000)), front.Quiet := by decide +kernel
  obtain ⟨front, run, quiet⟩ := hvisit
  have h := accounted_once run
  exact ⟨front, run, quiet, h.1, h.2 quiet⟩

/-- A connection the loop has just accepted is in no counter, and no task is running. -/
theorem accounted_fails_in_hand :
    ∃ front, exec (Front.step .accepting) minimal ((visit (.v4 ⟨203, 0, 113, 5⟩ 50000)).take 3) =
        some front ∧ front.Quiet ∧
      front.shared.accepts ≠ front.shared.stats.rejectedRateLimit +
        front.shared.stats.rejectedIpLimit + front.shared.stats.probeTimeout +
        front.shared.stats.probeIoError + front.shared.stats.proxied.total +
        front.shared.stats.fallback.total := by
  decide +kernel

end Front

end Reprox.Server
