import Reprox.Foundations.Ledger
import Reprox.Limits.ConnectionLimiter
import Reprox.Limits.IpLimiter
import Reprox.Limits.RateLimiter
import Reprox.Metrics.Stats
import Reprox.Routing.Proxy
import Reprox.Routing.Router
import Reprox.Server.HotReload

/-!
# The accept loop and its connections

The accept loop and every connection task stand at a program point between two
effects on shared state: a counter update, a slot taken or given back. The loop
takes a connection slot, accepts, asks the two per-IP limiters and spawns; a
connection probes the ClientHello, counts its server name, follows its plan and
gives everything back in the order of Rust's drops. Any number of connections
interleave with the loop, with reloads and with each other. A session is relayed,
and a site is served, for as long as it takes.
-/

namespace Reprox.Server

open Foundations Net Config Tls Routing Limits Metrics

/-- Why the loop gives a connection slot back itself. -/
inductive DropReason where
  | acceptError
  | rejected (why : Rejection)
  /-- The loop was cancelled while it held the slot. -/
  | cancelled
  deriving DecidableEq, Repr

/-- Where `accept_loop` stands. -/
inductive LoopPoint where
  | acquiring
  | permitTaken
  | accepting
  | accepted (peer : SocketAddr)
  | rateAllowed (peer : SocketAddr)
  | spawning (ipSlot : IpSlot)
  | dropping (reason : DropReason)
  | decremented (reason : DropReason)
  | rejecting (why : Rejection)
  | sleeping
  | stopped
  deriving DecidableEq, Repr

/-- A relay on behalf of a client: the route it was asked for, and the address that
`relay_to_service` connects to. -/
structure Relay where
  target : ProxyTarget
  endpoint : Text

/-- Where the task of a connection stands. -/
inductive TaskPoint where
  | entered
  | probing (state : RouterState)
  | probeFailed (timedOut : Bool)
  | helloRead (state : RouterState) (sni : Option Text)
  | sniCounted (plan : Plan)
  /-- The route's total is counted, its gauge is not. -/
  | begun (plan : Plan)
  /-- The guard is held from here to `unwinding`. -/
  | active (plan : Plan)
  | relaying (relay : Relay) (attempt : ℕ)
  /-- In `copy_bidirectional`, with the bytes copied so far. -/
  | copying (relay : Relay) (fromClient fromUpstream : ℕ)
  | bytesCounted (relay : Relay) (fromUpstream : ℕ)
  | secured (alpn : Alpn)
  | serving
  | unwinding (route : Route)
  | inactive (route : Route)
  | completed (route : Route)
  | leaving
  | ipSlotDropped
  | decremented
  | done

namespace TaskPoint

def isDone : TaskPoint → Bool
  | .done => true
  | _ => false

theorem isDone_iff {p : TaskPoint} : p.isDone ↔ p = .done := by
  cases p <;> simp [isDone]

instance (p : TaskPoint) : Decidable (p = .done) := decidable_of_iff p.isDone isDone_iff

end TaskPoint

structure ConnTask where
  ipSlot : IpSlot
  point : TaskPoint

/-- The state the loop and the tasks share, the loop's own point included. -/
structure Shared where
  loop : LoopPoint
  /-- Successful calls of `accept`. -/
  accepts : ℕ
  stats : Stats
  connLimiter : ConnectionLimiter
  ipLimiter : IpLimiter
  rateLimiter : RateLimiter
  router : RouterState

/-! ## The loop -/

inductive LoopEvent where
  | takePermit
  | increment
  | acceptOk (peer : SocketAddr)
  | acceptError
  | checkRate (now : ℚ)
  | checkIp
  | spawn
  | decrement
  | releasePermit
  | count
  | wake
  /-- `select!` in `main` drops the loop at one of its await points. -/
  | cancel
  deriving DecidableEq, Repr

/-- What the rest of the process does to the shared state meanwhile. -/
inductive MainEvent where
  | loop (e : LoopEvent)
  | reload (state : RouterState)
  | setIpLimit (maxPerIp : Usize)
  | setRateLimit (ratePerSec : ℚ) (burst : ℕ)
  | sweep (now : ℚ)

def DropReason.next : DropReason → LoopPoint
  | .acceptError => .sleeping
  | .rejected why => .rejecting why
  | .cancelled => .stopped

namespace Shared

def loopStep (s : Shared) (e : LoopEvent) : Option (Shared × Option ConnTask) :=
  match s.loop, e with
  | .acquiring, .takePermit =>
    s.connLimiter.takePermit.map fun l => ({ s with loop := .permitTaken, connLimiter := l }, none)
  | .acquiring, .cancel => some ({ s with loop := .stopped }, none)
  | .permitTaken, .increment =>
    some ({ s with loop := .accepting, connLimiter := s.connLimiter.increment }, none)
  | .accepting, .acceptOk peer =>
    some ({ s with loop := .accepted peer, accepts := s.accepts + 1 }, none)
  | .accepting, .acceptError => some ({ s with loop := .dropping .acceptError }, none)
  | .accepting, .cancel => some ({ s with loop := .dropping .cancelled }, none)
  | .accepted peer, .checkRate now =>
    let (allowed, rateLimiter) := s.rateLimiter.allow peer.ip now
    let loop := if allowed then .rateAllowed peer else .dropping (.rejected .rateLimit)
    some ({ s with loop, rateLimiter }, none)
  | .rateAllowed peer, .checkIp =>
    match s.ipLimiter.tryAcquireSlot peer.ip with
    | (some ipSlot, ipLimiter) => some ({ s with loop := .spawning ipSlot, ipLimiter }, none)
    | (none, ipLimiter) => some ({ s with loop := .dropping (.rejected .ipLimit), ipLimiter }, none)
  | .spawning ipSlot, .spawn => some ({ s with loop := .acquiring }, some ⟨ipSlot, .entered⟩)
  | .dropping reason, .decrement =>
    some ({ s with loop := .decremented reason, connLimiter := s.connLimiter.decrement }, none)
  | .decremented reason, .releasePermit =>
    some ({ s with loop := reason.next, connLimiter := s.connLimiter.releasePermit }, none)
  | .rejecting why, .count =>
    some ({ s with loop := .acquiring, stats := s.stats.countRejection why }, none)
  | .sleeping, .wake => some ({ s with loop := .acquiring }, none)
  | .sleeping, .cancel => some ({ s with loop := .stopped }, none)
  | _, _ => none

inductive LoopStep (s : Shared) : LoopEvent → Shared → Option ConnTask → Prop
  | takePermit {l : ConnectionLimiter} (hl : s.loop = .acquiring)
      (htake : s.connLimiter.takePermit = some l) :
      LoopStep s .takePermit { s with loop := .permitTaken, connLimiter := l } none
  | increment (hl : s.loop = .permitTaken) :
      LoopStep s .increment { s with loop := .accepting, connLimiter := s.connLimiter.increment }
        none
  | acceptOk (peer : SocketAddr) (hl : s.loop = .accepting) :
      LoopStep s (.acceptOk peer) { s with loop := .accepted peer, accepts := s.accepts + 1 } none
  | acceptError (hl : s.loop = .accepting) :
      LoopStep s .acceptError { s with loop := .dropping .acceptError } none
  | rateAllowed {peer : SocketAddr} {now : ℚ} (hl : s.loop = .accepted peer)
      (hallow : (s.rateLimiter.allow peer.ip now).1 = true) :
      LoopStep s (.checkRate now)
        { s with
          loop := .rateAllowed peer
          rateLimiter := (s.rateLimiter.allow peer.ip now).2 } none
  | rateRejected {peer : SocketAddr} {now : ℚ} (hl : s.loop = .accepted peer)
      (hallow : (s.rateLimiter.allow peer.ip now).1 = false) :
      LoopStep s (.checkRate now)
        { s with
          loop := .dropping (.rejected .rateLimit)
          rateLimiter := (s.rateLimiter.allow peer.ip now).2 } none
  | ipAllowed {peer : SocketAddr} {ipSlot : IpSlot} (hl : s.loop = .rateAllowed peer)
      (hacq : (s.ipLimiter.tryAcquireSlot peer.ip).1 = some ipSlot) :
      LoopStep s .checkIp
        { s with loop := .spawning ipSlot, ipLimiter := (s.ipLimiter.tryAcquireSlot peer.ip).2 } none
  | ipRejected {peer : SocketAddr} (hl : s.loop = .rateAllowed peer)
      (hacq : (s.ipLimiter.tryAcquireSlot peer.ip).1 = none) :
      LoopStep s .checkIp
        { s with
          loop := .dropping (.rejected .ipLimit)
          ipLimiter := (s.ipLimiter.tryAcquireSlot peer.ip).2 } none
  | spawn {ipSlot : IpSlot} (hl : s.loop = .spawning ipSlot) :
      LoopStep s .spawn { s with loop := .acquiring } (some ⟨ipSlot, .entered⟩)
  | decrement {reason : DropReason} (hl : s.loop = .dropping reason) :
      LoopStep s .decrement
        { s with loop := .decremented reason, connLimiter := s.connLimiter.decrement } none
  | releasePermit {reason : DropReason} (hl : s.loop = .decremented reason) :
      LoopStep s .releasePermit
        { s with loop := reason.next, connLimiter := s.connLimiter.releasePermit } none
  | count {why : Rejection} (hl : s.loop = .rejecting why) :
      LoopStep s .count { s with loop := .acquiring, stats := s.stats.countRejection why } none
  | wake (hl : s.loop = .sleeping) : LoopStep s .wake { s with loop := .acquiring } none
  | cancelPermit (hl : s.loop = .acquiring) : LoopStep s .cancel { s with loop := .stopped } none
  | cancelAccept (hl : s.loop = .accepting) :
      LoopStep s .cancel { s with loop := .dropping .cancelled } none
  | cancelSleep (hl : s.loop = .sleeping) : LoopStep s .cancel { s with loop := .stopped } none

theorem loopStep_inv {s s' : Shared} {e : LoopEvent} {t : Option ConnTask}
    (h : s.loopStep e = some (s', t)) : LoopStep s e s' t := by
  unfold loopStep at h
  split at h
  · next hl =>
    obtain ⟨l, htake, heq⟩ := Option.map_eq_some_iff.mp h
    cases heq
    exact .takePermit hl htake
  · next hl => cases h; exact .cancelPermit hl
  · next hl => cases h; exact .increment hl
  · next peer hl => cases h; exact .acceptOk peer hl
  · next hl => cases h; exact .acceptError hl
  · next hl => cases h; exact .cancelAccept hl
  · next peer now hl =>
    generalize hout : s.rateLimiter.allow peer.ip now = out at h
    obtain ⟨allowed, rateLimiter⟩ := out
    cases h
    cases allowed with
    | false =>
      have hstep := LoopStep.rateRejected hl (congrArg Prod.fst hout)
      rwa [hout] at hstep
    | true =>
      have hstep := LoopStep.rateAllowed hl (congrArg Prod.fst hout)
      rwa [hout] at hstep
  · next peer hl =>
    split at h
    · next hacq =>
      cases h
      have hstep := LoopStep.ipAllowed hl (congrArg Prod.fst hacq)
      rwa [hacq] at hstep
    · next hacq =>
      cases h
      have hstep := LoopStep.ipRejected hl (congrArg Prod.fst hacq)
      rwa [hacq] at hstep
  · next ipSlot hl => cases h; exact .spawn hl
  · next reason hl => cases h; exact .decrement hl
  · next reason hl => cases h; exact .releasePermit hl
  · next why hl => cases h; exact .count hl
  · next hl => cases h; exact .wake hl
  · next hl => cases h; exact .cancelSleep hl
  · cases h

theorem loopStep_of_stopped {s : Shared} (h : s.loop = .stopped) (e : LoopEvent) :
    s.loopStep e = none := by
  simp [loopStep, h]

def mainStep (s : Shared) : MainEvent → Option (Shared × Option ConnTask)
  | .loop e => s.loopStep e
  | .reload state => some ({ s with router := state }, none)
  | .setIpLimit maxPerIp => some ({ s with ipLimiter := s.ipLimiter.setLimit maxPerIp }, none)
  | .setRateLimit ratePerSec burst =>
    some ({ s with rateLimiter := s.rateLimiter.setLimit ratePerSec burst }, none)
  | .sweep now => some ({ s with rateLimiter := s.rateLimiter.sweep now }, none)

end Shared

/-! ## A connection -/

inductive Probe where
  | hello (sni : Option Text)
  | ioError
  | timedOut
  deriving DecidableEq, Repr

inductive TaskEvent where
  | snapshot
  | probed (probe : Probe)
  /-- The next effect of the code, where nothing outside decides it. -/
  | proceed
  /-- The handshake ended; a failure and a timeout are treated alike. -/
  | handshake (outcome : Option Alpn)
  | attemptFailed
  | connected
  /-- More bytes have been copied, in either direction. -/
  | copied (fromClient fromUpstream : ℕ)
  | sessionEnded
  | sessionFailed
  /-- A request of the client is handed to the handler. -/
  | requested
  | served
  | elapsed (ms : ℕ)
  deriving DecidableEq, Repr

/-- `ConnectRetryPolicy::DEFAULT.max_attempts`. -/
def maxAttempts : ℕ := 4

def routeOf (plan : Plan) : Route := if plan.target.isSome then .proxied else .fallback

/-- The next point of a task and the counters after one step of it. -/
def advanceStats (tls : Provider) (p : TaskPoint) (st : Stats) (e : TaskEvent) :
    Option (TaskPoint × Stats) :=
  match p, e with
  | .probing state, .probed (.hello sni) => some (.helloRead state sni, st)
  | .probing _, .probed .ioError => some (.probeFailed false, st)
  | .probing _, .probed .timedOut => some (.probeFailed true, st)
  | .probeFailed timedOut, .proceed => some (.leaving, st.countProbe timedOut)
  | .helloRead state sni, .proceed =>
    some (.sniCounted (state.plan tls sni), st.countSni sni.isSome)
  | .sniCounted plan, .proceed => some (.begun plan, st.onRoute (routeOf plan) .countTotal)
  | .begun plan, .proceed => some (.active plan, st.onRoute (routeOf plan) .enter)
  | .active (.passthrough target), .proceed => some (.relaying ⟨target, target.upstream⟩ 1, st)
  | .active (.refused _ _), .proceed => some (.unwinding .proxied, st)
  | .active (.terminate target _), .handshake (some _) =>
    some (.relaying ⟨target, target.upstream⟩ 1, st.countHandshake .proxied true)
  | .active (.terminate _ _), .handshake none =>
    some (.unwinding .proxied, st.countHandshake .proxied false)
  | .relaying relay attempt, .attemptFailed =>
    if attempt < maxAttempts then
      some (.relaying relay (attempt + 1),
        { st with proxyServiceConnectRetries := st.proxyServiceConnectRetries + 1 })
    else
      some (.unwinding .proxied,
        { st with proxyServiceConnectFailures := st.proxyServiceConnectFailures + 1 })
  | .relaying relay _, .connected => some (.copying relay 0 0, st)
  | .copying relay fromClient fromUpstream, .copied moreClient moreUpstream =>
    some (.copying relay (fromClient + moreClient) (fromUpstream + moreUpstream), st)
  | .copying relay fromClient fromUpstream, .sessionEnded =>
    some (.bytesCounted relay fromUpstream,
      { st with proxyBytesClientToService := st.proxyBytesClientToService + fromClient })
  | .copying _ _ _, .sessionFailed => some (.unwinding .proxied, st)
  | .bytesCounted _ fromUpstream, .proceed =>
    some (.unwinding .proxied,
      { st with proxyBytesServiceToClient := st.proxyBytesServiceToClient + fromUpstream })
  | .active (.fallback _), .handshake (some alpn) =>
    some (.secured alpn, st.countHandshake .fallback true)
  | .active (.fallback _), .handshake none =>
    some (.unwinding .fallback, st.countHandshake .fallback false)
  | .secured alpn, .proceed => some (.serving, st.countAlpn alpn)
  | .serving, .requested => some (.serving, st)
  | .serving, .served => some (.unwinding .fallback, st)
  | .unwinding route, .proceed => some (.inactive route, st.onRoute route .leave)
  | .inactive route, .proceed => some (.completed route, st.onRoute route .countCompleted)
  | .completed route, .elapsed ms => some (.leaving, st.onRoute route (·.addDuration ms))
  | _, _ => none

inductive Advance (tls : Provider) : TaskPoint → Stats → TaskEvent → TaskPoint → Stats → Prop
  | hello {state : RouterState} {sni : Option Text} {st : Stats} :
    Advance tls (.probing state) st (.probed (.hello sni)) (.helloRead state sni) st
  | ioError {state : RouterState} {st : Stats} :
    Advance tls (.probing state) st (.probed .ioError) (.probeFailed false) st
  | timedOut {state : RouterState} {st : Stats} :
    Advance tls (.probing state) st (.probed .timedOut) (.probeFailed true) st
  | countProbe {timedOut : Bool} {st : Stats} :
    Advance tls (.probeFailed timedOut) st .proceed .leaving (st.countProbe timedOut)
  | countSni {state : RouterState} {sni : Option Text} {st : Stats} :
    Advance tls (.helloRead state sni) st .proceed (.sniCounted (state.plan tls sni))
      (st.countSni sni.isSome)
  | countTotal {plan : Plan} {st : Stats} :
    Advance tls (.sniCounted plan) st .proceed (.begun plan) (st.onRoute (routeOf plan) .countTotal)
  | enter {plan : Plan} {st : Stats} :
    Advance tls (.begun plan) st .proceed (.active plan) (st.onRoute (routeOf plan) .enter)
  | passThrough {target : ProxyTarget} {st : Stats} :
    Advance tls (.active (.passthrough target)) st .proceed
      (.relaying ⟨target, target.upstream⟩ 1) st
  | refuse {target : ProxyTarget} {report : Report} {st : Stats} :
    Advance tls (.active (.refused target report)) st .proceed (.unwinding .proxied) st
  | terminate {target : ProxyTarget} {serverConfig : ServerConfig} {alpn : Alpn} {st : Stats} :
    Advance tls (.active (.terminate target serverConfig)) st (.handshake (some alpn))
      (.relaying ⟨target, target.upstream⟩ 1) (st.countHandshake .proxied true)
  | failProxied {target : ProxyTarget} {serverConfig : ServerConfig} {st : Stats} :
    Advance tls (.active (.terminate target serverConfig)) st (.handshake none)
      (.unwinding .proxied) (st.countHandshake .proxied false)
  | retry {relay : Relay} {attempt : ℕ} {st : Stats} (hmore : attempt < maxAttempts) :
    Advance tls (.relaying relay attempt) st .attemptFailed (.relaying relay (attempt + 1))
      { st with proxyServiceConnectRetries := st.proxyServiceConnectRetries + 1 }
  | giveUp {relay : Relay} {attempt : ℕ} {st : Stats} (hlast : maxAttempts ≤ attempt) :
    Advance tls (.relaying relay attempt) st .attemptFailed (.unwinding .proxied)
      { st with proxyServiceConnectFailures := st.proxyServiceConnectFailures + 1 }
  | connect {relay : Relay} {attempt : ℕ} {st : Stats} :
    Advance tls (.relaying relay attempt) st .connected (.copying relay 0 0) st
  | copy {relay : Relay} {fromClient fromUpstream moreClient moreUpstream : ℕ} {st : Stats} :
    Advance tls (.copying relay fromClient fromUpstream) st (.copied moreClient moreUpstream)
      (.copying relay (fromClient + moreClient) (fromUpstream + moreUpstream)) st
  | endSession {relay : Relay} {fromClient fromUpstream : ℕ} {st : Stats} :
    Advance tls (.copying relay fromClient fromUpstream) st .sessionEnded
      (.bytesCounted relay fromUpstream)
      { st with proxyBytesClientToService := st.proxyBytesClientToService + fromClient }
  | failSession {relay : Relay} {fromClient fromUpstream : ℕ} {st : Stats} :
    Advance tls (.copying relay fromClient fromUpstream) st .sessionFailed (.unwinding .proxied) st
  | countBytes {relay : Relay} {fromUpstream : ℕ} {st : Stats} :
    Advance tls (.bytesCounted relay fromUpstream) st .proceed (.unwinding .proxied)
      { st with proxyBytesServiceToClient := st.proxyBytesServiceToClient + fromUpstream }
  | secure {serverConfig : ServerConfig} {alpn : Alpn} {st : Stats} :
    Advance tls (.active (.fallback serverConfig)) st (.handshake (some alpn)) (.secured alpn)
      (st.countHandshake .fallback true)
  | failFallback {serverConfig : ServerConfig} {st : Stats} :
    Advance tls (.active (.fallback serverConfig)) st (.handshake none) (.unwinding .fallback)
      (st.countHandshake .fallback false)
  | countAlpn {alpn : Alpn} {st : Stats} :
    Advance tls (.secured alpn) st .proceed .serving (st.countAlpn alpn)
  | request {st : Stats} : Advance tls .serving st .requested .serving st
  | serve {st : Stats} : Advance tls .serving st .served (.unwinding .fallback) st
  | leave {route : Route} {st : Stats} :
    Advance tls (.unwinding route) st .proceed (.inactive route) (st.onRoute route .leave)
  | countCompleted {route : Route} {st : Stats} :
    Advance tls (.inactive route) st .proceed (.completed route) (st.onRoute route .countCompleted)
  | elapse {route : Route} {ms : ℕ} {st : Stats} :
    Advance tls (.completed route) st (.elapsed ms) .leaving (st.onRoute route (·.addDuration ms))

theorem advanceStats_inv {tls : Provider} {p q : TaskPoint} {st st' : Stats} {e : TaskEvent}
    (h : advanceStats tls p st e = some (q, st')) : Advance tls p st e q st' := by
  unfold advanceStats at h
  split at h
  all_goals try split_ifs at h with hmore
  all_goals cases h
  all_goals constructor
  -- only the two ends of a failed attempt ask for something
  · exact hmore
  · exact not_lt.mp hmore

/-- One step of a connection. The slots are dropped in the reverse of the order
in which the task took them, the per-IP slot first. -/
def taskStep (tls : Provider) (t : ConnTask) (s : Shared) (e : TaskEvent) :
    Option (ConnTask × Shared) :=
  match t.point, e with
  | .entered, .snapshot => some ({ t with point := .probing s.router }, s)
  | .leaving, .proceed =>
    some ({ t with point := .ipSlotDropped }, { s with ipLimiter := t.ipSlot.drop s.ipLimiter })
  | .ipSlotDropped, .proceed =>
    some ({ t with point := .decremented }, { s with connLimiter := s.connLimiter.decrement })
  | .decremented, .proceed =>
    some ({ t with point := .done }, { s with connLimiter := s.connLimiter.releasePermit })
  | p, e =>
    (advanceStats tls p s.stats e).map fun out =>
      ({ t with point := out.1 }, { s with stats := out.2 })

theorem taskStep_cases {tls : Provider} {t t' : ConnTask} {s s' : Shared} {e : TaskEvent}
    (h : taskStep tls t s e = some (t', s')) :
    (t.point = .entered ∧ t' = { t with point := .probing s.router } ∧ s' = s) ∨
    (t.point = .leaving ∧ t' = { t with point := .ipSlotDropped } ∧
      s' = { s with ipLimiter := t.ipSlot.drop s.ipLimiter }) ∨
    (t.point = .ipSlotDropped ∧ t' = { t with point := .decremented } ∧
      s' = { s with connLimiter := s.connLimiter.decrement }) ∨
    (t.point = .decremented ∧ t' = { t with point := .done } ∧
      s' = { s with connLimiter := s.connLimiter.releasePermit }) ∨
    ∃ q st, advanceStats tls t.point s.stats e = some (q, st) ∧ t' = { t with point := q } ∧
      s' = { s with stats := st } := by
  unfold taskStep at h
  split at h
  · next hp =>
    cases h
    exact Or.inl ⟨hp, rfl, rfl⟩
  · next hp =>
    cases h
    exact Or.inr (Or.inl ⟨hp, rfl, rfl⟩)
  · next hp =>
    cases h
    exact Or.inr (Or.inr (Or.inl ⟨hp, rfl, rfl⟩))
  · next hp =>
    cases h
    exact Or.inr (Or.inr (Or.inr (Or.inl ⟨hp, rfl, rfl⟩)))
  · obtain ⟨out, hout, heq⟩ := Option.map_eq_some_iff.mp h
    cases heq
    exact Or.inr (Or.inr (Or.inr (Or.inr ⟨out.1, out.2, hout, rfl, rfl⟩)))

/-! ## A relay as steps of its task -/

def countedStep (tls : Provider) (x : TaskPoint × Stats) (e : TaskEvent) :
    Option (TaskPoint × Stats) :=
  advanceStats tls x.1 x.2 e

theorem attempts_default : ConnectRetryPolicy.default.attempts = maxAttempts := by decide

theorem exec_attemptFailed (tls : Provider) (relay : Relay) (attempt : ℕ) {j : ℕ}
    (h : attempt + j ≤ maxAttempts) (st : Stats) :
    exec (countedStep tls) (.relaying relay attempt, st) (List.replicate j .attemptFailed) =
      some (.relaying relay (attempt + j),
        { st with proxyServiceConnectRetries := st.proxyServiceConnectRetries + j }) := by
  induction j with
  | zero => rfl
  | succ j ih =>
    rw [List.replicate_succ', exec_concat_eq_some]
    refine ⟨_, ih (by omega), ?_⟩
    simp only [countedStep, advanceStats]
    rw [if_pos (by omega)]
    rfl

/-- The steps of a session, its bytes in one go: it ends without an error, or with one. -/
def sessionSteps (session : Session) : List TaskEvent :=
  .connected :: .copied session.fromClient session.fromUpstream ::
    if session.ending.isOk then [.sessionEnded, .proceed] else [.sessionFailed]

theorem exec_sessionSteps (tls : Provider) (relay : Relay) (attempt : ℕ) (session : Session)
    (st : Stats) :
    exec (countedStep tls) (.relaying relay attempt, st) (sessionSteps session) =
      some (.unwinding .proxied, { st with
        proxyBytesClientToService := st.proxyBytesClientToService +
          if session.ending.isOk then session.fromClient else 0
        proxyBytesServiceToClient := st.proxyBytesServiceToClient +
          if session.ending.isOk then session.fromUpstream else 0 }) := by
  unfold sessionSteps
  split_ifs <;> simp [exec_cons, countedStep, advanceStats]

/-- A relay is a run of its task that leaves the same counters. -/
theorem relayToService_steps {Stream : Type} (tls : Provider) (relay : Relay)
    (connect : UInt32 → ConnectOutcome Stream) (session : Session) (st : Stats) :
    ∃ es, exec (countedStep tls) (.relaying relay 1, st) es =
      some (.unwinding .proxied, (relayToService relay.endpoint connect session st).2) := by
  obtain ⟨hpos, hle, -, hend⟩ :=
    ConnectRetryPolicy.default.lastAttempt_spec fun n => (connect n).isConnected
  obtain ⟨hfailed, hconnected⟩ :=
    relayToServiceWith_stats relay.endpoint .default connect session st
  obtain ⟨j, hj⟩ := Nat.exists_eq_add_of_le' hpos
  rw [attempts_default] at hle hend
  rw [hj] at hle hend hfailed hconnected
  have hattempts := exec_attemptFailed tls relay 1 (j := j) (by omega) st
  by_cases h : AllFailed .default connect
  · have hlast : j + 1 = maxAttempts := by
      rcases hend with hok | hlast
      · rw [h (j + 1) (by omega) (by rw [attempts_default]; exact hle)] at hok
        cases hok
      · exact hlast
    refine ⟨List.replicate j .attemptFailed ++ [.attemptFailed], ?_⟩
    rw [exec_concat_eq_some]
    refine ⟨_, hattempts, ?_⟩
    simp only [countedStep, advanceStats]
    rw [if_neg (by omega), relayToService, hfailed h]
    rfl
  · refine ⟨List.replicate j .attemptFailed ++ sessionSteps session, ?_⟩
    rw [exec_append_eq_some]
    refine ⟨_, hattempts, ?_⟩
    rw [relayToService, hconnected h]
    exact exec_sessionSteps tls relay (1 + j) session _

/-! ## The front -/

/-- The front: the accept loop with the connections it has spawned. -/
abbrev Front := Pool ConnTask Shared

abbrev FrontEvent := PoolEvent MainEvent TaskEvent

namespace Front

def start (permits maxPerIp : Usize) (ratePerSec : ℚ) (burst : ℕ) (state : RouterState) : Front where
  tasks := []
  shared :=
    { loop := .acquiring
      accepts := 0
      stats := .new
      connLimiter := .new permits
      ipLimiter := .new maxPerIp
      rateLimiter := .new ratePerSec burst
      router := state }

def step (tls : Provider) (front : Front) (e : FrontEvent) : Option Front :=
  Pool.step Shared.mainStep (taskStep tls) front e

def Quiet (front : Front) : Prop := ∀ t ∈ front.tasks, t.point = .done

instance (front : Front) : Decidable front.Quiet :=
  inferInstanceAs (Decidable (∀ t ∈ front.tasks, t.point = .done))

end Front

def Process.front (p : Process) : Front :=
  .start p.permits p.ipLimiter.maxPerIp p.rateLimiter.refillPerSec p.rateLimiter.capacity p.router

def Front.minimal : Front := (startMinimal.toOption.get rfl).front

end Reprox.Server
