import LocalProxy.Handles
import LocalProxy.Streams
import Mathlib.Data.Set.Insert

/-! The clients of the proxy are kept apart. Whatever a client makes the program do goes over
connections that were opened for this client, in any order of the steps of all of them. -/

namespace LocalProxy.Isolation
open Strings Addr Http Programs Program Network SendRequest Outbound Service Inbound Handshake
open Resolution Monitors Handles Streams

/-- The socket at the bottom of a stream. -/
def socketOf : Connection → Nat
  | .tcpStream socket => socket
  | .tlsStream _ inner => socketOf inner
  | .upgraded inner => socketOf inner
  | .fragmentLayer inner => socketOf inner

/-- A socket is handed out when it is connected, and used by what is done with its streams. -/
def sockets : Tokens Op Ans Nat where
  grants event := {socket | ∃ addr, event = ⟨.tcpConnect addr, .ok socket⟩}
  spends operation := {socket | ∃ stream, streamOf operation = some stream ∧
    socket = socketOf stream}

/-- The connection is one over a socket that was handed out. -/
def Owned (conn : Connection) (held : Set Nat) : Prop := socketOf conn ∈ held

section Operations

variable {operation : Op} {held : Set Nat}

theorem aside_allowed (aside : streamOf operation = none) :
    sockets.monitor.allows held operation := by
  intro socket spent
  obtain ⟨stream, about, _⟩ := spent
  rw [aside] at about
  cases about

theorem owned_allowed {server : Connection} (about : streamOf operation = some server)
    (owned : Owned server held) : sockets.monitor.allows held operation := by
  intro socket spent
  obtain ⟨stream, named, same⟩ := spent
  rw [about] at named
  cases named
  rw [same]
  exact owned

end Operations

/-- Every stack hands over connections over sockets that it was handed. -/
theorem sockets_carry (proxies : ProxyStack) : Carries sockets.monitor Within Owned proxies where
  grows := monitor_grows sockets
  kept _ _ _ larger owned := larger _ owned
  dial _ _ := aside_allowed rfl
  dialled _ _ _ := .inr ⟨_, rfl⟩
  use _ about owned := owned_allowed about owned
  secured owned := owned
  upgraded owned := owned
  fragmented _ _ _ owned := owned

theorem sockets_send (request : Request) : Sends sockets.monitor Owned request where
  shake owned := owned_allowed rfl owned
  send owned := owned_allowed rfl owned
  relay owned := owned_allowed rfl owned

section Requests

variable {crates : Crates} {resolve : Resolve} {state : ProxyState} {held : Set Nat}

theorem happyEyeballs_keeps (looks : Looks sockets.monitor resolve) (config : Config)
    (self : Element) (proxies : ProxyStack) (addr : SocketAddr) :
    Safe sockets.monitor (OnValue Owned) (happyEyeballs crates resolve config self proxies addr)
      held :=
  happyEyeballs_safe (monitor_grows sockets) (sockets_carry (self :: proxies)).kept
    (fun _ => aside_allowed rfl) looks config (fun addr _ => (sockets_carry _).connect addr) addr

theorem secure_keeps (scheme : Text) (server : Connection) (addr : SocketAddr) (held : Set Nat)
    (owned : Owned server held) :
    Safe sockets.monitor (OnValue Owned) (secure scheme server addr) held := by
  unfold secure
  split
  · exact (sockets_carry []).wrap owned addr
  · exact owned

theorem sendRequest_keeps (looks : Looks sockets.monitor resolve) (reqConf : RequestConfig)
    (request : Request) :
    Minds sockets.monitor (Service.sendRequest crates resolve state reqConf request) held := by
  refine safe_ofExcept_bind fun rewritten _ => ?_
  show Minds _ (serve crates resolve state.config (dispatch state reqConf) rewritten.1 reqConf
    rewritten.2) held
  rw [serve_server]
  cases server rewritten.1 (dispatch state reqConf) with
  | nobody => trivial
  | default self proxies =>
    exact default_safe (monitor_grows sockets) (sockets_carry (self :: proxies)).kept
      (fun _ => aside_allowed rfl) looks (fun addr _ => (sockets_carry _).connect addr)
      (secure_keeps rewritten.1) (sockets_send rewritten.2) state.config reqConf
  | forward proxy proxies =>
    exact (sockets_carry proxies).forward proxy fun sent _ => sockets_send sent

theorem dohQuery_keeps (looks : Looks sockets.monitor resolve) (query : Bytes) :
    Minds sockets.monitor (dohQuery crates resolve state query) held :=
  dohQuery_safe (monitor_grows sockets) (fun _ _ => aside_allowed rfl)
    (fun _ _ _ => aside_allowed rfl) (fun _ _ posted _ _ _ => sendRequest_keeps looks _ posted)
    query

theorem resolveTo_keeps (crates : Crates) (state : ProxyState) (depth : Nat) :
    Looks sockets.monitor (resolveTo crates state depth) := by
  induction depth with
  | zero =>
    intro hostname qtype held
    exact ask_safe (monitor_grows sockets) kept_true (aside_allowed rfl) fun _ =>
      safe_ofExcept.mpr (onValue_true _ _)
  | succ depth ih =>
    exact resolveBy_safe (fun sent _ => dohQuery_keeps ih sent) fun _ _ _ _ => aside_allowed rfl

end Requests

/-- What a client makes the program do. -/
inductive Job where
  | plain (request : Request)
  /-- A `CONNECT` request, and what goes through its tunnel. -/
  | tunnel (request : Request) (traffic : List Traffic)
  /-- A connection that the kernel redirects, once its destination is known. -/
  | redirected (destination : StdNet.SocketAddr) (traffic : List Traffic)
  | datagram (query : Bytes) (source : StdNet.SocketAddr)

def Job.program (crates : Crates) (state : ProxyState) : Job → Net Unit
  | .plain request => do
    let _ ← handle crates (resolveTo crates state 1) state request
    return ()
  | .tunnel request traffic => do
    let serverConn ← connectRun crates (resolveTo crates state 1) state request
    copyBidirectional serverConn traffic
  | .redirected destination traffic => do
    let serverConn ← tproxyRun crates state destination
    copyBidirectional serverConn traffic
  | .datagram query source => dnsRun crates (resolveTo crates state 1) state query source

section Jobs

variable {crates : Crates} {state : ProxyState} {held : Set Nat}

theorem copy_keeps {server : Connection} (traffic : List Traffic) (owned : Owned server held) :
    Minds sockets.monitor (copyBidirectional server traffic) held := by
  induction traffic with
  | nil => trivial
  | cons piece rest ih =>
    cases piece with
    | client bytes =>
      exact ask_safe (monitor_grows sockets) kept_true (owned_allowed rfl owned) fun _ =>
        safe_ofExcept_bind fun _ _ => ih
    | server count =>
      exact ask_safe (monitor_grows sockets) kept_true (owned_allowed rfl owned) fun _ =>
        safe_ofExcept_bind fun _ _ => ih

theorem connectRun_keeps (request : Request) :
    Safe sockets.monitor (OnValue Owned)
      (connectRun crates (resolveTo crates state 1) state request) held := by
  refine safe_ofExcept_bind fun server _ => ?_
  cases state.proxyStack.reverse with
  | nil => trivial
  | cons proxy proxies =>
    exact happyEyeballs_keeps (resolveTo_keeps crates state 1) state.config proxy proxies server

theorem tproxyRun_keeps (destination : StdNet.SocketAddr) :
    Safe sockets.monitor (OnValue Owned) (tproxyRun crates state destination) held := by
  unfold tproxyRun
  cases state.proxyStack.reverse with
  | nil => trivial
  | cons proxy proxies => exact (sockets_carry (proxy :: proxies)).connect _

theorem handle_keeps (request : Request) :
    Minds sockets.monitor (handle crates (resolveTo crates state 1) state request) held := by
  have served : Minds sockets.monitor (if request.method = .connect then
      connectResponse crates (resolveTo crates state 1) state request
    else do
      let response ← httpProxyRun crates (resolveTo crates state 1) state request
      return Response.keptAlive response) held := by
    split
    · exact (connectRun_keeps request).andThen fun _ _ _ => trivial
    · exact (sendRequest_keeps (resolveTo_keeps crates state 1) .new request).andThen
        fun _ _ _ => trivial
  have answered : Minds sockets.monitor (attempt (if request.method = .connect then
      connectResponse crates (resolveTo crates state 1) state request
    else do
      let response ← httpProxyRun crates (resolveTo crates state 1) state request
      return Response.keptAlive response)) held :=
    Safe.attempt (served.mono fun _ _ _ => trivial)
  refine answered.andThen fun outcome _ _ => ?_
  cases outcome with
  | ok response => trivial
  | error error => trivial

/-- Whatever a client makes the program do keeps to the sockets it is handed for it. -/
theorem job_keeps (crates : Crates) (state : ProxyState) (job : Job) :
    Minds sockets.monitor (job.program crates state) ∅ := by
  cases job with
  | plain request => exact (handle_keeps request).andThen fun _ _ _ => trivial
  | tunnel request traffic =>
    exact (connectRun_keeps request).andThen fun server _ owned => copy_keeps traffic owned
  | redirected destination traffic =>
    exact (tproxyRun_keeps destination).andThen fun server _ owned => copy_keeps traffic owned
  | datagram query source =>
    refine (dohQuery_keeps (resolveTo_keeps crates state 1) query).andThen fun result _ _ => ?_
    exact ask_safe (monitor_grows sockets) kept_true (aside_allowed rfl) fun _ =>
      safe_ofExcept.mpr (onValue_true _ _)

end Jobs

/-- A state in which two redirected clients are served over a stack without proxies. -/
def directState : ProxyState := ⟨⟨none, none, none⟩, [.raw]⟩

/-- In every reachable state of the proxy, no operation for one client is on a stream over a
socket that an operation for another client is on: each is over a socket that was connected
for its own client. -/
theorem jobs_isolated (crates : Crates) (state : ProxyState)
    {tasks : List (Task (Job.program crates state))}
    (reachable : Handles.Reachable sockets (Job.program crates state) tasks) :
    (∀ task ∈ tasks, Within (sockets.spent task.events) (sockets.granted task.events)) ∧
    ∀ (i j : Nat) (one other : Task (Job.program crates state)), tasks[i]? = some one →
      tasks[j]? = some other → i ≠ j →
      Apart (sockets.spent one.events) (sockets.spent other.events) :=
  ⟨fun task _ => task_spent (job_keeps crates state) task, fun _ _ _ _ here there different =>
    reachable_isolated (job_keeps crates state) reachable here there different⟩

/-- The events of a redirected client until its connection is there. -/
def opened (destination : StdNet.SocketAddr) (socket : Nat) : Trace :=
  [⟨.tcpConnect (SocketAddr.ofStd destination).toText, .ok socket⟩,
    ⟨.setNodelay (.tcpStream socket), .ok ()⟩]

def openedAnswers (socket : Nat) : (operation : Op) → Option (Ans operation)
  | .tcpConnect _ => some (.ok socket)
  | .setNodelay _ => some (.ok ())
  | _ => none

theorem opened_granted (destination : StdNet.SocketAddr) (socket : Nat) :
    sockets.granted (opened destination socket) = {socket} := by
  ext other
  simp only [sockets, Tokens.granted, opened, Set.mem_ofPred_eq, Set.mem_singleton_iff]
  constructor
  · intro found
    obtain ⟨event, member, addr, same⟩ := found
    simp only [List.mem_cons, List.not_mem_nil, or_false] at member
    rcases member with first | second
    · rw [first] at same
      cases same
      rfl
    · rw [second] at same
      cases same
  · intro same
    exact ⟨_, List.mem_cons_self, _, by rw [same]⟩

theorem opened_once (destination : StdNet.SocketAddr) (socket : Nat) :
    (opened destination socket).Pairwise fun earlier later =>
      Apart (sockets.grants later) (sockets.grants earlier) := by
  have none : sockets.grants ⟨.setNodelay (.tcpStream socket), .ok ()⟩ = ∅ := by
    ext other
    simp [sockets]
  simp [opened, none, empty_apart]

def firstClient : StdNet.SocketAddr := ⟨.v4 ⟨192, 0, 2, 1⟩, 80⟩
def secondClient : StdNet.SocketAddr := ⟨.v4 ⟨192, 0, 2, 2⟩, 80⟩

theorem opened_steps (destination : StdNet.SocketAddr) (socket : Nat) :
    ∃ left, Steps ((Job.redirected destination []).program Crates.plain directState)
      (opened destination socket) left :=
  ⟨_, drive_steps (openedAnswers socket) true
    ((Job.redirected destination []).program Crates.plain directState)⟩

theorem jobs_isolated_pair : ∃ tasks : List (Task (Job.program Crates.plain directState)),
    (∃ one other, tasks = [one, other] ∧ one.events = opened firstClient 3 ∧
      other.events = opened secondClient 4) ∧
    (∀ task ∈ tasks, Within (sockets.spent task.events) (sockets.granted task.events)) ∧
    ∀ (i j : Nat) (one other : Task (Job.program Crates.plain directState)),
      tasks[i]? = some one → tasks[j]? = some other → i ≠ j →
      Apart (sockets.spent one.events) (sockets.spent other.events) := by
  let first : Task (Job.program Crates.plain directState) := .start (.redirected firstClient [])
  let second : Task (Job.program Crates.plain directState) := .start (.redirected secondClient [])
  have empty : sockets.granted [] = ∅ := by
    ext other
    simp [Tokens.granted]
  have started : Handles.Reachable sockets (Job.program Crates.plain directState)
      [first, second] := (Handles.Reachable.initial.step (.start [] _)).step (.start [first] _)
  obtain ⟨_, steps⟩ := opened_steps firstClient 3
  obtain ⟨one, served, events⟩ := started.alone (i := 0) rfl steps
    (fun other member => by
      simp only [List.mem_cons, List.not_mem_nil, or_false] at member
      rcases member with same | same
      · rw [same]
        exact empty ▸ apart_empty _
      · rw [same]
        exact empty ▸ apart_empty _)
    (opened_once firstClient 3)
  obtain ⟨_, steps⟩ := opened_steps secondClient 4
  obtain ⟨other, both, events'⟩ := served.alone (i := 1) rfl steps
    (fun other member => by
      simp only [List.set_cons_zero, List.mem_cons, List.not_mem_nil, or_false] at member
      rcases member with same | same
      · have mine : one.events = opened firstClient 3 := events
        rw [same, mine, opened_granted, opened_granted]
        intro socket four three
        rw [Set.mem_singleton_iff.mp four] at three
        exact absurd (Set.mem_singleton_iff.mp three) (by decide)
      · rw [same]
        exact empty ▸ apart_empty _)
    (opened_once secondClient 4)
  exact ⟨_, ⟨one, other, rfl, events, events'⟩, jobs_isolated Crates.plain directState both⟩

end LocalProxy.Isolation
