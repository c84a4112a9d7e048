import LocalProxy.DohQuery

/-! The DNS service with everything that uses its cache: tasks that answer the datagrams
of clients and tasks that resolve names, whose steps come in any order, the channels that
bring answers back to the sockets, and the datagrams sent. -/

namespace LocalProxy.DnsService
open Strings Addr Http Programs Program Network Outbound Service Inbound Resolution DohQuery

/-- What a task was started for. -/
inductive Origin where
  /-- A datagram that came in at the socket of this listener. -/
  | client (listener : Nat) (query : Bytes) (source : StdNet.SocketAddr)
  /-- A name that `happy_eyeballs` resolves. -/
  | resolution (hostname : HostName) (qtype : QueryType)

def Origin.program (crates : Crates) (state : ProxyState) : Origin → Net Unit
  | .client _ query source => dnsRun crates (resolveTo crates state 1) state query source
  | .resolution hostname qtype => do
    let _ ← resolveTo crates state 1 hostname qtype
    return ()

/-- A task: what it has gone through, and what is left of it. -/
structure Spawned (crates : Crates) (state : ProxyState) where
  origin : Origin
  events : Trace
  left : Net Unit
  runs : Steps (origin.program crates state) events left

/-- A datagram on its way to a client, with the number of the task that made it. -/
structure Reply where
  task : Nat
  listener : Nat
  buf : Bytes
  dest : StdNet.SocketAddr
  deriving DecidableEq, Repr

structure System (crates : Crates) (state : ProxyState) where
  tasks : List (Spawned crates state)
  /-- What was put into the cache so far. -/
  inserted : List (Bytes × Bytes)
  /-- What is in the channels. -/
  queued : List Reply
  sent : List Reply

variable {crates : Crates} {state : ProxyState}

def Spawned.start (origin : Origin) : Spawned crates state :=
  ⟨origin, [], origin.program crates state, .still _⟩

def Spawned.after (task : Spawned crates state) {event : Event Op Ans} {left : Net Unit}
    (step : Steps task.left [event] left) : Spawned crates state :=
  ⟨task.origin, task.events ++ [event], left, task.runs.trans step⟩

/-- What an event puts into the channel of the listener. -/
def outgoing (task : Nat) : Origin → Event Op Ans → List Reply
  | .client listener _ _, ⟨.channelSend buf dest, .ok _⟩ => [⟨task, listener, buf, dest⟩]
  | _, _ => []

/-- The cache gives back only what was put in under the key. -/
def Permitted (inserted : List (Bytes × Bytes)) (event : Event Op Ans) : Prop :=
  ∀ key value, event = ⟨.cacheGet key, some value⟩ → (key, value) ∈ inserted

inductive Step : System crates state → System crates state → Prop where
  | start (s origin) : Step s { s with tasks := s.tasks ++ [.start origin] }
  | proceed {s : System crates state} {i task event left} (here : s.tasks[i]? = some task)
    (step : Steps task.left [event] left) (permitted : Permitted s.inserted event) :
    Step s {
      tasks := s.tasks.set i (task.after step)
      inserted := inserts [event] ++ s.inserted
      queued := s.queued ++ outgoing i task.origin event
      sent := s.sent }
  /-- The first item in the channel of its listener goes out at the socket. -/
  | deliver {s : System crates state} {before reply after}
    (split : s.queued = before ++ reply :: after)
    (first : ∀ earlier ∈ before, earlier.listener ≠ reply.listener) :
    Step s { s with queued := before ++ after, sent := s.sent ++ [reply] }
  /-- The socket does not take it, which is ignored. -/
  | lose {s : System crates state} {before reply after}
    (split : s.queued = before ++ reply :: after)
    (first : ∀ earlier ∈ before, earlier.listener ≠ reply.listener) :
    Step s { s with queued := before ++ after }

inductive Reachable : System crates state → Prop where
  | initial : Reachable ⟨[], [], [], []⟩
  | step {s s'} (before : Reachable s) (step : Step s s') : Reachable s'

end LocalProxy.DnsService
