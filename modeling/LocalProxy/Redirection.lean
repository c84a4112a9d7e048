import LocalProxy.Embeddings
import LocalProxy.Handles
import LocalProxy.Journey
import LocalProxy.Listening

/-! Redirected clients from the listener to the relay: the tasks that `start` of
`inbound/tproxy.rs` spawns, the clients they accept, and `run` for each of these. Whatever the
order of their steps, a client is relayed to where the system says it was going. -/

namespace LocalProxy.Redirection
open Strings Addr Http Programs Program Network SendRequest Outbound Service Inbound Route
open MainStack RedirTypes Listening Embeddings Journey
open Handles (Task)

variable {platform : Platform}

/-- What is asked of the system, or of the network. -/
abbrev Joint (platform : Platform) := Sys platform ⊕ Op

abbrev JointAns : Joint platform → Type
  | .inl operation => SysAns operation
  | .inr operation => Ans operation

def onSockets : Embedding (Sys platform) SysAns (Joint platform) JointAns :=
  ⟨.inl, fun _ => Equiv.refl _⟩

def onNetwork : Embedding Op Ans (Joint platform) JointAns := ⟨.inr, fun _ => Equiv.refl _⟩

abbrev JointTrace (platform : Platform) := List (Event (Joint platform) JointAns)

/-- A client that a task has accepted, and what will be copied for it. -/
structure Accepted (platform : Platform) where
  accepting : Loop platform
  stream : Nat
  traffic : List Traffic

/-- `run` of `inbound/tproxy.rs`. -/
def run (crates : Crates) (state : ProxyState) (client : Accepted platform) :
    Program (Joint platform) JointAns Error Unit := do
  let addr ← through onSockets (destinationAddr client.accepting.redirType client.stream)
  let serverConn ← through onNetwork (tproxyRun crates state addr)
  let _ ← attempt (through onNetwork (copyBidirectional serverConn client.traffic))
  return ()

/-- How the system tells where a client was going, for each type. -/
inductive Told (platform : Platform) (stream : Nat) (destination : StdNet.SocketAddr) :
    Kind → SysTrace platform → Prop where
  | original : Told platform stream destination .redirect
    [⟨.getsockopt stream ipprotoIp soOriginalDst, .ok (some destination)⟩]
  | original6 {error} : Told platform stream destination .redirect
    [⟨.getsockopt stream ipprotoIp soOriginalDst, .error error⟩,
      ⟨.getsockopt stream ipprotoIpv6 ip6tSoOriginalDst, .ok (some destination)⟩]
  /-- The socket is bound to the address. -/
  | bound {kind} (own : kind = .tProxy ∨ kind = .ipFirewall ∨
      kind = .packetFilter ∧ platform = .openbsd) :
    Told platform stream destination kind [⟨.localAddr stream, .ok destination⟩]
  /-- The packet filter has translated the address. -/
  | translated {peer bind} (asked : platform ≠ .openbsd) :
    Told platform stream destination .packetFilter [⟨.peerAddr stream, .ok peer⟩,
      ⟨.localAddr stream, .ok bind⟩, ⟨.natlook bind peer, .ok destination⟩]

section Destination

variable {ty : RedirType platform} {stream : Nat} {destination : StdNet.SocketAddr}
  {trace : SysTrace platform}

theorem asSocket_returns {target : Option StdNet.SocketAddr}
    (success : Returns (asSocket target : Sockets platform StdNet.SocketAddr) trace destination) :
    trace = [] ∧ target = some destination := by
  cases target with
  | some addr =>
    obtain ⟨empty, same⟩ := returns_value.mp success
    exact ⟨empty, congrArg some same⟩
  | none =>
    obtain ⟨answer, _⟩ := returns_ask.mp success
    exact answer.elim

theorem original_told
    (success : Returns (getOriginalDestinationAddr stream : Sockets platform _) trace destination) :
    Told platform stream destination .redirect trace := by
  obtain ⟨first, rest, split, success⟩ := returns_ask.mp success
  cases first with
  | ok target =>
    obtain ⟨empty, same⟩ := asSocket_returns success
    rw [split, empty, same]
    exact .original
  | error error =>
    obtain ⟨second, last, split', success⟩ := returns_ask.mp success
    cases second with
    | ok target =>
      obtain ⟨empty, same⟩ := asSocket_returns success
      rw [split, split', empty, same]
      exact .original6
    | error second => cases (steps_fail.mp success).2

theorem bound_told {kind : Kind}
    (success : Returns (localAddr stream : Sockets platform _) trace destination)
    (own : kind = .tProxy ∨ kind = .ipFirewall ∨ kind = .packetFilter ∧ platform = .openbsd) :
    Told platform stream destination kind trace := by
  obtain ⟨_, same, rfl⟩ := returns_call success
  rw [same]
  exact .bound own

theorem translated_told (asked : platform ≠ .openbsd) (success : Returns (do
      let peerAddr ← peerAddr stream
      let bindAddr ← localAddr stream
      natlook bindAddr peerAddr : Sockets platform _) trace destination) :
    Told platform stream destination .packetFilter trace := by
  obtain ⟨peer, first, rest, split, known, success⟩ := returns_bind.mp success
  obtain ⟨bind, second, last, split', bound, success⟩ := returns_bind.mp success
  obtain ⟨_, firstIs, rfl⟩ := returns_call known
  obtain ⟨_, secondIs, rfl⟩ := returns_call bound
  obtain ⟨answer, none, looked, success⟩ := returns_ask.mp success
  match answer with
  | .ok addr =>
    obtain ⟨empty, same⟩ := returns_value.mp success
    rw [split, split', firstIs, secondIs, looked, empty, same]
    exact .translated asked
  | .error (.err _) => cases (steps_fail.mp success).2
  | .error .panicked =>
    obtain ⟨panicked, _⟩ := returns_ask.mp success
    exact panicked.elim
  | .error .outOfFuel =>
    obtain ⟨panicked, _⟩ := returns_ask.mp success
    exact panicked.elim

theorem unreached (success : Returns (unreachable : Sockets platform StdNet.SocketAddr) trace
    destination) : False := by
  obtain ⟨answer, _⟩ := returns_ask.mp success
  exact answer.elim

/-- A destination that was found is what the system has told. -/
theorem destinationAddr_told (success : Returns (destinationAddr ty stream) trace destination) :
    Told platform stream destination ty.kind trace := by
  unfold destinationAddr at success
  cases kind : ty.kind with
  | notSupported =>
    rw [kind] at success
    split at success
    all_goals exact (unreached success).elim
  | redirect =>
    rw [kind] at success
    split at success
    · exact original_told success
    all_goals exact (unreached success).elim
  | tProxy =>
    rw [kind] at success
    split at success
    · exact bound_told success (.inl rfl)
    all_goals exact (unreached success).elim
  | ipFirewall =>
    rw [kind] at success
    split at success
    · exact (unreached success).elim
    · exact bound_told success (.inr (.inl rfl))
    · exact (unreached success).elim
  | packetFilter =>
    rw [kind] at success
    split at success
    · exact (unreached success).elim
    · simp only at success
      split at success
      · rename_i openbsd
        exact bound_told success (.inr (.inr ⟨rfl, openbsd⟩))
      · rename_i other
        exact translated_told other success
    · exact (unreached success).elim

/-- On its own system a type that listeners are opened for has its way to be told. -/
theorem destinationAddr_reached (bindable : Bindable ty) :
    (destinationAddr ty stream).Uses (· ≠ .unreachable) := by
  have socket : ∀ target, (asSocket target : Sockets platform _).Uses (· ≠ .unreachable) := by
    intro target
    cases target with
    | some addr => trivial
    | none => exact ⟨nofun, fun answer => answer.elim⟩
  have original : (getOriginalDestinationAddr stream : Sockets platform _).Uses
      (· ≠ .unreachable) := by
    refine ⟨nofun, fun first => ?_⟩
    cases first with
    | ok target => exact socket target
    | error error =>
      refine ⟨nofun, fun second => ?_⟩
      cases second with
      | ok target => exact socket target
      | error error => trivial
  have bound : (localAddr stream : Sockets platform _).Uses (· ≠ .unreachable) :=
    ⟨nofun, fun _ => uses_ofExcept _ _⟩
  have translated : (do
      let peerAddr ← peerAddr stream
      let bindAddr ← localAddr stream
      natlook bindAddr peerAddr : Sockets platform _).Uses (· ≠ .unreachable) := by
    refine Uses.bind ⟨nofun, fun _ => uses_ofExcept _ _⟩ fun peer => bound.bind fun bind => ?_
    refine ⟨nofun, fun answer => ?_⟩
    match answer with
    | .ok addr => trivial
    | .error (.err _) => trivial
    | .error .panicked => exact ⟨nofun, fun answer => answer.elim⟩
    | .error .outOfFuel => exact ⟨nofun, fun answer => answer.elim⟩
  obtain ⟨kind, compiled⟩ := ty
  cases platform <;> cases kind
  -- Each case is a variant that is not compiled, the dummy, or one with its own way.
  all_goals first
    | exact absurd compiled (by decide)
    | exact (bindable rfl).elim
    | exact original
    | exact bound
    | exact translated

end Destination

/-- What a client has gone through: its destination was asked for, then the way there was gone
along the proxies, and then its bytes were copied over the connection at the end of this way. -/
inductive Served (crates : Crates) (config : Config) (hops : List Hop) (client : Accepted platform) :
    JointTrace platform → Prop where
  | asking {asked left}
    (steps : Steps (destinationAddr client.accepting.redirType client.stream) asked left) :
    Served crates config hops client (asked.map onSockets.event)
  | reaching {asked destination reached left}
    (told : Told platform client.stream destination client.accepting.redirType.kind asked)
    (steps : Steps (journey crates hops (.ofStd destination)) reached left) :
    Served crates config hops client (asked.map onSockets.event ++ reached.map onNetwork.event)
  | relaying {asked destination reached inner copied left}
    (told : Told platform client.stream destination client.accepting.redirType.kind asked)
    (success : Returns (journey crates hops (.ofStd destination)) reached inner)
    (steps : Steps (copyBidirectional (wrapped config inner) client.traffic) copied left) :
    Served crates config hops client
      (asked.map onSockets.event ++ (reached ++ copied).map onNetwork.event)

section Clients

variable {crates : Crates} {config : Config} {stack : List Element} {hops : List Hop}
  {client : Accepted platform}

theorem tproxyRun_journey (shape : stack.reverse =
      (if fragmentsAll config then [Element.fragment] else []) ++ backwards hops)
    (destination : StdNet.SocketAddr) : tproxyRun crates ⟨config, stack⟩ destination =
      journey crates hops (.ofStd destination) >>= fun inner => value (wrapped config inner) := by
  have reached : tproxyRun crates ⟨config, stack⟩ destination =
      reach crates stack.reverse (.ofStd destination) := by
    unfold tproxyRun
    cases stack.reverse with
    | nil => rfl
    | cons proxy proxies => rfl
  rw [reached, shape]
  exact stack_journey crates config hops (.ofStd destination)

theorem run_served (shape : stack.reverse =
      (if fragmentsAll config then [Element.fragment] else []) ++ backwards hops)
    {trace : JointTrace platform} {left : Program (Joint platform) JointAns Error Unit}
    (steps : Steps (run crates ⟨config, stack⟩ client) trace left) :
    Served crates config hops client trace := by
  rcases steps_bind steps with ⟨_, first, _⟩ | ⟨destination, before, after, split, first, later⟩
  · obtain ⟨asked, _, runs, mapped, _⟩ := steps_through first
    rw [mapped]
    exact .asking runs
  obtain ⟨asked, found, mapped⟩ := returns_through first
  have told := destinationAddr_told found
  rw [split, mapped]
  rcases steps_bind later with ⟨_, second, _⟩ | ⟨conn, reaching, last, split', second, later⟩
  · obtain ⟨reached, _, runs, mapped', _⟩ := steps_through second
    rw [tproxyRun_journey shape] at runs
    rw [mapped']
    rcases steps_bind runs with ⟨_, way, _⟩ | ⟨_, way, none, whole, success, rest⟩
    · exact .reaching told way
    · rw [whole, (steps_value.mp rest).1, List.append_nil]
      exact .reaching told success
  obtain ⟨reached, found', mapped'⟩ := returns_through second
  rw [tproxyRun_journey shape] at found'
  obtain ⟨inner, way, none, whole, success, rest⟩ := returns_bind.mp found'
  obtain ⟨empty, same⟩ := returns_value.mp rest
  have copied : ∃ copied left, Steps (copyBidirectional (wrapped config inner) client.traffic)
      copied left ∧ last = copied.map onNetwork.event := by
    rw [same]
    rcases attempt_bind_steps later with ⟨_, _, copying, _⟩ | ⟨_, front, back, cut, copying, ended⟩ |
      ⟨_, front, back, cut, copying, ended⟩
    · obtain ⟨copied, left, runs, mapped, _⟩ := steps_through copying
      exact ⟨copied, left, runs, mapped⟩
    · obtain ⟨copied, left, runs, mapped, _⟩ := steps_through copying
      rw [(steps_value.mp ended).1, List.append_nil] at cut
      exact ⟨copied, left, runs, cut ▸ mapped⟩
    · obtain ⟨copied, left, runs, mapped, _⟩ := steps_through copying
      rw [(steps_value.mp ended).1, List.append_nil] at cut
      exact ⟨copied, left, runs, cut ▸ mapped⟩
  obtain ⟨copied, left, runs, mapped''⟩ := copied
  rw [empty, List.append_nil] at whole
  rw [split', mapped', mapped'', whole, ← List.map_append]
  exact .relaying told success runs

/-- No client of a listener gets where `destination_addr` cannot tell. -/
theorem run_reached (bindable : Bindable client.accepting.redirType) {state : ProxyState} :
    (run crates state client).Uses (· ≠ .inl .unreachable) := by
  refine (uses_through ((destinationAddr_reached bindable).mono ?_)).bind fun addr => ?_
  · intro operation other same
    exact other (Sum.inl.inj same)
  refine (uses_outside fun _ => nofun).bind fun serverConn => ?_
  exact (uses_outside fun _ => nofun).attempt.bind fun _ => trivial

end Clients

/-- `start`, and the clients that were accepted since. -/
structure System (crates : Crates) (state : ProxyState) (platform : Platform)
    (tproxyListen : Option TProxy) where
  start : Task (fun _ : Unit => Listening.start platform tproxyListen)
  clients : List (Task (@run platform crates state))

section Reachable

variable {crates : Crates} {state : ProxyState} {tproxyListen : Option TProxy}

inductive Step : System crates state platform tproxyListen →
    System crates state platform tproxyListen → Prop where
  | start {s : System crates state platform tproxyListen} {event left}
    (step : Steps s.start.left [event] left) : Step s { s with start := s.start.after step }
  /-- A spawned task accepts a client, and its `set_nodelay` succeeds. -/
  | accept {s : System crates state platform tproxyListen} (client : Accepted platform)
    (spawned : ⟨.spawn client.accepting, ()⟩ ∈ s.start.events) :
    Step s { s with clients := s.clients ++ [.start client] }
  | proceed {s : System crates state platform tproxyListen} {i task event left}
    (here : s.clients[i]? = some task) (step : Steps task.left [event] left) :
    Step s { s with clients := s.clients.set i (task.after step) }

inductive Reachable : System crates state platform tproxyListen → Prop where
  | initial : Reachable ⟨.start (), []⟩
  | step {s s'} (before : Reachable s) (step : Step s s') : Reachable s'

theorem Reachable.spawned {s : System crates state platform tproxyListen} (reachable : Reachable s) :
    ∀ task ∈ s.clients, ⟨.spawn task.origin.accepting, ()⟩ ∈ s.start.events := by
  induction reachable with
  | initial =>
    intro task member
    cases member
  | step _ step ih =>
    cases step with
    | start step =>
      intro task member
      exact List.mem_append_left _ (ih task member)
    | accept client spawned =>
      intro task member
      rcases List.mem_append.mp member with earlier | new
      · exact ih task earlier
      · rw [List.mem_singleton.mp new]
        exact spawned
    | proceed here step =>
      intro task member
      rcases List.mem_or_eq_of_mem_set member with earlier | same
      · exact ih task earlier
      · have before := ih _ (List.mem_of_getElem? here)
        rw [same]
        exact before

/-- `start` can go on alone, and so can a client. -/
theorem Reachable.starts {s : System crates state platform tproxyListen} (reachable : Reachable s)
    {trace : SysTrace platform} {left : Sockets platform Unit}
    (steps : Steps s.start.left trace left) :
    ∃ s' : System crates state platform tproxyListen, Reachable s' ∧
      s'.start.events = s.start.events ++ trace ∧ s'.clients = s.clients := by
  induction trace generalizing s with
  | nil => exact ⟨s, reachable, (List.append_nil _).symm, rfl⟩
  | cons event rest ih =>
    obtain ⟨middle, one, more⟩ := steps.first
    obtain ⟨s', reached, events, clients⟩ := ih (reachable.step (.start one)) more
    exact ⟨s', reached, events.trans (List.append_assoc _ [event] rest), clients⟩

theorem Reachable.serves {s : System crates state platform tproxyListen}
    {task : Task (@run platform crates state)} (reachable : Reachable s)
    (alone : s.clients = [task]) {trace : JointTrace platform}
    {left : Program (Joint platform) JointAns Error Unit} (steps : Steps task.left trace left) :
    ∃ s' : System crates state platform tproxyListen, Reachable s' ∧
      ∃ later, s'.clients = [later] ∧ later.origin = task.origin ∧
        later.events = task.events ++ trace := by
  induction trace generalizing s task with
  | nil => exact ⟨s, reachable, task, alone, rfl, (List.append_nil _).symm⟩
  | cons event rest ih =>
    obtain ⟨middle, one, more⟩ := steps.first
    have here : s.clients[0]? = some task := by rw [alone]; rfl
    have single : s.clients.set 0 (task.after one) = [task.after one] := by rw [alone]; rfl
    obtain ⟨s', reached, later, clients, origin, events⟩ :=
      ih (reachable.step (.proceed here one)) single more
    exact ⟨s', reached, later, clients, origin, events.trans (List.append_assoc _ [event] rest)⟩

end Reachable

/-- In every reachable state of transparent proxying, each client was accepted at a listener that
`start` had opened for one of the configured addresses, its task is not about to reach what
`destination_addr` holds unreachable, and it is served along the configured proxies to the
destination that the system has told for it. -/
theorem clients_served {crates : Crates} {config : Config} {lines : List Text}
    {stack : List Element} {tproxyListen : Option TProxy}
    (built : buildStack crates config lines = some stack) :
    ∃ hops, List.Forall₂ Configures (config.proxies.getD []) hops ∧
      ∀ s : System crates ⟨config, stack⟩ platform tproxyListen, Reachable s → ∀ task ∈ s.clients,
        (∃ listening, tproxyListen = some listening ∧ ∃ addr ∈ listening.listen, ∃ opening,
          Opened addr task.origin.accepting.redirType.kind opening
            task.origin.accepting.listener ∧ opening <:+: s.start.events) ∧
        (∀ next, task.left ≠ .ask (.inl .unreachable) next) ∧
        Served crates config hops task.origin task.events := by
  obtain ⟨hops, configures, shape⟩ := stack_built built
  refine ⟨hops, configures, fun s reachable task member => ?_⟩
  obtain ⟨bindable, opened⟩ := start_spawned s.start.runs (reachable.spawned task member)
  refine ⟨opened, ?_, run_served shape task.runs⟩
  intro next waiting
  have left := ((run_reached bindable).steps task.runs).2
  rw [waiting] at left
  exact left.1 rfl

/-- A server that relays clients as they come. -/
def plainConfig : Config := ⟨none, none, some 0⟩

/-- A system that opens a listener and refuses to wait. -/
def openingAnswers : (operation : Sys .linux) → Option (SysAns operation)
  | .newV6 => some (.ok 3)
  | .setsockopt _ _ _ => some (.ok ())
  | .bind _ _ => some (.ok ())
  | .listen socket _ => some (.ok socket)
  | .spawn _ => some ()
  | _ => none

/-- A client that was going to port 80 of `192.0.2.1`, at the socket that accepted it. -/
def redirectedClient : Accepted .linux := ⟨⟨3, ⟨.tProxy, rfl⟩⟩, 7, []⟩

def redirectedAnswers : (operation : Joint .linux) → Option (JointAns operation)
  | .inl (.localAddr _) => some (.ok ⟨.v4 ⟨192, 0, 2, 1⟩, 80⟩)
  | .inr operation => willing ⟨200, [], []⟩ operation
  | _ => none

theorem clients_served_tproxy : ∃ hops,
    ∃ s : System Crates.plain ⟨plainConfig, [.raw]⟩ .linux (some tproxyConfig),
    ∃ task, s.clients = [task] ∧ task.events.length = 3 ∧
      Served Crates.plain plainConfig hops task.origin task.events := by
  have built : buildStack Crates.plain plainConfig [] = some [.raw] := by decide
  have started : Reachable (⟨.start (), []⟩ :
    System Crates.plain ⟨plainConfig, [.raw]⟩ .linux (some tproxyConfig)) := .initial
  obtain ⟨s, reached, events, none⟩ := started.starts
    (drive_steps openingAnswers true (Listening.start .linux (some tproxyConfig)))
  have spawned : ⟨.spawn redirectedClient.accepting, ()⟩ ∈ s.start.events := by
    rw [events]
    exact .tail _ (.tail _ (.tail _ (.tail _ (.tail _ (.head _)))))
  have accepted := reached.step (.accept redirectedClient spawned)
  have alone : s.clients ++ [.start redirectedClient] = [.start redirectedClient] := by
    rw [none]
    rfl
  obtain ⟨s', reached', later, clients, _, events'⟩ := accepted.serves alone
    (drive_steps redirectedAnswers true (run Crates.plain ⟨plainConfig, [.raw]⟩ redirectedClient))
  obtain ⟨hops, _, served⟩ := @clients_served .linux Crates.plain plainConfig [] [.raw]
    (some tproxyConfig) built
  have member : later ∈ s'.clients := clients ▸ List.mem_cons_self
  refine ⟨hops, s', later, clients, ?_, (served s' reached' later member).2.2⟩
  rw [events']
  decide

end LocalProxy.Redirection
