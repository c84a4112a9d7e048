import LocalProxy.Confinement
import LocalProxy.Openings
import LocalProxy.Redirection
import LocalProxy.Startup

/-! The process as a whole: `main` with its configuration, the three services that it joins,
and the clients at their listeners, whatever the order of the steps. -/

namespace LocalProxy.Process
open Strings Http Programs Program Outbound Dialogues Startup Listening Redirection Embeddings
open Isolation Openings Journey MainStack Confinement Service Route
open Addr (Error)
open Handles (Task)

/-- What `start` of `inbound/http/mod.rs` and of `inbound/dns.rs` ask for. -/
inductive Serving where
  | tcpListenerBind (addr : StdNet.SocketAddr)
  | udpSocketBind (addr : StdNet.SocketAddr)
  /-- `tokio::spawn` of the loop at a listener or a socket. -/
  | spawn (socket : Nat)
  /-- The `sleep` that they end in. -/
  | sleep

abbrev ServingAns : Serving → Type
  | .tcpListenerBind _ => Except Error Nat
  | .udpSocketBind _ => Except Error Nat
  | .spawn _ => Unit
  | .sleep => Empty

abbrev Binding (α : Type) := Program Serving ServingAns Error α

def tcpListenerBind (addr : StdNet.SocketAddr) : Binding Nat := ask (.tcpListenerBind addr) ofExcept
def udpSocketBind (addr : StdNet.SocketAddr) : Binding Nat := ask (.udpSocketBind addr) ofExcept
def sleep : Binding Unit := ask .sleep Empty.elim

def startAt (bind : StdNet.SocketAddr → Binding Nat) (listen : Option (List StdNet.SocketAddr)) :
    Binding Unit :=
  match listen with
  | none => .fail .empty
  | some listen => if listen.isEmpty then .value () else openEach bind .spawn sleep listen

/-- `start` of `inbound/http/mod.rs`. -/
def httpStart (settings : Settings) : Binding Unit := startAt tcpListenerBind settings.httpListen

/-- `start` of `inbound/dns.rs`. -/
def dnsStart (settings : Settings) : Binding Unit := startAt udpSocketBind settings.dnsListen

def started : Text := "Server started\n".toList

/-- A client, and what it makes the process do: a request or a tunnel at a listener for HTTP, a
redirected connection, or a datagram at a socket for DNS. -/
inductive Client (platform : RedirTypes.Platform) where
  | plain (listener : Nat) (request : Request)
  | tunnel (listener : Nat) (request : Request) (traffic : List Inbound.Traffic)
  | redirected (client : Accepted platform)
  | datagram (socket : Nat) (query : Bytes) (source : StdNet.SocketAddr)

variable {platform : RedirTypes.Platform} {crates : Crates}

def Client.program (crates : Crates) (state : Service.ProxyState) :
    Client platform → Program (Joint platform) JointAns Error Unit
  | .plain _ request => through onNetwork ((Job.plain request).program crates state)
  | .tunnel _ request traffic =>
    through onNetwork ((Job.tunnel request traffic).program crates state)
  | .redirected client => Redirection.run crates state client
  | .datagram _ query source =>
    through onNetwork ((Job.datagram query source).program crates state)

/-- What `main` joins, and the clients. -/
structure Server (crates : Crates) (platform : RedirTypes.Platform) (settings : Settings)
    (stack : List Element) where
  http : Task fun _ : Unit => httpStart settings
  tproxy : Task fun _ : Unit => Listening.start platform settings.tproxyListen
  dns : Task fun _ : Unit => dnsStart settings
  greeting : Task fun _ : Unit => write started
  clients : List (Task (@Client.program platform crates ⟨settings.config, stack⟩))

section Servers

variable {settings : Settings} {stack : List Element}

/-- A client comes where a task accepts. -/
def Server.Accepts (server : Server crates platform settings stack) : Client platform → Prop
  | .plain listener _ => ⟨.spawn listener, ()⟩ ∈ server.http.events
  | .tunnel listener _ _ => ⟨.spawn listener, ()⟩ ∈ server.http.events
  | .redirected client => ⟨.spawn client.accepting, ()⟩ ∈ server.tproxy.events
  | .datagram socket _ _ => ⟨.spawn socket, ()⟩ ∈ server.dns.events

inductive Server.Step : Server crates platform settings stack →
    Server crates platform settings stack → Prop where
  | http {s : Server crates platform settings stack} {event left}
    (step : Steps s.http.left [event] left) : Step s { s with http := s.http.after step }
  | tproxy {s : Server crates platform settings stack} {event left}
    (step : Steps s.tproxy.left [event] left) : Step s { s with tproxy := s.tproxy.after step }
  | dns {s : Server crates platform settings stack} {event left}
    (step : Steps s.dns.left [event] left) : Step s { s with dns := s.dns.after step }
  | greeting {s : Server crates platform settings stack} {event left}
    (step : Steps s.greeting.left [event] left) :
    Step s { s with greeting := s.greeting.after step }
  | accept {s : Server crates platform settings stack} {client : Client platform}
    (accepts : s.Accepts client) : Step s { s with clients := s.clients ++ [.start client] }
  | proceed {s : Server crates platform settings stack} {i task event left}
    (here : s.clients[i]? = some task) (step : Steps task.left [event] left) :
    Step s { s with clients := s.clients.set i (task.after step) }

/-- All that is joined has come to its end, or the greeting to a panic. -/
inductive Server.Ended (server : Server crates platform settings stack) : Prop where
  | joined {first second third} (http : server.http.left = ofExcept first)
    (tproxy : server.tproxy.left = ofExcept second) (dns : server.dns.left = ofExcept third)
    (greeting : server.greeting.left = .value ())
  | panicked (greeting : server.greeting.left = panicWith none)

end Servers

/-- The process once `main` has set its state. -/
structure Running (crates : Crates) (parse : Text → Option Settings)
    (platform : RedirTypes.Platform) where
  dialog : Task fun _ : Unit => configure crates parse
  settings : Settings
  stack : List Element
  ready : dialog.left = .value (settings, stack)
  server : Server crates platform settings stack

inductive State (crates : Crates) (parse : Text → Option Settings)
    (platform : RedirTypes.Platform) where
  | configuring (dialog : Task fun _ : Unit => configure crates parse)
  /-- `main` has panicked before it set its state. -/
  | panicked (dialog : Task fun _ : Unit => configure crates parse)
  | running (process : Running crates parse platform)
  /-- `main` has returned, or panicked on its greeting. -/
  | finished (process : Running crates parse platform)

section Processes

variable {parse : Text → Option Settings}

inductive Step : State crates parse platform → State crates parse platform → Prop where
  | talk {dialog : Task fun _ : Unit => configure crates parse} {event left}
    (step : Steps dialog.left [event] left) :
    Step (.configuring dialog) (.configuring (dialog.after step))
  | panic {dialog : Task fun _ : Unit => configure crates parse} {message next}
    (stuck : dialog.left = ask (.panic message) next) :
    Step (.configuring dialog) (.panicked dialog)
  | serve {dialog : Task fun _ : Unit => configure crates parse} {settings stack}
    (ready : dialog.left = .value (settings, stack)) : Step (.configuring dialog)
      (.running ⟨dialog, settings, stack, ready, .start (), .start (), .start (), .start (), []⟩)
  | run {process : Running crates parse platform} {server} (step : process.server.Step server) :
    Step (.running process) (.running { process with server })
  | finish {process : Running crates parse platform} (ended : process.server.Ended) :
    Step (.running process) (.finished process)

inductive Reachable : State crates parse platform → Prop where
  | initial : Reachable (.configuring (.start ()))
  | step {s s'} (before : Reachable s) (step : Step s s') : Reachable s'

/-- What `main` reads and writes. The warnings of the clients and the messages of panics, which go
to the standard error, are none of it. -/
def State.talk : State crates parse platform → Talk
  | .configuring dialog => dialog.events
  | .panicked dialog => dialog.events
  | .running process => process.dialog.events ++ process.server.greeting.events
  | .finished process => process.dialog.events ++ process.server.greeting.events

end Processes

section Services

variable {bind : StdNet.SocketAddr → Binding Nat} {listen : Option (List StdNet.SocketAddr)}
  {events : List (Event Serving ServingAns)}

theorem asleep (trace : List (Event Serving ServingAns)) (outcome : Except Error Unit) :
    ¬ Ends sleep trace outcome := by
  intro ends
  obtain ⟨answer, _⟩ := ends_ask ends
  exact answer.elim

/-- A service comes to its end when it has nothing to open, or could not open something. -/
theorem startAt_ended {outcome : Except Error Unit}
    (ends : Ends (startAt bind listen) events outcome) {addrs : List StdNet.SocketAddr}
    (given : listen = some addrs) (filled : addrs ≠ []) :
    ∃ addr ∈ addrs, ∃ before after error, events = before ++ after ∧
      Fails (bind addr) after error := by
  have serves : startAt bind listen = openEach bind .spawn sleep addrs := by
    have some : addrs.isEmpty = false := List.isEmpty_eq_false_iff.mpr filled
    simp only [startAt, given, some, Bool.false_eq_true, if_false]
  rw [serves] at ends
  exact openEach_ended asleep ends

theorem startAt_spawned
    (quiet : ∀ addr, (bind addr).Uses fun operation => ∀ socket, operation ≠ .spawn socket)
    {left : Binding Unit} (steps : Steps (startAt bind listen) events left) {socket : Nat}
    (spawned : ⟨.spawn socket, ()⟩ ∈ events) :
    ∃ addrs, listen = some addrs ∧ ∃ addr ∈ addrs, ∃ opening,
      Returns (bind addr) opening socket ∧ opening <:+: events := by
  cases given : listen with
  | none =>
    rw [given] at steps
    rw [(steps_fail.mp steps).1] at spawned
    cases spawned
  | some addrs =>
    rw [given] at steps
    unfold startAt at steps
    by_cases empty : addrs.isEmpty = true
    · simp only [empty, if_true] at steps
      rw [(steps_value.mp steps).1] at spawned
      cases spawned
    · simp only [empty, Bool.false_eq_true, if_false] at steps
      have still : sleep.Uses fun operation => ∀ socket, operation ≠ .spawn socket :=
        ⟨nofun, fun answer => answer.elim⟩
      exact ⟨addrs, rfl, openEach_spawned (fun _ _ => Serving.spawn.inj) quiet still steps spawned⟩

variable {addr : StdNet.SocketAddr} {trace : List (Event Serving ServingAns)}

theorem tcpListenerBind_ends {outcome : Except Error Nat}
    (ends : Ends (tcpListenerBind addr) trace outcome) :
    trace = [⟨.tcpListenerBind addr, outcome⟩] := by
  obtain ⟨answer, rest, split, later⟩ := ends_ask ends
  obtain ⟨empty, same⟩ := ends_ofExcept later
  rw [split, empty, same]

theorem udpSocketBind_ends {outcome : Except Error Nat}
    (ends : Ends (udpSocketBind addr) trace outcome) :
    trace = [⟨.udpSocketBind addr, outcome⟩] := by
  obtain ⟨answer, rest, split, later⟩ := ends_ask ends
  obtain ⟨empty, same⟩ := ends_ofExcept later
  rw [split, empty, same]

theorem serve_openEach (ty : RedirTypes.RedirType platform) (listen : List StdNet.SocketAddr) :
    serve ty listen =
      openEach (bindRedir ty) (fun listener => .spawn ⟨listener, ty⟩) Listening.sleep listen := by
  induction listen with
  | nil => rfl
  | cons addr rest ih =>
    rw [serve, ih]
    rfl

/-- The service for redirected clients likewise, or its type is none that the system offers. -/
theorem tproxy_ended {tproxyListen : Option TProxy} {events : SysTrace platform}
    {outcome : Except Error Unit}
    (ends : Ends (Listening.start platform tproxyListen) events outcome) {config : TProxy}
    (given : tproxyListen = some config) (filled : config.listen ≠ []) :
    requested platform config ∉ RedirTypes.tcpAvailableTypes platform ∨
    ∃ addr ∈ config.listen, ∃ (ty : RedirTypes.RedirType platform)
      (before after : SysTrace platform) (error : Error),
      events = before ++ after ∧ Fails (bindRedir ty addr) after error := by
  rw [given, start_serves filled] at ends
  rcases ends_ofExcept_bind ends with ⟨error, refused, _⟩ | ⟨ty, _, serves⟩
  · left
    intro offered
    obtain ⟨ty, chosen, _⟩ := redirType_offered offered
    rw [refused] at chosen
    cases chosen
  · right
    rw [serve_openEach] at serves
    have waits : ∀ (trace : SysTrace platform) (outcome : Except Error Unit),
        ¬ Ends Listening.sleep trace outcome := by
      intro trace outcome ends
      obtain ⟨answer, _⟩ := ends_ask ends
      exact answer.elim
    obtain ⟨addr, member, before, after, error, split, failed⟩ := openEach_ended waits serves
    exact ⟨addr, member, ty, before, after, error, split, failed⟩

end Services

section Configured

variable {parse : Text → Option Settings}

/-- The file that was read holds these settings. -/
def Holds (parse : Text → Option Settings) (settings : Settings) (talk : Talk) : Prop :=
  ∃ text rest, talk = ⟨.readFile configPath, some text⟩ :: rest ∧ parse text = some settings

/-- What keeps `main` from setting its state: a call that fails, a file that is not parsed, or a
proxy that cannot be used with what was typed in, whichever lines are still to come. -/
inductive Unusable (parse : Text → Option Settings) : Talk → Prop where
  | failed {talk event} (member : event ∈ talk) (failed : Failed event) : Unusable parse talk
  | unparsed {text} (refused : parse text = none) :
    Unusable parse [⟨.readFile configPath, some text⟩]
  | refused {settings talk} (holds : Holds parse settings talk)
    (never : ∀ more, (typed talk).length + more.length = asked settings.publics →
      ∃ proxy ∈ equipped (settings.config.proxies.getD []) (typed talk ++ more),
        ¬ Acceptable proxy) : Unusable parse talk

theorem panicked_still {α : Type} {message : Option Text} {next : Empty → Dialog α} {talk : Talk}
    {left : Dialog α} (steps : Steps (ask (.panic message) next) talk left) :
    talk = [] ∧ left = ask (.panic message) next := by
  rcases steps_ask.mp steps with ⟨empty, same⟩ | ⟨answer, _⟩
  · exact ⟨empty, same⟩
  · exact answer.elim

/-- `main` has not read its file, has panicked over it, or goes on with the settings in it. -/
inductive Began (crates : Crates) (parse : Text → Option Settings) :
    Talk → Dialog (Settings × List Element) → Prop where
  | waiting {next} : Began crates parse [] (ask (.readFile configPath) next)
  | panicked {answer next} (unread : answer.bind parse = none) :
    Began crates parse [⟨.readFile configPath, answer⟩] (ask (.panic none) next)
  | settled {text rest settings left} (parsed : parse text = some settings)
    (steps : Steps (configured crates settings) rest left) :
    Began crates parse (⟨.readFile configPath, some text⟩ :: rest) left

theorem configure_began {talk : Talk} {left : Dialog (Settings × List Element)}
    (steps : Steps (configure crates parse) talk left) : Began crates parse talk left := by
  rcases steps_ask.mp steps with ⟨empty, same⟩ | ⟨answer, rest, split, later⟩
  · rw [empty, same]
    exact .waiting
  rw [split] at steps ⊢
  cases answer with
  | none =>
    obtain ⟨empty, same⟩ := panicked_still later
    rw [empty, same]
    exact .panicked rfl
  | some text =>
    cases parsed : parse text with
    | none =>
      have next : Steps (unwrap (parse text) >>= configured crates) rest left := later
      rw [parsed] at next
      obtain ⟨empty, same⟩ := panicked_still next
      rw [empty, same]
      exact .panicked parsed
    | some settings => exact .settled parsed ((configure_steps parsed).mp steps)

/-- `main` panics only over what is unusable. -/
theorem configure_panicked {talk : Talk} {message : Option Text}
    {stuck : Empty → Dialog (Settings × List Element)}
    (steps : Steps (configure crates parse) talk (ask (.panic message) stuck)) :
    Unusable parse talk := by
  cases configure_began steps with
  | @panicked answer _ unread =>
    cases answer with
    | none => exact .failed List.mem_cons_self (.readFile configPath)
    | some text => exact .unparsed unread
  | @settled text rest settings _ parsed runs =>
    rcases (configured_converses crates settings).panics rest message stuck runs with
      failed | never
    · obtain ⟨event, member, failed⟩ := failed
      exact .failed (List.mem_cons_of_mem _ member) failed
    · refine .refused ⟨text, rest, rfl, parsed⟩ fun more length => ?_
      by_contra acceptable
      push Not at acceptable
      obtain ⟨hops, equips⟩ := (@hops_iff crates _).mpr acceptable
      have built := buildStack_iff.mpr ⟨hops, equips, rfl⟩
      have same : typed (⟨.readFile configPath, some text⟩ :: rest) = typed rest := rfl
      rw [same, Option.map_eq_none_iff.mp (never more length)] at built
      cases built

/-- What is known of the settings once `main` goes on with them. -/
theorem configure_ready {talk : Talk} {settings : Settings} {stack : List Element}
    (success : Returns (configure crates parse) talk (settings, stack)) :
    ∃ initial, Holds parse initial talk ∧ written talk = transcript initial.publics ∧
      settings = initial.typedIn (typed talk) ∧ ∃ lines, typed talk = lines ∧
        buildStack crates initial.config lines = some stack := by
  cases configure_began success with
  | @settled text rest initial _ parsed steps =>
    obtain ⟨wrote, _, found⟩ := (configured_converses crates initial).ends rest _ steps
    obtain ⟨built, known, equal⟩ := Option.map_eq_some_iff.mp found
    cases equal
    exact ⟨initial, ⟨text, rest, rfl, parsed⟩, wrote, rfl, _, rfl, known⟩

end Configured

section Filled

variable (crates : Crates) (config : Config) (stack : List Element)
  (proxies : Option (List ProxyConfig))

/-- What is kept of the proxies in the state is not read any more: the stack was made of them. -/
theorem sendRequest_filled (resolve : Resolve) (reqConf : RequestConfig) (request : Request) :
    Service.sendRequest crates resolve ⟨{ config with proxies }, stack⟩ reqConf request =
      Service.sendRequest crates resolve ⟨config, stack⟩ reqConf request := by
  have served : ∀ order scheme request,
      Resolution.serve crates resolve { config with proxies } order scheme reqConf request =
        Resolution.serve crates resolve config order scheme reqConf request := by
    intro order scheme request
    rw [Resolution.serve_server, Resolution.serve_server]
    cases Resolution.server scheme order with
    | nobody => rfl
    | default self rest => rfl
    | forward proxy rest => rfl
  have unfolded : ∀ config, Service.sendRequest crates resolve ⟨config, stack⟩ reqConf request =
      ofExcept (SendRequest.rewrite crates request) >>= fun rewritten => Resolution.serve crates
        resolve config (dispatch ⟨config, stack⟩ reqConf) rewritten.1 reqConf rewritten.2 :=
    fun _ => rfl
  rw [unfolded, unfolded]
  congr 1
  funext rewritten
  exact served _ _ _

theorem dohQuery_filled (resolve : Resolve) :
    dohQuery crates resolve ⟨{ config with proxies }, stack⟩ =
      dohQuery crates resolve ⟨config, stack⟩ := by
  have fetched : ∀ query, fetch crates resolve ⟨{ config with proxies }, stack⟩ query =
      fetch crates resolve ⟨config, stack⟩ query := by
    intro query
    unfold fetch
    simp only [sendRequest_filled]
    rfl
  funext query
  unfold dohQuery lookup
  simp only [fetched]

theorem resolveTo_filled : resolveTo crates ⟨{ config with proxies }, stack⟩ 1 =
    resolveTo crates ⟨config, stack⟩ 1 := by
  have unfolded : ∀ config, resolveTo crates ⟨config, stack⟩ 1 = resolveBy crates
      (dohQuery crates (resolveTo crates ⟨config, stack⟩ 0) ⟨config, stack⟩) := fun _ => rfl
  rw [unfolded, unfolded, dohQuery_filled]
  rfl

theorem program_filled (client : Client platform) :
    client.program crates ⟨{ config with proxies }, stack⟩ =
      client.program crates ⟨config, stack⟩ := by
  cases client with
  | plain listener request =>
    simp only [Client.program, Job.program, Inbound.handle, Inbound.httpProxyRun, resolveTo_filled,
      sendRequest_filled]
    rfl
  | tunnel listener request traffic =>
    simp only [Client.program, Job.program, resolveTo_filled]
    rfl
  | redirected client => rfl
  | datagram socket query source =>
    simp only [Client.program, Job.program, Inbound.dnsRun, resolveTo_filled, dohQuery_filled]

end Filled

section Clients

variable {config : Config} {lines : List Text} {stack : List Element}

/-- What is asked of the network is confined. -/
def NetConfined (config : Config) (operation : Joint platform) : Prop :=
  ∀ net, operation = .inr net → Confined config net

theorem onNetwork_confined {α : Type} {program : Network.Net α}
    (uses : program.Uses (Confined config)) :
    (through (@onNetwork platform) program).Uses (NetConfined config) :=
  uses_through (uses.mono fun _ confined _ same => Sum.inr.inj same ▸ confined)

theorem client_confined (built : buildStack crates config lines = some stack)
    (client : Client platform) :
    (client.program crates ⟨config, stack⟩).Uses (NetConfined config) := by
  cases client with
  | plain listener request => exact onNetwork_confined (job_confined built _)
  | tunnel listener request traffic => exact onNetwork_confined (job_confined built _)
  | datagram socket query source => exact onNetwork_confined (job_confined built _)
  | redirected client =>
    refine (uses_outside fun _ => nofun).bind fun addr => ?_
    refine (onNetwork_confined (tproxyRun_confined built addr)).bind fun serverConn => ?_
    exact (onNetwork_confined (copy_confined serverConn client.traffic)).attempt.bind
      fun _ => trivial

/-- So is it once the credentials are in the state. -/
theorem filled_confined {final : Config} (same : final = { config with proxies := final.proxies })
    (built : buildStack crates config lines = some stack) (client : Client platform) :
    (client.program crates ⟨final, stack⟩).Uses (NetConfined config) := by
  rw [same, program_filled]
  exact client_confined built client

end Clients

section Runs

variable {parse : Text → Option Settings}

/-- The client came at a socket that its service had opened for a configured address. -/
def Running.Came (process : Running crates parse platform) : Client platform → Prop
  | .plain listener _ => ∃ listen, process.settings.httpListen = some listen ∧
    ∃ addr ∈ listen, ⟨.tcpListenerBind addr, .ok listener⟩ ∈ process.server.http.events
  | .tunnel listener _ _ => ∃ listen, process.settings.httpListen = some listen ∧
    ∃ addr ∈ listen, ⟨.tcpListenerBind addr, .ok listener⟩ ∈ process.server.http.events
  | .redirected client => ∃ config, process.settings.tproxyListen = some config ∧
    ∃ addr ∈ config.listen, ∃ opening, opening <:+: process.server.tproxy.events ∧
      Opened addr client.accepting.redirType.kind opening client.accepting.listener
  | .datagram socket _ _ => ∃ listen, process.settings.dnsListen = some listen ∧
    ∃ addr ∈ listen, ⟨.udpSocketBind addr, .ok socket⟩ ∈ process.server.dns.events

/-- No service is there: what is configured for it is nothing, or could not be opened. -/
structure Running.Unserved (process : Running crates parse platform) : Prop where
  http : ∀ listen, process.settings.httpListen = some listen → listen ≠ [] →
    ∃ addr ∈ listen, ∃ error, ⟨.tcpListenerBind addr, .error error⟩ ∈ process.server.http.events
  tproxy : ∀ config, process.settings.tproxyListen = some config → config.listen ≠ [] →
    requested platform config ∉ RedirTypes.tcpAvailableTypes platform ∨
    ∃ addr ∈ config.listen, ∃ (ty : RedirTypes.RedirType platform)
      (before after : SysTrace platform) (error : Error),
      process.server.tproxy.events = before ++ after ∧ Fails (bindRedir ty addr) after error
  dns : ∀ listen, process.settings.dnsListen = some listen → listen ≠ [] →
    ∃ addr ∈ listen, ∃ error, ⟨.udpSocketBind addr, .error error⟩ ∈ process.server.dns.events

theorem tcp_came {settings : Settings} {events : List (Event Serving ServingAns)}
    {left : Binding Unit} (steps : Steps (httpStart settings) events left) {listener : Nat}
    (spawned : ⟨.spawn listener, ()⟩ ∈ events) : ∃ listen, settings.httpListen = some listen ∧
      ∃ addr ∈ listen, ⟨.tcpListenerBind addr, .ok listener⟩ ∈ events := by
  have quiet : ∀ addr, (tcpListenerBind addr).Uses fun operation =>
      ∀ socket, operation ≠ .spawn socket := fun _ => ⟨nofun, fun _ => uses_ofExcept _ _⟩
  obtain ⟨listen, given, addr, member, opening, success, inside⟩ :=
    startAt_spawned quiet steps spawned
  have opened : opening = [⟨.tcpListenerBind addr, .ok listener⟩] := tcpListenerBind_ends success
  rw [opened] at inside
  exact ⟨listen, given, addr, member, inside.subset List.mem_cons_self⟩

theorem udp_came {settings : Settings} {events : List (Event Serving ServingAns)}
    {left : Binding Unit} (steps : Steps (dnsStart settings) events left) {socket : Nat}
    (spawned : ⟨.spawn socket, ()⟩ ∈ events) : ∃ listen, settings.dnsListen = some listen ∧
      ∃ addr ∈ listen, ⟨.udpSocketBind addr, .ok socket⟩ ∈ events := by
  have quiet : ∀ addr, (udpSocketBind addr).Uses fun operation =>
      ∀ socket, operation ≠ .spawn socket := fun _ => ⟨nofun, fun _ => uses_ofExcept _ _⟩
  obtain ⟨listen, given, addr, member, opening, success, inside⟩ :=
    startAt_spawned quiet steps spawned
  have opened : opening = [⟨.udpSocketBind addr, .ok socket⟩] := udpSocketBind_ends success
  rw [opened] at inside
  exact ⟨listen, given, addr, member, inside.subset List.mem_cons_self⟩

theorem accepts_came {process : Running crates parse platform} {client : Client platform}
    (accepts : process.server.Accepts client) : process.Came client := by
  cases client with
  | plain listener request => exact tcp_came process.server.http.runs accepts
  | tunnel listener request traffic => exact tcp_came process.server.http.runs accepts
  | datagram socket query source => exact udp_came process.server.dns.runs accepts
  | redirected client =>
    obtain ⟨_, config, given, addr, member, opening, opened, inside⟩ :=
      start_spawned process.server.tproxy.runs accepts
    exact ⟨config, given, addr, member, opening, inside, opened⟩

theorem ended_unserved {process : Running crates parse platform} (ended : process.server.Ended) :
    process.server.greeting.left = panicWith none ∨ process.Unserved := by
  cases ended with
  | panicked greeting => exact .inl greeting
  | joined http tproxy dns greeting =>
    right
    constructor
    · intro listen given filled
      obtain ⟨addr, member, before, after, error, split, failed⟩ :=
        startAt_ended (http ▸ process.server.http.runs) given filled
      have last : after = [⟨.tcpListenerBind addr, .error error⟩] := tcpListenerBind_ends failed
      refine ⟨addr, member, error, ?_⟩
      rw [split, last]
      exact List.mem_append_right before List.mem_cons_self
    · intro config given filled
      exact tproxy_ended (tproxy ▸ process.server.tproxy.runs) given filled
    · intro listen given filled
      obtain ⟨addr, member, before, after, error, split, failed⟩ :=
        startAt_ended (dns ▸ process.server.dns.runs) given filled
      have last : after = [⟨.udpSocketBind addr, .error error⟩] := udpSocketBind_ends failed
      refine ⟨addr, member, error, ?_⟩
      rw [split, last]
      exact List.mem_append_right before List.mem_cons_self

/-- The clients that are there came where a task accepts. -/
def Server.Attended {settings : Settings} {stack : List Element}
    (server : Server crates platform settings stack) : Prop :=
  ∀ task ∈ server.clients, server.Accepts task.origin

theorem Server.Accepts.later {settings : Settings} {stack : List Element}
    {s s' : Server crates platform settings stack} {client : Client platform}
    (accepts : s.Accepts client) (step : s.Step s') : s'.Accepts client := by
  cases step with
  | http step =>
    cases client with
    | plain listener request => exact List.mem_append_left _ accepts
    | tunnel listener request traffic => exact List.mem_append_left _ accepts
    | redirected client => exact accepts
    | datagram socket query source => exact accepts
  | tproxy step =>
    cases client with
    | redirected client => exact List.mem_append_left _ accepts
    | _ => exact accepts
  | dns step =>
    cases client with
    | datagram socket query source => exact List.mem_append_left _ accepts
    | _ => exact accepts
  | _ => cases client <;> exact accepts

theorem Server.Attended.step {settings : Settings} {stack : List Element}
    {s s' : Server crates platform settings stack} (attended : s.Attended) (step : s.Step s') :
    s'.Attended := by
  intro task member
  cases step with
  | accept accepts =>
    rcases List.mem_append.mp member with earlier | new
    · exact (attended task earlier).later (.accept accepts)
    · rw [List.mem_singleton.mp new]
      exact accepts.later (.accept accepts)
  | proceed here step =>
    rcases List.mem_or_eq_of_mem_set member with earlier | same
    · exact (attended task earlier).later (.proceed here step)
    · rw [same]
      exact (attended _ (List.mem_of_getElem? here)).later (.proceed here step)
  | http step => exact (attended task member).later (.http step)
  | tproxy step => exact (attended task member).later (.tproxy step)
  | dns step => exact (attended task member).later (.dns step)
  | greeting step => exact (attended task member).later (.greeting step)

/-- What holds of every state that is reached. -/
def State.Sound : State crates parse platform → Prop
  | .configuring _ => True
  | .panicked dialog => Unusable parse dialog.events
  | .running process => process.server.Attended
  | .finished process => process.server.Attended ∧ process.server.Ended

theorem reachable_sound {state : State crates parse platform} (reachable : Reachable state) :
    state.Sound := by
  induction reachable with
  | initial => trivial
  | step _ step ih =>
    cases step with
    | talk step => trivial
    | @panic dialog message next stuck =>
      have runs := dialog.runs
      rw [stuck] at runs
      exact configure_panicked runs
    | serve ready =>
      intro task member
      cases member
    | run step => exact ih.step step
    | finish ended => exact ⟨ih, ended⟩

theorem Running.configured (process : Running crates parse platform) :
    Returns (configure crates parse) process.dialog.events (process.settings, process.stack) := by
  have runs := process.dialog.runs
  rw [process.ready] at runs
  exact runs

/-- The greeting is the last that is written. -/
theorem talk_written (state : State crates parse platform) :
    written state.talk = [] ∨ ∃ initial, Holds parse initial state.talk ∧
      written state.talk <+: transcript initial.publics ++ [started] := by
  have served : ∀ process : Running crates parse platform, ∃ initial,
      Holds parse initial (process.dialog.events ++ process.server.greeting.events) ∧
      written (process.dialog.events ++ process.server.greeting.events) <+:
        transcript initial.publics ++ [started] := by
    intro process
    obtain ⟨initial, ⟨text, rest, split, parsed⟩, wrote, _⟩ := configure_ready process.configured
    refine ⟨initial, ⟨text, rest ++ process.server.greeting.events, by rw [split]; rfl, parsed⟩, ?_⟩
    rw [written_append, wrote, List.prefix_append_right_inj]
    exact (converses_write started).writes _ _ process.server.greeting.runs
  have configures : ∀ dialog : Task fun _ : Unit => configure crates parse,
      written dialog.events = [] ∨ ∃ initial, Holds parse initial dialog.events ∧
        written dialog.events <+: transcript initial.publics ++ [started] := by
    intro dialog
    have began := configure_began dialog.runs
    generalize dialog.events = talk at began ⊢
    generalize dialog.left = left at began
    cases began with
    | waiting => exact .inl rfl
    | panicked unread => exact .inl rfl
    | @settled text rest initial left parsed steps =>
      have wrote := (configured_converses crates initial).writes rest left steps
      exact .inr ⟨initial, ⟨text, rest, rfl, parsed⟩, wrote.trans (List.prefix_append _ _)⟩
  cases state with
  | running process => exact .inr (served process)
  | finished process => exact .inr (served process)
  | configuring dialog => exact configures dialog
  | panicked dialog => exact configures dialog

theorem typedIn_proxies (settings : Settings) (lines : List Text) :
    (settings.typedIn lines).config.proxies.getD [] =
      equipped (settings.config.proxies.getD []) lines := by
  obtain ⟨⟨proxies, doh, fragment⟩, httpListen, tproxyListen, dnsListen⟩ := settings
  cases proxies with
  | none => rfl
  | some proxies => rfl

/-- `main` can go on alone until its state is set, and a client can. -/
theorem Reachable.talks {dialog : Task fun _ : Unit => configure crates parse}
    (reachable : Reachable (.configuring dialog : State crates parse platform))
    {event : Event Console ConsoleAns} {talk : Talk} {left : Dialog (Settings × List Element)}
    (steps : Steps dialog.left (event :: talk) left) :
    ∃ later : Task fun _ : Unit => configure crates parse,
      Reachable (.configuring later : State crates parse platform) ∧
        later.events = dialog.events ++ event :: talk ∧ later.left = left := by
  induction talk generalizing dialog event with
  | nil => exact ⟨_, reachable.step (.talk steps), rfl, rfl⟩
  | cons next talk ih =>
    obtain ⟨middle, one, more⟩ := steps.first
    obtain ⟨later, reached, events, same⟩ := ih (reachable.step (.talk one)) more
    exact ⟨later, reached, events.trans (List.append_assoc _ [event] _), same⟩

theorem Reachable.serves {process : Running crates parse platform}
    {task : Task (@Client.program platform crates ⟨process.settings.config, process.stack⟩)}
    (reachable : Reachable (.running process)) (alone : process.server.clients = [task])
    {trace : JointTrace platform} {left : Program (Joint platform) JointAns Error Unit}
    (steps : Steps task.left trace left) :
    ∃ server later, Reachable (.running { process with server }) ∧ server.clients = [later] ∧
      later.origin = task.origin ∧ later.events = task.events ++ trace := by
  obtain ⟨dialog, settings, stack, ready, server⟩ := process
  induction trace generalizing server task with
  | nil => exact ⟨server, task, reachable, alone, rfl, (List.append_nil _).symm⟩
  | cons event rest ih =>
    obtain ⟨middle, one, more⟩ := steps.first
    have here : server.clients[0]? = some task := by rw [alone]; rfl
    have single : server.clients.set 0 (task.after one) = [task.after one] := by rw [alone]; rfl
    obtain ⟨server', later, reached, clients, origin, events⟩ :=
      ih _ (reachable.step (.run (.proceed here one))) single more
    exact ⟨server', later, reached, clients, origin, events.trans (List.append_assoc _ [event] _)⟩

end Runs

/-- In every reachable state of the process: what `main` has written to the standard output is free
of users and passwords and nothing but what the configuration asks for and then the greeting. When
it serves, it does so with the stack of the hops that the typed credentials complete, at the
configured addresses only, and no client makes it connect to anybody but the first proxy if there
is one. It is over only where `main` could not be configured, where its greeting has failed, or
where none of its services is there. -/
theorem process_serves {crates : Crates} {parse : Text → Option Settings}
    {platform : RedirTypes.Platform} {state : State crates parse platform}
    (reachable : Reachable state) :
    (written state.talk = [] ∨ ∃ initial, Holds parse initial state.talk ∧
      written state.talk <+: transcript initial.publics ++ [started]) ∧
    (∀ dialog, state = .panicked dialog → Unusable parse dialog.events) ∧
    ∀ process, state = .running process ∨ state = .finished process →
      ∃ initial, Holds parse initial process.dialog.events ∧
        process.settings = initial.typedIn (typed process.dialog.events) ∧
        (∃ hops, List.Forall₂ (Equips crates) (process.settings.config.proxies.getD []) hops ∧
          process.stack = .raw :: hops.flatMap Hop.elements ++
            if fragmentsAll process.settings.config then [Element.fragment] else []) ∧
        (∀ task ∈ process.server.clients, process.Came task.origin ∧
          ∀ event ∈ task.events, NetConfined initial.config event.operation) ∧
        (state = .finished process →
          process.server.greeting.left = panicWith none ∨ process.Unserved) := by
  have sound := reachable_sound reachable
  refine ⟨talk_written state, fun dialog panicked => ?_, fun process phase => ?_⟩
  · rw [panicked] at sound
    exact sound
  have attended : process.server.Attended := by
    rcases phase with running | finished
    · rw [running] at sound
      exact sound
    · rw [finished] at sound
      exact sound.1
  obtain ⟨initial, holds, _, completed, _, rfl, built⟩ := configure_ready process.configured
  refine ⟨initial, holds, completed, ?_, fun task member => ⟨?_, ?_⟩, fun finished => ?_⟩
  · obtain ⟨hops, equips, shape⟩ := buildStack_iff.mp built
    rw [completed, typedIn_proxies]
    exact ⟨hops, equips, shape⟩
  · exact accepts_came (attended task member)
  · have same : process.settings.config =
        { initial.config with proxies := process.settings.config.proxies } := by rw [completed]; rfl
    exact ((filled_confined same built task.origin).steps task.runs).1
  · rw [finished] at sound
    exact ended_unserved sound.2

/-- A proxy at port 8080 of the loopback address, on the way through two others. -/
def chainedSettings : Settings where
  config := chainedProxies
  httpListen := some [⟨.v4 ⟨127, 0, 0, 1⟩, 8080⟩]
  tproxyListen := none
  dnsListen := none

def chainedParse : Text → Option Settings := fun _ => some chainedSettings

/-- A client of its listener. -/
def chainedClient : Client .linux := .tunnel 3 tunnelRequest []

def jointAnswers : (operation : Joint .linux) → Option (JointAns operation)
  | .inr operation => Network.willing ⟨200, [], []⟩ operation
  | _ => none

/-- A configuration with no service. -/
def idleSettings : Settings := ⟨plainConfig, none, none, none⟩

/-- The process with this client at its listener, whose credentials were typed in. -/
theorem chained_attended : ∃ process : Running Crates.plain chainedParse .linux,
    Reachable (.running process) ∧ process.server.clients = [.start chainedClient] ∧
    process.settings = chainedSettings.typedIn chainedLines ∧
    process.stack = chainedStack ++ [.fragment] ∧ typed process.dialog.events = chainedLines := by
  have parsed : chainedParse [] = some chainedSettings := rfl
  obtain ⟨talk, returns, lines⟩ :=
    (@configure_iff Crates.plain chainedParse [] chainedSettings parsed chainedLines _ _).mpr
      ⟨by decide, rfl, chainedStack_built⟩
  have bound : Steps (httpStart (chainedSettings.typedIn chainedLines))
      [⟨.tcpListenerBind ⟨.v4 ⟨127, 0, 0, 1⟩, 8080⟩, .ok 3⟩]
      (ask (.spawn 3) fun _ => sleep) := .ask (.still _)
  have spawned : Steps (ask (.spawn 3) fun _ => sleep : Binding Unit) [⟨.spawn 3, ()⟩] sleep :=
    .ask (.still _)
  have begun : Reachable (.configuring (.start ()) : State Crates.plain chainedParse .linux) :=
    .initial
  obtain ⟨dialog, configured, events, left⟩ := begun.talks returns
  have serving := configured.step (.serve left)
  have listening := (serving.step (.run (.http bound))).step (.run (.http spawned))
  have accepted := listening.step (.run (@Server.Step.accept .linux Crates.plain _ _ _
    chainedClient (List.mem_append_right _ List.mem_cons_self)))
  refine ⟨_, accepted, rfl, rfl, rfl, ?_⟩
  show typed dialog.events = _
  rw [events]
  exact lines

theorem process_serves_chained :
    (∃ (process : Running Crates.plain chainedParse .linux) (hops : List Hop) (task : _),
      List.Forall₂ (Equips Crates.plain) (process.settings.config.proxies.getD []) hops ∧
      typed process.dialog.events = chainedLines ∧ process.server.clients = [task] ∧
      task.events.length = 9 ∧ process.Came chainedClient ∧
      ∀ event ∈ task.events, NetConfined chainedProxies event.operation) ∧
    (∃ dialog, Unusable (fun _ => none) dialog.events ∧
      Reachable (.panicked dialog : State Crates.plain (fun _ => none) .linux)) ∧
    ∃ process : Running Crates.plain (fun _ => some idleSettings) .linux,
      Reachable (.finished process) ∧ process.Unserved := by
  refine ⟨?_, ?_, ?_⟩
  · obtain ⟨process, attended, single, settings, stack, lines⟩ := chained_attended
    have tunnels := drive_steps jointAnswers true (chainedClient.program Crates.plain
      ⟨(chainedSettings.typedIn chainedLines).config, chainedStack ++ [.fragment]⟩)
    rw [← settings, ← stack] at tunnels
    obtain ⟨server, task, reached, alone, origin, told⟩ := attended.serves single tunnels
    obtain ⟨known, holds, _, ⟨hops, equips, _⟩, clients, _⟩ :=
      (process_serves reached).2.2 _ (.inl rfl)
    obtain ⟨came, confined⟩ := clients task (alone ▸ List.mem_cons_self)
    obtain ⟨_, _, _, same⟩ := holds
    cases same
    rw [origin] at came
    refine ⟨{ process with server }, hops, task, equips, lines, alone, ?_, came, confined⟩
    rw [told, settings, stack]
    decide
  · have read : ∃ stuck, Steps (configure Crates.plain fun _ => none)
        [⟨.readFile configPath, some []⟩] (ask (.panic none) stuck) := ⟨_, .ask (.still _)⟩
    obtain ⟨stuck, read⟩ := read
    have panicked := (Reachable.initial.step (@Step.talk .linux Crates.plain (fun _ => none)
      (.start ()) _ _ read)).step (.panic rfl)
    exact ⟨_, (process_serves panicked).2.1 _ rfl, panicked⟩
  · have read : Steps (configure Crates.plain fun _ => some idleSettings)
        [⟨.readFile configPath, some []⟩] (.value (idleSettings, [.raw])) := .ask (.still _)
    have greeted : Steps (write started) [⟨.write started, some ()⟩] (.value ()) := .ask (.still _)
    have serving := (Reachable.initial.step (@Step.talk .linux Crates.plain
      (fun _ => some idleSettings) (.start ()) _ _ read)).step (.serve rfl)
    have unserved : (.fail .empty : Binding Unit) = ofExcept (.error Error.empty) := rfl
    have unredirected : (.fail .empty : Sockets .linux Unit) = ofExcept (.error Error.empty) := rfl
    have ended := (serving.step (.run (.greeting greeted))).step
      (.finish (.joined unserved unredirected unserved rfl))
    obtain ⟨_, _, _, _, _, stopped⟩ := (process_serves ended).2.2 _ (.inr rfl)
    refine ⟨_, ended, (stopped rfl).resolve_left ?_⟩
    intro absurd
    cases absurd

end LocalProxy.Process
