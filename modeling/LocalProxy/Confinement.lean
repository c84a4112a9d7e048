import LocalProxy.Conversation
import LocalProxy.Fragmentation
import LocalProxy.Isolation

/-! Where the program connects to. Once there are proxies, the first of them is the only one that
it ever connects to, for whichever client, for the DNS queries on the way, and when these fail. -/

namespace LocalProxy.Confinement
open Strings Addr Http Programs Program Network SendRequest Outbound Service Inbound Handshake
open Calls Resolution Route MainStack FakeHost Journey Conversation Monitors Streams Fragmentation
open Isolation (Job)

/-- A connection to the server of the first proxy, if there is one, whose own name the system
resolves in connecting. No call of `dns_resolve` is left open. -/
def Confined (config : Config) : Op → Prop
  | .tcpConnect addr => ∀ first rest server, config.proxies = some (first :: rest) →
    SocketAddr.fromStr first.server = .ok server → addr = server.toText
  | .dnsResolve _ _ => False
  | _ => True

abbrev confines (config : Config) : Monitor Op Ans Unit := .always (Confined config)

theorem confines_grows (config : Config) : (confines config).Grows fun _ _ => True := always_grows

section Way

variable {crates : Crates} {config : Config} {hops : List Hop}

/-- Whatever the target is, the first of the hops comes before it. -/
theorem entry_confined (configures : List.Forall₂ Configures (config.proxies.getD []) hops)
    (target : SocketAddr) : Confined config (.tcpConnect (entry hops target).toText) := by
  intro first rest server given read
  rw [given, Option.getD_some] at configures
  cases configures with
  | cons here others =>
    have same := here.server
    rw [read] at same
    cases same
    rfl

theorem tunnel_confined (proxy : Proxy) (server : Connection) (addr : SocketAddr) :
    (tunnel crates proxy server addr).Uses (Confined config) := by
  have speaks : ∀ operation, Speaks server operation → Confined config operation := by
    intro operation spoken
    cases operation with
    | tcpConnect addr => exact spoken.elim
    | dnsResolve hostname qtype => exact spoken.elim
    | _ => trivial
  cases proxy with
  | http proxy =>
    refine Uses.bind ⟨trivial, fun answer => uses_ofExcept _ answer⟩ fun _ => ?_
    refine (uses_ofExcept _ _).bind fun request => ?_
    refine Uses.bind ⟨trivial, fun answer => uses_ofExcept _ answer⟩ fun response => ?_
    refine uses_ensure_bind (Uses.bind ⟨trivial, fun answer => uses_ofExcept _ answer⟩ fun _ => ?_)
    trivial
  | socks4 proxy =>
    refine (uses_ofExcept _ _).bind fun destination => ?_
    exact (socks4_writes proxy addr.port destination).uses.mono speaks
  | socks5 proxy => exact (socks5_writes proxy addr).uses.mono speaks

theorem secureLayers_confined (addr : SocketAddr) (count : Nat) (conn : Connection) :
    (secureLayers addr count conn).Uses (Confined config) := by
  refine (secureLayers_secures addr count conn).mono fun operation secures => ?_
  cases operation with
  | tlsConnect name stream => trivial
  | _ => exact secures.elim

theorem legs_confined (conn : Connection) (pairs : List (Hop × SocketAddr)) :
    (legs crates conn pairs).Uses (Confined config) := by
  induction pairs generalizing conn with
  | nil => trivial
  | cons pair rest ih =>
    have first : (leg crates conn pair).Uses (Confined config) :=
      (secureLayers_confined _ _ _).bind fun secured => tunnel_confined _ secured _
    exact first.bind ih

theorem journey_confined {target : SocketAddr}
    (dials : Confined config (.tcpConnect (entry hops target).toText)) :
    (journey crates hops target).Uses (Confined config) := by
  refine uses_ensure_bind (Uses.bind ?_ fun first => legs_confined first _)
  refine ⟨dials, fun answer => (uses_ofExcept _ answer).bind fun socket => ?_⟩
  exact Uses.bind ⟨trivial, fun answer => uses_ofExcept _ answer⟩ fun _ => trivial

theorem reach_confined (configures : List.Forall₂ Configures (config.proxies.getD []) hops)
    (fragmented : Bool) (target : SocketAddr) :
    (reach crates (layered fragmented hops) target).Uses (Confined config) := by
  have plain : (reach crates (backwards hops) target).Uses (Confined config) := by
    rw [reach_journey]
    exact journey_confined (entry_confined configures target)
  cases fragmented with
  | false => exact plain
  | true =>
    have layer : reach crates (layered true hops) target =
        reach crates (backwards hops) target >>= fun inner => value (.fragmentLayer inner) := by
      simp only [layered, reach, Program.bind_assoc]
      rfl
    rw [layer]
    exact plain.bind fun _ => trivial

/-- A proxy that takes a request is connected to by way of the ones before it. -/
theorem forward_confined {front : List Hop} {hop : Hop} {proxy : HttpProxy} {scheme : Text}
    (configures : List.Forall₂ Configures (config.proxies.getD []) (front ++ [hop]))
    (served : hop.proxy = .http proxy) (request : Request) :
    (proxy.forward crates
      (nextConnect crates (List.replicate hop.layers .tlsClient ++ backwards front)) scheme
      request).Uses (Confined config) := by
  have first : Confined config (.tcpConnect (entry front proxy.addr).toText) := by
    have last : hop.server = proxy.addr := by rw [Hop.server, served]; rfl
    rw [← last, ← entry_concat front hop proxy.addr]
    exact entry_confined configures proxy.addr
  have reached : (reach crates (List.replicate hop.layers .tlsClient ++ backwards front)
      proxy.addr).Uses (Confined config) := by
    rw [reach_layers, reach_journey]
    exact (journey_confined first).bind fun last => secureLayers_confined _ _ last
  have whole : proxy.forward crates (nextConnect crates
      (List.replicate hop.layers .tlsClient ++ backwards front)) scheme request =
      reach crates (List.replicate hop.layers .tlsClient ++ backwards front) proxy.addr >>=
        fun server => do
          handshake server
          let request ← ofExcept (proxy.absolute crates scheme request)
          let response ← Network.sendRequest server request
          relayUpgrade server response
          return response := by
    simp only [HttpProxy.forward, reach, Program.bind_assoc]
  rw [whole]
  refine reached.bind fun server => ?_
  refine Uses.bind ⟨trivial, fun answer => uses_ofExcept _ answer⟩ fun _ => ?_
  refine (uses_ofExcept _ _).bind fun sent => ?_
  refine Uses.bind ⟨trivial, fun answer => uses_ofExcept _ answer⟩ fun response => ?_
  unfold relayUpgrade
  split
  · exact ⟨trivial, fun _ => trivial⟩
  · trivial

/-- Who serves a request: an HTTP proxy, over the ones before it, or the stack from an element on
that is its first, or its first but for the layer that fragments. -/
theorem server_layered (scheme : Text) (fragmented : Bool) (hops : List Hop) :
    (∃ front hop proxy, hops = front ++ [hop] ∧ hop.proxy = .http proxy ∧
      server scheme (layered fragmented hops) =
        .forward proxy (List.replicate hop.layers .tlsClient ++ backwards front)) ∨
    ∃ self rest fragments, layered fragments hops = self :: rest ∧
      server scheme (layered fragmented hops) = .default self rest := by
  have plain : (∃ front hop proxy, hops = front ++ [hop] ∧ hop.proxy = .http proxy ∧
      server scheme (backwards hops) =
        .forward proxy (List.replicate hop.layers .tlsClient ++ backwards front)) ∨
      ∃ self rest fragments, layered fragments hops = self :: rest ∧
        server scheme (backwards hops) = .default self rest := by
    rcases server_backwards scheme hops with
      ⟨front, hop, proxy, _, split, served, forwards⟩ | ⟨_, self, rest, way, default⟩
    · exact .inl ⟨front, hop, proxy, split, served, forwards⟩
    · exact .inr ⟨self, rest, false, way, default⟩
  cases fragmented with
  | false => exact plain
  | true =>
    by_cases passes : scheme = http
    · have through : server scheme (layered true hops) = server scheme (backwards hops) :=
        if_pos passes
      rw [through]
      exact plain
    · exact .inr ⟨.fragment, backwards hops, true, rfl, if_neg passes⟩

theorem serve_confined {resolve : Resolve} {scheme : Text} {request : Request}
    (configures : List.Forall₂ Configures (config.proxies.getD []) hops) (fragmented : Bool)
    (looks : Looks (confines config) resolve) (reqConf : RequestConfig) :
    Minds (confines config) (serve crates resolve config (layered fragmented hops) scheme reqConf
      request) () := by
  rw [serve_server]
  rcases server_layered scheme fragmented hops with
    ⟨front, hop, proxy, split, served, forwards⟩ | ⟨self, rest, fragments, order, default⟩
  · rw [forwards]
    rw [split] at configures
    exact always_safe.mpr (forward_confined configures served request)
  · rw [default]
    refine @default_safe Unit (confines config) (fun _ _ => True) () (fun _ _ => True)
      (fun _ _ => True) crates resolve request self rest scheme (confines_grows config)
      (fun _ _ _ _ _ => trivial) (fun _ => trivial) looks ?_ ?_ ?_ config reqConf
    · intro addr known
      have connects : (connect crates self rest addr).Uses (Confined config) := by
        have whole : connect crates self rest addr = reach crates (self :: rest) addr := rfl
        rw [whole, ← order]
        exact reach_confined configures fragments addr
      exact always_safe.mpr connects
    · intro conn addr known _
      unfold secure
      split
      · exact ⟨trivial, fun _ => safe_ofExcept_bind fun _ _ => trivial⟩
      · trivial
    · exact ⟨fun _ => trivial, fun _ => trivial, fun _ => trivial⟩

end Way

section Clients

variable {crates : Crates} {config : Config} {lines : List Text} {stack : List Element}

/-- A resolver that knows no name. -/
def unresolving : Resolve := fun _ _ => .fail .empty

/-- The queries on the way are posted along the same proxies. -/
theorem dohQuery_confined (built : buildStack crates config lines = some stack)
    (resolve : Resolve) (query : Bytes) (known : Unit) :
    Minds (confines config) (dohQuery crates resolve ⟨config, stack⟩ query) known := by
  rw [dohQuery_plain unresolving]
  refine dohQuery_safe (confines_grows config) (fun _ _ => trivial) (fun _ _ _ => trivial) ?_ query
  intro doh sent posted known endpoint made
  refine safe_ofExcept_bind fun rewritten accepted => ?_
  show Minds _ (serve crates unresolving config
    (dispatch ⟨config, stack⟩ (dohRequestConfig config doh)) rewritten.1 _ rewritten.2) ()
  obtain ⟨hops, configures, same⟩ := dohStack_built doh built
  have looks : Looks (confines config) unresolving := fun _ _ _ => trivial
  rw [same, doh_layered]
  exact serve_confined configures _ looks _

theorem resolveTo_confined (built : buildStack crates config lines = some stack) :
    Looks (confines config) (resolveTo crates ⟨config, stack⟩ 1) :=
  resolveBy_safe (fun sent known => dohQuery_confined built _ sent known) fun _ _ _ _ => trivial

theorem connectRun_confined (built : buildStack crates config lines = some stack)
    (request : Request) : Minds (confines config)
      (connectRun crates (resolveTo crates ⟨config, stack⟩ 1) ⟨config, stack⟩ request) () := by
  obtain ⟨hops, configures, shape⟩ := stack_built built
  rw [client_layered] at shape
  refine safe_ofExcept_bind fun server _ => ?_
  rw [shape]
  cases order : layered (documented config.fragment .client) hops with
  | nil => trivial
  | cons proxy proxies =>
    refine happyEyeballs_safe (confines_grows config) (fun _ _ _ _ _ => trivial)
      (fun _ => trivial) (resolveTo_confined built) config ?_ server
    intro addr known
    have connects : (connect crates proxy proxies addr).Uses (Confined config) := by
      have whole : connect crates proxy proxies addr = reach crates (proxy :: proxies) addr := rfl
      rw [whole, ← order]
      exact reach_confined configures _ addr
    exact always_safe.mpr connects

theorem tproxyRun_confined (built : buildStack crates config lines = some stack)
    (destination : StdNet.SocketAddr) :
    (tproxyRun crates ⟨config, stack⟩ destination).Uses (Confined config) := by
  obtain ⟨hops, configures, shape⟩ := stack_built built
  rw [client_layered] at shape
  unfold tproxyRun
  rw [shape]
  cases order : layered (documented config.fragment .client) hops with
  | nil => trivial
  | cons proxy proxies =>
    have whole : ∀ addr, connect crates proxy proxies addr =
        reach crates (proxy :: proxies) addr := fun _ => rfl
    simp only [whole, ← order]
    exact reach_confined configures _ _

theorem handle_confined (built : buildStack crates config lines = some stack)
    (request : Request) : Minds (confines config)
      (handle crates (resolveTo crates ⟨config, stack⟩ 1) ⟨config, stack⟩ request) () := by
  have sent : Minds (confines config) (httpProxyRun crates (resolveTo crates ⟨config, stack⟩ 1)
      ⟨config, stack⟩ request) () := by
    obtain ⟨hops, configures, shape⟩ := stack_built built
    rw [client_layered] at shape
    refine safe_ofExcept_bind fun rewritten accepted => ?_
    show Minds _ (serve crates _ config stack.reverse rewritten.1 _ rewritten.2) ()
    rw [shape]
    exact serve_confined configures _ (resolveTo_confined built) .new
  have served : Minds (confines config) (if request.method = .connect then
      connectResponse crates (resolveTo crates ⟨config, stack⟩ 1) ⟨config, stack⟩ request
    else do
      let response ← httpProxyRun crates (resolveTo crates ⟨config, stack⟩ 1) ⟨config, stack⟩
        request
      return Response.keptAlive response) () := by
    split
    · exact (connectRun_confined built request).andThen fun _ _ _ => trivial
    · exact sent.andThen fun _ _ _ => trivial
  refine (Safe.attempt (served.mono fun _ _ _ => trivial)).andThen fun outcome _ _ => ?_
  cases outcome with
  | ok response => trivial
  | error error => trivial

theorem copy_confined (server : Connection) (traffic : List Traffic) :
    (copyBidirectional server traffic).Uses (Confined config) := by
  induction traffic with
  | nil => trivial
  | cons piece rest ih =>
    cases piece with
    | client bytes =>
      exact Uses.bind ⟨trivial, fun answer => uses_ofExcept _ answer⟩ fun _ => ih
    | server count =>
      exact Uses.bind ⟨trivial, fun answer => uses_ofExcept _ answer⟩ fun _ => ih

theorem job_confined (built : buildStack crates config lines = some stack) (job : Job) :
    (job.program crates ⟨config, stack⟩).Uses (Confined config) := by
  cases job with
  | plain request => exact (always_safe.mp (handle_confined built request)).bind fun _ => trivial
  | tunnel request traffic =>
    exact (always_safe.mp (connectRun_confined built request)).bind fun server =>
      copy_confined server traffic
  | redirected destination traffic =>
    exact (tproxyRun_confined built destination).bind fun server => copy_confined server traffic
  | datagram query source =>
    refine (always_safe.mp (dohQuery_confined built _ query ())).bind fun result => ?_
    exact ⟨trivial, fun answer => uses_ofExcept _ answer⟩

end Clients

/-- In every run for every client, over the stack of `main`, what is connected to is the server
of the first proxy that is configured: for a request, a tunnel, a redirected connection or a
datagram, for every DNS query on the way, and where DNS over HTTPS has failed. With a proxy, the
only name that comes to the resolver of the system is then its own. -/
theorem jobs_confined {crates : Crates} {config : Config} {lines : List Text}
    {stack : List Element} (built : buildStack crates config lines = some stack) (job : Job)
    {trace : Trace} {left : Net Unit}
    (steps : Steps (job.program crates ⟨config, stack⟩) trace left) :
    ∀ event ∈ trace, Confined config event.operation :=
  ((job_confined built job).steps steps).1

theorem jobs_confined_redirected : ∃ trace, dialled trace = ["127.0.0.1:8080".toList] ∧
    ∀ event ∈ trace, Confined loopbackProxy event.operation := by
  have built : buildStack Crates.plain loopbackProxy [] = some [.raw,
      .httpProxy ⟨⟨.v4 ⟨127, 0, 0, 1⟩, 8080⟩, none⟩, .fragment] := by decide
  have steps := drive_steps (willing ⟨200, [], []⟩) true
    ((Job.redirected ⟨.v4 ⟨192, 0, 2, 1⟩, 80⟩ []).program Crates.plain ⟨loopbackProxy, [.raw,
      .httpProxy ⟨⟨.v4 ⟨127, 0, 0, 1⟩, 8080⟩, none⟩, .fragment]⟩)
  exact ⟨_, by decide, jobs_confined built _ steps⟩

end LocalProxy.Confinement
