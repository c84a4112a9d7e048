import LocalProxy.DohQuery
import LocalProxy.HostHeader
import LocalProxy.MainStack

/-! Where the requests of DNS queries over HTTPS go when a fake host is configured. The
chain of proxies is asked for the fake host, and what names the endpoint's own host goes
through the connection that comes out; but an HTTP proxy at the end of the chain is
handed the requests of the scheme `http`, and these name the endpoint alone. -/

namespace LocalProxy.FakeHost
open Strings Addr Http Programs Program Network SendRequest Outbound Service Calls Route
open MainStack Resolution DohQuery HostHeader

/-- The last proxy of the chain is handed the request instead of being asked for its host. -/
def Forwards (scheme : Text) (hops : List Hop) : Prop :=
  scheme = http ∧ ∃ front hop proxy, hops = front ++ [hop] ∧ hop.proxy = .http proxy

/-- The stack for DNS queries over HTTPS. -/
def dohStack (config : Config) (hops : List Hop) : ProxyStack :=
  (if config.fragment = some 0 then [] else [.fragment]) ++ backwards hops

/-- The stack below the layer that passes requests of the scheme `http` through. -/
def wayOut (scheme : Text) (config : Config) (hops : List Hop) : ProxyStack :=
  if scheme = http then backwards hops else dohStack config hops

theorem dohStack_built {crates : Crates} {config : Config} {lines : List Text}
    {stack : List Element} (doh : DoHConfig)
    (built : buildStack crates config lines = some stack) :
    ∃ hops, List.Forall₂ Configures (config.proxies.getD []) hops ∧
      dispatch ⟨config, stack⟩ (dohRequestConfig config doh) = dohStack config hops := by
  obtain ⟨hops, configures, shape⟩ := stack_built built
  refine ⟨hops, configures, ?_⟩
  cases fragment : config.fragment with
  | none => simpa [dispatch, dohRequestConfig, dohStack, fragmentsAll, fragment] using shape
  | some level =>
    by_cases one : level = 1
    · have below : ¬ (2 : UInt8) ≤ 1 := by decide
      simp only [fragmentsAll, fragment, one, below, decide_false, Bool.false_eq_true,
        if_false, List.nil_append] at shape
      simp [dispatch, dohRequestConfig, dohStack, fragmentsAll, fragment, one, below, shape]
    · have levels : (2 ≤ level) ↔ level ≠ 0 := by
        rw [UInt8.le_iff_toNat_le, ne_eq, ← UInt8.toNat_inj]
        have other : level.toNat ≠ 1 := fun same => one (UInt8.toNat_inj.mp same)
        simp only [UInt8.toNat_ofNat]
        omega
      by_cases zero : level = 0
      · simpa [dispatch, dohRequestConfig, dohStack, fragmentsAll, fragment, zero] using shape
      · simpa [dispatch, dohRequestConfig, dohStack, fragmentsAll, fragment, one, levels, zero]
          using shape

/-- The last element of a chain goes out by itself, unless it is an HTTP proxy that is
given a request of the scheme `http`. -/
theorem server_backwards (scheme : Text) (hops : List Hop) :
    (∃ front hop proxy, scheme = http ∧ hops = front ++ [hop] ∧ hop.proxy = .http proxy ∧
      server scheme (backwards hops) =
        .forward proxy (List.replicate hop.layers .tlsClient ++ backwards front)) ∨
    ¬ Forwards scheme hops ∧ ∃ self rest, backwards hops = self :: rest ∧
      server scheme (backwards hops) = .default self rest := by
  rcases List.eq_nil_or_concat' hops with none | ⟨front, hop, split⟩
  · refine .inr ⟨fun forwards => ?_, .raw, [], by rw [none]; rfl, by rw [none]; rfl⟩
    obtain ⟨_, front, hop, _, split, _⟩ := forwards
    exact List.append_ne_nil_of_right_ne_nil front (List.cons_ne_nil hop []) (split ▸ none)
  · rw [split, backwards_concat]
    have last : Forwards scheme (front ++ [hop]) →
        scheme = http ∧ ∃ proxy, hop.proxy = .http proxy := by
      intro forwards
      obtain ⟨plain, front', hop', proxy, same, http⟩ := forwards
      obtain ⟨_, rfl⟩ := List.append_singleton_inj.mp same
      exact ⟨plain, proxy, http⟩
    cases served : hop.proxy with
    | http proxy =>
      by_cases plain : scheme = http
      · refine .inl ⟨front, hop, proxy, plain, rfl, served, ?_⟩
        simp only [Proxy.element, server, if_pos plain]
      · refine .inr ⟨fun forwards => plain (last forwards).1, _, _, rfl, ?_⟩
        simp only [Proxy.element, server, if_neg plain]
    | socks4 proxy =>
      refine .inr ⟨fun forwards => ?_, _, _, rfl, rfl⟩
      obtain ⟨_, _, http⟩ := last forwards
      rw [served] at http
      cases http
    | socks5 proxy =>
      refine .inr ⟨fun forwards => ?_, _, _, rfl, rfl⟩
      obtain ⟨_, _, http⟩ := last forwards
      rw [served] at http
      cases http

/-- The same for the stack of DNS queries, whose fragmenting layer serves `https` alone. -/
theorem server_chain (scheme : Text) (config : Config) (hops : List Hop) :
    (∃ front hop proxy, scheme = http ∧ hops = front ++ [hop] ∧ hop.proxy = .http proxy ∧
      server scheme (dohStack config hops) =
        .forward proxy (List.replicate hop.layers .tlsClient ++ backwards front)) ∨
    ¬ Forwards scheme hops ∧ ∃ self rest, wayOut scheme config hops = self :: rest ∧
      server scheme (dohStack config hops) = .default self rest := by
  have chain := server_backwards scheme hops
  unfold wayOut dohStack
  by_cases plain : scheme = http
  · rw [if_pos plain]
    have through : server scheme ((if config.fragment = some 0 then [] else [Element.fragment]) ++
        backwards hops) = server scheme (backwards hops) := by
      split
      · rfl
      · simp only [List.singleton_append, server, if_pos plain]
    rw [through]
    exact chain
  · rw [if_neg plain]
    split
    · exact chain
    · refine .inr ⟨fun forwards => plain forwards.1, .fragment, backwards hops, rfl, ?_⟩
      simp only [List.singleton_append, server, if_neg plain]

/-- `send_request` accepts the endpoint, and for a query it sends this on. -/
def Accepts (crates : Crates) (doh : DoHConfig) (query : Bytes) (scheme : Text) (own : HostName)
    (port : Option UInt16) (sent : Request) : Prop :=
  ∃ request uri headers, dohRequest crates doh query = .ok request ∧
    target crates request = .ok (uri, headers) ∧ uri.hostname = some own ∧ uri.port = port ∧
    rewrite crates request = .ok (scheme, sent)

theorem rewrite_origin {crates : Crates} {request sent : Request} {scheme : Text}
    (accepted : rewrite crates request = .ok (scheme, sent)) : sent.uri.authority = none := by
  obtain ⟨_, _, _, _, origin, _, _, _, _, built, rfl⟩ := rewrite_ok accepted
  exact Option.map_eq_none_iff.mp (build_ok built).2.1

section Endpoint

variable {crates : Crates} {doh : DoHConfig} {query : Bytes} {scheme : Text} {own : HostName}
  {port : Option UInt16} {sent : Request}

theorem Accepts.known (accepts : Accepts crates doh query scheme own port sent) :
    (scheme = http ∨ scheme = https) ∧ Parsed own := by
  obtain ⟨request, uri, headers, _, parsed, present, _, accepted⟩ := accepts
  obtain ⟨uri', headers', _, _, again, named, _, _, _⟩ := rewrite_host accepted
  rw [parsed] at again
  cases again
  obtain ⟨sound, schemes⟩ := target_parsed parsed present
  rw [named] at schemes
  exact ⟨schemes.imp Option.some.inj Option.some.inj, sound⟩

theorem Accepts.header (accepts : Accepts crates doh query scheme own port sent) :
    sent.headers.get host = some ⟨hostHeader scheme own port⟩ := by
  obtain ⟨request, uri, headers, _, parsed, present, given, accepted⟩ := accepts
  obtain ⟨uri', headers', own', value, again, _, present', made, got⟩ := rewrite_host accepted
  rw [parsed] at again
  cases again
  rw [present] at present'
  cases present'
  have text := HeaderValue.fromStr_ok made
  rw [got, ← given, ← text]

theorem Accepts.origin (accepts : Accepts crates doh query scheme own port sent) :
    sent.uri.authority = none := by
  obtain ⟨_, _, _, _, _, _, _, accepted⟩ := accepts
  exact rewrite_origin accepted

theorem Accepts.toStr (accepts : Accepts crates doh query scheme own port sent) :
    (⟨hostHeader scheme own port⟩ : HeaderValue).toStr = .ok (hostHeader scheme own port) :=
  toStr_visible (visible_hostHeader accepts.known.2.visible)

theorem Accepts.hostAddr (accepts : Accepts crates doh query scheme own port sent) :
    hostAddr scheme sent = readBack scheme (hostHeader scheme own port) :=
  hostAddr_header accepts.header (visible_hostHeader accepts.known.2.visible)

end Endpoint

/-- The stream a request of the scheme is sent over when this connection reaches its host. -/
def secured (scheme : Text) (own : HostName) (conn : Connection) : Connection :=
  if scheme = https then .tlsStream own.toText conn else conn

/-- The connection that comes out of the stack, with the fragmenting layer for `https`. -/
def outer (scheme : Text) (config : Config) (inner : Connection) : Connection :=
  if scheme = http ∨ config.fragment = some 0 then inner else .fragmentLayer inner

/-- What goes through a connection names the endpoint's own host: the TLS server name, and
the `Host` header of a request without an authority. -/
def Announces (scheme header : Text) (own : HostName) (conn : Connection) : Op → Prop
  | .tlsConnect name stream => scheme = https ∧ name = own.toText ∧ stream = conn
  | .handshake stream => stream = secured scheme own conn
  | .sendRequest stream request => stream = secured scheme own conn ∧
    request.uri.authority = none ∧ request.headers.get host = some ⟨header⟩
  | .proxyUpgrade stream => stream = secured scheme own conn
  | _ => False

/-- What an HTTP proxy is sent to forward: the authority of the URI is such a one. -/
def Hands (names : Text → Prop) (header : Text) (server : Connection) : Op → Prop
  | .handshake stream => stream = server
  | .sendRequest stream request => stream = server ∧
    (∃ authority, request.uri.authority = some authority ∧ names authority.text) ∧
    request.headers.get host = some ⟨header⟩
  | .proxyUpgrade stream => stream = server
  | _ => False

theorem Hands.mono {names others : Text → Prop} {header : Text} {server : Connection}
    {operation : Op} (hands : Hands names header server operation)
    (more : ∀ text, names text → others text) : Hands others header server operation := by
  cases operation with
  | sendRequest stream request =>
    obtain ⟨same, ⟨authority, present, named⟩, announced⟩ := hands
    exact ⟨same, ⟨authority, present, more _ named⟩, announced⟩
  | handshake stream => exact hands
  | proxyUpgrade stream => exact hands
  | _ => exact hands.elim

/-- The events keep the address that is reached apart from the host that is announced. -/
inductive Separated (crates : Crates) (config : Config) (hops : List Hop) (scheme header : Text)
    (own : HostName) (dest : SocketAddr) : Trace → Prop where
  /-- The chain is being asked for the address. -/
  | reaching {trace left}
    (steps : Steps (reach crates (wayOut scheme config hops) dest) trace left) :
    Separated crates config hops scheme header own dest trace
  /-- The address was reached along the chain, and the own host is named through it. -/
  | reached {before after inner conn}
    (reached : Returns (reach crates (wayOut scheme config hops) dest) before conn)
    (routed : Routed crates hops dest before inner) (layered : conn = outer scheme config inner)
    (announces : ∀ event ∈ after, Announces scheme header own conn event.operation) :
    Separated crates config hops scheme header own dest (before ++ after)
  /-- The last proxy is asked for the address by the request that it is handed. -/
  | handed {front hop proxy before after server} (last : hops = front ++ [hop])
    (http : hop.proxy = .http proxy)
    (reached : Returns (reach crates (List.replicate hop.layers .tlsClient ++ backwards front)
      hop.server) before server)
    (hands : ∀ event ∈ after, Hands (fun authority => named scheme authority = some dest) header
      server event.operation) :
    Separated crates config hops scheme header own dest (before ++ after)

section Sending

variable {crates : Crates} {resolve : Resolve} {config : Config} {scheme header : Text}
  {reqConf : RequestConfig} {own : HostName} {sent : Request}

theorem exchange_announces {conn : Connection} (origin : sent.uri.authority = none)
    (announced : sent.headers.get host = some ⟨header⟩) :
    (exchange (secured scheme own conn) sent).Uses (Announces scheme header own conn) := by
  refine ⟨rfl, fun _ => uses_ofExcept_bind fun _ _ => ⟨⟨rfl, origin, announced⟩, fun _ => ?_⟩⟩
  apply uses_ofExcept_bind
  intro response _
  have tunnel : Announces scheme header own conn (.proxyUpgrade (secured scheme own conn)) := rfl
  exact relay_uses tunnel response

theorem secure_announces {conn : Connection} {port : UInt16} (origin : sent.uri.authority = none)
    (announced : sent.headers.get host = some ⟨header⟩) :
    (secure scheme conn ⟨own, port⟩ >>= fun server => exchange server sent).Uses
      (Announces scheme header own conn) := by
  have exchanged : (exchange (secured scheme own conn) sent).Uses
      (Announces scheme header own conn) := exchange_announces origin announced
  unfold secure
  by_cases tls : scheme = https
  · rw [if_pos tls, TlsClient.wrap, Program.bind_assoc]
    rw [secured, if_pos tls] at exchanged
    exact ⟨⟨tls, rfl, rfl⟩, fun _ => uses_ofExcept_bind fun _ _ => exchanged⟩
  · rw [if_neg tls]
    rw [secured, if_neg tls] at exchanged
    exact exchanged

/-- A run of `http_proxy_` asks the stack for the fake host with the port that was read
back, and then names the own host through the connection. -/
theorem default_runs {self : Element} {rest : ProxyStack} {fake : HostName} {port : UInt16}
    {trace : Trace} {final : Net Response} (plain : reqConf.doh = false)
    (faked : reqConf.fakeHost = some fake) (read : hostAddr scheme sent = .ok ⟨own, port⟩)
    (origin : sent.uri.authority = none) (announced : sent.headers.get host = some ⟨header⟩)
    (steps : Steps (httpProxyDefault crates resolve config self rest scheme reqConf sent) trace
      final) :
    (∃ left, Steps (reach crates (self :: rest) ⟨fake, port⟩) trace left) ∨
    ∃ before after conn, trace = before ++ after ∧
      Returns (reach crates (self :: rest) ⟨fake, port⟩) before conn ∧
      ∀ event ∈ after, Announces scheme header own conn event.operation := by
  have program : httpProxyDefault crates resolve config self rest scheme reqConf sent =
      reach crates (self :: rest) ⟨fake, port⟩ >>= fun conn =>
        secure scheme conn ⟨own, port⟩ >>= fun server => exchange server sent := by
    simp only [httpProxyDefault, read, dial, plain, faked, Bool.false_eq_true, if_false,
      Option.getD_some]
    rfl
  rw [program] at steps
  rcases steps_bind steps with ⟨left, first, _⟩ | ⟨conn, before, after, split, first, later⟩
  · exact .inl ⟨left, first⟩
  · exact .inr ⟨before, after, conn, split, first,
      ((secure_announces origin announced).steps later).1⟩

theorem reach_opens (proxies : ProxyStack) (addr : SocketAddr) :
    (reach crates proxies addr).Uses Opens :=
  uses_okOr_bind fun connect known => stack_opens crates proxies connect known addr

theorem wayOut_routed {hops : List Hop} {dest : SocketAddr} {trace : Trace} {conn : Connection}
    (success : Returns (reach crates (wayOut scheme config hops) dest) trace conn) :
    ∃ inner, Routed crates hops dest trace inner ∧ conn = outer scheme config inner := by
  unfold wayOut dohStack at success
  unfold outer
  by_cases plain : scheme = http
  · rw [if_pos plain] at success
    exact ⟨conn, backwards_routed success, by simp [plain]⟩
  · rw [if_neg plain] at success
    by_cases off : config.fragment = some 0
    · rw [if_pos off] at success
      exact ⟨conn, backwards_routed success, by simp [off]⟩
    · rw [if_neg off] at success
      have layered : Returns (reach crates (backwards hops) dest >>=
          fun server => Fragment.wrap server dest) trace conn := by
        rw [reach, Program.bind_assoc]
        exact success
      obtain ⟨inner, before, after, split, below, last⟩ := returns_bind.mp layered
      obtain ⟨empty, same⟩ := returns_value.mp last
      rw [split, empty, List.append_nil]
      exact ⟨inner, backwards_routed below, by simp [plain, off, same]⟩

/-- The request that an HTTP proxy is handed names in its URI what the header names. -/
theorem absolute_names {proxy : HttpProxy} {absolute : Request}
    (readable : (⟨header⟩ : HeaderValue).toStr = .ok header)
    (announced : sent.headers.get host = some ⟨header⟩)
    (made : proxy.absolute crates scheme sent = .ok absolute) :
    (∃ authority, absolute.uri.authority = some authority ∧ authority.text = header) ∧
      absolute.headers.get host = some ⟨header⟩ := by
  obtain ⟨value, text, data, uri, headers, got, read, built, authorized, same⟩ :=
    HttpProxy.absolute_ok made
  rw [announced] at got
  cases got
  rw [readable] at read
  cases read
  rw [same]
  refine ⟨build_authority built, ?_⟩
  rcases HttpProxy.authorized_ok authorized with kept | ⟨credentials, added⟩
  · rw [kept]
    exact announced
  · rw [added]
    exact (get_insert_other _ _ (by decide)).trans announced

/-- A run of the forwarding of an HTTP proxy connects to its server and hands it the
request. -/
theorem forward_runs {proxy : HttpProxy} {rest : ProxyStack} {trace : Trace}
    {final : Net Response} (readable : (⟨header⟩ : HeaderValue).toStr = .ok header)
    (announced : sent.headers.get host = some ⟨header⟩)
    (steps : Steps (proxy.forward crates (nextConnect crates rest) scheme sent) trace final) :
    (∃ left, Steps (reach crates rest proxy.addr) trace left) ∨
    ∃ before after server, trace = before ++ after ∧
      Returns (reach crates rest proxy.addr) before server ∧
      ∀ event ∈ after, Hands (· = header) header server event.operation := by
  have handed : ∀ server, (do
      handshake server
      let request ← ofExcept (proxy.absolute crates scheme sent)
      let response ← Network.sendRequest server request
      relayUpgrade server response
      return response).Uses (Hands (· = header) header server) := by
    intro server
    refine ⟨rfl, fun _ => uses_ofExcept_bind fun _ _ => uses_ofExcept_bind fun absolute made => ?_⟩
    obtain ⟨names, kept⟩ := absolute_names readable announced made
    refine ⟨⟨rfl, names, kept⟩, fun _ => uses_ofExcept_bind fun response _ => ?_⟩
    have tunnel : Hands (· = header) header server (.proxyUpgrade server) := rfl
    exact relay_uses tunnel response
  have sequence : Steps (reach crates rest proxy.addr >>= fun server => do
      handshake server
      let request ← ofExcept (proxy.absolute crates scheme sent)
      let response ← Network.sendRequest server request
      relayUpgrade server response
      return response) trace final := by
    rw [reach, Program.bind_assoc]
    exact steps
  rcases steps_bind sequence with ⟨left, first, _⟩ | ⟨server, before, after, split, first, later⟩
  · exact .inl ⟨left, first⟩
  · exact .inr ⟨before, after, server, split, first, ((handed server).steps later).1⟩

end Sending

/-- What keeps a fake host apart: an HTTP proxy that forwards requests would have to find
it in the `Host` header, and any other way out must not read another address there. -/
def Kept (scheme : Text) (hops : List Hop) (own : HostName) (port : Option UInt16)
    (fake : HostName) : Prop :=
  (Forwards scheme hops → named scheme (hostHeader scheme own port) =
    some ⟨fake, effectivePort scheme port⟩) ∧
  (¬ Forwards scheme hops → ∀ addr, readBack scheme (hostHeader scheme own port) = .ok addr →
    addr = ⟨own, effectivePort scheme port⟩)

/-- The header of such a host is refused. -/
theorem unread_portless {scheme : Text} {own : HostName} {port : Option UInt16}
    (normal : own.Normal) (portless : PortlessIpv6 scheme own port) :
    SocketAddr.parseHostHeader (hostHeader scheme own port) = .error .other := by
  obtain ⟨⟨addr, rfl⟩, default⟩ := portless
  rcases hostHeader_eq scheme (.v6 addr) port with ⟨header, _⟩ | ⟨given, same, other, _⟩
  · rw [header, rendered_none]
    exact parseHostHeader_ipv6 addr normal
  · rw [default given same] at other
    cases other

/-- For the host names there are, that is when nothing is forwarded, or nothing faked. -/
theorem kept_ordinary {scheme : Text} {own : HostName} (hops : List Hop) (port : Option UInt16)
    (fake : HostName) (known : scheme = http ∨ scheme = https) (normal : own.Normal)
    (ordinary : Ordinary own) :
    Kept scheme hops own port fake ↔ (Forwards scheme hops → own = fake) := by
  have names : named scheme (hostHeader scheme own port) =
      some ⟨own, effectivePort scheme port⟩ := named_hostHeader known normal ordinary
  have reads : ∀ addr, readBack scheme (hostHeader scheme own port) = .ok addr →
      addr = ⟨own, effectivePort scheme port⟩ := by
    intro addr read
    by_cases portless : PortlessIpv6 scheme own port
    · rw [readBack, unread_portless normal portless] at read
      cases read
    · have back : readBack scheme (hostHeader scheme own port) =
          .ok ⟨own, effectivePort scheme port⟩ :=
        (hostHeader_readBack known normal ordinary).mpr portless
      rw [back] at read
      exact (Except.ok.inj read).symm
  unfold Kept
  rw [names]
  constructor
  · intro kept forwards
    have same := Option.some.inj (kept.1 forwards)
    exact congrArg SocketAddr.hostname same
  · intro unfaked
    exact ⟨fun forwards => by rw [unfaked forwards], fun _ => reads⟩

section Queries

variable {crates : Crates} {resolve : Resolve} {config : Config} {hops : List Hop} {doh : DoHConfig}
  {query : Bytes} {scheme : Text} {own fake : HostName} {port : Option UInt16} {sent : Request}
  {reqConf : RequestConfig} {trace : Trace}

theorem Separated.quiet {header : Text} {dest : SocketAddr} :
    Separated crates config hops scheme header own dest [] :=
  .reaching (.still _)

/-- The request of a query, however the chain serves it. -/
theorem serve_separated {final : Net Response}
    (accepts : Accepts crates doh query scheme own port sent) (plain : reqConf.doh = false)
    (faked : reqConf.fakeHost = some fake) (kept : Kept scheme hops own port fake)
    (steps : Steps (serve crates resolve config (dohStack config hops) scheme reqConf sent) trace
      final) :
    Separated crates config hops scheme (hostHeader scheme own port) own
      ⟨fake, effectivePort scheme port⟩ trace := by
  rw [serve_server] at steps
  rcases server_chain scheme config hops with
    ⟨front, hop, proxy, http, last, served, forwards⟩ | ⟨other, self, rest, way, default⟩
  · rw [forwards] at steps
    have names := kept.1 ⟨http, front, hop, proxy, last, served⟩
    have below : wayOut scheme config hops =
        .httpProxy proxy :: (List.replicate hop.layers .tlsClient ++ backwards front) := by
      rw [wayOut, if_pos http, last, backwards_concat, served]
      rfl
    have server : hop.server = proxy.addr := by rw [Hop.server, served]; rfl
    rcases forward_runs accepts.toStr accepts.header steps with
      ⟨left, reaching⟩ | ⟨before, after, stream, split, reached, handed⟩
    · have whole := reaching.bind fun stream =>
        proxy.tunnel crates stream ⟨fake, effectivePort scheme port⟩
      rw [reach, Program.bind_assoc] at whole
      have tunnel : Steps (reach crates (.httpProxy proxy ::
          (List.replicate hop.layers .tlsClient ++ backwards front))
          ⟨fake, effectivePort scheme port⟩) trace _ := whole
      rw [← below] at tunnel
      exact .reaching tunnel
    · rw [split]
      rw [← server] at reached
      exact .handed last served reached fun event member => (handed event member).mono
        fun authority same => same ▸ names
  · rw [default] at steps
    rcases steps_ofExcept_bind steps with ⟨_, _, empty⟩ | ⟨addr, read, _⟩
    · rw [empty]
      exact .quiet
    · have same := kept.2 other addr (accepts.hostAddr ▸ read)
      rw [same] at read
      rcases default_runs plain faked read accepts.origin accepts.header steps with
        ⟨left, reaching⟩ | ⟨before, after, conn, split, reached, announces⟩
      · rw [← way] at reaching
        exact .reaching reaching
      · rw [← way] at reached
        obtain ⟨inner, routed, layered⟩ := wayOut_routed reached
        rw [split]
        exact .reached reached routed layered announces

/-- What goes out in the course of some events, the cache left aside. -/
def upstream (trace : Trace) : Trace :=
  trace.filter fun event => match event.operation with
    | .cacheGet _ => false
    | .cacheInsert _ _ => false
    | _ => true

def Caches (operation : Op) : Prop := ∃ query answer, operation = .cacheInsert query answer

/-- What is done with the result of a program, once it returns, is not seen upstream. -/
theorem upstream_bind {α β : Type} {program : Net α} {next : α → Net β} {final : Net β}
    (caches : ∀ result, (next result).Uses Caches) (steps : Steps (program >>= next) trace final) :
    ∃ before left, Steps program before left ∧ upstream trace = upstream before := by
  rcases steps_bind steps with ⟨left, first, _⟩ | ⟨result, before, after, split, first, later⟩
  · exact ⟨trace, left, first, rfl⟩
  · refine ⟨before, _, first, ?_⟩
    have silent : upstream after = [] := by
      unfold upstream
      rw [List.filter_eq_nil_iff]
      intro event member
      obtain ⟨query, answer, same⟩ := ((caches result).steps later).1 event member
      rw [same]
      exact Bool.false_ne_true
    rw [split, upstream, List.filter_append, ← upstream, ← upstream, silent, List.append_nil]

theorem serves_upstream {method : Method} {body : Body}
    (serves : ∀ event ∈ trace, Serves method body event.operation) : upstream trace = trace := by
  unfold upstream
  rw [List.filter_eq_self]
  intro event member
  cases event with
  | mk operation answer =>
    cases operation with
    | cacheGet query =>
      rcases serves _ member with opens | ⟨_, _, absurd, _⟩ | ⟨_, absurd⟩
      · exact opens.elim
      · cases absurd
      · cases absurd
    | cacheInsert query answer =>
      rcases serves _ member with opens | ⟨_, _, absurd, _⟩ | ⟨_, absurd⟩
      · exact opens.elim
      · cases absurd
      · cases absurd
    | _ => rfl

/-- A query goes out as the request of its endpoint, or not at all. -/
theorem dohQuery_upstream {state : ProxyState} {final : Net Bytes}
    (steps : Steps (dohQuery crates resolve state query) trace final)
    (endpoint : state.config.doh = some doh)
    (accepts : Accepts crates doh (patched query) scheme own port sent) :
    upstream trace = [] ∨ ∃ left, Steps (serve crates resolve state.config
      (dispatch state (dohRequestConfig state.config doh)) scheme
      (dohRequestConfig state.config doh) sent) (upstream trace) left := by
  obtain ⟨request, uri, headers, made, _, _, _, rewritten⟩ := accepts
  rcases steps_ofExcept_bind steps with ⟨_, _, empty⟩ | ⟨id, _, steps⟩
  · exact .inl (by rw [empty]; rfl)
  rcases steps_ofExcept_bind steps with ⟨_, _, empty⟩ | ⟨key, set, steps⟩
  · exact .inl (by rw [empty]; rfl)
  rw [setId_ok set] at steps
  obtain ⟨looked, _, steps, same⟩ := upstream_bind (fun _ => uses_ofExcept _ _) steps
  rw [same]
  rcases steps_ask.mp steps with ⟨empty, _⟩ | ⟨cached, rest, split, steps⟩
  · exact .inl (by rw [empty]; rfl)
  have unseen : upstream looked = upstream rest := by
    rw [split]
    rfl
  rw [unseen]
  cases cached with
  | some result => exact .inl (by rw [(steps_value.mp steps).1]; rfl)
  | none =>
    have missing : Steps (fetch crates resolve state (patched query) >>= fun result =>
        cacheInsert (patched query) result >>= fun _ => value result) rest _ := steps
    have caches : ∀ result, (cacheInsert (patched query) result >>= fun _ =>
        (value result : Net Bytes)).Uses Caches :=
      fun result => ⟨⟨_, result, rfl⟩, fun _ => trivial⟩
    obtain ⟨fetched, _, steps, same⟩ := upstream_bind caches missing
    rw [same]
    unfold fetch at steps
    rw [endpoint] at steps
    change Steps (ofExcept (dohRequest crates doh (patched query)) >>= _) _ _ at steps
    rw [made] at steps
    obtain ⟨served, left, steps, same⟩ := upstream_bind (fun response =>
      uses_ensure_bind (uses_ofExcept _ _)) steps
    rw [same]
    unfold Service.sendRequest at steps
    rw [rewritten] at steps
    have serving : Steps (serve crates resolve state.config
        (dispatch state (dohRequestConfig state.config doh)) scheme
        (dohRequestConfig state.config doh) sent) served left := steps
    rw [serves_upstream ((serve_uses _ rfl).steps serving).1]
    exact .inr ⟨left, serving⟩

theorem posts_member (posted : posts trace ≠ []) :
    ∃ server request answer, ⟨.sendRequest server request, answer⟩ ∈ upstream trace ∧
      request.method = .post := by
  obtain ⟨post, member⟩ := List.exists_mem_of_ne_nil _ posted
  obtain ⟨event, present, found⟩ := List.mem_filterMap.mp member
  cases event with
  | mk operation answer =>
    cases operation with
    | sendRequest server request =>
      have method : request.method = .post := by
        by_contra other
        simp [other] at found
      exact ⟨server, request, answer, List.mem_filter.mpr ⟨present, rfl⟩, method⟩
    | _ => cases found

theorem opens_unposted {server : Connection} {request : Request}
    {answer : Except Error Response} (opens : ∀ event ∈ trace, Opens event.operation)
    (member : ⟨.sendRequest server request, answer⟩ ∈ trace) : request.method ≠ .post := by
  have connect : request.method = .connect := opens _ member
  rw [connect]
  decide

/-- A request that names another address than the one to be reached gives it away. -/
theorem not_separated {server : Connection} {request : Request} {answer : Except Error Response}
    {authority : Authority} {header : Text} {dest : SocketAddr}
    (member : ⟨.sendRequest server request, answer⟩ ∈ trace) (posted : request.method = .post)
    (present : request.uri.authority = some authority)
    (other : named scheme authority.text ≠ some dest) :
    ¬ Separated crates config hops scheme header own dest trace := by
  intro separated
  cases separated with
  | reaching steps =>
    exact opens_unposted ((reach_opens _ _).steps steps).1 member posted
  | reached reached _ _ announces =>
    rcases List.mem_append.mp member with first | later
    · exact opens_unposted ((reach_opens _ _).steps reached).1 first posted
    · have origin := (announces _ later).2.1
      rw [present] at origin
      cases origin
  | handed _ _ reached hands =>
    rcases List.mem_append.mp member with first | later
    · exact opens_unposted ((reach_opens _ _).steps reached).1 first posted
    · obtain ⟨named, same, names⟩ := (hands _ later).2.1
      rw [present] at same
      cases same
      exact other names

/-- What is handed to an HTTP proxy names the endpoint's own host, whatever is faked. -/
theorem forwards_posts {final : Net Response} {server : Connection} {request : Request}
    {answer : Except Error Response} (accepts : Accepts crates doh query scheme own port sent)
    (forwards : Forwards scheme hops)
    (steps : Steps (serve crates resolve config (dohStack config hops) scheme reqConf sent) trace
      final) (member : ⟨.sendRequest server request, answer⟩ ∈ trace)
    (posted : request.method = .post) :
    ∃ authority, request.uri.authority = some authority ∧
      authority.text = hostHeader scheme own port := by
  rw [serve_server] at steps
  rcases server_chain scheme config hops with
    ⟨front, hop, proxy, http, last, served, forward⟩ | ⟨other, _⟩
  · rw [forward] at steps
    rcases forward_runs accepts.toStr accepts.header steps with
      ⟨left, reaching⟩ | ⟨before, after, stream, split, reached, handed⟩
    · exact (opens_unposted ((reach_opens _ _).steps reaching).1 member posted).elim
    · rw [split] at member
      rcases List.mem_append.mp member with first | later
      · exact (opens_unposted ((reach_opens _ _).steps reached).1 first posted).elim
      · exact (handed _ later).2.1
  · exact (other forwards).elim

/-- In every run of a query the fake host is kept apart from the endpoint's own, given the
condition; where an HTTP proxy is handed the request, the condition is needed to post it. -/
theorem dohQuery_separated {lines : List Text} {stack : List Element} {fakeHost : Text}
    {final : Net Bytes} (built : buildStack crates config lines = some stack)
    (endpoint : config.doh = some doh) (faked : doh.fakeHost = some fakeHost)
    (accepts : Accepts crates doh (patched query) scheme own port sent)
    (steps : Steps (dohQuery crates resolve ⟨config, stack⟩ query) trace final) :
    ∃ hops, List.Forall₂ Configures (config.proxies.getD []) hops ∧
      (Kept scheme hops own port (.fromStr fakeHost) →
        Separated crates config hops scheme (hostHeader scheme own port) own
          ⟨.fromStr fakeHost, effectivePort scheme port⟩ (upstream trace)) ∧
      (Forwards scheme hops → ¬ Kept scheme hops own port (.fromStr fakeHost) → posts trace ≠ [] →
        ¬ Separated crates config hops scheme (hostHeader scheme own port) own
          ⟨.fromStr fakeHost, effectivePort scheme port⟩ (upstream trace)) := by
  obtain ⟨hops, configures, shape⟩ := dohStack_built doh built
  have served := dohQuery_upstream steps endpoint accepts
  rw [shape] at served
  have fake : (dohRequestConfig config doh).fakeHost = some (.fromStr fakeHost) := by
    simp [dohRequestConfig, faked]
  refine ⟨hops, configures, fun kept => ?_, fun forwards lost posted => ?_⟩
  · rcases served with nothing | ⟨left, serving⟩
    · rw [nothing]
      exact .quiet
    · exact serve_separated accepts rfl fake kept serving
  · obtain ⟨server, request, answer, member, method⟩ := posts_member posted
    rcases served with nothing | ⟨left, serving⟩
    · rw [nothing] at member
      cases member
    · obtain ⟨authority, present, own⟩ := forwards_posts accepts forwards serving member method
      refine not_separated member method present ?_
      rw [own]
      intro named
      exact lost ⟨fun _ => named, fun other => (other forwards).elim⟩

end Queries

/-- A server without proxies that asks `front.test` for what `dns.test` answers. -/
def directConfig : Config where
  proxies := none
  doh := some ⟨"http://dns.test/".toList, some "front.test".toList⟩
  fragment := none

theorem dohQuery_separated_direct : ∃ trace, posts trace ≠ [] ∧
    Separated Crates.plain directConfig [] http "dns.test".toList (.domain "dns.test".toList)
      ⟨.domain "front.test".toList, 80⟩ (upstream trace) := by
  have steps := drive_steps (willing ⟨200, [], [.ok (.data [1, 2, 3])]⟩) true
    (dohQuery Crates.plain dnsResolve ⟨directConfig, [.raw, .fragment]⟩ [7, 7, 9])
  have accepts : ∃ sent, Accepts Crates.plain ⟨"http://dns.test/".toList, some "front.test".toList⟩
      (patched [7, 7, 9]) http (.domain "dns.test".toList) none sent :=
    ⟨_, _, _, _, rfl, rfl, rfl, rfl, rfl⟩
  obtain ⟨sent, accepts⟩ := accepts
  have built : buildStack Crates.plain directConfig [] = some [.raw, .fragment] := by decide
  obtain ⟨hops, configures, keeps, _⟩ := dohQuery_separated built rfl rfl accepts steps
  cases configures
  have kept : Kept http [] (.domain "dns.test".toList) none (.domain "front.test".toList) := by
    refine (kept_ordinary [] none _ (.inl rfl) accepts.known.2.normal ?_).mpr ?_
    · unfold Ordinary
      decide
    · intro forwards
      obtain ⟨_, front, hop, _, split, _⟩ := forwards
      cases front with
      | nil => cases split
      | cons first rest => cases split
  exact ⟨_, by decide, keeps kept⟩

/-- The same over an HTTP proxy. -/
def forwardedConfig : Config where
  proxies := some [⟨"http".toList, some [], none, "127.0.0.1:8080".toList⟩]
  doh := some ⟨"http://dns.test/".toList, some "front.test".toList⟩
  fragment := none

/-- The proxy is asked for `dns.test`. -/
theorem endpoint_revealed : ¬ ∀ (crates : Crates) (resolve : Resolve) (config : Config)
    (lines : List Text) (stack : List Element) (doh : DoHConfig) (fakeHost : Text)
    (query : Bytes) (scheme : Text) (own : HostName) (port : Option UInt16) (sent : Request)
    (trace : Trace) (final : Net Bytes), buildStack crates config lines = some stack →
    config.doh = some doh → doh.fakeHost = some fakeHost →
    Accepts crates doh (patched query) scheme own port sent →
    Steps (dohQuery crates resolve ⟨config, stack⟩ query) trace final →
    ∃ hops, List.Forall₂ Configures (config.proxies.getD []) hops ∧
      Separated crates config hops scheme (hostHeader scheme own port) own
        ⟨.fromStr fakeHost, effectivePort scheme port⟩ (upstream trace) := by
  intro claim
  have steps := drive_steps (willing ⟨200, [], [.ok (.data [1, 2, 3])]⟩) true
    (dohQuery Crates.plain dnsResolve ⟨forwardedConfig, [.raw,
      .httpProxy ⟨⟨.v4 ⟨127, 0, 0, 1⟩, 8080⟩, none⟩, .fragment]⟩ [7, 7, 9])
  have accepts : ∃ sent, Accepts Crates.plain ⟨"http://dns.test/".toList, some "front.test".toList⟩
      (patched [7, 7, 9]) http (.domain "dns.test".toList) none sent :=
    ⟨_, _, _, _, rfl, rfl, rfl, rfl, rfl⟩
  obtain ⟨sent, accepts⟩ := accepts
  obtain ⟨hops, _, separated⟩ := claim _ _ forwardedConfig [] _ _ _ _ _ _ _ _ _ _ (by decide) rfl
    rfl accepts steps
  refine not_separated (List.mem_filter.mpr ⟨.tail _ (.tail _ (.tail _ (.tail _ (.head _)))), rfl⟩)
    rfl rfl ?_ separated
  decide

end LocalProxy.FakeHost
