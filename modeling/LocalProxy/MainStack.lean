import LocalProxy.Inbound
import LocalProxy.Route

/-! The stack that `main` builds from the configuration: its elements are those of the
configured proxies in their order, so that a connection over it goes along them. -/

namespace LocalProxy.MainStack
open Strings Addr Http Programs Program Network SendRequest Outbound Service Handshake Inbound Route

theorem layers_built {names : List Text} {layers : List Element}
    (built : names.mapM layerElement = some layers) :
    names = List.replicate names.length "tls".toList ∧
      layers = List.replicate names.length .tlsClient := by
  induction names generalizing layers with
  | nil =>
    cases built
    exact ⟨rfl, rfl⟩
  | cons name names ih =>
    rw [List.mapM_cons] at built
    obtain ⟨layer, known, built⟩ := Option.bind_eq_some_iff.mp built
    obtain ⟨rest, later, same⟩ := Option.bind_eq_some_iff.mp built
    obtain ⟨sameNames, sameLayers⟩ := ih later
    cases same
    unfold layerElement at known
    split at known
    next tls =>
      cases known
      rw [List.length_cons, List.replicate_succ, List.replicate_succ, ← sameNames, ← sameLayers,
        tls]
      exact ⟨rfl, rfl⟩
    next => contradiction

theorem toOption_some {α : Type} {outcome : Except Error α} {result : α}
    (found : outcome.toOption = some result) : outcome = .ok result := by
  cases outcome with
  | error error => contradiction
  | ok value => exact congrArg Except.ok (Option.some.inj found)

theorem httpProxy_server {crates : Crates} {config : ProxyConfig} {proxy : HttpProxy}
    (made : HttpProxy.new crates config = .ok proxy) :
    SocketAddr.fromStr config.server = .ok proxy.addr := by
  obtain ⟨addr, server, whole⟩ := bind_ok made
  cases whole
  exact server

theorem protocol_built {crates : Crates} {config : ProxyConfig} {protocol : Text}
    {element : Element} (built : protocolElement crates config protocol = some element) :
    ∃ proxy : Proxy, proxy.element = element ∧ proxy.protocol = protocol ∧
      SocketAddr.fromStr config.server = .ok proxy.server := by
  unfold protocolElement at built
  split_ifs at built with isHttp isSocks4 isSocks5
  · obtain ⟨proxy, made, same⟩ := Option.map_eq_some_iff.mp built
    exact ⟨.http proxy, same, isHttp.symm, httpProxy_server (toOption_some made)⟩
  · obtain ⟨proxy, made, same⟩ := Option.map_eq_some_iff.mp built
    exact ⟨.socks4 proxy, same, isSocks4.symm, (Socks4Proxy.new_ok (toOption_some made)).1⟩
  · obtain ⟨proxy, made, same⟩ := Option.map_eq_some_iff.mp built
    exact ⟨.socks5 proxy, same, isSocks5.symm, (Socks5Proxy.new_ok (toOption_some made)).1⟩

theorem proxy_built {crates : Crates} {config : ProxyConfig} {elements : List Element}
    (built : proxyElements crates config = some elements) :
    ∃ hop, Configures config hop ∧ elements = hop.elements := by
  obtain ⟨layers, pushed, built⟩ := Option.bind_eq_some_iff.mp built
  obtain ⟨element, protocol, same⟩ := Option.bind_eq_some_iff.mp built
  cases same
  obtain ⟨names, replicated⟩ := layers_built pushed
  obtain ⟨proxy, same, named, server⟩ := protocol_built protocol
  refine ⟨⟨_, proxy⟩, ⟨?_, server⟩, by rw [replicated, ← same]; rfl⟩
  have present := List.splitOn_ne_nil '+' config.protocol
  have last : (config.protocol.splitOn '+').getLastD [] =
      (config.protocol.splitOn '+').getLast present := by
    rw [List.getLastD_eq_getLast?, List.getLast?_eq_getLast_of_ne_nil present]
    rfl
  rw [← names, named, last]
  exact (List.dropLast_concat_getLast present).symm

/-- Typing in credentials changes neither the protocol nor the server. -/
theorem askCredentials_hop {config : ProxyConfig} {lines : List Text} {hop : Hop}
    (configures : Configures (askCredentials config lines).1 hop) : Configures config hop := by
  have same : (askCredentials config lines).1.protocol = config.protocol ∧
      (askCredentials config lines).1.server = config.server := by
    unfold askCredentials
    split
    · exact ⟨rfl, rfl⟩
    · dsimp only
      split
      · exact ⟨rfl, rfl⟩
      · exact ⟨rfl, rfl⟩
  exact ⟨same.1 ▸ configures.protocol, same.2 ▸ configures.server⟩

theorem proxies_built {crates : Crates} {configs : List ProxyConfig} {lines : List Text}
    {elements : List Element} (built : pushProxies crates configs lines = some elements) :
    ∃ hops, List.Forall₂ Configures configs hops ∧ elements = hops.flatMap Hop.elements := by
  induction configs generalizing lines elements with
  | nil =>
    cases built
    exact ⟨[], .nil, rfl⟩
  | cons config configs ih =>
    obtain ⟨first, here, built⟩ := Option.bind_eq_some_iff.mp built
    obtain ⟨rest, later, same⟩ := Option.bind_eq_some_iff.mp built
    obtain ⟨hop, configures, elementsOf⟩ := proxy_built here
    obtain ⟨hops, others, restOf⟩ := ih later
    cases same
    refine ⟨hop :: hops, .cons (askCredentials_hop configures) others, ?_⟩
    rw [elementsOf, restOf]
    rfl

/-- The stack of `main`, gone through from its end. -/
theorem stack_built {crates : Crates} {config : Config} {lines : List Text} {stack : List Element}
    (built : buildStack crates config lines = some stack) :
    ∃ hops, List.Forall₂ Configures (config.proxies.getD []) hops ∧ stack.reverse =
      (if fragmentsAll config then [Element.fragment] else []) ++ backwards hops := by
  obtain ⟨elements, pushed, same⟩ := Option.bind_eq_some_iff.mp built
  obtain ⟨hops, configures, shape⟩ := proxies_built pushed
  cases same
  refine ⟨hops, configures, ?_⟩
  rw [shape, backwards]
  split
  · simp
  · simp

/-- The addresses of the sockets opened in the course of some events. -/
def dialled (trace : Trace) : List Text :=
  trace.filterMap fun event => match event.operation with
    | .tcpConnect addr => some addr
    | _ => none

/-- An HTTP proxy on the loopback address, behind the fragmenting layer. -/
def loopbackProxy : Config where
  proxies := some [⟨"http".toList, some [], none, "127.0.0.1:8080".toList⟩]
  doh := none
  fragment := none

/-- An HTTP proxy over TLS whose credentials are typed in, and another one behind it. -/
def chainedProxies : Config where
  proxies := some [⟨"tls+http".toList, none, none, "127.0.0.1:8443".toList⟩,
    ⟨"http".toList, some [], none, "b.test:3128".toList⟩]
  doh := none
  fragment := none

def chainedLines : List Text := ["user\n".toList, "pass\n".toList]

def chainedFirst : HttpProxy := ⟨⟨.v4 ⟨127, 0, 0, 1⟩, 8443⟩, some "user:pass".toList⟩
def chainedLast : HttpProxy := ⟨⟨.domain "b.test".toList, 3128⟩, none⟩

/-- The stack of the two proxies, less its last element. -/
def chainedStack : List Element :=
  [.raw, .tlsClient, .httpProxy chainedFirst, .httpProxy chainedLast]

/-- What a client asks for a tunnel with. -/
def tunnelRequest : Request where
  method := .connect
  uri := ⟨none, visibleAuthority "a.test:443".toList, []⟩
  headers := []
  body := []

theorem chainedStack_built :
    buildStack Crates.plain chainedProxies chainedLines = some (chainedStack ++ [.fragment]) := by
  decide

end LocalProxy.MainStack
