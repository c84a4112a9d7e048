import LocalProxy.Forwarding
import LocalProxy.Socks4Request

/-! The chain of proxies from its front. The program goes through its stack from the end, each
element asking the next one; that is the same as connecting to the first proxy and then going
from each to the one behind it, over the stream that the ones before it have granted. -/

namespace LocalProxy.Journey
open Strings Addr Http Programs Program Network SendRequest Outbound Service Handshake Route
open MainStack SocksRequest

/-- The handshake of a proxy over a stream to it. -/
def tunnel (crates : Crates) (proxy : Proxy) (server : Connection) (addr : SocketAddr) :
    Net Connection :=
  match proxy with
  | .http proxy => proxy.tunnel crates server addr
  | .socks4 proxy => do
    let destination ← ofExcept (Socks4Proxy.destination addr.hostname)
    proxy.tunnel server addr.port destination
  | .socks5 proxy => proxy.tunnel server addr

/-- TLS over a stream, so many times. -/
def secureLayers (addr : SocketAddr) : Nat → Connection → Net Connection
  | 0, conn => .value conn
  | count + 1, conn => do
    let below ← secureLayers addr count conn
    TlsClient.wrap below addr

/-- From a stream that ends at a hop to one that ends at its goal. -/
def leg (crates : Crates) (conn : Connection) (pair : Hop × SocketAddr) : Net Connection := do
  let secured ← secureLayers pair.1.server pair.1.layers conn
  tunnel crates pair.1.proxy secured pair.2

def legs (crates : Crates) : Connection → List (Hop × SocketAddr) → Net Connection
  | conn, [] => .value conn
  | conn, pair :: rest => do
    let next ← leg crates conn pair
    legs crates next rest

/-- The protocol of the hop can name the goal. -/
def carries (pair : Hop × SocketAddr) : Bool :=
  match pair.1.proxy with
  | .socks4 _ => (Socks4Proxy.destination pair.2.hostname).toOption.isSome
  | _ => true

/-- The hops from the first to the last, each with the one behind it or the target. -/
def goals (hops : List Hop) (target : SocketAddr) : List (Hop × SocketAddr) :=
  hops.zip (asks hops target)

/-- The way to the target along the hops. A target that cannot be named is refused first. -/
def journey (crates : Crates) (hops : List Hop) (target : SocketAddr) : Net Connection := do
  ensure ((goals hops target).all carries)
  let first ← Raw.connect none (entry hops target)
  legs crates first (goals hops target)

section Stack

variable {crates : Crates} {proxies : ProxyStack} {addr : SocketAddr}

theorem reach_layers (count : Nat) :
    reach crates (List.replicate count .tlsClient ++ proxies) addr =
      reach crates proxies addr >>= secureLayers addr count := by
  induction count with
  | zero => exact (bind_value (reach crates proxies addr)).symm
  | succ count ih =>
    have layer : reach crates (List.replicate (count + 1) .tlsClient ++ proxies) addr =
        reach crates (List.replicate count .tlsClient ++ proxies) addr >>=
          fun server => TlsClient.wrap server addr := by
      simp only [reach, Program.bind_assoc]
      rfl
    rw [layer, ih, Program.bind_assoc]
    rfl

theorem destination_error {hostname : HostName} {error : Error}
    (refused : Socks4Proxy.destination hostname = .error error) : error = .empty := by
  unfold Socks4Proxy.destination at refused
  split at refused
  · split at refused
    · cases refused
      rfl
    · cases refused
  · cases refused
  · split at refused
    · cases refused
      rfl
    · cases refused

/-- A proxy asks for a connection to its server, and then its server for the address. -/
theorem reach_proxy (hop : Hop) : reach crates (hop.proxy.element :: proxies) addr =
    ensure (carries (hop, addr)) >>= fun _ => reach crates proxies hop.server >>=
      fun server => tunnel crates hop.proxy server addr := by
  obtain ⟨layers, proxy⟩ := hop
  cases proxy with
  | http proxy =>
    show _ = reach crates proxies proxy.addr >>= fun server => proxy.tunnel crates server addr
    simp only [reach, Program.bind_assoc]
    rfl
  | socks5 proxy =>
    show _ = reach crates proxies proxy.addr >>= fun server => proxy.tunnel server addr
    simp only [reach, Program.bind_assoc]
    rfl
  | socks4 proxy =>
    have asked : reach crates (.socks4Proxy proxy :: proxies) addr =
        ofExcept (Socks4Proxy.destination addr.hostname) >>= fun destination =>
          reach crates proxies proxy.addr >>= fun server =>
            proxy.tunnel server addr.port destination := by
      simp only [reach, Program.bind_assoc]
      rfl
    show reach crates (.socks4Proxy proxy :: proxies) addr = _
    rw [asked]
    cases known : Socks4Proxy.destination addr.hostname with
    | ok destination =>
      simp only [carries, tunnel, known]
      rfl
    | error error =>
      have empty := destination_error known
      subst empty
      simp only [carries, known]
      rfl

theorem legs_concat (conn : Connection) (pairs : List (Hop × SocketAddr))
    (pair : Hop × SocketAddr) : legs crates conn (pairs ++ [pair]) =
      legs crates conn pairs >>= fun last => leg crates last pair := by
  induction pairs generalizing conn with
  | nil => exact bind_value (leg crates conn pair)
  | cons first rest ih =>
    calc legs crates conn (first :: rest ++ [pair])
        = leg crates conn first >>= fun next => legs crates next (rest ++ [pair]) := rfl
      _ = leg crates conn first >>= fun next =>
          legs crates next rest >>= fun last => leg crates last pair := by
        congr 1
        funext next
        exact ih next
      _ = _ := (Program.bind_assoc _ _ _).symm

theorem ensure_and (first second : Bool) (program : Net Connection) :
    (ensure (first && second) >>= fun _ => program) =
      ensure second >>= fun _ => ensure first >>= fun _ => program := by
  cases first with
  | true =>
    cases second with
    | true => rfl
    | false => rfl
  | false =>
    cases second with
    | true => rfl
    | false => rfl

/-- Going through the stack from its end is going along the chain from its front. -/
theorem reach_journey (crates : Crates) (hops : List Hop) (target : SocketAddr) :
    reach crates (backwards hops) target = journey crates hops target := by
  induction hops using List.reverseRecOn generalizing target with
  | nil => exact (bind_value (Raw.connect none target)).symm
  | append_singleton hops hop ih =>
    have pairs : goals (hops ++ [hop]) target = goals hops hop.server ++ [(hop, target)] :=
      asks_concat hops hop target
    have layered : reach crates (List.replicate hop.layers .tlsClient ++ backwards hops)
        hop.server = journey crates hops hop.server >>= secureLayers hop.server hop.layers := by
      rw [reach_layers, ih]
    have whole : journey crates (hops ++ [hop]) target =
        ensure (carries (hop, target)) >>= fun _ => ensure ((goals hops hop.server).all carries) >>=
          fun _ => Raw.connect none (entry hops hop.server) >>= fun first =>
            legs crates first (goals hops hop.server) >>= fun last =>
              leg crates last (hop, target) := by
      simp only [journey, entry_concat, pairs, List.all_append, List.all_cons, List.all_nil,
        Bool.and_true, legs_concat, ensure_and]
    rw [backwards_concat, reach_proxy, layered, whole]
    simp only [journey, leg, Program.bind_assoc]

end Stack

/-- The constructor of the protocol has made the proxy of the configuration. -/
inductive Made (crates : Crates) (config : ProxyConfig) : Proxy → Prop where
  | http {proxy} (made : HttpProxy.new crates config = .ok proxy) : Made crates config (.http proxy)
  | socks4 {proxy} (made : Socks4Proxy.new config = .ok proxy) : Made crates config (.socks4 proxy)
  | socks5 {proxy} (made : Socks5Proxy.new config = .ok proxy) : Made crates config (.socks5 proxy)

/-- A hop with everything its configuration says, the credentials included. -/
structure Equips (crates : Crates) (config : ProxyConfig) (hop : Hop) : Prop where
  protocol : config.protocol.splitOn '+' =
    List.replicate hop.layers "tls".toList ++ [hop.proxy.protocol]
  made : Made crates config hop.proxy

/-- The configurations with the credentials that were typed in for them. -/
def equipped : List ProxyConfig → List Text → List ProxyConfig
  | [], _ => []
  | proxy :: proxies, lines =>
    (askCredentials proxy lines).1 :: equipped proxies (askCredentials proxy lines).2

theorem protocol_made {crates : Crates} {config : ProxyConfig} {protocol : Text}
    {element : Element} (built : protocolElement crates config protocol = some element) :
    ∃ proxy : Proxy, proxy.element = element ∧ proxy.protocol = protocol ∧
      Made crates config proxy := by
  unfold protocolElement at built
  split_ifs at built with isHttp isSocks4 isSocks5
  · obtain ⟨proxy, made, same⟩ := Option.map_eq_some_iff.mp built
    exact ⟨.http proxy, same, isHttp.symm, .http (toOption_some made)⟩
  · obtain ⟨proxy, made, same⟩ := Option.map_eq_some_iff.mp built
    exact ⟨.socks4 proxy, same, isSocks4.symm, .socks4 (toOption_some made)⟩
  · obtain ⟨proxy, made, same⟩ := Option.map_eq_some_iff.mp built
    exact ⟨.socks5 proxy, same, isSocks5.symm, .socks5 (toOption_some made)⟩

theorem proxy_equipped {crates : Crates} {config : ProxyConfig} {elements : List Element}
    (built : proxyElements crates config = some elements) :
    ∃ hop, Equips crates config hop ∧ elements = hop.elements := by
  obtain ⟨layers, pushed, built⟩ := Option.bind_eq_some_iff.mp built
  obtain ⟨element, protocol, same⟩ := Option.bind_eq_some_iff.mp built
  cases same
  obtain ⟨names, replicated⟩ := layers_built pushed
  obtain ⟨proxy, same, named, made⟩ := protocol_made protocol
  refine ⟨⟨_, proxy⟩, ⟨?_, made⟩, by rw [replicated, ← same]; rfl⟩
  have present := List.splitOn_ne_nil '+' config.protocol
  have last : (config.protocol.splitOn '+').getLastD [] =
      (config.protocol.splitOn '+').getLast present := by
    rw [List.getLastD_eq_getLast?, List.getLast?_eq_getLast_of_ne_nil present]
    rfl
  rw [← names, named, last]
  exact (List.dropLast_concat_getLast present).symm

theorem proxies_equipped {crates : Crates} {configs : List ProxyConfig} {lines : List Text}
    {elements : List Element} (built : pushProxies crates configs lines = some elements) :
    ∃ hops, List.Forall₂ (Equips crates) (equipped configs lines) hops ∧
      elements = hops.flatMap Hop.elements := by
  induction configs generalizing lines elements with
  | nil =>
    cases built
    exact ⟨[], .nil, rfl⟩
  | cons config configs ih =>
    obtain ⟨first, here, built⟩ := Option.bind_eq_some_iff.mp built
    obtain ⟨rest, later, same⟩ := Option.bind_eq_some_iff.mp built
    obtain ⟨hop, equips, elementsOf⟩ := proxy_equipped here
    obtain ⟨hops, others, restOf⟩ := ih later
    cases same
    refine ⟨hop :: hops, .cons equips others, ?_⟩
    rw [elementsOf, restOf]
    rfl

/-- The stack of `main` with the credentials of its proxies. -/
theorem stack_equipped {crates : Crates} {config : Config} {lines : List Text}
    {stack : List Element} (built : buildStack crates config lines = some stack) :
    ∃ hops, List.Forall₂ (Equips crates) (equipped (config.proxies.getD []) lines) hops ∧
      stack.reverse =
        (if fragmentsAll config then [Element.fragment] else []) ++ backwards hops := by
  obtain ⟨elements, pushed, same⟩ := Option.bind_eq_some_iff.mp built
  obtain ⟨hops, equips, shape⟩ := proxies_equipped pushed
  cases same
  refine ⟨hops, equips, ?_⟩
  rw [shape, backwards]
  split
  · simp
  · simp

/-- The stream that is handed to a client of the whole stack. -/
def wrapped (config : Config) (inner : Connection) : Connection :=
  if fragmentsAll config then .fragmentLayer inner else inner

theorem stack_journey (crates : Crates) (config : Config) (hops : List Hop)
    (target : SocketAddr) :
    reach crates ((if fragmentsAll config then [Element.fragment] else []) ++ backwards hops)
        target = journey crates hops target >>= fun inner => value (wrapped config inner) := by
  unfold wrapped
  cases fragmentsAll config with
  | true =>
    have layer : reach crates (Element.fragment :: backwards hops) target =
        reach crates (backwards hops) target >>= fun inner => value (.fragmentLayer inner) := by
      simp only [reach, Program.bind_assoc]
      rfl
    exact layer.trans (by rw [reach_journey]; rfl)
  | false => exact (reach_journey crates hops target).trans (bind_value _).symm

/-- Every connection over the stack of `main` is the way along the configured proxies, as a
program: with the same operations in the same order whatever they are answered. -/
theorem connect_journey {crates : Crates} {config : Config} {lines : List Text}
    {stack proxies : List Element} {first : Element}
    (built : buildStack crates config lines = some stack)
    (order : stack.reverse = first :: proxies) :
    ∃ hops, List.Forall₂ (Equips crates) (equipped (config.proxies.getD []) lines) hops ∧
      ∀ target, connect crates first proxies target =
        journey crates hops target >>= fun inner => value (wrapped config inner) := by
  obtain ⟨hops, equips, shape⟩ := stack_equipped built
  refine ⟨hops, equips, fun target => ?_⟩
  rw [order] at shape
  have reached : connect crates first proxies target = reach crates (first :: proxies) target := rfl
  rw [reached, shape]
  exact stack_journey crates config hops target

theorem connect_journey_chained : ∃ hops,
    List.Forall₂ (Equips Crates.plain)
      (equipped (chainedProxies.proxies.getD []) chainedLines) hops ∧
    ∀ target, connect Crates.plain .fragment chainedStack.reverse target =
      journey Crates.plain hops target >>= fun inner => value (wrapped chainedProxies inner) :=
  connect_journey chainedStack_built rfl

end LocalProxy.Journey
