import LocalProxy.Handshake
import Mathlib.Data.List.Basic
import Mathlib.Data.List.Forall2
import Mathlib.Data.List.Induction

/-! The route through a chain of proxies. The stack of `main` is gone through from its
end, each element asking the next one for a connection; what comes out is the chain in
its configured order, every proxy asked for the one behind it and the last for the
target. -/

namespace LocalProxy.Route
open StdNet (Ipv4Addr Ipv6Addr)
open Strings Addr Http Programs Program Network SendRequest Outbound Service Handshake

/-- A proxy by its protocol. -/
inductive Proxy where
  | http (proxy : HttpProxy)
  | socks4 (proxy : Socks4Proxy)
  | socks5 (proxy : Socks5Proxy)

def Proxy.server : Proxy → SocketAddr
  | .http proxy => proxy.addr
  | .socks4 proxy => proxy.addr
  | .socks5 proxy => proxy.addr

def Proxy.element : Proxy → Element
  | .http proxy => .httpProxy proxy
  | .socks4 proxy => .socks4Proxy proxy
  | .socks5 proxy => .socks5Proxy proxy

def Proxy.protocol : Proxy → Text
  | .http _ => "http".toList
  | .socks4 _ => "socks4".toList
  | .socks5 _ => "socks5".toList

/-- A proxy of the chain with the TLS layers in front of it. -/
structure Hop where
  layers : Nat
  proxy : Proxy

def Hop.server (hop : Hop) : SocketAddr := hop.proxy.server

/-- The configuration describes this hop. -/
structure Configures (config : ProxyConfig) (hop : Hop) : Prop where
  protocol : config.protocol.splitOn '+' =
    List.replicate hop.layers "tls".toList ++ [hop.proxy.protocol]
  server : SocketAddr.fromStr config.server = .ok hop.server

/-- TLS set up so many times over a stream, each time for this server name. -/
inductive Layered (name : Text) : Nat → Connection → Trace → Connection → Prop where
  | none (conn) : Layered name 0 conn [] conn
  | layer {count conn trace inner} (below : Layered name count conn trace inner) :
    Layered name (count + 1) conn (trace ++ [⟨.tlsConnect name inner, .ok ()⟩])
      (.tlsStream name inner)

/-- The handshake of a proxy over a stream, in which it is asked for the target. -/
inductive Asked (crates : Crates) (target : SocketAddr) (conn : Connection) :
    Proxy → Trace → Connection → Prop where
  | http {proxy request response} (method : request.method = .connect)
    (uri : crates.uriFromStr target.toText = some request.uri)
    (header : request.headers.get host = some ⟨target.toText⟩)
    (success : response.isSuccess = true) :
    Asked crates target conn (.http proxy) [⟨.handshake conn, .ok ()⟩,
      ⟨.sendRequest conn request, .ok response⟩, ⟨.upgrade conn, .ok ()⟩] (.upgraded conn)
  | socks4 {proxy destination trace}
    (encodable : Socks4Proxy.destination target.hostname = .ok destination)
    (speaks : ∀ event ∈ trace, Speaks conn event.operation)
    (request : written trace = socks4Request proxy target.port destination) :
    Asked crates target conn (.socks4 proxy) trace conn
  | socks5 {proxy method trace}
    (speaks : ∀ event ∈ trace, Speaks conn event.operation)
    (request : written trace = socks5Request proxy method target) :
    Asked crates target conn (.socks5 proxy) trace conn

/-- The hops in their order, each with what it is asked for: first the TLS layers for
its own server name, then the handshake, each over the stream that came before. -/
inductive Chain (crates : Crates) : Connection → List (Hop × SocketAddr) → Trace → Connection →
    Prop where
  | done (conn) : Chain crates conn [] [] conn
  | hop {conn hop target layers secured asked tunnelled rest after final}
    (layered : Layered hop.server.hostname.toText hop.layers conn layers secured)
    (handshake : Asked crates target secured hop.proxy asked tunnelled)
    (later : Chain crates tunnelled rest after final) :
    Chain crates conn ((hop, target) :: rest) (layers ++ asked ++ after) final

/-- Every hop is asked for the server of the next one, and the last for the target. -/
def asks (hops : List Hop) (target : SocketAddr) : List SocketAddr :=
  hops.tail.map Hop.server ++ [target]

/-- Where the TCP connection goes. -/
def entry (hops : List Hop) (target : SocketAddr) : SocketAddr :=
  match hops with
  | [] => target
  | hop :: _ => hop.server

theorem asks_concat (hops : List Hop) (hop : Hop) (target : SocketAddr) :
    (hops ++ [hop]).zip (asks (hops ++ [hop]) target) =
      hops.zip (asks hops hop.server) ++ [(hop, target)] := by
  cases hops with
  | nil => rfl
  | cons first rest =>
    have lengths : (first :: rest).length = (asks (first :: rest) hop.server).length := by
      simp [asks]
    calc (first :: rest ++ [hop]).zip (asks (first :: rest ++ [hop]) target)
        = (first :: rest ++ [hop]).zip (asks (first :: rest) hop.server ++ [target]) := by
          simp [asks]
      _ = (first :: rest).zip (asks (first :: rest) hop.server) ++ [hop].zip [target] :=
          List.zip_append lengths
      _ = _ := rfl

theorem entry_concat (hops : List Hop) (hop : Hop) (target : SocketAddr) :
    entry (hops ++ [hop]) target = entry hops hop.server := by
  cases hops with
  | nil => rfl
  | cons first rest => rfl

theorem Chain.concat {crates : Crates} {conn middle secured final : Connection}
    {pairs : List (Hop × SocketAddr)} {trace layers asked : Trace} {hop : Hop}
    {target : SocketAddr} (front : Chain crates conn pairs trace middle)
    (layered : Layered hop.server.hostname.toText hop.layers middle layers secured)
    (handshake : Asked crates target secured hop.proxy asked final) :
    Chain crates conn (pairs ++ [(hop, target)]) (trace ++ (layers ++ asked)) final := by
  induction front with
  | done conn =>
    have last := Chain.hop layered handshake (.done final)
    rw [List.append_nil] at last
    exact last
  | @hop conn first goal before inner exchanged outer rest after _ one two _ ih =>
    have joined := Chain.hop one two (ih layered)
    simpa only [List.append_assoc, List.cons_append] using joined

/-- Two events open the socket. -/
def opening (addr : SocketAddr) (socket : Nat) : Trace :=
  [⟨.tcpConnect addr.toText, .ok socket⟩, ⟨.setNodelay (.tcpStream socket), .ok ()⟩]

/-- A run that opens one socket and goes along the chain to the target. -/
def Routed (crates : Crates) (hops : List Hop) (target : SocketAddr) (trace : Trace)
    (conn : Connection) : Prop :=
  ∃ socket rest, trace = opening (entry hops target) socket ++ rest ∧
    Chain crates (.tcpStream socket) (hops.zip (asks hops target)) rest conn

theorem raw_routed {crates : Crates} {target : SocketAddr} {trace : Trace} {conn : Connection}
    (success : Returns (Raw.connect none target) trace conn) :
    Routed crates [] target trace conn := by
  obtain ⟨answer, first, split, success⟩ := returns_ask.mp success
  obtain ⟨socket, connected, success⟩ := returns_ofExcept_bind.mp success
  obtain ⟨answer', second, split', success⟩ := returns_ask.mp success
  obtain ⟨_, nodelay, success⟩ := returns_ofExcept_bind.mp success
  obtain ⟨empty, same⟩ := returns_value.mp success
  refine ⟨socket, [], ?_, ?_⟩
  · rw [split, split', empty, connected, nodelay]
    rfl
  · rw [← same]
    exact .done _

/-- The next element of the stack is asked for a connection. -/
def reach (crates : Crates) (proxies : ProxyStack) (addr : SocketAddr) : Net Connection := do
  let connect ← okOr (nextConnect crates proxies)
  connect addr

/-- TLS layers over the rest of a stack. -/
theorem layers_layered {crates : Crates} {layers : Nat} {proxies : ProxyStack}
    {addr : SocketAddr} {trace : Trace} {conn : Connection}
    (success : Returns (reach crates (List.replicate layers .tlsClient ++ proxies) addr) trace
      conn) :
    ∃ inner before after, trace = before ++ after ∧
      Returns (reach crates proxies addr) before inner ∧
      Layered addr.hostname.toText layers inner after conn := by
  induction layers generalizing trace conn with
  | zero => exact ⟨conn, trace, [], by simp, success, .none conn⟩
  | succ count ih =>
    have layer : Returns (reach crates (List.replicate count .tlsClient ++ proxies) addr >>=
        fun server => TlsClient.wrap server addr) trace conn := by
      rw [reach, Program.bind_assoc]
      exact success
    obtain ⟨below, before, after, split, reached, wrapped⟩ := returns_bind.mp layer
    obtain ⟨inner, first, second, whole, started, layered⟩ := ih reached
    obtain ⟨answer, rest, shape, wrapped⟩ := returns_ask.mp wrapped
    obtain ⟨_, ok, wrapped⟩ := returns_ofExcept_bind.mp wrapped
    obtain ⟨nothing, same⟩ := returns_value.mp wrapped
    have events : after = [⟨.tlsConnect addr.hostname.toText below, .ok ()⟩] := by
      rw [shape, nothing, ok]
    refine ⟨inner, first, second ++ after, ?_, started, ?_⟩
    · rw [split, whole, List.append_assoc]
    · rw [← same, events]
      exact .layer layered

/-- A connection of an HTTP proxy: the `CONNECT` exchange over what the stack gave. -/
theorem http_asked {crates : Crates} {proxy : HttpProxy} {server conn : Connection}
    {addr : SocketAddr} {trace : Trace}
    (success : Returns (proxy.tunnel crates server addr) trace conn) :
    Asked crates addr server (.http proxy) trace conn := by
  obtain ⟨shaken, first, one, success⟩ := returns_ask.mp success
  obtain ⟨_, shook, success⟩ := returns_ofExcept_bind.mp success
  obtain ⟨request, built, success⟩ := returns_ofExcept_bind.mp success
  obtain ⟨answered, second, two, success⟩ := returns_ask.mp success
  obtain ⟨response, answer, success⟩ := returns_ofExcept_bind.mp success
  obtain ⟨accepted, success⟩ := returns_ensure_bind.mp success
  obtain ⟨upgraded, third, three, success⟩ := returns_ask.mp success
  obtain ⟨_, taken, success⟩ := returns_ofExcept_bind.mp success
  obtain ⟨empty, same⟩ := returns_value.mp success
  obtain ⟨method, uri, header⟩ := request_shape built
  rw [one, two, three, empty, shook, answer, taken, ← same]
  exact .http method uri header accepted

theorem socks4_asked {crates : Crates} {proxy : Socks4Proxy} {server conn : Connection}
    {addr : SocketAddr} {destination : Ipv4Addr × Option Text} {trace : Trace}
    (encodable : Socks4Proxy.destination addr.hostname = .ok destination)
    (success : Returns (proxy.tunnel server addr.port destination) trace conn) :
    Asked crates addr server (.socks4 proxy) trace conn := by
  have writes : Writes server (proxy.tunnel server addr.port destination) _ :=
    socks4_writes proxy addr.port destination
  obtain ⟨same, said⟩ := writes.out trace conn success
  rw [same]
  exact .socks4 encodable (writes.uses.steps success).1 said

theorem socks5_asked {crates : Crates} {proxy : Socks5Proxy} {server conn : Connection}
    {addr : SocketAddr} {trace : Trace} (success : Returns (proxy.tunnel server addr) trace conn) :
    Asked crates addr server (.socks5 proxy) trace conn := by
  have writes : Writes server (proxy.tunnel server addr) _ := socks5_writes proxy addr
  obtain ⟨same, method, said⟩ := writes.out trace conn success
  rw [same]
  exact .socks5 (writes.uses.steps success).1 said

/-- A proxy over the rest of a stack: its server is reached first, then it is asked. -/
theorem proxy_asked {crates : Crates} {proxy : Proxy} {proxies : ProxyStack} {addr : SocketAddr}
    {trace : Trace} {conn : Connection}
    (success : Returns (reach crates (proxy.element :: proxies) addr) trace conn) :
    ∃ server before after, trace = before ++ after ∧
      Returns (reach crates proxies proxy.server) before server ∧
      Asked crates addr server proxy after conn := by
  cases proxy with
  | http proxy =>
    have steps : Returns (reach crates proxies proxy.addr >>= fun server =>
        proxy.tunnel crates server addr) trace conn := by
      rw [reach, Program.bind_assoc]
      exact success
    obtain ⟨server, before, after, split, reached, asked⟩ := returns_bind.mp steps
    exact ⟨server, before, after, split, reached, http_asked asked⟩
  | socks4 proxy =>
    obtain ⟨destination, encodable, rest⟩ := returns_ofExcept_bind.mp success
    have steps : Returns (reach crates proxies proxy.addr >>= fun server =>
        proxy.tunnel server addr.port destination) trace conn := by
      rw [reach, Program.bind_assoc]
      exact rest
    obtain ⟨server, before, after, split, reached, asked⟩ := returns_bind.mp steps
    exact ⟨server, before, after, split, reached, socks4_asked encodable asked⟩
  | socks5 proxy =>
    have steps : Returns (reach crates proxies proxy.addr >>= fun server =>
        proxy.tunnel server addr) trace conn := by
      rw [reach, Program.bind_assoc]
      exact success
    obtain ⟨server, before, after, split, reached, asked⟩ := returns_bind.mp steps
    exact ⟨server, before, after, split, reached, socks5_asked asked⟩

/-- The elements pushed for a hop. -/
def Hop.elements (hop : Hop) : List Element :=
  List.replicate hop.layers .tlsClient ++ [hop.proxy.element]

/-- The hops as they are gone through, from the end of the stack. -/
def backwards (hops : List Hop) : ProxyStack :=
  (Element.raw :: hops.flatMap Hop.elements).reverse

theorem backwards_concat (hops : List Hop) (hop : Hop) :
    backwards (hops ++ [hop]) =
      hop.proxy.element :: (List.replicate hop.layers .tlsClient ++ backwards hops) := by
  simp [backwards, Hop.elements, List.flatMap_append]

/-- The stack of the hops routes along them. -/
theorem backwards_routed {crates : Crates} {hops : List Hop} {target : SocketAddr} {trace : Trace}
    {conn : Connection} (success : Returns (reach crates (backwards hops) target) trace conn) :
    Routed crates hops target trace conn := by
  induction hops using List.reverseRecOn generalizing target trace conn with
  | nil => exact raw_routed success
  | append_singleton hops hop ih =>
    rw [backwards_concat] at success
    obtain ⟨server, before, asked, split, reached, handshake⟩ := proxy_asked success
    obtain ⟨inner, first, layers, whole, started, layered⟩ := layers_layered reached
    obtain ⟨socket, rest, opened, chain⟩ := ih started
    refine ⟨socket, rest ++ (layers ++ asked), ?_, ?_⟩
    · rw [entry_concat, split, whole, opened]
      simp [List.append_assoc]
      rfl
    · rw [asks_concat]
      exact chain.concat layered handshake

end LocalProxy.Route
