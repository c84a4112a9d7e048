import LocalProxy.Outbound

/-! The state `main` sets up, the dispatch of a request over its stack of proxies, and
the DNS queries over HTTPS of `utils/dns.rs` with their cache. -/

namespace LocalProxy.Service
open Strings Addr Http Programs Program Network SendRequest Outbound

structure ProxyState where
  config : Config
  proxyStack : List Element
  deriving DecidableEq, Repr

/-- `trim_end_matches(['\r', '\n'])` -/
def trimLineEnd (line : Text) : Text :=
  (line.reverse.dropWhile fun c => c = Char.ofNat 13 || c = Char.ofNat 10).reverse

/-- The credentials a proxy is left with when those it lacks are typed in; `lines` is
what is still to be read. An empty user is none. -/
def askCredentials (proxy : ProxyConfig) (lines : List Text) : ProxyConfig × List Text :=
  match proxy.user with
  | some user => ({ proxy with user := if user.isEmpty then none else some user }, lines)
  | none =>
    let user := trimLineEnd (lines.headD [])
    let proxy := { proxy with user := if user.isEmpty then none else some user }
    match proxy.password with
    | some _ => (proxy, lines.tail)
    | none =>
      let password := trimLineEnd (lines.tail.headD [])
      ({ proxy with password := if password.isEmpty then none else some password },
        lines.tail.tail)

def layerElement (layer : Text) : Option Element :=
  if layer = "tls".toList then some .tlsClient else none

def protocolElement (crates : Crates) (proxy : ProxyConfig) (protocol : Text) : Option Element :=
  if protocol = http then (HttpProxy.new crates proxy).toOption.map .httpProxy
  else if protocol = "socks4".toList then (Socks4Proxy.new proxy).toOption.map .socks4Proxy
  else if protocol = "socks5".toList then (Socks5Proxy.new proxy).toOption.map .socks5Proxy
  else none

/-- The elements pushed for a proxy; none where `main` panics. -/
def proxyElements (crates : Crates) (proxy : ProxyConfig) : Option (List Element) := do
  let protocols := proxy.protocol.splitOn '+'
  let layers ← protocols.dropLast.mapM layerElement
  let protocol ← protocolElement crates proxy (protocols.getLastD [])
  return layers ++ [protocol]

def pushProxies (crates : Crates) : List ProxyConfig → List Text → Option (List Element)
  | [], _ => some []
  | proxy :: proxies, lines => do
    let elements ← proxyElements crates (askCredentials proxy lines).1
    let rest ← pushProxies crates proxies (askCredentials proxy lines).2
    return elements ++ rest

/-- `if let Some(2..) | None = config.fragment` -/
def fragmentsAll (config : Config) : Bool :=
  match config.fragment with
  | some fragment => 2 ≤ fragment
  | none => true

/-- The stack as `main` builds it. -/
def buildStack (crates : Crates) (config : Config) (lines : List Text) : Option (List Element) := do
  let proxies ← pushProxies crates (config.proxies.getD []) lines
  let last : List Element := if fragmentsAll config then [.fragment] else []
  return .raw :: proxies ++ last

/-- The stack `send_request` uses, in the order it is gone through. -/
def dispatch (state : ProxyState) (reqConf : RequestConfig) : ProxyStack :=
  let proxies := match reqConf.fragment with
    | some fragment =>
      if fragmentsAll state.config then
        if fragment then state.proxyStack else state.proxyStack.dropLast
      else if fragment then state.proxyStack ++ [Element.fragment]
      else state.proxyStack
    | none => state.proxyStack
  proxies.reverse

def sendRequest (crates : Crates) (resolve : Resolve) (state : ProxyState)
    (reqConf : RequestConfig) (request : Request) : Net Response := do
  let rewritten ← ofExcept (rewrite crates request)
  let httpProxy ← okOr (nextHttpProxy crates resolve state.config (dispatch state reqConf))
  httpProxy rewritten.1 reqConf rewritten.2

/-- The ID of a DNS message. -/
def messageId : Bytes → Except Error (UInt8 × UInt8)
  | first :: second :: _ => .ok (first, second)
  | _ => .error .empty

def setId (id : UInt8 × UInt8) : Bytes → Except Error Bytes
  | _ :: _ :: rest => .ok (id.1 :: id.2 :: rest)
  | _ => .error .empty

/-- The whole body, or its first error. -/
def collect : Body → Except Error Bytes
  | [] => .ok []
  | .error error :: _ => .error error
  | .ok (.data chunk) :: rest => (collect rest).map (chunk ++ ·)
  | .ok .trailers :: rest => collect rest

def dohRequest (crates : Crates) (doh : DoHConfig) (query : Bytes) : Except Error Request := do
  let endpoint ← orElse .other (crates.uriFromStr doh.endpoint)
  let value : HeaderValue := ⟨"application/dns-message".toList⟩
  return ⟨.post, endpoint, [("accept".toList, value), ("content-type".toList, value)],
    [.ok (.data query)]⟩

def dohRequestConfig (config : Config) (doh : DoHConfig) : RequestConfig where
  doh := false
  fakeHost := doh.fakeHost.map HostName.fromStr
  fragment := if config.fragment = some 1 then some true else none

/-- The body of the upstream's answer to a query. -/
def fetch (crates : Crates) (resolve : Resolve) (state : ProxyState) (query : Bytes) :
    Net Bytes := do
  let doh ← okOr state.config.doh
  let request ← ofExcept (dohRequest crates doh query)
  let response ← sendRequest crates resolve state (dohRequestConfig state.config doh) request
  ensure response.isSuccess
  ofExcept (collect response.body)

/-- The answer to a query with the ID `0xabcd`: from the cache, or fetched and cached. -/
def lookup (crates : Crates) (resolve : Resolve) (state : ProxyState) (query : Bytes) :
    Net Bytes := do
  let cached ← cacheGet query
  match cached with
  | some result => return result
  | none => do
    let result ← fetch crates resolve state query
    cacheInsert query result
    return result

def dohQuery (crates : Crates) (resolve : Resolve) (state : ProxyState) (query : Bytes) :
    Net Bytes := do
  let id ← ofExcept (messageId query)
  let query ← ofExcept (setId (0xab, 0xcd) query)
  let result ← lookup crates resolve state query
  ofExcept (setId id result)

/-- The first address among the answers of the Internet class. -/
def firstAddress : List Answer → Option HostName
  | [] => none
  | answer :: rest =>
    if answer.isIn then
      match answer.data with
      | .a addr => some (.v4 addr)
      | .aaaa addr => some (.ofIpv6 addr)
      | .other => firstAddress rest
    else firstAddress rest

/-- `HostName::dns_resolve`, over the queries it is given. -/
def resolveBy (crates : Crates) (query : Bytes → Net Bytes) : Resolve := fun hostname qtype =>
  match hostname with
  | .domain name =>
    match crates.newQuery name qtype with
    | .packet packet => do
      let result ← query packet
      let answers ← ofExcept (orElse .other (crates.parsePacket result))
      return firstAddress answers
    | .tooLong => .fail .empty
    | .panicked => panic
  | _ => .fail .empty

/-- `dns_resolve` with its calls of itself followed to a depth; those below are left
to whoever runs the program. -/
def resolveTo (crates : Crates) (state : ProxyState) : Nat → Resolve
  | 0 => dnsResolve
  | depth + 1 => resolveBy crates (dohQuery crates (resolveTo crates state depth) state)

end LocalProxy.Service
