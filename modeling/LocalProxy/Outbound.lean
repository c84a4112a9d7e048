import LocalProxy.Network
import LocalProxy.Select
import LocalProxy.SendRequest

/-! The ways out of `outbound/`: what a connection through the stack of proxies and
layers asks for, how a name is raced over both address families, and how a request
is sent over the stack. -/

namespace LocalProxy.Outbound
open StdNet (Ipv4Addr Ipv6Addr)
open Strings Addr Http Programs Program Network SendRequest

structure ProxyConfig where
  protocol : Text
  user : Option Text
  password : Option Text
  server : Text
  deriving DecidableEq, Repr

structure DoHConfig where
  endpoint : Text
  fakeHost : Option Text
  deriving DecidableEq, Repr

structure Config where
  proxies : Option (List ProxyConfig)
  doh : Option DoHConfig
  fragment : Option UInt8
  deriving DecidableEq, Repr

structure RequestConfig where
  doh : Bool
  fakeHost : Option HostName
  fragment : Option Bool
  deriving DecidableEq, Repr

def RequestConfig.new : RequestConfig := ⟨true, none, none⟩

structure HttpProxy where
  addr : SocketAddr
  auth : Option Text
  deriving DecidableEq, Repr

structure Socks4Proxy where
  addr : SocketAddr
  auth : Option Text
  deriving DecidableEq, Repr

structure Socks5Proxy where
  addr : SocketAddr
  user : Text
  password : Text
  deriving DecidableEq, Repr

/-- The implementations of `ProxyOutBound`. -/
inductive Element where
  | raw
  | tlsClient
  | fragment
  | httpProxy (proxy : HttpProxy)
  | socks4Proxy (proxy : Socks4Proxy)
  | socks5Proxy (proxy : Socks5Proxy)
  deriving DecidableEq, Repr

/-- `ProxyStack`: the elements still to come. Copying it copies its position. -/
abbrev ProxyStack := List Element

abbrev Connect := SocketAddr → Net Connection

def nul : Char := Char.ofNat 0

def HttpProxy.new (crates : Crates) (conf : ProxyConfig) : Except Error HttpProxy := do
  let auth := conf.user.getD [] ++ ':' :: conf.password.getD []
  let auth := if (asBytes auth).length > 1 then some (crates.base64 auth) else none
  let addr ← SocketAddr.fromStr conf.server
  return ⟨addr, auth⟩

def Socks4Proxy.new (conf : ProxyConfig) : Except Error Socks4Proxy := do
  let auth := conf.user.getD [] ++
    (match conf.password with
      | some password => ':' :: password
      | none => [])
  if nul ∈ auth then .error .empty
  else do
    let addr ← SocketAddr.fromStr conf.server
    return ⟨addr, if auth.isEmpty then none else some auth⟩

def Socks5Proxy.new (conf : ProxyConfig) : Except Error Socks5Proxy := do
  let user := conf.user.getD []
  let password := conf.password.getD []
  if (asBytes user).length > 255 then .error .empty
  else if (asBytes password).length > 255 then .error .empty
  else do
    let addr ← SocketAddr.fromStr conf.server
    return ⟨addr, user, password⟩

/-- What `new` has made sure of. -/
theorem Socks4Proxy.new_ok {conf : ProxyConfig} {self : Socks4Proxy}
    (made : Socks4Proxy.new conf = .ok self) : SocketAddr.fromStr conf.server = .ok self.addr ∧
      ∃ auth, auth = conf.user.getD [] ++
        (match conf.password with
          | some password => ':' :: password
          | none => []) ∧
      nul ∉ auth ∧ self.auth = if auth.isEmpty then none else some auth := by
  unfold Socks4Proxy.new at made
  extract_lets auth at made
  split at made
  · contradiction
  · obtain ⟨addr, server, same⟩ := bind_ok made
    cases same
    exact ⟨server, auth, rfl, by assumption, rfl⟩

theorem Socks5Proxy.new_ok {conf : ProxyConfig} {self : Socks5Proxy}
    (made : Socks5Proxy.new conf = .ok self) : SocketAddr.fromStr conf.server = .ok self.addr ∧
      self.user = conf.user.getD [] ∧ self.password = conf.password.getD [] ∧
      (asBytes self.user).length ≤ 255 ∧ (asBytes self.password).length ≤ 255 := by
  unfold Socks5Proxy.new at made
  extract_lets user password at made
  split_ifs at made with long longer
  obtain ⟨addr, server, same⟩ := bind_ok made
  cases same
  exact ⟨server, rfl, rfl, Nat.not_lt.mp long, Nat.not_lt.mp longer⟩

def Raw.connect (next : Option Connect) (addr : SocketAddr) : Net Connection :=
  match next with
  | some connect => connect addr
  | none => do
    let socket ← tcpConnect addr.toText
    setNodelay (.tcpStream socket)
    return .tcpStream socket

def TlsClient.wrap (stream : Connection) (addr : SocketAddr) : Net Connection := do
  tlsConnect addr.hostname.toText stream
  return .tlsStream addr.hostname.toText stream

def Fragment.wrap (stream : Connection) (_ : SocketAddr) : Net Connection :=
  return .fragmentLayer stream

def Layer.connect (wrap : Connection → SocketAddr → Net Connection) (next : Option Connect)
    (addr : SocketAddr) : Net Connection := do
  let connect ← okOr next
  let server ← connect addr
  wrap server addr

/-- The headers with the credentials of the proxy added by `add`. -/
def HttpProxy.authorized (self : HttpProxy) (add : HeaderMap → Text → HeaderValue → HeaderMap)
    (headers : HeaderMap) : Except Error HeaderMap :=
  match self.auth with
  | some auth => do
    let value ← HeaderValue.fromStr ("Basic ".toList ++ auth)
    return add headers "proxy-authorization".toList value
  | none => return headers

/-- Nothing but the credentials is added. -/
theorem HttpProxy.authorized_ok {self : HttpProxy}
    {add : HeaderMap → Text → HeaderValue → HeaderMap} {headers result : HeaderMap}
    (made : self.authorized add headers = .ok result) :
    result = headers ∨ ∃ value, result = add headers "proxy-authorization".toList value := by
  unfold HttpProxy.authorized at made
  split at made
  · obtain ⟨value, _, same⟩ := bind_ok made
    cases same
    exact .inr ⟨value, rfl⟩
  · cases made
    exact .inl rfl

/-- The `CONNECT` request for the address. -/
def HttpProxy.request (crates : Crates) (self : HttpProxy) (addr : SocketAddr) :
    Except Error Request := do
  let uri ← orElse .other (crates.uriFromStr addr.toText)
  let value ← HeaderValue.fromStr addr.toText
  let headers : HeaderMap := [(host, value), ("connection".toList, ⟨"keep-alive".toList⟩),
    ("proxy-connection".toList, ⟨"keep-alive".toList⟩)]
  let headers ← self.authorized HeaderMap.append headers
  return ⟨.connect, uri, headers, []⟩

/-- The exchange with the HTTP proxy at the other end of the stream. -/
def HttpProxy.tunnel (crates : Crates) (self : HttpProxy) (server : Connection)
    (addr : SocketAddr) : Net Connection := do
  handshake server
  let request ← ofExcept (self.request crates addr)
  let response ← sendRequest server request
  ensure response.isSuccess
  upgrade server
  return .upgraded server

def HttpProxy.connect (crates : Crates) (self : HttpProxy) (next : Option Connect)
    (addr : SocketAddr) : Net Connection := do
  let connect ← okOr next
  let server ← connect self.addr
  self.tunnel crates server addr

/-- The address and the host name that a SOCKS4 request carries, where it can. -/
def Socks4Proxy.destination (hostname : HostName) : Except Error (Ipv4Addr × Option Text) :=
  match hostname with
  | .v4 addr =>
    if addr.a = 0 ∧ addr.b = 0 ∧ addr.c = 0 ∧ addr.d ≠ 0 then .error .empty else .ok (addr, none)
  | .v6 addr => .ok (⟨0, 0, 0, 1⟩, some addr.toText)
  | .domain name =>
    if nul ∈ name then .error .empty else .ok (⟨0, 0, 0, 1⟩, some name)

def Socks4Proxy.writeAuth (server : Connection) : Option Text → Net Unit
  | some auth => writeAll server (asBytes auth)
  | none => .value ()

def Socks4Proxy.writeHostname (server : Connection) : Option Text → Net Unit
  | some hostname => do
    writeAll server (asBytes hostname)
    writeAll server [0]
  | none => .value ()

def Socks4Proxy.readReply (server : Connection) : Net Unit := do
  let version ← readU8 server
  ensure (version = 0)
  let status ← readU8 server
  ensure (status = 90)
  let _ ← readExact server 6
  return ()

/-- The exchange with the SOCKS4 proxy at the other end of the stream. -/
def Socks4Proxy.tunnel (self : Socks4Proxy) (server : Connection) (port : UInt16)
    (destination : Ipv4Addr × Option Text) : Net Connection := do
  writeAll server [4, 1]
  writeAll server (u16ToBeBytes port)
  writeAll server destination.1.octets
  Socks4Proxy.writeAuth server self.auth
  writeAll server [0]
  Socks4Proxy.writeHostname server destination.2
  flush server
  Socks4Proxy.readReply server
  return server

def Socks4Proxy.connect (self : Socks4Proxy) (next : Option Connect) (addr : SocketAddr) :
    Net Connection := do
  let destination ← ofExcept (Socks4Proxy.destination addr.hostname)
  let connect ← okOr next
  let server ← connect self.addr
  self.tunnel server addr.port destination

/-- The authentication by user name and password. -/
def Socks5Proxy.authenticate (self : Socks5Proxy) (server : Connection) : Net Unit := do
  let length ← ofExcept (u8TryFrom (asBytes self.user).length)
  writeAll server [1, length]
  writeAll server (asBytes self.user)
  let length ← ofExcept (u8TryFrom (asBytes self.password).length)
  writeAll server [length]
  writeAll server (asBytes self.password)
  flush server
  let version ← readU8 server
  ensure (version = 1)
  let status ← readU8 server
  ensure (status = 0)

def Socks5Proxy.negotiate (self : Socks5Proxy) (server : Connection) (method : UInt8) : Net Unit :=
  if method = 0 then .value ()
  else if method = 2 then self.authenticate server
  else .fail .empty

def Socks5Proxy.writeHost (server : Connection) : HostName → Net Unit
  | .v4 addr => do
    writeAll server [1]
    writeAll server addr.octets
  | .v6 addr => do
    writeAll server [4]
    writeAll server addr.octets
  | .domain name => do
    let length ← ofExcept (u8TryFrom (asBytes name).length)
    writeAll server [3, length]
    writeAll server (asBytes name)

/-- The address the proxy reports to be bound, which is read and dropped. -/
def Socks5Proxy.skipBound (server : Connection) (kind : UInt8) : Net Unit :=
  if kind = 1 then do
    let _ ← readExact server 4
    return ()
  else if kind = 3 then do
    let length ← readU8 server
    let _ ← readExact server length.toNat
    return ()
  else if kind = 4 then do
    let _ ← readExact server 16
    return ()
  else .fail .empty

def Socks5Proxy.readReply (server : Connection) : Net Unit := do
  let version ← readU8 server
  ensure (version = 5)
  let status ← readU8 server
  ensure (status = 0)
  let reserved ← readU8 server
  ensure (reserved = 0)
  let kind ← readU8 server
  Socks5Proxy.skipBound server kind
  let _ ← readExact server 2
  return ()

/-- The request for the address, once the proxy and the client agree on a method. -/
def Socks5Proxy.request (server : Connection) (addr : SocketAddr) : Net Connection := do
  writeAll server [5, 1, 0]
  Socks5Proxy.writeHost server addr.hostname
  writeAll server (u16ToBeBytes addr.port)
  flush server
  Socks5Proxy.readReply server
  return server

/-- The exchange with the SOCKS5 proxy at the other end of the stream. -/
def Socks5Proxy.tunnel (self : Socks5Proxy) (server : Connection) (addr : SocketAddr) :
    Net Connection := do
  writeAll server [5, 2, 0, 2]
  flush server
  let version ← readU8 server
  ensure (version = 5)
  let method ← readU8 server
  self.negotiate server method
  Socks5Proxy.request server addr

def Socks5Proxy.connect (self : Socks5Proxy) (next : Option Connect) (addr : SocketAddr) :
    Net Connection := do
  let connect ← okOr next
  let server ← connect self.addr
  self.tunnel server addr

def Element.connect (crates : Crates) (self : Element) (next : Option Connect) : Connect :=
  match self with
  | .raw => Raw.connect next
  | .tlsClient => Layer.connect TlsClient.wrap next
  | .fragment => Layer.connect Fragment.wrap next
  | .httpProxy proxy => proxy.connect crates next
  | .socks4Proxy proxy => proxy.connect next
  | .socks5Proxy proxy => proxy.connect next

/-- `proxies.next()`, with the `connect` of that element over the rest. -/
def nextConnect (crates : Crates) : ProxyStack → Option Connect
  | [] => none
  | proxy :: proxies => some (proxy.connect crates (nextConnect crates proxies))

/-- `self.connect(proxies, addr)` -/
def connect (crates : Crates) (self : Element) (proxies : ProxyStack) : Connect :=
  self.connect crates (nextConnect crates proxies)

/-- `dns_resolve`, which the code below takes as it is given. -/
abbrev Resolve := HostName → QueryType → Net (Option HostName)

/-- One branch of `happy_eyeballs`. It ends without a match with the value that its
`doh_failed` flag has then. -/
def branch (resolve : Resolve) (connect : Connect) (addr : SocketAddr) (qtype : QueryType) :
    Net (Except Bool Connection) := do
  let resolved ← attempt (resolve addr.hostname qtype)
  match resolved with
  | .error _ => return .error true
  | .ok ip => do
    let connected ← attempt (do
      let ip ← okOr ip
      connect ⟨ip, addr.port⟩)
    match connected with
    | .ok conn => return .ok conn
    | .error _ => return .error false

def warnIf (dohFailed : Bool) : Net Unit := if dohFailed then warn else .value ()

def happyEyeballs (crates : Crates) (resolve : Resolve) (config : Config) (self : Element)
    (proxies : ProxyStack) (addr : SocketAddr) : Net Connection :=
  if config.doh.isNone || addr.hostname.isIpaddr then connect crates self proxies addr
  else
    Select.select
      (fun dohFailedV6 dohFailedV4 => do
        warnIf (dohFailedV6 || dohFailedV4)
        connect crates self proxies addr)
      (branch resolve (connect crates self proxies) addr .aaaa)
      (branch resolve (connect crates self proxies) addr .a)

/-- The port of a request for the scheme that names this one, or none. -/
def portOr (scheme : Text) (port : Option UInt16) : Except Error UInt16 :=
  match port with
  | some port => .ok port
  | none =>
    if scheme = http then .ok 80
    else if scheme = https then .ok 443
    else .error .empty

/-- The address a request is for, as `http_proxy_` reads it from the `Host` header. -/
def hostAddr (scheme : Text) (request : Request) : Except Error SocketAddr := do
  let value ← orElse .empty (request.headers.get host)
  let text ← value.toStr
  let (hostname, port) ← SocketAddr.parseHostHeader text
  let port ← portOr scheme port
  return ⟨hostname, port⟩

/-- A switch of protocols is relayed by a task of its own. -/
def relayUpgrade (server : Connection) (response : Response) : Net Unit :=
  if response.status = 101 then proxyUpgrade server else .value ()

/-- The request and its response, and the tunnel of a switch of protocols. -/
def exchange (server : Connection) (request : Request) : Net Response := do
  handshake server
  let response ← sendRequest server request
  relayUpgrade server response
  return response

/-- The connection `http_proxy_` sends the request over. -/
def dial (crates : Crates) (resolve : Resolve) (config : Config) (self : Element)
    (proxies : ProxyStack) (reqConf : RequestConfig) (addr : SocketAddr) : Net Connection :=
  if reqConf.doh then happyEyeballs crates resolve config self proxies addr
  else connect crates self proxies addr

def secure (scheme : Text) (server : Connection) (addr : SocketAddr) : Net Connection :=
  if scheme = https then TlsClient.wrap server addr else .value server

/-- `http_proxy_`, the default of `http_proxy`. -/
def httpProxyDefault (crates : Crates) (resolve : Resolve) (config : Config) (self : Element)
    (proxies : ProxyStack) (scheme : Text) (reqConf : RequestConfig) (request : Request) :
    Net Response := do
  let addr ← ofExcept (hostAddr scheme request)
  let fakeAddr : SocketAddr := ⟨reqConf.fakeHost.getD addr.hostname, addr.port⟩
  let server ← dial crates resolve config self proxies reqConf fakeAddr
  let server ← secure scheme server addr
  exchange server request

/-- The request with its absolute URI, as an HTTP proxy is sent it. -/
def HttpProxy.absolute (crates : Crates) (self : HttpProxy) (scheme : Text) (request : Request) :
    Except Error Request := do
  let value ← orElse .empty (request.headers.get host)
  let authority ← value.toStr
  let pathAndQuery ← orElse .empty request.uri.pathAndQuery
  let uri ← Uri.build crates (some scheme) (some authority) (some pathAndQuery)
  let headers ← self.authorized HeaderMap.insert request.headers
  return { request with uri := uri, headers := headers }

theorem HttpProxy.absolute_ok {crates : Crates} {self : HttpProxy} {scheme : Text}
    {request sent : Request} (made : self.absolute crates scheme request = .ok sent) :
    ∃ value authority pathAndQuery uri headers, request.headers.get host = some value ∧
      value.toStr = .ok authority ∧
      Uri.build crates (some scheme) (some authority) (some pathAndQuery) = .ok uri ∧
      self.authorized HeaderMap.insert request.headers = .ok headers ∧
      sent = { request with uri := uri, headers := headers } := by
  obtain ⟨value, got, rest⟩ := bind_ok made
  obtain ⟨authority, read, rest⟩ := bind_ok rest
  obtain ⟨pathAndQuery, _, rest⟩ := bind_ok rest
  obtain ⟨uri, built, rest⟩ := bind_ok rest
  obtain ⟨headers, authorized, same⟩ := bind_ok rest
  cases same
  exact ⟨value, authority, pathAndQuery, uri, headers, orElse_ok got, read, built, authorized, rfl⟩

abbrev Proxying := Text → RequestConfig → Request → Net Response

/-- `HttpProxy::http_proxy` for the scheme `http`. -/
def HttpProxy.forward (crates : Crates) (self : HttpProxy) (next : Option Connect)
    (scheme : Text) (request : Request) : Net Response := do
  let connect ← okOr next
  let server ← connect self.addr
  handshake server
  let request ← ofExcept (self.absolute crates scheme request)
  let response ← sendRequest server request
  relayUpgrade server response
  return response

/-- `proxies.next()`, with the `http_proxy` of that element over the rest. -/
def nextHttpProxy (crates : Crates) (resolve : Resolve) (config : Config) :
    ProxyStack → Option Proxying
  | [] => none
  | proxy :: proxies => some fun scheme reqConf request =>
    match proxy with
    | .httpProxy self =>
      if scheme = http then self.forward crates (nextConnect crates proxies) scheme request
      else httpProxyDefault crates resolve config proxy proxies scheme reqConf request
    | .fragment =>
      -- The only layer with `is_http_passthrough`.
      if scheme = http then do
        let httpProxy ← okOr (nextHttpProxy crates resolve config proxies)
        httpProxy scheme reqConf request
      else httpProxyDefault crates resolve config proxy proxies scheme reqConf request
    | _ => httpProxyDefault crates resolve config proxy proxies scheme reqConf request

end LocalProxy.Outbound
