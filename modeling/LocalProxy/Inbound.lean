import LocalProxy.Service

/-! The ways in: what `inbound/http/connect.rs` and `inbound/tproxy.rs` connect a client
to, what `inbound/http/mod.rs` responds to a request, and how `inbound/dns.rs` answers a
datagram. -/

namespace LocalProxy.Inbound
open Strings Addr Http Programs Program Network Outbound Service

/-- The target of a `CONNECT` request. -/
def connectTarget (request : Request) : Except Error SocketAddr :=
  SocketAddr.fromStr request.uri.toText

/-- The connection that `connect::run` relays the client to. -/
def connectRun (crates : Crates) (resolve : Resolve) (state : ProxyState) (request : Request) :
    Net Connection := do
  let server ← ofExcept (connectTarget request)
  match state.proxyStack.reverse with
  | [] => .fail .empty
  | proxy :: proxies => happyEyeballs crates resolve state.config proxy proxies server

/-- `ERROR_HTML`, line by line. -/
def errorHtml : List String := [
  "<!DOCTYPE html>",
  "",
  "<html lang=\"en\">",
  "",
  "<head>",
  "    <meta charset=\"utf-8\" />",
  "    <meta name=\"viewport\" content=\"width=device-width,initial-scale=1\" />",
  "    <title>502 Bad Gateway</title>",
  "</head>",
  "",
  "<body>",
  "    <center>",
  "        <h1>502 Bad Gateway</h1>",
  "        <hr />",
  "        <a target=\"_blank\" rel=\"noopener noreferrer\" " ++
    "href=\"https://github.com/WinLinux1028/local_proxy_rs\">",
  "            local_proxy_rs",
  "        </a>",
  "    </center>",
  "</body>",
  "",
  "</html>"]

def connection : Text := "connection".toList
def keepAlive : Text := "keep-alive".toList

/-- `http_proxy::run` -/
def httpProxyRun (crates : Crates) (resolve : Resolve) (state : ProxyState) (request : Request) :
    Net Response :=
  sendRequest crates resolve state .new request

/-- The response to a `CONNECT` request, whose connection is relayed by a task of its own. -/
def connectResponse (crates : Crates) (resolve : Resolve) (state : ProxyState)
    (request : Request) : Net Response := do
  let _ ← connectRun crates resolve state request
  return ⟨200, [], []⟩

/-- The response of the upstream as `handle` changes it. -/
def Response.keptAlive (response : Response) : Response :=
  { response with
    headers := (response.headers.insert connection ⟨keepAlive⟩).remove keepAlive }

/-- The response to a request that could not be served. -/
def badGateway : Response where
  status := 502
  headers := [(connection, ⟨keepAlive⟩),
    ("content-type".toList, ⟨"text/html; charset=utf-8".toList⟩)]
  body := [.ok (.data (asBytes ("\n".intercalate errorHtml).toList))]

def handle (crates : Crates) (resolve : Resolve) (state : ProxyState) (request : Request) :
    Net Response := do
  let response ← attempt (if request.method = .connect then
      connectResponse crates resolve state request
    else do
      let response ← httpProxyRun crates resolve state request
      return Response.keptAlive response)
  match response with
  | .ok response => return response
  | .error _ => return badGateway

/-- The connection that `tproxy::run` relays a redirected client to. -/
def tproxyRun (crates : Crates) (state : ProxyState) (destination : StdNet.SocketAddr) :
    Net Connection :=
  match state.proxyStack.reverse with
  | [] => .fail .empty
  | proxy :: proxies => connect crates proxy proxies (.ofStd destination)

/-- What is copied through a tunnel: bytes of the client, or so many of the server. -/
inductive Traffic where
  | client (bytes : Bytes)
  | server (count : Nat)
  deriving DecidableEq, Repr

/-- `copy_bidirectional`, as far as the stream to the server goes. -/
def copyBidirectional (serverConn : Connection) : List Traffic → Net Unit
  | [] => .value ()
  | .client bytes :: rest => do
    writeAll serverConn bytes
    copyBidirectional serverConn rest
  | .server count :: rest => do
    let _ ← readExact serverConn count
    copyBidirectional serverConn rest

/-- `run` of `inbound/dns.rs`: the answer goes through the channel to the sender. -/
def dnsRun (crates : Crates) (resolve : Resolve) (state : ProxyState) (buf : Bytes)
    (source : StdNet.SocketAddr) : Net Unit := do
  let result ← dohQuery crates resolve state buf
  channelSend result source

end LocalProxy.Inbound
