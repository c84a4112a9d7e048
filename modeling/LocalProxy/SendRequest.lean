import LocalProxy.Http

/-! The rewriting that `send_request` of `inbound/http/http_proxy.rs` does before a
request leaves, with the URIs of `utils/uri_parse.rs` it works on. -/

namespace LocalProxy.SendRequest
open Strings Addr Http

structure ParsedUri where
  scheme : Option Text
  user : Option Text
  password : Option Text
  hostname : Option HostName
  port : Option UInt16
  path : Text
  query : Option Text
  deriving DecidableEq, Repr

structure ParsedAuthority where
  user : Option Text
  password : Option Text
  hostname : Option HostName
  port : Option UInt16

/-- The user and password of the text in front of the last `@`. -/
def parseUserinfo (crates : Crates) (auth : Text) : Except Error (Option Text × Option Text) :=
  match splitOnce ':' auth with
  | some (user, password) => do
    let user ← orElse .other (crates.percentDecode user)
    let password ← orElse .other (crates.percentDecode password)
    return (some user, some password)
  | none => do
    let user ← orElse .other (crates.percentDecode auth)
    return (some user, none)

def parseHost (userinfo : Option Text × Option Text) (host : Text) :
    Except Error ParsedAuthority := do
  let (hostname, port) ← SocketAddr.parseHostHeader host
  return ⟨userinfo.1, userinfo.2, some hostname, port⟩

def parseAuthority (crates : Crates) : Option Authority → Except Error ParsedAuthority
  | none => return ⟨none, none, none, none⟩
  | some authority =>
    match rsplitOnce '@' authority.text with
    | some (auth, host) => do
      let userinfo ← parseUserinfo crates auth
      parseHost userinfo host
    | none => parseHost (none, none) authority.text

/-- `TryFrom<Uri> for ParsedUri`. -/
def ParsedUri.ofUri (crates : Crates) (value : Uri) : Except Error ParsedUri := do
  let authority ← parseAuthority crates value.authority
  return {
    scheme := value.scheme
    user := authority.user
    password := authority.password
    hostname := authority.hostname
    port := authority.port
    path := if value.path.isEmpty then ['/'] else value.path
    query := value.query.filter fun query => !query.isEmpty }

/-- `TryInto<Uri> for ParsedUri`. -/
def ParsedUri.toUri (crates : Crates) (uri : ParsedUri) : Except Error Uri :=
  let userinfo := match uri.user with
    | some user => crates.percentEncode user ++
      (match uri.password with
        | some password => ':' :: crates.percentEncode password
        | none => []) ++ ['@']
    | none => []
  let authority := uri.hostname.map fun hostname => userinfo ++ hostname.toStringUrlStyle ++
    (match uri.port with
      | some port => ':' :: printPort port
      | none => [])
  let pathAndQuery := uri.path ++
    (match uri.query with
      | some query => '?' :: query
      | none => [])
  Uri.build crates uri.scheme authority (some pathAndQuery)

def http : Text := "http".toList
def https : Text := "https".toList
def host : Text := "host".toList

/-- The `Basic` credentials taken over from an absolute URI. -/
def authorize (crates : Crates) (uri : ParsedUri) (headers : HeaderMap) : Except Error HeaderMap :=
  match headers.get "authorization".toList, uri.user with
  | none, some user => do
    let auth ← HeaderValue.fromStr ("Basic ".toList ++ crates.base64 (user ++ ':' ::
      (match uri.password with
        | some password => password
        | none => [])))
    return headers.insert "authorization".toList auth
  | _, _ => return headers

/-- What the request is for: its URI with a scheme and a host, and its headers. -/
def target (crates : Crates) (request : Request) : Except Error (ParsedUri × HeaderMap) := do
  let uri ← ParsedUri.ofUri crates request.uri
  match uri.scheme with
  | some scheme =>
    if scheme = http ∨ scheme = https then do
      let headers ← authorize crates uri request.headers
      return (uri, headers)
    else .error .empty
  | none => do
    let value ← orElse .empty (request.headers.get host)
    let text ← value.toStr
    let (hostname, port) ← SocketAddr.parseHostHeader text
    return ({ uri with scheme := some http, hostname := some hostname, port := port },
      request.headers)

def trim (s : Text) : Text :=
  ((s.dropWhile Char.isWhitespace).reverse.dropWhile Char.isWhitespace).reverse

/-- Whether `trailers` is among the codings of a `te` value. -/
def acceptsTrailers (value : Text) : Bool :=
  (value.splitOn ',').any fun coding => trim ((coding.splitOn ';').headD coding) = "trailers".toList

def rewriteTe (headers : HeaderMap) : HeaderMap :=
  match headers.get "te".toList with
  | some value => match value.toStr with
    | .ok value =>
      if acceptsTrailers value then headers.insert "te".toList ⟨"trailers".toList⟩
      else headers.remove "te".toList
    | .error _ => headers.remove "te".toList
  | none => headers.remove "te".toList

def removeProxyHeaders (headers : HeaderMap) : HeaderMap :=
  (headers.keys.filter fun name => "proxy-".toList.isPrefixOf name).foldl HeaderMap.remove headers

def defaultPort (scheme : Text) (port : UInt16) : Bool :=
  (scheme = http && port = 80) || (scheme = https && port = 443)

/-- The value of the `Host` header: a port that is the default of the scheme is left out. -/
def hostHeader (scheme : Text) (hostname : HostName) (port : Option UInt16) : Text :=
  match port with
  | some port =>
    if defaultPort scheme port then hostname.toStringUrlStyle
    else hostname.toStringUrlStyle ++ ':' :: printPort port
  | none => hostname.toStringUrlStyle

/-- The first part of `send_request`: the scheme, and the request to send on. -/
def rewrite (crates : Crates) (request : Request) : Except Error (Text × Request) := do
  let (uri, headers) ← target crates request
  let headers := removeProxyHeaders (rewriteTe headers)
  let scheme ← orElse .empty uri.scheme
  let hostname ← orElse .empty uri.hostname
  let value ← HeaderValue.fromStr (hostHeader scheme hostname uri.port)
  let headers := headers.insert host value
  let uri ← ParsedUri.toUri crates
    { uri with scheme := none, user := none, password := none, hostname := none, port := none }
  return (scheme, { request with uri := uri, headers := headers })

section Accepted

variable {crates : Crates} {request rewritten : Request} {scheme : Text} {uri : ParsedUri}
  {headers : HeaderMap}

theorem ofUri_scheme {value : Uri} (read : ParsedUri.ofUri crates value = .ok uri) :
    uri.scheme = value.scheme := by
  obtain ⟨authority, _, same⟩ := bind_ok read
  cases same
  rfl

/-- The target is the one of an absolute URI, or the one the `Host` header names. -/
theorem target_ok (read : target crates request = .ok (uri, headers)) :
    ∃ parsed, ParsedUri.ofUri crates request.uri = .ok parsed ∧
      ((∃ scheme, parsed.scheme = some scheme ∧ (scheme = http ∨ scheme = https) ∧
        uri = parsed ∧ authorize crates parsed request.headers = .ok headers) ∨
      (parsed.scheme = none ∧ headers = request.headers ∧ ∃ value text hostname port,
        request.headers.get host = some value ∧ value.toStr = .ok text ∧
        SocketAddr.parseHostHeader text = .ok (hostname, port) ∧
        uri = { parsed with scheme := some http, hostname := some hostname, port := port })) := by
  obtain ⟨parsed, ofUri, rest⟩ := bind_ok read
  refine ⟨parsed, ofUri, ?_⟩
  split at rest
  next scheme absolute =>
    split at rest
    next known =>
      obtain ⟨headers, authorized, same⟩ := bind_ok rest
      cases same
      exact .inl ⟨scheme, absolute, known, rfl, authorized⟩
    next => contradiction
  next relative =>
    obtain ⟨value, got, rest⟩ := bind_ok rest
    obtain ⟨text, toStr, rest⟩ := bind_ok rest
    obtain ⟨⟨hostname, port⟩, named, same⟩ := bind_ok rest
    cases same
    exact .inr ⟨relative, rfl, value, text, hostname, port, orElse_ok got, toStr, named, rfl⟩

/-- What `send_request` has made sure of when it sends a request on, and what it sends. -/
theorem rewrite_ok (accepted : rewrite crates request = .ok (scheme, rewritten)) :
    ∃ uri headers hostname value origin, target crates request = .ok (uri, headers) ∧
      uri.scheme = some scheme ∧ uri.hostname = some hostname ∧
      HeaderValue.fromStr (hostHeader scheme hostname uri.port) = .ok value ∧
      ParsedUri.toUri crates { uri with
        scheme := none, user := none, password := none, hostname := none, port := none } =
          .ok origin ∧
      rewritten = { request with
        uri := origin
        headers := (removeProxyHeaders (rewriteTe headers)).insert host value } := by
  obtain ⟨⟨uri, headers⟩, parsed, rest⟩ := bind_ok accepted
  obtain ⟨named, schemeOk, rest⟩ := bind_ok rest
  obtain ⟨hostname, hostOk, rest⟩ := bind_ok rest
  obtain ⟨value, valueOk, rest⟩ := bind_ok rest
  obtain ⟨origin, built, same⟩ := bind_ok rest
  cases same
  exact ⟨uri, headers, hostname, value, origin, parsed, orElse_ok schemeOk, orElse_ok hostOk,
    valueOk, built, rfl⟩

end Accepted

end LocalProxy.SendRequest
