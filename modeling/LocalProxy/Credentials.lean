import LocalProxy.Forwarding

/-! The `Basic` credentials that leave the program, for an HTTP proxy and for the server
of a URI with user information, and what the other end makes of them. -/

namespace LocalProxy.Credentials
open Strings Addr Http Network SendRequest Outbound HostHeader Forwarding

def basic : Text := "Basic ".toList

/-- A user and a password in one text. -/
def joined (user password : Text) : Text := user ++ ':' :: password

/-- What RFC 7617 has read from a value: the user ends at the first colon. -/
def readBasic (decode : Text → Option Text) (value : HeaderValue) : Option (Text × Text) :=
  if basic.isPrefixOf value.text then
    (decode (value.text.drop basic.length)).bind (splitOnce ':')
  else none

/-- The other end knows the user and the password; no header stands for empty ones. -/
def Faithful (decode : Text → Option Text) (user password : Text) : Option HeaderValue → Prop
  | some value => readBasic decode value = some (user, password)
  | none => user = [] ∧ password = []

instance (decode : Text → Option Text) (user password : Text) :
    DecidablePred (Faithful decode user password)
  | some _ => inferInstanceAs (Decidable (_ = _))
  | none => inferInstanceAs (Decidable (_ ∧ _))

/-- The header that is made of a user and a password, with the empty text for an absent
one: for an HTTP proxy as it is configured, in its `CONNECT` requests and in the ones it
forwards, and for the server of an absolute URI with user information, when the client has
no such header. -/
inductive Presents (crates : Crates) : Text → Text → Option HeaderValue → Prop where
  | configured {conf self} (made : HttpProxy.new crates conf = .ok self) :
    Presents crates (conf.user.getD []) (conf.password.getD []) (credentials (some self)).head?
  | connect {conf self addr sent} (made : HttpProxy.new crates conf = .ok self)
    (asked : self.request crates addr = .ok sent) :
    Presents crates (conf.user.getD []) (conf.password.getD [])
      (sent.headers.get proxyAuthorization)
  | forward {conf self request scheme rewritten sent}
    (made : HttpProxy.new crates conf = .ok self)
    (accepted : rewrite crates request = .ok (scheme, rewritten))
    (absolute : self.absolute crates scheme rewritten = .ok sent) :
    Presents crates (conf.user.getD []) (conf.password.getD [])
      (sent.headers.get proxyAuthorization)
  | origin {request scheme rewritten uri user}
    (accepted : rewrite crates request = .ok (scheme, rewritten))
    (parsed : ParsedUri.ofUri crates request.uri = .ok uri)
    (absolute : uri.scheme.isSome = true) (given : uri.user = some user)
    (own : request.headers.get authorization = none) :
    Presents crates user (uri.password.getD []) (rewritten.headers.get authorization)

theorem splitOnce_joined {user password : Text} :
    splitOnce ':' (joined user password) = some (user, password) ↔ ':' ∉ user := by
  constructor
  · intro split
    exact (splitOnce_some split).2
  · intro absent
    exact splitOnce_append password absent

theorem asBytes_joined (user password : Text) :
    (asBytes (joined user password)).length > 1 ↔ ¬ (user = [] ∧ password = []) := by
  have visible : ∀ (c : Char) (rest : Text), 0 < (asBytes (c :: rest)).length := by
    intro c rest
    have size := c.utf8Size_pos
    simp only [asBytes, List.flatMap_cons, List.length_append, String.length_utf8EncodeChar]
    omega
  have parts : (asBytes (joined user password)).length =
      (asBytes user).length + (1 + (asBytes password).length) := by
    have colon : (String.utf8EncodeChar ':').length = 1 := by decide
    simp only [asBytes, joined, List.flatMap_append, List.flatMap_cons, List.length_append, colon]
  rw [parts]
  cases user with
  | cons c rest =>
    have some := visible c rest
    simp
    omega
  | nil =>
    cases password with
    | nil => simp [asBytes]
    | cons c rest =>
      have some := visible c rest
      simp
      omega

/-- The configuration of an HTTP proxy leaves credentials, unless both parts are empty. -/
theorem new_auth {crates : Crates} {conf : ProxyConfig} {self : HttpProxy}
    (made : HttpProxy.new crates conf = .ok self) :
    self.auth = if conf.user.getD [] = [] ∧ conf.password.getD [] = [] then none
      else some (crates.base64 (joined (conf.user.getD []) (conf.password.getD []))) := by
  obtain ⟨addr, _, same⟩ := bind_ok made
  cases same
  have many := asBytes_joined (conf.user.getD []) (conf.password.getD [])
  by_cases both : conf.user.getD [] = [] ∧ conf.password.getD [] = []
  · rw [if_pos both]
    exact if_neg fun long => many.mp long both
  · rw [if_neg both]
    exact if_pos (many.mpr both)

theorem request_credentials {crates : Crates} {self : HttpProxy} {addr : SocketAddr}
    {sent : Request} (asked : self.request crates addr = .ok sent) :
    getAll sent.headers proxyAuthorization = credentials (some self) := by
  obtain ⟨uri, _, rest⟩ := bind_ok asked
  obtain ⟨value, _, rest⟩ := bind_ok rest
  obtain ⟨headers, authorized, same⟩ := bind_ok rest
  cases same
  unfold HttpProxy.authorized at authorized
  cases auth : self.auth with
  | none =>
    rw [auth] at authorized
    cases authorized
    simp only [credentials, auth]
    rfl
  | some auth' =>
    rw [auth] at authorized
    obtain ⟨login, made, same⟩ := bind_ok authorized
    cases same
    have text := HeaderValue.fromStr_ok made
    simp only [HeaderMap.append, getAll_append, credentials, auth, Option.map_some,
      Option.toList_some, ← text]
    rfl

section Sent

variable {crates : Crates} {request rewritten : Request} {scheme user : Text} {uri : ParsedUri}

theorem rewrite_authorization (accepted : rewrite crates request = .ok (scheme, rewritten))
    (parsed : ParsedUri.ofUri crates request.uri = .ok uri) (absolute : uri.scheme.isSome = true)
    (given : uri.user = some user) (own : request.headers.get authorization = none) :
    rewritten.headers.get authorization =
      some ⟨basic ++ crates.base64 (joined user (uri.password.getD []))⟩ := by
  obtain ⟨_, headers, _, _, _, read, _, _, _, _, same⟩ := rewrite_ok accepted
  have login : headers.get authorization =
      some ⟨basic ++ crates.base64 (joined user (uri.password.getD []))⟩ := by
    obtain ⟨known, ofUri, carried | relative⟩ := target_ok read
    · obtain ⟨_, _, _, _, authorized⟩ := carried
      rw [parsed] at ofUri
      cases ofUri
      rcases authorize_cases authorized with ⟨_, nobody⟩ | ⟨_, user', given', inserted⟩
      · rw [nobody own] at given
        cases given
      · rw [given] at given'
        cases given'
        rw [inserted]
        exact get_insert request.headers authorization _
    · rw [parsed] at ofUri
      cases ofUri
      rw [relative.1] at absolute
      cases absolute
  rw [same, get_getAll, getAll_insert, if_neg (by decide), getAll_removeProxyHeaders,
    if_neg (by decide), getAll_rewriteTe _ (by decide), ← get_getAll, login]

/-- Every header is made of the joined parts, or left out for empty ones. -/
theorem Presents.value {password : Text} {sent : Option HeaderValue}
    (presents : Presents crates user password sent) :
    sent = some ⟨basic ++ crates.base64 (joined user password)⟩ ∨
      sent = none ∧ user = [] ∧ password = [] := by
  have configured : ∀ {conf : ProxyConfig} {self : HttpProxy},
      HttpProxy.new crates conf = .ok self → (credentials (some self)).head? =
          some ⟨basic ++ crates.base64 (joined (conf.user.getD []) (conf.password.getD []))⟩ ∨
        (credentials (some self)).head? = none ∧ conf.user.getD [] = [] ∧
          conf.password.getD [] = [] := by
    intro conf self made
    rw [credentials, new_auth made]
    by_cases both : conf.user.getD [] = [] ∧ conf.password.getD [] = []
    · rw [if_pos both]
      exact .inr ⟨rfl, both⟩
    · rw [if_neg both]
      exact .inl rfl
  cases presents with
  | configured made => exact configured made
  | connect made asked =>
    rw [get_getAll, request_credentials asked]
    exact configured made
  | forward made accepted absolute =>
    have own := (absolute_forwarded accepted absolute).proxied proxyAuthorization (by decide)
    rw [get_getAll, own, if_pos rfl]
    exact configured made
  | origin accepted parsed absolute given own =>
    exact .inl (rewrite_authorization accepted parsed absolute given own)

end Sent

/-- A user and a password arrive as they are exactly if the user has no colon, and no
others arrive as the same. -/
theorem presents_faithful {crates : Crates} {decode : Text → Option Text}
    (undoes : ∀ text, decode (crates.base64 text) = some text) {user password : Text}
    {sent : Option HeaderValue} (presents : Presents crates user password sent) :
    (Faithful decode user password sent ↔ ':' ∉ user) ∧
    (sent = none → user = [] ∧ password = []) ∧
    (':' ∉ user → ∀ other secret, ':' ∉ other → Presents crates other secret sent →
      other = user ∧ secret = password) := by
  have read : ∀ {user password : Text},
      readBasic decode ⟨basic ++ crates.base64 (joined user password)⟩ =
        splitOnce ':' (joined user password) := by
    intro user password
    rw [readBasic, if_pos (by simp), List.drop_left, undoes]
    rfl
  have faithful : ∀ {user password : Text} {sent : Option HeaderValue},
      Presents crates user password sent →
        (Faithful decode user password sent ↔ ':' ∉ user) := by
    intro user password sent presents
    rcases presents.value with written | ⟨omitted, nobody, nothing⟩
    · rw [written, Faithful, read, splitOnce_joined]
    · rw [omitted, nobody, nothing]
      simp [Faithful]
  refine ⟨faithful presents, ?_, ?_⟩
  · intro omitted
    rcases presents.value with written | ⟨_, both⟩
    · rw [omitted] at written
      cases written
    · exact both
  · intro absent other secret plain presents'
    have one := (faithful presents).mpr absent
    have two := (faithful presents').mpr plain
    cases sent with
    | none => exact ⟨two.1.trans one.1.symm, two.2.trans one.2.symm⟩
    | some value =>
      have same := two.symm.trans one
      cases same
      exact ⟨rfl, rfl⟩

def account : Text := "a:b:c".toList

/-- The base64 form of one text; every other is marked with a character that has no place
in base64. -/
def encode (text : Text) : Text :=
  if text = account then "YTpiOmM=".toList else '_' :: text

def decode : Text → Option Text
  | '_' :: text => some text
  | text => if text = "YTpiOmM=".toList then some account else none

theorem decode_encode (text : Text) : decode (encode text) = some text := by
  unfold encode
  by_cases same : text = account
  · rw [if_pos same, same]
    decide
  · rw [if_neg same]
    rfl

/-- Libraries for texts with no escape but one. -/
def escaping : Crates :=
  { Crates.plain with
    base64 := encode
    percentDecode := fun text =>
      if text = "a%3Ab".toList then some "a:b".toList else some text }

def proxyConfig (user password : Text) : ProxyConfig :=
  ⟨"http".toList, some user, some password, "proxy.test:80".toList⟩

/-- `GET http://userinfo@server.test/` -/
def loginRequest (userinfo : Text) : Request where
  method := .other "GET".toList
  uri := ⟨some http, visibleAuthority (userinfo ++ "@server.test".toList), ['/']⟩
  headers := []
  body := []

/-- What either configuration with this account makes. -/
def accountProxy : HttpProxy := ⟨⟨.domain "proxy.test".toList, 80⟩, some (encode account)⟩

theorem presents_faithful_secret :
    HttpProxy.new escaping (proxyConfig "a".toList "b:c".toList) = .ok accountProxy ∧
      Faithful decode "a".toList "b:c".toList (credentials (some accountProxy)).head? := by
  have made : HttpProxy.new escaping (proxyConfig "a".toList "b:c".toList) = .ok accountProxy := rfl
  exact ⟨made, (presents_faithful decode_encode (.configured made)).1.mpr (by decide)⟩

/-- A colon in the user is accepted, escaped in a URI too, and another user takes its
place. -/
theorem colon_confused :
    (HttpProxy.new escaping (proxyConfig "a:b".toList "c".toList) = .ok accountProxy ∧
      HttpProxy.new escaping (proxyConfig "a".toList "b:c".toList) = .ok accountProxy ∧
      ¬ Faithful decode "a:b".toList "c".toList (credentials (some accountProxy)).head?) ∧
    ∃ uri rewritten, ParsedUri.ofUri escaping (loginRequest "a%3Ab:c".toList).uri = .ok uri ∧
      uri.user = some "a:b".toList ∧ uri.password = some "c".toList ∧
      rewrite escaping (loginRequest "a%3Ab:c".toList) = .ok (http, rewritten) ∧
      ¬ Faithful decode "a:b".toList "c".toList (rewritten.headers.get authorization) :=
  ⟨⟨rfl, rfl, by decide⟩, _, _, rfl, rfl, rfl, rfl, by decide⟩

end LocalProxy.Credentials
