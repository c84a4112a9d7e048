import LocalProxy.FakeHost
import LocalProxy.Upgrades
import Mathlib.Data.List.Dedup

/-! The request that leaves for a client's: which of its headers are the client's, which
the program's own, and that no header meant for this proxy goes any further. -/

namespace LocalProxy.Forwarding
open StdNet (Ipv4Addr Ipv6Addr)
open Strings Addr Http Programs Program Network Select SendRequest Outbound Service Inbound Calls
  Resolution HostHeader FakeHost

/-- `HeaderMap::get_all` -/
def getAll (headers : HeaderMap) (name : Text) : List HeaderValue :=
  (headers.filter fun header => header.1 = name).map Prod.snd

section Headers

variable (headers : HeaderMap) (name other : Text) (value : HeaderValue)

theorem get_getAll : headers.get name = (getAll headers name).head? := by
  rw [HeaderMap.get, getAll, List.head?_map, List.head?_filter]

theorem getAll_remove : getAll (headers.remove name) other =
    if other = name then [] else getAll headers other := by
  unfold getAll HeaderMap.remove
  rw [List.filter_filter]
  by_cases same : other = name
  · rw [if_pos same, List.map_eq_nil_iff, List.filter_eq_nil_iff]
    intro header _
    simp [same]
  · rw [if_neg same]
    congr 2
    funext header
    by_cases named : header.1 = other
    · simp [named, same]
    · simp [named]

theorem getAll_append : getAll (headers ++ [(name, value)]) other =
    getAll headers other ++ if other = name then [value] else [] := by
  unfold getAll
  rw [List.filter_append, List.map_append]
  congr 1
  by_cases same : other = name
  · simp [same]
  · simp [same, Ne.symm same]

theorem getAll_insert : getAll (headers.insert name value) other =
    if other = name then [value] else getAll headers other := by
  rw [HeaderMap.insert, getAll_append, getAll_remove]
  by_cases same : other = name
  · simp [same]
  · simp [same]

theorem getAll_removeAll (names : List Text) (headers : HeaderMap) :
    getAll (names.foldl HeaderMap.remove headers) other =
      if other ∈ names then [] else getAll headers other := by
  induction names generalizing headers with
  | nil => rfl
  | cons first names ih =>
    rw [List.foldl_cons, ih, getAll_remove]
    by_cases later : other ∈ names
    · simp [later]
    · simp [later]

theorem mem_keys : name ∈ headers.keys ↔ getAll headers name ≠ [] := by
  rw [HeaderMap.keys, List.mem_dedup, List.mem_map, getAll, ne_eq, List.map_eq_nil_iff,
    List.filter_eq_nil_iff]
  simp

end Headers

def te : Text := "te".toList
def authorization : Text := "authorization".toList
def proxyAuthorization : Text := "proxy-authorization".toList

/-- The names of the headers that are meant for a proxy. -/
def IsProxy (name : Text) : Prop := "proxy-".toList.isPrefixOf name = true

instance : DecidablePred IsProxy := fun _ => inferInstanceAs (Decidable (_ = true))

theorem getAll_removeProxyHeaders (headers : HeaderMap) (name : Text) :
    getAll (removeProxyHeaders headers) name =
      if IsProxy name then [] else getAll headers name := by
  unfold removeProxyHeaders
  rw [getAll_removeAll]
  have listed : name ∈ (headers.keys.filter fun name => "proxy-".toList.isPrefixOf name) ↔
      getAll headers name ≠ [] ∧ IsProxy name := by
    rw [List.mem_filter, mem_keys]
    rfl
  by_cases meant : IsProxy name
  · by_cases absent : getAll headers name = []
    · rw [if_neg fun found => (listed.mp found).1 absent, if_pos meant, absent]
    · rw [if_pos (listed.mpr ⟨absent, meant⟩), if_pos meant]
  · rw [if_neg fun found => meant (listed.mp found).2, if_neg meant]

/-- The codings a client accepts are reduced to `trailers`, or dropped. -/
theorem rewriteTe_cases (headers : HeaderMap) : rewriteTe headers = headers.remove te ∨
    rewriteTe headers = headers.insert te ⟨"trailers".toList⟩ := by
  unfold rewriteTe
  split
  · split
    · split
      · exact .inr rfl
      · exact .inl rfl
    · exact .inl rfl
  · exact .inl rfl

theorem getAll_rewriteTe (headers : HeaderMap) {name : Text} (other : name ≠ te) :
    getAll (rewriteTe headers) name = getAll headers name := by
  rcases rewriteTe_cases headers with removed | inserted
  · rw [removed, getAll_remove, if_neg other]
  · rw [inserted, getAll_insert, if_neg other]

theorem getAll_te (headers : HeaderMap) : getAll (rewriteTe headers) te = [] ∨
    getAll (rewriteTe headers) te = [⟨"trailers".toList⟩] := by
  rcases rewriteTe_cases headers with removed | inserted
  · rw [removed, getAll_remove, if_pos rfl]
    exact .inl rfl
  · rw [inserted, getAll_insert, if_pos rfl]
    exact .inr rfl

/-- An absolute-form URI with user information. -/
def CarriesUser (uri : Uri) : Prop :=
  uri.scheme.isSome = true ∧ ∃ authority, uri.authority = some authority ∧ '@' ∈ authority.text

theorem at_chars : AddressChars fun c => c ≠ '@' where
  v4 := fun addr c member same => absent_ipv4 addr (by decide) (by decide) (same ▸ member)
  v6 := fun addr plain c member same =>
    StdNet.absent_ipv6 addr plain (by decide) (by decide) (same ▸ member)
  number := fun n c member same => absent_printUnsigned n (by decide) (same ▸ member)
  colon := by decide
  opening := by decide
  closing := by decide

section Target

variable {crates : Crates} {request : Request} {uri : ParsedUri} {headers : HeaderMap}

/-- The host comes from behind the last `@`, and a user only from in front of one. -/
theorem parseAuthority_at {authority : Option Authority} {parsed : ParsedAuthority}
    (read : parseAuthority crates authority = .ok parsed) :
    (∀ hostname, parsed.hostname = some hostname → '@' ∉ hostname.toStringUrlStyle) ∧
      (parsed.user ≠ none → ∃ known, authority = some known ∧ '@' ∈ known.text) := by
  have behind : ∀ {userinfo : Option Text × Option Text} {text : Text}, '@' ∉ text →
      parseHost userinfo text = .ok parsed → parsed.user = userinfo.1 ∧
        ∀ hostname, parsed.hostname = some hostname → '@' ∉ hostname.toStringUrlStyle := by
    intro userinfo text absent read
    obtain ⟨⟨name, port⟩, host, same⟩ := bind_ok read
    cases same
    refine ⟨rfl, fun hostname present => ?_⟩
    cases present
    have all := (at_chars.parseHostHeader (fun c member same => absent (same ▸ member)) host).2
    exact fun member => all '@' member rfl
  cases authority with
  | none =>
    cases read
    constructor
    · intro hostname present
      cases present
    · intro user
      exact absurd rfl user
  | some authority =>
    simp only [parseAuthority] at read
    split at read
    next auth host split =>
      obtain ⟨whole, absent⟩ := rsplitOnce_some split
      obtain ⟨userinfo, _, rest⟩ := bind_ok read
      refine ⟨(behind absent rest).2, fun _ => ⟨authority, rfl, ?_⟩⟩
      rw [whole]
      simp
    next split =>
      obtain ⟨user, hosts⟩ := behind (rsplitOnce_none.mp split) read
      exact ⟨hosts, fun some => absurd user some⟩

/-- Only a client without such a header is given the credentials of its URI. -/
theorem authorize_cases {result : HeaderMap} (made : authorize crates uri headers = .ok result) :
    result = headers ∧ (headers.get authorization = none → uri.user = none) ∨
      headers.get authorization = none ∧ ∃ user, uri.user = some user ∧
        result = headers.insert authorization
          ⟨"Basic ".toList ++ crates.base64 (user ++ ':' :: uri.password.getD [])⟩ := by
  unfold authorize at made
  split at made
  next user absent present =>
    obtain ⟨value, written, same⟩ := bind_ok made
    cases same
    have text : value.text =
        "Basic ".toList ++ crates.base64 (user ++ ':' :: uri.password.getD []) := by
      rw [HeaderValue.fromStr_ok written]
      cases uri.password with
      | none => rfl
      | some password => rfl
    exact .inr ⟨absent, user, present, by rw [← text]; rfl⟩
  next other =>
    cases made
    refine .inl ⟨rfl, fun absent => ?_⟩
    by_contra present
    obtain ⟨user, given⟩ := Option.ne_none_iff_exists'.mp present
    exact other user absent given

theorem target_headers (read : target crates request = .ok (uri, headers)) :
    headers = request.headers ∨ getAll request.headers authorization = [] ∧
      CarriesUser request.uri ∧ ∃ value, headers = request.headers.insert authorization value := by
  obtain ⟨parsed, ofUri, absolute | relative⟩ := target_ok read
  · obtain ⟨scheme, named, _, _, authorized⟩ := absolute
    rcases authorize_cases authorized with ⟨kept, _⟩ | ⟨absent, user, given, inserted⟩
    · exact .inl kept
    · have schemeIs := (ofUri_scheme ofUri).symm.trans named
      obtain ⟨authority, located, same⟩ := bind_ok ofUri
      cases same
      have present : authority.user = some user := given
      have carries := (parseAuthority_at located).2 (by rw [present]; simp)
      rw [get_getAll, List.head?_eq_none_iff] at absent
      exact .inr ⟨absent, ⟨by rw [schemeIs]; rfl, carries⟩, _, inserted⟩
  · exact .inl relative.2.1

/-- The host of an absolute URI is free of what separates the user information. -/
theorem target_at (read : target crates request = .ok (uri, headers))
    (absolute : request.uri.scheme.isSome = true) {hostname : HostName}
    (present : uri.hostname = some hostname) : '@' ∉ hostname.toStringUrlStyle := by
  obtain ⟨parsed, ofUri, known | relative⟩ := target_ok read
  · obtain ⟨_, _, _, rfl, _⟩ := known
    obtain ⟨authority, located, same⟩ := bind_ok ofUri
    cases same
    exact (parseAuthority_at located).1 hostname present
  · rw [← ofUri_scheme ofUri, relative.1] at absolute
    cases absolute

end Target

/-- The credentials of the HTTP proxy that a request is handed to. -/
def credentials : Option HttpProxy → List HeaderValue
  | none => []
  | some proxy => (proxy.auth.map fun auth => ⟨"Basic ".toList ++ auth⟩).toList

/-- What is sent for a request, by way of an HTTP proxy if it is one that takes it. -/
structure Forwarded (request : Request) (via : Option HttpProxy) (sent : Request) : Prop where
  carried : sent.method = request.method ∧ sent.body = request.body
  proxied : ∀ name, IsProxy name →
    getAll sent.headers name = if name = proxyAuthorization then credentials via else []
  host : ∃ value, getAll sent.headers host = [value]
  te : getAll sent.headers te = [] ∨ getAll sent.headers te = [⟨"trailers".toList⟩]
  kept : getAll request.headers authorization ≠ [] →
    getAll sent.headers authorization = getAll request.headers authorization
  added : getAll request.headers authorization = [] → getAll sent.headers authorization = [] ∨
    CarriesUser request.uri ∧ ∃ value, getAll sent.headers authorization = [value]
  userinfo : request.uri.scheme.isSome = true →
    ∀ authority, sent.uri.authority = some authority → '@' ∉ authority.text
  others : ∀ name, ¬ IsProxy name → name ≠ SendRequest.host → name ≠ Forwarding.te →
    name ≠ authorization → getAll sent.headers name = getAll request.headers name

section Rewriting

variable {crates : Crates} {request rewritten sent : Request} {scheme : Text} {proxy : HttpProxy}

theorem rewrite_forwarded (accepted : rewrite crates request = .ok (scheme, rewritten)) :
    Forwarded request none rewritten := by
  obtain ⟨uri, headers, hostname, value, _, read, _, _, _, _, same⟩ := rewrite_ok accepted
  have written : ∀ name, getAll rewritten.headers name = if name = host then [value]
      else if IsProxy name then [] else getAll (rewriteTe headers) name := by
    intro name
    rw [same, getAll_insert, getAll_removeProxyHeaders]
  have own : ∀ name, name ≠ authorization → getAll headers name = getAll request.headers name := by
    intro name other
    rcases target_headers read with kept | ⟨_, _, value, inserted⟩
    · rw [kept]
    · rw [inserted, getAll_insert, if_neg other]
  have login : getAll rewritten.headers authorization = getAll headers authorization := by
    rw [written, if_neg (by decide), if_neg (by decide), getAll_rewriteTe _ (by decide)]
  refine ⟨rewrite_same accepted, ?_, ?_, ?_, ?_, ?_, ?_, ?_⟩
  · intro name meant
    have other : name ≠ host := by
      intro named
      rw [named] at meant
      exact absurd meant (by decide)
    rw [written, if_neg other, if_pos meant]
    simp [credentials]
  · exact ⟨value, by rw [written, if_pos rfl]⟩
  · rw [written, if_neg (by decide), if_neg (by decide)]
    exact getAll_te headers
  · intro given
    rw [login]
    rcases target_headers read with kept | ⟨absent, _⟩
    · rw [kept]
    · exact absurd absent given
  · intro absent
    rw [login]
    rcases target_headers read with kept | ⟨_, carries, value, inserted⟩
    · rw [kept]
      exact .inl absent
    · rw [inserted, getAll_insert, if_pos rfl]
      exact .inr ⟨carries, value, rfl⟩
  · intro _ authority present
    rw [rewrite_origin accepted] at present
    cases present
  · intro name unmeant notHost notTe notLogin
    rw [written, if_neg notHost, if_neg unmeant, getAll_rewriteTe _ notTe, own name notLogin]

/-- The header that names the host of an absolute URI. -/
theorem rewrite_host_at (accepted : rewrite crates request = .ok (scheme, rewritten))
    (absolute : request.uri.scheme.isSome = true) {value : HeaderValue}
    (got : rewritten.headers.get host = some value) : '@' ∉ value.text := by
  obtain ⟨uri, headers, hostname, value', read, _, present, made, same⟩ := rewrite_host accepted
  rw [got] at same
  cases same
  have absent := target_at read absolute present
  rw [HeaderValue.fromStr_ok made]
  have all : ∀ c ∈ hostHeader scheme hostname uri.port, c ≠ '@' :=
    at_chars.hostHeader fun c member same => absent (same ▸ member)
  exact fun member => all '@' member rfl

theorem authorized_cases {headers result : HeaderMap}
    (made : proxy.authorized HeaderMap.insert headers = .ok result) :
    (credentials (some proxy) = [] ∧ result = headers) ∨
      ∃ value, credentials (some proxy) = [value] ∧
        result = headers.insert proxyAuthorization value := by
  unfold HttpProxy.authorized at made
  cases auth : proxy.auth with
  | none =>
    rw [auth] at made
    cases made
    exact .inl ⟨by simp [credentials, auth], rfl⟩
  | some auth' =>
    rw [auth] at made
    obtain ⟨value, valueOk, same⟩ := bind_ok made
    cases same
    have same : value = ⟨"Basic ".toList ++ auth'⟩ := by
      rw [← HeaderValue.fromStr_ok valueOk]
    refine .inr ⟨value, ?_, rfl⟩
    rw [same, credentials, auth]
    rfl

/-- An HTTP proxy adds its own credentials to a request and names the host in its URI. -/
theorem absolute_forwarded (accepted : rewrite crates request = .ok (scheme, rewritten))
    (absolute : proxy.absolute crates scheme rewritten = .ok sent) :
    Forwarded request (some proxy) sent := by
  have before := rewrite_forwarded accepted
  obtain ⟨value, text, _, uri, headers, got, read, built, authorized, same⟩ :=
    HttpProxy.absolute_ok absolute
  have written : ∀ name, name ≠ proxyAuthorization →
      getAll sent.headers name = getAll rewritten.headers name := by
    intro name other
    rw [same]
    rcases authorized_cases authorized with ⟨_, kept⟩ | ⟨_, _, inserted⟩
    · rw [kept]
    · rw [inserted, getAll_insert, if_neg other]
  have login := written authorization (by decide)
  refine ⟨?_, ?_, ?_, ?_, ?_, ?_, ?_, ?_⟩
  · rw [same]
    exact before.carried
  · intro name meant
    by_cases own : name = proxyAuthorization
    · have nothing := before.proxied name meant
      rw [if_pos own] at nothing ⊢
      rw [same]
      rcases authorized_cases authorized with ⟨none, kept⟩ | ⟨value, one, inserted⟩
      · rw [kept, none, nothing]
        rfl
      · rw [inserted, one, getAll_insert, if_pos own]
    · have nothing := before.proxied name meant
      rw [if_neg own] at nothing ⊢
      rw [written name own, nothing]
  · rw [written host (by decide)]
    exact before.host
  · rw [written te (by decide)]
    exact before.te
  · rw [login]
    exact before.kept
  · rw [login]
    exact before.added
  · intro given authority present
    obtain ⟨named, known, kept⟩ := build_authority built
    rw [same] at present
    rw [known] at present
    cases present
    rw [kept, (toStr_ok read).1]
    exact rewrite_host_at accepted given got
  · intro name unmeant notHost notTe notLogin
    have other : name ≠ proxyAuthorization := by
      intro named
      rw [named] at unmeant
      exact unmeant (by decide)
    rw [written name other]
    exact before.others name unmeant notHost notTe notLogin

end Rewriting

/-- A `CONNECT` request that an HTTP proxy of the stack makes of its own. -/
def Tunnel (crates : Crates) (stack : List Element) (sent : Request) : Prop :=
  ∃ proxy addr, Element.httpProxy proxy ∈ stack ∧ proxy.request crates addr = .ok sent

/-- Only a request of plain `http` is handed to an HTTP proxy, one of the stack. -/
def Through (stack : List Element) (source : Request) : Option HttpProxy → Prop
  | none => True
  | some proxy => Element.httpProxy proxy ∈ stack ∧ source.uri.scheme ≠ some https

/-- The request of the client, or one with a DNS query of the program's own. -/
def Source (crates : Crates) (state : ProxyState) (request source : Request) : Prop :=
  source = request ∨
    ∃ doh query, state.config.doh = some doh ∧ dohRequest crates doh query = .ok source

/-- The requests that may leave while this one is served. -/
def Sends (crates : Crates) (state : ProxyState) (request : Request) : Op → Prop
  | .sendRequest _ sent => Tunnel crates state.proxyStack sent ∨
      ∃ source via, Source crates state request source ∧
        Through state.proxyStack source via ∧ Forwarded source via sent
  | _ => True

theorem server_default {scheme : Text} {proxies rest : ProxyStack} {self : Element}
    (found : server scheme proxies = .default self rest) : self :: rest <:+ proxies := by
  induction proxies with
  | nil => cases found
  | cons proxy proxies ih =>
    cases proxy with
    | httpProxy proxy =>
      rw [server] at found
      split at found
      · cases found
      · cases found
        exact List.suffix_rfl
    | fragment =>
      rw [server] at found
      split at found
      · exact (ih found).trans (List.suffix_cons _ _)
      · cases found
        exact List.suffix_rfl
    | _ =>
      cases found
      exact List.suffix_rfl

theorem server_forward {scheme : Text} {proxies rest : ProxyStack} {proxy : HttpProxy}
    (found : server scheme proxies = .forward proxy rest) :
    scheme = http ∧ Element.httpProxy proxy :: rest <:+ proxies := by
  induction proxies with
  | nil => cases found
  | cons element proxies ih =>
    cases element with
    | httpProxy other =>
      rw [server] at found
      split at found
      next plain =>
        cases found
        exact ⟨plain, List.suffix_rfl⟩
      · cases found
    | fragment =>
      rw [server] at found
      split at found
      · obtain ⟨plain, suffix⟩ := ih found
        exact ⟨plain, suffix.trans (List.suffix_cons _ _)⟩
      · cases found
    | _ => cases found

theorem mem_dispatch {state : ProxyState} {reqConf : RequestConfig} {proxy : HttpProxy}
    (member : Element.httpProxy proxy ∈ dispatch state reqConf) :
    Element.httpProxy proxy ∈ state.proxyStack := by
  unfold dispatch at member
  rw [List.mem_reverse] at member
  split at member
  · split at member
    · split at member
      · exact member
      · exact List.dropLast_subset _ member
    · split at member
      · simpa using member
      · exact member
  · exact member

theorem rewrite_scheme {crates : Crates} {request rewritten : Request} {scheme : Text}
    (accepted : rewrite crates request = .ok (scheme, rewritten)) (plain : scheme = http) :
    request.uri.scheme ≠ some https := by
  intro secure
  obtain ⟨uri, headers, _, _, _, read, named, _⟩ := rewrite_ok accepted
  obtain ⟨parsed, ofUri, absolute | relative⟩ := target_ok read
  · obtain ⟨_, _, _, rfl, _⟩ := absolute
    rw [ofUri_scheme ofUri, secure, plain] at named
    exact absurd (Option.some.inj named) (by decide)
  · have missing := relative.1
    rw [ofUri_scheme ofUri, secure] at missing
    cases missing

section Sending

variable {crates : Crates} {state : ProxyState} {request source : Request} {resolve : Resolve}
  {reqConf : RequestConfig}

theorem sends_admits {proxies : ProxyStack}
    (within : ∀ proxy, Element.httpProxy proxy ∈ proxies →
      Element.httpProxy proxy ∈ state.proxyStack) :
    Admits crates proxies (Sends crates state request) where
  plain := by
    intro operation _ other
    cases operation with
    | sendRequest server sent => exact absurd rfl (other server sent)
    | _ => trivial
  tunnel := fun proxy addr _ _ member built => .inl ⟨proxy, addr, within proxy member, built⟩

theorem exchange_sends {server : Connection} {sent : Request} (via : Option HttpProxy)
    (known : Source crates state request source) (through : Through state.proxyStack source via)
    (forwarded : Forwarded source via sent) : (do
      let response ← Network.sendRequest server sent
      relayUpgrade server response
      return response).Uses (Sends crates state request) := by
  refine ⟨.inr ⟨source, via, known, through, forwarded⟩, fun _ => ?_⟩
  exact uses_ofExcept_bind fun response _ => relay_uses trivial response

theorem sendRequest_sends (lookup : ∀ hostname qtype,
      (resolve hostname qtype).Uses (Sends crates state request))
    (known : Source crates state request source) :
    (Service.sendRequest crates resolve state reqConf source).Uses
      (Sends crates state request) := by
  apply uses_ofExcept_bind
  intro rewritten accepted
  obtain ⟨scheme, rewritten⟩ := rewritten
  change (serve crates resolve state.config (dispatch state reqConf) scheme reqConf
    rewritten).Uses _
  rw [serve_server]
  cases found : server scheme (dispatch state reqConf) with
  | nobody => trivial
  | default self rest =>
    have suffix := server_default found
    have admits : Admits crates (self :: rest) (Sends crates state request) :=
      sends_admits fun proxy member => mem_dispatch (suffix.subset member)
    apply uses_ofExcept_bind
    intro addr _
    have dialled : (dial crates resolve state.config self rest reqConf
        ⟨reqConf.fakeHost.getD addr.hostname, addr.port⟩).Uses (Sends crates state request) := by
      unfold dial
      split
      · exact happyEyeballs_uses admits.connect trivial fun qtype => lookup _ qtype
      · exact admits.connect _
    refine dialled.bind fun server => ?_
    have secured : (secure scheme server addr).Uses (Sends crates state request) := by
      unfold secure
      split
      · exact admits.wrap server addr
      · trivial
    refine secured.bind fun server => ?_
    refine ⟨trivial, fun _ => uses_ofExcept_bind fun _ _ => ?_⟩
    exact exchange_sends none known trivial (rewrite_forwarded accepted)
  | forward proxy rest =>
    obtain ⟨plain, suffix⟩ := server_forward found
    have admits : Admits crates (.httpProxy proxy :: rest) (Sends crates state request) :=
      sends_admits fun proxy member => mem_dispatch (suffix.subset member)
    have member : Element.httpProxy proxy ∈ state.proxyStack :=
      mem_dispatch (suffix.subset (by simp))
    apply uses_okOr_bind
    intro connect next
    refine (admits.tail.stack connect next proxy.addr).bind fun server => ?_
    refine ⟨trivial, fun _ => uses_ofExcept_bind fun _ _ => ?_⟩
    apply uses_ofExcept_bind
    intro sent absolute
    exact exchange_sends (some proxy) known ⟨member, rewrite_scheme accepted plain⟩
      (absolute_forwarded accepted absolute)

theorem fetch_sends {query : Bytes} (lookup : ∀ hostname qtype,
      (resolve hostname qtype).Uses (Sends crates state request)) :
    (fetch crates resolve state query).Uses (Sends crates state request) := by
  refine uses_okOr_bind fun doh configured => uses_ofExcept_bind fun posted made => ?_
  refine (sendRequest_sends lookup (.inr ⟨doh, query, configured, made⟩)).bind fun response => ?_
  exact uses_ensure_bind (uses_ofExcept _ _)

theorem dohQuery_sends {query : Bytes} (lookup : ∀ hostname qtype,
      (resolve hostname qtype).Uses (Sends crates state request)) :
    (dohQuery crates resolve state query).Uses (Sends crates state request) := by
  refine uses_ofExcept_bind fun id _ => uses_ofExcept_bind fun sent _ => ?_
  refine Uses.bind ⟨trivial, fun cached => ?_⟩ fun result => uses_ofExcept _ _
  cases cached with
  | some result => trivial
  | none => exact (fetch_sends lookup).bind fun result => ⟨trivial, fun _ => trivial⟩

theorem resolveTo_sends (depth : Nat) (hostname : HostName) (qtype : QueryType) :
    (resolveTo crates state depth hostname qtype).Uses (Sends crates state request) := by
  induction depth generalizing hostname qtype with
  | zero => exact ⟨trivial, fun _ => uses_ofExcept _ _⟩
  | succ depth ih =>
    cases hostname with
    | v4 addr => trivial
    | v6 addr => trivial
    | domain name =>
      simp only [resolveTo, resolveBy]
      split
      · refine (dohQuery_sends ih).bind fun result => ?_
        exact uses_ofExcept_bind fun _ _ => trivial
      · trivial
      · exact ⟨trivial, fun answer => answer.elim⟩

end Sending

/-- Whatever the stack and wherever a run stops, each request that has left is one that an
HTTP proxy makes to be connected through, or stands for the client's or for a DNS query
with every header of its source that is not the program's business. -/
theorem sendRequest_forwards (crates : Crates) (state : ProxyState) (depth : Nat)
    (reqConf : RequestConfig) (request : Request) :
    (Service.sendRequest crates (resolveTo crates state depth) state reqConf request).Uses
      (Sends crates state request) :=
  sendRequest_sends (resolveTo_sends depth) (.inl rfl)

end LocalProxy.Forwarding
