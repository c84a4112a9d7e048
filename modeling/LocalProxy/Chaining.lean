import LocalProxy.Exchanges
import LocalProxy.UriText

/-! Instances of the program in line, each an HTTP proxy of the one before it. The request that
one of them sends on says all that the next one needs, so that a client is served as if it had
come to the last one itself. -/

namespace LocalProxy.Chaining
open Strings Addr Http Programs Program Network SendRequest Outbound Service Inbound Resolution
open MainStack HostHeader Forwarding UriText Exchanges

section Headers

variable {headers : HeaderMap} {value : HeaderValue}

theorem remove_all (names : List Text) (headers : HeaderMap) :
    names.foldl HeaderMap.remove headers = headers.filter fun header => header.1 ∉ names := by
  induction names generalizing headers with
  | nil => simp
  | cons name names ih =>
    rw [List.foldl_cons, ih, HeaderMap.remove, List.filter_filter]
    congr 1
    funext header
    simp [Bool.and_comm]

theorem removeProxyHeaders_filter (headers : HeaderMap) :
    removeProxyHeaders headers = headers.filter fun header => ¬ IsProxy header.1 := by
  unfold removeProxyHeaders
  rw [remove_all]
  refine List.filter_congr fun header member => ?_
  have key : header.1 ∈ headers.keys :=
    List.mem_dedup.mpr (List.mem_map_of_mem member)
  simp [List.mem_filter, key, IsProxy]

/-- Codings as they are left by a rewriting. -/
def Reduced (codings : HeaderMap) : Prop :=
  codings = [] ∨ codings = [(Forwarding.te, ⟨"trailers".toList⟩)]

theorem rewriteTe_reduced (headers : HeaderMap) :
    ∃ codings, Reduced codings ∧ rewriteTe headers = headers.remove Forwarding.te ++ codings := by
  rcases rewriteTe_cases headers with removed | inserted
  · exact ⟨[], .inl rfl, by rw [removed, List.append_nil]⟩
  · exact ⟨_, .inr rfl, inserted⟩

/-- Reduced codings are left as they are, behind the other headers. -/
theorem rewriteTe_again {codings : HeaderMap} (reduced : Reduced codings)
    (held : getAll headers Forwarding.te = codings.map Prod.snd) :
    rewriteTe headers = headers.remove Forwarding.te ++ codings := by
  have got : headers.get "te".toList = (codings.map Prod.snd).head? := by
    rw [← held]
    exact get_getAll headers Forwarding.te
  unfold rewriteTe
  rcases reduced with none | trailers
  · subst codings
    rw [got]
    exact (List.append_nil _).symm
  · subst codings
    rw [got]
    rfl

/-- The headers of the request that leaves. -/
def settle (headers : HeaderMap) (value : HeaderValue) : HeaderMap :=
  (removeProxyHeaders (rewriteTe headers)).insert host value

/-- A header that is sent on as it came. -/
def Carried (header : Text × HeaderValue) : Prop :=
  header.1 ≠ Forwarding.te ∧ ¬ IsProxy header.1 ∧ header.1 ≠ host

theorem filter_named {part : HeaderMap} {name : Text} (named : ∀ header ∈ part, header.1 = name)
    (keep : Text → Bool) :
    part.filter (fun header => keep header.1) = if keep name then part else [] := by
  split
  next kept => exact List.filter_eq_self.mpr fun header member => named header member ▸ kept
  next dropped =>
    exact List.filter_eq_nil_iff.mpr fun header member => named header member ▸ dropped

/-- What a request has: headers that are sent on as they came, codings, the host and credentials
for a proxy, of which those for the proxy may be missing. -/
structure Parts (value : HeaderValue) (others codings auth whole : HeaderMap) : Prop where
  carried : ∀ header ∈ others, Carried header
  reduced : Reduced codings
  secrets : ∀ header ∈ auth, header.1 = proxyAuthorization
  joined : whole = others ++ codings ++ [(host, value)] ++ auth

theorem Reduced.named {codings : HeaderMap} (reduced : Reduced codings) :
    ∀ header ∈ codings, header.1 = Forwarding.te := by
  rcases reduced with none | trailers
  · simp [none]
  · simp [trailers]

theorem Reduced.stays {codings : HeaderMap} (reduced : Reduced codings) :
    ((codings.filter fun header => ¬ IsProxy header.1).filter fun header => header.1 ≠ host) =
      codings := by
  rcases reduced with none | trailers
  · rw [none]
    rfl
  · rw [trailers]
    rfl

theorem Parts.filter {others codings auth whole : HeaderMap}
    (parts : Parts value others codings auth whole) (keep : Text → Bool) :
    whole.filter (fun header => keep header.1) =
      others.filter (fun header => keep header.1) ++ (if keep Forwarding.te then codings else []) ++
        (if keep host then [(host, value)] else []) ++
        (if keep proxyAuthorization then auth else []) := by
  have own : ∀ header ∈ [(host, value)], header.1 = host := by simp
  rw [parts.joined, List.filter_append, List.filter_append, List.filter_append,
    filter_named parts.reduced.named, filter_named own, filter_named parts.secrets]

theorem settle_parts (headers : HeaderMap) (value : HeaderValue) :
    ∃ others codings, Parts value others codings [] (settle headers value) := by
  obtain ⟨codings, reduced, same⟩ := rewriteTe_reduced headers
  refine ⟨HeaderMap.remove ((headers.remove Forwarding.te).filter fun header =>
    ¬ IsProxy header.1) host, codings, ?_, reduced, by simp, ?_⟩
  · intro header member
    obtain ⟨kept, notHost⟩ := List.mem_filter.mp member
    obtain ⟨kept, unmeant⟩ := List.mem_filter.mp kept
    have notTe := (List.mem_filter.mp kept).2
    exact ⟨by simpa using notTe, by simpa using unmeant, by simpa using notHost⟩
  · unfold settle
    rw [removeProxyHeaders_filter, same, List.filter_append, HeaderMap.insert, List.append_nil,
      HeaderMap.remove, List.filter_append, reduced.stays]
    rfl

theorem authorized_parts {proxy : HttpProxy} {others codings whole sent : HeaderMap}
    (parts : Parts value others codings [] whole)
    (authorized : proxy.authorized HeaderMap.insert whole = .ok sent) :
    ∃ auth, Parts value others codings auth sent := by
  rcases authorized_cases authorized with ⟨_, kept⟩ | ⟨secret, _, inserted⟩
  · exact ⟨[], kept ▸ parts⟩
  · refine ⟨[(proxyAuthorization, secret)], parts.carried, parts.reduced, by simp, ?_⟩
    have kept : others.filter (fun header => decide (header.1 ≠ proxyAuthorization)) = others := by
      refine List.filter_eq_self.mpr fun header member => ?_
      have other : header.1 ≠ proxyAuthorization := by
        intro named
        exact (parts.carried header member).2.1 (named ▸ by decide)
      simpa using other
    rw [inserted, HeaderMap.insert, HeaderMap.remove,
      parts.filter fun name => decide (name ≠ proxyAuthorization), kept, if_pos (by decide),
      if_pos (by decide), if_neg (by decide), List.append_nil]

/-- A request with these parts is given the same headers again. -/
theorem Parts.settle {others codings auth whole : HeaderMap}
    (parts : Parts value others codings auth whole) :
    settle whole value = others ++ codings ++ [(host, value)] := by
  have codingsOnly : others.filter (fun header => decide (header.1 = Forwarding.te)) = [] := by
    refine List.filter_eq_nil_iff.mpr fun header member => ?_
    simpa using (parts.carried header member).1
  have held : getAll whole Forwarding.te = codings.map Prod.snd := by
    rw [getAll, parts.filter fun name => decide (name = Forwarding.te), codingsOnly,
      if_pos (by decide), if_neg (by decide), if_neg (by decide), List.nil_append,
      List.append_nil, List.append_nil]
  let keep : Text → Bool := fun name =>
    decide (name ≠ host) && decide (¬ IsProxy name) && decide (name ≠ Forwarding.te)
  have stay : others.filter (fun header => keep header.1) = others := by
    refine List.filter_eq_self.mpr fun header member => ?_
    obtain ⟨notTe, unmeant, notHost⟩ := parts.carried header member
    simp [keep, notTe, unmeant, notHost]
  have first : ((((whole.filter fun header => header.1 ≠ Forwarding.te).filter
      fun header => ¬ IsProxy header.1).filter fun header => header.1 ≠ host)) = others := by
    rw [List.filter_filter, List.filter_filter]
    have kept := parts.filter keep
    rw [stay, if_neg (by decide), if_neg (by decide), if_neg (by decide), List.append_nil,
      List.append_nil, List.append_nil] at kept
    exact kept
  unfold Chaining.settle
  rw [rewriteTe_again parts.reduced held, removeProxyHeaders_filter, HeaderMap.insert,
    HeaderMap.remove, HeaderMap.remove, List.filter_append, List.filter_append, first,
    parts.reduced.stays]

/-- Whatever credentials an HTTP proxy adds, the rewriting of the next instance undoes it. -/
theorem settle_again {proxy : HttpProxy} {sent : HeaderMap}
    (authorized : proxy.authorized HeaderMap.insert (settle headers value) = .ok sent) :
    settle sent value = settle headers value := by
  obtain ⟨others, codings, parts⟩ := settle_parts headers value
  obtain ⟨auth, again⟩ := authorized_parts parts authorized
  rw [again.settle, parts.joined, List.append_nil]

end Headers

section Targets

variable {crates : Crates} {request : Request} {uri : ParsedUri} {headers : HeaderMap}
  {scheme : Text} {hostname : HostName} {port : Option UInt16}

/-- The path and the query of a target are in the form that their text keeps. -/
theorem target_data (read : target crates request = .ok (uri, headers)) :
    '?' ∉ uri.path ∧ uri.path ≠ [] ∧ (uri.query.filter fun query => !query.isEmpty) = uri.query := by
  have parts : ∀ parsed, ParsedUri.ofUri crates request.uri = .ok parsed → '?' ∉ parsed.path ∧
      parsed.path ≠ [] ∧ (parsed.query.filter fun query => !query.isEmpty) = parsed.query := by
    intro parsed ofUri
    obtain ⟨authority, _, same⟩ := bind_ok ofUri
    cases same
    refine ⟨?_, ?_, ?_⟩
    · dsimp only
      split
      · decide
      · exact path_absent request.uri
    · dsimp only
      split
      · decide
      next some => simpa using some
    · rw [Option.filter_filter]
      simp
  obtain ⟨parsed, ofUri, absolute | relative⟩ := target_ok read
  · obtain ⟨_, _, _, rfl, _⟩ := absolute
    exact parts uri ofUri
  · obtain ⟨_, _, _, _, _, _, _, _, _, rfl⟩ := relative
    exact parts parsed ofUri

/-- A host that is read from its text in a URI, with this port in a URI of this scheme. -/
structure Legible (scheme : Text) (hostname : HostName) (port : Option UInt16) : Prop where
  ordinary : Ordinary hostname
  unmarked : '@' ∉ hostname.toStringUrlStyle
  ported : ¬ PortlessIpv6 scheme hostname port

/-- The header is read as the host, and the header for what was read is the same. -/
theorem hostHeader_again (normal : hostname.Normal) (legible : Legible scheme hostname port) :
    ∃ given, SocketAddr.parseHostHeader (hostHeader scheme hostname port) = .ok (hostname, given) ∧
      hostHeader scheme hostname given = hostHeader scheme hostname port ∧
      Legible scheme hostname given := by
  have plain := legible.ordinary.unbracketed
  rcases hostHeader_eq scheme hostname port with ⟨header, default⟩ | ⟨given, same, other, header⟩
  · have four : ¬ ∃ addr, hostname = .v6 addr := fun six => legible.ported ⟨six, default⟩
    refine ⟨none, ?_, ?_, legible.ordinary, legible.unmarked, fun portless => four portless.1⟩
    · rw [header]
      exact parseHostHeader_portless normal plain (legible.ordinary.colon four)
    · rw [header, rendered_none]
      rfl
  · refine ⟨some given, ?_, ?_, legible.ordinary, legible.unmarked, ?_⟩
    · rw [header]
      exact parseHostHeader_given normal plain given
    · rw [same]
    · rw [← same]
      exact legible.ported

/-- The request is for a host that is read from its text. -/
def Readable (crates : Crates) (request : Request) : Prop :=
  ∃ uri headers scheme hostname, target crates request = .ok (uri, headers) ∧
    uri.scheme = some scheme ∧ uri.hostname = some hostname ∧ Legible scheme hostname uri.port

/-- The absolute URI for an HTTP proxy is for the host, the path and the query of the target. -/
theorem absolute_texts (keeps : KeepsTexts crates) {proxy : HttpProxy} {rewritten sent : Request}
    {origin : ParsedUri} {value : HeaderValue} (built : origin.toUri crates = .ok rewritten.uri)
    (nowhere : origin.scheme = none ∧ origin.hostname = none) (path : origin.path ≠ [])
    (got : rewritten.headers.get host = some value)
    (absolute : proxy.absolute crates scheme rewritten = .ok sent) :
    sent.uri.scheme = some scheme ∧ sent.uri.authority.map Authority.text = some value.text ∧
      sent.uri.data = data origin.path origin.query ∧
      ∃ headers, proxy.authorized HeaderMap.insert rewritten.headers = .ok headers ∧
        sent = { rewritten with uri := sent.uri, headers := headers } := by
  obtain ⟨value', present, rest⟩ := bind_ok absolute
  obtain ⟨authority, text, rest⟩ := bind_ok rest
  obtain ⟨pathAndQuery, whole, rest⟩ := bind_ok rest
  obtain ⟨uri, made, rest⟩ := bind_ok rest
  obtain ⟨headers, authorized, same⟩ := bind_ok rest
  cases same
  have known := orElse_ok present
  rw [got] at known
  cases known
  obtain ⟨schemeless, placeless, kept⟩ := toUri_texts keeps built
  rw [nowhere.1] at schemeless
  rw [nowhere.2] at placeless
  have alone : rewritten.uri.authority = none := Option.map_eq_none_iff.mp placeless
  have nonempty : rewritten.uri.data.isEmpty = false := by
    rw [kept]
    simp [data, path]
  have split : rewritten.uri.pathAndQuery = some rewritten.uri.data := by
    simp [Uri.pathAndQuery, schemeless, alone, nonempty]
  have texts := orElse_ok whole
  rw [split] at texts
  cases texts
  obtain ⟨named, located, stored⟩ := build_texts keeps made
  refine ⟨named, ?_, stored.trans kept, headers, authorized, rfl⟩
  rw [located, (toStr_ok text).1]

/-- An absolute URI with these texts is a target without credentials. -/
theorem target_absolute {sent : Request} {path : Text} {query : Option Text} {header : Text}
    (known : scheme = http ∨ scheme = https) (named : sent.uri.scheme = some scheme)
    (located : sent.uri.authority.map Authority.text = some header)
    (stored : sent.uri.data = data path query) (unmarked : '@' ∉ header)
    (read : SocketAddr.parseHostHeader header = .ok (hostname, port))
    (absent : '?' ∉ path) (nonempty : path ≠ [])
    (full : (query.filter fun query => !query.isEmpty) = query) :
    target crates sent =
      .ok (⟨some scheme, none, none, some hostname, port, path, query⟩, sent.headers) := by
  obtain ⟨authority, present, text⟩ := Option.map_eq_some_iff.mp located
  have parts : parseAuthority crates sent.uri.authority =
      .ok ⟨none, none, some hostname, port⟩ := by
    rw [present]
    simp only [parseAuthority, text, rsplitOnce_none.mpr unmarked, parseHost, read]
    rfl
  have pathIs := path_data absent nonempty stored
  have queryIs := query_data absent stored
  have stays : (if sent.uri.path.isEmpty then ['/'] else sent.uri.path) = path := by
    rw [pathIs]
    exact if_neg (by simpa using nonempty)
  have whole : ParsedUri.ofUri crates sent.uri =
      .ok ⟨some scheme, none, none, some hostname, port, path, query⟩ := by
    unfold ParsedUri.ofUri
    rw [parts, stays, queryIs, full, named]
    rfl
  unfold target
  rw [whole]
  have anonymous : authorize crates
      ⟨some scheme, none, none, some hostname, port, path, query⟩ sent.headers =
        .ok sent.headers := by
    unfold authorize
    split
    next _ user absurd => cases absurd
    next => rfl
  show (if scheme = http ∨ scheme = https then _ else _) = _
  rw [if_pos known, anonymous]
  rfl

/-- What an instance makes of the request that another one has made for an HTTP proxy is what
that one made of the client's. -/
theorem rewrite_again (keeps : KeepsTexts crates) {proxy : HttpProxy} {rewritten sent : Request}
    (accepted : rewrite crates request = .ok (scheme, rewritten))
    (absolute : proxy.absolute crates scheme rewritten = .ok sent)
    (readable : Readable crates request) :
    rewrite crates sent = .ok (scheme, rewritten) ∧ Readable crates sent := by
  obtain ⟨uri, headers, hostname, value, origin, read, schemeOk, hostOk, made, built, whole⟩ :=
    rewrite_ok accepted
  obtain ⟨uri', headers', scheme', hostname', again, schemeIs, hostIs, legible⟩ := readable
  rw [read] at again
  cases again
  rw [schemeOk] at schemeIs
  rw [hostOk] at hostIs
  cases schemeIs
  cases hostIs
  obtain ⟨sound, schemes⟩ := target_parsed read hostOk
  have known : scheme = http ∨ scheme = https := by
    rw [schemeOk] at schemes
    exact schemes.imp Option.some.inj Option.some.inj
  obtain ⟨absent, nonempty, full⟩ := target_data read
  obtain ⟨given, parsed, header, still⟩ := hostHeader_again sound.normal legible
  have got : rewritten.headers.get host = some value := by
    rw [whole]
    exact get_insert _ _ _
  have emptied : ParsedUri.toUri crates ⟨none, none, none, none, none, uri.path, uri.query⟩ =
      .ok rewritten.uri := by
    rw [whole]
    exact built
  have text : value.text = hostHeader scheme hostname uri.port := HeaderValue.fromStr_ok made
  obtain ⟨named, located, stored, sentHeaders, authorized, same⟩ :=
    absolute_texts keeps emptied ⟨rfl, rfl⟩ nonempty got absolute
  rw [text] at located
  have unmarked : '@' ∉ hostHeader scheme hostname uri.port := by
    have all : ∀ c ∈ hostHeader scheme hostname uri.port, c ≠ '@' :=
      at_chars.hostHeader fun c member same => legible.unmarked (same ▸ member)
    exact fun member => all '@' member rfl
  have target : target crates sent = .ok
      (⟨some scheme, none, none, some hostname, given, uri.path, uri.query⟩, sent.headers) :=
    target_absolute known named located stored unmarked parsed absent nonempty full
  refine ⟨?_, _, _, scheme, hostname, target, rfl, rfl, still⟩
  have headersOf : rewritten.headers = settle headers value := by
    rw [whole]
    rfl
  have sentOf : sent.headers = sentHeaders := by rw [same]
  rw [headersOf] at authorized
  have settled : settle sent.headers value = rewritten.headers := by
    rw [sentOf, headersOf]
    exact settle_again authorized
  have result : { sent with uri := rewritten.uri, headers := rewritten.headers } = rewritten := by
    rw [same]
  unfold rewrite
  rw [target]
  show (do
    let value ← HeaderValue.fromStr (hostHeader scheme hostname given)
    let uri ← ParsedUri.toUri crates ⟨none, none, none, none, none, uri.path, uri.query⟩
    return (scheme, { sent with uri := uri, headers := settle sent.headers value })) = _
  rw [header, made, emptied]
  show Except.ok (scheme,
    { sent with uri := rewritten.uri, headers := settle sent.headers value }) = _
  rw [settled, result]

end Targets

section Answers

/-- Responses with the same headers, in the order that a header map keeps. -/
structure SameAnswer (response upstream : Response) : Prop where
  status : response.status = upstream.status
  body : response.body = upstream.body
  headers : ∀ name, getAll response.headers name = getAll upstream.headers name

theorem getAll_keptAlive (response : Response) (name : Text) :
    getAll (Response.keptAlive response).headers name = if name = keepAlive then []
      else if name = connection then [⟨keepAlive⟩] else getAll response.headers name := by
  unfold Response.keptAlive
  rw [getAll_remove, getAll_insert]

theorem handle_kept {crates : Crates} {resolve : Resolve} {state : ProxyState} {request : Request}
    {trace : Trace} {response : Response} (method : request.method ≠ .connect)
    (returns : Returns (handle crates resolve state request) trace response) :
    getAll response.headers connection = [⟨keepAlive⟩] ∧ getAll response.headers keepAlive = [] := by
  have kept : ∀ upstream, getAll (Response.keptAlive upstream).headers connection = [⟨keepAlive⟩] ∧
      getAll (Response.keptAlive upstream).headers keepAlive = [] := by
    intro upstream
    rw [getAll_keptAlive, getAll_keptAlive]
    exact ⟨rfl, rfl⟩
  unfold handle at returns
  rw [if_neg method] at returns
  rcases attempt_bind_steps returns with ⟨_, _, _, running⟩ | ⟨_, _, _, _, _, last⟩ |
    ⟨changed, _, _, _, run, last⟩
  · exact running.elim
  · obtain ⟨_, same⟩ := steps_value.mp last
    cases same
    exact ⟨rfl, rfl⟩
  · obtain ⟨_, same⟩ := steps_value.mp last
    cases same
    obtain ⟨upstream, _, _, _, _, done⟩ := returns_bind.mp run
    obtain ⟨_, same⟩ := returns_value.mp done
    rw [← same]
    exact kept upstream

/-- The headers about the connection are the same for every response. -/
theorem keptAlive_same {response upstream : Response} (same : SameAnswer response upstream)
    (kept : getAll upstream.headers connection = [⟨keepAlive⟩] ∧
      getAll upstream.headers keepAlive = []) :
    SameAnswer (Response.keptAlive response) upstream := by
  refine ⟨same.status, same.body, fun name => ?_⟩
  rw [getAll_keptAlive]
  split
  next own => rw [own, kept.2]
  next =>
    split
    next own => rw [own, kept.1]
    next => exact same.headers name

end Answers

section Lines

variable {crates : Crates} {request sent : Request} {response upstream : Response}

/-- A request and the response to it, and what the last instance of a line has been sent and has
responded: each of those before it has handed the request to an HTTP proxy, and has been given the
response of the next one. -/
inductive Relayed (crates : Crates) : Request → Response → Request → Response → Prop where
  | last (request : Request) (response : Response) : Relayed crates request response request response
  | behind {request sent final : Request} {response below upstream : Response} {state : ProxyState}
    {trace : Trace} (run : Returns (handle crates dnsResolve state request) trace response)
    (passed : (sent, .ok below) ∈ exchanges trace) (proxied : sent.uri.scheme.isSome = true)
    (rest : Relayed crates sent below final upstream) :
    Relayed crates request response final upstream

/-- What is sent for a request: that of the rewriting, or one to an HTTP proxy made of it. -/
def Rewritten (crates : Crates) (request sent : Request) : Prop :=
  ∃ scheme rewritten, rewrite crates request = .ok (scheme, rewritten) ∧
    (sent = rewritten ∨ ∃ proxy : HttpProxy, proxy.absolute crates scheme rewritten = .ok sent)

theorem run_rewritten {state : ProxyState} (method : request.method ≠ .connect) :
    Once (Rewritten crates request) id (httpProxyRun crates dnsResolve state request) := by
  apply run_once method
  · intro scheme rewritten accepted
    exact ⟨scheme, rewritten, accepted, .inl rfl⟩
  · intro rewritten proxy sent accepted _ absolute
    exact ⟨SendRequest.http, rewritten, accepted, .inr ⟨proxy, absolute⟩⟩

theorem handle_rewrite {other : Request} (resolve : Resolve) (state : ProxyState)
    (method : request.method ≠ .connect) (same : other.method = request.method)
    (rewrites : rewrite crates other = rewrite crates request) :
    handle crates resolve state other = handle crates resolve state request := by
  unfold handle httpProxyRun Service.sendRequest
  rw [same, rewrites]
  rw [if_neg method, if_neg method]

/-- One instance: the request that it hands to an HTTP proxy is served as the client's would be. -/
theorem behind_same (keeps : KeepsTexts crates) {state : ProxyState} {trace : Trace}
    {below : Response} (method : request.method ≠ .connect) (readable : Readable crates request)
    (run : Returns (handle crates dnsResolve state request) trace response)
    (passed : (sent, .ok below) ∈ exchanges trace) (proxied : sent.uri.scheme.isSome = true) :
    sent.method = request.method ∧ Readable crates sent ∧
      rewrite crates sent = rewrite crates request ∧ response = Response.keptAlive below := by
  have settled := handle_settled method (run_rewritten method) run
  generalize exchanges trace = all at passed settled
  cases settled with
  | unsent => cases passed
  | refused =>
    cases passed with
    | tail _ absurd => cases absurd
  | answered known rest =>
    cases passed with
    | tail _ absurd => cases absurd
    | head =>
      rcases rest with running | same
      · exact running.elim
      cases same
      obtain ⟨scheme, rewritten, accepted, direct | ⟨proxy, absolute⟩⟩ := known
      · obtain ⟨_, _, _, _, _, _, _, _, _, built, whole⟩ := rewrite_ok accepted
        have schemeless := (toUri_texts keeps built).1
        rw [direct, whole, schemeless] at proxied
        cases proxied
      · obtain ⟨again, readable⟩ := rewrite_again keeps accepted absolute readable
        have carried := (absolute_same absolute).1.trans (rewrite_same accepted).1
        exact ⟨carried, readable, again.trans accepted.symm, rfl⟩

end Lines

/-- However many instances a request has passed, each handing it to the next one as to an HTTP
proxy, the last one serves it as it would have served the client, in every run and whatever its
configuration is, and its response is the client's. -/
theorem relayed_same {crates : Crates} {request sent : Request} {response upstream : Response}
    (keeps : KeepsTexts crates) (method : request.method ≠ .connect)
    (readable : Readable crates request)
    (relayed : Relayed crates request response sent upstream) :
    (∀ resolve state, handle crates resolve state sent = handle crates resolve state request) ∧
      ∀ resolve state trace, Returns (handle crates resolve state sent) trace upstream →
        Returns (handle crates resolve state request) trace upstream ∧
          SameAnswer response upstream := by
  induction relayed with
  | last request response =>
    exact ⟨fun _ _ => rfl, fun _ _ _ returns => ⟨returns, rfl, rfl, fun _ => rfl⟩⟩
  | @behind request sent final response below upstream state trace run passed proxied rest ih =>
    obtain ⟨carried, legible, rewrites, changed⟩ :=
      behind_same keeps method readable run passed proxied
    obtain ⟨programs, answers⟩ := ih (carried ▸ method) legible
    have same := fun resolve state => (programs resolve state).trans
      (handle_rewrite resolve state method carried rewrites)
    refine ⟨same, fun resolve state trace returns => ?_⟩
    obtain ⟨direct, answered⟩ := answers resolve state trace returns
    have whole : Returns (handle crates resolve state request) trace upstream := by
      rw [← same]
      exact returns
    refine ⟨whole, ?_⟩
    rw [changed]
    exact keptAlive_same answered (handle_kept method whole)

/-- An instance with another one for its HTTP proxy. -/
def proxiedState : ProxyState where
  config := loopbackProxy
  proxyStack := [.raw, .httpProxy ⟨⟨.v4 ⟨127, 0, 0, 1⟩, 8080⟩, some "dTpw".toList⟩, .fragment]

def pageRequest : Request where
  method := .other "GET".toList
  uri := ⟨none, none, "/a?b".toList⟩
  headers := [(host, ⟨"a.test".toList⟩), (Forwarding.te, ⟨"gzip, trailers".toList⟩),
    ("proxy-connection".toList, ⟨keepAlive⟩)]
  body := []

def forwardedRequest : Request where
  method := .other "GET".toList
  uri := ⟨some http, visibleAuthority "a.test".toList, "/a?b".toList⟩
  headers := [(Forwarding.te, ⟨"trailers".toList⟩), (host, ⟨"a.test".toList⟩),
    (proxyAuthorization, ⟨"Basic dTpw".toList⟩)]
  body := []

theorem relayed_same_page : ∃ response upstream trace,
    Relayed escaped pageRequest response forwardedRequest upstream ∧
    Returns (handle escaped dnsResolve Upgrades.directState pageRequest) trace upstream ∧
    SameAnswer response upstream := by
  have first := drive_steps (willing (Response.keptAlive ⟨200, [], []⟩)) true
    (handle escaped dnsResolve proxiedState pageRequest)
  have second := drive_steps (willing ⟨200, [], []⟩) true
    (handle escaped dnsResolve Upgrades.directState forwardedRequest)
  have readable : Readable escaped pageRequest := by
    refine ⟨_, _, http, .domain "a.test".toList, rfl, rfl, rfl, ?_, by decide, ?_⟩
    · unfold Ordinary
      decide
    · intro portless
      obtain ⟨addr, absurd⟩ := portless.1
      cases absurd
  have passed : (forwardedRequest, Except.ok (Response.keptAlive ⟨200, [], []⟩)) ∈
      exchanges (drive (willing (Response.keptAlive ⟨200, [], []⟩)) true
        (handle escaped dnsResolve proxiedState pageRequest)).1 := .head _
  have relayed : Relayed escaped pageRequest
      (Response.keptAlive (Response.keptAlive ⟨200, [], []⟩)) forwardedRequest
      (Response.keptAlive ⟨200, [], []⟩) := .behind first passed rfl (.last _ _)
  have method : pageRequest.method ≠ .connect := by decide
  obtain ⟨direct, same⟩ := (relayed_same keeps_escaped method readable relayed).2 _ _ _ second
  exact ⟨_, _, _, relayed, direct, same⟩

end LocalProxy.Chaining
