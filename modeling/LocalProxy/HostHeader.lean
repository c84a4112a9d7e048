import LocalProxy.Outbound

/-! The `Host` header that `send_request` writes is how the target of a request
travels: `http_proxy_` reads back from it what to dial, and an HTTP proxy is named it
in the absolute URI. -/

namespace LocalProxy.HostHeader
open StdNet (Ipv4Addr Ipv6Addr)
open Strings Addr Http Programs Program Network SendRequest Outbound

def Visible (text : Text) : Prop := ∀ c ∈ text, isVisibleAscii c = true

theorem visible_printUnsigned (n : Nat) : Visible (printUnsigned n) := by
  intro c member
  have digit := mem_printUnsigned member
  simp only [Char.isDigit, Bool.and_eq_true, decide_eq_true_eq] at digit
  have low : 48 ≤ c.toNat := UInt32.le_iff_toNat_le.mp digit.1
  have high : c.toNat ≤ 57 := UInt32.le_iff_toNat_le.mp digit.2
  simp only [isVisibleAscii, Bool.or_eq_true, Bool.and_eq_true, decide_eq_true_eq]
  omega

theorem visible_ipv4 (addr : Ipv4Addr) : Visible addr.toText := by
  intro c member
  simp only [Ipv4Addr.toText, List.mem_append, List.mem_cons] at member
  have part : c = '.' ∨ ∃ n, c ∈ printUnsigned n := by
    rcases member with ((a | dot | b) | dot | c) | dot | d
    · exact .inr ⟨_, a⟩
    · exact .inl dot
    · exact .inr ⟨_, b⟩
    · exact .inl dot
    · exact .inr ⟨_, c⟩
    · exact .inl dot
    · exact .inr ⟨_, d⟩
  rcases part with dot | ⟨n, digit⟩
  · rw [dot]
    decide
  · exact visible_printUnsigned n c digit

theorem visible_ipv6 (addr : Ipv6Addr) (plain : addr.toIpv4Mapped = none) :
    Visible addr.toText := by
  intro c member
  by_contra hidden
  have table : ∀ digit : Fin 16, isVisibleAscii (Nat.digitChar digit) = true := by decide
  have other : ∀ digit : Fin 16, Nat.digitChar digit ≠ c := by
    intro digit same
    exact hidden (same ▸ table digit)
  have colon : c ≠ ':' := by
    intro same
    apply hidden
    rw [same]
    decide
  exact StdNet.absent_ipv6 addr plain other colon member

theorem fromStr_domain {s name : Text} (read : HostName.fromStr s = .domain name) :
    name = if isBracketed s then (s.drop 1).dropLast else s := by
  unfold HostName.fromStr at read
  dsimp only at read
  split at read
  next ip _ =>
    cases ip with
    | v4 addr => contradiction
    | v6 addr =>
      simp only [HostName.ofIpAddr, HostName.ofIpv6] at read
      split at read
      · contradiction
      · contradiction
  next => exact (HostName.domain.inj read).symm

theorem fromStr_subset {s name : Text} (read : HostName.fromStr s = .domain name) : name ⊆ s := by
  rw [fromStr_domain read]
  split
  · exact fun c member => List.mem_of_mem_drop (List.dropLast_subset _ member)
  · exact fun c member => member

/-- A property of characters that those of a printed address have. -/
structure AddressChars (P : Char → Prop) : Prop where
  v4 : ∀ addr : Ipv4Addr, ∀ c ∈ addr.toText, P c
  v6 : ∀ addr : Ipv6Addr, addr.toIpv4Mapped = none → ∀ c ∈ addr.toText, P c
  number : ∀ n, ∀ c ∈ printUnsigned n, P c
  colon : P ':'
  opening : P '['
  closing : P ']'

theorem visible_chars : AddressChars fun c => isVisibleAscii c = true where
  v4 := visible_ipv4
  v6 := visible_ipv6
  number := visible_printUnsigned
  colon := by decide
  opening := by decide
  closing := by decide

theorem AddressChars.fromStr {P : Char → Prop} (chars : AddressChars P) {s : Text}
    (all : ∀ c ∈ s, P c) : ∀ c ∈ (HostName.fromStr s).toStringUrlStyle, P c := by
  have normal := HostName.normal_fromStr s
  cases read : HostName.fromStr s with
  | v4 addr => exact chars.v4 addr
  | v6 addr =>
    rw [read] at normal
    intro c member
    simp only [HostName.toStringUrlStyle, List.cons_append, List.mem_cons, List.mem_append,
      List.not_mem_nil, or_false] at member
    rcases member with opening | inside | closing
    · rw [opening]
      exact chars.opening
    · exact chars.v6 addr normal c inside
    · rw [closing]
      exact chars.closing
  | domain name => exact fun c member => all c (fromStr_subset read member)

/-- The host is a part of the text, so that its characters are. -/
theorem AddressChars.parseHostHeader {P : Char → Prop} (chars : AddressChars P) {text : Text}
    {hostname : HostName} {port : Option UInt16} (all : ∀ c ∈ text, P c)
    (read : SocketAddr.parseHostHeader text = .ok (hostname, port)) :
    hostname.Normal ∧ ∀ c ∈ hostname.toStringUrlStyle, P c := by
  simp only [SocketAddr.parseHostHeader] at read
  split at read
  next front back split =>
    have whole := (rsplitOnce_some split).1
    obtain ⟨port, _, same⟩ := bind_ok read
    cases same
    refine ⟨HostName.normal_fromStr front, chars.fromStr ?_⟩
    intro c member
    apply all
    rw [whole]
    exact List.mem_append_left _ member
  next =>
    cases read
    exact ⟨HostName.normal_fromStr text, chars.fromStr all⟩

/-- What the target of a request is: a host name as it was parsed, from visible text. -/
structure Parsed (hostname : HostName) : Prop where
  normal : hostname.Normal
  visible : Visible hostname.toStringUrlStyle

theorem parseHostHeader_parsed {text : Text} {hostname : HostName} {port : Option UInt16}
    (visible : Visible text) (read : SocketAddr.parseHostHeader text = .ok (hostname, port)) :
    Parsed hostname := by
  obtain ⟨normal, seen⟩ := visible_chars.parseHostHeader visible read
  exact ⟨normal, seen⟩

theorem parseHost_parsed {userinfo : Option Text × Option Text} {text : Text}
    {authority : ParsedAuthority} (visible : Visible text)
    (read : parseHost userinfo text = .ok authority) {hostname : HostName}
    (present : authority.hostname = some hostname) : Parsed hostname := by
  obtain ⟨⟨name, port⟩, host, same⟩ := bind_ok read
  cases same
  cases present
  exact parseHostHeader_parsed visible host

theorem parseAuthority_parsed {crates : Crates} {authority : Option Authority}
    {parsed : ParsedAuthority} (read : parseAuthority crates authority = .ok parsed)
    {hostname : HostName} (present : parsed.hostname = some hostname) : Parsed hostname := by
  cases authority with
  | none =>
    cases read
    contradiction
  | some authority =>
    have visible : Visible authority.text := by
      have all := authority.visible
      rw [List.all_eq_true] at all
      exact all
    simp only [parseAuthority] at read
    split at read
    next auth host split =>
      have whole := (rsplitOnce_some split).1
      obtain ⟨userinfo, _, rest⟩ := bind_ok read
      apply parseHost_parsed _ rest present
      intro c member
      apply visible
      rw [whole]
      exact List.mem_append_right _ (List.mem_cons_of_mem _ member)
    next => exact parseHost_parsed visible read present

theorem toStr_ok {value : HeaderValue} {text : Text} (read : value.toStr = .ok text) :
    text = value.text ∧ Visible text := by
  unfold HeaderValue.toStr at read
  split at read
  next all =>
    cases read
    rw [List.all_eq_true] at all
    exact ⟨rfl, all⟩
  next => contradiction

theorem target_parsed {crates : Crates} {request : Request} {uri : ParsedUri} {headers : HeaderMap}
    (read : target crates request = .ok (uri, headers)) {hostname : HostName}
    (present : uri.hostname = some hostname) :
    Parsed hostname ∧ (uri.scheme = some http ∨ uri.scheme = some https) := by
  obtain ⟨parsed, ofUri, absolute | relative⟩ := target_ok read
  · obtain ⟨scheme, named, known, rfl, _⟩ := absolute
    obtain ⟨authority, located, same⟩ := bind_ok ofUri
    cases same
    refine ⟨parseAuthority_parsed located present, ?_⟩
    rw [named]
    rcases known with plain | secure
    · exact .inl (congrArg some plain)
    · exact .inr (congrArg some secure)
  · obtain ⟨_, _, value, text, name, port, _, toStr, host, rfl⟩ := relative
    cases present
    exact ⟨parseHostHeader_parsed (toStr_ok toStr).2 host, .inl rfl⟩

theorem get_insert (headers : HeaderMap) (name : Text) (value : HeaderValue) :
    (headers.insert name value).get name = some value := by
  have removed : (headers.remove name).find? (fun header => header.1 = name) = none := by
    rw [List.find?_eq_none]
    intro header member
    simpa [HeaderMap.remove] using (List.mem_filter.mp member).2
  simp [HeaderMap.get, HeaderMap.insert, List.find?_append, removed]

theorem get_insert_other (headers : HeaderMap) {name other : Text} (value : HeaderValue)
    (different : name ≠ other) : (headers.insert name value).get other = headers.get other := by
  have kept : (headers.remove name).find? (fun header => header.1 = other) =
      headers.find? fun header => header.1 = other := by
    rw [HeaderMap.remove, List.find?_filter]
    congr 1
    funext header
    by_cases same : header.1 = other
    · simp [same, Ne.symm different]
    · simp [same]
  simp [HeaderMap.get, HeaderMap.insert, List.find?_append, kept, different]

theorem rewrite_host {crates : Crates} {request rewritten : Request} {scheme : Text}
    (accepted : rewrite crates request = .ok (scheme, rewritten)) :
    ∃ uri headers hostname value, target crates request = .ok (uri, headers) ∧
      uri.scheme = some scheme ∧ uri.hostname = some hostname ∧
      HeaderValue.fromStr (hostHeader scheme hostname uri.port) = .ok value ∧
      rewritten.headers.get host = some value := by
  obtain ⟨uri, headers, hostname, value, origin, parsed, schemeOk, hostOk, valueOk, _, rfl⟩ :=
    rewrite_ok accepted
  exact ⟨uri, headers, hostname, value, parsed, schemeOk, hostOk, valueOk, get_insert _ _ _⟩

/-- The port a request is for when its target names this one, or none. -/
def effectivePort (scheme : Text) (port : Option UInt16) : UInt16 :=
  port.getD (if scheme = http then 80 else 443)

/-- An IP address, or a domain that is one by its characters. -/
def Ordinary : HostName → Prop
  | .v4 _ => True
  | .v6 _ => True
  | .domain name => ':' ∉ name ∧ '[' ∉ name ∧ ']' ∉ name

/-- An IPv6 host whose port, as the default of the scheme, is left out of the header. -/
def PortlessIpv6 (scheme : Text) (hostname : HostName) (port : Option UInt16) : Prop :=
  (∃ addr, hostname = .v6 addr) ∧ ∀ given, port = some given → defaultPort scheme given = true

/-- A host as a `Host` header and an authority hold it, with its port if one is given. -/
def rendered (hostname : HostName) (port : Option UInt16) : Text :=
  hostname.toStringUrlStyle ++
    (match port with
      | some port => ':' :: printPort port
      | none => [])

@[simp] theorem rendered_none (hostname : HostName) :
    rendered hostname none = hostname.toStringUrlStyle := List.append_nil _

@[simp] theorem rendered_some (hostname : HostName) (port : UInt16) :
    rendered hostname (some port) = hostname.toStringUrlStyle ++ ':' :: printPort port := rfl

theorem hostHeader_eq (scheme : Text) (hostname : HostName) (port : Option UInt16) :
    hostHeader scheme hostname port = rendered hostname none ∧
      (∀ given, port = some given → defaultPort scheme given = true) ∨
    ∃ given, port = some given ∧ defaultPort scheme given = false ∧
      hostHeader scheme hostname port = rendered hostname (some given) := by
  cases port with
  | none => exact .inl ⟨by simp [hostHeader], fun given same => by contradiction⟩
  | some given =>
    cases default : defaultPort scheme given with
    | true =>
      refine .inl ⟨by simp [hostHeader, default], ?_⟩
      intro other same
      cases same
      exact default
    | false => exact .inr ⟨given, rfl, default, by simp [hostHeader, default]⟩

theorem effectivePort_default {scheme : Text} {port : Option UInt16}
    (known : scheme = http ∨ scheme = https)
    (default : ∀ given, port = some given → defaultPort scheme given = true) :
    portOr scheme none = .ok (effectivePort scheme port) := by
  have other : https ≠ http := by decide
  cases port with
  | none =>
    rcases known with same | same
    · simp [portOr, effectivePort, same]
    · simp [portOr, effectivePort, same, other]
  | some given =>
    have value := default given rfl
    simp only [defaultPort, Bool.or_eq_true, Bool.and_eq_true, decide_eq_true_eq] at value
    rcases value with ⟨same, port⟩ | ⟨same, port⟩
    · simp [portOr, effectivePort, same, port]
    · simp [portOr, effectivePort, same, port, other]

theorem Ordinary.unbracketed {hostname : HostName} (ordinary : Ordinary hostname) :
    hostname.Unbracketed := by
  intro name same
  cases same
  by_contra bracketed
  exact ordinary.2.1 (isBracketed_mem (by simpa using bracketed))

theorem Ordinary.colon {hostname : HostName} (ordinary : Ordinary hostname)
    (other : ¬ ∃ addr, hostname = .v6 addr) : ':' ∉ hostname.toStringUrlStyle := by
  cases hostname with
  | v4 addr => exact absent_ipv4 addr (by decide) (by decide)
  | v6 addr => exact (other ⟨addr, rfl⟩).elim
  | domain name => exact ordinary.1

theorem Ordinary.opening {hostname : HostName} (ordinary : Ordinary hostname)
    (other : ¬ ∃ addr, hostname = .v6 addr) : '[' ∉ hostname.toStringUrlStyle := by
  cases hostname with
  | v4 addr => exact absent_ipv4 addr (by decide) (by decide)
  | v6 addr => exact (other ⟨addr, rfl⟩).elim
  | domain name => exact ordinary.2.1

section Rendered

variable {hostname : HostName}

theorem parseHostHeader_given (normal : hostname.Normal) (unbracketed : hostname.Unbracketed)
    (given : UInt16) :
    SocketAddr.parseHostHeader (rendered hostname (some given)) = .ok (hostname, some given) := by
  have name := (HostName.fromStr_urlStyle normal).mpr unbracketed
  have split := rsplitOnce_append hostname.toStringUrlStyle (colon_printPort given)
  simp only [SocketAddr.parseHostHeader, rendered_some, split, parsePort_print, name]
  rfl

theorem parseHostHeader_portless (normal : hostname.Normal) (unbracketed : hostname.Unbracketed)
    (plain : ':' ∉ hostname.toStringUrlStyle) :
    SocketAddr.parseHostHeader (rendered hostname none) = .ok (hostname, none) := by
  have name := (HostName.fromStr_urlStyle normal).mpr unbracketed
  have whole := rsplitOnce_none.mpr plain
  simp only [SocketAddr.parseHostHeader, rendered_none, whole, name]
  rfl

/-- The program reads back what it prints, unless an IPv6 host stands without a port. -/
theorem parseHostHeader_rendered (normal : hostname.Normal) (ordinary : Ordinary hostname)
    (port : Option UInt16) :
    SocketAddr.parseHostHeader (rendered hostname port) = .ok (hostname, port) ↔
      ¬ ((∃ addr, hostname = .v6 addr) ∧ port = none) := by
  cases port with
  | some given =>
    constructor
    · intro _ portless
      cases portless.2
    · intro _
      exact parseHostHeader_given normal ordinary.unbracketed given
  | none =>
    by_cases six : ∃ addr, hostname = .v6 addr
    · obtain ⟨addr, rfl⟩ := six
      have unread := parseHostHeader_ipv6 addr normal
      rw [rendered_none, HostName.toStringUrlStyle, unread]
      constructor
      · intro wrong
        cases wrong
      · intro wrong
        exact (wrong ⟨⟨addr, rfl⟩, rfl⟩).elim
    · constructor
      · intro _ portless
        exact six portless.1
      · intro _
        exact parseHostHeader_portless normal ordinary.unbracketed (ordinary.colon six)

theorem parseHostHeader_rendered_name :
    SocketAddr.parseHostHeader "dns.test:443".toList =
      .ok (.domain "dns.test".toList, some 443) := by
  have normal : (HostName.domain "dns.test".toList).Normal := by
    unfold HostName.Normal
    decide
  have ordinary : Ordinary (.domain "dns.test".toList) := by
    unfold Ordinary
    decide
  exact (parseHostHeader_rendered normal ordinary (some 443)).mpr (fun portless => by
    cases portless.2)

/-- `[::1]`, which is how the program prints that host, is refused. -/
theorem rendered_loopback_unread :
    ¬ ∀ hostname : HostName, hostname.Normal → Ordinary hostname → ∀ port,
      SocketAddr.parseHostHeader (rendered hostname port) = .ok (hostname, port) := by
  intro claim
  have read := claim (.v6 ⟨[0, 0, 0, 0, 0, 0, 0, 1], rfl⟩) (by unfold HostName.Normal; decide)
    trivial none
  exact absurd read (by decide)

end Rendered

/-- The address that `http_proxy_` takes from a `Host` header. -/
def readBack (scheme header : Text) : Except Error SocketAddr := do
  let (hostname, port) ← SocketAddr.parseHostHeader header
  let port ← portOr scheme port
  return ⟨hostname, port⟩

/-- Reading the header back gives the target, unless the port of an IPv6 host is left out. -/
theorem hostHeader_readBack {scheme : Text} {hostname : HostName} {port : Option UInt16}
    (known : scheme = http ∨ scheme = https) (normal : hostname.Normal)
    (ordinary : Ordinary hostname) :
    readBack scheme (hostHeader scheme hostname port) =
      .ok ⟨hostname, effectivePort scheme port⟩ ↔ ¬ PortlessIpv6 scheme hostname port := by
  unfold readBack
  rcases hostHeader_eq scheme hostname port with ⟨header, default⟩ | ⟨given, same, other, header⟩
  · rw [header]
    by_cases six : ∃ addr, hostname = .v6 addr
    · have portless : PortlessIpv6 scheme hostname port := ⟨six, default⟩
      obtain ⟨addr, rfl⟩ := six
      have unread := parseHostHeader_ipv6 addr normal
      simp only [rendered_none, HostName.toStringUrlStyle, unread]
      exact ⟨fun wrong => by contradiction, fun wrong => (wrong portless).elim⟩
    · have whole := parseHostHeader_portless normal ordinary.unbracketed (ordinary.colon six)
      have filled := effectivePort_default known default
      rw [whole]
      constructor
      · intro _ portless
        exact six portless.1
      · intro _
        change (do
          let port ← portOr scheme none
          return (⟨hostname, port⟩ : SocketAddr)) = _
        rw [filled]
        rfl
  · have whole := parseHostHeader_given normal ordinary.unbracketed given
    rw [header, whole]
    constructor
    · intro _ portless
      rw [portless.2 given same] at other
      contradiction
    · intro _
      rw [same]
      rfl

/-- The address an authority without user information names in a URI of the scheme: a
host in brackets stands alone or before a colon and the port, any other ends at the last
colon. -/
def named (scheme : Text) : Text → Option SocketAddr
  | '[' :: rest =>
    match splitOnce ']' rest with
    | some (inner, []) => some ⟨.fromStr inner, effectivePort scheme none⟩
    | some (inner, ':' :: port) => (parsePort port).toOption.map fun port => ⟨.fromStr inner, port⟩
    | _ => none
  | authority =>
    match rsplitOnce ':' authority with
    | some (name, port) => (parsePort port).toOption.map fun port => ⟨.fromStr name, port⟩
    | none => some ⟨.fromStr authority, effectivePort scheme none⟩

theorem named_open {scheme authority : Text} (absent : '[' ∉ authority) :
    named scheme authority = match rsplitOnce ':' authority with
      | some (name, port) => (parsePort port).toOption.map fun port => ⟨.fromStr name, port⟩
      | none => some ⟨.fromStr authority, effectivePort scheme none⟩ := by
  cases authority with
  | nil => rfl
  | cons c rest =>
    have other : c ≠ '[' := fun same => absent (by simp [same])
    unfold named
    split
    next rest same => exact (other (List.cons.inj same).1).elim
    next => rfl

theorem named_hostHeader {scheme : Text} {hostname : HostName} {port : Option UInt16}
    (known : scheme = http ∨ scheme = https) (normal : hostname.Normal)
    (ordinary : Ordinary hostname) :
    named scheme (hostHeader scheme hostname port) =
      some ⟨hostname, effectivePort scheme port⟩ := by
  have name := (HostName.fromStr_urlStyle normal).mpr ordinary.unbracketed
  have filled : ∀ {default : Option UInt16},
      (∀ given, default = some given → defaultPort scheme given = true) →
        effectivePort scheme none = effectivePort scheme default := by
    intro default all
    have one := effectivePort_default known all
    rw [effectivePort_default known (fun given same => by contradiction : ∀ given,
      (none : Option UInt16) = some given → defaultPort scheme given = true)] at one
    exact Except.ok.inj one
  rcases hostHeader_eq scheme hostname port with ⟨header, default⟩ | ⟨given, same, other, header⟩
  · rw [header, rendered_none]
    by_cases six : ∃ addr, hostname = .v6 addr
    · obtain ⟨addr, rfl⟩ := six
      have inner := splitOnce_append [] (bracket_ipv6 addr normal (.inr rfl))
      have plain : HostName.fromStr addr.toText = .v6 addr := by
        rw [← name, HostName.toStringUrlStyle, HostName.fromStr_around, HostName.fromStr_plain]
        by_contra bracketed
        exact bracket_ipv6 addr normal (.inl rfl) (isBracketed_mem (by simpa using bracketed))
      simp [HostName.toStringUrlStyle, named, inner, plain, filled default]
    · rw [named_open (ordinary.opening six), rsplitOnce_none.mpr (ordinary.colon six)]
      simp [name, filled default]
  · rw [header, same, rendered_some]
    by_cases six : ∃ addr, hostname = .v6 addr
    · obtain ⟨addr, rfl⟩ := six
      have inner := splitOnce_append (':' :: printPort given) (bracket_ipv6 addr normal (.inr rfl))
      have plain : HostName.fromStr addr.toText = .v6 addr := by
        rw [← name, HostName.toStringUrlStyle, HostName.fromStr_around, HostName.fromStr_plain]
        by_contra bracketed
        exact bracket_ipv6 addr normal (.inl rfl) (isBracketed_mem (by simpa using bracketed))
      simp [HostName.toStringUrlStyle, named, inner, plain, parsePort_print, effectivePort,
        Except.toOption]
    · have absent : '[' ∉ hostname.toStringUrlStyle ++ ':' :: printPort given := by
        have port : '[' ∉ printPort given := absent_printUnsigned _ (by decide)
        simp [ordinary.opening six, port]
      rw [named_open absent, rsplitOnce_append _ (colon_printPort given)]
      simp [name, parsePort_print, effectivePort, Except.toOption]

/-- `http_proxy_` reads this address from the request, dials it where no fake host is
configured, and goes on with it. -/
structure Dials (crates : Crates) (scheme : Text) (request : Request) (addr : SocketAddr) :
    Prop where
  readBack : hostAddr scheme request = .ok addr
  dialled : ∀ resolve config self proxies reqConf, reqConf.fakeHost = none →
    httpProxyDefault crates resolve config self proxies scheme reqConf request = do
      let server ← dial crates resolve config self proxies reqConf addr
      let server ← secure scheme server addr
      exchange server request

theorem dials_iff {crates : Crates} {scheme : Text} {request : Request} {addr : SocketAddr} :
    Dials crates scheme request addr ↔ hostAddr scheme request = .ok addr := by
  constructor
  · intro dials
    exact dials.readBack
  · intro readBack
    refine ⟨readBack, ?_⟩
    intro resolve config self proxies reqConf honest
    rw [httpProxyDefault, readBack, honest]
    rfl

theorem toStr_visible {value : HeaderValue} (visible : Visible value.text) :
    value.toStr = .ok value.text := by
  unfold HeaderValue.toStr
  rw [if_pos (List.all_eq_true.mpr visible)]

theorem AddressChars.rendered {P : Char → Prop} (chars : AddressChars P) {hostname : HostName}
    (all : ∀ c ∈ hostname.toStringUrlStyle, P c) (port : Option UInt16) :
    ∀ c ∈ rendered hostname port, P c := by
  cases port with
  | none =>
    rw [rendered_none]
    exact all
  | some given =>
    intro c member
    rcases List.mem_append.mp member with front | back
    · exact all c front
    · rcases List.mem_cons.mp back with colon | digit
      · rw [colon]
        exact chars.colon
      · exact chars.number _ c digit

theorem AddressChars.hostHeader {P : Char → Prop} (chars : AddressChars P) {scheme : Text}
    {hostname : HostName} {port : Option UInt16} (all : ∀ c ∈ hostname.toStringUrlStyle, P c) :
    ∀ c ∈ hostHeader scheme hostname port, P c := by
  rcases hostHeader_eq scheme hostname port with ⟨header, _⟩ | ⟨given, _, _, header⟩
  · rw [header]
    exact chars.rendered all none
  · rw [header]
    exact chars.rendered all (some given)

theorem visible_hostHeader {scheme : Text} {hostname : HostName} {port : Option UInt16}
    (visible : Visible hostname.toStringUrlStyle) :
    Visible (hostHeader scheme hostname port) :=
  visible_chars.hostHeader visible

theorem hostAddr_header {scheme header : Text} {request : Request}
    (got : request.headers.get host = some ⟨header⟩) (visible : Visible header) :
    hostAddr scheme request = readBack scheme header := by
  have read : (⟨header⟩ : HeaderValue).toStr = .ok header := toStr_visible visible
  rw [hostAddr, got]
  change ((⟨header⟩ : HeaderValue).toStr >>= _) = _
  rw [read]
  rfl

/-- For every request that is accepted, the target's host and effective port are what
`http_proxy_` dials, exactly if the port of an IPv6 host is not left out of the header;
the absolute URI for an HTTP proxy names them always. -/
theorem target_named {crates : Crates} {request rewritten : Request} {scheme : Text}
    {uri : ParsedUri} {headers : HeaderMap} {hostname : HostName}
    (accepted : rewrite crates request = .ok (scheme, rewritten))
    (parsed : target crates request = .ok (uri, headers))
    (present : uri.hostname = some hostname) (ordinary : Ordinary hostname) :
    (Dials crates scheme rewritten ⟨hostname, effectivePort scheme uri.port⟩ ↔
      ¬ PortlessIpv6 scheme hostname uri.port) ∧
    ∀ proxy sent, HttpProxy.absolute crates proxy scheme rewritten = .ok sent →
      ∃ authority, sent.uri.authority = some authority ∧
        named scheme authority.text = some ⟨hostname, effectivePort scheme uri.port⟩ := by
  obtain ⟨uri', headers', hostname', value, again, schemeOk, hostOk, made, got⟩ :=
    rewrite_host accepted
  obtain ⟨rfl, rfl⟩ : uri' = uri ∧ headers' = headers := by
    rw [parsed] at again
    cases again
    exact ⟨rfl, rfl⟩
  obtain rfl : hostname' = hostname := by
    rw [present] at hostOk
    exact (Option.some.inj hostOk).symm
  obtain ⟨sound, schemes⟩ := target_parsed parsed present
  have known : scheme = http ∨ scheme = https := by
    rw [schemeOk] at schemes
    exact schemes.imp Option.some.inj Option.some.inj
  have visible : Visible (hostHeader scheme hostname' uri'.port) := visible_hostHeader sound.visible
  have header : value = ⟨hostHeader scheme hostname' uri'.port⟩ := by
    rw [← HeaderValue.fromStr_ok made]
  rw [header] at got
  constructor
  · rw [dials_iff, ← hostHeader_readBack known sound.normal ordinary, hostAddr_header got visible]
  · intro proxy sent built
    obtain ⟨_, text, _, _, _, present', read, whole, _, same⟩ := HttpProxy.absolute_ok built
    rw [got] at present'
    cases present'
    obtain ⟨authority, names, kept⟩ := build_authority whole
    rw [same]
    refine ⟨authority, names, ?_⟩
    rw [kept, (toStr_ok read).1]
    exact named_hostHeader known sound.normal ordinary

def loopback : HostName := .v6 ⟨[0, 0, 0, 0, 0, 0, 0, 1], rfl⟩

/-- `GET http://[::1]:port/` -/
def loopbackRequest (port : Text) : Request where
  method := .other "GET".toList
  uri := ⟨some http, visibleAuthority ("[::1]:".toList ++ port), ['/']⟩
  headers := []
  body := []

theorem target_named_loopback : ∃ rewritten,
    rewrite .plain (loopbackRequest "8080".toList) = .ok (http, rewritten) ∧
    Dials .plain http rewritten ⟨loopback, 8080⟩ := by
  have accepted : ∃ rewritten,
      rewrite .plain (loopbackRequest "8080".toList) = .ok (http, rewritten) := ⟨_, rfl⟩
  obtain ⟨rewritten, accepted⟩ := accepted
  have parsed : target .plain (loopbackRequest "8080".toList) =
      .ok (⟨some http, none, none, some loopback, some 8080, ['/'], none⟩, []) := by rfl
  have given : ¬ PortlessIpv6 http loopback (some 8080) := by
    intro portless
    have default := portless.2 8080 rfl
    contradiction
  exact ⟨rewritten, accepted, (target_named accepted parsed rfl trivial).1.mpr given⟩

/-- With the port of its scheme, the target is accepted and cannot be read back. -/
theorem loopback_unread : ∃ rewritten uri headers,
    rewrite .plain (loopbackRequest "80".toList) = .ok (http, rewritten) ∧
    target .plain (loopbackRequest "80".toList) = .ok (uri, headers) ∧
    uri.hostname = some loopback ∧ uri.port = some 80 ∧
    hostAddr http rewritten = .error .other :=
  ⟨_, _, _, rfl, rfl, rfl, rfl, rfl⟩

end LocalProxy.HostHeader
