import LocalProxy.FakeHost
import LocalProxy.Streams

/-! Which streams are fragmented. Every run of the program keeps to the setting as
`config_example.json5` documents it: the layer is the outermost one of the stream that a client
is connected to, a request is sent through it as the setting has it for such requests, and no
proxy is talked to through it. -/

namespace LocalProxy.Fragmentation
open Strings Addr Http Programs Program Network SendRequest Outbound Service Inbound Route
open MainStack Calls Resolution FakeHost HostHeader Monitors Streams

/-- No layer of the stream fragments. -/
def Plain : Connection → Prop
  | .tcpStream _ => True
  | .tlsStream _ inner => Plain inner
  | .upgraded inner => Plain inner
  | .fragmentLayer _ => False

/-- The layer that fragments is the outermost one, or there is none. -/
def Wrapped (fragmented : Bool) (conn : Connection) : Prop :=
  ∃ inner, Plain inner ∧ conn = if fragmented then .fragmentLayer inner else inner

/-- What a request is sent for. -/
inductive Purpose where
  | client
  | doh
  deriving DecidableEq, Repr

/-- `0: Disable fragmentation`, `1: Enable fragmentation for DoH requests only`,
`2: Enable fragmentation for all requests`, and the default is 2. -/
def documented (setting : Option UInt8) : Purpose → Bool
  | .client => decide (2 ≤ setting.getD 2)
  | .doh => decide (1 ≤ setting.getD 2)

/-- Over which stream a request of the scheme goes: what is to be fragmented is the TLS
handshake with its host. -/
def Laid (scheme : Text) (fragmented : Bool) (stream : Connection) : Prop :=
  if scheme = https then ∃ name inner, stream = .tlsStream name inner ∧ Wrapped fragmented inner
  else Plain stream

/-- The requests that are to be sent for a client, who has made this request or none. -/
inductive Due (crates : Crates) (config : Config) (origin : Option Request) :
    Purpose → Request → Prop where
  | client {request} (made : origin = some request) : Due crates config origin .client request
  | doh {doh query request} (endpoint : config.doh = some doh)
    (made : dohRequest crates doh query = .ok request) : Due crates config origin .doh request

/-- What the setting leaves to the program. -/
def Fitting (crates : Crates) (config : Config) (origin : Option Request) : Op → Prop
  | .sendRequest stream posted => posted.method = .connect ∧ Plain stream ∨
    ∃ purpose request scheme sent, Due crates config origin purpose request ∧
      rewrite crates request = .ok (scheme, sent) ∧ posted.method = sent.method ∧
      posted.body = sent.body ∧ Laid scheme (documented config.fragment purpose) stream
  | .setNodelay stream => Plain stream
  | .upgrade stream => Plain stream
  | .writeAll stream _ => Plain stream
  | .flush stream => Plain stream
  | .readExact stream _ => Plain stream
  | _ => True

abbrev fits (crates : Crates) (config : Config) (origin : Option Request) :
    Monitor Op Ans Unit := .always (Fitting crates config origin)

theorem fits_grows (crates : Crates) (config : Config) (origin : Option Request) :
    (fits crates config origin).Grows fun _ _ => True := always_grows

/-- The hops with the layer behind them, as the stack is gone through. -/
def layered (fragmented : Bool) (hops : List Hop) : ProxyStack :=
  (if fragmented then [.fragment] else []) ++ backwards hops

theorem client_layered {config : Config} {hops : List Hop} :
    (if fragmentsAll config then [Element.fragment] else []) ++ backwards hops =
      layered (documented config.fragment .client) hops := by
  have same : fragmentsAll config = documented config.fragment .client := by
    unfold fragmentsAll documented
    cases config.fragment with
    | none => rfl
    | some level => rfl
  rw [same, layered]

theorem doh_layered {config : Config} {hops : List Hop} :
    dohStack config hops = layered (documented config.fragment .doh) hops := by
  unfold dohStack layered documented
  cases config.fragment with
  | none => rfl
  | some level =>
    have levels : (1 ≤ level) ↔ level ≠ 0 := by
      rw [UInt8.le_iff_toNat_le, ne_eq, ← UInt8.toNat_inj]
      simp only [UInt8.toNat_ofNat]
      omega
    simp [levels]

theorem backwards_plain (hops : List Hop) : Element.fragment ∉ backwards hops := by
  induction hops using List.reverseRecOn with
  | nil => decide
  | append_singleton hops hop ih =>
    rw [backwards_concat]
    intro member
    rcases List.mem_cons.mp member with same | below
    · cases served : hop.proxy with
      | http proxy => rw [served] at same; cases same
      | socks4 proxy => rw [served] at same; cases same
      | socks5 proxy => rw [served] at same; cases same
    · rcases List.mem_append.mp below with layer | rest
      · cases (List.mem_replicate.mp layer).2
      · exact ih rest

section Runs

variable {crates : Crates} {config : Config} {origin : Option Request} {hops : List Hop}
  {resolve : Resolve} {fragmented : Bool}

/-- A proxy is only talked to over a stream without the layer. -/
theorem plain_carries (crates : Crates) (config : Config) (origin : Option Request)
    (proxies : ProxyStack) (absent : Element.fragment ∉ proxies) :
    Carries (fits crates config origin) (fun _ _ => True) (fun conn _ => Plain conn) proxies where
  grows := fits_grows crates config origin
  kept _ _ _ _ plain := plain
  dial _ _ := trivial
  dialled _ _ _ := trivial
  use {operation server _} opens about plain := by
    cases operation with
    | sendRequest stream request =>
      cases about
      exact .inl ⟨opens, plain⟩
    | setNodelay => cases about; exact plain
    | upgrade => cases about; exact plain
    | writeAll => cases about; exact plain
    | flush => cases about; exact plain
    | readExact => cases about; exact plain
    | _ => trivial
  secured plain := plain
  upgraded plain := plain
  fragmented member := (absent member).elim

theorem layered_connect {self : Element} {rest : ProxyStack}
    (order : layered fragmented hops = self :: rest) (addr : SocketAddr) (known : Unit) :
    Safe (fits crates config origin) (OnValue fun conn _ => Wrapped fragmented conn)
      (connect crates self rest addr) known := by
  have plain := plain_carries crates config origin (backwards hops) (backwards_plain hops)
  cases fragmented with
  | true =>
    cases order
    exact through_safe plain.stack fun server _ fine => ⟨server, fine, rfl⟩
  | false =>
    have stack : backwards hops = self :: rest := order
    rw [stack] at plain
    refine (plain.connect addr).mono ?_
    intro outcome _ fine
    cases outcome with
    | ok conn => exact ⟨conn, fine, rfl⟩
    | error error => trivial

/-- A request that is due may be sent over the streams of its purpose, and so may another one
that only differs in its URI and its headers. -/
theorem due_sends {purpose : Purpose} {request sent posted : Request} {scheme : Text}
    (due : Due crates config origin purpose request)
    (accepted : rewrite crates request = .ok (scheme, sent)) (method : posted.method = sent.method)
    (body : posted.body = sent.body) :
    Sends (fits crates config origin)
      (fun conn (_ : Unit) => Laid scheme (documented config.fragment purpose) conn) posted where
  shake _ := trivial
  send laid := .inr ⟨purpose, request, scheme, sent, due, accepted, method, body, laid⟩
  relay _ := trivial

theorem rewrite_scheme {request sent : Request} {scheme : Text}
    (accepted : rewrite crates request = .ok (scheme, sent)) : scheme = http ∨ scheme = https := by
  obtain ⟨uri, headers, hostname, _, read, named, present, _, _⟩ := rewrite_host accepted
  obtain ⟨_, schemes⟩ := target_parsed read present
  rw [named] at schemes
  exact schemes.imp Option.some.inj Option.some.inj

theorem serve_fitting {purpose : Purpose} {request sent : Request} {scheme : Text}
    (due : Due crates config origin purpose request)
    (accepted : rewrite crates request = .ok (scheme, sent))
    (looks : Looks (fits crates config origin) resolve) (reqConf : RequestConfig) :
    Minds (fits crates config origin) (serve crates resolve config
      (layered (documented config.fragment purpose) hops) scheme reqConf sent) () := by
  rw [serve_server]
  rcases rewrite_scheme accepted with plain | tls
  · -- The layer passes the request through, to the chain behind it.
    have through : server scheme (layered (documented config.fragment purpose) hops) =
        server scheme (backwards hops) := by
      unfold layered
      split
      · simp only [List.singleton_append, server, if_pos plain]
      · rfl
    have other : scheme ≠ https := by
      rw [plain]
      decide
    have laid : (fun conn (_ : Unit) => Laid scheme (documented config.fragment purpose) conn) =
        fun conn _ => Plain conn := by
      funext conn _
      simp only [Laid, if_neg other]
    rw [through]
    rcases server_backwards scheme hops with
      ⟨front, hop, proxy, _, last, served, forwards⟩ | ⟨_, self, rest, way, default⟩
    · rw [forwards]
      have absent := backwards_plain (front ++ [hop])
      rw [backwards_concat] at absent
      refine (plain_carries crates config origin _ fun member =>
        absent (List.mem_cons_of_mem _ member)).forward proxy fun posted absolute => ?_
      obtain ⟨method, body⟩ := absolute_same absolute
      exact laid ▸ due_sends due accepted method body
    · rw [default]
      have absent := backwards_plain hops
      rw [way] at absent
      refine default_safe (fits_grows crates config origin) (fun _ _ _ _ fine => fine)
        (fun _ => trivial) looks
        (fun addr _ => (plain_carries crates config origin _ absent).connect addr) ?_
        (laid ▸ due_sends due accepted rfl rfl) config reqConf
      intro conn addr _ fine
      simp only [secure, if_neg other]
      exact fine
  · -- The stream comes through the layer, and TLS goes over it.
    have other : scheme ≠ http := by
      rw [tls]
      decide
    have first : ∀ proxies : ProxyStack, proxies ≠ [] → ∃ self rest, proxies = self :: rest ∧
        server scheme proxies = .default self rest := by
      intro proxies some
      cases proxies with
      | nil => exact (some rfl).elim
      | cons self rest =>
        refine ⟨self, rest, rfl, ?_⟩
        cases self with
        | httpProxy proxy => simp only [server, if_neg other]
        | fragment => simp only [server, if_neg other]
        | _ => rfl
    obtain ⟨self, rest, order, default⟩ := first
      (layered (documented config.fragment purpose) hops) (by simp [layered, backwards])
    rw [default]
    refine default_safe (fits_grows crates config origin) (fun _ _ _ _ fine => fine)
      (fun _ => trivial) looks (layered_connect order) ?_ (due_sends due accepted rfl rfl) config reqConf
    intro conn addr _ fine
    simp only [secure, if_pos tls, Laid]
    exact ⟨trivial, fun _ => safe_ofExcept_bind fun _ _ => ⟨_, conn, rfl, fine⟩⟩

/-- The queries for a client's names are sent as the setting has it for them. -/
theorem dohQuery_fitting {state : ProxyState}
    (stack : ∀ doh, ∃ hops, dispatch state (dohRequestConfig state.config doh) =
      dohStack state.config hops) (query : Bytes) (known : Unit) :
    Minds (fits crates state.config origin) (dohQuery crates resolve state query)
      known := by
  rw [dohQuery_plain dnsResolve]
  refine dohQuery_safe (fits_grows crates state.config origin) (fun _ _ => trivial)
    (fun _ _ _ => trivial) ?_ query
  intro doh sent posted known endpoint made
  refine safe_ofExcept_bind fun rewritten accepted => ?_
  show Minds _ (serve crates dnsResolve state.config
    (dispatch state (dohRequestConfig state.config doh)) rewritten.1 _ rewritten.2) ()
  obtain ⟨hops, same⟩ := stack doh
  rw [same, doh_layered]
  refine serve_fitting (.doh endpoint made) accepted ?_ _
  intro hostname qtype _
  exact ⟨trivial, fun _ => safe_ofExcept.mpr (onValue_true _ _)⟩

theorem resolveTo_fitting {state : ProxyState}
    (stack : ∀ doh, ∃ hops, dispatch state (dohRequestConfig state.config doh) =
      dohStack state.config hops) :
    Looks (fits crates state.config origin) (resolveTo crates state 1) :=
  resolveBy_safe (fun sent known => dohQuery_fitting stack sent known) fun _ _ _ _ => trivial

/-- The connection that bytes of a client are relayed over. -/
theorem connectRun_wrapped {state : ProxyState}
    (looks : Looks (fits crates state.config origin) resolve)
    (shape : state.proxyStack.reverse = layered fragmented hops) (request : Request) :
    Safe (fits crates state.config origin) (OnValue fun conn _ => Wrapped fragmented conn)
      (connectRun crates resolve state request) () := by
  refine safe_ofExcept_bind fun server _ => ?_
  rw [shape]
  cases order : layered fragmented hops with
  | nil => trivial
  | cons proxy proxies =>
    exact happyEyeballs_safe (fits_grows crates state.config origin) (fun _ _ _ _ fine => fine)
      (fun _ => trivial) looks state.config (layered_connect order) server

theorem tproxyRun_wrapped {stack : List Element}
    (shape : stack.reverse = layered fragmented hops) (destination : StdNet.SocketAddr) :
    Safe (fits crates config origin) (OnValue fun conn _ => Wrapped fragmented conn)
      (tproxyRun crates ⟨config, stack⟩ destination) () := by
  unfold tproxyRun
  rw [shape]
  cases order : layered fragmented hops with
  | nil => trivial
  | cons proxy proxies => exact layered_connect order _ ()

theorem handle_fitting {state : ProxyState} {request : Request}
    (looks : Looks (fits crates state.config (some request)) resolve)
    (shape : state.proxyStack.reverse =
      layered (documented state.config.fragment .client) hops) :
    Minds (fits crates state.config (some request)) (handle crates resolve state request) () := by
  have served : Minds (fits crates state.config (some request)) (if request.method = .connect then
      connectResponse crates resolve state request
    else do
      let response ← httpProxyRun crates resolve state request
      return Response.keptAlive response) () := by
    split
    · exact (connectRun_wrapped looks shape request).andThen fun _ _ _ => trivial
    · have sent : Minds (fits crates state.config (some request))
          (httpProxyRun crates resolve state request) () := by
        refine safe_ofExcept_bind fun rewritten accepted => ?_
        show Minds _ (serve crates resolve state.config state.proxyStack.reverse rewritten.1 _
          rewritten.2) ()
        rw [shape]
        exact serve_fitting (.client rfl) accepted looks .new
      exact sent.andThen fun _ _ _ => trivial
  have answered : Minds (fits crates state.config (some request)) (attempt (
      if request.method = .connect then connectResponse crates resolve state request
      else do
        let response ← httpProxyRun crates resolve state request
        return Response.keptAlive response)) () := Safe.attempt (served.mono fun _ _ _ => trivial)
  refine answered.andThen fun outcome _ _ => ?_
  cases outcome with
  | ok response => trivial
  | error error => trivial

/-- In every run over the stack of `main`, for whichever client, each stream is fragmented as
the setting is documented: those that clients are relayed over, and those that requests and
DNS queries are sent over. -/
theorem streams_documented {lines : List Text} {stack : List Element}
    (built : buildStack crates config lines = some stack) :
    (∀ request trace left,
      Steps (handle crates (resolveTo crates ⟨config, stack⟩ 1) ⟨config, stack⟩ request) trace left →
      ∀ event ∈ trace, Fitting crates config (some request) event.operation) ∧
    (∀ query source trace left,
      Steps (dnsRun crates (resolveTo crates ⟨config, stack⟩ 1) ⟨config, stack⟩ query source) trace
        left → ∀ event ∈ trace, Fitting crates config none event.operation) ∧
    (∀ destination trace left, Steps (tproxyRun crates ⟨config, stack⟩ destination) trace left →
      ∀ event ∈ trace, Fitting crates config none event.operation) ∧
    (∀ request trace conn, Returns (connectRun crates (resolveTo crates ⟨config, stack⟩ 1)
      ⟨config, stack⟩ request) trace conn → Wrapped (documented config.fragment .client) conn) ∧
    ∀ destination trace conn, Returns (tproxyRun crates ⟨config, stack⟩ destination) trace conn →
      Wrapped (documented config.fragment .client) conn := by
  obtain ⟨hops, _, shape⟩ := stack_built built
  rw [client_layered] at shape
  have queried : ∀ doh, ∃ hops, dispatch ⟨config, stack⟩ (dohRequestConfig config doh) =
      dohStack config hops := by
    intro doh
    obtain ⟨hops, _, same⟩ := dohStack_built doh built
    exact ⟨hops, same⟩
  refine ⟨?_, ?_, ?_, ?_, ?_⟩
  · intro request trace left steps
    exact (handle_fitting (resolveTo_fitting queried) shape).events steps
  · intro query source trace left steps
    have answered : Minds (fits crates config none) (dnsRun crates
        (resolveTo crates ⟨config, stack⟩ 1) ⟨config, stack⟩ query source) () := by
      refine (dohQuery_fitting queried query ()).andThen fun result _ _ => ?_
      exact ⟨trivial, fun _ => safe_ofExcept.mpr (onValue_true _ _)⟩
    exact answered.events steps
  · intro destination trace left steps
    have relayed : Safe (fits crates config none) (OnValue fun conn _ => Wrapped _ conn) _ () :=
      tproxyRun_wrapped shape destination
    exact relayed.events steps
  · intro request trace conn success
    have looks : Looks (fits crates config (some request)) (resolveTo crates ⟨config, stack⟩ 1) :=
      resolveTo_fitting queried
    exact ((connectRun_wrapped looks shape request).steps success).2
  · intro destination trace conn success
    have relayed : Safe (fits crates config none) (OnValue fun conn _ => Wrapped _ conn) _ () :=
      tproxyRun_wrapped shape destination
    exact (relayed.steps success).2

end Runs

/-- Libraries for plain text that also know the scheme `https`. -/
def secureCrates : Crates :=
  { Crates.plain with
    uriFromStr := fun text =>
      if "https://".toList.isPrefixOf text then
        let rest := text.drop 8
        (visibleAuthority (rest.takeWhile fun c => c ≠ '/')).map fun authority =>
          ⟨some https, some authority, rest.dropWhile fun c => c ≠ '/'⟩
      else plainUri text }

/-- A server that only fragments its DNS queries. -/
def dohOnly : Config where
  proxies := none
  doh := some ⟨"https://dns.test/".toList, none⟩
  fragment := some 1

/-- The streams that requests are sent over. -/
def sentOver (trace : Trace) : List Connection :=
  trace.filterMap fun event => match event.operation with
    | .sendRequest stream _ => some stream
    | _ => none

theorem streams_documented_doh : ∃ trace,
    sentOver trace = [.tlsStream "dns.test".toList (.fragmentLayer (.tcpStream 3))] ∧
    ∀ event ∈ trace, Fitting secureCrates dohOnly none event.operation := by
  have built : buildStack secureCrates dohOnly [] = some [.raw] := by decide
  have steps := drive_steps (willing ⟨200, [], [.ok (.data [1, 2, 3])]⟩) true
    (dnsRun secureCrates (resolveTo secureCrates ⟨dohOnly, [.raw]⟩ 1) ⟨dohOnly, [.raw]⟩ [7, 7, 9]
      ⟨.v4 ⟨127, 0, 0, 1⟩, 53⟩)
  obtain ⟨_, answered, _⟩ := streams_documented built
  exact ⟨_, by decide, answered _ _ _ _ steps⟩

end LocalProxy.Fragmentation
