import LocalProxy.Journey

/-! What each proxy of the chain has been told at any moment of a run. A proxy is spoken to only
when all before it have granted what they were asked, and by its own protocol it is then told
the goal of its hop and the credentials that are configured for it. -/

namespace LocalProxy.Conversation
open Strings Addr Http Programs Program Network SendRequest Outbound Service Handshake Route
open MainStack SocksReply SocksRequest Journey

/-- The requests that were sent in the course of some events. -/
def requests (trace : Trace) : List Request :=
  trace.filterMap fun event => match event.operation with
    | .sendRequest _ request => some request
    | _ => none

theorem requests_append (before after : Trace) :
    requests (before ++ after) = requests before ++ requests after := List.filterMap_append

theorem received_append (before after : Trace) :
    received (before ++ after) = received before ++ received after := List.flatMap_append

/-- The credentials of a configuration as an HTTP proxy is given them. -/
def basic (crates : Crates) (config : ProxyConfig) : Option HeaderValue :=
  let auth := config.user.getD [] ++ ':' :: config.password.getD []
  if (asBytes auth).length > 1 then some ⟨"Basic ".toList ++ crates.base64 auth⟩ else none

/-- What a proxy reads in the events of its leg: the goal, and the credentials configured. With HTTP
and SOCKS4 these are the user and the password joined by a `:`, which either may have in it. -/
def Told (crates : Crates) (config : ProxyConfig) (goal : SocketAddr) (trace : Trace) :
    Proxy → Prop
  | .http _ => ∃ request, requests trace = [request] ∧ request.method = .connect ∧
      crates.uriFromStr goal.toText = some request.uri ∧
      request.headers.get host = some ⟨goal.toText⟩ ∧
      request.headers.get "proxy-authorization".toList = basic crates config
  | .socks4 _ => Socks4Request.readAsked (written trace) = some (⟨goal.port,
      asBytes (Socks4Request.userId config), .of goal.hostname⟩, [])
  | .socks5 _ => ∃ method rest, received trace = 5 :: method :: rest ∧
      readAsked method (written trace) = some (⟨[0, 2],
        if method = 2 then some (asBytes (config.user.getD []), asBytes (config.password.getD []))
          else none, .of goal.hostname, goal.port⟩, [])

/-- Setting up TLS, which says nothing to a proxy. -/
def Secures : Op → Prop
  | .tlsConnect _ _ => True
  | _ => False

theorem secureLayers_secures (addr : SocketAddr) (count : Nat) (conn : Connection) :
    (secureLayers addr count conn).Uses Secures := by
  induction count with
  | zero => trivial
  | succ count ih =>
    refine ih.bind fun below => ⟨trivial, fun answer => ?_⟩
    exact (uses_ofExcept _ answer).bind fun _ => trivial

theorem secures_silent {trace : Trace} (secures : ∀ event ∈ trace, Secures event.operation) :
    written trace = [] ∧ received trace = [] ∧ requests trace = [] := by
  induction trace with
  | nil => exact ⟨rfl, rfl, rfl⟩
  | cons event rest ih =>
    obtain ⟨writes, reads, sends⟩ := ih fun other member =>
      secures other (List.mem_cons_of_mem _ member)
    have first := secures event List.mem_cons_self
    obtain ⟨operation, answer⟩ := event
    cases operation with
    | tlsConnect name stream => exact ⟨writes, reads, sends⟩
    | _ => exact first.elim

/-- Events that say nothing, before those of the handshake. -/
theorem Told.after {crates : Crates} {config : ProxyConfig} {goal : SocketAddr}
    {before trace : Trace} {proxy : Proxy} (told : Told crates config goal trace proxy)
    (secures : ∀ event ∈ before, Secures event.operation) :
    Told crates config goal (before ++ trace) proxy := by
  obtain ⟨writes, reads, sends⟩ := secures_silent secures
  cases proxy with
  | http proxy => simpa only [Told, requests_append, sends, List.nil_append] using told
  | socks4 proxy => simpa only [Told, written_append, writes, List.nil_append] using told
  | socks5 proxy =>
    simpa only [Told, written_append, received_append, writes, reads, List.nil_append] using told

theorem returns_past {program : Net Connection} {trace : Trace} {conn : Connection}
    (returns : Returns program trace conn) : PastWrites program trace (.value conn) :=
  ⟨returns, trivial, fun _ same => by cases same⟩

section Protocols

variable {crates : Crates} {config : ProxyConfig} {goal : SocketAddr} {server conn : Connection}
  {trace : Trace}

/-- The header with the credentials is there if the configuration has any. -/
theorem request_basic {proxy : HttpProxy} {request : Request}
    (made : HttpProxy.new crates config = .ok proxy)
    (built : proxy.request crates goal = .ok request) :
    request.headers.get "proxy-authorization".toList = basic crates config := by
  obtain ⟨addr, _, same⟩ := bind_ok made
  cases same
  obtain ⟨uri, _, rest⟩ := bind_ok built
  obtain ⟨value, _, rest⟩ := bind_ok rest
  obtain ⟨headers, authorized, same⟩ := bind_ok rest
  cases same
  have others : "proxy-authorization".toList ≠ host ∧
      "proxy-authorization".toList ≠ "connection".toList ∧
      "proxy-authorization".toList ≠ "proxy-connection".toList := by decide
  unfold HttpProxy.authorized at authorized
  unfold basic
  dsimp only at authorized ⊢
  by_cases long : (asBytes (config.user.getD [] ++ ':' :: config.password.getD [])).length > 1
  · rw [if_pos long] at authorized ⊢
    obtain ⟨credentials, valid, same⟩ := bind_ok authorized
    cases same
    have text := HeaderValue.fromStr_ok valid
    simp only [HeaderMap.get, HeaderMap.append, List.cons_append, List.nil_append,
      List.find?_cons, others.1.symm, others.2.1.symm, others.2.2.symm, decide_false, decide_true,
      Option.map_some]
    rw [← text]
  · rw [if_neg long] at authorized ⊢
    cases authorized
    simp only [HeaderMap.get, List.find?_cons, others.1.symm, others.2.1.symm, others.2.2.symm,
      decide_false, List.find?_nil, Option.map_none]

theorem http_told {proxy : HttpProxy} (made : HttpProxy.new crates config = .ok proxy)
    (success : Returns (proxy.tunnel crates server goal) trace conn) :
    Told crates config goal trace (.http proxy) := by
  obtain ⟨shaken, first, one, success⟩ := returns_ask.mp success
  obtain ⟨_, _, success⟩ := returns_ofExcept_bind.mp success
  obtain ⟨request, built, success⟩ := returns_ofExcept_bind.mp success
  obtain ⟨answered, second, two, success⟩ := returns_ask.mp success
  obtain ⟨response, _, success⟩ := returns_ofExcept_bind.mp success
  obtain ⟨_, success⟩ := returns_ensure_bind.mp success
  obtain ⟨upgraded, third, three, success⟩ := returns_ask.mp success
  obtain ⟨_, _, success⟩ := returns_ofExcept_bind.mp success
  obtain ⟨empty, _⟩ := returns_value.mp success
  obtain ⟨method, uri, header⟩ := request_shape built
  refine ⟨request, ?_, method, uri, header, request_basic made built⟩
  rw [one, two, three, empty]
  rfl

theorem socks4_told {proxy : Socks4Proxy} (made : Socks4Proxy.new config = .ok proxy)
    (success : Returns (tunnel crates (.socks4 proxy) server goal) trace conn) :
    Told crates config goal trace (.socks4 proxy) := by
  obtain ⟨destination, known, success⟩ := returns_ofExcept_bind.mp success
  have said := (Socks4Request.tunnel_past proxy goal.port destination).out trace _
    (returns_past success)
  obtain ⟨auth, plain⟩ := Socks4Request.new_userId made
  have free : 0 ∉ authBytes proxy.auth := by
    rw [auth]
    exact Socks4Request.asBytes_free plain
  show Socks4Request.readAsked (written trace) = _
  rw [said, Socks4Request.readAsked_request free known, auth]

theorem socks5_told {proxy : Socks5Proxy} (made : Socks5Proxy.new config = .ok proxy)
    (success : Returns (proxy.tunnel server goal) trace conn) :
    Told crates config goal trace (.socks5 proxy) := by
  obtain ⟨_, user, password, short⟩ := Socks5Proxy.new_ok made
  obtain ⟨encodable, method, rest, heard, said⟩ := (SocksRequest.tunnel_past proxy goal).out trace _
    (returns_past success)
  refine ⟨method, rest, heard, ?_⟩
  rw [said, ← user, ← password]
  exact readAsked_request short encodable method

/-- A leg that has been granted has told its proxy all there is to tell. -/
theorem leg_told {hop : Hop} (equips : Equips crates config hop)
    (granted : Returns (leg crates server (hop, goal)) trace conn) :
    Told crates config goal trace hop.proxy := by
  obtain ⟨secured, before, after, split, layered, success⟩ := returns_bind.mp granted
  have secures := ((secureLayers_secures hop.server hop.layers server).steps layered).1
  rw [split]
  refine Told.after ?_ secures
  obtain ⟨layers, proxy⟩ := hop
  cases equips.made with
  | http made => exact http_told made success
  | socks4 made => exact socks4_told made success
  | socks5 made => exact socks5_told made success

end Protocols

/-- A hop with its configuration and its goal. -/
abbrev Station := ProxyConfig × Hop × SocketAddr

/-- How far a run along the hops has come: past those that have granted their goals, each of
them told its own, and in one that has not ended. What is left goes on from there. -/
inductive Underway (crates : Crates) : Connection → List Station → Trace → Net Connection → Prop
    where
  | arrived (conn) : Underway crates conn [] [] (.value conn)
  | within {conn config hop goal rest trace middle}
    (steps : Steps (leg crates conn (hop, goal)) trace middle)
    (unfinished : ∀ next, middle ≠ .value next) :
    Underway crates conn ((config, hop, goal) :: rest) trace
      (middle >>= fun next => legs crates next (rest.map Prod.snd))
  | passed {conn config hop goal rest before after next left}
    (granted : Returns (leg crates conn (hop, goal)) before next)
    (told : Told crates config goal before hop.proxy) (later : Underway crates next rest after left) :
    Underway crates conn ((config, hop, goal) :: rest) (before ++ after) left

theorem legs_underway {crates : Crates} {stations : List Station} {conn : Connection}
    {trace : Trace} {left : Net Connection}
    (equips : ∀ station ∈ stations, Equips crates station.1 station.2.1)
    (steps : Steps (legs crates conn (stations.map Prod.snd)) trace left) :
    Underway crates conn stations trace left := by
  induction stations generalizing conn trace with
  | nil =>
    obtain ⟨empty, same⟩ := steps_value.mp steps
    rw [empty, same]
    exact .arrived conn
  | cons station rest ih =>
    obtain ⟨config, hop, goal⟩ := station
    have equipped : Equips crates config hop := equips _ List.mem_cons_self
    have others := fun station member => equips station (List.mem_cons_of_mem _ member)
    rcases steps_bind steps with ⟨middle, first, same⟩ | ⟨next, before, after, split, first, later⟩
    · cases middle with
      | value next =>
        have going : Underway crates next rest [] left := ih others (same ▸ .still _)
        rw [← List.append_nil trace]
        exact .passed first (leg_told equipped first) going
      | fail error => exact same ▸ .within first fun _ absurd => by cases absurd
      | ask operation resume => exact same ▸ .within first fun _ absurd => by cases absurd
      | choose resume => exact same ▸ .within first fun _ absurd => by cases absurd
    · rw [split]
      exact .passed first (leg_told equipped first) (ih others later)

/-- The whole way: refused before anything is done, still at its first connection, or along
the hops over the socket that was opened to the first of them. -/
inductive Way (crates : Crates) (config : Config) (stations : List Station) (first : SocketAddr) :
    Trace → Net Connection → Prop where
  | refused (unnamed : ¬ (stations.map Prod.snd).all carries) :
    Way crates config stations first [] (.fail .empty)
  | dialling {trace middle} (steps : Steps (Raw.connect none first) trace middle)
    (unfinished : ∀ conn, middle ≠ .value conn) :
    Way crates config stations first trace (middle >>= fun conn =>
      legs crates conn (stations.map Prod.snd) >>= fun inner => value (wrapped config inner))
  | along {socket rest left}
    (named : (stations.map Prod.snd).all carries = true)
    (underway : Underway crates (.tcpStream socket) stations rest left) :
    Way crates config stations first (opening first socket ++ rest)
      (left >>= fun inner => value (wrapped config inner))

/-- A socket that is there was opened by two events. -/
theorem raw_opening {first : SocketAddr} {trace : Trace} {conn : Connection}
    (success : Returns (Raw.connect none first) trace conn) :
    ∃ socket, conn = .tcpStream socket ∧ trace = opening first socket := by
  obtain ⟨_, started, one, success⟩ := returns_ask.mp success
  obtain ⟨socket, connected, success⟩ := returns_ofExcept_bind.mp success
  obtain ⟨_, rest, two, success⟩ := returns_ask.mp success
  obtain ⟨_, nodelay, success⟩ := returns_ofExcept_bind.mp success
  obtain ⟨empty, same⟩ := returns_value.mp success
  refine ⟨socket, same.symm, ?_⟩
  rw [one, two, empty, connected, nodelay]
  rfl

theorem journey_way {crates : Crates} {config : Config} {stations : List Station}
    {hops : List Hop} {target : SocketAddr} {trace : Trace} {left : Net Connection}
    (equips : ∀ station ∈ stations, Equips crates station.1 station.2.1)
    (all : stations.map Prod.snd = goals hops target)
    (steps : Steps (journey crates hops target >>= fun inner => value (wrapped config inner))
      trace left) : Way crates config stations (entry hops target) trace left := by
  unfold journey at steps
  rw [← all, Program.bind_assoc] at steps
  cases named : (stations.map Prod.snd).all carries with
  | false =>
    rw [named] at steps
    obtain ⟨empty, same⟩ := steps_fail.mp steps
    rw [empty, same]
    exact .refused (by rw [named]; exact Bool.false_ne_true)
  | true =>
    rw [named] at steps
    have going : Steps (Raw.connect none (entry hops target) >>= fun conn =>
        legs crates conn (stations.map Prod.snd) >>= fun inner => value (wrapped config inner))
        trace left := by
      have shape := steps
      simp only [ensure, if_true, value_bind, Program.bind_assoc] at shape
      exact shape
    have onwards : ∀ {conn before after}, Returns (Raw.connect none (entry hops target)) before
        conn → Steps (legs crates conn (stations.map Prod.snd) >>= fun inner =>
          value (wrapped config inner)) after left →
        Way crates config stations (entry hops target) (before ++ after) left := by
      intro conn before after dialled later
      obtain ⟨socket, same, opened⟩ := raw_opening dialled
      subst same
      rw [opened]
      rcases steps_bind later with ⟨middle, walked, same⟩ | ⟨inner, front, back, split, walked, last⟩
      · rw [same]
        exact .along named (legs_underway equips walked)
      · obtain ⟨empty, same⟩ := steps_value.mp last
        rw [split, empty, List.append_nil, same]
        exact .along named (legs_underway equips walked)
    rcases steps_bind going with ⟨middle, dialled, same⟩ | ⟨conn, before, after, split, dialled, later⟩
    · cases middle with
      | value conn =>
        rw [← List.append_nil trace]
        exact onwards dialled (same ▸ .still _)
      | fail error => exact same ▸ .dialling dialled fun _ absurd => by cases absurd
      | ask operation resume => exact same ▸ .dialling dialled fun _ absurd => by cases absurd
      | choose resume => exact same ▸ .dialling dialled fun _ absurd => by cases absurd
    · rw [split]
      exact onwards dialled later

theorem asks_length (hops : List Hop) (target : SocketAddr) :
    min hops.length (asks hops target).length = hops.length := by
  cases hops with
  | nil => rfl
  | cons hop rest => simp [asks]

theorem zip_equips {crates : Crates} {configs : List ProxyConfig} {hops : List Hop}
    {others : List SocketAddr} (equips : List.Forall₂ (Equips crates) configs hops)
    {station : Station} (member : station ∈ configs.zip (hops.zip others)) :
    Equips crates station.1 station.2.1 := by
  induction equips generalizing others with
  | nil => cases member
  | cons first _ ih =>
    cases others with
    | nil => cases member
    | cons other others =>
      rcases List.mem_cons.mp member with same | later
      · rw [same]
        exact first
      · exact ih later

/-- At any moment of any run of a connection over the stack of `main`, the proxies that have
granted their goals are the first ones of the configured chain, in its order, and each has been
told by its own protocol the server of the next one, the last the target, with the credentials
it was configured with, as far as the protocol keeps a user and a password apart; of the others at
most the next one has been spoken to. -/
theorem connect_told {crates : Crates} {config : Config} {lines : List Text}
    {stack proxies : List Element} {first : Element}
    (built : buildStack crates config lines = some stack)
    (order : stack.reverse = first :: proxies) :
    ∃ hops, List.Forall₂ (Equips crates) (equipped (config.proxies.getD []) lines) hops ∧
      ∀ target trace left, Steps (connect crates first proxies target) trace left →
        Way crates config ((equipped (config.proxies.getD []) lines).zip (goals hops target))
          (entry hops target) trace left := by
  obtain ⟨hops, equips, shape⟩ := stack_equipped built
  refine ⟨hops, equips, fun target trace left steps => ?_⟩
  rw [order] at shape
  have reached : Steps (reach crates (first :: proxies) target) trace left := steps
  rw [shape, stack_journey] at reached
  have lengths : (goals hops target).length = (equipped (config.proxies.getD []) lines).length := by
    rw [equips.length_eq, goals, List.length_zip, asks_length]
  refine journey_way ?_ (List.map_snd_zip (Nat.le_of_eq lengths)) reached
  intro station member
  exact zip_equips equips member

/-- The chain of two HTTP proxies, with the credentials of the first typed in. -/
theorem connect_told_chained : ∃ hops,
    List.Forall₂ (Equips Crates.plain)
      (equipped (chainedProxies.proxies.getD []) chainedLines) hops ∧
    ∀ target trace left,
      Steps (connect Crates.plain .fragment chainedStack.reverse target) trace left →
      Way Crates.plain chainedProxies
        ((equipped (chainedProxies.proxies.getD []) chainedLines).zip (goals hops target))
        (entry hops target) trace left :=
  connect_told chainedStack_built rfl

end LocalProxy.Conversation
