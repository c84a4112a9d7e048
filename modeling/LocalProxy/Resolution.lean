import LocalProxy.Calls
import LocalProxy.Inbound

/-! Resolving a name never needs a name to be resolved: the request of a DNS query goes
over the stack without `happy_eyeballs`, so that the calls of `dns_resolve` nest at most
once. -/

namespace LocalProxy.Resolution
open Strings Addr Http Programs Program Network Select SendRequest Outbound Service Inbound Calls

/-- The request is handed to the next element of the stack. -/
def serve (crates : Crates) (resolve : Resolve) (config : Config) (proxies : ProxyStack)
    (scheme : Text) (reqConf : RequestConfig) (request : Request) : Net Response := do
  let httpProxy ← okOr (nextHttpProxy crates resolve config proxies)
  httpProxy scheme reqConf request

/-- The element of a stack that sends a request on, with the rest of the stack. -/
inductive Server where
  | nobody
  | default (self : Element) (proxies : ProxyStack)
  | forward (proxy : HttpProxy) (proxies : ProxyStack)

def server (scheme : Text) : ProxyStack → Server
  | [] => .nobody
  | .httpProxy proxy :: proxies =>
    if scheme = http then .forward proxy proxies else .default (.httpProxy proxy) proxies
  | .fragment :: proxies =>
    if scheme = http then server scheme proxies else .default .fragment proxies
  | proxy :: proxies => .default proxy proxies

def Server.send (crates : Crates) (resolve : Resolve) (config : Config) (scheme : Text)
    (reqConf : RequestConfig) (request : Request) : Server → Net Response
  | .nobody => .fail .empty
  | .default self proxies =>
    httpProxyDefault crates resolve config self proxies scheme reqConf request
  | .forward proxy proxies => proxy.forward crates (nextConnect crates proxies) scheme request

theorem serve_server (crates : Crates) (resolve : Resolve) (config : Config) (proxies : ProxyStack)
    (scheme : Text) (reqConf : RequestConfig) (request : Request) :
    serve crates resolve config proxies scheme reqConf request =
      (server scheme proxies).send crates resolve config scheme reqConf request := by
  induction proxies with
  | nil => rfl
  | cons proxy proxies ih =>
    cases proxy with
    | httpProxy self =>
      have step : serve crates resolve config (.httpProxy self :: proxies) scheme reqConf request =
          if scheme = http then self.forward crates (nextConnect crates proxies) scheme request
          else httpProxyDefault crates resolve config (.httpProxy self) proxies scheme reqConf
            request := rfl
      rw [step, server]
      split
      · rfl
      · rfl
    | fragment =>
      have step : serve crates resolve config (.fragment :: proxies) scheme reqConf request =
          if scheme = http then serve crates resolve config proxies scheme reqConf request
          else httpProxyDefault crates resolve config .fragment proxies scheme reqConf
            request := rfl
      rw [step, server]
      split
      · exact ih
      · rfl
    | _ => rfl

/-- The operations that sending a request of this method and body may take when no name
is to be resolved. -/
def Serves (method : Method) (body : Body) (operation : Op) : Prop :=
  Opens operation ∨ (∃ server request, operation = .sendRequest server request ∧
    request.method = method ∧ request.body = body) ∨ ∃ server, operation = .proxyUpgrade server

section Serving

variable {crates : Crates} {config : Config} {scheme : Text} {reqConf : RequestConfig}
  {request : Request} {resolve : Resolve}

theorem opens_serves {method : Method} {body : Body} {operation : Op} (opens : Opens operation) :
    Serves method body operation := .inl opens

theorem relay_uses {allowed : Op → Prop} {server : Connection}
    (tunnel : allowed (.proxyUpgrade server)) (response : Response) : (do
      relayUpgrade server response
      return response).Uses allowed := by
  unfold relayUpgrade
  split
  · exact ⟨tunnel, fun _ => trivial⟩
  · trivial

theorem send_uses (server : Connection) : (do
    let response ← Network.sendRequest server request
    relayUpgrade server response
    return response).Uses (Serves request.method request.body) := by
  refine ⟨.inr (.inl ⟨server, request, rfl, rfl, rfl⟩), fun _ => ?_⟩
  apply uses_ofExcept_bind
  intro response _
  exact relay_uses (.inr (.inr ⟨server, rfl⟩)) response

theorem exchange_uses (server : Connection) :
    (exchange server request).Uses (Serves request.method request.body) :=
  ⟨opens_serves trivial, fun _ => uses_ofExcept_bind fun _ _ => send_uses server⟩

theorem secure_uses (server : Connection) (addr : SocketAddr) :
    (secure scheme server addr).Uses Opens := by
  unfold secure
  split
  · exact wrap_opens server addr
  · trivial

theorem default_uses (self : Element) (proxies : ProxyStack) (plain : reqConf.doh = false) :
    (httpProxyDefault crates resolve config self proxies scheme reqConf request).Uses
      (Serves request.method request.body) := by
  apply uses_ofExcept_bind
  intro addr _
  simp only [dial, plain, Bool.false_eq_true, if_false]
  refine ((connect_opens crates self proxies _).mono fun _ => opens_serves).bind fun server => ?_
  refine ((secure_uses server addr).mono fun _ => opens_serves).bind fun server => ?_
  exact exchange_uses server

theorem absolute_same {proxy : HttpProxy} {sent : Request}
    (absolute : proxy.absolute crates scheme request = .ok sent) :
    sent.method = request.method ∧ sent.body = request.body := by
  obtain ⟨_, _, _, _, _, _, _, _, _, same⟩ := HttpProxy.absolute_ok absolute
  rw [same]
  exact ⟨rfl, rfl⟩

theorem forward_uses (proxy : HttpProxy) (proxies : ProxyStack) :
    (proxy.forward crates (nextConnect crates proxies) scheme request).Uses
      (Serves request.method request.body) := by
  apply uses_okOr_bind
  intro connect known
  refine ((stack_opens crates proxies connect known proxy.addr).mono fun _ => opens_serves).bind
    fun server => ?_
  refine ⟨opens_serves trivial, fun _ => uses_ofExcept_bind fun _ _ => ?_⟩
  apply uses_ofExcept_bind
  intro sent absolute
  obtain ⟨method, body⟩ := absolute_same absolute
  rw [← method, ← body]
  exact send_uses server

/-- Sending a request without `doh` resolves no name, whatever the stack. -/
theorem serve_uses (proxies : ProxyStack) (plain : reqConf.doh = false) :
    (serve crates resolve config proxies scheme reqConf request).Uses
      (Serves request.method request.body) := by
  rw [serve_server]
  cases server scheme proxies with
  | nobody => trivial
  | default self rest => exact default_uses self rest plain
  | forward proxy rest => exact forward_uses proxy rest

/-- Nor does it matter how names would be resolved. -/
theorem serve_plain (resolve' : Resolve) (proxies : ProxyStack) (plain : reqConf.doh = false) :
    serve crates resolve config proxies scheme reqConf request =
      serve crates resolve' config proxies scheme reqConf request := by
  rw [serve_server, serve_server]
  cases server scheme proxies with
  | nobody => rfl
  | default self rest =>
    simp only [Server.send, httpProxyDefault, dial, plain, Bool.false_eq_true, if_false]
  | forward proxy rest => rfl

theorem rewrite_same {rewritten : Text × Request}
    (accepted : rewrite crates request = .ok rewritten) :
    rewritten.2.method = request.method ∧ rewritten.2.body = request.body := by
  obtain ⟨_, _, _, _, _, _, _, _, _, _, same⟩ := rewrite_ok accepted
  rw [same]
  exact ⟨rfl, rfl⟩

theorem sendRequest_uses {state : ProxyState} (plain : reqConf.doh = false) :
    (Service.sendRequest crates resolve state reqConf request).Uses
      (Serves request.method request.body) := by
  apply uses_ofExcept_bind
  intro rewritten accepted
  obtain ⟨method, body⟩ := rewrite_same accepted
  rw [← method, ← body]
  exact serve_uses (dispatch state reqConf) plain

theorem sendRequest_plain {state : ProxyState} (resolve' : Resolve) (plain : reqConf.doh = false) :
    Service.sendRequest crates resolve state reqConf request =
      Service.sendRequest crates resolve' state reqConf request := by
  unfold Service.sendRequest
  congr 1
  funext rewritten
  exact serve_plain resolve' (dispatch state reqConf) plain

end Serving

section Queries

variable {crates : Crates} {resolve : Resolve} {state : ProxyState} {query : Bytes}

/-- The operations that a DNS query may take: all are about the query under one ID. -/
def Queries (query : Bytes) (operation : Op) : Prop :=
  Serves .post [.ok (.data query)] operation ∨ operation = .cacheGet query ∨
    ∃ answer, operation = .cacheInsert query answer

theorem dohRequest_post {doh : DoHConfig} {request : Request}
    (made : dohRequest crates doh query = .ok request) :
    request.method = .post ∧ request.body = [.ok (.data query)] := by
  obtain ⟨endpoint, _, same⟩ := bind_ok made
  cases same
  exact ⟨rfl, rfl⟩

theorem fetch_uses :
    (fetch crates resolve state query).Uses (Serves .post [.ok (.data query)]) := by
  refine uses_okOr_bind fun doh _ => uses_ofExcept_bind fun request made => ?_
  obtain ⟨method, body⟩ := dohRequest_post made
  rw [← method, ← body]
  refine (sendRequest_uses rfl).bind fun response => uses_ensure_bind ?_
  exact uses_ofExcept _ _

theorem fetch_plain (resolve' : Resolve) :
    fetch crates resolve state = fetch crates resolve' state := by
  funext query
  unfold fetch
  congr 1
  funext doh
  congr 1
  funext request
  rw [sendRequest_plain resolve' rfl]

theorem lookup_uses : (lookup crates resolve state query).Uses (Queries query) := by
  refine ⟨.inr (.inl rfl), fun cached => ?_⟩
  cases cached with
  | some result => trivial
  | none =>
    refine (fetch_uses.mono fun _ => .inl).bind fun result => ?_
    exact ⟨.inr (.inr ⟨result, rfl⟩), fun _ => trivial⟩

/-- The query as it is looked up and sent upstream. -/
def patched (query : Bytes) : Bytes := 0xab :: 0xcd :: query.drop 2

theorem setId_ok {id : UInt8 × UInt8} {bytes result : Bytes} (set : setId id bytes = .ok result) :
    result = id.1 :: id.2 :: bytes.drop 2 := by
  match bytes with
  | [] => cases set
  | [_] => cases set
  | _ :: _ :: rest =>
    cases set
    rfl

theorem dohQuery_uses : (dohQuery crates resolve state query).Uses (Queries (patched query)) := by
  refine uses_ofExcept_bind fun id _ => uses_ofExcept_bind fun sent set => ?_
  rw [setId_ok set]
  exact lookup_uses.bind fun result => uses_ofExcept _ _

theorem dohQuery_plain (resolve' : Resolve) :
    dohQuery crates resolve state = dohQuery crates resolve' state := by
  funext query
  unfold dohQuery lookup
  rw [fetch_plain resolve']

/-- No call of `dns_resolve` is left open. -/
def Unresolving : Op → Prop
  | .dnsResolve _ _ => False
  | _ => True

theorem opens_unresolving {operation : Op} (opens : Opens operation) : Unresolving operation := by
  cases operation with
  | dnsResolve hostname qtype => exact opens.elim
  | _ => trivial

theorem queries_unresolving {operation : Op} (queries : Queries query operation) :
    Unresolving operation := by
  rcases queries with (opens | ⟨_, _, same, _⟩ | ⟨_, same⟩) | same | ⟨_, same⟩
  · exact opens_unresolving opens
  all_goals
    rw [same]
    trivial

theorem resolveBy_uses {hostname : HostName} {qtype : QueryType} :
    (resolveBy crates (dohQuery crates resolve state) hostname qtype).Uses Unresolving := by
  cases hostname with
  | v4 addr => trivial
  | v6 addr => trivial
  | domain name =>
    unfold resolveBy
    dsimp only
    split
    · refine (dohQuery_uses.mono fun _ => queries_unresolving).bind fun result => ?_
      exact uses_ofExcept_bind fun _ _ => trivial
    · trivial
    · exact ⟨trivial, fun answer => answer.elim⟩

/-- One level of `dns_resolve` is all there is. -/
theorem resolveTo_one (depth : Nat) :
    resolveTo crates state (depth + 1) = resolveTo crates state 1 := by
  unfold resolveTo
  rw [dohQuery_plain (resolveTo crates state 0)]

theorem branch_uses {allowed : Op → Prop} {connect : Connect} {addr : SocketAddr}
    {qtype : QueryType} (lookup : (resolve addr.hostname qtype).Uses allowed)
    (dial : ∀ addr, (connect addr).Uses allowed) :
    (branch resolve connect addr qtype).Uses allowed := by
  apply lookup.attempt.bind
  intro resolved
  cases resolved with
  | error error => trivial
  | ok ip =>
    refine (uses_okOr_bind fun ip _ => dial ⟨ip, addr.port⟩).attempt.bind fun connected => ?_
    cases connected with
    | ok conn => trivial
    | error error => trivial

/-- The race does what its lookups do, warns and opens connections. -/
theorem happyEyeballs_uses {allowed : Op → Prop} {config : Config} {self : Element}
    {proxies : ProxyStack} {addr : SocketAddr}
    (dial : ∀ addr, (connect crates self proxies addr).Uses allowed) (warns : allowed .warn)
    (lookup : ∀ qtype, (resolve addr.hostname qtype).Uses allowed) :
    (happyEyeballs crates resolve config self proxies addr).Uses allowed := by
  unfold happyEyeballs
  split
  · exact dial addr
  · refine select_uses ?_ (branch_uses (lookup .aaaa) dial) (branch_uses (lookup .a) dial)
    intro dohFailedV6 dohFailedV4
    unfold warnIf
    split
    · exact ⟨warns, fun _ => dial addr⟩
    · exact dial addr

/-- The DNS queries that name resolution makes resolve no name: they are the same
whatever resolves names, and one level of `dns_resolve` leaves no call of it open. -/
theorem dohQuery_nested (crates : Crates) (state : ProxyState) :
    (∀ resolve resolve', dohQuery crates resolve state = dohQuery crates resolve' state) ∧
    (∀ resolve query, (dohQuery crates resolve state query).Uses (Queries (patched query))) ∧
    (∀ depth, resolveTo crates state (depth + 1) = resolveTo crates state 1) ∧
    ∀ self proxies addr, (happyEyeballs crates (resolveTo crates state 1) state.config self proxies
      addr).Uses Unresolving :=
  ⟨fun _ resolve' => dohQuery_plain resolve', fun _ _ => dohQuery_uses, resolveTo_one,
    fun self proxies _ => happyEyeballs_uses
      (fun addr => (connect_opens crates self proxies addr).mono fun _ => opens_unresolving)
      trivial fun _ => resolveBy_uses⟩

end Queries

end LocalProxy.Resolution
