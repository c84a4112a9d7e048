import LocalProxy.Monitors
import LocalProxy.Resolution

/-! Which streams a connection over the stack is made of. A property that a fresh socket has,
that TLS, the upgrade of a connection and the fragmenting layer keep, and that allows what is
done to a stream on its way is one of every connection over every stack. -/

namespace LocalProxy.Streams
open Strings Addr Http Programs Program Network SendRequest Outbound Service Handshake Calls
open Resolution Monitors

/-- The stream that an operation is about. -/
def streamOf : Op → Option Connection
  | .setNodelay stream => some stream
  | .tlsConnect _ stream => some stream
  | .handshake stream => some stream
  | .sendRequest stream _ => some stream
  | .upgrade stream => some stream
  | .proxyUpgrade stream => some stream
  | .writeAll stream _ => some stream
  | .flush stream => some stream
  | .readExact stream _ => some stream
  | _ => none

/-- What a monitor says of the good streams of a stack. -/
structure Carries {σ : Type} (monitor : Monitor Op Ans σ) (within : σ → σ → Prop)
    (good : Connection → σ → Prop) (proxies : ProxyStack) : Prop where
  grows : monitor.Grows within
  kept : ∀ conn state more, within state more → good conn state → good conn more
  dial : ∀ addr state, monitor.allows state (.tcpConnect addr)
  dialled : ∀ addr socket state,
    good (.tcpStream socket) (monitor.after state ⟨.tcpConnect addr, .ok socket⟩)
  use : ∀ {operation server state}, Opens operation → streamOf operation = some server →
    good server state → monitor.allows state operation
  secured : ∀ {name server state}, good server state → good (.tlsStream name server) state
  upgraded : ∀ {server state}, good server state → good (.upgraded server) state
  fragmented : Element.fragment ∈ proxies → ∀ {server state}, good server state →
    good (.fragmentLayer server) state

section Rules

variable {α β σ : Type} {monitor : Monitor Op Ans σ} {within : σ → σ → Prop} {state : σ}
  {post : Except Error β → σ → Prop} {holds : β → σ → Prop}

theorem okOr_safe {option : Option α} {next : α → Net β}
    (later : ∀ result, option = some result → Safe monitor (OnValue holds) (next result) state) :
    Safe monitor (OnValue holds) (okOr option >>= next) state := by
  cases option with
  | some result => exact later result rfl
  | none => trivial

theorem ensure_safe {condition : Bool} {next : Unit → Net β}
    (later : Safe monitor (OnValue holds) (next ()) state) :
    Safe monitor (OnValue holds) (ensure condition >>= next) state := by
  cases condition with
  | true => exact later
  | false => trivial

/-- An operation after which no more need be known than before. -/
theorem ask_safe {operation : Op} {next : Ans operation → Net β} (grows : monitor.Grows within)
    (kept : Kept within post) (allowed : monitor.allows state operation)
    (later : ∀ answer, Safe monitor post (next answer) state) :
    Safe monitor post (.ask operation next) state :=
  ⟨allowed, fun answer => (later answer).grow grows kept (grows.grows state ⟨operation, answer⟩)⟩

/-- A program that only talks to one stream, and returns this stream. -/
theorem writes_safe {good : Connection → σ → Prop} {proxies : ProxyStack} {server : Connection}
    {program : Net Connection} {out : Connection → Bytes → Prop}
    (carries : Carries monitor within good proxies) (writes : Writes server program out)
    (same : ∀ conn bytes, out conn bytes → conn = server) (fine : good server state) :
    Safe monitor (OnValue good) program state := by
  have still := fun trace => carries.kept server state _ (carries.grows.run state trace) fine
  refine safe_iff.mpr ⟨?_, ?_⟩
  · intro trace operation next steps
    have speaks := (writes.uses.steps steps).2.1
    have about : streamOf operation = some server := by
      cases operation with
      | writeAll => exact congrArg some speaks
      | flush => exact congrArg some speaks
      | readExact => exact congrArg some speaks
      | _ => exact speaks.elim
    exact carries.use (speaks_opens speaks) about (still trace)
  · intro trace outcome ends
    cases outcome with
    | error error => trivial
    | ok conn =>
      have returned := same conn _ (writes.out trace conn ends)
      show good conn _
      rw [returned]
      exact still trace

end Rules

section Stack

variable {σ : Type} {monitor : Monitor Op Ans σ} {within : σ → σ → Prop} {state : σ}
  {good : Connection → σ → Prop} {crates : Crates} {proxies : ProxyStack}

theorem Carries.postcondition (carries : Carries monitor within good proxies) :
    Kept within (OnValue good : Except Error Connection → σ → Prop) := kept_onValue carries.kept

theorem Carries.tail {proxy : Element} (carries : Carries monitor within good (proxy :: proxies)) :
    Carries monitor within good proxies :=
  { carries with fragmented := fun member => carries.fragmented (List.mem_cons_of_mem _ member) }

/-- What is done to a good stream on the way. -/
theorem Carries.on (carries : Carries monitor within good proxies) {operation : Op}
    {server : Connection} {next : Ans operation → Net Connection} (opens : Opens operation)
    (about : streamOf operation = some server) (fine : good server state)
    (later : ∀ answer, Safe monitor (OnValue good) (next answer) state) :
    Safe monitor (OnValue good) (.ask operation next) state :=
  ask_safe carries.grows carries.postcondition (carries.use opens about fine) later

/-- The rest of the stack gives good connections. -/
def AllGood (monitor : Monitor Op Ans σ) (good : Connection → σ → Prop) (next : Option Connect) :
    Prop :=
  ∀ connect, next = some connect → ∀ addr state, Safe monitor (OnValue good) (connect addr) state

theorem through_safe {β : Type} {holds : β → σ → Prop} {next : Option Connect} {addr : SocketAddr}
    {rest : Connection → Net β} (below : AllGood monitor good next)
    (later : ∀ server known, good server known → Safe monitor (OnValue holds) (rest server) known) :
    Safe monitor (OnValue holds) (okOr next >>= fun connect => connect addr >>= rest) state :=
  okOr_safe fun connect known => (below connect known addr state).andThen later

theorem Carries.raw (carries : Carries monitor within good proxies) {next : Option Connect}
    (below : AllGood monitor good next) (addr : SocketAddr) :
    Safe monitor (OnValue good) (Raw.connect next addr) state := by
  cases next with
  | some connect => exact below connect rfl addr state
  | none =>
    refine ⟨carries.dial addr.toText state, fun answer => safe_ofExcept_bind fun socket same => ?_⟩
    cases same
    have fine := carries.dialled addr.toText socket state
    exact carries.on trivial rfl fine fun _ => safe_ofExcept_bind fun _ _ => fine

theorem Carries.wrap (carries : Carries monitor within good proxies) {server : Connection}
    (fine : good server state) (addr : SocketAddr) :
    Safe monitor (OnValue good) (TlsClient.wrap server addr) state :=
  carries.on trivial rfl fine fun _ => safe_ofExcept_bind fun _ _ => carries.secured fine

theorem Carries.http (carries : Carries monitor within good proxies) (proxy : HttpProxy)
    {server : Connection} (fine : good server state) (addr : SocketAddr) :
    Safe monitor (OnValue good) (proxy.tunnel crates server addr) state := by
  refine carries.on trivial rfl fine fun _ => safe_ofExcept_bind fun _ _ => ?_
  refine safe_ofExcept_bind fun request built => ?_
  refine carries.on (request_shape built).1 rfl fine fun _ => safe_ofExcept_bind fun _ _ => ?_
  refine ensure_safe ?_
  exact carries.on trivial rfl fine fun _ => safe_ofExcept_bind fun _ _ => carries.upgraded fine

theorem Carries.element (carries : Carries monitor within good proxies) {self : Element}
    (member : self ∈ proxies) {next : Option Connect} (below : AllGood monitor good next)
    (addr : SocketAddr) : Safe monitor (OnValue good) (self.connect crates next addr) state := by
  cases self with
  | raw => exact carries.raw below addr
  | tlsClient => exact through_safe below fun server _ fine => carries.wrap fine addr
  | fragment => exact through_safe below fun server _ fine => carries.fragmented member fine
  | httpProxy proxy => exact through_safe below fun server _ fine => carries.http proxy fine addr
  | socks4Proxy proxy =>
    refine safe_ofExcept_bind fun destination _ => through_safe below fun server _ fine => ?_
    exact writes_safe carries (socks4_writes proxy addr.port destination) (fun _ _ both => both.1)
      fine
  | socks5Proxy proxy =>
    refine through_safe below fun server _ fine => ?_
    exact writes_safe carries (socks5_writes proxy addr) (fun _ _ both => both.1) fine

theorem Carries.stack (carries : Carries monitor within good proxies) :
    AllGood monitor good (nextConnect crates proxies) := by
  induction proxies with
  | nil =>
    intro connect none
    cases none
  | cons proxy proxies ih =>
    intro connect same addr state
    cases same
    exact carries.element List.mem_cons_self (ih carries.tail) addr

/-- Every connection over the stack is a good one, and so is what is done for it. -/
theorem Carries.connect {self : Element} (carries : Carries monitor within good (self :: proxies))
    (addr : SocketAddr) :
    Safe monitor (OnValue good) (Outbound.connect crates self proxies addr) state :=
  carries.element List.mem_cons_self carries.tail.stack addr

end Stack

section Race

variable {σ : Type} {monitor : Monitor Op Ans σ} {within : σ → σ → Prop} {state : σ}
  {good : Connection → σ → Prop}

/-- The lookups of names are safe by themselves. -/
def Looks (monitor : Monitor Op Ans σ) (resolve : Resolve) : Prop :=
  ∀ hostname qtype state,
    Safe monitor (OnValue fun _ _ => True) (resolve hostname qtype) state

theorem branch_safe {resolve : Resolve} (looks : Looks monitor resolve) {connect : Connect}
    (dial : ∀ addr state, Safe monitor (OnValue good) (connect addr) state) (addr : SocketAddr)
    (qtype : QueryType) :
    Safe monitor (Branching (OnValue good)) (branch resolve connect addr qtype) state := by
  refine Safe.bind (Safe.attempt ((looks addr.hostname qtype state).mono ?_))
  intro outcome known _
  cases outcome with
  | error error => trivial
  | ok ip =>
    have connected : Safe monitor (OnValue good) (do
        let ip ← okOr ip
        connect ⟨ip, addr.port⟩) known := okOr_safe fun ip _ => dial _ known
    refine Safe.bind (Safe.attempt (connected.mono ?_))
    intro outcome known fine
    cases outcome with
    | ok conn => exact fine
    | error error => trivial

theorem happyEyeballs_safe {crates : Crates} {resolve : Resolve} (grows : monitor.Grows within)
    (kept : ∀ conn state more, within state more → good conn state → good conn more)
    (warns : ∀ state, monitor.allows state .warn) (looks : Looks monitor resolve) (config : Config)
    {self : Element} {proxies : ProxyStack}
    (dial : ∀ addr state, Safe monitor (OnValue good) (connect crates self proxies addr) state)
    (addr : SocketAddr) :
    Safe monitor (OnValue good) (happyEyeballs crates resolve config self proxies addr) state := by
  unfold happyEyeballs
  split
  · exact dial addr state
  · refine select_safe grows (kept_onValue kept) ?_ (branch_safe looks dial addr .aaaa)
      (branch_safe looks dial addr .a)
    intro dohFailedV6 dohFailedV4 more _
    have warned : Safe monitor (OnValue fun _ _ => True) (warnIf (dohFailedV6 || dohFailedV4))
        more := by
      unfold warnIf
      split
      · exact ⟨warns more, fun _ => trivial⟩
      · trivial
    exact warned.andThen fun _ known _ => dial addr known

/-- What is done to a stream that is ready to send a request over it. -/
structure Sends (monitor : Monitor Op Ans σ) (ready : Connection → σ → Prop) (request : Request) :
    Prop where
  shake : ∀ {server state}, ready server state → monitor.allows state (.handshake server)
  send : ∀ {server state}, ready server state → monitor.allows state (.sendRequest server request)
  relay : ∀ {server state}, ready server state → monitor.allows state (.proxyUpgrade server)

end Race

section Requests

variable {σ : Type} {monitor : Monitor Op Ans σ} {within : σ → σ → Prop} {state : σ}
  {good ready : Connection → σ → Prop} {crates : Crates} {resolve : Resolve} {request : Request}

/-- A program of whose value nothing more need be known. -/
abbrev Minds {α : Type} (monitor : Monitor Op Ans σ) (program : Net α) (state : σ) : Prop :=
  Safe monitor (OnValue fun _ _ => True) program state

theorem kept_true {α : Type} : Kept within (OnValue fun _ _ => True : Except Error α → σ → Prop) :=
  kept_onValue fun _ _ _ _ _ => trivial

theorem Sends.safe (sends : Sends monitor ready request) (grows : monitor.Grows within)
    {server : Connection} (fine : ready server state) : Minds monitor (do
      let response ← Network.sendRequest server request
      relayUpgrade server response
      return response) state := by
  refine ask_safe grows kept_true (sends.send fine) fun _ => safe_ofExcept_bind fun response _ => ?_
  unfold relayUpgrade
  split
  · exact ask_safe grows kept_true (sends.relay fine) fun _ => trivial
  · trivial

theorem Sends.exchange (sends : Sends monitor ready request) (grows : monitor.Grows within)
    {server : Connection} (fine : ready server state) :
    Minds monitor (exchange server request) state :=
  ask_safe grows kept_true (sends.shake fine) fun _ =>
    safe_ofExcept_bind fun _ _ => sends.safe grows fine

/-- The default of `http_proxy`: connect, then TLS if need be, then the request. -/
theorem default_safe {self : Element} {proxies : ProxyStack} {scheme : Text}
    (grows : monitor.Grows within)
    (kept : ∀ conn state more, within state more → good conn state → good conn more)
    (warns : ∀ state, monitor.allows state .warn) (looks : Looks monitor resolve)
    (connects : ∀ addr state, Safe monitor (OnValue good) (connect crates self proxies addr) state)
    (secures : ∀ server addr known, good server known →
      Safe monitor (OnValue ready) (secure scheme server addr) known)
    (sends : Sends monitor ready request) (config : Config) (reqConf : RequestConfig) :
    Minds monitor (httpProxyDefault crates resolve config self proxies scheme reqConf request)
      state := by
  refine safe_ofExcept_bind fun addr _ => ?_
  have dialled : ∀ fake, Safe monitor (OnValue good)
      (dial crates resolve config self proxies reqConf fake) state := by
    intro fake
    unfold dial
    split
    · exact happyEyeballs_safe grows kept warns looks config connects fake
    · exact connects fake state
  refine (dialled _).andThen fun server known fine => ?_
  refine (secures server addr known fine).andThen fun secured _ fine => ?_
  exact sends.exchange grows fine

/-- The request goes to an HTTP proxy, as that proxy is sent it. -/
theorem Carries.forward {proxies : ProxyStack} {scheme : Text}
    (carries : Carries monitor within good proxies) (proxy : HttpProxy)
    (sends : ∀ sent, proxy.absolute crates scheme request = .ok sent → Sends monitor good sent) :
    Minds monitor (proxy.forward crates (nextConnect crates proxies) scheme request) state := by
  refine through_safe carries.stack fun server _ fine => ?_
  refine ask_safe carries.grows kept_true (carries.use trivial rfl fine) fun _ =>
    safe_ofExcept_bind fun _ _ => ?_
  exact safe_ofExcept_bind fun sent absolute => (sends sent absolute).safe carries.grows fine

/-- A DNS query, when its request is safe. -/
theorem dohQuery_safe {proxyState : ProxyState} (grows : monitor.Grows within)
    (gets : ∀ state query, monitor.allows state (.cacheGet query))
    (inserts : ∀ state query answer, monitor.allows state (.cacheInsert query answer))
    (sends : ∀ doh query posted known, proxyState.config.doh = some doh →
      dohRequest crates doh query = .ok posted → Minds monitor
        (Service.sendRequest crates resolve proxyState (dohRequestConfig proxyState.config doh)
          posted) known) (query : Bytes) :
    Minds monitor (dohQuery crates resolve proxyState query) state := by
  refine safe_ofExcept_bind fun id _ => safe_ofExcept_bind fun sent _ => ?_
  have fetched : Minds monitor (fetch crates resolve proxyState sent) state := by
    refine okOr_safe fun doh set => safe_ofExcept_bind fun posted made => ?_
    refine (sends doh sent posted state set made).andThen fun response known _ => ?_
    exact ensure_safe (safe_ofExcept.mpr (onValue_true _ _))
  have found : Minds monitor (Service.lookup crates resolve proxyState sent) state := by
    refine ask_safe grows kept_true (gets state sent) fun cached => ?_
    cases cached with
    | some result => trivial
    | none =>
      have missing : Minds monitor (fetch crates resolve proxyState sent >>= fun result =>
          cacheInsert sent result >>= fun _ => value result) state :=
        fetched.andThen fun result known _ =>
          ask_safe grows kept_true (inserts known sent result) fun _ => trivial
      exact missing
  exact found.andThen fun result known _ => safe_ofExcept.mpr (onValue_true _ _)

/-- So `dns_resolve` is safe when its queries are. -/
theorem resolveBy_safe {query : Bytes → Net Bytes}
    (queries : ∀ sent state, Minds monitor (query sent) state)
    (panics : ∀ name qtype state, crates.newQuery name qtype = .panicked →
      monitor.allows state .panic) :
    Looks monitor (resolveBy crates query) := by
  intro hostname qtype state
  cases hostname with
  | v4 addr => trivial
  | v6 addr => trivial
  | domain name =>
    simp only [resolveBy]
    split
    · refine (queries _ state).andThen fun result _ _ => ?_
      exact safe_ofExcept_bind fun _ _ => trivial
    · trivial
    · rename_i same
      exact ⟨panics name qtype state same, fun answer => answer.elim⟩

end Requests

end LocalProxy.Streams
