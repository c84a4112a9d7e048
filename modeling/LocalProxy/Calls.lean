import LocalProxy.Handshake

/-! What the programs ask for: opening a connection over the stack takes no name to be
resolved, touches no cache and sends no request but `CONNECT`. -/

namespace LocalProxy.Calls
open Strings Addr Http Programs Program Network SendRequest Outbound Service Handshake

/-- The operations that opening a connection may take. -/
def Opens : Op → Prop
  | .tcpConnect _ => True
  | .setNodelay _ => True
  | .tlsConnect _ _ => True
  | .handshake _ => True
  | .sendRequest _ request => request.method = .connect
  | .upgrade _ => True
  | .writeAll _ _ => True
  | .flush _ => True
  | .readExact _ _ => True
  | _ => False

theorem speaks_opens {server : Connection} {operation : Op} (speaks : Speaks server operation) :
    Opens operation := by
  cases operation with
  | writeAll stream bytes => trivial
  | flush stream => trivial
  | readExact stream count => trivial
  | _ => exact speaks.elim

section Rules

variable {α β : Type} {allowed : Op → Prop}

theorem uses_ofExcept_bind {outcome : Except Error α} {next : α → Net β}
    (later : ∀ result, outcome = .ok result → (next result).Uses allowed) :
    (ofExcept outcome >>= next).Uses allowed := by
  cases outcome with
  | ok result => exact later result rfl
  | error error => trivial

theorem uses_okOr_bind {option : Option α} {next : α → Net β}
    (later : ∀ result, option = some result → (next result).Uses allowed) :
    (okOr option >>= next).Uses allowed := by
  cases option with
  | some result => exact later result rfl
  | none => trivial

theorem uses_ensure_bind {condition : Bool} {next : Unit → Net β}
    (later : (next ()).Uses allowed) : (ensure condition >>= next).Uses allowed := by
  cases condition with
  | true => exact later
  | false => trivial

end Rules

/-- What a connection over the stack may ask for: of requests only the `CONNECT` ones that
the HTTP proxies of the stack make. -/
structure Admits (crates : Crates) (proxies : ProxyStack) (allowed : Op → Prop) : Prop where
  plain : ∀ operation, Opens operation →
    (∀ server request, operation ≠ .sendRequest server request) → allowed operation
  tunnel : ∀ proxy addr server request, Element.httpProxy proxy ∈ proxies →
    proxy.request crates addr = .ok request → allowed (.sendRequest server request)

theorem opens_admits (crates : Crates) (proxies : ProxyStack) : Admits crates proxies Opens where
  plain := fun _ opens _ => opens
  tunnel := fun _ _ _ _ _ built => (request_shape built).1

section Stack

variable {crates : Crates} {proxies : ProxyStack} {allowed : Op → Prop}

theorem Admits.tail {proxy : Element} (admits : Admits crates (proxy :: proxies) allowed) :
    Admits crates proxies allowed where
  plain := admits.plain
  tunnel := fun proxy addr server request member =>
    admits.tunnel proxy addr server request (List.mem_cons_of_mem _ member)

/-- The rest of the stack gives an element such connections. -/
def AllUse (allowed : Op → Prop) (next : Option Connect) : Prop :=
  ∀ connect, next = some connect → ∀ addr, (connect addr).Uses allowed

/-- An element first asks the rest of the stack for a connection. -/
theorem through_uses {β : Type} {next : Option Connect} {addr : SocketAddr}
    {rest : Connection → Net β} (below : AllUse allowed next)
    (later : ∀ server, (rest server).Uses allowed) :
    (okOr next >>= fun connect => connect addr >>= rest).Uses allowed :=
  uses_okOr_bind fun connect known => (below connect known addr).bind later

theorem Admits.raw (admits : Admits crates proxies allowed) {next : Option Connect}
    (below : AllUse allowed next) (addr : SocketAddr) : (Raw.connect next addr).Uses allowed := by
  cases next with
  | some connect => exact below connect rfl addr
  | none =>
    refine ⟨admits.plain _ trivial (by simp), fun answer => uses_ofExcept_bind fun socket _ => ?_⟩
    exact ⟨admits.plain _ trivial (by simp), fun answer => uses_ofExcept_bind fun _ _ => trivial⟩

theorem Admits.wrap (admits : Admits crates proxies allowed) (server : Connection)
    (addr : SocketAddr) : (TlsClient.wrap server addr).Uses allowed :=
  ⟨admits.plain _ trivial (by simp), fun _ => uses_ofExcept_bind fun _ _ => trivial⟩

theorem Admits.http {proxy : HttpProxy} (admits : Admits crates proxies allowed)
    (member : Element.httpProxy proxy ∈ proxies) (server : Connection) (addr : SocketAddr) :
    (proxy.tunnel crates server addr).Uses allowed := by
  refine ⟨admits.plain _ trivial (by simp), fun _ => uses_ofExcept_bind fun _ _ => ?_⟩
  apply uses_ofExcept_bind
  intro request built
  refine ⟨admits.tunnel proxy addr server request member built, fun _ => ?_⟩
  refine uses_ofExcept_bind fun response _ => uses_ensure_bind ?_
  exact ⟨admits.plain _ trivial (by simp), fun _ => uses_ofExcept_bind fun _ _ => trivial⟩

theorem Admits.speaks (admits : Admits crates proxies allowed) {server : Connection}
    {operation : Op} (speaks : Speaks server operation) : allowed operation := by
  apply admits.plain _ (speaks_opens speaks)
  intro stream request same
  rw [same] at speaks
  exact speaks.elim

theorem Admits.element {self : Element} (admits : Admits crates proxies allowed)
    (member : self ∈ proxies) {next : Option Connect} (below : AllUse allowed next)
    (addr : SocketAddr) : (self.connect crates next addr).Uses allowed := by
  cases self with
  | raw => exact admits.raw below addr
  | tlsClient => exact through_uses below fun server => admits.wrap server addr
  | fragment => exact through_uses below fun server => trivial
  | httpProxy proxy => exact through_uses below fun server => admits.http member server addr
  | socks4Proxy proxy =>
    refine uses_ofExcept_bind fun destination _ => through_uses below fun server => ?_
    exact (socks4_writes proxy addr.port destination).uses.mono fun _ => admits.speaks
  | socks5Proxy proxy =>
    apply through_uses below
    intro server
    exact (socks5_writes proxy addr).uses.mono fun _ => admits.speaks

theorem Admits.stack (admits : Admits crates proxies allowed) :
    AllUse allowed (nextConnect crates proxies) := by
  induction proxies with
  | nil =>
    intro connect none
    cases none
  | cons proxy proxies ih =>
    intro connect same addr
    cases same
    exact admits.element (by simp) (ih admits.tail) addr

theorem Admits.connect {self : Element} (admits : Admits crates (self :: proxies) allowed)
    (addr : SocketAddr) : (connect crates self proxies addr).Uses allowed :=
  admits.element (by simp) admits.tail.stack addr

end Stack

theorem wrap_opens (server : Connection) (addr : SocketAddr) :
    (TlsClient.wrap server addr).Uses Opens :=
  ⟨trivial, fun _ => uses_ofExcept_bind fun _ _ => trivial⟩

/-- The connections an element is given by the rest of the stack. -/
def AllOpen (next : Option Connect) : Prop :=
  ∀ connect, next = some connect → ∀ addr, (connect addr).Uses Opens

theorem stack_opens (crates : Crates) (proxies : ProxyStack) :
    AllOpen (nextConnect crates proxies) :=
  (opens_admits crates proxies).stack

theorem connect_opens (crates : Crates) (self : Element) (proxies : ProxyStack)
    (addr : SocketAddr) : (connect crates self proxies addr).Uses Opens :=
  (opens_admits crates (self :: proxies)).connect addr

end LocalProxy.Calls
