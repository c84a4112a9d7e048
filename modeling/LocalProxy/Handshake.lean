import LocalProxy.Service

/-! What the handshakes with the proxies of a chain say, and to which stream: an HTTP
proxy is sent one `CONNECT` request, a SOCKS proxy is written the bytes of its request. -/

namespace LocalProxy.Handshake
open StdNet (Ipv4Addr Ipv6Addr)
open Strings Addr Http Programs Program Network SendRequest Outbound

/-- Reading from and writing to one stream. -/
def Speaks (server : Connection) : Op → Prop
  | .writeAll stream _ => stream = server
  | .flush stream => stream = server
  | .readExact stream _ => stream = server
  | _ => False

/-- The bytes written in the course of some events. -/
def written (trace : Trace) : Bytes :=
  trace.flatMap fun event => match event.operation with
    | .writeAll _ bytes => bytes
    | _ => []

theorem written_append (before after : Trace) :
    written (before ++ after) = written before ++ written after := List.flatMap_append

/-- The program only talks to the server, and what it returns goes with what it has
written by then. -/
structure Writes {α : Type} (server : Connection) (program : Net α) (out : α → Bytes → Prop) :
    Prop where
  uses : program.Uses (Speaks server)
  out : ∀ trace result, Returns program trace result → out result (written trace)

/-- Nothing is written. -/
def Silent {α : Type} (_ : α) (bytes : Bytes) : Prop := bytes = []

variable {α β : Type} {server : Connection} {out : β → Bytes → Prop}

/-- A part that writes nothing, before the rest. -/
theorem Writes.silent {program : Net α} {next : α → Net β} (first : Writes server program Silent)
    (later : ∀ result, Writes server (next result) out) : Writes server (program >>= next) out := by
  refine ⟨first.uses.bind fun result => (later result).uses, ?_⟩
  intro trace result returns
  obtain ⟨middle, before, after, split, one, two⟩ := returns_bind.mp returns
  have nothing : written before = [] := first.out before middle one
  rw [split, written_append, nothing]
  exact (later middle).out after result two

/-- A part that writes, before the rest. -/
theorem Writes.bind {program : Net α} {next : α → Net β} {first : α → Bytes → Prop}
    {rest : β → Bytes → Prop} (writes : Writes server program first)
    (later : ∀ result, Writes server (next result) rest) :
    Writes server (program >>= next) fun result bytes =>
      ∃ middle before after, bytes = before ++ after ∧ first middle before ∧ rest result after := by
  refine ⟨writes.uses.bind fun result => (later result).uses, ?_⟩
  intro trace result returns
  obtain ⟨middle, before, after, split, one, two⟩ := returns_bind.mp returns
  rw [split, written_append]
  exact ⟨middle, _, _, rfl, writes.out before middle one,
    (later middle).out after result two⟩

theorem Writes.mono {more : β → Bytes → Prop} {program : Net β} (writes : Writes server program out)
    (weaker : ∀ result bytes, out result bytes → more result bytes) :
    Writes server program more :=
  ⟨writes.uses, fun trace result returns => weaker _ _ (writes.out trace result returns)⟩

theorem writes_value (result : α) :
    Writes server (value result) fun final bytes => final = result ∧ bytes = [] := by
  refine ⟨trivial, ?_⟩
  intro trace final returns
  obtain ⟨empty, same⟩ := returns_value.mp returns
  rw [empty]
  exact ⟨same.symm, rfl⟩

theorem silent_value (result : α) : Writes server (value result) Silent :=
  (writes_value result).mono fun _ _ both => both.2

theorem silent_fail (error : Error) : Writes server (fail error : Net β) out := by
  refine ⟨trivial, ?_⟩
  intro trace final returns
  exact (by cases (steps_fail.mp returns).2)

theorem silent_ofExcept (outcome : Except Error α) : Writes server (ofExcept outcome) Silent := by
  cases outcome with
  | ok result => exact silent_value result
  | error error => exact silent_fail error

theorem writes_ask {operation : Op} {next : Ans operation → Net α} {bytes : Bytes}
    (speaks : Speaks server operation) (output : ∀ answer, written [⟨operation, answer⟩] = bytes)
    (later : ∀ answer, Writes server (next answer) Silent) :
    Writes server (ask operation next) fun _ said => said = bytes := by
  refine ⟨⟨speaks, fun answer => (later answer).uses⟩, ?_⟩
  intro trace result returns
  obtain ⟨answer, rest, split, last⟩ := returns_ask.mp returns
  have nothing : written rest = [] := (later answer).out rest result last
  calc written trace = written [⟨operation, answer⟩] ++ written rest := by
        rw [split, ← written_append]
        rfl
    _ = bytes := by rw [output answer, nothing, List.append_nil]

theorem writes_writeAll (bytes : Bytes) :
    Writes server (writeAll server bytes) fun _ said => said = bytes :=
  writes_ask rfl (fun _ => List.append_nil bytes) silent_ofExcept

/-- A part that writes these bytes, before the rest. -/
theorem Writes.andThen {program : Net α} {next : α → Net β} {good : β → Prop} {bytes rest : Bytes}
    (first : Writes server program fun _ said => said = bytes)
    (later : ∀ result, Writes server (next result) fun result said => good result ∧ said = rest) :
    Writes server (program >>= next) fun result said => good result ∧ said = bytes ++ rest := by
  apply (first.bind later).mono
  intro result said split
  obtain ⟨_, before, after, whole, same, fine, last⟩ := split
  exact ⟨fine, by rw [whole, same, last]⟩

theorem Writes.write {next : Unit → Net β} {good : β → Prop} {bytes rest : Bytes}
    (later : Writes server (next ()) fun result said => good result ∧ said = rest) :
    Writes server (writeAll server bytes >>= next)
      fun result said => good result ∧ said = bytes ++ rest :=
  (writes_writeAll bytes).andThen fun _ => later

theorem Writes.flush {next : Unit → Net β} (later : Writes server (next ()) out) :
    Writes server (flush server >>= next) out := by
  apply Writes.silent _ fun _ => later
  exact writes_ask rfl (fun _ => rfl) silent_ofExcept

theorem Writes.readExact {count : Nat} {next : { bytes : Bytes // bytes.length = count } → Net β}
    (later : ∀ bytes, Writes server (next bytes) out) :
    Writes server (readExact server count >>= next) out := by
  apply Writes.silent _ later
  exact writes_ask rfl (fun _ => rfl) silent_ofExcept

theorem silent_readU8 : Writes server (readU8 server) Silent :=
  Writes.readExact fun _ => silent_value _

theorem Writes.readU8 {next : UInt8 → Net β} (later : ∀ byte, Writes server (next byte) out) :
    Writes server (readU8 server >>= next) out :=
  silent_readU8.silent later

theorem silent_ensure (condition : Bool) : Writes server (ensure condition) Silent := by
  cases condition with
  | false => exact silent_fail .empty
  | true => exact silent_value ()

theorem Writes.ensure {condition : Bool} {next : Unit → Net β}
    (later : Writes server (next ()) out) : Writes server (ensure condition >>= next) out :=
  (silent_ensure condition).silent fun _ => later

/-- The text of the user ID in a SOCKS4 request. -/
def authBytes : Option Text → Bytes
  | some auth => asBytes auth
  | none => []

/-- The host name behind a SOCKS4 request, with the zero that ends it. -/
def hostnameBytes : Option Text → Bytes
  | some hostname => asBytes hostname ++ [0]
  | none => []

/-- The SOCKS4 request for a port and a destination. -/
def socks4Request (self : Socks4Proxy) (port : UInt16) (destination : Ipv4Addr × Option Text) :
    Bytes :=
  [4, 1] ++ (u16ToBeBytes port ++ (destination.1.octets ++ (authBytes self.auth ++
    ([0] ++ hostnameBytes destination.2))))

theorem writeAuth_writes (auth : Option Text) :
    Writes server (Socks4Proxy.writeAuth server auth) fun _ said => said = authBytes auth := by
  cases auth with
  | none => exact silent_value ()
  | some auth => exact writes_writeAll (asBytes auth)

theorem writeHostname_writes (hostname : Option Text) :
    Writes server (Socks4Proxy.writeHostname server hostname)
      fun _ said => said = hostnameBytes hostname := by
  cases hostname with
  | none => exact silent_value ()
  | some hostname =>
    apply ((writes_writeAll (asBytes hostname)).bind fun _ => writes_writeAll [0]).mono
    intro _ said split
    obtain ⟨_, before, after, whole, name, zero⟩ := split
    rw [whole, name, zero]
    rfl

theorem socks4_readReply : Writes server (Socks4Proxy.readReply server) Silent := by
  refine .readU8 fun version => .ensure ?_
  refine .readU8 fun status => .ensure ?_
  exact .readExact fun _ => silent_value ()

theorem socks4_writes (self : Socks4Proxy) (port : UInt16)
    (destination : Ipv4Addr × Option Text) :
    Writes server (self.tunnel server port destination) fun conn said =>
      conn = server ∧ said = socks4Request self port destination := by
  have request : Writes server (self.tunnel server port destination) fun conn said =>
      conn = server ∧ said = [4, 1] ++ (u16ToBeBytes port ++ (destination.1.octets ++
        (authBytes self.auth ++ ([0] ++ (hostnameBytes destination.2 ++ []))))) := by
    apply Writes.write
    apply Writes.write
    apply Writes.write
    apply (writeAuth_writes self.auth).andThen
    intro _
    apply Writes.write
    apply (writeHostname_writes destination.2).andThen
    intro _
    apply Writes.flush
    exact socks4_readReply.silent fun _ => writes_value server
  rw [List.append_nil] at request
  exact request

/-- The message with the user name and password of a SOCKS5 proxy. -/
def credentials (self : Socks5Proxy) : Bytes :=
  [1, UInt8.ofNat (asBytes self.user).length] ++ (asBytes self.user ++
    ([UInt8.ofNat (asBytes self.password).length] ++ asBytes self.password))

/-- The type and the address of a host in a SOCKS5 request. -/
def hostBytes : HostName → Bytes
  | .v4 addr => [1] ++ addr.octets
  | .v6 addr => [4] ++ addr.octets
  | .domain name => [3, UInt8.ofNat (asBytes name).length] ++ asBytes name

theorem u8TryFrom_bind {n : Nat} {next : UInt8 → Net β}
    (later : Writes server (next (UInt8.ofNat n)) out) :
    Writes server (ofExcept (u8TryFrom n) >>= next) out := by
  unfold u8TryFrom
  split
  · exact later
  · exact silent_fail .other

theorem authenticate_writes (self : Socks5Proxy) :
    Writes server (self.authenticate server) fun _ said => said = credentials self := by
  have reply : Writes server (do
      Network.flush server
      let version ← Network.readU8 server
      Network.ensure (version = 1)
      let status ← Network.readU8 server
      Network.ensure (status = 0)) fun _ said => True ∧ said = [] := by
    apply Writes.flush
    refine .readU8 fun version => .ensure ?_
    apply Writes.readU8
    intro status
    exact (silent_ensure _).mono fun _ _ nothing => ⟨trivial, nothing⟩
  have message : Writes server (self.authenticate server) fun _ said => True ∧ said =
      [1, UInt8.ofNat (asBytes self.user).length] ++ (asBytes self.user ++
        ([UInt8.ofNat (asBytes self.password).length] ++ (asBytes self.password ++ []))) := by
    apply u8TryFrom_bind
    apply Writes.write
    apply Writes.write
    apply u8TryFrom_bind
    apply Writes.write
    apply Writes.write
    exact reply
  rw [List.append_nil] at message
  exact message.mono fun _ _ both => both.2

theorem negotiate_writes (self : Socks5Proxy) (method : UInt8) :
    Writes server (self.negotiate server method)
      fun _ said => said = if method = 2 then credentials self else [] := by
  unfold Socks5Proxy.negotiate
  by_cases none : method = 0
  · rw [if_pos none, none]
    exact silent_value ()
  · rw [if_neg none]
    by_cases password : method = 2
    · rw [if_pos password, if_pos password]
      exact authenticate_writes self
    · rw [if_neg password]
      exact silent_fail .empty

theorem writeHost_writes (hostname : HostName) :
    Writes server (Socks5Proxy.writeHost server hostname)
      fun _ said => said = hostBytes hostname := by
  have pair : ∀ first second : Bytes, Writes server (do
      writeAll server first
      writeAll server second) fun _ said => said = first ++ second := by
    intro first second
    apply ((writes_writeAll first).bind fun _ => writes_writeAll second).mono
    intro _ said split
    obtain ⟨_, before, after, whole, one, two⟩ := split
    rw [whole, one, two]
  cases hostname with
  | v4 addr => exact pair [1] addr.octets
  | v6 addr => exact pair [4] addr.octets
  | domain name => exact u8TryFrom_bind (pair _ (asBytes name))

theorem skipBound_silent (kind : UInt8) :
    Writes server (Socks5Proxy.skipBound server kind) Silent := by
  unfold Socks5Proxy.skipBound
  split_ifs
  · exact .readExact fun _ => silent_value ()
  · exact .readU8 fun length => .readExact fun _ => silent_value ()
  · exact .readExact fun _ => silent_value ()
  · exact silent_fail .empty

/-- The bytes a SOCKS5 proxy is written that has selected this method. -/
def socks5Request (self : Socks5Proxy) (method : UInt8) (addr : SocketAddr) : Bytes :=
  [5, 2, 0, 2] ++ ((if method = 2 then credentials self else []) ++
    ([5, 1, 0] ++ (hostBytes addr.hostname ++ u16ToBeBytes addr.port)))

theorem socks5_readReply : Writes server (Socks5Proxy.readReply server) Silent := by
  refine .readU8 fun version => .ensure ?_
  refine .readU8 fun status => .ensure ?_
  refine .readU8 fun reserved => .ensure ?_
  refine .readU8 fun kind => (skipBound_silent kind).silent fun _ => ?_
  exact .readExact fun _ => silent_value ()

theorem request_writes (addr : SocketAddr) :
    Writes server (Socks5Proxy.request server addr) fun conn said => conn = server ∧
      said = [5, 1, 0] ++ (hostBytes addr.hostname ++ (u16ToBeBytes addr.port ++ [])) := by
  apply Writes.write
  apply (writeHost_writes addr.hostname).andThen
  intro _
  apply Writes.write
  apply Writes.flush
  exact socks5_readReply.silent fun _ => writes_value server

theorem socks5_writes (self : Socks5Proxy) (addr : SocketAddr) :
    Writes server (self.tunnel server addr) fun conn said =>
      conn = server ∧ ∃ method, said = socks5Request self method addr := by
  have greeted : Writes server (do
      flush server
      let version ← readU8 server
      ensure (version = 5)
      let method ← readU8 server
      self.negotiate server method
      Socks5Proxy.request server addr) fun conn said => conn = server ∧
        ∃ method : UInt8, said = (if method = 2 then credentials self else []) ++
          ([5, 1, 0] ++ (hostBytes addr.hostname ++ (u16ToBeBytes addr.port ++ []))) := by
    apply Writes.flush
    refine .readU8 fun version => .ensure ?_
    apply Writes.readU8
    intro method
    apply ((negotiate_writes self method).andThen fun _ => request_writes addr).mono
    intro conn said both
    exact ⟨both.1, method, both.2⟩
  apply ((writes_writeAll [5, 2, 0, 2]).bind fun _ => greeted).mono
  intro conn said split
  obtain ⟨_, before, after, whole, same, fine, method, last⟩ := split
  rw [List.append_nil] at last
  exact ⟨fine, method, by rw [whole, same, last]; rfl⟩

/-- What goes into the `CONNECT` request of an HTTP proxy. -/
theorem request_shape {crates : Crates} {proxy : HttpProxy} {addr : SocketAddr} {request : Request}
    (built : proxy.request crates addr = .ok request) :
    request.method = .connect ∧ crates.uriFromStr addr.toText = some request.uri ∧
      request.headers.get host = some ⟨addr.toText⟩ := by
  obtain ⟨uri, parsed, rest⟩ := bind_ok built
  obtain ⟨value, made, rest⟩ := bind_ok rest
  obtain ⟨headers, authorized, same⟩ := bind_ok rest
  cases same
  refine ⟨rfl, orElse_ok parsed, ?_⟩
  have first : ∃ more, headers = (host, value) :: more := by
    rcases HttpProxy.authorized_ok authorized with same | ⟨credentials, same⟩
    · exact ⟨_, same⟩
    · exact ⟨_, same⟩
  obtain ⟨more, shape⟩ := first
  have text : value = ⟨addr.toText⟩ := by
    rw [← HeaderValue.fromStr_ok made]
  rw [shape, text]
  simp [HeaderMap.get]

end LocalProxy.Handshake
