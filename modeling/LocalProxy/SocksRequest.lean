import LocalProxy.SocksReply

/-! What a SOCKS5 proxy understands of what it is written: a reader of the format gets back
the credentials, the host and the port, and nothing is left over. -/

namespace LocalProxy.SocksRequest
open StdNet (Ipv4Addr Ipv6Addr)
open Strings Addr Http Programs Program Network Outbound Handshake SocksReply

/-- The host that a request names. -/
inductive Destination where
  | ipv4 (addr : Ipv4Addr)
  | ipv6 (addr : Ipv6Addr)
  | domain (name : Bytes)
  deriving DecidableEq, Repr

def Destination.of : HostName → Destination
  | .v4 addr => .ipv4 addr
  | .v6 addr => .ipv6 addr
  | .domain name => .domain (asBytes name)

/-- What the proxy is asked: the methods it may select from, the user name and password if it
has selected them, and the target. -/
structure Asked where
  methods : Bytes
  credentials : Option (Bytes × Bytes)
  destination : Destination
  port : UInt16
  deriving DecidableEq, Repr

def readU16 (high low : UInt8) : UInt16 := UInt16.ofNat (high.toNat * 256 + low.toNat)

def readU16s : Bytes → List UInt16
  | high :: low :: rest => readU16 high low :: readU16s rest
  | _ => []

/-- A length, and as many bytes. -/
def readSized : Bytes → Option (Bytes × Bytes)
  | length :: rest => readBytes length.toNat rest
  | [] => none

def readGreeting : Bytes → Option (Bytes × Bytes)
  | 5 :: rest => readSized rest
  | _ => none

def readCredentials : Bytes → Option ((Bytes × Bytes) × Bytes)
  | 1 :: rest => do
    let (user, rest) ← readSized rest
    let (password, rest) ← readSized rest
    some ((user, password), rest)
  | _ => none

/-- The credentials, where the proxy has selected them. -/
def readSelected (method : UInt8) (bytes : Bytes) : Option (Option (Bytes × Bytes) × Bytes) :=
  if method = 2 then do
    let (credentials, rest) ← readCredentials bytes
    some (some credentials, rest)
  else some (none, bytes)

def readDestination : Bytes → Option (Destination × Bytes)
  | 1 :: a :: b :: c :: d :: rest => some (.ipv4 ⟨a, b, c, d⟩, rest)
  | 3 :: rest => do
    let (name, rest) ← readSized rest
    some (.domain name, rest)
  | 4 :: rest => do
    let (octets, rest) ← readBytes 16 rest
    if eight : (readU16s octets).length = 8 then some (.ipv6 ⟨readU16s octets, eight⟩, rest)
    else none
  | _ => none

def readRequest : Bytes → Option ((Destination × UInt16) × Bytes)
  | 5 :: 1 :: 0 :: rest => do
    let (destination, rest) ← readDestination rest
    match rest with
    | high :: low :: rest => some ((destination, readU16 high low), rest)
    | _ => none
  | _ => none

/-- All that a proxy reads that has selected this method. -/
def readAsked (method : UInt8) (bytes : Bytes) : Option (Asked × Bytes) := do
  let (methods, rest) ← readGreeting bytes
  let (credentials, rest) ← readSelected method rest
  let ((destination, port), rest) ← readRequest rest
  some (⟨methods, credentials, destination, port⟩, rest)

theorem readU16_toBeBytes (value : UInt16) :
    readU16 (UInt8.ofNat (value.toNat / 256)) (UInt8.ofNat value.toNat) = value := by
  have small := value.toNat_lt
  apply UInt16.toNat_inj.mp
  simp only [readU16, UInt8.toNat_ofNat', UInt16.toNat_ofNat']
  omega

theorem readBytes_append {count : Nat} {bytes : Bytes} (long : bytes.length = count)
    (rest : Bytes) : readBytes count (bytes ++ rest) = some (bytes, rest) := by
  have enough : count ≤ (bytes ++ rest).length := by
    simp only [List.length_append]
    omega
  rw [readBytes, if_pos enough, List.take_left' long, List.drop_left' long]

theorem readSized_append {bytes : Bytes} (short : bytes.length ≤ 255) (rest : Bytes) :
    readSized (UInt8.ofNat bytes.length :: (bytes ++ rest)) = some (bytes, rest) := by
  have length : (UInt8.ofNat bytes.length).toNat = bytes.length := by
    simp only [UInt8.toNat_ofNat']
    omega
  rw [readSized, length]
  exact readBytes_append rfl rest

theorem readU16s_segments (segments : List UInt16) :
    readU16s (segments.flatMap fun segment =>
      [UInt8.ofNat (segment.toNat / 256), UInt8.ofNat segment.toNat]) = segments := by
  induction segments with
  | nil => rfl
  | cons segment rest ih =>
    rw [List.flatMap_cons]
    show readU16 _ _ :: readU16s (rest.flatMap _) = _
    rw [readU16_toBeBytes, ih]

theorem octets_length (addr : Ipv6Addr) : addr.octets.length = 16 := by
  rw [Ipv6Addr.octets, List.length_flatMap]
  simp [addr.eight]

theorem readDestination_append {hostname : HostName} (encodable : Encodable hostname)
    (rest : Bytes) :
    readDestination (hostBytes hostname ++ rest) = some (.of hostname, rest) := by
  cases hostname with
  | v4 addr => rfl
  | domain name =>
    show (readSized (UInt8.ofNat (asBytes name).length :: (asBytes name ++ rest)) >>= _) = _
    rw [readSized_append encodable rest]
    rfl
  | v6 addr =>
    have same : readU16s addr.octets = addr.segments := readU16s_segments addr.segments
    have eight : (readU16s addr.octets).length = 8 := by
      rw [same]
      exact addr.eight
    show (readBytes 16 (addr.octets ++ rest) >>= _) = _
    rw [readBytes_append (octets_length addr) rest]
    show (if eight : _ then _ else _) = _
    rw [dif_pos eight]
    simp only [same, Destination.of]

theorem readRequest_append {addr : SocketAddr} (encodable : Encodable addr.hostname) :
    readRequest (requestBytes addr) = some ((.of addr.hostname, addr.port), []) := by
  show (readDestination (hostBytes addr.hostname ++ u16ToBeBytes addr.port) >>= _) = _
  rw [readDestination_append encodable]
  show some ((_, readU16 _ _), _) = _
  rw [readU16_toBeBytes]

theorem readSelected_append {self : Socks5Proxy} (short : Short self) (method : UInt8)
    (rest : Bytes) :
    readSelected method ((if method = 2 then credentials self else []) ++ rest) =
      some (if method = 2 then some (asBytes self.user, asBytes self.password) else none,
        rest) := by
  unfold readSelected
  by_cases password : method = 2
  · rw [if_pos password, if_pos password, if_pos password]
    have read : readCredentials (credentials self ++ rest) =
        some ((asBytes self.user, asBytes self.password), rest) := by
      simp only [credentials, List.append_assoc, List.cons_append, List.nil_append]
      rw [readCredentials, readSized_append short.1]
      show (readSized _ >>= _) = _
      rw [readSized_append short.2]
      rfl
    rw [read]
    rfl
  · rw [if_neg password, if_neg password, if_neg password]
    rfl

/-- The reader undoes the client. -/
theorem readAsked_request {self : Socks5Proxy} {addr : SocketAddr} (short : Short self)
    (encodable : Encodable addr.hostname) (method : UInt8) :
    readAsked method (socks5Request self method addr) = some (⟨[0, 2],
      if method = 2 then some (asBytes self.user, asBytes self.password) else none,
      .of addr.hostname, addr.port⟩, []) := by
  show (readSelected method ((if method = 2 then credentials self else []) ++
    requestBytes addr) >>= _) = _
  rw [readSelected_append short method]
  show (readRequest (requestBytes addr) >>= _) = _
  rw [readRequest_append encodable]
  rfl

/-- The bytes that a run has read. -/
def received (trace : Trace) : Bytes :=
  trace.flatMap fun event => match event.operation, event.answer with
    | .readExact _ _, .ok bytes => bytes.1
    | _, _ => []

/-- A run that is past its last write, and has not failed by then. -/
structure PastWrites {α : Type} (program : Net α) (trace : Trace) (final : Net α) : Prop where
  steps : Steps program trace final
  reads : final.Uses Reads
  unfailed : ∀ error, final ≠ .fail error

/-- What is written and read up to there. -/
structure Past {α : Type} (program : Net α) (out : Bytes → Bytes → Prop) : Prop where
  out : ∀ trace final, PastWrites program trace final → out (written trace) (received trace)

theorem not_past_fail {α : Type} {error : Error} {trace : Trace} {final : Net α} :
    ¬ PastWrites (.fail error) trace final := by
  intro past
  exact past.unfailed error (steps_fail.mp past.steps).2

section Rules

variable {α : Type} {server : Connection} {out : Bytes → Bytes → Prop}

theorem past_fail (error : Error) : Past (.fail error : Net α) out :=
  ⟨fun _ _ past => (not_past_fail past).elim⟩

/-- What is asked before the last write is answered on the way to it. -/
theorem past_ask {operation : Op} {next : Ans operation → Net α}
    (before : ¬ (Program.ask operation next).Uses Reads)
    (later : ∀ answer trace final, PastWrites (next answer) trace final →
      out (written (⟨operation, answer⟩ :: trace)) (received (⟨operation, answer⟩ :: trace))) :
    Past (.ask operation next) out := by
  constructor
  intro trace final past
  rcases steps_ask.mp past.steps with ⟨_, same⟩ | ⟨answer, rest, split, steps⟩
  · have reads := past.reads
    rw [same] at reads
    exact (before reads).elim
  · rw [split]
    exact later answer rest final ⟨steps, past.reads, past.unfailed⟩

theorem Past.write {bytes : Bytes} {next : Unit → Net α}
    (later : Past (next ()) fun said heard => out (bytes ++ said) heard) :
    Past (writeAll server bytes >>= next) out := by
  refine past_ask (fun reads => reads.1) ?_
  intro answer trace final past
  cases answer with
  | ok done => exact later.out trace final past
  | error error => exact (not_past_fail past).elim

theorem Past.flush {next : Unit → Net α} (before : ¬ (next ()).Uses Reads)
    (later : Past (next ()) out) : Past (flush server >>= next) out := by
  refine past_ask (fun reads => before (reads.2 (.ok ()))) ?_
  intro answer trace final past
  cases answer with
  | ok done => exact later.out trace final past
  | error error => exact (not_past_fail past).elim

theorem Past.readU8 {next : UInt8 → Net α} {byte : UInt8} (before : ¬ (next byte).Uses Reads)
    (later : ∀ byte, Past (next byte) fun said heard => out said (byte :: heard)) :
    Past (readU8 server >>= next) out := by
  refine past_ask (fun reads => before (reads.2 (.ok ⟨[byte], rfl⟩))) ?_
  intro answer trace final past
  cases answer with
  | error error => exact (not_past_fail past).elim
  | ok bytes =>
    obtain ⟨bytes, one⟩ := bytes
    match bytes, one with
    | [byte], _ => exact (later byte).out trace final past

theorem Past.ensure {condition : Bool} {next : Unit → Net α}
    (later : condition = true → Past (next ()) out) : Past (ensure condition >>= next) out := by
  cases condition with
  | true => exact later rfl
  | false => exact past_fail .empty

theorem Past.length {n : Nat} {next : UInt8 → Net α}
    (later : n ≤ 255 → Past (next (UInt8.ofNat n)) out) :
    Past (ofExcept (u8TryFrom n) >>= next) out := by
  by_cases small : n ≤ 255
  · rw [u8TryFrom_ok small]
    exact later small
  · rw [u8TryFrom, if_neg (by omega)]
    exact past_fail .other

theorem past_rest {program : Net α} (reads : program.Uses Reads) :
    Past program fun said _ => said = [] :=
  ⟨fun _ _ past => written_reads reads past.steps⟩

theorem Past.mono {more : Bytes → Bytes → Prop} {program : Net α} (past : Past program out)
    (weaker : ∀ said heard, out said heard → more said heard) : Past program more :=
  ⟨fun trace final run => weaker _ _ (past.out trace final run)⟩

theorem ensure_before {condition : Bool} {next : Unit → Net α} (met : condition = true)
    (before : ¬ (next ()).Uses Reads) : ¬ (Network.ensure condition >>= next).Uses Reads := by
  rw [met]
  exact before

theorem expect_before {byte : UInt8} {next : Unit → Net α} (before : ¬ (next ()).Uses Reads) :
    ¬ (Network.readU8 server >>= fun got => Network.ensure (got = byte) >>= next).Uses Reads :=
  fun reads => ensure_before (decide_eq_true rfl) before (reads.2 (.ok ⟨[byte], rfl⟩))

/-- A byte that the client waits for before it goes on to write. -/
theorem Past.expect {byte : UInt8} {next : Unit → Net α} (before : ¬ (next ()).Uses Reads)
    (later : Past (next ()) fun said heard => out said (byte :: heard)) :
    Past (Network.readU8 server >>= fun got => Network.ensure (got = byte) >>= next) out := by
  apply Past.readU8 (ensure_before (decide_eq_true (rfl : byte = byte)) before)
  intro got
  apply Past.ensure
  intro same
  rw [of_decide_eq_true same]
  exact later

end Rules

variable {server : Connection}

theorem writeHost_past {α : Type} {hostname : HostName} {next : Unit → Net α}
    {out : Bytes → Bytes → Prop}
    (later : Encodable hostname → Past (next ()) fun said heard =>
      out (hostBytes hostname ++ said) heard) :
    Past (Socks5Proxy.writeHost server hostname >>= next) out := by
  have pair : ∀ first second : Bytes,
      Past (next ()) (fun said heard => out ((first ++ second) ++ said) heard) → Past ((do
        writeAll server first
        writeAll server second) >>= next) out := by
    intro first second last
    rw [Program.bind_assoc]
    apply Past.write
    apply Past.write
    apply last.mono
    intro said heard done
    rw [← List.append_assoc]
    exact done
  cases hostname with
  | v4 addr => exact pair [1] addr.octets (later trivial)
  | v6 addr => exact pair [4] addr.octets (later trivial)
  | domain name =>
    unfold Socks5Proxy.writeHost
    rw [Program.bind_assoc]
    exact Past.length fun small => pair _ (asBytes name) (later small)

theorem request_past (addr : SocketAddr) :
    Past (Socks5Proxy.request server addr) fun said _ =>
      Encodable addr.hostname ∧ said = requestBytes addr := by
  have reads : (do
      Network.flush server
      Socks5Proxy.readReply server
      return server : Net Connection).Uses Reads :=
    ⟨trivial, fun _ => (uses_ofExcept _ _).bind fun _ =>
      socks5_readReply_reads.bind fun _ => trivial⟩
  apply Past.write
  apply writeHost_past
  intro encodable
  apply Past.write
  apply (past_rest reads).mono
  intro said heard nothing
  exact ⟨encodable, by rw [nothing, List.append_nil]; rfl⟩

/-- Without the request not all is written. -/
theorem request_before (addr : SocketAddr) :
    ¬ (Socks5Proxy.request server addr).Uses Reads := fun reads => reads.1

theorem authenticate_past {α : Type} (self : Socks5Proxy) {next : Unit → Net α}
    {out : Bytes → Prop} (before : ¬ (next ()).Uses Reads)
    (later : Past (next ()) fun said _ => out (credentials self ++ said)) :
    Past (self.authenticate server >>= next) fun said _ => out said := by
  unfold Socks5Proxy.authenticate
  simp only [Program.bind_assoc]
  apply Past.length
  intro _
  apply Past.write
  apply Past.write
  apply Past.length
  intro _
  apply Past.write
  apply Past.write
  apply Past.flush (expect_before (expect_before before))
  apply Past.expect (expect_before before)
  apply Past.expect before
  apply later.mono
  intro said heard done
  simpa only [credentials, List.append_assoc] using done

theorem negotiate_past (self : Socks5Proxy) (method : UInt8) (addr : SocketAddr) :
    Past (self.negotiate server method >>= fun _ => Socks5Proxy.request server addr)
      fun said _ => Encodable addr.hostname ∧
        said = (if method = 2 then credentials self else []) ++ requestBytes addr := by
  unfold Socks5Proxy.negotiate
  by_cases none : method = 0
  · have plain : method ≠ 2 := by
      rw [none]
      decide
    rw [if_pos none, if_neg plain]
    exact request_past addr
  rw [if_neg none]
  by_cases password : method = 2
  · rw [if_pos password, if_pos password]
    apply authenticate_past self (request_before addr)
    apply (request_past addr).mono
    intro said heard done
    exact ⟨done.1, by rw [done.2]⟩
  · rw [if_neg password]
    exact past_fail .empty

/-- The bytes on which the proxy decides, and those it is sent. -/
theorem tunnel_past (self : Socks5Proxy) (addr : SocketAddr) :
    Past (self.tunnel server addr) fun said heard => Encodable addr.hostname ∧
      ∃ method rest, heard = 5 :: method :: rest ∧ said = socks5Request self method addr := by
  have opened : ¬ (do
      self.negotiate server 0
      Socks5Proxy.request server addr).Uses Reads := request_before addr
  have before : ¬ (do
      let method ← readU8 server
      self.negotiate server method
      Socks5Proxy.request server addr).Uses Reads :=
    fun reads => opened (reads.2 (.ok ⟨[0], rfl⟩))
  apply Past.write
  apply Past.flush (expect_before before)
  apply Past.expect before
  apply Past.readU8 opened
  intro method
  apply (negotiate_past self method addr).mono
  intro said heard done
  exact ⟨done.1, method, heard, rfl, by rw [done.2]; rfl⟩

/-- The length of what the constructor lets pass fits into a byte. -/
structure Fits (bytes : Bytes) : Prop where
  converts : u8TryFrom bytes.length = .ok (UInt8.ofNat bytes.length)
  exact : (UInt8.ofNat bytes.length).toNat = bytes.length

theorem fits_short {bytes : Bytes} (short : bytes.length ≤ 255) : Fits bytes :=
  ⟨u8TryFrom_ok short, by simp only [UInt8.toNat_ofNat']; omega⟩

/-- What a SOCKS5 proxy made of this configuration says about a target. -/
structure Decoded (conf : ProxyConfig) (self : Socks5Proxy) (addr : SocketAddr) : Prop where
  read : ∀ server trace final, PastWrites (self.connect (reached server) addr) trace final →
    ∃ method rest, received trace = 5 :: method :: rest ∧
      readAsked method (written trace) = some (⟨[0, 2],
        if method = 2 then some (asBytes (conf.user.getD []), asBytes (conf.password.getD []))
          else none,
        .of addr.hostname, addr.port⟩, [])
  long : ∀ name, addr.hostname = .domain name → 255 < (asBytes name).length →
    ∀ next trace outcome, Ends (self.connect next addr) trace outcome →
      ∃ error, outcome = .error error
  fits : Fits (asBytes self.user) ∧ Fits (asBytes self.password)

theorem connect_long (self : Socks5Proxy) {addr : SocketAddr} (long : ¬ Encodable addr.hostname)
    {next : Option Connect} {trace : Trace} {outcome : Except Error Connection}
    (ends : Ends (self.connect next addr) trace outcome) : ∃ error, outcome = .error error := by
  cases outcome with
  | error error => exact ⟨error, rfl⟩
  | ok conn =>
    obtain ⟨_, _, _, _, _, rest⟩ := returns_bind.mp ends
    obtain ⟨server, _, after, _, _, last⟩ := returns_bind.mp rest
    have past : PastWrites (self.tunnel server addr) after (.value conn) :=
      ⟨last, trivial, fun _ same => by cases same⟩
    exact (long ((tunnel_past self addr).out after _ past).1).elim

/-- Whatever the target, a SOCKS5 proxy reads exactly what it was meant to. -/
theorem socks5_decoded {conf : ProxyConfig} {self : Socks5Proxy}
    (made : Socks5Proxy.new conf = .ok self) (addr : SocketAddr) : Decoded conf self addr := by
  obtain ⟨_, user, password, short⟩ := Socks5Proxy.new_ok made
  refine ⟨?_, ?_, fits_short short.1, fits_short short.2⟩
  · intro server trace final past
    have connect : self.connect (reached server) addr = self.tunnel server addr := rfl
    rw [connect] at past
    obtain ⟨encodable, method, rest, heard, said⟩ := (tunnel_past self addr).out trace final past
    refine ⟨method, rest, heard, ?_⟩
    rw [said, ← user, ← password]
    exact readAsked_request short encodable method
  · intro name same long next trace outcome ends
    apply connect_long self _ ends
    rw [same]
    exact Nat.not_le.mpr long

/-- A proxy with credentials, that selects them and grants the connection. -/
def loginProxy : Socks5Proxy := ⟨⟨.v4 ⟨127, 0, 0, 1⟩, 1080⟩, ['u'], ['p']⟩

def loginReply : Bytes := [5, 2, 1, 0, 5, 0, 0, 1, 0, 0, 0, 0, 0, 0]

def ipv6Target : SocketAddr := ⟨.v6 ⟨[0x2001, 0xdb8, 0, 0, 0, 0, 0, 7], rfl⟩, 443⟩

theorem socks5_decoded_ipv6 : ∃ trace,
    PastWrites (loginProxy.connect (reached (.tcpStream 3)) ipv6Target) trace
      (.value (.tcpStream 3)) ∧
    received trace = loginReply ∧
    readAsked 2 (written trace) =
      some (⟨[0, 2], some ([117], [112]), .of ipv6Target.hostname, 443⟩, []) := by
  have made : Socks5Proxy.new ⟨"socks5".toList, some ['u'], some ['p'],
      "127.0.0.1:1080".toList⟩ = .ok loginProxy := by decide +kernel
  have steps := Peers.talk_steps arriving (loginProxy.connect (reached (.tcpStream 3)) ipv6Target)
    [loginReply]
  have granted : (Peers.talk arriving (loginProxy.connect (reached (.tcpStream 3)) ipv6Target)
    [loginReply]).final = .value (.tcpStream 3) := rfl
  have heard : received (Peers.talk arriving (loginProxy.connect (reached (.tcpStream 3)) ipv6Target)
    [loginReply]).trace = loginReply := by decide +kernel
  rw [granted] at steps
  have past : PastWrites (loginProxy.connect (reached (.tcpStream 3)) ipv6Target) _
    (.value (.tcpStream 3)) := ⟨steps, trivial, nofun⟩
  obtain ⟨reads, _, _⟩ := socks5_decoded made ipv6Target
  obtain ⟨method, rest, received, asked⟩ := reads _ _ _ past
  rw [heard] at received
  cases received
  exact ⟨_, past, heard, asked⟩

end LocalProxy.SocksRequest
