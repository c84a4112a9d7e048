import LocalProxy.Http
import LocalProxy.Programs

/-! What the program asks of its surroundings: sockets, the TLS handshake, the HTTP/1
connections of `hyper`, the cache of DNS answers, the channel of the DNS service. -/

namespace LocalProxy.Network
open Strings StdNet Addr Http Programs

/-- `Connection`: how the boxed stream was made. -/
inductive Connection where
  | tcpStream (socket : Nat)
  | tlsStream (name : Text) (inner : Connection)
  /-- What `hyper` hands over after an upgrade of the connection. -/
  | upgraded (inner : Connection)
  | fragmentLayer (inner : Connection)
  deriving DecidableEq, Repr

inductive Op where
  /-- `TcpStream::connect` -/
  | tcpConnect (addr : Text)
  | setNodelay (stream : Connection)
  /-- `TlsConnector::connect`, the conversion of the server name included. The certificates of the
  system are taken to have been loaded. -/
  | tlsConnect (name : Text) (stream : Connection)
  /-- `hyper::client::conn::http1::handshake`, and the task that drives it. -/
  | handshake (stream : Connection)
  | sendRequest (stream : Connection) (request : Request)
  /-- `hyper::upgrade::on` a response. -/
  | upgrade (stream : Connection)
  /-- `tokio::spawn(proxy_upgrade(..))` -/
  | proxyUpgrade (stream : Connection)
  | writeAll (stream : Connection) (bytes : Bytes)
  | flush (stream : Connection)
  | readExact (stream : Connection) (count : Nat)
  | cacheGet (query : Bytes)
  | cacheInsert (query answer : Bytes)
  /-- A call of `dns_resolve` that is left to whoever runs the program. -/
  | dnsResolve (hostname : HostName) (qtype : QueryType)
  | warn
  /-- The assertion of the builder of DNS queries fails. -/
  | panic
  | channelSend (buf : Bytes) (dest : StdNet.SocketAddr)

/-- The answers. A panic has none. -/
abbrev Ans : Op → Type
  | .tcpConnect _ => Except Error Nat
  | .setNodelay _ => Except Error Unit
  | .tlsConnect _ _ => Except Error Unit
  | .handshake _ => Except Error Unit
  | .sendRequest _ _ => Except Error Response
  | .upgrade _ => Except Error Unit
  | .proxyUpgrade _ => Unit
  | .writeAll _ _ => Except Error Unit
  | .flush _ => Except Error Unit
  | .readExact _ count => Except Error { bytes : Bytes // bytes.length = count }
  | .cacheGet _ => Option Bytes
  | .cacheInsert _ _ => Unit
  | .dnsResolve _ _ => Except Error (Option HostName)
  | .warn => Unit
  | .panic => Empty
  | .channelSend _ _ => Except Error Unit

abbrev Net (α : Type) := Program Op Ans Error α

abbrev Trace := List (Event Op Ans)

open Program

def tcpConnect (addr : Text) : Net Nat := ask (.tcpConnect addr) ofExcept
def setNodelay (stream : Connection) : Net Unit := ask (.setNodelay stream) ofExcept
def tlsConnect (name : Text) (stream : Connection) : Net Unit :=
  ask (.tlsConnect name stream) ofExcept
def handshake (stream : Connection) : Net Unit := ask (.handshake stream) ofExcept
def sendRequest (stream : Connection) (request : Request) : Net Response :=
  ask (.sendRequest stream request) ofExcept
def upgrade (stream : Connection) : Net Unit := ask (.upgrade stream) ofExcept
def proxyUpgrade (stream : Connection) : Net Unit := ask (.proxyUpgrade stream) .value
def writeAll (stream : Connection) (bytes : Bytes) : Net Unit :=
  ask (.writeAll stream bytes) ofExcept
def flush (stream : Connection) : Net Unit := ask (.flush stream) ofExcept
def readExact (stream : Connection) (count : Nat) : Net { bytes : Bytes // bytes.length = count } :=
  ask (.readExact stream count) ofExcept
def cacheGet (query : Bytes) : Net (Option Bytes) := ask (.cacheGet query) .value
def cacheInsert (query answer : Bytes) : Net Unit := ask (.cacheInsert query answer) .value
def dnsResolve (hostname : HostName) (qtype : QueryType) : Net (Option HostName) :=
  ask (.dnsResolve hostname qtype) ofExcept
def warn : Net Unit := ask .warn .value
def panic {α : Type} : Net α := ask .panic Empty.elim
def channelSend (buf : Bytes) (dest : StdNet.SocketAddr) : Net Unit :=
  ask (.channelSend buf dest) ofExcept

def readU8 (stream : Connection) : Net UInt8 := do
  let byte ← readExact stream 1
  return byte.1.headD 0

/-- `as_bytes` of a text. -/
def asBytes (s : Text) : Bytes := s.flatMap String.utf8EncodeChar

def u16ToBeBytes (value : UInt16) : Bytes :=
  [UInt8.ofNat (value.toNat / 256), UInt8.ofNat value.toNat]

/-- `usize` into `u8`, which fails on larger values. -/
def u8TryFrom (n : Nat) : Except Error UInt8 :=
  if n < 256 then .ok (UInt8.ofNat n) else .error .other

/-- `ok_or("")?` -/
def okOr {α : Type} : Option α → Net α
  | some result => .value result
  | none => .fail .empty

/-- `if !condition { return Err("".into()) }` -/
def ensure (condition : Bool) : Net Unit :=
  if condition then .value () else .fail .empty

/-- Surroundings in which everything succeeds, and every request has the same response. -/
def willing (response : Response) : (operation : Op) → Option (Ans operation)
  | .tcpConnect _ => some (.ok 3)
  | .setNodelay _ => some (.ok ())
  | .tlsConnect _ _ => some (.ok ())
  | .handshake _ => some (.ok ())
  | .sendRequest _ _ => some (.ok response)
  | .upgrade _ => some (.ok ())
  | .proxyUpgrade _ => some ()
  | .writeAll _ _ => some (.ok ())
  | .flush _ => some (.ok ())
  | .readExact _ count => some (.ok ⟨List.replicate count 0, List.length_replicate⟩)
  | .cacheGet _ => some none
  | .cacheInsert _ _ => some ()
  | .dnsResolve _ _ => some (.ok none)
  | .warn => some ()
  | .panic => none
  | .channelSend _ _ => some (.ok ())

variable {α β : Type} {trace : Trace} {result : β}

theorem okOr_ofExcept (option : Option α) :
    okOr option = ofExcept (orElse .empty option) := by
  cases option with
  | none => rfl
  | some value => rfl

theorem returns_ensure_bind {condition : Bool} {next : Unit → Net β} :
    Returns (ensure condition >>= next) trace result ↔
      condition = true ∧ Returns (next ()) trace result := by
  cases condition with
  | false =>
    constructor
    · intro steps
      exact (by cases (steps_fail.mp steps).2)
    · intro both
      exact (by cases both.1)
  | true =>
    constructor
    · intro steps
      exact ⟨rfl, steps⟩
    · intro both
      exact both.2

end LocalProxy.Network
