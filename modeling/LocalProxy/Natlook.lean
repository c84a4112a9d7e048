import LocalProxy.StdNet

/-! The lookups of `tcp/bsd/pf.rs` in the state table of the packet filter, as macOS on
a little-endian machine runs them. A port is in host order in an address of `std` and
in network order in a record of the kernel. -/

namespace LocalProxy.Natlook
open Strings StdNet

/-- `u16::to_be` and `u16::from_be` of a little-endian machine. -/
def swapBytes (port : UInt16) : UInt16 :=
  u16FromBeBytes (UInt8.ofNat port.toNat) (UInt8.ofNat (port.toNat / 256))

theorem swapBytes_toNat (port : UInt16) :
    (swapBytes port).toNat = port.toNat % 256 * 256 + port.toNat / 256 := by
  have bound := port.toNat_lt
  have high : port.toNat / 256 % 2 ^ 8 = port.toNat / 256 := Nat.mod_eq_of_lt (by omega)
  have low : port.toNat % 2 ^ 8 < 256 := Nat.mod_lt _ (by decide)
  simp only [swapBytes, u16FromBeBytes, UInt16.toNat_ofNat', UInt8.toNat_ofNat', high]
  exact Nat.mod_eq_of_lt (by omega)

theorem swapBytes_swapBytes (port : UInt16) : swapBytes (swapBytes port) = port := by
  have bound := port.toNat_lt
  apply UInt16.toNat_inj.mp
  rw [swapBytes_toNat, swapBytes_toNat]
  omega

theorem swapBytes_eq_iff {stored port : UInt16} :
    swapBytes stored = port ↔ stored = swapBytes port := by
  constructor
  · intro same
    rw [← same, swapBytes_swapBytes]
  · intro same
    rw [same, swapBytes_swapBytes]

/-- `pf_addr`: a union of sixteen bytes, the first four of them an IPv4 address. -/
structure PfAddr where
  bytes : List UInt8
  sixteen : bytes.length = 16
  deriving DecidableEq, Repr

theorem octets_length (addr : Ipv6Addr) : addr.octets.length = 16 := by
  simp [Ipv6Addr.octets, addr.eight]

/-- The union zeroed, then written with the address. -/
def PfAddr.ofIp : IpAddr → PfAddr
  | .v4 addr => ⟨addr.octets ++ List.replicate 12 0, rfl⟩
  | .v6 addr => ⟨addr.octets, octets_length addr⟩

def PfAddr.zeroed : PfAddr := ⟨List.replicate 16 0, rfl⟩

def PfAddr.v4addr (addr : PfAddr) : Ipv4Addr :=
  have long := addr.sixteen
  ⟨addr.bytes[0], addr.bytes[1], addr.bytes[2], addr.bytes[3]⟩

def PfAddr.v6addr (addr : PfAddr) : Ipv6Addr :=
  have long := addr.sixteen
  let segment (i : Nat) (inside : i < 8) : UInt16 :=
    u16FromBeBytes addr.bytes[2 * i] addr.bytes[2 * i + 1]
  ⟨[segment 0 (by decide), segment 1 (by decide), segment 2 (by decide), segment 3 (by decide),
    segment 4 (by decide), segment 5 (by decide), segment 6 (by decide), segment 7 (by decide)],
    rfl⟩

def afInet : UInt8 := 2
def afInet6 : UInt8 := 30
def ipprotoUdp : UInt8 := 17
def pfOut : UInt8 := 2

/-- `socket2::SockAddr` of the two families, its port as it lies in memory. -/
inductive SockAddr where
  | sockaddrIn (sinAddr : Ipv4Addr) (sinPort : UInt16)
  | sockaddrIn6 (sin6Addr : Ipv6Addr) (sin6Port : UInt16)
  deriving DecidableEq, Repr

def SockAddr.asSocket : SockAddr → SocketAddr
  | .sockaddrIn ip port => ⟨.v4 ip, swapBytes port⟩
  | .sockaddrIn6 ip port => ⟨.v6 ip, swapBytes port⟩

/-- A socket address filled with a family, an address and a port of the kernel. -/
def SockAddr.init (family : UInt8) (addr : PfAddr) (port : UInt16) : Option SockAddr :=
  if family = afInet then some (.sockaddrIn addr.v4addr port)
  else if family = afInet6 then some (.sockaddrIn6 addr.v6addr port)
  else none

/-- `Display` of a socket address. -/
def display (addr : SocketAddr) : Text :=
  match addr.ip with
  | .v4 ip => ip.toText ++ ':' :: Nat.toDigits 10 addr.port.toNat
  | .v6 ip => '[' :: ip.toText ++ ']' :: ':' :: Nat.toDigits 10 addr.port.toNat

inductive Error where
  | rawOs (code : Nat)
  | invalidInput (text : Option Text)
  | other (text : Text)
  deriving DecidableEq, Repr

/-- Why a lookup has no address. `outOfFuel` is no answer of the program: its loop was
given too few steps. -/
inductive Stop where
  | err (error : Error)
  | panicked
  | outOfFuel
  deriving DecidableEq, Repr

abbrev Outcome := Except Stop

/-- `pfsync_state_host`, less its padding. -/
structure PfsyncStateHost where
  addr : PfAddr
  port : UInt16
  deriving DecidableEq, Repr

/-- `pfsync_state`, as far as a lookup reads it. -/
structure PfsyncState where
  lan : PfsyncStateHost
  gwy : PfsyncStateHost
  extGwy : PfsyncStateHost
  afGwy : UInt8
  proto : UInt8
  deriving DecidableEq, Repr

def pfsyncStateSize : Nat := 297

/-- `pfioc_states` after a call: the length it reports, and what its buffer holds. -/
structure PfiocStates where
  psLen : Nat
  psStates : List PfsyncState

/-- `pfioc_natlook`, as far as a lookup reads or writes it. -/
structure PfiocNatlook where
  saddr : PfAddr
  daddr : PfAddr
  rdaddr : PfAddr
  sxport : UInt16
  dxport : UInt16
  rdxport : UInt16
  af : UInt8
  proto : UInt8
  direction : UInt8

/-- The two calls of the kernel, the second with the length of the buffer it may fill. -/
structure Kernel where
  iocNatlook : PfiocNatlook → Except Nat PfiocNatlook
  iocGetstates : Nat → Except Nat PfiocStates

/-- `Err(err) => Err(Error::from_raw_os_error(err))`. -/
def fromRawOs {α : Type} : Except Nat α → Outcome α
  | .ok value => .ok value
  | .error code => .error (.err (.rawOs code))

structure Protocol where
  number : Nat
  deriving DecidableEq

def Protocol.tcp : Protocol := ⟨6⟩
def Protocol.udp : Protocol := ⟨17⟩

def familyOf : IpAddr → UInt8
  | .v4 _ => afInet
  | .v6 _ => afInet6

/-- What is wrong with a client of another family than `pnl.af`. -/
def familyError (peer : IpAddr) (af : UInt8) : Option Text :=
  match peer with
  | .v4 _ => if af ≠ afInet then some "client addr must be ipv4".toList else none
  | .v6 _ => if af ≠ afInet6 then some "client addr must be ipv6".toList else none

/-- `pnl` before its call, the ports taken from `sin_port` and `sin6_port`. -/
def tcpRequest (bindAddr peerAddr : SocketAddr) (proto : Protocol) : PfiocNatlook where
  saddr := .ofIp peerAddr.ip
  daddr := .ofIp bindAddr.ip
  rdaddr := .zeroed
  sxport := swapBytes peerAddr.port
  dxport := swapBytes bindAddr.port
  rdxport := 0
  af := familyOf bindAddr.ip
  proto := UInt8.ofNat proto.number
  direction := pfOut

def tcpNatlook (kernel : Kernel) (bindAddr peerAddr : SocketAddr) (proto : Protocol) :
    Outcome SocketAddr :=
  match familyError peerAddr.ip (familyOf bindAddr.ip) with
  | some text => .error (.err (.invalidInput (some text)))
  | none => do
    let pnl ← fromRawOs (kernel.iocNatlook (tcpRequest bindAddr peerAddr proto))
    match SockAddr.init pnl.af pnl.rdaddr pnl.rdxport with
    | some dstAddr => .ok dstAddr.asSocket
    | none => .error .panicked

/-- The loop around `DIOCGETSTATES`, from a buffer of so many bytes. -/
def getStates (kernel : Kernel) : Nat → Nat → Outcome PfiocStates
  | 0, _ => .error .outOfFuel
  | fuel + 1, room => do
    let states ← fromRawOs (kernel.iocGetstates room)
    if states.psLen ≤ room then .ok states else getStates kernel fuel states.psLen

/-- The test of one entry. The ports of the entry are compared as they lie in memory
with those of the addresses in host order. -/
def PfsyncState.hit (bindAddr peerAddr : SocketAddr) (state : PfsyncState) : Bool :=
  state.proto == ipprotoUdp &&
    (PfAddr.ofIp peerAddr.ip == state.extGwy.addr && state.extGwy.port == peerAddr.port &&
      PfAddr.ofIp bindAddr.ip == state.lan.addr && state.lan.port == bindAddr.port)

def PfsyncState.actualDst (state : PfsyncState) : Outcome SocketAddr :=
  match SockAddr.init state.afGwy state.gwy.addr state.gwy.port with
  | some actualDstAddr => .ok actualDstAddr.asSocket
  | none => .error (.err (.other ("state.af_gwy ".toList ++ Nat.toDigits 10 state.afGwy.toNat ++
      " is not a valid address family".toList)))

def searchStates (bindAddr peerAddr : SocketAddr) : List PfsyncState → Outcome SocketAddr
  | [] => .error (.err (.other ("natlook UDP binding ".toList ++ display bindAddr ++
      ", ".toList ++ display peerAddr ++ " not found".toList)))
  | state :: rest =>
    if state.hit bindAddr peerAddr then state.actualDst else searchStates bindAddr peerAddr rest

def udpNatlook (kernel : Kernel) (fuel : Nat) (bindAddr peerAddr : SocketAddr) :
    Outcome SocketAddr := do
  let states ← getStates kernel fuel 8192
  searchStates bindAddr peerAddr (states.psStates.take (states.psLen / pfsyncStateSize))

def natlook (kernel : Kernel) (fuel : Nat) (bindAddr peerAddr : SocketAddr) (proto : Protocol) :
    Outcome SocketAddr :=
  if proto = .tcp then tcpNatlook kernel bindAddr peerAddr proto
  else if proto = .udp then udpNatlook kernel fuel bindAddr peerAddr
  else .error (.err (.invalidInput none))

/-- This address and port are what a side of an entry stands for. -/
def PfsyncStateHost.Is (side : PfsyncStateHost) (addr : SocketAddr) : Prop :=
  side.addr = .ofIp addr.ip ∧ swapBytes side.port = addr.port

instance (side : PfsyncStateHost) (addr : SocketAddr) : Decidable (side.Is addr) :=
  inferInstanceAs (Decidable (_ ∧ _))

/-- The entry that a lookup is for: the first of UDP whose sides are the two addresses. -/
def entryFor (bindAddr peerAddr : SocketAddr) (table : List PfsyncState) : Option PfsyncState :=
  table.find? fun entry =>
    decide (entry.proto = ipprotoUdp ∧ entry.lan.Is bindAddr ∧ entry.extGwy.Is peerAddr)

/-- The address an entry is translated by, if it is of a known family. -/
def PfsyncState.translated (entry : PfsyncState) : Option SocketAddr :=
  if entry.afGwy = afInet then some ⟨.v4 entry.gwy.addr.v4addr, swapBytes entry.gwy.port⟩
  else if entry.afGwy = afInet6 then some ⟨.v6 entry.gwy.addr.v6addr, swapBytes entry.gwy.port⟩
  else none

/-- The outcome is the expected address, and an error if there is none. -/
def Answers (outcome : Outcome SocketAddr) : Option SocketAddr → Prop
  | some addr => outcome = .ok addr
  | none => ∃ error, outcome = .error (.err error)

theorem Answers.unique {outcome : Outcome SocketAddr} {first second : Option SocketAddr}
    (one : Answers outcome first) (other : Answers outcome second) : first = second := by
  cases first with
  | none =>
    obtain ⟨error, failed⟩ := one
    cases second with
    | none => rfl
    | some addr => exact absurd (failed.symm.trans other) (by simp)
  | some addr =>
    have done : outcome = .ok addr := one
    cases second with
    | none =>
      obtain ⟨error, failed⟩ := other
      exact absurd (done.symm.trans failed) (by simp)
    | some again =>
      have same := done.symm.trans other
      cases same
      rfl

/-- What the kernel is documented to do with a table: a buffer that is large enough is
filled, and in any case the length of the whole table is reported. -/
structure Kernel.Keeps (kernel : Kernel) (table : List PfsyncState) : Prop where
  fills : ∀ room, table.length * pfsyncStateSize ≤ room →
    kernel.iocGetstates room = .ok ⟨table.length * pfsyncStateSize, table⟩
  reports : ∀ room, room < table.length * pfsyncStateSize →
    ∃ part, kernel.iocGetstates room = .ok ⟨table.length * pfsyncStateSize, part⟩

/-- A kernel that fills a short buffer with as many entries as it holds. -/
def Kernel.of (table : List PfsyncState) : Kernel where
  iocNatlook := fun _ => .error 2
  iocGetstates := fun room =>
    .ok ⟨table.length * pfsyncStateSize, table.take (room / pfsyncStateSize)⟩

theorem Kernel.of_keeps (table : List PfsyncState) : (Kernel.of table).Keeps table where
  fills := by
    intro room enough
    have all : table.length ≤ room / pfsyncStateSize :=
      (Nat.le_div_iff_mul_le (by decide)).mpr enough
    simp only [Kernel.of, List.take_of_length_le all]
  reports := fun _ _ => ⟨_, rfl⟩

/-- Two rounds of the loop are enough: the second buffer has the length reported. -/
theorem getStates_keeps {kernel : Kernel} {table : List PfsyncState} (keeps : kernel.Keeps table)
    {fuel : Nat} (enough : 2 ≤ fuel) (room : Nat) :
    getStates kernel fuel room = .ok ⟨table.length * pfsyncStateSize, table⟩ := by
  obtain ⟨rest, rfl⟩ : ∃ rest, fuel = rest + 2 := ⟨fuel - 2, by omega⟩
  have last : getStates kernel (rest + 1) (table.length * pfsyncStateSize) =
      .ok ⟨table.length * pfsyncStateSize, table⟩ := by
    rw [getStates, keeps.fills _ (Nat.le_refl _)]
    exact if_pos (Nat.le_refl _)
  by_cases fits : table.length * pfsyncStateSize ≤ room
  · rw [getStates, keeps.fills room fits]
    exact if_pos fits
  · obtain ⟨part, reported⟩ := keeps.reports room (by omega)
    rw [getStates, reported]
    exact (if_neg fits).trans last

theorem udpNatlook_search {kernel : Kernel} {table : List PfsyncState}
    (keeps : kernel.Keeps table) {fuel : Nat} (enough : 2 ≤ fuel)
    (bindAddr peerAddr : SocketAddr) :
    udpNatlook kernel fuel bindAddr peerAddr = searchStates bindAddr peerAddr table := by
  have count : table.length * pfsyncStateSize / pfsyncStateSize = table.length :=
    Nat.mul_div_cancel _ (by decide)
  rw [udpNatlook, getStates_keeps keeps enough]
  change searchStates bindAddr peerAddr
    (table.take (table.length * pfsyncStateSize / pfsyncStateSize)) = _
  rw [count, List.take_length]

theorem actualDst_answers (entry : PfsyncState) : Answers entry.actualDst entry.translated := by
  unfold PfsyncState.actualDst PfsyncState.translated SockAddr.init
  by_cases inet : entry.afGwy = afInet
  · simp only [if_pos inet]
    rfl
  · by_cases inet6 : entry.afGwy = afInet6
    · simp only [if_neg inet, if_pos inet6]
      rfl
    · simp only [if_neg inet, if_neg inet6]
      exact ⟨_, rfl⟩

theorem searchStates_answers (bindAddr peerAddr : SocketAddr) (table : List PfsyncState) :
    Answers (searchStates bindAddr peerAddr table)
      ((table.find? fun entry => entry.hit bindAddr peerAddr).bind PfsyncState.translated) := by
  induction table with
  | nil => exact ⟨_, rfl⟩
  | cons entry rest ih =>
    rw [searchStates, List.find?_cons]
    cases found : entry.hit bindAddr peerAddr with
    | true => exact actualDst_answers entry
    | false => exact ih

/-- The entry has these addresses, and their ports in the given order of bytes. -/
def PfsyncState.Stores (order : UInt16 → UInt16) (bindAddr peerAddr : SocketAddr)
    (entry : PfsyncState) : Prop :=
  entry.proto = ipprotoUdp ∧
    (entry.lan.addr = .ofIp bindAddr.ip ∧ entry.lan.port = order bindAddr.port) ∧
    (entry.extGwy.addr = .ofIp peerAddr.ip ∧ entry.extGwy.port = order peerAddr.port)

instance (order : UInt16 → UInt16) (bindAddr peerAddr : SocketAddr) (entry : PfsyncState) :
    Decidable (entry.Stores order bindAddr peerAddr) :=
  inferInstanceAs (Decidable (_ ∧ _ ∧ _))

def firstStored (order : UInt16 → UInt16) (bindAddr peerAddr : SocketAddr)
    (table : List PfsyncState) : Option PfsyncState :=
  table.find? fun entry => decide (entry.Stores order bindAddr peerAddr)

theorem entryFor_stored (bindAddr peerAddr : SocketAddr) (table : List PfsyncState) :
    entryFor bindAddr peerAddr table = firstStored swapBytes bindAddr peerAddr table := by
  have test : ∀ entry : PfsyncState,
      (entry.proto = ipprotoUdp ∧ entry.lan.Is bindAddr ∧ entry.extGwy.Is peerAddr) ↔
        entry.Stores swapBytes bindAddr peerAddr := by
    intro entry
    simp only [PfsyncStateHost.Is, PfsyncState.Stores, swapBytes_eq_iff]
  simp only [entryFor, firstStored, test]

/-- The code looks for the ports in the order of bytes that the host has them in. -/
theorem hit_stored (bindAddr peerAddr : SocketAddr) (entry : PfsyncState) :
    entry.hit bindAddr peerAddr = decide (entry.Stores id bindAddr peerAddr) := by
  rw [Bool.eq_iff_iff, decide_eq_true_iff]
  simp only [PfsyncState.hit, PfsyncState.Stores, Bool.and_eq_true, beq_iff_eq, id_eq]
  constructor
  · intro ⟨udp, ⟨⟨sourceAddr, sourcePort⟩, destAddr⟩, destPort⟩
    exact ⟨udp, ⟨destAddr.symm, destPort⟩, sourceAddr.symm, sourcePort⟩
  · intro ⟨udp, ⟨destAddr, destPort⟩, sourceAddr, sourcePort⟩
    exact ⟨udp, ⟨⟨sourceAddr.symm, sourcePort⟩, destAddr.symm⟩, destPort⟩

/-- The lookup of a UDP connection answers with the translated address of its entry. -/
def FindsEntry (kernel : Kernel) (table : List PfsyncState) (bindAddr peerAddr : SocketAddr) :
    Prop :=
  ∀ fuel, 2 ≤ fuel → Answers (natlook kernel fuel bindAddr peerAddr .udp)
    ((entryFor bindAddr peerAddr table).bind PfsyncState.translated)

/-- A port whose two bytes are the same in both orders. -/
def Symmetric (port : UInt16) : Prop := swapBytes port = port

theorem natlook_answers {kernel : Kernel} {table : List PfsyncState} (keeps : kernel.Keeps table)
    {fuel : Nat} (enough : 2 ≤ fuel) (bindAddr peerAddr : SocketAddr) :
    Answers (natlook kernel fuel bindAddr peerAddr .udp)
      ((firstStored id bindAddr peerAddr table).bind PfsyncState.translated) := by
  have search := searchStates_answers bindAddr peerAddr table
  rw [← udpNatlook_search keeps enough] at search
  simp only [hit_stored] at search
  exact search

theorem findsEntry_stored {kernel : Kernel} {table : List PfsyncState}
    (keeps : kernel.Keeps table) (bindAddr peerAddr : SocketAddr) :
    FindsEntry kernel table bindAddr peerAddr ↔
      (firstStored id bindAddr peerAddr table).bind PfsyncState.translated =
        (firstStored swapBytes bindAddr peerAddr table).bind PfsyncState.translated := by
  unfold FindsEntry
  rw [entryFor_stored]
  constructor
  · intro finds
    exact (natlook_answers keeps (Nat.le_refl 2) bindAddr peerAddr).unique (finds 2 (Nat.le_refl 2))
  · intro same fuel enough
    rw [← same]
    exact natlook_answers keeps enough bindAddr peerAddr

theorem firstStored_symmetric {bindAddr peerAddr : SocketAddr} (bind : Symmetric bindAddr.port)
    (peer : Symmetric peerAddr.port) (table : List PfsyncState) :
    firstStored id bindAddr peerAddr table = firstStored swapBytes bindAddr peerAddr table := by
  have test : ∀ entry : PfsyncState,
      entry.Stores id bindAddr peerAddr ↔ entry.Stores swapBytes bindAddr peerAddr := by
    intro entry
    rw [PfsyncState.Stores, PfsyncState.Stores, bind, peer]
    rfl
  simp only [firstStored, test]

/-- The entry of a connection between two addresses, as the kernel stores it. -/
def stored (bindAddr peerAddr gateway : SocketAddr) : PfsyncState where
  lan := ⟨.ofIp bindAddr.ip, swapBytes bindAddr.port⟩
  gwy := ⟨.ofIp gateway.ip, swapBytes gateway.port⟩
  extGwy := ⟨.ofIp peerAddr.ip, swapBytes peerAddr.port⟩
  afGwy := familyOf gateway.ip
  proto := ipprotoUdp

/-- With ports that are not the same in both orders, a table of just the entry asked for
is searched in vain. -/
theorem symmetric_of_finds {bindAddr peerAddr : SocketAddr}
    (finds : ∀ kernel table, kernel.Keeps table → FindsEntry kernel table bindAddr peerAddr) :
    Symmetric bindAddr.port ∧ Symmetric peerAddr.port := by
  have entry : (stored bindAddr peerAddr bindAddr).Stores swapBytes bindAddr peerAddr :=
    ⟨rfl, ⟨rfl, rfl⟩, rfl, rfl⟩
  have found := (findsEntry_stored (Kernel.of_keeps [stored bindAddr peerAddr bindAddr])
    bindAddr peerAddr).mp (finds _ _ (Kernel.of_keeps _))
  simp only [firstStored, List.find?_cons, decide_eq_true entry] at found
  by_cases also : (stored bindAddr peerAddr bindAddr).Stores id bindAddr peerAddr
  · exact ⟨also.2.1.2, also.2.2.2⟩
  · rw [decide_eq_false also] at found
    obtain ⟨ip, port⟩ := bindAddr
    cases ip <;> cases found

/-- For one table the lookup is right exactly if the first entry with the ports in host
order and the first one with the ports in network order, the one asked for, translate to
the same address or both to none. It is right for every table exactly if the bytes of
both ports are the same in both orders. -/
theorem findsEntry_iff (bindAddr peerAddr : SocketAddr) :
    (∀ kernel table, kernel.Keeps table →
      (FindsEntry kernel table bindAddr peerAddr ↔
        (Symmetric bindAddr.port ∧ Symmetric peerAddr.port) ∨
        (firstStored id bindAddr peerAddr table).bind PfsyncState.translated =
          (firstStored swapBytes bindAddr peerAddr table).bind PfsyncState.translated)) ∧
    ((∀ kernel table, kernel.Keeps table → FindsEntry kernel table bindAddr peerAddr) ↔
      Symmetric bindAddr.port ∧ Symmetric peerAddr.port) := by
  refine ⟨?_, symmetric_of_finds, ?_⟩
  · intro kernel table keeps
    rw [findsEntry_stored keeps]
    constructor
    · exact fun same => .inr same
    · intro either
      rcases either with ⟨bind, peer⟩ | same
      · rw [firstStored_symmetric bind peer]
      · exact same
  · intro ⟨bind, peer⟩ kernel table keeps
    rw [findsEntry_stored keeps, firstStored_symmetric bind peer]

/-- One entry, of the connection from 10.0.0.2:1234 to 10.0.0.1:80: it is not found. -/
theorem natlook_misses_entry :
    ¬ ∀ kernel table, kernel.Keeps table → ∀ bindAddr peerAddr,
      FindsEntry kernel table bindAddr peerAddr := by
  intro claim
  have finds := claim _ _
    (Kernel.of_keeps
      [stored ⟨.v4 ⟨10, 0, 0, 1⟩, 80⟩ ⟨.v4 ⟨10, 0, 0, 2⟩, 1234⟩ ⟨.v4 ⟨8, 8, 8, 8⟩, 53⟩])
    ⟨.v4 ⟨10, 0, 0, 1⟩, 80⟩ ⟨.v4 ⟨10, 0, 0, 2⟩, 1234⟩ 2 (Nat.le_refl 2)
  have expected : (entryFor ⟨.v4 ⟨10, 0, 0, 1⟩, 80⟩ ⟨.v4 ⟨10, 0, 0, 2⟩, 1234⟩
      [stored ⟨.v4 ⟨10, 0, 0, 1⟩, 80⟩ ⟨.v4 ⟨10, 0, 0, 2⟩, 1234⟩ ⟨.v4 ⟨8, 8, 8, 8⟩, 53⟩]).bind
        PfsyncState.translated = some ⟨.v4 ⟨8, 8, 8, 8⟩, 53⟩ := by decide
  rw [expected] at finds
  have answered : _ = Except.ok _ := finds
  exact absurd answered (by decide)

end LocalProxy.Natlook
