import LocalProxy.StdNet

/-! The addresses of `utils/addr.rs`: a host name that is an IP address or free text,
with a port, as they are printed and read. Every address the program builds is read
back from its text, unless its host is a text still in brackets. -/

namespace LocalProxy.Addr
open Strings StdNet

/-- `Box<dyn Error>`: the errors the program raises itself all have the empty text,
the others come from what it calls. -/
inductive Error where
  | empty
  | other
  deriving DecidableEq, Repr

theorem bind_ok {ε α β : Type} {first : Except ε α} {next : α → Except ε β} {result : β}
    (done : (first >>= next) = .ok result) :
    ∃ middle, first = .ok middle ∧ next middle = .ok result := by
  cases first with
  | error error => contradiction
  | ok middle => exact ⟨middle, rfl, done⟩

inductive HostName where
  | v4 (addr : Ipv4Addr)
  | v6 (addr : Ipv6Addr)
  | domain (name : Text)
  deriving DecidableEq, Repr

structure SocketAddr where
  hostname : HostName
  port : UInt16
  deriving DecidableEq, Repr

def HostName.ofIpv6 (value : Ipv6Addr) : HostName :=
  match value.toIpv4Mapped with
  | some addr => .v4 addr
  | none => .v6 value

def HostName.ofIpAddr : IpAddr → HostName
  | .v4 addr => .v4 addr
  | .v6 addr => .ofIpv6 addr

/-- The test of `from_str` for brackets around the text. -/
def isBracketed (s : Text) : Bool := s.head? == some '[' && s.getLast? == some ']'

/-- `HostName::from_str`, which accepts every text. -/
def HostName.fromStr (s : Text) : HostName :=
  let s := if isBracketed s then (s.drop 1).dropLast else s
  match parseIpAddr s with
  | some ip => .ofIpAddr ip
  | none => .domain s

def HostName.toText : HostName → Text
  | .v4 addr => addr.toText
  | .v6 addr => addr.toText
  | .domain name => name

def HostName.toStringUrlStyle : HostName → Text
  | .v6 addr => '[' :: addr.toText ++ [']']
  | hostname => hostname.toText

def HostName.isIpaddr : HostName → Bool
  | .v4 _ => true
  | .v6 _ => true
  | .domain _ => false

/-- `str::parse::<u16>`. -/
def parsePort (s : Text) : Except Error UInt16 :=
  match parseUnsigned 65536 s with
  | some port => .ok (UInt16.ofNat port)
  | none => .error .other

def printPort (port : UInt16) : Text := printUnsigned port.toNat

def SocketAddr.parseHostHeader (host : Text) : Except Error (HostName × Option UInt16) :=
  match rsplitOnce ':' host with
  | some (hostname, port) => do
    let port ← parsePort port
    return (.fromStr hostname, some port)
  | none => return (.fromStr host, none)

def SocketAddr.toText (addr : SocketAddr) : Text :=
  match addr.hostname with
  | .v6 _ => '[' :: addr.hostname.toText ++ "]:".toList ++ printPort addr.port
  | _ => addr.hostname.toText ++ ':' :: printPort addr.port

def SocketAddr.fromStr (s : Text) : Except Error SocketAddr :=
  match rsplitOnce ':' s with
  | none => .error .empty
  | some (hostname, port) => do
    let port ← parsePort port
    return ⟨.fromStr hostname, port⟩

def SocketAddr.ofStd (value : StdNet.SocketAddr) : SocketAddr :=
  ⟨.ofIpAddr value.ip, value.port⟩

/-- What `From` and `FromStr` leave: no IPv6 address that maps an IPv4 one, and no
domain that spells an address. -/
def HostName.Normal : HostName → Prop
  | .v4 _ => True
  | .v6 addr => addr.toIpv4Mapped = none
  | .domain name => parseIpAddr name = none

theorem HostName.normal_ofIpAddr (ip : IpAddr) : (HostName.ofIpAddr ip).Normal := by
  cases ip with
  | v4 addr => trivial
  | v6 addr =>
    cases mapped : addr.toIpv4Mapped with
    | none =>
      simp only [HostName.ofIpAddr, HostName.ofIpv6, mapped]
      exact mapped
    | some addr => simp [HostName.ofIpAddr, HostName.ofIpv6, mapped, HostName.Normal]

theorem HostName.normal_fromStr (s : Text) : (HostName.fromStr s).Normal := by
  simp only [HostName.fromStr]
  split
  next ip _ => exact HostName.normal_ofIpAddr ip
  next unread => exact unread

theorem parsePort_print (port : UInt16) : parsePort (printPort port) = .ok port := by
  simp [parsePort, printPort, parseUnsigned_print port.toNat_lt]

theorem colon_printPort (port : UInt16) : ':' ∉ printPort port :=
  absent_printUnsigned _ (by decide)

theorem isBracketed_mem {s : Text} (bracketed : isBracketed s = true) : '[' ∈ s := by
  simp only [isBracketed, Bool.and_eq_true, beq_iff_eq] at bracketed
  exact List.mem_of_head? bracketed.1

theorem isBracketed_around (s : Text) : isBracketed ('[' :: s ++ [']']) = true := by
  have last : ('[' :: s ++ [']']).getLast? = some ']' := List.getLast?_concat
  rw [isBracketed, last]
  rfl

theorem absent_ipv4 {c : Char} (addr : Ipv4Addr) (other : c.isDigit = false) (dot : c ≠ '.') :
    c ∉ addr.toText := by
  simp [Ipv4Addr.toText, absent_printUnsigned _ other, dot]

theorem HostName.fromStr_plain {s : Text} (plain : isBracketed s = false) :
    HostName.fromStr s = match parseIpAddr s with
      | some ip => .ofIpAddr ip
      | none => .domain s := by
  simp [HostName.fromStr, plain]

theorem HostName.fromStr_around (s : Text) :
    HostName.fromStr ('[' :: s ++ [']']) = match parseIpAddr s with
      | some ip => .ofIpAddr ip
      | none => .domain s := by
  have inner : (('[' :: s ++ [']']).drop 1).dropLast = s := by simp
  simp only [HostName.fromStr, isBracketed_around, if_true, inner]

/-- No text that still stands in brackets, as a host given in two pairs of them. -/
def HostName.Unbracketed (hostname : HostName) : Prop :=
  ∀ name, hostname = .domain name → isBracketed name = false

/-- The URL style is what `from_str` undoes, but for a domain that stands in brackets. -/
theorem HostName.fromStr_urlStyle {hostname : HostName} (normal : hostname.Normal) :
    HostName.fromStr hostname.toStringUrlStyle = hostname ↔ hostname.Unbracketed := by
  cases hostname with
  | v4 addr =>
    have plain : isBracketed addr.toText = false := by
      by_contra bracketed
      exact absent_ipv4 addr (by decide) (by decide) (isBracketed_mem (by simpa using bracketed))
    simp [HostName.toStringUrlStyle, HostName.toText, HostName.fromStr_plain plain,
      parseIpAddr_ipv4, HostName.ofIpAddr, HostName.Unbracketed]
  | v6 addr =>
    have unmapped : addr.toIpv4Mapped = none := normal
    simp only [HostName.toStringUrlStyle, HostName.fromStr_around, parseIpAddr_ipv6 addr unmapped]
    simp [HostName.ofIpAddr, HostName.ofIpv6, unmapped, HostName.Unbracketed]
  | domain name =>
    have unread : parseIpAddr name = none := normal
    constructor
    · intro same other equal
      cases equal
      by_contra bracketed
      have enclosed : isBracketed name = true := by simpa using bracketed
      simp only [HostName.toStringUrlStyle, HostName.toText, HostName.fromStr, enclosed,
        if_true] at same
      split at same
      next ip _ =>
        cases ip with
        | v4 addr => simp [HostName.ofIpAddr] at same
        | v6 addr =>
          simp only [HostName.ofIpAddr, HostName.ofIpv6] at same
          split at same
          · contradiction
          · contradiction
      next =>
        have shorter := congrArg List.length (HostName.domain.inj same)
        have some := List.length_pos_of_mem (isBracketed_mem enclosed)
        simp only [List.length_dropLast, List.length_drop] at shorter
        omega
    · intro plain
      simp only [HostName.toStringUrlStyle, HostName.toText, HostName.fromStr_plain (plain name rfl),
        unread]

theorem SocketAddr.toText_eq (addr : SocketAddr) :
    addr.toText = addr.hostname.toStringUrlStyle ++ ':' :: printPort addr.port := by
  cases addr with
  | mk hostname port =>
    cases hostname with
    | v4 addr => rfl
    | v6 addr => simp [SocketAddr.toText, HostName.toStringUrlStyle, HostName.toText]
    | domain name => rfl

theorem SocketAddr.fromStr_toText (addr : SocketAddr) :
    SocketAddr.fromStr addr.toText =
      .ok ⟨.fromStr addr.hostname.toStringUrlStyle, addr.port⟩ := by
  have split := rsplitOnce_append addr.hostname.toStringUrlStyle (colon_printPort addr.port)
  rw [SocketAddr.toText_eq]
  simp only [SocketAddr.fromStr, split, parsePort_print]
  rfl

theorem bracket_ipv6 {c : Char} (addr : Ipv6Addr) (plain : addr.toIpv4Mapped = none)
    (bracket : c = '[' ∨ c = ']') : c ∉ addr.toText := by
  rcases bracket with same | same
  · rw [same]
    exact absent_ipv6 addr plain (by decide) (by decide)
  · rw [same]
    exact absent_ipv6 addr plain (by decide) (by decide)

theorem colon_ipv6 (addr : Ipv6Addr) (plain : addr.toIpv4Mapped = none) : ':' ∈ addr.toText := by
  simp only [Ipv6Addr.toText, plain]
  split
  · simp
  · obtain ⟨segments, eight⟩ := addr
    cases segments with
    | nil => cases eight
    | cons first rest =>
      cases rest with
      | nil => cases eight
      | cons second rest => simp [fmtSubslice]

/-- No port ends in a bracket, so an IPv6 host in brackets has to be given one. -/
theorem parseHostHeader_ipv6 (addr : Ipv6Addr) (plain : addr.toIpv4Mapped = none) :
    SocketAddr.parseHostHeader ('[' :: addr.toText ++ [']']) = .error .other := by
  have colon : ':' ∈ '[' :: addr.toText ++ [']'] := by simp [colon_ipv6 addr plain]
  cases split : rsplitOnce ':' ('[' :: addr.toText ++ [']']) with
  | none => exact (rsplitOnce_none.mp split colon).elim
  | some halves =>
    obtain ⟨front, back⟩ := halves
    have whole := (rsplitOnce_some split).1
    have last : (front ++ ':' :: back).getLast? = some ']' := by
      rw [← whole]
      exact List.getLast?_concat
    rw [List.getLast?_append_of_ne_nil _ (List.cons_ne_nil _ _)] at last
    have ends : ']' ∈ back := by
      rcases List.mem_cons.mp (List.mem_of_getLast? last) with colon | later
      · contradiction
      · exact later
    have unread : parseUnsigned 65536 back = none := by
      cases read : parseUnsigned 65536 back with
      | none => rfl
      | some port =>
        rcases parseUnsigned_char read ends with plus | digit
        · contradiction
        · exact (digit (by decide)).elim
    simp only [SocketAddr.parseHostHeader, split, parsePort, unread]
    rfl

end LocalProxy.Addr
