import LocalProxy.SocksRequest

/-! What a SOCKS4a proxy understands of what it is written. The format has no lengths: a text
ends at the first zero, and a reserved range of addresses tells that a host name follows. -/

namespace LocalProxy.Socks4Request
open StdNet (Ipv4Addr Ipv6Addr IpAddr)
open Strings Addr Http Programs Program Network Outbound Handshake Peers SocksReply SocksRequest

/-- The host that a request names. -/
inductive Destination where
  | ipv4 (addr : Ipv4Addr)
  | named (text : Bytes)
  deriving DecidableEq, Repr

def Destination.of : HostName → Destination
  | .v4 addr => .ipv4 addr
  | hostname => .named (asBytes hostname.toText)

structure Asked where
  port : UInt16
  userId : Bytes
  destination : Destination
  deriving DecidableEq, Repr

/-- A text and the zero that ends it. -/
def readText : Bytes → Option (Bytes × Bytes)
  | [] => none
  | byte :: rest =>
    if byte = 0 then some ([], rest)
    else do
      let (text, rest) ← readText rest
      some (byte :: text, rest)

/-- The addresses 0.0.0.x, but for 0.0.0.0. -/
def Reserved (addr : Ipv4Addr) : Prop :=
  addr.a = 0 ∧ addr.b = 0 ∧ addr.c = 0 ∧ addr.d ≠ 0

instance (addr : Ipv4Addr) : Decidable (Reserved addr) :=
  inferInstanceAs (Decidable (_ ∧ _))

def readAsked : Bytes → Option (Asked × Bytes)
  | 4 :: 1 :: high :: low :: a :: b :: c :: d :: rest => do
    let (userId, rest) ← readText rest
    if Reserved ⟨a, b, c, d⟩ then do
      let (text, rest) ← readText rest
      some (⟨readU16 high low, userId, .named text⟩, rest)
    else some (⟨readU16 high low, userId, .ipv4 ⟨a, b, c, d⟩⟩, rest)
  | _ => none

theorem readText_append {text : Bytes} (free : 0 ∉ text) (rest : Bytes) :
    readText (text ++ 0 :: rest) = some (text, rest) := by
  induction text with
  | nil => rfl
  | cons byte text ih =>
    have other : byte ≠ 0 := fun same => free (by simp [same])
    have tail : 0 ∉ text := fun member => free (List.mem_cons_of_mem _ member)
    rw [List.cons_append, readText, if_neg other, ih tail]
    rfl

theorem ofNat_zero {n : Nat} (small : n < 256) (same : (0 : UInt8) = UInt8.ofNat n) : n = 0 := by
  have value := congrArg UInt8.toNat same
  rw [UInt8.toNat_ofNat', Nat.mod_eq_of_lt small] at value
  exact value.symm

/-- In UTF-8 only the character with the code zero has a byte zero. -/
theorem zero_utf8 {c : Char} (member : (0 : UInt8) ∈ String.utf8EncodeChar c) : c = nul := by
  unfold String.utf8EncodeChar at member
  dsimp only at member
  split at member
  next ascii =>
    have code := ofNat_zero (by omega) (List.mem_singleton.mp member)
    apply Char.ext
    apply UInt32.toNat_inj.mp
    rw [code]
    rfl
  next =>
    split at member
    next =>
      simp only [List.mem_cons, List.not_mem_nil, or_false] at member
      rcases member with byte | byte
      all_goals
        have code := ofNat_zero (by omega) byte
        omega
    next =>
      split at member
      next =>
        simp only [List.mem_cons, List.not_mem_nil, or_false] at member
        rcases member with byte | byte | byte
        all_goals
          have code := ofNat_zero (by omega) byte
          omega
      next =>
        simp only [List.mem_cons, List.not_mem_nil, or_false] at member
        rcases member with byte | byte | byte | byte
        all_goals
          have code := ofNat_zero (by omega) byte
          omega

theorem asBytes_free {text : Text} (free : nul ∉ text) : 0 ∉ asBytes text := by
  intro member
  obtain ⟨c, found, byte⟩ := List.mem_flatMap.mp member
  rw [zero_utf8 byte] at found
  exact free found

theorem asBytes_injective {text other : Text} (same : asBytes text = asBytes other) :
    text = other := by
  have encoded : text.utf8Encode = other.utf8Encode := by
    unfold List.utf8Encode
    exact congrArg List.toByteArray same
  apply String.ofList_injective
  apply String.toByteArray_inj.mp
  rw [String.toByteArray_ofList, String.toByteArray_ofList, encoded]

theorem ipv6_free (addr : Ipv6Addr) : nul ∉ addr.toText := by
  cases mapped : addr.toIpv4Mapped with
  | none => exact StdNet.absent_ipv6 addr mapped (by decide) (by decide)
  | some ipv4 =>
    have text : addr.toText = "::ffff:".toList ++ ipv4.toText := by
      simp only [Ipv6Addr.toText, mapped]
    rw [text]
    intro member
    rcases List.mem_append.mp member with front | back
    · exact absurd front (by decide)
    · exact absent_ipv4 ipv4 (by decide) (by decide) back

/-- The reader undoes the client. -/
theorem readAsked_request {self : Socks4Proxy} (free : 0 ∉ authBytes self.auth)
    {hostname : HostName} {destination : Ipv4Addr × Option Text}
    (known : Socks4Proxy.destination hostname = .ok destination) (port : UInt16) :
    readAsked (socks4Request self port destination) =
      some (⟨port, authBytes self.auth, .of hostname⟩, []) := by
  have userId : ∀ rest, readText (authBytes self.auth ++ 0 :: rest) =
      some (authBytes self.auth, rest) := readText_append free
  have named : ∀ text : Text, nul ∉ text →
      readAsked (socks4Request self port (⟨0, 0, 0, 1⟩, some text)) =
        some (⟨port, authBytes self.auth, .named (asBytes text)⟩, []) := by
    intro text plain
    show (readText (authBytes self.auth ++ 0 :: (asBytes text ++ [0])) >>= _) = _
    rw [userId]
    show (readText (asBytes text ++ [0]) >>= _) = _
    rw [readText_append (asBytes_free plain)]
    show some ((⟨readU16 _ _, _, _⟩ : Asked), _) = _
    rw [readU16_toBeBytes]
  cases hostname with
  | v4 addr =>
    unfold Socks4Proxy.destination at known
    dsimp only at known
    split at known
    next => cases known
    next usual =>
      have usual : ¬ Reserved addr := usual
      cases known
      show (readText (authBytes self.auth ++ [0]) >>= _) = _
      rw [userId]
      show (if Reserved addr then _ else some ((⟨readU16 _ _, _, _⟩ : Asked), _)) = _
      rw [if_neg usual, readU16_toBeBytes]
      rfl
  | v6 addr =>
    cases known
    exact named addr.toText (ipv6_free addr)
  | domain name =>
    unfold Socks4Proxy.destination at known
    dsimp only at known
    split at known
    next => cases known
    next plain =>
      cases known
      exact named name plain

variable {server : Connection}

theorem readReply_reads : (Socks4Proxy.readReply server).Uses Reads := by
  refine readU8_reads.bind fun version => (ensure_reads _).bind fun _ => ?_
  refine readU8_reads.bind fun status => (ensure_reads _).bind fun _ => ?_
  exact (readExact_reads 6).bind fun _ => trivial

theorem writeAuth_past {α : Type} (auth : Option Text) {next : Unit → Net α}
    {out : Bytes → Bytes → Prop}
    (later : Past (next ()) fun said heard => out (authBytes auth ++ said) heard) :
    Past (Socks4Proxy.writeAuth server auth >>= next) out := by
  cases auth with
  | none => exact later
  | some auth => exact Past.write later

theorem writeHostname_past {α : Type} (hostname : Option Text) {next : Unit → Net α}
    {out : Bytes → Bytes → Prop}
    (later : Past (next ()) fun said heard => out (hostnameBytes hostname ++ said) heard) :
    Past (Socks4Proxy.writeHostname server hostname >>= next) out := by
  cases hostname with
  | none => exact later
  | some hostname =>
    unfold Socks4Proxy.writeHostname
    rw [Program.bind_assoc]
    apply Past.write
    apply Past.write
    apply later.mono
    intro said heard done
    rw [← List.append_assoc]
    exact done

theorem tunnel_past (self : Socks4Proxy) (port : UInt16) (destination : Ipv4Addr × Option Text) :
    Past (self.tunnel server port destination) fun said _ =>
      said = socks4Request self port destination := by
  have reads : (do
      flush server
      Socks4Proxy.readReply server
      return server : Net Connection).Uses Reads :=
    ⟨trivial, fun _ => (uses_ofExcept _ _).bind fun _ => readReply_reads.bind fun _ => trivial⟩
  apply Past.write
  apply Past.write
  apply Past.write
  apply writeAuth_past
  apply Past.write
  apply writeHostname_past
  apply (past_rest reads).mono
  intro said heard nothing
  rw [nothing, List.append_nil]
  rfl

/-- The reply with which a SOCKS4 proxy grants a connection. -/
def Granted (reply : Bytes) : Prop :=
  ∃ bound, reply = [0, 90] ++ bound ∧ bound.length = 6

theorem parses_writeAuth (auth : Option Text) :
    Parses sending (Socks4Proxy.writeAuth server auth) fun _ read => read = [] := by
  cases auth with
  | none => exact (parses_value ()).congr fun _ _ => by simp
  | some auth => exact parses_writeAll (asBytes auth)

theorem parses_writeHostname (hostname : Option Text) :
    Parses sending (Socks4Proxy.writeHostname server hostname) fun _ read => read = [] := by
  cases hostname with
  | none => exact (parses_value ()).congr fun _ _ => by simp
  | some hostname => exact Parses.write (parses_writeAll [0])

theorem tunnel_parses (self : Socks4Proxy) (port : UInt16)
    (destination : Ipv4Addr × Option Text) :
    Parses sending (self.tunnel server port destination) fun conn read =>
      conn = server ∧ Granted read := by
  have reply : Parses sending (Socks4Proxy.readReply server) _ :=
    Parses.expect (Parses.expect (skipExact_parses 6))
  have last : Parses sending (do
      flush server
      Socks4Proxy.readReply server
      return server) _ := Parses.flush (Parses.returning reply server)
  have tunnel : Parses sending (self.tunnel server port destination) _ :=
    Parses.write (Parses.write (Parses.write (Parses.silent (parses_writeAuth self.auth)
      (Parses.write (Parses.silent (parses_writeHostname destination.2) last)))))
  apply tunnel.congr
  intro conn read
  constructor
  · intro split
    obtain ⟨same, _, one, bound, two, six⟩ := split
    exact ⟨same, bound, by rw [one, two]; rfl, six⟩
  · intro both
    obtain ⟨same, bound, whole, six⟩ := both
    exact ⟨same, _, whole, bound, rfl, six⟩

/-- The user name, with the password behind a colon if there is one. -/
def userId (conf : ProxyConfig) : Text :=
  conf.user.getD [] ++
    (match conf.password with
      | some password => ':' :: password
      | none => [])

theorem new_userId {conf : ProxyConfig} {self : Socks4Proxy}
    (made : Socks4Proxy.new conf = .ok self) :
    authBytes self.auth = asBytes (userId conf) ∧ nul ∉ userId conf := by
  obtain ⟨_, auth, text, plain, same⟩ := Socks4Proxy.new_ok made
  have known : auth = userId conf := text
  subst known
  refine ⟨?_, plain⟩
  rw [same]
  by_cases empty : (userId conf).isEmpty
  · rw [if_pos empty, List.isEmpty_iff.mp empty]
    rfl
  · rw [if_neg empty]
    rfl

/-- A host name as the program makes it, from a text or an address. -/
def Built (hostname : HostName) : Prop :=
  (∃ text, hostname = .fromStr text) ∨ ∃ ip, hostname = .ofIpAddr ip

theorem Built.normal {hostname : HostName} (built : Built hostname) : hostname.Normal := by
  rcases built with ⟨text, same⟩ | ⟨ip, same⟩
  · rw [same]
    exact HostName.normal_fromStr text
  · rw [same]
    exact HostName.normal_ofIpAddr ip

/-- No domain spells an address, so that the text tells them apart. -/
theorem destination_injective {hostname other : HostName} (normal : hostname.Normal)
    (others : other.Normal) (same : Destination.of hostname = .of other) : hostname = other := by
  have texts : ∀ {one two : Text}, Destination.named (asBytes one) = .named (asBytes two) →
      one = two := fun equal => asBytes_injective (Destination.named.inj equal)
  cases hostname with
  | v4 addr =>
    cases other with
    | v4 addr' => rw [Destination.ipv4.inj same]
    | v6 addr' => cases same
    | domain name' => cases same
  | v6 addr =>
    have read := StdNet.parseIpAddr_ipv6 addr normal
    cases other with
    | v4 addr' => cases same
    | v6 addr' =>
      have equal : addr.toText = addr'.toText := texts same
      rw [equal, StdNet.parseIpAddr_ipv6 addr' others] at read
      cases read
      rfl
    | domain name' =>
      have equal : addr.toText = name' := texts same
      have unread : StdNet.parseIpAddr name' = none := others
      rw [equal, unread] at read
      cases read
  | domain name =>
    have unread : StdNet.parseIpAddr name = none := normal
    cases other with
    | v4 addr' => cases same
    | v6 addr' =>
      have equal : name = addr'.toText := texts same
      rw [equal, StdNet.parseIpAddr_ipv6 addr' others] at unread
      cases unread
    | domain name' =>
      have equal : name = name' := texts same
      rw [equal]

/-- A target that a SOCKS4 request cannot carry. -/
def Breaks : HostName → Prop
  | .v4 addr => Reserved addr
  | .v6 _ => False
  | .domain name => nul ∈ name

theorem breaks_refused {hostname : HostName} (breaks : Breaks hostname) :
    Socks4Proxy.destination hostname = .error .empty := by
  cases hostname with
  | v4 addr => exact if_pos breaks
  | v6 addr => exact breaks.elim
  | domain name => exact if_pos breaks

/-- What a SOCKS4 proxy made of this configuration says and reads. -/
structure Unambiguous (conf : ProxyConfig) (self : Socks4Proxy) : Prop where
  read : ∀ server addr trace final, PastWrites (self.connect (reached server) addr) trace final →
    readAsked (written trace) =
      some (⟨addr.port, asBytes (userId conf), .of addr.hostname⟩, [])
  distinct : ∀ server addr other trace trace' final final', Built addr.hostname →
    Built other.hostname → PastWrites (self.connect (reached server) addr) trace final →
    PastWrites (self.connect (reached server) other) trace' final' →
    written trace = written trace' → addr = other
  refused : ∀ next addr, Breaks addr.hostname → self.connect next addr = .fail .empty
  consumed : ∀ server addr chunks conn,
    (talk arriving (self.connect (reached server) addr) chunks).final = .value conn →
      conn = server ∧ ∃ reply, reply.length = 8 ∧ chunks.flatten =
        reply ++ (talk arriving (self.connect (reached server) addr) chunks).left.flatten

theorem connect_read {conf : ProxyConfig} {self : Socks4Proxy}
    (made : Socks4Proxy.new conf = .ok self) {addr : SocketAddr} {trace : Trace}
    {final : Net Connection} (past : PastWrites (self.connect (reached server) addr) trace final) :
    readAsked (written trace) =
      some (⟨addr.port, asBytes (userId conf), .of addr.hostname⟩, []) := by
  obtain ⟨auth, plain⟩ := new_userId made
  unfold Socks4Proxy.connect at past
  cases known : Socks4Proxy.destination addr.hostname with
  | error error =>
    rw [known] at past
    exact (not_past_fail past).elim
  | ok destination =>
    rw [known] at past
    have said := (tunnel_past self addr.port destination).out trace final past
    have free : 0 ∉ authBytes self.auth := by
      rw [auth]
      exact asBytes_free plain
    rw [said, readAsked_request free known, auth]

/-- A SOCKS4a proxy reads exactly the target that was meant, and no other target reads alike. -/
theorem socks4_unambiguous {conf : ProxyConfig} {self : Socks4Proxy}
    (made : Socks4Proxy.new conf = .ok self) : Unambiguous conf self := by
  refine ⟨fun server addr trace final past => connect_read made past, ?_, ?_, ?_⟩
  · intro server addr other trace trace' final final' built others past past' same
    have one := connect_read made past
    rw [same, connect_read made past'] at one
    have asked := (Prod.mk.inj (Option.some.inj one)).1
    have port := congrArg Asked.port asked
    have host := destination_injective others.normal built.normal
      (congrArg Asked.destination asked)
    obtain ⟨hostname, number⟩ := addr
    obtain ⟨hostname', number'⟩ := other
    cases port
    cases host
    rfl
  · intro next addr breaks
    unfold Socks4Proxy.connect
    rw [breaks_refused breaks]
    rfl
  · intro server addr chunks conn done
    unfold Socks4Proxy.connect at done ⊢
    cases known : Socks4Proxy.destination addr.hostname with
    | error error =>
      rw [known] at done
      cases done
    | ok destination =>
      rw [known] at done
      have parses : Parses sending (self.tunnel server addr.port destination) _ :=
        tunnel_parses self addr.port destination
      have sound := parses.sound chunks.flatten conn
      rw [talk_arriving] at sound
      obtain ⟨reply, split, same, bound, granted, six⟩ := sound done
      exact ⟨same, reply, by rw [granted]; simp [six], split⟩

/-- A configuration with a user name and no password. -/
theorem socks4_unambiguous_user :
    Unambiguous ⟨"socks4".toList, some ['u'], none, "127.0.0.1:1080".toList⟩
      ⟨⟨.v4 ⟨127, 0, 0, 1⟩, 1080⟩, some ['u']⟩ :=
  socks4_unambiguous (by decide +kernel)

end LocalProxy.Socks4Request
