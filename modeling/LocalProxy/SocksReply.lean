import LocalProxy.Handshake
import LocalProxy.Peers

/-! What the handshakes with SOCKS proxies take from the stream, however it arrives: the
replies they wait for, byte by byte, and nothing of what comes behind them. -/

namespace LocalProxy.SocksReply
open Strings Addr Http Programs Program Network Outbound Handshake Peers

/-- `read_exact` over a stream that arrives in pieces; an empty one is a read that has to wait. -/
def readChunks : Nat → List Bytes → Option (Bytes × List Bytes)
  | count, [] => if count = 0 then some ([], []) else none
  | count, chunk :: chunks =>
    if count ≤ chunk.length then some (chunk.take count, chunk.drop count :: chunks)
    else do
      let (bytes, rest) ← readChunks (count - chunk.length) chunks
      some (chunk ++ bytes, rest)

/-- `read_exact` over a stream that is there as a whole. -/
def readBytes (count : Nat) (stream : Bytes) : Option (Bytes × Bytes) :=
  if count ≤ stream.length then some (stream.take count, stream.drop count) else none

/-- The pieces do not matter. -/
theorem readChunks_flatten (count : Nat) (chunks : List Bytes) :
    (readChunks count chunks).map (Prod.map id List.flatten) = readBytes count chunks.flatten := by
  induction chunks generalizing count with
  | nil =>
    unfold readChunks readBytes
    by_cases none : count = 0
    · subst none
      rfl
    · have short : ¬ count ≤ ([] : List Bytes).flatten.length := by
        simp only [List.flatten_nil, List.length_nil]
        omega
      rw [if_neg none, if_neg short]
      rfl
  | cons chunk chunks ih =>
    unfold readChunks
    rw [List.flatten_cons]
    by_cases enough : count ≤ chunk.length
    · have whole : count ≤ (chunk ++ chunks.flatten).length := by
        simp only [List.length_append]
        omega
      rw [if_pos enough, readBytes, if_pos whole, List.take_append_of_le_length enough,
        List.drop_append_of_le_length enough]
      rfl
    · have more : chunk.length ≤ count := by omega
      have step := ih (count - chunk.length)
      rw [if_neg enough]
      unfold readBytes at step ⊢
      by_cases whole : count - chunk.length ≤ chunks.flatten.length
      · have total : count ≤ (chunk ++ chunks.flatten).length := by
          simp only [List.length_append]
          omega
        rw [if_pos whole] at step
        rw [if_pos total, List.take_append, List.drop_append, List.take_of_length_le more,
          List.drop_eq_nil_of_le more]
        obtain ⟨pair, read, same⟩ := Option.map_eq_some_iff.mp step
        obtain ⟨bytes, rest⟩ := pair
        have parts := Prod.mk.inj same
        have front : bytes = _ := parts.1
        have back : rest.flatten = _ := parts.2
        rw [read]
        simp only [Option.bind_eq_bind, Option.bind_some, Option.map_some, Prod.map_apply, id_eq,
          front, back, List.nil_append]
      · have short : ¬ count ≤ (chunk ++ chunks.flatten).length := by
          simp only [List.length_append]
          omega
        rw [if_neg whole] at step
        rw [if_neg short, Option.map_eq_none_iff.mp step]
        rfl

/-- The answer to `read_exact`; after a stream that ends too early there is nothing left. -/
def answerRead {σ : Type} (count : Nat) (ended : σ) :
    Option (Bytes × σ) → Except Error { bytes : Bytes // bytes.length = count } × σ
  | some (bytes, rest) =>
    if exact : bytes.length = count then (.ok ⟨bytes, exact⟩, rest) else (.error .other, ended)
  | none => (.error .other, ended)

/-- The proxy at the other end: it takes whatever it is written, and sends these pieces. -/
def arriving : Peer Op Ans (List Bytes)
  | .writeAll _ _, chunks => some (.ok (), chunks)
  | .flush _, chunks => some (.ok (), chunks)
  | .readExact _ count, chunks => some (answerRead count [] (readChunks count chunks))
  | _, _ => none

/-- The same proxy with its stream in one piece. -/
def sending : Peer Op Ans Bytes
  | .writeAll _ _, stream => some (.ok (), stream)
  | .flush _, stream => some (.ok (), stream)
  | .readExact _ count, stream => some (answerRead count [] (readBytes count stream))
  | _, _ => none

theorem answerRead_flatten (count : Nat) (found : Option (Bytes × List Bytes)) :
    Prod.map id List.flatten (answerRead count [] found) =
      answerRead count [] (found.map (Prod.map id List.flatten)) := by
  cases found with
  | none => rfl
  | some pair =>
    obtain ⟨bytes, rest⟩ := pair
    show Prod.map id List.flatten (answerRead count [] (some (bytes, rest))) =
      answerRead count [] (some (bytes, rest.flatten))
    by_cases exact : bytes.length = count
    · simp only [answerRead, dif_pos exact]
      rfl
    · simp only [answerRead, dif_neg exact]
      rfl

theorem arriving_sending (operation : Op) (chunks : List Bytes) :
    (arriving operation chunks).map (Prod.map id List.flatten) =
      sending operation chunks.flatten := by
  cases operation with
  | readExact server count =>
    have same : sending (.readExact server count) chunks.flatten =
        some (answerRead count [] (readBytes count chunks.flatten)) := rfl
    rw [same, ← readChunks_flatten, ← answerRead_flatten]
    rfl
  | _ => rfl

theorem talk_arriving {α : Type} (program : Net α) (chunks : List Bytes) :
    talk sending program chunks.flatten = { talk arriving program chunks with
      left := (talk arriving program chunks).left.flatten } :=
  talk_alike List.flatten arriving_sending program chunks

theorem speaks_sending {server : Connection} (operation : Op) (stream : Bytes)
    (speaks : Speaks server operation) : sending operation stream ≠ none := by
  cases operation with
  | writeAll server bytes => simp [sending]
  | flush server => simp [sending]
  | readExact server count => simp [sending]
  | _ => exact speaks.elim

section Rules

variable {α : Type} {server : Connection} {accepts : α → Bytes → Prop}

/-- The answers to a read of the stream. -/
theorem sending_enough {count : Nat} {stream : Bytes} (enough : count ≤ stream.length) :
    sending (.readExact server count) stream = some (.ok ⟨stream.take count,
      by simp only [List.length_take]; omega⟩, stream.drop count) := by
  have exact : (stream.take count).length = count := by
    simp only [List.length_take]
    omega
  simp only [sending, readBytes, if_pos enough, answerRead, dif_pos exact]

theorem sending_short {count : Nat} {stream : Bytes} (short : ¬ count ≤ stream.length) :
    sending (.readExact server count) stream = some (.error .other, []) := by
  simp only [sending, readBytes, if_neg short, answerRead]

theorem Parses.write {bytes : Bytes} {next : Unit → Net α}
    (later : Parses sending (next ()) accepts) :
    Parses sending (writeAll server bytes >>= next) accepts :=
  Parses.free (fun _ => rfl) later

theorem Parses.flush {next : Unit → Net α} (later : Parses sending (next ()) accepts) :
    Parses sending (flush server >>= next) accepts :=
  Parses.free (fun _ => rfl) later

/-- A part that takes nothing from the stream. -/
theorem Parses.silent {program : Net Unit} {next : Unit → Net α}
    (first : Parses sending program fun _ read => read = [])
    (later : Parses sending (next ()) accepts) : Parses sending (program >>= next) accepts := by
  apply (first.bind fun _ => later).congr
  intro result read
  constructor
  · intro split
    obtain ⟨_, before, after, whole, nothing, rest⟩ := split
    rw [whole, nothing]
    exact rest
  · intro rest
    exact ⟨(), [], read, rfl, rfl, rest⟩

/-- The last part, after which the program returns what it has at hand. -/
theorem Parses.returning {program : Net Unit} {takes : Bytes → Prop}
    (last : Parses sending program fun _ read => takes read) (result : α) :
    Parses sending (program >>= fun _ => value result) fun final read =>
      final = result ∧ takes read := by
  apply (last.bind fun _ => parses_value result).congr
  intro final read
  constructor
  · intro split
    obtain ⟨_, before, after, whole, taken, same, nothing⟩ := split
    rw [whole, nothing, List.append_nil]
    exact ⟨same, taken⟩
  · intro both
    exact ⟨(), read, [], (List.append_nil read).symm, both.2, both.1, rfl⟩

theorem parses_readExact (count : Nat) :
    Parses sending (readExact server count) fun bytes read => read = bytes.1 := by
  constructor
  · intro stream result done
    unfold Network.readExact at done ⊢
    by_cases enough : count ≤ stream.length
    · rw [talk_ask (sending_enough enough)] at done ⊢
      cases done
      exact ⟨stream.take count, (List.take_append_drop count stream).symm, rfl⟩
    · rw [talk_ask (sending_short enough)] at done
      cases done
  · intro result read rest same
    subst read
    have enough : count ≤ (result.1 ++ rest).length := by
      have := result.2
      simp only [List.length_append]
      omega
    unfold Network.readExact
    rw [talk_ask (sending_enough enough)]
    have front : (result.1 ++ rest).take count = result.1 := List.take_left' result.2
    have back : (result.1 ++ rest).drop count = rest := List.drop_left' result.2
    constructor
    · show Program.value _ = Program.value _
      congr 1
      exact Subtype.ext front
    · exact back

/-- A read of which only the length counts. -/
theorem Parses.readExact {count : Nat} {next : { bytes : Bytes // bytes.length = count } → Net α}
    (later : ∀ bytes, Parses sending (next bytes) accepts) :
    Parses sending (readExact server count >>= next) fun result read => ∃ first after,
      read = first ++ after ∧ first.length = count ∧ accepts result after := by
  apply ((parses_readExact count).bind later).congr
  intro result read
  constructor
  · intro split
    obtain ⟨bytes, before, after, whole, same, rest⟩ := split
    exact ⟨before, after, whole, by rw [same]; exact bytes.2, rest⟩
  · intro split
    obtain ⟨first, after, whole, long, rest⟩ := split
    exact ⟨⟨first, long⟩, first, after, whole, rfl, rest⟩

theorem parses_readU8 :
    Parses sending (readU8 server) fun byte read => read = [byte] := by
  apply ((parses_readExact 1).bind fun bytes => parses_value (bytes.1.headD 0)).congr
  intro byte read
  constructor
  · intro split
    obtain ⟨⟨bytes, one⟩, before, after, whole, same, head, nothing⟩ := split
    match bytes, one with
    | [only], _ =>
      rw [whole, same, nothing, head]
      rfl
  · intro same
    exact ⟨⟨[byte], rfl⟩, [byte], [], by rw [same]; rfl, rfl, rfl, rfl⟩

theorem Parses.readU8 {next : UInt8 → Net α} {later : UInt8 → α → Bytes → Prop}
    (parses : ∀ byte, Parses sending (next byte) (later byte)) :
    Parses sending (readU8 server >>= next) fun result read => ∃ byte after,
      read = byte :: after ∧ later byte result after := by
  apply (parses_readU8.bind parses).congr
  intro result read
  constructor
  · intro split
    obtain ⟨byte, before, after, whole, same, rest⟩ := split
    exact ⟨byte, after, by rw [whole, same]; rfl, rest⟩
  · intro split
    obtain ⟨byte, after, whole, rest⟩ := split
    exact ⟨byte, [byte], after, whole, rfl, rest⟩

theorem Parses.ensure {condition : Bool} {next : Unit → Net α}
    (later : Parses sending (next ()) accepts) :
    Parses sending (ensure condition >>= next) fun result read =>
      condition = true ∧ accepts result read := by
  cases condition with
  | true => exact later.congr fun _ _ => by simp
  | false =>
    have failed : Parses sending (fail Error.empty : Net α) fun _ _ => False := parses_fail _
    exact failed.congr fun _ _ => by simp

/-- A byte that the program waits for. -/
theorem Parses.expect {byte : UInt8} {next : Unit → Net α}
    (later : Parses sending (next ()) accepts) :
    Parses sending (Network.readU8 server >>= fun got => Network.ensure (got = byte) >>= next)
      fun result read => ∃ after, read = byte :: after ∧ accepts result after := by
  apply (Parses.readU8 fun got => Parses.ensure later).congr
  intro result read
  constructor
  · intro split
    obtain ⟨got, after, whole, same, rest⟩ := split
    exact ⟨after, by rw [whole, of_decide_eq_true same], rest⟩
  · intro split
    obtain ⟨after, whole, rest⟩ := split
    exact ⟨byte, after, whole, decide_eq_true rfl, rest⟩

theorem parses_ensure (condition : Bool) :
    Parses sending (ensure condition) fun _ read => condition = true ∧ read = [] := by
  cases condition with
  | true => exact (parses_value ()).congr fun _ _ => by simp
  | false =>
    have failed : Parses sending (fail Error.empty : Net Unit) fun _ _ => False := parses_fail _
    exact failed.congr fun _ _ => by simp

theorem parses_expect (byte : UInt8) :
    Parses sending (Network.readU8 server >>= fun got => Network.ensure (got = byte))
      fun _ read => read = [byte] := by
  apply (Parses.readU8 fun got => parses_ensure (got = byte)).congr
  intro result read
  constructor
  · intro split
    obtain ⟨got, after, whole, same, nothing⟩ := split
    rw [whole, nothing, of_decide_eq_true same]
  · intro same
    exact ⟨byte, [], same, decide_eq_true rfl, rfl⟩

theorem u8TryFrom_ok {n : Nat} (small : n ≤ 255) : u8TryFrom n = .ok (UInt8.ofNat n) := by
  rw [u8TryFrom, if_pos (by omega)]

theorem Parses.length {n : Nat} {next : UInt8 → Net α} (small : n ≤ 255)
    (later : Parses sending (next (UInt8.ofNat n)) accepts) :
    Parses sending (ofExcept (u8TryFrom n) >>= next) accepts := by
  rw [u8TryFrom_ok small]
  exact later

end Rules

/-- The address that a SOCKS5 reply carries, with its type. -/
inductive Bound : Bytes → Prop where
  | ipv4 (addr : Bytes) (four : addr.length = 4) : Bound (1 :: addr)
  | domain (length : UInt8) (name : Bytes) (whole : name.length = length.toNat) :
    Bound (3 :: length :: name)
  | ipv6 (addr : Bytes) (sixteen : addr.length = 16) : Bound (4 :: addr)

/-- The replies with which a SOCKS5 proxy grants a connection: a method, the success of its
authentication if it has one, and the success of the request. -/
def Granted (reply : Bytes) : Prop :=
  ∃ method bound port, reply = method ++ [5, 0, 0] ++ bound ++ port ∧
    (method = [5, 0] ∨ method = [5, 2, 1, 0]) ∧ Bound bound ∧ port.length = 2

variable {server : Connection}

theorem skipExact_parses (count : Nat) :
    Parses sending (do
      let _ ← readExact server count
      return ()) fun (_ : Unit) read => read.length = count := by
  apply (Parses.readExact fun _ => parses_value ()).congr
  intro result read
  constructor
  · intro split
    obtain ⟨first, after, whole, long, _, nothing⟩ := split
    rw [whole, nothing, List.append_nil]
    exact long
  · intro long
    exact ⟨read, [], (List.append_nil read).symm, long, rfl, rfl⟩

theorem bound_cases {kind : UInt8} {read : Bytes} : Bound (kind :: read) ↔
    (kind = 1 ∧ read.length = 4) ∨ (kind = 4 ∧ read.length = 16) ∨
      (kind = 3 ∧ ∃ length name, read = length :: name ∧ name.length = length.toNat) := by
  constructor
  · intro bound
    cases bound with
    | ipv4 addr four => exact .inl ⟨rfl, four⟩
    | domain length name whole => exact .inr (.inr ⟨rfl, length, name, rfl, whole⟩)
    | ipv6 addr sixteen => exact .inr (.inl ⟨rfl, sixteen⟩)
  · intro split
    rcases split with ⟨same, four⟩ | ⟨same, sixteen⟩ | ⟨same, length, name, whole, long⟩
    · subst kind
      exact .ipv4 read four
    · subst kind
      exact .ipv6 read sixteen
    · subst kind read
      exact .domain length name long

theorem skipBound_parses (kind : UInt8) :
    Parses sending (Socks5Proxy.skipBound server kind) fun _ read => Bound (kind :: read) := by
  have domain : Parses sending (do
      let length ← readU8 server
      let _ ← readExact server length.toNat
      return ()) fun (_ : Unit) read => ∃ length name, read = length :: name ∧
        name.length = length.toNat :=
    Parses.readU8 fun length => skipExact_parses length.toNat
  have other : Parses sending (fail Error.empty : Net Unit) fun _ _ => False := parses_fail _
  unfold Socks5Proxy.skipBound
  by_cases ipv4 : kind = 1
  · rw [if_pos ipv4]
    exact (skipExact_parses 4).congr fun _ read => by simp [bound_cases, ipv4]
  rw [if_neg ipv4]
  by_cases named : kind = 3
  · rw [if_pos named]
    exact domain.congr fun _ read => by simp [bound_cases, named]
  rw [if_neg named]
  by_cases ipv6 : kind = 4
  · rw [if_pos ipv6]
    exact (skipExact_parses 16).congr fun _ read => by simp [bound_cases, ipv6]
  · rw [if_neg ipv6]
    exact other.congr fun _ read => by simp [bound_cases, ipv4, named, ipv6]

theorem socks5_readReply_parses :
    Parses sending (Socks5Proxy.readReply server) fun _ read => ∃ bound port,
      read = [5, 0, 0] ++ bound ++ port ∧ Bound bound ∧ port.length = 2 := by
  have tail : ∀ kind, Parses sending (do
      Socks5Proxy.skipBound server kind
      let _ ← readExact server 2
      return ()) fun (_ : Unit) read => ∃ bound port, read = bound ++ port ∧
        Bound (kind :: bound) ∧ port.length = 2 := by
    intro kind
    apply ((skipBound_parses kind).bind fun _ => skipExact_parses 2).congr
    intro result read
    constructor
    · intro split
      obtain ⟨_, bound, port, parts⟩ := split
      exact ⟨bound, port, parts⟩
    · intro split
      obtain ⟨bound, port, parts⟩ := split
      exact ⟨(), bound, port, parts⟩
  have reply : Parses sending (Socks5Proxy.readReply server) _ :=
    Parses.expect (Parses.expect (Parses.expect (Parses.readU8 tail)))
  apply reply.congr
  intro result read
  constructor
  · intro split
    obtain ⟨_, one, _, two, _, three, kind, _, four, bound, port, five, named, long⟩ := split
    exact ⟨kind :: bound, port, by rw [one, two, three, four, five]; rfl, named, long⟩
  · intro split
    obtain ⟨address, port, whole, named, long⟩ := split
    match address, named with
    | kind :: bound, named =>
      exact ⟨_, whole, _, rfl, _, rfl, kind, _, rfl, bound, port, rfl, named, long⟩

/-- A host that a SOCKS5 request can carry. -/
def Encodable : HostName → Prop
  | .domain name => (asBytes name).length ≤ 255
  | _ => True

/-- User names and passwords of the length that the constructor lets pass. -/
def Short (self : Socks5Proxy) : Prop :=
  (asBytes self.user).length ≤ 255 ∧ (asBytes self.password).length ≤ 255

theorem authenticate_parses {self : Socks5Proxy} (short : Short self) :
    Parses sending (self.authenticate server) fun _ read => read = [1, 0] := by
  have reply : Parses sending (do
      Network.flush server
      let version ← Network.readU8 server
      Network.ensure (version = 1)
      let status ← Network.readU8 server
      Network.ensure (status = 0)) fun (_ : Unit) read => read = [1, 0] := by
    apply (Parses.flush (Parses.expect (parses_expect 0))).congr
    intro result read
    constructor
    · intro split
      obtain ⟨_, one, two⟩ := split
      rw [one, two]
    · intro same
      exact ⟨[0], same, rfl⟩
  exact Parses.length short.1 (Parses.write (Parses.write (Parses.length short.2
    (Parses.write (Parses.write reply)))))

theorem negotiate_parses {self : Socks5Proxy} (short : Short self) (method : UInt8) :
    Parses sending (self.negotiate server method) fun _ read =>
      method = 0 ∧ read = [] ∨ method = 2 ∧ read = [1, 0] := by
  have refused : Parses sending (fail Error.empty : Net Unit) fun _ _ => False := parses_fail _
  unfold Socks5Proxy.negotiate
  by_cases open' : method = 0
  · rw [if_pos open']
    exact (parses_value ()).congr fun _ read => by simp [open']
  rw [if_neg open']
  by_cases password : method = 2
  · rw [if_pos password]
    exact (authenticate_parses short).congr fun _ read => by simp [password]
  · rw [if_neg password]
    exact refused.congr fun _ read => by simp [open', password]

theorem parses_writeAll (bytes : Bytes) :
    Parses sending (writeAll server bytes) fun _ read => read = [] :=
  (Parses.free (fun _ => rfl) (parses_value ())).congr fun _ _ => by simp

theorem writeHost_parses {hostname : HostName} (encodable : Encodable hostname) :
    Parses sending (Socks5Proxy.writeHost server hostname) fun _ read => read = [] := by
  cases hostname with
  | v4 addr => exact Parses.write (parses_writeAll addr.octets)
  | v6 addr => exact Parses.write (parses_writeAll addr.octets)
  | domain name => exact Parses.length encodable (Parses.write (parses_writeAll (asBytes name)))

theorem request_parses {addr : SocketAddr} (encodable : Encodable addr.hostname) :
    Parses sending (Socks5Proxy.request server addr) fun conn read => conn = server ∧
      ∃ bound port, read = [5, 0, 0] ++ bound ++ port ∧ Bound bound ∧ port.length = 2 :=
  Parses.write (Parses.silent (writeHost_parses encodable)
    (Parses.write (Parses.flush (Parses.returning socks5_readReply_parses server))))

/-- The whole handshake takes exactly the replies that grant the connection. -/
theorem tunnel_parses {self : Socks5Proxy} {addr : SocketAddr} (short : Short self)
    (encodable : Encodable addr.hostname) :
    Parses sending (self.tunnel server addr) fun conn read => conn = server ∧ Granted read := by
  have greeted : Parses sending (self.tunnel server addr) _ :=
    Parses.write (Parses.flush (Parses.expect (Parses.readU8 fun method =>
      (negotiate_parses short method).bind fun _ => request_parses encodable)))
  apply greeted.congr
  intro conn read
  constructor
  · intro split
    obtain ⟨_, one, method, _, two, _, opened, _, three, agreed, same, bound, port, four, named,
      long⟩ := split
    refine ⟨same, [5, method] ++ opened, bound, port, ?_, ?_, named, long⟩
    · rw [one, two, three, four]
      simp
    · rcases agreed with ⟨zero, nothing⟩ | ⟨two, status⟩
      · exact .inl (by rw [zero, nothing]; rfl)
      · exact .inr (by rw [two, status]; rfl)
  · intro both
    obtain ⟨same, method, bound, port, whole, agreed, named, long⟩ := both
    rcases agreed with opening | opening
    · exact ⟨_, by rw [whole, opening]; rfl, 0, _, rfl, (), [], _, rfl, .inl ⟨rfl, rfl⟩, same,
        bound, port, rfl, named, long⟩
    · exact ⟨_, by rw [whole, opening]; rfl, 2, _, rfl, (), [1, 0], _, rfl, .inr ⟨rfl, rfl⟩, same,
        bound, port, rfl, named, long⟩

/-- What a program writes to the proxy. -/
def said {α : Type} (program : Net α) (stream : Bytes) : Bytes :=
  written (talk sending program stream).trace

section Said

variable {α β : Type} {stream : Bytes}

theorem said_write {bytes : Bytes} {next : Unit → Net α} :
    said (writeAll server bytes >>= next) stream = bytes ++ said (next ()) stream := rfl

theorem said_flush {next : Unit → Net α} :
    said (flush server >>= next) stream = said (next ()) stream := rfl

theorem said_readU8_nil {next : UInt8 → Net α} : said (readU8 server >>= next) [] = [] := rfl

theorem said_readU8 {byte : UInt8} {next : UInt8 → Net α} :
    said (readU8 server >>= next) (byte :: stream) = said (next byte) stream := by
  have enough : 1 ≤ (byte :: stream).length := by simp
  unfold said readU8 Network.readExact
  rw [Program.bind_assoc, ask_bind, talk_ask (sending_enough enough)]
  rfl

theorem said_length {n : Nat} {next : UInt8 → Net α} (small : n ≤ 255) :
    said (ofExcept (u8TryFrom n) >>= next) stream = said (next (UInt8.ofNat n)) stream := by
  rw [u8TryFrom_ok small]
  rfl

theorem said_ensure {condition : Bool} {next : Unit → Net α} :
    said (ensure condition >>= next) stream = if condition then said (next ()) stream else [] := by
  cases condition with
  | true => rfl
  | false => rfl

theorem said_expect {byte got : UInt8} {next : Unit → Net α} :
    said (readU8 server >>= fun got => ensure (got = byte) >>= next) (got :: stream) =
      if got = byte then said (next ()) stream else [] := by
  rw [said_readU8, said_ensure]
  by_cases same : got = byte
  · rw [if_pos same, if_pos (decide_eq_true same)]
  · rw [if_neg same, if_neg (by simpa using same)]

end Said

/-- Anything but writing. -/
def Reads : Op → Prop
  | .writeAll _ _ => False
  | _ => True

theorem written_reads {α : Type} {program final : Net α} {trace : Trace}
    (reads : program.Uses Reads) (steps : Steps program trace final) : written trace = [] := by
  have events := (Uses.steps steps reads).1
  apply List.flatMap_eq_nil_iff.mpr
  intro event member
  have read := events event member
  generalize event.operation = operation at read
  cases operation with
  | writeAll stream bytes => exact read.elim
  | _ => rfl

theorem readExact_reads (count : Nat) : (readExact server count).Uses Reads :=
  ⟨trivial, fun _ => uses_ofExcept _ _⟩

theorem readU8_reads : (readU8 server).Uses Reads :=
  (readExact_reads 1).bind fun _ => trivial

theorem ensure_reads (condition : Bool) : (ensure condition).Uses Reads := by
  cases condition with
  | true => trivial
  | false => trivial

theorem skipBound_reads (kind : UInt8) : (Socks5Proxy.skipBound server kind).Uses Reads := by
  unfold Socks5Proxy.skipBound
  split_ifs
  · exact (readExact_reads 4).bind fun _ => trivial
  · exact readU8_reads.bind fun length => (readExact_reads length.toNat).bind fun _ => trivial
  · exact (readExact_reads 16).bind fun _ => trivial
  · trivial

theorem socks5_readReply_reads : (Socks5Proxy.readReply server).Uses Reads := by
  refine readU8_reads.bind fun version => (ensure_reads _).bind fun _ => ?_
  refine readU8_reads.bind fun status => (ensure_reads _).bind fun _ => ?_
  refine readU8_reads.bind fun reserved => (ensure_reads _).bind fun _ => ?_
  refine readU8_reads.bind fun kind => (skipBound_reads kind).bind fun _ => ?_
  exact (readExact_reads 2).bind fun _ => trivial

/-- The request for an address behind the greeting. -/
def requestBytes (addr : SocketAddr) : Bytes :=
  [5, 1, 0] ++ (hostBytes addr.hostname ++ u16ToBeBytes addr.port)

theorem request_said {addr : SocketAddr} (encodable : Encodable addr.hostname) (stream : Bytes) :
    said (Socks5Proxy.request server addr) stream = requestBytes addr := by
  have reads : (do
      Socks5Proxy.readReply server
      return server : Net Connection).Uses Reads := socks5_readReply_reads.bind fun _ => trivial
  have reply : said (do
      Socks5Proxy.readReply server
      return server) stream = [] := written_reads reads (talk_steps sending _ stream)
  have host : ∀ next : Unit → Net Connection,
      said (Socks5Proxy.writeHost server addr.hostname >>= next) stream =
        hostBytes addr.hostname ++ said (next ()) stream := by
    intro next
    cases hostname : addr.hostname with
    | v4 ip => rfl
    | v6 ip => rfl
    | domain name =>
      rw [hostname] at encodable
      unfold Socks5Proxy.writeHost
      rw [Program.bind_assoc, said_length encodable]
      rfl
  unfold Socks5Proxy.request
  rw [said_write, host, said_write, said_flush, reply, List.append_nil]
  rfl

theorem prefix_two {first second one two : UInt8} {rest : Bytes} :
    [first, second] <+: one :: two :: rest ↔ one = first ∧ two = second := by
  rw [List.cons_prefix_cons, List.cons_prefix_cons]
  constructor
  · intro parts
    exact ⟨parts.1.symm, parts.2.1.symm⟩
  · intro parts
    exact ⟨parts.1.symm, parts.2.symm, List.nil_prefix⟩

theorem not_prefix_one {first second one : UInt8} : ¬ [first, second] <+: [one] := by
  intro front
  have long := front.length_le
  simp at long

/-- The credentials, and the rest once they are granted. -/
theorem authenticate_said {α : Type} {self : Socks5Proxy} (short : Short self) {next : Unit → Net α}
    (stream : Bytes) : said (self.authenticate server >>= next) stream =
      credentials self ++ if [1, 0] <+: stream then said (next ()) (stream.drop 2) else [] := by
  have granted : said (do
      let version ← readU8 server
      ensure (version = 1)
      let status ← readU8 server
      ensure (status = 0)
      next ()) stream = if [1, 0] <+: stream then said (next ()) (stream.drop 2) else [] := by
    match stream with
    | [] => rfl
    | [version] =>
      rw [said_expect, said_readU8_nil, if_neg not_prefix_one, ite_self]
    | version :: status :: rest =>
      rw [said_expect, said_expect]
      by_cases one : version = 1
      · by_cases zero : status = 0
        · rw [if_pos one, if_pos zero, if_pos (prefix_two.mpr ⟨one, zero⟩)]
          rfl
        · rw [if_pos one, if_neg zero, if_neg fun front => zero (prefix_two.mp front).2]
      · rw [if_neg one, if_neg fun front => one (prefix_two.mp front).1]
  unfold Socks5Proxy.authenticate
  simp only [Program.bind_assoc, said_length short.1, said_length short.2, said_write, said_flush]
  rw [granted]
  simp only [credentials, List.append_assoc]

/-- What follows the method: the request at once, after the credentials, or nothing. -/
theorem negotiate_said {α : Type} {self : Socks5Proxy} (short : Short self) (method : UInt8)
    {next : Unit → Net α} {stream bytes : Bytes} (later : ∀ rest, said (next ()) rest = bytes) :
    said (self.negotiate server method >>= next) stream =
      (if method = 2 then credentials self else []) ++
      if method = 0 ∨ method = 2 ∧ [1, 0] <+: stream then bytes else [] := by
  unfold Socks5Proxy.negotiate
  by_cases none : method = 0
  · have plain : method ≠ 2 := by
      rw [none]
      decide
    rw [if_pos none, if_neg plain, if_pos (.inl none)]
    exact later stream
  rw [if_neg none]
  by_cases password : method = 2
  · have opened : method = 0 ∨ method = 2 ∧ [1, 0] <+: stream ↔ [1, 0] <+: stream := by
      constructor
      · intro either
        rcases either with zero | both
        · exact (none zero).elim
        · exact both.2
      · intro front
        exact .inr ⟨password, front⟩
    rw [if_pos password, if_pos password, authenticate_said short, later]
    simp only [opened]
  · rw [if_neg password, if_neg password, if_neg (by simp [none, password])]
    rfl

/-- All that is written: the greeting, the credentials if the proxy selects them, and the
request if it lets the client go on. -/
theorem tunnel_said {self : Socks5Proxy} {addr : SocketAddr} (short : Short self)
    (encodable : Encodable addr.hostname) (stream : Bytes) :
    said (self.tunnel server addr) stream = [5, 2, 0, 2] ++
      ((if [5, 2] <+: stream then credentials self else []) ++
      if [5, 0] <+: stream ∨ [5, 2, 1, 0] <+: stream then requestBytes addr else []) := by
  unfold Socks5Proxy.tunnel
  rw [said_write, said_flush]
  congr 1
  match stream with
  | [] => rfl
  | [version] =>
    have none : ¬ ([5, 0] <+: [version] ∨ [5, 2, 1, 0] <+: [version]) := by
      intro either
      rcases either with two | four
      · exact not_prefix_one two
      · have long := four.length_le
        simp at long
    rw [said_expect, said_readU8_nil, ite_self, if_neg not_prefix_one, if_neg none]
    rfl
  | version :: method :: rest =>
    have four : [5, 2, 1, 0] <+: version :: method :: rest ↔
        version = 5 ∧ method = 2 ∧ [1, 0] <+: rest := by
      rw [List.cons_prefix_cons, List.cons_prefix_cons, eq_comm, @eq_comm _ 2]
    rw [said_expect, said_readU8, negotiate_said short method (request_said encodable)]
    simp only [prefix_two, four]
    by_cases five : version = 5
    · simp only [five, true_and, if_true]
    · simp only [five, false_and, or_self, if_false, List.append_nil]

/-- The rest of the stack has reached the proxy. -/
def reached (server : Connection) : Option Connect := some fun _ => .value server

/-- The run of `connect` against a proxy that sends this stream. -/
structure Replied (self : Socks5Proxy) (server : Connection) (addr : SocketAddr) (stream : Bytes)
    (run : Talk Op Ans Error Connection (List Bytes)) : Prop where
  steps : Steps (self.connect (reached server) addr) run.trace run.final
  ended : ∃ outcome, run.final = ofExcept outcome
  accepted : (∃ conn, run.final = .value conn) ↔ ∃ reply, Granted reply ∧ reply <+: stream
  consumed : ∀ conn, run.final = .value conn →
    conn = server ∧ ∃ reply, Granted reply ∧ stream = reply ++ run.left.flatten
  written : written run.trace = [5, 2, 0, 2] ++
    ((if [5, 2] <+: stream then credentials self else []) ++
    if [5, 0] <+: stream ∨ [5, 2, 1, 0] <+: stream then requestBytes addr else [])

/-- A SOCKS5 connection succeeds exactly on the replies of the grammar, in whatever pieces
they arrive, and takes no byte more; the credentials are sent if and only if they are
selected. -/
theorem socks5_replied {conf : ProxyConfig} {self : Socks5Proxy} {addr : SocketAddr}
    (made : Socks5Proxy.new conf = .ok self) (encodable : Encodable addr.hostname)
    (server : Connection) (chunks : List Bytes) :
    Replied self server addr chunks.flatten
      (talk arriving (self.connect (reached server) addr) chunks) := by
  have short : Short self := (Socks5Proxy.new_ok made).2.2.2
  have parses : Parses sending (self.tunnel server addr) _ := tunnel_parses short encodable
  have ends : ∃ outcome, (talk sending (self.tunnel server addr) chunks.flatten).final =
      ofExcept outcome :=
    talk_ends speaks_sending (socks5_writes self addr).uses chunks.flatten
  have wrote : said (self.tunnel server addr) chunks.flatten = _ :=
    tunnel_said short encodable chunks.flatten
  have connect : self.connect (reached server) addr = self.tunnel server addr := rfl
  have whole := talk_arriving (self.tunnel server addr) chunks
  have sound := parses.sound chunks.flatten
  rw [said, whole] at wrote
  rw [whole] at ends sound
  rw [connect]
  refine ⟨talk_steps _ _ _, ends, ?_, ?_, wrote⟩
  · constructor
    · intro found
      obtain ⟨conn, done⟩ := found
      obtain ⟨reply, split, _, granted⟩ := sound conn done
      exact ⟨reply, granted, ⟨_, split.symm⟩⟩
    · intro found
      obtain ⟨reply, granted, rest, split⟩ := found
      have done := parses.complete server reply rest ⟨rfl, granted⟩
      rw [split, whole] at done
      exact ⟨server, done.1⟩
  · intro conn done
    obtain ⟨reply, split, same, granted⟩ := sound conn done
    exact ⟨same, reply, granted, split⟩

/-- A proxy that asks for the credentials and reports a bound domain of one byte, with the
first byte of the destination behind it. -/
theorem socks5_replied_pieces :
    Replied ⟨⟨.v4 ⟨127, 0, 0, 1⟩, 1080⟩, ['u'], ['p']⟩ (.tcpStream 3) ⟨.domain ['a'], 80⟩
      [5, 2, 1, 0, 5, 0, 0, 3, 1, 97, 0, 80, 72]
      (talk arriving (Socks5Proxy.connect ⟨⟨.v4 ⟨127, 0, 0, 1⟩, 1080⟩, ['u'], ['p']⟩
        (reached (.tcpStream 3)) ⟨.domain ['a'], 80⟩)
        [[5], [2, 1], [0, 5, 0, 0, 3, 1], [97, 0], [80, 72]]) := by
  have made : Socks5Proxy.new ⟨"socks5".toList, some ['u'], some ['p'],
      "127.0.0.1:1080".toList⟩ = .ok ⟨⟨.v4 ⟨127, 0, 0, 1⟩, 1080⟩, ['u'], ['p']⟩ := by
    decide +kernel
  have encodable : Encodable (SocketAddr.mk (.domain ['a']) 80).hostname :=
    show (asBytes ['a']).length ≤ 255 by decide
  exact socks5_replied made encodable (.tcpStream 3)
    [[5], [2, 1], [0, 5, 0, 0, 3, 1], [97, 0], [80, 72]]

end LocalProxy.SocksReply
