import LocalProxy.HappyEyeballs
import LocalProxy.LabelWire
import LocalProxy.Resolution

/-! What becomes of a host name that `dns_parser` is asked to build a query of: the
builder asserts that the parts of the name are short, writes an empty part like the end
of the name, and the program checks neither. -/

namespace LocalProxy.ResolvedNames
open Strings Addr Http Programs Program Network Select SendRequest Outbound Service Calls
  Resolution

/-- The parts that `add_question` writes, in bytes. -/
def parts (name : Text) : List LabelWire.Label := (name.splitOn '.').map asBytes

/-- What `dns_parser` is known to do with a name: it asserts that no part has 63 bytes or
more, and otherwise writes the parts as labels behind the header of twelve bytes. -/
structure Builds (newQuery : Text → QueryType → BuiltQuery) : Prop where
  asserts : ∀ name qtype, newQuery name qtype = .panicked ↔ ∃ part ∈ parts name, 63 ≤ part.length
  writes : ∀ name qtype query, newQuery name qtype = .packet query →
    ∃ header typeAndClass, header.length = 12 ∧
      query = header ++ LabelWire.write (parts name) ++ typeAndClass

/-- The question of a query, as a server reads it, is about this name. -/
def AsksFor (name : Text) (query : Bytes) : Prop :=
  (LabelWire.read (query.drop 12)).map Prod.fst = some (parts name)

/-- Operations of a program that does not panic, and that looks up this name only. -/
def Asks (name : Text) : Op → Prop
  | .panic => False
  | .cacheGet query => AsksFor name query
  | .cacheInsert query _ => AsksFor name query
  | .sendRequest _ request => request.method = .post →
      ∃ query, request.body = [.ok (.data query)] ∧ AsksFor name query
  | _ => True

/-- The name is asked for as it is or not at all, then with an error that lets the
connect without a lookup go ahead; nothing panics. -/
structure Resolves (crates : Crates) (state : ProxyState) (name : Text) : Prop where
  queried : ∀ qtype, (∃ query, crates.newQuery name qtype = .packet query ∧ AsksFor name query) ∨
    resolveTo crates state 1 (.domain name) qtype = .fail .empty
  raced : ∀ self proxies port, (happyEyeballs crates (resolveTo crates state 1) state.config self
    proxies ⟨.domain name, port⟩).Uses (Asks name)
  fallback : (∀ qtype, resolveTo crates state 1 (.domain name) qtype = .fail .empty) →
    ∀ self proxies port, happyEyeballs crates (resolveTo crates state 1) state.config self proxies
      ⟨.domain name, port⟩ = (do
        warn
        connect crates self proxies ⟨.domain name, port⟩)

/-- No part of the name is too long, and none is empty unless the whole query is too long
to be built. -/
def Encodable (newQuery : Text → QueryType → BuiltQuery) (name : Text) : Prop :=
  (∀ part ∈ parts name, part.length < 63) ∧
    ((∀ part ∈ parts name, part ≠ []) ∨ ∀ qtype, newQuery name qtype = .tooLong)

section Building

variable {newQuery : Text → QueryType → BuiltQuery} {name : Text} {qtype : QueryType}
  {query : Bytes}

theorem Builds.short (builds : Builds newQuery) (unpanicked : newQuery name qtype ≠ .panicked) :
    ∀ part ∈ parts name, part.length < 63 := by
  intro part member
  by_contra long
  exact unpanicked ((builds.asserts name qtype).mpr ⟨part, member, by omega⟩)

/-- A query that is built asks for the name exactly if no part of it is empty. -/
theorem Builds.asksFor_iff (builds : Builds newQuery)
    (built : newQuery name qtype = .packet query) :
    AsksFor name query ↔ ∀ part ∈ parts name, part ≠ [] := by
  have unpanicked : newQuery name qtype ≠ .panicked := by
    rw [built]
    simp
  have short := builds.short unpanicked
  obtain ⟨header, typeAndClass, twelve, same⟩ := builds.writes name qtype query built
  have question : query.drop 12 = LabelWire.write (parts name) ++ typeAndClass := by
    rw [same, List.append_assoc, ← twelve, List.drop_left]
  rw [AsksFor, question]
  exact LabelWire.read_write_iff (fun part member => by have := short part member; omega) _

theorem Builds.long (builds : Builds newQuery) (built : newQuery name qtype = .packet query) :
    12 ≤ query.length := by
  obtain ⟨header, typeAndClass, twelve, same⟩ := builds.writes name qtype query built
  simp only [same, List.length_append]
  omega

/-- Setting the ID changes nothing of the question. -/
theorem asksFor_patched (long : 2 ≤ query.length) (asks : AsksFor name query) :
    AsksFor name (patched query) := by
  obtain ⟨first, second, rest, rfl⟩ : ∃ first second rest, query = first :: second :: rest := by
    match query, long with
    | first :: second :: rest, _ => exact ⟨first, second, rest, rfl⟩
  exact asks

end Building

variable {crates : Crates} {state : ProxyState} {name : Text}

theorem opens_asks {operation : Op} (opens : Opens operation) : Asks name operation := by
  cases operation with
  | sendRequest server request =>
    have connect : request.method = .connect := opens
    intro post
    rw [connect] at post
    cases post
  | cacheGet query => exact opens.elim
  | cacheInsert query answer => exact opens.elim
  | panic => exact opens.elim
  | _ => trivial

theorem queries_asks {query : Bytes} {operation : Op} (asks : AsksFor name query)
    (queries : Queries query operation) : Asks name operation := by
  rcases queries with (opens | ⟨_, request, same, _, body⟩ | ⟨_, same⟩) | same | ⟨_, same⟩
  · exact opens_asks opens
  · rw [same]
    exact fun _ => ⟨query, body, asks⟩
  · rw [same]
    trivial
  · rw [same]
    exact asks
  · rw [same]
    exact asks

theorem resolveTo_fail {qtype : QueryType} (builds : Builds crates.newQuery)
    (fails : resolveTo crates state 1 (.domain name) qtype = .fail .empty) :
    crates.newQuery name qtype = .tooLong := by
  simp only [resolveTo, resolveBy] at fails
  cases built : crates.newQuery name qtype with
  | tooLong => rfl
  | panicked =>
    rw [built] at fails
    cases fails
  | packet query =>
    rw [built] at fails
    have long := builds.long built
    match query, long with
    | first :: second :: rest, _ => cases fails

theorem resolveTo_uses (builds : Builds crates.newQuery)
    (encodable : Encodable crates.newQuery name) (qtype : QueryType) :
    (resolveTo crates state 1 (.domain name) qtype).Uses (Asks name) := by
  simp only [resolveTo, resolveBy]
  cases built : crates.newQuery name qtype with
  | tooLong => trivial
  | panicked =>
    obtain ⟨part, member, long⟩ := (builds.asserts name qtype).mp built
    have short := encodable.1 part member
    omega
  | packet query =>
    have nonempty : ∀ part ∈ parts name, part ≠ [] := by
      rcases encodable.2 with nonempty | tooLong
      · exact nonempty
      · rw [tooLong qtype] at built
        cases built
    have asks := asksFor_patched (by have := builds.long built; omega)
      ((builds.asksFor_iff built).mpr nonempty)
    refine (dohQuery_uses.mono fun _ => queries_asks asks).bind fun result => ?_
    exact uses_ofExcept_bind fun _ _ => trivial

/-- With no answer to either lookup the race is over at once. -/
theorem happyEyeballs_fallback (configured : state.config.doh.isSome = true)
    (fails : ∀ qtype, resolveTo crates state 1 (.domain name) qtype = .fail .empty)
    (self : Element) (proxies : ProxyStack) (port : UInt16) :
    happyEyeballs crates (resolveTo crates state 1) state.config self proxies
      ⟨.domain name, port⟩ = (do
        warn
        connect crates self proxies ⟨.domain name, port⟩) := by
  have named : ¬ (state.config.doh.isNone || (HostName.domain name).isIpaddr) = true := by
    cases doh : state.config.doh with
    | none => simp [doh] at configured
    | some _ => simp [HostName.isIpaddr]
  have lost : ∀ connect qtype, branch (resolveTo crates state 1) connect ⟨.domain name, port⟩
      qtype = .value (.error true) := by
    intro connect qtype
    rw [branch, fails qtype]
    rfl
  rw [happyEyeballs, if_neg named, lost, lost]
  rfl

/-- A text that is accepted as the target of a `CONNECT` or as a `Host` header. -/
def Accepted (text : Text) (hostname : HostName) : Prop :=
  (∃ port, SocketAddr.fromStr text = .ok ⟨hostname, port⟩) ∨
    ∃ port, SocketAddr.parseHostHeader text = .ok (hostname, port)

theorem Encodable.resolves (builds : Builds crates.newQuery)
    (configured : state.config.doh.isSome = true) (encodable : Encodable crates.newQuery name) :
    Resolves crates state name where
  queried := by
    intro qtype
    cases built : crates.newQuery name qtype with
    | packet query =>
      rcases encodable.2 with nonempty | tooLong
      · exact .inl ⟨query, rfl, (builds.asksFor_iff built).mpr nonempty⟩
      · rw [tooLong qtype] at built
        cases built
    | tooLong =>
      right
      simp only [resolveTo, resolveBy, built]
    | panicked =>
      obtain ⟨part, member, long⟩ := (builds.asserts name qtype).mp built
      have short := encodable.1 part member
      omega
  raced := fun self proxies _ => happyEyeballs_uses
    (fun addr => (connect_opens crates self proxies addr).mono fun _ => opens_asks) trivial
    fun qtype => resolveTo_uses builds encodable qtype
  fallback := happyEyeballs_fallback configured

theorem Resolves.encodable (builds : Builds crates.newQuery)
    (resolves : Resolves crates state name) : Encodable crates.newQuery name := by
  have either : ∀ qtype, (∃ query, crates.newQuery name qtype = .packet query ∧
      AsksFor name query) ∨ crates.newQuery name qtype = .tooLong := fun qtype =>
    (resolves.queried qtype).imp_right (resolveTo_fail builds)
  constructor
  · have unpanicked : crates.newQuery name .a ≠ .panicked := by
      rcases either .a with ⟨query, built, _⟩ | tooLong
      · rw [built]
        simp
      · rw [tooLong]
        simp
    exact builds.short unpanicked
  · by_cases nonempty : ∀ part ∈ parts name, part ≠ []
    · exact .inl nonempty
    · right
      intro qtype
      rcases either qtype with ⟨query, built, asks⟩ | tooLong
      · exact absurd ((builds.asksFor_iff built).mp asks) nonempty
      · exact tooLong

/-- The parsers take any text for a name that is no address and not in brackets. -/
theorem accepted_domain {name : Text} (unread : StdNet.parseIpAddr name = none)
    (plain : isBracketed name = false) (port : UInt16) :
    Accepted (SocketAddr.toText ⟨.domain name, port⟩) (.domain name) := by
  have normal : (HostName.domain name).Normal := unread
  have unbracketed : (HostName.domain name).Unbracketed := by
    intro other same
    cases same
    exact plain
  have same := (HostName.fromStr_urlStyle normal).mpr unbracketed
  refine .inl ⟨port, ?_⟩
  rw [SocketAddr.fromStr_toText, same]

/-- Any name, and so each that a client can send, is asked for as it is, or not at all and then
with an error, exactly if the parts of the name are what the builder can take. -/
theorem resolves_iff (builds : Builds crates.newQuery)
    (configured : state.config.doh.isSome = true) (name : Text) :
    Resolves crates state name ↔ Encodable crates.newQuery name :=
  ⟨Resolves.encodable builds, Encodable.resolves builds configured⟩

def typeCode : QueryType → UInt8
  | .a => 1
  | .aaaa => 28

def plainQuery (name : Text) (qtype : QueryType) : Bytes :=
  [0xab, 0xcd, 1, 0, 0, 1, 0, 0, 0, 0, 0, 0] ++ LabelWire.write (parts name) ++
    [0, typeCode qtype, 0, 1]

/-- A builder with the limit of 512 bytes that a datagram has. -/
def builder (name : Text) (qtype : QueryType) : BuiltQuery :=
  if ∃ part ∈ parts name, 63 ≤ part.length then .panicked
  else if 512 < (plainQuery name qtype).length then .tooLong
  else .packet (plainQuery name qtype)

theorem builder_builds : Builds builder where
  asserts := by
    intro name qtype
    unfold builder
    constructor
    · intro panicked
      by_contra short
      rw [if_neg short] at panicked
      split at panicked
      · cases panicked
      · cases panicked
    · intro long
      exact if_pos long
  writes := by
    intro name qtype query built
    unfold builder at built
    split at built
    · cases built
    · split at built
      · cases built
      · cases built
        exact ⟨_, _, rfl, rfl⟩

def dohCrates : Crates := { Crates.plain with newQuery := builder }

def dohState : ProxyState := ⟨HappyEyeballs.dohConfig "http://dns.test".toList, [.raw]⟩

theorem resolves_test : Resolves dohCrates dohState "a.test".toList :=
  (resolves_iff builder_builds rfl _).mpr ⟨by decide, .inl (by decide)⟩

/-- `CONNECT` to a name of one part of 63 bytes, as long as a label may be. -/
theorem resolution_panics :
    ¬ ∀ crates state, Builds crates.newQuery → state.config.doh.isSome = true →
      ∀ text name, Accepted text (.domain name) → Resolves crates state name := by
  intro claim
  have resolves := claim dohCrates dohState builder_builds rfl _ (List.replicate 63 'a')
    (accepted_domain rfl rfl 443)
  have short := (resolves.encodable builder_builds).1
  exact absurd short (by decide)

end LocalProxy.ResolvedNames
