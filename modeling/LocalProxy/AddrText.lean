import LocalProxy.Inbound

/-! Addresses survive their text: what one instance dials, or names as the target of a
`CONNECT` request, is what the next one reads. -/

namespace LocalProxy.AddrText
open Strings Addr Http Programs Program Network Outbound Inbound

/-- The addresses the program builds: from those of `std`, and from text. -/
inductive Built : SocketAddr → Prop where
  | ofStd (value : StdNet.SocketAddr) : Built (.ofStd value)
  | fromStr {s addr} (read : SocketAddr.fromStr s = .ok addr) : Built addr
  | parseHostHeader {s hostname port}
    (read : SocketAddr.parseHostHeader s = .ok (hostname, some port)) : Built ⟨hostname, port⟩

/-- The form of a URI that is only an authority with this text. -/
def AuthorityForm (uri : Uri) (text : Text) : Prop :=
  uri.scheme = none ∧ uri.data = [] ∧ ∃ authority, uri.authority = some authority ∧
    authority.text = text

theorem parsePort_ok {s : Text} {hostname : Text} {addr : SocketAddr}
    (read : (do
      let port ← parsePort s
      return (⟨.fromStr hostname, port⟩ : SocketAddr)) = Except.ok addr) :
    addr.hostname = .fromStr hostname := by
  cases parsed : parsePort s with
  | ok port =>
    rw [parsed] at read
    cases read
    rfl
  | error error =>
    rw [parsed] at read
    cases read

theorem Built.normal {addr : SocketAddr} (built : Built addr) : addr.hostname.Normal := by
  cases built with
  | ofStd value => exact HostName.normal_ofIpAddr value.ip
  | @fromStr s _ read =>
    simp only [SocketAddr.fromStr] at read
    split at read
    · contradiction
    · rw [parsePort_ok read]
      exact HostName.normal_fromStr _
  | @parseHostHeader s hostname port read =>
    simp only [SocketAddr.parseHostHeader] at read
    split at read
    next front back _ =>
      cases parsed : parsePort back with
      | ok port =>
        rw [parsed] at read
        cases read
        exact HostName.normal_fromStr front
      | error error =>
        rw [parsed] at read
        cases read
    · cases read

theorem AuthorityForm.toText {uri : Uri} {text : Text} (form : AuthorityForm uri text) :
    uri.toText = text := by
  obtain ⟨scheme, data, authority, present, same⟩ := form
  simp [Uri.toText, Uri.path, Uri.hasPath, Uri.query, scheme, data, present, same, splitOnce]

theorem raw_dials {addr : SocketAddr} {trace : Trace} {final : Net Connection}
    (steps : Steps (Raw.connect none addr) trace final) {text : Text}
    {answer : Except Error Nat} (dialled : ⟨.tcpConnect text, answer⟩ ∈ trace) :
    text = addr.toText := by
  have uses : (Raw.connect none addr).Uses fun operation =>
      ∀ text, operation = .tcpConnect text → text = addr.toText := by
    refine Uses.bind ⟨?_, fun answer => uses_ofExcept _ answer⟩ fun socket =>
      Uses.bind ⟨?_, fun answer => uses_ofExcept _ answer⟩ fun _ => trivial
    · intro text same
      exact (Op.tcpConnect.inj same).symm
    · intro text same
      contradiction
  exact (uses.steps steps).1 _ dialled text rfl

/-- An address the program builds is read back from its text, the same, exactly if its
host is not a text in brackets; then a `CONNECT` target and a dialled text name it. -/
theorem addr_roundTrip {addr : SocketAddr} (built : Built addr) :
    (SocketAddr.fromStr addr.toText = .ok addr ↔ addr.hostname.Unbracketed) ∧
    (addr.hostname.Unbracketed →
      (∀ request : Request, AuthorityForm request.uri addr.toText →
        connectTarget request = .ok addr) ∧
      ∀ trace final text answer, Steps (Raw.connect none addr) trace final →
        ⟨.tcpConnect text, answer⟩ ∈ trace → SocketAddr.fromStr text = .ok addr) := by
  have whole : SocketAddr.fromStr addr.toText = .ok addr ↔ addr.hostname.Unbracketed := by
    rw [SocketAddr.fromStr_toText, ← HostName.fromStr_urlStyle built.normal]
    constructor
    · intro same
      exact congrArg SocketAddr.hostname (Except.ok.inj same)
    · intro same
      rw [same]
  refine ⟨whole, fun plain => ⟨?_, ?_⟩⟩
  · intro request form
    rw [connectTarget, form.toText]
    exact whole.mpr plain
  · intro trace final text answer steps dialled
    rw [raw_dials steps dialled]
    exact whole.mpr plain

theorem addr_roundTrip_loopback :
    SocketAddr.fromStr "[::1]:80".toList = .ok ⟨.v6 ⟨[0, 0, 0, 0, 0, 0, 0, 1], rfl⟩, 80⟩ := by
  have read : SocketAddr.fromStr "[0:0::1]:80".toList =
      .ok ⟨.v6 ⟨[0, 0, 0, 0, 0, 0, 0, 1], rfl⟩, 80⟩ := by decide
  have plain : (HostName.v6 ⟨[0, 0, 0, 0, 0, 0, 0, 1], rfl⟩).Unbracketed := by
    intro name same
    contradiction
  exact (addr_roundTrip (.fromStr read)).1.mpr plain

/-- A host in two pairs of brackets is printed with one of them, and read back as another. -/
theorem doubleBrackets_lost : ∃ addr, SocketAddr.fromStr "[[::1]]:80".toList = .ok addr ∧
    SocketAddr.fromStr addr.toText ≠ .ok addr :=
  ⟨⟨.domain "[::1]".toList, 80⟩, by decide, by decide⟩

end LocalProxy.AddrText

