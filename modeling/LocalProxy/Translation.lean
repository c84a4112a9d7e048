import LocalProxy.Redirection

/-! Redirected clients behind the packet filter of macOS. What `pf::PF.natlook` answers is the
address that the filter has translated, so that a client is relayed to where it was going. -/

namespace LocalProxy.Translation
open Strings StdNet Http Programs Program Natlook Outbound Service Inbound Route MainStack
open RedirTypes Listening Journey Embeddings Redirection

/-- What the filter keeps of a connection that it redirects. The addresses are of one family. -/
structure Entry where
  source : SocketAddr
  redirected : SocketAddr
  original : SocketAddr
  sourceFamily : familyOf source.ip = familyOf original.ip
  redirectedFamily : familyOf redirected.ip = familyOf original.ip

/-- The request of a lookup names the two ends that the listener sees. -/
def Entry.Named (pnl : PfiocNatlook) (entry : Entry) : Prop :=
  pnl.af = familyOf entry.original.ip ∧
    (pnl.saddr = .ofIp entry.source.ip ∧ pnl.sxport = swapBytes entry.source.port) ∧
    (pnl.daddr = .ofIp entry.redirected.ip ∧ pnl.dxport = swapBytes entry.redirected.port)

instance (pnl : PfiocNatlook) (entry : Entry) : Decidable (entry.Named pnl) :=
  inferInstanceAs (Decidable (_ ∧ _ ∧ _))

/-- `DIOCNATLOOK` as it is documented, for TCP: the first entry between the two ends is found,
and the address and the port that were translated are filled in. -/
structure Translates (kernel : Kernel) (table : List Entry) : Prop where
  finds : ∀ pnl entry, pnl.proto = UInt8.ofNat Protocol.tcp.number → pnl.direction = pfOut →
    table.find? (fun entry => decide (entry.Named pnl)) = some entry →
    kernel.iocNatlook pnl = .ok { pnl with
      rdaddr := .ofIp entry.original.ip
      rdxport := swapBytes entry.original.port }
  misses : ∀ pnl, pnl.proto = UInt8.ofNat Protocol.tcp.number → pnl.direction = pfOut →
    table.find? (fun entry => decide (entry.Named pnl)) = none →
    ∃ code, kernel.iocNatlook pnl = .error code

/-- A packet filter with this table. -/
def filter (table : List Entry) : Kernel where
  iocNatlook := fun pnl =>
    match table.find? fun entry => decide (entry.Named pnl) with
    | some entry => .ok { pnl with
        rdaddr := .ofIp entry.original.ip
        rdxport := swapBytes entry.original.port }
    | none => .error 2
  iocGetstates := fun _ => .error 2

theorem filter_translates (table : List Entry) : Translates (filter table) table where
  finds := by
    intro pnl entry _ _ found
    simp only [filter, found]
  misses := by
    intro pnl _ _ missing
    exact ⟨2, by simp only [filter, missing]⟩

section Addresses

theorem v4addr_ofIp (addr : Ipv4Addr) : (PfAddr.ofIp (.v4 addr)).v4addr = addr := rfl

theorem v6addr_ofIp (addr : Ipv6Addr) : (PfAddr.ofIp (.v6 addr)).v6addr = addr := by
  obtain ⟨segments, eight⟩ := addr
  match segments with
  | [a, b, c, d, e, f, g, h] =>
    have segment : ∀ value : UInt16,
        u16FromBeBytes (UInt8.ofNat (value.toNat / 256)) (UInt8.ofNat value.toNat) = value :=
      SocksRequest.readU16_toBeBytes
    have read : (PfAddr.ofIp (.v6 ⟨[a, b, c, d, e, f, g, h], eight⟩)).v6addr.segments =
        [a, b, c, d, e, f, g, h].map fun value =>
          u16FromBeBytes (UInt8.ofNat (value.toNat / 256)) (UInt8.ofNat value.toNat) := rfl
    simp only [segment, List.map_id'] at read
    generalize (PfAddr.ofIp (.v6 ⟨[a, b, c, d, e, f, g, h], eight⟩)).v6addr = other at read ⊢
    obtain ⟨segments, length⟩ := other
    cases read
    rfl

/-- Of two addresses of one family each is told by what it is in the kernel. -/
theorem ofIp_injective {one other : IpAddr} (family : familyOf one = familyOf other)
    (same : PfAddr.ofIp one = PfAddr.ofIp other) : one = other := by
  cases one with
  | v4 one =>
    cases other with
    | v4 other => exact congrArg IpAddr.v4 (congrArg PfAddr.v4addr same)
    | v6 other => exact absurd family (by simp only [familyOf]; decide)
  | v6 one =>
    cases other with
    | v4 other => exact absurd family (by simp only [familyOf]; decide)
    | v6 other =>
      have read := congrArg PfAddr.v6addr same
      rw [v6addr_ofIp, v6addr_ofIp] at read
      exact congrArg IpAddr.v6 read

/-- What was filled in for an address is read back as this address. -/
theorem init_asSocket (addr : SocketAddr) :
    (SockAddr.init (familyOf addr.ip) (.ofIp addr.ip) (swapBytes addr.port)).map SockAddr.asSocket =
      some addr := by
  obtain ⟨ip, port⟩ := addr
  cases ip with
  | v4 ip =>
    show some (SocketAddr.mk (.v4 _) (swapBytes (swapBytes port))) = _
    rw [swapBytes_swapBytes, v4addr_ofIp]
  | v6 ip =>
    show some (SocketAddr.mk (.v6 (PfAddr.ofIp (.v6 ip)).v6addr) (swapBytes (swapBytes port))) = _
    rw [swapBytes_swapBytes, v6addr_ofIp]

end Addresses

section Lookups

variable {kernel : Kernel} {table : List Entry} {bindAddr peerAddr : SocketAddr}

theorem named_iff (family : familyOf peerAddr.ip = familyOf bindAddr.ip) (entry : Entry) :
    entry.Named (tcpRequest bindAddr peerAddr .tcp) ↔
      entry.source = peerAddr ∧ entry.redirected = bindAddr := by
  have told : ∀ {one other : SocketAddr}, familyOf one.ip = familyOf other.ip →
      PfAddr.ofIp one.ip = .ofIp other.ip → swapBytes one.port = swapBytes other.port →
      one = other := by
    intro one other family ip port
    have equal := ofIp_injective family ip
    rw [swapBytes_eq_iff, swapBytes_swapBytes] at port
    obtain ⟨oneIp, onePort⟩ := one
    obtain ⟨otherIp, otherPort⟩ := other
    cases equal
    cases port
    rfl
  constructor
  · intro named
    obtain ⟨af, ⟨saddr, sxport⟩, daddr, dxport⟩ := named
    have bindFamily : familyOf bindAddr.ip = familyOf entry.original.ip := af
    exact ⟨told (entry.sourceFamily.trans (bindFamily.symm.trans family.symm)) saddr.symm
        sxport.symm,
      told (entry.redirectedFamily.trans bindFamily.symm) daddr.symm dxport.symm⟩
  · intro both
    obtain ⟨source, redirected⟩ := both
    rw [← source, ← redirected]
    exact ⟨entry.redirectedFamily, ⟨rfl, rfl⟩, rfl, rfl⟩

/-- The entry of a connection, by the two ends that the listener sees. -/
def entryOf (table : List Entry) (bindAddr peerAddr : SocketAddr) : Option Entry :=
  table.find? fun entry => decide (entry.source = peerAddr ∧ entry.redirected = bindAddr)

/-- A lookup for TCP answers with the address that was translated. -/
theorem natlook_original (translates : Translates kernel table) (fuel : Nat) :
    Answers (natlook kernel fuel bindAddr peerAddr .tcp)
      ((entryOf table bindAddr peerAddr).map Entry.original) := by
  have tcp : natlook kernel fuel bindAddr peerAddr .tcp =
      tcpNatlook kernel bindAddr peerAddr .tcp := if_pos rfl
  rw [tcp]
  by_cases family : familyOf peerAddr.ip = familyOf bindAddr.ip
  · have agreed : familyError peerAddr.ip (familyOf bindAddr.ip) = none := by
      rw [← family]
      cases peerAddr.ip with
      | v4 ip => rfl
      | v6 ip => rfl
    have asked : (fun entry : Entry => decide (entry.Named (tcpRequest bindAddr peerAddr .tcp))) =
        fun entry => decide (entry.source = peerAddr ∧ entry.redirected = bindAddr) := by
      funext entry
      simp only [named_iff family]
    cases found : entryOf table bindAddr peerAddr with
    | some entry =>
      have named : table.find? (fun entry =>
          decide (entry.Named (tcpRequest bindAddr peerAddr .tcp))) = some entry := by
        rw [asked]
        exact found
      have answer := translates.finds _ entry rfl rfl named
      have ends := (named_iff family entry).mpr (by
        simpa only [decide_eq_true_iff] using List.find?_some found)
      have af : (tcpRequest bindAddr peerAddr .tcp).af = familyOf entry.original.ip := ends.1
      obtain ⟨dstAddr, filled, read⟩ := Option.map_eq_some_iff.mp (init_asSocket entry.original)
      show tcpNatlook kernel bindAddr peerAddr .tcp = .ok entry.original
      simp only [tcpNatlook, agreed, answer, fromRawOs, af, Bind.bind, Except.bind, filled, read]
    | none =>
      have named : table.find? (fun entry =>
          decide (entry.Named (tcpRequest bindAddr peerAddr .tcp))) = none := by
        rw [asked]
        exact found
      obtain ⟨code, answer⟩ := translates.misses _ rfl rfl named
      refine ⟨.rawOs code, ?_⟩
      simp only [tcpNatlook, agreed, answer, fromRawOs]
      rfl
  · have other : entryOf table bindAddr peerAddr = none := by
      refine List.find?_eq_none.mpr fun entry _ => ?_
      rw [decide_eq_true_iff]
      intro ends
      apply family
      rw [← ends.1, ← ends.2, entry.sourceFamily, entry.redirectedFamily]
    have refused : ∃ text, familyError peerAddr.ip (familyOf bindAddr.ip) = some text := by
      cases peer : peerAddr.ip with
      | v4 ip =>
        cases bind : bindAddr.ip with
        | v4 ip' => exact (family (by rw [peer, bind]; rfl)).elim
        | v6 ip' => exact ⟨_, rfl⟩
      | v6 ip =>
        cases bind : bindAddr.ip with
        | v4 ip' => exact ⟨_, rfl⟩
        | v6 ip' => exact (family (by rw [peer, bind]; rfl)).elim
    obtain ⟨text, refused⟩ := refused
    rw [other]
    refine ⟨.invalidInput (some text), ?_⟩
    simp only [tcpNatlook, refused]

end Lookups

section Clients

variable {crates : Crates} {config : Config} {hops : List Hop} {kernel : Kernel}
  {table : List Entry} {client : Accepted .macos} {trace : JointTrace .macos}

/-- What the packet filter is asked, this kernel answers. -/
def Answered (kernel : Kernel) (trace : JointTrace .macos) : Prop :=
  ∀ bindAddr peerAddr outcome, ⟨.inl (.natlook bindAddr peerAddr), outcome⟩ ∈ trace →
    outcome = Natlook.natlook kernel 0 bindAddr peerAddr .tcp

/-- What the system is asked for a client that is at `peerAddr`, over a stream to `bindAddr`. -/
def asking (stream : Nat) (bindAddr peerAddr original : SocketAddr) : SysTrace .macos :=
  [⟨.peerAddr stream, .ok peerAddr⟩, ⟨.localAddr stream, .ok bindAddr⟩,
    ⟨.natlook bindAddr peerAddr, .ok original⟩]

/-- A client is relayed to the address that its connection had before it was redirected. -/
def Restored (crates : Crates) (config : Config) (hops : List Hop) (table : List Entry)
    (client : Accepted .macos) (trace : JointTrace .macos) : Prop :=
  ∃ peerAddr bindAddr entry network left, entryOf table bindAddr peerAddr = some entry ∧
    trace = (asking client.stream bindAddr peerAddr entry.original).map onSockets.event ++
      network.map onNetwork.event ∧
    Steps (journey crates hops (.ofStd entry.original) >>= fun inner =>
      copyBidirectional (wrapped config inner) client.traffic) network left

theorem told_original (translates : Translates kernel table) {destination : SocketAddr}
    {asked : SysTrace .macos} (told : Told .macos client.stream destination .packetFilter asked)
    (answered : ∀ event ∈ asked, onSockets.event event ∈ trace) (honest : Answered kernel trace) :
    ∃ peerAddr bindAddr entry, entryOf table bindAddr peerAddr = some entry ∧
      destination = entry.original ∧
      asked = asking client.stream bindAddr peerAddr entry.original := by
  cases told with
  | bound own =>
    rcases own with own | own | ⟨_, own⟩
    · cases own
    · cases own
    · cases own
  | @translated peerAddr bindAddr other =>
    have answer : Except.ok destination = Natlook.natlook kernel 0 bindAddr peerAddr .tcp :=
      honest bindAddr peerAddr _ (answered _ (.tail _ (.tail _ (.head _))))
    have known := @natlook_original kernel table bindAddr peerAddr translates 0
    rw [← answer] at known
    cases found : entryOf table bindAddr peerAddr with
    | none =>
      rw [found] at known
      obtain ⟨error, failed⟩ := known
      cases failed
    | some entry =>
      rw [found] at known
      have same : Except.ok destination = Except.ok entry.original := known
      cases same
      exact ⟨peerAddr, bindAddr, entry, found, rfl, rfl⟩

/-- Before its destination is known, only the system has been asked for a client. -/
theorem served_restored (translates : Translates kernel table) (honest : Answered kernel trace)
    (filtered : client.accepting.redirType.kind = .packetFilter)
    (served : Served crates config hops client trace) :
    (∀ event ∈ trace, ∃ operation, event.operation = .inl operation) ∨
      Restored crates config hops table client trace := by
  have first : ∀ {asked : SysTrace .macos} {rest : JointTrace .macos},
      trace = asked.map onSockets.event ++ rest → ∀ event ∈ asked, onSockets.event event ∈ trace := by
    intro asked rest split event member
    rw [split]
    exact List.mem_append_left _ (List.mem_map_of_mem member)
  cases served with
  | asking steps =>
    left
    intro event member
    obtain ⟨asked, _, same⟩ := List.mem_map.mp member
    rw [← same]
    exact ⟨asked.operation, rfl⟩
  | @reaching asked destination reached left told steps =>
    right
    rw [filtered] at told
    obtain ⟨peerAddr, bindAddr, entry, found, rfl, rfl⟩ :=
      told_original translates told (first rfl) honest
    exact ⟨peerAddr, bindAddr, entry, reached, _, found, rfl, steps.bind _⟩
  | @relaying asked destination reached inner copied left told success steps =>
    right
    rw [filtered] at told
    obtain ⟨peerAddr, bindAddr, entry, found, rfl, rfl⟩ :=
      told_original translates told (first rfl) honest
    exact ⟨peerAddr, bindAddr, entry, reached ++ copied, left, found, rfl,
      (success.bind _).trans steps⟩

/-- A client of the packet filter is told the address of its entry. -/
theorem destinationAddr_original {ty : RedirType .macos} (filtered : ty.kind = .packetFilter)
    (stream : Nat) (bindAddr peerAddr original : SocketAddr) :
    Returns (destinationAddr ty stream) (asking stream bindAddr peerAddr original) original := by
  obtain ⟨kind, compiled⟩ := ty
  cases filtered
  exact .ask (.ask (.ask (.still _)))

theorem restored_answered (translates : Translates kernel table)
    (restored : Restored crates config hops table client trace) : Answered kernel trace := by
  obtain ⟨peerAddr, bindAddr, entry, network, left, found, split, _⟩ := restored
  have answer := @natlook_original kernel table bindAddr peerAddr translates 0
  rw [found] at answer
  have known : Natlook.natlook kernel 0 bindAddr peerAddr .tcp = .ok entry.original := answer
  intro bound peer outcome member
  rw [split] at member
  rcases List.mem_append.mp member with asked | other
  · obtain ⟨event, inside, same⟩ := List.mem_map.mp asked
    rcases List.mem_cons.mp inside with first | inside
    · rw [first] at same
      cases same
    rcases List.mem_cons.mp inside with second | inside
    · rw [second] at same
      cases same
    rw [List.mem_singleton.mp inside] at same
    cases same
    exact known.symm
  · obtain ⟨event, _, same⟩ := List.mem_map.mp other
    cases same

/-- Whatever can happen on the way to the address of its entry can happen for a client. -/
theorem restored_runs {stack : List Element} (shape : stack.reverse =
      (if fragmentsAll config then [Element.fragment] else []) ++ backwards hops)
    (filtered : client.accepting.redirType.kind = .packetFilter)
    (restored : Restored crates config hops table client trace) :
    ∃ left, Steps (run crates ⟨config, stack⟩ client) trace left := by
  obtain ⟨peerAddr, bindAddr, entry, network, left, _, split, steps⟩ := restored
  have asked := destinationAddr_original filtered client.stream bindAddr peerAddr entry.original
  have told : Steps (through onSockets
      (destinationAddr client.accepting.redirType client.stream)) _ (.value entry.original) :=
    through_steps asked
  rw [split]
  suffices after : ∃ left, Steps (do
      let serverConn ← through onNetwork (tproxyRun crates ⟨config, stack⟩ entry.original)
      let _ ← attempt (through onNetwork (copyBidirectional serverConn client.traffic))
      return ()) (network.map onNetwork.event) left by
    obtain ⟨left, after⟩ := after
    exact ⟨left, (told.bind _).trans after⟩
  rw [tproxyRun_journey shape]
  rcases steps_bind steps with ⟨middle, way, _⟩ | ⟨inner, before, copied, whole, success, copying⟩
  · exact ⟨_, (through_steps (way.bind _)).bind _⟩
  · have reached : Steps (through (@onNetwork .macos)
        (journey crates hops (.ofStd entry.original) >>= fun inner => value (wrapped config inner)))
        _ (.value (wrapped config inner)) :=
      through_steps (success.bind fun inner => value (wrapped config inner))
    rw [whole, List.map_append]
    exact ⟨_, (reached.bind _).trans ((through_steps copying).attempt.bind _)⟩

end Clients

/-- Behind a packet filter that keeps its table, a lookup answers with the address that a
connection had before the filter changed it, IPv4 or IPv6, and fails for a connection that is not
there. A redirected client on macOS is relayed, in every run for it and along the configured
proxies, to this address, and all that can happen on the way there can happen for it. -/
theorem clients_restored {crates : Crates} {config : Config} {lines : List Text}
    {stack : List Element} {kernel : Kernel} {table : List Entry}
    (built : buildStack crates config lines = some stack) (translates : Translates kernel table) :
    (∀ fuel bindAddr peerAddr, Answers (Natlook.natlook kernel fuel bindAddr peerAddr .tcp)
      ((entryOf table bindAddr peerAddr).map Entry.original)) ∧
    ∃ hops, List.Forall₂ Configures (config.proxies.getD []) hops ∧
      ∀ client : Accepted .macos, client.accepting.redirType.kind = .packetFilter →
        (∀ trace left, Steps (run crates ⟨config, stack⟩ client) trace left →
          Answered kernel trace →
          (∀ event ∈ trace, ∃ operation, event.operation = .inl operation) ∨
            Restored crates config hops table client trace) ∧
        ∀ trace, Restored crates config hops table client trace →
          Answered kernel trace ∧ ∃ left, Steps (run crates ⟨config, stack⟩ client) trace left := by
  refine ⟨fun fuel bindAddr peerAddr => natlook_original translates fuel, ?_⟩
  obtain ⟨hops, configures, shape⟩ := stack_built built
  refine ⟨hops, configures, fun client filtered => ⟨fun trace left steps honest => ?_, ?_⟩⟩
  · exact served_restored translates honest filtered (run_served shape steps)
  · intro trace restored
    exact ⟨restored_answered translates restored, restored_runs shape filtered restored⟩

/-- A connection to port 80 of `192.0.2.1`, redirected to the loopback address. -/
def webEntry : Entry where
  source := ⟨.v4 ⟨10, 0, 0, 2⟩, 1234⟩
  redirected := ⟨.v4 ⟨127, 0, 0, 1⟩, 8081⟩
  original := ⟨.v4 ⟨192, 0, 2, 1⟩, 80⟩
  sourceFamily := rfl
  redirectedFamily := rfl

/-- One to port 443 of `2001:db8::1`, redirected to the address of its gateway. -/
def webEntry6 : Entry where
  source := ⟨.v6 ⟨[0xfd00, 0, 0, 0, 0, 0, 0, 2], rfl⟩, 1234⟩
  redirected := ⟨.v6 ⟨[0xfd00, 0, 0, 0, 0, 0, 0, 254], rfl⟩, 8081⟩
  original := ⟨.v6 ⟨[0x2001, 0xdb8, 0, 0, 0, 0, 0, 1], rfl⟩, 443⟩
  sourceFamily := rfl
  redirectedFamily := rfl

def webTable : List Entry := [webEntry, webEntry6]

def webClient : Accepted .macos := ⟨⟨3, tcpDefault .macos⟩, 7, []⟩

def webAnswers : (operation : Joint .macos) → Option (JointAns operation)
  | .inl (.peerAddr _) => some (.ok webEntry6.source)
  | .inl (.localAddr _) => some (.ok webEntry6.redirected)
  | .inl (.natlook bindAddr peerAddr) =>
    some (Natlook.natlook (filter webTable) 0 bindAddr peerAddr .tcp)
  | .inr operation => Network.willing ⟨200, [], []⟩ operation
  | _ => none

theorem clients_restored_web : ∃ hops trace, trace.length = 5 ∧
    Restored Crates.plain plainConfig hops webTable webClient trace ∧
    Natlook.natlook (filter webTable) 0 webEntry6.redirected webEntry6.source .tcp =
      .ok webEntry6.original ∧
    Natlook.natlook (filter webTable) 0 webEntry.redirected webEntry.source .tcp =
      .ok webEntry.original := by
  have built : buildStack Crates.plain plainConfig [] = some [.raw] := by decide
  have steps := drive_steps webAnswers true (run Crates.plain ⟨plainConfig, [.raw]⟩ webClient)
  obtain ⟨answers, hops, _, clients⟩ := clients_restored built (filter_translates webTable)
  have honest : Answered (filter webTable)
      (drive webAnswers true (run Crates.plain ⟨plainConfig, [.raw]⟩ webClient)).1 := by
    intro bindAddr peerAddr outcome asked
    have answer := drive_answers _ _ _ _ asked
    exact (Option.some.inj answer).symm
  rcases (clients webClient rfl).1 _ _ steps honest with none | restored
  · obtain ⟨operation, absurd⟩ := none _ (.tail _ (.tail _ (.tail _ (.head _))))
    cases absurd
  · have found : entryOf webTable webEntry.redirected webEntry.source = some webEntry := rfl
    have found6 : entryOf webTable webEntry6.redirected webEntry6.source = some webEntry6 := rfl
    have answer := answers 0 webEntry.redirected webEntry.source
    have answer6 := answers 0 webEntry6.redirected webEntry6.source
    rw [found] at answer
    rw [found6] at answer6
    exact ⟨hops, _, by decide, restored, answer6, answer⟩

end LocalProxy.Translation
