import LocalProxy.Handles
import LocalProxy.Natlook
import LocalProxy.RedirTypes
import Mathlib.Data.Set.Insert

/-! The sockets of transparent proxying: `bind_redir` and `destination_addr` of `tproxy_tokio`
on each system, and `start` of `inbound/tproxy.rs`, which opens the listeners. -/

namespace LocalProxy.Listening
open Strings StdNet Http Programs Program RedirTypes Monitors Handles
open Addr (Error)

/-- A task that accepts at a listener. -/
structure Loop (platform : Platform) where
  listener : Nat
  redirType : RedirType platform
  deriving DecidableEq

/-- What is asked of the system. -/
inductive Sys (platform : Platform) where
  /-- `TcpListener::bind` -/
  | tcpListenerBind (addr : SocketAddr)
  | newV4
  | newV6
  | setsockopt (socket level opt : Nat)
  | bind (socket : Nat) (addr : SocketAddr)
  | listen (socket backlog : Nat)
  /-- `tokio::spawn` of the loop around `accept`. -/
  | spawn (accepting : Loop platform)
  /-- The `sleep` that `start` ends in. -/
  | sleep
  | getsockopt (stream level opt : Nat)
  | localAddr (stream : Nat)
  | peerAddr (stream : Nat)
  /-- `pf::PF.natlook`, for TCP. Its first use opens `/dev/pf`, or panics. -/
  | natlook (bindAddr peerAddr : SocketAddr)
  /-- `expect` of what is none. -/
  | expect
  /-- `unreachable!` -/
  | unreachable

/-- The answers. An address of a family other than the two of the Internet is none. -/
abbrev SysAns {platform : Platform} : Sys platform → Type
  | .tcpListenerBind _ => Except Error Nat
  | .newV4 => Except Error Nat
  | .newV6 => Except Error Nat
  | .setsockopt _ _ _ => Except Error Unit
  | .bind _ _ => Except Error Unit
  | .listen _ _ => Except Error Nat
  | .spawn _ => Unit
  | .sleep => Empty
  | .getsockopt _ _ _ => Except Error (Option SocketAddr)
  | .localAddr _ => Except Error SocketAddr
  | .peerAddr _ => Except Error SocketAddr
  | .natlook _ _ => Natlook.Outcome SocketAddr
  | .expect => Empty
  | .unreachable => Empty

abbrev Sockets (platform : Platform) (α : Type) := Program (Sys platform) SysAns Error α

abbrev SysTrace (platform : Platform) := List (Event (Sys platform) SysAns)

variable {platform : Platform}

def tcpListenerBind (addr : SocketAddr) : Sockets platform Nat :=
  ask (.tcpListenerBind addr) ofExcept
def newV4 : Sockets platform Nat := ask .newV4 ofExcept
def newV6 : Sockets platform Nat := ask .newV6 ofExcept
def setsockopt (socket level opt : Nat) : Sockets platform Unit :=
  ask (.setsockopt socket level opt) ofExcept
def bindSocket (socket : Nat) (addr : SocketAddr) : Sockets platform Unit :=
  ask (.bind socket addr) ofExcept
def listen (socket backlog : Nat) : Sockets platform Nat := ask (.listen socket backlog) ofExcept
def spawn (accepting : Loop platform) : Sockets platform Unit := ask (.spawn accepting) .value
def sleep : Sockets platform Unit := ask .sleep Empty.elim
def localAddr (stream : Nat) : Sockets platform SocketAddr := ask (.localAddr stream) ofExcept
def peerAddr (stream : Nat) : Sockets platform SocketAddr := ask (.peerAddr stream) ofExcept
def unreachable {α : Type} : Sockets platform α := ask .unreachable Empty.elim

def natlook (bindAddr peerAddr : SocketAddr) : Sockets platform SocketAddr :=
  ask (.natlook bindAddr peerAddr) fun
    | .ok addr => .value addr
    | .error (.err _) => .fail .other
    | .error _ => ask .expect Empty.elim

def ipprotoIp : Nat := 0
def ipprotoIpv6 : Nat := 41
def ipTransparent : Nat := 19
def ipv6Transparent : Nat := 75
def soOriginalDst : Nat := 80
def ip6tSoOriginalDst : Nat := 80

def setIpTransparent (level socket : Nat) : Sockets platform Unit :=
  if level = ipprotoIp then setsockopt socket level ipTransparent
  else if level = ipprotoIpv6 then setsockopt socket level ipv6Transparent
  else unreachable

def createTproxyListener (addr : SocketAddr) : Sockets platform Nat := do
  let socket ← match addr.ip with
    | .v4 _ => newV4
    | .v6 _ => do
      let s ← newV6
      setIpTransparent ipprotoIpv6 s
      pure s
  setIpTransparent ipprotoIp socket
  bindSocket socket addr
  listen socket 1024

/-- The module of a system, of which only one is compiled. -/
inductive Module where
  | linux
  | bsd
  | other
  deriving DecidableEq

def Platform.module : Platform → Module
  | .linux => .linux
  | .android => .linux
  | .macos => .bsd
  | .ios => .bsd
  | .freebsd => .bsd
  | .netbsd => .bsd
  | .openbsd => .bsd
  | .other => .other

/-- `bind_redir`. -/
def bindRedir (ty : RedirType platform) (addr : SocketAddr) : Sockets platform Nat :=
  match Platform.module platform with
  | .linux =>
    match ty.kind with
    | .redirect => tcpListenerBind addr
    | .tProxy => createTproxyListener addr
    | _ => .fail .other
  | .bsd =>
    match ty.kind with
    | .packetFilter => tcpListenerBind addr
    | .ipFirewall => tcpListenerBind addr
    | _ => .fail .other
  | .other => .fail .other

/-- `target_addr.as_socket().expect(..)` -/
def asSocket (target : Option SocketAddr) : Sockets platform SocketAddr :=
  match target with
  | some addr => .value addr
  | none => ask .expect Empty.elim

def getOriginalDestinationAddr (s : Nat) : Sockets platform SocketAddr :=
  ask (.getsockopt s ipprotoIp soOriginalDst) fun
    | .ok target => asSocket target
    | .error _ => ask (.getsockopt s ipprotoIpv6 ip6tSoOriginalDst) fun
      | .ok target => asSocket target
      | .error error => .fail error

/-- `destination_addr`. -/
def destinationAddr (ty : RedirType platform) (stream : Nat) : Sockets platform SocketAddr :=
  match Platform.module platform with
  | .linux =>
    match ty.kind with
    | .redirect => getOriginalDestinationAddr stream
    | .tProxy => localAddr stream
    | _ => unreachable
  | .bsd =>
    match ty.kind with
    | .packetFilter =>
      if platform = .openbsd then localAddr stream
      else do
        let peerAddr ← peerAddr stream
        let bindAddr ← localAddr stream
        natlook bindAddr peerAddr
    | .ipFirewall => localAddr stream
    | _ => unreachable
  | .other => unreachable

structure TProxy where
  listen : List SocketAddr
  redirType : Option Text
  deriving DecidableEq

def redirType (platform : Platform) (config : TProxy) : Except Error (RedirType platform) :=
  match config.redirType with
  | some t => fromStr platform t
  | none => .ok (tcpDefault platform)

/-- The listeners of `start` and the wait behind them. -/
def serve (ty : RedirType platform) : List SocketAddr → Sockets platform Unit
  | [] => sleep
  | addr :: rest => do
    let listener ← bindRedir ty addr
    spawn ⟨listener, ty⟩
    serve ty rest

def start (platform : Platform) (tproxyListen : Option TProxy) : Sockets platform Unit :=
  match tproxyListen with
  | none => .fail .empty
  | some config =>
    if config.listen.isEmpty then .value ()
    else do
      let ty ← ofExcept (redirType platform config)
      serve ty config.listen

/-- Opening a listener for an address, with the options that the type needs set before the
socket is bound. -/
inductive Opened (addr : SocketAddr) : Kind → SysTrace platform → Nat → Prop where
  | plain {kind listener} (bindable : kind ≠ .notSupported) (other : kind ≠ .tProxy) :
    Opened addr kind [⟨.tcpListenerBind addr, .ok listener⟩] listener
  | v4 {ip socket listener} (family : addr.ip = .v4 ip) : Opened addr .tProxy
    [⟨.newV4, .ok socket⟩, ⟨.setsockopt socket ipprotoIp ipTransparent, .ok ()⟩,
      ⟨.bind socket addr, .ok ()⟩, ⟨.listen socket 1024, .ok listener⟩] listener
  | v6 {ip socket listener} (family : addr.ip = .v6 ip) : Opened addr .tProxy
    [⟨.newV6, .ok socket⟩, ⟨.setsockopt socket ipprotoIpv6 ipv6Transparent, .ok ()⟩,
      ⟨.setsockopt socket ipprotoIp ipTransparent, .ok ()⟩, ⟨.bind socket addr, .ok ()⟩,
      ⟨.listen socket 1024, .ok listener⟩] listener

/-- The types that `bind_redir` opens a listener for. -/
def Bindable (ty : RedirType platform) : Prop := ty.kind ≠ .notSupported

section Opening

variable {ty : RedirType platform} {addr : SocketAddr} {trace : SysTrace platform}
  {listener : Nat}

/-- A call of the system that has succeeded. -/
theorem returns_call {α : Type} {operation : Sys platform}
    {outcome : SysAns operation → Except Error α} {result : α}
    (success : Returns (ask operation fun answer => ofExcept (outcome answer)) trace result) :
    ∃ answer, trace = [⟨operation, answer⟩] ∧ outcome answer = .ok result := by
  obtain ⟨answer, rest, split, later⟩ := returns_ask.mp success
  obtain ⟨empty, given⟩ := returns_ofExcept.mp later
  exact ⟨answer, by rw [split, empty], given⟩

/-- What a listener needs once its socket is made. -/
theorem bound_opened {socket : Nat} (success : Returns (do
      setIpTransparent ipprotoIp socket
      bindSocket socket addr
      listen socket 1024 : Sockets platform Nat) trace listener) :
    trace = [⟨.setsockopt socket ipprotoIp ipTransparent, .ok ()⟩, ⟨.bind socket addr, .ok ()⟩,
      ⟨.listen socket 1024, .ok listener⟩] := by
  obtain ⟨_, first, rest, split, option, success⟩ := returns_bind.mp success
  obtain ⟨_, second, third, split', bound, listens⟩ := returns_bind.mp success
  have set : Returns (setsockopt socket ipprotoIp ipTransparent : Sockets platform Unit) first _ :=
    option
  obtain ⟨_, firstIs, rfl⟩ := returns_call set
  obtain ⟨_, secondIs, rfl⟩ := returns_call bound
  obtain ⟨_, thirdIs, rfl⟩ := returns_call listens
  rw [split, split', firstIs, secondIs, thirdIs]
  rfl

theorem createTproxyListener_opened
    (success : Returns (createTproxyListener addr : Sockets platform Nat) trace listener) :
    Opened addr .tProxy trace listener := by
  unfold createTproxyListener at success
  cases family : addr.ip with
  | v4 ip =>
    rw [family] at success
    obtain ⟨socket, first, rest, split, made, success⟩ := returns_bind.mp success
    obtain ⟨_, firstIs, rfl⟩ := returns_call made
    rw [split, firstIs, bound_opened success]
    exact .v4 family
  | v6 ip =>
    rw [family] at success
    obtain ⟨socket, first, rest, split, made, success⟩ := returns_bind.mp success
    obtain ⟨_, firstIs, rfl⟩ := returns_call made
    obtain ⟨_, second, third, split', option, success⟩ := returns_bind.mp success
    have set : Returns (setsockopt socket ipprotoIpv6 ipv6Transparent : Sockets platform Unit)
      second _ := option
    obtain ⟨_, secondIs, rfl⟩ := returns_call set
    rw [split, split', firstIs, secondIs, bound_opened success]
    exact .v6 family

theorem Opened.bindable {kind : Kind} (opened : Opened addr kind trace listener) :
    kind ≠ .notSupported := by
  cases opened with
  | plain bindable other => exact bindable
  | v4 family => decide
  | v6 family => decide

/-- Opening a listener spawns nothing. -/
theorem Opened.unspawned {kind : Kind} (opened : Opened addr kind trace listener)
    (accepting : Loop platform) : ⟨.spawn accepting, ()⟩ ∉ trace := by
  cases opened with
  | plain bindable other => simp
  | v4 family => simp
  | v6 family => simp

/-- A type that listens is one of those the module of its system knows. -/
theorem compiled_module {kind : Kind} (bindable : kind ≠ .notSupported)
    (compiled : kind.compiled platform = true) :
    (Platform.module platform = .linux ∧ (kind = .redirect ∨ kind = .tProxy)) ∨
    (Platform.module platform = .bsd ∧ (kind = .packetFilter ∨ kind = .ipFirewall)) := by
  revert bindable compiled
  cases platform <;> cases kind <;> decide

theorem bindRedir_refused (refused : ¬ Bindable ty) : bindRedir ty addr = .fail .other := by
  have dummy : ty.kind = .notSupported := not_not.mp refused
  unfold bindRedir
  rw [dummy]
  cases Platform.module platform with
  | linux => rfl
  | bsd => rfl
  | other => rfl

/-- What `bind_redir` is for each type. -/
theorem bindRedir_cases (ty : RedirType platform) (addr : SocketAddr) :
    ¬ Bindable ty ∧ bindRedir ty addr = .fail .other ∨
    (Bindable ty ∧ ty.kind ≠ .tProxy) ∧ bindRedir ty addr = tcpListenerBind addr ∨
    ty.kind = .tProxy ∧ bindRedir ty addr = createTproxyListener addr := by
  by_cases bindable : Bindable ty
  · right
    unfold bindRedir
    rcases compiled_module bindable ty.compiled with ⟨linux, plain | transparent⟩ |
      ⟨bsd, plain | plain⟩
    · exact .inl ⟨⟨bindable, by rw [plain]; decide⟩, by simp only [linux, plain]⟩
    · exact .inr ⟨transparent, by simp only [linux, transparent]⟩
    · exact .inl ⟨⟨bindable, by rw [plain]; decide⟩, by simp only [bsd, plain]⟩
    · exact .inl ⟨⟨bindable, by rw [plain]; decide⟩, by simp only [bsd, plain]⟩
  · exact .inl ⟨bindable, bindRedir_refused bindable⟩

theorem createTproxyListener_opens (opened : Opened addr .tProxy trace listener) :
    Returns (createTproxyListener addr : Sockets platform Nat) trace listener := by
  unfold createTproxyListener
  cases opened with
  | plain bindable other => exact (other rfl).elim
  | v4 family =>
    rw [family]
    exact .ask (.ask (.ask (.ask (.still _))))
  | v6 family =>
    rw [family]
    exact .ask (.ask (.ask (.ask (.ask (.still _)))))

/-- The runs of `bind_redir` that return are the openings of its address. -/
theorem bindRedir_returns :
    Returns (bindRedir ty addr) trace listener ↔ Opened addr ty.kind trace listener := by
  rcases bindRedir_cases ty addr with ⟨refused, same⟩ | ⟨⟨bindable, other⟩, same⟩ |
    ⟨transparent, same⟩
  · rw [same]
    refine iff_of_false (fun success => ?_) fun opened => refused opened.bindable
    cases (steps_fail.mp success).2
  · rw [same]
    have real : ty.kind ≠ .notSupported := bindable
    generalize ty.kind = kind at other real
    constructor
    · intro success
      obtain ⟨_, called, rfl⟩ := returns_call success
      rw [called]
      exact .plain real other
    · intro opened
      cases opened with
      | plain bindable other => exact .ask (.still _)
      | v4 family => exact (other rfl).elim
      | v6 family => exact (other rfl).elim
  · rw [same, transparent]
    exact ⟨createTproxyListener_opened, createTproxyListener_opens⟩

/-- Any address has an opening. -/
theorem exists_opened {kind : Kind} (bindable : kind ≠ .notSupported) (addr : SocketAddr) :
    ∃ (trace : SysTrace platform) (listener : Nat), Opened addr kind trace listener := by
  by_cases transparent : kind = .tProxy
  · rw [transparent]
    cases family : addr.ip with
    | v4 ip => exact ⟨_, _, @Opened.v4 platform addr ip 0 0 family⟩
    | v6 ip => exact ⟨_, _, @Opened.v6 platform addr ip 0 0 family⟩
  · exact ⟨_, _, @Opened.plain platform addr kind 0 bindable transparent⟩

theorem bindRedir_unspawned : (bindRedir ty addr).Uses fun operation =>
    ∀ accepting, operation ≠ .spawn accepting := by
  have plain : (tcpListenerBind addr : Sockets platform Nat).Uses fun operation =>
      ∀ accepting, operation ≠ .spawn accepting := ⟨nofun, fun _ => uses_ofExcept _ _⟩
  have transparent : (createTproxyListener addr : Sockets platform Nat).Uses fun operation =>
      ∀ accepting, operation ≠ .spawn accepting := by
    have bound : ∀ socket, (do
        setIpTransparent ipprotoIp socket
        bindSocket socket addr
        listen socket 1024 : Sockets platform Nat).Uses fun operation =>
        ∀ accepting, operation ≠ .spawn accepting := by
      intro socket
      refine Uses.bind ⟨nofun, fun _ => uses_ofExcept _ _⟩ fun _ => ?_
      refine Uses.bind ⟨nofun, fun _ => uses_ofExcept _ _⟩ fun _ => ?_
      exact ⟨nofun, fun _ => uses_ofExcept _ _⟩
    unfold createTproxyListener
    split
    · exact Uses.bind ⟨nofun, fun _ => uses_ofExcept _ _⟩ bound
    · refine Uses.bind ⟨nofun, fun _ => uses_ofExcept _ _⟩ fun socket => ?_
      exact Uses.bind ⟨nofun, fun _ => uses_ofExcept _ _⟩ fun _ => bound socket
  rcases bindRedir_cases ty addr with ⟨_, same⟩ | ⟨_, same⟩ | ⟨_, same⟩
  · rw [same]
    trivial
  · rw [same]
    exact plain
  · rw [same]
    exact transparent

end Opening

/-- The options for transparent proxying that are set for a socket, by level and name, and
those that a socket needs to be bound to an address. -/
def transparency : Tokens (Sys platform) SysAns (Nat × Nat × Nat) where
  grants event := {option | event = ⟨.setsockopt option.1 option.2.1 option.2.2, .ok ()⟩}
  spends operation := {option | ∃ addr, operation = .bind option.1 addr ∧
    (option.2 = (ipprotoIp, ipTransparent) ∨
      option.2 = (ipprotoIpv6, ipv6Transparent) ∧ ∃ ip, addr.ip = .v6 ip)}

section Options

variable {ty : RedirType platform} {addr : SocketAddr} {set : Set (Nat × Nat × Nat)}
  {α : Type} {β : Type}

/-- An operation that needs no option. -/
theorem call_transparent {operation : Sys platform}
    {next : SysAns operation → Sockets platform β}
    (other : ∀ socket addr, operation ≠ .bind socket addr)
    (later : ∀ answer, Safe transparency.monitor (OnValue fun _ _ => True) (next answer)
      (transparency.monitor.after set ⟨operation, answer⟩)) :
    Safe transparency.monitor (OnValue fun _ _ => True) (ask operation next) set := by
  refine ⟨?_, later⟩
  intro option spent
  obtain ⟨addr, same, _⟩ := spent
  exact (other _ _ same).elim

theorem bound_transparent {socket : Nat}
    (family : (∃ ip, addr.ip = .v6 ip) → (socket, ipprotoIpv6, ipv6Transparent) ∈ set) :
    Safe transparency.monitor (OnValue fun _ _ => True) (do
      setIpTransparent ipprotoIp socket
      bindSocket socket addr
      listen socket 1024 : Sockets platform Nat) set := by
  refine call_transparent (fun _ _ => nofun) fun answer => ?_
  cases answer with
  | error error => trivial
  | ok done =>
    refine ⟨?_, fun answer => safe_ofExcept_bind fun _ _ => ?_⟩
    · intro option spent
      obtain ⟨made, named⟩ := option
      obtain ⟨addr, same, needed⟩ := spent
      cases same
      rcases needed with first | ⟨second, ip⟩
      · cases first
        exact .inr rfl
      · cases second
        exact .inl (family ip)
    · exact call_transparent (fun _ _ => nofun) fun _ => safe_ofExcept.mpr (onValue_true _ _)

theorem createTproxyListener_transparent : Safe transparency.monitor (OnValue fun _ _ => True)
    (createTproxyListener addr : Sockets platform Nat) set := by
  unfold createTproxyListener
  cases family : addr.ip with
  | v4 ip =>
    refine call_transparent (fun _ _ => nofun) fun answer => ?_
    refine safe_ofExcept_bind fun socket _ => bound_transparent fun other => ?_
    obtain ⟨ip, other⟩ := other
    rw [family] at other
    cases other
  | v6 ip =>
    refine call_transparent (fun _ _ => nofun) fun answer => ?_
    refine safe_ofExcept_bind fun socket _ => ?_
    refine call_transparent (fun _ _ => nofun) fun answer => ?_
    cases answer with
    | error error => trivial
    | ok done => exact bound_transparent fun _ => .inr rfl

theorem bindRedir_transparent :
    Safe transparency.monitor (OnValue fun _ _ => True) (bindRedir ty addr) set := by
  have plain : Safe transparency.monitor (OnValue fun _ _ => True)
      (tcpListenerBind addr : Sockets platform Nat) set :=
    call_transparent (fun _ _ => nofun) fun _ => safe_ofExcept.mpr (onValue_true _ _)
  rcases bindRedir_cases ty addr with ⟨_, same⟩ | ⟨_, same⟩ | ⟨_, same⟩
  · rw [same]
    trivial
  · rw [same]
    exact plain
  · rw [same]
    exact createTproxyListener_transparent

theorem serve_transparent (listen : List SocketAddr) :
    Safe transparency.monitor (OnValue fun _ _ => True) (serve ty listen) set := by
  induction listen generalizing set with
  | nil => exact call_transparent (fun _ _ => nofun) fun answer => answer.elim
  | cons addr rest ih =>
    refine bindRedir_transparent.andThen fun listener known _ => ?_
    exact call_transparent (fun _ _ => nofun) fun _ => ih

end Options

/-- The events of listeners that were opened one after the other, each with its task. -/
def announced (ty : RedirType platform) (openings : List (SysTrace platform × Nat)) :
    SysTrace platform :=
  openings.flatMap fun opening => opening.1 ++ [⟨.spawn ⟨opening.2, ty⟩, ()⟩]

/-- The addresses are opened one after the other. -/
abbrev OpenedAll (kind : Kind) (listen : List SocketAddr)
    (openings : List (SysTrace platform × Nat)) : Prop :=
  List.Forall₂ (fun addr opening => Opened addr kind opening.1 opening.2) listen openings

theorem announced_cons (ty : RedirType platform) (opening : SysTrace platform × Nat)
    (openings : List (SysTrace platform × Nat)) : announced ty (opening :: openings) =
      opening.1 ++ ⟨.spawn ⟨opening.2, ty⟩, ()⟩ :: announced ty openings := by
  simp only [announced, List.flatMap_cons, List.append_assoc, List.singleton_append]

/-- The first addresses have listeners, and the next one may be about to have one. -/
inductive Listens (ty : RedirType platform) (listen : List SocketAddr) : SysTrace platform → Prop
  | through {done todo openings} (split : listen = done ++ todo)
    (opened : OpenedAll ty.kind done openings) : Listens ty listen (announced ty openings)
  | opening {done addr todo openings rest left} (split : listen = done ++ addr :: todo)
    (opened : OpenedAll ty.kind done openings) (steps : Steps (bindRedir ty addr) rest left) :
    Listens ty listen (announced ty openings ++ rest)

theorem Listens.cons {ty : RedirType platform} {addr : SocketAddr} {listen : List SocketAddr}
    {opening trace : SysTrace platform} {listener : Nat}
    (opened : Opened addr ty.kind opening listener) (listens : Listens ty listen trace) :
    Listens ty (addr :: listen) (opening ++ ⟨.spawn ⟨listener, ty⟩, ()⟩ :: trace) := by
  have more := announced_cons ty (opening, listener)
  cases listens with
  | @through done todo openings split before =>
    rw [← more]
    exact .through (by rw [split]; rfl) (.cons opened before)
  | @opening done next todo openings rest left split before steps =>
    have whole : opening ++ ⟨.spawn ⟨listener, ty⟩, ()⟩ :: (announced ty openings ++ rest) =
        announced ty ((opening, listener) :: openings) ++ rest := by
      rw [more, List.append_assoc]
      rfl
    rw [whole]
    exact .opening (by rw [split]; rfl) (.cons opened before) steps

theorem serve_listens {ty : RedirType platform} {listen : List SocketAddr}
    {trace : SysTrace platform} {left : Sockets platform Unit}
    (steps : Steps (serve ty listen) trace left) : Listens ty listen trace := by
  induction listen generalizing trace with
  | nil =>
    rcases steps_ask.mp steps with ⟨empty, _⟩ | ⟨answer, _⟩
    · rw [empty]
      exact .through (List.append_nil []).symm .nil
    · exact answer.elim
  | cons addr rest ih =>
    rcases steps_bind steps with ⟨middle, first, _⟩ | ⟨listener, opening, after, split, first, later⟩
    · exact .opening (List.nil_append _).symm .nil first
    · have opened := bindRedir_returns.mp first
      rcases steps_ask.mp later with ⟨empty, _⟩ | ⟨_, more, spawned, last⟩
      · rw [split, empty, List.append_nil]
        exact .opening (List.nil_append _).symm .nil first
      · rw [split, spawned]
        exact .cons opened (ih last)

/-- Whichever way its addresses can be opened, `serve` opens them that way and waits. -/
theorem serve_opens {ty : RedirType platform} {listen : List SocketAddr}
    {openings : List (SysTrace platform × Nat)} (opened : OpenedAll ty.kind listen openings) :
    Steps (serve ty listen) (announced ty openings) sleep := by
  induction opened with
  | nil => exact .still _
  | @cons addr opening listen openings here _ ih =>
    rw [announced_cons]
    have bound := (bindRedir_returns.mpr here).bind fun listener => do
      spawn ⟨listener, ty⟩
      serve ty listen
    exact bound.trans (.ask ih)

theorem exists_openedAll {kind : Kind} (bindable : kind ≠ .notSupported)
    (listen : List SocketAddr) :
    ∃ openings : List (SysTrace platform × Nat), OpenedAll kind listen openings := by
  induction listen with
  | nil => exact ⟨[], .nil⟩
  | cons addr listen ih =>
    obtain ⟨trace, listener, here⟩ := @exists_opened platform kind bindable addr
    obtain ⟨openings, more⟩ := ih
    exact ⟨(trace, listener) :: openings, .cons here more⟩

/-- A task accepts at a listener that was opened for it. -/
theorem announced_spawned {ty : RedirType platform} {done : List SocketAddr}
    {openings : List (SysTrace platform × Nat)} {accepting : Loop platform}
    (opened : OpenedAll ty.kind done openings)
    (spawned : ⟨.spawn accepting, ()⟩ ∈ announced ty openings) :
    accepting.redirType = ty ∧ ∃ addr ∈ done, ∃ opening,
      Opened addr ty.kind opening accepting.listener ∧ opening <:+: announced ty openings := by
  induction opened with
  | nil => cases spawned
  | @cons addr opening done openings here _ ih =>
    rw [announced_cons] at spawned ⊢
    rcases List.mem_append.mp spawned with inside | after
    · exact (here.unspawned accepting inside).elim
    · rcases List.mem_cons.mp after with same | later
      · cases same
        exact ⟨rfl, addr, List.mem_cons_self, opening.1, here, (List.prefix_append _ _).isInfix⟩
      · obtain ⟨same, addr, member, earlier, opened, inside⟩ := ih later
        refine ⟨same, addr, List.mem_cons_of_mem _ member, earlier, opened, inside.trans ?_⟩
        exact ((List.suffix_cons _ _).trans (List.suffix_append _ _)).isInfix

theorem Listens.spawned {ty : RedirType platform} {listen : List SocketAddr}
    {trace : SysTrace platform} {accepting : Loop platform} (listens : Listens ty listen trace)
    (spawned : ⟨.spawn accepting, ()⟩ ∈ trace) :
    accepting.redirType = ty ∧ ∃ addr ∈ listen, ∃ opening,
      Opened addr ty.kind opening accepting.listener ∧ opening <:+: trace := by
  cases listens with
  | through split before =>
    obtain ⟨same, addr, member, opening, opened, inside⟩ := announced_spawned before spawned
    exact ⟨same, addr, split ▸ List.mem_append_left _ member, opening, opened, inside⟩
  | opening split before steps =>
    rcases List.mem_append.mp spawned with earlier | last
    · obtain ⟨same, addr, member, opening, opened, inside⟩ := announced_spawned before earlier
      exact ⟨same, addr, split ▸ List.mem_append_left _ member, opening, opened,
        inside.trans (List.prefix_append _ _).isInfix⟩
    · exact ((bindRedir_unspawned.steps steps).1 _ last accepting rfl).elim

/-- The name of the type that a configuration asks for. -/
def requested (platform : Platform) (config : TProxy) : Text :=
  config.redirType.getD (tcpDefault platform).name

theorem redirType_offered {config : TProxy}
    (offered : requested platform config ∈ tcpAvailableTypes platform) :
    ∃ ty, redirType platform config = .ok ty ∧ ty.name = requested platform config ∧
      Bindable ty := by
  have bindable : ∀ ty : RedirType platform, ty.name = requested platform config → Bindable ty := by
    intro ty named
    rw [← named] at offered
    exact ((compiled_offered platform ty.kind).mp offered).1
  unfold requested at *
  unfold redirType
  cases named : config.redirType with
  | none =>
    rw [named] at bindable
    exact ⟨_, rfl, rfl, bindable _ rfl⟩
  | some t =>
    rw [named] at offered bindable
    obtain ⟨ty, read⟩ := available_iff.mp offered
    have same := (fromStr_ok.mp read).1
    exact ⟨ty, read, same, bindable ty same⟩

theorem start_serves {config : TProxy} (given : config.listen ≠ []) :
    start platform (some config) =
      ofExcept (redirType platform config) >>= fun ty => serve ty config.listen := by
  have filled : config.listen.isEmpty = false := List.isEmpty_eq_false_iff.mpr given
  simp only [start, filled, Bool.false_eq_true, if_false]

/-- A type that the system does not offer is refused before anything is asked of it. -/
theorem start_refused {config : TProxy} (given : config.listen ≠ [])
    (missing : requested platform config ∉ tcpAvailableTypes platform) :
    ∃ error, start platform (some config) = .fail error := by
  rw [start_serves given]
  unfold requested at missing
  cases named : config.redirType with
  | some t =>
    rw [named] at missing
    have chosen : redirType platform config = fromStr platform t := by
      simp only [redirType, named]
    cases read : fromStr platform t with
    | ok ty => exact (missing (available_iff.mpr ⟨ty, read⟩)).elim
    | error error => exact ⟨error, by rw [chosen, read]; rfl⟩
  | none =>
    rw [named] at missing
    have chosen : redirType platform config = .ok (tcpDefault platform) := by
      simp only [redirType, named]
    have refused : ¬ Bindable (tcpDefault platform) := by
      intro real
      exact missing ((compiled_offered platform _).mpr ⟨real, (tcpDefault platform).compiled⟩)
    cases listed : config.listen with
    | nil => exact (given listed).elim
    | cons addr rest =>
      refine ⟨.other, ?_⟩
      rw [chosen]
      show bindRedir (tcpDefault platform) addr >>= _ = _
      rw [bindRedir_refused refused]
      rfl

theorem start_spawned {tproxyListen : Option TProxy} {trace : SysTrace platform}
    {left : Sockets platform Unit} {accepting : Loop platform}
    (steps : Steps (start platform tproxyListen) trace left)
    (spawned : ⟨.spawn accepting, ()⟩ ∈ trace) :
    Bindable accepting.redirType ∧ ∃ config, tproxyListen = some config ∧ ∃ addr ∈ config.listen,
      ∃ opening, Opened addr accepting.redirType.kind opening accepting.listener ∧
        opening <:+: trace := by
  cases tproxyListen with
  | none =>
    rw [(steps_fail.mp steps).1] at spawned
    cases spawned
  | some config =>
    by_cases empty : config.listen = []
    · have ended : start platform (some config) = .value () := by
        simp only [start, empty, List.isEmpty_nil, if_true]
      rw [ended] at steps
      rw [(steps_value.mp steps).1] at spawned
      cases spawned
    · rw [start_serves empty] at steps
      rcases steps_ofExcept_bind steps with ⟨_, _, none⟩ | ⟨ty, _, serves⟩
      · rw [none] at spawned
        cases spawned
      · obtain ⟨same, addr, member, opening, opened, inside⟩ :=
          (serve_listens serves).spawned spawned
        rw [same]
        exact ⟨opened.bindable, config, rfl, addr, member, opening, opened, inside⟩

/-- On every system a type is served when the system offers it, by this name or as the default.
Whichever way the system then lets the addresses be opened, listeners are opened for them one
after the other, with what transparent proxying needs set before a socket is bound, and each
has its task. -/
theorem start_listens (platform : Platform) (config : TProxy) (given : config.listen ≠ []) :
    (requested platform config ∉ tcpAvailableTypes platform →
      ∃ error, start platform (some config) = .fail error) ∧
    (requested platform config ∈ tcpAvailableTypes platform →
      ∃ ty : RedirType platform, ty.name = requested platform config ∧
        start platform (some config) = serve ty config.listen ∧
        (∃ openings : List (SysTrace platform × Nat), OpenedAll ty.kind config.listen openings) ∧
        (∀ openings, OpenedAll ty.kind config.listen openings →
          Steps (start platform (some config)) (announced ty openings) sleep) ∧
        ∀ trace left, Steps (start platform (some config)) trace left →
          Listens ty config.listen trace ∧ transparency.monitor.Follows ∅ trace) := by
  refine ⟨start_refused given, fun offered => ?_⟩
  obtain ⟨ty, chosen, named, bindable⟩ := redirType_offered offered
  have same : start platform (some config) = serve ty config.listen := by
    rw [start_serves given, chosen]
    rfl
  refine ⟨ty, named, same, exists_openedAll bindable config.listen, ?_, ?_⟩
  · intro openings opened
    rw [same]
    exact serve_opens opened
  · intro trace left steps
    rw [same] at steps
    exact ⟨serve_listens steps, ((serve_transparent config.listen).steps steps).1⟩

/-- A listener for redirected clients of IPv6. -/
def tproxyConfig : TProxy where
  listen := [⟨.v6 ⟨[0xfd00, 0, 0, 0, 0, 0, 0, 1], rfl⟩, 8081⟩]
  redirType := some "tproxy".toList

def tproxyOpening : SysTrace .linux :=
  [⟨.newV6, .ok 3⟩, ⟨.setsockopt 3 ipprotoIpv6 ipv6Transparent, .ok ()⟩,
    ⟨.setsockopt 3 ipprotoIp ipTransparent, .ok ()⟩,
    ⟨.bind 3 ⟨.v6 ⟨[0xfd00, 0, 0, 0, 0, 0, 0, 1], rfl⟩, 8081⟩, .ok ()⟩, ⟨.listen 3 1024, .ok 3⟩]

theorem start_listens_tproxy : ∃ ty : RedirType .linux, ty.name = "tproxy".toList ∧
    start .linux (some tproxyConfig) = serve ty tproxyConfig.listen ∧
    Steps (start .linux (some tproxyConfig)) (tproxyOpening ++ [⟨.spawn ⟨3, ty⟩, ()⟩]) sleep ∧
    transparency.monitor.Follows ∅ tproxyOpening := by
  obtain ⟨_, serves⟩ := start_listens .linux tproxyConfig (by decide)
  obtain ⟨ty, named, same, _, opens, listens⟩ := serves (by decide)
  have transparent : ty.kind = .tProxy := by
    have known : ty.kind.name = "tproxy".toList := named
    generalize ty.kind = kind at known
    revert known
    cases kind <;> decide
  have opened : OpenedAll ty.kind tproxyConfig.listen [(tproxyOpening, 3)] := by
    rw [transparent]
    exact .cons (.v6 rfl) .nil
  have steps : Steps (start .linux (some tproxyConfig))
    (tproxyOpening ++ [⟨.spawn ⟨3, ty⟩, ()⟩]) sleep := opens _ opened
  obtain ⟨middle, first, _⟩ := Steps.split steps
  exact ⟨ty, named, same, steps, (listens _ _ first).2⟩

end LocalProxy.Listening
