import LocalProxy.Isolation
import LocalProxy.ResolvedNames

/-! Which clients can make the assertion fail that the builder of DNS queries makes. It fails in
the task of those who name a host that is looked up and of which a part is too long. What else
can panic in a task, setting up TLS for the first time and finding out where a redirected client
was going, is before or outside of what is run here. -/

namespace LocalProxy.Crashes
open Strings Addr Http Programs Program Network Select SendRequest Outbound Service Inbound Calls
open Resolution ResolvedNames Isolation

/-- Some run of the program comes to the assertion and panics. -/
def Panics {α : Type} (program : Net α) : Prop :=
  ∃ trace next, Steps program trace (.ask .panic next)

def Calm (operation : Op) : Prop := operation ≠ .panic

/-- The program panics in some run or, where there is no such peril, in none. -/
structure PanicsBy {α : Type} (peril : Prop) (program : Net α) : Prop where
  calm : ¬ peril → program.Uses Calm
  panics : peril → Panics program

section Rules

variable {α β : Type} {program : Net α} {peril : Prop}

theorem Panics.bind (panics : Panics program) (next : α → Net β) : Panics (program >>= next) := by
  obtain ⟨trace, rest, steps⟩ := panics
  exact ⟨trace, _, steps.bind next⟩

theorem Panics.attempt (panics : Panics program) : Panics program.attempt := by
  obtain ⟨trace, rest, steps⟩ := panics
  exact ⟨trace, _, steps.attempt⟩

theorem PanicsBy.iff (by_ : PanicsBy peril program) : Panics program ↔ peril := by
  constructor
  · intro panics
    by_contra safe
    obtain ⟨trace, next, steps⟩ := panics
    exact ((by_.calm safe).steps steps).2.1 rfl
  · exact by_.panics

theorem PanicsBy.bind {next : α → Net β} (by_ : PanicsBy peril program)
    (later : ∀ result, (next result).Uses Calm) : PanicsBy peril (program >>= next) where
  calm safe := (by_.calm safe).bind later
  panics danger := (by_.panics danger).bind next

theorem PanicsBy.attempt (by_ : PanicsBy peril program) : PanicsBy peril program.attempt where
  calm safe := (by_.calm safe).attempt
  panics danger := (by_.panics danger).attempt

theorem panicsBy_calm (calm : program.Uses Calm) (safe : ¬ peril) : PanicsBy peril program where
  calm _ := calm
  panics danger := absurd danger safe

/-- Both branches of a selection are about to panic, and one of them is the first to go on. -/
theorem select_panics {κ μ : Type} (otherwise : κ → μ → Net α)
    (left : Empty → Net (Except κ α)) (right : Empty → Net (Except μ α)) :
    Panics (select otherwise (.ask .panic left) (.ask .panic right)) :=
  ⟨[], _, @Steps.choose _ _ _ _ _ true _ _ (.still _)⟩

end Rules

theorem opens_calm {operation : Op} (opens : Opens operation) : Calm operation := by
  intro same
  rw [same] at opens
  exact opens

section Lookups

variable {crates : Crates} {state : ProxyState}

theorem dohQuery_calm (resolve : Resolve) (query : Bytes) :
    (dohQuery crates resolve state query).Uses Calm := by
  refine dohQuery_uses.mono fun operation queries => ?_
  intro same
  rw [same] at queries
  rcases queries with (opens | ⟨_, _, absurd, _⟩ | ⟨_, absurd⟩) | absurd | ⟨_, absurd⟩
  · exact opens
  all_goals cases absurd

theorem resolveTo_calm {hostname : HostName} {qtype : QueryType}
    (short : ∀ name, hostname = .domain name → crates.newQuery name qtype ≠ .panicked) :
    (resolveTo crates state 1 hostname qtype).Uses Calm := by
  cases hostname with
  | v4 addr => trivial
  | v6 addr => trivial
  | domain name =>
    simp only [resolveTo, resolveBy]
    cases built : crates.newQuery name qtype with
    | packet packet =>
      refine (dohQuery_calm _ packet).bind fun result => ?_
      exact uses_ofExcept_bind fun _ _ => trivial
    | tooLong => trivial
    | panicked => exact absurd built (short name rfl)

/-- The name is looked up, and the builder of queries panics on it. -/
def Perilous (config : Config) (addr : SocketAddr) : Prop :=
  config.doh.isSome = true ∧
    ∃ name, addr.hostname = .domain name ∧ ∃ part ∈ parts name, 63 ≤ part.length

theorem connect_calm (self : Element) (proxies : ProxyStack) (addr : SocketAddr) :
    (connect crates self proxies addr).Uses Calm :=
  (connect_opens crates self proxies addr).mono fun _ => opens_calm

theorem happyEyeballs_panicsBy (builds : Builds crates.newQuery) (self : Element)
    (proxies : ProxyStack) (addr : SocketAddr) : PanicsBy (Perilous state.config addr)
      (happyEyeballs crates (resolveTo crates state 1) state.config self proxies addr) where
  calm := by
    intro safe
    by_cases doh : state.config.doh.isSome = true
    · refine happyEyeballs_uses (connect_calm self proxies) nofun fun qtype => ?_
      refine resolveTo_calm fun name domain panicked => safe ⟨doh, name, domain, ?_⟩
      exact (builds.asserts name qtype).mp panicked
    · have direct : state.config.doh.isNone = true := by simpa using doh
      unfold happyEyeballs
      rw [direct]
      exact connect_calm self proxies addr
  panics := by
    intro danger
    obtain ⟨doh, name, domain, long⟩ := danger
    have looked : (state.config.doh.isNone || addr.hostname.isIpaddr) = false := by
      rw [domain]
      simpa [HostName.isIpaddr] using doh
    have panics : ∀ qtype, resolveTo crates state 1 addr.hostname qtype = Network.panic := by
      intro qtype
      have built := (builds.asserts name qtype).mpr long
      rw [domain]
      simp only [resolveTo, resolveBy, built]
    unfold happyEyeballs branch
    rw [looked, panics, panics]
    exact select_panics _ _ _

end Lookups

/-- The address that a request is for, where no HTTP proxy of the stack takes the request. -/
def requestAddr (crates : Crates) (state : ProxyState) (request : Request) : Option SocketAddr :=
  match rewrite crates request with
  | .ok (scheme, rewritten) =>
    match server scheme (dispatch state .new) with
    | .default _ _ => (hostAddr scheme rewritten).toOption
    | _ => none
  | .error _ => none

/-- The address whose host name is looked up for a client. -/
def lookedUp (crates : Crates) (state : ProxyState) : Job → Option SocketAddr
  | .plain request =>
    if request.method = .connect then (connectTarget request).toOption
    else requestAddr crates state request
  | .tunnel request _ => (connectTarget request).toOption
  | _ => none

/-- There is an address, and it is perilous. -/
def Endangers (config : Config) (found : Option SocketAddr) : Prop :=
  ∃ addr, found = some addr ∧ Perilous config addr

section Jobs

variable {crates : Crates} {state : ProxyState} {request : Request}

theorem endangers_some {config : Config} {addr : SocketAddr} :
    Endangers config (some addr) = Perilous config addr := by
  unfold Endangers
  simp

theorem not_endangers_none {config : Config} : ¬ Endangers config none := by
  intro danger
  obtain ⟨addr, absurd, _⟩ := danger
  cases absurd

theorem connectRun_panicsBy (builds : Builds crates.newQuery) (filled : state.proxyStack ≠ []) :
    PanicsBy (Endangers state.config (connectTarget request).toOption)
      (connectRun crates (resolveTo crates state 1) state request) := by
  unfold connectRun
  cases connectTarget request with
  | error error => exact panicsBy_calm trivial not_endangers_none
  | ok addr =>
    have same : Endangers state.config (Except.ok addr : Except Error SocketAddr).toOption =
        Perilous state.config addr := endangers_some
    rw [same]
    cases stack : state.proxyStack.reverse with
    | nil => exact absurd (List.reverse_eq_nil_iff.mp stack) filled
    | cons proxy proxies => exact happyEyeballs_panicsBy builds proxy proxies addr

theorem exchange_calm (server : Connection) (request : Request) :
    (exchange server request).Uses Calm := by
  refine ⟨nofun, fun _ => uses_ofExcept_bind fun _ _ => ?_⟩
  exact ⟨nofun, fun _ => uses_ofExcept_bind fun response _ => relay_uses nofun response⟩

theorem forward_calm (proxy : HttpProxy) (proxies : ProxyStack) (scheme : Text) :
    (proxy.forward crates (nextConnect crates proxies) scheme request).Uses Calm := by
  refine (forward_uses proxy proxies).mono fun operation serves => ?_
  rcases serves with opens | ⟨_, _, same, _⟩ | ⟨_, same⟩
  · exact opens_calm opens
  · rw [same]
    nofun
  · rw [same]
    nofun

theorem httpProxyRun_panicsBy (builds : Builds crates.newQuery) :
    PanicsBy (Endangers state.config (requestAddr crates state request))
      (httpProxyRun crates (resolveTo crates state 1) state request) := by
  unfold httpProxyRun Service.sendRequest requestAddr
  cases rewrite crates request with
  | error error => exact panicsBy_calm trivial not_endangers_none
  | ok rewritten =>
    obtain ⟨scheme, rewritten⟩ := rewritten
    show PanicsBy _ (serve crates (resolveTo crates state 1) state.config (dispatch state .new)
      scheme .new rewritten)
    rw [serve_server]
    dsimp only
    cases server scheme (dispatch state .new) with
    | nobody => exact panicsBy_calm trivial not_endangers_none
    | forward proxy proxies =>
      exact panicsBy_calm (forward_calm proxy proxies scheme) not_endangers_none
    | default self proxies =>
      simp only [Server.send, httpProxyDefault]
      cases hostAddr scheme rewritten with
      | error error => exact panicsBy_calm trivial not_endangers_none
      | ok addr =>
        show PanicsBy (Endangers state.config (some addr)) (do
          let server ← happyEyeballs crates (resolveTo crates state 1) state.config self proxies addr
          let server ← secure scheme server addr
          exchange server rewritten)
        rw [endangers_some]
        refine (happyEyeballs_panicsBy builds self proxies addr).bind fun server => ?_
        refine ((secure_uses server addr).mono fun _ => opens_calm).bind fun server => ?_
        exact exchange_calm server rewritten

theorem handle_panicsBy (builds : Builds crates.newQuery) (filled : state.proxyStack ≠ []) :
    PanicsBy (Endangers state.config (lookedUp crates state (.plain request)))
      (handle crates (resolveTo crates state 1) state request) := by
  have tunnelled : PanicsBy (Endangers state.config (connectTarget request).toOption)
      (connectResponse crates (resolveTo crates state 1) state request) :=
    (connectRun_panicsBy builds filled).bind fun _ => trivial
  have relayed : PanicsBy (Endangers state.config (requestAddr crates state request)) (do
      let response ← httpProxyRun crates (resolveTo crates state 1) state request
      return Response.keptAlive response) :=
    (httpProxyRun_panicsBy builds).bind fun _ => trivial
  unfold handle
  dsimp only [lookedUp]
  split
  · refine tunnelled.attempt.bind fun outcome => ?_
    cases outcome with
    | ok response => trivial
    | error error => trivial
  · refine relayed.attempt.bind fun outcome => ?_
    cases outcome with
    | ok response => trivial
    | error error => trivial

theorem copy_calm (server : Connection) (traffic : List Traffic) :
    (copyBidirectional server traffic).Uses Calm := by
  induction traffic with
  | nil => trivial
  | cons piece rest ih =>
    cases piece with
    | client bytes => exact ⟨nofun, fun _ => uses_ofExcept_bind fun _ _ => ih⟩
    | server count => exact ⟨nofun, fun _ => uses_ofExcept_bind fun _ _ => ih⟩

theorem tproxyRun_calm (destination : StdNet.SocketAddr) :
    (tproxyRun crates state destination).Uses Calm := by
  unfold tproxyRun
  cases state.proxyStack.reverse with
  | nil => trivial
  | cons proxy proxies => exact connect_calm proxy proxies _

end Jobs

/-- In the task of a client the assertion on a name to be queried can fail exactly if names are
looked up and the client names a host of which a part has 63 bytes or more, in a `CONNECT` request
or in one that no HTTP proxy takes. No redirected client and no datagram can make it fail. -/
theorem job_panics {crates : Crates} {state : ProxyState} (builds : Builds crates.newQuery)
    (filled : state.proxyStack ≠ []) (job : Job) :
    Panics (job.program crates state) ↔ Endangers state.config (lookedUp crates state job) := by
  have panicsBy : PanicsBy (Endangers state.config (lookedUp crates state job))
      (job.program crates state) := by
    cases job with
    | plain request => exact (handle_panicsBy builds filled).bind fun _ => trivial
    | tunnel request traffic =>
      exact (connectRun_panicsBy builds filled).bind fun server => copy_calm server traffic
    | redirected destination traffic =>
      refine panicsBy_calm ?_ not_endangers_none
      exact (tproxyRun_calm destination).bind fun server => copy_calm server traffic
    | datagram query source =>
      refine panicsBy_calm ?_ not_endangers_none
      exact (dohQuery_calm _ query).bind fun result => ⟨nofun, fun _ => uses_ofExcept _ _⟩
  exact panicsBy.iff

/-- A tunnel to a host whose name is one label of 63 bytes, which is as long as one may be. -/
def longLabel : Request where
  method := .connect
  uri := ⟨none, some ⟨List.replicate 63 'a' ++ ":443".toList, by decide, by decide, by decide⟩, []⟩
  headers := []
  body := []

theorem job_panics_label : Panics ((Job.tunnel longLabel []).program dohCrates dohState) := by
  have named : connectTarget longLabel = .ok ⟨.domain (List.replicate 63 'a'), 443⟩ := by
    decide +kernel
  have long : ∃ part ∈ parts (List.replicate 63 'a'), 63 ≤ part.length := by decide +kernel
  refine (job_panics builder_builds (by decide) (.tunnel longLabel [])).mpr ?_
  exact ⟨_, congrArg Except.toOption named, rfl, _, rfl, long⟩

end LocalProxy.Crashes
