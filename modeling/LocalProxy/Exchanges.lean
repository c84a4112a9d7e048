import LocalProxy.Forwarding
import LocalProxy.MainStack
import LocalProxy.Upgrades

/-! What becomes of a request of a client. It is sent on once at most, whatever fails on the
way, and the client is given the response to that one request, or is told that there was none. -/

namespace LocalProxy.Exchanges
open Strings Addr Http Programs Program Network SendRequest Outbound Service Inbound Calls
open Resolution Forwarding MainStack

/-- The requests sent and how they were answered, but for those that ask a proxy for a
connection. -/
def exchanges (trace : Trace) : List (Request × Except Error Response) :=
  trace.filterMap fun event => match event with
    | ⟨.sendRequest _ request, answer⟩ =>
      if request.method = .connect then none else some (request, answer)
    | _ => none

theorem exchanges_append (before after : Trace) :
    exchanges (before ++ after) = exchanges before ++ exchanges after := List.filterMap_append

/-- An operation that sends no such request. -/
def Quiet : Op → Prop
  | .sendRequest _ request => request.method = .connect
  | _ => True

theorem opens_quiet {operation : Op} (opens : Opens operation) : Quiet operation := by
  cases operation with
  | sendRequest => exact opens
  | _ => trivial

theorem quiet_exchanges {trace : Trace} (quiet : ∀ event ∈ trace, Quiet event.operation) :
    exchanges trace = [] := by
  unfold exchanges
  rw [List.filterMap_eq_nil_iff]
  intro event member
  have silent := quiet event member
  cases event with
  | mk operation answer =>
    cases operation with
    | sendRequest server request =>
      have connect : request.method = .connect := silent
      simp [connect]
    | _ => rfl

/-- How far the exchange of a request has got, and what is returned for a response. -/
inductive Exchange (sends : Request → Prop) (gives : Response → Response) :
    List (Request × Except Error Response) → Net Response → Prop where
  | unsent {left} (pending : ∀ response, left ≠ .value response) : Exchange sends gives [] left
  | refused {sent error} (known : sends sent) :
    Exchange sends gives [(sent, .error error)] (.fail error)
  | answered {sent response left} (known : sends sent)
    (rest : left.Running ∨ left = .value (gives response)) :
    Exchange sends gives [(sent, .ok response)] left

/-- In every run such a request is sent once at most, and its response is returned. -/
def Once (sends : Request → Prop) (gives : Response → Response) (program : Net Response) : Prop :=
  ∀ trace left, Steps program trace left → Exchange sends gives (exchanges trace) left

section Rules

variable {α : Type} {sends : Request → Prop} {gives : Response → Response}

theorem once_fail (error : Error) : Once sends gives (.fail error) := by
  intro trace left steps
  obtain ⟨empty, same⟩ := steps_fail.mp steps
  rw [empty, same]
  exact .unsent fun _ absurd => by cases absurd

theorem Once.quiet {program : Net α} {next : α → Net Response} (first : program.Uses Quiet)
    (later : ∀ result, Once sends gives (next result)) : Once sends gives (program >>= next) := by
  intro trace left steps
  rcases steps_bind steps with ⟨middle, run, same⟩ | ⟨result, before, after, split, run, rest⟩
  · rw [quiet_exchanges (first.steps run).1, same]
    cases middle with
    | value result => exact later result [] (next result) (.still _)
    | fail error => exact .unsent fun _ absurd => by cases absurd
    | ask operation rest => exact .unsent fun _ absurd => by cases absurd
    | choose rest => exact .unsent fun _ absurd => by cases absurd
  · have exchange := later result after left rest
    rw [split, exchanges_append, quiet_exchanges (first.steps run).1]
    exact exchange

theorem Once.ofExcept {outcome : Except Error α} {next : α → Net Response}
    (later : ∀ result, outcome = .ok result → Once sends gives (next result)) :
    Once sends gives (Program.ofExcept outcome >>= next) := by
  cases outcome with
  | ok result => exact later result rfl
  | error error => exact once_fail error

theorem Once.okOr {option : Option α} {next : α → Net Response}
    (later : ∀ result, option = some result → Once sends gives (next result)) :
    Once sends gives (Network.okOr option >>= next) := by
  cases option with
  | some result => exact later result rfl
  | none => exact once_fail .empty

/-- Once there is a response nothing but the relay of a switch stands before it. -/
theorem relay_rest {server : Connection} {response : Response} {trace : Trace} {left : Net Response}
    (steps : Steps (do
      relayUpgrade server response
      return response) trace left) :
    exchanges trace = [] ∧ (left.Running ∨ left = .value response) := by
  have quiet : (do
      relayUpgrade server response
      return response : Net Response).Uses Quiet := relay_uses trivial response
  refine ⟨quiet_exchanges (quiet.steps steps).1, ?_⟩
  unfold relayUpgrade at steps
  split at steps
  · rcases steps_ask.mp steps with ⟨_, same⟩ | ⟨_, _, _, later⟩
    · rw [same]
      exact .inl trivial
    · exact .inr (steps_value.mp later).2
  · exact .inr (steps_value.mp steps).2

theorem send_once {server : Connection} {request : Request} (plain : request.method ≠ .connect)
    (known : sends request) : Once sends id (do
      let response ← Network.sendRequest server request
      relayUpgrade server response
      return response) := by
  intro trace left steps
  rcases steps_ask.mp steps with ⟨empty, same⟩ | ⟨answer, rest, split, later⟩
  · rw [empty, same]
    exact .unsent fun _ absurd => by cases absurd
  have counted : exchanges trace = (request, answer) :: exchanges rest := by
    rw [split]
    simp [exchanges, plain]
  rw [counted]
  cases answer with
  | error error =>
    obtain ⟨empty, same⟩ := steps_fail.mp later
    rw [empty, same]
    exact .refused known
  | ok response =>
    obtain ⟨nothing, still⟩ := relay_rest later
    rw [nothing]
    exact .answered known still

theorem Once.map {program : Net Response} (once : Once sends id program)
    (gives : Response → Response) :
    Once sends gives (program >>= fun response => .value (gives response)) := by
  intro trace left steps
  rcases steps_bind steps with ⟨middle, run, same⟩ | ⟨result, before, after, split, run, rest⟩
  · have exchange := once trace middle run
    rw [same]
    generalize exchanges trace = sent at exchange
    cases exchange with
    | unsent pending =>
      cases middle with
      | value result => exact absurd rfl (pending result)
      | _ => exact .unsent fun _ absurd => by cases absurd
    | refused known => exact .refused known
    | answered known rest =>
      cases middle with
      | value result =>
        rcases rest with running | returned
        · exact running.elim
        · cases returned
          exact .answered known (.inr rfl)
      | fail error => exact .answered known (rest.imp id fun absurd => by cases absurd)
      | _ => exact .answered known (.inl trivial)
  · have exchange := once before (.value result) run
    obtain ⟨nothing, same⟩ := steps_value.mp rest
    rw [split, nothing, List.append_nil, same]
    generalize exchanges before = sent at exchange
    cases exchange with
    | unsent pending => exact absurd rfl (pending result)
    | answered known rest =>
      rcases rest with running | returned
      · exact running.elim
      · cases returned
        exact .answered known (.inr rfl)

end Rules

variable {crates : Crates} {state : ProxyState} {request : Request}

theorem dnsResolve_quiet (hostname : HostName) (qtype : QueryType) :
    (dnsResolve hostname qtype).Uses Quiet := ⟨trivial, fun _ => uses_ofExcept _ _⟩

theorem dial_quiet (self : Element) (proxies : ProxyStack) (reqConf : RequestConfig)
    (addr : SocketAddr) :
    (dial crates dnsResolve state.config self proxies reqConf addr).Uses Quiet := by
  have connects := fun addr => (connect_opens crates self proxies addr).mono fun _ => opens_quiet
  unfold dial
  split
  · exact happyEyeballs_uses connects trivial fun qtype => dnsResolve_quiet _ qtype
  · exact connects addr

theorem shake_quiet (server : Connection) : (handshake server).Uses Quiet :=
  ⟨trivial, fun _ => uses_ofExcept _ _⟩

/-- Whatever the stack, `http_proxy::run` sends the request once at most: as it is rewritten, or as
an HTTP proxy of the stack is sent it. -/
theorem run_once {sends : Request → Prop} (plain : request.method ≠ .connect)
    (direct : ∀ scheme rewritten, rewrite crates request = .ok (scheme, rewritten) →
      sends rewritten)
    (forwarded : ∀ rewritten proxy sent, rewrite crates request = .ok (http, rewritten) →
      Element.httpProxy proxy ∈ state.proxyStack →
      proxy.absolute crates http rewritten = .ok sent → sends sent) :
    Once sends id (httpProxyRun crates dnsResolve state request) := by
  apply Once.ofExcept
  intro rewritten accepted
  obtain ⟨scheme, rewritten⟩ := rewritten
  have method : rewritten.method ≠ .connect := by
    rw [(rewrite_forwarded accepted).carried.1]
    exact plain
  show Once _ id (serve crates dnsResolve state.config (dispatch state .new) scheme .new rewritten)
  rw [serve_server]
  cases found : server scheme (dispatch state .new) with
  | nobody => exact once_fail .empty
  | default self rest =>
    apply Once.ofExcept
    intro addr _
    refine .quiet (dial_quiet self rest .new _) fun server => ?_
    refine .quiet ((secure_uses server addr).mono fun _ => opens_quiet) fun server => ?_
    refine .quiet (shake_quiet server) fun _ => ?_
    exact send_once method (direct scheme rewritten accepted)
  | forward proxy rest =>
    obtain ⟨scheme, suffix⟩ := server_forward found
    have member := mem_dispatch (suffix.subset (List.mem_cons_self : Element.httpProxy proxy ∈ _))
    subst scheme
    apply Once.okOr
    intro connect next
    have opens := (stack_opens crates rest connect next proxy.addr).mono fun _ => opens_quiet
    refine .quiet opens fun server => .quiet (shake_quiet server) fun _ => ?_
    apply Once.ofExcept
    intro sent absolute
    have same := (absolute_same absolute).1
    exact send_once (same ▸ method) (forwarded rewritten proxy sent accepted member absolute)

/-- How far `handle` has got with a request that is sent once at most. -/
inductive Settled (sends : Request → Prop) :
    List (Request × Except Error Response) → Net Response → Prop where
  | unsent {left} (rest : left.Running ∨ left = .value badGateway) : Settled sends [] left
  | refused {sent error} (known : sends sent) :
    Settled sends [(sent, .error error)] (.value badGateway)
  | answered {sent upstream left} (known : sends sent)
    (rest : left.Running ∨ left = .value (Response.keptAlive upstream)) :
    Settled sends [(sent, .ok upstream)] left

theorem handle_settled {sends : Request → Prop} (method : request.method ≠ .connect)
    (once : Once sends id (httpProxyRun crates dnsResolve state request)) {trace : Trace}
    {left : Net Response} (steps : Steps (handle crates dnsResolve state request) trace left) :
    Settled sends (exchanges trace) left := by
  have changed : Once sends Response.keptAlive (do
      let response ← httpProxyRun crates dnsResolve state request
      return Response.keptAlive response) := once.map Response.keptAlive
  unfold handle at steps
  rw [if_neg method] at steps
  rcases attempt_bind_steps steps with ⟨middle, still, run, running⟩ |
    ⟨error, before, after, split, run, last⟩ | ⟨response, before, after, split, run, last⟩
  · have exchange := changed trace middle run
    generalize exchanges trace = sent at exchange ⊢
    cases exchange with
    | unsent => exact .unsent (.inl running)
    | refused => exact still.elim
    | answered known => exact .answered known (.inl running)
  · obtain ⟨nothing, same⟩ := steps_value.mp last
    rw [nothing, List.append_nil] at split
    have exchange := changed before (.fail error) run
    rw [← split] at exchange
    rw [same]
    generalize exchanges trace = sent at exchange ⊢
    cases exchange with
    | unsent => exact .unsent (.inr rfl)
    | refused known => exact .refused known
    | answered _ rest =>
      rcases rest with running | returned
      · exact running.elim
      · cases returned
  · obtain ⟨nothing, same⟩ := steps_value.mp last
    rw [nothing, List.append_nil] at split
    have exchange := changed before (.value response) run
    rw [← split] at exchange
    rw [same]
    generalize exchanges trace = sent at exchange ⊢
    cases exchange with
    | unsent pending => exact absurd rfl (pending response)
    | answered known rest =>
      rcases rest with running | returned
      · exact running.elim
      · cases returned
        exact .answered known (.inr rfl)

end LocalProxy.Exchanges
