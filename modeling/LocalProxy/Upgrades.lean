import LocalProxy.Resolution

/-! What becomes of a response on its way back to the client: the tunnel of a switch of
protocols is set up on the way out, and the headers are rewritten on the way in. -/

namespace LocalProxy.Upgrades
open Strings Addr Http Programs Program Network SendRequest Outbound Service Inbound Resolution

/-- The event of a response to a request, and the tunnel that is spawned for a switch. -/
def received (server : Connection) (request : Request) (upstream : Response) : Trace :=
  ⟨.sendRequest server request, .ok upstream⟩ ::
    if upstream.status = 101 then [⟨.proxyUpgrade server, ()⟩] else []

/-- The last thing in the run is the response of an upstream. -/
def Received (trace : Trace) (upstream : Response) : Prop :=
  ∃ before server request, trace = before ++ received server request upstream

variable {crates : Crates} {config : Config} {resolve : Resolve} {scheme : Text}
  {reqConf : RequestConfig} {request : Request} {trace : Trace} {upstream : Response}

theorem Received.after {before after : Trace} (found : Received after upstream) :
    Received (before ++ after) upstream := by
  obtain ⟨earlier, server, sent, split⟩ := found
  exact ⟨before ++ earlier, server, sent, by rw [split, List.append_assoc]⟩

theorem send_received {server : Connection} (returns : Returns (do
    let response ← Network.sendRequest server request
    relayUpgrade server response
    return response) trace upstream) : Received trace upstream := by
  obtain ⟨answer, rest, split, later⟩ := returns_ask.mp returns
  obtain ⟨response, answered, last⟩ := returns_ofExcept_bind.mp later
  obtain ⟨_, before, after, whole, relayed, done⟩ := returns_bind.mp last
  obtain ⟨nothing, same⟩ := returns_value.mp done
  subst same
  refine ⟨[], server, request, ?_⟩
  have tunnel : before = if response.status = 101 then [⟨.proxyUpgrade server, ()⟩] else [] := by
    unfold relayUpgrade at relayed
    split at relayed
    next switch =>
      rw [if_pos switch]
      obtain ⟨_, rest, split, none⟩ := returns_ask.mp relayed
      rw [split, (returns_value.mp none).1]
    next usual =>
      rw [if_neg usual]
      exact (returns_value.mp relayed).1
  rw [split, whole, nothing, tunnel, answered, List.append_nil]
  rfl

/-- Whatever the program returns is the response of an upstream, received last. -/
def Receives (program : Net Response) : Prop :=
  ∀ trace upstream, Returns program trace upstream → Received trace upstream

theorem receives_bind {α : Type} {program : Net α} {next : α → Net Response}
    (later : ∀ result, Receives (next result)) : Receives (program >>= next) := by
  intro trace upstream returns
  obtain ⟨result, before, after, split, _, rest⟩ := returns_bind.mp returns
  rw [split]
  exact (later result after upstream rest).after

theorem receives_fail (error : Error) : Receives (.fail error) := by
  intro trace upstream returns
  cases (steps_fail.mp returns).2

theorem receives_send (server : Connection) (request : Request) : Receives (do
    let response ← Network.sendRequest server request
    relayUpgrade server response
    return response) :=
  fun _ _ returns => send_received returns

theorem default_receives (self : Element) (proxies : ProxyStack) :
    Receives (httpProxyDefault crates resolve config self proxies scheme reqConf request) := by
  refine receives_bind fun addr => receives_bind fun server => receives_bind fun server => ?_
  exact receives_bind fun _ => receives_send server request

theorem forward_receives (proxy : HttpProxy) (next : Option Connect) :
    Receives (proxy.forward crates next scheme request) := by
  refine receives_bind fun connect => receives_bind fun server => receives_bind fun _ => ?_
  exact receives_bind fun request => receives_send server request

/-- On both ways out, whatever the stack. -/
theorem run_receives (state : ProxyState) :
    Receives (httpProxyRun crates resolve state request) := by
  apply receives_bind
  intro rewritten
  show Receives (serve crates resolve state.config (dispatch state .new) rewritten.1 .new
    rewritten.2)
  rw [serve_server]
  cases server rewritten.1 (dispatch state .new) with
  | nobody => exact receives_fail .empty
  | default self proxies => exact default_receives self proxies
  | forward proxy proxies => exact forward_receives proxy _

/-- The options that the `Connection` headers list. -/
def options (headers : HeaderMap) : List Text :=
  (headers.filter fun header => header.1 = connection).flatMap fun header =>
    (header.2.text.splitOn ',').map fun option => (trim option).map Char.toLower

/-- The response announces that the connection changes its protocol. -/
def Announces (response : Response) : Prop := "upgrade".toList ∈ options response.headers

instance (response : Response) : Decidable (Announces response) :=
  inferInstanceAs (Decidable (_ ∈ _))

/-- The headers but for those that are about the connection to the client. -/
def endToEnd (headers : HeaderMap) : HeaderMap :=
  headers.filter fun header => header.1 ≠ connection ∧ header.1 ≠ keepAlive

/-- What the client is to see of the response of an upstream. -/
structure Survives (upstream answer : Response) : Prop where
  status : answer.status = upstream.status
  headers : endToEnd answer.headers = endToEnd upstream.headers
  body : answer.body = upstream.body
  switch : upstream.status = 101 → Announces upstream → Announces answer

theorem keptAlive_headers (headers : HeaderMap) :
    (headers.insert connection ⟨keepAlive⟩).remove keepAlive =
      endToEnd headers ++ [(connection, ⟨keepAlive⟩)] := by
  unfold HeaderMap.insert HeaderMap.remove endToEnd
  rw [List.filter_append, List.filter_filter]
  congr 1
  apply List.filter_congr
  intro header _
  simp [Bool.and_comm]

theorem keptAlive_endToEnd (headers : HeaderMap) :
    endToEnd (endToEnd headers ++ [(connection, ⟨keepAlive⟩)]) = endToEnd headers := by
  unfold endToEnd
  rw [List.filter_append, List.filter_filter]
  simp

theorem keptAlive_silent (upstream : Response) : ¬ Announces (Response.keptAlive upstream) := by
  have none : (endToEnd upstream.headers).filter (fun header => header.1 = connection) = [] := by
    unfold endToEnd
    rw [List.filter_filter, List.filter_eq_nil_iff]
    intro header _ both
    simp only [Bool.and_eq_true, decide_eq_true_eq] at both
    exact both.2.1 both.1
  unfold Announces options Response.keptAlive
  rw [keptAlive_headers, List.filter_append, none]
  decide

/-- The rewriting leaves everything as it should be, but for a switch that is announced. -/
theorem keptAlive_survives (upstream : Response) :
    Survives upstream (Response.keptAlive upstream) ↔
      ¬ (upstream.status = 101 ∧ Announces upstream) := by
  constructor
  · intro survives both
    exact keptAlive_silent upstream (survives.switch both.1 both.2)
  · intro other
    refine ⟨rfl, ?_, rfl, fun switch announced => (other ⟨switch, announced⟩).elim⟩
    show endToEnd ((upstream.headers.insert connection ⟨keepAlive⟩).remove keepAlive) = _
    rw [keptAlive_headers, keptAlive_endToEnd]

/-- A response to the client that comes from an upstream has all it should have, unless the
upstream announces with it a switch of protocols. -/
theorem handle_survives {state : ProxyState} {answer : Response}
    (other : request.method ≠ .connect)
    (returns : Returns (handle crates resolve state request) trace answer) :
    (∃ error, Fails (httpProxyRun crates resolve state request) trace error ∧
      answer = badGateway) ∨
    ∃ upstream, Returns (httpProxyRun crates resolve state request) trace upstream ∧
      Received trace upstream ∧
      (Survives upstream answer ↔ ¬ (upstream.status = 101 ∧ Announces upstream)) := by
  unfold handle at returns
  rw [if_neg other] at returns
  rcases attempt_bind_steps returns with ⟨_, _, _, running⟩ |
    ⟨error, before, after, split, fails, last⟩ | ⟨result, before, after, split, run, last⟩
  · exact running.elim
  · left
    obtain ⟨nothing, same⟩ := returns_value.mp last
    have failed : Ends _ before (.error error : Except Error Response) := fails
    rcases ends_bind failed with ⟨cause, _, first⟩ | ⟨_, _, _, _, _, rest⟩
    · exact ⟨cause, by rw [split, nothing, List.append_nil]; exact first, same.symm⟩
    · cases (steps_value.mp rest).2
  · right
    obtain ⟨nothing, same⟩ := returns_value.mp last
    obtain ⟨upstream, early, late, whole, first, rest⟩ := returns_bind.mp run
    obtain ⟨silent, kept⟩ := returns_value.mp rest
    have all : trace = early := by
      rw [split, nothing, whole, silent, List.append_nil, List.append_nil]
    rw [← all] at first
    refine ⟨upstream, first, run_receives state trace upstream first, ?_⟩
    rw [← same, ← kept]
    exact keptAlive_survives upstream

def directState : ProxyState where
  config := ⟨none, none, none⟩
  proxyStack := [.raw]

/-- A request for a WebSocket. -/
def webSocketRequest : Request where
  method := .other "GET".toList
  uri := ⟨none, none, "/chat".toList⟩
  headers := [(host, ⟨"a.test".toList⟩)]
  body := []

/-- An upstream that switches to the protocol asked for. -/
def switching : Response where
  status := 101
  headers := [(connection, ⟨"Upgrade".toList⟩), ("upgrade".toList, ⟨"websocket".toList⟩)]
  body := []

theorem handle_survives_plain : ∃ trace upstream,
    Returns (httpProxyRun Crates.plain dnsResolve directState webSocketRequest) trace upstream ∧
    Received trace upstream ∧ Survives upstream (Response.keptAlive ⟨200, [], []⟩) := by
  have returns := drive_steps (willing ⟨200, [], []⟩) true
    (handle Crates.plain dnsResolve directState webSocketRequest)
  have answered : Returns (handle Crates.plain dnsResolve directState webSocketRequest) _
    (Response.keptAlive ⟨200, [], []⟩) := returns
  rcases handle_survives (by decide) answered with ⟨_, _, page⟩ | ⟨upstream, run, got, survives⟩
  · exact absurd (congrArg Response.status page) (by decide)
  · refine ⟨_, upstream, run, got, survives.mpr fun switches => ?_⟩
    obtain ⟨before, server, request, split⟩ := got
    have member : (⟨.sendRequest server request, .ok upstream⟩ : Event Op Ans) ∈ _ :=
      split ▸ List.mem_append_right before List.mem_cons_self
    have answer := drive_answers (willing ⟨200, [], []⟩) true _ _ member
    cases answer
    exact absurd switches.1 (by decide)

/-- The switch of a WebSocket is relayed, and the client is told that there is none. -/
theorem switch_unannounced :
    ¬ ∀ (crates : Crates) (resolve : Resolve) (state : ProxyState) (request : Request)
      (trace : Trace) (upstream answer : Response), request.method ≠ .connect →
      Returns (httpProxyRun crates resolve state request) trace upstream →
      Returns (handle crates resolve state request) trace answer → Survives upstream answer := by
  intro claim
  have run := drive_steps (willing switching) true
    (httpProxyRun Crates.plain dnsResolve directState webSocketRequest)
  have handled := drive_steps (willing switching) true
    (handle Crates.plain dnsResolve directState webSocketRequest)
  have survives := claim Crates.plain dnsResolve directState webSocketRequest _ switching
    (Response.keptAlive switching) (by decide) run handled
  exact keptAlive_silent switching (survives.switch rfl (by decide))

end LocalProxy.Upgrades
