import LocalProxy.Calls

/-! The race of `happy_eyeballs` between the two address families, over every order in
which its lookups and connects end. -/

namespace LocalProxy.HappyEyeballs
open Strings Addr Http Programs Program Network Select SendRequest Outbound Calls

/-- How far a branch has come after some events, and how it has ended if it has: with a
connection, or with whether it was the lookup that failed. -/
inductive Attempt (resolve : Resolve) (connect : Connect) (addr : SocketAddr) (qtype : QueryType) :
    Trace → Option (Except Bool Connection) → Prop where
  | resolving {trace middle} (lookup : Steps (resolve addr.hostname qtype) trace middle)
    (running : middle.Running) : Attempt resolve connect addr qtype trace none
  | unresolved {trace error} (lookup : Fails (resolve addr.hostname qtype) trace error) :
    Attempt resolve connect addr qtype trace (some (.error true))
  | noAddress {trace} (lookup : Returns (resolve addr.hostname qtype) trace none) :
    Attempt resolve connect addr qtype trace (some (.error false))
  | connecting {before after ip middle}
    (lookup : Returns (resolve addr.hostname qtype) before (some ip))
    (dial : Steps (connect ⟨ip, addr.port⟩) after middle) (running : middle.Running) :
    Attempt resolve connect addr qtype (before ++ after) none
  | refused {before after ip error}
    (lookup : Returns (resolve addr.hostname qtype) before (some ip))
    (dial : Fails (connect ⟨ip, addr.port⟩) after error) :
    Attempt resolve connect addr qtype (before ++ after) (some (.error false))
  | connected {before after ip conn}
    (lookup : Returns (resolve addr.hostname qtype) before (some ip))
    (dial : Returns (connect ⟨ip, addr.port⟩) after conn) :
    Attempt resolve connect addr qtype (before ++ after) (some (.ok conn))

variable {resolve : Resolve} {connect : Connect} {addr : SocketAddr} {qtype : QueryType}
  {trace : Trace}

/-- A branch never fails as a program: its failures are its outcome. -/
theorem branch_attempt {final : Net (Except Bool Connection)}
    (steps : Steps (branch resolve connect addr qtype) trace final) :
    (final.Running ∧ Attempt resolve connect addr qtype trace none) ∨
    ∃ outcome, final = .value outcome ∧
      Attempt resolve connect addr qtype trace (some outcome) := by
  rcases attempt_bind_steps steps with ⟨middle, going, lookup, running⟩ |
    ⟨error, before, after, split, lookup, rest⟩ | ⟨resolved, before, after, split, lookup, rest⟩
  · exact .inl ⟨running, .resolving lookup going⟩
  · obtain ⟨empty, same⟩ := steps_value.mp rest
    rw [split, empty, List.append_nil]
    exact .inr ⟨_, same, .unresolved lookup⟩
  · cases resolved with
    | none =>
      obtain ⟨empty, same⟩ := steps_value.mp rest
      rw [split, empty, List.append_nil]
      exact .inr ⟨_, same, .noAddress lookup⟩
    | some ip =>
      rw [split]
      rcases attempt_bind_steps rest with ⟨middle, going, dial, running⟩ |
        ⟨error, first, second, whole, dial, last⟩ | ⟨conn, first, second, whole, dial, last⟩
      · exact .inl ⟨running, .connecting lookup dial going⟩
      · obtain ⟨empty, same⟩ := steps_value.mp last
        rw [whole, empty, List.append_nil]
        exact .inr ⟨_, same, .refused lookup dial⟩
      · obtain ⟨empty, same⟩ := steps_value.mp last
        rw [whole, empty, List.append_nil]
        exact .inr ⟨_, same, .connected lookup dial⟩

/-- The branch has not succeeded. -/
def NotConnected (outcome : Option (Except Bool Connection)) : Prop :=
  ∀ conn, outcome ≠ some (.ok conn)

/-- Both branches have failed after these events, with a warning to be given if a lookup
was to blame. -/
def Exhausted (resolve : Resolve) (connect : Connect) (addr : SocketAddr)
    (trace warnings : Trace) : Prop :=
  ∃ six four dohFailedV6 dohFailedV4, Interleaved six four trace ∧
    Attempt resolve connect addr .aaaa six (some (.error dohFailedV6)) ∧
    Attempt resolve connect addr .a four (some (.error dohFailedV4)) ∧
    warnings = if dohFailedV6 || dohFailedV4 then [⟨.warn, ()⟩] else []

/-- A run of the race and what is left of it. The connect to the address as it was given
comes after both branches have failed. -/
inductive Raced (resolve : Resolve) (connect : Connect) (addr : SocketAddr) :
    Trace → Net Connection → Prop where
  | racing {six four trace outcome other final} (mixed : Interleaved six four trace)
    (v6 : Attempt resolve connect addr .aaaa six outcome)
    (v4 : Attempt resolve connect addr .a four other) (no6 : NotConnected outcome)
    (no4 : NotConnected other) (unfinished : final.Running) : Raced resolve connect addr trace final
  | sixth {six four trace conn other} (mixed : Interleaved six four trace)
    (v6 : Attempt resolve connect addr .aaaa six (some (.ok conn)))
    (v4 : Attempt resolve connect addr .a four other) :
    Raced resolve connect addr trace (.value conn)
  | fourth {six four trace outcome conn} (mixed : Interleaved six four trace)
    (v6 : Attempt resolve connect addr .aaaa six outcome)
    (v4 : Attempt resolve connect addr .a four (some (.ok conn))) :
    Raced resolve connect addr trace (.value conn)
  | fellBack {before warnings after final}
    (exhausted : Exhausted resolve connect addr before warnings)
    (last : Steps (connect addr) after final) :
    Raced resolve connect addr (before ++ warnings ++ after) final

/-- A branch that goes on, or has ended without a match, has not connected. -/
theorem branch_open {branch' : Net (Except Bool Connection)}
    (steps : Steps (branch resolve connect addr qtype) trace branch')
    (unfinished : branch'.Running ∨ Lost branch') :
    ∃ outcome, Attempt resolve connect addr qtype trace outcome ∧ NotConnected outcome := by
  rcases branch_attempt steps with ⟨_, going⟩ | ⟨outcome, same, ended⟩
  · exact ⟨none, going, by intro conn absurd; cases absurd⟩
  · cases outcome with
    | ok conn =>
      rw [same] at unfinished
      rcases unfinished with running | ⟨reason, absurd⟩
      · exact running.elim
      · cases absurd
    | error dohFailed => exact ⟨_, ended, by intro conn absurd; cases absurd⟩

theorem branch_ended {outcome : Except Bool Connection}
    (returns : Returns (branch resolve connect addr qtype) trace outcome) :
    Attempt resolve connect addr qtype trace (some outcome) := by
  rcases branch_attempt returns with ⟨running, _⟩ | ⟨other, same, ended⟩
  · exact running.elim
  · cases same
    exact ended

theorem branch_far {branch' : Net (Except Bool Connection)}
    (steps : Steps (branch resolve connect addr qtype) trace branch') :
    ∃ outcome, Attempt resolve connect addr qtype trace outcome := by
  rcases branch_attempt steps with ⟨_, going⟩ | ⟨outcome, _, ended⟩
  · exact ⟨none, going⟩
  · exact ⟨some outcome, ended⟩

theorem race_raced {final : Net Connection}
    (steps : Steps (select (fun dohFailedV6 dohFailedV4 => do
        warnIf (dohFailedV6 || dohFailedV4)
        connect addr)
      (branch resolve connect addr .aaaa) (branch resolve connect addr .a)) trace final) :
    Raced resolve connect addr trace final := by
  cases select_selected steps with
  | racing mixed leftRun rightRun leftOpen rightOpen going unfinished =>
    obtain ⟨outcome, v6, no6⟩ := branch_open leftRun leftOpen
    obtain ⟨other, v4, no4⟩ := branch_open rightRun rightOpen
    exact .racing mixed v6 v4 no6 no4 unfinished
  | left mixed leftRun rightRun =>
    obtain ⟨other, v4⟩ := branch_far rightRun
    exact .sixth mixed (branch_ended leftRun) v4
  | right mixed leftRun rightRun =>
    obtain ⟨outcome, v6⟩ := branch_far leftRun
    exact .fourth mixed v6 (branch_ended rightRun)
  | failed mixed leftRun rightRun reason =>
    rcases reason with same | same
    · rw [same] at leftRun
      rcases branch_attempt leftRun with ⟨running, _⟩ | ⟨outcome, absurd, _⟩
      · exact running.elim
      · cases absurd
    · rw [same] at rightRun
      rcases branch_attempt rightRun with ⟨running, _⟩ | ⟨outcome, absurd, _⟩
      · exact running.elim
      · cases absurd
  | @lost six four before more dohFailedV6 dohFailedV4 _ mixed leftRun rightRun rest =>
    have v6 := branch_ended leftRun
    have v4 := branch_ended rightRun
    cases blame : dohFailedV6 || dohFailedV4 with
    | true =>
      rw [blame] at rest
      rcases steps_ask.mp rest with ⟨empty, same⟩ | ⟨answer, after, split, last⟩
      · rw [empty, List.append_nil, same]
        exact .racing mixed v6 v4 (by intro conn absurd; cases absurd)
          (by intro conn absurd; cases absurd) trivial
      · rw [split, List.append_cons]
        exact .fellBack ⟨_, _, _, _, mixed, v6, v4, by rw [blame]; rfl⟩ last
    | false =>
      rw [blame] at rest
      have exhausted : Exhausted resolve connect addr before [] :=
        ⟨six, four, dohFailedV6, dohFailedV4, mixed, v6, v4, by rw [blame]; rfl⟩
      have fell := Raced.fellBack exhausted rest
      rwa [List.append_nil] at fell

/-- Only the last connect makes the race fail, and both branches have failed before. -/
theorem Raced.failed {error : Error} (raced : Raced resolve connect addr trace (.fail error)) :
    ∃ before warnings after, trace = before ++ warnings ++ after ∧
      Exhausted resolve connect addr before warnings ∧ Fails (connect addr) after error := by
  cases raced with
  | racing mixed v6 v4 no6 no4 unfinished => exact unfinished.elim
  | fellBack exhausted last => exact ⟨_, _, _, rfl, exhausted, last⟩

/-- Every run of `happy_eyeballs`: the race for a name to be resolved, and otherwise the
one connect to the address, which resolves nothing. -/
theorem happyEyeballs_raced {crates : Crates} {config : Config} {self : Element}
    {proxies : ProxyStack} {final : Net Connection}
    (steps : Steps (happyEyeballs crates resolve config self proxies addr) trace final) :
    if config.doh.isNone ∨ addr.hostname.isIpaddr then
      happyEyeballs crates resolve config self proxies addr =
        Outbound.connect crates self proxies addr ∧ ∀ event ∈ trace, Opens event.operation
    else Raced resolve (Outbound.connect crates self proxies) addr trace final ∧
      ∀ error, final = .fail error → ∃ before warnings after,
        trace = before ++ warnings ++ after ∧
        Exhausted resolve (Outbound.connect crates self proxies) addr before warnings ∧
        Fails (Outbound.connect crates self proxies addr) after error := by
  by_cases plain : config.doh.isNone ∨ addr.hostname.isIpaddr
  · rw [if_pos plain]
    have direct : happyEyeballs crates resolve config self proxies addr =
        Outbound.connect crates self proxies addr := by
      unfold happyEyeballs
      rw [if_pos (by simpa using plain)]
    rw [direct] at steps
    exact ⟨direct, ((connect_opens crates self proxies addr).steps steps).1⟩
  · rw [if_neg plain]
    unfold happyEyeballs at steps
    rw [if_neg (by simpa using plain)] at steps
    have raced := race_raced steps
    refine ⟨raced, fun error same => ?_⟩
    rw [same] at raced
    exact raced.failed

/-- Names are resolved over HTTPS, by the server of this name. -/
def dohConfig (endpoint : Text) : Config where
  proxies := none
  doh := some ⟨endpoint, none⟩
  fragment := none

theorem happyEyeballs_raced_nameless : ∃ trace,
    Raced dnsResolve (Outbound.connect Crates.plain .raw []) ⟨.domain "a.test".toList, 443⟩ trace
      (.value (.tcpStream 3)) := by
  have steps := drive_steps (willing ⟨200, [], []⟩) true (happyEyeballs Crates.plain dnsResolve
    (dohConfig "http://dns.test".toList) .raw [] ⟨.domain "a.test".toList, 443⟩)
  have raced := happyEyeballs_raced steps
  rw [if_neg (by decide)] at raced
  exact ⟨_, raced.1⟩

end LocalProxy.HappyEyeballs
