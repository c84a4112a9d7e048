import LocalProxy.FragmentDelivery
import LocalProxy.FragmentFrames

/-! The decision to fragment: it depends only on the bytes accepted so far, and once it
is made no other is. -/

namespace LocalProxy.Fragment
open Polling

variable {S : Type} {inner : Inner S}

/-- No read finds the timer over. -/
def Event.Unexpired : Event → Prop
  | .read expired _ => expired = false
  | _ => True

instance : DecidablePred Event.Unexpired
  | .write _ => isTrue trivial
  | .flush => isTrue trivial
  | .read expired _ => inferInstanceAs (Decidable (expired = false))

/-- A state that no longer waits is never followed by one that does, nor by a message
other than the one that is being sent. -/
def Onward (now last : State) : Prop :=
  now.isWaiting = false → last.isWaiting = false ∧
    ∀ buf header chunk, last = .sendingMessage buf header chunk →
      ∃ before earlier, now = .sendingMessage before header earlier ∧ before.inner = buf.inner

theorem onward_refl (state : State) : Onward state state :=
  fun settled => ⟨settled, fun buf _ chunk same => ⟨buf, chunk, same, rfl⟩⟩

theorem Onward.trans {first middle last : State} (one : Onward first middle)
    (two : Onward middle last) : Onward first last := by
  intro settled
  obtain ⟨past, message⟩ := one settled
  refine ⟨(two past).1, ?_⟩
  intro buf header chunk same
  obtain ⟨before, earlier, between, held⟩ := (two past).2 buf header chunk same
  obtain ⟨start, first, whole, kept⟩ := message before header earlier between
  exact ⟨start, first, whole, kept.trans held⟩

theorem Advance.onward {state next : State} (advance : Advance state next) :
    Onward state next := by
  intro _
  cases advance with
  | chunk buf header chunk n =>
    refine ⟨rfl, fun last other next same => ?_⟩
    cases same
    exact ⟨_, _, rfl, rfl⟩
  | cursor buf header chunk next n =>
    refine ⟨rfl, fun last other next same => ?_⟩
    cases same
    exact ⟨_, _, rfl, rfl⟩
  | release buf header chunk => exact ⟨rfl, fun last other next same => by cases same⟩
  | raw buf n => exact ⟨rfl, fun last other next same => by cases same⟩
  | done buf => exact ⟨rfl, fun last other next same => by cases same⟩

/-- The states that may follow this one. -/
def After (start : State) (layer : FragmentLayer S) : Prop := Onward start layer.state

theorem after_frame (start : State) : FlushFrame (After (S := S) start) where
  asked := fun _ _ _ _ after => after
  advanced := fun _ _ advance after => after.trans advance.onward

theorem pollTimer_onward (expired : Bool) (layer : FragmentLayer S) :
    Onward layer.state (layer.pollTimer expired).state := by
  rw [FragmentLayer.pollTimer_state]
  cases expired with
  | false => exact onward_refl layer.state
  | true =>
    cases state : layer.state with
    | waitingHeader buf => exact fun settled => by cases settled
    | waitingMessage buf header => exact fun settled => by cases settled
    | sendingMessage buf header chunk => exact onward_refl _
    | sendingRawBuffer buf => exact onward_refl _
    | sendingData => exact onward_refl _

theorem pollWrite_after (start : State) (fuel : Nat) (bufWrite : List Byte) :
    Triple (After start) (pollWrite inner fuel bufWrite) (fun _ => After start)
      (fun _ => After start) := by
  apply Triple.bind (whenSendingBuffer_flush (after_frame start).rule fuel)
  intro _
  apply Triple.read
  intro layer both
  obtain ⟨after, settled⟩ := both
  apply Triple.branch
  · intro _
    apply ask_triple
    · intro current below n same _
      rw [same]
      exact after
    · intro current below answer exit same _ _
      rw [same]
      exact after
  · intro unended
    have waiting : layer.state.isWaiting = true :=
      State.waiting settled (by simpa using unended)
    have free : ∀ other : FragmentLayer S, After start other := by
      intro other gone
      rw [(after gone).1] at waiting
      cases waiting
    apply Triple.unwrap_any
    · intro next _
      exact Triple.bind (setState_triple (Q := fun _ => After start) fun _ _ => free _)
        (fun _ => Triple.value _ (fun _ _ => free _))
    · intro _ _
      exact free _

section Steps

variable (inner : Inner S)

/-- Each event leads onward, whether the timer is over or not. -/
theorem step_onward (fuel : Nat) (run : Run S) (event : Event) :
    Onward run.layer.state (step inner fuel run event).layer.state := by
  have start : After run.layer.state run.layer := onward_refl run.layer.state
  have frame : FlushFrame (After (S := S) run.layer.state) := after_frame run.layer.state
  let onward (next : Run S) : Prop := Onward run.layer.state next.layer.state
  cases event with
  | write bytes =>
    exact step_write (R := onward) (pollWrite_after run.layer.state fuel bytes) start
      (fun _ _ after => after) (fun _ _ after => after)
  | flush =>
    exact step_flush (R := onward) (pollFlush_rule frame.rule fuel) start
      (fun _ _ both => both.1) (fun _ _ after => after)
  | read expired room =>
    have poll : Triple (After run.layer.state) (pollRead inner fuel expired room)
        (fun _ => After run.layer.state) (fun _ => After run.layer.state) :=
      pollRead_frame frame fuel expired room
        (fun layer after => after.trans (pollTimer_onward expired layer)) (fun _ _ _ after => after)
    exact step_read (R := onward) poll start (fun _ _ after => after) (fun _ _ after => after)

theorem runFrom_onward (fuel : Nat) (events : List Event) (run : Run S) :
    Onward run.layer.state (runFrom inner fuel run events).layer.state := by
  induction events generalizing run with
  | nil => exact onward_refl run.layer.state
  | cons event rest ih => exact (step_onward inner fuel run event).trans (ih _)

/-- No flush changes a state that has nothing to send. -/
theorem waiting_frame {state : State} (settled : state.isSendingBuffer = false) :
    FlushFrame fun layer : FragmentLayer S => layer.state = state where
  asked := fun _ _ _ _ same => same
  advanced := by
    intro layer next advance same
    rw [same] at advance
    cases advance with
    | chunk buf header chunk n => cases settled
    | cursor buf header chunk next n => cases settled
    | release buf header chunk => cases settled
    | raw buf n => cases settled
    | done buf => cases settled

theorem State.unsending {state : State} (waiting : state.isWaiting = true) :
    state.isSendingBuffer = false := by
  cases state with
  | waitingHeader buf => rfl
  | waitingMessage buf header => rfl
  | _ => cases waiting

/-- As long as the layer waits, its state is what the bytes accepted have led to. -/
theorem step_settles (fuel : Nat) {run : Run S} {event : Event} (unexpired : event.Unexpired)
    (settles : Settles run.accepted run.layer.state) (waiting : run.layer.state.isWaiting = true) :
    let next := step inner fuel run event
    Settles next.accepted next.layer.state ∧
      (next.layer.state ≠ run.layer.state → ∃ bytes, event = .write bytes ∧
        next.accepted = run.accepted ++ bytes) := by
  let still (next : Run S) : Prop := Settles next.accepted next.layer.state ∧
    (next.layer.state ≠ run.layer.state → ∃ bytes, event = .write bytes ∧
      next.accepted = run.accepted ++ bytes)
  have frame : FlushFrame fun layer : FragmentLayer S => layer.state = run.layer.state :=
    waiting_frame (State.unsending waiting)
  have same : ∀ layer : FragmentLayer S, layer.state = run.layer.state →
      still (run.settle layer []) := by
    intro layer same
    refine ⟨?_, fun other => (other same).elim⟩
    simpa only [Run.settle, List.append_nil, same] using settles
  cases event with
  | write bytes =>
    obtain ⟨next, received, after⟩ := receive_settles bytes settles waiting
    have poll := pollWrite_waiting inner fuel waiting received
    simp only [step, poll, Run.settle, List.take_length]
    exact ⟨after, fun _ => ⟨bytes, rfl, rfl⟩⟩
  | flush =>
    exact step_flush (R := still) (pollFlush_rule frame.rule fuel) rfl
      (fun _ layer both => same layer both.1) (fun _ => same)
  | read expired room =>
    have early : expired = false := unexpired
    subst early
    have poll : Triple (fun layer : FragmentLayer S => layer.state = run.layer.state)
        (pollRead inner fuel false room) (fun _ layer => layer.state = run.layer.state)
        (fun _ layer => layer.state = run.layer.state) :=
      pollRead_frame frame fuel false room
        (fun layer same => by rw [FragmentLayer.pollTimer_state]; exact same)
        (fun _ _ _ same => same)
    exact step_read (R := still) poll rfl (fun _ => same) (fun _ => same)

/-- The decision as it stands: the layer waits exactly while the bytes leave it open. -/
structure Decision (run : Run S) : Prop where
  waits : run.layer.state.isWaiting = true → Settles run.accepted run.layer.state
  decided : run.layer.state.isWaiting = false → ¬ Undecided run.accepted

theorem Decision.iff {run : Run S} (decision : Decision run) :
    run.layer.state.isWaiting = true ↔ Undecided run.accepted := by
  constructor
  · intro waiting
    exact (decision.waits waiting).undecided waiting
  · intro undecided
    by_contra gone
    exact decision.decided (by simpa using gone) undecided

theorem step_accepted (fuel : Nat) (run : Run S) (event : Event) :
    run.accepted <+: (step inner fuel run event).accepted := by
  have settled : ∀ layer taken, run.accepted <+: (run.settle layer taken).accepted :=
    fun _ taken => List.prefix_append run.accepted taken
  cases event with
  | write bytes => simp only [step]; split <;> exact settled _ _
  | flush => simp only [step]; split <;> exact settled _ _
  | read expired room => simp only [step]; split <;> exact settled _ _

theorem step_decision (fuel : Nat) {run : Run S} {event : Event} (unexpired : event.Unexpired)
    (decision : Decision run) : Decision (step inner fuel run event) := by
  by_cases waiting : run.layer.state.isWaiting = true
  · have settles := (step_settles inner fuel unexpired (decision.waits waiting) waiting).1
    exact ⟨fun _ => settles, settles.decided⟩
  · have gone : run.layer.state.isWaiting = false := by simpa using waiting
    have past := (step_onward inner fuel run event gone).1
    obtain ⟨more, whole⟩ := step_accepted inner fuel run event
    constructor
    · intro again
      rw [past] at again
      cases again
    · intro _
      rw [← whole]
      exact decided_append (decision.decided gone) more

theorem run_decision (fuel : Nat) (stream : S) (events : List Event)
    (unexpired : ∀ event ∈ events, event.Unexpired) : Decision (run inner fuel stream events) := by
  have start : Decision (Run.start stream) :=
    { waits := fun _ => ⟨rfl, Nat.zero_lt_succ 5, .inl rfl⟩, decided := fun gone => by cases gone }
  unfold run runFrom
  generalize Run.start stream = first at start
  induction events generalizing first with
  | nil => exact start
  | cons event rest ih =>
    exact ih (fun event member => unexpired event (List.mem_cons_of_mem _ member)) _
      (step_decision inner fuel (unexpired event (by simp)) start)

/-- What one event does to the decision. -/
structure Decides (now : Run S) (event : Event) (next : Run S) : Prop where
  onward : Onward now.layer.state next.layer.state
  written : now.layer.state.isWaiting = true → next.layer.state.isWaiting = false →
    ∃ bytes, event = .write bytes ∧ next.accepted = now.accepted ++ bytes
  raw : now.layer.state.isWaiting = true →
    ((∃ buf, next.layer.state = .sendingRawBuffer buf) ↔ Foreign next.accepted)
  message : now.layer.state.isWaiting = true →
    ((∃ buf header chunk, next.layer.state = .sendingMessage buf header chunk) ↔
      Complete next.accepted)
  held : now.layer.state.isWaiting = true → ∀ buf header chunk,
    next.layer.state = .sendingMessage buf header chunk → buf.inner = next.accepted ∧
      header.base = next.accepted.take 3 ∧ header.len = 5 + declared next.accepted

theorem Settles.raw {accepted : List Byte} {state : State} (settles : Settles accepted state) :
    (∃ buf, state = .sendingRawBuffer buf) ↔ Foreign accepted := by
  constructor
  · intro raw
    obtain ⟨buf, same⟩ := raw
    rw [same] at settles
    exact settles.2
  · intro foreign
    cases state with
    | waitingHeader buf => exact (foreign.decided (settles.undecided rfl)).elim
    | waitingMessage buf header => exact (foreign.decided (settles.undecided rfl)).elim
    | sendingMessage buf header chunk =>
      exact (foreign.incomplete (settles.2.2.1.complete settles.2.2.2)).elim
    | sendingRawBuffer buf => exact ⟨buf, rfl⟩
    | sendingData => exact settles.elim

theorem Settles.message {accepted : List Byte} {state : State} (settles : Settles accepted state) :
    (∃ buf header chunk, state = .sendingMessage buf header chunk) ↔ Complete accepted := by
  constructor
  · intro message
    obtain ⟨buf, header, chunk, same⟩ := message
    rw [same] at settles
    exact settles.2.2.1.complete settles.2.2.2
  · intro complete
    cases state with
    | waitingHeader buf => exact (complete.decided (settles.undecided rfl)).elim
    | waitingMessage buf header => exact (complete.decided (settles.undecided rfl)).elim
    | sendingMessage buf header chunk => exact ⟨buf, header, chunk, rfl⟩
    | sendingRawBuffer buf => exact (settles.2.incomplete complete).elim
    | sendingData => exact settles.elim

theorem Decision.decides (fuel : Nat) {now : Run S} {event : Event} (unexpired : event.Unexpired)
    (decision : Decision now) : Decides now event (step inner fuel now event) := by
  have settles := fun waiting =>
    step_settles inner fuel unexpired (decision.waits waiting) waiting
  refine ⟨step_onward inner fuel now event, ?_, fun waiting => (settles waiting).1.raw,
    fun waiting => (settles waiting).1.message, ?_⟩
  · intro waiting gone
    apply (settles waiting).2
    intro same
    rw [same, waiting] at gone
    cases gone
  · intro waiting buf header chunk same
    have held := (settles waiting).1
    rw [same] at held
    obtain ⟨whole, _, hello, _⟩ := held
    exact ⟨congrArg Buffer.inner whole, (Header.new_eq_some hello.parsed).1,
      Header.new_len hello.parsed⟩

end Steps

/-- The layer waits exactly while the bytes accepted leave the decision open, however they
were split: it leaves for either side at the write that settles it, and never waits again. -/
structure Unsplit (inner : Inner S) (fuel : Nat) (now : Run S) : Prop where
  waits : now.layer.state.isWaiting = true ↔ Undecided now.accepted
  decides : ∀ event, event.Unexpired → Decides now event (step inner fuel now event)
  onward : ∀ more, Onward now.layer.state (runFrom inner fuel now more).layer.state

theorem decision_unsplit (inner : Inner S) (fuel : Nat) (stream : S) (events : List Event)
    (unexpired : ∀ event ∈ events, event.Unexpired) :
    Unsplit inner fuel (run inner fuel stream events) := by
  have decision := run_decision inner fuel stream events unexpired
  exact ⟨decision.iff, fun _ early => decision.decides inner fuel early,
    fun more => runFrom_onward inner fuel more _⟩

/-- A ClientHello that comes in three writes, with a read and a flush between them. -/
theorem decision_unsplit_hello :
    Unsplit (upTo 64) 20 (run (upTo 64) 20 ()
      [.write [0x16], .write [3, 1], .read false 8, .flush, .write [0, 2, 1, 9]]) :=
  decision_unsplit (upTo 64) 20 () _ (by decide)

end LocalProxy.Fragment
