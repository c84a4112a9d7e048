import LocalProxy.FragmentPolls

/-! What a run delivers: every byte accepted, once and in order, as long as no write
of a raw buffer starts where a part of it was already sent. -/

namespace LocalProxy.Fragment
open Polling

variable {S : Type} {inner : Inner S}

def RunKept (run : Run S) : Prop := Kept run.accepted run.record run.layer

theorem RunKept.settle {run : Run S} {layer : FragmentLayer S}
    (kept : Kept run.accepted run.record layer) : RunKept (run.settle layer []) := by
  have same := recordOf_holds kept
  simpa only [RunKept, Run.settle, List.append_nil, same] using kept

theorem step_kept (bounded : inner.Bounded) (fuel : Nat) (run : Run S) (event : Event)
    (kept : RunKept run) : RunKept (step inner fuel run event) := by
  cases event with
  | write bytes =>
    exact step_write (pollWrite_triple bounded fuel bytes) kept (fun _ _ holds => holds)
      (fun _ _ holds => RunKept.settle holds.2)
  | flush =>
    exact step_flush (pollFlush_triple bounded fuel) (Holds.entering kept)
      (fun _ _ holds => RunKept.settle holds.1) (fun _ _ holds => RunKept.settle holds.2)
  | read expired room =>
    exact step_read (pollRead_triple bounded fuel expired room) kept
      (fun _ _ holds => RunKept.settle holds) (fun _ _ holds => RunKept.settle holds.2)

theorem runFrom_kept (bounded : inner.Bounded) (fuel : Nat) (events : List Event) (run : Run S)
    (kept : RunKept run) : RunKept (runFrom inner fuel run events) := by
  induction events generalizing run with
  | nil => exact kept
  | cons event rest ih => exact ih _ (step_kept bounded fuel run event kept)

theorem run_kept (bounded : inner.Bounded) (fuel : Nat) (stream : S) (events : List Event) :
    RunKept (run inner fuel stream events) :=
  runFrom_kept bounded fuel events _ ⟨rfl, rfl, rfl, by simp [Run.start], .inl rfl⟩

theorem delivered_of_kept {run : Run S} (kept : RunKept run)
    (starts : AllFromStart run.layer.calls) : run.Delivered := by
  unfold RunKept Kept at kept
  unfold Run.Delivered
  cases state : run.layer.state with
  | waitingHeader buf =>
    rw [state] at kept
    exact ⟨by rw [kept.2.1]; exact List.nil_prefix, by simp⟩
  | waitingMessage buf header =>
    rw [state] at kept
    exact ⟨by rw [kept.2.1]; exact List.nil_prefix, by simp⟩
  | sendingMessage buf header chunk =>
    rw [state] at kept
    exact ⟨(kept.1.sent_short kept.2).1, by simp⟩
  | sendingRawBuffer buf =>
    rw [state] at kept
    exact ⟨(kept.1.sent starts).due, by simp⟩
  | sendingData =>
    rw [state] at kept
    exact ⟨by rw [kept.2 starts], fun _ => kept.2 starts⟩

/-- Exactly once and in order, in every run whose writes on the raw path each start
with nothing of the buffer sent: then neither a partial write nor a message followed
by more bytes makes the layer send a buffer again from its first byte. -/
theorem run_delivered (bounded : inner.Bounded) (fuel : Nat) (stream : S) (events : List Event)
    (starts : AllFromStart (run inner fuel stream events).layer.calls) :
    (run inner fuel stream events).Delivered :=
  delivered_of_kept (run_kept bounded fuel stream events) starts

/-- A stream below that takes at most `most` bytes at a time and is always ready. -/
def upTo (most : Nat) : Inner Unit where
  pollRead := fun stream _ => (.pending, stream)
  pollWrite := fun stream slice => (.ready (.ok (min most slice.length)), stream)
  pollFlush := fun stream => (.ready (.ok ()), stream)
  pollShutdown := fun stream => (.ready (.ok ()), stream)

theorem upTo_bounded (most : Nat) : (upTo most).Bounded := by
  intro stream slice n below answer
  simp only [upTo, Prod.mk.injEq, Poll.ready.injEq, Except.ok.injEq] at answer
  omega

theorem upTo_progressing (most : Nat) (positive : 0 < most) : (upTo most).Progressing := by
  intro stream slice n below answer nonempty
  have := List.length_pos_iff.mpr nonempty
  simp only [upTo, Prod.mk.injEq, Poll.ready.injEq, Except.ok.injEq] at answer
  omega

/-- A ClientHello of two payload bytes, below it a stream that takes all it is given. -/
theorem run_delivered_hello :
    (run (upTo 64) 20 () [.write [0x16, 3, 1, 0, 2, 1, 9], .flush, .write [7]]).Delivered :=
  run_delivered (upTo_bounded 64) 20 () _ (by decide +kernel)

/-- Three raw bytes over a stream that takes two at a time: the second write starts
again from the first byte, and four bytes arrive. -/
theorem raw_buffer_sent_again :
    ¬ ∀ (S : Type) (inner : Inner S), inner.Bounded → inner.Progressing →
      ∀ fuel stream events, (run inner fuel stream events).Delivered := by
  intro claim
  have delivered := claim Unit (upTo 2) (upTo_bounded 2) (upTo_progressing 2 (by decide)) 20 ()
    [.write [0x17, 1, 2], .flush]
  exact absurd delivered.1 (by decide)

/-- All accepted bytes have reached the stream below, as they were or as fragments. -/
def Run.HandedOver (run : Run S) : Prop :=
  acknowledged run.layer.calls = wire run.record run.accepted

/-- The bytes a state still keeps a copy of. -/
def State.buffered : State → List Byte
  | .waitingHeader buf => buf.inner
  | .waitingMessage buf _ => buf.inner
  | .sendingMessage buf _ _ => buf.inner
  | .sendingRawBuffer buf => buf.inner
  | .sendingData => []

theorem handedOver_of_kept {run : Run S} (kept : RunKept run)
    (starts : AllFromStart run.layer.calls) :
    run.HandedOver ↔ run.layer.state.buffered = [] := by
  unfold RunKept Kept at kept
  unfold Run.HandedOver
  cases state : run.layer.state with
  | waitingHeader buf =>
    rw [state] at kept
    obtain ⟨unrecorded, nothing, rfl, _⟩ := kept
    rw [unrecorded, nothing, wire_none, eq_comm]
    rfl
  | waitingMessage buf header =>
    rw [state] at kept
    obtain ⟨unrecorded, nothing, rfl, _⟩ := kept
    rw [unrecorded, nothing, wire_none, eq_comm]
    rfl
  | sendingMessage buf header chunk =>
    rw [state] at kept
    have held := kept.1.held
    have long := kept.1.hello.long
    constructor
    · intro all
      exact absurd all (kept.1.sent_short kept.2).2
    · intro none
      simp only [State.buffered, held] at none
      simp [none] at long
  | sendingRawBuffer buf =>
    rw [state] at kept
    have inside := kept.2
    rw [(kept.1.sent starts).done, State.buffered, kept.1.held]
    constructor
    · intro outside
      omega
    · intro none
      simp [none] at inside
  | sendingData =>
    rw [state] at kept
    exact ⟨fun _ => rfl, fun _ => kept.2 starts⟩

/-- `poll_shutdown` answers `Ok` only when nothing accepted is left behind. -/
def Run.ShutdownSafe (inner : Inner S) (run : Run S) : Prop :=
  ∀ after, (pollShutdown inner).run run.layer = .ok () after → run.HandedOver

theorem pollShutdown_ok (layer : FragmentLayer S) :
    (∃ after, (pollShutdown inner).run layer = .ok () after) ↔
      (inner.pollShutdown layer.inner).1 = .ready (.ok ()) := by
  have unfolded : (pollShutdown inner).run layer =
      (awaitReady (inner.pollShutdown layer.inner).1).run
        (layer.note (inner.pollShutdown layer.inner).2
          (.shutdown (inner.pollShutdown layer.inner).1)) := rfl
  rw [unfolded]
  rcases inner.pollShutdown layer.inner with ⟨answer, below⟩
  rcases answer with _ | (error | ⟨⟨⟩⟩)
  · simp [awaitReady, EStateM.run_throw]
  · simp [awaitReady, EStateM.run_throw]
  · simp [awaitReady, EStateM.run_pure]

/-- A shutdown passed on at once loses exactly the bytes held back: `poll_shutdown`
releases none of them. -/
theorem shutdownSafe_iff (bounded : inner.Bounded) (fuel : Nat) (stream : S)
    (events : List Event) (starts : AllFromStart (run inner fuel stream events).layer.calls) :
    (run inner fuel stream events).ShutdownSafe inner ↔
      ((inner.pollShutdown (run inner fuel stream events).layer.inner).1 = .ready (.ok ()) →
        (run inner fuel stream events).layer.state.buffered = []) := by
  have handed := handedOver_of_kept (run_kept bounded fuel stream events) starts
  rw [← pollShutdown_ok, ← handed]
  constructor
  · rintro safe ⟨after, done⟩
    exact safe after done
  · intro safe after done
    exact safe ⟨after, done⟩

theorem shutdownSafe_hello :
    (run (upTo 64) 20 () [.write [0x16, 3, 1, 0, 2, 1, 9], .flush]).ShutdownSafe (upTo 64) :=
  (shutdownSafe_iff (upTo_bounded 64) 20 () _ (by decide +kernel)).mpr (fun _ => by decide +kernel)

/-- One byte that could open a handshake record, flushed and shut down: it stays behind. -/
theorem shutdown_drops_header :
    ¬ ∀ (S : Type) (inner : Inner S), inner.Bounded → inner.Progressing →
      ∀ fuel stream events, (run inner fuel stream events).ShutdownSafe inner := by
  intro claim
  have handed := claim Unit (upTo 64) (upTo_bounded 64) (upTo_progressing 64 (by decide)) 20 ()
    [.write [0x16], .flush] _ rfl
  exact absurd handed (by unfold Run.HandedOver; decide)

end LocalProxy.Fragment
