import LocalProxy.FragmentDecision

/-! Whether a poll returns. It does, whatever the stream below answers, unless that takes
no byte of a raw buffer: then the poll writes again without an end. -/

namespace LocalProxy.Fragment
open Polling

variable {S : Type} {inner : Inner S}

section Fuel

variable (inner : Inner S)

theorem sendChunk_more (buf : Buffer) (header : Header) (fuel : Nat) (chunk : Buffer) :
    Approximates (sendChunk inner buf header fuel chunk)
      (sendChunk inner buf header (fuel + 1) chunk) := by
  induction fuel generalizing chunk with
  | zero =>
    unfold sendChunk
    exact .branch (fun _ => .exhausted _) (fun _ => .refl _)
  | succ fuel ih =>
    unfold sendChunk
    refine .branch (fun _ => ?_) (fun _ => .refl _)
    refine .bind (.refl _) fun _ => .bind (.refl _) fun send => .bind (.refl _) fun n => ?_
    exact .branch (fun _ => .refl _) (fun _ => .bind (.refl _) fun _ => ih _)

theorem finishChunk_more (fuel : Nat) (buf : Buffer) (header : Header) (chunk : Option Buffer) :
    Approximates (finishChunk inner fuel buf header chunk)
      (finishChunk inner (fuel + 1) buf header chunk) := by
  cases chunk with
  | none => exact .refl _
  | some chunk => exact .bind (sendChunk_more inner buf header fuel chunk) fun _ => .refl _

theorem sendMessage_more (fuel : Nat) (buf : Buffer) (header : Header) (chunk : Option Buffer) :
    Approximates (sendMessage inner fuel buf header chunk)
      (sendMessage inner (fuel + 1) buf header chunk) := by
  induction fuel generalizing buf chunk with
  | zero =>
    unfold sendMessage
    exact .branch (fun _ => .exhausted _) (fun _ => .refl _)
  | succ fuel ih =>
    unfold sendMessage
    refine .branch (fun _ => ?_) (fun _ => .refl _)
    refine .bind (finishChunk_more inner fuel buf header chunk) fun next => ?_
    exact .bind (.refl _) fun built => .bind (.refl _) fun _ => ih next (some built)

theorem sendRawBuffer_more (fuel : Nat) (buf : Buffer) :
    Approximates (sendRawBuffer inner fuel buf) (sendRawBuffer inner (fuel + 1) buf) := by
  induction fuel generalizing buf with
  | zero =>
    unfold sendRawBuffer
    exact .branch (fun _ => .exhausted _) (fun _ => .refl _)
  | succ fuel ih =>
    unfold sendRawBuffer
    refine .branch (fun _ => ?_) (fun _ => .refl _)
    exact .bind (.refl _) fun n => .bind (.refl _) fun _ => ih _

theorem pollFlush_more (fuel : Nat) :
    Approximates (pollFlush inner fuel) (pollFlush inner (fuel + 1)) := by
  refine .bind (.bind (.refl _) fun layer => ?_) fun _ =>
    .bind (.bind (.refl _) fun layer => ?_) fun _ => .refl _
  · cases layer.state with
    | sendingMessage buf header chunk =>
      exact .bind (sendMessage_more inner fuel buf header chunk) fun _ => .refl _
    | _ => exact .refl _
  · cases layer.state with
    | sendingRawBuffer buf => exact .bind (sendRawBuffer_more inner fuel buf) fun _ => .refl _
    | _ => exact .refl _

theorem whenSendingBuffer_more {less more : Task S Unit} (both : Approximates less more) :
    Approximates (whenSendingBuffer less) (whenSendingBuffer more) :=
  .bind (.refl _) fun _ => .branch (fun _ => both) (fun _ => .refl _)

/-- The poll of an event, without what it returns. -/
def Event.poll : Event → Nat → Task S Unit
  | .write bytes, fuel => do
      let _ ← pollWrite inner fuel bytes
      return ()
  | .flush, fuel => pollFlush inner fuel
  | .read expired room, fuel => do
      let _ ← pollRead inner fuel expired room
      return ()

theorem poll_more (event : Event) (fuel : Nat) :
    Approximates (event.poll inner fuel) (event.poll inner (fuel + 1)) := by
  have flush := pollFlush_more inner fuel
  cases event with
  | write bytes =>
    exact .bind (.bind (whenSendingBuffer_more flush) fun _ => .refl _) fun _ => .refl _
  | flush => exact flush
  | read expired room =>
    refine .bind (.bind (.refl _) fun _ => ?_) fun _ => .refl _
    exact .bind (whenSendingBuffer_more flush.dropPending) fun _ => .refl _

end Fuel

/-- No byte taken of a slice, in a state that sends what it holds. -/
def Call.Zero : Call → Prop
  | .write state slice (.ready (.ok 0)) => slice ≠ [] ∧ state.isSendingBuffer = true
  | _ => False

/-- No byte taken of a raw buffer. -/
def Call.Stalls : Call → Prop
  | .write (.sendingRawBuffer _) slice (.ready (.ok 0)) => slice ≠ []
  | _ => False

theorem Call.Stalls.zero {call : Call} (stalls : call.Stalls) : call.Zero := by
  unfold Call.Stalls at stalls
  split at stalls
  · exact ⟨stalls, rfl⟩
  · exact stalls.elim

/-- The calls made since; those without a byte taken are all of a raw buffer. -/
def Quiet (start calls : List Call) : Prop :=
  ∃ made, calls = start ++ made ∧ ∀ call ∈ made, call.Zero → call.Stalls

/-- At an exit that is no error the calls are quiet; at one that is, those before the last
are, and the last is no write of a raw buffer without a byte taken. -/
def QuietExit (start : List Call) (exit : Exit IoError) (layer : FragmentLayer S) : Prop :=
  (∀ error, exit ≠ .failed error) ∧ Quiet start layer.calls ∨
    (∃ error, exit = .failed error) ∧ ∃ before last, layer.calls = before ++ [last] ∧
      Quiet start before ∧ ¬ last.Stalls

variable {start : List Call}

theorem Quiet.noted {calls : List Call} {call : Call} (quiet : Quiet start calls)
    (last : call.Zero → call.Stalls) : Quiet start (calls ++ [call]) := by
  obtain ⟨made, whole, all⟩ := quiet
  refine ⟨made ++ [call], by rw [whole, List.append_assoc], ?_⟩
  intro other member
  rcases List.mem_append.mp member with earlier | same
  · exact all other earlier
  · rw [List.mem_singleton.mp same]
    exact last

theorem quiet_rule (start : List Call) :
    FlushRule (fun layer : FragmentLayer S => Quiet start layer.calls) (QuietExit start) where
  asked := by
    intro layer below call asked answered quiet
    apply quiet.noted
    intro zero
    generalize layer.state = state at asked
    cases asked with
    | flush state answer => exact zero.elim
    | chunk buf header chunk byte answer present =>
      unfold Call.Zero at zero
      split at zero
      next same =>
        cases same
        exact (answered _ (.broken buf header (some chunk) [byte])).elim
      next => exact zero.elim
    | raw buf answer more =>
      unfold Call.Zero at zero
      split at zero
      next same =>
        cases same
        exact zero.1
      next => exact zero.elim
  refused := by
    intro layer below call exit asked refused quiet
    cases refused with
    | flushPending state => exact .inl ⟨by simp, quiet.noted (fun zero => zero.elim)⟩
    | writePending state slice => exact .inl ⟨by simp, quiet.noted (fun zero => zero.elim)⟩
    | flushFailed state error =>
      exact .inr ⟨⟨error, rfl⟩, layer.calls, _, rfl, quiet, fun stalls => stalls.elim⟩
    | writeFailed state slice error =>
      refine .inr ⟨⟨error, rfl⟩, layer.calls, _, rfl, quiet, fun stalls => ?_⟩
      unfold Call.Stalls at stalls
      split at stalls
      next same => cases same
      next => exact stalls.elim
    | broken buf header chunk slice =>
      exact .inr ⟨⟨.brokenPipe, rfl⟩, layer.calls, _, rfl, quiet, fun stalls => stalls.elim⟩
  advanced := fun _ _ _ quiet => quiet
  stopped := fun _ quiet => ⟨.inl ⟨by simp, quiet⟩, .inl ⟨by simp, quiet⟩⟩

/-- A call that is not made to send what the state holds. -/
theorem ask_quiet {α : Type} {question : S → Poll (Except IoError α) × S}
    {call : State → Poll (Except IoError α) → Call} (settled : State → Prop)
    (free : ∀ state answer, settled state → ¬ (call state answer).Zero) :
    Triple (fun layer : FragmentLayer S => Quiet start layer.calls ∧ settled layer.state)
      (ask question call) (fun _ layer => Quiet start layer.calls) (QuietExit start) := by
  apply ask_ends
  · intro layer below value holds _
    exact holds.1.noted fun zero => (free _ _ holds.2 zero).elim
  · intro layer below holds
    exact .inl ⟨by simp, holds.1.noted fun zero => (free _ _ holds.2 zero).elim⟩
  · intro layer below error holds
    exact .inr ⟨⟨error, rfl⟩, layer.calls, _, rfl, holds.1,
      fun stalls => free _ _ holds.2 stalls.zero⟩

theorem poll_quiet (event : Event) (fuel : Nat) :
    Triple (fun layer : FragmentLayer S => Quiet start layer.calls) (event.poll inner fuel)
      (fun _ layer => Quiet start layer.calls) (QuietExit start) := by
  cases event with
  | flush =>
    exact (pollFlush_rule (quiet_rule start) fuel).post (fun _ _ holds => holds.1)
  | write bytes =>
    apply Triple.bind (Q := fun _ layer => Quiet start layer.calls) ?_
      (fun _ => Triple.value _ (fun _ holds => holds))
    apply Triple.bind (whenSendingBuffer_flush (quiet_rule start) fuel)
    intro _
    apply Triple.read
    intro layer both
    apply Triple.branch
    · intro _
      apply (ask_quiet (fun state => state.isSendingBuffer = false) ?_).pre ?_
      · intro state answer settled zero
        unfold Call.Zero at zero
        split at zero
        next same =>
          cases same
          rw [settled] at zero
          cases zero.2
        next => exact zero
      · intro current same
        rw [same]
        exact both
    · intro _
      apply Triple.unwrap_any
      · intro state _
        apply Triple.bind (setState_triple (Q := fun _ layer => Quiet start layer.calls) ?_)
          (fun _ => Triple.value _ (fun _ holds => holds))
        intro current same
        rw [same]
        exact both.1
      · intro current same
        rw [same]
        exact .inl ⟨by simp, both.1⟩
  | read expired room =>
    apply Triple.bind (Q := fun _ layer => Quiet start layer.calls) ?_
      (fun _ => Triple.value _ (fun _ holds => holds))
    apply Triple.bind (Triple.modify (Q := fun _ layer => Quiet start layer.calls) _ ?_)
    · intro _
      apply Triple.bind (whenSendingBuffer_rule (Q := fun _ layer => Quiet start layer.calls)
        (Triple.dropPending ((pollFlush_rule (quiet_rule start) fuel).post
          fun _ _ holds => holds.1) ?_) (fun _ holds _ => holds))
      · intro _
        have free : ∀ (state : State) (answer : Poll (Except IoError (List Byte))), True →
            ¬ (Call.read room answer).Zero := fun _ _ _ zero => zero
        exact (ask_quiet (fun _ => True) free).pre (fun _ holds => ⟨holds, trivial⟩)
      · intro layer left
        rcases left with quiet | failed
        · exact quiet.2
        · obtain ⟨⟨error, same⟩, _⟩ := failed
          cases same
    · intro layer holds
      rw [FragmentLayer.pollTimer_calls]
      exact holds

section Steps

/-- A loop that is not left for want of steps. -/
abbrev Spent (exit : Exit IoError) (_ : FragmentLayer S) : Prop := exit ≠ .outOfFuel

variable {buf : Buffer} {header : Header}

theorem ask_steps {α : Type} {question : S → Poll (Except IoError α) × S}
    {call : State → Poll (Except IoError α) → Call} {P : FragmentLayer S → Prop} :
    Triple P (ask question call) (fun _ _ => True) Spent :=
  ask_ends (fun _ _ _ _ _ => trivial) (fun _ _ _ => by simp [Spent])
    (fun _ _ _ _ => by simp [Spent])

/-- Every byte of a chunk that is written moves its cursor, or ends the poll. -/
theorem sendChunk_steps (fuel : Nat) (chunk : Buffer)
    (enough : chunk.inner.length ≤ chunk.ptr + fuel) :
    Triple (fun _ : FragmentLayer S => True) (sendChunk inner buf header fuel chunk)
      (fun sent _ => sent.inner = chunk.inner) Spent := by
  induction fuel generalizing chunk with
  | zero =>
    unfold sendChunk
    apply Triple.branch
    · intro more
      omega
    · exact fun _ => Triple.value _ (fun _ _ => rfl)
  | succ fuel ih =>
    unfold sendChunk
    apply Triple.branch
    · intro more
      apply Triple.bind ask_steps
      intro _
      apply Triple.unwrap_any
      · intro send _
        apply Triple.bind ask_steps
        intro n
        apply Triple.branch
        · exact fun _ => Triple.leave _ (fun _ _ => by simp [Spent])
        · intro positive
          apply Triple.bind (setState_triple (Q := fun _ _ => True) (fun _ _ => trivial))
          exact fun _ => ih { chunk with ptr := chunk.ptr + n } (by simp only; omega)
      · exact fun _ _ => by simp [Spent]
    · exact fun _ => Triple.value _ (fun _ _ => rfl)

/-- A chunk before the end of the message has one byte of payload. -/
def OneByte (buf : Buffer) (header : Header) (chunk : Option Buffer) : Prop :=
  ∀ current, chunk = some current → buf.ptr < header.len → current.inner.length = 6

theorem nextChunk_oneByte {chunk : Buffer} (built : nextChunk buf header = some chunk) :
    OneByte buf header (some chunk) := by
  intro current same inside
  cases same
  by_cases more : buf.ptr < buf.inner.length
  · rw [nextChunk_inside inside (List.getElem?_eq_getElem more)] at built
    cases built
    simp [header.base_length]
  · have missing : sliceOf buf.inner buf.ptr (buf.ptr + 1) = none := by
      rw [sliceOf, if_neg (by omega)]
    have last : ¬ buf.ptr + msgMaxSize > header.len := by rw [msgMaxSize]; omega
    rw [nextChunk, if_neg last, msgMaxSize, missing] at built
    cases built

/-- A chunk that is sent is one byte of the message. -/
theorem finishChunk_steps (inside : buf.ptr < header.len) {chunk : Option Buffer}
    (single : OneByte buf header chunk) (fuel : Nat) (enough : 6 ≤ fuel) :
    Triple (fun _ : FragmentLayer S => True) (finishChunk inner fuel buf header chunk)
      (fun next _ => next.inner = buf.inner ∧ buf.ptr + chunk.toList.length ≤ next.ptr) Spent := by
  cases chunk with
  | none => exact Triple.value _ (fun _ _ => ⟨rfl, le_refl _⟩)
  | some current =>
    have six := single current rfl inside
    apply Triple.bind (sendChunk_steps fuel current (by omega))
    intro sent layer same
    have one : checkedSub sent.inner.length (header.base.length + 2) = some 1 := by
      simp [checkedSub, same, six, header.base_length]
    refine Triple.unwrap_bind (P := fun _ => True) one ?_ layer trivial
    apply Triple.bind (setState_triple (Q := fun _ _ => True) (fun _ _ => trivial))
    exact fun _ => Triple.value _ (fun _ _ => ⟨rfl, le_refl _⟩)

/-- Only the first round of the loop may find no chunk to send. -/
theorem sendMessage_steps (fuel : Nat) (buf : Buffer) (chunk : Option Buffer)
    (single : OneByte buf header chunk)
    (enough : header.len + 7 ≤ buf.ptr + chunk.toList.length + fuel) :
    Triple (fun _ : FragmentLayer S => True) (sendMessage inner fuel buf header chunk)
      (fun final _ => final.inner = buf.inner) Spent := by
  have few : chunk.toList.length ≤ 1 := by cases chunk <;> simp
  induction fuel generalizing buf chunk with
  | zero =>
    unfold sendMessage
    apply Triple.branch
    · intro inside
      omega
    · exact fun _ => Triple.value _ (fun _ _ => rfl)
  | succ fuel ih =>
    unfold sendMessage
    apply Triple.branch
    · intro inside
      apply Triple.bind (finishChunk_steps inside single fuel (by omega))
      intro next
      apply Triple.unwrap_any
      · intro built same layer holds
        obtain ⟨held, moved⟩ := holds
        have left : header.len + 7 ≤ next.ptr + (some built).toList.length + fuel := by
          simp only [Option.toList_some, List.length_singleton]
          omega
        refine Triple.bind (P := fun _ => True) (Q := fun _ _ => True)
          (setState_triple fun _ _ => trivial) ?_ layer trivial
        intro _
        rw [← held]
        exact ih next (some built) (nextChunk_oneByte same) left (by simp)
      · exact fun _ _ => by simp [Spent]
    · exact fun _ => Triple.value _ (fun _ _ => rfl)

/-- The poll has made a call that took no byte of a raw buffer. -/
def Stalled (start calls : List Call) : Prop :=
  ∃ made, calls = start ++ made ∧ ∃ call ∈ made, call.Stalls

/-- The loop over a raw buffer, with its steps counted down unless it has stalled. -/
structure RawSteps (start : List Call) (fuel : Nat) (buf : Buffer) (layer : FragmentLayer S) :
    Prop where
  state : layer.state = .sendingRawBuffer buf
  since : start <+: layer.calls
  enough : buf.inner.length ≤ buf.ptr + fuel ∨ Stalled start layer.calls

/-- A loop that is left for want of steps has stalled. -/
def SpentStalled (start : List Call) (exit : Exit IoError) (layer : FragmentLayer S) : Prop :=
  exit = .outOfFuel → Stalled start layer.calls

theorem rawSteps_moved {start : List Call} {fuel n : Nat} {layer : FragmentLayer S} {below : S}
    (steps : RawSteps start (fuel + 1) buf layer) (more : buf.ptr < buf.inner.length) :
    RawSteps start fuel { buf with ptr := buf.ptr + n }
      { layer.note below (.write layer.state buf.inner (.ready (.ok n))) with
        state := .sendingRawBuffer { buf with ptr := buf.ptr + n } } := by
  obtain ⟨made, whole⟩ := steps.since
  refine ⟨rfl, ⟨made ++ [_], by rw [← List.append_assoc, whole]; rfl⟩, ?_⟩
  rcases steps.enough with enough | stalled
  · by_cases zero : n = 0
    · right
      refine ⟨made ++ [_], by rw [← List.append_assoc, whole]; rfl, _, List.mem_concat_self, ?_⟩
      rw [steps.state, zero]
      show buf.inner ≠ []
      exact List.ne_nil_of_length_pos (by omega)
    · left
      show buf.inner.length ≤ buf.ptr + n + fuel
      omega
  · obtain ⟨made, same, call, member, stalls⟩ := stalled
    right
    exact ⟨made ++ [_], by rw [← List.append_assoc, ← same]; rfl, call,
      List.mem_append_left _ member, stalls⟩

theorem sendRawBuffer_steps (start : List Call) (fuel : Nat) (buf : Buffer) :
    Triple (RawSteps (S := S) start fuel buf) (sendRawBuffer inner fuel buf)
      (fun _ _ => True) (SpentStalled start) := by
  induction fuel generalizing buf with
  | zero =>
    unfold sendRawBuffer
    apply Triple.branch
    · intro more
      apply Triple.leave
      intro layer steps _
      rcases steps.enough with enough | stalled
      · omega
      · exact stalled
    · exact fun _ => Triple.value _ (fun _ _ => trivial)
  | succ fuel ih =>
    unfold sendRawBuffer
    apply Triple.branch
    · intro more
      apply Triple.bind (Q := fun n layer => RawSteps start fuel { buf with ptr := buf.ptr + n }
        { layer with state := .sendingRawBuffer { buf with ptr := buf.ptr + n } })
      · apply ask_ends
        · intro layer below n steps _
          exact rawSteps_moved steps more
        · intro _ _ _ same
          cases same
        · intro _ _ _ _ same
          cases same
      · intro n
        exact Triple.bind (setState_triple fun _ steps => steps) (fun _ => ih _)
    · exact fun _ => Triple.value _ (fun _ _ => trivial)

/-- The steps that a flush needs, as long as it does not stall. -/
def State.steps : State → Nat
  | .waitingHeader buf | .waitingMessage buf _ | .sendingRawBuffer buf => buf.inner.length
  | .sendingMessage buf header _ => header.len + 7 + buf.inner.length
  | .sendingData => 0

def State.Fits : State → Prop
  | .sendingMessage buf header chunk => OneByte buf header chunk
  | _ => True

/-- The message is through, and the steps are enough for what is left in its buffer. -/
def RawNext (start : List Call) (fuel : Nat) (layer : FragmentLayer S) : Prop :=
  start <+: layer.calls ∧ ∀ buf, layer.state = .sendingRawBuffer buf → buf.inner.length ≤ fuel

/-- The calls of a flush come after those made before. -/
theorem prefix_frame (start : List Call) :
    FlushFrame fun layer : FragmentLayer S => start <+: layer.calls where
  asked := fun _ _ _ _ since => since.trans (List.prefix_append _ _)
  advanced := fun _ _ _ since => since

theorem flushMessage_steps {layer : FragmentLayer S} (fits : layer.state.Fits) {fuel : Nat}
    (enough : layer.state.steps ≤ fuel) :
    Triple (fun current => current = layer) (flushMessage inner fuel)
      (fun _ after => RawNext layer.calls fuel after) Spent := by
  have since : Triple (fun current => current = layer) (flushMessage inner fuel)
      (fun _ after => layer.calls <+: after.calls) (fun _ after => layer.calls <+: after.calls) :=
    (flushMessage_rule (prefix_frame layer.calls).rule fuel).weaken
      (by intro current same; rw [same]) (fun _ _ holds => holds.1) (fun _ _ left => left)
  have bound : Triple (fun current => current = layer) (flushMessage inner fuel)
      (fun _ after => ∀ buf, after.state = .sendingRawBuffer buf → buf.inner.length ≤ fuel)
      Spent := by
    apply Triple.read
    intro current same
    subst same
    cases state : current.state with
    | sendingMessage buf header chunk =>
      rw [state] at fits enough
      have enough : header.len + 7 + buf.inner.length ≤ fuel := enough
      apply Triple.bind ((sendMessage_steps fuel buf chunk fits (by omega)).pre
        (fun _ _ => trivial))
      intro final
      apply setState_triple
      intro after held other same
      cases same
      rw [held]
      omega
    | sendingRawBuffer buf =>
      apply Triple.value
      intro after same other found
      rw [state] at enough
      rw [same, state] at found
      cases found
      exact enough
    | _ =>
      apply Triple.value
      intro after same other found
      rw [same, state] at found
      cases found
  exact (since.and bound).exit (fun _ _ left => left.2)

theorem pollFlush_steps {layer : FragmentLayer S} (fits : layer.state.Fits) {fuel : Nat}
    (enough : layer.state.steps ≤ fuel) :
    Triple (fun current => current = layer) (pollFlush inner fuel) (fun _ _ => True)
      (SpentStalled layer.calls) := by
  apply Triple.bind ((flushMessage_steps fits enough).exit (fun _ _ left same => (left same).elim))
  intro _
  apply Triple.bind (Q := fun _ _ => True)
  · apply Triple.read
    intro after next
    obtain ⟨since, bound⟩ := next
    cases state : after.state with
    | sendingRawBuffer buf =>
      apply Triple.bind ((sendRawBuffer_steps layer.calls fuel buf).pre
        (by
          intro current same
          rw [same]
          have := bound buf state
          exact ⟨state, since, .inl (by omega)⟩))
      exact fun _ => setState_triple fun _ _ => trivial
    | _ => exact Triple.value _ (fun _ _ => trivial)
  · intro _
    exact ask_steps.weaken (fun _ holds => holds) (fun _ _ _ => trivial)
      (fun _ _ left same => (left same).elim)

theorem pollTimer_steps (expired : Bool) (layer : FragmentLayer S) :
    (layer.pollTimer expired).state.steps = layer.state.steps := by
  rw [FragmentLayer.pollTimer_state]
  cases layer.state <;> cases expired <;> rfl

theorem pollTimer_fits (expired : Bool) {layer : FragmentLayer S} (fits : layer.state.Fits) :
    (layer.pollTimer expired).state.Fits := by
  rw [FragmentLayer.pollTimer_state]
  generalize layer.state = state at fits
  cases state <;> cases expired <;> exact fits

/-- With enough steps only a stall keeps a poll from its end. -/
theorem poll_steps (event : Event) {layer : FragmentLayer S} (fits : layer.state.Fits)
    {fuel : Nat} (enough : layer.state.steps ≤ fuel) :
    Triple (fun current => current = layer) (event.poll inner fuel) (fun _ _ => True)
      (SpentStalled layer.calls) := by
  have asked : ∀ {α : Type} {question : S → Poll (Except IoError α) × S}
      {call : State → Poll (Except IoError α) → Call} {P : FragmentLayer S → Prop},
      Triple P (ask question call) (fun _ _ => True) (SpentStalled layer.calls) :=
    ask_steps.weaken (fun _ holds => holds) (fun _ _ _ => trivial)
      (fun _ _ left same => (left same).elim)
  cases event with
  | flush => exact pollFlush_steps fits enough
  | write bytes =>
    apply Triple.bind (Q := fun _ _ => True) ?_ (fun _ => Triple.value _ (fun _ _ => trivial))
    apply Triple.bind (whenSendingBuffer_rule (pollFlush_steps fits enough)
      (fun _ _ _ => trivial))
    intro _
    apply Triple.read
    intro current _
    apply Triple.branch
    · exact fun _ => asked
    · intro _
      apply Triple.unwrap_any
      · intro state _
        apply Triple.bind (setState_triple (Q := fun _ _ => True) (fun _ _ => trivial))
        exact fun _ => Triple.value _ (fun _ _ => trivial)
      · intro _ _ same
        cases same
  | read expired room =>
    apply Triple.bind (Q := fun _ _ => True) ?_ (fun _ => Triple.value _ (fun _ _ => trivial))
    apply Triple.bind (Triple.modify (Q := fun _ current => current = layer.pollTimer expired) _
      (by intro current same; rw [same]))
    intro _
    have enough : (layer.pollTimer expired).state.steps ≤ fuel := by
      rw [pollTimer_steps]
      exact enough
    have flush : Triple _ (pollFlush inner fuel) _ _ :=
      pollFlush_steps (pollTimer_fits expired fits) enough
    rw [FragmentLayer.pollTimer_calls] at flush
    apply Triple.bind (whenSendingBuffer_rule (Triple.dropPending flush (fun _ _ => trivial))
      (fun _ _ _ => trivial))
    exact fun _ => asked

/-- Every reachable layer has whole chunks only. -/
theorem run_fits (bounded : inner.Bounded) (fuel : Nat) (stream : S) (events : List Event) :
    (run inner fuel stream events).layer.state.Fits := by
  have kept := run_kept bounded fuel stream events
  generalize run inner fuel stream events = now at kept
  unfold RunKept Kept at kept
  cases state : now.layer.state with
  | sendingMessage buf header chunk =>
    rw [state] at kept
    intro current same inside
    subst same
    obtain ⟨byte, present⟩ := kept.1.present inside
    rw [kept.1.chunk_inner inside present]
    simp [header.base_length]
  | _ => trivial

end Steps

/-- The layer that a poll leaves behind, however it ends. -/
def remains {α : Type} : EStateM.Result (Exit IoError) (FragmentLayer S) α → FragmentLayer S
  | .ok _ after | .error _ after => after

/-- A poll ends after finitely many calls, the last of them at the first answer of no byte
to a write of what the state holds, with an error. -/
structure Returns (poll : Nat → Task S Unit) (layer : FragmentLayer S) : Prop where
  finite : ∃ enough, ¬ Exhausted (poll enough) layer ∧
    ∀ fuel, enough ≤ fuel → (poll fuel).run layer = (poll enough).run layer
  stopped : ∀ fuel earlier call later,
    (remains ((poll fuel).run layer)).calls = layer.calls ++ earlier ++ call :: later →
    call.Zero → later = [] ∧ ∃ error after, (poll fuel).run layer = .error (.failed error) after

/-- No write of a raw buffer made in the poll is answered with no byte. -/
def Unstalled (poll : Nat → Task S Unit) (layer : FragmentLayer S) : Prop :=
  ∀ fuel made, (remains ((poll fuel).run layer)).calls = layer.calls ++ made →
    ∀ call ∈ made, ¬ call.Stalls

theorem Quiet.zero {calls earlier later : List Call} {call : Call} (quiet : Quiet start calls)
    (split : calls = start ++ earlier ++ call :: later) (zero : call.Zero) : call.Stalls := by
  obtain ⟨made, whole, all⟩ := quiet
  rw [whole, List.append_assoc] at split
  rw [List.append_cancel_left split] at all
  exact all call (by simp) zero

/-- No call before a failed one is a write of a raw buffer without a byte taken, unless it
is known to stall. -/
theorem returns_unstalled (event : Event) {layer : FragmentLayer S}
    (returns : Returns (event.poll inner) layer) : Unstalled (event.poll inner) layer := by
  intro fuel made whole call member stalls
  obtain ⟨earlier, later, split⟩ := List.append_of_mem member
  rw [split, ← List.append_assoc] at whole
  obtain ⟨last, error, after, failed⟩ := returns.stopped fuel earlier call later whole stalls.zero
  have quiet : Triple (fun current : FragmentLayer S => Quiet layer.calls current.calls)
      (event.poll inner fuel) _ (QuietExit layer.calls) := poll_quiet event fuel
  have ends := quiet layer ⟨[], by simp, by simp⟩
  rw [failed] at ends whole
  rcases ends with unfailed | failing
  · exact unfailed.1 error rfl
  · obtain ⟨_, before, final, same, _, unstalled⟩ := failing
    have whole : after.calls = layer.calls ++ earlier ++ call :: later := whole
    rw [whole, last] at same
    rw [List.cons.inj (List.append_inj' same rfl).2 |>.1] at stalls
    exact unstalled stalls

theorem unstalled_stopped (event : Event) {layer : FragmentLayer S}
    (unstalled : Unstalled (event.poll inner) layer) (fuel : Nat) {earlier later : List Call}
    {call : Call} (split : (remains ((event.poll inner fuel).run layer)).calls =
      layer.calls ++ earlier ++ call :: later) (zero : call.Zero) :
    later = [] ∧ ∃ error after,
      (event.poll inner fuel).run layer = .error (.failed error) after := by
  have none_stalls := unstalled fuel (earlier ++ call :: later) (by rw [split, List.append_assoc])
  have calm : ¬ call.Stalls := none_stalls call (by simp)
  have quiet : Triple (fun current : FragmentLayer S => Quiet layer.calls current.calls)
      (event.poll inner fuel) _ (QuietExit layer.calls) := poll_quiet event fuel
  have ends := quiet layer ⟨[], by simp, by simp⟩
  cases result : (event.poll inner fuel).run layer with
  | ok value after =>
    rw [result] at ends split
    exact (calm (ends.zero split zero)).elim
  | error exit after =>
    rw [result] at ends split
    rcases ends with unfailed | failing
    · exact (calm (unfailed.2.zero split zero)).elim
    · obtain ⟨⟨error, same⟩, before, last, concat, quiet, _⟩ := failing
      refine ⟨?_, error, after, by rw [same]⟩
      have split : after.calls = layer.calls ++ earlier ++ call :: later := split
      rcases List.eq_nil_or_concat later with empty | ⟨rest, final, more⟩
      · exact empty
      · rw [concat, more, List.concat_eq_append, ← List.cons_append, ← List.append_assoc] at split
        exact (calm (quiet.zero (List.append_inj' split rfl).1 zero)).elim

theorem unstalled_finite (event : Event) {layer : FragmentLayer S} (fits : layer.state.Fits)
    (unstalled : Unstalled (event.poll inner) layer) :
    ∃ enough, ¬ Exhausted (event.poll inner enough) layer ∧
      ∀ fuel, enough ≤ fuel →
        (event.poll inner fuel).run layer = (event.poll inner enough).run layer := by
  have finished : ¬ Exhausted (event.poll inner layer.state.steps) layer := by
    intro spent
    obtain ⟨after, same⟩ := spent
    have bounded : Triple (fun current => current = layer)
        (event.poll inner layer.state.steps) _ (SpentStalled layer.calls) :=
      poll_steps event fits (le_refl _)
    have ends := bounded layer rfl
    rw [same] at ends
    obtain ⟨made, whole, call, member, stalls⟩ := ends rfl
    exact unstalled layer.state.steps made (by rw [same]; exact whole) call member stalls
  exact ⟨layer.state.steps, finished, fun fuel least =>
    Approximates.stays (poll_more inner event) finished least⟩

/-- Every poll of a reachable layer returns exactly if it does not stall: the loop over a
raw buffer is the only one that goes on when the stream below takes nothing. -/
theorem poll_returns (bounded : inner.Bounded) (fuel : Nat) (stream : S) (events : List Event)
    (event : Event) :
    Returns (event.poll inner) (run inner fuel stream events).layer ↔
      Unstalled (event.poll inner) (run inner fuel stream events).layer := by
  constructor
  · exact returns_unstalled event
  · intro unstalled
    exact ⟨unstalled_finite event (run_fits bounded fuel stream events) unstalled,
      fun fuel _ _ _ split => unstalled_stopped event unstalled fuel split⟩

/-- A flush of foreign bytes over a stream that takes all it is given. -/
theorem poll_returns_foreign :
    Returns (Event.flush.poll (upTo 64)) (run (upTo 64) 20 () [.write [0x17]]).layer ↔
      Unstalled (Event.flush.poll (upTo 64)) (run (upTo 64) 20 () [.write [0x17]]).layer :=
  poll_returns (upTo_bounded 64) 20 () [.write [0x17]] .flush

/-- Over a stream that takes nothing, any number of steps is spent. -/
theorem sendRawBuffer_spent (fuel : Nat) (layer : FragmentLayer Unit) :
    Exhausted (sendRawBuffer (upTo 0) fuel ⟨[0x17], 0⟩) layer := by
  induction fuel generalizing layer with
  | zero => exact ⟨layer, rfl⟩
  | succ fuel ih =>
    exact ih { layer.note () (.write layer.state [0x17] (.ready (.ok 0))) with
      state := .sendingRawBuffer ⟨[0x17], 0⟩ }

/-- One byte of other traffic, below it a stream that answers each write with zero bytes:
the flush never ends. -/
theorem raw_buffer_spins :
    ¬ ∀ (S : Type) (inner : Inner S), inner.Bounded → ∀ fuel stream events (event : Event),
      Returns (event.poll inner) (run inner fuel stream events).layer := by
  intro claim
  have returns := claim Unit (upTo 0) (upTo_bounded 0) 20 () [.write [0x17]] .flush
  obtain ⟨enough, finished, _⟩ := returns.finite
  apply finished
  obtain ⟨after, spent⟩ := sendRawBuffer_spent enough
    (run (upTo 0) 20 () [.write [0x17]]).layer
  have started : (run (upTo 0) 20 () [.write [0x17]]).layer =
      ⟨(), .sendingRawBuffer ⟨[0x17], 0⟩, none, []⟩ := by rfl
  refine ⟨after, ?_⟩
  rw [started] at spent ⊢
  have flush : (sendRawBuffer (upTo 0) enough ⟨[0x17], 0⟩ >>= fun _ => setState .sendingData).run
      ⟨(), .sendingRawBuffer ⟨[0x17], 0⟩, none, []⟩ = .error .outOfFuel after := by
    rw [EStateM.run_bind, spent]
  show ((sendRawBuffer (upTo 0) enough ⟨[0x17], 0⟩ >>= fun _ => setState .sendingData) >>= fun _ =>
    innerFlush (upTo 0)).run _ = _
  rw [EStateM.run_bind, flush]

end LocalProxy.Fragment
