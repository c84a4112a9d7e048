import LocalProxy.FragmentDelivery

/-! A ClientHello that is written as one record, before the layer has given up waiting
for it, reaches the stream below only as records of one payload byte. -/

namespace LocalProxy.Fragment
open Polling

variable {S : Type} {inner : Inner S}

/-- One complete handshake record that holds a ClientHello. -/
structure ClientHello (record : List Byte) : Prop where
  handshake : record[0]? = some 0x16
  clientHello : record[5]? = some 0x01
  declared : (Header.new record).map Header.len = some record.length
  long : 7 ≤ record.length

instance (record : List Byte) : Decidable (ClientHello record) :=
  decidable_of_iff (record[0]? = some 0x16 ∧ record[5]? = some 0x01 ∧
      (Header.new record).map Header.len = some record.length ∧ 7 ≤ record.length)
    ⟨fun ⟨a, b, c, d⟩ => ⟨a, b, c, d⟩, fun ⟨a, b, c, d⟩ => ⟨a, b, c, d⟩⟩

/-- Nothing is written yet, and no read finds the timer over. -/
def Event.Idle : Event → Prop
  | .write bytes => bytes = []
  | .flush => True
  | .read expired _ => expired = false

instance : DecidablePred Event.Idle
  | .write bytes => inferInstanceAs (Decidable (bytes = []))
  | .flush => isTrue trivial
  | .read expired _ => inferInstanceAs (Decidable (expired = false))

/-- The fragments of the record, as the stream below is to see them. -/
def helloFragments (record : List Byte) : List Byte := fragments (record.take 3) (record.drop 5)

/-- Every write is of a single byte, until all the fragments are through. -/
def Guarded (due : List Byte) (calls : List Call) : Prop :=
  ∀ earlier state slice answer later, calls = earlier ++ .write state slice answer :: later →
    slice.length = 1 ∨ due <+: acknowledged earlier

theorem Guarded.append {due : List Byte} {calls : List Call} {call : Call}
    (guarded : Guarded due calls)
    (last : ∀ state slice answer, call = .write state slice answer →
      slice.length = 1 ∨ due <+: acknowledged calls) : Guarded due (calls ++ [call]) := by
  intro earlier state slice answer later same
  rcases split_concat same with ⟨front, found⟩ | ⟨rest, before⟩
  · rw [front]
    exact last state slice answer found.symm
  · exact guarded earlier state slice answer rest before

/-- No part of a buffer was ever written on the raw path. -/
def NoRawWrite (calls : List Call) : Prop :=
  ∀ buf slice answer, .write (.sendingRawBuffer buf) slice answer ∉ calls

theorem NoRawWrite.append {calls : List Call} {call : Call} (none : NoRawWrite calls)
    (other : ∀ buf slice answer, call ≠ .write (.sendingRawBuffer buf) slice answer) :
    NoRawWrite (calls ++ [call]) := by
  intro buf slice answer member
  rcases List.mem_append.mp member with earlier | last
  · exact none buf slice answer earlier
  · exact other buf slice answer (List.mem_singleton.mp last).symm

def Shielded (due : List Byte) (calls : List Call) : Prop := Guarded due calls ∧ NoRawWrite calls

theorem Shielded.append {due : List Byte} {calls : List Call} {call : Call}
    (shielded : Shielded due calls) (quiet : ∀ state slice answer, call ≠ .write state slice answer) :
    Shielded due (calls ++ [call]) :=
  ⟨shielded.1.append (fun state slice answer same => (quiet state slice answer same).elim),
    shielded.2.append (fun _ slice answer => quiet _ slice answer)⟩

theorem shielded_frame (due : List Byte) : MessageFrame (Shielded due) where
  flushed := by
    intro calls buf header chunk answer shielded
    exact shielded.append (by simp)
  written := by
    intro calls buf header chunk byte answer shielded
    have flushed : Shielded due
        (calls ++ [.flush (.sendingMessage buf header (some chunk)) (.ready (.ok ()))]) :=
      shielded.append (by simp)
    refine ⟨flushed.1.append ?_, flushed.2.append (by simp)⟩
    intro state slice answer same
    cases same
    exact .inl rfl

variable {record accepted : List Byte}

/-- The message is being sent, and nothing was accepted after it. -/
def Fragmenting (record accepted : List Byte) (layer : FragmentLayer S) : Prop :=
  accepted = record ∧ ∃ header, header.len = record.length ∧
    Resumable record (some record.length) (Shielded (helloFragments record)) header layer

/-- The message is through, and so is all that was accepted after it. -/
structure Passed (record accepted : List Byte) (layer : FragmentLayer S) : Prop where
  state : layer.state = .sendingData
  shielded : Shielded (helloFragments record) layer.calls
  initial : record <+: accepted
  sent : acknowledged layer.calls = helloFragments record ++ accepted.drop record.length

def Underway (record accepted : List Byte) (layer : FragmentLayer S) : Prop :=
  Fragmenting record accepted layer ∨ Passed record accepted layer

theorem sentUpTo_whole {header : Header} (hello : Hello record header)
    (len : header.len = record.length) : sentUpTo record header header.len = helloFragments record := by
  have base := (Header.new_eq_some hello.parsed).1
  rw [sentUpTo, base, len, List.take_length, helloFragments]

theorem Passed.noted {layer : FragmentLayer S} {below : S} {call : Call}
    (passed : Passed record accepted layer)
    (quiet : ∀ state slice answer, call ≠ .write state slice answer) :
    Passed record accepted (layer.note below call) := by
  have nothing : call.taken = [] := by
    cases call with
    | write state slice answer => exact (quiet state slice answer rfl).elim
    | read room answer => rfl
    | flush state answer => rfl
    | shutdown answer => rfl
  refine ⟨passed.state, passed.shielded.append quiet, passed.initial, ?_⟩
  rw [FragmentLayer.note_calls, acknowledged_append, acknowledged_single, nothing, List.append_nil]
  exact passed.sent

theorem Fragmenting.noted {layer : FragmentLayer S} {below : S} {call : Call}
    (fragmenting : Fragmenting record accepted layer)
    (quiet : ∀ state slice answer, call ≠ .write state slice answer) :
    Fragmenting record accepted (layer.note below call) := by
  obtain ⟨same, header, len, buf, chunk, message, unfinished⟩ := fragmenting
  have nothing : call.taken = [] := by
    cases call with
    | write state slice answer => exact (quiet state slice answer rfl).elim
    | read room answer => rfl
    | flush state answer => rfl
    | shutdown answer => rfl
  refine ⟨same, header, len, buf, chunk, ⟨message.state, ?_, message.framed.append quiet⟩, unfinished⟩
  rw [FragmentLayer.note_calls, acknowledged_append, acknowledged_single, nothing, List.append_nil]
  exact message.sending

/-- The raw path behind a message that nothing follows has no bytes to send. -/
theorem flush_underway (bounded : inner.Bounded) (fuel : Nat) :
    Triple (Underway record accepted) (pollFlush inner fuel)
      (fun _ layer => Passed record accepted layer)
      (fun _ layer => Underway record accepted layer) := by
  apply Triple.bind (Q := fun _ layer =>
    (∃ buf, layer.state = .sendingRawBuffer buf ∧ buf.inner.length ≤ buf.ptr ∧
      Passed record accepted { layer with state := .sendingData }) ∨ Passed record accepted layer)
  · apply Triple.read
    intro layer underway
    rcases underway with ⟨rfl, header, len, buf, chunk, message, unfinished⟩ | passed
    · rw [message.state]
      apply Triple.bind ((sendMessage_triple bounded (shielded_frame _) fuel buf chunk).weaken
        (R := fun current => current = layer)
        (by intro current same; subst same; exact ⟨message, fun c same => (unfinished c same).2⟩)
        (fun _ _ holds => holds)
        (fun _ _ holds => .inl ⟨rfl, header, len, holds.2⟩))
      intro final
      apply setState_triple
      intro after holds
      obtain ⟨finished, between⟩ := holds
      refine .inl ⟨final, rfl, ?_, rfl, between.framed, List.prefix_refl _, ?_⟩
      · rw [between.held, finished, len]
      · simp only [List.drop_length, List.append_nil]
        rw [between.sent, finished, sentUpTo_whole between.hello len]
    · rw [passed.state]
      apply Triple.value
      intro current same
      subst same
      exact .inr passed
  intro _
  apply Triple.bind (Q := fun _ layer => Passed record accepted layer)
  · apply Triple.read
    intro layer holds
    rcases holds with ⟨buf, state, done, passed⟩ | passed
    · rw [state]
      have empty : sendRawBuffer inner fuel buf = pure () := by
        unfold sendRawBuffer
        rw [if_neg (by omega)]
      simp only [empty]
      apply Triple.bind (Triple.value (Q := fun _ current => current = layer) _ (fun _ same => same))
      intro _
      apply setState_triple
      intro current same
      subst same
      exact passed
    · rw [passed.state]
      apply Triple.value
      intro current same
      subst same
      exact passed
  intro _
  apply innerFlush_triple
  · intro layer below passed
    exact passed.noted (by simp)
  · intro layer below answer exit passed _
    exact .inr (passed.noted (by simp))

theorem Underway.state {layer : FragmentLayer S} (underway : Underway record accepted layer) :
    layer.state.isWaiting = false := by
  rcases underway with ⟨_, header, _, buf, chunk, message, _⟩ | passed
  · rw [message.state]; rfl
  · rw [passed.state]; rfl

theorem Fragmenting.sendingBuffer {layer : FragmentLayer S}
    (fragmenting : Fragmenting record accepted layer) : layer.state.isSendingBuffer = true := by
  obtain ⟨_, header, _, buf, chunk, message, _⟩ := fragmenting
  rw [message.state]
  rfl

theorem whenSendingBuffer_underway {task : Task S Unit} {Q : Unit → FragmentLayer S → Prop}
    (body : Triple (Underway record accepted) task Q
      (fun _ layer => Underway record accepted layer))
    (other : ∀ layer, Passed record accepted layer → Q () layer) :
    Triple (Underway record accepted) (whenSendingBuffer task) Q
      (fun _ layer => Underway record accepted layer) := by
  apply whenSendingBuffer_rule body
  intro layer underway settled
  rcases underway with fragmenting | passed
  · rw [fragmenting.sendingBuffer] at settled
    cases settled
  · exact other layer passed

theorem write_underway (bounded : inner.Bounded) (fuel : Nat) (bytes : List Byte) :
    Triple (Underway record accepted) (pollWrite inner fuel bytes)
      (fun n layer => Passed record (accepted ++ bytes.take n) layer)
      (fun _ layer => Underway record accepted layer) := by
  apply Triple.bind (whenSendingBuffer_underway (flush_underway bounded fuel)
    (fun _ passed => passed))
  intro _
  apply Triple.read
  intro layer passed
  apply Triple.branch
  · intro _
    apply innerWrite_triple bounded
    · intro current below n same few
      subst same
      refine ⟨passed.state, ⟨passed.shielded.1.append ?_, passed.shielded.2.append ?_⟩,
        passed.initial.trans (List.prefix_append _ _), ?_⟩
      · intro state slice answer _
        right
        rw [passed.sent]
        exact List.prefix_append _ _
      · rw [passed.state]
        simp
      · rw [FragmentLayer.note_calls, acknowledged_append, acknowledged_single, passed.sent,
          List.drop_append_of_le_length passed.initial.length_le, List.append_assoc]
        rfl
    · intro current below answer exit same other _
      subst same
      refine .inr ⟨passed.state, ⟨passed.shielded.1.append ?_, passed.shielded.2.append ?_⟩,
        passed.initial, ?_⟩
      · intro state slice answer _
        right
        rw [passed.sent]
        exact List.prefix_append _ _
      · rw [passed.state]
        simp
      · rw [FragmentLayer.note_calls, acknowledged_append, acknowledged_single, write_refused _ _ other,
          List.append_nil]
        exact passed.sent
  · intro unended
    rw [passed.state] at unended
    exact (unended rfl).elim

theorem Underway.congr {layer other : FragmentLayer S} (underway : Underway record accepted layer)
    (state : other.state = layer.state) (calls : other.calls = layer.calls) :
    Underway record accepted other := by
  rcases underway with ⟨same, header, len, buf, chunk, message, unfinished⟩ | passed
  · exact .inl ⟨same, header, len, buf, chunk, ⟨state.trans message.state,
      calls ▸ message.sending, calls ▸ message.framed⟩, unfinished⟩
  · exact .inr ⟨state.trans passed.state, calls ▸ passed.shielded, passed.initial,
      calls ▸ passed.sent⟩

theorem Underway.noted {layer : FragmentLayer S} {below : S} {call : Call}
    (underway : Underway record accepted layer)
    (quiet : ∀ state slice answer, call ≠ .write state slice answer) :
    Underway record accepted (layer.note below call) := by
  rcases underway with fragmenting | passed
  · exact .inl (fragmenting.noted quiet)
  · exact .inr (passed.noted quiet)

theorem tryIntoRawSend_settled {state : State} (settled : state.isWaiting = false) :
    state.tryIntoRawSend.2 = state := by
  cases state with
  | waitingHeader buf => cases settled
  | waitingMessage buf header => cases settled
  | sendingMessage buf header chunk => rfl
  | sendingRawBuffer buf => rfl
  | sendingData => rfl

/-- The timer has no say any more once a message is being sent. -/
theorem read_underway (bounded : inner.Bounded) (fuel : Nat) (expired : Bool) (room : Nat) :
    Triple (Underway record accepted) (pollRead inner fuel expired room)
      (fun _ layer => Underway record accepted layer)
      (fun _ layer => Underway record accepted layer) := by
  apply Triple.bind (Triple.modify (Q := fun _ => Underway record accepted) _ ?_)
  · intro _
    apply Triple.bind (Q := fun _ layer => Underway record accepted layer)
    · refine whenSendingBuffer_underway ?_ (fun _ passed => .inr passed)
      exact Triple.dropPending ((flush_underway bounded fuel).post fun _ _ passed => .inr passed)
        (fun _ holds => holds)
    · intro _
      exact ask_triple (fun _ _ _ underway _ => underway.noted (by simp))
        (fun _ _ _ _ underway _ _ => underway.noted (by simp))
  · intro layer underway
    apply underway.congr
    · rw [FragmentLayer.pollTimer_state, tryIntoRawSend_settled underway.state]
      split_ifs <;> rfl
    · exact FragmentLayer.pollTimer_calls expired layer

def RunUnderway (record : List Byte) (run : Run S) : Prop :=
  Underway record run.accepted run.layer

theorem step_underway (bounded : inner.Bounded) (fuel : Nat) (run : Run S) (event : Event)
    (underway : RunUnderway record run) : RunUnderway record (step inner fuel run event) := by
  have unchanged : ∀ layer, Underway record run.accepted layer →
      RunUnderway record (run.settle layer []) := by
    intro layer still
    simpa only [RunUnderway, Run.settle, List.append_nil] using still
  cases event with
  | write bytes =>
    exact step_write (write_underway bounded fuel bytes) underway (fun _ _ passed => .inr passed)
      (fun _ => unchanged)
  | flush =>
    exact step_flush (flush_underway bounded fuel) underway
      (fun _ layer passed => unchanged layer (.inr passed)) (fun _ => unchanged)
  | read expired room =>
    exact step_read (read_underway bounded fuel expired room) underway (fun _ => unchanged)
      (fun _ => unchanged)

theorem runFrom_underway (bounded : inner.Bounded) (fuel : Nat) (events : List Event) (run : Run S)
    (underway : RunUnderway record run) : RunUnderway record (runFrom inner fuel run events) := by
  induction events generalizing run with
  | nil => exact underway
  | cons event rest ih => exact ih _ (step_underway bounded fuel run event underway)

/-- Nothing is written yet, neither to the layer nor by it. -/
structure Untouched (layer : FragmentLayer S) : Prop where
  state : layer.state = .waitingHeader .new
  quiet : ∀ state slice answer, .write state slice answer ∉ layer.calls

theorem Untouched.noted {layer : FragmentLayer S} {below : S} {call : Call}
    (untouched : Untouched layer) (quiet : ∀ state slice answer, call ≠ .write state slice answer) :
    Untouched (layer.note below call) := by
  refine ⟨untouched.state, fun state slice answer member => ?_⟩
  rcases List.mem_append.mp member with earlier | last
  · exact untouched.quiet state slice answer earlier
  · exact quiet state slice answer (List.mem_singleton.mp last).symm

theorem ask_untouched {α : Type} {question : S → Poll (Except IoError α) × S}
    {call : State → Poll (Except IoError α) → Call}
    (quiet : ∀ state answer other slice reply, call state answer ≠ .write other slice reply) :
    Triple (Untouched (S := S)) (ask question call) (fun _ => Untouched) (fun _ => Untouched) :=
  ask_triple (fun _ _ _ untouched _ => untouched.noted (quiet _ _))
    (fun _ _ _ _ untouched _ _ => untouched.noted (quiet _ _))

/-- A layer that waits has nothing to flush. -/
theorem flush_untouched (inner : Inner S) (fuel : Nat) :
    Triple (Untouched (S := S)) (pollFlush inner fuel) (fun _ => Untouched) (fun _ => Untouched) := by
  have idle : Triple (Untouched (S := S)) (flushMessage inner fuel) (fun _ => Untouched)
      (fun _ => Untouched) := by
    apply Triple.read
    intro layer untouched
    rw [untouched.state]
    apply Triple.value
    intro current same
    subst same
    exact untouched
  have idleRaw : Triple (Untouched (S := S)) (flushRawBuffer inner fuel) (fun _ => Untouched)
      (fun _ => Untouched) := by
    apply Triple.read
    intro layer untouched
    rw [untouched.state]
    apply Triple.value
    intro current same
    subst same
    exact untouched
  exact Triple.bind idle fun _ => Triple.bind idleRaw fun _ => ask_untouched (by simp)

theorem whenSendingBuffer_untouched (task : Task S Unit)
    {E : Exit IoError → FragmentLayer S → Prop} :
    Triple Untouched (whenSendingBuffer task) (fun _ => Untouched) E := by
  apply Triple.read
  intro layer untouched
  rw [untouched.state]
  apply Triple.value
  intro current same
  subst same
  exact untouched

theorem write_untouched (inner : Inner S) (fuel : Nat) (bytes : List Byte) {next : State}
    (received : receive (.waitingHeader .new) bytes = some next) :
    Triple (Untouched (S := S)) (pollWrite inner fuel bytes)
      (fun n layer => n = bytes.length ∧ ∃ before, Untouched before ∧
        layer = { before with state := next }) (fun _ _ => False) := by
  intro layer untouched
  have wrote : (pollWrite inner fuel bytes).run layer =
      .ok bytes.length { layer with state := next } := by
    apply pollWrite_waiting inner fuel
    · rw [untouched.state]
      rfl
    · rw [untouched.state]
      exact received
  rw [wrote]
  exact ⟨rfl, layer, untouched, rfl⟩

theorem read_untouched (inner : Inner S) (fuel room : Nat) :
    Triple (Untouched (S := S)) (pollRead inner fuel false room) (fun _ => Untouched)
      (fun _ => Untouched) := by
  apply Triple.bind (Triple.modify (Q := fun _ => Untouched) _ ?_)
  · intro _
    exact Triple.bind (whenSendingBuffer_untouched _) fun _ => ask_untouched (by simp)
  · intro layer untouched
    refine ⟨?_, ?_⟩
    · rw [FragmentLayer.pollTimer_state]
      exact untouched.state
    · rw [FragmentLayer.pollTimer_calls]
      exact untouched.quiet

def RunUntouched (run : Run S) : Prop :=
  Untouched run.layer ∧ run.accepted = [] ∧ run.record = none

theorem RunUntouched.settle {run : Run S} {layer : FragmentLayer S}
    (before : RunUntouched run) (untouched : Untouched layer) :
    RunUntouched (run.settle layer []) := by
  refine ⟨untouched, by simp [Run.settle, before.2.1], ?_⟩
  simp only [Run.settle, untouched.state, before.2.2]
  rfl

theorem step_untouched (fuel : Nat) (run : Run S) (event : Event) (idle : event.Idle)
    (untouched : RunUntouched run) : RunUntouched (step inner fuel run event) := by
  cases event with
  | write bytes =>
    have empty : bytes = [] := idle
    subst empty
    apply step_write (write_untouched inner fuel []
      (rfl : receive (.waitingHeader .new) [] = some (.waitingHeader .new))) untouched.1
    · intro n layer holds
      obtain ⟨_, before, holds, same⟩ := holds
      rw [List.take_nil]
      exact untouched.settle (same ▸ ⟨rfl, holds.quiet⟩)
    · intro _ _ impossible
      exact impossible.elim
  | flush =>
    exact step_flush (flush_untouched inner fuel) untouched.1 (fun _ _ holds => untouched.settle holds)
      (fun _ _ holds => untouched.settle holds)
  | read expired room =>
    have early : expired = false := idle
    subst early
    exact step_read (read_untouched inner fuel room) untouched.1
      (fun _ _ holds => untouched.settle holds) (fun _ _ holds => untouched.settle holds)

theorem runFrom_untouched (fuel : Nat) (events : List Event) (run : Run S)
    (idle : ∀ event ∈ events, event.Idle) (untouched : RunUntouched run) :
    RunUntouched (runFrom inner fuel run events) := by
  induction events generalizing run with
  | nil => exact untouched
  | cons event rest ih =>
    exact ih _ (fun other member => idle other (List.mem_cons_of_mem _ member))
      (step_untouched fuel run event (idle event (by simp)) untouched)

/-- The whole record is recognised in the one write that brings it. -/
theorem receive_hello {header : Header} (hello : Hello record header)
    (len : header.len = record.length) :
    receive (.waitingHeader .new) record = some (.sendingMessage ⟨record, 5⟩ header none) := by
  have long := hello.long
  have known : ¬ (record ≠ [] ∧ record[0]? ≠ some 0x16) := fun foreign => foreign.2 hello.handshake
  have sixth : ¬ record[5]? ≠ some 0x01 := fun other => other hello.clientHello
  simp only [receive, receiveHeader, Buffer.new, List.nil_append, if_neg known, if_pos long,
    if_neg sixth, hello.parsed]
  change some (receiveMessage ⟨record, 5⟩ header []) = _
  simp only [receiveMessage, List.append_nil, if_pos (show record.length ≥ header.len by omega)]

theorem Untouched.acknowledged {layer : FragmentLayer S} (untouched : Untouched layer) :
    acknowledged layer.calls = [] := by
  apply List.flatMap_eq_nil_iff.mpr
  intro call member
  cases call with
  | write state slice answer => exact (untouched.quiet state slice answer member).elim
  | read room answer => rfl
  | flush state answer => rfl
  | shutdown answer => rfl

theorem Untouched.shielded {layer : FragmentLayer S} (untouched : Untouched layer)
    (due : List Byte) : Shielded due layer.calls := by
  constructor
  · intro earlier state slice answer later same
    exact (untouched.quiet state slice answer (by rw [same]; simp)).elim
  · intro buf slice answer
    exact untouched.quiet _ slice answer

theorem step_hello (fuel : Nat) (run : Run S) (untouched : RunUntouched run)
    (hello : ClientHello record) :
    RunUnderway record (step inner fuel run (.write record)) := by
  have long := hello.long
  obtain ⟨header, parsed⟩ := Header.new_of_long (show 5 ≤ record.length by omega)
  have opening : Hello record header := ⟨hello.handshake, hello.clientHello, parsed⟩
  have len : header.len = record.length := by
    have declared := hello.declared
    rw [parsed] at declared
    exact Option.some.inj declared
  apply step_write (write_untouched inner fuel record (receive_hello opening len)) untouched.1
  · intro n layer holds
    obtain ⟨whole, before, holds, same⟩ := holds
    subst layer
    refine .inl ⟨?_, header, len, ⟨record, 5⟩, none, ⟨rfl, ?_, holds.shielded _⟩, by simp⟩
    · simp [Run.settle, untouched.2.1, whole]
    · exact ⟨opening, by rw [len], by omega, rfl, Nat.le_refl 5, by simp only; omega,
        fun _ => ⟨rfl, holds.acknowledged⟩, by simp, by simp⟩
  · intro _ _ impossible
    exact impossible.elim

/-- The stream below is sent the payload of the record as records of one byte each,
then what was accepted after it, and before the last of these records no write is of
more than one byte. -/
def Run.Fragmented (record : List Byte) (run : Run S) : Prop :=
  record <+: run.accepted ∧
    acknowledged run.layer.calls <+:
      helloFragments record ++ run.accepted.drop record.length ∧
    Guarded (helloFragments record) run.layer.calls

/-- No ClientHello is sent in one piece if it is written, as one complete record and
before anything else, before a read finds the timer over. -/
theorem clientHello_fragmented (bounded : inner.Bounded) (fuel : Nat) (stream : S)
    (before after : List Event) (record : List Byte) (idle : ∀ event ∈ before, event.Idle)
    (hello : ClientHello record) :
    (run inner fuel stream (before ++ .write record :: after)).Fragmented record := by
  have untouched : RunUntouched (runFrom inner fuel (.start stream) before) :=
    runFrom_untouched fuel before _ idle ⟨⟨rfl, by simp [Run.start, FragmentLayer.new]⟩, rfl, rfl⟩
  have same : run inner fuel stream (before ++ .write record :: after) =
      runFrom inner fuel (step inner fuel (runFrom inner fuel (.start stream) before)
        (.write record)) after := by
    simp [run, runFrom]
  have underway : RunUnderway record (run inner fuel stream (before ++ .write record :: after)) := by
    rw [same]
    exact runFrom_underway bounded fuel after _ (step_hello fuel _ untouched hello)
  rcases underway with ⟨whole, header, len, buf, chunk, message, unfinished⟩ | passed
  · have sent := (message.sending.sent_short unfinished).1
    have opening := message.sending.hello
    have payload : 5 < header.len := by have := hello.long; omega
    rw [← len, wire_hello opening payload (by omega), sentUpTo_whole opening len, len] at sent
    refine ⟨by rw [whole], ?_, message.framed.1⟩
    rw [whole]
    exact sent
  · exact ⟨passed.initial, by rw [passed.sent], passed.shielded.1⟩

theorem clientHello_fragmented_early :
    (run (upTo 64) 20 () ([.flush, .read false 0, .write []] ++
      .write [0x16, 3, 1, 0, 2, 1, 9] :: [.read true 0, .write [7]])).Fragmented
        [0x16, 3, 1, 0, 2, 1, 9] :=
  clientHello_fragmented (upTo_bounded 64) 20 () _ _ _ (by decide) (by decide)

/-- After a read has found the one-second timer over, the record is written as it is. -/
theorem clientHello_after_timer :
    ¬ ∀ (S : Type) (inner : Inner S), inner.Bounded → inner.Progressing →
      ∀ fuel stream before after record,
        (∀ event ∈ before, ∀ bytes, event = .write bytes → bytes = []) → ClientHello record →
        (run inner fuel stream (before ++ .write record :: after)).Fragmented record := by
  intro claim
  have fragmented := claim Unit (upTo 64) (upTo_bounded 64) (upTo_progressing 64 (by decide)) 20 ()
    [.read false 0, .read true 0] [] [0x16, 3, 1, 0, 2, 1, 9] (by simp) (by decide)
  exact absurd fragmented.2.1 (by decide +kernel)

end LocalProxy.Fragment
