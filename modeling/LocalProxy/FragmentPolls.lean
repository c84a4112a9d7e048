import LocalProxy.FragmentReceive

/-! Every poll keeps the invariant, from each state it can start in to each point it
can stop at. -/

namespace LocalProxy.Fragment
open Polling

variable {S : Type} {inner : Inner S} {accepted : List Byte} {record : Option Nat}

def Kept (accepted : List Byte) (record : Option Nat) (layer : FragmentLayer S) : Prop :=
  Holds accepted record layer.calls layer.state

/-- A poll that stops before its end does not stop by a panic. -/
def KeptExit (accepted : List Byte) (record : Option Nat) (exit : Exit IoError)
    (layer : FragmentLayer S) : Prop :=
  exit ≠ .panicked ∧ Kept accepted record layer

/-- The ends of a call: an answer with a value, a suspension and an error. -/
theorem ask_ends {α : Type} {question : S → Poll (Except IoError α) × S}
    {call : State → Poll (Except IoError α) → Call} {P : FragmentLayer S → Prop}
    {Q : α → FragmentLayer S → Prop} {E : Exit IoError → FragmentLayer S → Prop}
    (done : ∀ layer below value, P layer →
      question layer.inner = (.ready (.ok value), below) →
      Q value (layer.note below (call layer.state (.ready (.ok value)))))
    (suspended : ∀ layer below, P layer →
      E .pending (layer.note below (call layer.state .pending)))
    (failed : ∀ layer below error, P layer →
      E (.failed error) (layer.note below (call layer.state (.ready (.error error))))) :
    Triple P (ask question call) Q E := by
  intro layer holds
  rcases asked : question layer.inner with ⟨answer, below⟩
  have unfolded : (ask question call).run layer =
      (awaitReady answer).run (layer.note below (call layer.state answer)) := by
    have same : answer = (question layer.inner).1 ∧ below = (question layer.inner).2 := by
      rw [asked]; exact ⟨rfl, rfl⟩
    rw [same.1, same.2]
    rfl
  rw [unfolded]
  cases answer with
  | pending => exact suspended layer below holds
  | ready result =>
    cases result with
    | ok value => exact done layer below value holds asked
    | error error => exact failed layer below error holds

/-- The two ends of a call: an answer with a value, and any other. -/
theorem ask_triple {α : Type} {question : S → Poll (Except IoError α) × S}
    {call : State → Poll (Except IoError α) → Call} {P : FragmentLayer S → Prop}
    {Q : α → FragmentLayer S → Prop} {E : Exit IoError → FragmentLayer S → Prop}
    (done : ∀ layer below value, P layer →
      question layer.inner = (.ready (.ok value), below) →
      Q value (layer.note below (call layer.state (.ready (.ok value)))))
    (left : ∀ layer below answer exit, P layer → (∀ value, answer ≠ .ready (.ok value)) →
      exit ≠ .panicked → E exit (layer.note below (call layer.state answer))) :
    Triple P (ask question call) Q E :=
  ask_ends done (fun layer below holds => left layer below _ .pending holds (by simp) (by simp))
    (fun layer below error holds => left layer below _ (.failed error) holds (by simp) (by simp))

theorem innerFlush_triple {P : FragmentLayer S → Prop} {Q : Unit → FragmentLayer S → Prop}
    {E : Exit IoError → FragmentLayer S → Prop}
    (done : ∀ layer below, P layer →
      Q () (layer.note below (.flush layer.state (.ready (.ok ())))))
    (left : ∀ layer below answer exit, P layer → exit ≠ .panicked →
      E exit (layer.note below (.flush layer.state answer))) :
    Triple P (innerFlush inner) Q E :=
  ask_triple (fun layer below _ holds _ => done layer below holds)
    (fun layer below answer exit holds _ calm => left layer below answer exit holds calm)

theorem innerWrite_triple {slice : List Byte} {P : FragmentLayer S → Prop}
    {Q : Nat → FragmentLayer S → Prop} {E : Exit IoError → FragmentLayer S → Prop}
    (bounded : inner.Bounded)
    (done : ∀ layer below n, P layer → n ≤ slice.length →
      Q n (layer.note below (.write layer.state slice (.ready (.ok n)))))
    (left : ∀ layer below answer exit, P layer → (∀ n, answer ≠ .ready (.ok n)) →
      exit ≠ .panicked → E exit (layer.note below (.write layer.state slice answer))) :
    Triple P (innerWrite inner slice) Q E :=
  ask_triple (fun layer below n holds asked => done layer below n holds (bounded _ _ _ _ asked))
    left

theorem setState_triple {state : State} {P : FragmentLayer S → Prop}
    {Q : Unit → FragmentLayer S → Prop} {E : Exit IoError → FragmentLayer S → Prop}
    (done : ∀ layer, P layer → Q () { layer with state := state }) :
    Triple P (setState state) Q E :=
  Triple.modify _ done

/-- A property of the calls made so far that lasts while a message is sent: a flush,
and after a completed one the write of a single byte. -/
structure MessageFrame (frame : List Call → Prop) : Prop where
  flushed : ∀ calls buf header chunk answer, frame calls →
    frame (calls ++ [.flush (.sendingMessage buf header (some chunk)) answer])
  written : ∀ calls buf header chunk byte answer, frame calls →
    frame (calls ++ [.flush (.sendingMessage buf header (some chunk)) (.ready (.ok ()))] ++
      [.write (.sendingMessage buf header (some chunk)) [byte] answer])

variable {buf : Buffer} {header : Header} {chunk : Option Buffer} {frame : List Call → Prop}

structure InMessage (accepted : List Byte) (record : Option Nat) (frame : List Call → Prop)
    (buf : Buffer) (header : Header) (chunk : Option Buffer) (layer : FragmentLayer S) : Prop where
  state : layer.state = .sendingMessage buf header chunk
  sending : Sending accepted record (acknowledged layer.calls) buf header chunk
  framed : frame layer.calls

/-- A message that is not over, with something of its chunk left to send. -/
def Resumable (accepted : List Byte) (record : Option Nat) (frame : List Call → Prop)
    (header : Header) (layer : FragmentLayer S) : Prop :=
  ∃ buf chunk, InMessage accepted record frame buf header chunk layer ∧
    ∀ current, chunk = some current → buf.ptr < header.len ∧ current.ptr < current.inner.length

def ResumableExit (accepted : List Byte) (record : Option Nat) (frame : List Call → Prop)
    (header : Header) (exit : Exit IoError) (layer : FragmentLayer S) : Prop :=
  exit ≠ .panicked ∧ Resumable accepted record frame header layer

theorem InMessage.resumable {current : Buffer} {layer : FragmentLayer S}
    (holds : InMessage accepted record frame buf header (some current) layer)
    (inside : buf.ptr < header.len) (more : current.ptr < current.inner.length) :
    Resumable accepted record frame header layer := by
  refine ⟨buf, some current, holds, ?_⟩
  intro other same
  cases same
  exact ⟨inside, more⟩

theorem Resumable.kept {layer : FragmentLayer S}
    (resumable : Resumable accepted record frame header layer) : Kept accepted record layer := by
  obtain ⟨buf, chunk, holds, unfinished⟩ := resumable
  rw [Kept, holds.state]
  exact ⟨holds.sending, unfinished⟩

/-- The byte under the cursor of the chunk was taken, or not. -/
theorem Sending.advance {sent : List Byte} {current : Buffer} {byte : Byte} {n : Nat}
    (sending : Sending accepted record sent buf header (some current))
    (inside : buf.ptr < header.len) (present : current.inner[current.ptr]? = some byte)
    (few : n ≤ 1) :
    Sending accepted record (sent ++ [byte].take n) buf header
      (some { current with ptr := current.ptr + n }) := by
  obtain ⟨built, bound, sentIs⟩ := sending.partway current rfl
  have more := (List.getElem?_eq_some_iff.mp present).1
  refine { sending with
    fresh := by simp, partway := ?_, surplus := fun _ _ finished => by omega }
  intro other same
  cases same
  refine ⟨built, by simp only; omega, ?_⟩
  have cases : n = 0 ∨ n = 1 := by omega
  rcases cases with rfl | rfl
  · simpa using sentIs
  · simp only [sentIs, List.take_add_one, present, Option.toList_some, List.append_assoc]
    rfl

/-- A completed flush and then the write of one byte, from inside a chunk. -/
theorem InMessage.write {current : Buffer} {layer : FragmentLayer S} {byte : Byte}
    (answer : Poll (Except IoError Nat)) (below last : S)
    (lasting : MessageFrame frame)
    (holds : InMessage accepted record frame buf header (some current) layer)
    (inside : buf.ptr < header.len) (present : current.inner[current.ptr]? = some byte)
    (few : ∀ n, answer = .ready (.ok n) → n ≤ 1) :
    let after := (layer.note below (.flush layer.state (.ready (.ok ())))).note last
      (.write layer.state [byte] answer)
    after.state = .sendingMessage buf header (some current) ∧ frame after.calls ∧
      Sending accepted record (acknowledged after.calls) buf header (some { current with
        ptr := current.ptr + (Call.write layer.state [byte] answer).taken.length }) := by
  refine ⟨holds.state, ?_, ?_⟩
  · simp only [FragmentLayer.note_calls, holds.state]
    exact lasting.written _ _ _ _ _ _ holds.framed
  · simp only [FragmentLayer.note_calls, acknowledged_append, acknowledged_single]
    have none_taken : Sending accepted record (acknowledged layer.calls ++ [byte].take 0) buf
        header (some { current with ptr := current.ptr + 0 }) :=
      holds.sending.advance inside present (Nat.zero_le 1)
    cases answer with
    | pending => simpa [Call.taken] using none_taken
    | ready result =>
      cases result with
      | error error => simpa [Call.taken] using none_taken
      | ok n =>
        have bound := few n rfl
        have one := holds.sending.advance inside present bound
        simpa [Call.taken, Nat.min_eq_left bound] using one

theorem sendChunk_triple (bounded : inner.Bounded) (lasting : MessageFrame frame)
    (inside : buf.ptr < header.len) (fuel : Nat) (current : Buffer) :
    Triple (InMessage accepted record frame buf header (some current))
      (sendChunk inner buf header fuel current)
      (fun sent layer => sent.ptr = sent.inner.length ∧
        InMessage accepted record frame buf header (some sent) layer)
      (ResumableExit accepted record frame header) := by
  induction fuel generalizing current with
  | zero =>
    unfold sendChunk
    apply Triple.branch
    · intro more
      exact Triple.leave _ (fun layer holds => ⟨by simp, holds.resumable inside more⟩)
    · intro done
      refine Triple.value _ (fun layer holds => ⟨?_, holds⟩)
      have bound := (holds.sending.partway current rfl).2.1
      omega
  | succ fuel ih =>
    unfold sendChunk
    apply Triple.branch
    · intro more
      have present : current.inner[current.ptr]? = some current.inner[current.ptr] :=
        List.getElem?_eq_getElem more
      have slice : sliceOf current.inner current.ptr (current.ptr + 1) =
          some [current.inner[current.ptr]] := by
        rw [sliceOf_eq (by omega) (by omega), slice_single present]
      apply Triple.bind (Q := fun _ layer =>
        ∃ before below, InMessage accepted record frame buf header (some current) before ∧
          layer = before.note below (.flush before.state (.ready (.ok ()))))
      · apply innerFlush_triple
        · intro layer below holds
          exact ⟨layer, below, holds, rfl⟩
        · intro layer below answer exit holds calm
          have noted : InMessage accepted record frame buf header (some current)
              (layer.note below (.flush layer.state answer)) := by
            refine ⟨holds.state, ?_, ?_⟩
            · simpa [Call.taken] using holds.sending
            · rw [FragmentLayer.note_calls, holds.state]
              exact lasting.flushed _ _ _ _ _ holds.framed
          exact ⟨calm, noted.resumable inside more⟩
      intro _
      apply Triple.unwrap_bind slice
      apply Triple.bind (Q := fun n layer => n ≤ 1 ∧
        layer.state = .sendingMessage buf header (some current) ∧ frame layer.calls ∧
        Sending accepted record (acknowledged layer.calls) buf header
          (some { current with ptr := current.ptr + n }))
      · apply innerWrite_triple bounded
        · rintro layer below n ⟨before, flushed, holds, rfl⟩ few
          have few : n ≤ 1 := few
          have next := holds.write (.ready (.ok n)) flushed below lasting inside present
            (fun m same => by cases same; exact few)
          simp only [Call.taken, List.length_take, List.length_singleton,
            Nat.min_eq_left few] at next
          exact ⟨few, next⟩
        · rintro layer below answer exit ⟨before, flushed, holds, rfl⟩ other calm
          have next := holds.write answer flushed below lasting inside present
            (fun n same => (other n same).elim)
          have nothing : (Call.write before.state [current.inner[current.ptr]] answer).taken = [] := by
            cases answer with
            | pending => rfl
            | ready result =>
              cases result with
              | error error => rfl
              | ok n => exact (other n rfl).elim
          rw [nothing] at next
          have still : InMessage accepted record frame buf header (some current) _ :=
            ⟨next.1, next.2.2, next.2.1⟩
          exact ⟨calm, still.resumable inside more⟩
      intro n
      apply Triple.branch
      · rintro rfl
        refine Triple.leave _ (fun layer holds => ?_)
        have still : InMessage accepted record frame buf header (some current) layer :=
          ⟨holds.2.1, holds.2.2.2, holds.2.2.1⟩
        exact ⟨by simp, still.resumable inside more⟩
      · intro _
        apply Triple.bind (setState_triple fun layer holds => ?_) (fun _ => ih _)
        exact ⟨rfl, holds.2.2.2, holds.2.2.1⟩
    · intro done
      refine Triple.value _ (fun layer holds => ⟨?_, holds⟩)
      have bound := (holds.sending.partway current rfl).2.1
      omega

/-- Between two chunks: the records before the cursor are sent, and nothing after it. -/
structure BetweenChunks (accepted : List Byte) (record : Option Nat) (frame : List Call → Prop)
    (header : Header) (buf : Buffer) (layer : FragmentLayer S) : Prop where
  hello : Hello accepted header
  recorded : record = some header.len
  whole : header.len ≤ accepted.length
  held : buf.inner = accepted
  low : 5 ≤ buf.ptr
  high : buf.ptr ≤ header.len
  sent : acknowledged layer.calls = sentUpTo accepted header buf.ptr
  framed : frame layer.calls

theorem finishChunk_triple (bounded : inner.Bounded) (lasting : MessageFrame frame)
    (inside : buf.ptr < header.len) (fuel : Nat) :
    Triple (InMessage accepted record frame buf header chunk)
      (finishChunk inner fuel buf header chunk)
      (fun next layer => BetweenChunks accepted record frame header next layer)
      (ResumableExit accepted record frame header) := by
  cases chunk with
  | none =>
    refine Triple.value _ (fun layer holds => ?_)
    obtain ⟨hello, recorded, whole, held, low, high, fresh, _, _⟩ := holds.sending
    obtain ⟨first, nothing⟩ := fresh rfl
    exact ⟨hello, recorded, whole, held, low, high,
      by rw [nothing, first, sentUpTo_low], holds.framed⟩
  | some current =>
    apply Triple.bind (sendChunk_triple bounded lasting inside fuel current)
    intro sent layer holds
    obtain ⟨finished, message⟩ := holds
    obtain ⟨byte, present⟩ := message.sending.present inside
    have shape := message.sending.chunk_inner inside present
    have length : sent.inner.length = 6 := by
      simp [shape, (header.base_length)]
    have one : checkedSub sent.inner.length (header.base.length + 2) = some 1 := by
      simp [checkedSub, length, header.base_length]
    refine Triple.unwrap_bind (P := fun current => current = layer) one ?_ layer rfl
    apply Triple.bind (setState_triple (Q := fun _ current =>
      BetweenChunks accepted record frame header { buf with ptr := buf.ptr + 1 } current) ?_)
      (fun _ => Triple.value _ (fun _ holds => holds))
    rintro _ rfl
    obtain ⟨_, _, sentIs⟩ := message.sending.partway sent rfl
    refine ⟨message.sending.hello, message.sending.recorded, message.sending.whole,
      message.sending.held, by have := message.sending.low; simp only; omega, inside, ?_,
      message.framed⟩
    rw [sentUpTo_succ header message.sending.low present, ← shape]
    simpa only [finished, List.take_length] using sentIs

/-- A new chunk for the cursor, or the surplus one behind the last byte. -/
theorem BetweenChunks.next {layer : FragmentLayer S}
    (between : BetweenChunks accepted record frame header buf layer) :
    ∃ built, nextChunk buf header = some built ∧ built.ptr < built.inner.length ∧
      InMessage accepted record frame buf header (some built)
        { layer with state := .sendingMessage buf header (some built) } := by
  obtain ⟨built, same, start, long⟩ : ∃ built, nextChunk buf header = some built ∧
      built.ptr = 0 ∧ 0 < built.inner.length := by
    by_cases inside : buf.ptr < header.len
    · have bound : buf.ptr < buf.inner.length := by
        rw [between.held]; have := between.whole; omega
      exact ⟨_, nextChunk_inside inside (List.getElem?_eq_getElem bound), rfl, by simp⟩
    · have finished : buf.ptr = header.len := by have := between.high; omega
      exact ⟨_, nextChunk_end finished (by rw [between.held]; exact between.whole), rfl, by simp⟩
  refine ⟨built, same, by omega, rfl, ⟨between.hello, between.recorded, between.whole, between.held,
    between.low, between.high, by simp, ?_, ?_⟩, between.framed⟩
  · intro current equal
    cases equal
    refine ⟨by rw [same, ← start], by omega, ?_⟩
    rw [start, List.take_zero, List.append_nil]
    exact between.sent
  · intro current equal _
    cases equal
    exact start

theorem sendMessage_triple (bounded : inner.Bounded) (lasting : MessageFrame frame)
    (fuel : Nat) (buf : Buffer) (chunk : Option Buffer) :
    Triple (fun layer => InMessage accepted record frame buf header chunk layer ∧
        ∀ current, chunk = some current → current.ptr < current.inner.length)
      (sendMessage inner fuel buf header chunk)
      (fun final layer => final.ptr = header.len ∧
        BetweenChunks accepted record frame header final layer)
      (ResumableExit accepted record frame header) := by
  have finish : ∀ (buf : Buffer) (chunk : Option Buffer), ¬ header.len > buf.ptr →
      ∀ layer : FragmentLayer S, InMessage accepted record frame buf header chunk layer →
      buf.ptr = header.len ∧ BetweenChunks accepted record frame header buf layer := by
    intro buf chunk outside layer holds
    obtain ⟨hello, recorded, whole, held, low, high, fresh, partway, surplus⟩ := holds.sending
    have finished : buf.ptr = header.len := by omega
    refine ⟨finished, hello, recorded, whole, held, low, high, ?_, holds.framed⟩
    cases chunk with
    | none =>
      obtain ⟨first, nothing⟩ := fresh rfl
      rw [nothing, first, sentUpTo_low]
    | some current =>
      rw [(partway current rfl).2.2, surplus current rfl finished, List.take_zero, List.append_nil]
  induction fuel generalizing buf chunk with
  | zero =>
    unfold sendMessage
    apply Triple.branch
    · intro inside
      exact Triple.leave _ (fun layer holds => ⟨by simp, buf, chunk, holds.1,
        fun current same => ⟨inside, holds.2 current same⟩⟩)
    · intro outside
      exact Triple.value _ (fun layer holds => finish buf chunk outside layer holds.1)
  | succ fuel ih =>
    unfold sendMessage
    apply Triple.branch
    · intro inside
      apply Triple.bind ((finishChunk_triple bounded lasting inside fuel).pre
        (fun _ holds => holds.1))
      intro next layer between
      obtain ⟨built, same, unsent, message⟩ := between.next
      refine Triple.unwrap_bind (P := fun current => current = layer) same ?_ layer rfl
      apply Triple.bind (setState_triple (Q := fun _ => _) ?_) (fun _ => ih next (some built))
      rintro _ rfl
      refine ⟨message, ?_⟩
      intro current equal
      cases equal
      exact unsent
    · intro outside
      exact Triple.value _ (fun layer holds => finish buf chunk outside layer holds.1)

/-- Behind the last record the raw path takes over, with the cursor where it is. -/
theorem BetweenChunks.rawHeld {layer : FragmentLayer S}
    (between : BetweenChunks accepted record frame header buf layer) (finished : buf.ptr = header.len) :
    RawHeld accepted record layer.calls buf := by
  have long := between.hello.long
  have whole := between.whole
  refine ⟨between.held, ?_, ?_, fun _ => ?_⟩
  · rintro len same
    rw [between.recorded] at same
    cases same
    exact whole
  · intro same
    rw [between.recorded] at same
    cases same
  rw [between.sent, between.recorded, finished]
  by_cases payload : 5 < header.len
  · have due := wire_hello between.hello payload whole
    refine ⟨by rw [due]; exact List.prefix_append _ _, ?_, by omega, ?_⟩
    · rw [due, List.self_eq_append_right, List.drop_eq_nil_iff]
    · intro empty
      have := between.hello.empty_iff.mp empty
      omega
  · have five : header.len = 5 := by have := between.low; have := between.high; omega
    rw [five, sentUpTo_low]
    refine ⟨List.nil_prefix, ?_, by omega, fun _ _ => ⟨rfl, rfl⟩⟩
    rw [wire_empty_record]
    constructor
    · intro same
      rw [← same] at long
      simp at long
    · intro short
      omega

/-- The first write of a buffer starts where nothing is sent, and so may be partial.
Any later one starts again from the first byte. -/
theorem RawHeld.write {calls : List Call} {n : Nat} (raw : RawHeld accepted record calls buf)
    (few : n ≤ buf.inner.length) :
    RawHeld accepted record
      (calls ++ [.write (.sendingRawBuffer buf) buf.inner (.ready (.ok n))])
      { buf with ptr := buf.ptr + n } := by
  refine ⟨raw.held, raw.fits, raw.other, fun all => ?_⟩
  have before := raw.sent all.initial
  have start := all.last
  simp only [acknowledged_append, acknowledged_single, Call.taken, raw.held] at *
  rcases start with first | ⟨empty, five, limit⟩
  · obtain ⟨nothing, unrecorded⟩ := before.start first
    rw [nothing, unrecorded, first, List.nil_append]
    refine ⟨List.take_prefix _ _, ?_, ?_, fun empty => (raw.other unrecorded empty).elim⟩
    · rw [wire_none, List.take_eq_self_iff, Nat.zero_add]
    · intro zero
      have : n = 0 := by omega
      subst this
      exact ⟨rfl, rfl⟩
  · rw [raw.held] at empty limit
    obtain ⟨nothing, recorded⟩ := before.empty empty five
    rw [nothing, recorded, five, List.nil_append]
    refine ⟨by rw [wire_empty_record]; exact List.take_prefix _ _, ?_, by omega, ?_⟩
    · rw [wire_empty_record, List.take_eq_self_iff]
      omega
    · intro _ same
      have : n = 0 := by omega
      subst this
      exact ⟨rfl, rfl⟩

/-- No answer without bytes changes what is due. -/
theorem RawHeld.refused {calls : List Call} {call : Call} (raw : RawHeld accepted record calls buf)
    (nothing : call.taken = []) : RawHeld accepted record (calls ++ [call]) buf := by
  refine ⟨raw.held, raw.fits, raw.other, fun all => ?_⟩
  rw [acknowledged_append, acknowledged_single, nothing, List.append_nil]
  exact raw.sent all.initial

theorem write_refused (state : State) (slice : List Byte) {answer : Poll (Except IoError Nat)}
    (other : ∀ n, answer ≠ .ready (.ok n)) : (Call.write state slice answer).taken = [] := by
  cases answer with
  | pending => rfl
  | ready result =>
    cases result with
    | error error => rfl
    | ok n => exact (other n rfl).elim

theorem sendRawBuffer_triple (bounded : inner.Bounded) (fuel : Nat) (buf : Buffer) :
    Triple (fun layer => layer.state = .sendingRawBuffer buf ∧
        RawHeld accepted record layer.calls buf)
      (sendRawBuffer inner fuel buf)
      (fun _ layer => Holds accepted record layer.calls .sendingData)
      (KeptExit accepted record) := by
  have finish : ∀ (buf : Buffer), ¬ buf.inner.length > buf.ptr → ∀ layer : FragmentLayer S,
      layer.state = .sendingRawBuffer buf ∧ RawHeld accepted record layer.calls buf →
      Holds accepted record layer.calls .sendingData := by
    rintro buf outside layer ⟨_, raw⟩
    refine ⟨raw.fits, fun all => (raw.sent all).done.mpr ?_⟩
    rw [← raw.held]
    omega
  have stop : ∀ (buf : Buffer), buf.inner.length > buf.ptr → ∀ layer : FragmentLayer S,
      layer.state = .sendingRawBuffer buf → RawHeld accepted record layer.calls buf →
      Kept accepted record layer := by
    intro buf inside layer state raw
    rw [Kept, state]
    exact ⟨raw, by rw [← raw.held]; exact inside⟩
  induction fuel generalizing buf with
  | zero =>
    unfold sendRawBuffer
    apply Triple.branch
    · intro inside
      exact Triple.leave _ (fun layer holds => ⟨by simp, stop buf inside layer holds.1 holds.2⟩)
    · intro outside
      exact Triple.value _ (finish buf outside)
  | succ fuel ih =>
    unfold sendRawBuffer
    apply Triple.branch
    · intro inside
      apply Triple.bind (Q := fun n layer =>
        RawHeld accepted record layer.calls { buf with ptr := buf.ptr + n })
      · apply innerWrite_triple bounded
        · rintro layer below n ⟨state, raw⟩ few
          rw [FragmentLayer.note_calls, state]
          exact raw.write few
        · rintro layer below answer exit ⟨state, raw⟩ other calm
          have still := raw.refused (write_refused layer.state buf.inner other)
          exact ⟨calm, stop buf inside _ state still⟩
      intro n
      exact Triple.bind (setState_triple fun layer raw => ⟨rfl, raw⟩) (fun _ => ih _)
    · intro outside
      exact Triple.value _ (finish buf outside)

/-- The invariant before a flush, where the raw buffer may already be empty. -/
def HoldsEntering (accepted : List Byte) (record : Option Nat) (calls : List Call) :
    State → Prop
  | .sendingRawBuffer buf => RawHeld accepted record calls buf
  | state => Holds accepted record calls state

def Entered (accepted : List Byte) (record : Option Nat) (layer : FragmentLayer S) : Prop :=
  HoldsEntering accepted record layer.calls layer.state

theorem Holds.entering {calls : List Call} {state : State}
    (holds : Holds accepted record calls state) : HoldsEntering accepted record calls state := by
  cases state with
  | sendingRawBuffer buf => exact holds.1
  | waitingHeader buf => exact holds
  | waitingMessage buf header => exact holds
  | sendingMessage buf header chunk => exact holds
  | sendingData => exact holds

theorem Entered.kept {layer : FragmentLayer S} (entered : Entered accepted record layer)
    (other : layer.state.isSendingBuffer = false) : Kept accepted record layer := by
  unfold Entered at entered
  unfold Kept
  cases state : layer.state with
  | sendingRawBuffer buf => rw [state] at other; cases other
  | waitingHeader buf => rw [state] at entered; exact entered
  | waitingMessage buf header => rw [state] at entered; exact entered
  | sendingMessage buf header chunk => rw [state] at entered; exact entered
  | sendingData => rw [state] at entered; exact entered

theorem messageFrame_trivial : MessageFrame (fun _ => True) :=
  ⟨fun _ _ _ _ _ _ => trivial, fun _ _ _ _ _ _ _ => trivial⟩

theorem flushMessage_triple (bounded : inner.Bounded) (fuel : Nat) :
    Triple (Entered accepted record) (flushMessage inner fuel)
      (fun _ layer => Entered accepted record layer ∧
        ∀ buf header chunk, layer.state ≠ .sendingMessage buf header chunk)
      (KeptExit accepted record) := by
  apply Triple.read
  rintro layer entered
  cases state : layer.state with
  | sendingMessage buf header chunk =>
    have kept : Holds accepted record layer.calls (.sendingMessage buf header chunk) := by
      unfold Entered at entered
      rw [state] at entered
      exact entered
    refine Triple.bind ((sendMessage_triple bounded messageFrame_trivial fuel buf chunk).weaken
      ?_ (fun _ _ holds => holds) (fun _ _ holds => ⟨holds.1, holds.2.kept⟩)) ?_
    · rintro _ rfl
      exact ⟨⟨state, kept.1, trivial⟩, fun current same => (kept.2 current same).2⟩
    · intro final
      refine setState_triple fun after holds => ⟨?_, by simp⟩
      exact holds.2.rawHeld holds.1
  | waitingHeader buf => exact Triple.value _ (by rintro _ rfl; exact ⟨entered, by simp [state]⟩)
  | waitingMessage buf header =>
    exact Triple.value _ (by rintro _ rfl; exact ⟨entered, by simp [state]⟩)
  | sendingRawBuffer buf => exact Triple.value _ (by rintro _ rfl; exact ⟨entered, by simp [state]⟩)
  | sendingData => exact Triple.value _ (by rintro _ rfl; exact ⟨entered, by simp [state]⟩)

theorem flushRawBuffer_triple (bounded : inner.Bounded) (fuel : Nat) :
    Triple (fun layer => Entered accepted record layer ∧
        ∀ buf header chunk, layer.state ≠ .sendingMessage buf header chunk)
      (flushRawBuffer inner fuel)
      (fun _ layer => Kept accepted record layer ∧ layer.state.isSendingBuffer = false)
      (KeptExit accepted record) := by
  apply Triple.read
  rintro layer ⟨entered, past⟩
  have other (waiting : layer.state.isSendingBuffer = false) :
      Kept accepted record layer ∧ layer.state.isSendingBuffer = false :=
    ⟨entered.kept waiting, waiting⟩
  cases state : layer.state with
  | sendingRawBuffer buf =>
    have raw : RawHeld accepted record layer.calls buf := by
      unfold Entered at entered
      rw [state] at entered
      exact entered
    refine Triple.bind ((sendRawBuffer_triple bounded fuel buf).pre ?_) ?_
    · rintro _ rfl
      exact ⟨state, raw⟩
    · intro _
      exact setState_triple fun after holds => ⟨holds, rfl⟩
  | sendingMessage buf header chunk => exact (past buf header chunk state).elim
  | waitingHeader buf => exact Triple.value _ (by rintro _ rfl; exact other (by rw [state]; rfl))
  | waitingMessage buf header =>
    exact Triple.value _ (by rintro _ rfl; exact other (by rw [state]; rfl))
  | sendingData => exact Triple.value _ (by rintro _ rfl; exact other (by rw [state]; rfl))

theorem Holds.noted {calls : List Call} {state : State} {call : Call}
    (holds : Holds accepted record calls state) (nothing : call.taken = []) :
    Holds accepted record (calls ++ [call]) state := by
  have same : acknowledged (calls ++ [call]) = acknowledged calls := by
    rw [acknowledged_append, acknowledged_single, nothing, List.append_nil]
  cases state with
  | waitingHeader buf => simpa only [Holds, same] using holds
  | waitingMessage buf header => simpa only [Holds, same] using holds
  | sendingMessage buf header chunk => simpa only [Holds, same] using holds
  | sendingRawBuffer buf => exact ⟨holds.1.refused nothing, holds.2⟩
  | sendingData => exact ⟨holds.1, fun all => by rw [same]; exact holds.2 all.initial⟩

theorem innerFlush_kept (settled : State → Prop) :
    Triple (fun layer => Kept accepted record layer ∧ settled layer.state) (innerFlush inner)
      (fun _ layer => Kept accepted record layer ∧ settled layer.state)
      (KeptExit accepted record) :=
  innerFlush_triple (fun _ _ holds => ⟨holds.1.noted rfl, holds.2⟩)
    (fun _ _ _ _ holds calm => ⟨calm, holds.1.noted rfl⟩)

theorem pollFlush_triple (bounded : inner.Bounded) (fuel : Nat) :
    Triple (Entered accepted record) (pollFlush inner fuel)
      (fun _ layer => Kept accepted record layer ∧ layer.state.isSendingBuffer = false)
      (KeptExit accepted record) :=
  Triple.bind (flushMessage_triple bounded fuel) fun _ =>
    Triple.bind (flushRawBuffer_triple bounded fuel) fun _ =>
      innerFlush_kept (fun state => state.isSendingBuffer = false)

theorem whenSendingBuffer_rule {P : FragmentLayer S → Prop} {Q : Unit → FragmentLayer S → Prop}
    {E : Exit IoError → FragmentLayer S → Prop} {task : Task S Unit} (body : Triple P task Q E)
    (skip : ∀ layer, P layer → layer.state.isSendingBuffer = false → Q () layer) :
    Triple P (whenSendingBuffer task) Q E := by
  apply Triple.read
  intro layer holds
  apply Triple.branch
  · intro _
    exact body.pre (by rintro _ rfl; exact holds)
  · intro settled
    exact Triple.value _ (by rintro _ rfl; exact skip _ holds (by simpa using settled))

theorem whenSendingBuffer_triple {task : Task S Unit} {settled : FragmentLayer S → Prop}
    (body : Triple (Entered accepted record) task
      (fun _ layer => Kept accepted record layer ∧ settled layer) (KeptExit accepted record))
    (other : ∀ layer, layer.state.isSendingBuffer = false → settled layer) :
    Triple (Entered accepted record) (whenSendingBuffer task)
      (fun _ layer => Kept accepted record layer ∧ settled layer)
      (KeptExit accepted record) :=
  whenSendingBuffer_rule body fun layer entered waiting =>
    ⟨entered.kept waiting, other layer waiting⟩

/-- Released bytes start the raw path anew, unless they are a ClientHello without payload. -/
theorem rawHeld_released {calls : List Call} (nothing : acknowledged calls = [])
    (other : ¬ EmptyHello accepted) : RawHeld accepted none calls ⟨accepted, 0⟩ := by
  refine ⟨rfl, by simp, fun _ => other, fun _ => ?_⟩
  rw [nothing]
  refine ⟨List.nil_prefix, ?_, fun _ => ⟨rfl, rfl⟩, fun empty => (other empty).elim⟩
  rw [wire_none, eq_comm]
  simp

theorem Foreign.length_pos (foreign : Foreign accepted) : 0 < accepted.length := by
  rcases foreign with ⟨nonempty, _⟩ | ⟨long, _⟩
  · exact List.length_pos_iff.mpr nonempty
  · omega

theorem Foreign.unempty (foreign : Foreign accepted) : ¬ EmptyHello accepted := by
  intro empty
  rcases foreign with ⟨_, other⟩ | ⟨_, other⟩
  · exact other empty.1
  · exact other empty.2.1

theorem Settles.holds {calls : List Call} {state : State} (settles : Settles accepted state)
    (nothing : acknowledged calls = []) :
    Holds accepted (recordOf none state) calls state := by
  cases state with
  | waitingHeader buf => exact ⟨rfl, nothing, settles⟩
  | waitingMessage buf header => exact ⟨rfl, nothing, settles⟩
  | sendingMessage buf header chunk =>
    obtain ⟨rfl, rfl, hello, whole⟩ := settles
    have low : 5 ≤ header.len := (Header.new_eq_some hello.parsed).2.2
    refine ⟨⟨hello, rfl, whole, rfl, Nat.le_refl 5, low, fun _ => ⟨rfl, nothing⟩, ?_, ?_⟩, ?_⟩
    · simp
    · simp
    · simp
  | sendingRawBuffer buf =>
    obtain ⟨rfl, foreign⟩ := settles
    exact ⟨rawHeld_released nothing foreign.unempty, foreign.length_pos⟩
  | sendingData => exact settles.elim

/-- While the layer waits nothing was sent, and the state is what the bytes led to. -/
theorem Holds.waiting {calls : List Call} {state : State}
    (holds : Holds accepted record calls state) (waiting : state.isWaiting = true) :
    record = none ∧ acknowledged calls = [] ∧ Settles accepted state := by
  cases state with
  | waitingHeader buf => exact holds
  | waitingMessage buf header => exact holds
  | sendingMessage buf header chunk => cases waiting
  | sendingRawBuffer buf => cases waiting
  | sendingData => cases waiting

/-- The bytes of a write are taken in whole, and the state they lead to is settled. -/
theorem receive_holds {calls : List Call} {state : State} (more : List Byte)
    (holds : Holds accepted record calls state) (waiting : state.isWaiting = true) :
    ∃ next, receive state more = some next ∧
      Holds (accepted ++ more) (recordOf record next) calls next := by
  obtain ⟨unrecorded, nothing, settles⟩ := holds.waiting waiting
  subst record
  obtain ⟨next, received, after⟩ := receive_settles more settles waiting
  exact ⟨next, received, after.holds nothing⟩

theorem recordOf_holds {calls : List Call} {state : State}
    (holds : Holds accepted record calls state) : recordOf record state = record := by
  cases state with
  | sendingMessage buf header chunk => exact holds.1.recorded.symm
  | waitingHeader buf => rfl
  | waitingMessage buf header => rfl
  | sendingRawBuffer buf => rfl
  | sendingData => rfl

theorem State.waiting {state : State} (settled : state.isSendingBuffer = false)
    (early : state.isHandshakeEnded = false) : state.isWaiting = true := by
  cases state with
  | waitingHeader buf => rfl
  | waitingMessage buf header => rfl
  | sendingMessage buf header chunk => cases settled
  | sendingRawBuffer buf => cases settled
  | sendingData => cases early

theorem State.ended {state : State} (ended : state.isHandshakeEnded = true) :
    state = .sendingData := by
  cases state with
  | sendingData => rfl
  | _ => cases ended

/-- Only the bytes of a completed write are taken: the first `n` of its buffer. -/
theorem pollWrite_triple (bounded : inner.Bounded) (fuel : Nat) (bufWrite : List Byte) :
    Triple (Kept accepted record) (pollWrite inner fuel bufWrite)
      (fun n layer => Kept (accepted ++ bufWrite.take n) (recordOf record layer.state) layer)
      (KeptExit accepted record) := by
  apply Triple.bind ((whenSendingBuffer_triple (pollFlush_triple bounded fuel)
    (fun _ waiting => waiting)).pre (fun _ kept => Holds.entering kept))
  intro _
  apply Triple.read
  rintro layer ⟨kept, settled⟩
  apply Triple.branch
  · intro ended
    have state : layer.state = .sendingData := State.ended ended
    unfold Kept at kept
    rw [state] at kept
    have before := kept
    obtain ⟨fits, whole⟩ := kept
    apply innerWrite_triple bounded
    · rintro _ below n rfl few
      simp only [Kept, FragmentLayer.note_state, FragmentLayer.note_calls, state, recordOf]
      refine ⟨fun len same => ?_, fun all => ?_⟩
      · have := fits len same
        simp only [List.length_append]
        omega
      · rw [wire_append _ _ _ fits, acknowledged_append, acknowledged_single, whole all.initial]
        rfl
    · rintro _ below answer exit rfl other calm
      refine ⟨calm, ?_⟩
      simpa only [Kept, FragmentLayer.note_state, FragmentLayer.note_calls, state] using
        before.noted (write_refused _ _ other)
  · intro open_
    have waiting : layer.state.isWaiting = true :=
      State.waiting settled (by simpa using open_)
    obtain ⟨next, received, holds⟩ := receive_holds bufWrite kept waiting
    apply Triple.unwrap_bind received
    apply Triple.bind (setState_triple (Q := fun _ after =>
      after = { layer with state := next }) (by rintro _ rfl; rfl))
    intro _
    apply Triple.value
    rintro _ rfl
    simpa only [Kept, List.take_length] using holds

theorem tryIntoRawSend_entering {calls : List Call} {state : State}
    (holds : Holds accepted record calls state) :
    HoldsEntering accepted record calls state.tryIntoRawSend.2 := by
  cases state with
  | waitingHeader buf =>
    obtain ⟨rfl, nothing, rfl, short, _⟩ := holds
    refine rawHeld_released nothing (fun empty => ?_)
    have present := (List.getElem?_eq_some_iff.mp empty.2.1).1
    omega
  | waitingMessage buf header =>
    obtain ⟨rfl, nothing, rfl, hello, short⟩ := holds
    refine rawHeld_released nothing (fun empty => ?_)
    have := hello.empty_iff.mp empty
    have := hello.long
    omega
  | sendingMessage buf header chunk => exact holds.entering
  | sendingRawBuffer buf => exact holds.entering
  | sendingData => exact holds.entering

theorem pollTimer_entered (expired : Bool) {layer : FragmentLayer S}
    (kept : Kept accepted record layer) :
    Entered accepted record (layer.pollTimer expired) := by
  rw [Entered, FragmentLayer.pollTimer_calls, FragmentLayer.pollTimer_state]
  cases expired with
  | false => exact Holds.entering kept
  | true => exact tryIntoRawSend_entering kept

theorem pollRead_triple (bounded : inner.Bounded) (fuel : Nat) (expired : Bool) (room : Nat) :
    Triple (Kept accepted record) (pollRead inner fuel expired room)
      (fun _ layer => Kept accepted record layer) (KeptExit accepted record) := by
  apply Triple.bind (Triple.modify (Q := fun _ => Entered accepted record) _
    (fun _ kept => pollTimer_entered expired kept))
  intro _
  apply Triple.bind (Q := fun _ layer => Kept accepted record layer)
  · have body : Triple (Entered accepted record) (dropPending (pollFlush inner fuel))
        (fun _ layer => Kept accepted record layer ∧ True) (KeptExit accepted record) :=
      Triple.dropPending ((pollFlush_triple bounded fuel).post fun _ _ holds => ⟨holds.1, trivial⟩)
        (fun _ holds => ⟨holds.2, trivial⟩)
    exact (whenSendingBuffer_triple body (fun _ _ => trivial)).post (fun _ _ holds => holds.1)
  · intro _
    exact ask_triple (fun _ _ _ kept _ => kept.noted rfl)
      (fun _ _ _ _ kept _ calm => ⟨calm, kept.noted rfl⟩)

end LocalProxy.Fragment
