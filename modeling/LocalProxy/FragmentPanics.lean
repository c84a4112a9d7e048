import LocalProxy.FragmentReturns

/-! No poll of a fragmenting stream panics: in every state that one is left in, the
cursors are within what they point into, for every record length a header declares. -/

namespace LocalProxy.Fragment
open Polling

variable {S : Type} {inner : Inner S}

/-- The block of `poll_write` for `State::WaitingHeader` with its two indices checked,
out of bounds a panic like that of `Header::new(..).unwrap()`. -/
def receiveHeaderIndexed (buf : Buffer) (bufWrite : List Byte) : Option State := do
  let buf := { buf with inner := buf.inner ++ bufWrite }
  let foreign ← if buf.inner = [] then some false
    else (buf.inner[0]?).map fun first => first != 0x16
  if foreign then some (State.waitingHeader buf).tryIntoRawSend.2
  else if buf.inner.length ≥ 6 then do
    let message ← buf.inner[5]?
    if message ≠ 0x01 then some (State.waitingHeader buf).tryIntoRawSend.2
    else do
      let buf := { buf with ptr := 5 }
      let header ← Header.new buf.inner
      some (.waitingMessage buf header)
  else some (.waitingHeader buf)

/-- Both indices are asked for only where they are in bounds. -/
theorem receiveHeaderIndexed_eq (buf : Buffer) (bufWrite : List Byte) :
    receiveHeaderIndexed buf bufWrite = receiveHeader buf bufWrite := by
  unfold receiveHeaderIndexed receiveHeader
  generalize buf.inner ++ bufWrite = bytes
  cases bytes with
  | nil => rfl
  | cons first rest =>
    by_cases foreign : first = 0x16
    · by_cases long : 5 ≤ rest.length
      · have present : rest[4]? = some rest[4] := List.getElem?_eq_getElem (by omega)
        simp only [foreign, List.getElem?_cons_succ, present]
        simp [long]
      · simp [foreign, long]
    · simp [foreign]

theorem receiveHeader_some (buf : Buffer) (bufWrite : List Byte) :
    ∃ next, receiveHeader buf bufWrite = some next := by
  unfold receiveHeader
  generalize buf.inner ++ bufWrite = bytes
  by_cases foreign : bytes ≠ [] ∧ bytes[0]? ≠ some 0x16
  · exact ⟨_, if_pos foreign⟩
  · by_cases long : bytes.length ≥ 6
    · obtain ⟨header, parsed⟩ := Header.new_of_long (show 5 ≤ bytes.length by omega)
      by_cases message : bytes[5]? ≠ some 0x01
      · exact ⟨_, by simp only [if_neg foreign, if_pos long, if_pos message]; rfl⟩
      · exact ⟨_, by simp only [if_neg foreign, if_pos long, if_neg message, parsed]; rfl⟩
    · exact ⟨_, by simp only [if_neg foreign, if_neg long]; rfl⟩

/-- A chunk whose next byte can be sliced, and whose header can be taken off its length. -/
structure ChunkBounds (header : Header) (chunk : Buffer) : Prop where
  least : 5 ≤ chunk.inner.length
  most : chunk.inner.length ≤ 6
  cursor : chunk.ptr ≤ chunk.inner.length
  slice : chunk.inner.length > chunk.ptr →
    ∃ byte, sliceOf chunk.inner chunk.ptr (chunk.ptr + 1) = some [byte]
  payload : ∃ sent, checkedSub chunk.inner.length (header.base.length + 2) = some sent

theorem ChunkBounds.of_length {header : Header} {chunk : Buffer}
    (least : 5 ≤ chunk.inner.length) (most : chunk.inner.length ≤ 6)
    (cursor : chunk.ptr ≤ chunk.inner.length) : ChunkBounds header chunk where
  least := least
  most := most
  cursor := cursor
  slice := by
    intro more
    refine ⟨chunk.inner[chunk.ptr], ?_⟩
    rw [sliceOf_eq (by omega) (by omega), slice_single (List.getElem?_eq_getElem more)]
  payload := by
    rw [header.base_length, checkedSub, if_pos least]
    exact ⟨_, rfl⟩

/-- What a message is sent by: `built` is about each chunk that the loop builds from here
on, the surplus one behind the last byte among them. -/
structure MessageBounds (buf : Buffer) (header : Header) (chunk : Option Buffer) : Prop where
  low : 5 ≤ buf.ptr
  high : buf.ptr ≤ header.len
  whole : header.len ≤ buf.inner.length
  record : 5 ≤ header.len
  held : ∀ current, chunk = some current → ChunkBounds header current
  built : ∀ ptr, buf.ptr ≤ ptr → ptr ≤ header.len →
    ∃ next, nextChunk { buf with ptr := ptr } header = some next ∧ ChunkBounds header next

theorem nextChunk_bounds {buf : Buffer} {header : Header} (high : buf.ptr ≤ header.len)
    (whole : header.len ≤ buf.inner.length) :
    ∃ next, nextChunk buf header = some next ∧ ChunkBounds header next := by
  by_cases inside : buf.ptr < header.len
  · have present : buf.inner[buf.ptr]? = some buf.inner[buf.ptr] :=
      List.getElem?_eq_getElem (by omega)
    refine ⟨_, nextChunk_inside inside present, .of_length ?_ ?_ (Nat.zero_le _)⟩ <;>
      simp [header.base_length]
  · refine ⟨_, nextChunk_end (by omega) whole, .of_length ?_ ?_ (Nat.zero_le _)⟩ <;>
      simp [header.base_length]

/-- The bounds that the next poll relies on. -/
def State.InBounds : State → Prop
  | .waitingHeader buf => ∀ bufWrite, ∃ next, receiveHeaderIndexed buf bufWrite = some next
  | .waitingMessage buf header => 5 ≤ buf.ptr ∧ 5 ≤ header.len ∧ 5 ≤ buf.inner.length ∧
      Header.new buf.inner = some header
  | .sendingMessage buf header chunk => MessageBounds buf header chunk
  | .sendingRawBuffer _ | .sendingData => True

theorem Sending.bounds {accepted sent : List Byte} {record : Option Nat} {buf : Buffer}
    {header : Header} {chunk : Option Buffer}
    (sending : Sending accepted record sent buf header chunk) :
    MessageBounds buf header chunk where
  low := sending.low
  high := sending.high
  whole := by rw [sending.held]; exact sending.whole
  record := (Header.new_eq_some sending.hello.parsed).2.2
  held := by
    intro current same
    obtain ⟨built, cursor, _⟩ := sending.partway current same
    obtain ⟨next, again, bounds⟩ := nextChunk_bounds sending.high
      (by rw [sending.held]; exact sending.whole)
    rw [built] at again
    cases again
    exact .of_length bounds.least bounds.most cursor
  built := by
    intro ptr _ high
    exact nextChunk_bounds high (by rw [sending.held]; exact sending.whole)

theorem Holds.inBounds {accepted : List Byte} {record : Option Nat} {calls : List Call}
    {state : State} (holds : Holds accepted record calls state) : state.InBounds := by
  cases state with
  | waitingHeader buf =>
    intro bufWrite
    rw [receiveHeaderIndexed_eq]
    exact receiveHeader_some buf bufWrite
  | waitingMessage buf header =>
    obtain ⟨_, _, rfl, hello, _⟩ := holds
    obtain ⟨_, long, record⟩ := Header.new_eq_some hello.parsed
    exact ⟨Nat.le_refl 5, record, long, hello.parsed⟩
  | sendingMessage buf header chunk => exact holds.1.bounds
  | sendingRawBuffer buf => trivial
  | sendingData => trivial

/-- No poll of any kind ends in a panic, however many steps its loops are given. -/
structure PanicFree (inner : Inner S) (layer : FragmentLayer S) : Prop where
  polls : ∀ (event : Event) fuel after, (event.poll inner fuel).run layer ≠ .error .panicked after
  bounds : layer.state.InBounds

theorem poll_calm {accepted : List Byte} {record : Option Nat} (bounded : inner.Bounded)
    (event : Event) (fuel : Nat) :
    Triple (Kept accepted record) (event.poll inner fuel) (fun _ (_ : FragmentLayer S) => True)
      (fun exit _ => exit ≠ .panicked) := by
  cases event with
  | write bytes =>
    refine Triple.bind ((pollWrite_triple bounded fuel bytes).weaken (fun _ kept => kept)
      (fun _ _ _ => trivial) (fun _ _ left => left.1)) (fun _ => Triple.value _ ?_)
    exact fun _ _ => trivial
  | flush =>
    exact (pollFlush_triple bounded fuel).weaken (fun _ kept => Holds.entering kept)
      (fun _ _ _ => trivial) (fun _ _ left => left.1)
  | read expired room =>
    refine Triple.bind ((pollRead_triple bounded fuel expired room).weaken (fun _ kept => kept)
      (fun _ _ _ => trivial) (fun _ _ left => left.1)) (fun _ => Triple.value _ ?_)
    exact fun _ _ => trivial

theorem panicFree_of_kept (bounded : inner.Bounded) {run : Run S} (kept : RunKept run) :
    PanicFree inner run.layer where
  polls := by
    intro event fuel after panicked
    have calm := poll_calm bounded event fuel run.layer kept
    rw [panicked] at calm
    exact calm rfl
  bounds := Holds.inBounds kept

/-- From every state that polls can lead to, wherever each of them stopped and whatever
the stream below answered, the next poll does not panic. -/
theorem run_panicFree (bounded : inner.Bounded) (fuel : Nat) (stream : S) (events : List Event) :
    PanicFree inner (run inner fuel stream events).layer :=
  panicFree_of_kept bounded (run_kept bounded fuel stream events)

/-- A ClientHello that declares a record without payload, taken in and not yet flushed. -/
theorem run_panicFree_empty :
    PanicFree (upTo 64) (run (upTo 64) 20 () [.write [0x16, 3, 1, 0, 0, 1]]).layer :=
  run_panicFree (upTo_bounded 64) 20 () _

end LocalProxy.Fragment
