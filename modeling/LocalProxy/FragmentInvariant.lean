import LocalProxy.FragmentRun

/-! What holds of a fragmenting stream in each of its states, and that every poll
keeps it, whatever the stream below answers and wherever the poll stops. -/

namespace LocalProxy.Fragment
open Polling

/-- The bytes open with a handshake record whose message is a ClientHello. -/
structure Hello (accepted : List Byte) (header : Header) : Prop where
  handshake : accepted[0]? = some 0x16
  clientHello : accepted[5]? = some 0x01
  parsed : Header.new accepted = some header

theorem Header.new_eq_some {bytes : List Byte} {header : Header}
    (parsed : Header.new bytes = some header) :
    header.base = bytes.take 3 ∧ 5 ≤ bytes.length ∧ 5 ≤ header.len := by
  unfold Header.new at parsed
  split at parsed
  next short => cases parsed
  next long =>
    cases parsed
    exact ⟨rfl, by omega, by simp⟩

theorem Header.new_append {bytes : List Byte} {header : Header} (more : List Byte)
    (parsed : Header.new bytes = some header) : Header.new (bytes ++ more) = some header := by
  have long := (Header.new_eq_some parsed).2.1
  have first : ¬ bytes.length < 5 := by omega
  have both : ¬ (bytes ++ more).length < 5 := by simp only [List.length_append]; omega
  unfold Header.new at parsed ⊢
  rw [dif_neg first] at parsed
  rw [dif_neg both, ← parsed]
  congr 1
  have take : (bytes ++ more).take 3 = bytes.take 3 :=
    List.take_append_of_le_length (by omega)
  simp only [take, List.getElem_append_left (show 3 < bytes.length by omega),
    List.getElem_append_left (show 4 < bytes.length by omega)]

theorem Header.new_of_long {bytes : List Byte} (long : 5 ≤ bytes.length) :
    ∃ header, Header.new bytes = some header := by
  unfold Header.new
  rw [dif_neg (by omega)]
  exact ⟨_, rfl⟩

theorem Hello.long {accepted : List Byte} {header : Header} (hello : Hello accepted header) :
    6 ≤ accepted.length := by
  have present := (List.getElem?_eq_some_iff.mp hello.clientHello).1
  omega

theorem Hello.append {accepted : List Byte} {header : Header} (hello : Hello accepted header)
    (more : List Byte) : Hello (accepted ++ more) header where
  handshake := by
    rw [List.getElem?_append_left (by have := hello.long; omega)]
    exact hello.handshake
  clientHello := by
    rw [List.getElem?_append_left (by have := hello.long; omega)]
    exact hello.clientHello
  parsed := Header.new_append more hello.parsed

/-- A ClientHello header over a record without payload. -/
def EmptyHello (bytes : List Byte) : Prop :=
  bytes[0]? = some 0x16 ∧ bytes[5]? = some 0x01 ∧ (Header.new bytes).map Header.len = some 5

instance (bytes : List Byte) : Decidable (EmptyHello bytes) :=
  inferInstanceAs (Decidable (_ ∧ _ ∧ _))

theorem Hello.empty_iff {accepted : List Byte} {header : Header} (hello : Hello accepted header) :
    EmptyHello accepted ↔ header.len = 5 := by
  simp [EmptyHello, hello.handshake, hello.clientHello, hello.parsed]

/-- The whole buffer is what is due: nothing of it was sent before. A record without
payload is left with the cursor behind it though nothing was sent. -/
def Call.FromStart : Call → Prop
  | .write (.sendingRawBuffer buf) _ (.ready (.ok n)) =>
      buf.ptr = 0 ∨ (EmptyHello buf.inner ∧ buf.ptr = 5 ∧
        (n = buf.inner.length ∨ 5 + n < buf.inner.length))
  | _ => True

instance : DecidablePred Call.FromStart
  | .read _ _ => isTrue trivial
  | .flush _ _ => isTrue trivial
  | .shutdown _ => isTrue trivial
  | .write (.waitingHeader _) _ _ => isTrue trivial
  | .write (.waitingMessage _ _) _ _ => isTrue trivial
  | .write (.sendingMessage _ _ _) _ _ => isTrue trivial
  | .write .sendingData _ _ => isTrue trivial
  | .write (.sendingRawBuffer _) _ .pending => isTrue trivial
  | .write (.sendingRawBuffer _) _ (.ready (.error _)) => isTrue trivial
  | .write (.sendingRawBuffer buf) _ (.ready (.ok n)) =>
      inferInstanceAs (Decidable (buf.ptr = 0 ∨ (EmptyHello buf.inner ∧ buf.ptr = 5 ∧
        (n = buf.inner.length ∨ 5 + n < buf.inner.length))))

def AllFromStart (calls : List Call) : Prop := ∀ call ∈ calls, call.FromStart

instance (calls : List Call) : Decidable (AllFromStart calls) :=
  inferInstanceAs (Decidable (∀ call ∈ calls, call.FromStart))

theorem AllFromStart.initial {calls more : List Call} (all : AllFromStart (calls ++ more)) :
    AllFromStart calls :=
  fun call member => all call (List.mem_append_left _ member)

theorem AllFromStart.last {calls : List Call} {call : Call} (all : AllFromStart (calls ++ [call])) :
    call.FromStart :=
  all call (by simp)

/-- Records sent for the payload up to the cursor. -/
def sentUpTo (accepted : List Byte) (header : Header) (ptr : Nat) : List Byte :=
  fragments header.base ((accepted.take ptr).drop 5)

/-- In the middle of a message: the chunk in hand is the one the cursor stands at. -/
structure Sending (accepted : List Byte) (record : Option Nat) (sent : List Byte)
    (buf : Buffer) (header : Header) (chunk : Option Buffer) : Prop where
  hello : Hello accepted header
  recorded : record = some header.len
  whole : header.len ≤ accepted.length
  held : buf.inner = accepted
  low : 5 ≤ buf.ptr
  high : buf.ptr ≤ header.len
  fresh : chunk = none → buf.ptr = 5 ∧ sent = []
  partway : ∀ current, chunk = some current →
    nextChunk buf header = some { current with ptr := 0 } ∧
      current.ptr ≤ current.inner.length ∧
      sent = sentUpTo accepted header buf.ptr ++ current.inner.take current.ptr
  surplus : ∀ current, chunk = some current → buf.ptr = header.len → current.ptr = 0

/-- The bytes sent on the raw path, against the cursor. -/
structure RawSent (accepted : List Byte) (record : Option Nat) (sent : List Byte) (ptr : Nat) :
    Prop where
  due : sent <+: wire record accepted
  done : sent = wire record accepted ↔ accepted.length ≤ ptr
  start : ptr = 0 → sent = [] ∧ record = none
  empty : EmptyHello accepted → ptr = 5 → sent = [] ∧ record = some 5

structure RawHeld (accepted : List Byte) (record : Option Nat) (calls : List Call)
    (buf : Buffer) : Prop where
  held : buf.inner = accepted
  fits : ∀ len, record = some len → len ≤ accepted.length
  other : record = none → ¬ EmptyHello accepted
  sent : AllFromStart calls → RawSent accepted record (acknowledged calls) buf.ptr

/-- The invariant, state by state, as it stands whenever a poll has returned. -/
def Holds (accepted : List Byte) (record : Option Nat) (calls : List Call) : State → Prop
  | .waitingHeader buf => record = none ∧ acknowledged calls = [] ∧ buf = ⟨accepted, 0⟩ ∧
      accepted.length < 6 ∧ (accepted = [] ∨ accepted[0]? = some 0x16)
  | .waitingMessage buf header => record = none ∧ acknowledged calls = [] ∧
      buf = ⟨accepted, 5⟩ ∧ Hello accepted header ∧ accepted.length < header.len
  | .sendingMessage buf header chunk =>
      Sending accepted record (acknowledged calls) buf header chunk ∧
      ∀ current, chunk = some current →
        buf.ptr < header.len ∧ current.ptr < current.inner.length
  | .sendingRawBuffer buf => RawHeld accepted record calls buf ∧ buf.ptr < accepted.length
  | .sendingData => (∀ len, record = some len → len ≤ accepted.length) ∧
      (AllFromStart calls → acknowledged calls = wire record accepted)

theorem sliceOf_eq {bytes : List Byte} {first last : Nat} (ordered : first ≤ last)
    (inside : last ≤ bytes.length) :
    sliceOf bytes first last = some ((bytes.take last).drop first) := by
  rw [sliceOf, if_pos ⟨ordered, inside⟩]

theorem slice_single {bytes : List Byte} {position : Nat} {byte : Byte}
    (present : bytes[position]? = some byte) :
    (bytes.take (position + 1)).drop position = [byte] := by
  have inside := (List.getElem?_eq_some_iff.mp present).1
  rw [List.take_add_one, present, List.drop_append_of_le_length (by simp; omega),
    List.drop_eq_nil_of_le (by simp only [List.length_take]; omega)]
  rfl

/-- While the cursor is inside the record, the next chunk carries the byte under it. -/
theorem nextChunk_inside {buf : Buffer} {header : Header} {byte : Byte}
    (inside : buf.ptr < header.len) (present : buf.inner[buf.ptr]? = some byte) :
    nextChunk buf header = some ⟨header.base ++ [0, 1, byte], 0⟩ := by
  have bound := (List.getElem?_eq_some_iff.mp present).1
  have last : ¬ buf.ptr + msgMaxSize > header.len := by unfold msgMaxSize; omega
  unfold nextChunk
  simp only [if_neg last]
  rw [msgMaxSize, sliceOf_eq (by omega) (by omega), slice_single present]
  simp [u16ToBeBytes]

/-- Once it is at the end, one more chunk is built. It has no payload and is never sent. -/
theorem nextChunk_end {buf : Buffer} {header : Header} (at_end : buf.ptr = header.len)
    (whole : header.len ≤ buf.inner.length) :
    nextChunk buf header = some ⟨header.base ++ [0, 0], 0⟩ := by
  have last : buf.ptr + msgMaxSize > header.len := by unfold msgMaxSize; omega
  unfold nextChunk
  simp only [if_pos last, sliceOf_eq (show buf.ptr ≤ header.len by omega) whole]
  rw [List.drop_eq_nil_of_le (by simp only [List.length_take]; omega)]
  simp [u16ToBeBytes]

theorem sentUpTo_low (accepted : List Byte) (header : Header) : sentUpTo accepted header 5 = [] := by
  rw [sentUpTo, List.drop_eq_nil_of_le (by simp only [List.length_take]; omega)]
  rfl

theorem sentUpTo_succ {accepted : List Byte} (header : Header) {ptr : Nat} {byte : Byte}
    (low : 5 ≤ ptr) (present : accepted[ptr]? = some byte) :
    sentUpTo accepted header (ptr + 1) =
      sentUpTo accepted header ptr ++ (header.base ++ [0, 1, byte]) := by
  have inside := (List.getElem?_eq_some_iff.mp present).1
  have long : 5 ≤ (accepted.take ptr).length := by simp only [List.length_take]; omega
  rw [sentUpTo, List.take_add_one, present, List.drop_append_of_le_length long, fragments_append]
  simp only [Option.toList_some, fragments_single, sentUpTo]

theorem sentUpTo_mono (accepted : List Byte) (header : Header) {ptr last : Nat}
    (ordered : ptr ≤ last) : sentUpTo accepted header ptr <+: sentUpTo accepted header last := by
  have initial : accepted.take ptr <+: accepted.take last := List.take_prefix_take_left ordered
  obtain ⟨rest, same⟩ := initial.drop 5
  exact ⟨fragments header.base rest, by rw [sentUpTo, sentUpTo, ← same, fragments_append]⟩

/-- The due bytes are the records of the payload, then what follows the record. -/
theorem wire_hello {accepted : List Byte} {header : Header} (hello : Hello accepted header)
    (payload : 5 < header.len) (whole : header.len ≤ accepted.length) :
    wire (some header.len) accepted =
      sentUpTo accepted header header.len ++ accepted.drop header.len := by
  have long : ¬ (accepted.take header.len).length ≤ 5 := by
    simp only [List.length_take]; omega
  have base := (Header.new_eq_some hello.parsed).1
  simp only [wire, frag, if_neg long, sentUpTo, base, List.take_take,
    show min 3 header.len = 3 by omega]

variable {accepted : List Byte} {record : Option Nat} {sent : List Byte}
  {buf : Buffer} {header : Header} {chunk : Option Buffer}

theorem Sending.present (sending : Sending accepted record sent buf header chunk)
    (inside : buf.ptr < header.len) : ∃ byte, accepted[buf.ptr]? = some byte := by
  have bound : buf.ptr < accepted.length := by have := sending.whole; omega
  exact ⟨accepted[buf.ptr], List.getElem?_eq_getElem bound⟩

theorem Sending.chunk_inner {current : Buffer}
    (sending : Sending accepted record sent buf header (some current)) {byte : Byte}
    (inside : buf.ptr < header.len) (present : accepted[buf.ptr]? = some byte) :
    current.inner = header.base ++ [0, 1, byte] := by
  have built := nextChunk_inside inside (by rw [sending.held]; exact present)
  have chunk := (sending.partway current rfl).1
  rw [built] at chunk
  exact (congrArg Buffer.inner (Option.some.inj chunk)).symm

/-- What is sent of a chunk that is not through ends within its record. -/
theorem Sending.within {current : Buffer}
    (sending : Sending accepted record sent buf header (some current))
    (inside : buf.ptr < header.len) : sent <+: sentUpTo accepted header (buf.ptr + 1) := by
  obtain ⟨byte, present⟩ := sending.present inside
  rw [sentUpTo_succ header sending.low present, ← sending.chunk_inner inside present,
    (sending.partway current rfl).2.2]
  exact (List.prefix_append_right_inj _).mpr (List.take_prefix _ _)

/-- The bytes sent so far end strictly before the record does. -/
theorem Sending.sent_short (sending : Sending accepted record sent buf header chunk)
    (unfinished : ∀ current, chunk = some current →
      buf.ptr < header.len ∧ current.ptr < current.inner.length) :
    sent <+: wire record accepted ∧ sent ≠ wire record accepted := by
  have long := sending.hello.long
  rw [sending.recorded]
  cases chunk with
  | none =>
    obtain ⟨ptr, nothing⟩ := sending.fresh rfl
    rw [nothing]
    refine ⟨List.nil_prefix, fun same => ?_⟩
    by_cases payload : 5 < header.len
    · rw [wire_hello sending.hello payload sending.whole] at same
      have first : 5 < accepted.length := by omega
      have one := sentUpTo_succ header (Nat.le_refl 5) (List.getElem?_eq_getElem first)
      rw [sentUpTo_low] at one
      have initial := sentUpTo_mono accepted header (show 5 + 1 ≤ header.len by omega)
      rw [(List.append_eq_nil_iff.mp same.symm).1, one] at initial
      simp at initial
    · have len : header.len = 5 := by have := sending.low; have := sending.high; omega
      rw [len, wire_empty_record] at same
      rw [← same] at long
      simp at long
  | some current =>
    obtain ⟨inside, more⟩ := unfinished current rfl
    obtain ⟨_, bound, sentIs⟩ := sending.partway current rfl
    obtain ⟨byte, present⟩ := sending.present inside
    have payload : 5 < header.len := by have := sending.low; omega
    have whole := sentUpTo_succ header sending.low present
    rw [← sending.chunk_inner inside present] at whole
    have initial : sentUpTo accepted header (buf.ptr + 1) <+: wire (some header.len) accepted := by
      rw [wire_hello sending.hello payload sending.whole]
      exact (sentUpTo_mono accepted header inside).trans (List.prefix_append _ _)
    refine ⟨(sending.within inside).trans initial, fun same => ?_⟩
    have upper := initial.length_le
    have exact_length : sent.length = (sentUpTo accepted header buf.ptr).length + current.ptr := by
      rw [sentIs, List.length_append, List.length_take, Nat.min_eq_left bound]
    rw [← same, whole, List.length_append, exact_length] at upper
    omega

end LocalProxy.Fragment
