import LocalProxy.FragmentDecision

/-! The sending of a message as an encoder that may be suspended anywhere: what the stream
below takes while a message is sent is one record for each byte of its payload. -/

namespace LocalProxy.Fragment
open Polling

variable {S : Type} {inner : Inner S}

/-- A call made while a message is sent. -/
def Call.inMessage : Call → Bool
  | .write (.sendingMessage _ _ _) _ _ => true
  | .flush (.sendingMessage _ _ _) _ => true
  | _ => false

def inMessage (calls : List Call) : List Call := calls.filter Call.inMessage

/-- Every write is of one byte and comes right after a completed flush. -/
def Spaced (calls : List Call) : Prop :=
  ∀ earlier state slice answer later, calls = earlier ++ .write state slice answer :: later →
    slice.length = 1 ∧ ∃ before flushed, earlier = before ++ [.flush flushed (.ready (.ok ()))]

theorem spaced_nil : Spaced [] := by
  intro earlier state slice answer later split
  cases earlier <;> cases split

theorem Spaced.append {calls : List Call} {call : Call} (spaced : Spaced calls)
    (last : ∀ state slice answer, call = .write state slice answer → slice.length = 1 ∧
      ∃ before flushed, calls = before ++ [.flush flushed (.ready (.ok ()))]) :
    Spaced (calls ++ [call]) := by
  intro earlier state slice answer later split
  rcases split_concat split with ⟨front, found⟩ | ⟨rest, before⟩
  · rw [front]
    exact last state slice answer found.symm
  · exact spaced earlier state slice answer rest before

/-- The calls made since, all of them while a message is sent. -/
def SentSince (start calls : List Call) : Prop :=
  ∃ made, calls = start ++ made ∧ (∀ call ∈ made, call.inMessage = true) ∧ Spaced made

theorem sentSince_frame (start : List Call) : MessageFrame (SentSince start) where
  flushed := by
    intro calls buf header chunk answer since
    obtain ⟨made, whole, inside, spaced⟩ := since
    refine ⟨made ++ [.flush (.sendingMessage buf header (some chunk)) answer], ?_, ?_, ?_⟩
    · rw [whole, List.append_assoc]
    · intro call member
      rcases List.mem_append.mp member with earlier | last
      · exact inside call earlier
      · rw [List.mem_singleton.mp last]
        rfl
    · exact spaced.append (by simp)
  written := by
    intro calls buf header chunk byte answer since
    obtain ⟨made, whole, inside, spaced⟩ := since
    refine ⟨made ++ [.flush (.sendingMessage buf header (some chunk)) (.ready (.ok ()))] ++
      [.write (.sendingMessage buf header (some chunk)) [byte] answer], ?_, ?_, ?_⟩
    · simp only [whole, List.append_assoc]
    · intro call member
      simp only [List.mem_append, List.mem_singleton, or_assoc] at member
      rcases member with earlier | flush | write
      · exact inside call earlier
      · rw [flush]
        rfl
      · rw [write]
        rfl
    · refine Spaced.append (spaced.append (by simp)) ?_
      intro state slice answer same
      cases same
      exact ⟨rfl, made, _, rfl⟩

variable {accepted : List Byte} {header : Header} {start : List Call}

/-- The message is through, and the calls made while it was sent encode it. -/
def Encoded (accepted : List Byte) (header : Header) (start : List Call)
    (layer : FragmentLayer S) : Prop :=
  layer.state.isSendingMessage = false ∧ ∃ made, layer.calls = start ++ made ∧
    acknowledged (inMessage made) = sentUpTo accepted header header.len ∧ Spaced (inMessage made)

def Encoding (accepted : List Byte) (header : Header) (start : List Call)
    (layer : FragmentLayer S) : Prop :=
  Resumable accepted (some header.len) (SentSince start) header layer ∨
    Encoded accepted header start layer

/-- What is done after the message leaves the calls made for it as they are. -/
theorem encoded_frame : FlushFrame (Encoded (S := S) accepted header start) where
  asked := by
    intro layer below call asked encoded
    obtain ⟨past, made, whole, sent, spaced⟩ := encoded
    have outside : inMessage (made ++ [call]) = inMessage made := by
      have other : call.inMessage = false := by
        generalize layer.state = state at asked past
        cases asked with
        | flush state answer => cases state <;> first | rfl | cases past
        | chunk buf header chunk byte answer present => cases past
        | raw buf answer more => rfl
      simp [inMessage, List.filter_append, other]
    refine ⟨past, made ++ [call], ?_, ?_, ?_⟩
    · rw [FragmentLayer.note_calls, whole, List.append_assoc]
    · rw [outside, sent]
    · rw [outside]
      exact spaced
  advanced := by
    intro layer next advance encoded
    obtain ⟨past, rest⟩ := encoded
    refine ⟨?_, rest⟩
    generalize layer.state = state at advance past
    cases advance with
    | chunk buf header chunk n => cases past
    | cursor buf header chunk next n => cases past
    | release buf header chunk => rfl
    | raw buf n => rfl
    | done buf => rfl

theorem SentSince.encoded {layer : FragmentLayer S} {state : State} (fresh : acknowledged start = [])
    (since : SentSince start layer.calls) (past : state.isSendingMessage = false)
    (sent : acknowledged layer.calls = sentUpTo accepted header header.len) :
    Encoded accepted header start { layer with state := state } := by
  obtain ⟨made, whole, inside, spaced⟩ := since
  have all : inMessage made = made := List.filter_eq_self.mpr inside
  rw [whole, acknowledged_append, fresh, List.nil_append] at sent
  exact ⟨past, made, whole, by rw [all, sent], by rw [all]; exact spaced⟩

theorem pollFlush_encodes (bounded : inner.Bounded) (fresh : acknowledged start = [])
    (fuel : Nat) :
    Triple (Encoding accepted header start) (pollFlush inner fuel)
      (fun _ layer => Encoded accepted header start layer)
      (fun _ layer => Encoding accepted header start layer) := by
  have later : ∀ layer : FragmentLayer S, Encoded accepted header start layer →
      Encoding accepted header start layer := fun _ => .inr
  apply Triple.bind (Q := fun _ layer =>
    Encoded accepted header start layer ∧ layer.state.isSendingMessage = false)
  · apply Triple.read
    intro layer encoding
    rcases encoding with ⟨buf, chunk, message, unfinished⟩ | encoded
    · rw [message.state]
      apply Triple.bind ((sendMessage_triple bounded (sentSince_frame start) fuel buf chunk).weaken
        (by
          intro current same
          subst same
          exact ⟨message, fun current same => (unfinished current same).2⟩)
        (fun _ _ holds => holds) (fun _ _ holds => .inl holds.2))
      intro final
      apply setState_triple
      intro after holds
      obtain ⟨finished, between⟩ := holds
      refine ⟨between.framed.encoded fresh rfl ?_, rfl⟩
      rw [between.sent, finished]
    · cases state : layer.state with
      | sendingMessage buf header chunk =>
        have past := encoded.1
        rw [state] at past
        cases past
      | _ =>
        apply Triple.value
        intro current same
        subst same
        exact ⟨encoded, encoded.1⟩
  intro _
  apply Triple.bind ((flushRawBuffer_rule encoded_frame.rule fuel).exit
    (fun _ layer holds => later layer holds))
  intro _
  apply innerFlush_triple
  · intro layer below holds
    exact encoded_frame.asked layer below _ (.flush _ _) holds.1
  · intro layer below answer _ holds _
    exact later _ (encoded_frame.asked layer below _ (.flush _ answer) holds.1)

theorem Resumable.within {frame : List Call → Prop} {layer : FragmentLayer S}
    (resumable : Resumable accepted (some header.len) frame header layer) :
    acknowledged layer.calls <+: sentUpTo accepted header header.len := by
  obtain ⟨buf, chunk, message, unfinished⟩ := resumable
  cases chunk with
  | none =>
    rw [(message.sending.fresh rfl).2]
    exact List.nil_prefix
  | some current =>
    have inside := (unfinished current rfl).1
    exact (message.sending.within inside).trans (sentUpTo_mono accepted header inside)

/-- What a flush leaves behind, however it ends. -/
def flushed (inner : Inner S) (layer : FragmentLayer S) (fuel : Nat) : FragmentLayer S :=
  match (pollFlush inner fuel).run layer with
  | .ok _ after => after
  | .error _ after => after

def flushes (inner : Inner S) (layer : FragmentLayer S) (fuels : List Nat) : FragmentLayer S :=
  fuels.foldl (flushed inner) layer

theorem flushes_encoding (bounded : inner.Bounded) (fresh : acknowledged start = [])
    (fuels : List Nat) (layer : FragmentLayer S) (encoding : Encoding accepted header start layer) :
    Encoding accepted header start (flushes inner layer fuels) := by
  induction fuels generalizing layer with
  | nil => exact encoding
  | cons fuel rest ih =>
    apply ih
    have poll := pollFlush_encodes bounded fresh fuel layer encoding
    unfold flushed
    cases result : (pollFlush inner fuel).run layer with
    | ok value after => rw [result] at poll; exact .inr poll
    | error exit after => rw [result] at poll; exact poll

/-- A write that starts past the waiting ends past the handshake. -/
theorem pollWrite_ended (fuel : Nat) (bytes : List Byte) (state : State)
    (gone : state.isWaiting = false) :
    Triple (fun layer : FragmentLayer S => layer.state = state) (pollWrite inner fuel bytes)
      (fun _ layer => layer.state = .sendingData) (fun _ _ => True) := by
  apply Triple.bind ((whenSendingBuffer_flush (after_frame state).rule fuel).weaken
    (by
      intro layer same
      rw [After, same]
      exact onward_refl state)
    (fun _ _ holds => holds) (fun _ _ _ => trivial))
  intro _
  apply Triple.read
  intro layer both
  obtain ⟨after, settled⟩ := both
  apply Triple.branch
  · intro ended
    apply ask_triple
    · intro current below n same _
      rw [same]
      exact State.ended ended
    · intro _ _ _ _ _ _ _
      trivial
  · intro unended
    have waiting := State.waiting settled (by simpa using unended)
    rw [(after gone).1] at waiting
    cases waiting

/-- The state `SendingMessage` is only ever entered with the whole record in the buffer,
the cursor behind its header, and nothing sent. -/
theorem write_enters (bounded : inner.Bounded) {fuel : Nat} {stream : S} {events : List Event}
    {bytes : List Byte} {n : Nat} {layer : FragmentLayer S} {buf : Buffer} {chunk : Option Buffer}
    (wrote : (pollWrite inner fuel bytes).run (run inner fuel stream events).layer = .ok n layer)
    (entered : layer.state = .sendingMessage buf header chunk) :
    Settles buf.inner layer.state ∧ acknowledged layer.calls = [] := by
  have kept := run_kept bounded fuel stream events
  generalize run inner fuel stream events = now at kept wrote
  by_cases waiting : now.layer.state.isWaiting = true
  · obtain ⟨_, nothing, settles⟩ := Holds.waiting kept waiting
    obtain ⟨next, received, after⟩ := receive_settles bytes settles waiting
    rw [pollWrite_waiting inner fuel waiting received] at wrote
    cases wrote
    have same : next = .sendingMessage buf header chunk := entered
    subst same
    have held : buf.inner = now.accepted ++ bytes := congrArg Buffer.inner after.1
    rw [held]
    exact ⟨after, nothing⟩
  · have gone : now.layer.state.isWaiting = false := by simpa using waiting
    have poll : Triple _ (pollWrite inner fuel bytes) _ _ :=
      pollWrite_ended fuel bytes now.layer.state gone
    have ended := poll now.layer rfl
    rw [wrote] at ended
    have ended : layer.state = .sendingData := ended
    rw [entered] at ended
    cases ended

/-- One TLS record: the bytes it opens with, and its payload. -/
def readRecord : List Byte → Option ((List Byte × List Byte) × List Byte)
  | kind :: major :: minor :: high :: low :: rest =>
    let len := u16FromBeBytes high low
    if len ≤ rest.length then some (([kind, major, minor], rest.take len), rest.drop len) else none
  | _ => none

/-- The records that some bytes consist of, as far as there are this many of them. -/
def readRecords : Nat → List Byte → Option (List (List Byte × List Byte))
  | _, [] => some []
  | 0, _ => none
  | most + 1, bytes => do
    let (record, rest) ← readRecord bytes
    let records ← readRecords most rest
    some (record :: records)

theorem readRecord_fragment {base : List Byte} (three : base.length = 3) (byte : Byte)
    (rest : List Byte) : readRecord (base ++ [0, 1, byte] ++ rest) = some ((base, [byte]), rest) := by
  match base with
  | [kind, major, minor] => simp [readRecord, u16FromBeBytes]

/-- The reader finds one record for each byte, and none that is empty. -/
theorem readRecords_fragments {base : List Byte} (three : base.length = 3) (payload : List Byte) :
    readRecords payload.length (fragments base payload) =
      some (payload.map fun byte => (base, [byte])) := by
  induction payload with
  | nil => rfl
  | cons byte rest ih =>
    have shape : fragments base (byte :: rest) = base ++ [0, 1, byte] ++ fragments base rest := rfl
    have nonempty : base ++ [0, 1, byte] ++ fragments base rest ≠ [] := by simp
    have step : ∀ most bytes, bytes ≠ [] → readRecords (most + 1) bytes = (do
        let (record, rest) ← readRecord bytes
        let records ← readRecords most rest
        some (record :: records)) := by
      intro most bytes some
      cases bytes with
      | nil => exact (some rfl).elim
      | cons first more => rfl
    rw [shape, List.length_cons, step _ _ nonempty, readRecord_fragment three]
    simp [ih]

/-- These calls encode a payload, and all of it once the message is left. -/
structure Encodes (base payload : List Byte) (calls : List Call) (ended : Prop) : Prop where
  sent : acknowledged calls <+: fragments base payload
  whole : ended → acknowledged calls = fragments base payload
  read : ended → ∃ records, readRecords payload.length (acknowledged calls) = some records ∧
    (∀ record ∈ records, record.1 = base ∧ record.2.length = 1) ∧
    (records.map Prod.snd).flatten = payload
  single : ∀ state slice answer, .write state slice answer ∈ calls → slice.length = 1
  flushed : ∀ earlier first between second later,
    calls = earlier ++ first :: (between ++ second :: later) → first.taken ≠ [] →
      second.taken ≠ [] → ∃ state, .flush state (.ready (.ok ())) ∈ between

theorem Spaced.single {calls : List Call} (spaced : Spaced calls) {state : State}
    {slice : List Byte} {answer : Poll (Except IoError Nat)}
    (member : .write state slice answer ∈ calls) : slice.length = 1 := by
  obtain ⟨earlier, later, split⟩ := List.append_of_mem member
  exact (spaced earlier state slice answer later split).1

theorem Spaced.between {calls earlier between later : List Call} {first second : Call}
    (spaced : Spaced calls) (split : calls = earlier ++ first :: (between ++ second :: later))
    (one : first.taken ≠ []) (two : second.taken ≠ []) :
    ∃ state, .flush state (.ready (.ok ())) ∈ between := by
  cases second with
  | write state slice answer =>
    rw [← List.cons_append, ← List.append_assoc] at split
    obtain ⟨_, before, flushed, same⟩ := spaced _ state slice answer later split
    rcases List.eq_nil_or_concat between with empty | ⟨front, last, concat⟩
    · subst between
      have last := (List.append_inj' same rfl).2
      rw [(List.cons.inj last).1] at one
      exact (one rfl).elim
    · subst between
      rw [List.concat_eq_append, ← List.cons_append, ← List.append_assoc] at same
      have last := (List.cons.inj (List.append_inj' same rfl).2).1
      refine ⟨flushed, ?_⟩
      rw [List.concat_eq_append, last]
      simp
  | read room answer => exact (two rfl).elim
  | flush state answer => exact (two rfl).elim
  | shutdown answer => exact (two rfl).elim

theorem payloads_flatten (base payload : List Byte) :
    ((payload.map fun byte => (base, [byte])).map Prod.snd).flatten = payload := by
  induction payload with
  | nil => rfl
  | cons byte rest ih => simpa using ih

theorem spaced_encodes {calls : List Call} {ended : Prop} (spaced : Spaced calls)
    {base payload : List Byte} (three : base.length = 3)
    (sent : acknowledged calls <+: fragments base payload)
    (whole : ended → acknowledged calls = fragments base payload) :
    Encodes base payload calls ended := by
  refine ⟨sent, whole, ?_, fun _ _ _ => spaced.single, fun _ _ _ _ _ => spaced.between⟩
  intro finished
  refine ⟨payload.map fun byte => (base, [byte]), ?_, ?_, ?_⟩
  · rw [whole finished]
    exact readRecords_fragments three payload
  · intro record member
    obtain ⟨byte, _, same⟩ := List.mem_map.mp member
    rw [← same]
    exact ⟨rfl, rfl⟩
  · exact payloads_flatten base payload

/-- While a message is sent, over any flushes that are suspended or fail anywhere, the
stream below takes a prefix of its fragments, byte by byte with a completed flush before
each, and all of them by the time the state is left; a reader of records gets back its
payload. -/
theorem message_encoded (bounded : inner.Bounded) {fuel : Nat} {stream : S} {events : List Event}
    {bytes : List Byte} {n : Nat} {layer : FragmentLayer S} {buf : Buffer} {chunk : Option Buffer}
    (wrote : (pollWrite inner fuel bytes).run (run inner fuel stream events).layer = .ok n layer)
    (entered : layer.state = .sendingMessage buf header chunk) (fuels : List Nat) :
    let final := flushes inner layer fuels
    let payload := (buf.inner.take header.len).drop 5
    payload.length = declared buf.inner ∧
    ∃ made, final.calls = layer.calls ++ made ∧
      Encodes (buf.inner.take 3) payload (inMessage made) (final.state.isSendingMessage = false) := by
  obtain ⟨settles, fresh⟩ := write_enters bounded wrote entered
  rw [entered] at settles
  obtain ⟨start, unsent, hello, whole⟩ := settles
  have len := Header.new_len hello.parsed
  have base := (Header.new_eq_some hello.parsed).1
  have three : (buf.inner.take 3).length = 3 := by
    have long := hello.long
    simp only [List.length_take]
    omega
  have due : sentUpTo buf.inner header header.len =
      fragments (buf.inner.take 3) ((buf.inner.take header.len).drop 5) := by
    rw [sentUpTo, base]
  refine ⟨by simp only [List.length_drop, List.length_take]; omega, ?_⟩
  have opening : Encoding buf.inner header layer.calls layer := by
    left
    refine ⟨buf, chunk, ⟨entered, ?_, [], (List.append_nil _).symm, by simp, spaced_nil⟩, ?_⟩
    · subst unsent
      have low : buf.ptr = 5 := congrArg Buffer.ptr start
      exact ⟨hello, rfl, whole, rfl, by omega, by omega, fun _ => ⟨low, fresh⟩, by simp, by simp⟩
    · intro current same
      rw [unsent] at same
      cases same
  rcases flushes_encoding bounded fresh fuels layer opening with resumable | encoded
  · have within := resumable.within
    obtain ⟨_, _, message, _⟩ := resumable
    obtain ⟨made, calls, inside, spaced⟩ := message.framed
    have all : inMessage made = made := List.filter_eq_self.mpr inside
    refine ⟨made, calls, ?_⟩
    rw [calls, acknowledged_append, fresh, List.nil_append, due] at within
    rw [all]
    apply spaced_encodes spaced three within
    intro ended
    rw [message.state] at ended
    cases ended
  · obtain ⟨_, made, calls, sent, spaced⟩ := encoded
    rw [due] at sent
    exact ⟨made, calls, spaced_encodes spaced three (by rw [sent]) (fun _ => sent)⟩

/-- The layer with a ClientHello of two payload bytes to be sent. -/
def helloLayer : FragmentLayer Unit :=
  ⟨(), .sendingMessage ⟨[0x16, 3, 1, 0, 2, 1, 9], 5⟩ ⟨[0x16, 3, 1], 7, rfl⟩ none, none, []⟩

theorem message_encoded_hello : ∃ made,
    (pollWrite (upTo 64) 20 [0x16, 3, 1, 0, 2, 1, 9]).run (run (upTo 64) 20 () []).layer =
      .ok 7 helloLayer ∧
    (flushes (upTo 64) helloLayer [8, 20]).calls = helloLayer.calls ++ made ∧
    (flushes (upTo 64) helloLayer [8, 20]).state.isSendingMessage = false ∧
    acknowledged (inMessage made) = [0x16, 3, 1, 0, 1, 1, 0x16, 3, 1, 0, 1, 9] ∧
    Encodes [0x16, 3, 1] [1, 9] (inMessage made)
      ((flushes (upTo 64) helloLayer [8, 20]).state.isSendingMessage = false) := by
  have wrote : (pollWrite (upTo 64) 20 [0x16, 3, 1, 0, 2, 1, 9]).run
      (run (upTo 64) 20 () []).layer = .ok 7 helloLayer :=
    pollWrite_waiting (upTo 64) 20 rfl (by decide)
  obtain ⟨_, made, calls, encodes⟩ := message_encoded (upTo_bounded 64) wrote rfl [8, 20]
  have ended : (flushes (upTo 64) helloLayer [8, 20]).state.isSendingMessage = false := by
    decide +kernel
  exact ⟨made, wrote, calls, ended, encodes.whole ended, encodes⟩

end LocalProxy.Fragment
