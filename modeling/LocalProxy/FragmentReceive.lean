import LocalProxy.FragmentInvariant

/-! What becomes of the bytes taken in while the layer waits: which state they lead to
depends on all the bytes accepted so far, and not on how they were split into writes. -/

namespace LocalProxy.Fragment
open Polling

/-- The length that the header of a record declares for its payload. -/
def declared (accepted : List Byte) : Nat :=
  u16FromBeBytes (accepted[3]?.getD 0) (accepted[4]?.getD 0)

/-- Too few bytes to tell what they open with, or a ClientHello that is not yet whole. -/
def Undecided (accepted : List Byte) : Prop :=
  accepted = [] ∨ accepted[0]? = some 0x16 ∧
    (accepted.length < 6 ∨ accepted[5]? = some 0x01 ∧ accepted.length < 5 + declared accepted)

/-- Anything but a handshake record that opens with a ClientHello. -/
def Foreign (accepted : List Byte) : Prop :=
  accepted ≠ [] ∧ accepted[0]? ≠ some 0x16 ∨ 6 ≤ accepted.length ∧ accepted[5]? ≠ some 0x01

/-- A whole record that opens with a ClientHello, whatever follows it. -/
def Complete (accepted : List Byte) : Prop :=
  accepted[0]? = some 0x16 ∧ accepted[5]? = some 0x01 ∧
    max 6 (5 + declared accepted) ≤ accepted.length

theorem Header.new_len {bytes : List Byte} {header : Header}
    (parsed : Header.new bytes = some header) : header.len = 5 + declared bytes := by
  have long := (Header.new_eq_some parsed).2.1
  unfold Header.new at parsed
  rw [dif_neg (by omega)] at parsed
  cases parsed
  simp only [declared, List.getElem?_eq_getElem (show 3 < bytes.length by omega),
    List.getElem?_eq_getElem (show 4 < bytes.length by omega), Option.getD_some]
  omega

theorem Foreign.decided {accepted : List Byte} (foreign : Foreign accepted) :
    ¬ Undecided accepted := by
  rintro (empty | ⟨handshake, short | ⟨clientHello, _⟩⟩)
  · subst empty
    rcases foreign with ⟨nonempty, _⟩ | ⟨long, _⟩
    · exact nonempty rfl
    · cases long
  · rcases foreign with ⟨_, other⟩ | ⟨long, _⟩
    · exact other handshake
    · omega
  · rcases foreign with ⟨_, other⟩ | ⟨_, other⟩
    · exact other handshake
    · exact other clientHello

theorem Foreign.incomplete {accepted : List Byte} (foreign : Foreign accepted) :
    ¬ Complete accepted := by
  rintro ⟨handshake, clientHello, _⟩
  rcases foreign with ⟨_, other⟩ | ⟨_, other⟩
  · exact other handshake
  · exact other clientHello

theorem Complete.decided {accepted : List Byte} (complete : Complete accepted) :
    ¬ Undecided accepted := by
  obtain ⟨handshake, clientHello, whole⟩ := complete
  rintro (empty | ⟨_, short | ⟨_, short⟩⟩)
  · rw [empty] at handshake
    cases handshake
  · omega
  · omega

theorem Hello.complete {accepted : List Byte} {header : Header} (hello : Hello accepted header)
    (whole : header.len ≤ accepted.length) : Complete accepted := by
  have len := Header.new_len hello.parsed
  have long := hello.long
  exact ⟨hello.handshake, hello.clientHello, by omega⟩

/-- The bytes that are taken for a ClientHello or for other traffic stay so. -/
theorem decided_append {accepted : List Byte} (decided : ¬ Undecided accepted)
    (more : List Byte) : ¬ Undecided (accepted ++ more) := by
  have nonempty : accepted ≠ [] := fun empty => decided (.inl empty)
  have first : (accepted ++ more)[0]? = accepted[0]? :=
    List.getElem?_append_left (List.length_pos_iff.mpr nonempty)
  rintro (empty | ⟨handshake, rest⟩)
  · exact nonempty (List.append_eq_nil_iff.mp empty).1
  · rw [first] at handshake
    have long : 6 ≤ accepted.length := by
      by_contra short
      exact decided (.inr ⟨handshake, .inl (by omega)⟩)
    rcases rest with short | ⟨clientHello, short⟩
    · simp only [List.length_append] at short
      omega
    · have same : declared (accepted ++ more) = declared accepted := by
        simp only [declared, List.getElem?_append_left (show 3 < accepted.length by omega),
          List.getElem?_append_left (show 4 < accepted.length by omega)]
      rw [List.getElem?_append_left (by omega)] at clientHello
      rw [same, List.length_append] at short
      exact decided (.inr ⟨handshake, .inr ⟨clientHello, by omega⟩⟩)

/-- The state that the bytes accepted have led to, as it is right after a write while
the layer was waiting. -/
def Settles (accepted : List Byte) : State → Prop
  | .waitingHeader buf => buf = ⟨accepted, 0⟩ ∧ accepted.length < 6 ∧
      (accepted = [] ∨ accepted[0]? = some 0x16)
  | .waitingMessage buf header => buf = ⟨accepted, 5⟩ ∧ Hello accepted header ∧
      accepted.length < header.len
  | .sendingMessage buf header chunk => buf = ⟨accepted, 5⟩ ∧ chunk = none ∧
      Hello accepted header ∧ header.len ≤ accepted.length
  | .sendingRawBuffer buf => buf = ⟨accepted, 0⟩ ∧ Foreign accepted
  | .sendingData => False

theorem receiveMessage_settles {accepted : List Byte} {header : Header} (more : List Byte)
    (hello : Hello (accepted ++ more) header) :
    Settles (accepted ++ more) (receiveMessage ⟨accepted, 5⟩ header more) := by
  simp only [receiveMessage]
  split
  next whole => exact ⟨rfl, rfl, hello, whole⟩
  next part => exact ⟨rfl, hello, by omega⟩

theorem receiveHeader_settles {accepted : List Byte} (more : List Byte) :
    ∃ next, receive (.waitingHeader ⟨accepted, 0⟩) more = some next ∧
      Settles (accepted ++ more) next := by
  by_cases foreign : accepted ++ more ≠ [] ∧ (accepted ++ more)[0]? ≠ some 0x16
  · refine ⟨.sendingRawBuffer ⟨accepted ++ more, 0⟩, ?_, rfl, .inl foreign⟩
    simp only [receive, receiveHeader, if_pos foreign]
    rfl
  · by_cases long : (accepted ++ more).length ≥ 6
    · by_cases other : (accepted ++ more)[5]? ≠ some 0x01
      · refine ⟨.sendingRawBuffer ⟨accepted ++ more, 0⟩, ?_, rfl, .inr ⟨long, other⟩⟩
        simp only [receive, receiveHeader, if_neg foreign, if_pos long, if_pos other]
        rfl
      · obtain ⟨header, parsed⟩ := Header.new_of_long (show 5 ≤ (accepted ++ more).length by omega)
        have nonempty : accepted ++ more ≠ [] := by
          rintro empty
          rw [empty] at long
          simp at long
        have hello : Hello (accepted ++ more) header := by
          refine ⟨?_, by simpa using other, parsed⟩
          by_contra different
          exact foreign ⟨nonempty, different⟩
        refine ⟨receiveMessage ⟨accepted ++ more, 5⟩ header [], ?_, ?_⟩
        · simp only [receive, receiveHeader, if_neg foreign, if_pos long, if_neg other, parsed]
          rfl
        · have settles := receiveMessage_settles [] (by rw [List.append_nil]; exact hello)
          rw [List.append_nil] at settles
          exact settles
    · refine ⟨.waitingHeader ⟨accepted ++ more, 0⟩, ?_, rfl, by omega, ?_⟩
      · simp only [receive, receiveHeader, if_neg foreign, if_neg long]
        rfl
      · by_contra different
        push Not at different
        exact foreign different

/-- The bytes of a write are taken in whole. -/
theorem receive_settles {accepted : List Byte} {state : State} (more : List Byte)
    (settles : Settles accepted state) (waiting : state.isWaiting = true) :
    ∃ next, receive state more = some next ∧ Settles (accepted ++ more) next := by
  cases state with
  | waitingHeader buf =>
    obtain ⟨rfl, _⟩ := settles
    exact receiveHeader_settles more
  | waitingMessage buf header =>
    obtain ⟨rfl, hello, _⟩ := settles
    exact ⟨_, rfl, receiveMessage_settles more (hello.append more)⟩
  | sendingMessage buf header chunk => cases waiting
  | sendingRawBuffer buf => cases waiting
  | sendingData => cases waiting

variable {accepted : List Byte} {state : State}

theorem Settles.undecided (settles : Settles accepted state) (waiting : state.isWaiting = true) :
    Undecided accepted := by
  cases state with
  | waitingHeader buf =>
    obtain ⟨_, short, empty | handshake⟩ := settles
    · exact .inl empty
    · exact .inr ⟨handshake, .inl short⟩
  | waitingMessage buf header =>
    obtain ⟨_, hello, short⟩ := settles
    have len := Header.new_len hello.parsed
    exact .inr ⟨hello.handshake, .inr ⟨hello.clientHello, by omega⟩⟩
  | sendingMessage buf header chunk => cases waiting
  | sendingRawBuffer buf => cases waiting
  | sendingData => cases waiting

theorem Settles.decided (settles : Settles accepted state) (gone : state.isWaiting = false) :
    ¬ Undecided accepted := by
  cases state with
  | waitingHeader buf => cases gone
  | waitingMessage buf header => cases gone
  | sendingMessage buf header chunk => exact (settles.2.2.1.complete settles.2.2.2).decided
  | sendingRawBuffer buf => exact settles.2.decided
  | sendingData => exact settles.elim

/-- A write while the layer waits asks nothing of the stream below and takes all bytes. -/
theorem pollWrite_waiting {S : Type} (inner : Inner S) {layer : FragmentLayer S} {next : State}
    {bytes : List Byte} (fuel : Nat) (waiting : layer.state.isWaiting = true)
    (received : receive layer.state bytes = some next) :
    (pollWrite inner fuel bytes).run layer = .ok bytes.length { layer with state := next } := by
  obtain ⟨stream, state, timer, calls⟩ := layer
  have settled : state.isSendingBuffer = false ∧ state.isHandshakeEnded = false := by
    cases state with
    | waitingHeader buf => exact ⟨rfl, rfl⟩
    | waitingMessage buf header => exact ⟨rfl, rfl⟩
    | _ => cases waiting
  have received : receive state bytes = some next := received
  simp only [pollWrite, whenSendingBuffer, unwrap, setState, EStateM.run_bind, EStateM.run_get,
    EStateM.run_pure, settled, Bool.false_eq_true, if_false, received]
  rfl

end LocalProxy.Fragment
