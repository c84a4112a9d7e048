import LocalProxy.FragmentDecision

/-! Which bytes a call takes in. A write that is suspended or fails takes none, one that
answers takes those it says, and flushes and reads take none, so that a caller may repeat
a write with the same bytes. -/

namespace LocalProxy.Fragment
open Polling

variable {S : Type} {inner : Inner S}

/-- The bytes the stream below took straight from the caller. -/
def Call.passed : Call → List Byte
  | .write .sendingData slice (.ready (.ok n)) => slice.take n
  | _ => []

def passed (calls : List Call) : List Byte := calls.flatMap Call.passed

@[simp] theorem passed_append (calls more : List Call) :
    passed (calls ++ more) = passed calls ++ passed more := List.flatMap_append

@[simp] theorem passed_single (call : Call) : passed [call] = call.passed := by
  simp [passed]

/-- A write that is not straight from the caller is of bytes the layer held already. -/
def Call.Stored (held : List Byte) : Call → Prop
  | .write (.sendingMessage buf _ (some chunk)) slice _ =>
      buf.inner = held ∧ ∃ byte, chunk.inner[chunk.ptr]? = some byte ∧ slice = [byte]
  | .write (.sendingRawBuffer buf) slice _ => buf.inner = held ∧ slice = buf.inner
  | .write .sendingData _ _ => True
  | .write _ _ _ => False
  | _ => True

/-- Exactly these bytes were taken in: into the buffer of the state, or, once it is
handed over, by the stream below. -/
def Absorbs (before after : FragmentLayer S) (bytes : List Byte) : Prop :=
  ∃ calls, after.calls = before.calls ++ calls ∧
    (∀ call ∈ calls, call.Stored before.state.buffered) ∧
    (after.state.buffered = before.state.buffered ++ bytes ∧ passed calls = [] ∨
      after.state = .sendingData ∧ passed calls = bytes)

theorem absorbs_nothing (layer : FragmentLayer S) : Absorbs layer layer [] := by
  refine ⟨[], (List.append_nil _).symm, ?_, .inl ⟨(List.append_nil _).symm, rfl⟩⟩
  intro call member
  cases member

/-- A call that passes nothing on, and a state that holds the same bytes or has handed
them over. -/
theorem Absorbs.noted {start layer : FragmentLayer S} {call : Call} {below : S}
    (absorbs : Absorbs start layer []) (stored : call.Stored start.state.buffered)
    (nothing : call.passed = []) : Absorbs start (layer.note below call) [] := by
  obtain ⟨calls, made, own, either⟩ := absorbs
  refine ⟨calls ++ [call], ?_, ?_, ?_⟩
  · rw [FragmentLayer.note_calls, made, List.append_assoc]
  · intro other member
    rcases List.mem_append.mp member with earlier | last
    · exact own other earlier
    · rw [List.mem_singleton.mp last]
      exact stored
  · rw [passed_append, passed_single, nothing]
    simpa only [FragmentLayer.note_state, List.append_nil] using either

theorem Absorbs.advanced {start layer : FragmentLayer S} {state : State}
    (absorbs : Absorbs start layer [])
    (same : state.buffered = layer.state.buffered ∧ layer.state ≠ .sendingData ∨
      state = .sendingData) :
    Absorbs start { layer with state := state } [] := by
  obtain ⟨calls, made, own, either⟩ := absorbs
  refine ⟨calls, made, own, ?_⟩
  have nothing : passed calls = [] := by
    rcases either with ⟨_, none⟩ | ⟨_, none⟩
    · exact none
    · exact none
  rcases same with ⟨held, open_⟩ | done
  · rcases either with ⟨buffered, _⟩ | ⟨ended, _⟩
    · exact .inl ⟨held.trans buffered, nothing⟩
    · exact (open_ ended).elim
  · exact .inr ⟨done, nothing⟩

/-- What the state holds is what the layer held when the poll began, until it is handed over. -/
theorem Absorbs.held {start layer : FragmentLayer S} (absorbs : Absorbs start layer [])
    (open_ : layer.state ≠ .sendingData) : layer.state.buffered = start.state.buffered := by
  obtain ⟨_, _, _, ⟨buffered, _⟩ | ⟨ended, _⟩⟩ := absorbs
  · rw [buffered, List.append_nil]
  · exact (open_ ended).elim

/-- A flush takes nothing in. -/
theorem absorbs_frame (start : FragmentLayer S) :
    FlushFrame fun layer => Absorbs start layer [] where
  asked := by
    intro layer below call asked absorbs
    cases state : layer.state with
    | sendingMessage buf header chunk =>
      have held := absorbs.held (by rw [state]; simp)
      rw [state] at asked held
      cases asked with
      | flush state answer => exact absorbs.noted trivial rfl
      | chunk buf header chunk byte answer present =>
        exact absorbs.noted ⟨held, byte, present, rfl⟩ rfl
    | sendingRawBuffer buf =>
      have held := absorbs.held (by rw [state]; simp)
      rw [state] at asked held
      cases asked with
      | flush state answer => exact absorbs.noted trivial rfl
      | raw buf answer more => exact absorbs.noted ⟨held, rfl⟩ rfl
    | waitingHeader buf =>
      rw [state] at asked
      cases asked with
      | flush state answer => exact absorbs.noted trivial rfl
    | waitingMessage buf header =>
      rw [state] at asked
      cases asked with
      | flush state answer => exact absorbs.noted trivial rfl
    | sendingData =>
      rw [state] at asked
      cases asked with
      | flush state answer => exact absorbs.noted trivial rfl
  advanced := by
    intro layer next advance absorbs
    apply absorbs.advanced
    generalize layer.state = state at advance
    cases advance with
    | chunk buf header chunk n => exact .inl ⟨rfl, by simp⟩
    | cursor buf header chunk next n => exact .inl ⟨rfl, by simp⟩
    | release buf header chunk => exact .inl ⟨rfl, by simp⟩
    | raw buf n => exact .inl ⟨rfl, by simp⟩
    | done buf => exact .inr rfl

theorem pollTimer_absorbs (expired : Bool) {start layer : FragmentLayer S}
    (absorbs : Absorbs start layer []) : Absorbs start (layer.pollTimer expired) [] := by
  obtain ⟨calls, made, own, either⟩ := absorbs
  refine ⟨calls, by rw [FragmentLayer.pollTimer_calls, made], own, ?_⟩
  rw [FragmentLayer.pollTimer_state]
  cases expired with
  | false => exact either
  | true =>
    rcases either with ⟨buffered, nothing⟩ | ⟨ended, nothing⟩
    · left
      refine ⟨?_, nothing⟩
      rw [← buffered]
      cases layer.state <;> rfl
    · right
      exact ⟨by rw [ended]; rfl, nothing⟩

theorem pollRead_absorbs (fuel : Nat) (expired : Bool) (room : Nat) (start : FragmentLayer S) :
    Triple (fun layer => Absorbs start layer []) (pollRead inner fuel expired room)
      (fun _ layer => Absorbs start layer []) (fun _ layer => Absorbs start layer []) :=
  pollRead_frame (absorbs_frame start) fuel expired room
    (fun _ absorbs => pollTimer_absorbs expired absorbs)
    (fun _ _ _ absorbs => absorbs.noted trivial rfl)

/-- Bytes taken in while the layer waits are appended to its buffer, once. -/
theorem receive_buffered {state next : State} {bytes : List Byte}
    (waiting : state.isWaiting = true) (received : receive state bytes = some next) :
    next.buffered = state.buffered ++ bytes := by
  have message : ∀ buf header more,
      (receiveMessage buf header more).buffered = buf.inner ++ more := by
    intro buf header more
    unfold receiveMessage
    dsimp only
    split
    · rfl
    · rfl
  cases state with
  | waitingMessage buf header =>
    cases received
    exact message buf header bytes
  | waitingHeader buf =>
    simp only [receive, Option.bind_eq_bind] at received
    obtain ⟨middle, read, rest⟩ := Option.bind_eq_some_iff.mp received
    have held : middle.buffered = buf.inner ++ bytes := by
      unfold receiveHeader at read
      dsimp only at read
      split_ifs at read
      · cases read; rfl
      · cases read; rfl
      · obtain ⟨parsed, _, same⟩ := Option.bind_eq_some_iff.mp read
        cases same
        rfl
      · cases read; rfl
    cases middle with
    | waitingMessage buf parsed =>
      cases rest
      rw [message, List.append_nil]
      exact held
    | waitingHeader buf => cases rest; exact held
    | sendingMessage buf parsed chunk => cases rest; exact held
    | sendingRawBuffer buf => cases rest; exact held
    | sendingData => cases rest; exact held
  | _ => cases waiting

theorem pollWrite_absorbs (fuel : Nat) (bytes : List Byte) (start : FragmentLayer S) :
    Triple (fun layer => Absorbs start layer []) (pollWrite inner fuel bytes)
      (fun n layer => Absorbs start layer (bytes.take n) ∧
        (layer.state = .sendingData ∨ n = bytes.length))
      (fun _ layer => Absorbs start layer []) := by
  apply Triple.bind (whenSendingBuffer_flush (absorbs_frame start).rule fuel)
  intro _
  apply Triple.read
  intro layer both
  obtain ⟨absorbs, settled⟩ := both
  apply Triple.branch
  · intro ended
    have state : layer.state = .sendingData := State.ended ended
    apply ask_triple
    · intro current below n same _
      subst same
      obtain ⟨calls, made, own, either⟩ := absorbs
      have nothing : passed calls = [] := by
        rcases either with ⟨_, none⟩ | ⟨_, none⟩
        · exact none
        · exact none
      refine ⟨⟨calls ++ [.write current.state bytes (.ready (.ok n))], ?_, ?_, ?_⟩, .inl state⟩
      · rw [FragmentLayer.note_calls, made, List.append_assoc]
      · intro call member
        rcases List.mem_append.mp member with earlier | last
        · exact own call earlier
        · rw [List.mem_singleton.mp last, state]
          trivial
      · right
        refine ⟨state, ?_⟩
        rw [passed_append, passed_single, nothing, state]
        rfl
    · intro current below answer exit same other _
      subst same
      refine absorbs.noted (by rw [state]; trivial) ?_
      rw [state]
      cases answer with
      | pending => rfl
      | ready result =>
        cases result with
        | error error => rfl
        | ok n => exact (other n rfl).elim
  · intro unended
    have waiting : layer.state.isWaiting = true :=
      State.waiting settled (by simpa using unended)
    have open_ : layer.state ≠ .sendingData := by
      intro ended
      rw [ended] at waiting
      cases waiting
    apply Triple.unwrap_any
    · intro next received
      apply Triple.bind (setState_triple (Q := fun _ after =>
        Absorbs start after bytes) ?_) (fun _ => Triple.value _ ?_)
      · intro current same
        subst same
        have held := receive_buffered waiting received
        rw [absorbs.held open_] at held
        obtain ⟨calls, made, own, ⟨_, nothing⟩ | ⟨ended, _⟩⟩ := absorbs
        · exact ⟨calls, made, own, .inl ⟨held, nothing⟩⟩
        · exact (open_ ended).elim
      · intro after taken
        rw [List.take_length]
        exact ⟨taken, .inr rfl⟩
    · intro current same
      rw [same]
      exact absorbs

/-- The bytes that the layer has more than before: in its buffer, and passed on. -/
def gained (before after : FragmentLayer S) : List Byte :=
  after.state.buffered.drop before.state.buffered.length ++
    passed (after.calls.drop before.calls.length)

theorem Absorbs.gained {before after : FragmentLayer S} {bytes : List Byte}
    (absorbs : Absorbs before after bytes) : gained before after = bytes := by
  obtain ⟨calls, made, _, either⟩ := absorbs
  unfold Fragment.gained
  rw [made, List.drop_left]
  rcases either with ⟨buffered, nothing⟩ | ⟨ended, whole⟩
  · rw [buffered, List.drop_left, nothing, List.append_nil]
  · rw [ended, whole, State.buffered, List.drop_nil, List.nil_append]

section Retry

variable (inner : Inner S)

/-- The bytes that a run takes in, event by event, as they are found in the layer. -/
def absorbed (fuel : Nat) (run : Run S) : List Event → List Byte
  | [] => []
  | event :: rest =>
      let next := step inner fuel run event
      gained run.layer next.layer ++ absorbed fuel next rest

/-- What one event takes in is what its caller is told. -/
theorem step_absorbs (fuel : Nat) (run : Run S) (event : Event) :
    ∃ bytes, (step inner fuel run event).accepted = run.accepted ++ bytes ∧
      Absorbs run.layer (step inner fuel run event).layer bytes := by
  let found (next : Run S) : Prop :=
    ∃ bytes, next.accepted = run.accepted ++ bytes ∧ Absorbs run.layer next.layer bytes
  have start : Absorbs run.layer run.layer [] := absorbs_nothing run.layer
  have settled : ∀ layer taken, Absorbs run.layer layer taken →
      found (run.settle layer taken) := fun layer taken absorbs => ⟨taken, rfl, absorbs⟩
  cases event with
  | write bytes =>
    exact step_write (R := found) (pollWrite_absorbs fuel bytes run.layer) start
      (fun n layer holds => settled layer _ holds.1) (fun _ layer => settled layer [])
  | flush =>
    exact step_flush (R := found) (pollFlush_rule (absorbs_frame run.layer).rule fuel) start
      (fun _ layer holds => settled layer [] holds.1) (fun _ layer => settled layer [])
  | read expired room =>
    exact step_read (R := found) (pollRead_absorbs fuel expired room run.layer) start
      (fun _ layer => settled layer []) (fun _ layer => settled layer [])

theorem runFrom_absorbed (fuel : Nat) (events : List Event) (run : Run S) :
    (runFrom inner fuel run events).accepted = run.accepted ++ absorbed inner fuel run events := by
  induction events generalizing run with
  | nil => exact (List.append_nil _).symm
  | cons event rest ih =>
    obtain ⟨bytes, accepted, absorbs⟩ := step_absorbs inner fuel run event
    calc (runFrom inner fuel run (event :: rest)).accepted
        = (step inner fuel run event).accepted ++
            absorbed inner fuel (step inner fuel run event) rest := ih _
      _ = run.accepted ++ absorbed inner fuel run (event :: rest) := by
          rw [accepted, absorbed, absorbs.gained, List.append_assoc]

/-- What a caller does next: offers the first bytes of those it has left, or polls. -/
inductive Turn where
  | offer (room : Nat)
  | flush
  | read (expired : Bool) (room : Nat)

/-- A caller with bytes to write. Those it has left it offers again until they are taken. -/
structure Caller (S : Type) where
  run : Run S
  left : List Byte

/-- How many bytes a write says it took: none if it is suspended or fails. -/
def answered : EStateM.Result (Exit IoError) (FragmentLayer S) Nat → Nat
  | .ok n _ => n
  | .error _ _ => 0

def Turn.event (left : List Byte) : Turn → Event
  | .offer room => .write (left.take room)
  | .flush => .flush
  | .read expired room => .read expired room

def Caller.turn (fuel : Nat) (caller : Caller S) (turn : Turn) : Caller S where
  run := step inner fuel caller.run (turn.event caller.left)
  left := match turn with
    | .offer room => caller.left.drop
        (answered ((pollWrite inner fuel (caller.left.take room)).run caller.run.layer))
    | _ => caller.left

/-- The events that the turns of a caller come to. -/
def Caller.events (fuel : Nat) (caller : Caller S) : List Turn → List Event
  | [] => []
  | turn :: rest => turn.event caller.left :: (caller.turn inner fuel turn).events fuel rest

def Caller.play (fuel : Nat) (caller : Caller S) (turns : List Turn) : Caller S :=
  turns.foldl (Caller.turn inner fuel) caller

/-- A write never says it took more than it was offered. -/
theorem pollWrite_few (bounded : inner.Bounded) (fuel : Nat) (bytes : List Byte) :
    Triple (fun _ : FragmentLayer S => True) (pollWrite inner fuel bytes)
      (fun n _ => n ≤ bytes.length) (fun _ _ => True) := by
  have frame : FlushFrame fun _ : FragmentLayer S => True :=
    ⟨fun _ _ _ _ _ => trivial, fun _ _ _ _ => trivial⟩
  apply Triple.bind (whenSendingBuffer_flush frame.rule fuel)
  intro _
  apply Triple.read
  intro layer _
  apply Triple.branch
  · intro _
    exact innerWrite_triple bounded (fun _ _ _ _ few => few) (fun _ _ _ _ _ _ _ => trivial)
  · intro _
    apply Triple.unwrap_any
    · intro next _
      exact Triple.bind (setState_triple fun _ _ => trivial)
        (fun _ => Triple.value (P := fun _ => True) _ (fun _ _ => Nat.le_refl _))
    · intro _ _
      trivial

theorem turn_accepted (bounded : inner.Bounded) (fuel : Nat) (caller : Caller S) (turn : Turn) :
    (caller.turn inner fuel turn).run.accepted ++ (caller.turn inner fuel turn).left =
      caller.run.accepted ++ caller.left := by
  have quiet : ∀ layer, (caller.run.settle layer []).accepted = caller.run.accepted :=
    fun _ => List.append_nil _
  cases turn with
  | offer room =>
    have few := pollWrite_few inner bounded fuel (caller.left.take room) caller.run.layer trivial
    simp only [Caller.turn, Turn.event, step]
    cases result : (pollWrite inner fuel (caller.left.take room)).run caller.run.layer with
    | error exit layer => simp [answered, quiet]
    | ok n layer =>
      rw [result] at few
      have few : n ≤ (caller.left.take room).length := few
      have same : (caller.left.take room).take n = caller.left.take n := by
        rw [List.length_take] at few
        rw [List.take_take, Nat.min_eq_left (by omega)]
      simp only [answered, Run.settle, same, List.append_assoc, List.take_append_drop]
  | flush =>
    simp only [Caller.turn, Turn.event, step]
    split <;> rw [quiet]
  | read expired room =>
    simp only [Caller.turn, Turn.event, step]
    split <;> rw [quiet]

theorem play_accepted (bounded : inner.Bounded) (fuel : Nat) (turns : List Turn)
    (caller : Caller S) :
    (caller.play inner fuel turns).run.accepted ++ (caller.play inner fuel turns).left =
      caller.run.accepted ++ caller.left := by
  induction turns generalizing caller with
  | nil => rfl
  | cons turn rest ih => exact (ih _).trans (turn_accepted inner bounded fuel caller turn)

theorem play_run (fuel : Nat) (turns : List Turn) (caller : Caller S) :
    (caller.play inner fuel turns).run =
      runFrom inner fuel caller.run (caller.events inner fuel turns) := by
  induction turns generalizing caller with
  | nil => rfl
  | cons turn rest ih => exact ih _

/-- A write may be repeated until it answers: one that does not answer takes in nothing
and one that does exactly the bytes it says, flushes and reads take in nothing, and a
caller that offers again what was not taken loses and repeats no byte. -/
structure Retriable (fuel : Nat) (now : Run S) : Prop where
  write : ∀ bytes, match (pollWrite inner fuel bytes).run now.layer with
    | .ok n after => Absorbs now.layer after (bytes.take n) ∧ n ≤ bytes.length ∧
        (after.state = .sendingData ∨ n = bytes.length)
    | .error _ after => Absorbs now.layer after []
  flush : Absorbs now.layer (step inner fuel now .flush).layer []
  read : ∀ expired room, Absorbs now.layer (step inner fuel now (.read expired room)).layer []
  caller : ∀ left turns,
    absorbed inner fuel now (Caller.events inner fuel ⟨now, left⟩ turns) ++
      (Caller.play inner fuel ⟨now, left⟩ turns).left = left

theorem write_retried (bounded : inner.Bounded) (fuel : Nat) (stream : S) (events : List Event) :
    Retriable inner fuel (run inner fuel stream events) := by
  generalize run inner fuel stream events = now
  have quiet : ∀ event, (step inner fuel now event).accepted = now.accepted →
      Absorbs now.layer (step inner fuel now event).layer [] := by
    intro event same
    obtain ⟨bytes, accepted, absorbs⟩ := step_absorbs inner fuel now event
    rw [same, List.self_eq_append_right] at accepted
    rw [← accepted]
    exact absorbs
  refine ⟨?_, quiet .flush ?_, fun expired room => quiet (.read expired room) ?_, ?_⟩
  · intro bytes
    have poll : Triple _ (pollWrite inner fuel bytes) _ _ := pollWrite_absorbs fuel bytes now.layer
    have taken := poll now.layer (absorbs_nothing now.layer)
    have few := pollWrite_few inner bounded fuel bytes now.layer trivial
    cases result : (pollWrite inner fuel bytes).run now.layer with
    | ok n after =>
      rw [result] at taken few
      exact ⟨taken.1, few, taken.2⟩
    | error exit after =>
      rw [result] at taken
      exact taken
  · simp only [step]
    split <;> exact List.append_nil _
  · simp only [step]
    split <;> exact List.append_nil _
  · intro left turns
    have whole := play_accepted inner bounded fuel turns ⟨now, left⟩
    rw [play_run, runFrom_absorbed, List.append_assoc] at whole
    exact List.append_cancel_left whole

/-- In the middle of a message, over a stream that takes all it is given. -/
theorem write_retried_hello :
    Retriable (upTo 64) 1 (run (upTo 64) 1 () [.write [0x16, 3, 1, 0, 2, 1, 9], .flush]) :=
  write_retried (upTo 64) (upTo_bounded 64) 1 () _

end Retry

end LocalProxy.Fragment
