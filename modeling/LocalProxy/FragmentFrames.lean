import LocalProxy.FragmentPolls

/-! What a flush can do, move by move: the calls it makes in each state, the changes of
state between them and the ways it stops. What every such move keeps is kept by a flush,
wherever it stops. -/

namespace LocalProxy.Fragment
open Polling

variable {S : Type} {inner : Inner S}

/-- A change of state in the course of a flush. -/
inductive Advance : State → State → Prop where
  | chunk (buf header chunk n) :
    Advance (.sendingMessage buf header (some chunk))
      (.sendingMessage buf header (some { chunk with ptr := chunk.ptr + n }))
  | cursor (buf header chunk next n) :
    Advance (.sendingMessage buf header chunk)
      (.sendingMessage { buf with ptr := buf.ptr + n } header next)
  | release (buf header chunk) :
    Advance (.sendingMessage buf header chunk) (.sendingRawBuffer buf)
  | raw (buf n) :
    Advance (.sendingRawBuffer buf) (.sendingRawBuffer { buf with ptr := buf.ptr + n })
  | done (buf) : Advance (.sendingRawBuffer buf) .sendingData

/-- A call that a flush makes in a state. -/
inductive Asked : State → Call → Prop where
  | flush (state answer) : Asked state (.flush state answer)
  | chunk (buf header chunk byte answer) (present : chunk.inner[chunk.ptr]? = some byte) :
    Asked (.sendingMessage buf header (some chunk))
      (.write (.sendingMessage buf header (some chunk)) [byte] answer)
  | raw (buf answer) (more : buf.ptr < buf.inner.length) :
    Asked (.sendingRawBuffer buf) (.write (.sendingRawBuffer buf) buf.inner answer)

/-- The exit that a flush takes after a call. No byte taken of a message is an error;
the raw path lets it pass. -/
inductive Refused : Call → Exit IoError → Prop where
  | flushPending (state) : Refused (.flush state .pending) .pending
  | flushFailed (state error) : Refused (.flush state (.ready (.error error))) (.failed error)
  | writePending (state slice) : Refused (.write state slice .pending) .pending
  | writeFailed (state slice error) :
    Refused (.write state slice (.ready (.error error))) (.failed error)
  | broken (buf header chunk slice) :
    Refused (.write (.sendingMessage buf header chunk) slice (.ready (.ok 0)))
      (.failed .brokenPipe)

/-- What lasts through a flush, and what holds at each exit from it. -/
structure FlushRule (keep : FragmentLayer S → Prop)
    (exits : Exit IoError → FragmentLayer S → Prop) : Prop where
  asked : ∀ layer below call, Asked layer.state call → (∀ exit, ¬ Refused call exit) →
    keep layer → keep (layer.note below call)
  refused : ∀ layer below call exit, Asked layer.state call → Refused call exit →
    keep layer → exits exit (layer.note below call)
  advanced : ∀ layer state, Advance layer.state state → keep layer →
    keep { layer with state := state }
  stopped : ∀ layer, keep layer → exits .outOfFuel layer ∧ exits .panicked layer

variable {keep : FragmentLayer S → Prop} {exits : Exit IoError → FragmentLayer S → Prop}
  {buf : Buffer} {header : Header}

theorem Triple.unwrap_any {ε σ α β : Type} {P : σ → Prop} {Q : β → σ → Prop}
    {E : Exit ε → σ → Prop} {option : Option α} {next : α → Routine ε σ β}
    (rest : ∀ value, option = some value → Triple P (next value) Q E)
    (fails : ∀ state, P state → E .panicked state) :
    Triple P (unwrap option >>= next) Q E := by
  cases option with
  | some value => exact rest value rfl
  | none => exact fails

/-- In this state and with the property kept. -/
def At (keep : FragmentLayer S → Prop) (state : State) (layer : FragmentLayer S) : Prop :=
  layer.state = state ∧ keep layer

theorem FlushRule.flush (rule : FlushRule keep exits) (settled : State → Prop) :
    Triple (fun layer => keep layer ∧ settled layer.state) (innerFlush inner)
      (fun _ layer => keep layer ∧ settled layer.state) exits := by
  apply ask_ends
  · intro layer below value holds _
    refine ⟨rule.asked layer below _ (.flush _ _) ?_ holds.1, holds.2⟩
    intro exit refused
    cases refused
  · intro layer below holds
    exact rule.refused layer below _ _ (.flush _ _) (.flushPending _) holds.1
  · intro layer below error holds
    exact rule.refused layer below _ _ (.flush _ _) (.flushFailed _ error) holds.1

theorem FlushRule.flushAt (rule : FlushRule keep exits) (state : State) :
    Triple (At keep state) (innerFlush inner) (fun _ => At keep state) exits :=
  (rule.flush fun current => current = state).weaken (fun _ holds => holds.symm)
    (fun _ _ holds => holds.symm) (fun _ _ left => left)

theorem FlushRule.set (rule : FlushRule keep exits) {state next : State}
    (advance : Advance state next) :
    Triple (At keep state) (setState next : Task S Unit) (fun _ => At keep next) exits :=
  setState_triple fun layer holds =>
    ⟨rfl, rule.advanced layer next (by rw [holds.1]; exact advance) holds.2⟩

/-- The write of a byte of a chunk: an answer of zero bytes is an error. -/
theorem FlushRule.chunk (rule : FlushRule keep exits) {chunk : Buffer} {byte : Byte}
    (present : chunk.inner[chunk.ptr]? = some byte) :
    Triple (At keep (.sendingMessage buf header (some chunk))) (innerWrite inner [byte])
      (fun n => if n = 0 then exits (.failed .brokenPipe)
        else At keep (.sendingMessage buf header (some chunk))) exits := by
  have asked : ∀ layer : FragmentLayer S, layer.state = .sendingMessage buf header (some chunk) →
      ∀ answer, Asked layer.state (.write layer.state [byte] answer) := by
    intro layer state answer
    rw [state]
    exact .chunk buf header chunk byte answer present
  apply ask_ends
  · intro layer below n holds _
    obtain ⟨state, kept⟩ := holds
    by_cases zero : n = 0
    · subst zero
      rw [if_pos rfl]
      refine rule.refused layer below _ _ (asked layer state _) ?_ kept
      rw [state]
      exact .broken buf header (some chunk) [byte]
    · rw [if_neg zero]
      refine ⟨state, rule.asked layer below _ (asked layer state _) ?_ kept⟩
      intro exit refused
      rw [state] at refused
      cases refused
      exact zero rfl
  · intro layer below holds
    exact rule.refused layer below _ _ (asked layer holds.1 _) (.writePending _ _) holds.2
  · intro layer below error holds
    exact rule.refused layer below _ _ (asked layer holds.1 _) (.writeFailed _ _ error) holds.2

/-- The write of a raw buffer: any number of bytes is an answer. -/
theorem FlushRule.raw (rule : FlushRule keep exits) (more : buf.ptr < buf.inner.length) :
    Triple (At keep (.sendingRawBuffer buf)) (innerWrite inner buf.inner)
      (fun _ => At keep (.sendingRawBuffer buf)) exits := by
  have asked : ∀ layer : FragmentLayer S, layer.state = .sendingRawBuffer buf → ∀ answer,
      Asked layer.state (.write layer.state buf.inner answer) := by
    intro layer state answer
    rw [state]
    exact .raw buf answer more
  apply ask_ends
  · intro layer below n holds _
    obtain ⟨state, kept⟩ := holds
    refine ⟨state, rule.asked layer below _ (asked layer state _) ?_ kept⟩
    intro exit refused
    rw [state] at refused
    cases refused
  · intro layer below holds
    exact rule.refused layer below _ _ (asked layer holds.1 _) (.writePending _ _) holds.2
  · intro layer below error holds
    exact rule.refused layer below _ _ (asked layer holds.1 _) (.writeFailed _ _ error) holds.2

theorem sendChunk_rule (rule : FlushRule keep exits) (fuel : Nat) (chunk : Buffer) :
    Triple (At keep (.sendingMessage buf header (some chunk)))
      (sendChunk inner buf header fuel chunk)
      (fun sent => At keep (.sendingMessage buf header (some sent))) exits := by
  induction fuel generalizing chunk with
  | zero =>
    unfold sendChunk
    apply Triple.branch
    · intro _
      exact Triple.leave _ (fun layer holds => (rule.stopped layer holds.2).1)
    · intro _
      exact Triple.value _ (fun layer holds => holds)
  | succ fuel ih =>
    unfold sendChunk
    apply Triple.branch
    · intro more
      have present : chunk.inner[chunk.ptr]? = some chunk.inner[chunk.ptr] :=
        List.getElem?_eq_getElem more
      have slice : sliceOf chunk.inner chunk.ptr (chunk.ptr + 1) =
          some [chunk.inner[chunk.ptr]] := by
        rw [sliceOf_eq (by omega) (by omega), slice_single present]
      apply Triple.bind (rule.flushAt _)
      intro _
      apply Triple.unwrap_bind slice
      apply Triple.bind (rule.chunk present)
      intro n
      apply Triple.branch
      · intro zero
        rw [if_pos zero]
        exact Triple.leave _ (fun layer holds => holds)
      · intro positive
        rw [if_neg positive]
        exact Triple.bind (rule.set (.chunk buf header chunk n)) (fun _ => ih _)
    · intro _
      exact Triple.value _ (fun layer holds => holds)

theorem finishChunk_rule (rule : FlushRule keep exits) (fuel : Nat) (chunk : Option Buffer) :
    Triple (At keep (.sendingMessage buf header chunk)) (finishChunk inner fuel buf header chunk)
      (fun next layer => ∃ chunk, At keep (.sendingMessage next header chunk) layer) exits := by
  cases chunk with
  | none => exact Triple.value _ (fun layer holds => ⟨none, holds⟩)
  | some chunk =>
    apply Triple.bind (sendChunk_rule rule fuel chunk)
    intro sent
    apply Triple.unwrap_any
    · intro n _
      apply Triple.bind (rule.set (.cursor buf header (some sent) (some sent) n))
      intro _
      exact Triple.value _ (fun layer holds => ⟨some sent, holds⟩)
    · intro layer holds
      exact (rule.stopped layer holds.2).2

theorem sendMessage_rule (rule : FlushRule keep exits) (fuel : Nat) (buf : Buffer)
    (chunk : Option Buffer) :
    Triple (At keep (.sendingMessage buf header chunk)) (sendMessage inner fuel buf header chunk)
      (fun final layer => ∃ chunk, At keep (.sendingMessage final header chunk) layer) exits := by
  induction fuel generalizing buf chunk with
  | zero =>
    unfold sendMessage
    apply Triple.branch
    · intro _
      exact Triple.leave _ (fun layer holds => (rule.stopped layer holds.2).1)
    · intro _
      exact Triple.value _ (fun layer holds => ⟨chunk, holds⟩)
  | succ fuel ih =>
    unfold sendMessage
    apply Triple.branch
    · intro _
      apply Triple.bind (finishChunk_rule rule fuel chunk)
      intro next
      apply Triple.unwrap_any
      · intro built _
        apply Triple.bind (Q := fun _ => At keep (.sendingMessage next header (some built)))
        · apply setState_triple
          intro layer holds
          obtain ⟨chunk, same, kept⟩ := holds
          refine ⟨rfl, rule.advanced layer _ ?_ kept⟩
          rw [same]
          exact .cursor next header chunk (some built) 0
        · exact fun _ => ih next (some built)
      · intro layer holds
        obtain ⟨_, _, kept⟩ := holds
        exact (rule.stopped layer kept).2
    · intro _
      exact Triple.value _ (fun layer holds => ⟨chunk, holds⟩)

theorem sendRawBuffer_rule (rule : FlushRule keep exits) (fuel : Nat) (buf : Buffer) :
    Triple (At keep (.sendingRawBuffer buf)) (sendRawBuffer inner fuel buf)
      (fun _ layer => ∃ buf, At keep (.sendingRawBuffer buf) layer) exits := by
  induction fuel generalizing buf with
  | zero =>
    unfold sendRawBuffer
    apply Triple.branch
    · intro _
      exact Triple.leave _ (fun layer holds => (rule.stopped layer holds.2).1)
    · intro _
      exact Triple.value _ (fun layer holds => ⟨buf, holds⟩)
  | succ fuel ih =>
    unfold sendRawBuffer
    apply Triple.branch
    · intro more
      apply Triple.bind (rule.raw more)
      intro n
      exact Triple.bind (rule.set (.raw buf n)) (fun _ => ih _)
    · intro _
      exact Triple.value _ (fun layer holds => ⟨buf, holds⟩)

def State.isSendingMessage : State → Bool
  | .sendingMessage _ _ _ => true
  | _ => false

theorem flushMessage_rule (rule : FlushRule keep exits) (fuel : Nat) :
    Triple keep (flushMessage inner fuel)
      (fun _ layer => keep layer ∧ layer.state.isSendingMessage = false) exits := by
  apply Triple.read
  intro layer kept
  cases state : layer.state with
  | sendingMessage buf header chunk =>
    apply Triple.bind ((sendMessage_rule rule fuel buf chunk).pre
      (by
        intro current same
        subst same
        exact ⟨state, kept⟩))
    intro final
    apply setState_triple
    intro after holds
    obtain ⟨chunk, same, kept⟩ := holds
    refine ⟨rule.advanced after _ ?_ kept, rfl⟩
    rw [same]
    exact .release final header chunk
  | _ =>
    apply Triple.value
    intro current same
    subst same
    exact ⟨kept, by rw [state]; rfl⟩

theorem flushRawBuffer_rule (rule : FlushRule keep exits) (fuel : Nat) :
    Triple (fun layer => keep layer ∧ layer.state.isSendingMessage = false)
      (flushRawBuffer inner fuel)
      (fun _ layer => keep layer ∧ layer.state.isSendingBuffer = false) exits := by
  apply Triple.read
  intro layer both
  obtain ⟨kept, past⟩ := both
  cases state : layer.state with
  | sendingRawBuffer buf =>
    apply Triple.bind ((sendRawBuffer_rule rule fuel buf).pre
      (by
        intro current same
        subst same
        exact ⟨state, kept⟩))
    intro _
    apply setState_triple
    intro after holds
    obtain ⟨buf, same, kept⟩ := holds
    refine ⟨rule.advanced after _ ?_ kept, rfl⟩
    rw [same]
    exact .done buf
  | sendingMessage buf header chunk =>
    rw [state] at past
    cases past
  | _ =>
    apply Triple.value
    intro current same
    subst same
    exact ⟨kept, by rw [state]; rfl⟩

/-- A flush keeps what lasts, and ends with an answer only when nothing is left to send. -/
theorem pollFlush_rule (rule : FlushRule keep exits) (fuel : Nat) :
    Triple keep (pollFlush inner fuel)
      (fun _ layer => keep layer ∧ layer.state.isSendingBuffer = false) exits :=
  Triple.bind (flushMessage_rule rule fuel) fun _ =>
    Triple.bind (flushRawBuffer_rule rule fuel) fun _ =>
      rule.flush fun state => state.isSendingBuffer = false

/-- A property that every call and every change of state keeps. -/
structure FlushFrame (keep : FragmentLayer S → Prop) : Prop where
  asked : ∀ layer below call, Asked layer.state call → keep layer → keep (layer.note below call)
  advanced : ∀ layer state, Advance layer.state state → keep layer →
    keep { layer with state := state }

abbrev KeptAtExit (keep : FragmentLayer S → Prop) (_ : Exit IoError) (layer : FragmentLayer S) :
    Prop := keep layer

theorem FlushFrame.rule (frame : FlushFrame keep) : FlushRule keep (KeptAtExit keep) where
  asked := fun layer below call asked _ => frame.asked layer below call asked
  refused := fun layer below call _ asked _ => frame.asked layer below call asked
  advanced := frame.advanced
  stopped := fun _ kept => ⟨kept, kept⟩

theorem whenSendingBuffer_flush (rule : FlushRule keep exits) (fuel : Nat) :
    Triple keep (whenSendingBuffer (pollFlush inner fuel))
      (fun _ layer => keep layer ∧ layer.state.isSendingBuffer = false) exits :=
  whenSendingBuffer_rule (pollFlush_rule rule fuel) (fun _ kept settled => ⟨kept, settled⟩)

/-- A read flushes too, and keeps what a flush keeps. -/
theorem pollRead_frame (frame : FlushFrame keep) (fuel : Nat) (expired : Bool) (room : Nat)
    (timer : ∀ layer, keep layer → keep (layer.pollTimer expired))
    (read : ∀ layer below answer, keep layer → keep (layer.note below (.read room answer))) :
    Triple keep (pollRead inner fuel expired room) (fun _ => keep) (KeptAtExit keep) := by
  have flushed : Triple keep (dropPending (pollFlush inner fuel)) (fun _ => keep)
      (KeptAtExit keep) :=
    Triple.dropPending ((pollFlush_rule frame.rule fuel).post fun _ _ both => both.1)
      (fun _ kept => kept)
  apply Triple.bind (Triple.modify (Q := fun _ => keep) _ timer)
  intro _
  apply Triple.bind (whenSendingBuffer_rule flushed (fun _ kept _ => kept))
  intro _
  exact ask_triple (fun layer below _ kept _ => read layer below _ kept)
    (fun layer below answer _ kept _ _ => read layer below answer kept)

end LocalProxy.Fragment
