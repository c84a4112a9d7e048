import LocalProxy.Programs

/-! Programs that talk to one peer, which answers out of a state of its own. A peer may be
replaced by one that answers alike, and what a program takes from the front of a stream is
found part by part. -/

namespace LocalProxy.Peers
open Programs Program

variable {Op : Type} {Ans : Op → Type} {ε α β σ τ : Type}

/-- The answers of a peer in each of its states; it has none to what is not for it. -/
abbrev Peer (Op : Type) (Ans : Op → Type) (σ : Type) :=
  (operation : Op) → σ → Option (Ans operation × σ)

/-- What was asked and answered, and what is left of the program and of the peer. -/
structure Talk (Op : Type) (Ans : Op → Type) (ε α σ : Type) where
  trace : List (Event Op Ans)
  final : Program Op Ans ε α
  left : σ

/-- The run of a program with a peer. -/
def talk (peer : Peer Op Ans σ) : Program Op Ans ε α → σ → Talk Op Ans ε α σ
  | .value result, state => ⟨[], .value result, state⟩
  | .fail error, state => ⟨[], .fail error, state⟩
  | .ask operation next, state =>
    match peer operation state with
    | some (answer, after) =>
      let rest := talk peer (next answer) after
      { rest with trace := ⟨operation, answer⟩ :: rest.trace }
    | none => ⟨[], .ask operation next, state⟩
  | .choose next, state => talk peer (next true) state

variable {peer : Peer Op Ans σ} {program : Program Op Ans ε α}

theorem talk_ask {operation : Op} {next : Ans operation → Program Op Ans ε α} {state after : σ}
    {answer : Ans operation} (answered : peer operation state = some (answer, after)) :
    talk peer (.ask operation next) state = { talk peer (next answer) after with
      trace := ⟨operation, answer⟩ :: (talk peer (next answer) after).trace } := by
  rw [talk, answered]

theorem talk_steps (peer : Peer Op Ans σ) (program : Program Op Ans ε α) (state : σ) :
    Steps program (talk peer program state).trace (talk peer program state).final := by
  induction program generalizing state with
  | value result => exact .still _
  | fail error => exact .still _
  | ask operation next ih =>
    unfold talk
    split
    · exact .ask (ih _ _)
    · exact .still _
  | choose next ih => exact .choose (ih true state)

/-- A peer that answers all that the program asks talks to it until it ends. -/
theorem talk_ends {allowed : Op → Prop} (answers : ∀ operation state, allowed operation →
      peer operation state ≠ none) (uses : program.Uses allowed) (state : σ) :
    ∃ outcome, (talk peer program state).final = ofExcept outcome := by
  induction program generalizing state with
  | value result => exact ⟨.ok result, rfl⟩
  | fail error => exact ⟨.error error, rfl⟩
  | ask operation next ih =>
    cases answered : peer operation state with
    | none => exact (answers operation state uses.1 answered).elim
    | some pair =>
      rw [talk_ask answered]
      exact ih pair.1 (uses.2 pair.1) pair.2
  | choose next ih => exact ih true (uses true) state

/-- A talk goes on where the first part of the program has left it. -/
theorem talk_bind {next : α → Program Op Ans ε β} {state : σ} {result : α}
    (done : (talk peer program state).final = .value result) :
    talk peer (program >>= next) state =
      { talk peer (next result) (talk peer program state).left with
        trace := (talk peer program state).trace ++
          (talk peer (next result) (talk peer program state).left).trace } := by
  induction program generalizing state with
  | value middle =>
    cases done
    rfl
  | fail error => cases done
  | ask operation rest ih =>
    cases answered : peer operation state with
    | none =>
      rw [talk, answered] at done
      cases done
    | some pair =>
      rw [talk_ask answered] at done
      rw [ask_bind, talk_ask answered, talk_ask answered, ih pair.1 done]
      rfl
  | choose rest ih => exact ih true done

/-- A talk that returns has left the first part of the program with a value. -/
theorem talk_bind_value {next : α → Program Op Ans ε β} {state : σ} {result : β}
    (done : (talk peer (program >>= next) state).final = .value result) :
    ∃ middle, (talk peer program state).final = .value middle := by
  induction program generalizing state with
  | value middle => exact ⟨middle, rfl⟩
  | fail error => cases done
  | ask operation rest ih =>
    cases answered : peer operation state with
    | none =>
      rw [ask_bind, talk, answered] at done
      cases done
    | some pair =>
      rw [ask_bind, talk_ask answered] at done
      rw [talk_ask answered]
      exact ih pair.1 done
  | choose rest ih => exact ih true done

/-- Peers whose answers agree in states that correspond talk alike. -/
theorem talk_alike {other : Peer Op Ans τ} (view : σ → τ)
    (alike : ∀ operation state, (peer operation state).map (Prod.map id view) =
      other operation (view state)) (program : Program Op Ans ε α) (state : σ) :
    talk other program (view state) = { talk peer program state with
      left := view (talk peer program state).left } := by
  induction program generalizing state with
  | value result => rfl
  | fail error => rfl
  | ask operation next ih =>
    have same := alike operation state
    cases answered : peer operation state with
    | none =>
      rw [answered] at same
      simp only [talk, answered, ← same, Option.map_none]
    | some pair =>
      rw [answered] at same
      have seen : other operation (view state) = some (pair.1, view pair.2) := same.symm
      rw [talk_ask answered, talk_ask seen, ih pair.1 pair.2]
  | choose next ih => exact ih true state

/-- The program returns exactly on the streams that begin with something it accepts, and
takes no more than that. -/
structure Parses (peer : Peer Op Ans (List τ)) (program : Program Op Ans ε α)
    (accepts : α → List τ → Prop) : Prop where
  sound : ∀ stream result, (talk peer program stream).final = .value result →
    ∃ read, stream = read ++ (talk peer program stream).left ∧ accepts result read
  complete : ∀ result read rest, accepts result read →
    (talk peer program (read ++ rest)).final = .value result ∧
      (talk peer program (read ++ rest)).left = rest

section Rules

variable {peer : Peer Op Ans (List τ)} {accepts : α → List τ → Prop} {rest : β → List τ → Prop}

theorem Parses.congr {others : α → List τ → Prop} (parses : Parses peer program accepts)
    (same : ∀ result read, accepts result read ↔ others result read) :
    Parses peer program others := by
  have equal : accepts = others := by
    funext result read
    exact propext (same result read)
  rw [← equal]
  exact parses

theorem parses_value (result : α) :
    Parses peer (.value result : Program Op Ans ε α) fun final read =>
      final = result ∧ read = [] := by
  constructor
  · intro stream final done
    cases done
    exact ⟨[], rfl, rfl, rfl⟩
  · intro final read stream accepted
    rw [accepted.1, accepted.2]
    exact ⟨rfl, rfl⟩

theorem parses_fail (error : ε) :
    Parses peer (.fail error : Program Op Ans ε α) fun _ _ => False := by
  constructor
  · intro stream final done
    cases done
  · intro final read stream accepted
    exact accepted.elim

/-- One part after the other. -/
theorem Parses.bind {next : α → Program Op Ans ε β} {later : α → β → List τ → Prop}
    (first : Parses peer program accepts)
    (second : ∀ middle, Parses peer (next middle) (later middle)) :
    Parses peer (program >>= next) fun result read => ∃ middle before after,
      read = before ++ after ∧ accepts middle before ∧ later middle result after := by
  constructor
  · intro stream result done
    obtain ⟨middle, left⟩ := talk_bind_value done
    obtain ⟨before, whole, one⟩ := first.sound stream middle left
    rw [talk_bind left] at done ⊢
    obtain ⟨after, split, two⟩ := (second middle).sound _ result done
    refine ⟨before ++ after, ?_, middle, before, after, rfl, one, two⟩
    rw [List.append_assoc, ← split, ← whole]
  · intro result read stream split
    obtain ⟨middle, before, after, same, one, two⟩ := split
    rw [same, List.append_assoc]
    obtain ⟨left, remaining⟩ := first.complete middle before (after ++ stream) one
    rw [talk_bind left, remaining]
    exact (second middle).complete result after stream two

/-- A question that takes nothing from the stream. -/
theorem Parses.free {operation : Op} {answer : Ans operation}
    {next : Ans operation → Program Op Ans ε α}
    (answered : ∀ stream, peer operation stream = some (answer, stream))
    (parses : Parses peer (next answer) accepts) :
    Parses peer (.ask operation next) accepts := by
  constructor
  · intro stream result done
    rw [talk_ask (answered stream)] at done ⊢
    exact parses.sound stream result done
  · intro result read stream accepted
    rw [talk_ask (answered (read ++ stream))]
    exact parses.complete result read stream accepted

end Rules

end LocalProxy.Peers
