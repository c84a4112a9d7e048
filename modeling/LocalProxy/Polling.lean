import Mathlib.Logic.Basic
import Mathlib.Data.Nat.Init

/-! Routines that are polled: they may be suspended, fail, or run out of the
steps allowed for their loops, and keep what they have changed in every case.
The rules reason about one routine by what holds after it and after each exit. -/

namespace LocalProxy.Polling

/-- The answer of one poll of an asynchronous operation. -/
inductive Poll (α : Type) where
  | pending
  | ready (value : α)
  deriving DecidableEq, Repr

/-- Why a routine stops before its end. `outOfFuel` is no answer of the program:
its loops were given too few steps to see the answer. -/
inductive Exit (ε : Type) where
  | pending
  | failed (error : ε)
  | panicked
  | outOfFuel
  deriving DecidableEq, Repr

abbrev Routine (ε σ α : Type) := EStateM (Exit ε) σ α

variable {ε σ α β : Type}

/-- `ready!(answer)?`: go on with the value, or leave with the suspension or the error. -/
def awaitReady : Poll (Except ε α) → Routine ε σ α
  | .pending => throw .pending
  | .ready (.error error) => throw (.failed error)
  | .ready (.ok value) => pure value

/-- `let _ = answer?`: only an error leaves the caller, a suspension is dropped. -/
def dropPending (routine : Routine ε σ Unit) : Routine ε σ Unit :=
  tryCatch routine fun exit => match exit with
    | .pending => pure ()
    | exit => throw exit

/-- Checked access to an optional value, as `unwrap` and indexing do it. -/
def unwrap : Option α → Routine ε σ α
  | some value => pure value
  | none => throw .panicked

/-- Every end of the routine from a state in `P` is in `Q` or in `E`. -/
def Triple (P : σ → Prop) (routine : Routine ε σ α) (Q : α → σ → Prop)
    (E : Exit ε → σ → Prop) : Prop :=
  ∀ state, P state → match routine.run state with
    | .ok value after => Q value after
    | .error exit after => E exit after

variable {P R : σ → Prop} {Q Q' : α → σ → Prop} {E E' : Exit ε → σ → Prop}

theorem Triple.weaken {routine : Routine ε σ α} (triple : Triple P routine Q E)
    (before : ∀ state, R state → P state)
    (after : ∀ value state, Q value state → Q' value state)
    (left : ∀ exit state, E exit state → E' exit state) :
    Triple R routine Q' E' := by
  intro state holds
  have result := triple state (before state holds)
  cases run : routine.run state with
  | ok value final => rw [run] at result; exact after value final result
  | error exit final => rw [run] at result; exact left exit final result

theorem Triple.pre {routine : Routine ε σ α} (triple : Triple P routine Q E)
    (before : ∀ state, R state → P state) : Triple R routine Q E :=
  triple.weaken before (fun _ _ holds => holds) (fun _ _ left => left)

theorem Triple.post {routine : Routine ε σ α} (triple : Triple P routine Q E)
    (after : ∀ value state, Q value state → Q' value state) : Triple P routine Q' E :=
  triple.weaken (fun _ holds => holds) after (fun _ _ left => left)

theorem Triple.exit {routine : Routine ε σ α} (triple : Triple P routine Q E)
    (left : ∀ exit state, E exit state → E' exit state) : Triple P routine Q E' :=
  triple.weaken (fun _ holds => holds) (fun _ _ holds => holds) left

theorem Triple.value (value : α) (done : ∀ state, P state → Q value state) :
    Triple P (pure value : Routine ε σ α) Q E :=
  fun state holds => done state holds

theorem Triple.leave (exit : Exit ε) (done : ∀ state, P state → E exit state) :
    Triple P (throw exit : Routine ε σ α) Q E :=
  fun state holds => done state holds

theorem Triple.bind {routine : Routine ε σ α} {next : α → Routine ε σ β}
    {last : β → σ → Prop} (first : Triple P routine Q E)
    (rest : ∀ value, Triple (Q value) (next value) last E) :
    Triple P (routine >>= next) last E := by
  intro state holds
  have result := first state holds
  rw [EStateM.run_bind]
  cases run : routine.run state with
  | ok value middle =>
    rw [run] at result
    exact rest value middle result
  | error exit final =>
    rw [run] at result
    exact result

theorem Triple.modify (change : σ → σ) {Q : Unit → σ → Prop}
    (done : ∀ state, P state → Q () (change state)) :
    Triple P (modify change : Routine ε σ Unit) Q E :=
  fun state holds => done state holds

/-- The state read is the state the rest starts in. -/
theorem Triple.read {next : σ → Routine ε σ α}
    (rest : ∀ state, P state → Triple (fun current => current = state) (next state) Q E) :
    Triple P (get >>= next) Q E :=
  fun state holds => rest state holds state rfl

theorem Triple.branch {C : Prop} [Decidable C] {yes no : Routine ε σ α}
    (holds : C → Triple P yes Q E) (fails : ¬C → Triple P no Q E) :
    Triple P (if C then yes else no) Q E := by
  split
  next h => exact holds h
  next h => exact fails h

/-- An access known to succeed does not stop the routine. -/
theorem Triple.unwrap_bind {option : Option α} {value : α} {next : α → Routine ε σ β}
    {Q : β → σ → Prop} (same : option = some value)
    (rest : Triple P (next value) Q E) :
    Triple P (unwrap option >>= next) Q E := by
  subst option
  exact rest

theorem run_dropPending (routine : Routine ε σ Unit) (state : σ) :
    (dropPending routine).run state = match routine.run state with
      | .error .pending after => .ok () after
      | other => other := by
  simp only [dropPending, EStateM.run, tryCatch, tryCatchThe, MonadExceptOf.tryCatch]
  delta EStateM.tryCatch
  dsimp only
  cases routine state with
  | ok value after => rfl
  | error exit after => cases exit <;> rfl

theorem Triple.dropPending {routine : Routine ε σ Unit} {Q : Unit → σ → Prop}
    (triple : Triple P routine Q E)
    (suspended : ∀ state, E .pending state → Q () state) :
    Triple P (dropPending routine) Q E := by
  intro state holds
  have result := triple state holds
  rw [run_dropPending]
  cases run : routine.run state with
  | ok value after => rw [run] at result; exact result
  | error exit after =>
    rw [run] at result
    cases exit with
    | pending => exact suspended after result
    | failed error => exact result
    | panicked => exact result
    | outOfFuel => exact result

/-- Two facts about one routine. -/
theorem Triple.and {routine : Routine ε σ α} (one : Triple P routine Q E)
    (two : Triple P routine Q' E') :
    Triple P routine (fun value state => Q value state ∧ Q' value state)
      (fun exit state => E exit state ∧ E' exit state) := by
  intro state holds
  have first := one state holds
  have second := two state holds
  cases run : routine.run state with
  | ok value after => rw [run] at first second; exact ⟨first, second⟩
  | error exit after => rw [run] at first second; exact ⟨first, second⟩

/-- A routine that has run out of steps. -/
def Exhausted (routine : Routine ε σ α) (state : σ) : Prop :=
  ∃ after, routine.run state = .error .outOfFuel after

/-- With the steps of `more` the program does what it does with those of `less`, unless
it runs out of these. -/
def Approximates (less more : Routine ε σ α) : Prop :=
  ∀ state, ¬ Exhausted less state → more.run state = less.run state

theorem Approximates.refl (routine : Routine ε σ α) : Approximates routine routine :=
  fun _ _ => rfl

theorem Approximates.exhausted (more : Routine ε σ α) :
    Approximates (throw .outOfFuel) more :=
  fun state finished => (finished ⟨state, rfl⟩).elim

theorem Approximates.branch {C : Prop} [Decidable C] {yes no yes' no' : Routine ε σ α}
    (holds : C → Approximates yes yes') (fails : ¬C → Approximates no no') :
    Approximates (if C then yes else no) (if C then yes' else no') := by
  by_cases h : C
  · rw [if_pos h, if_pos h]
    exact holds h
  · rw [if_neg h, if_neg h]
    exact fails h

theorem Approximates.bind {less more : Routine ε σ α} {next last : α → Routine ε σ β}
    (first : Approximates less more) (rest : ∀ value, Approximates (next value) (last value)) :
    Approximates (less >>= next) (more >>= last) := by
  intro state finished
  simp only [Exhausted, EStateM.run_bind] at finished
  rw [EStateM.run_bind, EStateM.run_bind]
  cases run : less.run state with
  | ok value middle =>
    rw [run] at finished
    have unspent : ¬ Exhausted less state := by
      intro spent
      obtain ⟨after, same⟩ := spent
      rw [run] at same
      cases same
    rw [first state unspent, run]
    exact rest value middle finished
  | error exit after =>
    rw [run] at finished
    have unspent : ¬ Exhausted less state := by
      intro spent
      obtain ⟨final, same⟩ := spent
      rw [run] at same
      cases same
      exact finished ⟨after, rfl⟩
    rw [first state unspent, run]

theorem Approximates.dropPending {less more : Routine ε σ Unit} (both : Approximates less more) :
    Approximates (dropPending less) (dropPending more) := by
  intro state finished
  have unspent : ¬ Exhausted less state := by
    intro spent
    obtain ⟨after, same⟩ := spent
    exact finished ⟨after, by rw [run_dropPending, same]⟩
  rw [run_dropPending, run_dropPending, both state unspent]

/-- Once the steps are enough, more of them change nothing. -/
theorem Approximates.stays {poll : Nat → Routine ε σ α}
    (more : ∀ fuel, Approximates (poll fuel) (poll (fuel + 1))) {enough fuel : Nat} {state : σ}
    (finished : ¬ Exhausted (poll enough) state) (least : enough ≤ fuel) :
    (poll fuel).run state = (poll enough).run state := by
  induction fuel, least using Nat.le_induction with
  | base => rfl
  | succ fuel _ ih =>
    have unspent : ¬ Exhausted (poll fuel) state := by
      intro spent
      obtain ⟨after, same⟩ := spent
      exact finished ⟨after, by rw [← ih, same]⟩
    rw [more fuel state unspent, ih]

end LocalProxy.Polling
