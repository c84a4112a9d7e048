import LocalProxy.Programs
import Mathlib.Logic.Equiv.Defs

/-! Programs among others that ask for more. A program can be run where its operations are some
of a larger kind, and its runs there are its own. -/

namespace LocalProxy.Embeddings
open Programs Program

variable {Op Op' : Type} {Ans : Op → Type} {Ans' : Op' → Type} {ε α β : Type}

/-- Operations as some of a larger kind, with the same answers. -/
structure Embedding (Op : Type) (Ans : Op → Type) (Op' : Type) (Ans' : Op' → Type) where
  operation : Op → Op'
  answer : (op : Op) → Ans op ≃ Ans' (operation op)

def Embedding.event (embedding : Embedding Op Ans Op' Ans') (event : Event Op Ans) :
    Event Op' Ans' :=
  ⟨embedding.operation event.operation, embedding.answer _ event.answer⟩

/-- The program with its operations as some of the larger kind. -/
def through (embedding : Embedding Op Ans Op' Ans') :
    Program Op Ans ε α → Program Op' Ans' ε α
  | .value result => .value result
  | .fail error => .fail error
  | .ask operation next => .ask (embedding.operation operation) fun answer =>
    through embedding (next ((embedding.answer operation).symm answer))
  | .choose next => .choose fun left => through embedding (next left)

variable {embedding : Embedding Op Ans Op' Ans'} {program : Program Op Ans ε α}

theorem through_steps {events : List (Event Op Ans)} {left : Program Op Ans ε α}
    (steps : Steps program events left) :
    Steps (through embedding program) (events.map embedding.event) (through embedding left) := by
  induction steps with
  | still => exact .still _
  | @ask operation next answer _ _ _ ih =>
    rw [← (embedding.answer operation).symm_apply_apply answer] at ih
    exact .ask ih
  | choose _ ih => exact .choose ih

/-- Every run among the others is one of the program. -/
theorem steps_through {trace : List (Event Op' Ans')} {final : Program Op' Ans' ε α}
    (steps : Steps (through embedding program) trace final) :
    ∃ events left, Steps program events left ∧ trace = events.map embedding.event ∧
      final = through embedding left := by
  induction program generalizing trace with
  | value result =>
    obtain ⟨empty, same⟩ := steps_value.mp steps
    exact ⟨[], _, .still _, empty, same⟩
  | fail error =>
    obtain ⟨empty, same⟩ := steps_fail.mp steps
    exact ⟨[], _, .still _, empty, same⟩
  | ask operation next ih =>
    rcases steps_ask.mp steps with ⟨empty, same⟩ | ⟨answer, rest, split, later⟩
    · exact ⟨[], _, .still _, empty, same⟩
    · obtain ⟨events, left, runs, mapped, same⟩ := ih _ later
      refine ⟨⟨operation, (embedding.answer operation).symm answer⟩ :: events, left, .ask runs, ?_,
        same⟩
      rw [split, mapped, List.map_cons, Embedding.event, Equiv.apply_symm_apply]
  | choose next ih =>
    cases steps with
    | still => exact ⟨[], _, .still _, rfl, rfl⟩
    | choose later =>
      obtain ⟨events, left, runs, mapped, same⟩ := ih _ later
      exact ⟨events, left, .choose runs, mapped, same⟩

theorem returns_through {trace : List (Event Op' Ans')} {result : α}
    (success : Returns (through embedding program) trace result) :
    ∃ events, Returns program events result ∧ trace = events.map embedding.event := by
  obtain ⟨events, left, runs, mapped, same⟩ := steps_through success
  cases left with
  | value other =>
    cases same
    exact ⟨events, runs, mapped⟩
  | fail error => cases same
  | ask operation next => cases same
  | choose next => cases same

theorem uses_through {allowed : Op' → Prop}
    (uses : program.Uses fun operation => allowed (embedding.operation operation)) :
    (through embedding program).Uses allowed := by
  induction program with
  | value result => trivial
  | fail error => trivial
  | ask operation next ih => exact ⟨uses.1, fun answer => ih _ (uses.2 _)⟩
  | choose next ih => exact fun left => ih left (uses left)

theorem uses_outside {allowed : Op' → Prop}
    (outside : ∀ operation, allowed (embedding.operation operation)) :
    (through embedding program).Uses allowed := by
  induction program with
  | value result => trivial
  | fail error => trivial
  | ask operation next ih => exact ⟨outside operation, fun answer => ih _⟩
  | choose next ih => exact fun left => ih left

end LocalProxy.Embeddings
