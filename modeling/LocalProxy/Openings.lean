import LocalProxy.Programs

/-! Loops that open something for each of a list, one after the other, have a task spawned for
each, and then wait for good. -/

namespace LocalProxy.Openings
open Programs Program

variable {Op : Type} {Ans : Op → Type} {ε σ τ : Type}

def openEach (opens : σ → Program Op Ans ε τ) (spawn : τ → Op) (wait : Program Op Ans ε Unit) :
    List σ → Program Op Ans ε Unit
  | [] => wait
  | item :: rest => opens item >>= fun opened =>
    ask (spawn opened) fun _ => openEach opens spawn wait rest

variable {opens : σ → Program Op Ans ε τ} {spawn : τ → Op} {wait : Program Op Ans ε Unit}
  {items : List σ} {trace : List (Event Op Ans)}

/-- The loop has an end only where something could not be opened. -/
theorem openEach_ended (asleep : ∀ trace outcome, ¬ Ends wait trace outcome)
    {outcome : Except ε Unit} (ends : Ends (openEach opens spawn wait items) trace outcome) :
    ∃ item ∈ items, ∃ before after error, trace = before ++ after ∧
      Fails (opens item) after error := by
  induction items generalizing trace with
  | nil => exact (asleep trace outcome ends).elim
  | cons item rest ih =>
    rcases ends_bind ends with ⟨error, _, failed⟩ | ⟨opened, opening, last, split, _, later⟩
    · exact ⟨item, List.mem_cons_self, [], trace, error, rfl, failed⟩
    · obtain ⟨answer, more, spawned, later⟩ := ends_ask later
      obtain ⟨other, member, before, after, error, whole, failed⟩ := ih later
      refine ⟨other, List.mem_cons_of_mem _ member, opening ++ ⟨spawn opened, answer⟩ :: before,
        after, error, ?_, failed⟩
      rw [split, spawned, whole, List.append_assoc]
      rfl

/-- A task is spawned for what was opened before it. -/
theorem openEach_spawned (distinct : ∀ one other, spawn one = spawn other → one = other)
    (quiet : ∀ item, (opens item).Uses fun operation => ∀ opened, operation ≠ spawn opened)
    (still : wait.Uses fun operation => ∀ opened, operation ≠ spawn opened)
    {left : Program Op Ans ε Unit} (steps : Steps (openEach opens spawn wait items) trace left)
    {opened : τ} {answer : Ans (spawn opened)} (spawned : ⟨spawn opened, answer⟩ ∈ trace) :
    ∃ item ∈ items, ∃ opening, Returns (opens item) opening opened ∧ opening <:+: trace := by
  induction items generalizing trace with
  | nil => exact ((still.steps steps).1 _ spawned opened rfl).elim
  | cons item rest ih =>
    rcases steps_bind steps with ⟨_, first, _⟩ | ⟨own, opening, last, split, first, later⟩
    · exact (((quiet item).steps first).1 _ spawned opened rfl).elim
    · have inside : opening <:+: trace := split ▸ (List.prefix_append opening last).isInfix
      rcases steps_ask.mp later with ⟨empty, _⟩ | ⟨_, more, announced, later⟩
      · rw [split, empty, List.append_nil] at spawned
        exact (((quiet item).steps first).1 _ spawned opened rfl).elim
      · rw [split, announced] at spawned
        rcases List.mem_append.mp spawned with early | member
        · exact (((quiet item).steps first).1 _ early opened rfl).elim
        rcases List.mem_cons.mp member with same | late
        · have equal := distinct _ _ (congrArg Event.operation same)
          rw [equal]
          exact ⟨item, List.mem_cons_self, opening, first, inside⟩
        · obtain ⟨other, member, earlier, success, found⟩ := ih later late
          refine ⟨other, List.mem_cons_of_mem _ member, earlier, success, found.trans ?_⟩
          rw [split, announced]
          exact ((List.suffix_cons _ more).trans (List.suffix_append opening _)).isInfix

end LocalProxy.Openings
