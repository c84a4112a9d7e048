import Mathlib.Logic.Basic
import Mathlib.Data.List.Basic

/-! Programs that ask their surroundings and go on with the answer. A program may
fail, and may leave a choice to the scheduler. Its runs are followed by the events,
what was asked and how it was answered, so that statements about every answer and
every order are statements about the events of its runs. -/

namespace LocalProxy.Programs

inductive Program (Op : Type) (Ans : Op → Type) (ε α : Type) where
  | value (result : α)
  | fail (error : ε)
  | ask (operation : Op) (next : Ans operation → Program Op Ans ε α)
  | choose (next : Bool → Program Op Ans ε α)

structure Event (Op : Type) (Ans : Op → Type) where
  operation : Op
  answer : Ans operation

variable {Op : Type} {Ans : Op → Type} {ε α β γ δ : Type}

namespace Program

def bind (program : Program Op Ans ε α) (next : α → Program Op Ans ε β) : Program Op Ans ε β :=
  match program with
  | .value result => next result
  | .fail error => .fail error
  | .ask operation rest => .ask operation fun answer => (rest answer).bind next
  | .choose rest => .choose fun left => (rest left).bind next

instance : Monad (Program Op Ans ε) where
  pure := .value
  bind := bind

@[simp] theorem value_bind (result : α) (next : α → Program Op Ans ε β) :
    (value result >>= next) = next result := rfl

@[simp] theorem fail_bind (error : ε) (next : α → Program Op Ans ε β) :
    (fail error >>= next) = fail error := rfl

@[simp] theorem ask_bind (operation : Op) (rest : Ans operation → Program Op Ans ε α)
    (next : α → Program Op Ans ε β) :
    (ask operation rest >>= next) = ask operation fun answer => rest answer >>= next := rfl

@[simp] theorem choose_bind (rest : Bool → Program Op Ans ε α) (next : α → Program Op Ans ε β) :
    (choose rest >>= next) = choose fun left => rest left >>= next := rfl

@[simp] theorem pure_eq (result : α) : (pure result : Program Op Ans ε α) = value result := rfl

theorem bind_assoc (program : Program Op Ans ε α) (first : α → Program Op Ans ε β)
    (second : β → Program Op Ans ε γ) :
    (program >>= first) >>= second = program >>= fun result => first result >>= second := by
  induction program with
  | value result => rfl
  | fail error => rfl
  | ask operation rest ih =>
    simp only [ask_bind]
    congr 1
    funext answer
    exact ih answer
  | choose rest ih =>
    simp only [choose_bind]
    congr 1
    funext left
    exact ih left

theorem bind_value (program : Program Op Ans ε α) : (program >>= value) = program := by
  induction program with
  | value result => rfl
  | fail error => rfl
  | ask operation rest ih =>
    rw [ask_bind]
    congr 1
    funext answer
    exact ih answer
  | choose rest ih =>
    rw [choose_bind]
    congr 1
    funext left
    exact ih left

/-- `?` on a result at hand. -/
def ofExcept : Except ε α → Program Op Ans ε α
  | .ok result => .value result
  | .error error => .fail error

/-- The outcome of a program as its value. -/
def attempt : Program Op Ans ε α → Program Op Ans ε (Except ε α)
  | .value result => .value (.ok result)
  | .fail error => .value (.error error)
  | .ask operation rest => .ask operation fun answer => (rest answer).attempt
  | .choose rest => .choose fun left => (rest left).attempt

/-- Only operations that are allowed are ever asked for. -/
def Uses (allowed : Op → Prop) : Program Op Ans ε α → Prop
  | .value _ => True
  | .fail _ => True
  | .ask operation next => allowed operation ∧ ∀ answer, (next answer).Uses allowed
  | .choose next => ∀ left, (next left).Uses allowed

theorem Uses.bind {allowed : Op → Prop} {program : Program Op Ans ε α}
    {next : α → Program Op Ans ε β} (first : program.Uses allowed)
    (rest : ∀ result, (next result).Uses allowed) : (program >>= next).Uses allowed := by
  induction program with
  | value result => exact rest result
  | fail error => trivial
  | ask operation later ih => exact ⟨first.1, fun answer => ih answer (first.2 answer)⟩
  | choose later ih => exact fun left => ih left (first left)

theorem Uses.mono {allowed others : Op → Prop} {program : Program Op Ans ε α}
    (uses : program.Uses allowed) (more : ∀ operation, allowed operation → others operation) :
    program.Uses others := by
  induction program with
  | value result => trivial
  | fail error => trivial
  | ask operation rest ih => exact ⟨more operation uses.1, fun answer => ih answer (uses.2 answer)⟩
  | choose rest ih => exact fun left => ih left (uses left)

theorem Uses.attempt {allowed : Op → Prop} {program : Program Op Ans ε α}
    (uses : program.Uses allowed) : program.attempt.Uses allowed := by
  induction program with
  | value result => trivial
  | fail error => trivial
  | ask operation rest ih => exact ⟨uses.1, fun answer => ih answer (uses.2 answer)⟩
  | choose rest ih => exact fun left => ih left (uses left)

theorem uses_ofExcept (allowed : Op → Prop) (result : Except ε α) :
    (ofExcept result : Program Op Ans ε α).Uses allowed := by
  cases result with
  | ok result => trivial
  | error error => trivial

/-- The program has neither returned nor failed. -/
def Running : Program Op Ans ε α → Prop
  | .value _ => False
  | .fail _ => False
  | .ask _ _ => True
  | .choose _ => True

/-- The program goes through these events and is then what is left of it. -/
inductive Steps : Program Op Ans ε α → List (Event Op Ans) → Program Op Ans ε α → Prop where
  | still (program) : Steps program [] program
  | ask {operation next answer trace final} (rest : Steps (next answer) trace final) :
    Steps (.ask operation next) (⟨operation, answer⟩ :: trace) final
  | choose {next left trace final} (rest : Steps (next left) trace final) :
    Steps (.choose next) trace final

abbrev Returns (program : Program Op Ans ε α) (trace : List (Event Op Ans)) (result : α) : Prop :=
  Steps program trace (.value result)

abbrev Fails (program : Program Op Ans ε α) (trace : List (Event Op Ans)) (error : ε) : Prop :=
  Steps program trace (.fail error)

/-- The program has returned or failed. -/
abbrev Ends (program : Program Op Ans ε α) (trace : List (Event Op Ans)) (outcome : Except ε α) :
    Prop := Steps program trace (ofExcept outcome)

variable {program : Program Op Ans ε α} {trace : List (Event Op Ans)}

@[simp] theorem steps_value {result : α} {final : Program Op Ans ε α} :
    Steps (.value result) trace final ↔ trace = [] ∧ final = .value result := by
  constructor
  · intro steps
    cases steps with
    | still => exact ⟨rfl, rfl⟩
  · intro both
    rw [both.1, both.2]
    exact .still _

@[simp] theorem steps_fail {error : ε} {final : Program Op Ans ε α} :
    Steps (.fail error) trace final ↔ trace = [] ∧ final = .fail error := by
  constructor
  · intro steps
    cases steps with
    | still => exact ⟨rfl, rfl⟩
  · intro both
    rw [both.1, both.2]
    exact .still _

theorem steps_ask {operation : Op} {next : Ans operation → Program Op Ans ε α}
    {final : Program Op Ans ε α} :
    Steps (.ask operation next) trace final ↔
      (trace = [] ∧ final = .ask operation next) ∨
      ∃ answer rest, trace = ⟨operation, answer⟩ :: rest ∧ Steps (next answer) rest final := by
  constructor
  · intro steps
    cases steps with
    | still => exact .inl ⟨rfl, rfl⟩
    | ask rest => exact .inr ⟨_, _, rfl, rest⟩
  · intro either
    rcases either with ⟨empty, same⟩ | ⟨answer, rest, split, later⟩
    · rw [empty, same]
      exact .still _
    · rw [split]
      exact .ask later

theorem Steps.trans {middle final : Program Op Ans ε α} {more : List (Event Op Ans)}
    (first : Steps program trace middle) (second : Steps middle more final) :
    Steps program (trace ++ more) final := by
  induction first with
  | still => exact second
  | ask _ ih => exact .ask (ih second)
  | choose _ ih => exact .choose (ih second)

theorem Steps.first {final : Program Op Ans ε α} {event : Event Op Ans}
    (steps : Steps program (event :: trace) final) :
    ∃ middle, Steps program [event] middle ∧ Steps middle trace final := by
  induction program with
  | value result => cases (steps_value.mp steps).1
  | fail error => cases (steps_fail.mp steps).1
  | ask operation next ih =>
    cases steps with
    | ask rest => exact ⟨_, .ask (.still _), rest⟩
  | choose next ih =>
    cases steps with
    | choose rest =>
      obtain ⟨middle, one, more⟩ := ih _ rest
      exact ⟨middle, .choose one, more⟩

theorem Steps.split {final : Program Op Ans ε α} {before after : List (Event Op Ans)}
    (steps : Steps program (before ++ after) final) :
    ∃ middle, Steps program before middle ∧ Steps middle after final := by
  induction before generalizing program with
  | nil => exact ⟨program, .still program, steps⟩
  | cons event before ih =>
    obtain ⟨next, one, more⟩ := Steps.first steps
    obtain ⟨middle, rest, last⟩ := ih more
    exact ⟨middle, one.trans rest, last⟩

theorem Steps.bind {middle : Program Op Ans ε α} (steps : Steps program trace middle)
    (next : α → Program Op Ans ε β) : Steps (program >>= next) trace (middle >>= next) := by
  induction steps with
  | still => exact .still _
  | ask _ ih => exact .ask ih
  | choose _ ih => exact .choose ih

theorem returns_ask {operation : Op} {next : Ans operation → Program Op Ans ε α} {result : α} :
    Returns (.ask operation next) trace result ↔
      ∃ answer rest, trace = ⟨operation, answer⟩ :: rest ∧ Returns (next answer) rest result := by
  constructor
  · intro steps
    cases steps with
    | ask rest => exact ⟨_, _, rfl, rest⟩
  · intro split
    obtain ⟨answer, rest, whole, later⟩ := split
    rw [whole]
    exact .ask later

theorem returns_value {result final : α} :
    Returns (.value result : Program Op Ans ε α) trace final ↔ trace = [] ∧ result = final := by
  rw [Returns, steps_value]
  constructor
  · intro both
    exact ⟨both.1, (value.inj both.2).symm⟩
  · intro both
    exact ⟨both.1, by rw [both.2]⟩

theorem returns_ofExcept {outcome : Except ε α} {result : α} :
    Returns (ofExcept outcome) trace result ↔ trace = [] ∧ outcome = .ok result := by
  cases outcome with
  | ok value =>
    rw [ofExcept, returns_value]
    exact and_congr_right fun _ => Except.ok.injEq _ _ ▸ Iff.rfl
  | error error =>
    rw [ofExcept, Returns, steps_fail]
    constructor
    · intro both
      exact (by cases both.2)
    · intro both
      exact (by cases both.2)

/-- A run of a sequence is still in its first part, or has left it with a value. -/
theorem steps_bind {next : α → Program Op Ans ε β} {final : Program Op Ans ε β}
    (steps : Steps (program >>= next) trace final) :
    (∃ middle, Steps program trace middle ∧ final = middle >>= next) ∨
    ∃ result before after, trace = before ++ after ∧ Returns program before result ∧
      Steps (next result) after final := by
  induction program generalizing trace with
  | value result => exact .inr ⟨result, [], trace, rfl, .still _, steps⟩
  | fail error =>
    rw [fail_bind, steps_fail] at steps
    rw [steps.1, steps.2]
    exact .inl ⟨.fail error, .still _, rfl⟩
  | ask operation rest ih =>
    cases steps with
    | still => exact .inl ⟨.ask operation rest, .still _, rfl⟩
    | ask later =>
      rcases ih _ later with ⟨middle, first, same⟩ | ⟨result, before, after, split, first, second⟩
      · exact .inl ⟨middle, .ask first, same⟩
      · exact .inr ⟨result, _ :: before, after, by rw [split]; rfl, .ask first, second⟩
  | choose rest ih =>
    cases steps with
    | still => exact .inl ⟨.choose rest, .still _, rfl⟩
    | choose later =>
      rcases ih _ later with ⟨middle, first, same⟩ | ⟨result, before, after, split, first, second⟩
      · exact .inl ⟨middle, .choose first, same⟩
      · exact .inr ⟨result, before, after, split, .choose first, second⟩

theorem steps_ofExcept_bind {result : Except ε α} {next : α → Program Op Ans ε β}
    {final : Program Op Ans ε β} (steps : Steps (ofExcept result >>= next) trace final) :
    (∃ error, result = .error error ∧ trace = []) ∨
    ∃ value, result = .ok value ∧ Steps (next value) trace final := by
  cases result with
  | ok value => exact .inr ⟨value, rfl, steps⟩
  | error error => exact .inl ⟨error, rfl, (steps_fail.mp steps).1⟩

theorem ends_ofExcept {result outcome : Except ε α}
    (ends : Ends (ofExcept result : Program Op Ans ε α) trace outcome) :
    trace = [] ∧ outcome = result := by
  cases result with
  | ok value =>
    obtain ⟨empty, same⟩ := steps_value.mp ends
    cases outcome with
    | ok other =>
      cases same
      exact ⟨empty, rfl⟩
    | error other => cases same
  | error error =>
    obtain ⟨empty, same⟩ := steps_fail.mp ends
    cases outcome with
    | ok other => cases same
    | error other =>
      cases same
      exact ⟨empty, rfl⟩

theorem ends_ask {operation : Op} {next : Ans operation → Program Op Ans ε α}
    {outcome : Except ε α} (ends : Ends (.ask operation next) trace outcome) :
    ∃ answer rest, trace = ⟨operation, answer⟩ :: rest ∧ Ends (next answer) rest outcome := by
  rcases steps_ask.mp ends with ⟨_, same⟩ | found
  · cases outcome with
    | ok result => cases same
    | error error => cases same
  · exact found

/-- A sequence that has ended failed in its first part, or ended after leaving it. -/
theorem ends_bind {next : α → Program Op Ans ε β} {outcome : Except ε β}
    (ends : Ends (program >>= next) trace outcome) :
    (∃ error, outcome = .error error ∧ Fails program trace error) ∨
    ∃ result before after, trace = before ++ after ∧ Returns program before result ∧
      Ends (next result) after outcome := by
  rcases steps_bind ends with ⟨middle, first, same⟩ | split
  · cases middle with
    | value middle =>
      refine .inr ⟨middle, trace, [], (List.append_nil _).symm, first, ?_⟩
      rw [← value_bind middle next, ← same]
      exact .still _
    | fail error =>
      cases outcome with
      | ok result => cases same
      | error other =>
        cases same
        exact .inl ⟨error, rfl, first⟩
    | ask operation rest =>
      cases outcome with
      | ok result => cases same
      | error other => cases same
    | choose rest =>
      cases outcome with
      | ok result => cases same
      | error other => cases same
  · exact .inr split

theorem ends_ofExcept_bind {result : Except ε α} {next : α → Program Op Ans ε β}
    {outcome : Except ε β} (ends : Ends (ofExcept result >>= next) trace outcome) :
    (∃ error, result = .error error ∧ trace = [] ∧ outcome = .error error) ∨
    ∃ value, result = .ok value ∧ Ends (next value) trace outcome := by
  cases result with
  | ok value => exact .inr ⟨value, rfl, ends⟩
  | error error =>
    have failed : Ends (ofExcept (.error error) : Program Op Ans ε β) trace outcome := ends
    exact .inl ⟨error, rfl, ends_ofExcept failed⟩

theorem returns_bind {next : α → Program Op Ans ε β} {result : β} :
    Returns (program >>= next) trace result ↔
      ∃ middle before after, trace = before ++ after ∧ Returns program before middle ∧
        Returns (next middle) after result := by
  constructor
  · intro steps
    have ends : Ends (program >>= next) trace (.ok result) := steps
    rcases ends_bind ends with ⟨error, absurd, _⟩ | split
    · cases absurd
    · exact split
  · intro split
    obtain ⟨middle, before, after, whole, first, second⟩ := split
    rw [whole]
    exact (first.bind next).trans second

theorem returns_ofExcept_bind {outcome : Except ε α} {next : α → Program Op Ans ε β} {result : β} :
    Returns (ofExcept outcome >>= next) trace result ↔
      ∃ middle, outcome = .ok middle ∧ Returns (next middle) trace result := by
  constructor
  · intro steps
    obtain ⟨middle, before, after, split, first, second⟩ := returns_bind.mp steps
    obtain ⟨empty, ok⟩ := returns_ofExcept.mp first
    rw [empty, List.nil_append] at split
    exact ⟨middle, ok, split ▸ second⟩
  · intro found
    obtain ⟨middle, ok, second⟩ := found
    rw [ok]
    exact second

theorem Uses.steps {allowed : Op → Prop} {final : Program Op Ans ε α}
    (steps : Steps program trace final) (uses : program.Uses allowed) :
    (∀ event ∈ trace, allowed event.operation) ∧ final.Uses allowed := by
  induction steps with
  | still => exact ⟨fun event member => by simp at member, uses⟩
  | ask _ ih =>
    obtain ⟨events, left⟩ := ih (uses.2 _)
    refine ⟨fun event member => ?_, left⟩
    rcases List.mem_cons.mp member with first | later
    · rw [first]
      exact uses.1
    · exact events event later
  | choose _ ih => exact ih (uses _)

theorem Steps.attempt {final : Program Op Ans ε α} (steps : Steps program trace final) :
    Steps program.attempt trace final.attempt := by
  induction steps with
  | still => exact .still _
  | ask _ ih => exact .ask ih
  | choose _ ih => exact .choose ih

theorem attempt_steps {final : Program Op Ans ε (Except ε α)}
    (steps : Steps program.attempt trace final) :
    ∃ middle, Steps program trace middle ∧ final = middle.attempt := by
  induction program generalizing trace with
  | value result =>
    rw [attempt, steps_value] at steps
    exact ⟨.value result, by rw [steps.1]; exact .still _, steps.2⟩
  | fail error =>
    rw [attempt, steps_value] at steps
    exact ⟨.fail error, by rw [steps.1]; exact .still _, steps.2⟩
  | ask operation rest ih =>
    cases steps with
    | still => exact ⟨.ask operation rest, .still _, rfl⟩
    | ask later =>
      obtain ⟨middle, first, same⟩ := ih _ later
      exact ⟨middle, .ask first, same⟩
  | choose rest ih =>
    cases steps with
    | still => exact ⟨.choose rest, .still _, rfl⟩
    | choose later =>
      obtain ⟨middle, first, same⟩ := ih _ later
      exact ⟨middle, .choose first, same⟩

/-- A run that goes past an attempt is still in it, or has gone on with its outcome. -/
theorem attempt_bind_steps {next : Except ε α → Program Op Ans ε β} {final : Program Op Ans ε β}
    (steps : Steps (program.attempt >>= next) trace final) :
    (∃ middle, middle.Running ∧ Steps program trace middle ∧ final.Running) ∨
    (∃ error before after, trace = before ++ after ∧ Fails program before error ∧
      Steps (next (.error error)) after final) ∨
    ∃ result before after, trace = before ++ after ∧ Returns program before result ∧
      Steps (next (.ok result)) after final := by
  rcases steps_bind steps with ⟨attempted, run, same⟩ | ⟨outcome, before, after, split, run, rest⟩
  · obtain ⟨middle, inner, tried⟩ := attempt_steps run
    rw [tried] at same
    cases middle with
    | value result =>
      refine .inr (.inr ⟨result, trace, [], (List.append_nil _).symm, inner, ?_⟩)
      rw [same]
      exact .still _
    | fail error =>
      refine .inr (.inl ⟨error, trace, [], (List.append_nil _).symm, inner, ?_⟩)
      rw [same]
      exact .still _
    | ask operation rest => exact .inl ⟨.ask operation rest, trivial, inner, same ▸ trivial⟩
    | choose rest => exact .inl ⟨.choose rest, trivial, inner, same ▸ trivial⟩
  · obtain ⟨middle, inner, tried⟩ := attempt_steps run
    cases middle with
    | value result =>
      cases tried
      exact .inr (.inr ⟨result, before, after, split, inner, rest⟩)
    | fail error =>
      cases tried
      exact .inr (.inl ⟨error, before, after, split, inner, rest⟩)
    | ask operation rest => cases tried
    | choose rest => cases tried

/-- The run in which every operation has its answer, as far as there are answers, and
the scheduler always decides the same way. -/
def drive (answers : (operation : Op) → Option (Ans operation)) (left : Bool) :
    Program Op Ans ε α → List (Event Op Ans) × Program Op Ans ε α
  | .value result => ([], .value result)
  | .fail error => ([], .fail error)
  | .ask operation next =>
    match answers operation with
    | some answer =>
      let (trace, final) := (next answer).drive answers left
      (⟨operation, answer⟩ :: trace, final)
    | none => ([], .ask operation next)
  | .choose next => (next left).drive answers left

theorem drive_steps (answers : (operation : Op) → Option (Ans operation)) (left : Bool)
    (program : Program Op Ans ε α) :
    Steps program (program.drive answers left).1 (program.drive answers left).2 := by
  induction program with
  | value result => exact .still _
  | fail error => exact .still _
  | ask operation next ih =>
    unfold drive
    split
    · exact .ask (ih _)
    · exact .still _
  | choose next ih => exact .choose (ih left)

theorem drive_answers (answers : (operation : Op) → Option (Ans operation)) (left : Bool)
    (program : Program Op Ans ε α) :
    ∀ event ∈ (program.drive answers left).1, answers event.operation = some event.answer := by
  induction program with
  | value result => intro event member; cases member
  | fail error => intro event member; cases member
  | ask operation next ih =>
    unfold drive
    split
    next answer given =>
      intro event member
      rcases List.mem_cons.mp member with same | later
      · rw [same]
        exact given
      · exact ih answer event later
    next => intro event member; cases member
  | choose next ih => exact ih left

end Program

end LocalProxy.Programs
