import LocalProxy.Programs

/-! Two programs run side by side until the first succeeds, as `tokio::select!` runs
two branches with refutable patterns and an `else`: a branch that ends without a match
is disabled, the `else` runs when both are, and the branch left behind is dropped. -/

namespace LocalProxy.Select
open Programs Program

variable {Op : Type} {Ans : Op → Type} {ε α κ μ : Type}

/-- A branch ends in `ok` when its pattern matches. -/
abbrev Branch (Op : Type) (Ans : Op → Type) (ε κ α : Type) := Program Op Ans ε (Except κ α)

def leftAlone (otherwise : κ → μ → Program Op Ans ε α) (lost : μ) :
    Except κ α → Program Op Ans ε α
  | .ok result => .value result
  | .error reason => otherwise reason lost

def rightAlone (otherwise : κ → μ → Program Op Ans ε α) (lost : κ) :
    Except μ α → Program Op Ans ε α
  | .ok result => .value result
  | .error reason => otherwise lost reason

/-- The selection while the left branch has not ended: `move` is what it does next. -/
def stepRight (otherwise : κ → μ → Program Op Ans ε α) (left : Branch Op Ans ε κ α)
    (move : Branch Op Ans ε μ α → Program Op Ans ε α) :
    Branch Op Ans ε μ α → Program Op Ans ε α
  | .value (.ok result) => .value result
  | .value (.error lost) => left >>= leftAlone otherwise lost
  | .fail error => .fail error
  | .choose rest => .choose fun b => stepRight otherwise left move (rest b)
  | .ask other rest =>
    .choose fun leftFirst =>
      if leftFirst then move (.ask other rest)
      else .ask other fun answer => stepRight otherwise left move (rest answer)

def select (otherwise : κ → μ → Program Op Ans ε α) :
    Branch Op Ans ε κ α → Branch Op Ans ε μ α → Program Op Ans ε α
  | .value (.ok result), _ => .value result
  | .value (.error lost), right => right >>= rightAlone otherwise lost
  | .fail error, _ => .fail error
  | .choose rest, right =>
    stepRight otherwise (.choose rest)
      (fun right => .choose fun b => select otherwise (rest b) right) right
  | .ask operation next, right =>
    stepRight otherwise (.ask operation next)
      (fun right => .ask operation fun answer => select otherwise (next answer) right) right

/-- The whole is the left and the right part, each in its own order. -/
inductive Interleaved {ι : Type} : List ι → List ι → List ι → Prop where
  | nil : Interleaved [] [] []
  | left {first left right whole} (rest : Interleaved left right whole) :
    Interleaved (first :: left) right (first :: whole)
  | right {first left right whole} (rest : Interleaved left right whole) :
    Interleaved left (first :: right) (first :: whole)

theorem interleaved_right {ι : Type} (items : List ι) : Interleaved [] items items := by
  induction items with
  | nil => exact .nil
  | cons first rest ih => exact .right ih

theorem interleaved_left {ι : Type} (items : List ι) : Interleaved items [] items := by
  induction items with
  | nil => exact .nil
  | cons first rest ih => exact .left ih

/-- The branch has ended without a match. -/
def Lost (branch : Branch Op Ans ε κ α) : Prop := ∃ reason, branch = .value (.error reason)

/-- How far a selection has come after some events, and what is left of it. -/
inductive Selected (otherwise : κ → μ → Program Op Ans ε α) (left : Branch Op Ans ε κ α)
    (right : Branch Op Ans ε μ α) : List (Event Op Ans) → Program Op Ans ε α → Prop where
  /-- No branch has succeeded yet, and one of them goes on. -/
  | racing {first second trace l r final} (mixed : Interleaved first second trace)
    (leftRun : Steps left first l) (rightRun : Steps right second r)
    (leftOpen : l.Running ∨ Lost l) (rightOpen : r.Running ∨ Lost r)
    (going : l.Running ∨ r.Running) (unfinished : final.Running) :
    Selected otherwise left right trace final
  | left {first second trace result r} (mixed : Interleaved first second trace)
    (leftRun : Returns left first (.ok result)) (rightRun : Steps right second r) :
    Selected otherwise left right trace (.value result)
  | right {first second trace result l} (mixed : Interleaved first second trace)
    (leftRun : Steps left first l) (rightRun : Returns right second (.ok result)) :
    Selected otherwise left right trace (.value result)
  | failed {first second trace error l r} (mixed : Interleaved first second trace)
    (leftRun : Steps left first l) (rightRun : Steps right second r)
    (reason : l = .fail error ∨ r = .fail error) :
    Selected otherwise left right trace (.fail error)
  /-- Both branches have ended without a match before anything else is done. -/
  | lost {first second trace more reason other final} (mixed : Interleaved first second trace)
    (leftRun : Returns left first (.error reason)) (rightRun : Returns right second (.error other))
    (rest : Steps (otherwise reason other) more final) :
    Selected otherwise left right (trace ++ more) final

variable {otherwise : κ → μ → Program Op Ans ε α} {left : Branch Op Ans ε κ α}
  {right : Branch Op Ans ε μ α} {trace : List (Event Op Ans)} {final : Program Op Ans ε α}

theorem Selected.askLeft {operation : Op} {next : Ans operation → Branch Op Ans ε κ α}
    {answer : Ans operation} (later : Selected otherwise (next answer) right trace final) :
    Selected otherwise (.ask operation next) right (⟨operation, answer⟩ :: trace) final := by
  cases later with
  | racing mixed leftRun rightRun leftOpen rightOpen going unfinished =>
    exact .racing (.left mixed) (.ask leftRun) rightRun leftOpen rightOpen going unfinished
  | left mixed leftRun rightRun => exact .left (.left mixed) (.ask leftRun) rightRun
  | right mixed leftRun rightRun => exact .right (.left mixed) (.ask leftRun) rightRun
  | failed mixed leftRun rightRun reason =>
    exact .failed (.left mixed) (.ask leftRun) rightRun reason
  | lost mixed leftRun rightRun rest => exact .lost (.left mixed) (.ask leftRun) rightRun rest

theorem Selected.askRight {operation : Op} {next : Ans operation → Branch Op Ans ε μ α}
    {answer : Ans operation} (later : Selected otherwise left (next answer) trace final) :
    Selected otherwise left (.ask operation next) (⟨operation, answer⟩ :: trace) final := by
  cases later with
  | racing mixed leftRun rightRun leftOpen rightOpen going unfinished =>
    exact .racing (.right mixed) leftRun (.ask rightRun) leftOpen rightOpen going unfinished
  | left mixed leftRun rightRun => exact .left (.right mixed) leftRun (.ask rightRun)
  | right mixed leftRun rightRun => exact .right (.right mixed) leftRun (.ask rightRun)
  | failed mixed leftRun rightRun reason =>
    exact .failed (.right mixed) leftRun (.ask rightRun) reason
  | lost mixed leftRun rightRun rest => exact .lost (.right mixed) leftRun (.ask rightRun) rest

theorem Selected.chooseLeft {next : Bool → Branch Op Ans ε κ α} {b : Bool}
    (later : Selected otherwise (next b) right trace final) :
    Selected otherwise (.choose next) right trace final := by
  cases later with
  | racing mixed leftRun rightRun leftOpen rightOpen going unfinished =>
    exact .racing mixed (.choose leftRun) rightRun leftOpen rightOpen going unfinished
  | left mixed leftRun rightRun => exact .left mixed (.choose leftRun) rightRun
  | right mixed leftRun rightRun => exact .right mixed (.choose leftRun) rightRun
  | failed mixed leftRun rightRun reason => exact .failed mixed (.choose leftRun) rightRun reason
  | lost mixed leftRun rightRun rest => exact .lost mixed (.choose leftRun) rightRun rest

theorem Selected.chooseRight {next : Bool → Branch Op Ans ε μ α} {b : Bool}
    (later : Selected otherwise left (next b) trace final) :
    Selected otherwise left (.choose next) trace final := by
  cases later with
  | racing mixed leftRun rightRun leftOpen rightOpen going unfinished =>
    exact .racing mixed leftRun (.choose rightRun) leftOpen rightOpen going unfinished
  | left mixed leftRun rightRun => exact .left mixed leftRun (.choose rightRun)
  | right mixed leftRun rightRun => exact .right mixed leftRun (.choose rightRun)
  | failed mixed leftRun rightRun reason => exact .failed mixed leftRun (.choose rightRun) reason
  | lost mixed leftRun rightRun rest => exact .lost mixed leftRun (.choose rightRun) rest

/-- The selection with its left branch disabled. -/
theorem rightAlone_selected {lost : κ}
    (steps : Steps (right >>= rightAlone otherwise lost) trace final) :
    Selected otherwise (.value (.error lost)) right trace final := by
  rcases steps_bind steps with ⟨middle, run, same⟩ | ⟨result, before, after, split, run, rest⟩
  · have mixed := interleaved_right trace
    cases middle with
    | value result =>
      cases result with
      | ok result =>
        rw [same]
        exact .right mixed (.still _) run
      | error reason =>
        rw [same, ← List.append_nil trace]
        exact .lost mixed (.still _) run (.still _)
    | fail error =>
      rw [same]
      exact .failed mixed (.still _) run (.inr rfl)
    | ask operation next =>
      rw [same]
      exact .racing mixed (.still _) run (.inr ⟨lost, rfl⟩) (.inl trivial) (.inr trivial) trivial
    | choose next =>
      rw [same]
      exact .racing mixed (.still _) run (.inr ⟨lost, rfl⟩) (.inl trivial) (.inr trivial) trivial
  · have mixed := interleaved_right before
    cases result with
    | ok result =>
      obtain ⟨empty, same⟩ := steps_value.mp rest
      rw [split, empty, same, List.append_nil]
      exact .right mixed (.still _) run
    | error reason =>
      rw [split]
      exact .lost mixed (.still _) run rest

theorem leftAlone_selected {lost : μ}
    (steps : Steps (left >>= leftAlone otherwise lost) trace final) :
    Selected otherwise left (.value (.error lost)) trace final := by
  rcases steps_bind steps with ⟨middle, run, same⟩ | ⟨result, before, after, split, run, rest⟩
  · have mixed := interleaved_left trace
    cases middle with
    | value result =>
      cases result with
      | ok result =>
        rw [same]
        exact .left mixed run (.still _)
      | error reason =>
        rw [same, ← List.append_nil trace]
        exact .lost mixed run (.still _) (.still _)
    | fail error =>
      rw [same]
      exact .failed mixed run (.still _) (.inl rfl)
    | ask operation next =>
      rw [same]
      exact .racing mixed run (.still _) (.inl trivial) (.inr ⟨lost, rfl⟩) (.inl trivial) trivial
    | choose next =>
      rw [same]
      exact .racing mixed run (.still _) (.inl trivial) (.inr ⟨lost, rfl⟩) (.inl trivial) trivial
  · have mixed := interleaved_left before
    cases result with
    | ok result =>
      obtain ⟨empty, same⟩ := steps_value.mp rest
      rw [split, empty, same, List.append_nil]
      exact .left mixed run (.still _)
    | error reason =>
      rw [split]
      exact .lost mixed run (.still _) rest

/-- Nothing has been asked yet, and no branch has ended. -/
theorem Selected.waiting (leftRuns : left.Running) (rightRuns : right.Running)
    (unfinished : final.Running) : Selected otherwise left right [] final :=
  .racing .nil (.still _) (.still _) (.inl leftRuns) (.inl rightRuns) (.inl leftRuns) unfinished

theorem stepRight_selected {move : Branch Op Ans ε μ α → Program Op Ans ε α}
    (leftRuns : left.Running)
    (moved : ∀ {operation rest trace final}, Steps (move (.ask operation rest)) trace final →
      Selected otherwise left (.ask operation rest) trace final)
    (steps : Steps (stepRight otherwise left move right) trace final) :
    Selected otherwise left right trace final := by
  induction right generalizing trace with
  | value result =>
    cases result with
    | ok result =>
      obtain ⟨empty, same⟩ := steps_value.mp steps
      rw [empty, same]
      exact .right .nil (.still _) (.still _)
    | error lost => exact leftAlone_selected steps
  | fail error =>
    obtain ⟨empty, same⟩ := steps_fail.mp steps
    rw [empty, same]
    exact .failed .nil (.still _) (.still _) (.inr rfl)
  | choose rest ih =>
    cases steps with
    | still => exact .waiting leftRuns trivial trivial
    | choose later => exact .chooseRight (ih _ later)
  | ask other rest ih =>
    cases steps with
    | still => exact .waiting leftRuns trivial trivial
    | @choose _ leftFirst _ _ later =>
      cases leftFirst with
      | true => exact moved later
      | false =>
        cases later with
        | still => exact .waiting leftRuns trivial trivial
        | ask rightRun => exact .askRight (ih _ rightRun)

/-- Every run of a selection is a run of its branches side by side, cut at the first
success, or followed by the `else` when both have ended without one. -/
theorem select_selected (steps : Steps (select otherwise left right) trace final) :
    Selected otherwise left right trace final := by
  induction left generalizing right trace final with
  | value result =>
    cases result with
    | ok result =>
      obtain ⟨empty, same⟩ := steps_value.mp steps
      rw [empty, same]
      exact .left .nil (.still _) (.still _)
    | error lost => exact rightAlone_selected steps
  | fail error =>
    obtain ⟨empty, same⟩ := steps_fail.mp steps
    rw [empty, same]
    exact .failed .nil (.still _) (.still _) (.inl rfl)
  | ask operation next ih =>
    have leftRuns : (ask operation next : Branch Op Ans ε κ α).Running := trivial
    apply stepRight_selected leftRuns _ steps
    intro other rest trace final moved
    cases moved with
    | still =>
      exact .waiting trivial trivial trivial
    | ask later => exact .askLeft (ih _ later)
  | choose next ih =>
    have leftRuns : (choose next : Branch Op Ans ε κ α).Running := trivial
    apply stepRight_selected leftRuns _ steps
    intro other rest trace final moved
    cases moved with
    | still =>
      exact .waiting trivial trivial trivial
    | choose later => exact .chooseLeft (ih _ later)

theorem leftAlone_uses {allowed : Op → Prop} {lost : μ}
    (otherwiseUses : ∀ reason, (otherwise reason lost).Uses allowed) (uses : left.Uses allowed) :
    Uses allowed (left >>= leftAlone otherwise lost) := by
  refine uses.bind fun outcome => ?_
  cases outcome with
  | ok result => trivial
  | error reason => exact otherwiseUses reason

theorem rightAlone_uses {allowed : Op → Prop} {lost : κ}
    (otherwiseUses : ∀ reason, (otherwise lost reason).Uses allowed) (uses : right.Uses allowed) :
    Uses allowed (right >>= rightAlone otherwise lost) := by
  refine uses.bind fun outcome => ?_
  cases outcome with
  | ok result => trivial
  | error reason => exact otherwiseUses reason

theorem stepRight_uses {allowed : Op → Prop} {move : Branch Op Ans ε μ α → Program Op Ans ε α}
    (lost : ∀ reason other, (otherwise reason other).Uses allowed) (leftUses : left.Uses allowed)
    (moved : ∀ operation rest, Uses allowed (.ask operation rest : Branch Op Ans ε μ α) →
      (move (.ask operation rest)).Uses allowed)
    (rightUses : right.Uses allowed) : (stepRight otherwise left move right).Uses allowed := by
  induction right with
  | value result =>
    cases result with
    | ok result => trivial
    | error reason => exact leftAlone_uses (fun other => lost other reason) leftUses
  | fail error => trivial
  | choose rest ih => exact fun b => ih b (rightUses b)
  | ask other rest ih =>
    intro leftFirst
    cases leftFirst with
    | true => exact moved other rest rightUses
    | false => exact ⟨rightUses.1, fun answer => ih answer (rightUses.2 answer)⟩

/-- A selection asks for what its branches and its `else` ask for. -/
theorem select_uses {allowed : Op → Prop}
    (lost : ∀ reason other, (otherwise reason other).Uses allowed) (leftUses : left.Uses allowed)
    (rightUses : right.Uses allowed) : (select otherwise left right).Uses allowed := by
  induction left generalizing right with
  | value result =>
    cases result with
    | ok result => trivial
    | error reason => exact rightAlone_uses (lost reason) rightUses
  | fail error => trivial
  | ask operation next ih =>
    refine stepRight_uses lost leftUses (fun other rest uses => ?_) rightUses
    exact ⟨leftUses.1, fun answer => ih answer (leftUses.2 answer) uses⟩
  | choose next ih =>
    refine stepRight_uses lost leftUses (fun other rest uses => ?_) rightUses
    exact fun b => ih b (leftUses b) uses

end LocalProxy.Select
