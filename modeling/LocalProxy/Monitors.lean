import LocalProxy.Select

/-! Pre- and postconditions of programs that ask their surroundings. A monitor keeps what
is known of a run and decides by it which operation may come next; a program is safe when
no run of it leaves what the monitor allows. Where knowledge only grows, safety is kept
while another program takes its steps in between. -/

namespace LocalProxy.Monitors
open Programs Program Select

variable {Op : Type} {Ans : Op → Type} {ε α β κ μ σ : Type}

structure Monitor (Op : Type) (Ans : Op → Type) (σ : Type) where
  allows : σ → Op → Prop
  after : σ → Event Op Ans → σ

/-- What is known after some events. -/
def Monitor.run (monitor : Monitor Op Ans σ) (state : σ) (trace : List (Event Op Ans)) : σ :=
  trace.foldl monitor.after state

/-- Every operation is allowed when its turn comes. -/
def Monitor.Follows (monitor : Monitor Op Ans σ) : σ → List (Event Op Ans) → Prop
  | _, [] => True
  | state, event :: rest =>
    monitor.allows state event.operation ∧ monitor.Follows (monitor.after state event) rest

/-- No run from this knowledge leaves what is allowed, and the postcondition holds of the
outcome of a run that ends. -/
def Safe (monitor : Monitor Op Ans σ) (post : Except ε α → σ → Prop) :
    Program Op Ans ε α → σ → Prop
  | .value result, state => post (.ok result) state
  | .fail error, state => post (.error error) state
  | .ask operation next, state => monitor.allows state operation ∧
      ∀ answer, Safe monitor post (next answer) (monitor.after state ⟨operation, answer⟩)
  | .choose next, state => ∀ left, Safe monitor post (next left) state

variable {monitor : Monitor Op Ans σ} {post : Except ε α → σ → Prop}
  {program : Program Op Ans ε α} {state : σ}

theorem safe_ofExcept {outcome : Except ε α} :
    Safe monitor post (ofExcept outcome) state ↔ post outcome state := by
  cases outcome with
  | ok result => exact Iff.rfl
  | error error => exact Iff.rfl

theorem Safe.mono {more : Except ε α → σ → Prop} (safe : Safe monitor post program state)
    (weaker : ∀ outcome known, post outcome known → more outcome known) :
    Safe monitor more program state := by
  induction program generalizing state with
  | value result => exact weaker _ _ safe
  | fail error => exact weaker _ _ safe
  | ask operation next ih => exact ⟨safe.1, fun answer => ih answer (safe.2 answer)⟩
  | choose next ih => exact fun left => ih left (safe left)

/-- What holds of the outcome of the first part, when the rest is to end with the
postcondition. -/
def Before (monitor : Monitor Op Ans σ) (post : Except ε β → σ → Prop)
    (next : α → Program Op Ans ε β) : Except ε α → σ → Prop
  | .ok result, state => Safe monitor post (next result) state
  | .error error, state => post (.error error) state

theorem Safe.bind {next : α → Program Op Ans ε β} {post : Except ε β → σ → Prop}
    (safe : Safe monitor (Before monitor post next) program state) :
    Safe monitor post (program >>= next) state := by
  induction program generalizing state with
  | value result => exact safe
  | fail error => exact safe
  | ask operation rest ih => exact ⟨safe.1, fun answer => ih answer (safe.2 answer)⟩
  | choose rest ih => exact fun left => ih left (safe left)

theorem Safe.attempt {post : Except ε (Except ε α) → σ → Prop}
    (safe : Safe monitor (fun outcome known => post (.ok outcome) known) program state) :
    Safe monitor post program.attempt state := by
  induction program generalizing state with
  | value result => exact safe
  | fail error => exact safe
  | ask operation rest ih => exact ⟨safe.1, fun answer => ih answer (safe.2 answer)⟩
  | choose rest ih => exact fun left => ih left (safe left)

/-- A postcondition of the value alone: a program that fails owes nothing. -/
def OnValue (holds : α → σ → Prop) : Except ε α → σ → Prop
  | .ok result, state => holds result state
  | .error _, _ => True

theorem onValue_true (outcome : Except ε α) (state : σ) :
    OnValue (fun _ _ => True) outcome state := by
  cases outcome with
  | ok result => trivial
  | error error => trivial

/-- One part after the other. -/
theorem Safe.andThen {first : α → σ → Prop} {last : β → σ → Prop}
    {next : α → Program Op Ans ε β} (safe : Safe monitor (OnValue first) program state)
    (later : ∀ result known, first result known → Safe monitor (OnValue last) (next result) known) :
    Safe monitor (OnValue last) (program >>= next) state := by
  refine Safe.bind (safe.mono ?_)
  intro outcome known holds
  cases outcome with
  | ok result => exact later result known holds
  | error error => trivial

theorem safe_ofExcept_bind {last : β → σ → Prop} {outcome : Except ε α}
    {next : α → Program Op Ans ε β}
    (later : ∀ result, outcome = .ok result → Safe monitor (OnValue last) (next result) state) :
    Safe monitor (OnValue last) (ofExcept outcome >>= next) state := by
  cases outcome with
  | ok result => exact later result rfl
  | error error => trivial

/-- A safe program is safe on every run, and so is what a run leaves of it. -/
theorem Safe.steps {trace : List (Event Op Ans)} {final : Program Op Ans ε α}
    (safe : Safe monitor post program state) (steps : Steps program trace final) :
    monitor.Follows state trace ∧ Safe monitor post final (monitor.run state trace) := by
  induction steps generalizing state with
  | still => exact ⟨trivial, safe⟩
  | ask rest ih =>
    obtain ⟨follows, left⟩ := ih (safe.2 _)
    exact ⟨⟨safe.1, follows⟩, left⟩
  | choose rest ih => exact ih (safe _)

/-- Safety is a matter of the runs: of the operations in each of them, and of those that end. -/
theorem safe_iff : Safe monitor post program state ↔
    (∀ trace operation next, Steps program trace (.ask operation next) →
      monitor.allows (monitor.run state trace) operation) ∧
    ∀ trace outcome, Ends program trace outcome → post outcome (monitor.run state trace) := by
  constructor
  · intro safe
    refine ⟨fun trace operation next steps => ((safe.steps steps).2).1, ?_⟩
    intro trace outcome ends
    exact safe_ofExcept.mp (safe.steps ends).2
  · intro runs
    obtain ⟨asked, ended⟩ := runs
    induction program generalizing state with
    | value result => exact ended [] (.ok result) (.still _)
    | fail error => exact ended [] (.error error) (.still _)
    | ask operation next ih =>
      refine ⟨asked [] operation next (.still _), fun answer => ih answer ?_ ?_⟩
      · intro trace other rest steps
        exact asked (⟨operation, answer⟩ :: trace) other rest (.ask steps)
      · intro trace outcome ends
        exact ended (⟨operation, answer⟩ :: trace) outcome (.ask ends)
    | choose next ih =>
      intro left
      refine ih left ?_ ?_
      · intro trace other rest steps
        exact asked trace other rest (.choose steps)
      · intro trace outcome ends
        exact ended trace outcome (.choose ends)

section Growing

variable {within : σ → σ → Prop}

/-- Knowledge grows with the events, and more of it never forbids what was allowed. -/
structure Monitor.Grows (monitor : Monitor Op Ans σ) (within : σ → σ → Prop) : Prop where
  refl : ∀ state, within state state
  trans : ∀ {state more most}, within state more → within more most → within state most
  allows : ∀ {state more operation}, within state more → monitor.allows state operation →
    monitor.allows more operation
  after : ∀ {state more} event, within state more →
    within (monitor.after state event) (monitor.after more event)
  grows : ∀ state event, within state (monitor.after state event)

theorem Monitor.Grows.run (grows : monitor.Grows within) (state : σ)
    (trace : List (Event Op Ans)) : within state (monitor.run state trace) := by
  induction trace generalizing state with
  | nil => exact grows.refl state
  | cons event rest ih =>
    exact grows.trans (grows.grows state event) (ih (monitor.after state event))

/-- A postcondition that more knowledge keeps. -/
def Kept (within : σ → σ → Prop) (post : Except ε α → σ → Prop) : Prop :=
  ∀ outcome state more, within state more → post outcome state → post outcome more

theorem kept_onValue {holds : α → σ → Prop}
    (kept : ∀ result state more, within state more → holds result state → holds result more) :
    Kept within (OnValue holds : Except ε α → σ → Prop) := by
  intro outcome state more larger holds
  cases outcome with
  | ok result => exact kept result state more larger holds
  | error error => trivial

theorem Safe.grow (grows : monitor.Grows within) (kept : Kept within post) {more : σ}
    (larger : within state more) (safe : Safe monitor post program state) :
    Safe monitor post program more := by
  induction program generalizing state more with
  | value result => exact kept _ _ _ larger safe
  | fail error => exact kept _ _ _ larger safe
  | ask operation next ih =>
    exact ⟨grows.allows larger safe.1, fun answer =>
      ih answer (grows.after _ larger) (safe.2 answer)⟩
  | choose next ih => exact fun left => ih left larger (safe left)

/-- Nothing that was known is forgotten. -/
theorem Safe.remember (grows : monitor.Grows within) (safe : Safe monitor post program state) :
    Safe monitor (fun outcome known => within state known ∧ post outcome known) program
      state := by
  suffices later : ∀ start, within start state →
      Safe monitor (fun outcome known => within start known ∧ post outcome known) program state from
    later state (grows.refl state)
  intro start known
  induction program generalizing state with
  | value result => exact ⟨known, safe⟩
  | fail error => exact ⟨known, safe⟩
  | ask operation next ih =>
    exact ⟨safe.1, fun answer => ih answer (safe.2 answer)
      (grows.trans known (grows.grows _ _))⟩
  | choose next ih => exact fun left => ih left (safe left) known

/-- What a branch of a selection is to end with. -/
def Branching (post : Except ε α → σ → Prop) : Except ε (Except κ α) → σ → Prop
  | .ok (.ok result), state => post (.ok result) state
  | .ok (.error _), _ => True
  | .error error, state => post (.error error) state

theorem kept_branching (kept : Kept within post) :
    Kept within (Branching post : Except ε (Except κ α) → σ → Prop) := by
  intro outcome state more larger holds
  match outcome with
  | .ok (.ok result) => exact kept _ _ _ larger holds
  | .ok (.error _) => trivial
  | .error error => exact kept _ _ _ larger holds

variable {otherwise : κ → μ → Program Op Ans ε α} {left : Branch Op Ans ε κ α}
  {right : Branch Op Ans ε μ α}

/-- The `else` of a selection is safe whatever the branches have done by then. -/
def Lasting (monitor : Monitor Op Ans σ) (within : σ → σ → Prop) (post : Except ε α → σ → Prop)
    (state : σ) (otherwise : κ → μ → Program Op Ans ε α) : Prop :=
  ∀ reason other more, within state more → Safe monitor post (otherwise reason other) more

theorem Lasting.grow (grows : monitor.Grows within) {more : σ}
    (lost : Lasting monitor within post state otherwise) (larger : within state more) :
    Lasting monitor within post more otherwise :=
  fun reason other most beyond => lost reason other most (grows.trans larger beyond)

theorem leftAlone_safe (grows : monitor.Grows within)
    (lost : Lasting monitor within post state otherwise)
    {other : μ} (safe : Safe monitor (Branching post) left state) :
    Safe monitor post (left >>= leftAlone otherwise other) state := by
  refine Safe.bind ((safe.remember grows).mono ?_)
  intro outcome known both
  match outcome with
  | .ok (.ok result) => exact both.2
  | .ok (.error reason) => exact lost reason other known both.1
  | .error error => exact both.2

theorem rightAlone_safe (grows : monitor.Grows within)
    (lost : Lasting monitor within post state otherwise)
    {reason : κ} (safe : Safe monitor (Branching post) right state) :
    Safe monitor post (right >>= rightAlone otherwise reason) state := by
  refine Safe.bind ((safe.remember grows).mono ?_)
  intro outcome known both
  match outcome with
  | .ok (.ok result) => exact both.2
  | .ok (.error other) => exact lost reason other known both.1
  | .error error => exact both.2

theorem stepRight_safe {move : Branch Op Ans ε μ α → Program Op Ans ε α}
    (grows : monitor.Grows within) (kept : Kept within post)
    (lost : Lasting monitor within post state otherwise)
    (leftSafe : Safe monitor (Branching post) left state)
    (moved : ∀ operation rest more, within state more →
      Safe monitor (Branching post) (.ask operation rest : Branch Op Ans ε μ α) more →
      Safe monitor post (move (.ask operation rest)) more)
    {more : σ} (larger : within state more) (rightSafe : Safe monitor (Branching post) right more) :
    Safe monitor post (stepRight otherwise left move right) more := by
  induction right generalizing more with
  | value result =>
    cases result with
    | ok result => exact rightSafe
    | error other =>
      exact leftAlone_safe grows (lost.grow grows larger)
        (leftSafe.grow grows (kept_branching kept) larger)
  | fail error => exact rightSafe
  | choose rest ih => exact fun b => ih b larger (rightSafe b)
  | ask other rest ih =>
    intro leftFirst
    cases leftFirst with
    | true => exact moved other rest more larger rightSafe
    | false =>
      exact ⟨rightSafe.1, fun answer =>
        ih answer (grows.trans larger (grows.grows _ _)) (rightSafe.2 answer)⟩

/-- A selection is safe when its branches are, each from what was known at the start, and its
`else` from whatever is known later. -/
theorem select_safe (grows : monitor.Grows within) (kept : Kept within post)
    (lost : Lasting monitor within post state otherwise)
    (leftSafe : Safe monitor (Branching post) left state)
    (rightSafe : Safe monitor (Branching post) right state) :
    Safe monitor post (select otherwise left right) state := by
  induction left generalizing right state with
  | value result =>
    cases result with
    | ok result => exact leftSafe
    | error reason => exact rightAlone_safe grows lost rightSafe
  | fail error => exact leftSafe
  | ask operation next ih =>
    refine stepRight_safe grows kept lost leftSafe ?_ (grows.refl state) rightSafe
    intro other rest more larger safe
    have leftMore := leftSafe.grow grows (kept_branching kept) larger
    refine ⟨leftMore.1, fun answer => ?_⟩
    have later := grows.grows more ⟨operation, answer⟩
    exact ih answer ((lost.grow grows larger).grow grows later) (leftMore.2 answer)
      (safe.grow grows (kept_branching kept) later)
  | choose next ih =>
    refine stepRight_safe grows kept lost leftSafe ?_ (grows.refl state) rightSafe
    intro other rest more larger safe
    have leftMore := leftSafe.grow grows (kept_branching kept) larger
    exact fun b => ih b (lost.grow grows larger) (leftMore b) safe

end Growing

/-- The monitor that knows nothing, and always allows the same. -/
def Monitor.always (allowed : Op → Prop) : Monitor Op Ans Unit where
  allows _ := allowed
  after _ _ := ()

theorem always_grows {allowed : Op → Prop} :
    (Monitor.always allowed : Monitor Op Ans Unit).Grows fun _ _ => True where
  refl _ := trivial
  trans _ _ := trivial
  allows _ known := known
  after _ _ := trivial
  grows _ _ := trivial

/-- What the monitor asks of a program, said without it. -/
theorem always_safe {allowed : Op → Prop} {program : Program Op Ans ε α} :
    Safe (.always allowed) (OnValue fun _ _ => True) program () ↔ program.Uses allowed := by
  induction program with
  | value result => exact iff_of_true trivial trivial
  | fail error => exact iff_of_true trivial trivial
  | ask operation next ih => exact and_congr_right fun _ => forall_congr' fun answer => ih answer
  | choose next ih => exact forall_congr' fun left => ih left

theorem Safe.events {allowed : Op → Prop} {post : Except ε α → Unit → Prop}
    {trace : List (Event Op Ans)} {final : Program Op Ans ε α}
    (safe : Safe (.always allowed) post program ()) (steps : Steps program trace final) :
    ∀ event ∈ trace, allowed event.operation := by
  have follows := (safe.steps steps).1
  clear steps safe
  induction trace with
  | nil =>
    intro event member
    cases member
  | cons first rest ih =>
    intro event member
    rcases List.mem_cons.mp member with same | later
    · exact same ▸ follows.1
    · exact ih follows.2 event later

end LocalProxy.Monitors
