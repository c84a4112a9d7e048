import LocalProxy.Monitors
import Mathlib.Data.Set.Basic

/-! The handles of a system: tokens that answers hand out and operations are about. A
program that only uses what it was handed keeps to itself among other programs, in any
order of their steps, as long as no handle is handed out twice. -/

namespace LocalProxy.Handles
open Programs Program Monitors

variable {Op : Type} {Ans : Op → Type} {ε α ι τ : Type}

/-- What the answer to an operation hands out, and what an operation is about. -/
structure Tokens (Op : Type) (Ans : Op → Type) (τ : Type) where
  grants : Event Op Ans → Set τ
  spends : Op → Set τ

variable (tokens : Tokens Op Ans τ)

/-- Every token of the first set is one of the second. -/
def Within (held more : Set τ) : Prop := ∀ token ∈ held, token ∈ more

/-- No token is in both sets. -/
def Apart (held other : Set τ) : Prop := ∀ token ∈ held, token ∉ other

theorem Apart.symm {held other : Set τ} (apart : Apart held other) : Apart other held :=
  fun token member found => apart token found member

theorem apart_empty (held : Set τ) : Apart held ∅ := fun _ _ absurd => absurd

theorem empty_apart (held : Set τ) : Apart ∅ held := (apart_empty held).symm

theorem union_apart {first second other : Set τ} :
    Apart (first ∪ second) other ↔ Apart first other ∧ Apart second other := by
  constructor
  · intro apart
    exact ⟨fun token member => apart token (.inl member),
      fun token member => apart token (.inr member)⟩
  · intro both token member
    rcases member with member | member
    · exact both.1 token member
    · exact both.2 token member

/-- An operation may only be about what was handed out before it. -/
def Tokens.monitor : Monitor Op Ans (Set τ) where
  allows held operation := Within (tokens.spends operation) held
  after held event := held ∪ tokens.grants event

theorem monitor_grows : tokens.monitor.Grows Within where
  refl _ _ member := member
  trans first second token member := second token (first token member)
  allows larger allowed token member := larger token (allowed token member)
  after _ larger token member := member.imp (larger token) id
  grows _ _ _ member := .inl member

/-- All that was handed out in the course of some events. -/
def Tokens.granted (trace : List (Event Op Ans)) : Set τ :=
  {token | ∃ event ∈ trace, token ∈ tokens.grants event}

/-- All that the operations were about. -/
def Tokens.spent (trace : List (Event Op Ans)) : Set τ :=
  {token | ∃ event ∈ trace, token ∈ tokens.spends event.operation}

theorem granted_append (before after : List (Event Op Ans)) :
    tokens.granted (before ++ after) = tokens.granted before ∪ tokens.granted after := by
  ext token
  simp only [Tokens.granted, List.mem_append, Set.mem_ofPred_eq, Set.mem_union]
  constructor
  · intro found
    obtain ⟨event, first | second, granted⟩ := found
    · exact .inl ⟨event, first, granted⟩
    · exact .inr ⟨event, second, granted⟩
  · intro either
    rcases either with ⟨event, member, granted⟩ | ⟨event, member, granted⟩
    · exact ⟨event, .inl member, granted⟩
    · exact ⟨event, .inr member, granted⟩

theorem granted_single (event : Event Op Ans) : tokens.granted [event] = tokens.grants event := by
  ext token
  simp [Tokens.granted]

theorem granted_cons (event : Event Op Ans) (rest : List (Event Op Ans)) :
    tokens.granted (event :: rest) = tokens.grants event ∪ tokens.granted rest := by
  rw [← granted_single tokens event, ← granted_append]
  rfl

theorem spent_granted {held : Set τ} {trace : List (Event Op Ans)}
    (follows : tokens.monitor.Follows held trace) :
    Within (tokens.spent trace) (held ∪ tokens.granted trace) := by
  induction trace generalizing held with
  | nil =>
    intro token spent
    obtain ⟨event, member, _⟩ := spent
    cases member
  | cons event rest ih =>
    intro token spent
    obtain ⟨other, member, about⟩ := spent
    rw [granted_cons, ← Set.union_assoc]
    rcases List.mem_cons.mp member with same | tail
    · rw [same] at about
      exact .inl (.inl (follows.1 token about))
    · exact ih follows.2 token ⟨other, tail, about⟩

section Crew

variable (program : ι → Program Op Ans ε α)

/-- A program at work: what it has gone through, and what is left of it. -/
structure Task where
  origin : ι
  events : List (Event Op Ans)
  left : Program Op Ans ε α
  runs : Steps (program origin) events left

variable {program}

def Task.start (origin : ι) : Task program := ⟨origin, [], program origin, .still _⟩

def Task.after (task : Task program) {event : Event Op Ans} {left : Program Op Ans ε α}
    (step : Steps task.left [event] left) : Task program :=
  ⟨task.origin, task.events ++ [event], left, task.runs.trans step⟩

variable (program)

/-- A program is started, or one of them goes on. What it is handed, no other was handed. -/
inductive Step : List (Task program) → List (Task program) → Prop where
  | start (tasks origin) : Step tasks (tasks ++ [.start origin])
  | proceed {tasks : List (Task program)} {i task event left} (here : tasks[i]? = some task)
    (step : Steps task.left [event] left)
    (fresh : ∀ other ∈ tasks, Apart (tokens.grants event) (tokens.granted other.events)) :
    Step tasks (tasks.set i (task.after step))

inductive Reachable : List (Task program) → Prop where
  | initial : Reachable []
  | step {tasks tasks'} (before : Reachable tasks) (step : Step tokens program tasks tasks') :
    Reachable tasks'

variable {program}

/-- Different programs were handed different tokens. -/
def AllApart (tasks : List (Task program)) : Prop :=
  ∀ (i j : Nat) (one other : Task program), tasks[i]? = some one → tasks[j]? = some other →
    i ≠ j → Apart (tokens.granted one.events) (tokens.granted other.events)

variable {tokens} {tasks : List (Task program)}

theorem start_apart (apart : AllApart tokens tasks) (origin : ι) :
    AllApart tokens (tasks ++ [.start origin]) := by
  have new : ∀ {k : Nat} {task : Task program}, (tasks ++ [Task.start origin])[k]? = some task →
      tasks[k]? = some task ∨ tokens.granted task.events = ∅ := by
    intro k task found
    rcases Nat.lt_or_ge k tasks.length with inside | beyond
    · rw [List.getElem?_append_left inside] at found
      exact .inl found
    · rw [List.getElem?_append_right beyond] at found
      right
      have single := List.mem_of_getElem? found
      rw [List.mem_singleton.mp single]
      ext token
      simp [Task.start, Tokens.granted]
  intro i j one other here there different
  rcases new here with before | empty
  · rcases new there with before' | empty
    · exact apart i j one other before before' different
    · rw [empty]
      exact apart_empty _
  · rw [empty]
    exact empty_apart _

theorem proceed_apart (apart : AllApart tokens tasks) {i : Nat} {task : Task program}
    {event : Event Op Ans} {left : Program Op Ans ε α} (here : tasks[i]? = some task)
    (step : Steps task.left [event] left)
    (fresh : ∀ other ∈ tasks, Apart (tokens.grants event) (tokens.granted other.events)) :
    AllApart tokens (tasks.set i (task.after step)) := by
  have inside := (List.getElem?_eq_some_iff.mp here).1
  have current : (tasks.set i (task.after step))[i]? = some (task.after step) :=
    List.getElem?_set_self inside
  have gone : ∀ j other, i ≠ j → tasks[j]? = some other →
      Apart (tokens.granted (task.after step).events) (tokens.granted other.events) := by
    intro j other different there
    have split : tokens.granted (task.after step).events =
        tokens.granted task.events ∪ tokens.grants event := by
      rw [Task.after, granted_append, granted_single]
    rw [split, union_apart]
    exact ⟨apart i j task other here there different, fresh other (List.mem_of_getElem? there)⟩
  intro j k one other first second different
  by_cases firstHere : i = j
  · subst firstHere
    rw [current] at first
    cases first
    rw [List.getElem?_set_ne different] at second
    exact gone k other different second
  · rw [List.getElem?_set_ne firstHere] at first
    by_cases secondHere : i = k
    · subst secondHere
      rw [current] at second
      cases second
      exact (gone j one firstHere first).symm
    · rw [List.getElem?_set_ne secondHere] at second
      exact apart j k one other first second different

theorem reachable_apart (reachable : Reachable tokens program tasks) : AllApart tokens tasks := by
  induction reachable with
  | initial =>
    intro i j one other here
    cases here
  | step _ step ih =>
    cases step with
    | start origin => exact start_apart ih origin
    | proceed here step fresh => exact proceed_apart ih here step fresh

/-- A program can go on alone when what it is handed is new each time. -/
theorem Reachable.alone (reachable : Reachable tokens program tasks) {i : Nat}
    {task : Task program} (here : tasks[i]? = some task) {trace : List (Event Op Ans)}
    {left : Program Op Ans ε α} (steps : Steps task.left trace left)
    (fresh : ∀ other ∈ tasks, Apart (tokens.granted trace) (tokens.granted other.events))
    (once : trace.Pairwise fun earlier later => Apart (tokens.grants later)
      (tokens.grants earlier)) :
    ∃ later : Task program, Reachable tokens program (tasks.set i later) ∧
      later.events = task.events ++ trace := by
  induction trace generalizing tasks task with
  | nil =>
    refine ⟨task, ?_, (List.append_nil _).symm⟩
    obtain ⟨inside, same⟩ := List.getElem?_eq_some_iff.mp here
    rwa [← same, List.set_getElem_self inside]
  | cons event rest ih =>
    obtain ⟨middle, one, more⟩ := steps.first
    simp only [granted_cons, union_apart] at fresh
    have inside := (List.getElem?_eq_some_iff.mp here).1
    have next := reachable.step (.proceed here one fun other member => (fresh other member).1)
    have still : ∀ other ∈ tasks.set i (task.after one),
        Apart (tokens.granted rest) (tokens.granted other.events) := by
      intro other member
      rcases List.mem_or_eq_of_mem_set member with old | same
      · exact (fresh other old).2
      · rw [same, Task.after, granted_append, granted_single]
        apply Apart.symm
        rw [union_apart]
        refine ⟨(fresh task (List.mem_of_getElem? here)).2.symm, fun token granted later => ?_⟩
        obtain ⟨event', member, again⟩ := later
        exact (List.pairwise_cons.mp once).1 event' member token again granted
    obtain ⟨later, done, events⟩ := ih next (List.getElem?_set_self inside) more still
      (List.pairwise_cons.mp once).2
    refine ⟨later, ?_, ?_⟩
    · rwa [List.set_set] at done
    · rw [events, Task.after, List.append_assoc]
      rfl

/-- What safe programs are about, they were handed themselves. -/
theorem task_spent {post : Except ε α → Set τ → Prop}
    (safe : ∀ origin, Safe tokens.monitor post (program origin) ∅) (task : Task program) :
    Within (tokens.spent task.events) (tokens.granted task.events) := by
  have follows := ((safe task.origin).steps task.runs).1
  have spent := spent_granted tokens follows
  rwa [Set.empty_union] at spent

/-- Safe programs keep apart, whatever the order of their steps. -/
theorem reachable_isolated {post : Except ε α → Set τ → Prop}
    (safe : ∀ origin, Safe tokens.monitor post (program origin) ∅)
    (reachable : Reachable tokens program tasks) {i j : Nat} {one other : Task program}
    (here : tasks[i]? = some one) (there : tasks[j]? = some other) (different : i ≠ j) :
    Apart (tokens.spent one.events) (tokens.spent other.events) := by
  intro token mine others
  exact reachable_apart reachable i j one other here there different token
    (task_spent safe one token mine) (task_spent safe other token others)

end Crew

end LocalProxy.Handles
