import Mathlib.Data.List.Induction

/-! Stores whose entries expire. What such a store gives back was put in under the key, by the
last insertion for it, and is no older than that insertion allowed. -/

namespace LocalProxy.Expiry

variable {κ ν : Type}

/-- A store with a capacity, the time of each call and the time that an entry is to live. -/
structure Store (κ ν : Type) where
  State : Type
  new : (capacity : Nat) → State
  get : State → (now : Nat) → κ → Option ν
  insert : State → (now : Nat) → κ → ν → (ttl : Nat) → State

/-- What its users rely on. A store may drop any entry, but gives back no other than the one
that was put in, and none that has expired. -/
structure Store.Lawful (store : Store κ ν) : Prop where
  new : ∀ capacity now key, store.get (store.new capacity) now key = none
  same : ∀ {state earlier key value ttl now found}, earlier ≤ now →
    store.get (store.insert state earlier key value ttl) now key = some found →
    found = value ∧ now ≤ earlier + ttl
  other : ∀ {state earlier key value ttl now asked found}, asked ≠ key → earlier ≤ now →
    store.get (store.insert state earlier key value ttl) now asked = some found →
    store.get state now asked = some found

structure Entry (κ ν : Type) where
  time : Nat
  key : κ
  value : ν
  ttl : Nat

def Store.put (store : Store κ ν) (state : store.State) (entry : Entry κ ν) : store.State :=
  store.insert state entry.time entry.key entry.value entry.ttl

/-- The store after some insertions. -/
def Store.after (store : Store κ ν) (capacity : Nat) (history : List (Entry κ ν)) : store.State :=
  history.foldl store.put (store.new capacity)

theorem after_append (store : Store κ ν) (capacity : Nat) (history : List (Entry κ ν))
    (entry : Entry κ ν) : store.after capacity (history ++ [entry]) =
      store.put (store.after capacity history) entry := by
  rw [Store.after, List.foldl_append]
  rfl

/-- What is given back is from the last insertion for its key, and not too old. -/
theorem Store.Lawful.get_after {store : Store κ ν} (lawful : store.Lawful) {capacity now : Nat}
    {history : List (Entry κ ν)} {key : κ} {found : ν}
    (past : ∀ entry ∈ history, entry.time ≤ now)
    (got : store.get (store.after capacity history) now key = some found) :
    ∃ before entry later, history = before ++ entry :: later ∧ entry.key = key ∧
      entry.value = found ∧ now ≤ entry.time + entry.ttl ∧ ∀ other ∈ later, other.key ≠ key := by
  induction history using List.reverseRecOn with
  | nil =>
    have nothing := lawful.new capacity now key
    have empty : store.get (store.new capacity) now key = some found := got
    rw [nothing] at empty
    cases empty
  | append_singleton history last ih =>
    rw [after_append] at got
    have lastPast := past last (List.mem_append_right _ List.mem_cons_self)
    by_cases mine : last.key = key
    · rw [← mine] at got
      obtain ⟨value, young⟩ := lawful.same lastPast got
      exact ⟨history, last, [], rfl, mine, value.symm, young, fun _ absurd => by cases absurd⟩
    · have before := lawful.other (fun same => mine same.symm) lastPast got
      obtain ⟨first, entry, later, split, named, value, young, only⟩ :=
        ih (fun entry member => past entry (List.mem_append_left _ member)) before
      refine ⟨first, entry, later ++ [last], ?_, named, value, young, ?_⟩
      · rw [split, List.append_assoc]
        rfl
      · intro other member
        rcases List.mem_append.mp member with inside | end_
        · exact only other inside
        · rw [List.mem_singleton.mp end_]
          exact mine

variable [DecidableEq κ]

/-- A store that keeps the latest entries it has room for. -/
def Store.latest (κ ν : Type) [DecidableEq κ] : Store κ ν where
  State := Nat × List (κ × ν × Nat)
  new capacity := (capacity, [])
  get state now key := (state.2.find? fun entry => entry.1 = key).bind fun entry =>
    if now ≤ entry.2.2 then some entry.2.1 else none
  insert state now key value ttl :=
    (state.1, ((key, value, now + ttl) :: state.2.filter fun entry => entry.1 ≠ key).take state.1)

/-- What is found among the first entries is found among all of them. -/
theorem find_take {α : Type} {test : α → Bool} {list : List α} {count : Nat} {found : α}
    (first : (list.take count).find? test = some found) : list.find? test = some found := by
  rw [← List.take_append_drop count list, List.find?_append, first]
  rfl

theorem Store.latest_lawful : (Store.latest κ ν).Lawful where
  new _ _ _ := rfl
  same {state earlier key value ttl now found} _ got := by
    obtain ⟨entry, first, young⟩ := Option.bind_eq_some_iff.mp got
    have whole := find_take first
    rw [List.find?_cons_of_pos (by simp)] at whole
    cases whole
    split at young
    next alive =>
      cases young
      exact ⟨rfl, alive⟩
    next => cases young
  other {state earlier key value ttl now asked found} different _ got := by
    obtain ⟨entry, first, young⟩ := Option.bind_eq_some_iff.mp got
    have whole := find_take first
    have skips : (fun entry : κ × ν × Nat => decide
        (decide (entry.1 ≠ key) = true ∧ decide (entry.1 = asked) = true)) =
        fun entry => decide (entry.1 = asked) := by
      funext entry
      by_cases same : entry.1 = asked
      · simp [same, different]
      · simp [same]
    rw [List.find?_cons_of_neg (by simp [different.symm]), List.find?_filter] at whole
    rw [skips] at whole
    exact Option.bind_eq_some_iff.mpr ⟨entry, whole, young⟩

end LocalProxy.Expiry
