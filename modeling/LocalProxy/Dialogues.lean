import LocalProxy.Programs

/-! Programs that talk to a user, and what holds of their conversations: all that is ever
written to the standard output, how many lines are read, and what comes of the lines, in every
run and for every choice of the lines. -/

namespace LocalProxy.Dialogues
open Programs Program

inductive Console where
  | readFile (path : List Char)
  | write (text : List Char)
  | flush
  | readLine
  /-- A panic, with its message where it is one of the program's own. -/
  | panic (message : Option (List Char))

/-- The answers, which are none when the call fails. -/
abbrev ConsoleAns : Console → Type
  | .readFile _ => Option (List Char)
  | .write _ => Option Unit
  | .flush => Option Unit
  | .readLine => Option (List Char)
  | .panic _ => Empty

abbrev Dialog (α : Type) := Program Console ConsoleAns Empty α

abbrev Talk := List (Event Console ConsoleAns)

variable {α β : Type}

def panicWith (message : Option (List Char)) : Dialog α := ask (.panic message) Empty.elim

def unwrap : Option α → Dialog α
  | some result => .value result
  | none => panicWith none

def readFile (path : List Char) : Dialog (List Char) := ask (.readFile path) unwrap
def write (text : List Char) : Dialog Unit := ask (.write text) unwrap
def flush : Dialog Unit := ask .flush unwrap
def readLine : Dialog (List Char) := ask .readLine unwrap

/-- What was written in the course of some events. -/
def written (talk : Talk) : List (List Char) :=
  talk.filterMap fun event => match event.operation with
    | .write text => some text
    | _ => none

/-- The lines that were typed in. -/
def typed (talk : Talk) : List (List Char) :=
  talk.filterMap fun event => match event with
    | ⟨.readLine, some line⟩ => some line
    | _ => none

theorem written_append (before after : Talk) :
    written (before ++ after) = written before ++ written after := List.filterMap_append

theorem typed_append (before after : Talk) :
    typed (before ++ after) = typed before ++ typed after := List.filterMap_append

/-- A call that has failed. -/
inductive Failed : Event Console ConsoleAns → Prop where
  | readFile (path) : Failed ⟨.readFile path, none⟩
  | write (text) : Failed ⟨.write text, none⟩
  | flush : Failed ⟨.flush, none⟩
  | readLine : Failed ⟨.readLine, none⟩

/-- What a dialog does: in every run it writes these texts, as far as it gets, and reads no more
lines than this; when it is through it has the result of the lines, and for all lines that
have one there is such a run. It panics where a call has failed, or where the lines will have no
result, whichever others follow. -/
structure Converses (program : Dialog α) (texts : List (List Char)) (asks : Nat)
    (result : List (List Char) → Option α) : Prop where
  writes : ∀ talk left, Steps program talk left → written talk <+: texts
  reads : ∀ talk left, Steps program talk left → (typed talk).length ≤ asks
  ends : ∀ talk value, Returns program talk value →
    written talk = texts ∧ (typed talk).length = asks ∧ result (typed talk) = some value
  served : ∀ lines value, lines.length = asks → result lines = some value →
    ∃ talk, Returns program talk value ∧ typed talk = lines
  panics : ∀ talk message next, Steps program talk (ask (.panic message) next) →
    (∃ event ∈ talk, Failed event) ∨
      ∀ more, (typed talk).length + more.length = asks → result (typed talk ++ more) = none

theorem converses_value (value : α) : Converses (.value value) [] 0 fun _ => some value where
  writes talk left steps := by
    rw [(steps_value.mp steps).1]
    exact List.nil_prefix
  reads talk left steps := by
    rw [(steps_value.mp steps).1]
    exact Nat.zero_le 0
  ends talk other steps := by
    obtain ⟨empty, same⟩ := returns_value.mp steps
    rw [empty, same]
    exact ⟨rfl, rfl, rfl⟩
  served lines other none same := by
    cases same
    exact ⟨[], .still _, (List.length_eq_zero_iff.mp none).symm⟩
  panics talk message next steps := by
    cases (steps_value.mp steps).2

/-- A panic ends the dialog. Its message goes to the standard error and is not written. -/
theorem converses_panic (message : Option (List Char)) :
    Converses (panicWith message : Dialog α) [] 0 fun _ => none := by
  have stuck : ∀ {talk left}, Steps (panicWith message : Dialog α) talk left →
      talk = [] ∧ left = panicWith message := by
    intro talk left steps
    rcases steps_ask.mp steps with ⟨empty, same⟩ | ⟨answer, _⟩
    · exact ⟨empty, same⟩
    · exact answer.elim
  constructor
  · intro talk left steps
    rw [(stuck steps).1]
    exact List.nil_prefix
  · intro talk left steps
    rw [(stuck steps).1]
    exact Nat.zero_le 0
  · intro talk value steps
    cases (stuck steps).2
  · intro lines value _ absurd
    cases absurd
  · intro talk message next steps
    exact .inr fun _ _ => rfl

theorem converses_unwrap (option : Option α) : Converses (unwrap option) [] 0 fun _ => option := by
  cases option with
  | some value => exact converses_value value
  | none => exact converses_panic none

/-- A call that is answered, and whose failure is a panic. -/
theorem converses_call {operation : Console} {texts : List (List Char)} {asks : Nat}
    {read : ConsoleAns operation → Option α} {result : List (List Char) → Option α}
    (writes : ∀ answer, written [⟨operation, answer⟩] = texts)
    (asked : ∀ answer, (typed [⟨operation, answer⟩]).length ≤ asks)
    (ends : ∀ answer value, read answer = some value →
      (typed [⟨operation, answer⟩]).length = asks ∧
        result (typed [⟨operation, answer⟩]) = some value)
    (served : ∀ lines value, lines.length = asks → result lines = some value →
      ∃ answer, read answer = some value ∧ typed [⟨operation, answer⟩] = lines)
    (fails : ∀ answer, read answer = none → Failed ⟨operation, answer⟩)
    (calm : ∀ message, operation ≠ .panic message) :
    Converses (ask operation fun answer => unwrap (read answer)) texts asks result := by
  have after : ∀ {answer talk left}, Steps (unwrap (read answer)) talk left →
      talk = [] ∧ ∀ value, left = .value value → read answer = some value := by
    intro answer talk left steps
    cases found : read answer with
    | none =>
      rw [found] at steps
      rcases steps_ask.mp steps with ⟨empty, same⟩ | ⟨answer, _⟩
      · exact ⟨empty, fun value absurd => by rw [same] at absurd; cases absurd⟩
      · exact answer.elim
    | some value =>
      rw [found] at steps
      obtain ⟨empty, same⟩ := steps_value.mp steps
      refine ⟨empty, fun other equal => ?_⟩
      rw [same] at equal
      cases equal
      rfl
  constructor
  · intro talk left steps
    rcases steps_ask.mp steps with ⟨empty, _⟩ | ⟨answer, rest, split, later⟩
    · rw [empty]
      exact List.nil_prefix
    · rw [split, (after later).1]
      exact writes answer ▸ List.prefix_rfl
  · intro talk left steps
    rcases steps_ask.mp steps with ⟨empty, _⟩ | ⟨answer, rest, split, later⟩
    · rw [empty]
      exact Nat.zero_le asks
    · rw [split, (after later).1]
      exact asked answer
  · intro talk value steps
    obtain ⟨answer, rest, split, later⟩ := returns_ask.mp steps
    obtain ⟨empty, found⟩ := after later
    rw [split, empty]
    exact ⟨writes answer, ends answer value (found value rfl)⟩
  · intro lines value length same
    obtain ⟨answer, found, line⟩ := served lines value length same
    refine ⟨[⟨operation, answer⟩], .ask ?_, line⟩
    rw [found]
    exact .still _
  · intro talk message next steps
    rcases steps_ask.mp steps with ⟨_, same⟩ | ⟨answer, rest, split, later⟩
    · cases same
      exact (calm message rfl).elim
    · refine .inl ⟨⟨operation, answer⟩, split ▸ List.mem_cons_self, fails answer ?_⟩
      cases found : read answer with
      | none => rfl
      | some value =>
        rw [found] at later
        cases (steps_value.mp later).2

theorem converses_write (text : List Char) : Converses (write text) [text] 0 fun _ => some () := by
  refine converses_call (fun _ => rfl) (fun _ => Nat.le_refl 0) (fun _ _ _ => ⟨rfl, rfl⟩) ?_ ?_
    fun _ => nofun
  · intro lines value none _
    exact ⟨some (), rfl, (List.length_eq_zero_iff.mp none).symm⟩
  · intro answer failed
    cases failed
    exact .write text

theorem converses_flush : Converses flush [] 0 fun _ => some () := by
  refine converses_call (fun _ => rfl) (fun _ => Nat.le_refl 0) (fun _ _ _ => ⟨rfl, rfl⟩) ?_ ?_
    fun _ => nofun
  · intro lines value none _
    exact ⟨some (), rfl, (List.length_eq_zero_iff.mp none).symm⟩
  · intro answer failed
    cases failed
    exact .flush

theorem converses_readLine : Converses readLine [] 1 List.head? := by
  refine converses_call (fun _ => rfl) ?_ ?_ ?_ ?_ fun _ => nofun
  · intro answer
    cases answer with
    | none => exact Nat.zero_le 1
    | some line => exact Nat.le_refl 1
  · intro answer line found
    rw [found]
    exact ⟨rfl, rfl⟩
  · intro lines line one head
    match lines with
    | [single] =>
      cases head
      exact ⟨some line, rfl, rfl⟩
  · intro answer failed
    cases failed
    exact .readLine

/-- A dialog behind another, with the lines that are left. -/
theorem Converses.bind {program : Dialog α} {next : α → Dialog β} {texts more : List (List Char)}
    {asks others : Nat} {result : List (List Char) → Option α}
    {rest : α → List (List Char) → Option β} (first : Converses program texts asks result)
    (later : ∀ value, Converses (next value) more others (rest value)) :
    Converses (program >>= next) (texts ++ more) (asks + others) fun lines =>
      (result (lines.take asks)).bind fun value => rest value (lines.drop asks) := by
  constructor
  · intro talk left steps
    rcases steps_bind steps with ⟨middle, run, _⟩ | ⟨value, before, after, split, run, last⟩
    · exact (first.writes talk middle run).trans (List.prefix_append texts more)
    · rw [split, written_append, (first.ends before value run).1]
      exact (List.prefix_append_right_inj texts).mpr ((later value).writes after left last)
  · intro talk left steps
    rcases steps_bind steps with ⟨middle, run, _⟩ | ⟨value, before, after, split, run, last⟩
    · exact Nat.le_trans (first.reads talk middle run) (Nat.le_add_right asks others)
    · rw [split, typed_append, List.length_append, (first.ends before value run).2.1]
      exact Nat.add_le_add_left ((later value).reads after left last) asks
  · intro talk final steps
    obtain ⟨value, before, after, split, run, last⟩ := returns_bind.mp steps
    obtain ⟨wrote, read, found⟩ := first.ends before value run
    obtain ⟨wrote', read', found'⟩ := (later value).ends after final last
    rw [split, written_append, typed_append, wrote, wrote', List.length_append, read, read']
    refine ⟨rfl, rfl, ?_⟩
    rw [List.take_left' read, List.drop_left' read, found]
    exact found'
  · intro lines final length same
    obtain ⟨value, found, found'⟩ := Option.bind_eq_some_iff.mp same
    have short : (lines.take asks).length = asks := by
      rw [List.length_take]
      omega
    have others : (lines.drop asks).length = others := by
      rw [List.length_drop]
      omega
    obtain ⟨before, run, front⟩ := first.served (lines.take asks) value short found
    obtain ⟨after, last, back⟩ := (later value).served (lines.drop asks) final others found'
    refine ⟨before ++ after, returns_bind.mpr ⟨value, before, after, rfl, run, last⟩, ?_⟩
    rw [typed_append, front, back, List.take_append_drop]
  · intro talk message stuck steps
    have second : ∀ {value before after}, Returns program before value →
        Steps (next value) after (ask (.panic message) stuck) →
        (∃ event ∈ after, Failed event) ∨ ∀ more,
          (typed (before ++ after)).length + more.length = asks + others →
            (result ((typed (before ++ after) ++ more).take asks)).bind (fun value =>
              rest value ((typed (before ++ after) ++ more).drop asks)) = none := by
      intro value before after run last
      obtain ⟨_, read, found⟩ := first.ends before value run
      refine ((later value).panics after message stuck last).imp_right fun never more length => ?_
      rw [typed_append, List.length_append, read] at length
      rw [typed_append, List.append_assoc, List.take_left' read, List.drop_left' read, found]
      exact never more (by omega)
    rcases steps_bind steps with ⟨middle, run, same⟩ | ⟨value, before, after, split, run, last⟩
    · cases middle with
      | value value =>
        have last : Steps (next value) [] (ask (.panic message) stuck) := same ▸ .still _
        have never := second run last
        rw [List.append_nil] at never
        refine never.imp_left fun failed => ?_
        obtain ⟨_, member, _⟩ := failed
        cases member
      | fail error => exact error.elim
      | choose left => cases same
      | ask operation inner =>
        cases same
        refine (first.panics talk message inner run).imp_right fun never more length => ?_
        have read := first.reads talk _ run
        have front : (typed talk ++ more).take asks =
            typed talk ++ more.take (asks - (typed talk).length) := by
          rw [List.take_append, List.take_of_length_le read]
        rw [front, never]
        · rfl
        · rw [List.length_take]
          omega
    · rw [split]
      refine (second run last).imp_left fun failed => ?_
      obtain ⟨event, member, failed⟩ := failed
      exact ⟨event, List.mem_append_right before member, failed⟩

/-- The same of a dialog in other words. The result matters for lines of the right number. -/
theorem Converses.congr {program : Dialog α} {texts others : List (List Char)} {asks count : Nat}
    {result other : List (List Char) → Option α} (converses : Converses program texts asks result)
    (sameTexts : texts = others) (sameAsks : asks = count)
    (same : ∀ lines, lines.length = count → result lines = other lines) :
    Converses program others count other := by
  subst sameTexts sameAsks
  constructor
  · exact converses.writes
  · exact converses.reads
  · intro talk value steps
    obtain ⟨wrote, read, found⟩ := converses.ends talk value steps
    exact ⟨wrote, read, (same _ read) ▸ found⟩
  · intro lines value length found
    exact converses.served lines value length (same lines length ▸ found)
  · intro talk message next steps
    refine (converses.panics talk message next steps).imp_right fun never more length => ?_
    rw [← same]
    · exact never more length
    · rw [List.length_append, length]

end LocalProxy.Dialogues
