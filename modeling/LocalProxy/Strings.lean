import Mathlib.Algebra.Group.Nat.Defs
import Mathlib.Data.List.Basic
import Mathlib.Data.Option.Basic

/-! Text as lists of characters, with the splitting at a separator and the numerals
that parsers of addresses are made of. Numerals are read back as they were printed. -/

namespace LocalProxy.Strings

abbrev Text := List Char

/-- `str::split_once`: the text before and after the first `separator`. -/
def splitOnce (separator : Char) : Text → Option (Text × Text)
  | [] => none
  | c :: rest =>
    if c = separator then some ([], rest)
    else (splitOnce separator rest).map fun halves => (c :: halves.1, halves.2)

/-- `str::rsplit_once`: the text before and after the last `separator`. -/
def rsplitOnce (separator : Char) : Text → Option (Text × Text)
  | [] => none
  | c :: rest =>
    match rsplitOnce separator rest with
    | some halves => some (c :: halves.1, halves.2)
    | none => if c = separator then some ([], rest) else none

theorem rsplitOnce_none {separator : Char} {text : Text} :
    rsplitOnce separator text = none ↔ separator ∉ text := by
  induction text with
  | nil => simp [rsplitOnce]
  | cons c rest ih =>
    cases split : rsplitOnce separator rest with
    | some halves =>
      have member : separator ∈ rest := by
        by_contra absent
        rw [ih.mpr absent] at split
        contradiction
      simp [rsplitOnce, split, member]
    | none =>
      have absent := ih.mp split
      by_cases same : c = separator
      · simp [rsplitOnce, split, same]
      · simp [rsplitOnce, split, same, absent, Ne.symm same]

theorem rsplitOnce_append {separator : Char} (front : Text) {back : Text}
    (absent : separator ∉ back) :
    rsplitOnce separator (front ++ separator :: back) = some (front, back) := by
  induction front with
  | nil => simp [rsplitOnce, rsplitOnce_none.mpr absent]
  | cons c rest ih => simp [rsplitOnce, ih]

theorem rsplitOnce_some {separator : Char} {text front back : Text}
    (split : rsplitOnce separator text = some (front, back)) :
    text = front ++ separator :: back ∧ separator ∉ back := by
  induction text generalizing front with
  | nil => simp [rsplitOnce] at split
  | cons c rest ih =>
    cases later : rsplitOnce separator rest with
    | some halves =>
      obtain ⟨head, tail⟩ := halves
      simp only [rsplitOnce, later, Option.some.injEq, Prod.mk.injEq] at split
      obtain ⟨rfl, rfl⟩ := split
      obtain ⟨whole, absent⟩ := ih later
      exact ⟨congrArg (c :: ·) whole, absent⟩
    | none =>
      have absent := rsplitOnce_none.mp later
      by_cases same : c = separator
      · simp only [rsplitOnce, later, if_pos same, Option.some.injEq, Prod.mk.injEq] at split
        rw [← split.1, ← split.2, same]
        exact ⟨rfl, absent⟩
      · simp [rsplitOnce, later, same] at split

theorem splitOnce_append {separator : Char} {front : Text} (back : Text)
    (absent : separator ∉ front) :
    splitOnce separator (front ++ separator :: back) = some (front, back) := by
  induction front with
  | nil => simp [splitOnce]
  | cons c rest ih =>
    have other : c ≠ separator := fun same => absent (by simp [same])
    have later : separator ∉ rest := fun member => absent (List.mem_cons_of_mem c member)
    simp [splitOnce, other, ih later]

theorem splitOnce_none {separator : Char} {text : Text} :
    splitOnce separator text = none ↔ separator ∉ text := by
  induction text with
  | nil => simp [splitOnce]
  | cons c rest ih =>
    by_cases same : c = separator
    · simp [splitOnce, same]
    · simp [splitOnce, same, ih, Ne.symm same]

theorem splitOnce_some {separator : Char} {text front back : Text}
    (split : splitOnce separator text = some (front, back)) :
    text = front ++ separator :: back ∧ separator ∉ front := by
  induction text generalizing front with
  | nil => simp [splitOnce] at split
  | cons c rest ih =>
    by_cases same : c = separator
    · simp only [splitOnce, if_pos same, Option.some.injEq, Prod.mk.injEq] at split
      rw [← split.1, ← split.2, same]
      simp
    · cases later : splitOnce separator rest with
      | none => simp [splitOnce, same, later] at split
      | some halves =>
        obtain ⟨head, tail⟩ := halves
        simp only [splitOnce, if_neg same, later, Option.map_some, Option.some.injEq,
          Prod.mk.injEq] at split
        obtain ⟨rfl, rfl⟩ := split
        obtain ⟨whole, absent⟩ := ih later
        exact ⟨congrArg (c :: ·) whole, by simp [Ne.symm same, absent]⟩

/-- The value of a letter or digit in the largest radix. -/
def digitValue (c : Char) : Nat :=
  if c.isDigit then c.toNat - 48
  else if 'a' ≤ c ∧ c ≤ 'z' then c.toNat - 87
  else if 'A' ≤ c ∧ c ≤ 'Z' then c.toNat - 55
  else 36

/-- `char::to_digit`. -/
def toDigit (radix : Nat) (c : Char) : Option Nat :=
  if digitValue c < radix then some (digitValue c) else none

theorem digitValue_digitChar {digit : Nat} (small : digit < 16) :
    digitValue (Nat.digitChar digit) = digit := by
  have table : ∀ d : Fin 16, digitValue (Nat.digitChar d) = d := by decide
  exact table ⟨digit, small⟩

theorem toDigit_digitChar {radix digit : Nat} (few : radix ≤ 16) (small : digit < radix) :
    toDigit radix (Nat.digitChar digit) = some digit := by
  rw [toDigit, digitValue_digitChar (by omega), if_pos small]

/-- The longest run of digits the text opens with, and what follows it. -/
def spanDigits (radix : Nat) : Text → List Nat × Text
  | [] => ([], [])
  | c :: rest =>
    match toDigit radix c with
    | some digit => (digit :: (spanDigits radix rest).1, (spanDigits radix rest).2)
    | none => ([], c :: rest)

def fromDigits (radix : Nat) (digits : List Nat) : Nat :=
  digits.foldl (fun value digit => value * radix + digit) 0

theorem fromDigits_concat (radix : Nat) (digits : List Nat) (digit : Nat) :
    fromDigits radix (digits ++ [digit]) = fromDigits radix digits * radix + digit := by
  simp [fromDigits]

/-- A rest no digit opens, so that a numeral in front of it ends there. -/
def Unread (radix : Nat) (rest : Text) : Prop := ∀ c ∈ rest.head?, toDigit radix c = none

theorem spanDigits_printed {radix : Nat} (few : radix ≤ 16) {digits : List Nat} {rest : Text}
    (small : ∀ digit ∈ digits, digit < radix) (ends : Unread radix rest) :
    spanDigits radix (digits.map Nat.digitChar ++ rest) = (digits, rest) := by
  induction digits with
  | nil =>
    cases rest with
    | nil => rfl
    | cons c rest => simp [spanDigits, ends c (by simp)]
  | cons digit digits ih =>
    have first := toDigit_digitChar few (small digit (by simp))
    have others := ih fun d member => small d (by simp [member])
    simp [spanDigits, first, others]

/-- What a printed numeral consists of: its digits, with no idle zero in front. -/
structure Numeral (radix n : Nat) (digits : List Nat) : Prop where
  printed : Nat.toDigits radix n = digits.map Nat.digitChar
  small : ∀ digit ∈ digits, digit < radix
  value : fromDigits radix digits = n
  leading : digits.head? = some 0 → digits = [0]
  nonempty : digits ≠ []

theorem exists_numeral {radix : Nat} (least : 1 < radix) (n : Nat) :
    ∃ digits, Numeral radix n digits := by
  induction n using Nat.strongRecOn with
  | ind n ih =>
    by_cases single : n < radix
    · exact ⟨[n], by rw [Nat.toDigits_of_lt_base single]; rfl, by simpa using single,
        by simp [fromDigits], by simp, by simp⟩
    · have high : radix ≤ n := Nat.le_of_not_lt single
      obtain ⟨digits, numeral⟩ := ih (n / radix) (Nat.div_lt_self (by omega) least)
      have quotient : 0 < n / radix := Nat.div_pos high (by omega)
      refine ⟨digits ++ [n % radix], ?_, ?_, ?_, ?_, by simp⟩
      · rw [Nat.toDigits_of_base_le least high, numeral.printed]
        simp
      · intro digit member
        rcases List.mem_append.mp member with earlier | last
        · exact numeral.small digit earlier
        · rw [List.mem_singleton.mp last]
          exact Nat.mod_lt n (by omega)
      · calc fromDigits radix (digits ++ [n % radix])
            = n / radix * radix + n % radix := by rw [fromDigits_concat, numeral.value]
          _ = n := Nat.div_add_mod' n radix
      · intro zero
        have digits_zero : digits = [0] := by
          apply numeral.leading
          cases digits with
          | nil => exact (numeral.nonempty rfl).elim
          | cons digit rest => simpa using zero
        have nothing : n / radix = 0 := by
          rw [← numeral.value, digits_zero]
          simp [fromDigits]
        omega

/-- `Parser::read_number` of the address parser, for values below `limit`. -/
def readNumber (radix maxDigits limit : Nat) (allowZeroPrefix : Bool) (text : Text) :
    Option (Nat × Text) :=
  let (digits, rest) := spanDigits radix text
  if digits.length > maxDigits then none
  else if digits.length = 0 then none
  else if !allowZeroPrefix && text.head? == some '0' && decide (digits.length > 1) then none
  else if fromDigits radix digits < limit then some (fromDigits radix digits, rest)
  else none

theorem readNumber_print {radix maxDigits limit n : Nat} {allowZeroPrefix : Bool} {rest : Text}
    (least : 1 < radix) (few : radix ≤ 16) (below : n < limit) (short : n < radix ^ maxDigits)
    (digit : 0 < maxDigits) (ends : Unread radix rest) :
    readNumber radix maxDigits limit allowZeroPrefix (Nat.toDigits radix n ++ rest) =
      some (n, rest) := by
  obtain ⟨digits, numeral⟩ := exists_numeral least n
  have count : digits.length ≤ maxDigits := by
    rw [← List.length_map (f := Nat.digitChar), ← numeral.printed]
    exact (Nat.length_toDigits_le_iff least digit).mpr short
  have span := spanDigits_printed few numeral.small ends
  have nonempty : digits.length ≠ 0 := fun zero => numeral.nonempty (List.length_eq_zero_iff.mp zero)
  have idle : ¬ ((digits.map Nat.digitChar ++ rest).head? = some '0' ∧ 1 < digits.length) := by
    intro both
    cases digits with
    | nil => exact nonempty rfl
    | cons first later =>
      have zero : first = 0 := by simpa using both.1
      have alone := numeral.leading (by simp [zero])
      simp [alone] at both
  rw [numeral.printed]
  simp only [readNumber, span, numeral.value, if_neg (Nat.not_lt.mpr count), if_neg nonempty,
    if_pos below]
  rw [if_neg]
  simp only [Bool.and_eq_true, beq_iff_eq, decide_eq_true_eq, not_and, and_imp]
  intro _ zero
  exact fun long => idle ⟨zero, long⟩

/-- `from_str` of an unsigned integer type with values below `limit`. -/
def parseUnsigned (limit : Nat) (text : Text) : Option Nat :=
  match text with
  | [] => none
  | ['+'] => none
  | '+' :: digits => whole digits
  | digits => whole digits
where
  whole (digits : Text) : Option Nat :=
    match spanDigits 10 digits with
    | (values, []) => if fromDigits 10 values < limit then some (fromDigits 10 values) else none
    | _ => none

/-- `to_string` of an unsigned integer. -/
def printUnsigned (n : Nat) : Text := Nat.toDigits 10 n

theorem mem_printUnsigned {n : Nat} {c : Char} (member : c ∈ printUnsigned n) : c.isDigit :=
  Nat.isDigit_of_mem_toDigits (by decide) (by decide) member

theorem absent_printUnsigned {c : Char} (n : Nat) (other : c.isDigit = false) :
    c ∉ printUnsigned n := by
  intro member
  rw [mem_printUnsigned member] at other
  contradiction

theorem parseUnsigned_print {limit n : Nat} (below : n < limit) :
    parseUnsigned limit (printUnsigned n) = some n := by
  have least : 1 < 10 := by decide
  obtain ⟨digits, numeral⟩ := exists_numeral least n
  have ends : Unread 10 [] := by simp [Unread]
  have span := spanDigits_printed (by decide) numeral.small ends
  have whole : parseUnsigned.whole limit (printUnsigned n) = some n := by
    rw [printUnsigned, numeral.printed]
    rw [List.append_nil] at span
    simp only [parseUnsigned.whole, span, numeral.value, if_pos below]
  have plus : '+' ∉ printUnsigned n := absent_printUnsigned n (by decide)
  have nonempty : printUnsigned n ≠ [] := Nat.toDigits_ne_nil
  cases shape : printUnsigned n with
  | nil => exact (nonempty shape).elim
  | cons c rest =>
    have first : c ≠ '+' := by
      intro same
      apply plus
      rw [shape, same]
      simp
    rw [← whole, shape]
    simp [parseUnsigned, first]

theorem spanDigits_whole {radix : Nat} {text : Text} (whole : (spanDigits radix text).2 = []) :
    ∀ c ∈ text, toDigit radix c ≠ none := by
  induction text with
  | nil => simp
  | cons c rest ih =>
    cases digit : toDigit radix c with
    | none => simp [spanDigits, digit] at whole
    | some value =>
      simp only [spanDigits, digit] at whole
      intro d member
      rcases List.mem_cons.mp member with same | later
      · rw [same, digit]
        exact Option.some_ne_none value
      · exact ih whole d later

/-- Only digits and a sign make a number. -/
theorem parseUnsigned_char {limit n : Nat} {text : Text} (read : parseUnsigned limit text = some n)
    {c : Char} (member : c ∈ text) : c = '+' ∨ toDigit 10 c ≠ none := by
  have digits : ∀ digits, parseUnsigned.whole limit digits = some n → ∀ c ∈ digits,
      toDigit 10 c ≠ none := by
    intro digits whole
    apply spanDigits_whole
    cases left : (spanDigits 10 digits).2 with
    | nil => rfl
    | cons first rest =>
      have split : spanDigits 10 digits = ((spanDigits 10 digits).1, first :: rest) := by
        rw [← left]
      rw [parseUnsigned.whole, split] at whole
      contradiction
  unfold parseUnsigned at read
  split at read
  · contradiction
  · contradiction
  · rcases List.mem_cons.mp member with plus | later
    · exact .inl plus
    · exact .inr (digits _ read c later)
  · exact .inr (digits _ read c member)

end LocalProxy.Strings
