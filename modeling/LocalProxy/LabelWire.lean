import Mathlib.Data.List.TakeWhile

/-! A sequence of labels as it is sent: each behind a byte with its length, a byte of
zero behind the last. Nothing but an empty label is misread. -/

namespace LocalProxy.LabelWire

abbrev Label := List UInt8

def write : List Label → List UInt8
  | [] => [0]
  | label :: labels => UInt8.ofNat label.length :: label ++ write labels

/-- The labels up to the first length of zero, with what follows it. -/
def read : List UInt8 → Option (List Label × List UInt8)
  | [] => none
  | count :: rest =>
    if count = 0 then some ([], rest)
    else if 63 < count.toNat ∨ rest.length < count.toNat then none
    else (read (rest.drop count.toNat)).map fun found =>
      (rest.take count.toNat :: found.1, found.2)
termination_by bytes => bytes.length
decreasing_by simp only [List.length_drop, List.length_cons]; omega

theorem read_end (rest : List UInt8) : read (0 :: rest) = some ([], rest) := by
  rw [read, if_pos rfl]

theorem read_label {label : Label} (nonempty : label ≠ []) (short : label.length ≤ 63)
    (rest : List UInt8) : read (UInt8.ofNat label.length :: label ++ rest) =
      (read rest).map fun found => (label :: found.1, found.2) := by
  have positive := List.length_pos_iff.mpr nonempty
  have count : (UInt8.ofNat label.length).toNat = label.length := by
    rw [UInt8.toNat_ofNat']
    omega
  have counted : UInt8.ofNat label.length ≠ 0 := by
    intro zero
    rw [zero] at count
    exact absurd count.symm (by simpa using nonempty)
  have fits : ¬ (63 < label.length ∨ (label ++ rest).length < label.length) := by
    simp only [List.length_append]
    omega
  rw [List.cons_append, read, if_neg counted]
  simp only [count, if_neg fits, List.drop_left, List.take_left]

variable {labels : List Label}

theorem read_write (sound : ∀ label ∈ labels, label ≠ [] ∧ label.length ≤ 63)
    (rest : List UInt8) : read (write labels ++ rest) = some (labels, rest) := by
  induction labels with
  | nil => exact read_end rest
  | cons label labels ih =>
    obtain ⟨nonempty, short⟩ := sound label (by simp)
    rw [write, List.append_assoc, read_label nonempty short,
      ih fun other member => sound other (by simp [member])]
    rfl

/-- An empty label ends the sequence for the reader. -/
theorem read_write_cut (short : ∀ label ∈ labels, label.length ≤ 63) (rest : List UInt8) :
    ∃ after, read (write labels ++ rest) =
      some (labels.takeWhile fun label => !label.isEmpty, after) := by
  induction labels with
  | nil => exact ⟨rest, read_end rest⟩
  | cons label labels ih =>
    cases label with
    | nil =>
      refine ⟨write labels ++ rest, ?_⟩
      rw [write, List.takeWhile_cons]
      exact read_end _
    | cons first more =>
      obtain ⟨after, found⟩ := ih fun other member => short other (by simp [member])
      refine ⟨after, ?_⟩
      rw [write, List.append_assoc, read_label (by simp) (short _ (by simp)), found,
        List.takeWhile_cons]
      rfl

/-- The labels are read back exactly if none is empty. -/
theorem read_write_iff (short : ∀ label ∈ labels, label.length ≤ 63) (rest : List UInt8) :
    (read (write labels ++ rest)).map Prod.fst = some labels ↔ ∀ label ∈ labels, label ≠ [] := by
  constructor
  · intro same
    obtain ⟨after, found⟩ := read_write_cut short rest
    rw [found, Option.map_some, Option.some.injEq, List.takeWhile_eq_self_iff] at same
    intro label member empty
    simpa [empty] using same label member
  · intro nonempty
    rw [read_write fun label member => ⟨nonempty label member, short label member⟩]
    rfl

end LocalProxy.LabelWire
