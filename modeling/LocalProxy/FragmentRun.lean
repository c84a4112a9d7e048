import LocalProxy.Fragment
import Mathlib.Data.List.Infix

/-! Runs of a fragmenting stream and what they are compared with: the bytes its
callers were told were taken, and the bytes the stream below took. -/

namespace LocalProxy.Fragment
open Polling

variable {S : Type} (inner : Inner S)

/-- A call of the layer. `expired` is what its timer answers if a read polls it. -/
inductive Event where
  | write (bytes : List Byte)
  | flush
  | read (expired : Bool) (room : Nat)
  deriving DecidableEq, Repr

/-- `record` is the length of the record that went through `SendingMessage`, if one did. -/
structure Run (S : Type) where
  layer : FragmentLayer S
  accepted : List Byte
  record : Option Nat

def Run.start (stream : S) : Run S := ⟨.new stream, [], none⟩

def recordOf (record : Option Nat) : State → Option Nat
  | .sendingMessage _ header _ => some header.len
  | _ => record

def Run.settle (run : Run S) (layer : FragmentLayer S) (taken : List Byte) : Run S :=
  ⟨layer, run.accepted ++ taken, recordOf run.record layer.state⟩

/-- Only a write that answers `Ready(Ok(n))` takes bytes, the first `n` of its buffer. -/
def step (fuel : Nat) (run : Run S) : Event → Run S
  | .write bytes => match (pollWrite inner fuel bytes).run run.layer with
    | .ok n layer => run.settle layer (bytes.take n)
    | .error _ layer => run.settle layer []
  | .flush => match (pollFlush inner fuel).run run.layer with
    | .ok _ layer => run.settle layer []
    | .error _ layer => run.settle layer []
  | .read expired room => match (pollRead inner fuel expired room).run run.layer with
    | .ok _ layer => run.settle layer []
    | .error _ layer => run.settle layer []

def runFrom (fuel : Nat) (run : Run S) (events : List Event) : Run S :=
  events.foldl (step inner fuel) run

def run (fuel : Nat) (stream : S) (events : List Event) : Run S :=
  runFrom inner fuel (.start stream) events

section Steps

variable {inner} {fuel : Nat} {run : Run S} {P : FragmentLayer S → Prop}
  {E : Exit IoError → FragmentLayer S → Prop} {R : Run S → Prop}

/-- What a poll leaves behind, after each of its ends, is what its step leaves behind. -/
theorem step_write {bytes : List Byte} {Q : Nat → FragmentLayer S → Prop}
    (poll : Triple P (pollWrite inner fuel bytes) Q E) (holds : P run.layer)
    (done : ∀ n layer, Q n layer → R (run.settle layer (bytes.take n)))
    (left : ∀ exit layer, E exit layer → R (run.settle layer [])) :
    R (step inner fuel run (.write bytes)) := by
  have ends := poll run.layer holds
  simp only [step]
  cases result : (pollWrite inner fuel bytes).run run.layer with
  | ok n layer => rw [result] at ends; exact done n layer ends
  | error exit layer => rw [result] at ends; exact left exit layer ends

theorem step_flush {Q : Unit → FragmentLayer S → Prop}
    (poll : Triple P (pollFlush inner fuel) Q E) (holds : P run.layer)
    (done : ∀ value layer, Q value layer → R (run.settle layer []))
    (left : ∀ exit layer, E exit layer → R (run.settle layer [])) :
    R (step inner fuel run .flush) := by
  have ends := poll run.layer holds
  simp only [step]
  cases result : (pollFlush inner fuel).run run.layer with
  | ok value layer => rw [result] at ends; exact done value layer ends
  | error exit layer => rw [result] at ends; exact left exit layer ends

theorem step_read {expired : Bool} {room : Nat} {Q : List Byte → FragmentLayer S → Prop}
    (poll : Triple P (pollRead inner fuel expired room) Q E) (holds : P run.layer)
    (done : ∀ bytes layer, Q bytes layer → R (run.settle layer []))
    (left : ∀ exit layer, E exit layer → R (run.settle layer [])) :
    R (step inner fuel run (.read expired room)) := by
  have ends := poll run.layer holds
  simp only [step]
  cases result : (pollRead inner fuel expired room).run run.layer with
  | ok bytes layer => rw [result] at ends; exact done bytes layer ends
  | error exit layer => rw [result] at ends; exact left exit layer ends

end Steps

/-- The bytes a call made the stream below take. -/
def Call.taken : Call → List Byte
  | .write _ slice (.ready (.ok n)) => slice.take n
  | _ => []

def acknowledged (calls : List Call) : List Byte := calls.flatMap Call.taken

@[simp] theorem acknowledged_nil : acknowledged [] = [] := rfl

@[simp] theorem acknowledged_append (calls more : List Call) :
    acknowledged (calls ++ more) = acknowledged calls ++ acknowledged more :=
  List.flatMap_append

@[simp] theorem acknowledged_single (call : Call) : acknowledged [call] = call.taken := by
  simp [acknowledged]

/-- A call that is found in a longer record of calls is the last of them or was there before. -/
theorem split_concat {calls earlier later : List Call} {last found : Call}
    (split : calls ++ [last] = earlier ++ found :: later) :
    earlier = calls ∧ found = last ∨ ∃ rest, calls = earlier ++ found :: rest := by
  rcases List.eq_nil_or_concat later with empty | ⟨rest, final, same⟩
  · subst later
    obtain ⟨front, back⟩ := List.append_inj' split rfl
    exact .inl ⟨front.symm, (List.cons.inj back).1.symm⟩
  · subst later
    rw [List.concat_eq_append, ← List.cons_append, ← List.append_assoc] at split
    exact .inr ⟨rest, (List.append_inj' split rfl).1⟩

/-- One record of one payload byte for each byte of the payload. -/
def fragments (base payload : List Byte) : List Byte :=
  payload.flatMap fun byte => base ++ [0, 1, byte]

/-- What becomes of a whole record. One without payload stays as it is. -/
def frag (record : List Byte) : List Byte :=
  if record.length ≤ 5 then record else fragments (record.take 3) (record.drop 5)

/-- What the stream below is to receive for the bytes accepted. -/
def wire (record : Option Nat) (accepted : List Byte) : List Byte :=
  match record with
  | none => accepted
  | some len => frag (accepted.take len) ++ accepted.drop len

@[simp] theorem fragments_nil (base : List Byte) : fragments base [] = [] := rfl

@[simp] theorem fragments_append (base first last : List Byte) :
    fragments base (first ++ last) = fragments base first ++ fragments base last :=
  List.flatMap_append

@[simp] theorem fragments_single (base : List Byte) (byte : Byte) :
    fragments base [byte] = base ++ [0, 1, byte] := by
  simp [fragments]

@[simp] theorem wire_none (accepted : List Byte) : wire none accepted = accepted := rfl

/-- Bytes accepted after the record are passed on as they are. -/
theorem wire_append (record : Option Nat) (accepted more : List Byte)
    (within : ∀ len, record = some len → len ≤ accepted.length) :
    wire record (accepted ++ more) = wire record accepted ++ more := by
  cases record with
  | none => rfl
  | some len =>
    have fits := within len rfl
    simp only [wire, List.take_append_of_le_length fits, List.drop_append_of_le_length fits,
      List.append_assoc]

theorem wire_empty_record (accepted : List Byte) : wire (some 5) accepted = accepted := by
  have short : (accepted.take 5).length ≤ 5 := by simp only [List.length_take]; omega
  simp only [wire, frag, if_pos short, List.take_append_drop]

/-- `D` is always a prefix of what is due, and all of it in the state `SendingData`. -/
def Run.Delivered (run : Run S) : Prop :=
  acknowledged run.layer.calls <+: wire run.record run.accepted ∧
    (run.layer.state = .sendingData →
      acknowledged run.layer.calls = wire run.record run.accepted)

/-- A stream below never takes more than it is given. -/
def Inner.Bounded (inner : Inner S) : Prop :=
  ∀ stream slice n below, inner.pollWrite stream slice = (.ready (.ok n), below) →
    n ≤ slice.length

/-- It takes something of a slice that is not empty. -/
def Inner.Progressing (inner : Inner S) : Prop :=
  ∀ stream slice n below, inner.pollWrite stream slice = (.ready (.ok n), below) →
    slice ≠ [] → 1 ≤ n

end LocalProxy.Fragment
