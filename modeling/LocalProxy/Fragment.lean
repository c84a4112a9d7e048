import LocalProxy.Polling
import Mathlib.Data.List.Basic
import Mathlib.Tactic.SplitIfs

/-! The stream of `outbound/layer/fragment.rs`: it holds back the first bytes written
until it can tell a TLS ClientHello from other traffic, and sends a ClientHello
as one TLS record for each byte. -/

namespace LocalProxy.Fragment
open Polling

abbrev Byte := UInt8

/-- `std::io::Error`: the one this layer raises, and those of the stream below. -/
inductive IoError where
  | brokenPipe
  | other (code : Nat)
  deriving DecidableEq, Repr

/-- The stream below. Its answers may depend on everything asked of it before. -/
structure Inner (S : Type) where
  pollRead : S → Nat → Poll (Except IoError (List Byte)) × S
  pollWrite : S → List Byte → Poll (Except IoError Nat) × S
  pollFlush : S → Poll (Except IoError Unit) × S
  pollShutdown : S → Poll (Except IoError Unit) × S

structure Buffer where
  inner : List Byte
  ptr : Nat
  deriving DecidableEq, Repr

def Buffer.new : Buffer := ⟨[], 0⟩

/-- `base` is the `[u8; 3]` that opens the record: its type and its version. -/
structure Header where
  base : List Byte
  len : Nat
  base_length : base.length = 3
  deriving DecidableEq, Repr

def u16FromBeBytes (high low : Byte) : Nat := high.toNat * 256 + low.toNat

def u16ToBeBytes (value : Nat) : List Byte := [UInt8.ofNat (value / 256), UInt8.ofNat value]

def Header.new (header : List Byte) : Option Header :=
  if short : header.length < 5 then none
  else some {
    base := header.take 3
    len := u16FromBeBytes header[3] header[4] + 5
    base_length := by simp only [List.length_take]; omega }

inductive State where
  | waitingHeader (buf : Buffer)
  | waitingMessage (buf : Buffer) (header : Header)
  | sendingMessage (buf : Buffer) (header : Header) (chunk : Option Buffer)
  | sendingRawBuffer (buf : Buffer)
  | sendingData
  deriving DecidableEq, Repr

def State.isWaiting : State → Bool
  | .waitingHeader _ | .waitingMessage _ _ => true
  | _ => false

def State.isSendingBuffer : State → Bool
  | .sendingMessage _ _ _ | .sendingRawBuffer _ => true
  | _ => false

def State.isHandshakeEnded : State → Bool
  | .sendingData => true
  | _ => false

def State.tryIntoRawSend : State → Bool × State
  | .waitingHeader buf => (true, .sendingRawBuffer { buf with ptr := 0 })
  | .waitingMessage buf _ => (true, .sendingRawBuffer { buf with ptr := 0 })
  | state => (false, state)

/-- A call made of the stream below, with the state of the layer at that moment. -/
inductive Call where
  | read (room : Nat) (answer : Poll (Except IoError (List Byte)))
  | write (state : State) (slice : List Byte) (answer : Poll (Except IoError Nat))
  | flush (state : State) (answer : Poll (Except IoError Unit))
  | shutdown (answer : Poll (Except IoError Unit))
  deriving DecidableEq, Repr

/-- `tokio::time::sleep`, which is only ever asked whether it is over. -/
structure Sleep where
  secs : Nat
  deriving DecidableEq, Repr

/-- `calls` is no field of the source: it keeps the calls made of `inner`, in order. -/
structure FragmentLayer (S : Type) where
  inner : S
  state : State
  timer : Option Sleep
  calls : List Call

def FragmentLayer.new {S : Type} (stream : S) : FragmentLayer S :=
  { inner := stream, state := .waitingHeader .new, timer := none, calls := [] }

/-- The stream below has answered a call. -/
def FragmentLayer.note {S : Type} (layer : FragmentLayer S) (below : S) (call : Call) :
    FragmentLayer S :=
  { layer with inner := below, calls := layer.calls ++ [call] }

@[simp] theorem FragmentLayer.note_state {S : Type} (layer : FragmentLayer S) (below : S)
    (call : Call) : (layer.note below call).state = layer.state := rfl

@[simp] theorem FragmentLayer.note_calls {S : Type} (layer : FragmentLayer S) (below : S)
    (call : Call) : (layer.note below call).calls = layer.calls ++ [call] := rfl

variable {S : Type} (inner : Inner S)

abbrev Task (S α : Type) := Routine IoError (FragmentLayer S) α

def setState (state : State) : Task S Unit :=
  modify fun layer => { layer with state := state }

/-- Asks the stream below and goes on with its answer, or leaves. -/
def ask {α : Type} (question : S → Poll (Except IoError α) × S)
    (call : State → Poll (Except IoError α) → Call) : Task S α := do
  let layer ← get
  let answer := question layer.inner
  set (layer.note answer.2 (call layer.state answer.1))
  awaitReady answer.1

def innerRead (room : Nat) : Task S (List Byte) :=
  ask (fun stream => inner.pollRead stream room) (fun _ answer => .read room answer)

def innerWrite (slice : List Byte) : Task S Nat :=
  ask (fun stream => inner.pollWrite stream slice) (fun state answer => .write state slice answer)

def innerFlush : Task S Unit :=
  ask inner.pollFlush (fun state answer => .flush state answer)

def innerShutdown : Task S Unit :=
  ask inner.pollShutdown (fun _ answer => .shutdown answer)

/-- `&bytes[from..to]`, out of bounds a panic. -/
def sliceOf (bytes : List Byte) (first last : Nat) : Option (List Byte) :=
  if first ≤ last ∧ last ≤ bytes.length then some ((bytes.take last).drop first) else none

/-- `usize` subtraction, below zero a panic. -/
def checkedSub (a b : Nat) : Option Nat := if b ≤ a then some (a - b) else none

/-- The loop `while chunk.inner.len() > chunk.ptr`. `chunk` is a reference into the
state, so that each advance of its cursor is one of the state. -/
def sendChunk (buf : Buffer) (header : Header) (fuel : Nat) (chunk : Buffer) : Task S Buffer :=
  if chunk.inner.length > chunk.ptr then
    match fuel with
    | 0 => throw .outOfFuel
    | fuel + 1 => do
        innerFlush inner
        let send ← unwrap (sliceOf chunk.inner chunk.ptr (chunk.ptr + 1))
        let written ← innerWrite inner send
        if written = 0 then throw (.failed .brokenPipe)
        else do
          let chunk := { chunk with ptr := chunk.ptr + written }
          setState (.sendingMessage buf header (some chunk))
          sendChunk buf header fuel chunk
  else pure chunk

def msgMaxSize : Nat := 1

/-- The next record: the first bytes of the original one, the length and the payload. -/
def nextChunk (buf : Buffer) (header : Header) : Option Buffer := do
  let last := if buf.ptr + msgMaxSize > header.len then header.len else buf.ptr + msgMaxSize
  let msg ← sliceOf buf.inner buf.ptr last
  some { inner := header.base ++ u16ToBeBytes msg.length ++ msg, ptr := 0 }

/-- Sends what is left of the chunk, if there is one, and moves the cursor over its payload. -/
def finishChunk (fuel : Nat) (buf : Buffer) (header : Header) : Option Buffer → Task S Buffer
  | none => pure buf
  | some chunk => do
      let chunk ← sendChunk inner buf header fuel chunk
      let sent ← unwrap (checkedSub chunk.inner.length (header.base.length + 2))
      let buf := { buf with ptr := buf.ptr + sent }
      setState (.sendingMessage buf header (some chunk))
      pure buf

/-- The loop `while header.len > buf.ptr`. -/
def sendMessage (fuel : Nat) (buf : Buffer) (header : Header) (chunk : Option Buffer) :
    Task S Buffer :=
  if header.len > buf.ptr then
    match fuel with
    | 0 => throw .outOfFuel
    | fuel + 1 => do
        let buf ← finishChunk inner fuel buf header chunk
        let chunk ← unwrap (nextChunk buf header)
        setState (.sendingMessage buf header (some chunk))
        sendMessage fuel buf header (some chunk)
  else pure buf

/-- The loop `while buf.inner.len() > buf.ptr`. The slice written is the whole buffer,
wherever the cursor stands. -/
def sendRawBuffer (fuel : Nat) (buf : Buffer) : Task S Unit :=
  if buf.inner.length > buf.ptr then
    match fuel with
    | 0 => throw .outOfFuel
    | fuel + 1 => do
        let wrote ← innerWrite inner buf.inner
        let buf := { buf with ptr := buf.ptr + wrote }
        setState (.sendingRawBuffer buf)
        sendRawBuffer fuel buf
  else pure ()

/-- `poll_flush` up to the end of its block for `State::SendingMessage`. -/
def flushMessage (fuel : Nat) : Task S Unit := do
  match (← get).state with
  | .sendingMessage buf header chunk => do
      let buf ← sendMessage inner fuel buf header chunk
      setState (.sendingRawBuffer buf)
  | _ => pure ()

/-- The block of `poll_flush` for `State::SendingRawBuffer`. -/
def flushRawBuffer (fuel : Nat) : Task S Unit := do
  match (← get).state with
  | .sendingRawBuffer buf => do
      sendRawBuffer inner fuel buf
      setState .sendingData
  | _ => pure ()

def pollFlush (fuel : Nat) : Task S Unit := do
  flushMessage inner fuel
  flushRawBuffer inner fuel
  innerFlush inner

/-- `if self.state.is_sending_buffer()`, as `poll_write` and `poll_read` ask it. -/
def whenSendingBuffer (task : Task S Unit) : Task S Unit := do
  let layer ← get
  if layer.state.isSendingBuffer then task else pure ()

/-- The block of `poll_write` for `State::WaitingHeader`: the state after the bytes
are taken in, `none` for a panic. -/
def receiveHeader (buf : Buffer) (bufWrite : List Byte) : Option State :=
  let buf := { buf with inner := buf.inner ++ bufWrite }
  if buf.inner ≠ [] ∧ buf.inner[0]? ≠ some 0x16 then
    some (State.waitingHeader buf).tryIntoRawSend.2
  else if buf.inner.length ≥ 6 then
    if buf.inner[5]? ≠ some 0x01 then
      some (State.waitingHeader buf).tryIntoRawSend.2
    else do
      let buf := { buf with ptr := 5 }
      let header ← Header.new buf.inner
      some (.waitingMessage buf header)
  else some (.waitingHeader buf)

/-- The block of `poll_write` for `State::WaitingMessage`. -/
def receiveMessage (buf : Buffer) (header : Header) (bufWrite : List Byte) : State :=
  let buf := { buf with inner := buf.inner ++ bufWrite }
  if buf.inner.length ≥ header.len then .sendingMessage buf header none
  else .waitingMessage buf header

/-- Bytes taken in as a header are not taken in again as a message. -/
def receive (state : State) (bufWrite : List Byte) : Option State := do
  let (state, bufWrite) ← match state with
    | .waitingHeader buf => do some (← receiveHeader buf bufWrite, [])
    | state => some (state, bufWrite)
  match state with
  | .waitingMessage buf header => some (receiveMessage buf header bufWrite)
  | state => some state

def pollWrite (fuel : Nat) (bufWrite : List Byte) : Task S Nat := do
  whenSendingBuffer (pollFlush inner fuel)
  let layer ← get
  if layer.state.isHandshakeEnded then innerWrite inner bufWrite
  else do
    let state ← unwrap (receive layer.state bufWrite)
    setState state
    pure bufWrite.length

/-- `poll_read` up to its flush: the timer is armed while the layer waits, and once
it is over the bytes held back are released. `expired` answers the poll of the timer. -/
def FragmentLayer.pollTimer (expired : Bool) (layer : FragmentLayer S) : FragmentLayer S :=
  if layer.state.isWaiting then
    let timer := if layer.timer.isNone then some ⟨1⟩ else layer.timer
    if expired then { layer with timer := none, state := layer.state.tryIntoRawSend.2 }
    else { layer with timer := timer }
  else { layer with timer := none }

@[simp] theorem FragmentLayer.pollTimer_calls (expired : Bool) (layer : FragmentLayer S) :
    (layer.pollTimer expired).calls = layer.calls := by
  unfold FragmentLayer.pollTimer
  split_ifs <;> rfl

/-- A timer that is over releases the bytes held back, and changes no other state. -/
theorem FragmentLayer.pollTimer_state (expired : Bool) (layer : FragmentLayer S) :
    (layer.pollTimer expired).state =
      if expired then layer.state.tryIntoRawSend.2 else layer.state := by
  unfold FragmentLayer.pollTimer
  cases layer.state <;> cases expired <;> rfl

def pollRead (fuel : Nat) (expired : Bool) (room : Nat) : Task S (List Byte) := do
  modify (FragmentLayer.pollTimer expired)
  whenSendingBuffer (dropPending (pollFlush inner fuel))
  innerRead inner room

def pollShutdown : Task S Unit := innerShutdown inner

end LocalProxy.Fragment
