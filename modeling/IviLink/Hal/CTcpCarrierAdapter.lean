import IviLink.Hal.CCarrierAdapter
import IviLink.Lib.Pieces
import Mathlib.Logic.Function.Basic

/-!
# `CTcpCarrierAdapter`

The carrier adapter over a TCP socket. `receiveRawArray` is one `recv`; a `recv` that
returns nothing is taken for the end of the stream, whatever was asked for.

`sendPreparedArray` calls `send` until all of the array is out. It holds
`mSocketMutex` for reading, as every other thread may that sends: the thread that
dispatches the data and the one that answers with ACKs call it at the same time.
-/

namespace IviLink.Hal

open IviLink.Lib

namespace CTcpCarrierAdapter

/-- `CTcpCarrierAdapter::receiveRawArray` with an array of `size` bytes, when the kernel has
these bytes; it has none at the end of the stream and after an error. -/
def receiveRawArray (size : Nat) (kernel : List UInt8) :
    Except ConnectivityAgentError (List UInt8) :=
  if (kernel.take size).length > 0 then .ok (kernel.take size) else .error .brokenPipe

/-- With no room for a byte the stream counts as broken. -/
@[simp] theorem receiveRawArray_zero (kernel : List UInt8) :
    receiveRawArray 0 kernel = .error .brokenPipe := by
  unfold receiveRawArray
  exact if_neg (by simp)

theorem receiveRawArray_some {size : Nat} {kernel : List UInt8} (hne : kernel ≠ [])
    (hle : kernel.length ≤ size) : receiveRawArray size kernel = .ok kernel := by
  unfold receiveRawArray
  rw [List.take_of_length_le hle, if_pos (List.length_pos_of_ne_nil hne)]

end CTcpCarrierAdapter

open CTcpCarrierAdapter (receiveRawArray)

namespace CCarrierAdapter

/-- Calls of `haveData`, one for each time the kernel has bytes. -/
def receiveAll : CCarrierAdapter → List (List UInt8) → Option (CCarrierAdapter × List Frame)
  | a, [] => some (a, [])
  | a, c :: cs =>
    match a.haveData (receiveRawArray a.free c) with
    | none => none
    | some (a, fs) =>
      match receiveAll a cs with
      | none => none
      | some (a, fs') => some (a, fs ++ fs')

/-- These pieces are results successive calls of `recv` can have: each holds a byte, and none is
longer than what that call asked for. A call that asks for nothing returns nothing. -/
def Received : CCarrierAdapter → List (List UInt8) → Prop
  | _, [] => True
  | a, c :: cs => c ≠ [] ∧ (a.free ≠ 0 → c.length ≤ a.free)
      ∧ ∀ a' fs, a.haveData (receiveRawArray a.free c) = some (a', fs) → Received a' cs

end CCarrierAdapter

/-! ## Sending -/

/-- What `send` returns: how many bytes it has taken, or -1, with `EINTR` in `errno` or with
another error. -/
inductive SendResult
  | taken (n : Nat)
  | interrupted
  | failed
  deriving DecidableEq, Repr

/-- How many bytes go out. -/
def SendResult.bytes : SendResult → Nat
  | taken n => n
  | _ => 0

/-- A thread in the loop of `sendPreparedArray`. -/
structure Sending where
  pArray : List UInt8
  sent : Nat
  sent_le : sent ≤ pArray.length
  deriving DecidableEq

/-- One turn of the loop: the bytes that go out, and the next turn or what the method returns.
There is no `send` that takes more than it was given. -/
def Sending.turn (s : Sending) :
    SendResult → Option (List UInt8 × (Sending ⊕ ConnectivityAgentError))
  | .taken n =>
    if h : s.sent + n ≤ s.pArray.length then
      -- the array is sent again from where it was left
      some ((s.pArray.drop s.sent).take n,
        if s.sent + n < s.pArray.length then .inl ⟨s.pArray, s.sent + n, h⟩ else .inr .noError)
    else none
  | .interrupted => some ([], .inl s)
  | .failed => some ([], .inr .brokenPipe)

/-- A call of `sendFrame`: how many there were before, and the frame. -/
structure SendCall where
  number : Nat
  frame : Frame
  deriving DecidableEq, Repr

/-- The threads that send over one adapter. A reader does not keep another one from locking
`mSocketMutex`, so every thread can take its next turn at any time. What one `send` takes goes
out at once. -/
structure Senders (I : Type*) where
  calls : Nat
  loops : I → Option (SendCall × Sending)
  /-- The bytes that are out, each with the call that it is from. -/
  socket : List (SendCall × UInt8)
  returned : List (SendCall × ConnectivityAgentError)

namespace Senders

variable {I : Type*}

def start : Senders I := ⟨0, fun _ => none, [], []⟩

/-- The calls that have returned `NO_ERROR`, in that order. -/
def sent (w : Senders I) : List SendCall :=
  (w.returned.filter fun r => r.2.isNoError).map Prod.fst

inductive Event (I : Type*)
  | sendFrame (thread : I) (frame : Frame)
  | send (thread : I) (result : SendResult)
  deriving DecidableEq

variable [DecidableEq I]

def step (w : Senders I) : Event I → Option (Senders I)
  | .sendFrame i frame =>
    match w.loops i with
    -- the thread is in an earlier call
    | some _ => none
    | none =>
      some { w with
        calls := w.calls + 1
        loops := Function.update w.loops i
          (some (⟨w.calls, frame⟩, ⟨sendFrame frame, 0, Nat.zero_le _⟩)) }
  | .send i result =>
    match w.loops i with
    | none => none
    | some (c, s) =>
      match s.turn result with
      | none => none
      | some (out, .inl s) =>
        some { w with
          loops := Function.update w.loops i (some (c, s))
          socket := w.socket ++ marked c out }
      | some (out, .inr e) =>
        some { w with
          loops := Function.update w.loops i none
          socket := w.socket ++ marked c out
          returned := w.returned ++ [(c, e)] }

end Senders

end IviLink.Hal
