import IviLink.Hal.Frame

/-!
# `CCarrierAdapter`

Frames to bytes and back. `sendFrame` turns a frame into an array in network
order. On the other side the adapter owns one `Frame`'s worth of memory, fills it
with whatever the carrier has, and cuts complete frames off its front: the header
is converted in place, to host order, once all of it is there, and what follows a
complete frame is moved to the front of the memory.

The memory has its size and the filled part its bound as fields, so the only way
out of the buffer is a carrier that returns more than it was asked for.
-/

namespace IviLink.Hal

open IviLink.Lib

/-- `CFrameConverter::frameToArray`, into an array of its own. -/
def frameToArray (f : Frame) : List UInt8 := f.mFrameHeader.hton.bytes ++ f.data.take f.getSize

/-- What `sendFrame` passes to `sendPreparedArray`. -/
def sendFrame (f : Frame) : List UInt8 := (frameToArray f).take (f.getSize + HEADER_SIZE)

/-- The receiving part of the adapter. -/
structure CCarrierAdapter where
  /-- `mFrame`, as the array `haveData` takes it for. -/
  mFrame : List UInt8
  mFilledSize : Nat
  length_mFrame : mFrame.length = FRAME_SIZE
  filled_le : mFilledSize ≤ FRAME_SIZE

namespace CCarrierAdapter

/-- An adapter nothing has been received on. -/
def init : CCarrierAdapter := ⟨List.replicate FRAME_SIZE 0, 0, List.length_replicate, by decide⟩

/-- How many bytes `haveData` asks the carrier for. -/
def free (a : CCarrierAdapter) : Nat := FRAME_SIZE - a.mFilledSize

/-- The bytes received and not handed on yet. -/
def filled (a : CCarrierAdapter) : List UInt8 := a.mFrame.take a.mFilledSize

def header (a : CCarrierAdapter) : FrameHeader := .ofBytes a.mFrame

/-- `full_size` -/
def fullSize (a : CCarrierAdapter) : Nat := a.header.getSize + HEADER_SIZE

/-- `CFrameConverter::arrayToFrame` from the memory to itself: only the header changes. -/
def arrayToFrame (a : CCarrierAdapter) : CCarrierAdapter where
  mFrame := writeAt a.mFrame 0 a.header.ntoh.bytes
  mFilledSize := a.mFilledSize
  length_mFrame := by
    rw [length_writeAt, a.length_mFrame]
    rw [a.length_mFrame, FrameHeader.length_bytes]
    decide
  filled_le := a.filled_le

/-- The frame at the front of the memory. -/
def frame (a : CCarrierAdapter) : Frame :=
  ⟨a.header, (a.mFrame.drop HEADER_SIZE).take a.header.getSize⟩

/-- `memmove(pArray, pArray + full_size, mFilledSize - full_size)` -/
def shift (a : CCarrierAdapter) : CCarrierAdapter where
  mFrame := writeAt a.mFrame 0 (a.filled.drop a.fullSize)
  mFilledSize := a.mFilledSize - a.fullSize
  length_mFrame := by
    rw [length_writeAt, a.length_mFrame]
    have := a.filled_le
    simp only [filled, List.length_drop, List.length_take]
    omega
  filled_le := (Nat.sub_le _ _).trans a.filled_le

@[simp] theorem shift_mFilledSize (a : CCarrierAdapter) :
    a.shift.mFilledSize = a.mFilledSize - a.fullSize := rfl

/-- The header is converted when it "become ready right now". -/
def convert (savedSize : Nat) (a : CCarrierAdapter) : CCarrierAdapter :=
  if savedSize < HEADER_SIZE then a.arrayToFrame else a

@[simp] theorem convert_mFilledSize (savedSize : Nat) (a : CCarrierAdapter) :
    (a.convert savedSize).mFilledSize = a.mFilledSize := by
  rw [convert]
  split <;> rfl

/-- The loop of `haveData`: the frames that are complete are handed on one by one, each from
the front of the memory. -/
def deliver (savedSize : Nat) (a : CCarrierAdapter) : CCarrierAdapter × List Frame :=
  if HEADER_SIZE ≤ a.mFilledSize then
    if (a.convert savedSize).fullSize ≤ a.mFilledSize then
      let (a', fs) := deliver 0 (a.convert savedSize).shift
      (a', (a.convert savedSize).frame :: fs)
    else (a.convert savedSize, [])
  else (a, [])
  termination_by a.mFilledSize
  decreasing_by
    have hsize : (a.convert savedSize).shift.mFilledSize
        = a.mFilledSize - (a.convert savedSize).fullSize := by
      rw [shift_mFilledSize, convert_mFilledSize]
    have : 0 < (a.convert savedSize).fullSize := Nat.succ_pos _
    omega

/-- The memory after `receiveRawArray` has put bytes behind the filled part. -/
def store (a : CCarrierAdapter) (l : List UInt8) (h : a.mFilledSize + l.length ≤ FRAME_SIZE) :
    CCarrierAdapter where
  mFrame := writeAt a.mFrame a.mFilledSize l
  mFilledSize := a.mFilledSize + l.length
  length_mFrame := by
    rw [length_writeAt, a.length_mFrame]
    rw [a.length_mFrame]
    exact h
  filled_le := h

/-- `CCarrierAdapter::haveData`, given what `receiveRawArray` returns: the frames handed to
`processFrame`, or `none` for a carrier that writes behind the end of the buffer. -/
def haveData (a : CCarrierAdapter) :
    Except ConnectivityAgentError (List UInt8) → Option (CCarrierAdapter × List Frame)
  | .error _ => some (a, [])
  | .ok l =>
    if h : a.mFilledSize + l.length ≤ FRAME_SIZE then
      some ((a.store l h).deliver a.mFilledSize)
    else none

/-- Calls of `haveData`, one for each piece the carrier has. -/
def haveDataAll : CCarrierAdapter → List (List UInt8) → Option (CCarrierAdapter × List Frame)
  | a, [] => some (a, [])
  | a, c :: cs =>
    match a.haveData (.ok c) with
    | none => none
    | some (a, fs) =>
      match haveDataAll a cs with
      | none => none
      | some (a, fs') => some (a, fs ++ fs')

/-- Each piece fits the space `haveData` offers when it arrives. -/
def Offered : CCarrierAdapter → List (List UInt8) → Prop
  | _, [] => True
  | a, c :: cs => c.length ≤ a.free ∧ ∀ a' fs, a.haveData (.ok c) = some (a', fs) → Offered a' cs

end CCarrierAdapter

/-! ## Answering a frame -/

/-- The frame `sendACK` sends for one that was received. -/
def ackFrame (frame : Frame) : Frame :=
  ⟨FrameHeader.setACK ⟨0, frame.channel_id, frame.number⟩, []⟩

@[simp] theorem ackFrame_isACK (frame : Frame) : (ackFrame frame).isACK = true := by
  simp [ackFrame, Frame.isACK, FrameHeader.isACK, FrameHeader.setACK]

@[simp] theorem ackFrame_channel_id (frame : Frame) :
    (ackFrame frame).channel_id = frame.channel_id := rfl

@[simp] theorem ackFrame_number (frame : Frame) : (ackFrame frame).number = frame.number := rfl

/-- What `processFrame` sends back, given what the frame receiver returned: an ACK for a data
frame that was accepted or that was accepted before. -/
def processFrame (result : ConnectivityAgentError) (frame : Frame) : Option Frame :=
  if result.isNoError || result = .resendAck then
    if frame.isACK then none else some (ackFrame frame)
  else none

end IviLink.Hal
