import IviLink.Common.Types
import IviLink.Lib.Bytes

/-!
# Frames

What travels between two connectivity agents: a packed ten-byte header and up to
`MAX_SIZE` bytes of data. The header holds host integers while a frame is being
worked on and network-order integers while it is on a carrier.

Of the data array the model keeps the bytes in use, so a frame in memory and a
frame here agree when the list is as long as `getSize` says (`WellFormed`).
-/

namespace IviLink.Hal

open IviLink.Lib

/-- `Frame::FrameHeader` -/
structure FrameHeader where
  /-- The ACK flag in the top bit, the size of the data in the others. -/
  sizeAndFlags : UInt16
  channel_id : UInt32
  number : UInt32
  deriving DecidableEq, Repr

/-- `sizeof(Frame::FrameHeader)` -/
def HEADER_SIZE : Nat := 10

/-- `sizeof(Frame)` -/
def FRAME_SIZE : Nat := HEADER_SIZE + MAX_SIZE

namespace FrameHeader

def getSize (h : FrameHeader) : Nat := (h.sizeAndFlags &&& 0x7fff).toNat

def isACK (h : FrameHeader) : Bool := h.sizeAndFlags &&& 0x8000 ≠ 0

def setSize (h : FrameHeader) (size : Nat) : FrameHeader :=
  { h with sizeAndFlags := UInt16.ofNat size &&& 0x7fff }

def setACK (h : FrameHeader) : FrameHeader := { h with sizeAndFlags := h.sizeAndFlags ||| 0x8000 }

/-- The header as it lies in the host's memory. -/
def bytes (h : FrameHeader) : List UInt8 :=
  le16 h.sizeAndFlags ++ le32 h.channel_id ++ le32 h.number

/-- What a pointer to a header reads from memory. -/
def ofBytes (l : List UInt8) : FrameHeader :=
  ⟨ofLE16 (l.take 2), ofLE32 ((l.drop 2).take 4), ofLE32 ((l.drop 6).take 4)⟩

/-- Every field with `ntoh16` or `ntoh32`, on a little-endian host. `hton16` and `hton32` are
the same functions. -/
def ntoh (h : FrameHeader) : FrameHeader :=
  ⟨swap16 h.sizeAndFlags, swap32 h.channel_id, swap32 h.number⟩

/-- Every field with `hton16` or `hton32`. -/
def hton (h : FrameHeader) : FrameHeader := h.ntoh

@[simp] theorem length_bytes (h : FrameHeader) : h.bytes.length = HEADER_SIZE := by
  simp [bytes, HEADER_SIZE]

@[simp] theorem ntoh_hton (h : FrameHeader) : h.hton.ntoh = h := by simp [hton, ntoh]

@[simp] theorem ofBytes_bytes_append (h : FrameHeader) (l : List UInt8) :
    ofBytes (h.bytes ++ l) = h := by
  have h2 : (h.bytes ++ l).take 2 = le16 h.sizeAndFlags := by
    rw [bytes, List.append_assoc, List.append_assoc, List.take_left' (length_le16 _)]
  have d2 : (h.bytes ++ l).drop 2 = le32 h.channel_id ++ (le32 h.number ++ l) := by
    rw [bytes, List.append_assoc, List.append_assoc, List.drop_left' (length_le16 _)]
  have d6 : (h.bytes ++ l).drop 6 = le32 h.number ++ l := by
    rw [bytes, List.append_assoc, List.drop_left' (by simp)]
  rw [ofBytes, h2, d2, d6, List.take_left' (length_le32 _), List.take_left' (length_le32 _)]
  simp

/-- A header reads back the same from its first ten bytes. -/
theorem ofBytes_take (l : List UInt8) : ofBytes (l.take HEADER_SIZE) = ofBytes l := by
  simp [ofBytes, HEADER_SIZE, List.take_take, List.drop_take]

end FrameHeader

structure Frame where
  mFrameHeader : FrameHeader
  data : List UInt8
  deriving DecidableEq, Repr

namespace Frame

def getSize (f : Frame) : Nat := f.mFrameHeader.getSize
def isACK (f : Frame) : Bool := f.mFrameHeader.isACK
def channel_id (f : Frame) : UInt32 := f.mFrameHeader.channel_id
def number (f : Frame) : UInt32 := f.mFrameHeader.number

/-- The data is as long as the header says, and no longer than the array it lies in. -/
structure WellFormed (f : Frame) : Prop where
  length_data : f.data.length = f.getSize
  size_le : f.getSize ≤ MAX_SIZE

instance (f : Frame) : Decidable f.WellFormed :=
  decidable_of_iff (f.data.length = f.getSize ∧ f.getSize ≤ MAX_SIZE)
    ⟨fun h => ⟨h.1, h.2⟩, fun h => ⟨h.1, h.2⟩⟩

end Frame

end IviLink.Hal
