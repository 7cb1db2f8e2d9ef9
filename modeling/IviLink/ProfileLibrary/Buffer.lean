import IviLink.Lib.Bytes

/-!
# The profile library's `Buffer`

Profiles pack what they send into a `Buffer`: an array given by the caller, its
size, a read and a write position. A value is written without anything about its
type, so the reader asks for the same types in the same order. A range is
written with its element count in front, and because the count is known only at
the end, four bytes are reserved for it first and filled in afterwards by moving
the write position back and forth.

Positions and sizes are `UInt32`, subtraction included. A call that returns
`false` leaves the buffer as far as it got.
-/

namespace IviLink.ProfileLibrary

open IviLink.Lib

/-! ## Integers and their byte order -/

/-- The integer types with a `write` and a `read` of their own. -/
inductive IntType where
  | Int8 | UInt8 | Int16 | UInt16 | Int32 | UInt32 | Int64 | UInt64
deriving DecidableEq

/-- `sizeof(T)`. -/
def IntType.sizeof : IntType → Nat
  | .Int8 | .UInt8 => 1
  | .Int16 | .UInt16 => 2
  | .Int32 | .UInt32 => 4
  | .Int64 | .UInt64 => 8

/-- The bits of an integer; a signed one is in two's complement. -/
abbrev IntType.Val (t : IntType) : Type := BitVec (8 * t.sizeof)

/-- The bytes of a word in the opposite order. -/
def bswap {n : Nat} (x : BitVec (8 * n)) : BitVec (8 * n) :=
  BitVec.ofNat (8 * n) (ofLE (leBytes n x.toNat).reverse)

/-- `htobe16`, `htobe32` and `htobe64` on a little-endian host. -/
def ByteOrder.hton {n : Nat} (x : BitVec (8 * n)) : BitVec (8 * n) := bswap x

/-- `betoh16`, `be32toh` and `betoh64` on a little-endian host. -/
def ByteOrder.ntoh {n : Nat} (x : BitVec (8 * n)) : BitVec (8 * n) := bswap x

/-- The signed conversions call `ntoh` in both directions. -/
def CEndianConverter.hton : (t : IntType) → t.Val → t.Val
  | .UInt8, val => val
  | .Int8, val => val
  | .UInt16, val => ByteOrder.hton val
  | .Int16, val => ByteOrder.ntoh val
  | .UInt32, val => ByteOrder.hton val
  | .Int32, val => ByteOrder.ntoh val
  | .UInt64, val => ByteOrder.hton val
  | .Int64, val => ByteOrder.ntoh val

def CEndianConverter.ntoh : (t : IntType) → t.Val → t.Val
  | .UInt8, val => val
  | .Int8, val => val
  | .UInt16, val => ByteOrder.ntoh val
  | .Int16, val => ByteOrder.ntoh val
  | .UInt32, val => ByteOrder.ntoh val
  | .Int32, val => ByteOrder.ntoh val
  | .UInt64, val => ByteOrder.ntoh val
  | .Int64, val => ByteOrder.ntoh val

/-! ## The buffer and its calls -/

structure Buffer where
  mSize : UInt32
  mReadPos : UInt32
  mWritePos : UInt32
  mpBuffer : List UInt8
  mEndianConvert : Bool
deriving DecidableEq

/-- `Buffer(pBuffer, size, endianConvert)`. -/
def Buffer.new (pBuffer : List UInt8) (size : UInt32) (endianConvert : Bool) : Buffer :=
  { mSize := size, mReadPos := 0, mWritePos := 0, mpBuffer := pBuffer,
    mEndianConvert := endianConvert }

/-- A call on a buffer: what it gives, or nothing when it returns `false`, and
the buffer it leaves. -/
def Call (α : Type) : Type := Buffer → Option α × Buffer

instance : Monad Call where
  pure a := fun b => (some a, b)
  bind x f := fun b =>
    match x b with
    | (some a, b') => f a b'
    | (none, b') => (none, b')

namespace Buffer

def getWritePosition : Call UInt32 := fun b => (some b.mWritePos, b)

/-- The position is left unchanged when it is not below the size. -/
def setWritePosition (pos : UInt32) : Call Bool := fun b =>
  if b.mSize ≤ pos then (some false, b) else (some true, { b with mWritePos := pos })

/-- `write_internal<T>`. -/
def writeInternal (t : IntType) (val : t.Val) : Call Unit := fun b =>
  if (b.mSize - b.mWritePos).toNat < t.sizeof then (none, b)
  else
    let stored := if b.mEndianConvert then CEndianConverter.hton t val else val
    (some (), { b with
      mpBuffer := writeAt b.mpBuffer b.mWritePos.toNat (leBytes t.sizeof stored.toNat)
      mWritePos := b.mWritePos + UInt32.ofNat t.sizeof })

/-- `read_internal<T>`. -/
def readInternal (t : IntType) : Call t.Val := fun b =>
  if (b.mSize - b.mReadPos).toNat < t.sizeof then (none, b)
  else
    let stored : t.Val :=
      BitVec.ofNat _ (ofLE ((b.mpBuffer.drop b.mReadPos.toNat).take t.sizeof))
    (some (if b.mEndianConvert then CEndianConverter.ntoh t stored else stored),
      { b with mReadPos := b.mReadPos + UInt32.ofNat t.sizeof })

/-- `write(UInt32)`. -/
def writeUInt32 (value : UInt32) : Call Unit := writeInternal .UInt32 value.toBitVec

/-- `read(UInt32 &)`. -/
def readUInt32 : Call UInt32 := do
  let value ← readInternal .UInt32
  pure (UInt32.ofBitVec value)

/-- `write(void const*, UInt32)`. -/
def writeRaw (bytes : List UInt8) (size : UInt32) : Call Unit := fun b =>
  if b.mSize - b.mWritePos < size then (none, b)
  else
    (some (), { b with
      mpBuffer := writeAt b.mpBuffer b.mWritePos.toNat (bytes.take size.toNat)
      mWritePos := b.mWritePos + size })

/-- `read(UInt32, void *)`. -/
def readRaw (size : UInt32) : Call (List UInt8) := fun b =>
  if b.mSize - b.mReadPos < size then (none, b)
  else
    (some ((b.mpBuffer.drop b.mReadPos.toNat).take size.toNat),
      { b with mReadPos := b.mReadPos + size })

/-- The check that there is room for `size` bytes more. -/
def roomToWrite (size : UInt32) : Call Unit := fun b =>
  if b.mSize - b.mWritePos < size then (none, b) else (some (), b)

/-- `write(std::string const &)`: the length is converted to `UInt32` first. The
room is checked before the raw write checks it again. -/
def writeString (value : List UInt8) : Call Unit := do
  let valSize := UInt32.ofNat value.length
  writeUInt32 valSize
  roomToWrite valSize
  writeRaw value valSize

/-- `read(std::string &)`: its own check and copy are those of the raw read. -/
def readString : Call (List UInt8) := do
  let valSize ← readUInt32
  readRaw valSize

/-! ## Ranges -/

/-- The loop over `[first, last)`, counting in `size`. -/
def writeElems {α : Type} (write : α → Call Unit) : List α → UInt32 → Call UInt32
  | [], size => pure size
  | val :: rest, size => do
    write val
    writeElems write rest (size + 1)

/-- `write(first, last)`. Neither `setWritePosition` has its result looked at. -/
def writeRange {α : Type} (write : α → Call Unit) (range : List α) : Call Unit := do
  let savedPos1 ← getWritePosition
  writeUInt32 0
  let size ← writeElems write range 0
  let savedPos2 ← getWritePosition
  let _ ← setWritePosition savedPos1
  writeUInt32 size
  let _ ← setWritePosition savedPos2
  pure ()

/-- The loop of a container read: what was inserted, and whether every read succeeded. -/
def readElems {α : Type} (read : Call α) : Nat → Buffer → (List α × Bool) × Buffer
  | 0, b => (([], true), b)
  | n + 1, b =>
    match read b with
    | (none, b') => (([], false), b')
    | (some val, b') =>
      let r := readElems read n b'
      ((val :: r.1.1, r.1.2), r.2)

/-- `_readContainer`, and `_readMap` where the elements are pairs. -/
def readContainer {α : Type} (read : Call α) : Buffer → (List α × Bool) × Buffer := fun b =>
  match readUInt32 b with
  | (none, b') => (([], false), b')
  | (some size, b') => readElems read size.toNat b'

/-! ## Values of every type -/

end Buffer

/-- The types a buffer is asked for. A list, vector or set is a `container`, a map
a `container` of pairs; the elements are in the container's own order. -/
inductive Ty where
  | int (t : IntType)
  | string
  | pair (first second : Ty)
  | container (value_type : Ty)
deriving DecidableEq

/-- The values of a type. -/
@[reducible] def Ty.Val : Ty → Type
  | .int t => t.Val
  | .string => List UInt8
  | .pair first second => first.Val × second.Val
  | .container value_type => List value_type.Val

namespace Buffer

/-- The overload of `write` a type picks. An element that is itself a container is
written as its range. -/
def write : (t : Ty) → t.Val → Call Unit
  | .int t, value => writeInternal t value
  | .string, value => writeString value
  | .pair first second, value => do
    write first value.1
    write second value.2
  | .container value_type, value => writeRange (write value_type) value

/-- The overload of `read` a type picks. -/
def read : (t : Ty) → Call t.Val
  | .int t => readInternal t
  | .string => readString
  | .pair first second => do
    let a ← read first
    let b ← read second
    pure (a, b)
  | .container value_type => fun b =>
    let r := readContainer (read value_type) b
    (if r.1.2 then some r.1.1 else none, r.2)

/-- Values written one after the other, as long as the writes succeed. -/
def writeAll : List (Σ t : Ty, t.Val) → Call Unit
  | [] => pure ()
  | ⟨t, value⟩ :: rest => do
    write t value
    writeAll rest

/-- Types read one after the other, as long as the reads succeed. -/
def readAll : List Ty → Call (List (Σ t : Ty, t.Val))
  | [] => pure []
  | t :: rest => do
    let value ← read t
    let values ← readAll rest
    pure (⟨t, value⟩ :: values)

/-- The buffer after reads of the given types, whether they succeed or not. -/
def readEach : List Ty → Buffer → Buffer
  | [], b => b
  | t :: rest, b => readEach rest (read t b).2

end Buffer

end IviLink.ProfileLibrary
