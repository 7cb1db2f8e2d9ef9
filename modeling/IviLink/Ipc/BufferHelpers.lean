import IviLink.Lib.Bytes

/-!
# `CBufferWriter` and `CBufferReader`

What the services put into the messages of the IPC: values one after the other in an array of a
given size, in the byte order of the host. A range has its number of elements in front, which is
not known before they are written, so that its place is kept free. A write that fails leaves what
it has written.

The values are integers, uids, strings, and pairs of these; ranges of them are what containers and
maps are written from. A container inside of another value has no `write` of its own.
-/

namespace IviLink.Ipc.Helpers

open IviLink.Lib

/-! ## Values -/

/-- How many bytes an integer has. -/
inductive Width
  | one
  | two
  | four
  | eight
  deriving DecidableEq, Repr

/-- `sizeof(T)` -/
def Width.sizeof : Width → Nat
  | one => 1
  | two => 2
  | four => 4
  | eight => 8

inductive Ty
  | int (t : Width)
  | uid
  | string
  | pair (first second : Ty)
  deriving DecidableEq, Repr

@[reducible] def Ty.Val : Ty → Type
  | .int t => BitVec (8 * t.sizeof)
  | .uid => List UInt8
  | .string => List UInt8
  | .pair first second => first.Val × second.Val

/-- What is written by one call. -/
inductive Shape
  | value (t : Ty)
  | container (value_type : Ty)
  | map (key_type mapped_type : Ty)
  deriving DecidableEq, Repr

/-- The elements of a container or a map are in its own order. -/
@[reducible] def Shape.Val : Shape → Type
  | .value t => t.Val
  | .container t => List t.Val
  | .map key mapped => List (key.Val × mapped.Val)

abbrev Value := Σ s : Shape, s.Val

/-! ## Writing -/

structure CBufferWriter where
  mpBuffer : List UInt8
  mFullSize : UInt32
  mUsedSize : UInt32
  deriving DecidableEq, Repr

namespace CBufferWriter

/-- `CBufferWriter(pBuffer, bufSize)` -/
def new (pBuffer : List UInt8) (bufSize : UInt32) : CBufferWriter := ⟨pBuffer, bufSize, 0⟩

/-- What is left of the array. -/
def room (w : CBufferWriter) : UInt32 := w.mFullSize - w.mUsedSize

/-- `size` bytes are copied to `mpBuffer + mUsedSize`. -/
def put (w : CBufferWriter) (bytes : List UInt8) (size : UInt32) : CBufferWriter :=
  { w with
    mpBuffer := writeAt w.mpBuffer w.mUsedSize.toNat (bytes.take size.toNat)
    mUsedSize := w.mUsedSize + size }

/-- Whether the call reports success, and what it leaves. -/
abbrev Result := Bool × CBufferWriter

/-- An error is returned at once. -/
def andThen (r : Result) (f : CBufferWriter → Result) : Result := if r.1 then f r.2 else r

def writeInt (t : Width) (val : BitVec (8 * t.sizeof)) (w : CBufferWriter) : Result :=
  if w.room.toNat < t.sizeof then (false, w)
  else (true, w.put (leBytes t.sizeof val.toNat) (UInt32.ofNat t.sizeof))

def writeUInt32 (val : UInt32) (w : CBufferWriter) : Result := writeInt .four val.toBitVec w

/-- The size and that many bytes: what is common to uids and strings. -/
def writeSized (bytes : List UInt8) (size : UInt32) (w : CBufferWriter) : Result :=
  andThen (writeUInt32 size w) fun w =>
    if w.room < size then (false, w) else (true, w.put bytes size)

/-- `getByteArray` gives the characters with the byte that ends them. -/
def writeUid (val : List UInt8) (w : CBufferWriter) : Result :=
  writeSized (val ++ [0]) (UInt32.ofNat (val.length + 1)) w

def writeString (val : List UInt8) (w : CBufferWriter) : Result :=
  writeSized val (UInt32.ofNat val.length) w

def writeValue : (t : Ty) → t.Val → CBufferWriter → Result
  | .int t, val, w => writeInt t val w
  | .uid, val, w => writeUid val w
  | .string, val, w => writeString val w
  | .pair first second, val, w => andThen (writeValue first val.1 w) (writeValue second val.2)

/-- The loop over the range, and what `size` has then. -/
def writeElems {α : Type} (write : α → CBufferWriter → Result) :
    List α → UInt32 → CBufferWriter → UInt32 × Result
  | [], size, w => (size, true, w)
  | val :: rest, size, w =>
    match write val w with
    | (false, w') => (size, false, w')
    | (true, w') => writeElems write rest (size + 1) w'

/-- `write(first, last)` -/
def writeRange {α : Type} (write : α → CBufferWriter → Result) (range : List α)
    (w : CBufferWriter) : Result :=
  andThen (writeUInt32 0 w) fun w₁ =>
    let r := writeElems write range 0 w₁
    andThen r.2 fun w₂ =>
      (true, { w₂ with mpBuffer := writeAt w₂.mpBuffer w.mUsedSize.toNat (le32 r.1) })

def write : Value → CBufferWriter → Result
  | ⟨.value t, val⟩, w => writeValue t val w
  | ⟨.container t, range⟩, w => writeRange (writeValue t) range w
  | ⟨.map key mapped, range⟩, w => writeRange (writeValue (.pair key mapped)) range w

/-- One write after the other, whatever they report: the values for which success was reported,
and what is left. -/
def writeEach : List Value → CBufferWriter → List Value × CBufferWriter
  | [], w => ([], w)
  | v :: rest, w =>
    let r := write v w
    let next := writeEach rest r.2
    (if r.1 then v :: next.1 else next.1, next.2)

end CBufferWriter

/-! ## Reading -/

structure CBufferReader where
  mpBuffer : List UInt8
  mFullSize : UInt32
  mUsedSize : UInt32
  deriving DecidableEq, Repr

inductive Outcome (α : Type)
  | ok (a : α)
  | error
  /-- A byte outside of the array was looked at, for this size. -/
  | beyond (size : UInt32)

/-- A call: what it comes to, and what it leaves. -/
def Read (α : Type) : Type := CBufferReader → Outcome α × CBufferReader

instance : Monad Read where
  pure a := fun r => (.ok a, r)
  bind x f := fun r =>
    match x r with
    | (.ok a, r') => f a r'
    | (.error, r') => (.error, r')
    | (.beyond size, r') => (.beyond size, r')

namespace CBufferReader

/-- `CBufferReader(pBuffer, bufSize)` -/
def new (pBuffer : List UInt8) (bufSize : UInt32) : CBufferReader := ⟨pBuffer, bufSize, 0⟩

def room (r : CBufferReader) : UInt32 := r.mFullSize - r.mUsedSize

/-- The array from `mpBuffer + mUsedSize` on. -/
def ahead (r : CBufferReader) : List UInt8 := r.mpBuffer.drop r.mUsedSize.toNat

def skip (r : CBufferReader) (size : UInt32) : CBufferReader :=
  { r with mUsedSize := r.mUsedSize + size }

def readInt (t : Width) : Read (BitVec (8 * t.sizeof)) := fun r =>
  if r.room.toNat < t.sizeof then (.error, r)
  else (.ok (BitVec.ofNat _ (ofLE (r.ahead.take t.sizeof))), r.skip (UInt32.ofNat t.sizeof))

def readUInt32 : Read UInt32 := do
  let val ← readInt .four
  return UInt32.ofBitVec val

/-- `BaseUid::fromByteArray`: the last character is looked at, and the characters up to the first
byte that is 0 are taken. -/
def fromByteArray (pArr : List UInt8) (size : UInt32) : Outcome (List UInt8) :=
  match pArr[(size - 1).toNat]? with
  | none => .beyond size
  | some last => if last ≠ 0 then .error else .ok (pArr.takeWhile (· ≠ 0))

/-- The size, and what is done with the bytes behind it: what is common to uids and strings. -/
def readSized {α : Type} (take : List UInt8 → UInt32 → Outcome α) : Read α := do
  let size ← readUInt32
  fun r => if r.room < size then (.error, r) else (take r.ahead size, r.skip size)

def readUid : Read (List UInt8) := readSized fromByteArray

def readString : Read (List UInt8) :=
  readSized fun pArr size => if size.toNat ≤ pArr.length then .ok (pArr.take size.toNat)
    else .beyond size

def readValue : (t : Ty) → Read t.Val
  | .int t => readInt t
  | .uid => readUid
  | .string => readString
  | .pair first second => do
    let a ← readValue first
    let b ← readValue second
    return (a, b)

/-- The loop that reads the elements. -/
def readElems {α : Type} (read : Read α) : Nat → Read (List α)
  | 0 => return []
  | n + 1 => do
    let val ← read
    let rest ← readElems read n
    return val :: rest

/-- What has been inserted when a read fails is left out. -/
def readContainer {α : Type} (read : Read α) : Read (List α) := do
  let size ← readUInt32
  readElems read size.toNat

def readMap {α β : Type} (readKey : Read α) (readVal : Read β) : Read (List (α × β)) := do
  let size ← readUInt32
  readElems (do
    let key ← readKey
    let val ← readVal
    return (key, val)) size.toNat

def read : (s : Shape) → Read s.Val
  | .value t => readValue t
  | .container t => readContainer (readValue t)
  | .map key mapped => readMap (readValue key) (readValue mapped)

/-- One read after the other, as long as they succeed. -/
def readAll : List Shape → Read (List Value)
  | [] => return []
  | s :: rest => do
    let val ← read s
    let vals ← readAll rest
    return ⟨s, val⟩ :: vals

/-- What is left after these reads, whatever they come to. -/
def readEach : List Shape → CBufferReader → CBufferReader
  | [], r => r
  | s :: rest, r => readEach rest (read s r).2

end CBufferReader

end IviLink.Ipc.Helpers
