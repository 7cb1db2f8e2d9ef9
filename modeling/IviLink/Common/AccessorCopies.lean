import IviLink.Common.CDataAccessor
import IviLink.Lib.Checked

/-!
# `CDataAccessor` with its members

The accessor as its class has it: the size of the data is a member of its own, which every
method that changes the data sets with it. `copyToRawArray` stores the four words and the data
one after the other into the caller's array, and does not know how large that is: a store behind
its end is a `Failure.overflow` here.
-/

namespace IviLink.Common

open IviLink.Ipc (Failure)
open IviLink.Lib

/-- `memcpy` of `bytes` to the offset `off` of an array. -/
def memcpy (array : List UInt8) (off : Nat) (bytes : List UInt8) : Except Failure (List UInt8) :=
  if off + bytes.length ≤ array.length then .ok (writeAt array off bytes) else .error .overflow

abbrev Bytes (n : Nat) : Type := { bytes : List UInt8 // bytes.length = n }

/-- `memcpy` of `n` bytes from the offset `off` of an array. -/
def memcpyFrom (array : List UInt8) (off n : Nat) : Except Failure (Bytes n) :=
  if h : off + n ≤ array.length then
    .ok ⟨(array.drop off).take n, by rw [List.length_take, List.length_drop]; omega⟩
  else
    .error .overflow

/-- The members of a `CDataAccessor`; a null `mpData` is `[]`. -/
@[ext] structure Accessor where
  mOperation : UInt32
  mChannelID : UInt32
  mDataSize : UInt32
  mErrorCode : UInt32
  mpData : List UInt8
  sized : mpData.length = mDataSize.toNat

namespace Accessor

/-- `CDataAccessor::CDataAccessor` -/
def new : Accessor := ⟨0, 0, 0, 0, [], rfl⟩

def setChannelID (a : Accessor) (id : UInt32) : Accessor := { a with mChannelID := id }

def setOpCode (a : Accessor) (id : UInt32) : Accessor := { a with mOperation := id }

def setErrorCode (a : Accessor) (err : UInt32) : Accessor := { a with mErrorCode := err }

/-- `CDataAccessor::setData`, with `none` for a null pointer: where there is nothing to set the
data stays as it is. -/
def setData (a : Accessor) (size : UInt32) (pData : Option (Bytes size.toNat)) : Accessor :=
  match pData with
  | none => a
  | some bytes =>
    if size = 0 then a
    else { a with mDataSize := size, mpData := bytes.val, sized := bytes.property }

/-- `CDataAccessor::resetData` -/
def resetData (a : Accessor) : Accessor :=
  { a with mDataSize := 0, mpData := [], sized := rfl }

def getDataSize (a : Accessor) : UInt32 := a.mDataSize

/-- `CDataAccessor::getObjectSize` -/
def getObjectSize (a : Accessor) : UInt32 := a.mDataSize + 4 * 4

/-- `CDataAccessor::copyToRawArray`, with what is in the caller's array afterwards. -/
def copyToRawArray (a : Accessor) (pBuf : List UInt8) : Except Failure (List UInt8) := do
  let pBuf ← memcpy pBuf 0 (le32 a.mOperation)
  let pBuf ← memcpy pBuf 4 (le32 a.mChannelID)
  let pBuf ← memcpy pBuf 8 (le32 a.mDataSize)
  let pBuf ← memcpy pBuf 12 (le32 a.mErrorCode)
  if a.mDataSize > 0 then memcpy pBuf 16 a.mpData else pure pBuf

/-- `CDataAccessor::CDataAccessor(pData, size)`: the size of the data is the one that the
bytes say. -/
def ofRawArray (pData : Option (List UInt8)) (size : UInt32) : Except Failure Accessor :=
  if size < 12 then .error .assertion
  else
    match pData with
    | none => .ok new
    | some pData => do
      let operation ← memcpyFrom pData 0 4
      let channelID ← memcpyFrom pData 4 4
      let dataSize ← memcpyFrom pData 8 4
      let errorCode ← memcpyFrom pData 12 4
      let data ← memcpyFrom pData 16 (ofLE32 dataSize.val).toNat
      pure {
        mOperation := ofLE32 operation.val
        mChannelID := ofLE32 channelID.val
        mDataSize := ofLE32 dataSize.val
        mErrorCode := ofLE32 errorCode.val
        mpData := data.val
        sized := data.property }

/-- Every accessor is one that the methods build. -/
theorem eq_set (a : Accessor) : a = (((new.setOpCode a.mOperation).setChannelID a.mChannelID)
    |>.setErrorCode a.mErrorCode).setData a.mDataSize (some ⟨a.mpData, a.sized⟩) := by
  obtain ⟨operation, channelID, dataSize, errorCode, data, hsized⟩ := a
  by_cases h0 : dataSize = 0
  · subst h0
    obtain rfl : data = [] := List.eq_nil_of_length_eq_zero hsized
    rfl
  · simp only [setData, if_neg h0]
    rfl

/-- The bytes that the accessor takes, and their number. -/
def raw (a : Accessor) : List UInt8 :=
  le32 a.mOperation ++ le32 a.mChannelID ++ le32 a.mDataSize ++ le32 a.mErrorCode ++ a.mpData

def size (a : Accessor) : Nat := 16 + a.mpData.length

/-- The reported size is the number of bytes, as far as 32 bits hold it. -/
theorem getObjectSize_eq {a : Accessor} (h : a.size < 4294967296) :
    a.getObjectSize.toNat = a.size := by
  have hsized := a.sized
  rw [size] at h ⊢
  rw [getObjectSize, UInt32.toNat_add]
  have h16 : (4 * 4 : UInt32).toNat = 16 := rfl
  omega

section copyToRawArray

variable {a : Accessor} {pBuf bytes w : List UInt8}

/-- A store right behind what has been written. -/
theorem memcpy_behind {off : Nat} (hoff : w.length = off) (hw : off ≤ pBuf.length) :
    memcpy (w ++ pBuf.drop off) off bytes =
      if off + bytes.length ≤ pBuf.length then
        .ok ((w ++ bytes) ++ pBuf.drop (off + bytes.length))
      else .error .overflow := by
  have hlen : (w ++ pBuf.drop off).length = pBuf.length := by
    rw [List.length_append, List.length_drop]
    omega
  rw [memcpy, hlen]
  split
  · subst hoff
    rw [writeAt, List.take_left, List.drop_append, List.drop_drop]
    simp
  · rfl

theorem memcpy_word {off n : Nat} (hoff : w.length = off) (hw : off ≤ pBuf.length)
    (hn : off + 4 = n) (x : UInt32) (f : List UInt8 → Except Failure (List UInt8)) :
    (memcpy (w ++ pBuf.drop off) off (le32 x) >>= f) =
      if n ≤ pBuf.length then f ((w ++ le32 x) ++ pBuf.drop n) else .error .overflow := by
  subst hn
  rw [memcpy_behind hoff hw, length_le32]
  split <;> rfl

/-- An array that is too small for one of the words is too small. -/
theorem overflow_of_word {n : Nat} {l : List UInt8} (hn : n ≤ 16) (h : ¬ n ≤ pBuf.length) :
    .error .overflow = if a.size ≤ pBuf.length then Except.ok l else .error Failure.overflow := by
  rw [if_neg (by rw [size]; omega)]

/-- **The copy** fills the front of the array, and is a store behind its end exactly if the array
is smaller. -/
theorem copyToRawArray_eq : a.copyToRawArray pBuf =
    if a.size ≤ pBuf.length then .ok (a.raw ++ pBuf.drop a.size) else .error .overflow := by
  have hstart : a.copyToRawArray pBuf = (do
      let pBuf ← memcpy ([] ++ pBuf.drop 0) 0 (le32 a.mOperation)
      let pBuf ← memcpy pBuf 4 (le32 a.mChannelID)
      let pBuf ← memcpy pBuf 8 (le32 a.mDataSize)
      let pBuf ← memcpy pBuf 12 (le32 a.mErrorCode)
      if a.mDataSize > 0 then memcpy pBuf 16 a.mpData else pure pBuf) := rfl
  have h0 : ([] : List UInt8).length = 0 := rfl
  rw [hstart, memcpy_word h0 (Nat.zero_le _) (Nat.zero_add 4)]
  by_cases h4 : 4 ≤ pBuf.length
  · have hop : ([] ++ le32 a.mOperation).length = 4 := by simp
    rw [if_pos h4, memcpy_word hop h4 rfl]
    by_cases h8 : 8 ≤ pBuf.length
    · have hchannel : ([] ++ le32 a.mOperation ++ le32 a.mChannelID).length = 8 := by simp
      rw [if_pos h8, memcpy_word hchannel h8 rfl]
      by_cases h12 : 12 ≤ pBuf.length
      · have hsize : ([] ++ le32 a.mOperation ++ le32 a.mChannelID
            ++ le32 a.mDataSize).length = 12 := by simp
        rw [if_pos h12, memcpy_word hsize h12 rfl]
        by_cases h16 : 16 ≤ pBuf.length
        · have herror : ([] ++ le32 a.mOperation ++ le32 a.mChannelID ++ le32 a.mDataSize
            ++ le32 a.mErrorCode).length = 16 := by simp
          rw [if_pos h16]
          -- without data the last store is left out, and would store nothing
          by_cases hdata : a.mDataSize > 0
          · rw [if_pos hdata, memcpy_behind herror h16]
            rfl
          · have hempty : a.mpData = [] := by
              refine List.eq_nil_of_length_eq_zero ?_
              rw [a.sized]
              by_contra hne
              exact hdata (UInt32.pos_iff_ne_zero.mpr fun h => hne (by rw [h]; rfl))
            rw [if_neg hdata, if_pos (by rw [size, hempty]; exact h16), raw, size, hempty,
              List.append_nil]
            rfl
        · rw [if_neg h16]
          exact overflow_of_word (by omega) h16
      · rw [if_neg h12]
        exact overflow_of_word (by omega) h12
    · rw [if_neg h8]
      exact overflow_of_word (by omega) h8
  · rw [if_neg h4]
    exact overflow_of_word (by omega) h4

end copyToRawArray

section ofRawArray

variable {a : Accessor} {size : UInt32}

theorem memcpyFrom_append {p w rest : List UInt8} {off n : Nat} (hoff : p.length = off)
    (hn : w.length = n) : memcpyFrom (p ++ (w ++ rest)) off n = .ok ⟨w, hn⟩ := by
  subst hoff hn
  rw [memcpyFrom, dif_pos (by simp only [List.length_append]; omega)]
  refine congrArg Except.ok (Subtype.ext ?_)
  show ((p ++ (w ++ rest)).drop p.length).take w.length = w
  rw [List.drop_left, List.take_left]

/-- What the constructor makes of an accessor's bytes. -/
theorem ofRawArray_raw (rest : List UInt8) (hsize : ¬ size < 12) :
    ofRawArray (some (a.raw ++ rest)) size = .ok a := by
  have hword : a.mpData.length = (ofLE32 (le32 a.mDataSize)).toNat := by
    rw [ofLE32_le32, a.sized]
  have hop : memcpyFrom (a.raw ++ rest) 0 4 = .ok ⟨le32 a.mOperation, length_le32 _⟩ := by
    rw [raw]
    simp only [List.append_assoc]
    exact memcpyFrom_append (p := []) rfl (length_le32 _)
  have hchannel : memcpyFrom (a.raw ++ rest) 4 4 = .ok ⟨le32 a.mChannelID, length_le32 _⟩ := by
    rw [raw]
    simp only [List.append_assoc]
    exact memcpyFrom_append (length_le32 _) (length_le32 _)
  have hdataSize : memcpyFrom (a.raw ++ rest) 8 4 = .ok ⟨le32 a.mDataSize, length_le32 _⟩ := by
    rw [raw, show ∀ x y z u v : List UInt8, x ++ y ++ z ++ u ++ v ++ rest =
      (x ++ y) ++ (z ++ (u ++ (v ++ rest))) by simp]
    exact memcpyFrom_append (by simp) (length_le32 _)
  have herror : memcpyFrom (a.raw ++ rest) 12 4 = .ok ⟨le32 a.mErrorCode, length_le32 _⟩ := by
    rw [raw, show ∀ x y z u v : List UInt8, x ++ y ++ z ++ u ++ v ++ rest =
      (x ++ y ++ z) ++ (u ++ (v ++ rest)) by simp]
    exact memcpyFrom_append (by simp) (length_le32 _)
  have hdata : memcpyFrom (a.raw ++ rest) 16 (ofLE32 (le32 a.mDataSize)).toNat =
      .ok ⟨a.mpData, hword⟩ := by
    rw [raw, List.append_assoc]
    exact memcpyFrom_append (by simp) hword
  have hread : (⟨ofLE32 (le32 a.mOperation), ofLE32 (le32 a.mChannelID),
      ofLE32 (le32 a.mDataSize), ofLE32 (le32 a.mErrorCode), a.mpData, hword⟩ : Accessor) = a :=
    Accessor.ext (ofLE32_le32 _) (ofLE32_le32 _) (ofLE32_le32 _) (ofLE32_le32 _) rfl
  unfold ofRawArray
  rw [if_neg hsize]
  refine bind_ok.mpr ⟨_, hop, bind_ok.mpr ⟨_, hchannel, bind_ok.mpr ⟨_, hdataSize, ?_⟩⟩⟩
  refine bind_ok.mpr ⟨_, herror, bind_ok.mpr ⟨_, hdata, ?_⟩⟩
  exact congrArg Except.ok hread

end ofRawArray

/-! ## Against the accessor whose data say their size -/

def toCDataAccessor (a : Accessor) : CDataAccessor :=
  ⟨a.mOperation, a.mChannelID, a.mErrorCode, a.mpData⟩

theorem raw_toCDataAccessor (a : Accessor) : a.toCDataAccessor.raw = a.raw := by
  have hsize : UInt32.ofNat a.mpData.length = a.mDataSize := by
    rw [a.sized, UInt32.ofNat_toNat]
  rw [raw, ← hsize]
  rfl

@[simp] theorem length_raw (a : Accessor) : a.raw.length = a.size := by
  rw [← raw_toCDataAccessor, CDataAccessor.length_raw]
  exact Nat.add_comm _ _

/-- The copy is the one of the accessor without the member, into an array of the same size. -/
theorem copyToRawArray_ok {a : Accessor} {pBuf out : List UInt8} :
    a.copyToRawArray pBuf = .ok out ↔
      ∃ l, a.toCDataAccessor.copyToRawArray pBuf.length = .ok l ∧ out = l ++ pBuf.drop l.length := by
  have hsize : a.toCDataAccessor.getObjectSize = a.size := Nat.add_comm _ _
  rw [copyToRawArray_eq]
  simp only [CDataAccessor.copyToRawArray_iff, hsize, raw_toCDataAccessor]
  split
  · next hle =>
    constructor
    · intro h
      exact ⟨a.raw, ⟨hle, rfl⟩, by rw [length_raw]; exact (Except.ok.inj h).symm⟩
    · intro ⟨l, ⟨_, hl⟩, hout⟩
      rw [hout, hl, length_raw]
  · next hlt =>
    constructor
    · intro h
      cases h
    · intro ⟨l, ⟨hle, _⟩, _⟩
      exact absurd hle hlt

/-- **An accessor is copied and read back.** The copy writes the object's bytes and no others, as
many as `getObjectSize` reports if 32 bits hold their number; the constructor makes the same
accessor of them. It stays inside the array exactly if this has room for them. -/
theorem accessor_copies (a : Accessor) (pBuf : List UInt8) :
    (a.copyToRawArray pBuf =
        if a.size ≤ pBuf.length then .ok (a.raw ++ pBuf.drop a.size) else .error .overflow) ∧
      a.raw.length = a.size ∧ (a.size < 4294967296 → a.getObjectSize.toNat = a.size) ∧
      ∀ size : UInt32, ¬ size < 12 → ofRawArray (some a.raw) size = .ok a := by
  refine ⟨copyToRawArray_eq, a.length_raw, getObjectSize_eq, fun size hsize => ?_⟩
  have h := ofRawArray_raw (a := a) [] hsize
  rw [List.append_nil] at h
  exact h

/-- An array of four bytes: the second word is stored behind its end. -/
theorem small_array_overrun : new.copyToRawArray [0, 0, 0, 0] = .error .overflow := rfl

end Accessor

end IviLink.Common
