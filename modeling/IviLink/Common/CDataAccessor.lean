import IviLink.Ipc.Socket

/-!
# `CDataAccessor`

What clients and the agent exchange over IPC: four words of the host and data
behind them. The accessor that is built from a message takes the size of its data
from the message and not from the message's length.

`copyToRawArray` does not know how large the array is. Here it does, so that a
store behind its end is an outcome (`Failure.overflow`).
-/

namespace IviLink.Common

open IviLink.Ipc (Failure)
open IviLink.Lib

/-- `tOpCode` as it lies in an accessor, the codes that go with data. -/
def E_SEND_DATA : UInt32 := 3
def E_RECEIVE_DATA_NTF : UInt32 := 9

structure CDataAccessor where
  mOperation : UInt32
  mChannelID : UInt32
  mErrorCode : UInt32
  /-- `mDataSize` bytes. -/
  mpData : List UInt8
  deriving DecidableEq, Repr

namespace CDataAccessor

def getDataSize (a : CDataAccessor) : Nat := a.mpData.length

def getObjectSize (a : CDataAccessor) : Nat := a.getDataSize + 4 * 4

/-- The bytes `copyToRawArray` writes. -/
def raw (a : CDataAccessor) : List UInt8 :=
  le32 a.mOperation ++ le32 a.mChannelID ++ le32 (UInt32.ofNat a.getDataSize)
    ++ le32 a.mErrorCode ++ a.mpData

/-- `copyToRawArray` into an array of `capacity` bytes. -/
def copyToRawArray (a : CDataAccessor) (capacity : Nat) : Except Failure (List UInt8) :=
  if a.getObjectSize ≤ capacity then .ok a.raw else .error .overflow

/-- The constructor from `size` bytes at `pData`, where these bytes lie. -/
def ofRawArray (pData : List UInt8) (size : Nat) : Except Failure CDataAccessor :=
  if ¬ size ≥ 12 then .error .assertion
  else
    let mDataSize := ofLE32 ((pData.drop 8).take 4)
    .ok {
      mOperation := ofLE32 (pData.take 4)
      mChannelID := ofLE32 ((pData.drop 4).take 4)
      mErrorCode := ofLE32 ((pData.drop 12).take 4)
      mpData := (pData.drop 16).take mDataSize.toNat }

@[simp] theorem length_raw (a : CDataAccessor) : a.raw.length = a.getObjectSize := by
  unfold raw getObjectSize getDataSize
  simp only [List.length_append, length_le32]
  omega

theorem raw_ne_nil (a : CDataAccessor) : a.raw ≠ [] := by
  refine List.ne_nil_of_length_pos ?_
  rw [length_raw, getObjectSize]
  omega

/-- The words of an accessor where the constructor looks for them. -/
theorem raw_words (a : CDataAccessor) :
    a.raw.take 4 = le32 a.mOperation ∧ (a.raw.drop 4).take 4 = le32 a.mChannelID
      ∧ (a.raw.drop 8).take 4 = le32 (UInt32.ofNat a.getDataSize)
      ∧ (a.raw.drop 12).take 4 = le32 a.mErrorCode ∧ a.raw.drop 16 = a.mpData := by
  have h4 : a.raw.drop 4 = le32 a.mChannelID ++ (le32 (UInt32.ofNat a.getDataSize)
      ++ (le32 a.mErrorCode ++ a.mpData)) := by
    simp only [raw, List.append_assoc]
    exact List.drop_left' (length_le32 _)
  have h8 : a.raw.drop 8 = le32 (UInt32.ofNat a.getDataSize)
      ++ (le32 a.mErrorCode ++ a.mpData) := by
    rw [show 8 = 4 + 4 from rfl, ← List.drop_drop, h4]
    exact List.drop_left' (length_le32 _)
  have h12 : a.raw.drop 12 = le32 a.mErrorCode ++ a.mpData := by
    rw [show 12 = 8 + 4 from rfl, ← List.drop_drop, h8]
    exact List.drop_left' (length_le32 _)
  refine ⟨?_, ?_, ?_, ?_, ?_⟩
  · simp only [raw, List.append_assoc]
    exact List.take_left' (length_le32 _)
  · rw [h4, List.take_left' (length_le32 _)]
  · rw [h8, List.take_left' (length_le32 _)]
  · rw [h12, List.take_left' (length_le32 _)]
  · rw [show 16 = 12 + 4 from rfl, ← List.drop_drop, h12]
    exact List.drop_left' (length_le32 _)

/-- **An accessor that is copied out and read back is the same**, if its size fits the word that
holds it. -/
theorem ofRawArray_raw {a : CDataAccessor} (h : a.getDataSize < 4294967296) :
    ofRawArray a.raw a.raw.length = .ok a := by
  obtain ⟨hop, hchannel, hsize, herror, hdata⟩ := a.raw_words
  have hlen : a.raw.length ≥ 12 := by
    rw [length_raw, getObjectSize]
    omega
  have hword : (UInt32.ofNat a.getDataSize).toNat = a.getDataSize := by
    rw [UInt32.toNat_ofNat']
    exact Nat.mod_eq_of_lt h
  rw [ofRawArray, if_neg (not_not.mpr hlen), hop, hchannel, hsize, herror, hdata]
  simp only [ofLE32_le32, hword]
  rw [getDataSize, List.take_length]

/-- The copy is made exactly when the array has room for it. -/
theorem copyToRawArray_iff {a : CDataAccessor} {capacity : Nat} {l : List UInt8} :
    a.copyToRawArray capacity = .ok l ↔ a.getObjectSize ≤ capacity ∧ l = a.raw := by
  unfold copyToRawArray
  split
  · rename_i h
    simp [h, eq_comm]
  · rename_i h
    simp [h]

end CDataAccessor

end IviLink.Common
