import Mathlib.Data.List.Basic

/-!
# Generated uids

The numbers of a counter of type `int`, in decimal. Incrementing it beyond what it can be is not
defined, so that there is no uid then.
-/

namespace IviLink.Utils

def INT_MAX : Nat := 2147483647

/-- What `gCounter` is when a process starts. -/
def firstCounter : Nat := 1

/-- `generateUid`: the uid, and what `gCounter` is then. -/
def generateUid (gCounter : Nat) : Option (List Char × Nat) :=
  if gCounter < INT_MAX then some (Nat.toDigits 10 gCounter, gCounter + 1) else none

theorem generateUid_eq_some {gCounter n : Nat} {uid : List Char}
    (h : generateUid gCounter = some (uid, n)) :
    uid = Nat.toDigits 10 gCounter ∧ n = gCounter + 1 := by
  rw [generateUid] at h
  split at h
  · obtain ⟨rfl, rfl⟩ := Prod.mk.inj (Option.some.inj h)
    exact ⟨rfl, rfl⟩
  · cases h

theorem toDigits_injective {m n : Nat} (h : Nat.toDigits 10 m = Nat.toDigits 10 n) : m = n := by
  rw [← @Nat.ofDigitChars_ten_toDigits m, h, Nat.ofDigitChars_ten_toDigits]

end IviLink.Utils
