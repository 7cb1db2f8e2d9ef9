import IviLink.Lib.WeakOrder
import IviLink.ProfileManager.ClientAppRegistry
import Mathlib.Data.Char
import Mathlib.Data.List.Lex

/-!
# The order of the instances

`ProfileData::operator<` is what the `std::set`s of `ClientAppRegistry` are ordered by. Strings are
compared character by character. A record is less than another one if any of its strings is.
-/

namespace IviLink.ProfileManager.PIM

open IviLink.Lib

namespace ProfileData

/-- `operator<` -/
def lt (x d : ProfileData) : Bool :=
  x.piuid < d.piuid || x.sid < d.sid || x.profileUid < d.profileUid

/-- The three strings, each ordered by itself. -/
def fields (x : ProfileData) : Uid × Uid × Uid := (x.piuid, x.sid, x.profileUid)

/-- A record is less than another one unless it is above it in every field. -/
theorem lt_iff {x d : ProfileData} : x.lt d = true ↔ ¬ d.fields ≤ x.fields := by
  simp only [lt, fields, Bool.or_eq_true, decide_eq_true_eq, Prod.mk_le_mk, not_and_or, not_le,
    or_assoc]

/-- **The comparison is a strict weak order exactly on the sets in which any two records are
ordered in the same way by all their fields.** -/
theorem lt_strictWeak_iff (S : Set ProfileData) :
    IsStrictWeakOrder (↥S) (fun x d => x.1.lt d.1 = true) ↔ ∀ x ∈ S, ∀ d ∈ S,
      (x.piuid ≤ d.piuid ∧ x.sid ≤ d.sid ∧ x.profileUid ≤ d.profileUid)
        ∨ (d.piuid ≤ x.piuid ∧ d.sid ≤ x.sid ∧ d.profileUid ≤ x.profileUid) := by
  have hrel : (fun x d : S => x.1.lt d.1 = true) = fun x d => ¬ d.1.fields ≤ x.1.fields := by
    funext x d
    exact propext lt_iff
  rw [hrel]
  exact isStrictWeakOrder_not_ge_iff fields S

/-- Two records whose first strings are ordered one way and whose others the other way: each is
less than the other. -/
theorem lt_both_ways :
    ¬ IsStrictWeakOrder ProfileData (fun x d => x.lt d = true) := by
  intro horder
  have hself := horder.trans ⟨['1'], ['b'], ['b']⟩ ⟨['2'], ['a'], ['a']⟩ ⟨['1'], ['b'], ['b']⟩
    (by decide) (by decide)
  exact horder.irrefl _ hself

end ProfileData

end IviLink.ProfileManager.PIM
