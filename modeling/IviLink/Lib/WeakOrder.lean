import Mathlib.Data.Set.Basic
import Mathlib.Order.RelClasses

/-!
# Not above

In a preorder, what is not above something is less than it in some respect. That is an order to
sort by only where any two elements can be compared: of two that cannot, each would come first.
-/

namespace IviLink.Lib

variable {α β : Type*} [Preorder β]

/-- **Being not above is a strict weak order exactly on the sets that are ordered totally**, by
what is looked at of their elements. -/
theorem isStrictWeakOrder_not_ge_iff (f : α → β) (S : Set α) :
    IsStrictWeakOrder (↥S) (fun a b => ¬ f b ≤ f a)
      ↔ ∀ a ∈ S, ∀ b ∈ S, f a ≤ f b ∨ f b ≤ f a := by
  constructor
  · intro horder a ha b hb
    by_contra hnot
    obtain ⟨hab, hba⟩ := not_or.mp hnot
    -- each would be less than the other, and so than itself
    have hself := horder.trans ⟨a, ha⟩ ⟨b, hb⟩ ⟨a, ha⟩ hba hab
    exact hself le_rfl
  · intro htotal
    refine { irrefl := ?_, trans := ?_, incomp_trans := ?_ }
    · intro a hnot
      exact hnot le_rfl
    · intro a b c hba hcb hca
      have hab := (htotal a a.2 b b.2).resolve_right hba
      exact hcb (hca.trans hab)
    · intro a b c hab hbc
      obtain ⟨hba, hab⟩ := And.imp not_not.mp not_not.mp hab
      obtain ⟨hcb, hbc⟩ := And.imp not_not.mp not_not.mp hbc
      exact ⟨not_not.mpr (hcb.trans hba), not_not.mpr (hab.trans hbc)⟩

end IviLink.Lib
