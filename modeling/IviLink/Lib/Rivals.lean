import Mathlib.Data.List.Nodup
import Mathlib.Data.List.Pairwise

/-!
# Elements known by a key

A collection in some order, where no two elements have the same key. One is put in
at any place, one is taken out, or another takes the place of the one with its key.

Rivals are two elements that stand in a given relation. A collection without rivals
gets some by a change of one element exactly where the changed one is a rival of
one that stays.
-/

namespace IviLink.Lib

variable {α κ : Type*} {key : α → κ} {l l' : List α} {a b : α}

/-- No two elements have the same key. -/
def Keyed (key : α → κ) (l : List α) : Prop := (l.map key).Nodup

theorem Keyed.nodup (h : Keyed key l) : l.Nodup := List.Nodup.of_map key h

theorem Keyed.eq (h : Keyed key l) (ha : a ∈ l) (hb : b ∈ l) (hab : key a = key b) : a = b :=
  List.inj_on_of_nodup_map h ha hb hab

theorem Keyed.sublist (h : Keyed key l) (hl : l'.Sublist l) : Keyed key l' :=
  List.Nodup.sublist (hl.map key) h

/-- One with a new key is put in. -/
theorem Keyed.insert (h : Keyed key l) (ha : ∀ b ∈ l, key b ≠ key a) (place : Nat) :
    Keyed key (l.take place ++ a :: l.drop place) := by
  have hperm : (l.take place ++ a :: l.drop place).Perm (a :: l) := by
    refine List.perm_middle.trans (List.Perm.cons a ?_)
    rw [List.take_append_drop]
  refine (hperm.map key).nodup_iff.mpr ?_
  rw [List.map_cons, List.nodup_cons]
  refine ⟨?_, h⟩
  intro hmem
  obtain ⟨b, hb, hba⟩ := List.mem_map.mp hmem
  exact ha b hb hba

/-- Another takes the place of the one with its key. -/
theorem Keyed.replace [DecidableEq κ] (h : Keyed key l) :
    Keyed key (l.map fun b => if key b = key a then a else b) := by
  have hkeys : (l.map fun b => if key b = key a then a else b).map key = l.map key := by
    rw [List.map_map]
    refine List.map_congr_left ?_
    intro b _
    by_cases hb : key b = key a
    · simp [hb]
    · simp [hb]
  rw [Keyed, hkeys]
  exact h

/-! ## Rivals -/

variable {R : α → α → Prop}

/-- No two elements are rivals. -/
def Unrivalled (R : α → α → Prop) (l : List α) : Prop := ∀ a ∈ l, ∀ b ∈ l, R a b → a = b

theorem Unrivalled.subset (h : Unrivalled R l) (hl : l' ⊆ l) : Unrivalled R l' :=
  fun a ha b hb => h a (hl ha) b (hl hb)

theorem unrivalled_nil : Unrivalled R [] := fun _ ha => absurd ha List.not_mem_nil

/-- Said of the places of the collection. -/
theorem Keyed.pairwise_iff (hsymm : ∀ a b, R a b → R b a) (h : Keyed key l) :
    (l.Pairwise fun a b => ¬ R a b) ↔ Unrivalled R l := by
  have : Std.Symm fun a b => ¬ R a b := ⟨fun a b hab hba => hab (hsymm b a hba)⟩
  constructor
  · intro hl a ha b hb hab
    by_contra hne
    exact hl.forall ha hb hne hab
  · intro hl
    refine h.nodup.pairwise_of_forall_ne ?_
    intro a ha b hb hne hab
    exact hne (hl a ha b hb hab)

/-- **A changed collection.** Beside the changed element there is only what has stayed. -/
theorem unrivalled_iff_of_changed {Stays : α → Prop} (hsymm : ∀ a b, R a b → R b a)
    (hl : Unrivalled R l) (hmem : ∀ b, b ∈ l' ↔ b = a ∨ (b ∈ l ∧ Stays b))
    (hne : ∀ b ∈ l, Stays b → b ≠ a) :
    Unrivalled R l' ↔ ∀ b ∈ l, Stays b → ¬ R a b := by
  constructor
  · intro h b hb hstays hab
    exact hne b hb hstays (h a ((hmem a).mpr (.inl rfl)) b ((hmem b).mpr (.inr ⟨hb, hstays⟩)) hab).symm
  · intro h b hb c hc hbc
    rcases (hmem b).mp hb with rfl | ⟨hb, hbs⟩
    · rcases (hmem c).mp hc with rfl | ⟨hc, hcs⟩
      · rfl
      · exact absurd hbc (h c hc hcs)
    · rcases (hmem c).mp hc with rfl | ⟨hc, hcs⟩
      · exact absurd (hsymm b c hbc) (h b hb hbs)
      · exact hl b hb c hc hbc

end IviLink.Lib
