import Mathlib.Algebra.GroupWithZero.Nat
import Mathlib.Data.List.Basic

/-!
# Parties in a list

The parties of a system stand in a list, each with what it is doing, and a step
changes what one of them does. How many do something, and whether some one does,
changes with that party only.
-/

namespace IviLink.Lib

variable {α : Type*} {l : List α} {i j : Nat} {a b c : α}

/-- **A step of one party** changes a count by that party. -/
theorem countP_set_add (p : α → Bool) (h : l[i]? = some a) :
    (l.set i b).countP p + (if p a then 1 else 0) = l.countP p + (if p b then 1 else 0) := by
  obtain ⟨hi, ha⟩ := List.getElem?_eq_some_iff.mp h
  have hle : (if p a then 1 else 0) ≤ l.countP p := by
    split
    · next hp => exact List.countP_pos_iff.mpr ⟨a, ha ▸ List.getElem_mem hi, hp⟩
    · exact Nat.zero_le _
  rw [List.countP_set hi, ha]
  omega

/-- The party that makes the step stands between others that do not. -/
theorem exists_split (h : l[i]? = some a) :
    ∃ front back, l = front ++ a :: back ∧ ∀ b, l.set i b = front ++ b :: back := by
  obtain ⟨hi, ha⟩ := List.getElem?_eq_some_iff.mp h
  refine ⟨l.take i, l.drop (i + 1), ?_, ?_⟩
  · rw [← ha, ← List.drop_eq_getElem_cons hi, List.take_append_drop]
  · intro b
    rw [List.set_eq_take_append_cons_drop, if_pos hi]

/-- **A step of one party** changes a sum by what that party adds to it. -/
theorem sum_set_add (f : α → Nat) (h : l[i]? = some a) :
    ((l.set i b).map f).sum + f a = (l.map f).sum + f b := by
  obtain ⟨front, back, hl, hset⟩ := exists_split h
  rw [hset, hl]
  simp only [List.map_append, List.map_cons, List.sum_append, List.sum_cons]
  omega

/-- **A step of one party** changes what the parties have by what that party has. -/
theorem filterMap_split {β : Type*} (f : α → Option β) (h : l[i]? = some a) :
    ∃ front back, l.filterMap f = front ++ (f a).toList ++ back
      ∧ (∀ b, (l.set i b).filterMap f = front ++ (f b).toList ++ back)
      ∧ (l.length = 1 → front = [] ∧ back = []) := by
  obtain ⟨front, back, hl, hset⟩ := exists_split h
  have hmiddle : ∀ b, (front ++ b :: back).filterMap f
      = front.filterMap f ++ (f b).toList ++ back.filterMap f := by
    intro b
    rw [List.filterMap_append, List.append_assoc]
    cases hb : f b with
    | none => rw [List.filterMap_cons_none hb]; rfl
    | some c => rw [List.filterMap_cons_some hb]; rfl
  refine ⟨front.filterMap f, back.filterMap f, ?_, ?_, ?_⟩
  · rw [hl, hmiddle]
  · intro b
    rw [hset, hmiddle]
  · intro hone
    rw [hl, List.length_append, List.length_cons] at hone
    obtain rfl := List.length_eq_zero_iff.mp (by omega : front.length = 0)
    obtain rfl := List.length_eq_zero_iff.mp (by omega : back.length = 0)
    exact ⟨rfl, rfl⟩

theorem countP_ne_zero {p : α → Bool} (h : l[i]? = some a) (hp : p a = true) : l.countP p ≠ 0 :=
  Nat.ne_of_gt (List.countP_pos_iff.mpr ⟨a, List.mem_of_getElem? h, hp⟩)

/-- What only one party does is counted once at most. -/
theorem countP_le_one {p : α → Bool} (h : ∀ (i j : Nat) a b, l[i]? = some a → l[j]? = some b →
    p a = true → p b = true → i = j) : l.countP p ≤ 1 := by
  induction l with
  | nil => exact Nat.zero_le _
  | cons a l ih =>
    by_cases ha : p a = true
    · have htail : l.countP p = 0 := by
        refine List.countP_eq_zero.mpr ?_
        intro b hb hpb
        obtain ⟨j, hj⟩ := List.mem_iff_getElem?.mp hb
        have := h 0 (j + 1) a b rfl hj ha hpb
        omega
      exact Nat.le_of_eq (by rw [List.countP_cons_of_pos ha, htail])
    · rw [List.countP_cons_of_neg ha]
      refine ih ?_
      intro i j b c hb hc hpb hpc
      have := h (i + 1) (j + 1) b c hb hc hpb hpc
      omega

theorem mem_set_self (h : l[i]? = some a) : b ∈ l.set i b :=
  List.mem_set (List.getElem?_eq_some_iff.mp h).1 b

/-- The other parties do what they did. -/
theorem mem_set_of_ne (hc : c ∈ l) (h : l[i]? = some a) (hne : c ≠ a) : c ∈ l.set i b := by
  obtain ⟨j, hj⟩ := List.mem_iff_getElem?.mp hc
  have hij : i ≠ j := by
    rintro rfl
    exact hne (Option.some.inj (hj.symm.trans h))
  exact List.mem_iff_getElem?.mpr ⟨j, by rwa [List.getElem?_set_ne hij]⟩

theorem not_mem_set (hc : c ∉ l) (hne : c ≠ b) : c ∉ l.set i b := by
  intro hmem
  rcases List.mem_or_eq_of_mem_set hmem with h | h
  · exact hc h
  · exact hne h

/-- What a party does after the step is new, or it did so before. -/
theorem getElem?_set_cases (h : (l.set i b)[j]? = some c) : i = j ∧ c = b ∨ l[j]? = some c := by
  rcases eq_or_ne i j with rfl | hij
  · rw [List.getElem?_set_self'] at h
    obtain ⟨_, _, hb⟩ := Option.map_eq_some_iff.mp h
    exact Or.inl ⟨rfl, hb.symm⟩
  · rw [List.getElem?_set_ne hij] at h
    exact Or.inr h

end IviLink.Lib
