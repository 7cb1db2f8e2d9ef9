import Mathlib.Data.List.Induction

/-!
# Journals

A journal grows at its end. `Each` is what is asked of its entries in view of what stands
before them: that something has come earlier, or has not. An entry once written keeps
its place, so that `Each` is proved entry by entry, as the journal grows.
-/

namespace IviLink.Lib

variable {α : Type*}

/-- Every entry meets `ok`, given the entries before it. -/
def Each (ok : List α → α → Prop) (l : List α) : Prop :=
  ∀ pre e post, l = pre ++ e :: post → ok pre e

section Each

variable {ok ok' : List α → α → Prop} {l l' : List α} {e : α}

theorem each_nil : Each ok [] :=
  fun pre _ _ h => absurd h (by simp)

theorem Each.imp (h : Each ok l) (himp : ∀ pre e, ok pre e → ok' pre e) : Each ok' l :=
  fun pre e post heq => himp pre e (h pre e post heq)

/-- What was written first has been checked. -/
theorem Each.left (h : Each ok (l ++ l')) : Each ok l := by
  rintro pre e post rfl
  exact h pre e (post ++ l') (by simp)

theorem each_snoc : Each ok (l ++ [e]) ↔ Each ok l ∧ ok l e := by
  constructor
  · intro h
    exact ⟨h.left, h l e [] rfl⟩
  · rintro ⟨h, he⟩ pre e' post heq
    rcases List.eq_nil_or_concat post with rfl | ⟨post, x, rfl⟩
    · obtain ⟨rfl, hlast⟩ := List.append_inj' heq rfl
      exact List.singleton_inj.mp hlast ▸ he
    · rw [List.concat_eq_append, ← List.cons_append, ← List.append_assoc] at heq
      exact h pre e' post (List.append_inj' heq rfl).1

theorem Each.snoc (h : Each ok l) (he : ok l e) : Each ok (l ++ [e]) := each_snoc.mpr ⟨h, he⟩

/-- What is added is checked in view of all that stood there before. -/
theorem Each.append (h : Each ok l) (h' : Each (fun pre e => ok (l ++ pre) e) l') :
    Each ok (l ++ l') := by
  induction l' using List.reverseRecOn with
  | nil => rwa [List.append_nil]
  | append_singleton l' e ih =>
    obtain ⟨h', he⟩ := each_snoc.mp h'
    rw [← List.append_assoc]
    exact (ih h').snoc he

end Each

/-! ## Entries next to each other -/

/-- Two entries that stand next to each other did so before `x` was written, or `x` is the
second of them and the first was the last one so far. -/
theorem pair_infix_snoc {a b x : α} {l : List α} (h : [a, b] <:+: l ++ [x]) :
    [a, b] <:+: l ∨ [a] <:+ l ∧ b = x := by
  rcases List.infix_concat_iff.mp h with hsuffix | hinfix
  · rcases List.suffix_concat_iff.mp hsuffix with hnil | ⟨l', heq, hl'⟩
    · exact absurd hnil (by simp)
    · have heq : [a] ++ [b] = l' ++ [x] := heq
      obtain ⟨rfl, hlast⟩ := List.append_inj' heq rfl
      exact .inr ⟨hl', List.singleton_inj.mp hlast⟩
  · exact .inl hinfix

theorem pair_infix_append {a b : α} {l l' : List α} (h : [a, b] <:+: l ++ l') (hb : b ∉ l') :
    [a, b] <:+: l := by
  induction l' using List.reverseRecOn with
  | nil => rwa [List.append_nil] at h
  | append_singleton l' x ih =>
    rw [← List.append_assoc] at h
    rcases pair_infix_snoc h with h | ⟨-, rfl⟩
    · exact ih h fun hmem => hb (List.mem_append_left _ hmem)
    · exact absurd (List.mem_append_right l' List.mem_cons_self) hb

end IviLink.Lib
