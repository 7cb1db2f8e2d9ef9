import Mathlib.Logic.Basic

/-!
# Computations that may fault

A computation in `Except ε` whose errors are things that must not happen. That it
is `Fine` means that none does; the lemmas here take this apart along the
computation, so that it becomes one condition for each check on the way.
-/

namespace IviLink.Lib

universe u

variable {ε : Type*} {α β : Type u}

/-- The computation ends without a fault. -/
def Fine (x : Except ε α) : Prop := ∃ a, x = .ok a

instance (x : Except ε α) : Decidable (Fine x) :=
  match x with
  | .ok a => isTrue ⟨a, rfl⟩
  | .error _ => isFalse fun h => nomatch h.choose_spec

@[simp] theorem fine_ok (a : α) : Fine (.ok a : Except ε α) := ⟨a, rfl⟩

@[simp] theorem fine_pure (a : α) : Fine (pure a : Except ε α) := ⟨a, rfl⟩

@[simp] theorem not_fine_error (e : ε) : ¬ Fine (.error e : Except ε α) := by
  rintro ⟨a, h⟩
  cases h

/-- What a computation came through. -/
theorem bind_ok {x : Except ε α} {f : α → Except ε β} {b : β} :
    x >>= f = .ok b ↔ ∃ a, x = .ok a ∧ f a = .ok b := by
  cases x with
  | error e =>
    constructor
    · intro h
      cases h
    · rintro ⟨a, h, -⟩
      cases h
  | ok a =>
    constructor
    · intro h
      exact ⟨a, rfl, h⟩
    · rintro ⟨c, h, hf⟩
      cases h
      exact hf

theorem fine_bind {x : Except ε α} {f : α → Except ε β} :
    Fine (x >>= f) ↔ ∃ a, x = .ok a ∧ Fine (f a) := by
  constructor
  · rintro ⟨b, h⟩
    obtain ⟨a, hx, hf⟩ := bind_ok.mp h
    exact ⟨a, hx, b, hf⟩
  · rintro ⟨a, hx, b, hf⟩
    exact ⟨b, bind_ok.mpr ⟨a, hx, hf⟩⟩

/-- A check in front of the rest. -/
theorem fine_check {c : Prop} [Decidable c] {e : ε} {x : Except ε α} :
    Fine (if c then x else .error e) ↔ c ∧ Fine x := by
  by_cases h : c
  · rw [if_pos h, and_iff_right h]
  · rw [if_neg h]
    exact iff_of_false (not_fine_error e) (fun hc => h hc.1)

/-- What a check lets through. -/
theorem check_ok {c : Prop} [Decidable c] {e : ε} {a b : α} :
    (if c then .ok a else .error e : Except ε α) = .ok b ↔ c ∧ a = b := by
  by_cases h : c
  · rw [if_pos h, and_iff_right h]
    exact Except.ok.injEq a b ▸ Iff.rfl
  · rw [if_neg h]
    exact iff_of_false (by simp) (fun hc => h hc.1)

end IviLink.Lib
