import Mathlib.Order.Nat
import Mathlib.Data.Nat.Find

/-!
# Loops with a limit on their attempts

A loop asks for something again and again. An answer ends it, or makes it try once more;
the attempts are counted against a limit, and when it is reached the loop gives up. An
answer may also make it try again without counting the attempt: such answers are the only
way past the limit.
-/

namespace IviLink.Lib

/-- What a loop makes of an answer. -/
inductive Verdict (ρ : Type*)
  | ends (result : ρ)
  | again
  /-- Once more, and the attempt does not count. -/
  | uncounted

def Verdict.Ends {ρ : Type*} (v : Verdict ρ) : Prop := ∃ result, v = .ends result

/-- Where a loop is: at an attempt, with the number of those that count, or at its end. -/
inductive Attempts (ρ : Type*)
  | trying (i : Nat)
  | ended (result : ρ)

namespace Attempts

variable {ρ : Type*} {limit : Nat} {gaveUp r : ρ} {vs : Nat → Verdict ρ} {n m k : Nat}

/-- The head of the loop. -/
def enter (limit : Nat) (gaveUp : ρ) (i : Nat) : Attempts ρ :=
  if i < limit then .trying i else .ended gaveUp

/-- The loop goes on with the verdict on an answer. -/
def round (limit : Nat) (gaveUp : ρ) (v : Verdict ρ) : Attempts ρ → Attempts ρ
  | .ended r => .ended r
  | .trying i =>
    match v with
    | .ends r => .ended r
    | .again => enter limit gaveUp (i + 1)
    | .uncounted => .trying i

/-- Where the loop is after `n` rounds. -/
def after (limit : Nat) (gaveUp : ρ) (vs : Nat → Verdict ρ) : Nat → Attempts ρ
  | 0 => enter limit gaveUp 0
  | n + 1 => round limit gaveUp (vs n) (after limit gaveUp vs n)

theorem after_succ :
    after limit gaveUp vs (n + 1) = round limit gaveUp (vs n) (after limit gaveUp vs n) := rfl

/-- A loop that has ended stays as it is. -/
theorem after_of_le (h : after limit gaveUp vs n = .ended r) (hle : n ≤ m) :
    after limit gaveUp vs m = .ended r := by
  induction hle with
  | refl => exact h
  | step _ ih => rw [after_succ, ih]; rfl

/-- What a loop is still at has not been ended before. -/
theorem trying_of_le {i : Nat} (h : after limit gaveUp vs m = .trying i) (hle : n ≤ m) :
    ∃ j, after limit gaveUp vs n = .trying j := by
  cases hn : after limit gaveUp vs n with
  | trying j => exact ⟨j, rfl⟩
  | ended r =>
    rw [after_of_le hn hle] at h
    cases h

theorem not_ends_of_trying {i : Nat} (h : after limit gaveUp vs n = .trying i) (hk : k < n) :
    ¬ (vs k).Ends := by
  intro ⟨r, hr⟩
  obtain ⟨j, hj⟩ := trying_of_le h (Nat.le_of_lt hk)
  have hend : after limit gaveUp vs (k + 1) = .ended r := by rw [after_succ, hj, hr]; rfl
  rw [after_of_le hend hk] at h
  cases h

/-- As long as no answer ends it, no attempt is counted that is not made. -/
theorem after_of_not_ends (h : ∀ k, k < n → ¬ (vs k).Ends) (hn : n < limit) :
    ∃ i, i ≤ n ∧ after limit gaveUp vs n = .trying i := by
  induction n with
  | zero => exact ⟨0, Nat.le_refl 0, if_pos hn⟩
  | succ n ih =>
    obtain ⟨i, hi, hat⟩ := ih (fun k hk => h k (by omega)) (by omega)
    rw [after_succ, hat]
    cases hv : vs n with
    | ends r => exact absurd ⟨r, hv⟩ (h n (by omega))
    | again => exact ⟨i + 1, by omega, if_pos (by omega)⟩
    | uncounted => exact ⟨i, by omega, rfl⟩

/-- The first answer that ends the loop gives its result. -/
theorem after_first (h : ∀ k, k < n → ¬ (vs k).Ends) (hn : n < limit) (hr : vs n = .ends r) :
    after limit gaveUp vs (n + 1) = .ended r := by
  obtain ⟨i, -, hat⟩ := after_of_not_ends h hn
  rw [after_succ, hat, hr]
  rfl

/-- Where every attempt counts, the counter is right. -/
theorem after_of_again (h : ∀ k, k < n → vs k = .again) :
    after limit gaveUp vs n = enter limit gaveUp n := by
  induction n with
  | zero => rfl
  | succ n ih =>
    rw [after_succ, ih fun k hk => h k (by omega), h n (by omega), enter, enter]
    by_cases hn : n < limit
    · rw [if_pos hn]
      rfl
    · rw [if_neg hn, if_neg (by omega)]
      rfl

/-- An attempt that was not counted is one that is left over. -/
theorem after_of_uncounted (h : ∀ k, k < n → ¬ (vs k).Ends) (hk : k < n)
    (hv : vs k = .uncounted) (hn : n ≤ limit) :
    ∃ i, i < n ∧ after limit gaveUp vs n = .trying i := by
  induction n with
  | zero => exact absurd hk (Nat.not_lt_zero k)
  | succ n ih =>
    by_cases hkn : k < n
    · obtain ⟨i, hi, hat⟩ := ih (fun j hj => h j (by omega)) hkn (by omega)
      rw [after_succ, hat]
      cases hvn : vs n with
      | ends r => exact absurd ⟨r, hvn⟩ (h n (by omega))
      | again => exact ⟨i + 1, by omega, if_pos (by omega)⟩
      | uncounted => exact ⟨i, by omega, rfl⟩
    · have hat : ∃ i, i ≤ n ∧ after limit gaveUp vs n = .trying i :=
        after_of_not_ends (fun j hj => h j (by omega)) (by omega)
      obtain ⟨i, hi, hat⟩ := hat
      rw [after_succ, hat, ← show k = n by omega, hv]
      exact ⟨i, by omega, rfl⟩

theorem exists_first (h : ∃ k, k < limit ∧ (vs k).Ends) :
    ∃ n, n < limit ∧ (∃ r, vs n = .ends r) ∧ ∀ k, k < n → ¬ (vs k).Ends := by
  classical
  obtain ⟨k, hk, hends⟩ := h
  have hsome : ∃ k, (vs k).Ends := ⟨k, hends⟩
  refine ⟨Nat.find hsome, ?_, Nat.find_spec hsome, fun j hj => Nat.find_min hsome hj⟩
  exact Nat.lt_of_le_of_lt (Nat.find_min' hsome hends) hk

/-- **A loop ends within its limit** with the result of the first answer that ends it, or
it has used up its attempts. -/
theorem after_limit_iff : after limit gaveUp vs limit = .ended r ↔
    (∃ n, n < limit ∧ vs n = .ends r ∧ ∀ k, k < n → ¬ (vs k).Ends) ∨
      r = gaveUp ∧ ∀ k, k < limit → vs k = .again := by
  constructor
  · intro h
    by_cases hsome : ∃ k, k < limit ∧ (vs k).Ends
    · left
      obtain ⟨n, hn, ⟨r', hr'⟩, hfirst⟩ := exists_first hsome
      have hend : after limit gaveUp vs limit = .ended r' :=
        after_of_le (after_first hfirst hn hr') hn
      rw [h] at hend
      cases hend
      exact ⟨n, hn, hr', hfirst⟩
    · right
      have hnone : ∀ k, k < limit → ¬ (vs k).Ends := fun k hk hends => hsome ⟨k, hk, hends⟩
      have hall : ∀ k, k < limit → vs k = .again := by
        intro k hk
        cases hv : vs k with
        | ends r => exact absurd ⟨r, hv⟩ (hnone k hk)
        | again => rfl
        | uncounted =>
          have hat : ∃ i, i < limit ∧ after limit gaveUp vs limit = .trying i :=
            after_of_uncounted hnone hk hv (Nat.le_refl _)
          obtain ⟨i, -, hat⟩ := hat
          rw [h] at hat
          cases hat
      rw [after_of_again hall, enter, if_neg (Nat.lt_irrefl _)] at h
      cases h
      exact ⟨rfl, hall⟩
  · intro h
    rcases h with ⟨n, hn, hr, hfirst⟩ | ⟨rfl, hall⟩
    · exact after_of_le (after_first hfirst hn hr) hn
    · rw [after_of_again hall, enter, if_neg (Nat.lt_irrefl _)]

end Attempts

end IviLink.Lib
