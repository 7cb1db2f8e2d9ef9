import Mathlib.Data.List.TakeWhile

/-!
# Strings that end at a terminator

A string in memory goes on until the first terminator, wherever the buffer ends that it starts in.
So it belongs to the buffer only if a terminator does (`forall_read_iff`).
-/

namespace IviLink.Lib

variable {α : Type*} [DecidableEq α] {t : α} {buf : List α}

/-- The string at the start of a memory. -/
def cString (t : α) (memory : List α) : List α := memory.takeWhile fun c => c ≠ t

theorem not_mem_cString : t ∉ cString t buf := by
  intro h
  simpa using List.mem_takeWhile_imp h

@[simp] theorem cString_cons_self (rest : List α) : cString t (t :: rest) = [] :=
  List.takeWhile_cons_of_neg (by simp)

/-- Without a terminator the string goes on behind the buffer. -/
theorem cString_append (h : t ∉ buf) (rest : List α) :
    cString t (buf ++ rest) = buf ++ cString t rest := by
  rw [cString, List.takeWhile_append_of_pos]
  · rfl
  · intro c hc
    exact decide_eq_true fun heq => h (heq ▸ hc)

theorem cString_terminated (h : t ∉ buf) (rest : List α) : cString t (buf ++ t :: rest) = buf := by
  rw [cString_append h, cString_cons_self, List.append_nil]

theorem cString_append_of_mem (h : t ∈ buf) (rest : List α) :
    cString t (buf ++ rest) = cString t buf := by
  obtain ⟨front, back, rfl, hfront⟩ := List.eq_append_cons_of_mem h
  rw [List.append_assoc, List.cons_append, cString_terminated hfront, cString_terminated hfront]

theorem cString_eq_self : cString t buf = buf ↔ t ∉ buf := by
  constructor
  · intro h
    rw [← h]
    exact not_mem_cString
  · intro h
    rw [← List.append_nil buf, cString_append h]
    rfl

/-- **What is decoded from a string is a matter of its buffer, however the string is read, exactly
if the buffer has a terminator.** The decoder may be any that is not constant. -/
theorem forall_read_iff {D E : Type*} {f : D → E} {c : α} (hc : c ≠ t) {d d' : D}
    (hd : f d ≠ f d') (buf : List α) :
    (∀ (read : List α → D) (rest rest' : List α),
        f (read (cString t (buf ++ rest))) = f (read (cString t (buf ++ rest'))))
      ↔ t ∈ buf := by
  constructor
  · intro hsame
    by_contra hbuf
    have hlonger : t ∉ buf ++ [c] := by simp [hbuf, Ne.symm hc]
    -- One more character before the terminator, and a reader that looks for it.
    have h := hsame (fun text => if text = buf then d else d') [t] [c, t]
    rw [cString_terminated hbuf, ← List.singleton_append, ← List.append_assoc,
      cString_terminated hlonger, if_pos rfl, if_neg (by simp)] at h
    exact hd h
  · intro hbuf read rest rest'
    rw [cString_append_of_mem hbuf, cString_append_of_mem hbuf]

end IviLink.Lib
