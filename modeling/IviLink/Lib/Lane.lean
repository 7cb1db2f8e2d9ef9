import Mathlib.Data.List.Basic

/-!
# Kinds of events in one queue

A queue holds events of several kinds. For each kind it is counted how many of them have
come: those that are in the queue, and those that have been handled. What is put into
the queue, and what is taken from it, concerns one kind, and leaves the others as they are.
-/

namespace IviLink.Lib

variable {α : Type*}

/-- Of the events of the kind `p` that came, `done` have been handled, and the others are in the
queue; these meet `ok`. -/
structure Lane (p : α → Bool) (ok : α → Prop) (events : List α) (done came : Nat) : Prop where
  count : events.countP p + done = came
  each : ∀ e ∈ events, p e = true → ok e

namespace Lane

variable {p : α → Bool} {ok ok' : α → Prop} {events rest : List α} {done came : Nat} {e : α}

theorem nil : Lane p ok [] 0 0 := ⟨rfl, fun _ h => absurd h List.not_mem_nil⟩

/-- Another kind of event comes. -/
theorem push_other (h : Lane p ok events done came) (hp : p e = false) :
    Lane p ok (events ++ [e]) done came := by
  have hnot : ¬ p e = true := fun htrue => Bool.false_ne_true (hp.symm.trans htrue)
  refine ⟨?_, ?_⟩
  · rw [List.countP_append, List.countP_cons_of_neg hnot, List.countP_nil, Nat.add_zero]
    exact h.count
  · intro e' hmem hpe
    rcases List.mem_append.mp hmem with hmem | hmem
    · exact h.each e' hmem hpe
    · rw [List.mem_singleton.mp hmem] at hpe
      exact absurd hpe hnot

theorem push (h : Lane p ok events done came) (hp : p e = true) (hok : ok e) :
    Lane p ok (events ++ [e]) done (came + 1) := by
  refine ⟨?_, ?_⟩
  · have := h.count
    rw [List.countP_append, List.countP_cons_of_pos hp, List.countP_nil]
    omega
  · intro e' hmem hpe
    rcases List.mem_append.mp hmem with hmem | hmem
    · exact h.each e' hmem hpe
    · exact List.mem_singleton.mp hmem ▸ hok

/-- Another kind of event is handled. -/
theorem pop_other (h : Lane p ok (e :: rest) done came) (hp : p e = false) :
    Lane p ok rest done came := by
  have hnot : ¬ p e = true := fun htrue => Bool.false_ne_true (hp.symm.trans htrue)
  refine ⟨?_, fun e' hmem => h.each e' (List.mem_cons_of_mem _ hmem)⟩
  rw [← h.count, List.countP_cons_of_neg hnot]

theorem pop (h : Lane p ok (e :: rest) done came) (hp : p e = true) :
    Lane p ok rest (done + 1) came ∧ ok e ∧ done < came := by
  have hcount := h.count
  rw [List.countP_cons_of_pos hp] at hcount
  refine ⟨⟨by omega, fun e' hmem => h.each e' (List.mem_cons_of_mem _ hmem)⟩,
    h.each e List.mem_cons_self hp, by omega⟩

theorem imp (h : Lane p ok events done came) (hok : ∀ e, ok e → ok' e) :
    Lane p ok' events done came :=
  ⟨h.count, fun e hmem hpe => hok e (h.each e hmem hpe)⟩

/-- No event of the kind has come, so that anything may be asked of those in the queue. -/
theorem of_none (h : Lane p ok events done 0) : Lane p ok' events done 0 := by
  refine ⟨h.count, ?_⟩
  intro e hmem hpe
  have hpos : 0 < events.countP p := List.countP_pos_iff.mpr ⟨e, hmem, hpe⟩
  have := h.count
  omega

theorem done_le (h : Lane p ok events done came) : done ≤ came := h.count ▸ Nat.le_add_left _ _

end Lane

end IviLink.Lib
