import Mathlib.Data.List.Basic

/-!
# Lists in pieces

A list cut every `n` elements: what a transport with a limit on what it carries at
once makes of a message. Nothing is lost (`flatten_pieces`), and a sequence of
messages is still recognisable as such exactly when none of them had to be cut
(`flatMap_pieces_eq_self_iff`).

Lists that several writers put into one log piece by piece lie in it one behind the
other (`Whole`) only as long as nobody writes while another's list is begun.
-/

namespace IviLink.Lib

variable {α : Type*}

/-- The list in pieces of `n` elements, the last of which may be shorter. A list that fits is one
piece, and so is any list if `n` is 0. -/
def pieces (n : Nat) (l : List α) : List (List α) :=
  if _h : 0 < n ∧ n < l.length then l.take n :: pieces n (l.drop n) else [l]
termination_by l.length
decreasing_by
  rw [List.length_drop]
  omega

theorem pieces_of_le {n : Nat} {l : List α} (h : l.length ≤ n) : pieces n l = [l] := by
  unfold pieces
  rw [dif_neg (by omega)]

theorem pieces_of_lt {n : Nat} {l : List α} (hn : 0 < n) (h : n < l.length) :
    pieces n l = l.take n :: pieces n (l.drop n) := by
  rw [pieces, dif_pos ⟨hn, h⟩]

theorem length_pieces_pos (n : Nat) (l : List α) : 0 < (pieces n l).length := by
  unfold pieces
  split
  all_goals exact Nat.succ_pos _

/-- Nothing is lost and nothing comes out of order. -/
theorem flatten_pieces (n : Nat) (l : List α) : (pieces n l).flatten = l := by
  induction l using pieces.induct n with
  | case1 l h ih =>
    rw [pieces_of_lt h.1 h.2, List.flatten_cons, ih, List.take_append_drop]
  | case2 l h =>
    rw [pieces, dif_neg h, List.flatten_singleton]

/-- There is something in every piece of what is not empty. -/
theorem ne_nil_of_mem_pieces {n : Nat} {l x : List α} (hl : l ≠ []) (hx : x ∈ pieces n l) :
    x ≠ [] := by
  induction l using pieces.induct n with
  | case1 l h ih =>
    rw [pieces_of_lt h.1 h.2] at hx
    rcases List.mem_cons.mp hx with rfl | hx
    · refine List.ne_nil_of_length_pos ?_
      rw [List.length_take]
      omega
    · refine ih ?_ hx
      refine List.ne_nil_of_length_pos ?_
      rw [List.length_drop]
      omega
  | case2 l h =>
    rw [pieces, dif_neg h] at hx
    rw [List.mem_singleton.mp hx]
    exact hl

/-- **A list is in one piece exactly when it fits.** -/
theorem length_pieces_eq_one_iff {n : Nat} (hn : 0 < n) (l : List α) :
    (pieces n l).length = 1 ↔ l.length ≤ n := by
  constructor
  · intro hone
    by_contra hlong
    rw [pieces_of_lt hn (by omega), List.length_cons] at hone
    have := length_pieces_pos n (l.drop n)
    omega
  · intro hle
    rw [pieces_of_le hle]
    rfl

theorem length_le_flatMap_pieces (n : Nat) (ls : List (List α)) :
    ls.length ≤ (ls.flatMap (pieces n)).length := by
  induction ls with
  | nil => exact Nat.le_refl _
  | cons l ls ih =>
    have := length_pieces_pos n l
    rw [List.flatMap_cons, List.length_append, List.length_cons]
    omega

/-- The elements of some lists are those of their pieces. -/
theorem flatten_flatMap_pieces (n : Nat) (ls : List (List α)) :
    (ls.flatMap (pieces n)).flatten = ls.flatten := by
  induction ls with
  | nil => rfl
  | cons l ls ih =>
    rw [List.flatMap_cons, List.flatten_append, flatten_pieces, ih, List.flatten_cons]

/-- **Messages come out as they went in exactly when each of them fits.** -/
theorem flatMap_pieces_eq_self_iff {n : Nat} (hn : 0 < n) (ls : List (List α)) :
    ls.flatMap (pieces n) = ls ↔ ∀ l ∈ ls, l.length ≤ n := by
  constructor
  · intro h
    have hlen := congrArg List.length h
    clear h
    induction ls with
    | nil => exact fun l hl => absurd hl (by simp)
    | cons l ls ih =>
      -- no message has less than one piece, so none has more
      have hl := length_pieces_pos n l
      have hls := length_le_flatMap_pieces n ls
      rw [List.flatMap_cons, List.length_append, List.length_cons] at hlen
      intro x hx
      rcases List.mem_cons.mp hx with rfl | hx
      · exact (length_pieces_eq_one_iff hn x).mp (by omega)
      · exact ih (by omega) x hx
  · intro h
    induction ls with
    | nil => rfl
    | cons l ls ih =>
      rw [List.flatMap_cons, pieces_of_le (h l List.mem_cons_self),
        ih fun x hx => h x (List.mem_cons_of_mem _ hx)]
      rfl

/-! ## What was kept of a sequence -/

/-- The lists that are marked. -/
def kept (xs : List (List α × Bool)) : List (List α) := (xs.filter Prod.snd).map Prod.fst

@[simp] theorem kept_nil : kept ([] : List (List α × Bool)) = [] := rfl

@[simp] theorem kept_append (xs ys : List (List α × Bool)) :
    kept (xs ++ ys) = kept xs ++ kept ys := by
  unfold kept
  rw [List.filter_append, List.map_append]

theorem kept_cons_true (l : List α) (xs : List (List α × Bool)) :
    kept ((l, true) :: xs) = l :: kept xs := rfl

theorem kept_cons_false (l : List α) (xs : List (List α × Bool)) :
    kept ((l, false) :: xs) = kept xs := rfl

theorem kept_of_all {xs : List (List α × Bool)} (h : ∀ x ∈ xs, x.2 = true) :
    kept xs = xs.map Prod.fst := by
  unfold kept
  rw [List.filter_eq_self.mpr h]

theorem length_kept_le (xs : List (List α × Bool)) :
    (kept xs).flatten.length ≤ (xs.map Prod.fst).flatten.length := by
  induction xs with
  | nil => exact Nat.le_refl _
  | cons x xs ih =>
    obtain ⟨l, b⟩ := x
    cases b with
    | true =>
      simp only [kept_cons_true, List.map_cons, List.flatten_cons, List.length_append]
      omega
    | false =>
      simp only [kept_cons_false, List.map_cons, List.flatten_cons, List.length_append]
      omega

/-- **All elements are there only if every list was kept**, none of them being empty. -/
theorem all_of_length_kept {xs : List (List α × Bool)} (hne : ∀ x ∈ xs, x.1 ≠ [])
    (h : (kept xs).flatten.length = (xs.map Prod.fst).flatten.length) :
    ∀ x ∈ xs, x.2 = true := by
  induction xs with
  | nil => exact fun x hx => absurd hx (by simp)
  | cons x xs ih =>
    obtain ⟨l, b⟩ := x
    have hrest := length_kept_le xs
    cases b with
    | true =>
      simp only [kept_cons_true, List.map_cons, List.flatten_cons, List.length_append] at h
      intro y hy
      rcases List.mem_cons.mp hy with rfl | hy
      · rfl
      · exact ih (fun z hz => hne z (List.mem_cons_of_mem _ hz)) (by omega) y hy
    | false =>
      -- the elements of this one are missing
      have hpos : 0 < l.length := List.length_pos_of_ne_nil (hne (l, false) List.mem_cons_self)
      simp only [kept_cons_false, List.map_cons, List.flatten_cons, List.length_append] at h
      omega

/-! ## Lists that are written into one log

Every writer puts its list into the log piece by piece. Whether the log holds one list behind the
other depends on when each of them writes. -/

section Whole

variable {κ : Type*} {block : κ → List α} {log : List (κ × α)} {k k' : κ} {l : List α}

/-- A piece as it stands in the log, with the name of its writer. -/
def marked (k : κ) (l : List α) : List (κ × α) := l.map (Prod.mk k)

@[simp] theorem marked_nil (k : κ) : marked k ([] : List α) = [] := rfl

theorem marked_append (k : κ) (l l' : List α) : marked k (l ++ l') = marked k l ++ marked k l' :=
  List.map_append

theorem map_snd_marked (k : κ) (l : List α) : (marked k l).map Prod.snd = l := by
  rw [marked, List.map_map]
  exact List.map_id l

/-- Some lists, one behind the other. -/
def laid (block : κ → List α) (order : List κ) : List (κ × α) :=
  order.flatMap fun k => marked k (block k)

theorem laid_cons (k : κ) (order : List κ) :
    laid block (k :: order) = marked k (block k) ++ laid block order :=
  List.flatMap_cons

theorem laid_append (order order' : List κ) :
    laid block (order ++ order') = laid block order ++ laid block order' :=
  List.flatMap_append

theorem laid_snoc (order : List κ) (k : κ) :
    laid block (order ++ [k]) = laid block order ++ marked k (block k) := by
  rw [laid_append, laid_cons]
  exact congrArg _ (List.append_nil _)

theorem map_snd_laid (order : List κ) : (laid block order).map Prod.snd = order.flatMap block := by
  rw [laid, List.map_flatMap]
  exact List.flatMap_congr fun k _ => map_snd_marked k (block k)

/-- The log holds one list behind the other, none of them twice; the last one may be incomplete. -/
def Whole (block : κ → List α) (log : List (κ × α)) : Prop :=
  ∃ order : List κ, order.Nodup ∧ log <+: laid block order

theorem Whole.of_append {log' : List (κ × α)} (h : Whole block (log ++ log')) :
    Whole block log := by
  obtain ⟨order, hnodup, hlaid⟩ := h
  exact ⟨order, hnodup, (List.prefix_append log log').trans hlaid⟩

variable [DecidableEq κ]

/-- What one writer has put into the log. -/
def part (k : κ) (log : List (κ × α)) : List α := (log.filter fun e => e.1 = k).map Prod.snd

theorem part_append (k : κ) (log log' : List (κ × α)) :
    part k (log ++ log') = part k log ++ part k log' := by
  rw [part, List.filter_append, List.map_append]
  rfl

@[simp] theorem part_marked (k : κ) (l : List α) : part k (marked k l) = l := by
  have hall : (marked k l).filter (fun e => e.1 = k) = marked k l := by
    refine List.filter_eq_self.mpr ?_
    intro e he
    obtain ⟨x, -, rfl⟩ := List.mem_map.mp he
    exact decide_eq_true rfl
  rw [part, hall, map_snd_marked]

theorem part_marked_of_ne (h : k' ≠ k) (l : List α) : part k' (marked k l) = [] := by
  have hnone : (marked k l).filter (fun e => e.1 = k') = [] := by
    refine List.filter_eq_nil_iff.mpr ?_
    intro e he
    obtain ⟨x, -, rfl⟩ := List.mem_map.mp he
    exact fun heq => h (of_decide_eq_true heq).symm
  rw [part, hnone]
  rfl

theorem part_laid_of_not_mem {order : List κ} (h : k ∉ order) : part k (laid block order) = [] := by
  induction order with
  | nil => rfl
  | cons c order ih =>
    obtain ⟨hne, hmem⟩ := List.ne_and_not_mem_of_not_mem_cons h
    rw [laid_cons, part_append, part_marked_of_ne hne, ih hmem]
    rfl

theorem part_laid_of_mem {order : List κ} (hnodup : order.Nodup) (h : k ∈ order) :
    part k (laid block order) = block k := by
  induction order with
  | nil => exact absurd h List.not_mem_nil
  | cons c order ih =>
    obtain ⟨hc, hnodup⟩ := List.nodup_cons.mp hnodup
    rw [laid_cons, part_append]
    rcases List.mem_cons.mp h with rfl | h
    · rw [part_marked, part_laid_of_not_mem hc, List.append_nil]
    · have hne : k ≠ c := fun heq => hc (heq ▸ h)
      rw [part_marked_of_ne hne, ih hnodup h]
      rfl

theorem part_ne_nil_iff : part k log ≠ [] ↔ ∃ e ∈ log, e.1 = k := by
  rw [part, ne_eq, List.map_eq_nil_iff, List.filter_eq_nil_iff]
  simp

/-- A prefix has no more from a writer than the log. -/
theorem part_of_prefix {log' : List (κ × α)} (h : log <+: log') : part k log <+: part k log' := by
  obtain ⟨rest, rfl⟩ := h
  exact ⟨part k rest, (part_append k log rest).symm⟩

/-- **What comes behind a list comes behind all of it.** -/
theorem part_eq_of_laid {order : List κ} (hnodup : order.Nodup) {x : α} {rest : List (κ × α)}
    (h : log ++ (k, x) :: rest <+: laid block order) (hne : k' ≠ k) (hpart : part k' log ≠ []) :
    part k' log = block k' := by
  induction order generalizing log with
  | nil =>
    have hnil := List.append_eq_nil_iff.mp (List.prefix_nil.mp h)
    exact absurd hnil.2 (List.cons_ne_nil _ _)
  | cons c order ih =>
    obtain ⟨hc, hnodup⟩ := List.nodup_cons.mp hnodup
    rw [laid_cons] at h
    have hlog := (List.prefix_append log _).trans h
    rcases List.prefix_or_prefix_of_prefix hlog (List.prefix_append _ (laid block order)) with
      hshort | ⟨log', rfl⟩
    · obtain ⟨m, hm⟩ := hshort
      rw [← hm, List.append_assoc] at h
      have hrest := (List.prefix_append_right_inj log).mp h
      cases m with
      | nil =>
        -- the first list is complete, and nothing follows it yet
        rw [List.append_nil] at hm
        rw [hm] at hpart ⊢
        by_cases hk : k' = c
        · rw [hk, part_marked]
        · exact absurd (part_marked_of_ne hk _) hpart
      | cons y m =>
        -- within a list there is nothing of another one
        have hy : y ∈ marked c (block c) := hm ▸ List.mem_append_right log List.mem_cons_self
        obtain ⟨z, -, rfl⟩ := List.mem_map.mp hy
        have hkc : k = c := congrArg Prod.fst (List.cons_prefix_cons.mp hrest).1
        have hnone := part_of_prefix (k := k') ⟨_, hm⟩
        rw [part_marked_of_ne (hkc ▸ hne)] at hnone
        exact absurd (List.prefix_nil.mp hnone) hpart
    · rw [List.append_assoc] at h
      have hrest := (List.prefix_append_right_inj _).mp h
      rw [part_append] at hpart ⊢
      by_cases hk : k' = c
      · subst hk
        have hnone := part_of_prefix (k := k') ((List.prefix_append log' _).trans hrest)
        rw [part_laid_of_not_mem hc] at hnone
        rw [part_marked, List.prefix_nil.mp hnone, List.append_nil]
      · rw [part_marked_of_ne hk, List.nil_append] at hpart ⊢
        exact ih hnodup hrest hpart

/-- A log stays whole only if nobody writes before the lists that others have begun are complete. -/
theorem Whole.complete (h : Whole block (log ++ marked k l)) (hl : l ≠ []) (hne : k' ≠ k)
    (hpart : part k' log ≠ []) : part k' log = block k' := by
  obtain ⟨order, hnodup, hlaid⟩ := h
  obtain ⟨x, l, rfl⟩ := List.exists_cons_of_ne_nil hl
  exact part_eq_of_laid hnodup hlaid hne hpart

/-- The lists `done` lie one behind the other, and behind them a part of one more at most. -/
def Stacked (block : κ → List α) (done : List κ) (log : List (κ × α)) : Prop :=
  done.Nodup ∧ (log = laid block done ∨ ∃ k l, k ∉ done ∧ log = laid block done ++ marked k l ∧
    l ≠ [] ∧ l <+: block k ∧ l ≠ block k)

omit [DecidableEq κ] in
theorem stacked_nil : Stacked block [] [] := ⟨List.nodup_nil, .inl rfl⟩

namespace Stacked

variable {done : List κ}

omit [DecidableEq κ] in
theorem nodup_snoc (h : Stacked block done log) (hk : k ∉ done) : (done ++ [k]).Nodup := by
  refine List.nodup_append.mpr ⟨h.1, List.pairwise_singleton _ k, ?_⟩
  intro c hc c' hc' heq
  rw [List.mem_singleton.mp hc'] at heq
  exact hk (heq ▸ hc)

omit [DecidableEq κ] in
theorem whole (h : Stacked block done log) : Whole block log := by
  obtain ⟨hnodup, rfl | ⟨k, l, hk, rfl, -, ⟨rest, hrest⟩, -⟩⟩ := id h
  · exact ⟨done, hnodup, List.prefix_rfl⟩
  · refine ⟨done ++ [k], h.nodup_snoc hk, ?_⟩
    rw [laid_snoc, ← hrest, marked_append, ← List.append_assoc]
    exact List.prefix_append _ _

/-- If the others are complete, the log ends with what one writer has put into it. -/
theorem eq_of_others (h : Stacked block done log) (hk : part k log ≠ block k)
    (hothers : ∀ k', k' ≠ k → part k' log ≠ [] → part k' log = block k') :
    k ∉ done ∧ log = laid block done ++ marked k (part k log) := by
  obtain ⟨hnodup, rfl | ⟨c, m, hc, rfl, hm, -, hproper⟩⟩ := h
  · have hmem : k ∉ done := fun hmem => hk (part_laid_of_mem hnodup hmem)
    refine ⟨hmem, ?_⟩
    rw [part_laid_of_not_mem hmem, marked_nil, List.append_nil]
  · have hpart : part c (laid block done ++ marked c m) = m := by
      rw [part_append, part_laid_of_not_mem hc, part_marked, List.nil_append]
    by_cases hkc : c = k
    · subst hkc
      rw [hpart]
      exact ⟨hc, rfl⟩
    · have hcomplete := hothers c hkc (hpart.symm ▸ hm)
      exact absurd (hpart.symm.trans hcomplete) hproper

/-- **A piece is added to a list where no other one is begun.** -/
theorem add (h : Stacked block done log) (hl : l ≠ []) (hnext : part k log ++ l <+: block k)
    (hproper : part k log ++ l ≠ block k)
    (hothers : ∀ k', k' ≠ k → part k' log ≠ [] → part k' log = block k') :
    Stacked block done (log ++ marked k l) := by
  have hk : part k log ≠ block k := by
    intro hk
    have hle := hnext.length_le
    have hpos := List.length_pos_of_ne_nil hl
    rw [hk, List.length_append] at hle
    omega
  obtain ⟨hmem, hlog⟩ := h.eq_of_others hk hothers
  refine ⟨h.1, .inr ⟨k, part k log ++ l, hmem, ?_, by simp [hl], hnext, hproper⟩⟩
  rw [marked_append, ← List.append_assoc, ← hlog]

/-- **The last piece of a list.** -/
theorem finish (h : Stacked block done log) (hl : l ≠ []) (hlast : part k log ++ l = block k)
    (hothers : ∀ k', k' ≠ k → part k' log ≠ [] → part k' log = block k') :
    Stacked block (done ++ [k]) (log ++ marked k l) := by
  have hk : part k log ≠ block k := by
    rw [← hlast]
    simpa using hl
  obtain ⟨hmem, hlog⟩ := h.eq_of_others hk hothers
  refine ⟨h.nodup_snoc hmem, .inl ?_⟩
  rw [laid_snoc, ← hlast, marked_append, ← List.append_assoc, ← hlog]

theorem part_of_mem (h : Stacked block done log) (hk : k ∈ done) : part k log = block k := by
  obtain ⟨hnodup, rfl | ⟨c, l, hc, rfl, -, -, -⟩⟩ := h
  · exact part_laid_of_mem hnodup hk
  · have hne : k ≠ c := fun heq => hc (heq ▸ hk)
    rw [part_append, part_laid_of_mem hnodup hk, part_marked_of_ne hne, List.append_nil]

end Stacked

end Whole

end IviLink.Lib
