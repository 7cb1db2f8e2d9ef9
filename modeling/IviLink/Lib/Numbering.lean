import Mathlib.Data.List.Chain
import Mathlib.Data.List.Nodup
import Mathlib.Tactic.Ring

/-!
# Running numbers

Sequences that are numbered in a 32-bit counter: each number is one more than the
one before, and after the greatest comes 0. As long as the counter has not gone
round, no number comes twice. A sequence may start anew when some key, which never
goes down, goes up; then each stretch with one key is such a sequence.
-/

namespace IviLink.Lib

/-- Each number is one more than the one before. -/
def Consecutive (ns : List UInt32) : Prop := ns.IsChain fun m n => n = m + 1

/-- Numbers that run from 1 on without a gap. -/
def FromOne (ns : List UInt32) : Prop :=
  ns = (List.range ns.length).map fun n => UInt32.ofNat (n + 1)

theorem fromOne_nil : FromOne [] := rfl

theorem FromOne.append {ns : List UInt32} (h : FromOne ns) :
    FromOne (ns ++ [UInt32.ofNat (ns.length + 1)]) := by
  rw [FromOne, List.length_append, List.length_singleton, List.range_succ, List.map_append, ← h,
    List.map_singleton]

theorem FromOne.prefix {ns ms : List UInt32} (h : FromOne (ns ++ ms)) : FromOne ns := by
  have htake := congrArg (List.take ns.length) h
  rw [List.take_left, ← List.map_take, List.take_range, List.length_append,
    Nat.min_eq_left (Nat.le_add_right _ _)] at htake
  exact htake

theorem ofNat_inj {i j : Nat} (hi : i < 2 ^ 32) (hj : j < 2 ^ 32)
    (h : UInt32.ofNat i = UInt32.ofNat j) : i = j := by
  have hnat := congrArg UInt32.toNat h
  rwa [UInt32.toNat_ofNat', UInt32.toNat_ofNat', Nat.mod_eq_of_lt hi, Nat.mod_eq_of_lt hj] at hnat

/-- What number stands where. -/
theorem Consecutive.eq_range {n : UInt32} {ns : List UInt32} (h : Consecutive (n :: ns)) :
    n :: ns = (List.range (ns.length + 1)).map fun i => n + UInt32.ofNat i := by
  induction ns generalizing n with
  | nil => simp
  | cons m ns ih =>
    obtain ⟨hm, htail⟩ := List.isChain_cons_cons.mp h
    rw [List.length_cons, List.range_succ_eq_map (n := ns.length + 1), List.map_cons, List.map_map,
      ih htail, hm]
    congr 1
    · simp
    · refine List.map_congr_left fun i _ => ?_
      rw [Function.comp_apply, Nat.succ_eq_add_one, UInt32.ofNat_add, UInt32.add_comm (.ofNat i),
        UInt32.add_assoc]
      rfl

/-- **A counter that has not gone round gives no number twice.** -/
theorem Consecutive.nodup {ns : List UInt32} (h : Consecutive ns) (hlen : ns.length ≤ 2 ^ 32) :
    ns.Nodup := by
  cases ns with
  | nil => exact List.nodup_nil
  | cons n ns =>
    rw [h.eq_range]
    refine List.Nodup.map_on (fun i hi j hj heq => ?_) List.nodup_range
    rw [List.length_cons] at hlen
    have hi' := List.mem_range.mp hi
    have hj' := List.mem_range.mp hj
    exact ofNat_inj (by omega) (by omega) (UInt32.add_right_inj n |>.mp heq)

theorem FromOne.nodup {ns : List UInt32} (h : FromOne ns) (hlen : ns.length < 2 ^ 32) :
    ns.Nodup := by
  rw [h]
  refine List.Nodup.map_on (fun i hi j hj heq => ?_) List.nodup_range
  have hi' := List.mem_range.mp hi
  have hj' := List.mem_range.mp hj
  have := ofNat_inj (by omega) (by omega) heq
  omega

/-- **The next number is the next element.** In a list numbered from 1, an element that has the
number after those of an initial part comes right behind that part. -/
theorem FromOne.next {α : Type*} {f : α → UInt32} {pre l : List α} {x : α}
    (h : FromOne (l.map f)) (hlen : l.length < 2 ^ 32) (hpre : pre <+: l) (hx : x ∈ l)
    (hn : f x = UInt32.ofNat pre.length + 1) : pre ++ [x] <+: l := by
  obtain ⟨j, hj, hget⟩ := List.mem_iff_getElem.mp hx
  have hnumber : f x = UInt32.ofNat (j + 1) := by
    have hjth := congrArg (fun ns : List UInt32 => ns[j]?) h
    rw [← hget]
    simpa [hj] using hjth
  obtain ⟨rest, rfl⟩ := hpre
  have hnat := congrArg UInt32.toNat (hnumber.symm.trans hn)
  rw [← UInt32.ofNat_one, ← UInt32.ofNat_add, UInt32.toNat_ofNat', UInt32.toNat_ofNat'] at hnat
  rw [List.length_append] at hlen hj
  obtain rfl : j = pre.length := by omega
  rw [List.getElem_append_right (Nat.le_refl _)] at hget
  cases rest with
  | nil => exact absurd hj (by simp)
  | cons y rest =>
    have hy : y = x := by simpa using hget
    exact ⟨rest, by rw [hy, List.append_assoc]; rfl⟩

/-- A relation that may start anew when a key goes up holds within every stretch of one key. -/
theorem isChain_filter_key {α : Type*} (key : α → Nat) {R : α → α → Prop} (k : Nat) :
    ∀ {l : List α}, l.IsChain (fun a b => key a < key b ∨ key a = key b ∧ R a b) →
      (l.filter fun a => key a = k).IsChain R
  | [], _ => List.isChain_nil
  | a :: l, h => by
      obtain ⟨hhead, htail⟩ := List.isChain_cons.mp h
      have ih := isChain_filter_key key k htail
      by_cases ha : key a = k
      · rw [List.filter_cons_of_pos (by simpa using ha)]
        refine List.isChain_cons.mpr ⟨fun b hb => ?_, ih⟩
        cases l with
        | nil => exact absurd hb (by simp)
        | cons c l =>
          rcases hhead c rfl with hlt | ⟨heq, hR⟩
          · -- the keys from here on are all too great
            have hmono : (c :: l).Pairwise fun a b => key a ≤ key b := by
              refine (htail.imp (S := fun a b => key a ≤ key b) fun a b hab => ?_).pairwise
              rcases hab with hab | ⟨hab, -⟩ <;> omega
            have hb' := List.mem_of_mem_head? hb
            obtain ⟨hmem, hkey⟩ := List.mem_filter.mp hb'
            have hkey' : key b = k := by simpa using hkey
            rcases List.mem_cons.mp hmem with rfl | hmem
            · omega
            · have := (List.pairwise_cons.mp hmono).1 b hmem
              omega
          · rw [List.filter_cons_of_pos (by simpa using heq.symm.trans ha)] at hb
            obtain rfl : c = b := Option.some.inj hb
            exact hR
      · rw [List.filter_cons_of_neg (by simpa using ha)]
        exact ih

end IviLink.Lib
