import IviLink.Lib.Bytes
import Mathlib.Logic.Function.Basic

/-!
# Arrays on a heap, and who owns them

Byte arrays that are allocated, written and freed. An access to an array that is
not there, or beyond its end, leaves a mark on the heap. Addresses are not given
out twice, so an address stands for one allocation.

Owners hold handles, and a handle may have an address. What a program without
leaks, dangling pointers and double frees keeps is `Owned`: each array has one
owner, and what a handle points to is there.
-/

namespace IviLink.Lib

structure Heap where
  /-- The first address that was not given out. -/
  next : Nat
  cell : Nat → Option (List UInt8)
  /-- An access went wrong. -/
  fault : Bool

namespace Heap

/-- A heap nobody has used yet. -/
def empty : Heap := ⟨0, fun _ => none, false⟩

/-- `new`, which returns the address `next`. -/
def alloc (m : Heap) (init : List UInt8) : Heap :=
  { m with next := m.next + 1, cell := Function.update m.cell m.next (some init) }

/-- `delete[]` -/
def free (m : Heap) (a : Nat) : Heap :=
  match m.cell a with
  | none => { m with fault := true }
  | some _ => { m with cell := Function.update m.cell a none }

/-- The first `n` bytes behind a pointer are read. -/
def touch (m : Heap) (p : Option Nat) (n : Nat) : Heap :=
  match p.bind m.cell with
  | none => { m with fault := true }
  | some arr => if n ≤ arr.length then m else { m with fault := true }

/-- `bytes` are stored behind a pointer, from `off` on. -/
def write (m : Heap) (p : Option Nat) (off : Nat) (bytes : List UInt8) : Heap :=
  match p with
  | none => { m with fault := true }
  | some a =>
    match m.cell a with
    | none => { m with fault := true }
    | some arr =>
      if off + bytes.length ≤ arr.length then
        { m with cell := Function.update m.cell a (some (writeAt arr off bytes)) }
      else { m with fault := true }

section Accesses

variable {m : Heap} {a : Nat} {arr bytes : List UInt8} {off n : Nat}

theorem free_eq (h : m.cell a = some arr) :
    m.free a = { m with cell := Function.update m.cell a none } := by
  unfold free
  simp only [h]

theorem touch_eq (h : m.cell a = some arr) (hn : n ≤ arr.length) : m.touch (some a) n = m := by
  unfold touch
  simp only [Option.bind_some, h, if_pos hn]

theorem write_eq (h : m.cell a = some arr) (hfits : off + bytes.length ≤ arr.length) :
    m.write (some a) off bytes =
      { m with cell := Function.update m.cell a (some (writeAt arr off bytes)) } := by
  unfold write
  simp only [h, if_pos hfits]

theorem cell_alloc_of_ne {init : List UInt8} (h : a ≠ m.next) :
    (m.alloc init).cell a = m.cell a :=
  Function.update_of_ne h ..

theorem cell_free_of_ne {a' : Nat} (h : a ≠ a') : (m.free a').cell a = m.cell a := by
  unfold free
  cases m.cell a' with
  | none => rfl
  | some arr => exact Function.update_of_ne h ..

theorem cell_write_of_ne {a' : Nat} (h : a ≠ a') :
    (m.write (some a') off bytes).cell a = m.cell a := by
  simp only [write]
  split
  · rfl
  · split
    · exact Function.update_of_ne h ..
    · rfl

end Accesses

/-! ## Owners -/

section Owned

variable {ι β : Type*} {addr : β → Option Nat} {ok : β → List UInt8 → Prop}
  {m m' : Heap} {holds : ι → Option β} {i j : ι} {b c : β} {a : Nat} {arr bytes : List UInt8}

/-- Nothing went wrong, every array has one owner, and behind every address that an owner holds
there is an array that fits the handle. -/
structure Owned (addr : β → Option Nat) (ok : β → List UInt8 → Prop) (m : Heap)
    (holds : ι → Option β) : Prop where
  clean : m.fault = false
  fresh : ∀ a, m.next ≤ a → m.cell a = none
  live : ∀ i b a, holds i = some b → addr b = some a → ∃ arr, m.cell a = some arr ∧ ok b arr
  owner : ∀ a, m.cell a ≠ none → ∃ i b, holds i = some b ∧ addr b = some a
  unique : ∀ i j b c a, holds i = some b → holds j = some c → addr b = some a →
    addr c = some a → i = j

theorem owned_empty : Owned addr ok empty (fun _ : ι => none) where
  clean := rfl
  fresh := fun _ _ => rfl
  live := fun _ _ _ h => absurd h (by simp)
  owner := fun _ h => absurd rfl h
  unique := fun _ _ _ _ _ h => absurd h (by simp)

/-- The arrays of two owners are two arrays. -/
theorem Owned.ne (h : Owned addr ok m holds) (hij : i ≠ j) (hi : holds i = some b)
    (hj : holds j = some c) {a' : Nat} (ha : addr b = some a) (ha' : addr c = some a') :
    a ≠ a' := by
  rintro rfl
  exact hij (h.unique i j b c a hi hj ha ha')

variable [DecidableEq ι]

/-- **The rule for one owner.** It may get another handle and its array may be changed, freed or
replaced by a new one, as long as the other arrays stay as they are. -/
theorem Owned.set (h : Owned addr ok m holds) (new : Option β) (hclean : m'.fault = false)
    (hfresh : ∀ a, m'.next ≤ a → m'.cell a = none)
    (hframe : ∀ a, (∀ b, holds i = some b → addr b ≠ some a) →
      (∀ b, new = some b → addr b ≠ some a) → m'.cell a = m.cell a)
    (hnew : ∀ b a, new = some b → addr b = some a →
      ((∃ c, holds i = some c ∧ addr c = some a) ∨ m.cell a = none) ∧
        ∃ arr, m'.cell a = some arr ∧ ok b arr)
    (hold : ∀ b a, holds i = some b → addr b = some a → (∀ c, new = some c → addr c ≠ some a) →
      m'.cell a = none) :
    Owned addr ok m' (Function.update holds i new) := by
  -- what another owner holds is none of the arrays that the step is about
  have hother : ∀ j b a, j ≠ i → holds j = some b → addr b = some a →
      (∀ c, holds i = some c → addr c ≠ some a) ∧ ∀ c, new = some c → addr c ≠ some a := by
    intro j b a hji hb ha
    have holdi : ∀ c, holds i = some c → addr c ≠ some a :=
      fun c hc hca => hji (h.unique j i b c a hb hc ha hca)
    refine ⟨holdi, ?_⟩
    intro c hc hca
    obtain ⟨hmine | hfree, -⟩ := hnew c a hc hca
    · obtain ⟨d, hd, hda⟩ := hmine
      exact holdi d hd hda
    · obtain ⟨arr, harr, -⟩ := h.live j b a hb ha
      exact absurd (hfree.symm.trans harr) (by simp)
  refine ⟨hclean, hfresh, ?_, ?_, ?_⟩
  · intro j b a hb ha
    by_cases hji : j = i
    · subst hji
      rw [Function.update_self] at hb
      exact (hnew b a hb ha).2
    · rw [Function.update_of_ne hji] at hb
      obtain ⟨holdi, hnewi⟩ := hother j b a hji hb ha
      rw [hframe a holdi hnewi]
      exact h.live j b a hb ha
  · intro a ha
    by_cases hnewa : ∃ b, new = some b ∧ addr b = some a
    · obtain ⟨b, hb, hba⟩ := hnewa
      exact ⟨i, b, by rw [Function.update_self]; exact hb, hba⟩
    · push Not at hnewa
      by_cases holda : ∃ b, holds i = some b ∧ addr b = some a
      · obtain ⟨b, hb, hba⟩ := holda
        exact absurd (hold b a hb hba hnewa) ha
      · push Not at holda
        rw [hframe a holda hnewa] at ha
        obtain ⟨j, b, hb, hba⟩ := h.owner a ha
        have hji : j ≠ i := by
          rintro rfl
          exact holda b hb hba
        exact ⟨j, b, by rwa [Function.update_of_ne hji], hba⟩
  · intro j k b c a hb hc hba hca
    by_cases hji : j = i
    · by_cases hki : k = i
      · rw [hji, hki]
      · subst hji
        rw [Function.update_self] at hb
        rw [Function.update_of_ne hki] at hc
        exact absurd hba ((hother k c a hki hc hca).2 b hb)
    · rw [Function.update_of_ne hji] at hb
      by_cases hki : k = i
      · subst hki
        rw [Function.update_self] at hc
        exact absurd hca ((hother j b a hji hb hba).2 c hc)
      · rw [Function.update_of_ne hki] at hc
        exact h.unique j k b c a hb hc hba hca

/-- An owner without an array gets a new one. -/
theorem Owned.alloc (h : Owned addr ok m holds) (hi : ∀ b, holds i = some b → addr b = none)
    (haddr : addr c = some m.next) (hok : ok c arr) :
    Owned addr ok (m.alloc arr) (Function.update holds i (some c)) := by
  refine h.set (some c) h.clean ?_ ?_ ?_ ?_
  · intro a ha
    have hlt : m.next + 1 ≤ a := ha
    have hne : a ≠ m.next := by omega
    exact (Function.update_of_ne hne ..).trans (h.fresh a (by omega))
  · intro a _ hne
    refine Function.update_of_ne ?_ ..
    rintro rfl
    exact hne c rfl haddr
  · intro b a hb ha
    obtain rfl := Option.some.inj hb
    obtain rfl := Option.some.inj (haddr.symm.trans ha)
    exact ⟨Or.inr (h.fresh _ (Nat.le_refl _)), arr, Function.update_self .., hok⟩
  · intro b a hb ha
    rw [hi b hb] at ha
    cases ha

/-- An owner frees its array, and keeps nothing or a handle without an address. -/
theorem Owned.free (h : Owned addr ok m holds) (hi : holds i = some b) (ha : addr b = some a)
    (new : Option β) (hnew : ∀ c, new = some c → addr c = none) :
    Owned addr ok (m.free a) (Function.update holds i new) := by
  obtain ⟨arr, harr, -⟩ := h.live i b a hi ha
  rw [free_eq harr]
  refine h.set new h.clean ?_ ?_ ?_ ?_
  · intro x hx
    by_cases hxa : x = a
    · rw [hxa]
      exact Function.update_self ..
    · exact (Function.update_of_ne hxa ..).trans (h.fresh x hx)
  · intro x hx _
    refine Function.update_of_ne ?_ ..
    rintro rfl
    exact hx b hi ha
  · intro c x hc hx
    rw [hnew c hc] at hx
    cases hx
  · intro c x hc hx _
    obtain rfl := Option.some.inj (hi.symm.trans hc)
    obtain rfl := Option.some.inj (ha.symm.trans hx)
    exact Function.update_self ..

/-- An owner writes to its array. -/
theorem Owned.write (h : Owned addr ok m holds) (hi : holds i = some b) (ha : addr b = some a)
    (harr : m.cell a = some arr) {off : Nat} (hfits : off + bytes.length ≤ arr.length)
    (hca : addr c = some a) (hok : ok c (writeAt arr off bytes)) :
    Owned addr ok (m.write (some a) off bytes) (Function.update holds i (some c)) := by
  rw [write_eq harr hfits]
  refine h.set (some c) h.clean ?_ ?_ ?_ ?_
  · intro x hx
    have hxa : x ≠ a := by
      rintro rfl
      exact absurd ((h.fresh x hx).symm.trans harr) (by simp)
    exact (Function.update_of_ne hxa ..).trans (h.fresh x hx)
  · intro x hx _
    refine Function.update_of_ne ?_ ..
    rintro rfl
    exact hx b hi ha
  · intro d x hd hx
    obtain rfl := Option.some.inj hd
    obtain rfl := Option.some.inj (hca.symm.trans hx)
    exact ⟨Or.inl ⟨b, hi, ha⟩, writeAt arr off bytes, Function.update_self .., hok⟩
  · intro d x hd hx hnone
    obtain rfl := Option.some.inj (hi.symm.trans hd)
    obtain rfl := Option.some.inj (ha.symm.trans hx)
    exact absurd hca (hnone c rfl)

/-- An owner hands its array to another one that has none. -/
theorem Owned.move (h : Owned addr ok m holds) (hij : i ≠ j) (hi : holds i = some b)
    (hj : ∀ c, holds j = some c → addr c = none) (new : Option β)
    (hnew : ∀ c, new = some c → addr c = none) :
    Owned addr ok m (Function.update (Function.update holds i new) j (some b)) := by
  -- who holds an array afterwards held it before, the receiver aside
  have hback : ∀ k c a, Function.update (Function.update holds i new) j (some b) k = some c →
      addr c = some a → (k = j ∧ c = b) ∨ (k ≠ j ∧ k ≠ i ∧ holds k = some c) := by
    intro k c a hc ha
    by_cases hkj : k = j
    · subst hkj
      rw [Function.update_self] at hc
      exact Or.inl ⟨rfl, (Option.some.inj hc).symm⟩
    · rw [Function.update_of_ne hkj] at hc
      by_cases hki : k = i
      · subst hki
        rw [Function.update_self] at hc
        rw [hnew c hc] at ha
        cases ha
      · rw [Function.update_of_ne hki] at hc
        exact Or.inr ⟨hkj, hki, hc⟩
  refine ⟨h.clean, h.fresh, ?_, ?_, ?_⟩
  · intro k c a hc ha
    rcases hback k c a hc ha with ⟨-, rfl⟩ | ⟨-, -, hc⟩
    · exact h.live i _ a hi ha
    · exact h.live k c a hc ha
  · intro a ha
    obtain ⟨k, c, hc, hca⟩ := h.owner a ha
    by_cases hki : k = i
    · subst hki
      obtain rfl := Option.some.inj (hi.symm.trans hc)
      exact ⟨j, _, Function.update_self .., hca⟩
    · have hkj : k ≠ j := by
        rintro rfl
        rw [hj c hc] at hca
        cases hca
      exact ⟨k, c, by rwa [Function.update_of_ne hkj, Function.update_of_ne hki], hca⟩
  · intro k l c d a hc hd hca hda
    rcases hback k c a hc hca with ⟨rfl, rfl⟩ | ⟨-, hki, hc'⟩
    · rcases hback l d a hd hda with ⟨rfl, -⟩ | ⟨-, hli, hd'⟩
      · rfl
      · exact absurd (h.unique l i d _ a hd' hi hda hca) hli
    · rcases hback l d a hd hda with ⟨rfl, rfl⟩ | ⟨-, -, hd'⟩
      · exact absurd (h.unique k i c _ a hc' hi hca hda) hki
      · exact h.unique k l c d a hc' hd' hca hda

end Owned

end Heap

end IviLink.Lib
