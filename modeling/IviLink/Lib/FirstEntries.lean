import Mathlib.Data.List.Sort

/-!
# Maps into which entries are inserted in turn

Inserting leaves an entry alone whose key is there already. So of a list of entries that are
inserted one after the other, the map has those before which there is none with the same key;
in the order of the keys. An entry that comes or goes changes nothing else.
-/

namespace IviLink.Lib

variable {κ ν : Type*}

/-- The entries before which there is none with the same key. -/
def firsts [DecidableEq κ] : List (κ × ν) → List (κ × ν)
  | [] => []
  | e :: l => e :: (firsts l).filter fun e' => e'.1 ≠ e.1

/-- The map after the entries have been inserted. -/
def insertAll (cmp : κ → κ → Ordering) (l : List (κ × ν)) : Std.TreeMap κ ν cmp :=
  l.foldl (fun m e => m.insertIfNew e.1 e.2) ∅

section firsts

variable [DecidableEq κ] {l : List (κ × ν)} {e : κ × ν}

theorem mem_firsts : e ∈ firsts l ↔ l.find? (fun e' => e'.1 = e.1) = some e := by
  induction l with
  | nil => simp [firsts]
  | cons e' l ih =>
    rw [firsts, List.mem_cons, List.mem_filter, ih]
    by_cases hkey : e'.1 = e.1
    · rw [List.find?_cons_of_pos (by simpa using hkey), Option.some.injEq]
      constructor
      · intro h
        rcases h with rfl | ⟨-, hne⟩
        · rfl
        · exact absurd hkey.symm (by simpa using hne)
      · intro h
        exact Or.inl h.symm
    · rw [List.find?_cons_of_neg (by simpa using hkey)]
      constructor
      · intro h
        rcases h with rfl | ⟨hfind, -⟩
        · exact absurd rfl hkey
        · exact hfind
      · intro h
        exact Or.inr ⟨h, by simpa using fun h' => hkey h'.symm⟩

theorem mem_of_mem_firsts (h : e ∈ firsts l) : e ∈ l := List.mem_of_find?_eq_some (mem_firsts.mp h)

theorem pairwise_firsts : (firsts l).Pairwise fun e e' => e.1 ≠ e'.1 := by
  induction l with
  | nil => exact .nil
  | cons e l ih =>
    refine List.pairwise_cons.mpr ⟨?_, ih.filter _⟩
    intro e' he'
    have hne := (List.mem_filter.mp he').2
    exact fun h => absurd h.symm (by simpa using hne)

/-- Where no key comes again, all entries are first ones. -/
theorem firsts_eq_self (h : l.Pairwise fun e e' => e.1 ≠ e'.1) : firsts l = l := by
  induction l with
  | nil => rfl
  | cons e l ih =>
    obtain ⟨he, hl⟩ := List.pairwise_cons.mp h
    rw [firsts, ih hl, List.filter_eq_self.mpr fun e' he' => by simpa using (he e' he').symm]

end firsts

/-! ## The entries of a map -/

section entries

variable {cmp : κ → κ → Ordering} [Std.TransCmp cmp] [Std.LawfulEqCmp cmp]
  {m : Std.TreeMap κ ν cmp} {k : κ} {v : ν}

theorem nodup_toList (m : Std.TreeMap κ ν cmp) : m.toList.Nodup := by
  refine Std.TreeMap.distinct_keys_toList.imp fun {e e'} h heq => h ?_
  have hcmp : cmp e'.1 e'.1 = .eq := Std.ReflCmp.compare_self
  rw [heq, hcmp]

/-- Of two maps that differ at one key, the one with the entry has the entries of the other one
and this one. -/
theorem toList_perm_cons {m' : Std.TreeMap κ ν cmp} (h : m[k]? = none) (h' : m'[k]? = some v)
    (hother : ∀ k', k ≠ k' → m'[k']? = m[k']?) : m'.toList.Perm ((k, v) :: m.toList) := by
  refine (List.perm_ext_iff_of_nodup (nodup_toList m') ?_).mpr ?_
  · refine List.nodup_cons.mpr ⟨?_, nodup_toList m⟩
    intro hmem
    rw [Std.TreeMap.mem_toList_iff_getElem?_eq_some, h] at hmem
    cases hmem
  · intro e
    obtain ⟨k', v'⟩ := e
    rw [List.mem_cons, Std.TreeMap.mem_toList_iff_getElem?_eq_some,
      Std.TreeMap.mem_toList_iff_getElem?_eq_some, Prod.mk.injEq]
    by_cases hk : k = k'
    · subst hk
      rw [h', h]
      simp [eq_comm]
    · rw [hother k' hk]
      simp [Ne.symm hk]

/-- **A new entry comes** to the others. -/
theorem toList_insert_perm (h : k ∉ m) : (m.insert k v).toList.Perm ((k, v) :: m.toList) := by
  refine toList_perm_cons (Std.TreeMap.getElem?_eq_none h) Std.TreeMap.getElem?_insert_self ?_
  intro k' hk
  rw [Std.TreeMap.getElem?_insert, if_neg fun h => hk (Std.LawfulEqCmp.eq_of_compare h)]

/-- An entry that comes with a key beyond all others is the last one. -/
theorem toList_insert_last (h : ∀ e ∈ m.toList, cmp e.1 k = .lt) :
    (m.insert k v).toList = m.toList ++ [(k, v)] := by
  have hnot : k ∉ m := by
    intro hmem
    obtain ⟨v', hv'⟩ := Option.isSome_iff_exists.mp (Std.TreeMap.isSome_getElem?_iff_mem.mpr hmem)
    have hlt := h (k, v') (Std.TreeMap.mem_toList_iff_getElem?_eq_some.mpr hv')
    have heq : cmp k k = .eq := Std.ReflCmp.compare_self
    rw [heq] at hlt
    cases hlt
  have hlast : (m.toList ++ [(k, v)]).Pairwise fun a b => cmp a.1 b.1 = .lt := by
    refine List.pairwise_append.mpr
      ⟨Std.TreeMap.ordered_keys_toList, List.pairwise_singleton _ _, ?_⟩
    intro e he e' he'
    rw [List.mem_singleton.mp he']
    exact h e he
  refine List.Perm.eq_of_pairwise ?_ Std.TreeMap.ordered_keys_toList hlast
    ((toList_insert_perm hnot).trans (List.perm_append_singleton _ _).symm)
  intro a b _ _ hab hba
  exact absurd hba (Std.OrientedCmp.not_lt_of_lt hab)

/-- An entry that is put in the place of itself. -/
theorem toList_insert_same (h : m[k]? = some v) : (m.insert k v).toList = m.toList := by
  refine Std.TreeMap.Equiv.toList_eq (Std.TreeMap.Equiv.of_forall_constGet?_eq fun k' => ?_)
  rw [Std.TreeMap.getElem?_insert]
  split
  · rename_i heq
    rw [← Std.LawfulEqCmp.eq_of_compare heq, h]
  · rfl

/-- **An entry is taken** from the others. -/
theorem toList_perm_erase (h : m[k]? = some v) : m.toList.Perm ((k, v) :: (m.erase k).toList) := by
  refine toList_perm_cons Std.TreeMap.getElem?_erase_self h ?_
  intro k' hk
  rw [Std.TreeMap.getElem?_erase, if_neg fun h => hk (Std.LawfulEqCmp.eq_of_compare h)]

/-- **The first entry** of a kind: those with smaller keys are of another one. -/
theorem find?_toList_iff {p : κ × ν → Bool} : m.toList.find? p = some (k, v) ↔
    m[k]? = some v ∧ p (k, v) = true ∧
      ∀ k' v', m[k']? = some v' → cmp k' k = .lt → p (k', v') = false := by
  rw [← Std.TreeMap.mem_toList_iff_getElem?_eq_some]
  constructor
  · intro h
    obtain ⟨hp, before, after, hl, hbefore⟩ := List.find?_eq_some_iff_append.mp h
    refine ⟨List.mem_of_find?_eq_some h, hp, ?_⟩
    intro k' v' hk' hlt
    have hmem := Std.TreeMap.mem_toList_iff_getElem?_eq_some.mpr hk'
    have hordered : m.toList.Pairwise fun a b => cmp a.1 b.1 = .lt :=
      Std.TreeMap.ordered_keys_toList
    rw [hl] at hmem hordered
    rcases List.mem_append.mp hmem with hmem | hmem
    · simpa using hbefore _ hmem
    rcases List.mem_cons.mp hmem with heq | hmem
    · cases heq
      exact absurd hlt (by simp [Std.ReflCmp.compare_self])
    · have hgt := (List.pairwise_cons.mp (List.pairwise_append.mp hordered).2.1).1 _ hmem
      exact absurd hgt (Std.OrientedCmp.not_lt_of_lt hlt)
  · intro ⟨hmem, hp, hfirst⟩
    obtain ⟨before, after, hl⟩ := List.append_of_mem hmem
    refine List.find?_eq_some_iff_append.mpr ⟨hp, before, after, hl, ?_⟩
    intro e he
    have hordered : m.toList.Pairwise fun a b => cmp a.1 b.1 = .lt :=
      Std.TreeMap.ordered_keys_toList
    have hin : e ∈ m.toList := hl ▸ List.mem_append_left _ he
    rw [hl] at hordered
    have hlt := (List.pairwise_append.mp hordered).2.2 e he (k, v) List.mem_cons_self
    simp [hfirst e.1 e.2 (Std.TreeMap.mem_toList_iff_getElem?_eq_some.mp hin) hlt]

omit [Std.LawfulEqCmp cmp] in
/-- An entry that takes the place of another one leaves as many. -/
theorem length_toList_insert (h : k ∈ m) : (m.insert k v).toList.length = m.toList.length := by
  rw [Std.TreeMap.length_toList, Std.TreeMap.length_toList, Std.TreeMap.size_insert,
    if_pos (Std.TreeMap.contains_iff_mem.mpr h)]

end entries

section insertAll

variable {cmp : κ → κ → Ordering} [Std.TransCmp cmp] [Std.LawfulEqCmp cmp] [DecidableEq κ]
  {l : List (κ × ν)}

/-- Inserting more entries changes nothing for the keys that are there. -/
theorem getElem?_foldl_insertIfNew (m : Std.TreeMap κ ν cmp) (k : κ) :
    (l.foldl (fun m e => m.insertIfNew e.1 e.2) m)[k]? =
      m[k]?.or ((l.find? fun e => e.1 = k).map Prod.snd) := by
  induction l generalizing m with
  | nil => simp
  | cons e l ih =>
    rw [List.foldl_cons, ih, Std.TreeMap.getElem?_insertIfNew]
    by_cases hkey : e.1 = k
    · subst hkey
      have hcmp : cmp e.1 e.1 = .eq := Std.ReflCmp.compare_self
      rw [List.find?_cons_of_pos (by simp)]
      by_cases hmem : e.1 ∈ m
      · obtain ⟨v, hv⟩ := Option.isSome_iff_exists.mp (Std.TreeMap.isSome_getElem?_iff_mem.mpr hmem)
        rw [if_neg fun h => h.2 hmem, hv, Option.some_or, Option.some_or]
      · rw [if_pos ⟨hcmp, hmem⟩, Std.TreeMap.getElem?_eq_none hmem, Option.some_or, Option.none_or]
        rfl
    · have hcmp : ¬ (cmp e.1 k = .eq ∧ e.1 ∉ m) :=
        fun h => hkey (Std.LawfulEqCmp.eq_of_compare h.1)
      rw [List.find?_cons_of_neg (by simpa using hkey), if_neg hcmp]

theorem mem_toList_insertAll {e : κ × ν} : e ∈ (insertAll cmp l).toList ↔ e ∈ firsts l := by
  obtain ⟨k, v⟩ := e
  rw [mem_firsts, Std.TreeMap.mem_toList_iff_getElem?_eq_some, insertAll,
    getElem?_foldl_insertIfNew, Std.TreeMap.getElem?_emptyc, Option.none_or, Option.map_eq_some_iff]
  constructor
  · intro ⟨e, hfind, hv⟩
    have hk : e.1 = k := by simpa using List.find?_some hfind
    rw [hfind, ← hk, ← hv]
  · intro hfind
    exact ⟨(k, v), hfind, rfl⟩

/-- **The map has the first entries**, in the order of their keys. -/
theorem toList_insertAll_perm : (insertAll cmp l).toList.Perm (firsts l) := by
  refine (List.perm_ext_iff_of_nodup (nodup_toList _) ?_).mpr fun e => mem_toList_insertAll
  exact pairwise_firsts.imp fun h heq => h (congrArg Prod.fst heq)

/-- Entries that are in the order of their keys make the map of which they are the entries. -/
theorem toList_insertAll_of_ordered (h : l.Pairwise fun e e' => cmp e.1 e'.1 = .lt) :
    (insertAll cmp l).toList = l := by
  have hkeys : l.Pairwise fun e e' => e.1 ≠ e'.1 := by
    refine h.imp fun {e e'} hlt heq => ?_
    have hself : cmp e'.1 e'.1 = .eq := Std.ReflCmp.compare_self
    rw [heq, hself] at hlt
    cases hlt
  have hperm : (insertAll cmp l).toList.Perm l := by
    have hfirsts : (insertAll cmp l).toList.Perm (firsts l) := toList_insertAll_perm
    rwa [firsts_eq_self hkeys] at hfirsts
  refine List.Perm.eq_of_pairwise ?_ Std.TreeMap.ordered_keys_toList h hperm
  intro a b _ _ hab hba
  exact absurd hba (Std.OrientedCmp.not_lt_of_lt hab)

end insertAll

end IviLink.Lib
