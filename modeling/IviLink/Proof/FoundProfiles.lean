import IviLink.ProfileManager.ProfileDatabase

/-!
# Which profiles are found

`findProfiles` collects the profiles in a map by their relevance, which has room for one profile
of each relevance: of several, the first one is found. Every profile with libraries for one
platform has one whose relevance is 100.
-/

namespace IviLink.ProfileManager.Repository.PmpCore

open IviLink.Lib

/-- The list has the profiles that are looked for, each of them once, by decreasing relevance. -/
structure Finds (c : PmpCore) (id : Uid) (profileParameters : List (List Char × List Char))
    (enabledProfiles : Bool) (profiles : List Uid) : Prop where
  complete : ∀ uid, uid ∈ profiles ↔
    ∃ it ∈ c.mProfiles, Fits id enabledProfiles it ∧ it.uid = uid
  once : profiles.Nodup
  /-- The relevance of each is that of one of its libraries. -/
  ordered : ∃ entries : List (Int × Uid), entries.map Prod.snd = profiles ∧
    entries.Pairwise (fun e e' => e'.1 ≤ e.1) ∧
    ∀ e ∈ entries, ∃ it ∈ c.mProfiles, Fits id enabledProfiles it ∧ it.uid = e.2 ∧
      c.mRepository.getRelevance it.uid it.version profileParameters = e.1

variable {c : PmpCore} {id : Uid} {profileParameters : List (List Char × List Char)}
  {enabledProfiles : Bool}

theorem mem_fitting {e : Int × Uid} : e ∈ c.fitting id profileParameters enabledProfiles ↔
    ∃ it ∈ c.mProfiles, Fits id enabledProfiles it ∧ it.uid = e.2 ∧
      c.mRepository.getRelevance it.uid it.version profileParameters = e.1 := by
  obtain ⟨relevance, uid⟩ := e
  simp only [fitting, List.mem_map, List.mem_filter, decide_eq_true_eq, Prod.mk.injEq]
  constructor
  · intro ⟨it, ⟨hit, hfits⟩, hrelevance, huid⟩
    exact ⟨it, hit, hfits, huid, hrelevance⟩
  · intro ⟨it, hit, hfits, huid, hrelevance⟩
    exact ⟨it, ⟨hit, hfits⟩, hrelevance, huid⟩

/-- What is found are the profiles before which there is none of the same relevance. -/
theorem findProfiles_perm : (c.findProfiles id profileParameters enabledProfiles).Perm
    ((firsts (c.fitting id profileParameters enabledProfiles)).map Prod.snd) :=
  ((List.reverse_perm _).trans toList_insertAll_perm).map Prod.snd

theorem findProfiles_ordered : ∃ entries : List (Int × Uid),
    entries.map Prod.snd = c.findProfiles id profileParameters enabledProfiles ∧
    entries.Pairwise (fun e e' => e'.1 ≤ e.1) ∧
    ∀ e ∈ entries, e ∈ c.fitting id profileParameters enabledProfiles := by
  refine ⟨_, rfl, ?_, ?_⟩
  · rw [List.pairwise_reverse]
    refine Std.TreeMap.ordered_keys_toList.imp fun h => ?_
    exact Int.le_of_lt (compare_lt_iff_lt.mp h)
  · intro e he
    exact mem_of_mem_firsts (mem_toList_insertAll.mp (List.mem_reverse.mp he))

/-- **Every profile is found, and once**, exactly if each one that fits has a library before which
no profile has one of the same relevance, and only one such library. -/
theorem finds_iff :
    c.Finds id profileParameters enabledProfiles
        (c.findProfiles id profileParameters enabledProfiles) ↔
      (∀ e ∈ c.fitting id profileParameters enabledProfiles,
        ∃ e' ∈ firsts (c.fitting id profileParameters enabledProfiles), e'.2 = e.2) ∧
      ((firsts (c.fitting id profileParameters enabledProfiles)).map Prod.snd).Nodup := by
  have hperm : (c.findProfiles id profileParameters enabledProfiles).Perm
    ((firsts (c.fitting id profileParameters enabledProfiles)).map Prod.snd) := findProfiles_perm
  constructor
  · intro h
    refine ⟨fun e he => ?_, hperm.nodup_iff.mp h.once⟩
    obtain ⟨it, hit, hfits, huid, -⟩ := mem_fitting.mp he
    have hmem := (h.complete e.2).mpr ⟨it, hit, hfits, huid⟩
    obtain ⟨e', he', huid'⟩ := List.mem_map.mp (hperm.mem_iff.mp hmem)
    exact ⟨e', he', huid'⟩
  · intro ⟨hcomplete, hnodup⟩
    refine ⟨fun uid => ?_, hperm.nodup_iff.mpr hnodup, ?_⟩
    · constructor
      · intro hmem
        obtain ⟨e, he, huid⟩ := List.mem_map.mp (hperm.mem_iff.mp hmem)
        obtain ⟨it, hit, hfits, huid', -⟩ := mem_fitting.mp (mem_of_mem_firsts he)
        exact ⟨it, hit, hfits, huid'.trans huid⟩
      · intro ⟨it, hit, hfits, huid⟩
        have he : (c.mRepository.getRelevance it.uid it.version profileParameters, it.uid) ∈
            c.fitting id profileParameters enabledProfiles :=
          mem_fitting.mpr ⟨it, hit, hfits, rfl, rfl⟩
        obtain ⟨e', he', huid'⟩ := hcomplete _ he
        exact hperm.mem_iff.mpr (List.mem_map.mpr ⟨e', he', huid'.trans huid⟩)
    · have hlist : ∃ entries : List (Int × Uid),
          entries.map Prod.snd = c.findProfiles id profileParameters enabledProfiles ∧
          entries.Pairwise (fun e e' => e'.1 ≤ e.1) ∧
          ∀ e ∈ entries, e ∈ c.fitting id profileParameters enabledProfiles :=
        findProfiles_ordered
      obtain ⟨entries, hmap, hordered, hfitting⟩ := hlist
      exact ⟨entries, hmap, hordered, fun e he => mem_fitting.mp (hfitting e he)⟩

/-- Two profiles of one API, with a library each. -/
def twoProfiles : PmpCore :=
  reloadProfilesFromRepository ⟨((∅ : Std.TreeMap Uid ProfileInfo).insertIfNew ['b']
    ⟨['b'], ['a'], ['d'], [⟨1, [], []⟩]⟩).insertIfNew ['c']
    ⟨['c'], ['a'], ['e'], [⟨1, [], []⟩]⟩⟩ []

theorem one_of_two_found : twoProfiles.findProfiles ['a'] [] false = [['b']] ∧
    ∃ it ∈ twoProfiles.mProfiles, Fits ['a'] false it ∧ it.uid = ['c'] := by
  decide +kernel

end IviLink.ProfileManager.Repository.PmpCore
