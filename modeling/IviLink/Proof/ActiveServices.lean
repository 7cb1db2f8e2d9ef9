import IviLink.ServiceManager.CServiceManager

/-!
# Services that are active without a profile

`unload` keeps a service if some of its profiles wait to be unloaded, by the set of
unload requests. Nothing takes a profile out of that set: when the last locked
profile of a service is released, the service stays, without a profile, and cannot be
loaded again.

What each call does to the invariant is an equivalence of its own, and so is what a
run does (`active_iff`).
-/

namespace IviLink.ServiceManager

open IviLink.Lib

variable {manifests : Uid → Option Manifest} {m : CServiceManager} {s : CService} {t : ThreadId}
variable {service : Uid}

/-! ## Maps -/

theorem isEmpty_toList {β : Type} {map : Std.TreeMap Uid β} (h : map.isEmpty = true) :
    map.toList = [] := by
  rw [← Std.TreeMap.isEmpty_toList] at h
  exact List.isEmpty_iff.mp h

theorem isEmpty_eq_false {β : Type} {map : Std.TreeMap Uid β} :
    map.isEmpty = false ↔ ∃ key, key ∈ map := by
  rw [← Bool.not_eq_true, Std.TreeMap.isEmpty_iff_forall_not_mem, not_forall]
  simp only [not_not]

theorem mem_toList {β : Type} {map : Std.TreeMap Uid β} {key : Uid} {value : β} :
    (key, value) ∈ map.toList ↔ map[key]? = some value :=
  Std.TreeMap.mem_toList_iff_getElem?_eq_some

theorem mem_erase_keys {β : Type} {map : Std.TreeMap Uid β} (keys : List Uid) {key : Uid} :
    key ∈ keys.foldl (·.erase ·) map ↔ key ∈ map ∧ key ∉ keys := by
  induction keys generalizing map with
  | nil => simp
  | cons k keys ih =>
    rw [List.foldl_cons, ih, Std.TreeMap.mem_erase, List.mem_cons, not_or]
    constructor
    · rintro ⟨⟨hne, hmem⟩, hkeys⟩
      exact ⟨hmem, fun heq => hne (heq ▸ Std.ReflCmp.compare_self), hkeys⟩
    · rintro ⟨hmem, hne, hkeys⟩
      exact ⟨⟨fun heq => hne (Std.LawfulEqCmp.eq_of_compare heq).symm, hmem⟩, hkeys⟩

/-! ## Unloading a service -/

/-- What the first loop of `unload` leaves and what it lists. -/
structure Rounds (x : CService × List Uid) (its : List (Uid × Option ProfileHolder))
    (y : CService × List Uid) : Prop where
  keys : ∀ key, key ∈ y.1.mProfilesMap ↔ key ∈ x.1.mProfilesMap
  erased : ∀ key, key ∈ y.2 ↔
    key ∈ x.2 ∨ ∃ value, (key, value) ∈ its ∧ value.any ProfileHolder.isLocked = false
  requests : y.1.mUnloadRequests = [] ↔
    x.1.mUnloadRequests = [] ∧ ∀ it ∈ its, it.2.any ProfileHolder.isLocked = false

theorem insert_ne_nil (l : List Uid) (a : Uid) : l.insert a ≠ [] :=
  List.ne_nil_of_mem List.mem_insert_self

theorem unloadRound_ok (x : CService × List Uid) (key : Uid) (holder : ProfileHolder) :
    ∃ y, CService.unloadRound t x (key, some holder) = .ok y ∧ Rounds x [(key, some holder)] y := by
  unfold CService.unloadRound
  by_cases hlocked : holder.isLocked = true
  · refine ⟨_, if_pos hlocked, fun _ => Std.TreeMap.mem_modify, ?_, ?_⟩
    · intro key'
      constructor
      · exact Or.inl
      · rintro (hmem | ⟨value, hmem, hfree⟩)
        · exact hmem
        · cases List.mem_singleton.mp hmem
          exact absurd hlocked (Bool.eq_false_iff.mp hfree)
    · constructor
      · exact fun hnil => absurd hnil (insert_ne_nil _ _)
      · rintro ⟨-, hall⟩
        exact absurd hlocked (Bool.eq_false_iff.mp (hall _ (List.mem_singleton.mpr rfl)))
  · refine ⟨_, if_neg hlocked, fun _ => Iff.rfl, ?_, ?_⟩
    · intro key'
      rw [List.mem_append, List.mem_singleton]
      refine or_congr Iff.rfl ?_
      constructor
      · rintro rfl
        exact ⟨some holder, List.mem_singleton.mpr rfl, Bool.eq_false_iff.mpr hlocked⟩
      · rintro ⟨value, hmem, -⟩
        exact congrArg Prod.fst (List.mem_singleton.mp hmem)
    · refine ⟨fun hnil => ⟨hnil, ?_⟩, And.left⟩
      intro it hmem
      rw [List.mem_singleton.mp hmem]
      exact Bool.eq_false_iff.mpr hlocked

theorem Rounds.cons {x y z : CService × List Uid} {it : Uid × Option ProfileHolder}
    {its : List (Uid × Option ProfileHolder)} (h : Rounds x [it] y) (h' : Rounds y its z) :
    Rounds x (it :: its) z where
  keys := fun key => (h'.keys key).trans (h.keys key)
  erased := by
    intro key
    rw [h'.erased, h.erased]
    simp only [List.mem_cons, List.not_mem_nil, or_false, or_and_right, exists_or, or_assoc]
  requests := by
    rw [h'.requests, h.requests]
    simp only [List.mem_cons, List.not_mem_nil, or_false, forall_eq_or_imp, forall_eq, and_assoc]

theorem unloadRounds_ok (its : List (Uid × Option ProfileHolder)) (hall : ∀ it ∈ its, it.2 ≠ none)
    (x : CService × List Uid) :
    ∃ y, its.foldlM (CService.unloadRound t) x = .ok y ∧ Rounds x its y := by
  induction its generalizing x with
  | nil =>
    refine ⟨x, rfl, fun _ => Iff.rfl, ?_, ?_⟩
    · simp
    · simp
  | cons it its ih =>
    obtain ⟨key, value⟩ := it
    cases value with
    | none => exact absurd rfl (hall _ List.mem_cons_self)
    | some holder =>
      obtain ⟨y, hy, hround⟩ := unloadRound_ok x key holder
      obtain ⟨z, hz, hrounds⟩ := ih (fun it hit => hall it (List.mem_cons_of_mem _ hit)) y
      refine ⟨z, ?_, hround.cons hrounds⟩
      rw [List.foldlM_cons, hy]
      exact hz

theorem unloadRounds_error (its : List (Uid × Option ProfileHolder)) (hnull : ∃ it ∈ its, it.2 = none)
    (x : CService × List Uid) :
    its.foldlM (CService.unloadRound t) x = .error .nullDereferenced := by
  induction its generalizing x with
  | nil =>
    obtain ⟨_, hmem, _⟩ := hnull
    cases hmem
  | cons it its ih =>
    obtain ⟨key, value⟩ := it
    cases value with
    | none => rfl
    | some holder =>
      obtain ⟨y, hy, -⟩ := unloadRound_ok x key holder
      rw [List.foldlM_cons, hy]
      refine ih ?_ y
      obtain ⟨it, hmem, hnone⟩ := hnull
      rcases List.mem_cons.mp hmem with rfl | hmem
      · cases hnone
      · exact ⟨it, hmem, hnone⟩

/-- **`unload` of a service without a `NULL` leaves the locked profiles.** -/
theorem unload_ok (hall : ∀ it ∈ s.mProfilesMap.toList, it.2 ≠ none) :
    ∃ s', s.unload t = .ok s' ∧
      (s'.mProfilesMap.isEmpty = false ↔
        ∃ it ∈ s.mProfilesMap.toList, it.2.any ProfileHolder.isLocked = true) ∧
      (s'.mUnloadRequests = [] ↔ s.mUnloadRequests = [] ∧
        ∀ it ∈ s.mProfilesMap.toList, it.2.any ProfileHolder.isLocked = false) := by
  obtain ⟨y, hy, hrounds⟩ := unloadRounds_ok (t := t) s.mProfilesMap.toList hall (s, [])
  refine ⟨{ y.1 with mProfilesMap := y.2.foldl (·.erase ·) y.1.mProfilesMap }, ?_, ?_,
    hrounds.requests⟩
  · rw [CService.unload, hy]
  · rw [isEmpty_eq_false]
    have hmem : ∀ key, key ∈ s.mProfilesMap ↔ ∃ value, (key, value) ∈ s.mProfilesMap.toList := by
      intro key
      rw [Std.TreeMap.mem_iff_isSome_getElem?, Option.isSome_iff_exists]
      simp only [mem_toList]
    constructor
    · rintro ⟨key, hkey⟩
      obtain ⟨hkey, herased⟩ := (mem_erase_keys _).mp hkey
      obtain ⟨value, hvalue⟩ := (hmem key).mp ((hrounds.keys key).mp hkey)
      refine ⟨(key, value), hvalue, ?_⟩
      by_contra hfree
      exact herased ((hrounds.erased key).mpr (Or.inr ⟨value, hvalue, Bool.eq_false_iff.mpr hfree⟩))
    · rintro ⟨⟨key, value⟩, hvalue, hlocked⟩
      refine ⟨key, (mem_erase_keys _).mpr ⟨(hrounds.keys key).mpr ((hmem key).mpr ⟨_, hvalue⟩), ?_⟩⟩
      rw [hrounds.erased]
      rintro (hnil | ⟨value', hvalue', hfree⟩)
      · cases hnil
      · -- a key has one value
        have hsame : value' = value :=
          Option.some.inj ((mem_toList.mp hvalue').symm.trans (mem_toList.mp hvalue))
        rw [hsame, hlocked] at hfree
        cases hfree

theorem unload_error (hnull : ∃ it ∈ s.mProfilesMap.toList, it.2 = none) :
    s.unload t = .error .nullDereferenced := by
  rw [CService.unload, unloadRounds_error _ hnull]

theorem delete_ok (hall : ∀ it ∈ s.mProfilesMap.toList, it.2 ≠ none) : s.delete t = .ok () := by
  obtain ⟨s', hs', -⟩ := unload_ok (t := t) hall
  rw [CService.delete, hs']
  rfl

theorem delete_empty (h : s.mProfilesMap.isEmpty = true) : s.delete t = .ok () := by
  refine delete_ok ?_
  rw [isEmpty_toList h]
  exact fun _ hmem => absurd hmem List.not_mem_nil

theorem delete_error {key : Uid} (hnull : s.mProfilesMap[key]? = some none) :
    s.delete t = .error .nullDereferenced := by
  rw [CService.delete, unload_error ⟨(key, none), mem_toList.mpr hnull, rfl⟩]
  rfl

/-! ## The active services -/

theorem sound_ok : Sound (.ok m) ↔
    ∀ (service : Uid) (s : CService), m.mActiveServices[service]? = some s →
      s.mProfilesMap.isEmpty = false := by
  refine forall_congr' fun service => ?_
  unfold CServiceManager.profiles
  rw [Std.TreeMap.mem_iff_isSome_getElem?]
  cases m.mActiveServices[service]? with
  | none => simp
  | some s => simp

theorem Sound.isEmpty (h : Sound (.ok m)) (hs : m.mActiveServices[service]? = some s) :
    s.mProfilesMap.isEmpty = false :=
  sound_ok.mp h service s hs

theorem sound_setActive (h : Sound (.ok m)) :
    Sound (.ok (m.setActive service s)) ↔ s.mProfilesMap.isEmpty = false := by
  rw [sound_ok]
  constructor
  · intro hsound
    exact hsound service s Std.TreeMap.getElem?_insert_self
  · intro hempty service' s' hs'
    rw [CServiceManager.setActive, Std.TreeMap.getElem?_insert] at hs'
    split at hs'
    · exact Option.some.inj hs' ▸ hempty
    · exact h.isEmpty hs'

theorem sound_remove (h : Sound (.ok m)) (hempty : s.mProfilesMap.isEmpty = true) :
    Sound (m.remove t service s) := by
  rw [CServiceManager.remove, delete_empty hempty]
  refine sound_ok.mpr ?_
  intro service' s' hs'
  rw [Std.TreeMap.getElem?_erase] at hs'
  split at hs'
  · cases hs'
  · exact h.isEmpty hs'

theorem unloadFound_waits {s' : CService} (hs : s.unload t = .ok s')
    (hne : s'.mUnloadRequests ≠ []) :
    m.unloadFound t service s = .ok (m.setActive service s') := by
  rw [CServiceManager.unloadFound, hs]
  exact if_pos (decide_eq_true hne)

theorem unloadFound_removes {s' : CService} (hs : s.unload t = .ok s')
    (hnil : s'.mUnloadRequests = []) : m.unloadFound t service s = m.remove t service s' := by
  rw [CServiceManager.unloadFound, hs]
  exact if_neg (by simp [CService.hasUnloadWaits, hnil])

/-- **What `unload` does to a service.** -/
theorem sound_unloadFound (h : Sound (.ok m)) :
    Sound (m.unloadFound t service s) ↔ s.Unloadable := by
  unfold CService.Unloadable
  by_cases hall : ∀ it ∈ s.mProfilesMap.toList, it.2 ≠ none
  · obtain ⟨s', hs', hempty, hrequests⟩ := unload_ok (t := t) hall
    by_cases hlocked : ∃ it ∈ s.mProfilesMap.toList, it.2.any ProfileHolder.isLocked = true
    · -- it stays, with the profiles that are locked
      have hne : s'.mUnloadRequests ≠ [] := by
        intro hnil
        obtain ⟨it, hmem, hit⟩ := hlocked
        exact Bool.false_ne_true (((hrequests.mp hnil).2 it hmem).symm.trans hit)
      rw [unloadFound_waits hs' hne, sound_setActive h, hempty]
      exact ⟨fun _ => ⟨hall, fun _ => hlocked⟩, fun _ => hlocked⟩
    · have hempty' : s'.mProfilesMap.isEmpty = true := by
        rw [← Bool.not_eq_false, hempty]
        exact hlocked
      have hfree : ∀ it ∈ s.mProfilesMap.toList, it.2.any ProfileHolder.isLocked = false :=
        fun it hmem => Bool.eq_false_iff.mpr fun hit => hlocked ⟨it, hmem, hit⟩
      by_cases hnil : s.mUnloadRequests = []
      · rw [unloadFound_removes hs' (hrequests.mpr ⟨hnil, hfree⟩)]
        exact ⟨fun _ => ⟨hall, fun hne => absurd hnil hne⟩, fun _ => sound_remove h hempty'⟩
      · -- old requests keep it, without a profile
        rw [unloadFound_waits hs' fun hnil' => hnil (hrequests.mp hnil').1, sound_setActive h,
          hempty']
        exact ⟨fun hfalse => Bool.noConfusion hfalse, fun hunload => absurd (hunload.2 hnil) hlocked⟩
  · have hnull : ∃ it ∈ s.mProfilesMap.toList, it.2 = none := by
      simpa only [not_forall, not_not, exists_prop] using hall
    rw [CServiceManager.unloadFound, unload_error hnull]
    exact ⟨False.elim, fun hunload => absurd hunload.1 hall⟩

/-! ## Loading a service -/

theorem loadProfiles_null (cbMap : CallbacksMap) (pim : Nat → PimResult) (profiles : List Uid)
    {n : Nat} (hall : ∀ key : Uid, s.mProfilesMap[key]? ≠ some none) (key : Uid) :
    (CService.loadProfiles cbMap pim n profiles s).1.mProfilesMap[key]? ≠ some none := by
  induction profiles generalizing n s with
  | nil => exact hall key
  | cons api profiles ih =>
    unfold CService.loadProfiles
    split
    · exact hall key
    · split
      · exact hall key
      · exact hall key
      · split
        · exact hall key
        · split
          · exact hall key
          · refine ih fun key' => ?_
            rw [Std.TreeMap.getElem?_insert]
            split
            · exact fun heq => nomatch heq
            · exact hall key'

/-- Loading goes on with the next profile, or ends with an error. -/
theorem loadProfiles_cons {cbMap : CallbacksMap} {pim : Nat → PimResult} {n : Nat} {api : Uid}
    {profiles : List Uid} :
    (CService.loadProfiles cbMap pim n (api :: profiles) s).2 ≠ .noError ∨
      ∃ profile, CService.loadProfiles cbMap pim n (api :: profiles) s =
        CService.loadProfiles cbMap pim (n + 1) profiles
          { s with mProfilesMap := s.mProfilesMap.insert api (some profile) } := by
  rw [CService.loadProfiles]
  split
  · exact Or.inl fun heq => nomatch heq
  · split
    · exact Or.inl fun heq => nomatch heq
    · exact Or.inl fun heq => nomatch heq
    · split
      · exact Or.inl fun heq => nomatch heq
      · split
        · exact Or.inl fun heq => nomatch heq
        · exact Or.inr ⟨_, rfl⟩

theorem loadProfiles_ok {cbMap : CallbacksMap} {pim : Nat → PimResult} (profiles : List Uid)
    {n : Nat} (hok : (CService.loadProfiles cbMap pim n profiles s).2 = .noError) :
    (CService.loadProfiles cbMap pim n profiles s).1.mProfilesMap.isEmpty = false ↔
      profiles ≠ [] ∨ s.mProfilesMap.isEmpty = false := by
  induction profiles generalizing n s with
  | nil => simp [CService.loadProfiles]
  | cons api profiles ih =>
    rcases loadProfiles_cons (s := s) (n := n) with herror | ⟨profile, heq⟩
    · exact absurd hok herror
    · rw [heq] at hok ⊢
      rw [ih hok]
      simp [Std.TreeMap.isEmpty_insert]

/-! ## Expecting a service -/

theorem expectProfiles_null {cbMap : CallbacksMap} (profiles : List Uid) {key : Uid}
    (hnull : s.mProfilesMap[key]? = some none) :
    (CService.expectProfiles cbMap profiles s).1.mProfilesMap[key]? = some none := by
  induction profiles generalizing s with
  | nil => exact hnull
  | cons api profiles ih =>
    have hinsert : (s.mProfilesMap.insert api none)[key]? = some none := by
      rw [Std.TreeMap.getElem?_insert]
      split
      · rfl
      · exact hnull
    unfold CService.expectProfiles
    split
    · exact hnull
    · dsimp only
      split
      · exact hinsert
      · exact hinsert
      · exact ih hinsert

/-- It succeeds if there are callbacks for all profiles. -/
theorem expectProfiles_ok {cbMap : CallbacksMap} (profiles : List Uid) :
    (CService.expectProfiles cbMap profiles s).2 = true ↔ ∀ api ∈ profiles, HasCallbacks cbMap api := by
  induction profiles generalizing s with
  | nil => simp [CService.expectProfiles]
  | cons api profiles ih =>
    rw [List.forall_mem_cons]
    unfold CService.expectProfiles
    split
    · next hapi => exact ⟨fun heq => absurd heq Bool.false_ne_true, fun hall => absurd hapi hall.1.1⟩
    · next hapi =>
      dsimp only
      split
      · next hcb =>
        refine ⟨fun heq => absurd heq Bool.false_ne_true, ?_⟩
        rintro ⟨⟨-, callback, hcallback⟩, -⟩
        rw [hcb] at hcallback
        cases hcallback
      · next hcb =>
        refine ⟨fun heq => absurd heq Bool.false_ne_true, ?_⟩
        rintro ⟨⟨-, callback, hcallback⟩, -⟩
        rw [hcb] at hcallback
        cases hcallback
      · next callback hcb =>
        rw [ih]
        exact ⟨fun hall => ⟨⟨hapi, callback, hcb⟩, hall⟩, And.right⟩

/-- Where there is a profile with an api, the first one is expected whatever comes of it. -/
theorem expectProfiles_cons (cbMap : CallbacksMap) (profiles : List Uid) {api : Uid}
    (hapi : api ≠ "") :
    (CService.expectProfiles cbMap (api :: profiles) s).1.mProfilesMap[api]? = some none := by
  have hinsert : (s.mProfilesMap.insert api none)[api]? = some none :=
    Std.TreeMap.getElem?_insert_self
  rw [CService.expectProfiles, if_neg hapi]
  dsimp only
  split
  · exact hinsert
  · exact hinsert
  · exact expectProfiles_null profiles hinsert

theorem mem_of_getElem? {key : Uid} {value : Option ProfileHolder}
    (h : s.mProfilesMap[key]? = some value) : key ∈ s.mProfilesMap := by
  rw [Std.TreeMap.mem_iff_isSome_getElem?, h]
  rfl

theorem isEmpty_of_getElem? {key : Uid} {value : Option ProfileHolder}
    (h : s.mProfilesMap[key]? = some value) : s.mProfilesMap.isEmpty = false := by
  exact isEmpty_eq_false.mpr ⟨key, mem_of_getElem? h⟩

/-! ## New services -/

section New

variable {manifest : Option Manifest} {cbMap : CallbacksMap} {pim : Nat → PimResult}

theorem load_noError (h : ((CService.new service).load manifest cbMap pim).2 = .noError) :
    ((CService.new service).load manifest cbMap pim).1.mProfilesMap.isEmpty = false ↔
      ∀ doc, manifest = some doc → doc.profiles ≠ [] := by
  cases manifest with
  | none => cases h
  | some doc =>
    rw [CService.load] at h ⊢
    rw [loadProfiles_ok _ h]
    simp [CService.new]

theorem load_error (h : ((CService.new service).load manifest cbMap pim).2 ≠ .noError) :
    ((CService.new service).load manifest cbMap pim).1.delete t = .ok () ∧
      ∀ doc, manifest = some doc → doc.profiles ≠ [] := by
  cases manifest with
  | none => exact ⟨delete_empty Std.TreeMap.isEmpty_emptyc, fun _ hdoc => nomatch hdoc⟩
  | some doc =>
    constructor
    · have hnull := loadProfiles_null cbMap pim doc.profiles (n := 0)
        (s := { CService.new service with mPairUid := doc.pair })
        (fun key => by simp [CService.new])
      refine delete_ok ?_
      rintro ⟨key, value⟩ hmem rfl
      exact hnull key (mem_toList.mp hmem)
    · rintro doc' hdoc hnil
      cases hdoc
      refine h ?_
      rw [CService.load, hnil]
      rfl

theorem forall_some {doc : Manifest} {P : Manifest → Prop} :
    (∀ doc', some doc = some doc' → P doc') ↔ P doc :=
  ⟨fun h => h doc rfl, fun h _ heq => Option.some.inj heq ▸ h⟩

theorem incomingLoad_true (h : ((CService.new service).incomingLoad manifest cbMap).2 = true) :
    ((CService.new service).incomingLoad manifest cbMap).1.mProfilesMap.isEmpty = false ↔
      ∀ doc, manifest = some doc → doc.Expectable cbMap := by
  cases manifest with
  | none => cases h
  | some doc =>
    rw [CService.incomingLoad] at h ⊢
    rw [forall_some, Manifest.Expectable]
    have hall := (expectProfiles_ok doc.profiles).mp h
    generalize doc.profiles = profiles at hall
    cases profiles with
    | nil => simp [CService.expectProfiles, CService.new]
    | cons api profiles =>
      have hnull := expectProfiles_cons cbMap profiles (hall api List.mem_cons_self).1
        (s := { CService.new service with mPairUid := doc.pair })
      exact ⟨fun _ => Or.inr ⟨List.cons_ne_nil _ _, hall⟩, fun _ => isEmpty_of_getElem? hnull⟩

/-- If the service cannot be expected, to destroy it dereferences a `NULL`, unless nothing of it
has been expected. -/
theorem incomingLoad_false (h : ((CService.new service).incomingLoad manifest cbMap).2 = false) :
    (((CService.new service).incomingLoad manifest cbMap).1.delete t = .ok () ∧
        ∀ doc, manifest = some doc → doc.Expectable cbMap) ∨
      (((CService.new service).incomingLoad manifest cbMap).1.delete t = .error .nullDereferenced ∧
        ¬ ∀ doc, manifest = some doc → doc.Expectable cbMap) := by
  cases manifest with
  | none => exact Or.inl ⟨delete_empty Std.TreeMap.isEmpty_emptyc, fun _ hdoc => nomatch hdoc⟩
  | some doc =>
    rw [CService.incomingLoad] at h ⊢
    rw [forall_some, Manifest.Expectable]
    have hall : ¬ ∀ api ∈ doc.profiles, HasCallbacks cbMap api := by
      rw [← expectProfiles_ok, h]
      exact Bool.false_ne_true
    generalize doc.profiles = profiles at hall
    cases profiles with
    | nil => exact absurd (fun _ hmem => absurd hmem List.not_mem_nil) hall
    | cons api profiles =>
      by_cases hapi : api = ""
      · refine Or.inl ⟨delete_empty ?_, Or.inl (by rw [hapi, List.head?_cons])⟩
        rw [CService.expectProfiles, if_pos hapi]
        exact Std.TreeMap.isEmpty_emptyc
      · refine Or.inr ⟨delete_error (expectProfiles_cons _ _ hapi), ?_⟩
        rintro (hhead | ⟨-, hall'⟩)
        · exact hapi (Option.some.inj hhead)
        · exact hall hall'

end New

/-! ## Calls -/

theorem map_fst {α β : Type} (x : Except Fault α) (b : β) :
    (x.map fun a => (a, b)).map (·.1) = x := by
  cases x <;> rfl

theorem map_map_fst {α β γ : Type} (x : Except Fault (α × β)) (c : γ) :
    (x.map fun (a, _) => (a, c)).map (·.1) = x.map (·.1) := by
  cases x <;> rfl

theorem sound_load (h : Sound (.ok m)) {pim : Nat → PimResult} :
    Sound ((m.load manifests t service pim).map (·.1)) ↔
      (service ∈ m.mSystemServices → service ∉ m.mActiveServices →
        ∀ doc, manifests service = some doc → doc.profiles ≠ []) := by
  unfold CServiceManager.load
  by_cases hsystem : service ∈ m.mSystemServices
  · by_cases hactive : service ∈ m.mActiveServices
    · rw [if_neg (not_not.mpr hsystem), if_pos hactive]
      exact ⟨fun _ _ hinactive => absurd hactive hinactive, fun _ => h⟩
    · rw [if_neg (not_not.mpr hsystem), if_neg hactive]
      by_cases hok : ((CService.new service).load (manifests service) m.mCallbacks pim).2 = .noError
      · dsimp only
        rw [if_neg (not_not.mpr hok)]
        refine (sound_setActive h).trans ((load_noError hok).trans ?_)
        exact ⟨fun hdoc _ _ => hdoc, fun hdoc => hdoc hsystem hactive⟩
      · obtain ⟨hdelete, hdoc⟩ := load_error (t := t) hok
        dsimp only
        rw [if_pos hok, hdelete]
        exact ⟨fun _ _ _ => hdoc, fun _ => h⟩
  · rw [if_pos hsystem]
    exact ⟨fun _ hsystem' => absurd hsystem' hsystem, fun _ => h⟩

theorem sound_incomingLoad (h : Sound (.ok m)) :
    Sound ((m.incomingLoad manifests t service).map (·.1)) ↔
      (service ∈ m.mSystemServices → service ∉ m.mActiveServices →
        ∀ doc, manifests service = some doc → doc.Expectable m.mCallbacks) := by
  unfold CServiceManager.incomingLoad
  by_cases hsystem : service ∈ m.mSystemServices
  · by_cases hactive : service ∈ m.mActiveServices
    · rw [if_neg (not_not.mpr hsystem), if_pos hactive]
      exact ⟨fun _ _ hinactive => absurd hactive hinactive, fun _ => h⟩
    · rw [if_neg (not_not.mpr hsystem), if_neg hactive]
      dsimp only
      by_cases hok : ((CService.new service).incomingLoad (manifests service) m.mCallbacks).2 = true
      · rw [if_pos hok]
        refine (sound_setActive h).trans ((incomingLoad_true hok).trans ?_)
        exact ⟨fun hdoc _ _ => hdoc, fun hdoc => hdoc hsystem hactive⟩
      · rw [if_neg hok]
        rcases incomingLoad_false (t := t) (Bool.eq_false_iff.mpr hok) with
          ⟨hdelete, hdoc⟩ | ⟨hdelete, hdoc⟩
        · rw [hdelete]
          exact ⟨fun _ _ _ => hdoc, fun _ => h⟩
        · rw [hdelete]
          exact ⟨False.elim, fun hdoc' => absurd (hdoc' hsystem hactive) hdoc⟩
  · rw [if_pos hsystem]
    exact ⟨fun _ hsystem' => absurd hsystem' hsystem, fun _ => h⟩

theorem sound_unload (h : Sound (.ok m)) :
    Sound ((m.unload t service).map (·.1)) ↔
      ∀ s, m.mActiveServices[service]? = some s → s.Unloadable := by
  unfold CServiceManager.unload
  cases hs : m.mActiveServices[service]? with
  | none => exact ⟨fun _ _ hsome => absurd hsome (by simp), fun _ => h⟩
  | some s =>
    dsimp only
    rw [map_fst, sound_unloadFound h]
    exact ⟨fun hunload _ heq => Option.some.inj heq ▸ hunload, fun hall => hall s rfl⟩

/-- A profile is taken if its api is expected, and else the service is as it was. -/
theorem incomingProfileRequest_cases (manifest : Option Manifest) (api : Uid) (pim : PimResult) :
    (¬ (manifest = none ∨ s.mCbMap[api]? = none) ∧
        (s.incomingProfileRequest manifest api pim).2 = true ∧
        (s.incomingProfileRequest manifest api pim).1.mProfilesMap.isEmpty = false) ∨
      ((manifest = none ∨ s.mCbMap[api]? = none) ∧
        (s.incomingProfileRequest manifest api pim).2 = false ∧
        (s.incomingProfileRequest manifest api pim).1.mProfilesMap = s.mProfilesMap ∧
        (s.incomingProfileRequest manifest api pim).1.mUnloadRequests = s.mUnloadRequests) := by
  cases manifest with
  | none => exact Or.inr ⟨Or.inl rfl, rfl, rfl, rfl⟩
  | some doc =>
    rw [CService.incomingProfileRequest]
    by_cases hpair : s.mPairUid = ""
    · rw [if_pos hpair]
      cases hcb : s.mCbMap[api]? with
      | none => exact Or.inr ⟨Or.inr rfl, rfl, rfl, rfl⟩
      | some callback => exact Or.inl ⟨by simp, rfl, Std.TreeMap.isEmpty_insert⟩
    · rw [if_neg hpair]
      cases hcb : s.mCbMap[api]? with
      | none => exact Or.inr ⟨Or.inr rfl, rfl, rfl, rfl⟩
      | some callback => exact Or.inl ⟨by simp, rfl, Std.TreeMap.isEmpty_insert⟩

theorem sound_incomingProfile (h : Sound (.ok m)) {api : Uid} {pim : PimResult} :
    Sound ((m.incomingProfile manifests t service api pim).map (·.1)) ↔
      ∀ s, m.mActiveServices[service]? = some s →
        manifests s.mUid = none ∨ s.mCbMap[api]? = none → s.Unloadable := by
  unfold CServiceManager.incomingProfile
  cases hs : m.mActiveServices[service]? with
  | none => exact ⟨fun _ _ hsome => absurd hsome (by simp), fun _ => h⟩
  | some s =>
    have hsome : (∀ s', some s = some s' → manifests s'.mUid = none ∨ s'.mCbMap[api]? = none →
        s'.Unloadable) ↔ (manifests s.mUid = none ∨ s.mCbMap[api]? = none → s.Unloadable) :=
      ⟨fun hall => hall s rfl, fun hall _ heq => Option.some.inj heq ▸ hall⟩
    rw [hsome]
    dsimp only
    rcases incomingProfileRequest_cases (manifests s.mUid) api pim with ⟨htaken, hok, hempty⟩ | ⟨hnot, hok, hmap, hrequests⟩
    · rw [if_pos hok]
      exact ⟨fun _ hnot => absurd hnot htaken, fun _ => (sound_setActive h).mpr hempty⟩
    · rw [if_neg (by rw [hok]; exact Bool.false_ne_true)]
      generalize (s.incomingProfileRequest (manifests s.mUid) api pim).1 = s' at hmap hrequests
      have hsound : Sound (.ok (m.setActive service s')) := by
        rw [sound_setActive h, hmap]
        exact h.isEmpty hs
      have hunloadable : s'.Unloadable ↔ s.Unloadable := by
        rw [CService.Unloadable, hmap, hrequests, CService.Unloadable]
      rw [← hunloadable, map_map_fst, sound_unload hsound]
      refine ⟨fun hall _ => hall s' Std.TreeMap.getElem?_insert_self, fun hall s'' hs'' => ?_⟩
      rw [CServiceManager.setActive, Std.TreeMap.getElem?_insert_self] at hs''
      exact Option.some.inj hs'' ▸ hall hnot

theorem sound_getProfile (h : Sound (.ok m)) {profileApi : Uid} :
    Sound (.ok (m.getProfile t service profileApi)) := by
  unfold CServiceManager.getProfile
  cases hs : m.mActiveServices[service]? with
  | none => exact h
  | some s =>
    refine (sound_setActive h).mpr ?_
    unfold CService.getProfile
    split
    · exact Std.TreeMap.isEmpty_insert
    · exact h.isEmpty hs

/-- A profile that waits for it is unloaded, and any other one stays. -/
theorem releaseProfile_cases (profileApi : Uid) :
    (∃ holder, s.mProfilesMap[profileApi]? = some (some holder) ∧
        holder.getProfileApiUid ∈ s.mUnloadRequests ∧
        s.releaseProfile t profileApi =
          { s with mProfilesMap := s.mProfilesMap.erase profileApi }) ∨
      ((∀ holder, s.mProfilesMap[profileApi]? = some (some holder) →
          holder.getProfileApiUid ∉ s.mUnloadRequests) ∧
        (s.mProfilesMap.isEmpty = false →
          (s.releaseProfile t profileApi).mProfilesMap.isEmpty = false)) := by
  unfold CService.releaseProfile
  cases hholder : s.mProfilesMap[profileApi]? with
  | none => exact Or.inr ⟨fun _ hsome => absurd hsome (by simp), id⟩
  | some value =>
    cases value with
    | none => exact Or.inr ⟨fun _ hsome => absurd hsome (by simp), id⟩
    | some holder =>
      by_cases hrequest : holder.getProfileApiUid ∈ s.mUnloadRequests
      · exact Or.inl ⟨holder, rfl, hrequest, if_pos hrequest⟩
      · refine Or.inr ⟨?_, fun _ => ?_⟩
        · intro holder' hsome
          cases hsome
          exact hrequest
        · dsimp only
          rw [if_neg hrequest]
          exact Std.TreeMap.isEmpty_insert

/-- A service without a profile can be removed if no request is left. -/
theorem unloadable_empty (hempty : s.mProfilesMap.isEmpty = true) :
    s.Unloadable ↔ s.mUnloadRequests = [] := by
  rw [CService.Unloadable, isEmpty_toList hempty]
  simp

theorem isEmpty_erase {key : Uid} {map : ProfilesMap} :
    (map.erase key).isEmpty = false ↔ ∃ key' ∈ map, key' ≠ key := by
  rw [isEmpty_eq_false]
  simp only [Std.TreeMap.mem_erase]
  constructor
  · rintro ⟨key', hne, hmem⟩
    exact ⟨key', hmem, fun heq => hne (heq ▸ Std.ReflCmp.compare_self)⟩
  · rintro ⟨key', hmem, hne⟩
    exact ⟨key', fun heq => hne (Std.LawfulEqCmp.eq_of_compare heq).symm, hmem⟩

theorem sound_releaseProfile (h : Sound (.ok m)) {profileApi : Uid} :
    Sound (m.releaseProfile t service profileApi) ↔
      ∀ s holder, m.mActiveServices[service]? = some s →
        s.mProfilesMap[profileApi]? = some (some holder) →
        holder.getProfileApiUid ∈ s.mUnloadRequests → ∃ api ∈ s.mProfilesMap, api ≠ profileApi := by
  unfold CServiceManager.releaseProfile
  cases hs : m.mActiveServices[service]? with
  | none => exact ⟨fun _ _ _ hsome => absurd hsome (by simp), fun _ => h⟩
  | some s =>
    dsimp only
    rcases releaseProfile_cases profileApi with
      ⟨holder, hholder, hrequest, hreleased⟩ | ⟨hnone, hkept⟩
    · have hmem : (∀ s' holder', some s = some s' →
          s'.mProfilesMap[profileApi]? = some (some holder') →
          holder'.getProfileApiUid ∈ s'.mUnloadRequests →
          ∃ api ∈ s'.mProfilesMap, api ≠ profileApi) ↔
          (s.mProfilesMap.erase profileApi).isEmpty = false := by
        rw [isEmpty_erase]
        constructor
        · intro hall
          exact hall s holder rfl hholder hrequest
        · intro hother s' _ heq _ _
          exact Option.some.inj heq ▸ hother
      rw [hmem, hreleased]
      by_cases hempty : (s.mProfilesMap.erase profileApi).isEmpty = true
      · -- the request is still there
        rw [CService.allDied, if_pos hempty, sound_unloadFound h, unloadable_empty hempty, hempty]
        refine ⟨fun hnil => ?_, fun hfalse => Bool.noConfusion hfalse⟩
        exact absurd (hnil ▸ hrequest) List.not_mem_nil
      · rw [CService.allDied, if_neg hempty, sound_setActive h]
    · have hempty := hkept (h.isEmpty hs)
      rw [CService.allDied, if_neg (by rw [hempty]; exact Bool.false_ne_true), sound_setActive h]
      refine ⟨fun _ s' holder heq hholder hrequest => ?_, fun _ => hempty⟩
      cases heq
      exact absurd hrequest (hnone holder hholder)

/-- **What a service does when an instance has died** depends on where the search for it ends. -/
theorem profileDied_cases (s : CService) (t : ThreadId) (piuid : Uid) :
    (s.searchProfile piuid = none ∧ s.profileDied t piuid = .ok (s, false)) ∨
      (∃ api, s.searchProfile piuid = some (api, none) ∧
        s.profileDied t piuid = .error .nullDereferenced) ∨
      (∃ api holder, s.searchProfile piuid = some (api, some holder) ∧ holder.isLocked = true ∧
        s.profileDied t piuid = .ok ({ s with
          mUnloadRequests := s.mUnloadRequests.insert holder.getProfileApiUid
          mProfilesMap := s.mProfilesMap.insert api (some (holder.profileInstance t)) }, true)) ∨
      ∃ api holder, s.searchProfile piuid = some (api, some holder) ∧ holder.isLocked = false ∧
        s.profileDied t piuid =
          .ok ({ s with mProfilesMap := s.mProfilesMap.erase api }, false) := by
  unfold CService.profileDied
  cases hsearch : s.searchProfile piuid with
  | none => exact Or.inl ⟨rfl, rfl⟩
  | some it =>
    obtain ⟨api, value⟩ := it
    cases value with
    | none => exact Or.inr (Or.inl ⟨api, rfl, rfl⟩)
    | some holder =>
      refine Or.inr (Or.inr ?_)
      by_cases hlocked : holder.isLocked = true
      · exact Or.inl ⟨api, holder, rfl, hlocked, if_pos hlocked⟩
      · exact Or.inr ⟨api, holder, rfl, Bool.eq_false_iff.mpr hlocked, if_neg hlocked⟩

theorem sound_profileDied (h : Sound (.ok m)) {piuid : Uid} :
    Sound (m.profileDied t service piuid) ↔
      ∀ key s, m.findForDeath service = some (key, s) → ∀ it, s.searchProfile piuid = some it →
        ∃ holder, it.2 = some holder ∧ holder.isLocked = false := by
  unfold CServiceManager.profileDied
  cases hs : m.findForDeath service with
  | none => exact ⟨fun _ _ _ hsome => absurd hsome (by simp), fun _ => h⟩
  | some found =>
    obtain ⟨key, s⟩ := found
    have hsome : (∀ key' s', some (key, s) = some (key', s') → ∀ it, s'.searchProfile piuid = some it →
        ∃ holder, it.2 = some holder ∧ holder.isLocked = false) ↔
        (∀ it, s.searchProfile piuid = some it →
          ∃ holder, it.2 = some holder ∧ holder.isLocked = false) :=
      ⟨fun hall => hall key s rfl, fun hall _ _ heq => by cases heq; exact hall⟩
    rw [hsome]
    dsimp only
    have hends : ∀ s' : CService,
        Sound (if s'.allDied then m.remove t key s' else .ok (m.setActive key s')) := by
      intro s'
      unfold CService.allDied
      split
      · next hempty => exact sound_remove h hempty
      · next hempty => exact (sound_setActive h).mpr (Bool.eq_false_iff.mpr hempty)
    rcases profileDied_cases s t piuid with ⟨hsearch, hdied⟩ | ⟨api, hsearch, hdied⟩ |
      ⟨api, holder, hsearch, hlocked, hdied⟩ | ⟨api, holder, hsearch, hfree, hdied⟩
    · rw [hdied, hsearch]
      exact ⟨fun _ _ hit => absurd hit (by simp), fun _ => hends s⟩
    · rw [hdied, hsearch]
      refine ⟨False.elim, fun hall => ?_⟩
      obtain ⟨_, hnone, _⟩ := hall _ rfl
      cases hnone
    · -- the mutex of the map is still locked when it is locked again
      rw [hdied, hsearch]
      refine ⟨False.elim, fun hall => ?_⟩
      obtain ⟨_, heq, hfree⟩ := hall _ rfl
      cases heq
      exact Bool.false_ne_true (hfree.symm.trans hlocked)
    · rw [hdied, hsearch]
      refine ⟨fun _ it hit => ?_, fun _ => hends _⟩
      cases hit
      exact ⟨holder, rfl, hfree⟩

theorem sound_call (h : Sound (.ok m)) (call : Call) :
    Sound (m.call manifests t call) ↔ Fine manifests m call := by
  cases call with
  | registerProfileCallbacks profileApi pCallbacks => exact ⟨fun _ => trivial, fun _ => h⟩
  | load service pim => exact sound_load h
  | incomingLoad service => exact sound_incomingLoad h
  | incomingProfile service api pim => exact sound_incomingProfile h
  | getProfile service profileApi => exact ⟨fun _ => trivial, fun _ => sound_getProfile h⟩
  | releaseProfile service profileApi => exact sound_releaseProfile h
  | unload service => exact sound_unload h
  | profileDied service piuid => exact sound_profileDied h

/-! ## Runs -/

/-- **After each call of a run the active services are those with profiles, if and only if every
call is fine where it is made.** -/
theorem active_iff (manifests : Uid → Option Manifest) (mSystemServices : List Uid)
    (calls : List (ThreadId × Call)) :
    Along (next manifests) (fun s call => ∀ s', next manifests s call = some s' → Sound s')
        (.ok (.init mSystemServices)) calls ↔
      Along (next manifests) (fun s call => ∀ m, s = .ok m → Fine manifests m call.2)
        (.ok (.init mSystemServices)) calls := by
  have hinit : Sound (.ok (.init mSystemServices)) := by
    refine sound_ok.mpr fun service s hs => ?_
    simp [CServiceManager.init] at hs
  refine along_iff_along (E := fun _ _ => True) (I := Sound) ?_ ?_ hinit
    (along_of_mem fun _ _ _ => trivial)
  · rintro (fault | m) ⟨t, call⟩ h -
    · exact h.elim
    · constructor
      · rintro hsound m' heq
        cases heq
        exact (sound_call h call).mp (hsound _ rfl)
      · rintro hfine s' hs
        cases hs
        exact (sound_call h call).mpr (hfine m rfl)
  · rintro (fault | m) ⟨t, call⟩ s' h - hfine hs
    · exact h.elim
    · cases hs
      exact (sound_call h call).mpr (hfine m rfl)

/-- A profile is released that waits for it to be unloaded. -/
def releasedLast : List (ThreadId × Call) :=
  [(0, .registerProfileCallbacks "api" (some 0)), (0, .load "service" fun _ => .loaded "piuid" "api"),
   (0, .getProfile "service" "api"), (0, .unload "service"), (0, .releaseProfile "service" "api")]

theorem released_service_stays :
    ¬ ∀ manifests mSystemServices calls s,
      run (next manifests) (.ok (.init mSystemServices)) calls = some s → Sound s := by
  intro h
  have hsound := h (fun _ => some ⟨"pair", ["api"]⟩) ["service"] releasedLast _ rfl
  exact absurd ((hsound "service").mp (by decide)) (by decide)

end IviLink.ServiceManager
