import IviLink.ProfileManager.ProfileLibraries

/-!
# The version of a loaded library

After the exchange a profile is enabled by its complement exactly if the other side has the
complement in the same version. The lookup by the uid finds the newest of the profile's libraries,
so that the two agree exactly if that one is held by the other side.
-/

namespace IviLink.ProfileManager.Repository

open IviLink.L0 (Side)

/-! ## The lookup -/

/-- What the loop of `getProfileLibPath` has, when the newest library so far is this one. -/
def foundSoFar (path : List Char) : Option LibInfo → List Char × UInt32
  | none => (path, 0)
  | some l => if l.version = 0 then (path, 0) else (l.path, l.version)

theorem foundSoFar_argAux (path : List Char) (o : Option LibInfo) (l : LibInfo) :
    foundSoFar path (List.argAux (fun b c => c.version.toNat < b.version.toNat) o l) =
      if (foundSoFar path o).2 < l.version then (l.path, l.version) else foundSoFar path o := by
  cases o with
  | none => simp only [List.argAux, foundSoFar]; grind
  | some m =>
    simp only [List.argAux]
    have hlt : m.version.toNat < l.version.toNat ↔ m.version < l.version :=
      UInt32.lt_iff_toNat_lt.symm
    split <;> simp only [foundSoFar] <;> grind

theorem foldl_found (libs : List LibInfo) (uid : Uid) (path : List Char) (o : Option LibInfo) :
    libs.foldl (fun found l =>
        if l.uid = uid ∧ found.2 < l.version then (l.path, l.version) else found)
        (foundSoFar path o) =
      foundSoFar path ((libs.filter (·.uid = uid)).foldl
        (List.argAux fun b c => c.version.toNat < b.version.toNat) o) := by
  induction libs generalizing o with
  | nil => rfl
  | cons l libs ih =>
    rw [List.foldl_cons, List.filter_cons]
    by_cases huid : l.uid = uid
    · simp only [huid, true_and, decide_true, if_true, List.foldl_cons]
      rw [← ih, foundSoFar_argAux]
    · simp only [huid, false_and, decide_false, if_false, Bool.false_eq_true]
      exact ih o

theorem PmpCore.getProfileLibPath_eq (c : PmpCore) (uid : Uid) (path : List Char) :
    c.getProfileLibPath uid path =
      ((foundSoFar path (PmpCores.newest (c.mProfiles.map (·.mLibInfo)) uid)).1,
        decide ((foundSoFar path (PmpCores.newest (c.mProfiles.map (·.mLibInfo)) uid)).2 ≠ 0)) := by
  have hfold := foldl_found (c.mProfiles.map (·.mLibInfo)) uid path none
  rw [List.foldl_map] at hfold
  simp only [PmpCores.newest, List.argmax, ← hfold]
  rfl

/-- **The library of the newest version is loaded**, unless that version is 0. -/
theorem PmpCore.getProfileLibPath_eq_true_iff (c : PmpCore) (uid : Uid) (path library : List Char) :
    c.getProfileLibPath uid path = (library, true) ↔
      ∃ l ∈ PmpCores.newest (c.mProfiles.map (·.mLibInfo)) uid,
        l.version ≠ 0 ∧ l.path = library := by
  rw [getProfileLibPath_eq]
  cases hnewest : PmpCores.newest (c.mProfiles.map (·.mLibInfo)) uid with
  | none => simp [foundSoFar]
  | some l =>
    by_cases hversion : l.version = 0
    · simp [foundSoFar, hversion]
    · simp [foundSoFar, hversion]

/-! ## The exchange -/

section Exchange

variable {mRepository : Side → ProfileDatabase} {mPlatform : Side → List Char}

theorem PmpCore.mProfiles_response (c : PmpCore) (complements : List (Uid × UInt32)) :
    (c.getAvailbleProfileComplementsResponse complements).mProfiles =
      c.mProfiles.map (complements.foldl (·.complemented ·)) := by
  rw [PmpCore.getAvailbleProfileComplementsResponse]
  induction complements generalizing c with
  | nil => simp
  | cons it complements ih =>
    rw [List.foldl_cons, ih, PmpCore.update, List.map_map]
    rfl

theorem PmpCore.repository_response {c : PmpCore} {complements : List (Uid × UInt32)} :
    (c.getAvailbleProfileComplementsResponse complements).mRepository = c.mRepository := by
  rw [PmpCore.getAvailbleProfileComplementsResponse]
  induction complements generalizing c with
  | nil => rfl
  | cons it complements ih => rw [List.foldl_cons, ih, PmpCore.update]

theorem PmpCore.platform_response {c : PmpCore} {complements : List (Uid × UInt32)} :
    (c.getAvailbleProfileComplementsResponse complements).mPlatform = c.mPlatform := by
  rw [PmpCore.getAvailbleProfileComplementsResponse]
  induction complements generalizing c with
  | nil => rfl
  | cons it complements ih => rw [List.foldl_cons, ih, PmpCore.update]

theorem foldl_complemented (complements : List (Uid × UInt32)) (p : PmpCoreProfileInfo) :
    (complements.foldl (·.complemented ·) p).mLibInfo = p.mLibInfo ∧
      ((complements.foldl (·.complemented ·) p).mEnabledByComplement = true ↔
        p.mEnabledByComplement = true ∨ (p.complement, p.version) ∈ complements) := by
  induction complements generalizing p with
  | nil => simp
  | cons it complements ih =>
    obtain ⟨hinfo, henabled⟩ := ih (p.complemented it)
    have hinfo' : (p.complemented it).mLibInfo = p.mLibInfo := p.complemented_mLibInfo it
    refine ⟨hinfo.trans hinfo', ?_⟩
    rw [List.foldl_cons, henabled, List.mem_cons]
    have hcomplement : (p.complemented it).complement = p.complement :=
      congrArg LibInfo.complement hinfo'
    have hversion : (p.complemented it).version = p.version := congrArg LibInfo.version hinfo'
    rw [hcomplement, hversion, PmpCoreProfileInfo.complemented]
    split
    · next h => simp [PmpCoreProfileInfo.enableByComplement, ← h.1, ← h.2]
    · next h =>
      have hne : (p.complement, p.version) ≠ it := fun heq => h (by simp [← heq])
      simp [hne]

namespace PmpCores

/-- What holds of the cores in every run: the repositories stay as they are, and who is enabled by
the complement has one on the other side. -/
structure Sound (mRepository : Side → ProfileDatabase) (mPlatform : Side → List Char)
    (w : PmpCores) : Prop where
  loaded : ∀ i, (w i).mProfiles.map (·.mLibInfo) = libraries mRepository mPlatform i
  repository : ∀ i, (w i).mRepository = mRepository i
  platform : ∀ i, (w i).mPlatform = mPlatform i
  held : ∀ i, ∀ p ∈ (w i).mProfiles, p.mEnabledByComplement = true →
    Held mRepository mPlatform i p.mLibInfo

/-- The profiles of the side whose complement the other one has are enabled. -/
def Agreed (mRepository : Side → ProfileDatabase) (mPlatform : Side → List Char) (w : PmpCores)
    (i : Side) : Prop :=
  ∀ p ∈ (w i).mProfiles, Held mRepository mPlatform i p.mLibInfo → p.mEnabledByComplement = true

variable {w : PmpCores} {i : Side}

theorem step_self (w : PmpCores) (i : Side) (a : Operation) : w.step (i, a) i = w.operate i a :=
  Function.update_self ..

theorem step_other {i j : Side} {a : Operation} (hj : j ≠ i) : w.step (i, a) j = w j :=
  Function.update_of_ne hj ..

theorem Sound.held_iff (h : Sound mRepository mPlatform w) (i : Side) (l : LibInfo) :
    Held mRepository mPlatform i l ↔
      (l.complement, l.version) ∈ (w i.other).getAvailableProfileComplements := by
  rw [Held, ← h.loaded, PmpCore.getAvailableProfileComplements]
  simp only [List.mem_map, Prod.mk.injEq]
  constructor
  · rintro ⟨_, ⟨q, hq, rfl⟩, huid, hversion⟩
    exact ⟨q, hq, huid, hversion⟩
  · rintro ⟨q, hq, huid, hversion⟩
    exact ⟨_, ⟨q, hq, rfl⟩, huid, hversion⟩

theorem Sound.libraries_operate (h : Sound mRepository mPlatform w) (i : Side) (a : Operation) :
    (w.operate i a).mProfiles.map (·.mLibInfo) = libraries mRepository mPlatform i ∧
      (w.operate i a).mRepository = mRepository i ∧ (w.operate i a).mPlatform = mPlatform i := by
  have hrepository : (w.operate i a).mRepository = mRepository i := by
    rw [← h.repository i]
    cases a with
    | getAvailbleProfileComplementsResponse => exact PmpCore.repository_response
    | _ => rfl
  have hplatform : (w.operate i a).mPlatform = mPlatform i := by
    rw [← h.platform i]
    cases a with
    | getAvailbleProfileComplementsResponse => exact PmpCore.platform_response
    | _ => rfl
  refine ⟨?_, hrepository, hplatform⟩
  rw [(w.operate i a).loaded, hrepository, hplatform]
  rfl

/-- What is enabled after an operation has its complement on the other side. -/
theorem Sound.held_operate (h : Sound mRepository mPlatform w) (i : Side) (a : Operation) :
    ∀ p ∈ (w.operate i a).mProfiles, p.mEnabledByComplement = true →
      Held mRepository mPlatform i p.mLibInfo := by
  intro p hp henabled
  cases a with
  | reloadProfilesFromRepository =>
    obtain ⟨l, -, rfl⟩ := List.mem_map.mp hp
    cases henabled
  | resetProfilesState =>
    obtain ⟨q, hq, rfl⟩ := List.mem_map.mp hp
    obtain ⟨r, -, rfl⟩ := List.mem_map.mp hq
    cases henabled
  | getAvailbleProfileComplementsResponse =>
    rw [operate, PmpCore.mProfiles_response] at hp
    obtain ⟨q, hq, rfl⟩ := List.mem_map.mp hp
    obtain ⟨hinfo, hiff⟩ :=
      foldl_complemented (w i.other).getAvailableProfileComplements q
    rw [hinfo]
    rcases hiff.mp henabled with hbefore | hmem
    · exact h.held i q hq hbefore
    · exact (h.held_iff i q.mLibInfo).mpr hmem
  | change f v selected =>
    obtain ⟨q, hq, rfl⟩ := List.mem_map.mp hp
    rw [PmpCoreProfileInfo.mLibInfo_ite]
    exact h.held i q hq (by rwa [PmpCoreProfileInfo.mEnabledByComplement_ite] at henabled)

theorem Sound.step (h : Sound mRepository mPlatform w) (a : Side × Operation) :
    Sound mRepository mPlatform (w.step a) := by
  obtain ⟨i, a⟩ := a
  have hop := h.libraries_operate i a
  refine ⟨fun j => ?_, fun j => ?_, fun j => ?_, fun j => ?_⟩ <;> obtain rfl | hj := eq_or_ne j i
  · rw [step_self]; exact hop.1
  · rw [step_other hj]; exact h.loaded j
  · rw [step_self]; exact hop.2.1
  · rw [step_other hj]; exact h.repository j
  · rw [step_self]; exact hop.2.2
  · rw [step_other hj]; exact h.platform j
  · rw [step_self]; exact h.held_operate j a
  · rw [step_other hj]; exact h.held j

theorem sound_init : Sound mRepository mPlatform (init mRepository mPlatform) where
  loaded i := (init mRepository mPlatform i).loaded
  repository _ := rfl
  platform _ := rfl
  held i p hp henabled := by
    obtain ⟨l, -, rfl⟩ := List.mem_map.mp hp
    cases henabled

theorem sound_after (as : List (Side × Operation)) :
    Sound mRepository mPlatform (after mRepository mPlatform as) := by
  induction as using List.reverseRecOn with
  | nil => exact sound_init
  | append_singleton as a ih =>
    rw [after, List.foldl_append]
    exact ih.step a

/-- The answer of the other side enables what it holds. -/
theorem Sound.agreed_response (h : Sound mRepository mPlatform w) (i : Side) :
    Agreed mRepository mPlatform (w.step (i, .getAvailbleProfileComplementsResponse)) i := by
  intro p hp hheld
  rw [step_self, operate, PmpCore.mProfiles_response] at hp
  obtain ⟨q, -, rfl⟩ := List.mem_map.mp hp
  obtain ⟨hinfo, hiff⟩ := foldl_complemented (w i.other).getAvailableProfileComplements q
  rw [hinfo, h.held_iff] at hheld
  exact hiff.mpr (.inr hheld)

/-- Nothing but a reset and a reload takes this back. -/
theorem Agreed.step (h : Agreed mRepository mPlatform w i) (hsound : Sound mRepository mPlatform w)
    {a : Side × Operation} (hreset : a ≠ (i, .resetProfilesState))
    (hreload : a ≠ (i, .reloadProfilesFromRepository)) :
    Agreed mRepository mPlatform (w.step a) i := by
  obtain ⟨j, a⟩ := a
  obtain rfl | hj := eq_or_ne i j
  · cases a with
    | reloadProfilesFromRepository => exact absurd rfl hreload
    | resetProfilesState => exact absurd rfl hreset
    | getAvailbleProfileComplementsResponse => exact hsound.agreed_response i
    | change f v selected =>
      intro p hp hheld
      rw [step_self] at hp
      obtain ⟨q, hq, rfl⟩ := List.mem_map.mp hp
      rw [PmpCoreProfileInfo.mLibInfo_ite] at hheld
      rw [PmpCoreProfileInfo.mEnabledByComplement_ite]
      exact h q hq hheld
  · intro p hp
    rw [step_other hj] at hp
    exact h p hp

theorem agreed_after {as : List (Side × Operation)} {i : Side} (h : HasExchanged as i) :
    Agreed mRepository mPlatform (after mRepository mPlatform as) i := by
  obtain ⟨bs, cs, rfl, hreset, hreload⟩ := h
  induction cs using List.reverseRecOn with
  | nil =>
    rw [after, List.foldl_append]
    exact (sound_after bs).agreed_response i
  | append_singleton cs a ih =>
    simp only [List.mem_append, List.mem_singleton, not_or] at hreset hreload
    rw [← List.cons_append, ← List.append_assoc, after, List.foldl_append]
    exact (ih hreset.1 hreload.1).step (sound_after _) (Ne.symm hreset.2) (Ne.symm hreload.2)

/-- **What is loaded for a profile that is found** is a library of the version that both sides have,
exactly if the newest of its libraries is. -/
theorem loads_iff {as : List (Side × Operation)} {i : Side} (id : Uid)
    (profileParameters : List (List Char × List Char)) (path : List Char)
    (h : HasExchanged as i) :
    ∀ uid ∈ (after mRepository mPlatform as i).findProfiles id profileParameters true,
      ((after mRepository mPlatform as).Loads i uid path ↔
        NewestHeld mRepository mPlatform i uid) := by
  intro uid _
  have hsound : Sound mRepository mPlatform (after mRepository mPlatform as) := sound_after as
  have hagreed : Agreed mRepository mPlatform (after mRepository mPlatform as) i := agreed_after h
  rw [NewestHeld, ← hsound.loaded i]
  constructor
  · rintro ⟨p, hp, huid, henabled, -, hpath⟩
    obtain ⟨l, hnewest, hversion, hlibrary⟩ :=
      (PmpCore.getProfileLibPath_eq_true_iff ..).mp hpath
    exact ⟨l, hnewest, hversion, p.mLibInfo, List.mem_map_of_mem hp, huid, hlibrary.symm,
      hsound.held i p hp henabled⟩
  · rintro ⟨l, hnewest, hversion, l', hl', huid, hpath, hheld⟩
    obtain ⟨p, hp, rfl⟩ := List.mem_map.mp hl'
    have hother := (hsound.held_iff i p.mLibInfo).mp hheld
    obtain ⟨q, hq, heq⟩ := List.mem_map.mp hother
    obtain ⟨hcomplement, hsame⟩ := Prod.mk.inj heq
    exact ⟨p, hp, huid, hagreed p hp hheld, ⟨q, hq, hcomplement, hsame⟩,
      (PmpCore.getProfileLibPath_eq_true_iff ..).mpr ⟨l, hnewest, hversion, hpath.symm⟩⟩

/-- A profile with these versions, each in a library of its own, and with this complement. -/
def oneProfile (uid complement : Uid) (versions : List UInt32) : ProfileDatabase :=
  ⟨(∅ : Std.TreeMap Uid ProfileInfo).insertIfNew uid
    ⟨uid, ['p'], complement, versions.map fun v => ⟨v, v.toNat.repr.toList, []⟩⟩⟩

/-- The profile of side `a` has the versions 1 and 2, and its complement has the versions given. -/
def twoVersions (versions : List UInt32) : Side → ProfileDatabase
  | .a => oneProfile ['a'] ['b'] [1, 2]
  | .b => oneProfile ['b'] ['a'] versions

/-- Side `a` locks its profiles, has the list of side `b`, and unlocks them. -/
def exchange : List (Side × Operation) :=
  [(.a, .resetProfilesState), (.a, .getAvailbleProfileComplementsResponse),
    (.a, .change .locked false fun _ => true)]

theorem hasExchanged_exchange : HasExchanged exchange .a :=
  ⟨[(.a, .resetProfilesState)], [(.a, .change .locked false fun _ => true)], rfl,
    by simp, by simp⟩

theorem agreed_version_loaded :
    (after (twoVersions [2]) (fun _ => []) exchange .a).findProfiles ['p'] [] true = [['a']] ∧
      (after (twoVersions [2]) (fun _ => []) exchange).Loads .a ['a'] [] := by
  have hfound :
      (after (twoVersions [2]) (fun _ => []) exchange .a).findProfiles ['p'] [] true = [['a']] := by
    decide +kernel
  refine ⟨hfound, (loads_iff ['p'] [] [] hasExchanged_exchange ['a'] ?_).mpr ?_⟩
  · exact hfound ▸ List.mem_singleton_self _
  · decide +kernel

/-- Version 1 is common to both sides, and version 2 is loaded. -/
theorem other_version_loaded :
    HasExchanged exchange .a ∧
      (after (twoVersions [1]) (fun _ => []) exchange .a).findProfiles ['p'] [] true = [['a']] ∧
      (after (twoVersions [1]) (fun _ => []) exchange .a).getProfileLibPath ['a'] [] =
        (['2'], true) ∧
      ¬ (after (twoVersions [1]) (fun _ => []) exchange).Loads .a ['a'] [] := by
  refine ⟨hasExchanged_exchange, ?_, ?_, ?_⟩ <;> decide +kernel

end PmpCores

end Exchange

end IviLink.ProfileManager.Repository
