import IviLink.ProfileManager.Complements

/-!
# Both sides find the same complements

A list of profiles that is sent is read as it was, so every response tells a core what
the other one has; since that never changes, no profile is enabled that should not be
(`Sound`), whatever crosses on the way. After a reset there is a request of the core
or a response to it under way until the last response has come, and that one enables
all that is missing (`Ready`).
-/

namespace IviLink.ProfileManager.Complements

open IviLink.L0 (Side)
open IviLink.Lib

/-! ## The list in bytes -/

theorem readUInt32_le32 (x : UInt32) (rest : List UInt8) :
    readUInt32 (le32 (hton32 x) ++ rest) = some (x, rest) := by
  have hlen : (le32 (hton32 x)).length = 4 := length_le32 _
  rw [readUInt32, if_pos (by rw [List.length_append]; omega), ← hlen, List.take_left,
    List.drop_left, ofLE32_le32, ntoh32, hton32, swap32_swap32]

theorem length_stringToBuffer (str : List UInt8) :
    (stringToBuffer str).length = stringInBufSize str := by
  simp only [stringToBuffer, stringInBufSize, List.length_append, length_le32,
    List.length_singleton]
  omega

theorem length_entryToBuffer (it : Uid × UInt32) :
    (entryToBuffer it).length = stringInBufSize it.1 + 4 := by
  rw [entryToBuffer, List.length_append, length_stringToBuffer, length_le32]

theorem bufferToString_stringToBuffer {str : List UInt8} (h : str.length + 1 < 2 ^ 32)
    (rest : List UInt8) : bufferToString (stringToBuffer str ++ rest) = some str := by
  have hsize : (UInt32.ofNat (str.length + 1) - 1).toNat = str.length := by
    have hn : (UInt32.ofNat (str.length + 1)).toNat = str.length + 1 := by
      rw [UInt32.toNat_ofNat', Nat.mod_eq_of_lt h]
    have hle : (1 : UInt32) ≤ UInt32.ofNat (str.length + 1) := by
      rw [UInt32.le_iff_toNat_le, hn]
      exact Nat.le_add_left ..
    rw [UInt32.toNat_sub_of_le _ _ hle, hn]
    rfl
  rw [bufferToString, stringToBuffer, List.append_assoc, List.append_assoc, readUInt32_le32]
  dsimp only
  rw [hsize, if_pos (by rw [List.length_append]; omega), List.take_left]

/-- The strings are short enough for their sizes. -/
def ShortStrings (complements : List (Uid × UInt32)) : Prop :=
  ∀ it ∈ complements, it.1.length + 1 < 2 ^ 32

/-- **What is written is read**, as far as an `int` counts. -/
theorem readComplements_flatMap {complements : List (Uid × UInt32)} (h : ShortStrings complements)
    (pos : Nat) (rest : List UInt8) :
    readComplements complements.length pos (complements.flatMap entryToBuffer ++ rest)
        = some complements ∨
      (readComplements complements.length pos (complements.flatMap entryToBuffer ++ rest) = none ∧
        INT_MAX < pos + (complements.flatMap entryToBuffer).length) := by
  induction complements generalizing pos with
  | nil => exact Or.inl rfl
  | cons it complements ih =>
    obtain ⟨str, version⟩ := it
    have hstr : str.length + 1 < 2 ^ 32 := h (str, version) List.mem_cons_self
    have hdrop : (stringToBuffer str ++ (le32 (hton32 version) ++
        (complements.flatMap entryToBuffer ++ rest))).drop (stringInBufSize str) =
        le32 (hton32 version) ++ (complements.flatMap entryToBuffer ++ rest) := by
      rw [← length_stringToBuffer, List.drop_left]
    rw [List.flatMap_cons, List.length_cons, List.length_append, length_entryToBuffer]
    have hentry : entryToBuffer (str, version) ++ complements.flatMap entryToBuffer ++ rest =
        stringToBuffer str ++ (le32 (hton32 version) ++
          (complements.flatMap entryToBuffer ++ rest)) := by
      simp only [entryToBuffer, List.append_assoc]
    rw [hentry, readComplements, bufferToString_stringToBuffer hstr]
    dsimp only
    rw [hdrop, readUInt32_le32]
    dsimp only
    split
    · rcases ih (fun it hit => h it (List.mem_cons_of_mem _ hit))
        (pos + stringInBufSize str + 4) with hread | ⟨hread, hmax⟩
      · rw [hread]
        exact Or.inl rfl
      · rw [hread]
        exact Or.inr ⟨rfl, by omega⟩
    · exact Or.inr ⟨rfl, by omega⟩

theorem length_flatMap_entryToBuffer (complements : List (Uid × UInt32)) :
    ∀ it ∈ complements, it.1.length + 9 ≤ (complements.flatMap entryToBuffer).length := by
  intro it hit
  have hlen := length_entryToBuffer it
  rw [stringInBufSize] at hlen
  have hle : (entryToBuffer it).length ≤ (complements.flatMap entryToBuffer).length :=
    (List.sublist_flatten_of_mem (List.mem_map_of_mem hit)).length_le
  omega

theorem length_le_flatMap (complements : List (Uid × UInt32)) :
    complements.length ≤ (complements.flatMap entryToBuffer).length := by
  induction complements with
  | nil => exact Nat.le_refl _
  | cons it complements ih =>
    rw [List.flatMap_cons, List.length_append, List.length_cons, length_entryToBuffer,
      stringInBufSize]
    omega

theorem length_responseData (complements : List (Uid × UInt32)) :
    (responseData complements).length = 4 + (complements.flatMap entryToBuffer).length := by
  rw [responseData, List.length_append, length_le32]

/-- A response that is sent fits into the size it has. -/
theorem response_sent {complements : List (Uid × UInt32)} {x : PMPFrame}
    (h : getAvailableProfileComplementsResponse complements = some x) :
    x = .PMP_REQ_CORE_GET_COMPLEMENTS_RESPONSE (responseData complements) ∧
      (responseData complements).length < 2 ^ 32 := by
  unfold getAvailableProfileComplementsResponse at h
  split at h
  · next hle =>
    have hlt := (responseSize complements).toNat_lt
    exact ⟨(Option.some.inj h).symm, by omega⟩
  · cases h

theorem response_cases {complements : List (Uid × UInt32)}
    (hlt : (responseData complements).length < 2 ^ 32) :
    onGetAvailableProfileComplementsResponse (responseData complements) = some complements ∨
      (onGetAvailableProfileComplementsResponse (responseData complements) = none ∧
        INT_MAX < (responseData complements).length) := by
  rw [length_responseData] at hlt ⊢
  have hcount : (UInt32.ofNat complements.length).toNat = complements.length := by
    have hle := length_le_flatMap complements
    rw [UInt32.toNat_ofNat', Nat.mod_eq_of_lt (by omega)]
  have hshort : ShortStrings complements := by
    intro it hit
    have hle := length_flatMap_entryToBuffer complements it hit
    omega
  have hcases := readComplements_flatMap hshort 4 []
  rw [List.append_nil] at hcases
  rw [onGetAvailableProfileComplementsResponse, responseData, readUInt32_le32]
  dsimp only
  rw [hcount]
  exact hcases

/-- **A response that is read is what was sent.** -/
theorem response_read {complements complements' : List (Uid × UInt32)} {data : List UInt8}
    (hsent : getAvailableProfileComplementsResponse complements =
      some (.PMP_REQ_CORE_GET_COMPLEMENTS_RESPONSE data))
    (hread : onGetAvailableProfileComplementsResponse data = some complements') :
    complements' = complements := by
  obtain ⟨heq, hlt⟩ := response_sent hsent
  obtain rfl := PMPFrame.PMP_REQ_CORE_GET_COMPLEMENTS_RESPONSE.inj heq
  rcases response_cases hlt with h | ⟨h, -⟩
  · rw [h] at hread
    exact (Option.some.inj hread).symm
  · rw [h] at hread
    cases hread

theorem responseSize_toNat {complements : List (Uid × UInt32)}
    (h : PMP_FRAME_SIZE + (responseData complements).length < 2 ^ 32) :
    (responseSize complements).toNat = PMP_FRAME_SIZE + (responseData complements).length := by
  have hfold : ∀ (size : UInt32) (cs : List (Uid × UInt32)),
      size.toNat + (cs.flatMap entryToBuffer).length < 2 ^ 32 →
      (cs.foldl (fun size it => size + UInt32.ofNat (stringInBufSize it.1) + 4) size).toNat =
        size.toNat + (cs.flatMap entryToBuffer).length := by
    intro size cs
    induction cs generalizing size with
    | nil => exact fun _ => rfl
    | cons it cs ih =>
      intro hlt
      rw [List.flatMap_cons, List.length_append, length_entryToBuffer] at hlt ⊢
      have hadd : (size + UInt32.ofNat (stringInBufSize it.1) + 4).toNat =
          size.toNat + (stringInBufSize it.1 + 4) := by
        rw [UInt32.toNat_add, UInt32.toNat_add, UInt32.toNat_ofNat']
        simp only [show (4 : UInt32).toNat = 4 from rfl]
        omega
      rw [List.foldl_cons, ih _ (by rw [hadd]; omega), hadd]
      omega
  rw [length_responseData, PMP_FRAME_SIZE] at h ⊢
  rw [responseSize, hfold]
  · show 20 + _ = _
    omega
  · show 20 + _ < _
    omega

/-- **A list that an `int` can count is sent and read.** -/
theorem response_exchanged {complements : List (Uid × UInt32)}
    (h : (responseData complements).length ≤ INT_MAX) :
    getAvailableProfileComplementsResponse complements =
        some (.PMP_REQ_CORE_GET_COMPLEMENTS_RESPONSE (responseData complements)) ∧
      onGetAvailableProfileComplementsResponse (responseData complements) = some complements := by
  rw [INT_MAX] at h
  constructor
  · rw [getAvailableProfileComplementsResponse, if_pos]
    rw [responseSize_toNat (by rw [PMP_FRAME_SIZE]; omega)]
  · rcases @response_cases complements (by omega) with hread | ⟨-, hmax⟩
    · exact hread
    · rw [INT_MAX] at hmax
      omega

/-! ## One core -/

section Core

variable {c : PmpCore} {p : PmpCoreProfileInfo} {complements : List (Uid × UInt32)}

def PmpCore.libs (c : PmpCore) : List LibInfo := c.mProfiles.map (·.mLibInfo)

/-- The complement of the profile is in the list, in the same version. -/
def Complemented (complements : List (Uid × UInt32)) (l : LibInfo) : Prop :=
  (l.complement, l.version) ∈ complements

theorem foldl_enableComplemented (mProfiles : List PmpCoreProfileInfo) :
    complements.foldl PmpCore.enableComplemented mProfiles = mProfiles.map fun p =>
      if (p.mLibInfo.complement, p.mLibInfo.version) ∈ complements then p.enableByComplement
      else p := by
  induction complements generalizing mProfiles with
  | nil => simp
  | cons it complements ih =>
    rw [List.foldl_cons, ih, PmpCore.enableComplemented, List.map_map]
    refine List.map_congr_left fun p _ => ?_
    obtain ⟨uid, version⟩ := it
    simp only [Function.comp_apply, List.mem_cons, Prod.mk.injEq]
    by_cases hit : uid = p.mLibInfo.complement ∧ version = p.mLibInfo.version
    · rw [if_pos hit, if_pos (Or.inl ⟨hit.1.symm, hit.2.symm⟩)]
      exact ite_self _
    · rw [if_neg hit]
      by_cases hmem : (p.mLibInfo.complement, p.mLibInfo.version) ∈ complements
      · rw [if_pos hmem, if_pos (Or.inr hmem)]
      · rw [if_neg hmem, if_neg]
        rintro (heq | hmem')
        · exact hit ⟨heq.1.symm, heq.2.symm⟩
        · exact hmem hmem'

@[simp] theorem disableByComplementAll_libs : c.disableByComplementAll.libs = c.libs := by
  rw [PmpCore.libs, PmpCore.disableByComplementAll, List.map_map]
  rfl

@[simp] theorem resetProfilesState_libs : c.resetProfilesState.libs = c.libs := by
  rw [PmpCore.resetProfilesState, PmpCore.onLockAll, PmpCore.libs, List.map_map]
  exact disableByComplementAll_libs

@[simp] theorem getAvailbleProfileComplementsResponse_libs :
    (c.getAvailbleProfileComplementsResponse complements).libs = c.libs := by
  rw [PmpCore.libs, PmpCore.getAvailbleProfileComplementsResponse, foldl_enableComplemented,
    List.map_map]
  refine List.map_congr_left fun p _ => ?_
  rw [Function.comp_apply]
  split
  · rfl
  · rfl

theorem not_enabled_disableByComplementAll (h : p ∈ c.disableByComplementAll.mProfiles) :
    p.mEnabledByComplement = false := by
  obtain ⟨p₀, -, rfl⟩ := List.mem_map.mp h
  rfl

theorem not_enabled_resetProfilesState (h : p ∈ c.resetProfilesState.mProfiles) :
    p.mEnabledByComplement = false := by
  obtain ⟨p₀, hp₀, rfl⟩ := List.mem_map.mp h
  have henabled : p₀.mEnabledByComplement = false := not_enabled_disableByComplementAll hp₀
  exact henabled

theorem not_enabled_reloadProfilesFromRepository
    (h : p ∈ c.reloadProfilesFromRepository.mProfiles) : p.mEnabledByComplement = false := by
  obtain ⟨l, -, rfl⟩ := List.mem_map.mp h
  rfl

/-- A response enables the profiles that it has the complement of. -/
theorem enabled_of_response
    (h : p ∈ (c.getAvailbleProfileComplementsResponse complements).mProfiles) :
    ∃ p₀ ∈ c.mProfiles, p₀.mLibInfo = p.mLibInfo ∧ (p.mEnabledByComplement = true ↔
      p₀.mEnabledByComplement = true ∨ Complemented complements p.mLibInfo) := by
  rw [PmpCore.getAvailbleProfileComplementsResponse, foldl_enableComplemented] at h
  obtain ⟨p₀, hp₀, rfl⟩ := List.mem_map.mp h
  refine ⟨p₀, hp₀, ?_⟩
  by_cases hmem : (p₀.mLibInfo.complement, p₀.mLibInfo.version) ∈ complements
  · rw [if_pos hmem]
    exact ⟨rfl, fun _ => Or.inr hmem, fun _ => rfl⟩
  · rw [if_neg hmem]
    exact ⟨rfl, Or.inl, fun h => h.resolve_right hmem⟩

/-- A request is answered with a response. -/
theorem onCoreRequest_request {r : Reaction PmpCore PMPFrame Notice}
    (h : c.onCoreRequest .PMP_REQ_CORE_GET_COMPLEMENTS_REQUEST = some r) :
    ∃ data, getAvailableProfileComplementsResponse c.getAvailableProfileComplements =
        some (.PMP_REQ_CORE_GET_COMPLEMENTS_RESPONSE data) ∧
      r = ⟨c, [.PMP_REQ_CORE_GET_COMPLEMENTS_RESPONSE data], []⟩ := by
  unfold PmpCore.onCoreRequest at h
  dsimp only at h
  split at h
  · cases h
  · next x hx =>
    obtain ⟨rfl, -⟩ := response_sent hx
    exact ⟨_, hx, (Option.some.inj h).symm⟩

theorem onCoreRequest_response {r : Reaction PmpCore PMPFrame Notice} {data : List UInt8}
    (h : c.onCoreRequest (.PMP_REQ_CORE_GET_COMPLEMENTS_RESPONSE data) = some r) :
    ∃ complements, onGetAvailableProfileComplementsResponse data = some complements ∧
      r = ⟨c.getAvailbleProfileComplementsResponse complements, [], [.coreIsReady]⟩ := by
  unfold PmpCore.onCoreRequest at h
  dsimp only at h
  split at h
  · cases h
  · next complements hread => exact ⟨complements, hread, (Option.some.inj h).symm⟩

end Core

/-! ## Two cores -/

section Cores

variable {mRepository : Side → List LibInfo} {mPlatform : Side → List UInt8}
  {w w' : PmpCores} {a : Action} {i : Side}

/-- The profiles a side has. -/
def own (mRepository : Side → List LibInfo) (mPlatform : Side → List UInt8) (i : Side) :
    List LibInfo :=
  (mRepository i).filter (·.platform = mPlatform i)

/-- What the other side answers. -/
def theirs (mRepository : Side → List LibInfo) (mPlatform : Side → List UInt8) (i : Side) :
    List (Uid × UInt32) :=
  (own mRepository mPlatform i.other).map fun l => (l.uid, l.version)

/-- Everything a core has been told is true. -/
structure Sound (mRepository : Side → List LibInfo) (mPlatform : Side → List UInt8)
    (w : PmpCores) : Prop where
  repository : ∀ i, (w.state i).mRepository = mRepository i
  platform : ∀ i, (w.state i).mPlatform = mPlatform i
  libs : ∀ i, (w.state i).libs = own mRepository mPlatform i
  responses : ∀ i data, .PMP_REQ_CORE_GET_COMPLEMENTS_RESPONSE data ∈ w.link i →
    getAvailableProfileComplementsResponse (theirs mRepository mPlatform i) =
      some (.PMP_REQ_CORE_GET_COMPLEMENTS_RESPONSE data)
  enabled : ∀ i, ∀ p ∈ (w.state i).mProfiles, p.mEnabledByComplement = true →
    Complemented (theirs mRepository mPlatform i) p.mLibInfo

theorem reload_libs {c : PmpCore} :
    c.reloadProfilesFromRepository.libs = c.mRepository.filter (·.platform = c.mPlatform) := by
  rw [PmpCore.libs, PmpCore.reloadProfilesFromRepository, List.map_map]
  exact List.map_id' _

theorem sound_init : Sound mRepository mPlatform (init mRepository mPlatform) where
  repository := fun _ => rfl
  platform := fun _ => rfl
  libs := fun _ => reload_libs
  responses := fun _ _ h => absurd h List.not_mem_nil
  enabled := by
    intro i p hp henabled
    rw [not_enabled_reloadProfilesFromRepository hp] at henabled
    cases henabled

/-- What is to be shown of a reaction. -/
theorem Sound.react (h : Sound mRepository mPlatform w) {r : Reaction PmpCore PMPFrame Notice}
    (hrepository : r.state.mRepository = (w.state i).mRepository)
    (hplatform : r.state.mPlatform = (w.state i).mPlatform)
    (hlibs : r.state.libs = own mRepository mPlatform i)
    (hsent : ∀ data, .PMP_REQ_CORE_GET_COMPLEMENTS_RESPONSE data ∈ r.sent →
      getAvailableProfileComplementsResponse (theirs mRepository mPlatform i.other) =
        some (.PMP_REQ_CORE_GET_COMPLEMENTS_RESPONSE data))
    (henabled : ∀ p ∈ r.state.mProfiles, p.mEnabledByComplement = true →
      Complemented (theirs mRepository mPlatform i) p.mLibInfo) :
    Sound mRepository mPlatform (w.react Side.other i r) := by
  have hstate : ∀ {P : Side → PmpCore → Prop}, P i r.state → (∀ j, P j (w.state j)) →
      ∀ j, P j ((w.react Side.other i r).state j) := by
    intro P hself hall j
    by_cases hj : j = i
    · subst hj
      rw [Duplex.react_state_self]
      exact hself
    · rw [Duplex.react_state_ne _ _ _ hj]
      exact hall j
  refine ⟨hstate (P := fun j c => c.mRepository = mRepository j)
      (hrepository.trans (h.repository i)) h.repository,
    hstate (P := fun j c => c.mPlatform = mPlatform j) (hplatform.trans (h.platform i)) h.platform,
    hstate (P := fun j c => c.libs = own mRepository mPlatform j) hlibs h.libs, ?_,
    hstate (P := fun j c => ∀ p ∈ c.mProfiles, p.mEnabledByComplement = true →
      Complemented (theirs mRepository mPlatform j) p.mLibInfo) henabled h.enabled⟩
  intro j data hmem
  by_cases hj : j = i.other
  · subst hj
    rw [Duplex.react_link_peer] at hmem
    rcases List.mem_append.mp hmem with hmem | hmem
    · exact h.responses _ data hmem
    · exact hsent data hmem
  · rw [Duplex.react_link_ne _ _ _ hj] at hmem
    exact h.responses j data hmem

theorem Sound.drop (h : Sound mRepository mPlatform w) {x : PMPFrame} {rest : List PMPFrame}
    (hlink : w.link i = x :: rest) :
    Sound mRepository mPlatform { w with link := Function.update w.link i rest } := by
  refine { h with responses := ?_ }
  intro j data hmem
  by_cases hj : j = i
  · subst hj
    have hmem : .PMP_REQ_CORE_GET_COMPLEMENTS_RESPONSE data ∈ rest := by simpa using hmem
    exact h.responses j data (hlink ▸ List.mem_cons_of_mem _ hmem)
  · exact h.responses j data (by simpa [hj] using hmem)

/-- A request that a core answers with its own profiles. -/
theorem Sound.complements (h : Sound mRepository mPlatform w) :
    (w.state i).getAvailableProfileComplements = theirs mRepository mPlatform i.other := by
  rw [theirs, Side.other_other, ← h.libs i, PmpCore.libs, List.map_map]
  rfl

theorem sound_step (h : Sound mRepository mPlatform w) (hs : step w a = some w') :
    Sound mRepository mPlatform w' := by
  cases Duplex.step_cases hs with
  | @act i op r hact =>
    obtain rfl := Option.some.inj hact
    cases op with
    | reloadProfilesFromRepository =>
      refine h.react rfl rfl ?_ (fun _ hmem => absurd hmem List.not_mem_nil) ?_
      · refine reload_libs.trans ?_
        rw [h.repository, h.platform, own]
      · intro p hp henabled
        exact absurd henabled (Bool.eq_false_iff.mp (not_enabled_reloadProfilesFromRepository hp))
    | resetProfilesState =>
      refine h.react rfl rfl (resetProfilesState_libs.trans (h.libs i)) ?_ ?_
      · intro data hmem
        cases List.mem_singleton.mp hmem
      · intro p hp henabled
        exact absurd henabled (Bool.eq_false_iff.mp (not_enabled_resetProfilesState hp))
    | onLostConnection =>
      refine h.react rfl rfl (disableByComplementAll_libs.trans (h.libs i))
        (fun _ hmem => absurd hmem List.not_mem_nil) ?_
      intro p hp henabled
      exact absurd henabled (Bool.eq_false_iff.mp (not_enabled_disableByComplementAll hp))
  | @deliver i b x rest r hlink hreceive =>
    have hdrop := h.drop hlink
    cases x with
    | PMP_REQ_CORE_GET_COMPLEMENTS_REQUEST =>
      obtain ⟨data, hdata, rfl⟩ := onCoreRequest_request hreceive
      refine hdrop.react rfl rfl (h.libs i) ?_ (h.enabled i)
      intro data' hmem
      rw [List.mem_singleton.mp hmem, ← h.complements]
      exact hdata
    | PMP_REQ_CORE_GET_COMPLEMENTS_RESPONSE data =>
      obtain ⟨complements, hread, rfl⟩ := onCoreRequest_response hreceive
      obtain rfl := response_read (h.responses i data (hlink ▸ List.mem_cons_self)) hread
      refine hdrop.react rfl rfl (getAvailbleProfileComplementsResponse_libs.trans (h.libs i))
        (fun _ hmem => absurd hmem List.not_mem_nil) ?_
      intro p hp henabled
      obtain ⟨p₀, hp₀, hlib, hiff⟩ := enabled_of_response hp
      rcases hiff.mp henabled with henabled₀ | hcomplemented
      · exact hlib ▸ h.enabled i p₀ hp₀ henabled₀
      · exact hcomplemented

/-! ## After a reset -/

/-- A request of the side or a response to it is under way. -/
def Awaits (w : PmpCores) (i : Side) : Prop :=
  .PMP_REQ_CORE_GET_COMPLEMENTS_REQUEST ∈ w.link i.other ∨
    ∃ data, .PMP_REQ_CORE_GET_COMPLEMENTS_RESPONSE data ∈ w.link i

/-- The side has enabled all that it can enable, or will. -/
def Ready (mRepository : Side → List LibInfo) (mPlatform : Side → List UInt8) (i : Side)
    (w : PmpCores) : Prop :=
  Awaits w i ∨ ∀ p ∈ (w.state i).mProfiles,
    Complemented (theirs mRepository mPlatform i) p.mLibInfo → p.mEnabledByComplement = true

theorem ready_reset (hs : step w (.act i .resetProfilesState) = some w') :
    Ready mRepository mPlatform i w' := by
  obtain rfl := Option.some.inj hs
  refine Or.inl (Or.inl ?_)
  rw [Duplex.react_link_peer]
  exact List.mem_append_right _ (List.mem_singleton.mpr rfl)

/-- What is under way stays so where nothing is taken from a link. -/
theorem Awaits.react {j : Side} {r : Reaction PmpCore PMPFrame Notice} (h : Awaits w i) :
    Awaits (w.react Side.other j r) i := by
  have hmem : ∀ k x, x ∈ w.link k → x ∈ (w.react Side.other j r).link k := by
    intro k x hx
    by_cases hk : k = j.other
    · subst hk
      rw [Duplex.react_link_peer]
      exact List.mem_append_left _ hx
    · rwa [Duplex.react_link_ne _ _ _ hk]
  rcases h with h | ⟨data, h⟩
  · exact Or.inl (hmem _ _ h)
  · exact Or.inr ⟨data, hmem _ _ h⟩

theorem sent_to {r : Reaction PmpCore PMPFrame Notice} {x : PMPFrame} (h : x ∈ r.sent) :
    x ∈ (w.react Side.other i.other r).link i := by
  have hpeer := Duplex.react_link_peer w Side.other i.other r
  rw [Side.other_other] at hpeer
  rw [hpeer]
  exact List.mem_append_right _ h

/-- A message is taken that is neither a response to the side nor a request of it. -/
theorem Awaits.drop {j : Side} {x : PMPFrame} {rest : List PMPFrame} (h : Awaits w i)
    (hlink : w.link j = x :: rest)
    (hrequest : j = i.other → x ≠ .PMP_REQ_CORE_GET_COMPLEMENTS_REQUEST)
    (hresponse : j = i → ∀ data, x ≠ .PMP_REQ_CORE_GET_COMPLEMENTS_RESPONSE data) :
    Awaits { w with link := Function.update w.link j rest } i := by
  have hmem : ∀ k y, y ∈ w.link k → (k = j → x ≠ y) → y ∈ Function.update w.link j rest k := by
    intro k y hy hne
    by_cases hk : k = j
    · subst hk
      rw [hlink] at hy
      rw [Function.update_self]
      exact (List.mem_cons.mp hy).resolve_left fun heq => hne rfl heq.symm
    · rwa [Function.update_of_ne hk]
  rcases h with h | ⟨data, h⟩
  · exact Or.inl (hmem _ _ h fun hk => hrequest hk.symm)
  · exact Or.inr ⟨data, hmem _ _ h fun hk => hresponse hk.symm data⟩

/-- What a side has enabled is not changed by what the other one does. -/
theorem Ready.react_other {r : Reaction PmpCore PMPFrame Notice} {j : Side} (hj : i ≠ j)
    (h : Ready mRepository mPlatform i w) :
    Ready mRepository mPlatform i (w.react Side.other j r) := by
  rcases h with h | h
  · exact Or.inl h.react
  · refine Or.inr ?_
    rwa [Duplex.react_state_ne _ _ _ hj]

theorem ready_step (hsound : Sound mRepository mPlatform w) (h : Ready mRepository mPlatform i w)
    (hreload : a ≠ .act i .reloadProfilesFromRepository) (hlost : a ≠ .act i .onLostConnection)
    (hs : step w a = some w') : Ready mRepository mPlatform i w' := by
  cases Duplex.step_cases hs with
  | @act j op r hact =>
    by_cases hj : i = j
    · subst hj
      cases op with
      | reloadProfilesFromRepository => exact absurd rfl hreload
      | resetProfilesState => exact ready_reset hs
      | onLostConnection => exact absurd rfl hlost
    · exact h.react_other hj
  | @deliver j b x rest r hlink hreceive =>
    cases x with
    | PMP_REQ_CORE_GET_COMPLEMENTS_REQUEST =>
      obtain ⟨data, hdata, rfl⟩ := onCoreRequest_request hreceive
      rcases Side.eq_or i j with rfl | rfl
      · rcases h with h | h
        · refine Or.inl (Awaits.drop h hlink ?_ fun _ _ heq => PMPFrame.noConfusion heq).react
          exact fun heq => absurd heq.symm (Side.other_ne j)
        · refine Or.inr ?_
          rw [Duplex.react_state_self]
          exact h
      · -- the answer is on its way
        exact Or.inl (Or.inr ⟨data, sent_to (List.mem_singleton.mpr rfl)⟩)
    | PMP_REQ_CORE_GET_COMPLEMENTS_RESPONSE data =>
      obtain ⟨complements, hread, rfl⟩ := onCoreRequest_response hreceive
      obtain rfl := response_read (hsound.responses j data (hlink ▸ List.mem_cons_self)) hread
      rcases Side.eq_or i j with rfl | rfl
      · refine Or.inr ?_
        rw [Duplex.react_state_self]
        intro p hp hcomplemented
        obtain ⟨p₀, -, -, hiff⟩ := enabled_of_response hp
        exact hiff.mpr (Or.inr hcomplemented)
      · refine Ready.react_other (Side.other_ne i).symm ?_
        rcases h with h | h
        · refine Or.inl (Awaits.drop h hlink (fun _ heq => PMPFrame.noConfusion heq) ?_)
          exact fun heq => absurd heq (Side.other_ne i)
        · exact Or.inr h

/-- **What a run with a reset leads to.** -/
theorem ready_of_hasReset {as : List Action} (hr : run step (init mRepository mPlatform) as = some w)
    (hreset : HasReset as i) : Ready mRepository mPlatform i w := by
  obtain ⟨bs, cs, rfl, hreload, hlost⟩ := hreset
  have hsound : ∀ {ds : List Action} {v : PmpCores},
      run step (init mRepository mPlatform) ds = some v → Sound mRepository mPlatform v :=
    fun hv => run_invariant (P := fun _ _ => True) (fun _ _ _ h _ hs => sound_step h hs)
      sound_init (along_of_mem fun _ _ _ => trivial) hv
  rw [run_append] at hr
  obtain ⟨v, hv, hr⟩ := Option.bind_eq_some_iff.mp hr
  obtain ⟨u, hu, hr⟩ := run_cons hr
  refine (run_invariant (I := fun w => Sound mRepository mPlatform w ∧
    Ready mRepository mPlatform i w) (P := fun _ a => a ∈ cs) ?_
    ⟨sound_step (hsound hv) hu, ready_reset hu⟩ (along_of_mem fun a ha _ => ha) hr).2
  rintro v a v' ⟨hsound, hready⟩ ha hs
  refine ⟨sound_step hsound hs, ready_step hsound hready ?_ ?_ hs⟩
  · rintro rfl
    exact hreload ha
  · rintro rfl
    exact hlost ha

/-! ## When all messages have been processed -/

theorem complemented_iff (h : Sound mRepository mPlatform w) {l : LibInfo} :
    Complemented (theirs mRepository mPlatform i) l ↔
      ∃ q ∈ (w.state i.other).mProfiles,
        q.mLibInfo.uid = l.complement ∧ q.mLibInfo.version = l.version := by
  rw [Complemented, theirs, ← h.libs i.other, PmpCore.libs, List.map_map, List.mem_map]
  simp only [Function.comp_apply, Prod.mk.injEq]

theorem sound_run {as : List Action} (hr : run step (init mRepository mPlatform) as = some w) :
    Sound mRepository mPlatform w :=
  run_invariant (P := fun _ _ => True) (fun _ _ _ h _ hs => sound_step h hs) sound_init
    (along_of_mem fun _ _ _ => trivial) hr

theorem enabled_iff {as : List Action} (hr : run step (init mRepository mPlatform) as = some w)
    (hq : Quiet w) (hreset : HasReset as i) {p : PmpCoreProfileInfo}
    (hp : p ∈ (w.state i).mProfiles) :
    p.mEnabledByComplement = true ↔ ∃ q ∈ (w.state i.other).mProfiles,
      q.mLibInfo.uid = p.mLibInfo.complement ∧ q.mLibInfo.version = p.mLibInfo.version := by
  have hsound := sound_run hr
  rw [← complemented_iff hsound]
  refine ⟨hsound.enabled i p hp, ?_⟩
  rcases ready_of_hasReset hr hreset with (h | ⟨data, h⟩) | h
  · rw [hq] at h
    exact absurd h List.not_mem_nil
  · rw [hq] at h
    exact absurd h List.not_mem_nil
  · exact h p hp

/-- A profile that a core has is in its repository. -/
theorem Sound.mem (h : Sound mRepository mPlatform w) {p : PmpCoreProfileInfo}
    (hp : p ∈ (w.state i).mProfiles) : p.mLibInfo ∈ mRepository i := by
  have hmem : p.mLibInfo ∈ (w.state i).libs := List.mem_map_of_mem hp
  rw [h.libs] at hmem
  exact (List.mem_filter.mp hmem).1

/-- The complement of an enabled profile is enabled. -/
theorem enabled_complement (hsym : Symmetric mRepository) {as : List Action}
    (hr : run step (init mRepository mPlatform) as = some w) (hq : Quiet w)
    (hreset : ∀ i, HasReset as i) {p : PmpCoreProfileInfo} (hp : p ∈ (w.state i).mProfiles)
    (henabled : p.mEnabledByComplement = true) :
    ∃ q ∈ (w.state i.other).mProfiles, q.mEnabledByComplement = true ∧
      q.mLibInfo.uid = p.mLibInfo.complement ∧ q.mLibInfo.complement = p.mLibInfo.uid ∧
      q.mLibInfo.version = p.mLibInfo.version := by
  have hsound := sound_run hr
  obtain ⟨q, hmem, huid, hversion⟩ := (enabled_iff hr hq (hreset i) hp).mp henabled
  have hback : q.mLibInfo.complement = p.mLibInfo.uid :=
    hsym i _ (hsound.mem hp) _ (hsound.mem hmem) huid
  refine ⟨q, hmem, ?_, huid, hback, hversion⟩
  refine (enabled_iff hr hq (hreset i.other) hmem).mpr ⟨p, ?_, hback.symm, hversion.symm⟩
  rwa [Side.other_other]

/-- Messages can be processed where an `int` can count the lists. -/
theorem deliver_total (h : Sound mRepository mPlatform w)
    (hfits : ∀ i, (responseData (theirs mRepository mPlatform i)).length ≤ INT_MAX)
    (hne : w.link i ≠ []) : ∃ w', step w (.deliver i ()) = some w' := by
  cases hlink : w.link i with
  | nil => exact absurd hlink hne
  | cons x rest =>
    have hreceive : ∃ r, (w.state i).onCoreRequest x = some r := by
      cases x with
      | PMP_REQ_CORE_GET_COMPLEMENTS_REQUEST =>
        have hsent := (response_exchanged (hfits i.other)).1
        rw [← h.complements] at hsent
        exact ⟨_, by rw [PmpCore.onCoreRequest, hsent]⟩
      | PMP_REQ_CORE_GET_COMPLEMENTS_RESPONSE data =>
        obtain ⟨heq, -⟩ := response_sent (h.responses i data (hlink ▸ List.mem_cons_self))
        obtain rfl := PMPFrame.PMP_REQ_CORE_GET_COMPLEMENTS_RESPONSE.inj heq
        have hread := (response_exchanged (hfits i)).2
        exact ⟨_, by rw [PmpCore.onCoreRequest, hread]⟩
    obtain ⟨r, hr⟩ := hreceive
    exact ⟨_, Duplex.step_deliver hlink hr⟩

/-- **Two cores that have reset their profiles agree on the complements once all messages have
been processed; and after the connection is lost no profile is enabled.** -/
theorem complements_match {as : List Action} (hsym : Symmetric mRepository)
    (hr : run step (init mRepository mPlatform) as = some w) :
    (Quiet w → (∀ i, HasReset as i) → ∀ i, ∀ p ∈ (w.state i).mProfiles,
      (p.mEnabledByComplement = true ↔ ∃ q ∈ (w.state i.other).mProfiles,
        q.mLibInfo.uid = p.mLibInfo.complement ∧ q.mLibInfo.version = p.mLibInfo.version) ∧
      (p.mEnabledByComplement = true → ∃ q ∈ (w.state i.other).mProfiles,
        q.mEnabledByComplement = true ∧ q.mLibInfo.uid = p.mLibInfo.complement ∧
        q.mLibInfo.complement = p.mLibInfo.uid ∧ q.mLibInfo.version = p.mLibInfo.version)) ∧
    (∀ i w', step w (.act i .onLostConnection) = some w' →
      ∀ p ∈ (w'.state i).mProfiles, p.mEnabledByComplement = false) ∧
    ((∀ i, (responseData (w.state i).getAvailableProfileComplements).length ≤ INT_MAX) →
      ∀ i, w.link i ≠ [] → ∃ w', step w (.deliver i ()) = some w') := by
  refine ⟨?_, ?_, ?_⟩
  · intro hq hreset i p hp
    exact ⟨enabled_iff hr hq (hreset i) hp, enabled_complement hsym hr hq hreset hp⟩
  · intro i w' hs p hp
    obtain rfl := Option.some.inj hs
    rw [Duplex.react_state_self] at hp
    exact not_enabled_disableByComplementAll hp
  · intro hfits i hne
    refine deliver_total (sound_run hr) (fun j => ?_) hne
    have hfits := hfits j.other
    rwa [(sound_run hr).complements, Side.other_other] at hfits

end Cores

/-- Two sides with a profile and its complement, and another version that only the first one has
for its platform. -/
def pairRepository : Side → List LibInfo
  | .a => [⟨[1], [2], 3, [7]⟩, ⟨[1], [2], 4, [7]⟩]
  | .b => [⟨[2], [1], 3, [8]⟩, ⟨[2], [1], 4, [7]⟩]

def pairPlatform : Side → List UInt8
  | .a => [7]
  | .b => [8]

/-- Both reset their profiles, and the requests cross. -/
def crossing : List Action :=
  [.act .a .resetProfilesState, .act .b .resetProfilesState, .deliver .a (), .deliver .b (),
   .deliver .a (), .deliver .b ()]

theorem complements_match_crossing :
    ∃ w, run step (init pairRepository pairPlatform) crossing = some w ∧
      ((w.state .a).mProfiles.map (·.mEnabledByComplement) = [true, false]) ∧
      (∀ i, ∀ p ∈ (w.state i).mProfiles,
        (p.mEnabledByComplement = true ↔ ∃ q ∈ (w.state i.other).mProfiles,
          q.mLibInfo.uid = p.mLibInfo.complement ∧ q.mLibInfo.version = p.mLibInfo.version)) := by
  have hsym : Symmetric pairRepository := by
    unfold Symmetric
    rintro (_ | _) <;> decide
  have hreset : ∀ i, HasReset crossing i := by
    rintro (_ | _)
    · exact ⟨[], crossing.drop 1, rfl, by simp [crossing], by simp [crossing]⟩
    · exact ⟨crossing.take 1, crossing.drop 2, rfl, by simp [crossing], by simp [crossing]⟩
  have hmatch := fun w (hr : run step (init pairRepository pairPlatform) crossing = some w)
    (hq : Quiet w) i p hp => ((complements_match hsym hr).1 hq hreset i p hp).1
  refine ⟨_, rfl, rfl, hmatch _ rfl ?_⟩
  rintro (_ | _)
  · rfl
  · rfl

end IviLink.ProfileManager.Complements
