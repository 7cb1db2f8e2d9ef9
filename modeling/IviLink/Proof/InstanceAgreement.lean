import IviLink.ProfileManager.PmpPim
import Mathlib.Data.List.Perm.Basic

/-!
# Which instances both sides have

An instance that is created on one side is created on the other one, unless its death is handled
there before. For one instance the two sides are a `Tally` each: whether it is registered, how
many creations of it have come and are not done, how many notices of its death are on their way.
What a step does to the two is a `Move`, whatever the containers look like, and moves keep them
`Balanced`: when one side has the instance and the other does not, a notice of the death is on its
way. In the end nothing is, so both have it or none.

A death that is handled while the creation is under way would be lost, and the balance with it.
-/

namespace IviLink.ProfileManager.PIM

open IviLink.L0 (Side)
open IviLink.Lib

/-! ## One instance -/

/-- What a side has of one instance. -/
structure Tally where
  registered : Bool
  /-- Creations for the other side for which no client has been asked. -/
  coming : Nat
  /-- Creations that clients have been asked for, or have called for. -/
  creating : Nat
  /-- Notices that the instance has died on the other side. -/
  dying : Nat
  /-- It is in `mIncomingProfiles`. -/
  incoming : Bool
  deriving DecidableEq, Repr

namespace Tally

/-- Nothing is known of the instance. -/
def none : Tally := ⟨false, 0, 0, 0, false⟩

/-- A client has called for its creation, for the first time. -/
def called : Tally := ⟨false, 0, 1, 0, false⟩

/-- How often the instance is there, or is going to be. -/
def here (x : Tally) : Nat := x.registered.toNat + x.coming + x.creating

/-- What the other side has sent is on its way. -/
def sent (x : Tally) (creations deaths : Nat) : Tally :=
  { x with coming := x.coming + creations, dying := x.dying + deaths }

def add (x : Tally) (coming creating dying : Nat) : Tally :=
  { x with
    coming := x.coming + coming
    creating := x.creating + creating
    dying := x.dying + dying }

/-- What an event changes on its side, with the creations and the deaths that are sent. -/
inductive Move : Tally → Tally → Nat → Nat → Prop
  | stay {x} : Move x x 0 0
  /-- A client answers. -/
  | answer {x k} : x.creating = k + 1 → x.registered = false → x.incoming = true →
      Move x { x with registered := true, creating := k, incoming := false } 0 0
  /-- A client creates it. -/
  | create {x k} : x.creating = k + 1 → x.registered = false → x.incoming = false →
      Move x { x with registered := true, creating := k, incoming := false } 1 0
  /-- It is there already. -/
  | refuse {x k} : x.creating = k + 1 → x.registered = true →
      Move x { x with creating := k, incoming := false } 0 0
  | die {x} : x.registered = true → Move x { x with registered := false } 0 1
  /-- It has died on the other side, and nothing is under way here. -/
  | notice {x k} : x.dying = k + 1 → x.coming = 0 → x.creating = 0 →
      Move x { x with registered := false, dying := k } 0 0
  /-- A client is asked for it. -/
  | ask {x k} : x.coming = k + 1 → x.registered = false →
      Move x { x with coming := k, creating := x.creating + 1, incoming := true } 0 0
  /-- It is there already. -/
  | drop {x k} : x.coming = k + 1 → x.registered = true → Move x { x with coming := k } 0 0

/-- What holds of a side, and of the other one. -/
structure Balanced (x y : Tally) : Prop where
  once : x.here ≤ 1
  asked : x.incoming = true ↔ 0 < x.creating
  both : x.here = 1 → y.here = 1 → x.dying = 0
  left : x.here = 1 → y.here = 0 → x.dying = 1 ∧ y.dying = 0

theorem Move.to {x y y' : Tally} {creations deaths : Nat} (h : Move x y creations deaths)
    (heq : y' = y) : Move x y' creations deaths := heq ▸ h

@[simp] theorem sent_nothing (x : Tally) : x.sent 0 0 = x := rfl

@[simp] theorem sent_here (x : Tally) (deaths : Nat) : (x.sent 0 deaths).here = x.here := rfl

/-- A move that leaves the instance where it is, and no notice. -/
theorem Balanced.of_here {x x' y : Tally} (hx : Balanced x y) (hy : Balanced y x)
    (hhere : x'.here = x.here) (hdying : x'.dying = x.dying)
    (hasked : x'.incoming = true ↔ 0 < x'.creating) : Balanced x' y ∧ Balanced y x' := by
  refine ⟨⟨?_, hasked, ?_, ?_⟩, ⟨hy.once, hy.asked, ?_, ?_⟩⟩
  · rw [hhere]
    exact hx.once
  · rw [hhere, hdying]
    exact hx.both
  · rw [hhere, hdying]
    exact hx.left
  · rw [hhere]
    exact hy.both
  · rw [hhere, hdying]
    exact hy.left

/-- A move after which the instance is not there. -/
theorem Balanced.of_gone {x x' y : Tally} (deaths : Nat) (hy : Balanced y x) (hhere : x'.here = 0)
    (hasked : x'.incoming = true ↔ 0 < x'.creating)
    (hleft : y.here = 1 → y.dying + deaths = 1 ∧ x'.dying = 0) :
    Balanced x' (y.sent 0 deaths) ∧ Balanced (y.sent 0 deaths) x' := by
  refine ⟨⟨by omega, hasked, by omega, by omega⟩, ⟨hy.once, hy.asked, by omega, ?_⟩⟩
  intro hthere _
  exact hleft hthere

/-- An instance that is registered is there once: nothing of it is under way. -/
theorem Balanced.alone {x y : Tally} (hx : Balanced x y) (h : x.registered = true) :
    x.here = 1 ∧ x.coming = 0 ∧ x.creating = 0 := by
  have honce := hx.once
  rw [here, h, Bool.toNat_true] at honce ⊢
  omega

/-- **A move keeps the balance.** -/
theorem Move.balanced {x x' y : Tally} {creations deaths : Nat} (h : Move x x' creations deaths)
    (hx : Balanced x y) (hy : Balanced y x) :
    Balanced x' (y.sent creations deaths) ∧ Balanced (y.sent creations deaths) x' := by
  have honce := hx.once
  have hasked := hx.asked
  cases h with
  | stay => exact ⟨hx, hy⟩
  | answer hcreating hregistered hincoming =>
    rw [here, hregistered, Bool.toNat_false] at honce
    refine hx.of_here hy ?_ rfl ?_
    · simp only [here, hregistered, Bool.toNat_true, Bool.toNat_false]
      omega
    · simp only [Bool.false_eq_true, false_iff]
      omega
  | create hcreating hregistered hincoming =>
    rw [hincoming] at hasked
    simp only [Bool.false_eq_true, false_iff] at hasked
    omega
  | refuse hcreating hregistered =>
    have := (hx.alone hregistered).2.2
    omega
  | die hregistered =>
    obtain ⟨hhere, hcoming, hcreating⟩ := hx.alone hregistered
    refine hy.of_gone 1 ?_ hasked ?_
    · simp only [here, Bool.toNat_false]
      omega
    · intro hthere
      refine ⟨?_, hx.both hhere hthere⟩
      rw [hy.both hthere hhere]
  | notice hdying hcoming hcreating =>
    refine hy.of_gone 0 ?_ hasked ?_
    · simp only [here, Bool.toNat_false]
      omega
    · intro hthere
      -- the other side has it, so there would be no notice
      rcases Nat.le_one_iff_eq_zero_or_eq_one.mp honce with hhere | hhere
      · have := (hy.left hthere hhere).2
        omega
      · have := hx.both hhere hthere
        omega
  | ask hcoming hregistered =>
    rw [here, hregistered, Bool.toNat_false] at honce
    refine hx.of_here hy ?_ rfl ?_
    · simp only [here, hregistered, Bool.toNat_false]
      omega
    · simp only [true_iff]
      omega
  | drop hcoming hregistered =>
    have := (hx.alone hregistered).2.1
    omega

/-- Once nothing is under way the other side has the instance as well. -/
theorem Balanced.settled {registered registered' incoming incoming' : Bool}
    (h : Balanced ⟨registered, 0, 0, 0, incoming⟩ ⟨registered', 0, 0, 0, incoming'⟩)
    (hreg : registered = true) : registered' = true := by
  subst hreg
  cases registered' with
  | true => rfl
  | false => exact absurd (h.left rfl rfl).1 Nat.zero_ne_one

/-- What is known of an instance on the two sides of a run. -/
inductive Phase : Prop → (Side → Tally) → Prop
  | fresh {made t} : ¬ made → (∀ i, t i = none) → Phase made t
  | called {made : Prop} {t} (i : Side) : made → t i = called → t i.other = none → Phase made t
  | shared {made : Prop} {t} : made → (∀ i, Balanced (t i) (t i.other)) → Phase made t

/-- What a side sends is on its way to the other one. -/
def Moves (t t' : Side → Tally) : Prop :=
  ∃ i creations deaths, Move (t i) (t' i) creations deaths ∧
    t' i.other = (t i.other).sent creations deaths

theorem Move.of_none {x : Tally} {creations deaths : Nat} (h : Move none x creations deaths) :
    x = none ∧ creations = 0 ∧ deaths = 0 := by
  cases h with
  | stay => exact ⟨rfl, rfl, rfl⟩
  | answer h | create h | refuse h | notice h | ask h | drop h => exact absurd h (by simp [none])
  | die h => exact absurd h (by simp [none])

/-- What a client has called for can only be created. -/
theorem Move.of_called {x : Tally} {creations deaths : Nat} (h : Move called x creations deaths) :
    (x = called ∧ creations = 0 ∧ deaths = 0) ∨
      (x = { none with registered := true } ∧ creations = 1 ∧ deaths = 0) := by
  cases h with
  | stay => exact .inl ⟨rfl, rfl, rfl⟩
  | create h =>
    obtain rfl := Nat.succ.inj h
    exact .inr ⟨rfl, rfl, rfl⟩
  | answer _ _ h => exact absurd h (by simp [called])
  | refuse _ h | die h | drop _ h => exact absurd h (by simp [called])
  | notice h | ask h => exact absurd h (by simp [called])

/-- When an instance is created no notice of its death is on its way to the other side. -/
theorem Phase.silent {made : Prop} {t : Side → Tally} (h : Phase made t) {i : Side} {x : Tally}
    {creations deaths : Nat} (hmove : Move (t i) x creations deaths) (hcreates : creations ≠ 0) :
    (t i.other).dying = 0 := by
  cases h with
  | fresh hmade hnone =>
    rw [hnone]
    rfl
  | called j hmade hcalled hnone =>
    rcases Side.eq_or j i with rfl | rfl
    · rw [hnone]
      rfl
    · rw [Side.other_other, hcalled]
      rfl
  | shared hmade hbalanced =>
    -- a client creates what it has not been asked for, and nothing of it is under way
    cases hmove with
    | create hcreating _ hincoming =>
      have hasked := (hbalanced i).asked
      rw [hincoming] at hasked
      simp only [Bool.false_eq_true, false_iff] at hasked
      omega
    | _ => exact absurd rfl hcreates

theorem Phase.moves {made : Prop} {t t' : Side → Tally} (h : Phase made t) (hmoves : Moves t t') :
    Phase made t' := by
  obtain ⟨i, creations, deaths, hmove, hother⟩ := hmoves
  cases h with
  | fresh hmade hnone =>
    rw [hnone] at hmove hother
    obtain ⟨hself, rfl, rfl⟩ := hmove.of_none
    refine .fresh hmade fun j => ?_
    rcases Side.eq_or i j with rfl | rfl
    · exact hself
    · exact hother
  | called j hmade hcalled hnone =>
    rcases Side.eq_or j i with rfl | rfl
    · rw [hcalled] at hmove
      rw [hnone] at hother
      rcases hmove.of_called with ⟨hself, rfl, rfl⟩ | ⟨hself, rfl, rfl⟩
      · exact .called i hmade hself hother
      · refine .shared hmade fun j => ?_
        rcases Side.eq_or i j with rfl | rfl
        · rw [hself, hother]
          exact ⟨by decide, by decide, by decide, by decide⟩
        · rw [Side.other_other, hself, hother]
          exact ⟨by decide, by decide, by decide, by decide⟩
    · rw [hnone] at hmove
      rw [Side.other_other, hcalled] at hother
      obtain ⟨hself, rfl, rfl⟩ := hmove.of_none
      exact .called j hmade hother hself
  | shared hmade hbalanced =>
    have hback := hbalanced i.other
    rw [Side.other_other] at hback
    obtain ⟨hself, hthere⟩ := hmove.balanced (hbalanced i) hback
    rw [← hother] at hself hthere
    refine .shared hmade fun j => ?_
    rcases Side.eq_or i j with rfl | rfl
    · exact hself
    · rw [Side.other_other]
      exact hthere

end Tally

/-! ## What an event does -/

/-- The side has the profile. -/
def Has (libs : List LibInfo) (profileUid : Uid) : Prop := ∃ l ∈ libs, l.uid = profileUid

theorem Has.find {libs : List LibInfo} {profileUid : Uid} (h : Has libs profileUid) :
    ∃ l ∈ libs, (PmpCore.mk (libs.map .init)).find profileUid = some l := by
  obtain ⟨l, hl, huid⟩ := h
  have hmap : (libs.map PmpCoreProfileInfo.init).map (·.mLibInfo) = libs := by
    rw [List.map_map]
    exact List.map_id libs
  rw [PmpCore.find, hmap]
  cases hfind : libs.find? (·.uid = profileUid) with
  | none => exact absurd (List.find?_eq_none.mp hfind l hl) (by simpa using huid)
  | some l' => exact ⟨l', List.mem_of_find?_eq_some hfind, rfl⟩

/-- The instance manager of a side with these profiles. -/
structure PmpPim.Sound (libs : List LibInfo) (s : PmpPim) : Prop where
  core : s.mCore = ⟨libs.map .init⟩
  registry : s.mRegistry.Sound
  single : s.mPendingServiceMap.length ≤ 1

/-- The direction whose application the event asks for. -/
def PimEvent.direction : PimEvent → Option DirectionID
  | .PimIpcCreateProfile _ _ _ dirId => some dirId
  | .PimIpcReadyToServe _ dirId => some dirId
  | _ => none

/-- The profile and the application of an event are known. -/
def PimEvent.Known (libs : List LibInfo) (r : ClientAppRegistry) : PimEvent → Prop
  | .PimIpcCreateProfile profileUid _ _ _ => Has libs profileUid
  | .PimProtocolCreateProfile profileUid _ _ => Has libs profileUid
  | .InternalPimProcessIncomingProfile appId profileUid _ _ => Has libs profileUid ∧ r.Serves appId
  | _ => True

/-- So is its direction. -/
def PimEvent.Ready (libs : List LibInfo) (r : ClientAppRegistry) (event : PimEvent) : Prop :=
  event.Known libs r ∧ ∀ dirId ∈ event.direction, dirId ∈ r.mDirIdAppMap

open ClientAppRegistry (Becomes)

/-- What can become of an event. -/
inductive Handled (libs : List LibInfo) (s : PmpPim) : PimEvent → Effect → Prop
  | onConnection {dirId appId mRegistry} : mRegistry.Sound →
      (∀ piuid, mRegistry.registered piuid = s.mRegistry.registered piuid) →
      mRegistry.mDirIdAppMap = s.mRegistry.mDirIdAppMap.insert dirId appId →
      dirId ∉ s.mRegistry.mDirIdAppMap →
      Handled libs s (.PimIpcOnConnection dirId) { pim := { s with mRegistry } }
  | answer {profileUid piuid sid dirId mRegistry} : s.mRegistry.registered piuid = false →
      s.mIncomingProfiles.contains piuid = true →
      s.mRegistry.Becomes mRegistry (fun p => p == piuid || s.mRegistry.registered p) →
      Handled libs s (.PimIpcCreateProfile profileUid piuid sid dirId)
        { pim := { s with mIncomingProfiles := s.mIncomingProfiles.erase piuid, mRegistry } }
  | create {profileUid piuid sid dirId mRegistry l} : s.mRegistry.registered piuid = false →
      s.mIncomingProfiles.contains piuid = false →
      s.mRegistry.Becomes mRegistry (fun p => p == piuid || s.mRegistry.registered p) →
      l ∈ libs →
      Handled libs s (.PimIpcCreateProfile profileUid piuid sid dirId)
        { pim := { s with mIncomingProfiles := s.mIncomingProfiles.erase piuid, mRegistry }
          sent := [.PMP_REQ_PIM_CREATE_PROFILE l.complement piuid sid] }
  | refuse {profileUid piuid sid dirId} : s.mRegistry.registered piuid = true →
      Handled libs s (.PimIpcCreateProfile profileUid piuid sid dirId)
        { pim := { s with mIncomingProfiles := s.mIncomingProfiles.erase piuid } }
  | die {piuid dirId sid mRegistry} : s.mRegistry.registered piuid = true →
      s.mRegistry.Becomes mRegistry (fun p => p != piuid && s.mRegistry.registered p) →
      Handled libs s (.PimIpcProfileDied piuid dirId)
        { pim := { s with mRegistry }, sent := [.PMP_REQ_PIM_PROFILE_DIED piuid sid] }
  | dead {piuid dirId} : Handled libs s (.PimIpcProfileDied piuid dirId) { pim := s }
  | unknown {sesUid dirId} : Handled libs s (.PimIpcReadyToServe sesUid dirId) { pim := s }
  | readyToServe {sesUid dirId x appId mRegistry} : s.mPendingServiceMap = [(sesUid, x)] →
      s.mRegistry.Serves appId → s.mRegistry.Becomes mRegistry s.mRegistry.registered →
      Handled libs s (.PimIpcReadyToServe sesUid dirId)
        { pim := { s with mRegistry, mPendingServiceMap := [] }
          events := [PmpPim.saveIncomingProfileForProcessing appId x] }
  | putBack {profileUid piuid sid} :
      Handled libs s (.PimProtocolCreateProfile profileUid piuid sid)
        { pim := s, timeouts := [⟨profileUid, piuid, sid⟩] }
  | serve {profileUid piuid sid appId} : s.mRegistry.Serves appId →
      Handled libs s (.PimProtocolCreateProfile profileUid piuid sid)
        { pim := s
          events := [PmpPim.saveIncomingProfileForProcessing appId ⟨profileUid, piuid, sid⟩] }
  | start {profileUid piuid sid sesUid} : s.mPendingServiceMap = [] →
      Handled libs s (.PimProtocolCreateProfile profileUid piuid sid)
        { pim := { s with mPendingServiceMap := [(sesUid, ⟨profileUid, piuid, sid⟩)] }
          told := [.applicationRequest sesUid sid] }
  | notice {piuid sid mRegistry told} :
      s.mRegistry.Becomes mRegistry (fun p => p != piuid && s.mRegistry.registered p) →
      told.filterMap Notice.asks = [] →
      Handled libs s (.PimProtocolProfileDied piuid sid) { pim := { s with mRegistry }, told }
  | ask {appId profileUid papiUid piuid sid dirId} : s.mRegistry.registered piuid = false →
      dirId ∈ s.mRegistry.mDirIdAppMap →
      Handled libs s (.InternalPimProcessIncomingProfile appId profileUid piuid sid)
        { pim := { s with mIncomingProfiles := s.mIncomingProfiles.insert piuid }
          told := [.incomingProfile profileUid papiUid piuid sid dirId] }
  | drop {appId profileUid piuid sid} : s.mRegistry.registered piuid = true →
      Handled libs s (.InternalPimProcessIncomingProfile appId profileUid piuid sid) { pim := s }

namespace PmpPim

variable {libs : List LibInfo} {s : PmpPim} {x : Effect}

theorem createProfile_cases (hs : s.Sound libs) {profileUid : Uid} {piuid : IUid}
    {sid : ServiceUid} {dirId : DirectionID} (hhas : Has libs profileUid)
    (hdir : dirId ∈ s.mRegistry.mDirIdAppMap)
    (h : s.createProfile profileUid piuid sid dirId = some x) :
    Handled libs s (.PimIpcCreateProfile profileUid piuid sid dirId) x := by
  obtain ⟨appId, happ⟩ := Option.isSome_iff_exists.mp (Std.TreeMap.mem_iff_isSome_getElem?.mp hdir)
  rw [createProfile, ClientAppRegistry.findAppByDirId_eq.mpr happ] at h
  dsimp only at h
  cases hreg : s.mRegistry.registered piuid with
  | true =>
    rw [ClientAppRegistry.registerProfile_known (by exact hreg)] at h
    obtain rfl := Option.some.inj h
    exact .refuse hreg
  | false =>
    obtain ⟨r, hr, hbecomes⟩ :=
      hs.registry.registerProfile ⟨piuid, sid, profileUid⟩ ⟨dirId, happ⟩ hreg
    rw [hr] at h
    dsimp only at h
    cases hincoming : s.mIncomingProfiles.contains piuid with
    | true =>
      rw [if_pos hincoming] at h
      obtain rfl := Option.some.inj h
      exact .answer hreg hincoming hbecomes
    | false =>
      obtain ⟨l, hl, hfind⟩ := hhas.find
      rw [if_neg (by rw [hincoming]; exact Bool.false_ne_true), hs.core, PmpCore.getComplementary, hfind] at h
      obtain rfl := Option.some.inj h
      rw [← hs.core]
      exact .create hreg hincoming hbecomes hl

theorem profileDied_cases (hs : s.Sound libs) {piuid : IUid} {dirId : DirectionID}
    (h : s.profileDied piuid = some x) : Handled libs s (.PimIpcProfileDied piuid dirId) x := by
  rw [profileDied] at h
  cases hreg : s.mRegistry.registered piuid with
  | true =>
    obtain ⟨sid, hsid⟩ := hs.registry.findSidByPIUID hreg
    obtain ⟨r, hr, hbecomes⟩ := hs.registry.unregisterProfile hreg
    rw [hsid] at h
    dsimp only at h
    rw [hr] at h
    obtain rfl := Option.some.inj h
    exact .die hreg hbecomes
  | false =>
    rw [ClientAppRegistry.findSidByPIUID_unknown hreg] at h
    obtain rfl := Option.some.inj h
    exact .dead

theorem readyToServe_cases (hs : s.Sound libs) {sesUid : SessionUid} {dirId : DirectionID}
    (hdir : dirId ∈ s.mRegistry.mDirIdAppMap) :
    Handled libs s (.PimIpcReadyToServe sesUid dirId) (s.readyToServe sesUid dirId) := by
  obtain ⟨appId, happ⟩ := Option.isSome_iff_exists.mp (Std.TreeMap.mem_iff_isSome_getElem?.mp hdir)
  rw [readyToServe]
  split
  · exact .unknown
  · rename_i it hit
    have hses : it.1 = sesUid := by simpa using List.find?_some hit
    have hsingle : s.mPendingServiceMap = [it] := by
      have hmem := List.mem_of_find?_eq_some hit
      have hlen := hs.single
      match hmap : s.mPendingServiceMap, hmem, hlen with
      | [it'], hmem, _ => rw [List.mem_singleton.mp hmem]
    rw [ClientAppRegistry.findAppByDirId_eq.mpr happ]
    dsimp only
    rw [if_neg (hs.registry.profiled appId ⟨dirId, happ⟩).1, hsingle, ← hses]
    have hempty : [it].filter (fun it' => decide (it'.1 ≠ it.1)) = [] := by simp
    rw [hempty]
    exact .readyToServe hsingle ⟨dirId, happ⟩ (hs.registry.addServiceToApp it.2.sid)

theorem onCreateProfile_cases (hs : s.Sound libs) {uid : SessionUid} {profileUid : Uid}
    {piuid : IUid} {sid : ServiceUid}
    (h : s.handleEvent uid (.PimProtocolCreateProfile profileUid piuid sid) = some x) :
    Handled libs s (.PimProtocolCreateProfile profileUid piuid sid) x := by
  rw [handleEvent, onCreateProfile] at h
  split at h
  · obtain rfl := Option.some.inj h
    exact .putBack
  · rename_i hempty
    have hempty : s.mPendingServiceMap = [] := by simpa using hempty
    cases hfind : s.mRegistry.findAppBySid sid with
    | ok appId =>
      rw [hfind] at h
      obtain rfl := Option.some.inj h
      exact .serve (hs.registry.serves_of_findAppBySid hfind)
    | error err =>
      rw [hfind, hempty] at h
      obtain rfl := Option.some.inj h
      exact .start hempty

theorem onProfileDied_cases (hs : s.Sound libs) {piuid : IUid} {sid : ServiceUid}
    (h : s.onProfileDied piuid = some x) : Handled libs s (.PimProtocolProfileDied piuid sid) x := by
  rw [onProfileDied] at h
  cases hreg : s.mRegistry.registered piuid with
  | true =>
    obtain ⟨appId, happ⟩ := ClientAppRegistry.registered_iff.mp hreg
    obtain ⟨r, hr, hbecomes⟩ := hs.registry.unregisterProfile hreg
    rw [ClientAppRegistry.findAppByPIUID_eq.mpr happ] at h
    dsimp only at h
    rw [hr] at h
    dsimp only at h
    split at h
    · obtain rfl := Option.some.inj h
      exact .notice hbecomes rfl
    · obtain rfl := Option.some.inj h
      exact .notice hbecomes rfl
  | false =>
    rw [ClientAppRegistry.findAppByPIUID_unknown hreg] at h
    obtain rfl := Option.some.inj h
    -- nothing changes, which is the same as to take out what is not there
    have hsame : s.mRegistry.Becomes s.mRegistry fun p => p != piuid && s.mRegistry.registered p := by
      refine ⟨hs.registry, ?_, rfl⟩
      intro p
      by_cases hp : p = piuid
      · simp [hp, hreg]
      · simp [hp]
    exact .notice hsame rfl

theorem processIncomingProfile_cases (hs : s.Sound libs) {appId profileUid : Uid} {piuid : IUid}
    {sid : ServiceUid} (hhas : Has libs profileUid) (hserves : s.mRegistry.Serves appId) :
    Handled libs s (.InternalPimProcessIncomingProfile appId profileUid piuid sid)
      (s.processIncomingProfile appId profileUid piuid sid) := by
  obtain ⟨l, hl, hfind⟩ := hhas.find
  obtain ⟨dirId, hdir⟩ := hserves.findDirIdByApp
  have hmem : dirId ∈ s.mRegistry.mDirIdAppMap := by
    rw [Std.TreeMap.mem_iff_isSome_getElem?, ClientAppRegistry.serves_of_findDirIdByApp hdir]
    rfl
  rw [processIncomingProfile, hs.core, PmpCore.getPapiUid, hfind, hdir]
  dsimp only [Option.map_some]
  rw [← hs.core]
  cases hreg : s.mRegistry.registered piuid with
  | true =>
    obtain ⟨appId', happ⟩ := ClientAppRegistry.registered_iff.mp hreg
    rw [ClientAppRegistry.findAppByPIUID_eq.mpr happ]
    exact .drop hreg
  | false =>
    rw [ClientAppRegistry.findAppByPIUID_unknown hreg]
    exact .ask hreg hmem

theorem onConnection_cases (hs : s.Sound libs) {appId : Uid} {dirId : DirectionID}
    (hne : appId ≠ []) (h : s.onConnection appId dirId = some x) :
    Handled libs s (.PimIpcOnConnection dirId) x := by
  rw [onConnection] at h
  split at h
  · rename_i r hr
    obtain rfl := Option.some.inj h
    obtain ⟨hsound, hprofiles, hdirs, hnew⟩ := hs.registry.registerApp hne hr
    refine .onConnection hsound ?_ hdirs hnew
    intro p
    rw [ClientAppRegistry.registered, hprofiles, ClientAppRegistry.registered]
  · exact absurd h (by simp)

theorem handleEvent_cases (hs : s.Sound libs) {uid : Uid} (hne : uid ≠ []) {event : PimEvent}
    (hready : event.Ready libs s.mRegistry) (h : s.handleEvent uid event = some x) :
    Handled libs s event x := by
  cases event with
  | PimIpcOnConnection dirId => exact onConnection_cases hs hne h
  | PimIpcCreateProfile profileUid piuid sid dirId =>
    exact createProfile_cases hs hready.1 (hready.2 dirId rfl) h
  | PimIpcProfileDied piuid dirId => exact profileDied_cases hs h
  | PimIpcReadyToServe sesUid dirId =>
    obtain rfl := Option.some.inj h
    exact readyToServe_cases hs (hready.2 dirId rfl)
  | PimProtocolCreateProfile profileUid piuid sid => exact onCreateProfile_cases hs h
  | PimProtocolProfileDied piuid sid => exact onProfileDied_cases hs h
  | InternalPimProcessIncomingProfile appId profileUid piuid sid =>
    obtain rfl := Option.some.inj h
    exact processIncomingProfile_cases hs hready.1.1 hready.1.2

end PmpPim

/-! ## What is known on a side -/

/-- Every event that asks for the application of a direction comes after the application has
been registered. -/
def Introduced (known : DirectionID → Prop) : List PimEvent → Prop
  | [] => True
  | event :: rest => (∀ dirId ∈ event.direction, known dirId) ∧
      Introduced (fun dirId => known dirId ∨ event = .PimIpcOnConnection dirId) rest

theorem Introduced.mono : ∀ {known known' : DirectionID → Prop} {events : List PimEvent},
    (∀ dirId, known dirId → known' dirId) → Introduced known events → Introduced known' events
  | _, _, [], _, _ => trivial
  | _, _, _ :: _, h, hi => ⟨fun dirId hdir => h dirId (hi.1 dirId hdir),
      hi.2.mono fun dirId hdir => hdir.imp_left (h dirId)⟩

theorem Introduced.append : ∀ {known : DirectionID → Prop} {events : List PimEvent}
    {event : PimEvent}, Introduced known events →
    (∀ dirId ∈ event.direction, known dirId ∨ .PimIpcOnConnection dirId ∈ events) →
    Introduced known (events ++ [event])
  | _, [], _, _, h => ⟨fun dirId hdir => (h dirId hdir).resolve_right List.not_mem_nil, trivial⟩
  | _, first :: rest, event, hi, h => by
      refine ⟨hi.1, hi.2.append ?_⟩
      intro dirId hdir
      rcases h dirId hdir with hknown | hmem
      · exact .inl (.inl hknown)
      · rcases List.mem_cons.mp hmem with heq | hmem
        · exact .inl (.inr heq.symm)
        · exact .inr hmem

/-- The applications that are connected stay where they are. -/
def Keeps (r r' : ClientAppRegistry) : Prop :=
  ∀ (dirId : DirectionID) (appId : Uid), r.mDirIdAppMap[dirId]? = some appId →
    r'.mDirIdAppMap[dirId]? = some appId

variable {libs : List LibInfo} {r r' : ClientAppRegistry}

theorem Keeps.mem (h : Keeps r r') {dirId : DirectionID} (hdir : dirId ∈ r.mDirIdAppMap) :
    dirId ∈ r'.mDirIdAppMap := by
  obtain ⟨appId, happ⟩ := Option.isSome_iff_exists.mp (Std.TreeMap.mem_iff_isSome_getElem?.mp hdir)
  rw [Std.TreeMap.mem_iff_isSome_getElem?, h dirId appId happ]
  rfl

theorem Keeps.serves (h : Keeps r r') {appId : Uid} (hserves : r.Serves appId) :
    r'.Serves appId := by
  obtain ⟨dirId, happ⟩ := hserves
  exact ⟨dirId, h dirId appId happ⟩

theorem PimEvent.Known.mono (h : Keeps r r') {event : PimEvent} (hknown : event.Known libs r) :
    event.Known libs r' := by
  cases event with
  | InternalPimProcessIncomingProfile appId profileUid piuid sid =>
    exact ⟨hknown.1, h.serves hknown.2⟩
  | _ => exact hknown

/-- What a side handles, and what it waits for, is known to it. -/
structure Stack.Sound (libs : List LibInfo) (s : Stack) : Prop where
  pim : s.pim.Sound libs
  introduced : Introduced (· ∈ s.pim.mRegistry.mDirIdAppMap) s.mEventQueue
  known : ∀ event ∈ s.mEventQueue, event.Known libs s.pim.mRegistry
  timeouts : ∀ x ∈ s.timeouts, Has libs x.profileUid
  pending : ∀ x ∈ s.pim.mPendingServiceMap, Has libs x.2.profileUid
  asked : ∀ x ∈ s.asked, Has libs x.profileUid ∧ x.dirId ∈ s.pim.mRegistry.mDirIdAppMap

/-- What the handling of an event leaves is known as well. -/
structure Effect.Sound (libs : List LibInfo) (s : PmpPim) (event : PimEvent) (x : Effect) :
    Prop where
  pim : x.pim.Sound libs
  keeps : Keeps s.mRegistry x.pim.mRegistry
  connected : ∀ dirId, event = .PimIpcOnConnection dirId → dirId ∈ x.pim.mRegistry.mDirIdAppMap
  events : ∀ event' ∈ x.events, event'.direction = none ∧ event'.Known libs x.pim.mRegistry
  timeouts : ∀ y ∈ x.timeouts, Has libs y.profileUid
  pending : ∀ y ∈ x.pim.mPendingServiceMap,
    y ∈ s.mPendingServiceMap ∨ Has libs y.2.profileUid
  asked : ∀ y ∈ x.told.filterMap Notice.asks,
    Has libs y.profileUid ∧ y.dirId ∈ x.pim.mRegistry.mDirIdAppMap

theorem Keeps.refl (r : ClientAppRegistry) : Keeps r r := fun _ _ h => h

theorem ClientAppRegistry.Becomes.keeps {instances : IUid → Bool}
    (h : r.Becomes r' instances) : Keeps r r' := by
  intro dirId appId happ
  rw [h.directions]
  exact happ

/-- An effect on the registered instances and on `mIncomingProfiles` alone. -/
theorem PmpPim.Sound.refine {s : PmpPim} (hs : s.Sound libs) {instances : IUid → Bool}
    (hr : s.mRegistry.Becomes r instances) (incoming : Std.TreeSet IUid) {event : PimEvent}
    {sent : List PMPFrame} {told : List Notice} (hevent : ∀ dirId, event ≠ .PimIpcOnConnection dirId)
    (htold : told.filterMap Notice.asks = []) :
    Effect.Sound libs s event
      { pim := { s with mIncomingProfiles := incoming, mRegistry := r }, sent, told } where
  pim := ⟨hs.core, hr.sound, hs.single⟩
  keeps := hr.keeps
  connected dirId heq := absurd heq (hevent dirId)
  events _ hmem := absurd hmem List.not_mem_nil
  timeouts _ hmem := absurd hmem List.not_mem_nil
  pending _ hmem := .inl hmem
  asked y hmem := by
    rw [htold] at hmem
    exact absurd hmem List.not_mem_nil

theorem ClientAppRegistry.Sound.becomes (h : r.Sound) : r.Becomes r r.registered :=
  ⟨h, fun _ => rfl, rfl⟩

/-- The event that a creation is put into is known where its application is. -/
theorem saved_known {appId : Uid} {x : PendingService} (hhas : Has libs x.profileUid)
    (hserves : r.Serves appId) :
    ∀ event ∈ [PmpPim.saveIncomingProfileForProcessing appId x],
      event.direction = none ∧ event.Known libs r := by
  intro event hmem
  obtain rfl := List.mem_singleton.mp hmem
  exact ⟨rfl, hhas, hserves⟩

theorem Handled.sound {s : PmpPim} {event : PimEvent} {x : Effect} (h : Handled libs s event x)
    (hs : s.Sound libs) (hknown : event.Known libs s.mRegistry)
    (hpending : ∀ y ∈ s.mPendingServiceMap, Has libs y.2.profileUid) :
    Effect.Sound libs s event x := by
  have hsame := hs.registry.becomes
  cases h with
  | @onConnection dirId appId r hr _ hdirs hnew =>
    have hkeeps : Keeps s.mRegistry r := by
      intro d a ha
      have hne : dirId ≠ d := by
        rintro rfl
        exact hnew (Std.TreeMap.mem_iff_isSome_getElem?.mpr (by rw [ha]; rfl))
      rw [hdirs]
      simp only [Std.TreeMap.getElem?_insert, Std.LawfulEqCmp.compare_eq_iff_eq, hne, if_false]
      exact ha
    refine ⟨⟨hs.core, hr, hs.single⟩, hkeeps, ?_, ?_, ?_, fun _ hmem => .inl hmem, ?_⟩
    · intro d heq
      obtain rfl := PimEvent.PimIpcOnConnection.inj heq
      show dirId ∈ r.mDirIdAppMap
      rw [hdirs]
      exact Std.TreeMap.mem_insert_self
    · exact fun _ hmem => absurd hmem List.not_mem_nil
    · exact fun _ hmem => absurd hmem List.not_mem_nil
    · exact fun _ hmem => absurd hmem List.not_mem_nil
  | answer _ _ hr => exact hs.refine hr _ (by simp) rfl
  | create _ _ hr => exact hs.refine hr _ (by simp) rfl
  | refuse => exact hs.refine hsame _ (by simp) rfl
  | die _ hr => exact hs.refine hr _ (by simp) rfl
  | dead => exact hs.refine hsame _ (by simp) rfl
  | unknown => exact hs.refine hsame _ (by simp) rfl
  | @readyToServe sesUid dirId y appId r hmap hserves hr =>
    have hhas : Has libs y.profileUid := hpending (sesUid, y) (by rw [hmap]; exact List.mem_cons_self)
    refine ⟨⟨hs.core, hr.sound, Nat.zero_le 1⟩, hr.keeps, by simp, ?_, ?_, ?_, ?_⟩
    · exact saved_known hhas (hr.keeps.serves hserves)
    · exact fun _ hmem => absurd hmem List.not_mem_nil
    · exact fun _ hmem => absurd hmem List.not_mem_nil
    · exact fun _ hmem => absurd hmem List.not_mem_nil
  | putBack =>
    refine ⟨hs, .refl _, by simp, ?_, ?_, fun _ hmem => .inl hmem, ?_⟩
    · exact fun _ hmem => absurd hmem List.not_mem_nil
    · intro y hmem
      obtain rfl := List.mem_singleton.mp hmem
      exact hknown
    · exact fun _ hmem => absurd hmem List.not_mem_nil
  | serve hserves =>
    refine ⟨hs, .refl _, by simp, ?_, ?_, fun _ hmem => .inl hmem, ?_⟩
    · exact saved_known hknown hserves
    · exact fun _ hmem => absurd hmem List.not_mem_nil
    · exact fun _ hmem => absurd hmem List.not_mem_nil
  | start =>
    refine ⟨⟨hs.core, hs.registry, Nat.le_refl 1⟩, .refl _, by simp, ?_, ?_, ?_, ?_⟩
    · exact fun _ hmem => absurd hmem List.not_mem_nil
    · exact fun _ hmem => absurd hmem List.not_mem_nil
    · intro y hmem
      obtain rfl := List.mem_singleton.mp hmem
      exact .inr hknown
    · exact fun _ hmem => absurd hmem List.not_mem_nil
  | notice hr htold => exact hs.refine hr _ (by simp) htold
  | ask _ hdir =>
    refine ⟨⟨hs.core, hs.registry, hs.single⟩, .refl _, by simp, ?_, ?_, fun _ hmem => .inl hmem, ?_⟩
    · exact fun _ hmem => absurd hmem List.not_mem_nil
    · exact fun _ hmem => absurd hmem List.not_mem_nil
    · intro y hmem
      obtain rfl := List.mem_singleton.mp hmem
      exact ⟨hknown.1, hdir⟩
  | drop => exact hs.refine hsame _ (by simp) rfl

namespace Stack

variable {s : Stack} {event : PimEvent} {rest : List PimEvent} {x : Effect}

theorem Sound.ready (hs : s.Sound libs) (hqueue : s.mEventQueue = event :: rest) :
    event.Ready libs s.pim.mRegistry := by
  have hintroduced := hs.introduced
  rw [hqueue] at hintroduced
  exact ⟨hs.known event (by rw [hqueue]; exact List.mem_cons_self), hintroduced.1⟩

/-- **The handling of an event keeps what is known.** -/
theorem Sound.perform (hs : s.Sound libs) (hqueue : s.mEventQueue = event :: rest)
    (hx : Effect.Sound libs s.pim event x) : (s.perform rest x).state.Sound libs where
  pim := hx.pim
  introduced := by
    have hintroduced := hs.introduced
    rw [hqueue] at hintroduced
    have hrest : Introduced (· ∈ x.pim.mRegistry.mDirIdAppMap) rest :=
      hintroduced.2.mono fun dirId hdir => hdir.elim hx.keeps.mem (hx.connected dirId)
    -- none of the events that are pushed asks for a direction
    have hall : ∀ events : List PimEvent, (∀ event' ∈ events, event'.direction = none) →
        Introduced (· ∈ x.pim.mRegistry.mDirIdAppMap) (rest ++ events) := by
      intro events
      induction events using List.reverseRecOn with
      | nil =>
        intro _
        rw [List.append_nil]
        exact hrest
      | append_singleton events last ih =>
        intro hnone
        rw [← List.append_assoc]
        refine (ih fun event' hmem => hnone event' (List.mem_append_left _ hmem)).append ?_
        rw [hnone last (List.mem_append_right _ List.mem_cons_self)]
        exact fun _ hdir => absurd hdir (by simp)
    exact hall x.events fun event' hmem => (hx.events event' hmem).1
  known := by
    intro event' hmem
    rcases List.mem_append.mp hmem with hmem | hmem
    · exact (hs.known event' (by rw [hqueue]; exact List.mem_cons_of_mem _ hmem)).mono hx.keeps
    · exact (hx.events event' hmem).2
  timeouts := by
    intro y hmem
    rcases List.mem_append.mp hmem with hmem | hmem
    · exact hs.timeouts y hmem
    · exact hx.timeouts y hmem
  pending := by
    intro y hmem
    rcases hx.pending y hmem with hmem | hhas
    · exact hs.pending y hmem
    · exact hhas
  asked := by
    intro y hmem
    rcases List.mem_append.mp hmem with hmem | hmem
    · exact ⟨(hs.asked y hmem).1, hx.keeps.mem (hs.asked y hmem).2⟩
    · exact hx.asked y hmem

/-- So does pushing an event that is known, of a client that is connected. -/
theorem Sound.pushEvent (hs : s.Sound libs) (hknown : event.Known libs s.pim.mRegistry)
    (hdir : ∀ dirId ∈ event.direction, s.Connected dirId) : (s.pushEvent event).Sound libs where
  pim := hs.pim
  introduced := hs.introduced.append hdir
  known := by
    intro event' hmem
    rcases List.mem_append.mp hmem with hmem | hmem
    · exact hs.known event' hmem
    · obtain rfl := List.mem_singleton.mp hmem
      exact hknown
  timeouts := hs.timeouts
  pending := hs.pending
  asked := hs.asked

end Stack

/-! ## What a step does to one instance -/

/-- The instance that the request is to create. -/
def PMPFrame.creation : PMPFrame → Option IUid
  | .PMP_REQ_PIM_CREATE_PROFILE _ piuid _ => some piuid
  | _ => none

/-- The instance that has died. -/
def PMPFrame.death : PMPFrame → Option IUid
  | .PMP_REQ_PIM_PROFILE_DIED piuid _ => some piuid
  | _ => none

def PMPFrame.profile : PMPFrame → Option Uid
  | .PMP_REQ_PIM_CREATE_PROFILE profileUid _ _ => some profileUid
  | _ => none

/-- The request that a death has come with. -/
def PimEvent.notice : PimEvent → Option PMPFrame
  | .PimProtocolProfileDied piuid sid => some (.PMP_REQ_PIM_PROFILE_DIED piuid sid)
  | _ => none

/-- How often these messages create the instance. -/
def creations (link : List PMPFrame) (piuid : IUid) : Nat :=
  (link.filterMap PMPFrame.creation).count piuid

def deaths (link : List PMPFrame) (piuid : IUid) : Nat :=
  (link.filterMap PMPFrame.death).count piuid

theorem creations_append (link link' : List PMPFrame) (piuid : IUid) :
    creations (link ++ link') piuid = creations link piuid + creations link' piuid := by
  rw [creations, List.filterMap_append, List.count_append, creations, creations]

theorem deaths_append (link link' : List PMPFrame) (piuid : IUid) :
    deaths (link ++ link') piuid = deaths link piuid + deaths link' piuid := by
  rw [deaths, List.filterMap_append, List.count_append, deaths, deaths]

namespace Stack

/-- The instances whose deaths are to be handled. -/
def dying (s : Stack) : List IUid := s.mEventQueue.filterMap PimEvent.dying

/-- A side, with what is on its way to it. -/
def tally (s : Stack) (link : List PMPFrame) (piuid : IUid) : Tally where
  registered := s.pim.mRegistry.registered piuid
  coming := s.coming.count piuid + creations link piuid
  creating := s.creating.count piuid
  dying := s.dying.count piuid + deaths link piuid
  incoming := s.pim.mIncomingProfiles.contains piuid

/-- The deaths that are to be handled and what is on its way behind them, in order. -/
def notices (s : Stack) (link : List PMPFrame) : List PMPFrame :=
  s.mEventQueue.filterMap PimEvent.notice ++ link

/-- No instance is created behind its death. -/
def Ordered (s : Stack) (link : List PMPFrame) : Prop :=
  (s.notices link).Pairwise fun x y => ∀ piuid ∈ x.death, y.creation ≠ some piuid

variable {s : Stack} {event : PimEvent} {rest : List PimEvent} {x : Effect} {link : List PMPFrame}
  {piuid : IUid}

/-- When the death of an instance is the next event, nothing of it is under way on the side. -/
theorem alone (hqueue : s.mEventQueue = event :: rest) (htimely : s.Timely)
    (hordered : s.Ordered link) (hevent : event.dying = some piuid) :
    (s.tally link piuid).coming = 0 ∧ (s.tally link piuid).creating = 0 := by
  have hnot := htimely piuid (by rw [hqueue, List.head?_cons, Option.bind_some]; exact hevent)
  have hlink : creations link piuid = 0 := by
    cases event with
    | PimProtocolProfileDied p sid =>
      obtain rfl := Option.some.inj hevent
      have hcons : s.notices link
          = .PMP_REQ_PIM_PROFILE_DIED p sid :: (rest.filterMap PimEvent.notice ++ link) := by
        rw [notices, hqueue]
        rfl
      rw [Ordered, hcons] at hordered
      refine List.count_eq_zero.mpr fun hmem => ?_
      obtain ⟨frame, hframe, hcreation⟩ := List.mem_filterMap.mp hmem
      exact (List.pairwise_cons.mp hordered).1 frame (List.mem_append_right _ hframe) p rfl hcreation
    | _ => exact absurd hevent (by simp [PimEvent.dying])
  exact ⟨by rw [tally, List.count_eq_zero.mpr hnot.1, hlink], List.count_eq_zero.mpr hnot.2⟩

/-- The side with these events left, and without the sessions that are pending. -/
def left (s : Stack) (rest : List PimEvent) : Stack :=
  { s with mEventQueue := rest, pim := { s.pim with mPendingServiceMap := [] } }

theorem tally_cons (hqueue : s.mEventQueue = event :: rest) (link : List PMPFrame) (piuid : IUid) :
    s.tally link piuid = ((s.left rest).tally link piuid).add
      ((s.pim.mPendingServiceMap.map (·.2.piuid)).count piuid + event.coming.toList.count piuid)
      (event.creating.toList.count piuid) (event.dying.toList.count piuid) := by
  have hcons : ∀ f : PimEvent → Option IUid, s.mEventQueue.filterMap f
      = (f event).toList ++ rest.filterMap f := by
    intro f
    rw [hqueue, List.filterMap_cons]
    cases f event <;> rfl
  simp only [tally, left, Tally.add, coming, creating, dying, hcons, List.count_append, List.map_nil,
    List.count_nil, Tally.mk.injEq, true_and, and_true]
  omega

theorem tally_perform (s : Stack) (rest : List PimEvent) (x : Effect) (link : List PMPFrame)
    (piuid : IUid) : (s.perform rest x).state.tally link piuid =
      { ((s.left rest).tally link piuid).add
          ((x.pim.mPendingServiceMap.map (·.2.piuid)).count piuid +
            (x.events.filterMap PimEvent.coming).count piuid + (x.timeouts.map (·.piuid)).count piuid)
          ((x.events.filterMap PimEvent.creating).count piuid +
            ((x.told.filterMap Notice.asks).map (·.piuid)).count piuid)
          ((x.events.filterMap PimEvent.dying).count piuid) with
        registered := x.pim.mRegistry.registered piuid
        incoming := x.pim.mIncomingProfiles.contains piuid } := by
  simp only [perform, tally, left, Tally.add, coming, creating, dying, List.filterMap_append,
    List.map_append, List.count_append, List.map_nil, List.count_nil, Tally.mk.injEq, true_and,
    and_true]
  omega

theorem contains_insert (set : Std.TreeSet IUid) (p piuid : IUid) :
    (set.insert p).contains piuid = (piuid == p || set.contains piuid) := by
  rw [Std.TreeSet.contains_insert, Std.compare_beq_eq_beq, Bool.beq_comm]

theorem contains_erase (set : Std.TreeSet IUid) (p piuid : IUid) :
    (set.erase p).contains piuid = (piuid != p && set.contains piuid) := by
  rw [Std.TreeSet.contains_erase, bne, bne, Std.compare_beq_eq_beq, Bool.beq_comm]

/-- **The handling of an event moves every instance, or leaves it where it is.** -/
theorem move (hqueue : s.mEventQueue = event :: rest) (htimely : s.Timely)
    (hordered : s.Ordered link) (hx : Handled libs s.pim event x) (piuid : IUid) :
    Tally.Move (s.tally link piuid) ((s.perform rest x).state.tally link piuid)
      (creations x.sent piuid) (deaths x.sent piuid) := by
  have halone : event.dying = some piuid → _ := s.alone hqueue htimely hordered
  have hbefore := s.tally_cons hqueue link piuid
  have hafter := s.tally_perform rest x link piuid
  have hbase : (s.left rest).tally link piuid = ⟨s.pim.mRegistry.registered piuid, _, _, _,
    s.pim.mIncomingProfiles.contains piuid⟩ := rfl
  rw [hbase] at hbefore hafter
  rw [hbefore] at halone ⊢
  rw [hafter]
  clear hbefore hafter hbase
  -- an event about one instance leaves the others
  have hother : ∀ p : IUid, p ≠ piuid → [p].count piuid = 0 ∧ (piuid == p) = false := by
    intro p hp
    exact ⟨List.count_eq_zero.mpr (by simpa using Ne.symm hp), beq_eq_false_iff_ne.mpr (Ne.symm hp)⟩
  cases hx with
  | onConnection _ hreg =>
    simp only [hreg]
    exact .stay
  | @answer profileUid p sid dirId r hreg hincoming hr =>
    by_cases hp : p = piuid
    · subst hp
      simp only [PimEvent.creating, Option.toList_some, List.count_singleton_self, hr.registered,
        contains_erase, beq_self_eq_true, Bool.true_or, bne_self_eq_false, Bool.false_and]
      exact .answer rfl hreg hincoming
    · simp only [PimEvent.creating, Option.toList_some, hr.registered, contains_erase, bne,
        hother p hp, Bool.false_or, Bool.not_false, Bool.true_and]
      exact .stay
  | @create profileUid p sid dirId r l hreg hincoming hr =>
    by_cases hp : p = piuid
    · subst hp
      simp only [PimEvent.creating, Option.toList_some, List.count_singleton_self, hr.registered,
        contains_erase, beq_self_eq_true, Bool.true_or, bne_self_eq_false, Bool.false_and,
        creations, deaths, List.filterMap_cons, List.filterMap_nil, PMPFrame.creation,
        PMPFrame.death, List.count_nil]
      exact .create rfl hreg hincoming
    · simp only [PimEvent.creating, Option.toList_some, hr.registered, contains_erase, bne,
        hother p hp, Bool.false_or, Bool.not_false, Bool.true_and, creations,
        List.filterMap_cons, List.filterMap_nil, PMPFrame.creation]
      exact .stay
  | @refuse profileUid p sid dirId hreg =>
    by_cases hp : p = piuid
    · subst hp
      simp only [PimEvent.creating, Option.toList_some, List.count_singleton_self, contains_erase,
        bne_self_eq_false, Bool.false_and]
      exact .refuse rfl hreg
    · simp only [PimEvent.creating, Option.toList_some, contains_erase, bne, hother p hp,
        Bool.not_false, Bool.true_and]
      exact .stay
  | @die p dirId sid r hreg hr =>
    by_cases hp : p = piuid
    · subst hp
      simp only [hr.registered, bne_self_eq_false, Bool.false_and, deaths, List.filterMap_cons,
        List.filterMap_nil, PMPFrame.death, List.count_singleton_self]
      exact .die hreg
    · simp only [hr.registered, bne, hother p hp, Bool.not_false, Bool.true_and, deaths,
        List.filterMap_cons, List.filterMap_nil, PMPFrame.death]
      exact .stay
  | dead => exact .stay
  | unknown => exact .stay
  | @readyToServe sesUid dirId y appId r hmap hserves hr =>
    simp only [hr.registered, hmap]
    refine .to .stay ?_
    simp [Tally.add, PmpPim.saveIncomingProfileForProcessing, PimEvent.coming, PimEvent.creating,
      PimEvent.dying, List.filterMap_cons]
  | putBack =>
    refine .to .stay ?_
    simp [Tally.add, PimEvent.coming, PimEvent.creating, PimEvent.dying]
  | serve hserves =>
    refine .to .stay ?_
    simp [Tally.add, PmpPim.saveIncomingProfileForProcessing, PimEvent.coming, PimEvent.creating,
      PimEvent.dying, List.filterMap_cons]
  | start hmap =>
    refine .to .stay ?_
    simp [Tally.add, hmap, PimEvent.coming, PimEvent.creating, PimEvent.dying, Notice.asks,
      List.filterMap_cons]
  | @notice p sid r told hr htold =>
    simp only [htold]
    by_cases hp : p = piuid
    · subst hp
      simp only [PimEvent.dying, Option.toList_some, List.count_singleton_self, hr.registered,
        bne_self_eq_false, Bool.false_and] at halone ⊢
      exact .notice rfl (halone trivial).1 (halone trivial).2
    · simp only [PimEvent.dying, Option.toList_some, hr.registered, bne, hother p hp,
        Bool.not_false, Bool.true_and]
      exact .stay
  | @ask appId profileUid papiUid p sid dirId hreg hdir =>
    by_cases hp : p = piuid
    · subst hp
      simp only [PimEvent.coming, Option.toList_some, List.count_singleton_self, contains_insert,
        beq_self_eq_true, Bool.true_or, Notice.asks, List.filterMap_cons, List.filterMap_nil,
        List.map_cons, List.map_nil]
      exact .ask rfl hreg
    · simp only [PimEvent.coming, Option.toList_some, contains_insert, hother p hp, Bool.false_or,
        Notice.asks, List.filterMap_cons, List.filterMap_nil, List.map_cons, List.map_nil]
      exact .stay
  | @drop appId profileUid p sid hreg =>
    by_cases hp : p = piuid
    · subst hp
      simp only [PimEvent.coming, Option.toList_some, List.count_singleton_self]
      exact .drop rfl hreg
    · simp only [PimEvent.coming, Option.toList_some, hother p hp]
      exact .stay

/-- The events that are pushed are no deaths. -/
theorem perform_notices (hx : Handled libs s.pim event x) (rest : List PimEvent)
    (link : List PMPFrame) :
    (s.perform rest x).state.notices link = rest.filterMap PimEvent.notice ++ link := by
  have hevents : x.events.filterMap PimEvent.notice = [] := by
    cases hx <;> rfl
  rw [perform, notices, List.filterMap_append, hevents, List.append_nil]

theorem Ordered.sublist {s s' : Stack} {link link' : List PMPFrame} (h : s.Ordered link)
    (hsub : (s'.notices link').Sublist (s.notices link)) : s'.Ordered link' :=
  List.Pairwise.sublist hsub h

theorem Ordered.perform (h : s.Ordered link) (hqueue : s.mEventQueue = event :: rest)
    (hx : Handled libs s.pim event x) : (s.perform rest x).state.Ordered link := by
  refine h.sublist ?_
  rw [perform_notices hx, notices, hqueue]
  exact (List.Sublist.filterMap _ (List.sublist_cons_self event rest)).append_right link

/-- A request that is no creation, or whose instance has not died, can follow. -/
theorem Ordered.append (h : s.Ordered link) {frame : PMPFrame}
    (hframe : ∀ piuid, frame.creation = some piuid → (s.tally link piuid).dying = 0) :
    s.Ordered (link ++ [frame]) := by
  have hnotices : s.notices (link ++ [frame]) = s.notices link ++ [frame] := by
    rw [notices, notices, List.append_assoc]
  rw [Ordered, hnotices]
  refine List.pairwise_append.mpr ⟨h, List.pairwise_singleton _ _, ?_⟩
  intro y hy z hz piuid hdeath hcreation
  obtain rfl := List.mem_singleton.mp hz
  have hnone := hframe piuid hcreation
  rw [tally, Nat.add_eq_zero_iff] at hnone
  rcases List.mem_append.mp hy with hy | hy
  · obtain ⟨event, hevent, hnotice⟩ := List.mem_filterMap.mp hy
    refine List.count_eq_zero.mp hnone.1 (List.mem_filterMap.mpr ⟨event, hevent, ?_⟩)
    cases event with
    | PimProtocolProfileDied p sid =>
      obtain rfl := Option.some.inj hnotice
      exact hdeath
    | _ => exact absurd hnotice (by simp [PimEvent.notice])
  · exact List.count_eq_zero.mp hnone.2 (List.mem_filterMap.mpr ⟨y, hy, hdeath⟩)

theorem tally_pushEvent (s : Stack) (event : PimEvent) (link : List PMPFrame) (piuid : IUid) :
    (s.pushEvent event).tally link piuid =
      (s.tally link piuid).add (event.coming.toList.count piuid)
        (event.creating.toList.count piuid) (event.dying.toList.count piuid) := by
  have happend : ∀ f : PimEvent → Option IUid, (s.mEventQueue ++ [event]).filterMap f
      = s.mEventQueue.filterMap f ++ (f event).toList := by
    intro f
    rw [List.filterMap_append, List.filterMap_cons]
    cases f event <;> rfl
  simp only [tally, pushEvent, Tally.add, coming, creating, dying, happend, List.count_append,
    Tally.mk.injEq, true_and, and_true]
  omega

/-- An answer, or the end of a timeout, is the same creation in another place. -/
theorem tally_answer {n : Nat} {y : IncomingProfile} (hy : s.asked[n]? = some y)
    (link : List PMPFrame) (piuid : IUid) :
    ({ s with asked := s.asked.eraseIdx n }.pushEvent
      (.PimIpcCreateProfile y.profileUid y.piuid y.sid y.dirId)).tally link piuid
      = s.tally link piuid := by
  obtain ⟨hn, rfl⟩ := List.getElem?_eq_some_iff.mp hy
  have hperm := ((List.getElem_cons_eraseIdx_perm hn).map (·.piuid)).count_eq piuid
  rw [List.map_cons, List.count_cons] at hperm
  rw [tally_pushEvent]
  simp only [tally, Tally.add, coming, creating, dying, List.count_append, PimEvent.coming,
    PimEvent.creating, PimEvent.dying, Option.toList_some, Option.toList_none, List.count_nil,
    List.count_singleton, Tally.mk.injEq, true_and, and_true]
  omega

theorem tally_timeout {n : Nat} {y : PendingService} (hy : s.timeouts[n]? = some y)
    (link : List PMPFrame) (piuid : IUid) :
    ({ s with timeouts := s.timeouts.eraseIdx n }.pushEvent
      (.PimProtocolCreateProfile y.profileUid y.piuid y.sid)).tally link piuid
      = s.tally link piuid := by
  obtain ⟨hn, rfl⟩ := List.getElem?_eq_some_iff.mp hy
  have hperm := ((List.getElem_cons_eraseIdx_perm hn).map (·.piuid)).count_eq piuid
  rw [List.map_cons, List.count_cons] at hperm
  rw [tally_pushEvent]
  simp only [tally, Tally.add, coming, creating, dying, List.count_append, PimEvent.coming,
    PimEvent.creating, PimEvent.dying, Option.toList_some, Option.toList_none, List.count_nil,
    List.count_singleton, Tally.mk.injEq, true_and, and_true]
  omega

/-- A request that arrives becomes an event. -/
theorem tally_onPimRequest (s : Stack) (frame : PMPFrame) (link : List PMPFrame) (piuid : IUid) :
    (s.pushEvent (onPimRequest frame)).tally link piuid = s.tally (frame :: link) piuid := by
  rw [tally_pushEvent]
  cases frame with
  | PMP_REQ_PIM_CREATE_PROFILE profileUid p sid =>
    simp only [onPimRequest, tally, Tally.add, creations, deaths, PimEvent.coming,
      PimEvent.creating, PimEvent.dying, List.filterMap_cons, PMPFrame.creation, PMPFrame.death,
      Option.toList_some, Option.toList_none, List.count_nil, List.count_cons,
      Tally.mk.injEq, true_and, and_true]
    omega
  | PMP_REQ_PIM_PROFILE_DIED p sid =>
    simp only [onPimRequest, tally, Tally.add, creations, deaths, PimEvent.coming,
      PimEvent.creating, PimEvent.dying, List.filterMap_cons, PMPFrame.creation, PMPFrame.death,
      Option.toList_some, Option.toList_none, List.count_nil, List.count_cons,
      Tally.mk.injEq, true_and, and_true]
    omega

theorem Ordered.onPimRequest {frame : PMPFrame} (h : s.Ordered (frame :: link)) :
    (s.pushEvent (onPimRequest frame)).Ordered link := by
  refine h.sublist ?_
  rw [notices, notices, pushEvent, List.filterMap_append, List.append_assoc]
  refine List.Sublist.append_left ?_ _
  cases frame with
  | PMP_REQ_PIM_CREATE_PROFILE profileUid p sid => exact List.sublist_cons_self _ _
  | PMP_REQ_PIM_PROFILE_DIED p sid => exact List.Sublist.refl _

/-! ## What a call does -/

/-- What a side does other than to call for a new instance. -/
structure Acts (libs : List LibInfo) (s : Stack) (link : List PMPFrame) (r : Done) : Prop where
  sound : r.state.Sound libs
  ordered : r.state.Ordered link
  made : r.state.made = s.made
  move : ∀ piuid, Tally.Move (s.tally link piuid) (r.state.tally link piuid)
    (creations r.sent piuid) (deaths r.sent piuid)
  sent : r.sent = [] ∨ ∃ frame, r.sent = [frame] ∧
    ∀ profileUid ∈ frame.profile, ∃ l ∈ libs, l.complement = profileUid

theorem Acts.pushes {s' : Stack} (hordered : s.Ordered link)
    (hsound : (s'.pushEvent event).Sound libs) (hqueue : s'.mEventQueue = s.mEventQueue)
    (hmade : s'.made = s.made) (hnotice : event.notice = none)
    (htally : ∀ piuid, (s'.pushEvent event).tally link piuid = s.tally link piuid) :
    Acts libs s link (s'.pushes event) where
  sound := hsound
  ordered := by
    refine hordered.sublist ?_
    rw [Stack.pushes, notices, notices, pushEvent, hqueue, List.filterMap_append,
      List.filterMap_cons_none hnotice, List.filterMap_nil, List.append_nil]
  made := hmade
  move piuid := Tally.Move.stay.to (htally piuid)
  sent := .inl rfl

/-- An event that is about no creation and no death on the other side. -/
theorem tally_pushEvent_other (hcoming : event.coming = none) (hcreating : event.creating = none)
    (hdying : event.dying = none) (link : List PMPFrame) (piuid : IUid) :
    (s.pushEvent event).tally link piuid = s.tally link piuid := by
  rw [tally_pushEvent, hcoming, hcreating, hdying]
  rfl

/-- What an event sends has a complement on the side. -/
theorem handled_sent (hx : Handled libs s.pim event x) : x.sent = [] ∨ ∃ frame, x.sent = [frame] ∧
    ∀ profileUid ∈ frame.profile, ∃ l ∈ libs, l.complement = profileUid := by
  cases hx with
  | create _ _ _ hl =>
    refine .inr ⟨_, rfl, ?_⟩
    intro profileUid hprofile
    exact ⟨_, hl, Option.some.inj hprofile⟩
  | die => exact .inr ⟨_, rfl, fun _ hprofile => absurd hprofile (by simp [PMPFrame.profile])⟩
  | _ => exact .inl rfl

/-- **A call that does not create a new instance.** -/
theorem act_cases (hs : s.Sound libs) (hordered : s.Ordered link) {c : Call} {r : Done}
    (htimely : ∀ uid, c = .handleEvent uid → s.Timely)
    (hc : ∀ profileUid piuid sid dirId, c ≠ .createProfile profileUid piuid sid dirId)
    (h : s.act c = some r) : Acts libs s link r := by
  cases c with
  | createProfile profileUid piuid sid dirId => exact absurd rfl (hc profileUid piuid sid dirId)
  | onConnection dirId =>
    rw [act] at h
    split at h
    · exact absurd h (by simp)
    · obtain rfl := Option.some.inj h
      exact .pushes hordered (hs.pushEvent trivial (by simp [PimEvent.direction])) rfl rfl rfl
        (tally_pushEvent_other rfl rfl rfl link)
  | profileDied piuid dirId =>
    rw [act] at h
    split at h
    · obtain rfl := Option.some.inj h
      exact .pushes hordered (hs.pushEvent trivial (by simp [PimEvent.direction])) rfl rfl rfl
        (tally_pushEvent_other rfl rfl rfl link)
    · exact absurd h (by simp)
  | readyToServe sesUid dirId =>
    rw [act] at h
    split at h
    · rename_i hdir
      obtain rfl := Option.some.inj h
      refine .pushes hordered (hs.pushEvent trivial ?_) rfl rfl rfl
        (tally_pushEvent_other rfl rfl rfl link)
      intro d hd
      obtain rfl := Option.some.inj hd
      exact hdir
    · exact absurd h (by simp)
  | answer n =>
    rw [act] at h
    split at h
    · exact absurd h (by simp)
    · rename_i y hy
      obtain rfl := Option.some.inj h
      have hmem := List.mem_of_getElem? hy
      have hleft : Sound libs { s with asked := s.asked.eraseIdx n } :=
        ⟨hs.pim, hs.introduced, hs.known, hs.timeouts, hs.pending,
          fun z hz => hs.asked z (List.mem_of_mem_eraseIdx hz)⟩
      refine .pushes hordered (hleft.pushEvent (hs.asked y hmem).1 ?_) rfl rfl rfl
        (tally_answer hy link)
      intro d hd
      obtain rfl := Option.some.inj hd
      exact .inl (hs.asked y hmem).2
  | timeout n =>
    rw [act] at h
    split at h
    · exact absurd h (by simp)
    · rename_i y hy
      obtain rfl := Option.some.inj h
      have hleft : Sound libs { s with timeouts := s.timeouts.eraseIdx n } :=
        ⟨hs.pim, hs.introduced, hs.known, fun z hz => hs.timeouts z (List.mem_of_mem_eraseIdx hz),
          hs.pending, hs.asked⟩
      exact .pushes hordered (hleft.pushEvent (hs.timeouts y (List.mem_of_getElem? hy))
        (by simp [PimEvent.direction])) rfl rfl rfl (tally_timeout hy link)
  | handleEvent uid =>
    rw [act] at h
    split at h
    · exact absurd h (by simp)
    · rename_i event rest hqueue
      split at h
      · exact absurd h (by simp)
      · rename_i hne
        obtain ⟨x, hx, rfl⟩ := Option.map_eq_some_iff.mp h
        have hready := hs.ready hqueue
        have hhandled := PmpPim.handleEvent_cases hs.pim hne hready hx
        exact ⟨hs.perform hqueue (hhandled.sound hs.pim hready.1 hs.pending),
          hordered.perform hqueue hhandled, rfl, move hqueue (htimely uid rfl) hordered hhandled,
          handled_sent hhandled⟩

/-- A client calls for a new instance. -/
theorem createProfile_cases (hs : s.Sound libs) (hordered : s.Ordered link) {profileUid : Uid}
    {sid : ServiceUid} {dirId : DirectionID} {r : Done} (hhas : Has libs profileUid)
    (h : s.act (.createProfile profileUid piuid sid dirId) = some r) :
    r.state.Sound libs ∧ r.state.Ordered link ∧ r.state.made = piuid :: s.made ∧ r.sent = [] ∧
      ∀ p, r.state.tally link p = (s.tally link p).add 0 ([piuid].count p) 0 := by
  rw [act] at h
  split at h
  · rename_i hdir
    obtain rfl := Option.some.inj h
    have hmade : Sound libs { s with made := piuid :: s.made } :=
      ⟨hs.pim, hs.introduced, hs.known, hs.timeouts, hs.pending, hs.asked⟩
    refine ⟨hmade.pushEvent hhas ?_, hordered.sublist ?_, rfl, rfl, fun p => tally_pushEvent ..⟩
    · intro d hd
      obtain rfl := Option.some.inj hd
      exact hdir
    · rw [pushes, notices, notices, pushEvent, List.filterMap_append, List.filterMap_cons_none rfl,
        List.filterMap_nil, List.append_nil]
  · exact absurd h (by simp)

end Stack

/-! ## Two sides -/

namespace PmpPims

/-- What every run keeps. -/
structure Inv (libs : Side → List LibInfo) (w : PmpPims) : Prop where
  sound : ∀ i, (w.state i).Sound (libs i)
  linked : ∀ i, ∀ frame ∈ w.link i, ∀ profileUid ∈ frame.profile, Has (libs i) profileUid
  ordered : ∀ i, (w.state i).Ordered (w.link i)
  phase : ∀ piuid, Tally.Phase (∃ i, piuid ∈ (w.state i).made)
    fun i => (w.state i).tally (w.link i) piuid

theorem inv_init (libs : Side → List LibInfo) : Inv libs (init libs) where
  sound i := ⟨⟨rfl, ClientAppRegistry.sound_init, Nat.zero_le 1⟩, trivial,
    fun _ h => absurd h List.not_mem_nil, fun _ h => absurd h List.not_mem_nil,
    fun _ h => absurd h List.not_mem_nil, fun _ h => absurd h List.not_mem_nil⟩
  linked i := fun _ h => absurd h List.not_mem_nil
  ordered i := List.Pairwise.nil
  phase piuid := by
    refine .fresh (fun ⟨_, h⟩ => absurd h List.not_mem_nil) fun i => ?_
    have hreg : (init libs |>.state i).pim.mRegistry.registered piuid = false :=
      rfl
    rw [Stack.tally, hreg]
    rfl

variable {libs : Side → List LibInfo} {w w' : PmpPims} {i : Side} {r : Stack.Done}

theorem tally_react_self (w : PmpPims) (i : Side) (r : Stack.Done) (piuid : IUid) :
    ((w.react Side.other i r).state i).tally ((w.react Side.other i r).link i) piuid
      = r.state.tally (w.link i) piuid := by
  rw [Duplex.react_state_self, Duplex.react_link_ne (h := (Side.other_ne i).symm)]

theorem tally_react_other (w : PmpPims) (i : Side) (r : Stack.Done) (piuid : IUid) :
    ((w.react Side.other i r).state i.other).tally ((w.react Side.other i r).link i.other) piuid
      = ((w.state i.other).tally (w.link i.other) piuid).sent (creations r.sent piuid)
          (deaths r.sent piuid) := by
  rw [Duplex.react_state_ne (h := Side.other_ne i), Duplex.react_link_peer]
  simp only [Stack.tally, Tally.sent, creations_append, deaths_append, Nat.add_assoc]

/-- **A side that does not create a new instance keeps the invariant.** -/
theorem Inv.acts (hw : Inv libs w) (hlibs : Complementary libs)
    (hr : Stack.Acts (libs i) (w.state i) (w.link i) r) : Inv libs (w.react Side.other i r) where
  sound j := by
    rcases Side.eq_or i j with rfl | rfl
    · rw [Duplex.react_state_self]
      exact hr.sound
    · rw [Duplex.react_state_ne (h := Side.other_ne i)]
      exact hw.sound i.other
  linked j := by
    rcases Side.eq_or i j with rfl | rfl
    · rw [Duplex.react_link_ne (h := (Side.other_ne j).symm)]
      exact hw.linked j
    · rw [Duplex.react_link_peer]
      intro frame hframe profileUid hprofile
      rcases List.mem_append.mp hframe with hframe | hframe
      · exact hw.linked i.other frame hframe profileUid hprofile
      · rcases hr.sent with hsent | ⟨frame', hsent, hcomplement⟩
        · rw [hsent] at hframe
          exact absurd hframe List.not_mem_nil
        · rw [hsent] at hframe
          obtain rfl := List.mem_singleton.mp hframe
          obtain ⟨l, hl, rfl⟩ := hcomplement profileUid hprofile
          obtain ⟨l', hl', huid, -⟩ := hlibs i l hl
          exact ⟨l', hl', huid⟩
  ordered j := by
    rcases Side.eq_or i j with rfl | rfl
    · rw [Duplex.react_state_self, Duplex.react_link_ne (h := (Side.other_ne j).symm)]
      exact hr.ordered
    · rw [Duplex.react_state_ne (h := Side.other_ne i), Duplex.react_link_peer]
      rcases hr.sent with hsent | ⟨frame, hsent, -⟩
      · rw [hsent, List.append_nil]
        exact hw.ordered i.other
      · rw [hsent]
        refine (hw.ordered i.other).append ?_
        intro piuid hcreation
        refine (hw.phase piuid).silent (hr.move piuid) ?_
        rw [hsent, creations, List.filterMap_cons_some hcreation, List.count_cons_self]
        exact Nat.succ_ne_zero _
  phase piuid := by
    have hmade : (∃ j, piuid ∈ ((w.react Side.other i r).state j).made)
        = ∃ j, piuid ∈ (w.state j).made := by
      refine propext (exists_congr fun j => ?_)
      rcases Side.eq_or i j with rfl | rfl
      · rw [Duplex.react_state_self, hr.made]
      · rw [Duplex.react_state_ne (h := Side.other_ne i)]
    rw [hmade]
    exact (hw.phase piuid).moves ⟨i, _, _, (hr.move piuid).to (tally_react_self w i r piuid),
      tally_react_other w i r piuid⟩

/-- **A client creates a new instance.** -/
theorem Inv.createProfile (hw : Inv libs w) {profileUid : Uid} {piuid : IUid} {sid : ServiceUid}
    {dirId : DirectionID} (hhas : Has (libs i) profileUid) (hnew : ∀ j, piuid ∉ (w.state j).made)
    (hr : (w.state i).act (.createProfile profileUid piuid sid dirId) = some r) :
    Inv libs (w.react Side.other i r) := by
  obtain ⟨hsound, hordered, hmade, hsent, htally⟩ :=
    Stack.createProfile_cases (hw.sound i) (hw.ordered i) hhas hr
  have hlink : (w.react Side.other i r).link = w.link := by
    funext j
    rcases Side.eq_or i j with rfl | rfl
    · exact Duplex.react_link_ne _ _ _ (Side.other_ne j).symm
    · rw [Duplex.react_link_peer, hsent, List.append_nil]
  refine ⟨fun j => ?_, fun j => ?_, fun j => ?_, fun p => ?_⟩
  · rcases Side.eq_or i j with rfl | rfl
    · rw [Duplex.react_state_self]
      exact hsound
    · rw [Duplex.react_state_ne (h := Side.other_ne i)]
      exact hw.sound i.other
  · rw [hlink]
    exact hw.linked j
  · rw [hlink]
    rcases Side.eq_or i j with rfl | rfl
    · rw [Duplex.react_state_self]
      exact hordered
    · rw [Duplex.react_state_ne (h := Side.other_ne i)]
      exact hw.ordered i.other
  · have hself := tally_react_self w i r p
    have hother := tally_react_other w i r p
    rw [htally] at hself
    rw [hsent] at hother
    have hphase := hw.phase p
    by_cases hp : p = piuid
    · subst hp
      rw [List.count_singleton_self] at hself
      cases hphase with
      | fresh _ hnone =>
        rw [hnone i] at hself
        rw [hnone i.other] at hother
        refine .called i ⟨i, ?_⟩ hself hother
        rw [Duplex.react_state_self, hmade]
        exact List.mem_cons_self
      | called j hmade | shared hmade => exact absurd hmade (fun ⟨j, hj⟩ => hnew j hj)
    · have hcount : [piuid].count p = 0 := List.count_eq_zero.mpr (by simpa using hp)
      rw [hcount] at hself
      have hsame : (∃ j, p ∈ ((w.react Side.other i r).state j).made)
          = ∃ j, p ∈ (w.state j).made := by
        refine propext (exists_congr fun j => ?_)
        rcases Side.eq_or i j with rfl | rfl
        · rw [Duplex.react_state_self, hmade, List.mem_cons, or_iff_right hp]
        · rw [Duplex.react_state_ne (h := Side.other_ne i)]
      rw [hsame]
      exact hphase.moves ⟨i, 0, 0, Tally.Move.stay.to hself, hother⟩

/-- **A request arrives.** -/
theorem Inv.deliver (hw : Inv libs w) {frame : PMPFrame} {rest : List PMPFrame}
    (hlink : w.link i = frame :: rest) :
    Inv libs (({ w with link := Function.update w.link i rest } : PmpPims).react Side.other i
      ((w.state i).pushes (Stack.onPimRequest frame))) := by
  have hknown := hw.linked i frame (by rw [hlink]; exact List.mem_cons_self)
  have hordered := hw.ordered i
  rw [hlink] at hordered
  have hlinks : ∀ j, (({ w with link := Function.update w.link i rest } : PmpPims).react Side.other i
      ((w.state i).pushes (Stack.onPimRequest frame))).link j
      = Function.update w.link i rest j := by
    intro j
    rcases Side.eq_or i j with rfl | rfl
    · exact Duplex.react_link_ne _ _ _ (Side.other_ne j).symm
    · rw [Duplex.react_link_peer]
      exact List.append_nil _
  refine ⟨fun j => ?_, fun j => ?_, fun j => ?_, fun p => ?_⟩
  · rcases Side.eq_or i j with rfl | rfl
    · rw [Duplex.react_state_self]
      refine (hw.sound j).pushEvent ?_ ?_
      · cases frame with
        | PMP_REQ_PIM_CREATE_PROFILE profileUid piuid sid => exact hknown profileUid rfl
        | PMP_REQ_PIM_PROFILE_DIED piuid sid => trivial
      · cases frame <;> exact fun _ hdir => absurd hdir (by simp [Stack.onPimRequest, PimEvent.direction])
    · rw [Duplex.react_state_ne (h := Side.other_ne i)]
      exact hw.sound i.other
  · rw [hlinks]
    rcases Side.eq_or i j with rfl | rfl
    · rw [Function.update_self]
      exact fun frame' hframe => hw.linked j frame' (by rw [hlink]; exact List.mem_cons_of_mem _ hframe)
    · rw [Function.update_of_ne (Side.other_ne i)]
      exact hw.linked i.other
  · rw [hlinks]
    rcases Side.eq_or i j with rfl | rfl
    · rw [Duplex.react_state_self, Function.update_self]
      exact hordered.onPimRequest
    · rw [Duplex.react_state_ne (h := Side.other_ne i), Function.update_of_ne (Side.other_ne i)]
      exact hw.ordered i.other
  · have hmade : (∃ j, p ∈ ((({ w with link := Function.update w.link i rest } : PmpPims).react
        Side.other i ((w.state i).pushes (Stack.onPimRequest frame))).state j).made)
        = ∃ j, p ∈ (w.state j).made := by
      refine propext (exists_congr fun j => ?_)
      rcases Side.eq_or i j with rfl | rfl
      · rw [Duplex.react_state_self]
        rfl
      · rw [Duplex.react_state_ne (h := Side.other_ne i)]
    have hself := (w.state i).tally_onPimRequest frame rest p
    rw [hmade]
    refine (hw.phase p).moves ⟨i, 0, 0, Tally.Move.stay.to ?_, ?_⟩ <;> dsimp only
    · rw [hlinks, Duplex.react_state_self, Function.update_self, hlink]
      exact hself
    · rw [hlinks, Duplex.react_state_ne (h := Side.other_ne i),
        Function.update_of_ne (Side.other_ne i)]
      rfl

/-- **A step keeps the invariant.** -/
theorem Inv.step (hw : Inv libs w) (hlibs : Complementary libs) {a : Action}
    (hproper : Proper libs w a) (htimely : Timely w a) (h : step w a = some w') : Inv libs w' := by
  cases Duplex.step_cases h with
  | @act i c r hr =>
    by_cases hc : ∃ profileUid piuid sid dirId, c = .createProfile profileUid piuid sid dirId
    · obtain ⟨profileUid, piuid, sid, dirId, rfl⟩ := hc
      have hnew : ∀ j, piuid ∉ (w.state j).made := by
        intro j
        rcases Side.eq_or i j with rfl | rfl
        · exact hproper.2.1
        · exact hproper.2.2
      exact hw.createProfile hproper.1 hnew hr
    · refine hw.acts hlibs (Stack.act_cases (hw.sound i) (hw.ordered i) ?_ ?_ hr)
      · rintro uid rfl
        exact htimely
      · exact fun profileUid piuid sid dirId heq => hc ⟨profileUid, piuid, sid, dirId, heq⟩
  | deliver hlink hr =>
    obtain rfl := Option.some.inj hr
    exact hw.deliver hlink

theorem inv_run (hlibs : Complementary libs) {as : List Action}
    (hproper : Along step (Proper libs) (init libs) as)
    (htimely : Along step Timely (init libs) as) (h : run step (init libs) as = some w) :
    Inv libs w :=
  run_invariant (fun _ _ _ hw hp hs => hw.step hlibs hp.1 hp.2 hs) (inv_init libs)
    (hproper.and htimely) h

theorem Quiet.tally (hquiet : Quiet w) (i : Side) (piuid : IUid) :
    (w.state i).tally (w.link i) piuid = ⟨registered w i piuid, 0, 0, 0,
      (w.state i).pim.mIncomingProfiles.contains piuid⟩ := by
  obtain ⟨hlink, hqueue, htimeouts, hpending, hasked⟩ := hquiet i
  simp only [Stack.tally, Stack.coming, Stack.creating, Stack.dying, hlink, hqueue, htimeouts,
    hpending, hasked, List.filterMap_nil, List.map_nil, List.append_nil, List.count_nil, creations,
    deaths, registered]

/-- One profile on each side. -/
def pairLibs : Side → List LibInfo
  | .a => [⟨['p'], ['i'], ['q']⟩]
  | .b => [⟨['q'], ['i'], ['p']⟩]

theorem pairLibs_complementary : Complementary pairLibs := by
  unfold Complementary
  rintro (_ | _) <;> decide

/-- Both sides have a client, and one of them creates an instance, for which an application is
started on the other side. -/
def started : List Action :=
  [.act .a (.onConnection 1), .act .a (.handleEvent ['x']),
   .act .b (.onConnection 1), .act .b (.handleEvent ['y']),
   .act .a (.createProfile ['p'] ['1'] ['s'] 1), .act .a (.handleEvent ['u']), .deliver .b (),
   .act .b (.handleEvent ['z']), .act .b (.readyToServe ['z'] 1), .act .b (.handleEvent ['u']),
   .act .b (.handleEvent ['u']), .act .b (.answer 0), .act .b (.handleEvent ['u'])]

/-- Another instance is created, and dies once it is there. -/
def diesLater : List Action :=
  started ++
  [.act .a (.createProfile ['p'] ['2'] ['s'] 1), .act .a (.handleEvent ['u']), .deliver .b (),
   .act .b (.handleEvent ['u']), .act .b (.handleEvent ['u']), .act .b (.answer 0),
   .act .b (.handleEvent ['u']), .act .a (.profileDied ['2'] 1), .act .a (.handleEvent ['u']),
   .deliver .b (), .act .b (.handleEvent ['u'])]

/-- Another instance is created and dies at once. The other side knows the service; it has put the
creation behind the death when it handles it. -/
def diesAtOnce : List Action :=
  started ++
  [.act .a (.createProfile ['p'] ['2'] ['s'] 1), .act .a (.profileDied ['2'] 1),
   .act .a (.handleEvent ['u']), .act .a (.handleEvent ['u']), .deliver .b (), .deliver .b (),
   .act .b (.handleEvent ['u']), .act .b (.handleEvent ['u']), .act .b (.handleEvent ['u']),
   .act .b (.answer 0), .act .b (.handleEvent ['u'])]

/-- Whether nothing is under way on a side. -/
def settled (w : PmpPims) (i : Side) : Bool :=
  decide (w.link i = [] ∧ (w.state i).mEventQueue = [] ∧ (w.state i).timeouts = [] ∧
    (w.state i).pim.mPendingServiceMap = [] ∧ (w.state i).asked = [])

theorem quiet_of_settled (ha : settled w .a = true) (hb : settled w .b = true) : Quiet w := by
  rintro (_ | _)
  · exact of_decide_eq_true ha
  · exact of_decide_eq_true hb

end PmpPims

end IviLink.ProfileManager.PIM
