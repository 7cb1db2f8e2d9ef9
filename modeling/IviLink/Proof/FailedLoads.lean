import IviLink.PMAL.LoadProfile

/-!
# Loads that fail

Up to the initialisation of the object a failing load undoes what it has done. Where the
registration fails the piuid is not released, and where the message fails nothing is undone.
-/

namespace IviLink.PMAL.PIM

variable {s : CPIM} {key : IncomingPrfUID} {answers : Answers} {piuid : IUid} {pProfInt : Instance}

namespace CPIM

@[simp] theorem mInstanceMap_generatePIUID (s : CPIM) (key : IncomingPrfUID)
    (getPIUID : Option IUid) :
    (s.generatePIUID key getPIUID).1.mInstanceMap = s.mInstanceMap := by
  unfold generatePIUID
  split
  · rfl
  · rfl

/-- What is taken from the incoming profiles is the piuid. -/
theorem generatePIUID_incoming (s : CPIM) (key : IncomingPrfUID) (getPIUID : Option IUid) :
    (s.generatePIUID key getPIUID).1.mIncomingPrfMap = s.mIncomingPrfMap ∨
      ∃ piuid, (s.generatePIUID key getPIUID).2 = some piuid ∧
        (s.generatePIUID key getPIUID).1.mIncomingPrfMap =
          s.mIncomingPrfMap.erase (key, piuid) := by
  unfold generatePIUID
  cases hfind : s.mIncomingPrfMap.find? (·.1 = key) with
  | none => exact Or.inl rfl
  | some it =>
    have hkey : it.1 = key := by simpa using List.find?_some hfind
    refine Or.inr ⟨it.2, rfl, ?_⟩
    -- the first entry with the key is the first one that is equal to it
    obtain ⟨-, before, after, hl, hbefore⟩ := List.find?_eq_some_iff_append.mp hfind
    have hnot : ∀ e ∈ before, e.1 ≠ key := fun e he => by simpa using hbefore e he
    have hit : it = (key, it.2) := Prod.ext hkey rfl
    have heraseP : s.mIncomingPrfMap.eraseP (·.1 = key) = before ++ after := by
      rw [hl, List.eraseP_append_right]
      · rw [List.eraseP_cons_of_pos (by simpa using hkey)]
      · intro e he
        simpa using hnot e he
    have herase : s.mIncomingPrfMap.erase (key, it.2) = before ++ after := by
      rw [hl, List.erase_append_right, ← hit, List.erase_cons_head]
      intro hmem
      exact hnot _ hmem rfl
    exact heraseP.trans herase.symm

end CPIM

/-- What has been taken for a piuid is the only trace of a load that undoes the rest. -/
theorem noTrace_create_iff {u : CPIM} (hmap : u.mInstanceMap = s.mInstanceMap)
    (hincoming : u.mIncomingPrfMap = s.mIncomingPrfMap ∨
      u.mIncomingPrfMap = s.mIncomingPrfMap.erase (key, piuid)) :
    ((u.create piuid answers).error ≠ .NoPMALError → NoTrace s key (u.create piuid answers)) ↔
      (answers.createProfileImpl.isSome = true → answers.initialised = true →
        piuid ∉ s.mInstanceMap.mProfileMap ∧ answers.createProfile = true) := by
  have htaken : u.mIncomingPrfMap = s.mIncomingPrfMap ∨ ∃ p, some piuid = some p ∧
      u.mIncomingPrfMap = s.mIncomingPrfMap.erase (key, p) :=
    hincoming.imp_right fun h => ⟨piuid, rfl, h⟩
  unfold CPIM.create
  cases hcreated : answers.createProfileImpl with
  | none => exact iff_of_true (fun _ => ⟨hmap, htaken, rfl, rfl⟩) (fun h => by cases h)
  | some pProfInt =>
    dsimp only
    cases hinit : answers.initialised with
    | false => exact iff_of_true (fun _ => ⟨hmap, htaken, rfl, rfl⟩) (fun _ h => by cases h)
    | true =>
      rw [if_neg (by decide), CProfileInstanceMap.registerProfile, hmap]
      by_cases hknown : piuid ∈ s.mInstanceMap.mProfileMap
      · -- the piuid is not released
        rw [if_pos hknown]
        refine iff_of_false (fun h => ?_) (fun h => (h rfl rfl).1 hknown)
        have hreleased := (h (by simp)).released
        cases hreleased
      · rw [if_neg hknown]
        dsimp only
        cases hmessage : answers.createProfile with
        | false =>
          refine iff_of_false (fun h => ?_) (fun h => by cases (h rfl rfl).2)
          have hreleased := (h (by simp)).released
          cases hreleased
        | true => exact iff_of_true (fun h => absurd rfl h) (fun _ _ => ⟨hknown, rfl⟩)

/-- **Exactly when a failed load leaves no trace**: for any state of `CPIM` and any place where the
load fails. -/
theorem failed_load_no_trace_iff (s : CPIM) (profileUid sid : Uid) (answers : Answers) :
    ((s.loadProfile profileUid sid answers).error ≠ .NoPMALError →
        NoTrace s (sid, profileUid) (s.loadProfile profileUid sid answers)) ↔
      Completed s (sid, profileUid) answers := by
  unfold CPIM.loadProfile Completed
  by_cases hprepared : answers.preparing = .NoPMALError
  · rw [if_neg (not_not.mpr hprepared), forall_prop_of_true hprepared]
    have hincoming := s.generatePIUID_incoming (sid, profileUid) answers.getPIUID
    have hmap := s.mInstanceMap_generatePIUID (sid, profileUid) answers.getPIUID
    cases hgenerated : s.generatePIUID (sid, profileUid) answers.getPIUID with
    | mk u piuid =>
      rw [hgenerated] at hincoming hmap
      cases piuid with
      | none =>
        refine iff_of_true (fun _ => ⟨hmap, ?_, rfl, rfl⟩) (fun piuid h => by cases h)
        exact hincoming.imp_right fun ⟨_, h, _⟩ => by cases h
      | some piuid =>
        have htaken : u.mIncomingPrfMap = s.mIncomingPrfMap ∨
            u.mIncomingPrfMap = s.mIncomingPrfMap.erase ((sid, profileUid), piuid) := by
          refine hincoming.imp_right ?_
          intro ⟨p, hp, htaken⟩
          cases hp
          exact htaken
        refine (noTrace_create_iff hmap htaken).trans ?_
        constructor
        · intro h p hp
          cases hp
          exact h
        · intro h
          exact h piuid rfl
  · rw [if_pos hprepared]
    exact iff_of_true (fun _ => ⟨rfl, Or.inl rfl, rfl, rfl⟩) (fun h => absurd h hprepared)

/-- The profile manager does not take the message. -/
def untold : Load :=
  CPIM.loadProfile ⟨⟨∅, ∅⟩, []⟩ "profile" "service"
    { getPIUID := some "p", createProfileImpl := some 1, createProfile := false }

/-- Another instance has the piuid. -/
def repeated : Load :=
  untold.pim.loadProfile "profile" "service" { getPIUID := some "p", createProfileImpl := some 2 }

/-- The instance stays registered, and neither it nor its piuid is given up; nor is the piuid where
the registration fails. -/
theorem failed_load_stays :
    (untold.error = .ERROR_OTHER ∧ untold.pim.mInstanceMap.mProfileMap["p"]? = some 1 ∧
        ¬ NoTrace ⟨⟨∅, ∅⟩, []⟩ ("service", "profile") untold) ∧
      repeated.error = .ERROR_PIM_INTERNAL "unable to register profile object" ∧
        ¬ NoTrace untold.pim ("service", "profile") repeated := by
  refine ⟨⟨rfl, rfl, fun h => ?_⟩, rfl, fun h => ?_⟩
  · cases h.released
  · cases h.released

end IviLink.PMAL.PIM
