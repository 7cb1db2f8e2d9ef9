import IviLink.PMAL.IncomingProfiles

/-!
# Announced piuids

The map of the incoming profiles has the announcement that waits for its load and nothing else,
as long as every announcement is answered and no other load comes between.
-/

namespace IviLink.PMAL.PIM

open IviLink.Lib

/-! ## The map in a load -/

namespace CPIM

variable {s : CPIM} {answers : Answers} {piuid : IUid}

theorem create_piuid : (s.create piuid answers).piuid = some piuid := by
  unfold create
  split
  · rfl
  · split
    · rfl
    · split
      · rfl
      · split
        · rfl
        · rfl

theorem create_incoming : (s.create piuid answers).pim.mIncomingPrfMap = s.mIncomingPrfMap := by
  unfold create
  split
  · rfl
  · split
    · rfl
    · split
      · rfl
      · split
        · rfl
        · rfl

theorem loadProfile_unprepared (s : CPIM) (profileUid sid : Uid)
    (h : answers.preparing ≠ .NoPMALError) :
    (s.loadProfile profileUid sid answers).pim = s ∧
      (s.loadProfile profileUid sid answers).piuid = none := by
  rw [loadProfile, if_pos h]
  exact ⟨rfl, rfl⟩

/-- A load uses what `generatePIUID` gives, and changes no more of the map. -/
theorem loadProfile_prepared (s : CPIM) (profileUid sid : Uid)
    (h : answers.preparing = .NoPMALError) :
    (s.loadProfile profileUid sid answers).piuid =
        (s.generatePIUID (sid, profileUid) answers.getPIUID).2 ∧
      (s.loadProfile profileUid sid answers).pim.mIncomingPrfMap =
        (s.generatePIUID (sid, profileUid) answers.getPIUID).1.mIncomingPrfMap := by
  rw [loadProfile, if_neg (not_not.mpr h)]
  cases s.generatePIUID (sid, profileUid) answers.getPIUID with
  | mk u piuid =>
    cases piuid with
    | none => exact ⟨rfl, rfl⟩
    | some piuid => exact ⟨create_piuid, create_incoming⟩

end CPIM

namespace Incoming

variable {s t : Incoming} {a : Announcement}

/-- What is in the map during a job. -/
def waiting : Job → List (IncomingPrfUID × IUid)
  | .called a | .answered a false => [(a.key, a.piuid)]
  | .idle | .answered _ true => []

structure Inv (s : Incoming) : Prop where
  exact : s.Exact
  incoming : s.pim.mIncomingPrfMap = waiting s.job
  /-- What has been used in an answer has been announced. -/
  told : ∀ use ∈ s.uses, use.answers ≠ none → use.piuid ∈ s.announced
  current : ∀ it ∈ waiting s.job, it.2 ∈ s.announced

theorem inv_init : Inv init :=
  ⟨⟨by simp [init], by simp [init], by simp [init], fun _ => rfl⟩, rfl, by simp [init],
    by simp [init, waiting]⟩

theorem pending_iff {key : IncomingPrfUID} : s.pending = some key ↔
    ∃ piuid, waiting s.job = [(key, piuid)] := by
  unfold pending
  cases s.job with
  | idle => simp [waiting]
  | called a => simp [waiting]
  | answered a generated => cases generated <;> simp [waiting]

theorem pending_eq_none_iff : s.pending = none ↔ waiting s.job = [] := by
  unfold pending
  cases s.job with
  | idle => simp [waiting]
  | called a => simp [waiting]
  | answered a generated => cases generated <;> simp [waiting]

/-- One more use. -/
theorem exact_use_iff (h : s.Exact) {use : Use} {pim : CPIM} {job : Job} (hjob : job = .idle →
      pim.mIncomingPrfMap = [])
    (hown : ∀ a, use.answers = some a → use.piuid = a.piuid) :
    Exact { s with pim := pim, job := job, uses := s.uses ++ [use] } ↔
      (use.answers = none → use.piuid ∉ s.announced) ∧
        (use.piuid ∈ s.announced → ∀ other ∈ s.uses, other.piuid ≠ use.piuid) := by
  have hcount : ∀ piuid, (s.uses ++ [use]).countP (·.piuid = piuid) =
      s.uses.countP (·.piuid = piuid) + if use.piuid = piuid then 1 else 0 := by
    intro piuid
    rw [List.countP_append, List.countP_singleton]
    simp
  constructor
  · intro hexact
    refine ⟨fun hnone => hexact.foreign use (List.mem_append_right _ List.mem_cons_self) hnone, ?_⟩
    intro hannounced other hother heq
    have honce := hexact.once use.piuid hannounced
    dsimp only at honce
    rw [hcount, if_pos rfl] at honce
    have hpos : 0 < s.uses.countP (·.piuid = use.piuid) :=
      List.countP_pos_iff.mpr ⟨other, hother, decide_eq_true heq⟩
    omega
  · intro ⟨hforeign, hunused⟩
    refine ⟨?_, ?_, ?_, hjob⟩
    · intro u hu b hb
      rcases List.mem_append.mp hu with hu | hu
      · exact h.own u hu b hb
      · cases List.mem_singleton.mp hu
        exact hown b hb
    · intro u hu hnone
      rcases List.mem_append.mp hu with hu | hu
      · exact h.foreign u hu hnone
      · cases List.mem_singleton.mp hu
        exact hforeign hnone
    · intro piuid hpiuid
      dsimp only at hpiuid ⊢
      rw [hcount]
      by_cases heq : use.piuid = piuid
      · subst heq
        have hzero : s.uses.countP (·.piuid = use.piuid) = 0 :=
          List.countP_eq_zero.mpr fun other hother => by simpa using hunused hpiuid other hother
        exact Nat.le_of_eq (by rw [if_pos rfl, hzero])
      · rw [if_neg heq]
        exact h.once piuid hpiuid

/-- No more uses. -/
theorem exact_of_uses (h : s.Exact) {pim : CPIM} {job : Job}
    (hjob : job = .idle → pim.mIncomingPrfMap = []) :
    Exact { s with pim := pim, job := job } :=
  ⟨h.own, h.foreign, h.once, hjob⟩

/-- One more announcement. -/
theorem exact_announced_iff (h : s.Inv) {pim : CPIM} {job : Job} {piuid : IUid}
    (hjob : job = .idle → pim.mIncomingPrfMap = []) :
    Exact { s with pim := pim, job := job, announced := piuid :: s.announced } ↔
      ∀ use ∈ s.uses, use.answers = none → use.piuid ≠ piuid := by
  constructor
  · intro hexact use huse hnone heq
    exact hexact.foreign use huse hnone (heq ▸ List.mem_cons_self)
  · intro hlocal
    refine ⟨h.exact.own, ?_, ?_, hjob⟩
    · intro use huse hnone hmem
      rcases List.mem_cons.mp hmem with heq | hmem
      · exact hlocal use huse hnone heq
      · exact h.exact.foreign use huse hnone hmem
    · intro p hp
      by_cases hknown : p ∈ s.announced
      · exact h.exact.once p hknown
      · -- it is new, and what has been used in an answer is not
        have hp : p = piuid := (List.mem_cons.mp hp).resolve_right hknown
        have hzero : s.uses.countP (·.piuid = p) = 0 := by
          refine List.countP_eq_zero.mpr fun use huse => ?_
          rw [decide_eq_true_iff]
          intro heq
          by_cases hnone : use.answers = none
          · exact hlocal use huse hnone (heq.trans hp)
          · exact hknown (heq ▸ h.told use huse hnone)
        dsimp only
        omega

theorem Inv.announce (h : s.Inv) {pim : CPIM} {job : Job} {piuid : IUid}
    (hexact : Exact { s with pim := pim, job := job, announced := piuid :: s.announced })
    (hwaiting : pim.mIncomingPrfMap = waiting job) (hcurrent : ∀ it ∈ waiting job, it.2 = piuid) :
    Inv { s with pim := pim, job := job, announced := piuid :: s.announced } where
  exact := hexact
  incoming := hwaiting
  told use huse hne := List.mem_cons_of_mem _ (h.told use huse hne)
  current it hit := hcurrent it hit ▸ List.mem_cons_self

/-! ## A step -/

/-- What `generatePIUID` finds. -/
theorem generatePIUID_pending (h : s.Inv) (key : IncomingPrfUID) (getPIUID : Option IUid) :
    if s.pending = some key then
      ∃ piuid ∈ s.announced, waiting s.job = [(key, piuid)] ∧
        s.pim.generatePIUID key getPIUID =
          ({ s.pim with mIncomingPrfMap := [] }, some piuid)
    else s.pim.generatePIUID key getPIUID = (s.pim, getPIUID) := by
  unfold CPIM.generatePIUID
  rw [h.incoming]
  split
  · rename_i hpending
    obtain ⟨piuid, hwaiting⟩ := pending_iff.mp hpending
    refine ⟨piuid, h.current (key, piuid) (by rw [hwaiting]; exact List.mem_cons_self), hwaiting, ?_⟩
    rw [hwaiting]
    simp
  · rename_i hpending
    have hnone : (waiting s.job).find? (·.1 = key) = none := by
      refine List.find?_eq_none.mpr fun it hit => ?_
      rw [decide_eq_true_iff]
      intro hkey
      refine hpending (pending_iff.mpr ⟨it.2, ?_⟩)
      cases hjob : s.job with
      | idle => rw [hjob] at hit; cases hit
      | called a =>
        rw [hjob] at hit
        rw [← hkey]
        cases List.mem_singleton.mp hit
        rfl
      | answered a generated =>
        rw [hjob] at hit
        cases generated with
        | true => cases hit
        | false =>
          rw [← hkey]
          cases List.mem_singleton.mp hit
          rfl
    rw [hnone]

theorem spec_incomingProfileInternal (h : s.Inv) {accepted : Bool}
    (hs : s.step (.incomingProfileInternal a accepted) = some t) :
    (t.Exact ↔ s.Proper (.incomingProfileInternal a accepted)) ∧ (t.Exact → t.Inv) := by
  unfold step at hs
  dsimp only at hs
  split at hs
  · rename_i hjob
    have hmap : s.pim.mIncomingPrfMap = [] := by rw [h.incoming, hjob, waiting]
    split at hs
    · cases hs
      refine ⟨exact_announced_iff h (fun hidle => by cases hidle), fun hexact => ?_⟩
      refine h.announce hexact ?_ ?_
      · rw [hmap]
        rfl
      · intro it hit
        cases List.mem_singleton.mp hit
        rfl
    · cases hs
      refine ⟨exact_announced_iff h fun _ => hmap, fun hexact => ?_⟩
      refine h.announce hexact h.incoming ?_
      intro it hit
      rw [hjob] at hit
      cases hit
  · cases hs

theorem spec_answer (h : s.Inv) {answers : Answers} (hs : s.step (.answer answers) = some t) :
    (t.Exact ↔ s.Proper (.answer answers)) ∧ (t.Exact → t.Inv) := by
  unfold step at hs
  dsimp only at hs
  split at hs
  · rename_i a hjob
    have hwaiting : waiting s.job = [(a.key, a.piuid)] := by rw [hjob, waiting]
    by_cases hprepared : answers.preparing = .NoPMALError
    · obtain ⟨hpiuid, hmap⟩ := CPIM.loadProfile_prepared s.pim a.profileUid a.serviceUID hprepared
      have hfound := generatePIUID_pending h a.key answers.getPIUID
      rw [if_pos (pending_iff.mpr ⟨a.piuid, hwaiting⟩)] at hfound
      obtain ⟨piuid, hannounced, hwaiting', hgenerate⟩ := hfound
      rw [hwaiting] at hwaiting'
      cases hwaiting'
      have hkey : (a.serviceUID, a.profileUid) = a.key := rfl
      rw [hkey, hgenerate] at hpiuid hmap
      have ht : t = { s with
          pim := (s.pim.loadProfile a.profileUid a.serviceUID answers).pim
          job := .answered a true
          uses := s.uses ++ [⟨some a, a.piuid⟩] } := by
        rw [← Option.some.inj hs, after, hpiuid, decide_eq_true hprepared]
        rfl
      subst ht
      constructor
      · refine (exact_use_iff h.exact (fun hidle => by cases hidle) ?_).trans ?_
        · intro b hb
          cases hb
          rfl
        · constructor
          · intro hunused _ b hb
            cases hjob.symm.trans hb
            exact hunused.2 hannounced
          · intro hproper
            exact ⟨fun hnone => (by cases hnone), fun _ => hproper hprepared a hjob⟩
      · intro hexact
        refine ⟨hexact, hmap, ?_, fun it hit => by cases hit⟩
        intro use huse hne
        rcases List.mem_append.mp huse with huse | huse
        · exact h.told use huse hne
        · cases List.mem_singleton.mp huse
          exact hannounced
    · obtain ⟨hpim, hpiuid⟩ := CPIM.loadProfile_unprepared s.pim a.profileUid a.serviceUID hprepared
      have ht : t = { s with pim := s.pim, job := .answered a false } := by
        rw [← Option.some.inj hs, after, hpim, hpiuid, decide_eq_false hprepared]
        simp
      subst ht
      have hexact : Exact { s with pim := s.pim, job := .answered a false } :=
        exact_of_uses h.exact fun hidle => by cases hidle
      refine ⟨iff_of_true hexact fun hp => absurd hp hprepared, fun hexact => ?_⟩
      refine ⟨hexact, ?_, h.told, ?_⟩
      · rw [h.incoming, hwaiting]
        rfl
      · have hcurrent := h.current
        rw [hwaiting] at hcurrent
        exact hcurrent
  · cases hs

theorem spec_returned (h : s.Inv) (hs : s.step .returned = some t) :
    (t.Exact ↔ s.Proper .returned) ∧ (t.Exact → t.Inv) := by
  have ht : t = { s with pim := s.pim, job := .idle } := by
    unfold step at hs
    dsimp only at hs
    split at hs
    · cases hs
    · exact (Option.some.inj hs).symm
  subst ht
  rw [Proper, pending_eq_none_iff, ← h.incoming]
  constructor
  · constructor
    · intro hexact
      exact hexact.left rfl
    · intro hmap
      exact exact_of_uses h.exact fun _ => hmap
  · intro hexact
    exact ⟨hexact, hexact.left rfl, h.told, fun it hit => by cases hit⟩

theorem spec_loadProfile (h : s.Inv) {profileUid sid : Uid} {answers : Answers}
    (hs : s.step (.loadProfile profileUid sid answers) = some t) :
    (t.Exact ↔ s.Proper (.loadProfile profileUid sid answers)) ∧ (t.Exact → t.Inv) := by
  have ht := (Option.some.inj hs).symm
  by_cases hprepared : answers.preparing = .NoPMALError
  · obtain ⟨hpiuid, hmap⟩ := CPIM.loadProfile_prepared s.pim profileUid sid hprepared
    have hfound := generatePIUID_pending h (sid, profileUid) answers.getPIUID
    by_cases hpending : s.pending = some (sid, profileUid)
    · -- it takes what has been announced
      rw [if_pos hpending] at hfound
      obtain ⟨piuid, hannounced, -, hgenerate⟩ := hfound
      rw [hgenerate] at hpiuid
      have hnot : ¬ t.Exact := by
        intro hexact
        rw [ht, after, hpiuid] at hexact
        exact hexact.foreign ⟨none, piuid⟩
          (List.mem_append_right _ (List.mem_singleton.mpr rfl)) rfl hannounced
      exact ⟨iff_of_false hnot fun hproper => (hproper hprepared).1 hpending,
        fun hexact => absurd hexact hnot⟩
    · rw [if_neg hpending] at hfound
      rw [hfound] at hpiuid hmap
      have hjob : s.job = .idle →
          (s.pim.loadProfile profileUid sid answers).pim.mIncomingPrfMap = [] :=
        fun hidle => hmap.trans (h.exact.left hidle)
      cases hgot : answers.getPIUID with
      | none =>
        rw [hgot] at hpiuid
        have ht : t = { s with
            pim := (s.pim.loadProfile profileUid sid answers).pim, job := s.job } := by
          rw [ht, after, hpiuid]
          simp
        subst ht
        refine ⟨iff_of_true (exact_of_uses h.exact hjob) fun _ => ⟨hpending, ?_⟩, fun hexact => ?_⟩
        · rw [hgot]
          exact fun piuid hp => by cases hp
        · exact ⟨hexact, hmap.trans h.incoming, h.told, h.current⟩
      | some piuid =>
        rw [hgot] at hpiuid
        have ht : t = { s with
            pim := (s.pim.loadProfile profileUid sid answers).pim
            job := s.job
            uses := s.uses ++ [⟨none, piuid⟩] } := by
          rw [ht, after, hpiuid]
          rfl
        subst ht
        constructor
        · refine (exact_use_iff h.exact hjob fun a ha => by cases ha).trans ?_
          rw [Proper, forall_prop_of_true hprepared, hgot]
          constructor
          · intro huse
            refine ⟨hpending, fun p hp => ?_⟩
            cases hp
            exact huse.1 rfl
          · intro hproper
            have hnew := hproper.2 piuid rfl
            exact ⟨fun _ => hnew, fun hannounced => absurd hannounced hnew⟩
        · intro hexact
          refine ⟨hexact, hmap.trans h.incoming, ?_, h.current⟩
          intro use huse hne
          rcases List.mem_append.mp huse with huse | huse
          · exact h.told use huse hne
          · cases List.mem_singleton.mp huse
            exact absurd rfl hne
  · obtain ⟨hpim, hpiuid⟩ := CPIM.loadProfile_unprepared s.pim profileUid sid hprepared
    have hsame : t = s := by
      rw [ht, after, hpim, hpiuid]
      simp
    subst hsame
    exact ⟨iff_of_true h.exact fun hp => absurd hp hprepared, fun _ => h⟩

theorem spec_unregisterProfile (h : s.Inv) {pInstance : Instance}
    (hs : s.step (.unregisterProfile pInstance) = some t) : t.Exact ∧ t.Inv := by
  unfold step at hs
  dsimp only at hs
  split at hs
  · cases hs
    exact ⟨h.exact, h⟩
  · rename_i mInstanceMap _
    cases hs
    have hexact : Exact { s with pim := { s.pim with mInstanceMap := mInstanceMap } } :=
      ⟨h.exact.own, h.exact.foreign, h.exact.once, h.exact.left⟩
    exact ⟨hexact, hexact, h.incoming, h.told, h.current⟩

/-- **One step** keeps the ids apart exactly if it is proper. -/
theorem step_spec (h : s.Inv) {e : Event} (hs : s.step e = some t) :
    (t.Exact ↔ s.Proper e) ∧ (t.Exact → t.Inv) := by
  cases e with
  | incomingProfileInternal a accepted => exact spec_incomingProfileInternal h hs
  | answer answers => exact spec_answer h hs
  | returned => exact spec_returned h hs
  | loadProfile profileUid sid answers => exact spec_loadProfile h hs
  | unregisterProfile pInstance =>
    obtain ⟨hexact, hinv⟩ := spec_unregisterProfile h hs
    exact ⟨iff_of_true hexact trivial, fun _ => hinv⟩

/-- **Exactly when incoming profiles are created under the announced ids**: along any run of jobs,
answers and other loads, every load uses its own piuid, no announced one is used twice or by
another load, and none is left behind, if and only if every step is proper. -/
theorem announced_piuids_iff {events : List Event} {t : Incoming}
    (hr : run step init events = some t) :
    Always step init events Exact ↔ Along step Proper init events :=
  always_iff_of_step (I := Inv) (fun _ h => h.exact) (fun _ _ _ h hs => (step_spec h hs).1)
    (fun _ _ _ h hp hs => (step_spec h hs).2 ((step_spec h hs).1.mpr hp)) inv_init hr

/-- An announcement is answered. -/
def answeredOnce : List Event :=
  [.incomingProfileInternal ⟨"profile", "api", "p", "service"⟩ true,
   .answer { createProfileImpl := some 1 }, .returned]

theorem announced_piuids_answeredOnce :
    ∃ t, run step init answeredOnce = some t ∧ t.uses.map (·.piuid) = ["p"] ∧
      Always step init answeredOnce Exact := by
  have hproper : Along step Proper init answeredOnce := by
    refine .cons ?_ rfl (.cons ?_ rfl (.cons rfl rfl trivial))
    · exact fun use huse => absurd huse List.not_mem_nil
    · exact fun _ a _ use huse => absurd huse List.not_mem_nil
  exact ⟨_, rfl, rfl, (announced_piuids_iff rfl).mpr hproper⟩

/-- The client does not answer, and another announcement for the same service and profile comes. -/
def leftBehind : List Event :=
  [.incomingProfileInternal ⟨"profile", "api", "p", "service"⟩ true, .returned,
   .incomingProfileInternal ⟨"profile", "api", "q", "service"⟩ true,
   .answer { createProfileImpl := some 1 }]

/-- A load for the same service and profile comes before the client answers. -/
def overtaken : List Event :=
  [.incomingProfileInternal ⟨"profile", "api", "p", "service"⟩ true,
   .loadProfile "profile" "service" { getPIUID := some "q", createProfileImpl := some 1 }]

/-- The second announcement is created under the id of the first; the load takes the id that has
been announced. -/
theorem announced_piuid_taken :
    (∃ t, run step init leftBehind = some t ∧ t.uses.map (·.piuid) = ["p"] ∧ ¬ t.Exact) ∧
      ∃ t, run step init overtaken = some t ∧ t.uses.map (·.piuid) = ["p"] ∧ ¬ t.Exact := by
  refine ⟨⟨_, rfl, rfl, fun h => ?_⟩, ⟨_, rfl, rfl, fun h => ?_⟩⟩
  · have hown := h.own _ List.mem_cons_self _ rfl
    exact absurd hown (by decide)
  · exact h.foreign _ List.mem_cons_self rfl List.mem_cons_self

end Incoming

end IviLink.PMAL.PIM
