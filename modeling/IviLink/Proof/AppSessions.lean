import IviLink.ApplicationManager.CRequestHandler
import Mathlib.Data.List.Nodup
import Mathlib.Tactic.Common

/-!
# No session of an application is lost

A session is in one place at a time (`Located`): in the hands of `applicationRequest`,
in the queue of the launch thread or in its hands, waiting for the result of a launch,
in the hands of `setSessionPid`, or with an application. A step moves one session to
the next place, or delivers it, and what has to be shown of it is that the places of
the others are as they were.

With an application a session can be in several ways at once: its request is queued
when the application is entered in `mApps`, and is queued again when the application
registers, since the first one is dropped if it is sent before. That is one place as
long as no request is sent to the application while another is to follow.

`Prepared` is what makes the maps answer: a session that is looked for in `mSessions`
or in `mSessionServices` is still in there.
-/

namespace IviLink.AMP

open IviLink.Lib

variable {s s' : State} {session τ : SessionUid} {service : Uid} {pid : Pid} {p q r : Place}
  {app : CRunApp} {launchInfo : String}

theorem getElem?_insert {β : Type} (m : Std.TreeMap Int β) (k a : Int) (v : β) :
    (m.insert k v)[a]? = if a = k then some v else m[a]? := by
  rw [Std.TreeMap.getElem?_insert]
  simp only [Std.LawfulEqCmp.compare_eq_iff_eq]
  grind

theorem getElem?_erase {β : Type} (m : Std.TreeMap Int β) (k a : Int) :
    (m.erase k)[a]? = if a = k then none else m[a]? := by
  rw [Std.TreeMap.getElem?_erase]
  simp only [Std.LawfulEqCmp.compare_eq_iff_eq]
  grind

/-! ## Places -/

/-- Every session that was requested is somewhere, and nowhere else, or has been delivered. -/
structure Located (s : State) : Prop where
  known : ∀ session place, At s session place → s.sessions session ≠ none
  nameless : s.sessions "" = none
  new : ∀ session, s.sessions session = none → s.outcomes session = []
  kept : ∀ session service, s.sessions session = some service →
    (∃ place, ∀ q, At s session q ↔ q = place) ∧ s.outcomes session = [] ∨
      (∀ q, ¬ At s session q) ∧ ∃ pid, s.outcomes session = [.sessionRequest pid service]
  alone : ∀ pid session τ, With s session pid → With s τ pid → session = τ

/-- A session that is somewhere is nowhere else. -/
theorem Located.only (h : Located s) (hp : At s session p) (hq : At s session q) : q = p := by
  cases hs : s.sessions session with
  | none => exact absurd hs (h.known session p hp)
  | some service =>
    rcases h.kept session service hs with ⟨⟨r, hr⟩, _⟩ | ⟨hnone, _⟩
    · rw [(hr q).mp hq, (hr p).mp hp]
    · exact absurd hp (hnone p)

theorem Located.iff (h : Located s) (hp : At s session p) : At s session q ↔ q = p :=
  ⟨h.only hp, fun hq => hq ▸ hp⟩

theorem Located.ne_empty (h : Located s) (hp : At s session p) : session ≠ "" := by
  intro hempty
  exact h.known session p hp (hempty ▸ h.nameless)

theorem Located.same (h : Located s) (hsessions : s'.sessions = s.sessions)
    (houtcomes : s'.outcomes = s.outcomes) (hat : ∀ τ q, At s' τ q ↔ At s τ q) : Located s' where
  known := fun τ q hq => hsessions ▸ h.known τ q ((hat τ q).mp hq)
  nameless := hsessions ▸ h.nameless
  new := hsessions ▸ houtcomes ▸ h.new
  kept := by
    intro τ service hτ
    rw [houtcomes]
    simp only [hat]
    exact h.kept τ service (hsessions ▸ hτ)
  alone := fun pid τ τ' hτ hτ' =>
    h.alone pid τ τ' ((hat τ (.application pid)).mp hτ) ((hat τ' (.application pid)).mp hτ')

/-- If only one session moves, and to an application that is free, each application still has at
most one. -/
theorem Located.alone_after (h : Located s)
    (hothers : ∀ τ, τ ≠ session → ∀ q, At s' τ q ↔ At s τ q)
    (hmoved : ∀ q, At s' session q → q = r)
    (halone : ∀ pid, r = .application pid → Free s pid) (pid : Pid) (τ τ' : SessionUid)
    (hτ : With s' τ pid) (hτ' : With s' τ' pid) : τ = τ' := by
  by_cases hr : r = .application pid
  · have hself : ∀ τ, With s' τ pid → τ = session := by
      intro τ hτ
      by_contra hne
      exact halone pid hr τ ((hothers τ hne (.application pid)).mp hτ)
    rw [hself τ hτ, hself τ' hτ']
  · have hback : ∀ τ, With s' τ pid → With s τ pid := by
      intro τ hτ
      by_cases hne : τ = session
      · exact absurd (hmoved (.application pid) (hne ▸ hτ)).symm hr
      · exact (hothers τ hne (.application pid)).mp hτ
    exact h.alone pid τ τ' (hback τ hτ) (hback τ' hτ')

/-- A session goes from one place to another. -/
theorem Located.move (h : Located s) (hsessions : s'.sessions = s.sessions)
    (houtcomes : s'.outcomes = s.outcomes) (hp : At s session p)
    (hothers : ∀ τ, τ ≠ session → ∀ q, At s' τ q ↔ At s τ q)
    (hmoved : ∀ q, At s' session q ↔ q = r)
    (halone : ∀ pid, r = .application pid → Free s pid) : Located s' where
  known := by
    intro τ q hq
    rw [hsessions]
    by_cases hτ : τ = session
    · exact hτ ▸ h.known session p hp
    · exact h.known τ q ((hothers τ hτ q).mp hq)
  nameless := hsessions ▸ h.nameless
  new := hsessions ▸ houtcomes ▸ h.new
  kept := by
    intro τ service hservice
    rw [houtcomes]
    by_cases hτ : τ = session
    · subst hτ
      rcases h.kept τ service (hsessions ▸ hservice) with ⟨_, hnone⟩ | ⟨hnowhere, _⟩
      · exact .inl ⟨⟨r, hmoved⟩, hnone⟩
      · exact absurd hp (hnowhere p)
    · simp only [hothers τ hτ]
      exact h.kept τ service (hsessions ▸ hservice)
  alone := h.alone_after hothers (fun q => (hmoved q).mp) halone

/-- A session comes in. -/
theorem Located.add (h : Located s) (hnew : s.sessions session = none) (hne : session ≠ "")
    (hsessions : s'.sessions = Function.update s.sessions session (some service))
    (houtcomes : s'.outcomes = s.outcomes)
    (hothers : ∀ τ, τ ≠ session → ∀ q, At s' τ q ↔ At s τ q)
    (hadded : ∀ q, At s' session q ↔ q = r)
    (halone : ∀ pid, r = .application pid → Free s pid) : Located s' where
  known := by
    intro τ q hq
    rw [hsessions]
    by_cases hτ : τ = session
    · simp [hτ]
    · simpa [hτ] using h.known τ q ((hothers τ hτ q).mp hq)
  nameless := by
    rw [hsessions]
    simpa [hne.symm] using h.nameless
  new := by
    intro τ hτ
    rw [hsessions] at hτ
    rw [houtcomes]
    by_cases hne : τ = session
    · simp [hne] at hτ
    · exact h.new τ (by simpa [hne] using hτ)
  kept := by
    intro τ service' hservice
    rw [hsessions] at hservice
    rw [houtcomes]
    by_cases hτ : τ = session
    · subst hτ
      exact .inl ⟨⟨r, hadded⟩, h.new τ hnew⟩
    · simp only [hothers τ hτ]
      exact h.kept τ service' (by simpa [hτ] using hservice)
  alone := h.alone_after hothers (fun q => (hadded q).mp) halone

/-- A session is delivered. -/
theorem Located.deliver (h : Located s) (hsessions : s'.sessions = s.sessions)
    (hservice : s.sessions session = some service)
    (houtcomes : s'.outcomes = (s.addOutcome session (.sessionRequest pid service)).outcomes)
    (hp : At s session p) (hothers : ∀ τ, τ ≠ session → ∀ q, At s' τ q ↔ At s τ q)
    (hgone : ∀ q, ¬ At s' session q) : Located s' where
  known := by
    intro τ q hq
    rw [hsessions]
    by_cases hτ : τ = session
    · exact absurd (hτ ▸ hq) (hgone q)
    · exact h.known τ q ((hothers τ hτ q).mp hq)
  nameless := hsessions ▸ h.nameless
  new := by
    intro τ hτ
    rw [hsessions] at hτ
    rw [houtcomes]
    by_cases hne : τ = session
    · rw [hne, hservice] at hτ
      cases hτ
    · simpa [State.addOutcome, hne] using h.new τ hτ
  kept := by
    intro τ service' hservice'
    rw [hsessions] at hservice'
    rw [houtcomes]
    by_cases hτ : τ = session
    · subst hτ
      rw [hservice] at hservice'
      obtain rfl := Option.some.inj hservice'
      rcases h.kept τ service hservice with ⟨_, hnone⟩ | ⟨hnowhere, _⟩
      · exact .inr ⟨hgone, pid, by simp [State.addOutcome, hnone]⟩
      · exact absurd hp (hnowhere p)
    · simp only [hothers τ hτ, State.addOutcome, Function.update_of_ne hτ]
      exact h.kept τ service' hservice'
  alone := h.alone_after (r := .error) hothers (fun q hq => absurd hq (hgone q))
    (fun _ h => Place.noConfusion h)

/-! ## What is known of a session on its way -/

/-- The session is on the way to `setSessionPid`, and in `mSessions`. -/
def Entered (s : State) (session : SessionUid) : Prop :=
  (∃ service dbId, s.request = .entered session service dbId) ∨
    (∃ dbId, s.request = .named session dbId) ∨
    session ∈ s.launchThread.mRequests.map Prod.fst ∨
    (∃ launchInfo, s.launch = some (session, launchInfo)) ∨
    (∃ launchInfo, s.launchThread.mSessions launchInfo = some session) ∨
    ∃ pid, s.result = .setSessionPid session pid

/-- The service of the session will be looked for. -/
def Named (s : State) (session : SessionUid) : Prop :=
  (∃ dbId, s.request = .named session dbId) ∨
    session ∈ s.launchThread.mRequests.map Prod.fst ∨
    (∃ launchInfo, s.launch = some (session, launchInfo)) ∨
    (∃ launchInfo, s.launchThread.mSessions launchInfo = some session) ∨
    (∃ pid, s.result = .setSessionPid session pid) ∨
    (∃ app pid, s.result = .taken session app pid) ∨ (∃ pid, s.result = .placed session pid) ∨
    (∃ (pid : Pid) (app : CRunApp), s.mApps[pid]? = some app ∧ app.waits = true ∧
      app.mSession = session) ∨
    ∃ pid id, s.registering = .needed pid session id

/-- Every service that is next to a session is its own. -/
structure Own (s : State) : Prop where
  found : ∀ pid session service, s.request = .found pid session service →
    s.sessions session = some service
  absent : ∀ session service, s.request = .absent session service →
    s.sessions session = some service
  entered : ∀ session service dbId, s.request = .entered session service dbId →
    s.sessions session = some service
  services : ∀ session service, s.mSessionServices session = some service →
    s.sessions session = some service
  served : ∀ session pid service, s.result = .served session pid service →
    s.sessions session = some service
  requests : ∀ (pid : Pid) session service,
    s.appComThread.mSessionRequests[pid]? = some (session, service) → session ≠ "" →
      s.sessions session = some service
  sending : ∀ pid session service, s.sending = some (pid, session, service) → session ≠ "" →
    s.sessions session = some service

/-- What the maps have is what those who look for it expect. -/
structure Prepared (s : State) : Prop where
  entered : ∀ session, Entered s session → s.mSessions session ≠ none
  named : ∀ session, Named s session → s.mSessionServices session ≠ none
  sessions : ∀ session app, s.mSessions session = some app →
    app.mNeedsSessionRequest = true ∧ app.mSession = session
  taken : ∀ session app pid, s.result = .taken session app pid →
    app.mNeedsSessionRequest = true ∧ app.mSession = session
  needed : ∀ pid session id, s.registering = .needed pid session id →
    (∃ app, s.mApps[pid]? = some app ∧ app.mSession = session ∧ app.mPid = pid ∧
      app.mRegistred = true) ∧ ∀ τ, s.result ≠ .placed τ pid
  requested : ∀ pid id, s.registering = .requested pid id →
    ∃ app, s.mApps[pid]? = some app ∧ app.mRegistred = true

/-- None of the failures that lose a session has happened. -/
structure Untroubled (s : State) : Prop where
  queue : (s.launchThread.mRequests.map Prod.fst).Nodup
  errors : s.appComThread.mRequests = []
  supported : ∀ session, s.unsupported session = false
  unlocked : s.servicesLocked = false
  defined : s.undefinedBehaviour = false
  launched : ∀ session, s.result ≠ .failed session ∧ s.result ≠ .setSessionPid session (-1)
  unblocked : s.result ≠ .blocked

structure Orderly (s : State) : Prop where
  located : Located s
  own : Own s
  prepared : Prepared s
  untroubled : Untroubled s

theorem Orderly.init : Orderly .init where
  located := {
    known := by
      intro session place h
      cases place <;> simp [At, With, State.init, Request.session, Result.session] at h
    nameless := rfl
    new := fun _ _ => rfl
    kept := fun _ _ h => nomatch h
    alone := by
      intro pid session τ h
      simp [With, State.init] at h }
  own := {
    found := fun _ _ _ h => nomatch h
    absent := fun _ _ h => nomatch h
    entered := fun _ _ _ h => nomatch h
    services := fun _ _ h => nomatch h
    served := fun _ _ _ h => nomatch h
    requests := fun _ _ _ h => by simp [State.init] at h
    sending := fun _ _ _ h => nomatch h }
  prepared := {
    entered := by
      intro session h
      simp [Entered, State.init] at h
    named := by
      intro session h
      simp [Named, State.init] at h
    sessions := fun _ _ h => nomatch h
    taken := fun _ _ _ h => nomatch h
    needed := fun _ _ _ h => nomatch h
    requested := fun _ _ h => nomatch h }
  untroubled := {
    queue := List.nodup_nil
    errors := rfl
    supported := fun _ => rfl
    unlocked := rfl
    defined := rfl
    launched := fun _ => ⟨fun h => (nomatch h), fun h => nomatch h⟩
    unblocked := fun h => nomatch h }

/-! ## Changes of the maps -/

theorem getElem?_setApp (s : State) (pid a : Pid) (app : CRunApp) :
    (s.setApp pid app).mApps[a]? = if a = pid then some app else s.mApps[a]? :=
  getElem?_insert s.mApps pid a app

theorem getElem?_of_findApp (h : s.findApp service = some (pid, app)) : s.mApps[pid]? = some app :=
  Std.TreeMap.mem_toList_iff_getElem?_eq_some.mp (List.mem_of_find?_eq_some h)

/-- An application that waits has its session with it. -/
theorem with_of_waits (h : s.mApps[pid]? = some app) (hwaits : app.waits = true) :
    With s app.mSession pid :=
  .inr (.inr (.inr (.inl ⟨app, h, hwaits, rfl⟩)))

theorem with_of_needed {id : Int} (h : s.registering = .needed pid session id) :
    With s session pid :=
  .inr (.inr (.inr (.inr (.inl ⟨id, h⟩))))

/-- A change of an application shows only in whether it waits, and for what. -/
theorem with_setApp (h : pid = pid' → (app.waits = true ∧ app.mSession = τ ↔
      ∃ old, s.mApps[pid]? = some old ∧ old.waits = true ∧ old.mSession = τ)) :
    With (s.setApp pid app) τ pid' ↔ With s τ pid' := by
  by_cases hpid : pid' = pid
  · subst hpid
    simp only [With, getElem?_setApp, if_true, Option.some.injEq, exists_eq_left', h rfl]
    rfl
  · simp only [With, getElem?_setApp, if_neg hpid]
    rfl

theorem Prepared.setApp (h : Prepared s)
    (hwaits : app.waits = true → s.mSessionServices app.mSession ≠ none)
    (hneeded : ∀ session id, s.registering = .needed pid session id →
      app.mSession = session ∧ app.mPid = pid ∧ app.mRegistred = true)
    (hregistered : ∀ id, s.registering = .requested pid id → app.mRegistred = true) :
    Prepared (s.setApp pid app) where
  entered := h.entered
  named := by
    intro τ hτ
    by_cases hself : app.waits = true ∧ app.mSession = τ
    · exact hself.2 ▸ hwaits hself.1
    · refine h.named τ ?_
      simp only [Named, State.setApp, getElem?_insert] at hτ ⊢
      grind
  sessions := h.sessions
  taken := h.taken
  needed := by
    intro pid' τ id hregistering
    obtain ⟨hold, hplaced⟩ := h.needed pid' τ id hregistering
    refine ⟨?_, hplaced⟩
    rw [getElem?_setApp]
    by_cases hpid : pid' = pid
    · subst hpid
      exact ⟨app, if_pos rfl, hneeded τ id hregistering⟩
    · rwa [if_neg hpid]
  requested := by
    intro pid' id hregistering
    rw [getElem?_setApp]
    by_cases hpid : pid' = pid
    · subst hpid
      exact ⟨app, if_pos rfl, hregistered id hregistering⟩
    · rw [if_neg hpid]
      exact h.requested pid' id hregistering

/-- A request that looks for nothing needs nothing. -/
theorem Prepared.setRequest (h : Prepared s) (request : Request)
    (hentered : ∀ session service dbId, request ≠ .entered session service dbId)
    (hnamed : ∀ session dbId, request ≠ .named session dbId) :
    Prepared { s with request := request } := by
  refine { h with entered := ?_, named := ?_ }
  · intro τ hτ
    refine h.entered τ ?_
    simp only [Entered, hentered, hnamed] at hτ
    exact .inr (.inr (by simpa using hτ))
  · intro τ hτ
    refine h.named τ ?_
    simp only [Named, hnamed] at hτ
    exact .inr (by simpa using hτ)

/-- A new session leaves the services of the others. -/
theorem Own.addSession (h : Own s) (hnew : s.sessions session = none) :
    Own { s with sessions := Function.update s.sessions session (some service) } := by
  have hkeep : ∀ τ service', s.sessions τ = some service' →
      Function.update s.sessions session (some service) τ = some service' := by
    intro τ service' hτ
    rw [Function.update_of_ne, hτ]
    rintro rfl
    rw [hnew] at hτ
    cases hτ
  exact {
    found := fun pid τ service' hτ => hkeep τ _ (h.found pid τ service' hτ)
    absent := fun τ service' hτ => hkeep τ _ (h.absent τ service' hτ)
    entered := fun τ service' dbId hτ => hkeep τ _ (h.entered τ service' dbId hτ)
    services := fun τ service' hτ => hkeep τ _ (h.services τ service' hτ)
    served := fun τ pid service' hτ => hkeep τ _ (h.served τ pid service' hτ)
    requests := fun pid τ service' hτ hne => hkeep τ _ (h.requests pid τ service' hτ hne)
    sending := fun pid τ service' hτ hne => hkeep τ _ (h.sending pid τ service' hτ hne) }

/-- A session that has not been requested is nowhere. -/
theorem Located.nowhere (h : Located s) (hnew : s.sessions session = none) (q : Place) :
    ¬ At s session q :=
  fun hq => h.known session q hq hnew

theorem Own.queue (h : Own s) (hservice : s.sessions session = some service) :
    Own { s with appComThread := s.appComThread.addSessionRequest pid session service } := by
  refine { h with requests := ?_ }
  intro pid' τ service' hget hne
  rw [CAppComThread.addSessionRequest, getElem?_insert] at hget
  split at hget
  · cases hget
    exact hservice
  · exact h.requests pid' τ service' hget hne

/-- A request that is queued for an application takes the place of no other session's. -/
theorem Located.with_queue (h : Located s) (hwith : With s session pid)
    (hqueue : s'.appComThread.mSessionRequests =
      s.appComThread.mSessionRequests.insert pid (session, service))
    (hback : ∀ τ pid', With { s' with appComThread := s.appComThread } τ pid' → With s τ pid')
    (hkeep : ∀ τ pid', ¬ (τ = session ∧ pid' = pid) → With s τ pid' →
      With { s' with appComThread := s.appComThread } τ pid') (τ : SessionUid) (pid' : Pid) :
    With s' τ pid' ↔ With s τ pid' := by
  have hne := h.ne_empty (p := .application pid) hwith
  by_cases hpid : pid' = pid
  · subst hpid
    constructor
    · intro hτ
      by_cases hτs : τ = session
      · exact hτs ▸ hwith
      · refine hback τ pid' ?_
        unfold With at hτ ⊢
        simp only [hqueue, getElem?_insert, if_true] at hτ
        grind
    · intro hτ
      obtain rfl := h.alone pid' session τ hwith hτ
      unfold With
      simp only [hqueue, getElem?_insert, if_true]
      grind
  · have hsame : With s' τ pid' ↔ With { s' with appComThread := s.appComThread } τ pid' := by
      unfold With
      simp only [hqueue, getElem?_insert, if_neg hpid]
    rw [hsame]
    exact ⟨hback τ pid', hkeep τ pid' fun h => hpid h.2⟩

/-! ## Steps of the profile manager's connection -/

theorem Orderly.applicationRequest (h : Orderly s)
    (hp : Smooth s (.applicationRequest session service))
    (hs : nextRequest s (.applicationRequest session service) = some s') : Orderly s' := by
  obtain ⟨hne, hnew, hfree⟩ := hp
  have hnowhere := h.located.nowhere hnew
  simp only [nextRequest] at hs
  split at hs
  case isFalse => cases hs
  rename_i hrequest
  split at hs
  · rename_i pid app hfind
    have hfree := hfree pid app hfind
    have happ := getElem?_of_findApp hfind
    have hwaits : app.waits = false := by
      by_contra hwaits
      exact hfree _ (with_of_waits happ (by simpa using hwaits))
    obtain rfl := Option.some.inj hs
    have hwaits' : ({ app with mSession := session } : CRunApp).waits = false := hwaits
    have hsame : ∀ τ pid', With (s.setApp pid { app with mSession := session }) τ pid' ↔
        With s τ pid' := by
      intro τ pid'
      refine with_setApp ?_
      rintro rfl
      simp [hwaits', happ, hwaits]
    have hother : ∀ τ pid', τ ≠ session ∨ pid' ≠ pid →
        (With { s.setApp pid { app with mSession := session } with
          sessions := Function.update s.sessions session (some service)
          request := .found pid session service } τ pid' ↔ With s τ pid') := by
      intro τ pid' hτ
      rw [← hsame τ pid']
      simp only [With, State.setApp, hrequest]
      grind
    constructor
    · refine h.located.add (r := .application pid) hnew hne rfl rfl ?_ ?_ ?_
      · intro τ hτ q
        cases q with
        | application pid' => exact hother τ pid' (.inl hτ)
        | request => simp [At, Request.session, hrequest]
        | _ => exact Iff.rfl
      · intro q
        have := hnowhere q
        cases q with
        | application pid' =>
          by_cases hpid : pid' = pid
          · exact iff_of_true (.inl ⟨service, by rw [hpid]⟩) (by rw [hpid])
          · exact iff_of_false (fun h => this ((hother session pid' (.inr hpid)).mp h))
              (by simpa using hpid)
        | request => simp [At, Request.session]
        | _ => exact iff_of_false this (by simp)
      · rintro _ ⟨⟩
        exact hfree
    · refine { h.own.addSession hnew with found := ?_, absent := by simp, entered := by simp }
      rintro _ _ _ ⟨⟩
      simp
    · have hprepared : Prepared (s.setApp pid { app with mSession := session }) := by
        refine h.prepared.setApp ?_ ?_ ?_
        · intro hw
          rw [hwaits'] at hw
          cases hw
        · intro τ id hneeded
          exact absurd (with_of_needed hneeded) (hfree τ)
        · intro id hrequested
          obtain ⟨_, happ', hregistered⟩ := h.prepared.requested pid id hrequested
          rw [happ] at happ'
          cases happ'
          exact hregistered
      exact { hprepared.setRequest (.found pid session service) (by simp) (by simp) with }
    · exact { h.untroubled with }
  · obtain rfl := Option.some.inj hs
    have hother : ∀ τ pid', With { s with
          sessions := Function.update s.sessions session (some service)
          request := .absent session service } τ pid' ↔ With s τ pid' := by
      intro τ pid'
      simp only [With, hrequest]
      grind
    constructor
    · refine h.located.add (r := .request) hnew hne rfl rfl ?_ ?_
        (fun pid hplace => by cases hplace)
      · intro τ hτ q
        cases q with
        | application pid' => exact hother τ pid'
        | request => simp [At, Request.session, hrequest, hτ.symm]
        | _ => exact Iff.rfl
      · intro q
        have := hnowhere q
        cases q with
        | application pid' =>
          exact iff_of_false (fun h => this ((hother session pid').mp h)) (by simp)
        | request => simp [At, Request.session]
        | _ => exact iff_of_false this (by simp)
    · refine { h.own.addSession hnew with found := by simp, absent := ?_, entered := by simp }
      rintro _ _ ⟨⟩
      simp
    · exact { h.prepared.setRequest (.absent session service) (by simp) (by simp) with }
    · exact { h.untroubled with }

theorem Orderly.addSessionRequest (h : Orderly s) (hs : nextRequest s .addSessionRequest = some s') :
    Orderly s' := by
  simp only [nextRequest] at hs
  split at hs
  · rename_i pid session service hrequest
    obtain rfl := Option.some.inj hs
    have hwith : With s session pid := .inl ⟨service, hrequest⟩
    constructor
    · refine h.located.same rfl rfl ?_
      intro τ q
      cases q with
      | application pid' =>
        refine h.located.with_queue hwith rfl ?_ ?_ τ pid'
        · intro τ pid'
          simp only [With, hrequest]
          grind
        · intro τ pid' hne
          simp only [With, hrequest]
          grind
      | request => simp [At, Request.session, hrequest]
      | _ => exact Iff.rfl
    · exact { h.own.queue (h.own.found pid session service hrequest) with
        found := by simp, absent := by simp, entered := by simp }
    · exact { h.prepared.setRequest .idle (by simp) (by simp) with }
    · exact { h.untroubled with }
  · cases hs

theorem Orderly.enterSession {apps : List Int} {front : Int} (h : Orderly s)
    (hp : Smooth s (.enterSession apps front))
    (hs : nextRequest s (.enterSession apps front) = some s') : Orderly s' := by
  have happs : apps ≠ [] := hp
  simp only [nextRequest, happs, if_false, decide_false, Bool.or_false] at hs
  split at hs
  · rename_i session service hrequest
    obtain rfl := Option.some.inj hs
    constructor
    · refine h.located.same rfl rfl ?_
      intro τ q
      cases q with
      | application pid =>
        simp only [At, With, hrequest]
        grind
      | request => simp [At, Request.session, hrequest]
      | _ => exact Iff.rfl
    · refine { h.own with found := by simp, absent := by simp, entered := ?_ }
      rintro _ _ _ ⟨⟩
      exact h.own.absent session service hrequest
    · refine { h.prepared with entered := ?_, named := ?_, sessions := ?_ }
      · intro τ hτ
        by_cases hne : τ = session
        · simp [hne]
        · have := h.prepared.entered τ (by simpa [Entered, hrequest, Ne.symm hne] using hτ)
          simpa [hne] using this
      · intro τ hτ
        exact h.prepared.named τ (by simpa [Named, hrequest] using hτ)
      · intro τ app happ
        by_cases hne : τ = session
        · subst hne
          obtain rfl : _ = app := by simpa using happ
          exact ⟨rfl, rfl⟩
        · exact h.prepared.sessions τ app (by simpa [hne] using happ)
    · refine { h.untroubled with supported := ?_ }
      intro τ
      by_cases hne : τ = session
      · simp [hne]
      · simpa [hne] using h.untroubled.supported τ
  · cases hs

theorem Orderly.nameService (h : Orderly s) (hs : nextRequest s .nameService = some s') :
    Orderly s' := by
  obtain ⟨session, service, dbId, hrequest, rfl⟩ := of_nameService hs
  have hservice := h.own.entered session service dbId hrequest
  constructor
  · refine h.located.same rfl rfl ?_
    intro τ q
    cases q with
    | application pid =>
      simp only [At, With, hrequest]
      grind
    | request => simp [At, Request.session, hrequest]
    | _ => exact Iff.rfl
  · refine { h.own with
      found := by simp, absent := by simp, entered := by simp, services := ?_ }
    intro τ service' hτ
    by_cases hne : τ = session
    · subst hne
      obtain rfl : service = service' := by simpa using hτ
      exact hservice
    · exact h.own.services τ service' (by simpa [hne] using hτ)
  · refine { h.prepared with entered := ?_, named := ?_ }
    · intro τ hτ
      refine h.prepared.entered τ ?_
      simp only [Entered, hrequest] at hτ ⊢
      grind
    · intro τ hτ
      by_cases hne : τ = session
      · simp [hne]
      · have := h.prepared.named τ (by simpa [Named, hrequest, Ne.symm hne] using hτ)
        simpa [hne] using this
  · exact { h.untroubled with }

theorem Orderly.launchApp (h : Orderly s) (hs : nextRequest s .launchApp = some s') :
    Orderly s' := by
  simp only [nextRequest] at hs
  split at hs
  · rename_i session dbId hrequest
    obtain rfl := Option.some.inj hs
    have hat : At s session .request := by simp [At, Request.session, hrequest]
    have hwith : ∀ τ pid, With { s with
        launchThread := s.launchThread.launchApp session dbId, request := .idle } τ pid ↔
          With s τ pid := by
      intro τ pid
      simp only [With, hrequest]
      grind
    constructor
    · refine h.located.move (r := .launchQueue) rfl rfl hat ?_ ?_ (fun pid hplace => by cases hplace)
      · intro τ hτ q
        cases q with
        | application pid => exact hwith τ pid
        | request => simp [At, Request.session, hrequest, hτ.symm]
        | launchQueue => simp [At, CLaunchThread.launchApp, hτ]
        | _ => exact Iff.rfl
      · intro q
        have hq := h.located.iff (q := q) hat
        cases q with
        | application pid => exact (hwith session pid).trans (hq.trans (by simp))
        | request => simp [At, Request.session]
        | launchQueue => simp [At, CLaunchThread.launchApp]
        | _ => exact hq.trans (by simp)
    · exact { h.own with found := by simp, absent := by simp, entered := by simp }
    · refine { h.prepared with entered := ?_, named := ?_ }
      · intro τ hτ
        refine h.prepared.entered τ ?_
        simp only [Entered, CLaunchThread.launchApp, hrequest, List.map_append] at hτ ⊢
        grind
      · intro τ hτ
        refine h.prepared.named τ ?_
        simp only [Named, CLaunchThread.launchApp, hrequest, List.map_append] at hτ ⊢
        grind
    · refine { h.untroubled with queue := ?_ }
      have hnot : ¬ At s session .launchQueue := by
        intro hq
        cases h.located.only hat hq
      simp only [CLaunchThread.launchApp, List.map_append]
      exact List.Nodup.append h.untroubled.queue (by simp) (by simpa [At] using hnot)
  · cases hs

theorem Orderly.waitingServiceReqeust (h : Orderly s)
    (hs : nextRequest s (.waitingServiceReqeust service) = some s') : Orderly s' := by
  simp only [nextRequest] at hs
  split at hs
  case isFalse => cases hs
  rename_i hrequest
  split at hs
  · rename_i pid app _
    obtain rfl := Option.some.inj hs
    constructor
    · refine h.located.same rfl rfl ?_
      intro τ q
      cases q with
      | application pid =>
        simp only [At, With, hrequest]
        grind
      | request => simp [At, Request.session, hrequest]
      | _ => exact Iff.rfl
    · exact { h.own with found := by simp, absent := by simp, entered := by simp }
    · exact { h.prepared.setRequest (.waiting pid service) (by simp) (by simp) with }
    · exact { h.untroubled with }
  · exact Option.some.inj hs ▸ h

theorem Orderly.addWaitingServiceRequest (h : Orderly s)
    (hp : Smooth s .addWaitingServiceRequest)
    (hs : nextRequest s .addWaitingServiceRequest = some s') : Orderly s' := by
  simp only [nextRequest] at hs
  split at hs
  · rename_i pid service hrequest
    have hfree := hp pid service hrequest
    obtain rfl := Option.some.inj hs
    constructor
    · refine h.located.same rfl rfl ?_
      intro τ q
      cases q with
      | application pid' =>
        simp only [At, With, CAppComThread.addWaitingServiceRequest,
          CAppComThread.addSessionRequest, getElem?_insert, hrequest]
        by_cases hpid : pid' = pid
        · subst hpid
          grind
        · simp [hpid]
      | request => simp [At, Request.session, hrequest]
      | _ => exact Iff.rfl
    · refine { h.own with
        found := by simp, absent := by simp, entered := by simp, requests := ?_ }
      intro pid' τ service' hget hne
      simp only [CAppComThread.addWaitingServiceRequest, CAppComThread.addSessionRequest,
        getElem?_insert] at hget
      split at hget
      · cases hget
        exact absurd rfl hne
      · exact h.own.requests pid' τ service' hget hne
    · exact { h.prepared.setRequest .idle (by simp) (by simp) with }
    · exact { h.untroubled with }
  · cases hs

/-! ## Steps of a launch -/

theorem Orderly.handleLaunch (h : Orderly s) (hp : Smooth s (.handleLaunch launchInfo))
    (hs : nextLaunch s (.handleLaunch launchInfo) = some s') : Orderly s' := by
  have hinfo : launchInfo ≠ "" := hp
  simp only [nextLaunch, hinfo, if_false] at hs
  split at hs
  · rename_i session dbId requests hlaunch hqueue
    obtain rfl := Option.some.inj hs
    have hat : At s session .launchQueue := by simp [At, hqueue]
    have hnodup := h.untroubled.queue
    rw [hqueue, List.map_cons] at hnodup
    obtain ⟨hout, hnodup⟩ := List.nodup_cons.mp hnodup
    constructor
    · refine h.located.move (r := .launching) rfl rfl hat ?_ ?_ (fun pid hplace => by cases hplace)
      · intro τ hτ q
        cases q with
        | launchQueue => simp [At, hqueue, hτ]
        | launching => simp [At, hlaunch, hτ.symm]
        | _ => exact Iff.rfl
      · intro q
        have hq := h.located.iff (q := q) hat
        cases q with
        | launchQueue => simpa [At] using hout
        | launching => simp [At]
        | _ => exact hq.trans (by simp)
    · exact { h.own with }
    · refine { h.prepared with entered := ?_, named := ?_ }
      · intro τ hτ
        refine h.prepared.entered τ ?_
        simp only [Entered, hqueue, List.map_cons] at hτ ⊢
        grind
      · intro τ hτ
        refine h.prepared.named τ ?_
        simp only [Named, hqueue, List.map_cons] at hτ ⊢
        grind
    · exact { h.untroubled with queue := hnodup }
  · cases hs

theorem Orderly.launchApplication (h : Orderly s) (hp : Smooth s .launchApplication)
    (hs : nextLaunch s .launchApplication = some s') : Orderly s' := by
  simp only [nextLaunch] at hs
  split at hs
  · rename_i session launchInfo hlaunch
    have hnone := hp session launchInfo hlaunch
    obtain rfl := Option.some.inj hs
    have hat : At s session .launching := ⟨launchInfo, hlaunch⟩
    constructor
    · refine h.located.move (r := .launched launchInfo) rfl rfl hat ?_ ?_
        (fun pid hplace => by cases hplace)
      · intro τ hτ q
        cases q with
        | launching => simp [At, hlaunch, hτ.symm]
        | launched launchInfo' =>
          by_cases hinfo : launchInfo' = launchInfo
          · simp [At, hinfo, hnone, hτ.symm]
          · simp [At, hinfo]
        | _ => exact Iff.rfl
      · intro q
        have hq := h.located.iff (q := q) hat
        cases q with
        | launching => simp [At]
        | launched launchInfo' =>
          by_cases hinfo : launchInfo' = launchInfo
          · simp [At, hinfo]
          · simpa [At, hinfo] using hq
        | _ => exact hq.trans (by simp)
    · exact { h.own with }
    · have hback : ∀ τ, (∃ launchInfo', Function.update s.launchThread.mSessions launchInfo
          (some session) launchInfo' = some τ) →
          τ = session ∨ ∃ launchInfo', s.launchThread.mSessions launchInfo' = some τ := by
        rintro τ ⟨launchInfo', hτ⟩
        by_cases hinfo : launchInfo' = launchInfo
        · exact .inl (by simpa [hinfo, eq_comm] using hτ)
        · exact .inr ⟨launchInfo', by simpa [hinfo] using hτ⟩
      refine { h.prepared with entered := ?_, named := ?_ }
      · intro τ hτ
        refine h.prepared.entered τ ?_
        have := hback τ
        simp only [Entered] at hτ ⊢
        grind
      · intro τ hτ
        refine h.prepared.named τ ?_
        have := hback τ
        simp only [Named] at hτ ⊢
        grind
    · exact { h.untroubled with }
  · cases hs

/-- A result comes for a launch. -/
theorem Orderly.launched (h : Orderly s)
    (hp : pid = -1 → s.launchThread.mSessions launchInfo = none)
    (hs : nextLaunch.launched s launchInfo pid = some s') : Orderly s' := by
  simp only [nextLaunch.launched] at hs
  split at hs
  case isFalse => cases hs
  rename_i hresult
  split at hs
  · exact Option.some.inj hs ▸ h
  · rename_i session hsession
    obtain rfl := Option.some.inj hs
    have hat : At s session (.launched launchInfo) := hsession
    have hback : ∀ τ launchInfo', Function.update s.launchThread.mSessions launchInfo none
        launchInfo' = some τ → s.launchThread.mSessions launchInfo' = some τ := by
      intro τ launchInfo' hτ
      by_cases hinfo : launchInfo' = launchInfo
      · simp [hinfo] at hτ
      · simpa [hinfo] using hτ
    have hwith : ∀ τ pid', With { s with
        launchThread := { s.launchThread with
          mSessions := Function.update s.launchThread.mSessions launchInfo none }
        result := .setSessionPid session pid } τ pid' ↔ With s τ pid' := by
      intro τ pid'
      simp only [With, hresult]
      grind
    constructor
    · refine h.located.move (r := .result) rfl rfl hat ?_ ?_ (fun pid hplace => by cases hplace)
      · intro τ hτ q
        cases q with
        | application pid' => exact hwith τ pid'
        | result => simp [At, Result.session, hresult, hτ.symm]
        | launched launchInfo' =>
          by_cases hinfo : launchInfo' = launchInfo
          · simp [At, hinfo, hsession, hτ.symm]
          · simp [At, hinfo]
        | _ => exact Iff.rfl
      · intro q
        have hq := h.located.iff (q := q) hat
        cases q with
        | application pid' => exact (hwith session pid').trans (hq.trans (by simp))
        | result => simp [At, Result.session]
        | launched launchInfo' =>
          by_cases hinfo : launchInfo' = launchInfo
          · simp [At, hinfo]
          · simpa [At, hinfo] using hq
        | _ => exact hq.trans (by simp)
    · exact { h.own with served := by simp }
    · refine { h.prepared with entered := ?_, named := ?_, taken := by simp, needed := ?_ }
      · intro τ hτ
        refine h.prepared.entered τ ?_
        have := hback τ
        simp only [Entered] at hτ ⊢
        grind
      · intro τ hτ
        refine h.prepared.named τ ?_
        have := hback τ
        simp only [Named] at hτ ⊢
        grind
      · intro pid' τ id hneeded
        exact ⟨(h.prepared.needed pid' τ id hneeded).1, by simp⟩
    · refine { h.untroubled with launched := ?_, unblocked := by simp }
      intro τ
      refine ⟨by simp, ?_⟩
      intro hresult'
      injection hresult' with _ hpid
      rw [hp hpid] at hsession
      cases hsession

theorem Orderly.takeSession (h : Orderly s) (hs : nextLaunch s .takeSession = some s') :
    Orderly s' := by
  simp only [nextLaunch] at hs
  split at hs
  · rename_i session pid hresult
    have hpid : pid ≠ -1 := by
      rintro rfl
      exact (h.untroubled.launched session).2 hresult
    have hat : At s session .result := by simp [At, Result.session, hresult]
    split at hs
    · rename_i hnone
      exact absurd hnone (h.prepared.entered session (by simp [Entered, hresult]))
    · rename_i app happ
      simp only [hpid, if_false] at hs
      obtain rfl := Option.some.inj hs
      constructor
      · refine h.located.same rfl rfl ?_
        intro τ q
        cases q with
        | application pid' =>
          simp only [At, With, hresult]
          grind
        | result => simp [At, Result.session, hresult]
        | _ => exact Iff.rfl
      · exact { h.own with served := by simp }
      · refine { h.prepared with entered := ?_, named := ?_, sessions := ?_, taken := ?_, needed := ?_ }
        · intro τ hτ
          have hold : Entered s τ := by
            simp only [Entered] at hτ ⊢
            grind
          have hne : τ ≠ session := by
            rintro rfl
            -- the session is nowhere but with the result
            have honly := fun q (hq : At s τ q) => h.located.only hat hq
            rcases hτ with ⟨_, _, hq⟩ | ⟨_, hq⟩ | hq | hq | ⟨launchInfo, hq⟩ | ⟨_, hq⟩
            · cases honly .request (by simpa [At, Request.session] using congrArg Request.session hq)
            · cases honly .request (by simpa [At, Request.session] using congrArg Request.session hq)
            · cases honly .launchQueue hq
            · cases honly .launching hq
            · cases honly (.launched launchInfo) hq
            · cases hq
          simpa [hne] using h.prepared.entered τ hold
        · intro τ hτ
          refine h.prepared.named τ ?_
          simp only [Named] at hτ ⊢
          grind
        · intro τ app' happ'
          by_cases hne : τ = session
          · simp [hne] at happ'
          · exact h.prepared.sessions τ app' (by simpa [hne] using happ')
        · rintro _ _ _ ⟨⟩
          exact h.prepared.sessions session app happ
        · intro pid' τ id hneeded
          exact ⟨(h.prepared.needed pid' τ id hneeded).1, by simp⟩
      · exact { h.untroubled with launched := by simp, unblocked := by simp }
  · cases hs

theorem Orderly.eraseService (h : Orderly s) (hs : nextLaunch s .eraseService = some s') :
    Orderly s' := by
  obtain ⟨session, hresult, -⟩ := of_eraseService hs
  exact absurd hresult (h.untroubled.launched session).1

theorem app_of_getElem? (h : s.mApps[pid]? = some app) : s.app pid = app := by
  rw [State.app, h]
  rfl

theorem Orderly.placeApp (h : Orderly s) (hp : Smooth s .placeApp)
    (hs : nextLaunch s .placeApp = some s') : Orderly s' := by
  simp only [nextLaunch] at hs
  split at hs
  · rename_i session app pid hresult
    have hfree := hp session app pid hresult
    obtain ⟨hneeds, hsession⟩ := h.prepared.taken session app pid hresult
    have hat : At s session .result := by simp [At, Result.session, hresult]
    have hservice := h.prepared.named session (by simp [Named, hresult])
    obtain rfl := Option.some.inj hs
    generalize hplaced : ({ s.app pid with
      mPid := pid, mAppId := app.mAppId, mNeedsSessionRequest := app.mNeedsSessionRequest,
      mSession := app.mSession } : CRunApp) = placed
    have hmine : placed.mSession = session := by rw [← hplaced, ← hsession]
    have hregistered : placed.mRegistred = (s.app pid).mRegistred := by rw [← hplaced]
    -- nobody else waits in the application, before or after
    have hsame : ∀ τ pid', τ ≠ session ∨ pid' ≠ pid →
        (With { s.setApp pid placed with result := .placed session pid } τ pid' ↔
          With s τ pid') := by
      intro τ pid' hτ
      have hset : With (s.setApp pid placed) τ pid' ↔ With s τ pid' := by
        refine with_setApp ?_
        rintro rfl
        refine iff_of_false (fun h => ?_) ?_
        · exact hτ.elim (fun hne => hne (h.2.symm.trans hmine)) fun hne => hne rfl
        · rintro ⟨old, hold, hwaits, _⟩
          exact hfree _ (with_of_waits hold hwaits)
      rw [← hset]
      simp only [With, State.setApp, hresult]
      grind
    constructor
    · refine h.located.move (r := .application pid) rfl rfl hat ?_ ?_ ?_
      · intro τ hτ q
        cases q with
        | application pid' => exact hsame τ pid' (.inl hτ)
        | result => simp [At, Result.session, hresult, hτ.symm]
        | _ => exact Iff.rfl
      · intro q
        have hq := h.located.iff (q := q) hat
        cases q with
        | application pid' =>
          by_cases hpid : pid' = pid
          · exact iff_of_true (.inr (.inl (by rw [hpid]))) (by rw [hpid])
          · exact (hsame session pid' (.inr hpid)).trans (hq.trans (by simp [hpid]))
        | result => simp [At, Result.session]
        | _ => exact hq.trans (by simp)
      · rintro _ ⟨⟩
        exact hfree
    · exact { h.own with served := by simp }
    · have hprepared : Prepared (s.setApp pid placed) := by
        refine h.prepared.setApp ?_ ?_ ?_
        · intro _
          rwa [hmine]
        · intro τ id hneeded
          exact absurd (with_of_needed hneeded) (hfree τ)
        · intro id hrequested
          obtain ⟨old, hold, hreg⟩ := h.prepared.requested pid id hrequested
          rwa [hregistered, app_of_getElem? hold]
      refine { hprepared with entered := ?_, named := ?_, taken := by simp, needed := ?_ }
      · intro τ hτ
        refine hprepared.entered τ ?_
        simp only [Entered, State.setApp] at hτ ⊢
        grind
      · intro τ hτ
        by_cases hne : τ = session
        · rw [hne]
          exact hservice
        · refine hprepared.named τ ?_
          simp only [Named, State.setApp] at hτ ⊢
          grind
      · intro pid' τ id hneeded
        refine ⟨(hprepared.needed pid' τ id hneeded).1, ?_⟩
        rintro τ' ⟨⟩
        exact hfree τ (with_of_needed hneeded)
    · exact { h.untroubled with launched := by simp, unblocked := by simp }
  · cases hs

theorem Orderly.findService (h : Orderly s) (hs : nextLaunch s .findService = some s') :
    Orderly s' := by
  simp only [nextLaunch] at hs
  split at hs
  · rename_i session pid hresult
    rw [if_neg (by simp [h.untroubled.unlocked])] at hs
    split at hs
    · rename_i hnone
      exact absurd hnone (h.prepared.named session (by simp [Named, hresult]))
    · rename_i service hservice
      obtain rfl := Option.some.inj hs
      constructor
      · refine h.located.same rfl rfl ?_
        intro τ q
        cases q with
        | application pid' =>
          have : (∃ service', Result.served session pid service = .served τ pid' service') ↔
              Result.placed session pid = .placed τ pid' := by simp
          simp only [At, With, hresult]
          grind
        | result => simp [At, Result.session, hresult]
        | _ => exact Iff.rfl
      · refine { h.own with served := ?_ }
        rintro _ _ _ ⟨⟩
        exact h.own.services session service hservice
      · refine { h.prepared with entered := ?_, named := ?_, taken := by simp, needed := ?_ }
        · intro τ hτ
          refine h.prepared.entered τ ?_
          simp only [Entered] at hτ ⊢
          grind
        · intro τ hτ
          refine h.prepared.named τ ?_
          simp only [Named] at hτ ⊢
          grind
        · intro pid' τ id hneeded
          exact ⟨(h.prepared.needed pid' τ id hneeded).1, by simp⟩
      · exact { h.untroubled with launched := by simp, unblocked := by simp }
  · cases hs

theorem Orderly.addLaunchedSession (h : Orderly s)
    (hs : nextLaunch s .addLaunchedSession = some s') : Orderly s' := by
  simp only [nextLaunch] at hs
  split at hs
  · rename_i session pid service hresult
    obtain rfl := Option.some.inj hs
    have hwith : With s session pid := .inr (.inr (.inl ⟨service, hresult⟩))
    constructor
    · refine h.located.same rfl rfl ?_
      intro τ q
      cases q with
      | application pid' =>
        refine h.located.with_queue hwith rfl ?_ ?_ τ pid'
        · intro τ pid'
          simp only [With, hresult]
          grind
        · intro τ pid' hne
          simp only [With, hresult]
          grind
      | result => simp [At, Result.session, hresult]
      | _ => exact Iff.rfl
    · exact { h.own.queue (h.own.served session pid service hresult) with served := by simp }
    · refine { h.prepared with entered := ?_, named := ?_, taken := by simp, needed := ?_ }
      · intro τ hτ
        refine h.prepared.entered τ ?_
        simp only [Entered] at hτ ⊢
        grind
      · intro τ hτ
        refine h.prepared.named τ ?_
        simp only [Named] at hτ ⊢
        grind
      · intro pid' τ id hneeded
        exact ⟨(h.prepared.needed pid' τ id hneeded).1, by simp⟩
    · exact { h.untroubled with launched := by simp, unblocked := by simp }
  · cases hs

/-! ## What applications send -/

/-- A change that leaves whether the application waits, and for what. -/
theorem Orderly.setApp (h : Orderly s)
    (hsame : ∀ τ, app.waits = true ∧ app.mSession = τ ↔
      ∃ old, s.mApps[pid]? = some old ∧ old.waits = true ∧ old.mSession = τ)
    (hneeded : ∀ session id, s.registering = .needed pid session id →
      app.mSession = session ∧ app.mPid = pid ∧ app.mRegistred = true)
    (hregistered : ∀ id, s.registering = .requested pid id → app.mRegistred = true) :
    Orderly (s.setApp pid app) where
  located := by
    refine h.located.same rfl rfl ?_
    intro τ q
    cases q with
    | application pid' => exact with_setApp fun _ => hsame τ
    | _ => exact Iff.rfl
  own := { h.own with }
  prepared := by
    refine h.prepared.setApp ?_ hneeded hregistered
    intro hwaits
    obtain ⟨old, hold, hwaits, hsession⟩ := (hsame app.mSession).mp ⟨hwaits, rfl⟩
    exact h.prepared.named _ (by simp only [Named]; grind)
  untroubled := { h.untroubled with }

theorem Orderly.finishInit {id : Int} (h : Orderly s) : Orderly (s.finishInit pid id) := by
  unfold State.finishInit
  split
  · constructor
    · refine h.located.same rfl rfl ?_
      intro τ q
      cases q <;> exact Iff.rfl
    · exact { h.own with }
    · exact { h.prepared with }
    · exact { h.untroubled with }
  · exact h

/-- Nothing of the session is lost when the thread is done with it. -/
theorem Orderly.registered (h : Orderly s)
    (hregistering : ∀ pid session id, s.registering ≠ .needed pid session id) :
    Orderly { s with registering := .idle } where
  located := by
    refine h.located.same rfl rfl ?_
    intro τ q
    cases q with
    | application pid' => simp [At, With, hregistering]
    | _ => exact Iff.rfl
  own := { h.own with }
  prepared := by
    refine { h.prepared with named := ?_, needed := by simp, requested := by simp }
    intro τ hτ
    refine h.prepared.named τ ?_
    simp only [Named] at hτ ⊢
    grind
  untroubled := { h.untroubled with }

theorem Orderly.connect (h : Orderly s) (hs : nextApp s (.connect pid) = some s') : Orderly s' := by
  obtain rfl := of_connect hs
  constructor
  · refine h.located.same rfl rfl ?_
    intro τ q
    cases q <;> exact Iff.rfl
  · exact { h.own with }
  · exact { h.prepared with }
  · exact { h.untroubled with }

/-- Services are all that `useService` changes. -/
theorem foldl_useService (services : List Uid) (app : CRunApp) :
    ∃ mServices, services.foldl (·.useService · true) app = { app with mServices := mServices } := by
  induction services generalizing app with
  | nil => exact ⟨app.mServices, rfl⟩
  | cons service services ih =>
    obtain ⟨mServices, h⟩ := ih (app.useService service true)
    exact ⟨mServices, h⟩

/-- Where nothing waits, and nothing would, an application can change. -/
theorem same_of_waits_eq (hnew : app.waits = (s.app pid).waits)
    (hsession : app.mSession = (s.app pid).mSession) (τ : SessionUid) :
    app.waits = true ∧ app.mSession = τ ↔
      ∃ old, s.mApps[pid]? = some old ∧ old.waits = true ∧ old.mSession = τ := by
  rw [hnew, hsession, State.app]
  cases s.mApps[pid]? with
  | none => simp [CRunApp.waits]
  | some old => simp

theorem Orderly.useService {use : Bool} (h : Orderly s)
    (hs : nextApp s (.useService pid service use) = some s') : Orderly s' := by
  simp only [nextApp] at hs
  split at hs
  · rename_i hif
    obtain rfl := Option.some.inj hs
    exact h.setApp (same_of_waits_eq rfl rfl) (by simp [hif.1]) (by simp [hif.1])
  · cases hs

theorem Orderly.initApplication {services : List Uid} (h : Orderly s)
    (hp : Smooth s (.initApplication pid services))
    (hs : nextApp s (.initApplication pid services) = some s') : Orderly s' := by
  obtain ⟨hplaced, honce⟩ := hp
  obtain ⟨mServices, hservices⟩ := foldl_useService services { s.app pid with mPid := pid }
  simp only [nextApp, hservices] at hs
  split at hs
  case isFalse => cases hs
  rename_i hif
  obtain rfl := Option.some.inj hs
  generalize hnew : ({ s.app pid with mPid := pid, mRegistred := true, mServices := mServices } :
    CRunApp) = new
  have hwaits : new.waits = false := by simp [← hnew, CRunApp.waits]
  by_cases hneeds : (s.app pid).mNeedsSessionRequest = true
  · -- the application has been waiting, and now its session is to be requested
    rw [if_pos hneeds]
    obtain ⟨old, hold⟩ : ∃ old, s.mApps[pid]? = some old := by
      cases hold : s.mApps[pid]? with
      | none => simp [State.app, hold] at hneeds
      | some old => exact ⟨old, rfl⟩
    have happ := app_of_getElem? hold
    have holdwaits : old.waits = true := by
      simp [CRunApp.waits, ← happ, hneeds, honce hneeds]
    have hwith := with_of_waits hold holdwaits
    have hother : ∀ τ pid', ¬ (τ = old.mSession ∧ pid' = pid) →
        (With (s.setApp pid new) τ pid' ↔ With s τ pid') := by
      intro τ pid' hne
      refine with_setApp ?_
      rintro rfl
      refine iff_of_false (by simp [hwaits]) ?_
      rintro ⟨old', hold', _, hsession⟩
      rw [hold] at hold'
      cases hold'
      exact hne ⟨hsession.symm, rfl⟩
    rw [happ]
    constructor
    · refine h.located.same rfl rfl ?_
      intro τ q
      cases q with
      | application pid' =>
        by_cases hself : τ = old.mSession ∧ pid' = pid
        · obtain ⟨rfl, rfl⟩ := hself
          exact iff_of_true (with_of_needed rfl) hwith
        · refine Iff.trans ?_ (hother τ pid' hself)
          simp only [At, With, State.setApp, hif.1]
          grind
      | _ => exact Iff.rfl
    · exact { h.own with }
    · have hprepared : Prepared (s.setApp pid new) := by
        refine h.prepared.setApp ?_ (by simp [hif.1]) (by simp [hif.1])
        intro hw
        rw [hwaits] at hw
        cases hw
      refine { hprepared with named := ?_, needed := ?_, requested := by simp }
      · intro τ hτ
        by_cases hself : τ = old.mSession
        · rw [hself]
          exact h.prepared.named _ (by simp only [Named]; grind)
        · refine hprepared.named τ ?_
          simp only [Named] at hτ ⊢
          grind
      · rintro _ _ _ ⟨⟩
        refine ⟨⟨new, ?_, ?_, ?_, ?_⟩, hplaced⟩
        · simp [getElem?_setApp]
        · simp [← hnew, happ]
        · simp [← hnew]
        · simp [← hnew]
    · exact { h.untroubled with }
  · rw [if_neg hneeds]
    refine (h.setApp (same_of_waits_eq ?_ ?_) (by simp [hif.1]) (by simp [hif.1])).finishInit
    · rw [hwaits]
      simp [CRunApp.waits, hneeds]
    · rw [← hnew]

theorem Orderly.requestSession (h : Orderly s) (hs : nextApp s .requestSession = some s') :
    Orderly s' := by
  simp only [nextApp] at hs
  split at hs
  · rename_i pid session id hregistering
    obtain ⟨⟨app, happ, hsession, hmPid, hregistered⟩, hplaced⟩ :=
      h.prepared.needed pid session id hregistering
    have hwith := with_of_needed hregistering
    rw [if_neg (by simp [h.untroubled.unlocked])] at hs
    cases hservice : s.mSessionServices session with
    | none =>
      have hnamed : Named s session := by simp only [Named]; grind
      exact absurd hservice (h.prepared.named session hnamed)
    | some service =>
      rw [hservice, happ] at hs
      simp only [hsession, hmPid] at hs
      obtain rfl := Option.some.inj hs
      have hown := h.own.services session service hservice
      constructor
      · refine h.located.same rfl rfl ?_
        intro τ q
        cases q with
        | application pid' =>
          refine h.located.with_queue hwith rfl ?_ ?_ τ pid'
          · intro τ pid'
            simp only [With, hregistering]
            grind
          · intro τ pid' hne
            simp only [With, hregistering]
            grind
        | _ => exact Iff.rfl
      · refine { h.own.queue hown with services := ?_ }
        intro τ service' hτ
        by_cases hne : τ = session
        · simp [hne] at hτ
        · exact h.own.services τ service' (by simpa [hne] using hτ)
      · refine { h.prepared with named := ?_, needed := by simp, requested := ?_ }
        · intro τ hτ
          have hold : Named s τ := by
            simp only [Named] at hτ ⊢
            grind
          have hne : τ ≠ session := by
            rintro rfl
            -- the session is with the application, and nowhere else
            have honly := fun q (hq : At s τ q) =>
              h.located.only (p := .application pid) hwith hq
            rcases hτ with ⟨_, hq⟩ | hq | hq | ⟨launchInfo, hq⟩ | ⟨_, hq⟩ | ⟨_, _, hq⟩ | ⟨pid', hq⟩ |
              ⟨pid', app', happ', hwaits, hmine⟩ | ⟨_, _, hq⟩
            · cases honly .request (by simpa [At, Request.session] using congrArg Request.session hq)
            · cases honly .launchQueue hq
            · cases honly .launching hq
            · cases honly (.launched launchInfo) hq
            · cases honly .result (by simpa [At, Result.session] using congrArg Result.session hq)
            · cases honly .result (by simpa [At, Result.session] using congrArg Result.session hq)
            · cases honly (.application pid') (.inr (.inl hq))
              exact hplaced τ hq
            · cases honly (.application pid') (hmine ▸ with_of_waits happ' hwaits)
              rw [happ] at happ'
              cases happ'
              simp [CRunApp.waits, hregistered] at hwaits
            · cases hq
          simpa [hne] using h.prepared.named τ hold
        · rintro _ _ ⟨⟩
          exact ⟨app, happ, hregistered⟩
      · exact { h.untroubled with }
  · cases hs

theorem Orderly.sessionRequested (h : Orderly s) (hs : nextApp s .sessionRequested = some s') :
    Orderly s' := by
  simp only [nextApp] at hs
  split at hs
  · rename_i pid id hregistering
    obtain ⟨app, happ, hregistered⟩ := h.prepared.requested pid id hregistering
    simp only [happ] at hs
    obtain rfl := Option.some.inj hs
    have hset : Orderly (s.setApp pid { app with mNeedsSessionRequest := false }) := by
      refine h.setApp (same_of_waits_eq ?_ ?_) (by simp [hregistering]) fun _ _ => hregistered
      · rw [app_of_getElem? happ]
        simp [CRunApp.waits, hregistered]
      · rw [app_of_getElem? happ]
    refine (hset.registered ?_).finishInit
    simp [State.setApp, hregistering]
  · cases hs

theorem Orderly.onConnectionLost (h : Orderly s) (hp : Smooth s (.onConnectionLost pid))
    (hs : nextApp s (.onConnectionLost pid) = some s') : Orderly s' := by
  have hfree : Free s pid := hp
  simp only [nextApp] at hs
  split at hs
  · rename_i hif
    obtain rfl := Option.some.inj hs
    constructor
    · refine h.located.same rfl rfl ?_
      intro τ q
      cases q with
      | application pid' =>
        by_cases hpid : pid' = pid
        · subst hpid
          refine iff_of_false ?_ (hfree τ)
          have := hfree τ
          simp only [At, With, getElem?_erase, if_true] at this ⊢
          grind
        · simp [At, With, getElem?_erase, hpid]
      | _ => exact Iff.rfl
    · exact { h.own with }
    · refine { h.prepared with named := ?_, needed := by simp [hif.1], requested := by simp [hif.1] }
      intro τ hτ
      refine h.prepared.named τ ?_
      simp only [Named, getElem?_erase] at hτ ⊢
      grind
    · exact { h.untroubled with }
  · cases hs

/-! ## What is sent to applications -/

theorem Orderly.appRequestError (h : Orderly s) (hs : nextCom s .appRequestError = some s') :
    Orderly s' := by
  simp only [nextCom, h.untroubled.errors] at hs
  split at hs
  · rename_i hcons
    cases hcons
  · cases hs

theorem Orderly.takeSessionRequest (h : Orderly s)
    (hs : nextCom s .takeSessionRequest = some s') : Orderly s' := by
  obtain ⟨pid, session, service, hsending, hget, rfl⟩ := of_takeSessionRequest hs
  constructor
  · refine h.located.same rfl rfl ?_
    intro τ q
    cases q with
    | application pid' =>
      by_cases hpid : pid' = pid
      · subst hpid
        simp only [At, With, getElem?_erase, hsending, hget]
        grind
      · simp only [At, With, getElem?_erase, hsending, if_neg hpid]
        grind
    | _ => exact Iff.rfl
  · refine { h.own with requests := ?_, sending := ?_ }
    · intro pid' τ service' hτ hne
      rw [getElem?_erase] at hτ
      split at hτ
      · cases hτ
      · exact h.own.requests pid' τ service' hτ hne
    · rintro _ _ _ ⟨⟩ hne
      exact h.own.requests pid session service hget hne
  · exact { h.prepared with }
  · exact { h.untroubled with }

theorem Orderly.sessionRequest (h : Orderly s) (hp : Smooth s .sessionRequest)
    (hs : nextCom s .sessionRequest = some s') : Orderly s' := by
  simp only [nextCom] at hs
  split at hs
  · rename_i pid session service hsending
    have hconnected := hp pid session service hsending
    have hother : ∀ τ pid', ¬ (τ = session ∧ pid' = pid) →
        (With { s with sending := none } τ pid' ↔ With s τ pid') := by
      intro τ pid' hne
      simp only [With, hsending]
      grind
    by_cases hif : session ≠ "" ∧ s.mClients pid = true
    · -- the session is requested, and will not be again
      rw [if_pos hif] at hs
      obtain rfl := Option.some.inj hs
      have hgone := (hconnected hif.1).mp hif.2
      have hwith : With s session pid :=
        .inr (.inr (.inr (.inr (.inr ⟨hif.1, .inr ⟨service, hsending⟩⟩))))
      constructor
      · refine h.located.deliver (p := .application pid) rfl
          (h.own.sending pid session service hsending hif.1) rfl hwith ?_ ?_
        · intro τ hτ q
          cases q with
          | application pid' => exact hother τ pid' fun h => hτ h.1
          | _ => exact Iff.rfl
        · intro q hq
          have honly := fun q (hq : At s session q) =>
            h.located.only (p := .application pid) hwith hq
          cases q with
          | application pid' =>
            by_cases hpid : pid' = pid
            · exact hgone (hpid ▸ hq)
            · cases honly (.application pid') ((hother session pid' fun h => hpid h.2).mp hq)
              exact hpid rfl
          | launched launchInfo => cases honly (.launched launchInfo) hq
          | request => cases honly .request hq
          | launchQueue => cases honly .launchQueue hq
          | launching => cases honly .launching hq
          | result => cases honly .result hq
          | error => cases honly .error hq
      · exact { h.own with sending := by simp [State.addOutcome] }
      · exact { h.prepared with }
      · exact { h.untroubled with }
    · rw [if_neg hif] at hs
      obtain rfl := Option.some.inj hs
      constructor
      · refine h.located.same rfl rfl ?_
        intro τ q
        cases q with
        | application pid' =>
          by_cases hself : τ = session ∧ pid' = pid
          · obtain ⟨rfl, rfl⟩ := hself
            by_cases hempty : τ = ""
            · simp [At, With, hempty]
            · -- it is requested again
              have hagain : With { s with sending := none } τ pid' := by
                by_contra hgone
                exact hif ⟨hempty, (hconnected hempty).mpr hgone⟩
              refine iff_of_true hagain ?_
              exact .inr (.inr (.inr (.inr (.inr ⟨hempty, .inr ⟨service, hsending⟩⟩))))
          · exact hother τ pid' hself
        | _ => exact Iff.rfl
      · exact { h.own with sending := by simp }
      · exact { h.prepared with }
      · exact { h.untroubled with }
  · cases hs

theorem Orderly.setProcAppLanchInfo {id : Int} (h : Orderly s)
    (hs : nextCom s (.setProcAppLanchInfo id) = some s') : Orderly s' := by
  simp only [nextCom] at hs
  split at hs
  · rename_i pid requests _ _
    obtain rfl := Option.some.inj hs
    have hrest : Orderly { s with
        appComThread := { s.appComThread with mAppLaunchRequests := requests } } := by
      constructor
      · refine h.located.same rfl rfl ?_
        intro τ q
        cases q <;> exact Iff.rfl
      · exact { h.own with }
      · exact { h.prepared with }
      · exact { h.untroubled with }
    split
    · rename_i app happ
      have happ : s.mApps[pid]? = some app := happ
      refine hrest.setApp (same_of_waits_eq ?_ ?_) ?_ ?_
      · exact (congrArg CRunApp.waits (app_of_getElem? happ)).symm
      · exact (congrArg CRunApp.mSession (app_of_getElem? happ)).symm
      · intro session id' hneeded
        obtain ⟨⟨app', happ', hsame⟩, _⟩ := h.prepared.needed pid session id' hneeded
        rw [happ] at happ'
        cases happ'
        exact hsame
      · intro id' hrequested
        obtain ⟨app', happ', hregistered⟩ := h.prepared.requested pid id' hrequested
        rw [happ] at happ'
        cases happ'
        exact hregistered
    · exact hrest
  · cases hs

/-! ## Runs -/

theorem next_cases {e : Event} (hs : next s e = some s') :
    nextRequest s e = some s' ∨ nextLaunch s e = some s' ∨ nextApp s e = some s' ∨
      nextCom s e = some s' := by
  simp only [next, Option.orElse_eq_orElse, Option.orElse_eq_or, Option.or_eq_some_iff] at hs
  tauto

theorem Orderly.nextRequest (h : Orderly s) {e : Event} (hp : Smooth s e)
    (hs : AMP.nextRequest s e = some s') : Orderly s' := by
  cases e with
  | applicationRequest session service => exact h.applicationRequest hp hs
  | addSessionRequest => exact h.addSessionRequest hs
  | enterSession apps front => exact h.enterSession hp hs
  | nameService => exact h.nameService hs
  | launchApp => exact h.launchApp hs
  | waitingServiceReqeust service => exact h.waitingServiceReqeust hs
  | addWaitingServiceRequest => exact h.addWaitingServiceRequest hp hs
  | _ => cases hs

theorem Orderly.nextLaunch (h : Orderly s) {e : Event} (hp : Smooth s e)
    (hs : AMP.nextLaunch s e = some s') : Orderly s' := by
  cases e with
  | handleLaunch launchInfo => exact h.handleLaunch hp hs
  | launchApplication => exact h.launchApplication hp hs
  | launchedApp launchInfo pid => exact h.launched hp hs
  | launchError launchInfo => exact h.launched (fun _ => hp) hs
  | takeSession => exact h.takeSession hs
  | eraseService => exact h.eraseService hs
  | placeApp => exact h.placeApp hp hs
  | findService => exact h.findService hs
  | addLaunchedSession => exact h.addLaunchedSession hs
  | _ => cases hs

theorem Orderly.nextApp (h : Orderly s) {e : Event} (hp : Smooth s e)
    (hs : AMP.nextApp s e = some s') : Orderly s' := by
  cases e with
  | connect pid => exact h.connect hs
  | initApplication pid services => exact h.initApplication hp hs
  | requestSession => exact h.requestSession hs
  | sessionRequested => exact h.sessionRequested hs
  | useService pid service use => exact h.useService hs
  | onConnectionLost pid => exact h.onConnectionLost hp hs
  | _ => cases hs

theorem Orderly.nextCom (h : Orderly s) {e : Event} (hp : Smooth s e)
    (hs : AMP.nextCom s e = some s') : Orderly s' := by
  cases e with
  | appRequestError => exact h.appRequestError hs
  | takeSessionRequest => exact h.takeSessionRequest hs
  | sessionRequest => exact h.sessionRequest hp hs
  | setProcAppLanchInfo id => exact h.setProcAppLanchInfo hs
  | _ => cases hs

/-- **A smooth step** leaves every session where it is, moves it on, or delivers it. -/
theorem Orderly.next (h : Orderly s) {e : Event} (hp : Smooth s e)
    (hs : AMP.next s e = some s') : Orderly s' := by
  rcases next_cases hs with hs | hs | hs | hs
  · exact h.nextRequest hp hs
  · exact h.nextLaunch hp hs
  · exact h.nextApp hp hs
  · exact h.nextCom hp hs

theorem Orderly.kept (h : Orderly s) : Kept s where
  once := ⟨h.untroubled.queue, by simp [h.untroubled.errors]⟩
  kept := by
    intro session service hsession
    rcases h.located.kept session service hsession with hpending | ⟨hgone, pid, houtcome⟩
    · exact .inl hpending
    · exact .inr ⟨hgone, _, houtcome, rfl⟩
  unsupported := by
    intro session hunsupported
    rw [h.untroubled.supported session] at hunsupported
    cases hunsupported

/-- **No session is lost**, in every run in which sessions do not meet. -/
theorem sessions_kept (es : List Event) (s : State) (hr : run next .init es = some s)
    (hp : Along next Smooth .init es) : Kept s :=
  (run_invariant (fun _ _ _ h hp hs => h.next hp hs) Orderly.init hp hr).kept

/-- An application is started for a session, registers and gets it. -/
def startedApplication : List Event :=
  [.applicationRequest "session" "service", .enterSession [1] 0, .nameService, .launchApp,
   .handleLaunch "application", .launchApplication, .launchedApp "application" 7, .takeSession,
   .placeApp, .findService, .addLaunchedSession, .takeSessionRequest, .sessionRequest,
   .connect 7, .initApplication 7 ["service"], .requestSession, .sessionRequested,
   .takeSessionRequest, .sessionRequest]

/-- The application cannot be started. -/
def failedLaunch : List Event :=
  [.applicationRequest "session" "service", .enterSession [1] 0, .nameService, .launchApp,
   .handleLaunch "application", .launchApplication, .launchError "application", .takeSession,
   .eraseService]

theorem failed_launch_lost : ¬ ∀ es s, run next .init es = some s → Kept s := by
  intro h
  have hkept := (h failedLaunch _ rfl).kept "session" "service" rfl
  rcases hkept with ⟨⟨place, hplace⟩, _⟩ | ⟨_, o, ho, _⟩
  · have := (hplace place).mpr rfl
    cases place with
    | launched launchInfo =>
      by_cases hinfo : launchInfo = "application"
      · subst hinfo
        cases this
      · change Function.update (Function.update (fun _ => none) "application" (some "session"))
          "application" none launchInfo = some "session" at this
        simp [hinfo] at this
    | application pid =>
      rcases this with ⟨_, h⟩ | h | ⟨_, h⟩ | ⟨app, h, _⟩ | ⟨_, h⟩ | ⟨_, ⟨_, h⟩ | ⟨_, h⟩⟩
      · cases h
      · cases h
      · cases h
      · change (∅ : AppsMap)[pid]? = some app at h
        simp at h
      · cases h
      · change (∅ : Std.TreeMap Pid (SessionUid × Uid))[pid]? = some _ at h
        simp at h
      · cases h
    | request => cases this
    | launchQueue => cases this
    | launching => obtain ⟨_, h⟩ := this; cases h
    | result => cases this
    | error => cases this
  · cases ho

theorem sessions_kept_started : ∃ s, run next .init startedApplication = some s ∧
      s.outcomes "session" = [.sessionRequest 7 "service"] ∧ Kept s := by
  have hsmooth : Along next Smooth .init startedApplication :=
    .cons ⟨by decide, rfl, fun _ _ h => absurd (Eq.symm h) (Option.some_ne_none _)⟩ rfl
    (.cons (by simp [Smooth]) rfl
    (.cons trivial rfl (.cons trivial rfl (.cons (by simp [Smooth]) rfl
    (.cons (fun _ _ _ => rfl) rfl (.cons (by simp [Smooth]) rfl (.cons trivial rfl
    (.cons (by
      rintro session app pid ⟨⟩ session'
        (⟨_, h⟩ | h | ⟨_, h⟩ | ⟨app, h, _⟩ | ⟨_, h⟩ | ⟨_, ⟨_, h⟩ | ⟨_, h⟩⟩)
      · cases h
      · cases h
      · cases h
      · change (∅ : AppsMap)[(7 : Pid)]? = some app at h
        simp at h
      · cases h
      · change (∅ : Std.TreeMap Pid (SessionUid × Uid))[(7 : Pid)]? = some _ at h
        simp at h
      · cases h) rfl
    (.cons trivial rfl (.cons trivial rfl (.cons trivial rfl (.cons (by
      rintro pid session service ⟨⟩ _
      refine iff_of_false (by decide) (not_not.mpr ?_)
      exact .inr (.inr (.inr (.inl ⟨⟨1, 7, false, true, "session", []⟩, rfl, rfl, rfl⟩)))) rfl
    (.cons trivial rfl (.cons ⟨fun _ h => (nomatch h), fun _ => rfl⟩ rfl (.cons trivial rfl
    (.cons trivial rfl (.cons trivial rfl (.cons (by
      rintro pid session service ⟨⟩ _
      refine iff_of_true rfl ?_
      rintro (⟨_, h⟩ | h | ⟨_, h⟩ | ⟨app, h, h', _⟩ | ⟨_, h⟩ | ⟨_, ⟨_, h⟩ | ⟨_, h⟩⟩)
      · cases h
      · cases h
      · cases h
      · cases h
        cases h'
      · cases h
      · cases h
      · cases h) rfl trivial))))))))))))))))))
  exact ⟨_, rfl, rfl, sessions_kept startedApplication _ rfl hsmooth⟩

end IviLink.AMP
