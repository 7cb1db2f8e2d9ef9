import IviLink.ApplicationManager.CAppComThread
import IviLink.Lib.FirstEntries
import IviLink.Lib.Run

/-!
# Which requests the thread hands on

The requests that have been added are counted against those that have been handed on, the one that
the thread has taken, and those in the queues. The lists keep what they are given; the map has one
entry for a process, so that a second request for a process takes the place of the first one, and
there is one request less from then on. The session `""` is what the map has for a request without
a session, and what is not handed on as an error.
-/

namespace IviLink.AMP

open IviLink.Lib

namespace CAppComThread

variable {c : CAppComThread} {pid : Pid} {session : SessionUid} {service : Uid}

/-- The thread waits for requests only when there are none. -/
theorem hasRequests_eq_false : c.hasRequests = false ↔ c.queued = [] := by
  have hmap : c.mSessionRequests.isEmpty = true ↔ c.mSessionRequests.toList = [] := by
    rw [← Std.TreeMap.isEmpty_toList, List.isEmpty_iff]
  simp only [hasRequests, queued, Bool.or_eq_false_iff, Bool.not_eq_false', List.append_eq_nil_iff,
    List.map_eq_nil_iff, List.isEmpty_iff, hmap]

theorem queued_addRequest : (c.addRequest session).queued.Perm (.appRequestError session :: c.queued) := by
  simp only [addRequest, queued, List.map_append, List.map_cons, List.map_nil, List.append_assoc]
  exact List.perm_middle

theorem queued_addSessionRequest (h : pid ∉ c.mSessionRequests) :
    (c.addSessionRequest pid session service).queued.Perm
      (request (pid, session, service) :: c.queued) := by
  have hmap := (toList_insert_perm (v := (session, service)) h).map request
  simp only [addSessionRequest, queued, List.append_assoc]
  exact ((hmap.append_right _).append_left _).trans List.perm_middle

/-- The entry of the process is another one then. -/
theorem length_queued_addSessionRequest (h : pid ∈ c.mSessionRequests) :
    (c.addSessionRequest pid session service).queued.length = c.queued.length := by
  simp only [addSessionRequest, queued, List.length_append, List.length_map, length_toList_insert h]

theorem queued_addAppLaunchInfoRequest :
    (c.addAppLaunchInfoRequest pid).queued.Perm (.getAppLaunchInfo pid :: c.queued) := by
  simp only [addAppLaunchInfoRequest, queued, List.map_append, List.map_cons, List.map_nil]
  rw [← List.append_assoc]
  exact List.perm_append_singleton _ _

end CAppComThread

namespace ComThread

variable {w w' : ComThread} {a : ComStep}

/-- What has become of the requests. -/
def all (w : ComThread) : List ComRequest := w.handed ++ w.part.taken ++ w.queues.queued

theorem kept_init : init.Kept := List.Perm.refl _

/-- A request that is added and spares the others is queued with its own arguments. -/
theorem queued_add {r : ComRequest} (h : w.Spares (.add r)) :
    (w.queues.add r).queued.Perm (r :: w.queues.queued) := by
  cases r with
  | appRequestError session => exact CAppComThread.queued_addRequest
  | sessionRequest pid session service =>
    have hqueued : (w.queues.addSessionRequest pid session service).queued.Perm _ :=
      CAppComThread.queued_addSessionRequest h.2
    rw [CAppComThread.request, if_neg h.1] at hqueued
    exact hqueued
  | waitingServiceRequest pid service =>
    exact CAppComThread.queued_addSessionRequest h
  | getAppLaunchInfo pid => exact CAppComThread.queued_addAppLaunchInfoRequest

theorem all_hand {r : ComRequest} {next : Part} (htaken : w.part.taken = [r])
    (hnext : next.taken = []) : (w.hand r next).all.Perm w.all := by
  simp only [all, hand, htaken, hnext, List.append_nil, List.append_assoc]
  exact List.perm_middle.symm

/-- A part of `handleRequest` takes a request, or hands on the one that has been taken. -/
theorem all_handleRequest (h : w.Spares .handleRequest) : w.handleRequest.all.Perm w.all := by
  rw [handleRequest]
  cases hpart : w.part with
  | idle =>
    cases hrequests : w.queues.mRequests with
    | nil => simp [all, hpart, Part.taken]
    | cons session mRequests =>
      have hsession : session ≠ "" := by
        intro heq
        exact h hpart (by rw [hrequests, heq]; rfl)
      simp [all, hpart, hsession, Part.taken, CAppComThread.queued, hrequests]
  | appRequestError session => exact all_hand (by rw [hpart]; rfl) rfl
  | sessionRequests =>
    cases hhead : w.queues.mSessionRequests.toList.head? with
    | none => simp [all, hpart, Part.taken]
    | some it =>
      have hget : w.queues.mSessionRequests[it.1]? = some it.2 :=
        Std.TreeMap.mem_toList_iff_getElem?_eq_some.mp (List.mem_of_mem_head? hhead)
      have hperm := (toList_perm_erase hget).map CAppComThread.request
      simp only [all, hpart, Part.taken, CAppComThread.queued, List.append_nil, List.append_assoc]
      refine List.Perm.append_left _ (List.Perm.trans ?_ ((hperm.symm.append_right _).append_left _))
      rw [List.singleton_append, List.map_cons, List.cons_append]
      exact List.perm_middle.symm
  | sessionRequest it =>
    dsimp only
    split
    · rename_i hnone
      exact all_hand (by rw [hpart, Part.taken, CAppComThread.request, if_pos hnone]) rfl
    · rename_i hsession
      exact all_hand (by rw [hpart, Part.taken, CAppComThread.request, if_neg hsession]) rfl
  | appLaunchRequests =>
    cases hrequests : w.queues.mAppLaunchRequests with
    | nil => simp [all, hpart, Part.taken]
    | cons pid mAppLaunchRequests =>
      dsimp only
      split
      · simp only [all, hpart, Part.taken, CAppComThread.queued, hrequests, List.append_nil,
          List.append_assoc, List.map_cons]
        refine List.Perm.append_left _ ?_
        rw [List.singleton_append, ← List.append_assoc, ← List.append_assoc]
        exact List.perm_middle.symm
      · simp [all, hpart, Part.taken]
  | getAppLaunchInfo pid => exact all_hand (by rw [hpart]; rfl) rfl

theorem added_handleRequest : w.handleRequest.added = w.added := by
  rw [handleRequest]
  split
  · split
    · rfl
    · dsimp only
      split <;> rfl
  · rfl
  · split <;> rfl
  · split <;> rfl
  · split
    · rfl
    · split <;> rfl
  · rfl

/-- A session `""` that is taken is gone. -/
theorem length_all_dropped {mRequests : List SessionUid} (hpart : w.part = .idle)
    (hrequests : w.queues.mRequests = "" :: mRequests) :
    w.handleRequest.all.length + 1 = w.all.length := by
  rw [handleRequest, hpart]
  dsimp only
  rw [hrequests]
  simp only [all, hpart, Part.taken, CAppComThread.queued, hrequests, ne_eq, not_true_eq_false,
    if_false, List.length_append, List.length_map, List.length_cons, List.length_nil]
  omega

theorem Kept.of_add {r : ComRequest} (h : w.Kept)
    (hqueued : (w.queues.add r).queued.Perm (r :: w.queues.queued))
    (hs : w.step (.add r) = some w') : w'.Kept := by
  obtain rfl := Option.some.inj hs
  have hmiddle : (w.handed ++ w.part.taken ++ r :: w.queues.queued).Perm (r :: w.all) :=
    List.perm_middle
  exact (h.cons r).trans (hmiddle.symm.trans (hqueued.symm.append_left _))

/-- As many requests are there as have been added. -/
theorem Kept.length_eq (h : w.Kept) : w.added.length = w.all.length := List.Perm.length_eq h

/-- A request that takes the place of another one is one too many. -/
theorem not_kept_of_replaced {r : ComRequest} (h : w.Kept)
    (hqueued : (w.queues.add r).queued.length = w.queues.queued.length)
    (hs : w.step (.add r) = some w') : ¬ w'.Kept := by
  obtain rfl := Option.some.inj hs
  intro hkept
  have hlength := h.length_eq
  have hlength' := hkept.length_eq
  simp only [all, List.length_append, List.length_cons, hqueued] at hlength hlength'
  omega

/-- A request that is queued as another one is not there. -/
theorem not_kept_of_mistaken {r r' : ComRequest} (h : w.Kept) (hne : r ≠ r')
    (hqueued : (w.queues.add r).queued.Perm (r' :: w.queues.queued))
    (hs : w.step (.add r) = some w') : ¬ w'.Kept := by
  obtain rfl := Option.some.inj hs
  intro hkept
  have hmiddle : (w.handed ++ w.part.taken ++ r' :: w.queues.queued).Perm (r' :: w.all) :=
    List.perm_middle
  have hboth : (r :: w.added).Perm (r' :: w.added) :=
    (hkept.trans ((hqueued.append_left _).trans hmiddle)).trans (h.symm.cons r')
  have hcount := hboth.count_eq r
  rw [List.count_cons_self, List.count_cons_of_ne (Ne.symm hne)] at hcount
  omega

/-- **One step**: the requests are kept if and only if the step spares them. -/
theorem Kept.step_iff (h : w.Kept) (hs : w.step a = some w') : w'.Kept ↔ w.Spares a := by
  refine ⟨fun hkept => ?_, fun hspares => ?_⟩
  · cases a with
    | add r =>
      cases r with
      | appRequestError session => trivial
      | sessionRequest pid session service =>
        have hnew : pid ∉ w.queues.mSessionRequests := by
          intro hmem
          exact not_kept_of_replaced (r := .sessionRequest pid session service) h
            (CAppComThread.length_queued_addSessionRequest hmem) hs hkept
        refine ⟨?_, hnew⟩
        rintro rfl
        exact not_kept_of_mistaken (r := .sessionRequest pid "" service) h
          (by simp [CAppComThread.request])
          (CAppComThread.queued_addSessionRequest hnew) hs hkept
      | waitingServiceRequest pid service =>
        intro hmem
        exact not_kept_of_replaced (r := .waitingServiceRequest pid service) h
          (CAppComThread.length_queued_addSessionRequest hmem) hs hkept
      | getAppLaunchInfo pid => trivial
    | initAppComHandler => trivial
    | handleRequest =>
      obtain rfl := Option.some.inj hs
      intro hpart hhead
      obtain ⟨mRequests, hrequests⟩ := List.head?_eq_some_iff.mp hhead
      have hlength := hkept.length_eq
      have hdropped := length_all_dropped hpart hrequests
      rw [added_handleRequest, h.length_eq] at hlength
      omega
  · cases a with
    | add r => exact h.of_add (queued_add hspares) hs
    | initAppComHandler =>
      obtain rfl := Option.some.inj hs
      exact h
    | handleRequest =>
      obtain rfl := Option.some.inj hs
      rw [Kept, added_handleRequest]
      exact List.Perm.trans h (all_handleRequest hspares).symm

/-- **Exactly when no request is lost**: along a run, every request is still there or has been
handed on once with its own arguments, if and only if no request is added for a process that has
one in `mSessionRequests`, and none for the session `""`. -/
theorem requests_kept_iff {as : List ComStep} (hr : run step init as = some w) :
    Always step init as Kept ↔ Along step Spares init as :=
  always_iff_of_step (fun _ h => h) (fun _ _ _ hv hs => hv.step_iff hs)
    (fun _ _ _ hv hspares hs => (hv.step_iff hs).mpr hspares) kept_init hr

/-- Two sessions of one process, the second one while the first one is being handed on, and
requests of the other kinds. -/
def interleaved : List ComStep :=
  [.add (.sessionRequest 5 "1" "a"), .add (.appRequestError "3"), .initAppComHandler,
   .handleRequest, .add (.getAppLaunchInfo 5), .handleRequest, .handleRequest,
   .add (.sessionRequest 5 "2" "b"), .handleRequest, .add (.waitingServiceRequest 7 "a"),
   .handleRequest, .handleRequest]

theorem requests_kept_iff_interleaved :
    ∃ w, run step init interleaved = some w ∧ Always step init interleaved Kept := by
  have hends : (run step init interleaved).isSome = true := by decide +kernel
  obtain ⟨w, hw⟩ := Option.isSome_iff_exists.mp hends
  exact ⟨w, hw, (requests_kept_iff hw).mpr (by decide +kernel)⟩

/-- Two sessions of one process, before the thread has run. -/
def twoSessions : List ComStep :=
  [.add (.sessionRequest 5 "1" "a"), .add (.sessionRequest 5 "2" "b"), .handleRequest,
   .handleRequest, .handleRequest, .handleRequest]

/-- The thread is done, and the first session is nowhere. -/
theorem first_session_lost : ∃ w, run step init twoSessions = some w ∧ ¬ w.Kept ∧
    w.part = .idle ∧ w.queues.hasRequests = false ∧ w.handed = [.sessionRequest 5 "2" "b"] := by
  have hends : (run step init twoSessions).map (fun w => decide (w.part = .idle ∧
      w.queues.hasRequests = false ∧ w.handed = [.sessionRequest 5 "2" "b"] ∧
      w.added.length = 2)) = some true := by
    decide +kernel
  obtain ⟨w, hw, hw'⟩ := Option.map_eq_some_iff.mp hends
  obtain ⟨hpart, hqueued, hhanded, hadded⟩ := of_decide_eq_true hw'
  refine ⟨w, hw, fun hkept => ?_, hpart, hqueued, hhanded⟩
  have hlength := hkept.length_eq
  rw [hadded, all, hhanded, hpart, CAppComThread.hasRequests_eq_false.mp hqueued] at hlength
  simp [Part.taken] at hlength

end ComThread

end IviLink.AMP
