import IviLink.ProfileManager.PmpCore

/-!
# Agreement of two cores on their profiles

An operation takes effect at once and is announced; an announcement takes effect when
it arrives. What a flag of a profile will be once nothing is on its way any more is
what the last request on the way says of it, or what it is if there is none: the
*outlook*. Only operations change it, and one operation sets the outlook of the
complement to the new value, but its own only if nothing else comes in. So two cores
end up agreed on a profile exactly if the last operation on it was not opposed by the
last request then on the way to it.
-/

namespace IviLink.ProfileManager

open IviLink.L0 (Side)
open IviLink.Lib

/-! ## Requests -/

namespace PMPFrame

/-- The flag a request changes. -/
def flag : PMPFrame → Flag
  | .PMP_REQ_CORE_LOCK _ | .PMP_REQ_CORE_UNLOCK _ => .locked
  | .PMP_REQ_CORE_LOCK_ALL | .PMP_REQ_CORE_UNLOCK_ALL => .locked
  | .PMP_REQ_CORE_DIS_BY_CLIENT _ | .PMP_REQ_CORE_ENABLE_BY_CLNT _ => .enabledByClient
  | .PMP_REQ_CORE_ENABLE_BY_CLNT_ALL => .enabledByClient

/-- The value it sets. -/
def value : PMPFrame → Bool
  | .PMP_REQ_CORE_LOCK _ | .PMP_REQ_CORE_LOCK_ALL => true
  | .PMP_REQ_CORE_UNLOCK _ | .PMP_REQ_CORE_UNLOCK_ALL => false
  | .PMP_REQ_CORE_DIS_BY_CLIENT _ => false
  | .PMP_REQ_CORE_ENABLE_BY_CLNT _ | .PMP_REQ_CORE_ENABLE_BY_CLNT_ALL => true

/-- The profiles it is about. -/
def selects : PMPFrame → Uid → Bool
  | .PMP_REQ_CORE_LOCK id | .PMP_REQ_CORE_UNLOCK id => fun uid => uid = id
  | .PMP_REQ_CORE_DIS_BY_CLIENT id | .PMP_REQ_CORE_ENABLE_BY_CLNT id => fun uid => uid = id
  | .PMP_REQ_CORE_LOCK_ALL | .PMP_REQ_CORE_UNLOCK_ALL => fun _ => true
  | .PMP_REQ_CORE_ENABLE_BY_CLNT_ALL => fun _ => true

/-- What a request says of a flag of a profile. -/
def about (f : Flag) (uid : Uid) (x : PMPFrame) : Option Bool :=
  if x.flag = f ∧ x.selects uid = true then some x.value else none

end PMPFrame

open PMPFrame (about)

/-- What the requests say of a flag of a profile, one after the other. -/
def pending (f : Flag) (uid : Uid) (xs : List PMPFrame) : List Bool := xs.filterMap (about f uid)

/-- What a flag of the profile will be when the requests have arrived. -/
def PmpCoreProfileInfo.outlook (p : PmpCoreProfileInfo) (f : Flag) (xs : List PMPFrame) : Bool :=
  (pending f p.mLibInfo.uid xs).getLast?.getD (p.get f)

namespace PmpCore

theorem onCoreRequest_eq (c : PmpCore) (x : PMPFrame) :
    c.onCoreRequest x = c.change x.flag x.value fun l => x.selects l.uid := by
  cases x <;> rfl

/-- The profiles of the repository. -/
def libs (c : PmpCore) : List LibInfo := c.mProfiles.map (·.mLibInfo)

variable {c : PmpCore} {f : Flag} {v : Bool}

@[simp] theorem change_libs (selected : LibInfo → Bool) : (c.change f v selected).libs = c.libs := by
  unfold libs change
  rw [List.map_map]
  refine List.map_congr_left ?_
  intro p _
  simp only [Function.comp]
  split
  · exact PmpCoreProfileInfo.set_mLibInfo p v f
  · rfl

theorem mem_change {selected : LibInfo → Bool} {p' : PmpCoreProfileInfo}
    (h : p' ∈ (c.change f v selected).mProfiles) : ∃ p ∈ c.mProfiles,
      p'.mLibInfo = p.mLibInfo ∧ p'.get f = (if selected p.mLibInfo then v else p.get f)
        ∧ ∀ f', f' ≠ f → p'.get f' = p.get f' := by
  obtain ⟨p, hp, rfl⟩ := List.mem_map.mp h
  refine ⟨p, hp, ?_⟩
  split
  · exact ⟨p.set_mLibInfo v f, p.get_set_self v f, fun f' hne => p.get_set_ne v hne⟩
  · exact ⟨rfl, rfl, fun _ _ => rfl⟩

/-! ## Operations -/

/-- The profiles that `changeByUid` changes. -/
def selectedByUid (c : PmpCore) (free : Uid → Bool) (id : Uid) : LibInfo → Bool :=
  if ∃ l ∈ c.libs, l.uid = id then fun l => decide (l.uid = id)
  else fun l => decide (l.apiUid = id) && free l.uid

/-- The profiles that an operation changes. -/
def selected (c : PmpCore) : Operation → LibInfo → Bool
  | .lock hasInstance id =>
    if hasInstance id then fun _ => false
    else c.selectedByUid (fun uid => !hasInstance uid) id
  | .unlock id | .disableByClient id | .enableByClient id => c.selectedByUid (fun _ => true) id
  | .lockAll | .unlockAll | .enableByClientAll | .unlockBySysCtrlAll => fun _ => true
  | .unlockAuthProfile => fun l => decide (l.apiUid = gsAuthProfilePapiUid)

/-- The flag an operation changes. -/
def Operation.flag : Operation → Flag
  | .lock _ _ | .unlock _ | .lockAll | .unlockAll => .locked
  | .unlockAuthProfile | .unlockBySysCtrlAll => .locked
  | .disableByClient _ | .enableByClient _ | .enableByClientAll => .enabledByClient

/-- The value it sets. -/
def Operation.value : Operation → Bool
  | .lock _ _ | .lockAll => true
  | .unlock _ | .unlockAll | .unlockAuthProfile | .unlockBySysCtrlAll => false
  | .disableByClient _ => false
  | .enableByClient _ | .enableByClientAll => true

/-- What an operation has to do with its announcements. -/
structure Announces (c : PmpCore) (f : Flag) (v : Bool) (selected : LibInfo → Bool)
    (r : Done) : Prop where
  /-- The announcements are about the same change. -/
  same : ∀ x ∈ r.sent, x.flag = f ∧ x.value = v
  /-- The complement of every profile that is changed is announced. -/
  all : ∀ l ∈ c.libs, selected l = true → ∃ x ∈ r.sent, x.selects l.complement = true
  /-- Nothing else is. -/
  only : ∀ x ∈ r.sent, ∀ uid, x.selects uid = true →
    (∃ l ∈ c.libs, selected l = true ∧ l.complement = uid) ∨ ∀ l, selected l = true
  /-- Of profiles with one uid and API all are changed or none. -/
  uniform : ∀ l l' : LibInfo, l.uid = l'.uid → l.apiUid = l'.apiUid → selected l = selected l'

variable {request : Uid → PMPFrame} (free : Uid → Bool) (id : Uid)

/-- What a request about one profile says. -/
structure OfOne (f : Flag) (v : Bool) (request : Uid → PMPFrame) : Prop where
  flag : ∀ id, (request id).flag = f
  value : ∀ id, (request id).value = v
  selects : ∀ id uid, (request id).selects uid = true ↔ uid = id

theorem ofOne_lock : OfOne .locked true .PMP_REQ_CORE_LOCK :=
  ⟨fun _ => rfl, fun _ => rfl, fun _ _ => decide_eq_true_iff⟩

theorem ofOne_unlock : OfOne .locked false .PMP_REQ_CORE_UNLOCK :=
  ⟨fun _ => rfl, fun _ => rfl, fun _ _ => decide_eq_true_iff⟩

theorem ofOne_disableByClient : OfOne .enabledByClient false .PMP_REQ_CORE_DIS_BY_CLIENT :=
  ⟨fun _ => rfl, fun _ => rfl, fun _ _ => decide_eq_true_iff⟩

theorem ofOne_enableByClient : OfOne .enabledByClient true .PMP_REQ_CORE_ENABLE_BY_CLNT :=
  ⟨fun _ => rfl, fun _ => rfl, fun _ _ => decide_eq_true_iff⟩

theorem changeByApiUid_announces (h : OfOne f v request) :
    c.Announces f v (fun l => decide (l.apiUid = id) && free l.uid)
      (c.changeByApiUid f v request free id) where
  same := by
    intro x hx
    obtain ⟨l, -, rfl⟩ := List.mem_map.mp hx
    exact ⟨h.flag _, h.value _⟩
  all := by
    intro l hl hs
    exact ⟨request l.complement,
      List.mem_map.mpr ⟨l, List.mem_filter.mpr ⟨hl, hs⟩, rfl⟩, (h.selects _ _).mpr rfl⟩
  only := by
    intro x hx uid hu
    obtain ⟨l, hl, rfl⟩ := List.mem_map.mp hx
    obtain ⟨hl, hs⟩ := List.mem_filter.mp hl
    exact .inl ⟨l, hl, hs, ((h.selects _ _).mp hu).symm⟩
  uniform := by
    intro l l' huid hapi
    rw [huid, hapi]

/-- `changeByUid` takes the id for the one of an API, or finds a profile with it. -/
theorem changeByUid_cases (c : PmpCore) (f : Flag) (v : Bool) (request : Uid → PMPFrame) :
    (c.changeByUid f v request free id = c.changeByApiUid f v request free id
      ∧ c.selectedByUid free id = fun l => decide (l.apiUid = id) && free l.uid)
    ∨ ∃ l ∈ c.libs, l.uid = id
      ∧ c.changeByUid f v request free id
        = ⟨c.change f v fun l => decide (l.uid = id), [request l.complement], [true]⟩
      ∧ c.selectedByUid free id = fun l => decide (l.uid = id) := by
  unfold changeByUid
  dsimp only
  split
  · rename_i hnone
    have hno : ¬ ∃ l ∈ c.libs, l.uid = id := by
      rintro ⟨l, hl, huid⟩
      have hmem : l ∈ (c.mProfiles.map (·.mLibInfo)).filter fun l => decide (l.uid = id) :=
        List.mem_filter.mpr ⟨hl, decide_eq_true huid⟩
      rw [List.getLast?_eq_none_iff.mp hnone] at hmem
      exact List.not_mem_nil hmem
    exact .inl ⟨rfl, if_neg hno⟩
  · rename_i l hlast
    obtain ⟨hl, huid⟩ := List.mem_filter.mp (List.mem_of_getLast? hlast)
    have huid := of_decide_eq_true huid
    exact .inr ⟨l, hl, huid, rfl, if_pos ⟨l, hl, huid⟩⟩

/-- The complement is announced of the last profile with the uid; they all have the same. -/
theorem changeByUid_announces (h : OfOne f v request)
    (hsame : ∀ l ∈ c.libs, ∀ l' ∈ c.libs, l.uid = l'.uid → l.complement = l'.complement) :
    c.Announces f v (c.selectedByUid free id) (c.changeByUid f v request free id) := by
  rcases changeByUid_cases free id c f v request with
    ⟨hdone, hselected⟩ | ⟨l, hl, huid, hdone, hselected⟩
  · rw [hdone, hselected]
    exact changeByApiUid_announces free id h
  · rw [hdone, hselected]
    refine ⟨?_, ?_, ?_, ?_⟩
    · intro x hx
      obtain rfl := List.mem_singleton.mp hx
      exact ⟨h.flag _, h.value _⟩
    · intro l' hl' hs
      have hc := hsame l' hl' l hl ((of_decide_eq_true hs).trans huid.symm)
      exact ⟨_, List.mem_singleton_self _, (h.selects _ _).mpr hc⟩
    · intro x hx uid hu
      obtain rfl := List.mem_singleton.mp hx
      exact .inl ⟨l, hl, decide_eq_true huid, ((h.selects _ _).mp hu).symm⟩
    · intro l l' huid' _
      rw [huid']

theorem changeByUid_state :
    (c.changeByUid f v request free id).state = c.change f v (c.selectedByUid free id) := by
  rcases changeByUid_cases free id c f v request with
    ⟨hdone, hselected⟩ | ⟨l, hl, huid, hdone, hselected⟩
  · rw [hdone, hselected]
    rfl
  · rw [hdone, hselected]

theorem changeAll_announces {x : PMPFrame} (hflag : x.flag = f) (hvalue : x.value = v)
    (hall : ∀ uid, x.selects uid = true) :
    c.Announces f v (fun _ => true) (c.changeAll f v x) where
  same := by
    intro y hy
    obtain rfl := List.mem_singleton.mp hy
    exact ⟨hflag, hvalue⟩
  all := fun _ _ _ => ⟨x, List.mem_singleton_self x, hall _⟩
  only := fun _ _ _ _ => .inr fun _ => rfl
  uniform := fun _ _ _ _ => rfl

/-- **Every operation changes what it selects.** -/
theorem operate_state (op : Operation) :
    (c.operate op).state = c.change op.flag op.value (c.selected op) := by
  cases op with
  | lock hasInstance id =>
    unfold operate lock selected
    dsimp only
    split
    · simp [change]
    · exact changeByUid_state _ id
  | unlock id => exact changeByUid_state _ id
  | disableByClient id => exact changeByUid_state _ id
  | enableByClient id => exact changeByUid_state _ id
  | lockAll | unlockAll | enableByClientAll | unlockBySysCtrlAll => rfl
  | unlockAuthProfile =>
    unfold operate unlockAuthProfile unlockByApiUid changeByApiUid selected
    simp [Operation.flag, Operation.value]

/-- **Every operation announces what it changes.** -/
theorem operate_announces (op : Operation)
    (hsame : ∀ l ∈ c.libs, ∀ l' ∈ c.libs, l.uid = l'.uid → l.complement = l'.complement) :
    c.Announces op.flag op.value (c.selected op) (c.operate op) := by
  cases op with
  | lock hasInstance id =>
    unfold operate lock selected
    dsimp only
    split
    · exact ⟨by simp, by simp, by simp, by simp⟩
    · exact changeByUid_announces (fun uid => !hasInstance uid) id ofOne_lock hsame
  | unlock id => exact changeByUid_announces (fun _ => true) id ofOne_unlock hsame
  | disableByClient id =>
    exact changeByUid_announces (fun _ => true) id ofOne_disableByClient hsame
  | enableByClient id =>
    exact changeByUid_announces (fun _ => true) id ofOne_enableByClient hsame
  | lockAll | unlockAll | enableByClientAll | unlockBySysCtrlAll =>
    exact changeAll_announces rfl rfl fun _ => rfl
  | unlockAuthProfile =>
    have key := changeByApiUid_announces (c := c) (fun _ => true) gsAuthProfilePapiUid
      ofOne_unlock
    simp only [Bool.and_true] at key
    exact key

end PmpCore

/-! ## Outlooks -/

section Outlook

variable {c : PmpCore} {f : Flag} {uid : Uid}

theorem pending_cons (x : PMPFrame) (xs : List PMPFrame) :
    pending f uid (x :: xs)
      = if x.flag = f ∧ x.selects uid = true then x.value :: pending f uid xs
        else pending f uid xs := by
  unfold pending
  rw [List.filterMap_cons]
  unfold PMPFrame.about
  split <;> split <;> simp_all

/-- A request that arrives leaves the outlook as it is. -/
theorem outlook_onCoreRequest {x : PMPFrame} {p' : PmpCoreProfileInfo}
    (h : p' ∈ (c.onCoreRequest x).mProfiles) :
    ∃ p ∈ c.mProfiles, p'.mLibInfo = p.mLibInfo
      ∧ ∀ f xs, p'.outlook f xs = p.outlook f (x :: xs) := by
  rw [PmpCore.onCoreRequest_eq] at h
  obtain ⟨p, hp, hlib, hget, hother⟩ := PmpCore.mem_change h
  refine ⟨p, hp, hlib, ?_⟩
  intro f xs
  unfold PmpCoreProfileInfo.outlook
  rw [hlib, pending_cons]
  by_cases hf : x.flag = f
  · subst hf
    rw [hget]
    cases hs : x.selects p.mLibInfo.uid with
    | true => simp [List.getLast?_cons]
    | false => simp
  · rw [hother f (Ne.symm hf), if_neg (fun hboth => hf hboth.1)]

theorem outlook_append (p : PmpCoreProfileInfo) (xs ys : List PMPFrame) :
    p.outlook f (xs ++ ys) = (pending f p.mLibInfo.uid ys).getLast?.getD (p.outlook f xs) := by
  unfold PmpCoreProfileInfo.outlook pending
  rw [List.filterMap_append, List.getLast?_append]
  cases (ys.filterMap (about f p.mLibInfo.uid)).getLast? <;> rfl

end Outlook

/-! ## Two cores -/

/-- What the repositories of the two sides say about each other. -/
structure Symmetric (libs : Side → List LibInfo) : Prop where
  /-- Every profile has its complement on the other side. -/
  present : ∀ i, ∀ l ∈ libs i, ∃ m ∈ libs i.other, m.uid = l.complement
  /-- The complement of the complement is the profile. -/
  back : ∀ i, ∀ l ∈ libs i, ∀ m ∈ libs i.other, m.uid = l.complement → m.complement = l.uid
  /-- The versions of a profile are of one API. -/
  api : ∀ i, ∀ l ∈ libs i, ∀ l' ∈ libs i, l.uid = l'.uid → l.apiUid = l'.apiUid

/-- Two uids, one of each side, whose profiles are each other's complements. -/
structure Complements (libs : Side → List LibInfo) (u : Side → Uid) : Prop where
  /-- Both sides have such a profile. -/
  present : ∀ j, ∃ l ∈ libs j, l.uid = u j
  complement : ∀ j, ∀ l ∈ libs j, l.uid = u j → l.complement = u j.other
  /-- No other profile has the complement. -/
  only : ∀ j, ∀ l ∈ libs j, l.complement = u j.other → l.uid = u j

/-- The uid of a profile on its side, of its complement on the other. -/
def uids (i : Side) (l : LibInfo) (j : Side) : Uid := if j = i then l.uid else l.complement

section Symmetric

variable {libs : Side → List LibInfo} {i : Side} {l : LibInfo}

/-- The versions of a profile have one complement. -/
theorem Symmetric.same (h : Symmetric libs) (hl : l ∈ libs i) {l' : LibInfo} (hl' : l' ∈ libs i)
    (huid : l.uid = l'.uid) : l.complement = l'.complement := by
  obtain ⟨m, hm, hmuid⟩ := h.present i l hl
  have hback := h.back i l hl m hm hmuid
  have hthere := h.back i.other m hm l' ((Side.other_other i).symm ▸ hl')
    (huid.symm.trans hback.symm)
  exact hmuid.symm.trans hthere.symm

theorem Symmetric.complements (h : Symmetric libs) (hl : l ∈ libs i) :
    Complements libs (uids i l) := by
  have hne := Side.other_ne i
  have hcomplement : ∀ j, ∀ l' ∈ libs j, l'.uid = uids i l j → l'.complement = uids i l j.other := by
    intro j l' hl' huid
    unfold uids at huid ⊢
    rcases Side.eq_or i j with rfl | rfl
    · rw [if_pos rfl] at huid
      rw [if_neg hne]
      exact h.same hl' hl huid
    · rw [if_neg hne] at huid
      rw [Side.other_other, if_pos rfl]
      exact h.back i l hl l' hl' huid
  refine ⟨?_, hcomplement, ?_⟩
  · intro j
    unfold uids
    rcases Side.eq_or i j with rfl | rfl
    · exact ⟨l, hl, (if_pos rfl).symm⟩
    · obtain ⟨m, hm, huid⟩ := h.present i l hl
      exact ⟨m, hm, by rw [if_neg hne, huid]⟩
  · intro j l' hl' hc
    obtain ⟨m, hm, huid⟩ := h.present j l' hl'
    have hthere := hcomplement j.other m hm (huid.trans hc)
    rw [Side.other_other] at hthere
    exact (h.back j l' hl' m hm huid).symm.trans hthere

end Symmetric

namespace PmpCores

/-- The cores have the profiles of these repositories. -/
def Loaded (libs : Side → List LibInfo) (w : PmpCores) : Prop := ∀ j, (w.state j).libs = libs j

/-- The outlook of a flag on both sides. -/
def Outlook (w : PmpCores) (f : Flag) (u : Side → Uid) (b : Side → Bool) : Prop :=
  ∀ j, ∀ p ∈ (w.state j).mProfiles, p.mLibInfo.uid = u j → p.outlook f (w.link j) = b j

/-- An operation that changes the flag of a profile of the pair. -/
def Touches (f : Flag) (u : Side → Uid) (w : PmpCores) : Action → Prop
  | .act j op => op.flag = f ∧ ∃ l ∈ (w.state j).libs, l.uid = u j ∧ (w.state j).selected op l = true
  | .deliver _ _ => False

/-- The last request on the way to the side, if one is about the profile, sets the value that
the operation sets. -/
def Unopposed (f : Flag) (u : Side → Uid) (w : PmpCores) : Action → Prop
  | .act j op => ∀ v, (pending f (u j) (w.link j)).getLast? = some v → v = op.value
  | .deliver _ _ => True

variable {libs : Side → List LibInfo} {w w' : PmpCores} {f : Flag} {u : Side → Uid}
  {b : Side → Bool} {a : Action} {j : Side}

theorem loaded_step (h : Loaded libs w) (hs : step w a = some w') : Loaded libs w' := by
  intro i
  rw [← h i]
  cases Duplex.step_cases hs with
  | act hact =>
    rename_i j op r
    obtain rfl := Option.some.inj hact
    by_cases hij : i = j
    · subst hij
      rw [Duplex.react_state_self, PmpCore.operate_state, PmpCore.change_libs]
    · rw [Duplex.react_state_ne _ _ _ hij]
  | deliver hlink hreceive =>
    rename_i j y x rest r
    obtain rfl := Option.some.inj hreceive
    by_cases hij : i = j
    · subst hij
      rw [Duplex.react_state_self, PmpCore.onCoreRequest_eq, PmpCore.change_libs]
    · rw [Duplex.react_state_ne _ _ _ hij]

/-- A request that arrives changes no outlook. -/
theorem outlook_deliver {x : PMPFrame} {rest : List PMPFrame} (hlink : w.link j = x :: rest)
    (h : Outlook w f u b) :
    Outlook (({ w with link := Function.update w.link j rest } : PmpCores).react Side.other j
      ⟨(w.state j).onCoreRequest x, [], []⟩) f u b := by
  intro i p hp huid
  have hlinks : (({ w with link := Function.update w.link j rest } : PmpCores).react Side.other j
      ⟨(w.state j).onCoreRequest x, [], []⟩).link i = Function.update w.link j rest i := by
    by_cases hi : i = j.other
    · subst hi
      rw [Duplex.react_link_peer, List.append_nil]
    · rw [Duplex.react_link_ne _ _ _ hi]
  rw [hlinks]
  by_cases hij : i = j
  · subst hij
    rw [Duplex.react_state_self] at hp
    obtain ⟨p₀, hp₀, hlib, hsame⟩ := outlook_onCoreRequest hp
    rw [Function.update_self, hsame, ← hlink]
    exact h i p₀ hp₀ (hlib ▸ huid)
  · rw [Duplex.react_state_ne _ _ _ hij] at hp
    rw [Function.update_of_ne hij]
    exact h i p hp huid

/-! ## What an operation changes -/

section Act

variable {op : PmpCore.Operation}

theorem operate_announces (hsym : Symmetric libs) (hl : Loaded libs w) (j : Side)
    (op : PmpCore.Operation) :
    (w.state j).Announces op.flag op.value ((w.state j).selected op) ((w.state j).operate op) := by
  refine PmpCore.operate_announces op ?_
  intro l hmem l' hmem' huid
  rw [hl j] at hmem hmem'
  exact hsym.same hmem hmem' huid

/-- An operation that touches the pair selects all versions of the profile. -/
theorem selected_of_touches (hsym : Symmetric libs) (hl : Loaded libs w)
    (ht : Touches f u w (.act j op)) {l : LibInfo} (hmem : l ∈ libs j) (huid : l.uid = u j) :
    (w.state j).selected op l = true := by
  obtain ⟨-, l', hl', huid', hs⟩ := ht
  rw [hl j] at hl'
  have hsame := huid'.trans huid.symm
  have huniform := (operate_announces hsym hl j op).uniform l' l hsame
    (hsym.api j l' hl' l hmem hsame)
  rw [← huniform]
  exact hs

/-- What is announced to the complement when the operation touches the pair, -/
theorem announced_of_touches (hsym : Symmetric libs) (hpair : Complements libs u)
    (hl : Loaded libs w) (ht : Touches f u w (.act j op)) :
    (pending f (u j.other) ((w.state j).operate op).sent).getLast? = some op.value := by
  have ha := operate_announces hsym hl j op
  obtain ⟨rfl, l, hmem, huid, hs⟩ := ht
  obtain ⟨x, hx, hselects⟩ := ha.all l hmem hs
  rw [hl j] at hmem
  rw [hpair.complement j l hmem huid] at hselects
  have hsaid : op.value ∈ pending op.flag (u j.other) ((w.state j).operate op).sent := by
    refine List.mem_filterMap.mpr ⟨x, hx, ?_⟩
    rw [about, if_pos ⟨(ha.same x hx).1, hselects⟩, (ha.same x hx).2]
  have hall : ∀ v ∈ pending op.flag (u j.other) ((w.state j).operate op).sent, v = op.value := by
    intro v hv
    obtain ⟨y, hy, hv⟩ := List.mem_filterMap.mp hv
    unfold about at hv
    split at hv
    · rw [← Option.some.inj hv]
      exact (ha.same y hy).2
    · exact absurd hv (by simp)
  have hne := List.ne_nil_of_mem hsaid
  rw [List.getLast?_eq_some_getLast hne, hall _ (List.getLast_mem hne)]

/-- and when it does not. -/
theorem announced_of_not (hsym : Symmetric libs) (hpair : Complements libs u)
    (hl : Loaded libs w) (ht : ¬ Touches f u w (.act j op)) :
    pending f (u j.other) ((w.state j).operate op).sent = [] := by
  have ha := operate_announces hsym hl j op
  refine List.filterMap_eq_nil_iff.mpr ?_
  intro x hx
  unfold about
  refine if_neg ?_
  rintro ⟨hf, hselects⟩
  refine ht ⟨(ha.same x hx).1.symm.trans hf, ?_⟩
  rcases ha.only x hx _ hselects with ⟨l, hmem, hs, hc⟩ | hall
  · refine ⟨l, hmem, ?_, hs⟩
    rw [hl j] at hmem
    exact hpair.only j l hmem hc
  · obtain ⟨l, hmem, huid⟩ := hpair.present j
    exact ⟨l, (hl j).symm ▸ hmem, huid, hall l⟩

/-- **An operation on another profile** changes no outlook. -/
theorem outlook_act_of_not (hsym : Symmetric libs) (hpair : Complements libs u)
    (hl : Loaded libs w) (ht : ¬ Touches f u w (.act j op)) (h : Outlook w f u b) :
    Outlook (w.react Side.other j ((w.state j).operate op)) f u b := by
  intro i p hp huid
  rcases Side.eq_or j i with rfl | rfl
  · rw [Duplex.react_state_self, PmpCore.operate_state] at hp
    rw [Duplex.react_link_ne _ _ _ (Side.other_ne i).symm]
    obtain ⟨p₀, hp₀, hlib, hget, hother⟩ := PmpCore.mem_change hp
    have hsame : p.get f = p₀.get f := by
      by_cases hf : op.flag = f
      · subst hf
        rw [hget, if_neg]
        intro hs
        exact ht ⟨rfl, p₀.mLibInfo, List.mem_map_of_mem hp₀, hlib ▸ huid, hs⟩
      · exact hother f (Ne.symm hf)
    rw [← h i p₀ hp₀ (hlib ▸ huid)]
    unfold PmpCoreProfileInfo.outlook
    rw [hlib, hsame]
  · rw [Duplex.react_state_ne _ _ _ (Side.other_ne j)] at hp
    rw [Duplex.react_link_peer, outlook_append, huid, announced_of_not hsym hpair hl ht,
      h _ p hp huid]
    rfl

/-- **An operation on the pair** sets the outlook of the complement; its own profile has the new
value only until the next request arrives. -/
theorem outlook_act (hsym : Symmetric libs) (hpair : Complements libs u) (hl : Loaded libs w)
    (ht : Touches f u w (.act j op)) :
    Outlook (w.react Side.other j ((w.state j).operate op)) f u fun i =>
      if i = j then (pending f (u j) (w.link j)).getLast?.getD op.value else op.value := by
  intro i p hp huid
  dsimp only
  rcases Side.eq_or j i with rfl | rfl
  · rw [Duplex.react_state_self, PmpCore.operate_state] at hp
    rw [Duplex.react_link_ne _ _ _ (Side.other_ne i).symm, if_pos rfl]
    obtain ⟨p₀, hp₀, hlib, hget, -⟩ := PmpCore.mem_change hp
    have hmem : p₀.mLibInfo ∈ libs i := hl i ▸ List.mem_map_of_mem hp₀
    rw [if_pos (selected_of_touches hsym hl ht hmem (hlib ▸ huid)), ht.1] at hget
    unfold PmpCoreProfileInfo.outlook
    rw [huid, hget]
  · rw [Duplex.react_state_ne _ _ _ (Side.other_ne j)] at hp
    rw [Duplex.react_link_peer, outlook_append, huid, announced_of_touches hsym hpair hl ht,
      if_neg (Side.other_ne j)]
    rfl

end Act

/-! ## Runs -/

/-- The sides agree on a flag of their profiles. -/
def Agree (w : PmpCores) (f : Flag) : Prop :=
  ∀ i, ∀ p ∈ (w.state i).mProfiles, ∀ q ∈ (w.state i.other).mProfiles,
    q.mLibInfo.uid = p.mLibInfo.complement → p.get f = q.get f

/-- Nothing is on its way. -/
def Quiet (w : PmpCores) : Prop := ∀ i, w.link i = []

theorem outlook_quiet {p : PmpCoreProfileInfo} (hq : Quiet w) (i : Side) :
    p.outlook f (w.link i) = p.get f := by
  unfold PmpCoreProfileInfo.outlook
  rw [hq i]
  rfl

/-- In agreement, both sides have one outlook. -/
theorem outlook_init {i : Side} {l : LibInfo} (hsym : Symmetric libs) (hl : Loaded libs w)
    (hq : Quiet w) (hagree : Agree w f) (hmem : l ∈ libs i) :
    ∃ v, Outlook w f (uids i l) fun _ => v := by
  obtain ⟨m, hm, hmuid⟩ := hsym.present i l hmem
  obtain ⟨q, hqmem, rfl⟩ := List.mem_map.mp ((hl i.other).symm ▸ hm)
  obtain ⟨p, hpmem, rfl⟩ := List.mem_map.mp ((hl i).symm ▸ hmem)
  refine ⟨q.get f, ?_⟩
  intro j p' hp' huid
  rw [outlook_quiet hq j]
  unfold uids at huid
  rcases Side.eq_or i j with rfl | rfl
  · rw [if_pos rfl] at huid
    refine hagree j p' hp' q hqmem ?_
    rw [hmuid]
    exact hsym.same hmem (hl j ▸ List.mem_map_of_mem hp') huid.symm
  · rw [if_neg (Side.other_ne i)] at huid
    exact (hagree i p hpmem p' hp' huid).symm.trans (hagree i p hpmem q hqmem hmuid)

theorem getD_eq_iff {o : Option Bool} {v : Bool} : o.getD v = v ↔ ∀ x, o = some x → x = v := by
  cases o with
  | none => simp
  | some x => simp

/-- The invariant of a run: each side has an outlook, and they are the same exactly if the last
operation on the pair was not opposed. -/
def Foreseen (libs : Side → List LibInfo) (f : Flag) (u : Side → Uid) (w₀ : PmpCores)
    (as : List Action) (w : PmpCores) : Prop :=
  Loaded libs w ∧ ∃ b, Outlook w f u b
    ∧ ∀ i : Side, b i = b i.other ↔ Last step (Touches f u) (Unopposed f u) w₀ as

theorem foreseen_step {w₀ : PmpCores} {as : List Action} (hsym : Symmetric libs)
    (hpair : Complements libs u) (hr : run step w₀ as = some w) (h : Foreseen libs f u w₀ as w)
    (hs : step w a = some w') : Foreseen libs f u w₀ (as ++ [a]) w' := by
  obtain ⟨hl, b, hb, hlast⟩ := h
  refine ⟨loaded_step hl hs, ?_⟩
  by_cases ht : Touches f u w a
  · cases Duplex.step_cases hs with
    | deliver => exact absurd ht id
    | act hact =>
      rename_i j op r
      obtain rfl := Option.some.inj hact
      refine ⟨_, outlook_act hsym hpair hl ht, ?_⟩
      intro i
      rw [last_snoc hr ht]
      rcases Side.eq_or j i with rfl | rfl
      · rw [if_pos rfl, if_neg (Side.other_ne i)]
        exact getD_eq_iff
      · rw [if_neg (Side.other_ne j), Side.other_other, if_pos rfl, eq_comm]
        exact getD_eq_iff
  · refine ⟨b, ?_, fun i => (hlast i).trans (last_snoc_of_not hr ht).symm⟩
    cases Duplex.step_cases hs with
    | act hact =>
      obtain rfl := Option.some.inj hact
      exact outlook_act_of_not hsym hpair hl ht hb
    | deliver hlink hreceive =>
      obtain rfl := Option.some.inj hreceive
      exact outlook_deliver hlink hb

/-- **Agreement after everything has arrived.** Two cores whose repositories complement each
other start in agreement, and after any run of operations on both sides nothing is on its way.
They agree on a flag of a profile and its complement exactly if the last operation on the two,
if there was one, was not opposed by the last request then on the way to its side. -/
theorem locks_agree (hsym : Symmetric libs) {w₀ : PmpCores} (hl : Loaded libs w₀)
    (hq₀ : Quiet w₀) (hagree : Agree w₀ f) (as : List Action) (hrun : run step w₀ as = some w)
    (hq : Quiet w) (i : Side) (p : PmpCoreProfileInfo) (hp : p ∈ (w.state i).mProfiles)
    (q : PmpCoreProfileInfo) (hqmem : q ∈ (w.state i.other).mProfiles)
    (hc : q.mLibInfo.uid = p.mLibInfo.complement) :
    p.get f = q.get f
      ↔ Last step (Touches f (uids i p.mLibInfo)) (Unopposed f (uids i p.mLibInfo)) w₀ as := by
  have hload : Loaded libs w :=
    run_invariant (P := fun _ _ => True) (fun _ _ _ h _ hs => loaded_step h hs) hl
      (along_of_mem fun _ _ _ => trivial) hrun
  have hmem : p.mLibInfo ∈ libs i := hload i ▸ List.mem_map_of_mem hp
  have hpair := hsym.complements hmem
  have hinit : Foreseen libs f (uids i p.mLibInfo) w₀ [] w₀ := by
    obtain ⟨v, hv⟩ := outlook_init hsym hl hq₀ hagree hmem
    exact ⟨hl, fun _ => v, hv, fun _ => ⟨fun _ => last_nil, fun _ => rfl⟩⟩
  obtain ⟨-, b, hb, hlast⟩ :=
    run_history hinit (fun as v a v' hr h hs => foreseen_step hsym hpair hr h hs) hrun
  have hpb := hb i p hp (if_pos rfl).symm
  have hqb := hb i.other q hqmem (by rw [hc, uids, if_neg (Side.other_ne i)])
  rw [outlook_quiet hq] at hpb hqb
  rw [hpb, hqb]
  exact hlast i

/-- A profile and its complement. -/
def pairLibs : Side → List LibInfo
  | .a => [⟨['m'], ['M'], ['n']⟩]
  | .b => [⟨['n'], ['N'], ['m']⟩]

theorem pairLibs_symmetric : Symmetric pairLibs := by
  constructor
  · intro i
    cases i <;> decide
  · intro i
    cases i <;> decide
  · intro i
    cases i <;> decide

/-- One side locks, and the other hears of it. -/
def locking : List Action := [.act .a (.lock (fun _ => false) ['m']), .deliver .b ()]

theorem locks_agree_locking : ∃ w, run step (init pairLibs) locking = some w
    ∧ ∃ p ∈ (w.state .a).mProfiles, ∃ q ∈ (w.state .b).mProfiles, p.mLocked = true
      ∧ (p.mLocked = q.mLocked ↔ Last step (Touches .locked (uids .a p.mLibInfo))
        (Unopposed .locked (uids .a p.mLibInfo)) (init pairLibs) locking) := by
  have hrun : ∃ w, run step (init pairLibs) locking = some w ∧ w.link .a = [] ∧ w.link .b = []
      ∧ (w.state .a).mProfiles = [⟨⟨['m'], ['M'], ['n']⟩, true, true⟩]
      ∧ (w.state .b).mProfiles = [⟨⟨['n'], ['N'], ['m']⟩, true, true⟩] :=
    ⟨_, rfl, rfl, rfl, by decide, by decide⟩
  obtain ⟨w, hr, ha, hb, hpa, hpb⟩ := hrun
  refine ⟨w, hr, _, hpa ▸ List.mem_singleton_self _, _, hpb ▸ List.mem_singleton_self _, rfl, ?_⟩
  refine locks_agree (f := .locked) pairLibs_symmetric ?_ ?_ ?_ locking hr ?_ .a _
    (hpa ▸ List.mem_singleton_self _) _ (hpb ▸ List.mem_singleton_self _) rfl
  · intro j
    cases j <;> rfl
  · intro j
    rfl
  · intro j
    cases j <;> decide
  · intro j
    cases j
    · exact ha
    · exact hb

/-- One side locks while the other unlocks, and each hears of the other. -/
def crossing : List Action :=
  [.act .a (.lock (fun _ => false) ['m']), .act .b (.unlock ['n']), .deliver .b (), .deliver .a ()]

/-- **Operations that cross leave the two sides apart.** -/
theorem crossing_disagrees : Symmetric pairLibs ∧ Agree (init pairLibs) .locked
    ∧ ∃ w, run step (init pairLibs) crossing = some w ∧ Quiet w ∧ ¬ Agree w .locked := by
  have hrun : ∃ w, run step (init pairLibs) crossing = some w ∧ w.link .a = [] ∧ w.link .b = []
      ∧ (w.state .a).mProfiles = [⟨⟨['m'], ['M'], ['n']⟩, true, false⟩]
      ∧ (w.state .b).mProfiles = [⟨⟨['n'], ['N'], ['m']⟩, true, true⟩] :=
    ⟨_, rfl, rfl, rfl, by decide, by decide⟩
  obtain ⟨w, hr, ha, hb, hpa, hpb⟩ := hrun
  refine ⟨pairLibs_symmetric, ?_, w, hr, ?_, ?_⟩
  · intro j
    cases j <;> decide
  · intro j
    cases j
    · exact ha
    · exact hb
  · intro hagree
    have hsame := hagree .a _ (hpa ▸ List.mem_singleton_self _) _
      (hpb ▸ List.mem_singleton_self _) rfl
    exact absurd hsame (by decide)

end PmpCores

end IviLink.ProfileManager
