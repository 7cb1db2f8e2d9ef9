import IviLink.Proof.Deallocation

/-!
# What a refused allocation leaves behind

A client's request is refused at once if its channel is open, or was requested by a
client of this side before, or is the service channel; nothing has been done by then. Any other
request is noted, or opens the channel that the other side has asked for, and only
then announced: if there is no buffer for the announcement the client is told of an error, and
what was done stays. It stays for good, as nobody will answer.

For all that it matters to know that opening the channel does not fail (`Sound`).
-/

namespace IviLink.L1

open IviLink.Ipc (DirectionId)
open IviLink.L0 (Side)
open IviLink.Lib

/-- The channel is open below, in one direction at least. -/
def CChannelAllocator.IsOpened (a : CChannelAllocator) (c : UInt32) : Prop :=
  ∃ l, a.mpL0Interface = some l ∧ (0 < l.mpTransmitDispatcher.numSources c ∨
    (l.mpIncomeDispatcher.mTargetMap c).isSome = true ∨ l.mpQoS.mStatMap c = true)

namespace L1InterfaceStub

/-- The client is answered with an error. -/
def Refused (r : Handled) (c : UInt32) (dirId : DirectionId) : Prop :=
  ∃ err : ConnectivityAgentError, err ≠ .noError ∧ (dirId, .allocateChannelResp c err) ∈ r.told

/-- Nothing of a request is left. -/
structure NoTrace (l l' : L1InterfaceStub) : Prop where
  requested : l'.mRequestedMap = l.mRequestedMap
  registered : l'.mL1ChannelRegistry = l.mL1ChannelRegistry
  opened : ∀ c, l'.channelAllocator.IsOpened c ↔ l.channelAllocator.IsOpened c

/-- A request that is handled, and leaves nothing behind if it is refused. -/
def RefusedCleanly (l : L1InterfaceStub) (env : Env) (c : UInt32) (prio : TChannelPriority)
    (dirId : DirectionId) : Prop :=
  ∃ r, l.processClientAllocateRequest env c prio dirId = some r ∧
    (Refused r c dirId → NoTrace l r.state)

/-- The request is refused before anything is done. -/
def RefusedAtOnce (l : L1InterfaceStub) (c : UInt32) : Prop :=
  c = CA_SERVICE_CHANNEL ∨ l.mL1ChannelRegistry c ≠ none ∨
    ∃ info ∈ l.mRequestedMap c, info.mState = .transitionClient

/-- What is registered is open below, and what was requested was requested by one of the sides. -/
structure Sound (l : L1InterfaceStub) : Prop where
  served : l.Served
  requested : ∀ c, ∀ info ∈ l.mRequestedMap c,
    info.mState = .transitionClient ∨ info.mState = .transitionAgent

namespace Sound

variable {l l' : L1InterfaceStub}

/-- A request is noted, or forgotten. -/
theorem request (h : l.Sound) (c : UInt32) {x : Option tRequestedChannelInfo}
    (hx : ∀ info ∈ x, info.mState = .transitionClient ∨ info.mState = .transitionAgent) :
    Sound { l with mRequestedMap := Function.update l.mRequestedMap c x } := by
  refine ⟨h.served, ?_⟩
  intro c' info hmem
  change info ∈ Function.update l.mRequestedMap c x c' at hmem
  by_cases hc : c' = c
  · subst hc
    rw [Function.update_self] at hmem
    exact hx info hmem
  · rw [Function.update_of_ne hc] at hmem
    exact h.requested c' info hmem

theorem forget (h : l.Sound) (c : UInt32) :
    Sound { l with mRequestedMap := Function.update l.mRequestedMap c none } :=
  h.request c nofun

theorem update (h : l.Sound) {c : UInt32} {info : tL1ChannelInfo}
    (hr : l.mL1ChannelRegistry c ≠ none) :
    Sound { l with mL1ChannelRegistry := Function.update l.mL1ChannelRegistry c (some info) } :=
  ⟨served_update h.served hr, h.requested⟩

theorem addSubscriber (h : l.Sound) (op : tOpCode) (c : UInt32) (now ms : Nat) :
    (l.addSubscriber op c now ms).Sound :=
  ⟨h.served, h.requested⟩

theorem beginAllocateChannel (h : l.Sound) {prio : TChannelPriority} {c : UInt32} {side : Bool}
    {dirId dirId' : DirectionId} {err : ConnectivityAgentError}
    (hb : l.beginAllocateChannel prio c side dirId = some (l', err, dirId')) : l'.Sound := by
  rw [L1InterfaceStub.beginAllocateChannel] at hb
  cases hr : l.mL1ChannelRegistry c with
  | some info =>
    rw [hr] at hb
    obtain ⟨rfl, -⟩ := Prod.mk.inj (Option.some.inj hb)
    exact h
  | none =>
    rw [hr] at hb
    cases hm : l.mRequestedMap c with
    | none =>
      rw [hm] at hb
      dsimp only at hb
      split at hb
      · obtain ⟨rfl, -⟩ := Prod.mk.inj (Option.some.inj hb)
        refine h.request c ?_
        rintro info ⟨⟩
        cases side
        · exact .inr rfl
        · exact .inl rfl
      · exact absurd hb (by simp)
    | some info =>
      rw [hm] at hb
      dsimp only at hb
      split at hb
      · obtain ⟨l'', hlocal, hmap, -, hserved⟩ := allocateChannelLocally_spec (c := c)
          { info with mClientDir := if side = true then dirId else info.mClientDir } h.served hr
          (h.requested c info hm).symm
        rw [hlocal] at hb
        obtain ⟨rfl, -⟩ := Prod.mk.inj (Option.some.inj hb)
        exact forget ⟨hserved, hmap ▸ h.requested⟩ c
      · obtain ⟨rfl, -⟩ := Prod.mk.inj (Option.some.inj hb)
        exact h

theorem endAllocateChannel (h : l.Sound) (c : UInt32) (dirId : DirectionId) :
    (l.endAllocateChannel c dirId).1.Sound := by
  rw [L1InterfaceStub.endAllocateChannel]
  cases hr : l.mL1ChannelRegistry c with
  | none => exact h
  | some info => exact h.update (by rw [hr]; exact Option.some_ne_none info)

theorem failAllocateChannel (h : l.Sound) (c : UInt32) (dirId : DirectionId) :
    (l.failAllocateChannel c dirId).1.Sound := by
  have hforget := h.forget c
  rw [L1InterfaceStub.failAllocateChannel]
  cases hr : l.mL1ChannelRegistry c with
  | none => exact hforget
  | some info =>
    refine ⟨?_, hforget.requested⟩
    have hserves := (CChannelAllocator.Serves.deallocateChannel h.served c
      (by rw [hr]; exact Option.some_ne_none info)).2
    refine hserves.congr fun c' => ?_
    by_cases hc : c' = c
    · subst hc
      simp
    · simp [hc]

/-- A channel is closed, and taken out if that has worked. -/
theorem deallocateChannel (h : l.Sound) (c : UInt32) :
    ((l.deallocateChannel c).2 = .noError ∧
      (l.deallocateChannel c).1.mL1ChannelRegistry c ≠ none ∧
      ((l.deallocateChannel c).1.unregister c).Sound) ∨
    ((l.deallocateChannel c).2 = .notFound ∧ (l.deallocateChannel c).1 = l) := by
  cases hr : l.mL1ChannelRegistry c with
  | none =>
    refine .inr ?_
    rw [L1InterfaceStub.deallocateChannel, hr]
    exact ⟨rfl, rfl⟩
  | some info =>
    refine .inl ?_
    have hne : l.mL1ChannelRegistry c ≠ none := by
      rw [hr]
      exact Option.some_ne_none info
    obtain ⟨hresult, hsame, hserved⟩ := deallocateChannel_spec h.served hne
    refine ⟨hresult, hsame ▸ hne, hserved, ?_⟩
    rw [L1InterfaceStub.deallocateChannel, hr]
    exact h.requested

/-! ## The handlers -/

variable {env : Env} {c : UInt32} {r : Handled}

theorem processClientAllocateRequest (h : l.Sound) {prio : TChannelPriority} {dirId : DirectionId}
    (hr : l.processClientAllocateRequest env c prio dirId = some r) : r.state.Sound := by
  rw [L1InterfaceStub.processClientAllocateRequest] at hr
  split at hr
  · obtain rfl := Option.some.inj hr
    exact h
  · split at hr
    · exact absurd hr (by simp)
    · rename_i l' err _ hbegin
      have hl' := h.beginAllocateChannel hbegin
      dsimp only at hr
      generalize (if err.isNoError then sendRequest env (.allocateChannel c prio err)
        else ([], err)) = request at hr
      split at hr
      · obtain rfl := Option.some.inj hr
        exact hl'
      · split at hr
        · exact absurd hr (by simp)
        · obtain rfl := Option.some.inj hr
          exact hl'

theorem processClientDeallocateRequest (h : l.Sound) :
    (l.processClientDeallocateRequest env c).state.Sound := by
  rw [L1InterfaceStub.processClientDeallocateRequest]
  split
  · exact h
  · cases hr : l.mL1ChannelRegistry c with
    | none => exact h
    | some info => exact (h.update (by rw [hr]; exact Option.some_ne_none info)).addSubscriber ..

theorem processClientDeallocateByWD (h : l.Sound) {dirId : DirectionId} :
    (l.processClientDeallocateByWD env c dirId).state.Sound := by
  rw [L1InterfaceStub.processClientDeallocateByWD]
  split
  · exact h
  · cases hr : l.mL1ChannelRegistry c with
    | none => exact h
    | some info => exact (h.update (by rw [hr]; exact Option.some_ne_none info)).addSubscriber ..

theorem processServiceAllocateRequest (h : l.Sound) {prio : TChannelPriority}
    {err : ConnectivityAgentError}
    (hr : l.processServiceAllocateRequest env c prio err = some r) : r.state.Sound := by
  rw [L1InterfaceStub.processServiceAllocateRequest] at hr
  split at hr
  · obtain rfl := Option.some.inj hr
    exact h.failAllocateChannel ..
  · split at hr
    · exact absurd hr (by simp)
    · rename_i l' err' _ hbegin
      have hl' := h.beginAllocateChannel hbegin
      split at hr
      · obtain rfl := Option.some.inj hr
        exact hl'.addSubscriber ..
      · obtain rfl := Option.some.inj hr
        exact hl'

theorem processServiceAllocateResponse (h : l.Sound) {err : ConnectivityAgentError} :
    (l.processServiceAllocateResponse env c err).state.Sound := by
  rw [L1InterfaceStub.processServiceAllocateResponse]
  have hended : (if err.isNoError then l.endAllocateChannel c (-1) else (l, err, -1)).1.Sound := by
    split
    · exact h.endAllocateChannel ..
    · exact h
  generalize (if err.isNoError then l.endAllocateChannel c (-1) else (l, err, -1)) = ended at hended
  dsimp only
  generalize (if err.isNoError ∧ ended.2.1 = .deferred then
      sendRequest env (.allocateChannelResp c .noError) else ([], ended.2.1)) = answer
  split
  · exact hended.failAllocateChannel ..
  · exact hended

theorem processServiceDeallocateRequest (h : l.Sound) :
    (l.processServiceDeallocateRequest env c).state.Sound := by
  rw [L1InterfaceStub.processServiceDeallocateRequest]
  rcases h.deallocateChannel c with ⟨hresult, hregistered, hsound⟩ | ⟨hresult, hsame⟩
  · rw [if_pos (by rw [hresult]; rfl)]
    cases hr : (l.deallocateChannel c).1.mL1ChannelRegistry c with
    | none => exact absurd hr hregistered
    | some info => exact hsound
  · rw [if_neg (by rw [hresult]; decide), hsame]
    exact h

theorem processServiceDeallocateResponse (h : l.Sound) {data : ConnectivityAgentError} :
    (l.processServiceDeallocateResponse c data).state.Sound := by
  rw [L1InterfaceStub.processServiceDeallocateResponse]
  split
  · rcases h.deallocateChannel c with ⟨hresult, hregistered, hsound⟩ | ⟨hresult, hsame⟩
    · rw [if_pos (by rw [hresult]; rfl)]
      cases hr : (l.deallocateChannel c).1.mL1ChannelRegistry c with
      | none => exact absurd hr hregistered
      | some info => exact hsound
    · rw [if_neg (by rw [hresult]; decide), hsame]
      exact h
  · exact h

theorem onTimeout (h : l.Sound) (t : RequestTimeout) : (l.onTimeout env t).state.Sound := by
  rw [L1InterfaceStub.onTimeout]
  cases t.mRequest with
  | allocateChannel =>
    cases l.mL1ChannelRegistry t.mChannelID with
    | some info => exact h
    | none => exact h.forget t.mChannelID
  | deallocateChannel =>
    cases l.mL1ChannelRegistry t.mChannelID with
    | none => exact h
    | some info => exact h
  | _ => exact h

/-- Whatever a stub is called for. -/
theorem call (h : l.Sound) {a : Call} (hr : l.call a = some r) : r.state.Sound := by
  cases a with
  | allocate channel_id prio dirId env =>
    rw [L1InterfaceStub.call] at hr
    split at hr
    · exact h.processClientAllocateRequest hr
    · exact absurd hr (by simp)
  | deallocate channel_id env => exact Option.some.inj hr ▸ h.processClientDeallocateRequest
  | deallocateByWD channel_id dirId env =>
    rw [L1InterfaceStub.call] at hr
    split at hr
    · exact Option.some.inj hr ▸ h.processClientDeallocateByWD
    · exact absurd hr (by simp)
  | timeout env =>
    rw [L1InterfaceStub.call, processTopTimeout] at hr
    cases hsubscribers : l.mTimeoutManager with
    | nil =>
      rw [hsubscribers] at hr
      exact absurd hr (by simp)
    | cons t rest =>
      rw [hsubscribers] at hr
      dsimp only at hr
      split at hr
      · have hrest : Sound { l with mTimeoutManager := rest } := ⟨h.served, h.requested⟩
        exact Option.some.inj hr ▸ hrest.onTimeout t
      · exact absurd hr (by simp)

/-- Whatever comes from the other side. -/
theorem receive (h : l.Sound) {m : ServiceMessage} (hr : l.receive env m = some r) :
    r.state.Sound := by
  cases m with
  | allocateChannel channel_id prio errorCode => exact h.processServiceAllocateRequest hr
  | allocateChannelResp channel_id errorCode =>
    exact Option.some.inj hr ▸ h.processServiceAllocateResponse
  | deallocateChannel channel_id => exact Option.some.inj hr ▸ h.processServiceDeallocateRequest
  | deallocateChannelResp channel_id data =>
    exact Option.some.inj hr ▸ h.processServiceDeallocateResponse

end Sound

/-! ## One request -/

section Request

variable {l : L1InterfaceStub} {env : Env} {c : UInt32} {prio : TChannelPriority}
  {dirId : DirectionId}

theorem NoTrace.refl (l : L1InterfaceStub) : NoTrace l l := ⟨rfl, rfl, fun _ => Iff.rfl⟩

/-- A request that is refused at once leaves everything as it is. -/
theorem refusedCleanly_of_atOnce (h : l.RefusedAtOnce c) : l.RefusedCleanly env c prio dirId := by
  by_cases hc : c = CA_SERVICE_CHANNEL
  · exact ⟨_, if_pos hc, fun _ => .refl l⟩
  obtain ⟨err, hbegin, herr, hdeferred⟩ : ∃ err,
      l.beginAllocateChannel prio c true dirId = some (l, err, dirId) ∧ err.isNoError = false ∧
        err ≠ .deferred := by
    rcases h with h | h | ⟨info, hm, hstate⟩
    · exact absurd h hc
    · obtain ⟨info, hr⟩ := Option.ne_none_iff_exists'.mp h
      exact ⟨.channelBusy, by rw [beginAllocateChannel, hr], rfl, by decide⟩
    · cases hr : l.mL1ChannelRegistry c with
      | some info => exact ⟨.channelBusy, by rw [beginAllocateChannel, hr], rfl, by decide⟩
      | none =>
        have hm : l.mRequestedMap c = some info := hm
        refine ⟨.allocationInProgress, ?_, rfl, by decide⟩
        rw [beginAllocateChannel, hr, hm]
        exact if_neg (by simp [hstate])
  refine ⟨⟨l, [], [(dirId, .allocateChannelResp c err)]⟩, ?_, fun _ => .refl l⟩
  rw [processClientAllocateRequest, if_neg hc, hbegin]
  simp [herr, hdeferred]

/-- Any other request changes what is requested, before it is announced. -/
theorem beginAllocateChannel_changes (prio : TChannelPriority) (h : l.Sound) (hd : dirId ≠ -1)
    (hlate : ¬ l.RefusedAtOnce c) :
    ∃ l', l.beginAllocateChannel prio c true dirId = some (l', .noError, dirId) ∧
      l'.mRequestedMap c ≠ l.mRequestedMap c := by
  have hr : l.mL1ChannelRegistry c = none := by
    by_contra hr
    exact hlate (.inr (.inl hr))
  cases hm : l.mRequestedMap c with
  | none =>
    let info : tRequestedChannelInfo := ⟨prio, .transitionClient, dirId⟩
    refine ⟨{ l with mRequestedMap := Function.update l.mRequestedMap c (some info) }, ?_, ?_⟩
    · simp [info, beginAllocateChannel, hr, hm, hd]
    · simp
  | some info =>
    -- the other side has asked for it
    have hstate : info.mState = .transitionAgent :=
      (h.requested c info hm).resolve_left fun hclient =>
        hlate (.inr (.inr ⟨info, hm, hclient⟩))
    obtain ⟨l', hlocal, -, -, -⟩ := allocateChannelLocally_spec (c := c)
      { info with mClientDir := dirId } h.served hr (.inl hstate)
    refine ⟨{ l' with mRequestedMap := Function.update l'.mRequestedMap c none }, ?_, ?_⟩
    · rw [hstate] at hlocal
      simp [beginAllocateChannel, hr, hm, hstate, hlocal]
    · simp

theorem refusedCleanly_iff (h : l.Sound) (hd : dirId ≠ -1) :
    l.RefusedCleanly env c prio dirId ↔ l.RefusedAtOnce c ∨ env.hasBuffer = true := by
  constructor
  · rintro ⟨r, hr, hclean⟩
    by_contra hnot
    obtain ⟨hlate, hbuffer⟩ := not_or.mp hnot
    obtain ⟨l', hbegin, hchanged⟩ := beginAllocateChannel_changes prio h hd hlate
    rw [processClientAllocateRequest, if_neg fun hc => hlate (.inl hc), hbegin] at hr
    simp [ConnectivityAgentError.isNoError, sendRequest, hbuffer] at hr
    subst hr
    have hrefused : Refused ⟨l', [], [(dirId, .allocateChannelResp c .noFreeBuffersLeft)]⟩ c
        dirId := ⟨.noFreeBuffersLeft, by decide, List.mem_singleton.mpr rfl⟩
    exact hchanged (congrFun (hclean hrefused).requested c)
  · rintro (hearly | hbuffer)
    · exact refusedCleanly_of_atOnce hearly
    · by_cases hlate : l.RefusedAtOnce c
      · exact refusedCleanly_of_atOnce hlate
      obtain ⟨l', hbegin, -⟩ := beginAllocateChannel_changes prio h hd hlate
      refine ⟨⟨l', [.allocateChannel c prio .noError], []⟩, ?_, ?_⟩
      · rw [processClientAllocateRequest, if_neg fun hc => hlate (.inl hc), hbegin]
        simp [sendRequest, hbuffer, ConnectivityAgentError.isNoError]
      · rintro ⟨err, -, hmem⟩
        exact absurd hmem List.not_mem_nil

end Request

theorem sound_connected : L1InterfaceStub.connected.Sound := by
  refine ⟨Agents.connected_spec.1, ?_⟩
  intro c info hmem
  by_cases hc : c = CA_SERVICE_CHANNEL
  · subst hc
    rw [Agents.connected_spec.2.1] at hmem
    exact absurd hmem (by simp)
  · rw [(Agents.connected_spec.2.2 c hc).1] at hmem
    exact absurd hmem (by simp)

end L1InterfaceStub

namespace Agents

open L1InterfaceStub

theorem sound_step {w w' : Agents} {a : Action} (h : ∀ i, (w.state i).Sound)
    (hs : w.step a = some w') : ∀ i, (w'.state i).Sound := by
  have hreact : ∀ (v : Agents) {i : Side} {r : Handled}, (∀ j, (v.state j).Sound) →
      r.state.Sound → ∀ j, ((v.react Side.other i r).state j).Sound := by
    intro v i r hv hr j
    by_cases hj : j = i
    · subst hj
      rw [Duplex.react_state_self]
      exact hr
    · rw [Duplex.react_state_ne _ _ _ hj]
      exact hv j
  cases Duplex.step_cases hs with
  | act hr => exact hreact w h ((h _).call hr)
  | deliver _ hr => exact hreact _ h ((h _).receive hr)

/-- **A refused allocation leaves no trace** exactly if it is refused at once, or would have found a
buffer for its announcement. -/
theorem refused_allocation_iff (as : List Action) (w : Agents)
    (hr : run Agents.step .init as = some w) (i : Side) (env : Env) (c : UInt32)
    (prio : TChannelPriority) (dirId : DirectionId) (hd : dirId ≠ -1) :
    (w.state i).RefusedCleanly env c prio dirId ↔
      (w.state i).RefusedAtOnce c ∨ env.hasBuffer = true :=
  refusedCleanly_iff (run_invariant (P := fun _ _ => True) (I := fun v : Agents =>
    ∀ i, (v.state i).Sound) (fun _ _ _ h _ hs => sound_step h hs) (fun _ => sound_connected)
    (along_of_mem fun _ _ _ => trivial) hr i) hd

/-- The first request is announced, and a second one refused at once. -/
theorem refused_allocation_inProgress : ∃ w,
    run Agents.step .init [.act .a (.allocate 7 .plainData 1 ⟨0, true⟩)] = some w ∧
      ((w.state .a).RefusedCleanly ⟨0, false⟩ 7 .plainData 2 ↔
        (w.state .a).RefusedAtOnce 7 ∨ (⟨0, false⟩ : Env).hasBuffer = true) :=
  ⟨_, rfl, refused_allocation_iff [.act .a (.allocate 7 .plainData 1 ⟨0, true⟩)] _ rfl .a
    ⟨0, false⟩ 7 .plainData 2 (by decide)⟩

/-- The first request of all finds no buffer, and stays in `mRequestedMap`. -/
theorem refused_allocation_stays_requested :
    ¬ ∀ (as : List Action) (w : Agents), run Agents.step .init as = some w →
      ∀ (i : Side) (env : Env) (c : UInt32) (prio : TChannelPriority) (dirId : DirectionId),
        dirId ≠ -1 → (w.state i).RefusedCleanly env c prio dirId := by
  intro h
  have hclean := h [] .init rfl .a ⟨0, false⟩ 7 .plainData 1 (by decide)
  obtain ⟨hm, hr⟩ := connected_spec.2.2 7 (by decide)
  rcases (refusedCleanly_iff sound_connected (by decide)).mp hclean with hearly | hbuffer
  · rcases hearly with hservice | hregistered | ⟨info, hmem, -⟩
    · exact absurd hservice (by decide)
    · exact hregistered hr
    · exact absurd (hm.symm.trans hmem) (by simp)
  · exact absurd hbuffer (by decide)

end Agents

end IviLink.L1
