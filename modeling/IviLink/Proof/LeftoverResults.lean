import IviLink.Common.ProxyCalls

/-!
# Whose result `deallocateChannel` returns

Results are parked under a channel id, and nothing says which call they are for.
What a call finds is its own as long as nothing is parked for the channel when it
begins and no answer to another call comes in before it has got its result.

A result that nobody takes stays where it is: the answer to a call that a
notification or a failed request has ended before. The next call for the channel
returns it.
-/

namespace IviLink.Common.ProxyCalls

open IviLink.Lib

/-- The agent has answered the call with this, or it was told of the deletion by the other side
while it was waiting. -/
def Own (s : State) (call : Nat) (error : UInt32) : Prop :=
  (call, error) ∈ s.answers ∨ (error = ConnectivityAgentError.noError.code ∧ call ∈ s.notified)

/-- Every call of `deallocateChannel` whose request got through has returned the agent's answer
to it. -/
def ReturnsOwn (s : State) : Prop :=
  ∀ c ∈ s.calls, c.kind ≠ .deallocateChannelForcibly → c.requestFailed = false →
    ∀ error, c.phase = .returned error → Own s c.id error

/-- A call that got an error other than the one it would return anyway can put its channel back. -/
def Restorable (s : State) (c : Call) : Prop :=
  match c.phase with
  | .result error => error ≠ ConnectivityAgentError.noError.code →
    error ≠ ConnectivityAgentError.notFound.code → s.mChannelRegistry c.channel_id = none
  | _ => True

/-- Nothing of an earlier use of a channel id is in the way of a call, and it can put its channel
back when it has to: a call begins with nothing parked for its channel, an answer comes when no
other call waits for a result for the channel, and a channel that could not be deleted has not
been allocated again. -/
def Undisturbed (s : State) : Event → Prop
  | .deallocateChannel channel_id => s.mChannelRegistry channel_id ≠ none →
    s.mDeallocateRequestResultMap channel_id = none
  | .response call _ _ => ∀ r ∈ s.calls, r.id = call →
    ∀ c ∈ s.calls, c.Awaits r.channel_id → c.id = call
  | .restore call => ∀ c ∈ s.calls, c.id = call → c.requestFailed = false → Restorable s c
  | _ => True

instance (s : State) (c : Call) : Decidable (Restorable s c) := by
  unfold Restorable
  split <;> infer_instance

instance (s : State) (ev : Event) : Decidable (Undisturbed s ev) := by
  cases ev <;> unfold Undisturbed <;> infer_instance

/-! ## Calls -/

theorem resultOf_resp (channel_id errorCode data : UInt32) :
    resultOf channel_id (deallocateChannelResp channel_id errorCode data) = data := by
  have hlen : (le32 data).length = 4 := length_le32 data
  have hne : le32 data ≠ [] := by
    intro h
    rw [h] at hlen
    cases hlen
  have htake : (le32 data).take 4 = le32 data := by
    rw [← hlen]
    exact List.take_length
  unfold resultOf deallocateChannelResp
  rw [if_pos hne, if_pos ⟨rfl, rfl⟩, htake, ofLE32_le32]

theorem resultOf_empty (channel_id : UInt32) :
    resultOf channel_id .empty = ConnectivityAgentError.noError.code := rfl

theorem find_some {s : State} {call : Nat} {c : Call} (h : s.find call = some c) :
    c ∈ s.calls ∧ c.id = call := by
  unfold State.find at h
  have hid := List.find?_some h
  exact ⟨List.mem_of_find?_eq_some h, by simpa using hid⟩

theorem mem_setCall {s : State} {c d : Call} (h : d ∈ (s.setCall c).calls) :
    d = c ∨ d ∈ s.calls := by
  obtain ⟨e, he, rfl⟩ := List.mem_map.mp h
  split
  · exact Or.inl rfl
  · exact Or.inr he

/-! ## What a call has got -/

/-- A call that still waits finds its own result if it finds one, and one that has its result has
its own. -/
structure Served (s : State) (c : Call) : Prop where
  parked : c.Awaits c.channel_id →
    ∀ responseDA, s.mDeallocateRequestResultMap c.channel_id = some responseDA →
      Own s c.id (resultOf c.channel_id responseDA)
  got : c.kind ≠ .deallocateChannelForcibly → c.requestFailed = false →
    ∀ error, c.phase = .result error ∨ c.phase = .leaving error ∨ c.phase = .returned error →
      Own s c.id error

/-- The invariant. -/
def AllServed (s : State) : Prop := ∀ c ∈ s.calls, Served s c

theorem AllServed.returnsOwn {s : State} (h : AllServed s) : ReturnsOwn s := by
  intro c hc hkind hok error hphase
  exact (h c hc).got hkind hok error (Or.inr (Or.inr hphase))

theorem allServed_initial : AllServed State.initial :=
  fun _ hc => absurd hc List.not_mem_nil

section Steps

variable {s s' : State}

/-- Nothing that was answered is forgotten. -/
theorem Own.mono {call : Nat} {error : UInt32} (h : Own s call error)
    (ha : s.answers ⊆ s'.answers) (hn : s.notified ⊆ s'.notified) : Own s' call error := by
  rcases h with h | ⟨h0, h⟩
  · exact Or.inl (ha h)
  · exact Or.inr ⟨h0, hn h⟩

/-- A step that parks nothing for the channel of a call. -/
theorem Served.frame {c : Call} (h : Served s c)
    (hmap : ∀ responseDA, s'.mDeallocateRequestResultMap c.channel_id = some responseDA →
      s.mDeallocateRequestResultMap c.channel_id = some responseDA)
    (ha : s.answers ⊆ s'.answers) (hn : s.notified ⊆ s'.notified) : Served s' c where
  parked := fun hw da hda => (h.parked hw da (hmap da hda)).mono ha hn
  got := fun hkind hok error he => (h.got hkind hok error he).mono ha hn

/-- A step that changes nothing but the registry and the bookkeeping of allocations. -/
theorem AllServed.frame (h : AllServed s) (hcalls : s'.calls = s.calls)
    (hmap : s'.mDeallocateRequestResultMap = s.mDeallocateRequestResultMap)
    (ha : s'.answers = s.answers) (hn : s'.notified = s.notified) : AllServed s' := by
  intro c hc
  rw [hcalls] at hc
  refine (h c hc).frame ?_ ?_ ?_
  · intro da hda
    rwa [hmap] at hda
  · rw [ha]
    exact List.Subset.refl _
  · rw [hn]
    exact List.Subset.refl _

/-- A step that moves one call on. -/
theorem AllServed.setCall (h : AllServed s) {c : Call} (hc : Served s c)
    (hcalls : s'.calls = (s.setCall c).calls)
    (hmap : ∀ channel_id responseDA,
      s'.mDeallocateRequestResultMap channel_id = some responseDA →
        s.mDeallocateRequestResultMap channel_id = some responseDA)
    (ha : s'.answers = s.answers) (hn : s'.notified = s.notified) : AllServed s' := by
  intro d hd
  rw [hcalls] at hd
  have hserved : Served s d := by
    rcases mem_setCall hd with rfl | hd
    · exact hc
    · exact h d hd
  refine hserved.frame (hmap d.channel_id) ?_ ?_
  · rw [ha]
    exact List.Subset.refl _
  · rw [hn]
    exact List.Subset.refl _

/-- A new call. -/
theorem AllServed.start (h : AllServed s) {channel_id : UInt32} {kind : Kind}
    (hnone : kind ≠ .deallocateChannelForcibly →
      s.mDeallocateRequestResultMap channel_id = none) : AllServed (s.start channel_id kind) := by
  intro d hd
  rcases List.mem_append.mp hd with hd | hd
  · exact (h d hd).frame (fun _ hda => hda) (List.Subset.refl _) (List.Subset.refl _)
  · rw [List.mem_singleton.mp hd]
    constructor
    case parked =>
      rintro ⟨hkind, -, -⟩ da hda
      have hmap : s.mDeallocateRequestResultMap channel_id = some da := hda
      rw [hnone hkind] at hmap
      cases hmap
    case got =>
      intro _ _ error he
      rcases he with he | he | he <;> cases he

/-- IPC comes back. -/
theorem AllServed.requestDone (h : AllServed s) {c : Call} (hc : c ∈ s.calls)
    (hphase : c.phase = .requesting) (errorCode : UInt32) :
    AllServed (s.requestDone c errorCode) := by
  have hwaiting : c.kind ≠ .deallocateChannelForcibly → Served s { c with phase := .waiting } := by
    intro hkind
    constructor
    case parked =>
      rintro - da hda
      exact (h c hc).parked ⟨hkind, rfl, Or.inl hphase⟩ da hda
    case got =>
      intro _ _ error he
      rcases he with he | he | he <;> cases he
  have hforcibly : c.kind = .deallocateChannelForcibly → ∀ phase,
      Served s { c with phase := phase } :=
    fun hkind phase => ⟨fun hw => absurd hkind hw.1, fun hne => absurd hkind hne⟩
  unfold State.requestDone
  split
  · next hkind =>
    refine h.setCall (hwaiting ?_) rfl (fun _ _ hda => hda) rfl rfl
    rw [hkind]
    exact Kind.noConfusion
  · next hkind =>
    split
    · exact h.setCall (hforcibly hkind _) rfl (fun _ _ hda => hda) rfl rfl
    · exact h.setCall (hforcibly hkind _) rfl (fun _ _ hda => hda) rfl rfl

theorem AllServed.requestFailed (h : AllServed s) (c : Call) :
    AllServed (s.requestFailed c) := by
  unfold State.requestFailed
  split
  · refine h.setCall ⟨?_, ?_⟩ rfl (fun _ _ hda => hda) rfl rfl
    · rintro ⟨-, -, hphase | hphase⟩ <;> cases hphase
    · intro _ hok
      cases hok
  · next hkind =>
    refine h.setCall ⟨?_, ?_⟩ rfl (fun _ _ hda => hda) rfl rfl
    · rintro ⟨-, -, hphase | hphase⟩ <;> cases hphase
    · intro hne
      exact absurd hkind hne

/-- The agent's answer is parked. -/
theorem AllServed.response (h : AllServed s) {call : Nat} {channel_id : UInt32}
    (errorCode data : UInt32)
    (hothers : ∀ c ∈ s.calls, c.Awaits channel_id → c.id = call) :
    AllServed { s.park channel_id (deallocateChannelResp channel_id errorCode data) with
      answers := s.answers ++ [(call, data)] } := by
  intro c hc
  have hc : c ∈ s.calls := hc
  have hanswers : s.answers ⊆ s.answers ++ [(call, data)] := List.subset_append_left _ _
  by_cases hch : c.channel_id = channel_id
  · constructor
    case parked =>
      intro hw da hda
      have hself : c.id = call := hothers c hc (hch ▸ hw)
      rw [hch] at hda ⊢
      obtain rfl := Option.some.inj ((Function.update_self channel_id _ _).symm.trans hda)
      rw [resultOf_resp, hself]
      exact Or.inl (List.mem_append_right _ List.mem_cons_self)
    case got =>
      intro hkind hok error he
      exact ((h c hc).got hkind hok error he).mono hanswers (List.Subset.refl _)
  · refine (h c hc).frame ?_ hanswers (List.Subset.refl _)
    intro da hda
    exact (Function.update_of_ne hch _ _).symm.trans hda

/-- A deletion by the other side. -/
theorem AllServed.notification (h : AllServed s) (channel_id : UInt32) :
    AllServed (s.channelDeletedNotification channel_id) := by
  unfold State.channelDeletedNotification
  split
  · split
    · intro c hc
      have hc : c ∈ s.calls := hc
      by_cases hch : c.channel_id = channel_id
      · constructor
        case parked =>
          intro hw da hda
          rw [hch] at hda hw ⊢
          obtain rfl := Option.some.inj ((Function.update_self channel_id _ _).symm.trans hda)
          -- the calls that wait are the ones the notification is for
          refine Or.inr ⟨resultOf_empty channel_id, List.mem_append_right _ ?_⟩
          exact List.mem_map_of_mem (List.mem_filter.mpr ⟨hc, by simpa using hw⟩)
        case got =>
          intro hkind hok error he
          exact ((h c hc).got hkind hok error he).mono (List.Subset.refl _)
            (List.subset_append_left _ _)
      · refine (h c hc).frame ?_ (List.Subset.refl _) (List.subset_append_left _ _)
        intro da hda
        exact (Function.update_of_ne hch _ _).symm.trans hda
    · exact h
  · exact h.frame rfl rfl rfl rfl

/-- The call takes the result. -/
theorem AllServed.take (h : AllServed s) {c : Call} (hc : c ∈ s.calls)
    (hphase : c.phase = .waiting) {responseDA : CDataAccessor}
    (hda : s.mDeallocateRequestResultMap c.channel_id = some responseDA) :
    AllServed (s.take c responseDA) := by
  have hmap : ∀ channel_id da, (s.take c responseDA).mDeallocateRequestResultMap channel_id
      = some da → s.mDeallocateRequestResultMap channel_id = some da := by
    intro channel_id da hda'
    have hda' : Function.update s.mDeallocateRequestResultMap c.channel_id none channel_id
      = some da := hda'
    by_cases hch : channel_id = c.channel_id
    · rw [hch, Function.update_self] at hda'
      cases hda'
    · rwa [Function.update_of_ne hch] at hda'
  cases hk : c.kind with
  | deallocateChannel info =>
    refine h.setCall (c := { c with phase := .result (resultOf c.channel_id responseDA) })
      ⟨?_, ?_⟩ (by simp only [State.take, hk]) hmap rfl rfl
    · rintro ⟨-, -, hw | hw⟩ <;> cases hw
    · intro hkind hok error he
      rcases he with he | he | he <;> cases he
      exact (h c hc).parked ⟨hkind, rfl, Or.inr hphase⟩ responseDA hda
  | deallocateChannelForcibly =>
    exact h.setCall (c := { c with phase := .leaving 0 })
      ⟨fun hw => absurd hk hw.1, fun hkind => absurd hk hkind⟩ (by simp only [State.take, hk])
      hmap rfl rfl

/-- The call puts its channel back, or does not have to. -/
theorem AllServed.restore (h : AllServed s) {c : Call} (hc : c ∈ s.calls) {info : tChannelInfo}
    {error : UInt32} (hkind : c.kind = .deallocateChannel info)
    (hphase : c.phase = .result error)
    (hfree : c.requestFailed = false → Restorable s c) :
    AllServed (s.restore c info error) := by
  have hgot : c.requestFailed = false → Own s c.id error := by
    intro hok
    refine (h c hc).got ?_ hok error (Or.inl hphase)
    rw [hkind]
    exact Kind.noConfusion
  -- whatever is returned has to be the result
  have hserved : ∀ returned, (c.requestFailed = false → returned = error) →
      Served s { c with phase := .leaving returned } := by
    intro returned hsame
    constructor
    case parked => rintro ⟨-, -, hw | hw⟩ <;> cases hw
    case got =>
      intro _ hok error' he
      rcases he with he | he | he <;> cases he
      rw [hsame hok]
      exact hgot hok
  unfold State.restore
  split
  · exact h.setCall (hserved _ fun _ => rfl) rfl (fun _ _ hda => hda) rfl rfl
  · next herror =>
    split
    · next hreg =>
      refine h.setCall (hserved _ ?_) rfl (fun _ _ hda => hda) rfl rfl
      intro hok
      by_contra hne
      have hfree := hfree hok
      unfold Restorable at hfree
      rw [hphase] at hfree
      rw [hfree herror fun heq => hne heq.symm] at hreg
      cases hreg
    · exact h.setCall (hserved _ fun _ => rfl) rfl (fun _ _ hda => hda) rfl rfl

theorem AllServed.finish (h : AllServed s) {c : Call} (hc : c ∈ s.calls) {error : UInt32}
    (hphase : c.phase = .leaving error) : Served s { c with phase := .returned error } where
  parked := by rintro ⟨-, -, hw | hw⟩ <;> cases hw
  got := by
    intro hkind hok error' he
    rcases he with he | he | he <;> cases he
    exact (h c hc).got hkind hok error (Or.inr (Or.inl hphase))

end Steps

/-- **One step** that is undisturbed. -/
theorem allServed_step {s s' : State} {ev : Event} (h : AllServed s) (hq : Undisturbed s ev)
    (hs : next s ev = some s') : AllServed s' := by
  cases ev with
  | allocateChannel channel_id observer =>
    cases observer with
    | none =>
      cases hs
      exact h
    | some client =>
      simp only [next] at hs
      split at hs <;> cases hs
      · exact h.frame rfl rfl rfl rfl
      · exact h
  | insertRequest channel_id client =>
    simp only [next] at hs
    split at hs
    · split at hs <;> cases hs <;> exact h.frame rfl rfl rfl rfl
    · cases hs
  | allocateFailed channel_id =>
    simp only [next] at hs
    split at hs <;> cases hs
    exact h.frame rfl rfl rfl rfl
  | allocateResponse channel_id errorCode =>
    cases hs
    unfold State.receiveAllocateChannelResponse
    split
    · exact h
    · exact h.frame rfl rfl rfl rfl
  | allocateDone channel_id =>
    simp only [next] at hs
    split at hs
    · cases hs
    · split at hs <;> cases hs
      exact h.frame rfl rfl rfl rfl
  | deallocateChannel channel_id =>
    simp only [next] at hs
    split at hs <;> cases hs
    · exact h
    · next info hreg =>
      have hnone := hq (hreg ▸ Option.some_ne_none info)
      exact (h.start fun _ => hnone).frame rfl rfl rfl rfl
  | deallocateChannelForcibly channel_id =>
    cases hs
    exact h.start fun hkind => absurd rfl hkind
  | reach call =>
    simp only [next] at hs
    split at hs
    · cases hs
    · next c hfind =>
      split at hs <;> cases hs
      obtain ⟨hc, -⟩ := find_some hfind
      exact h.setCall (c := { c with reached := true }) ⟨(h c hc).parked, (h c hc).got⟩ rfl
        (fun _ _ hda => hda) rfl rfl
  | requestDone call errorCode =>
    simp only [next] at hs
    split at hs
    · cases hs
    · next c hfind =>
      split at hs <;> cases hs
      next hphase => exact h.requestDone (find_some hfind).1 hphase.1 errorCode
  | requestFailed call =>
    simp only [next] at hs
    split at hs
    · cases hs
    · split at hs <;> cases hs
      exact h.requestFailed _
  | response call errorCode data =>
    simp only [next] at hs
    split at hs
    · cases hs
    · next c hfind =>
      split at hs <;> cases hs
      obtain ⟨hc, hid⟩ := find_some hfind
      exact h.response errorCode data (hq c hc hid)
  | notification channel_id =>
    cases hs
    exact h.notification channel_id
  | take call =>
    simp only [next] at hs
    split at hs
    · cases hs
    · next c hfind =>
      split at hs
      · next hphase =>
        split at hs <;> cases hs
        next hda => exact h.take (find_some hfind).1 hphase hda
      · cases hs
  | restore call =>
    simp only [next] at hs
    split at hs
    · cases hs
    · next c hfind =>
      split at hs
      · next hkind hphase =>
        cases hs
        obtain ⟨hc, hid⟩ := find_some hfind
        exact h.restore hc hkind hphase (hq c hc hid)
      · cases hs
  | finish call =>
    simp only [next] at hs
    split at hs
    · cases hs
    · next c hfind =>
      split at hs
      · next hphase =>
        cases hs
        exact h.setCall (h.finish (find_some hfind).1 hphase) rfl (fun _ _ hda => hda) rfl rfl
      · cases hs

/-- **`deallocateChannel` returns the result of its own request** in every run whose steps are
undisturbed. -/
theorem returns_own {s : State} {evs : List Event} (hr : run next State.initial evs = some s)
    (hq : Along next Undisturbed State.initial evs) : ReturnsOwn s :=
  (run_invariant (fun _ _ _ h hq hs => allServed_step h hq hs) allServed_initial hq hr).returnsOwn

/-- A channel is opened and closed, and the agent's answer comes while the call waits. -/
theorem returns_own_answered :
    ∃ evs s, run next State.initial evs = some s ∧ s.answers = [(0, 11)] ∧ ReturnsOwn s :=
  ⟨[.allocateChannel 5 (some 1), .insertRequest 5 1, .allocateResponse 5 0, .allocateDone 5,
      .deallocateChannel 5, .reach 0, .requestDone 0 0, .response 0 0 11, .take 0, .restore 0,
      .finish 0], _, rfl, rfl,
    @returns_own _ [.allocateChannel 5 (some 1), .insertRequest 5 1, .allocateResponse 5 0,
      .allocateDone 5, .deallocateChannel 5, .reach 0, .requestDone 0 0, .response 0 0 11, .take 0,
      .restore 0, .finish 0] rfl (by decide)⟩

/-- The first call for channel 5 ends because its request timed out, and the agent's answer to it
comes afterwards. The second call finds that answer and returns it. -/
theorem late_answer_returned :
    ¬ ∀ (evs : List Event) (s : State), run next State.initial evs = some s → ReturnsOwn s := by
  intro h
  have hown := h [.allocateChannel 5 (some 1), .insertRequest 5 1, .allocateResponse 5 0,
    .allocateDone 5, .deallocateChannel 5, .reach 0, .requestFailed 0, .restore 0, .finish 0,
    .response 0 0 0, .deallocateChannel 5, .reach 1, .requestDone 1 0, .take 1, .restore 1,
    .finish 1] _ rfl _ (List.mem_cons_of_mem _ List.mem_cons_self) Kind.noConfusion rfl 0 rfl
  rcases hown with hown | ⟨-, hown⟩
  · exact absurd hown (by decide)
  · exact absurd hown List.not_mem_nil

end IviLink.Common.ProxyCalls
