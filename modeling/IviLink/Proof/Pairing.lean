import IviLink.ChannelSupervisor.Negotiator

/-!
# Pairing of allocations

A negotiator that asks the other side to check its map has its client's request, has
heard of the other side's, and has the id; from then on its processor changes neither
tag nor id, and the next notification that fits it finishes it. A successful response
comes of such a check, so the other side held a processor with the same id, and what
that one answers carries the id too.

Processors are never numbered alike, which is what makes "that one" mean something.
-/

namespace IviLink.ChannelSupervisor

open IviLink.L0 (Side)
open IviLink.Lib

/-! ## What a processor does -/

/-- A locally requested allocation processor that has sent `CHECK_MAP`: only `onLocalRequest`
sets the request type to unknown. -/
structure Processor.Checking (p : Processor) (tag : Tag) (channelID : UInt32) : Prop where
  /-- It is an allocation processor. -/
  kind : ∃ mIsMaster mGotAllocateRequest, p.kind = .allocation mIsMaster mGotAllocateRequest
  /-- It has its client's request. -/
  request : p.mRequestType = .unknown
  /-- It waits for the other side's check. -/
  notification : p.mNotificationType = .checkMap
  tag : p.mTag = tag
  id : p.mChannelID = channelID

theorem Processor.Checking.not_finished {p : Processor} {tag : Tag} {channelID : UInt32}
    (h : p.Checking tag channelID) : p.isFinished = false := by
  obtain ⟨mIsMaster, mGotAllocateRequest, hkind⟩ := h.kind
  simp [Processor.isFinished, hkind, h.notification]

theorem Processor.not_checking {p : Processor}
    (h : ∀ mIsMaster mGotAllocateRequest, p.kind ≠ .allocation mIsMaster mGotAllocateRequest)
    (tag : Tag) (channelID : UInt32) : ¬ p.Checking tag channelID := by
  intro hc
  obtain ⟨mIsMaster, mGotAllocateRequest, hkind⟩ := hc.kind
  exact h mIsMaster mGotAllocateRequest hkind

/-- What matters of a processor's work here. -/
structure Handled (p : Processor) (o : Outcome) : Prop where
  /-- It is the same processor. -/
  number : o.processor.number = p.number
  /-- A check is asked for by a processor that waits for one. -/
  sent : ∀ x ∈ o.sent, x.mNotificationType = .checkMap →
    o.processor.Checking x.mTag x.mChannelID
  /-- Who has answered is finished. -/
  told : ∀ t ∈ o.told, t.number = p.number ∧ o.processor.isFinished = true
  /-- Who waits for a check is finished by it and answers with its tag and id. -/
  checking : ∀ tag channelID, p.Checking tag channelID →
    o.processor.isFinished = true
      ∧ ∀ t ∈ o.told, t.response.mTag = tag ∧ t.response.mChannelID = channelID

section Handled

variable {p : Processor} {m : Map} {x : Notification} {r : Request} {o : Outcome}

theorem mem_response {type : ResponseType} {t : Answer} (ht : t ∈ p.response type) :
    t = ⟨p.number, p.mContainer, ⟨p.mTag, p.mChannelID, type, .success⟩⟩ := by
  rw [Processor.response] at ht
  split at ht
  · exact List.mem_singleton.mp ht
  · exact absurd ht List.not_mem_nil

theorem mem_updateMapAndSendResponse {sent : List Notification} {t : Answer}
    (ht : t ∈ (UpdateChannelProcessor.updateMapAndSendResponse p m sent).told) :
    t = ⟨p.number, p.mContainer, ⟨p.mTag, p.mChannelID, .updateChannelInfo, .success⟩⟩ :=
  mem_response ht

theorem allocation_onRemoteNotification_handled {mIsMaster got : Bool}
    (hkind : p.kind = .allocation mIsMaster got)
    (hfit : p.mRequestType = .unknown → p.mNotificationType = x.mNotificationType)
    (ho : AllocationProcessor.onRemoteNotification p mIsMaster m x = some o) : Handled p o := by
  rw [AllocationProcessor.onRemoteNotification] at ho
  split at ho
  · rename_i hx
    have hnot : ∀ tag channelID, ¬ p.Checking tag channelID := by
      intro tag channelID hc
      have hsame := hfit hc.request
      rw [hc.notification, hx] at hsame
      exact absurd hsame (by decide)
    dsimp only at ho
    split at ho
    · obtain rfl := Option.some.inj ho
      exact ⟨rfl, by simp, by simp, fun tag channelID hc => absurd hc (hnot tag channelID)⟩
    · rename_i hreq
      obtain rfl := Option.some.inj ho
      refine ⟨rfl, ?_, by simp, fun tag channelID hc => absurd hc (hnot tag channelID)⟩
      intro y hy _
      obtain rfl := List.mem_singleton.mp hy
      exact ⟨⟨mIsMaster, true, rfl⟩, not_not.mp hreq, rfl, rfl, rfl⟩
  · split at ho
    · obtain rfl := Option.some.inj ho
      have hfin : ({ p with mNotificationType := .unknown } : Processor).isFinished = true := by
        simp [Processor.isFinished, hkind]
      refine ⟨rfl, by simp, ?_, ?_⟩
      · intro t ht
        rw [mem_response ht]
        exact ⟨rfl, hfin⟩
      · intro tag channelID hc
        refine ⟨hfin, ?_⟩
        intro t ht
        rw [mem_response ht]
        exact ⟨hc.tag, hc.id⟩
    · exact absurd ho (by simp)
  · exact absurd ho (by simp)

theorem conAgent_onRemoteNotification_handled {got : Bool}
    (hkind : p.kind = .conAgentAllocationDone got)
    (ho : ConAgentAllocationDoneProcessor.onRemoteNotification p got m x = some o) :
    Handled p o := by
  have hnot := p.not_checking (by simp [hkind])
  rw [ConAgentAllocationDoneProcessor.onRemoteNotification] at ho
  split at ho
  · split at ho
    · exact absurd ho (by simp)
    · dsimp only at ho
      split at ho
      · obtain rfl := Option.some.inj ho
        exact ⟨rfl, by simp, by simp, fun tag channelID hc => absurd hc (hnot tag channelID)⟩
      · split at ho
        · obtain rfl := Option.some.inj ho
          refine ⟨rfl, ?_, by simp, fun tag channelID hc => absurd hc (hnot tag channelID)⟩
          intro y hy htype
          obtain rfl := List.mem_singleton.mp hy
          exact absurd htype (by simp [Processor.notification])
        · exact absurd ho (by simp)
  · split at ho
    · obtain rfl := Option.some.inj ho
      refine ⟨rfl, by simp, ?_, fun tag channelID hc => absurd hc (hnot tag channelID)⟩
      intro t ht
      rw [mem_response ht]
      exact ⟨rfl, by simp [Processor.isFinished, hkind]⟩
    · exact absurd ho (by simp)
  · exact absurd ho (by simp)

theorem update_onRemoteNotification_handled (hkind : p.kind = .updateChannel) :
    Handled p (UpdateChannelProcessor.onRemoteNotification p m x) := by
  have hnot := p.not_checking (by simp [hkind])
  rw [UpdateChannelProcessor.onRemoteNotification]
  dsimp only
  split
  · rename_i hfin
    refine ⟨rfl, by simp [UpdateChannelProcessor.updateMapAndSendResponse], ?_,
      fun tag channelID hc => absurd hc (hnot tag channelID)⟩
    intro t ht
    rw [mem_updateMapAndSendResponse ht]
    exact ⟨rfl, hfin⟩
  · exact ⟨rfl, by simp, by simp, fun tag channelID hc => absurd hc (hnot tag channelID)⟩

/-- A notification that fits the processor, or a processor just made for it. -/
theorem onRemoteNotification_handled
    (hfit : p.mRequestType = .unknown → p.mNotificationType = x.mNotificationType)
    (ho : p.onRemoteNotification m x = some o) : Handled p o := by
  have key : Handled
      { p with
        mRemoteClientID := x.mClientID
        mRemoteRequestID := x.mRequestID } o := by
    rw [Processor.onRemoteNotification] at ho
    dsimp only at ho
    split at ho
    · rename_i hkind
      exact allocation_onRemoteNotification_handled hkind hfit ho
    · rename_i hkind
      exact conAgent_onRemoteNotification_handled hkind ho
    · rename_i hkind
      obtain rfl := Option.some.inj ho
      exact ⟨rfl, by simp, by simp,
        fun tag channelID hc => absurd hc (Processor.not_checking (by simp [hkind]) tag channelID)⟩
    · rename_i hkind
      obtain rfl := Option.some.inj ho
      exact update_onRemoteNotification_handled hkind
  exact ⟨key.number, key.sent, key.told,
    fun tag channelID hc => key.checking tag channelID
      ⟨hc.kind, hc.request, hc.notification, hc.tag, hc.id⟩⟩

/-- A request is taken up by a processor that waits for one. -/
theorem onLocalRequest_handled {container : ResponseContainer}
    (hreq : p.mRequestType ≠ .unknown) : Handled p (p.onLocalRequest m r container) := by
  have hnot : ∀ tag channelID, ¬ p.Checking tag channelID := fun _ _ hc => hreq hc.request
  rw [Processor.onLocalRequest]
  dsimp only
  split
  · rename_i mIsMaster got hkind
    rw [AllocationProcessor.onLocalRequest]
    dsimp only
    split
    · refine ⟨rfl, ?_, by simp, fun tag channelID hc => absurd hc (hnot tag channelID)⟩
      intro y hy htype
      rcases List.mem_cons.mp hy with rfl | hy
      · exact absurd htype (by simp [Processor.notification])
      · obtain rfl := List.mem_singleton.mp hy
        exact ⟨⟨mIsMaster, got, hkind⟩, rfl, rfl, rfl, rfl⟩
    · refine ⟨rfl, ?_, by simp, fun tag channelID hc => absurd hc (hnot tag channelID)⟩
      intro y hy htype
      obtain rfl := List.mem_singleton.mp hy
      exact absurd htype (by simp [Processor.notification])
  · rw [ConAgentAllocationDoneProcessor.onLocalRequest]
    dsimp only
    split
    · refine ⟨rfl, ?_, by simp, fun tag channelID hc => absurd hc (hnot tag channelID)⟩
      intro y hy htype
      rcases List.mem_cons.mp hy with rfl | hy
      · exact absurd htype (by simp [Processor.notification])
      · obtain rfl := List.mem_singleton.mp hy
        exact absurd htype (by simp [Processor.notification])
    · refine ⟨rfl, ?_, by simp, fun tag channelID hc => absurd hc (hnot tag channelID)⟩
      intro y hy htype
      obtain rfl := List.mem_singleton.mp hy
      exact absurd htype (by simp [Processor.notification])
  · exact ⟨rfl, by simp [DeallocationProcessor.onLocalRequest],
      by simp [DeallocationProcessor.onLocalRequest],
      fun tag channelID hc => absurd hc (hnot tag channelID)⟩
  · rw [UpdateChannelProcessor.onLocalRequest]
    dsimp only
    split
    · rename_i hfin
      refine ⟨rfl, ?_, ?_, fun tag channelID hc => absurd hc (hnot tag channelID)⟩
      · intro y hy htype
        obtain rfl := List.mem_singleton.mp hy
        exact absurd htype (by simp [Processor.notification])
      · intro t ht
        rw [mem_updateMapAndSendResponse ht]
        exact ⟨rfl, hfin⟩
    · refine ⟨rfl, ?_, by simp, fun tag channelID hc => absurd hc (hnot tag channelID)⟩
      intro y hy htype
      obtain rfl := List.mem_singleton.mp hy
      exact absurd htype (by simp [Processor.notification])

/-- A successful allocation is the answer to a check, with the processor's tag and id. -/
theorem onRemoteNotification_answer (ho : p.onRemoteNotification m x = some o) {t : Answer}
    (ht : t ∈ o.told) (htype : t.response.mResponseType = .allocateChannel) :
    x.mNotificationType = .checkMap ∧ t.response.mTag = p.mTag
      ∧ t.response.mChannelID = p.mChannelID := by
  rw [Processor.onRemoteNotification] at ho
  dsimp only at ho
  split at ho
  · rw [AllocationProcessor.onRemoteNotification] at ho
    split at ho
    · dsimp only at ho
      split at ho
      · obtain rfl := Option.some.inj ho
        exact absurd ht List.not_mem_nil
      · obtain rfl := Option.some.inj ho
        exact absurd ht List.not_mem_nil
    · rename_i hx
      split at ho
      · obtain rfl := Option.some.inj ho
        rw [mem_response ht]
        exact ⟨hx, rfl, rfl⟩
      · exact absurd ho (by simp)
    · exact absurd ho (by simp)
  · rw [ConAgentAllocationDoneProcessor.onRemoteNotification] at ho
    split at ho
    · split at ho
      · exact absurd ho (by simp)
      · dsimp only at ho
        split at ho
        · obtain rfl := Option.some.inj ho
          exact absurd ht List.not_mem_nil
        · split at ho
          · obtain rfl := Option.some.inj ho
            exact absurd ht List.not_mem_nil
          · exact absurd ho (by simp)
    · split at ho
      · obtain rfl := Option.some.inj ho
        rw [mem_response ht] at htype
        exact absurd htype (by simp)
      · exact absurd ho (by simp)
    · exact absurd ho (by simp)
  · obtain rfl := Option.some.inj ho
    exact absurd ht List.not_mem_nil
  · obtain rfl := Option.some.inj ho
    rw [UpdateChannelProcessor.onRemoteNotification] at ht
    dsimp only at ht
    split at ht
    · rw [mem_updateMapAndSendResponse ht] at htype
      exact absurd htype (by simp)
    · exact absurd ht List.not_mem_nil

theorem onLocalRequest_answer {container : ResponseContainer} {t : Answer}
    (ht : t ∈ (p.onLocalRequest m r container).told) :
    t.response.mResponseType ≠ .allocateChannel := by
  rw [Processor.onLocalRequest] at ht
  dsimp only at ht
  split at ht
  · rw [AllocationProcessor.onLocalRequest] at ht
    dsimp only at ht
    split at ht <;> exact absurd ht List.not_mem_nil
  · rw [ConAgentAllocationDoneProcessor.onLocalRequest] at ht
    dsimp only at ht
    split at ht <;> exact absurd ht List.not_mem_nil
  · exact absurd ht List.not_mem_nil
  · rw [UpdateChannelProcessor.onLocalRequest] at ht
    dsimp only at ht
    split at ht
    · rw [mem_updateMapAndSendResponse ht]
      simp
    · exact absurd ht List.not_mem_nil

end Handled

/-! ## What the holder does -/

namespace Negotiator

/-- How a processor is obtained. -/
inductive Obtained (n : Negotiator) (found : Processor → Bool) (type : NotificationType) :
    Processor → Negotiator → Prop
  | found {p} : p ∈ n.mProcessors → found p = true → Obtained n found type p n
  | made {p place} : n.createProcessorForType type = some p →
      Obtained n found type p (n.insert place p)

variable {n n' : Negotiator} {found : Processor → Bool} {type : NotificationType} {p : Processor}

theorem obtainProcessor_cases {place : Nat}
    (h : n.obtainProcessor found type place = some (p, n')) : n.Obtained found type p n' := by
  rw [obtainProcessor] at h
  split at h
  · rename_i q hfind
    obtain ⟨rfl, rfl⟩ := Prod.mk.inj (Option.some.inj h)
    exact .found (List.mem_of_find?_eq_some hfind) (List.find?_some hfind)
  · split at h
    · exact absurd h (by simp)
    · rename_i q hnew
      obtain ⟨rfl, rfl⟩ := Prod.mk.inj (Option.some.inj h)
      exact .made hnew

/-- A processor just made has the next number, and no request yet. -/
theorem createProcessorForType_new (h : n.createProcessorForType type = some p) :
    p.number = n.created ∧ p.mRequestType ≠ .unknown := by
  cases type with
  | allocate | caAllocate | deallocate | updateChannelInfo =>
    obtain rfl := Option.some.inj h
    exact ⟨rfl, by simp [Processor.new]⟩
  | unknown | checkMap | mapAddCid | clientDisconnected | invalidateTimedoutRequest =>
    exact absurd h (by simp [createProcessorForType])

theorem mem_insert {place : Nat} {q : Processor} :
    q ∈ (n.insert place p).mProcessors ↔ q = p ∨ q ∈ n.mProcessors := by
  have hsplit : q ∈ n.mProcessors ↔ q ∈ n.mProcessors.take place ∨ q ∈ n.mProcessors.drop place := by
    rw [← List.mem_append, List.take_append_drop]
  rw [hsplit]
  simp only [insert, List.mem_append, List.mem_cons]
  tauto

/-- Numbers are not given twice. -/
structure Numbered (n : Negotiator) (told : List Answer) : Prop where
  /-- The processors have been numbered. -/
  made : ∀ p ∈ n.mProcessors, p.number < n.created
  /-- So have those that have answered. -/
  counted : ∀ t ∈ told, t.number < n.created
  /-- Who has answered is gone. -/
  gone : ∀ t ∈ told, ∀ p ∈ n.mProcessors, p.number ≠ t.number

/-- The processor of this number holds this tag and id for good. -/
structure Fixed (n : Negotiator) (told : List Answer) (number : Nat) (tag : Tag)
    (channelID : UInt32) : Prop where
  /-- It has been made. -/
  made : number < n.created
  /-- As long as it is there it waits for a check. -/
  held : ∀ p ∈ n.mProcessors, p.number = number → p.Checking tag channelID
  /-- What it has answered carries the tag and the id. -/
  answered : ∀ t ∈ told, t.number = number →
    t.response.mTag = tag ∧ t.response.mChannelID = channelID

/-- The processor of this number is there and waits for a check. -/
def HeldAt (n : Negotiator) (number : Nat) (tag : Tag) (channelID : UInt32) : Prop :=
  ∃ p ∈ n.mProcessors, p.number = number ∧ p.Checking tag channelID

variable {told : List Answer} {number : Nat} {tag : Tag} {channelID : UInt32}

theorem Obtained.numbered (h : n.Obtained found type p n') (hn : n.Numbered told) :
    n'.Numbered told ∧ p ∈ n'.mProcessors := by
  cases h with
  | found hp _ => exact ⟨hn, hp⟩
  | made hnew =>
    obtain ⟨hnumber, -⟩ := createProcessorForType_new hnew
    refine ⟨⟨?_, fun t ht => Nat.lt_succ_of_lt (hn.counted t ht), ?_⟩, mem_insert.mpr (.inl rfl)⟩
    · intro q hq
      rcases mem_insert.mp hq with rfl | hq
      · exact hnumber ▸ Nat.lt_succ_self n.created
      · exact Nat.lt_succ_of_lt (hn.made q hq)
    · intro t ht q hq
      rcases mem_insert.mp hq with rfl | hq
      · have hlt := hn.counted t ht
        omega
      · exact hn.gone t ht q hq

theorem Obtained.fixed (h : n.Obtained found type p n')
    (hf : n.Fixed told number tag channelID) : n'.Fixed told number tag channelID := by
  cases h with
  | found hp _ => exact hf
  | made hnew =>
    obtain ⟨hnumber, -⟩ := createProcessorForType_new hnew
    refine ⟨Nat.lt_succ_of_lt hf.made, ?_, hf.answered⟩
    intro q hq hqn
    rcases mem_insert.mp hq with rfl | hq
    · have hlt := hf.made
      omega
    · exact hf.held q hq hqn

variable {o : Outcome}

/-- Which processors there are after one has worked. -/
theorem mem_settle {q : Processor} (hq : q ∈ (n.settle o).state.mProcessors) :
    (q ∈ n.mProcessors ∧ q.number ≠ o.processor.number)
      ∨ (q = o.processor ∧ o.processor.isFinished = false) := by
  simp only [settle] at hq
  split at hq
  · obtain ⟨hq, hne⟩ := List.mem_filter.mp hq
    exact .inl ⟨hq, of_decide_eq_true hne⟩
  · rename_i hfin
    obtain ⟨q', hq', hcase⟩ := List.mem_map.mp hq
    split at hcase
    · exact .inr ⟨hcase.symm, by simpa using hfin⟩
    · rename_i hne
      exact .inl ⟨hcase ▸ hq', hcase ▸ hne⟩

theorem settle_mem (hp : p ∈ n.mProcessors) (hnumber : o.processor.number = p.number)
    (hfin : o.processor.isFinished = false) : o.processor ∈ (n.settle o).state.mProcessors := by
  simp only [settle, hfin]
  exact List.mem_map.mpr ⟨p, hp, if_pos hnumber.symm⟩

theorem settle_numbered (hn : n.Numbered told) (hp : p ∈ n.mProcessors) (ho : Handled p o) :
    (n.settle o).state.Numbered (told ++ o.told) := by
  have hlt := hn.made p hp
  refine ⟨?_, ?_, ?_⟩
  · intro q hq
    rcases mem_settle hq with ⟨hq, -⟩ | ⟨rfl, -⟩
    · exact hn.made q hq
    · exact ho.number ▸ hlt
  · intro t ht
    rcases List.mem_append.mp ht with ht | ht
    · exact hn.counted t ht
    · exact (ho.told t ht).1 ▸ hlt
  · intro t ht q hq
    rcases List.mem_append.mp ht with ht | ht
    · rcases mem_settle hq with ⟨hq, -⟩ | ⟨rfl, -⟩
      · exact hn.gone t ht q hq
      · exact ho.number ▸ hn.gone t ht p hp
    · obtain ⟨htn, hfin⟩ := ho.told t ht
      rcases mem_settle hq with ⟨-, hne⟩ | ⟨-, hnot⟩
      · rw [htn, ← ho.number]
        exact hne
      · exact absurd hfin (by simp [hnot])

theorem settle_fixed (hf : n.Fixed told number tag channelID) (hp : p ∈ n.mProcessors)
    (ho : Handled p o) : (n.settle o).state.Fixed (told ++ o.told) number tag channelID := by
  refine ⟨hf.made, ?_, ?_⟩
  · intro q hq hqn
    rcases mem_settle hq with ⟨hq, -⟩ | ⟨rfl, hnot⟩
    · exact hf.held q hq hqn
    · have hc := hf.held p hp (ho.number ▸ hqn)
      exact absurd (ho.checking tag channelID hc).1 (by simp [hnot])
  · intro t ht htn
    rcases List.mem_append.mp ht with ht | ht
    · exact hf.answered t ht htn
    · have hc := hf.held p hp ((ho.told t ht).1 ▸ htn)
      exact (ho.checking tag channelID hc).2 t ht

/-- **A check is asked for by a processor that is there**, and that keeps its tag and id. -/
theorem settle_sent (hn : n.Numbered told) (hp : p ∈ n.mProcessors) (ho : Handled p o)
    {x : Notification} (hx : x ∈ o.sent) (htype : x.mNotificationType = .checkMap) :
    (n.settle o).state.HeldAt p.number x.mTag x.mChannelID
      ∧ (n.settle o).state.Fixed (told ++ o.told) p.number x.mTag x.mChannelID := by
  have hc := ho.sent x hx htype
  refine ⟨⟨o.processor, settle_mem hp ho.number hc.not_finished, ho.number, hc⟩,
    hn.made p hp, ?_, ?_⟩
  · intro q hq hqn
    rcases mem_settle hq with ⟨-, hne⟩ | ⟨rfl, -⟩
    · exact absurd (hqn.trans ho.number.symm) hne
    · exact hc
  · intro t ht htn
    rcases List.mem_append.mp ht with ht | ht
    · exact absurd htn.symm (hn.gone t ht p hp)
    · exact absurd (ho.told t ht).2 (by simp [hc.not_finished])

/-! ## What the negotiator does -/

/-- A negotiator deletes processors, or one of them works. -/
inductive Reacts (n : Negotiator) : Reaction Negotiator Notification Answer → Prop
  | quiet {r} : r.state.mProcessors ⊆ n.mProcessors → r.state.created = n.created → r.told = [] →
      (∀ x ∈ r.sent, x.mNotificationType ≠ .checkMap) → Reacts n r
  | worked {f t q m o} : Obtained n f t q m → Handled q o → Reacts n (m.settle o)

theorem Reacts.nothing : n.Reacts ⟨n, [], []⟩ :=
  .quiet (List.Subset.refl _) rfl rfl (by simp)

theorem call_reacts (c : Call) : n.Reacts (n.call c) := by
  cases c with
  | processClientRequest r container place =>
    rw [call, processClientRequest]
    split
    · exact .nothing
    · rename_i hknown
      split
      · exact .nothing
      · rename_i p n' hobtain
        refine .worked (obtainProcessor_cases hobtain) (onLocalRequest_handled ?_)
        cases obtainProcessor_cases hobtain with
        | found _ hfound =>
          have hreq : p.mRequestType = r.mRequestType := (of_decide_eq_true hfound).1
          rintro hun
          rw [← hreq, hun] at hknown
          exact hknown rfl
        | made hnew => exact (createProcessorForType_new hnew).2
  | sendClientDisconnected dirId =>
    exact .quiet (List.Subset.refl _) rfl rfl (by simp [call])
  | processLocalClientDisconnected dirId =>
    exact .quiet List.filter_sublist.subset rfl rfl (by simp [call])
  | sendInvalidateTimedoutRequest dirId id =>
    exact .quiet (List.Subset.refl _) rfl rfl (by simp [call])
  | invalidateLocalTimedOutRequest dirId id =>
    rw [call, invalidateLocalTimedOutRequest]
    split
    · exact .nothing
    · exact .quiet (List.eraseP_subset) rfl rfl (by simp)
  | invalidateChannelInfo channelId =>
    exact .quiet (List.Subset.refl _) rfl rfl (by simp [call])

variable {place : Nat} {x : Notification} {r : Reaction Negotiator Notification Answer}

theorem processTubeNotification_reacts (h : n.processTubeNotification x place = some r) :
    n.Reacts r := by
  rw [processTubeNotification] at h
  split at h
  · exact Option.some.inj h ▸ .nothing
  · split at h
    · exact Option.some.inj h ▸ .nothing
    · rename_i p n' hobtain
      obtain ⟨o, ho, rfl⟩ := Option.map_eq_some_iff.mp h
      refine .worked (obtainProcessor_cases hobtain) (onRemoteNotification_handled ?_ ho)
      intro hreq
      cases obtainProcessor_cases hobtain with
      | found _ hfound => exact (of_decide_eq_true hfound).1
      | made hnew => exact absurd hreq (createProcessorForType_new hnew).2

theorem onDataReceived_reacts (h : n.onDataReceived place x = some r) : n.Reacts r := by
  rw [onDataReceived] at h
  split at h
  · obtain rfl := Option.some.inj h
    exact .quiet List.filter_sublist.subset rfl rfl (by simp)
  · obtain rfl := Option.some.inj h
    rw [invalidateRemoteTimedOutRequest]
    split
    · exact .nothing
    · exact .quiet (List.eraseP_subset) rfl rfl (by simp)
  · exact processTubeNotification_reacts h

theorem call_answer {c : Call} {t : Answer} (ht : t ∈ (n.call c).told) :
    t.response.mResponseType ≠ .allocateChannel := by
  cases c with
  | processClientRequest r container place =>
    rw [call, processClientRequest] at ht
    split at ht
    · exact absurd ht List.not_mem_nil
    · split at ht
      · exact absurd ht List.not_mem_nil
      · exact onLocalRequest_answer ht
  | sendClientDisconnected | processLocalClientDisconnected | sendInvalidateTimedoutRequest
  | invalidateLocalTimedOutRequest | invalidateChannelInfo =>
    exact absurd ht List.not_mem_nil

/-- **A successful allocation answers a check with the same id and the other tag.** -/
theorem onDataReceived_answer (h : n.onDataReceived place x = some r) {t : Answer}
    (ht : t ∈ r.told) (htype : t.response.mResponseType = .allocateChannel) :
    x.mNotificationType = .checkMap ∧ x.mTag = getComplementingTag t.response.mTag
      ∧ x.mChannelID = t.response.mChannelID := by
  rw [onDataReceived] at h
  split at h
  · obtain rfl := Option.some.inj h
    exact absurd ht List.not_mem_nil
  · obtain rfl := Option.some.inj h
    exact absurd ht List.not_mem_nil
  · rw [processTubeNotification] at h
    split at h
    · obtain rfl := Option.some.inj h
      exact absurd ht List.not_mem_nil
    · split at h
      · obtain rfl := Option.some.inj h
        exact absurd ht List.not_mem_nil
      · rename_i p n' hobtain
        obtain ⟨o, ho, rfl⟩ := Option.map_eq_some_iff.mp h
        obtain ⟨hx, htag, hid⟩ := onRemoteNotification_answer ho ht htype
        cases obtainProcessor_cases hobtain with
        | found _ hfound =>
          obtain ⟨-, hfit, hfitid⟩ := of_decide_eq_true hfound
          refine ⟨hx, ?_, ?_⟩
          · rw [htag, hfit, getComplementingTag_getComplementingTag]
          · rw [hx] at hfitid
            rw [hid]
            exact (hfitid.resolve_left (by simp)).symm
        | made hnew =>
          rw [hx] at hnew
          exact absurd hnew (by simp [createProcessorForType])

/-! ## What a reaction keeps -/

theorem Reacts.numbered (h : n.Reacts r) (hn : n.Numbered told) :
    r.state.Numbered (told ++ r.told) := by
  cases h with
  | quiet hsub hcreated htold hsent =>
    rw [htold, List.append_nil]
    exact ⟨fun p hp => hcreated ▸ hn.made p (hsub hp), fun t ht => hcreated ▸ hn.counted t ht,
      fun t ht p hp => hn.gone t ht p (hsub hp)⟩
  | worked hobtained ho =>
    obtain ⟨hn', hp⟩ := hobtained.numbered hn
    exact settle_numbered hn' hp ho

theorem Reacts.fixed (h : n.Reacts r) (hn : n.Numbered told)
    (hf : n.Fixed told number tag channelID) :
    r.state.Fixed (told ++ r.told) number tag channelID := by
  cases h with
  | quiet hsub hcreated htold hsent =>
    rw [htold, List.append_nil]
    exact ⟨hcreated ▸ hf.made, fun p hp => hf.held p (hsub hp), hf.answered⟩
  | worked hobtained ho => exact settle_fixed (hobtained.fixed hf) (hobtained.numbered hn).2 ho

theorem Reacts.sent (h : n.Reacts r) (hn : n.Numbered told) {y : Notification} (hy : y ∈ r.sent)
    (htype : y.mNotificationType = .checkMap) :
    ∃ number, r.state.HeldAt number y.mTag y.mChannelID
      ∧ r.state.Fixed (told ++ r.told) number y.mTag y.mChannelID := by
  cases h with
  | quiet hsub hcreated htold hsent => exact absurd htype (hsent y hy)
  | worked hobtained ho =>
    obtain ⟨hn', hp⟩ := hobtained.numbered hn
    exact ⟨_, settle_sent hn' hp ho hy htype⟩

end Negotiator

/-! ## Two negotiators -/

namespace Negotiators

open Negotiator

/-- A processor of the side has held this tag and id, and keeps to them. -/
def Granted (master : Side) (as : List Action) (w : Negotiators) (i : Side) (tag : Tag)
    (channelID : UInt32) : Prop :=
  ∃ number, Ever step (init master) as (fun v => (v.state i).HeldAt number tag channelID)
    ∧ (w.state i).Fixed (w.told i) number tag channelID

/-- The invariant: what runs between the two sides and what they have answered is backed by
processors. -/
structure Paired (master : Side) (as : List Action) (w : Negotiators) : Prop where
  /-- The processors are numbered. -/
  numbered : ∀ i, (w.state i).Numbered (w.told i)
  /-- A check on its way comes from a processor of the other side. -/
  checks : ∀ i, ∀ x ∈ w.link i, x.mNotificationType = .checkMap →
    Granted master as w i.other x.mTag x.mChannelID
  /-- A successful allocation has had a processor on the other side. -/
  answers : ∀ i, ∀ t ∈ w.told i, t.response.mResponseType = .allocateChannel →
    Granted master as w i.other (getComplementingTag t.response.mTag) t.response.mChannelID

variable {master : Side} {as : List Action} {w : Negotiators}

theorem paired_init : Paired master [] (init master) where
  numbered i := ⟨by simp [init, Negotiator.init], by simp [init], by simp [init]⟩
  checks i x hx := absurd hx List.not_mem_nil
  answers i t ht := absurd ht List.not_mem_nil

/-- Of a link the invariant speaks message by message. -/
theorem Paired.rest (h : Paired master as w) {i : Side} {x : Notification}
    {rest : List Notification} (hlink : w.link i = x :: rest) :
    Paired master as { w with link := Function.update w.link i rest } where
  numbered := h.numbered
  checks j y hy := by
    refine h.checks j y ?_
    by_cases hj : j = i
    · subst hj
      rw [hlink]
      exact List.mem_cons_of_mem x (by simpa using hy)
    · simpa [hj] using hy
  answers := h.answers

/-- One side reacts. -/
theorem Paired.react (h : Paired master as w) {a : Action} {j : Side}
    {r : Reaction Negotiator Notification Answer} (hreacts : (w.state j).Reacts r)
    (hrun : run step (init master) (as ++ [a]) = some (w.react Side.other j r))
    (hanswer : ∀ t ∈ r.told, t.response.mResponseType = .allocateChannel →
      Granted master as w j.other (getComplementingTag t.response.mTag) t.response.mChannelID) :
    Paired master (as ++ [a]) (w.react Side.other j r) := by
  have hn := h.numbered j
  have hgranted : ∀ i tag channelID, Granted master as w i tag channelID →
      Granted master (as ++ [a]) (w.react Side.other j r) i tag channelID := by
    rintro i tag channelID ⟨number, hever, hfixed⟩
    refine ⟨number, hever.append [a], ?_⟩
    by_cases hi : i = j
    · subst hi
      rw [Duplex.react_state_self, Duplex.react_told_self]
      exact hreacts.fixed hn hfixed
    · rw [Duplex.react_state_ne _ _ _ hi, Duplex.react_told_ne _ _ _ hi]
      exact hfixed
  refine ⟨?_, ?_, ?_⟩
  · intro i
    by_cases hi : i = j
    · subst hi
      rw [Duplex.react_state_self, Duplex.react_told_self]
      exact hreacts.numbered hn
    · rw [Duplex.react_state_ne _ _ _ hi, Duplex.react_told_ne _ _ _ hi]
      exact h.numbered i
  · intro i x hx htype
    by_cases hi : i = j.other
    · subst hi
      rw [Duplex.react_link_peer] at hx
      rcases List.mem_append.mp hx with hx | hx
      · exact hgranted _ _ _ (h.checks _ x hx htype)
      · obtain ⟨number, hheld, hfixed⟩ := hreacts.sent hn hx htype
        rw [Side.other_other]
        refine ⟨number, Ever.now hrun ?_, ?_⟩
        · rw [Duplex.react_state_self]
          exact hheld
        · rw [Duplex.react_state_self, Duplex.react_told_self]
          exact hfixed
    · rw [Duplex.react_link_ne _ _ _ hi] at hx
      exact hgranted _ _ _ (h.checks i x hx htype)
  · intro i t ht htype
    by_cases hi : i = j
    · subst hi
      rw [Duplex.react_told_self] at ht
      rcases List.mem_append.mp ht with ht | ht
      · exact hgranted _ _ _ (h.answers i t ht htype)
      · exact hgranted _ _ _ (hanswer t ht htype)
    · rw [Duplex.react_told_ne _ _ _ hi] at ht
      exact hgranted _ _ _ (h.answers i t ht htype)

theorem paired_run (hrun : run step (init master) as = some w) : Paired master as w := by
  refine run_history paired_init ?_ hrun
  intro as w a w' hr h hs
  have hr' := run_snoc hr hs
  cases Duplex.step_cases hs with
  | act hact =>
    rename_i i c r
    obtain rfl := Option.some.inj hact
    exact h.react (call_reacts c) hr' fun t ht htype => absurd htype (call_answer ht)
  | deliver hlink hreceive =>
    rename_i i place x rest r
    refine (h.rest hlink).react (onDataReceived_reacts hreceive) hr' ?_
    intro t ht htype
    obtain ⟨hx, htag, hid⟩ := onDataReceived_answer hreceive ht htype
    rw [← htag, ← hid]
    exact h.checks i x (hlink ▸ List.mem_cons_self) hx

/-- The client gets its channel. -/
def Allocated (t : Answer) : Prop :=
  t.response.mResponseType = .allocateChannel ∧ t.response.mErrorCode = .success

/-- **Negotiators agree on channel ids.** Over every run of two negotiators, one of them the
master, with whatever requests, disconnections and timeouts: a client is only told that it has
got channel `c` for its tag if the other negotiator has held an allocation processor for the
complementing tag with its own client's request and the id `c`, and that processor does not
answer with another id. -/
theorem pairing_agreed (master : Side) (as : List Action) (w : Negotiators)
    (hrun : run step (init master) as = some w) (i : Side) (t : Answer) (ht : t ∈ w.told i)
    (hallocated : Allocated t) :
    ∃ number,
      Ever step (init master) as (fun v => ∃ p ∈ (v.state i.other).mProcessors, p.number = number
        ∧ (∃ mIsMaster mGotAllocateRequest, p.kind = .allocation mIsMaster mGotAllocateRequest)
        ∧ p.mRequestType = .unknown ∧ p.mTag = getComplementingTag t.response.mTag
        ∧ p.mChannelID = t.response.mChannelID)
      ∧ ∀ t' ∈ w.told i.other, t'.number = number →
          t'.response.mTag = getComplementingTag t.response.mTag
            ∧ t'.response.mChannelID = t.response.mChannelID := by
  obtain ⟨number, ⟨bs, cs, v, has, hv, p, hp, hnumber, hc⟩, hfixed⟩ :=
    (paired_run hrun).answers i t ht hallocated.1
  exact ⟨number, ⟨bs, cs, v, has, hv, p, hp, hnumber, hc.kind, hc.request, hc.tag, hc.id⟩,
    hfixed.answered⟩

/-- Both clients ask, and every notification is delivered. -/
def pairRequests : List Action :=
  [.act .a (.processClientRequest ⟨['n', '#', 'S', 'E', 'R', 'V', 'E', 'R'], 0, .allocateChannel⟩
      ⟨3, 7⟩ 0),
    .act .b (.processClientRequest ⟨['n', '#', 'C', 'L', 'I', 'E', 'N', 'T'], 0, .allocateChannel⟩
      ⟨4, 9⟩ 0),
    .deliver .b 0, .deliver .a 0, .deliver .a 0, .deliver .b 0]

/-- The answer to the client of `b`. -/
def pairAnswer : Answer :=
  ⟨0, ⟨4, 9⟩, ⟨['n', '#', 'C', 'L', 'I', 'E', 'N', 'T'], 100, .allocateChannel, .success⟩⟩

theorem pairing_agreed_pairRequests : ∃ w number, run step (init .a) pairRequests = some w
    ∧ (∃ t ∈ w.told .a, t.response.mChannelID = 100)
    ∧ ∀ t' ∈ w.told .a, t'.number = number → t'.response.mChannelID = 100 := by
  have hrun : ∃ w, run step (init .a) pairRequests = some w ∧ pairAnswer ∈ w.told .b
      ∧ ∃ t ∈ w.told .a, t.response.mChannelID = 100 :=
    ⟨_, rfl, by decide, by decide⟩
  obtain ⟨w, hr, ht, hpeer⟩ := hrun
  obtain ⟨number, -, hsame⟩ :=
    pairing_agreed .a pairRequests w hr .b pairAnswer ht ⟨rfl, rfl⟩
  exact ⟨w, number, hr, hpeer, fun t' ht' hnumber => (hsame t' ht' hnumber).2⟩

end Negotiators

end IviLink.ChannelSupervisor
