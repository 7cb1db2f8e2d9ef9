import IviLink.Proof.Pairing

/-!
# Channel ids of the master

The master gives the next free id to every allocation it begins and moves the free id
on only when the map records one, so two allocations begun before that share it. The
negotiator is observed over its calls and over whatever notifications come; beside it
stand the allocations that have been answered and not been deallocated.

The free id is never below an id that is out. As long as a request that begins an
allocation finds all ids of others below the free one, or moves it on itself, no two
of them are the same.
-/

namespace IviLink.ChannelSupervisor

open IviLink.Lib

/-- Tags of different channels. -/
def Apart (tag tag' : Tag) : Prop := tag ≠ tag' ∧ tag ≠ getComplementingTag tag'

instance (tag tag' : Tag) : Decidable (Apart tag tag') :=
  inferInstanceAs (Decidable (_ ∧ _))

theorem Apart.symm {tag tag' : Tag} (h : Apart tag tag') : Apart tag' tag := by
  refine ⟨h.1.symm, ?_⟩
  rintro rfl
  exact h.2 (getComplementingTag_getComplementingTag tag).symm

/-! ## The master and what it has given out -/

/-- What an allocation processor with its client's request carries. -/
def Processor.live (p : Processor) : List (Tag × UInt32) :=
  match p.kind with
  | .allocation _ _ => if p.mRequestType = .unknown then [(p.mTag, p.mChannelID)] else []
  | _ => []

/-- The master and the allocations that are completed and not deallocated. -/
structure Ledger where
  negotiator : Negotiator
  completed : List (Tag × UInt32)

namespace Ledger

def init : Ledger := ⟨.init true, []⟩

/-- The allocations that are in progress, or completed and not deallocated. -/
def live (l : Ledger) : List (Tag × UInt32) :=
  l.negotiator.mProcessors.flatMap Processor.live ++ l.completed

inductive Event
  | call (c : Negotiator.Call)
  /-- Any notification of the other side. -/
  | receive (place : Nat) (x : Notification)

/-- The allocation a response completes. -/
def completes (t : Answer) : Option (Tag × UInt32) :=
  if t.response.mResponseType = .allocateChannel then
    some (t.response.mTag, t.response.mChannelID)
  else none

/-- Whether the event deallocates the channel. -/
def deallocates (channelID : UInt32) : Event → Bool
  | .call (.processClientRequest r _ _) =>
    r.mRequestType = .deallocateChannel ∧ r.mChannelID = channelID
  | _ => false

/-- The negotiator has reacted. -/
def record (l : Ledger) (e : Event) (r : Reaction Negotiator Notification Answer) : Ledger where
  negotiator := r.state
  completed := (l.completed ++ r.told.filterMap completes).filter fun x => !deallocates x.2 e

def step (l : Ledger) : Event → Option Ledger
  | .call c => some (l.record (.call c) (l.negotiator.call c))
  | .receive place x =>
    match l.negotiator.onDataReceived place x with
    | none => none
    | some r => some (l.record (.receive place x) r)

/-- No two allocations for different channels carry the same id. -/
def Exclusive (l : Ledger) : Prop :=
  ∀ x ∈ l.live, ∀ y ∈ l.live, Apart x.1 y.1 → x.2 ≠ y.2

/-- No request carries the last of all ids, and one that begins an allocation asks for an id
that is not below the free one, or finds all ids of other channels below it. -/
def Clear (l : Ledger) : Event → Prop
  | .call (.processClientRequest r _ _) =>
    r.mChannelID ≠ Map.lastId
      ∧ (r.mRequestType = .allocateChannel →
        l.negotiator.map.m_FreeChannelId ≤ r.mChannelID
          ∨ ∀ x ∈ l.live, Apart x.1 r.mTag → x.2 < l.negotiator.map.m_FreeChannelId)
  | _ => True

instance (l : Ledger) : ∀ e, Decidable (Clear l e)
  | .call (.processClientRequest _ _ _) => inferInstanceAs (Decidable (_ ∧ (_ → _ ∨ _)))
  | .call (.sendClientDisconnected _) => isTrue trivial
  | .call (.processLocalClientDisconnected _) => isTrue trivial
  | .call (.sendInvalidateTimedoutRequest _ _) => isTrue trivial
  | .call (.invalidateLocalTimedOutRequest _ _) => isTrue trivial
  | .call (.invalidateChannelInfo _) => isTrue trivial
  | .receive _ _ => isTrue trivial

end Ledger

/-! ## What a processor does -/

/-- What a processor of the master keeps to. -/
structure Processor.Sound (p : Processor) : Prop where
  /-- An allocation processor is one of the master. -/
  master : ∀ mIsMaster got, p.kind = .allocation mIsMaster got → mIsMaster = true
  /-- Who waits for a check has its client's request. -/
  checked : ∀ mIsMaster got, p.kind = .allocation mIsMaster got →
    p.mNotificationType = .checkMap → p.mRequestType = .unknown
  /-- Who waits for the entry of an id has its client's request. -/
  entered : ∀ got, p.kind = .conAgentAllocationDone got → p.mNotificationType = .mapAddCid →
    p.mRequestType = .unknown
  /-- The id a client has sent is not the last of all. -/
  id : p.kind = .updateChannel ∨ (∃ got, p.kind = .conAgentAllocationDone got) →
    p.mRequestType = .unknown → p.mChannelID ≠ Map.lastId
  /-- An allocation processor waits for no other request. -/
  asked : ∀ mIsMaster got, p.kind = .allocation mIsMaster got →
    p.mRequestType = .unknown ∨ p.mRequestType = .allocateChannel

/-- What a processor's work does to the map and to what is live. -/
structure Kept (p : Processor) (m : Map) (o : Outcome) : Prop where
  /-- The processor keeps to its rules. -/
  sound : o.processor.Sound
  /-- The free id does not go back. -/
  free : m.m_FreeChannelId ≤ o.map.m_FreeChannelId
  /-- A completed allocation was in progress. -/
  told : ∀ t ∈ o.told, ∀ x, Ledger.completes t = some x → x ∈ p.live

section Kept

variable {p : Processor} {m : Map} {x : Notification} {r : Request} {o : Outcome}

theorem live_allocation {mIsMaster got : Bool} (hkind : p.kind = .allocation mIsMaster got) :
    p.live = if p.mRequestType = .unknown then [(p.mTag, p.mChannelID)] else [] := by
  rw [Processor.live, hkind]

theorem mem_live {y : Tag × UInt32} (hy : y ∈ p.live) : y = (p.mTag, p.mChannelID) := by
  rw [Processor.live] at hy
  split at hy
  · split at hy
    · exact List.mem_singleton.mp hy
    · exact absurd hy List.not_mem_nil
  · exact absurd hy List.not_mem_nil

theorem live_of_other (h : ∀ mIsMaster got, p.kind ≠ .allocation mIsMaster got) : p.live = [] := by
  rw [Processor.live]
  split
  · rename_i mIsMaster got hkind
    exact absurd hkind (h mIsMaster got)
  · rfl

theorem completes_response {type : ResponseType} {t : Answer} {y : Tag × UInt32}
    (ht : t ∈ p.response type) (hy : Ledger.completes t = some y) :
    type = .allocateChannel ∧ y = (p.mTag, p.mChannelID) := by
  rw [mem_response ht, Ledger.completes] at hy
  split at hy
  · rename_i htype
    exact ⟨htype, (Option.some.inj hy).symm⟩
  · exact absurd hy (by simp)

theorem completes_update {sent : List Notification} {t : Answer}
    (ht : t ∈ (UpdateChannelProcessor.updateMapAndSendResponse p m sent).told)
    (y : Tag × UInt32) : Ledger.completes t ≠ some y := by
  rw [mem_updateMapAndSendResponse ht]
  simp [Ledger.completes]

theorem allocation_onRemoteNotification_kept {mIsMaster got : Bool}
    (hkind : p.kind = .allocation mIsMaster got) (hs : p.Sound)
    (hfit : p.mNotificationType = x.mNotificationType)
    (ho : AllocationProcessor.onRemoteNotification p mIsMaster m x = some o) :
    Kept p m o ∧ o.processor.live ⊆ p.live := by
  obtain rfl := hs.master mIsMaster got hkind
  rw [AllocationProcessor.onRemoteNotification] at ho
  split at ho
  · rename_i hx
    dsimp only at ho
    split at ho
    · rename_i hreq
      obtain rfl := Option.some.inj ho
      have hwait : p.mNotificationType ≠ .checkMap := by
        rw [hfit, hx]
        simp
      refine ⟨⟨⟨?_, ?_, by simp, by simp, fun _ _ _ => hs.asked true got hkind⟩,
        UInt32.le_refl _, by simp⟩, ?_⟩
      · intro b g hk
        exact (Kind.allocation.inj hk).1.symm
      · intro _ _ _ hcheck
        exact absurd hcheck hwait
      · rw [live_allocation rfl, if_neg hreq]
        exact List.nil_subset _
    · rename_i hreq
      obtain rfl := Option.some.inj ho
      refine ⟨⟨⟨?_, fun _ _ _ _ => not_not.mp hreq, by simp, by simp,
        fun _ _ _ => hs.asked true got hkind⟩, UInt32.le_refl _, by simp⟩, ?_⟩
      · intro b g hk
        exact (Kind.allocation.inj hk).1.symm
      · rw [live_allocation rfl, live_allocation hkind, if_pos (not_not.mp hreq),
          if_pos (not_not.mp hreq)]
        exact List.Subset.refl _
  · rename_i hx
    have hreq := hs.checked true got hkind (hfit.trans hx)
    split at ho
    · obtain rfl := Option.some.inj ho
      refine ⟨⟨⟨hs.master, by simp, by simp, by simp [hkind], hs.asked⟩, UInt32.le_refl _, ?_⟩, ?_⟩
      · intro t ht y hy
        rw [(completes_response ht hy).2, live_allocation hkind, if_pos hreq]
        exact List.mem_singleton_self _
      · rw [live_allocation (p := { p with mNotificationType := .unknown }) hkind,
          live_allocation hkind]
        exact List.Subset.refl _
    · exact absurd ho (by simp)
  · exact absurd ho (by simp)

theorem conAgent_onRemoteNotification_kept {got : Bool}
    (hkind : p.kind = .conAgentAllocationDone got) (hs : p.Sound)
    (hfit : p.mNotificationType = x.mNotificationType)
    (ho : ConAgentAllocationDoneProcessor.onRemoteNotification p got m x = some o) :
    Kept p m o ∧ o.processor.live ⊆ p.live := by
  rw [ConAgentAllocationDoneProcessor.onRemoteNotification] at ho
  split at ho
  · rename_i hx
    have hwait : p.mNotificationType ≠ .mapAddCid := by
      rw [hfit, hx]
      simp
    split at ho
    · exact absurd ho (by simp)
    · dsimp only at ho
      split at ho
      · rename_i hreq
        obtain rfl := Option.some.inj ho
        refine ⟨⟨⟨by simp, by simp, ?_, fun _ hun => absurd hun hreq, by simp⟩,
          UInt32.le_refl _, by simp⟩, ?_⟩
        · intro _ _ hadd
          exact absurd hadd hwait
        · rw [live_of_other (by simp)]
          exact List.nil_subset _
      · rename_i hreq
        split at ho
        · obtain rfl := Option.some.inj ho
          refine ⟨⟨⟨by simp, by simp, fun _ _ _ => not_not.mp hreq, ?_, by simp⟩,
            UInt32.le_refl _, by simp⟩, ?_⟩
          · intro _ hun
            exact hs.id (.inr ⟨got, hkind⟩) hun
          · rw [live_of_other (by simp)]
            exact List.nil_subset _
        · exact absurd ho (by simp)
  · rename_i hx
    have hreq := hs.entered got hkind (hfit.trans hx)
    split at ho
    · obtain rfl := Option.some.inj ho
      have hid := hs.id (.inr ⟨got, hkind⟩) hreq
      refine ⟨⟨⟨by simp [hkind], by simp, by simp, fun _ _ => hid, by simp [hkind]⟩,
        Map.addChannelInfo_free _ hid, ?_⟩, ?_⟩
      · intro t ht y hy
        exact absurd (completes_response ht hy).1 (by simp)
      · rw [live_of_other (by simp [hkind])]
        exact List.nil_subset _
    · exact absurd ho (by simp)
  · exact absurd ho (by simp)

theorem update_onRemoteNotification_kept (hkind : p.kind = .updateChannel) (hs : p.Sound) :
    Kept p m (UpdateChannelProcessor.onRemoteNotification p m x)
      ∧ (UpdateChannelProcessor.onRemoteNotification p m x).processor.live ⊆ p.live := by
  rw [UpdateChannelProcessor.onRemoteNotification]
  dsimp only
  split
  · rename_i hfin
    have hreq : p.mRequestType = .unknown := by simpa [Processor.isFinished, hkind] using hfin
    have hid := hs.id (.inl hkind) hreq
    refine ⟨⟨⟨by simp [UpdateChannelProcessor.updateMapAndSendResponse, hkind],
      by simp [UpdateChannelProcessor.updateMapAndSendResponse],
      by simp [UpdateChannelProcessor.updateMapAndSendResponse], fun _ _ => hid,
      by simp [UpdateChannelProcessor.updateMapAndSendResponse, hkind]⟩,
      Map.updateChannelInfo_free _ hid, ?_⟩, ?_⟩
    · intro t ht y hy
      exact absurd hy (completes_update ht y)
    · rw [live_of_other (by simp [UpdateChannelProcessor.updateMapAndSendResponse, hkind])]
      exact List.nil_subset _
  · rename_i hfin
    have hreq : p.mRequestType ≠ .unknown := by simpa [Processor.isFinished, hkind] using hfin
    refine ⟨⟨⟨by simp [hkind], by simp, by simp, fun _ hun => absurd hun hreq, by simp [hkind]⟩,
      UInt32.le_refl _, by simp⟩, ?_⟩
    rw [live_of_other (by simp [hkind])]
    exact List.nil_subset _

/-- On a notification that fits the processor nothing comes to life. -/
theorem onRemoteNotification_kept (hs : p.Sound)
    (hfit : p.kind ≠ .deallocation → p.mNotificationType = x.mNotificationType)
    (ho : p.onRemoteNotification m x = some o) : Kept p m o ∧ o.processor.live ⊆ p.live := by
  have key : Kept
        { p with
          mRemoteClientID := x.mClientID
          mRemoteRequestID := x.mRequestID } m o ∧ o.processor.live ⊆ p.live := by
    have hs' : Processor.Sound
        { p with
          mRemoteClientID := x.mClientID
          mRemoteRequestID := x.mRequestID } := ⟨hs.master, hs.checked, hs.entered, hs.id, hs.asked⟩
    rw [Processor.onRemoteNotification] at ho
    dsimp only at ho
    split at ho
    · rename_i hkind
      exact allocation_onRemoteNotification_kept hkind hs' (hfit (by simp [hkind])) ho
    · rename_i hkind
      exact conAgent_onRemoteNotification_kept hkind hs' (hfit (by simp [hkind])) ho
    · obtain rfl := Option.some.inj ho
      exact ⟨⟨hs', UInt32.le_refl _, by simp⟩, List.Subset.refl _⟩
    · rename_i hkind
      obtain rfl := Option.some.inj ho
      exact update_onRemoteNotification_kept hkind hs'
  exact ⟨⟨key.1.sound, key.1.free, key.1.told⟩, key.2⟩

/-- A request that begins an allocation brings the next free id to life. -/
theorem onLocalRequest_kept (container : ResponseContainer) (hs : p.Sound)
    (hr : r.mChannelID ≠ Map.lastId) :
    Kept p m (p.onLocalRequest m r container)
      ∧ ∀ y ∈ (p.onLocalRequest m r container).processor.live,
          (∃ mIsMaster got, p.kind = .allocation mIsMaster got)
            ∧ y = (r.mTag, (m.getNextFreeChannelId r.mChannelID).1)
            ∧ (p.onLocalRequest m r container).map = (m.getNextFreeChannelId r.mChannelID).2 := by
  rw [Processor.onLocalRequest]
  dsimp only
  split
  · rename_i mIsMaster got hkind
    obtain rfl := hs.master mIsMaster got hkind
    rw [AllocationProcessor.onLocalRequest]
    dsimp only
    have hfree := Map.getNextFreeChannelId_free (m := m) hr
    split
    · refine ⟨⟨⟨hs.master, by simp, by simp, by simp [hkind], fun _ _ _ => .inl rfl⟩,
        hfree, by simp⟩, ?_⟩
      intro y hy
      exact ⟨⟨true, got, hkind⟩, mem_live hy, rfl⟩
    · refine ⟨⟨⟨hs.master, fun _ _ _ _ => rfl, by simp [hkind], by simp [hkind],
        fun _ _ _ => .inl rfl⟩, hfree, by simp⟩, ?_⟩
      intro y hy
      exact ⟨⟨true, got, hkind⟩, mem_live hy, rfl⟩
  · rename_i got hkind
    rw [ConAgentAllocationDoneProcessor.onLocalRequest]
    dsimp only
    split
    · refine ⟨⟨⟨by simp [hkind], by simp, fun _ _ _ => rfl, fun _ _ => hr, by simp [hkind]⟩,
        UInt32.le_refl _, by simp⟩, ?_⟩
      rw [live_of_other (by simp [hkind])]
      exact fun y hy => absurd hy List.not_mem_nil
    · refine ⟨⟨⟨by simp [hkind], by simp [hkind], fun _ _ _ => rfl, fun _ _ => hr,
        by simp [hkind]⟩, UInt32.le_refl _, by simp⟩, ?_⟩
      rw [live_of_other (by simp [hkind])]
      exact fun y hy => absurd hy List.not_mem_nil
  · rename_i hkind
    rw [DeallocationProcessor.onLocalRequest]
    dsimp only
    refine ⟨⟨⟨by simp [hkind], by simp [hkind], by simp [hkind], by simp [hkind],
      by simp [hkind]⟩, by simp, by simp⟩, ?_⟩
    rw [live_of_other (by simp [hkind])]
    exact fun y hy => absurd hy List.not_mem_nil
  · rename_i hkind
    rw [UpdateChannelProcessor.onLocalRequest]
    dsimp only
    split
    · refine ⟨⟨⟨?_, ?_, ?_, fun _ _ => hr, ?_⟩, Map.updateChannelInfo_free _ hr, ?_⟩, ?_⟩
      · simp [UpdateChannelProcessor.updateMapAndSendResponse, hkind]
      · simp [UpdateChannelProcessor.updateMapAndSendResponse, hkind]
      · simp [UpdateChannelProcessor.updateMapAndSendResponse, hkind]
      · simp [UpdateChannelProcessor.updateMapAndSendResponse, hkind]
      · intro t ht y hy
        exact absurd hy (completes_update ht y)
      · rw [live_of_other (by simp [UpdateChannelProcessor.updateMapAndSendResponse, hkind])]
        exact fun y hy => absurd hy List.not_mem_nil
    · refine ⟨⟨⟨by simp [hkind], by simp [hkind], by simp [hkind], fun _ _ => hr,
        by simp [hkind]⟩, UInt32.le_refl _, by simp⟩, ?_⟩
      rw [live_of_other (by simp [hkind])]
      exact fun y hy => absurd hy List.not_mem_nil

end Kept

/-! ## What the negotiator does -/

namespace Negotiator

variable {n n' : Negotiator} {found : Processor → Bool} {type : NotificationType} {p : Processor}

/-- The master, with processors that keep to their rules. -/
structure IsMaster (n : Negotiator) : Prop where
  master : n.mIsMaster = true
  sound : ∀ p ∈ n.mProcessors, p.Sound

/-- What an allocation processor of the negotiator carries. -/
def Live (n : Negotiator) (x : Tag × UInt32) : Prop := ∃ p ∈ n.mProcessors, x ∈ p.live

theorem createProcessorForType_sound (hm : n.mIsMaster = true)
    (h : n.createProcessorForType type = some p) :
    p.Sound ∧ p.live = [] ∧ (p.kind ≠ .deallocation → p.mNotificationType = type)
      ∧ ∀ mIsMaster got, p.kind = .allocation mIsMaster got → type = .allocate := by
  cases type with
  | allocate =>
    obtain rfl := Option.some.inj h
    refine ⟨⟨?_, by simp [Processor.new], by simp [Processor.new], by simp [Processor.new],
      fun _ _ _ => .inr rfl⟩, rfl, fun _ => rfl, fun _ _ _ => rfl⟩
    intro mIsMaster got hkind
    exact (Kind.allocation.inj hkind).1 ▸ hm
  | caAllocate =>
    obtain rfl := Option.some.inj h
    exact ⟨⟨by simp [Processor.new], by simp [Processor.new], by simp [Processor.new],
      by simp [Processor.new], by simp [Processor.new]⟩, rfl, fun _ => rfl,
      by simp [Processor.new]⟩
  | updateChannelInfo =>
    obtain rfl := Option.some.inj h
    exact ⟨⟨by simp [Processor.new], by simp [Processor.new], by simp [Processor.new],
      by simp [Processor.new], by simp [Processor.new]⟩, rfl, fun _ => rfl,
      by simp [Processor.new]⟩
  | deallocate =>
    obtain rfl := Option.some.inj h
    exact ⟨⟨by simp [Processor.new], by simp [Processor.new], by simp [Processor.new],
      by simp [Processor.new], by simp [Processor.new]⟩, rfl, fun hkind => absurd rfl hkind,
      by simp [Processor.new]⟩
  | unknown | checkMap | mapAddCid | clientDisconnected | invalidateTimedoutRequest =>
    exact absurd h (by simp [createProcessorForType])

/-- Making a processor brings nothing to life. -/
theorem Obtained.master (h : n.Obtained found type p n') (hn : n.IsMaster) :
    n'.IsMaster ∧ n'.map = n.map ∧ p ∈ n'.mProcessors ∧ ∀ x, n'.Live x → n.Live x := by
  cases h with
  | found hp _ => exact ⟨hn, rfl, hp, fun _ hx => hx⟩
  | made hnew =>
    obtain ⟨hsound, hlive, -, -⟩ := createProcessorForType_sound hn.master hnew
    refine ⟨⟨hn.master, ?_⟩, rfl, mem_insert.mpr (.inl rfl), ?_⟩
    · intro q hq
      rcases mem_insert.mp hq with rfl | hq
      · exact hsound
      · exact hn.sound q hq
    · rintro x ⟨q, hq, hx⟩
      rcases mem_insert.mp hq with rfl | hq
      · rw [hlive] at hx
        exact absurd hx List.not_mem_nil
      · exact ⟨q, hq, hx⟩

/-- What a reaction of the master does; `new` is what it may bring to life. -/
structure Advances (n : Negotiator) (new : Tag × UInt32 → Prop)
    (r : Reaction Negotiator Notification Answer) : Prop where
  master : r.state.IsMaster
  /-- The free id does not go back. -/
  free : n.map.m_FreeChannelId ≤ r.state.map.m_FreeChannelId
  live : ∀ x, r.state.Live x → n.Live x ∨ new x
  /-- A completed allocation was in progress. -/
  told : ∀ t ∈ r.told, ∀ x, Ledger.completes t = some x → n.Live x

theorem settle_advances {o : Outcome} {new : Tag × UInt32 → Prop}
    (h : n.Obtained found type p n') (hn : n.IsMaster) (ho : Kept p n'.map o)
    (hlive : ∀ x ∈ o.processor.live, x ∈ p.live ∨ new x) : n.Advances new (n'.settle o) := by
  obtain ⟨hn', hmap, hp, hback⟩ := h.master hn
  refine ⟨⟨hn'.master, ?_⟩, hmap ▸ ho.free, ?_, ?_⟩
  · intro q hq
    rcases mem_settle hq with ⟨hq, -⟩ | ⟨rfl, -⟩
    · exact hn'.sound q hq
    · exact ho.sound
  · rintro x ⟨q, hq, hx⟩
    rcases mem_settle hq with ⟨hq, -⟩ | ⟨rfl, -⟩
    · exact .inl (hback x ⟨q, hq, hx⟩)
    · exact (hlive x hx).imp (fun hx => hback x ⟨p, hp, hx⟩) id
  · intro t ht x hx
    exact hback x ⟨p, hp, ho.told t ht x hx⟩

/-- Deleting processors brings nothing to life. -/
theorem advances_of_subset {procs : List Processor} {new : Tag × UInt32 → Prop}
    {sent : List Notification} {m : Map} (hn : n.IsMaster) (hsub : procs ⊆ n.mProcessors)
    (hm : m.m_FreeChannelId = n.map.m_FreeChannelId) :
    n.Advances new
      ⟨{ n with
          mProcessors := procs
          map := m }, sent, []⟩ :=
  ⟨⟨hn.master, fun p hp => hn.sound p (hsub hp)⟩, UInt32.le_of_eq hm.symm,
    fun _ ⟨p, hp, hx⟩ => .inl ⟨p, hsub hp, hx⟩, fun _ ht => absurd ht List.not_mem_nil⟩

theorem advances_nothing {new : Tag × UInt32 → Prop} {sent : List Notification}
    (hn : n.IsMaster) : n.Advances new ⟨n, sent, []⟩ :=
  advances_of_subset hn (List.Subset.refl _) rfl

/-- What a request of a client may bring to life. -/
def Begun (n : Negotiator) (r : Request) (m : Map) (x : Tag × UInt32) : Prop :=
  r.mRequestType = .allocateChannel
    ∧ x = (r.mTag, (n.map.getNextFreeChannelId r.mChannelID).1)
    ∧ m = (n.map.getNextFreeChannelId r.mChannelID).2

theorem processClientRequest_advances (hn : n.IsMaster) {r : Request}
    {container : ResponseContainer} {place : Nat} (hr : r.mChannelID ≠ Map.lastId) :
    n.Advances (n.Begun r (n.processClientRequest r container place).state.map)
      (n.processClientRequest r container place) := by
  rw [processClientRequest]
  split
  · exact advances_nothing hn
  · rename_i hknown
    split
    · exact advances_nothing hn
    · rename_i p n' hobtain
      have hobtained := obtainProcessor_cases hobtain
      obtain ⟨hn', hmap, hp, -⟩ := hobtained.master hn
      obtain ⟨hkept, hlive⟩ := onLocalRequest_kept (m := n'.map) container (hn'.sound p hp) hr
      refine settle_advances hobtained hn hkept ?_
      intro x hx
      obtain ⟨⟨mIsMaster, got, hkind⟩, hx, hmap'⟩ := hlive x hx
      refine .inr ⟨?_, hmap ▸ hx, hmap ▸ hmap'⟩
      cases hobtained with
      | found _ hfound =>
        have hreq : p.mRequestType = r.mRequestType := (of_decide_eq_true hfound).1
        rcases (hn'.sound p hp).asked mIsMaster got hkind with hun | hasked
        · rw [← hreq, hun] at hknown
          exact absurd rfl hknown
        · exact hreq.symm.trans hasked
      | made hnew =>
        have htype := (createProcessorForType_sound hn.master hnew).2.2.2 mIsMaster got hkind
        cases hr' : r.mRequestType with
        | allocateChannel => rfl
        | unknown | caAllocationDone | deallocateChannel | updateChannelInfo
        | invalidateTimedoutRequest =>
          rw [hr'] at htype
          exact absurd htype (by simp [requestTypeToNotification])

theorem onDataReceived_advances (hn : n.IsMaster) {place : Nat} {x : Notification}
    {r : Reaction Negotiator Notification Answer} (h : n.onDataReceived place x = some r) :
    n.Advances (fun _ => False) r := by
  rw [onDataReceived] at h
  split at h
  · obtain rfl := Option.some.inj h
    exact advances_of_subset hn List.filter_sublist.subset rfl
  · obtain rfl := Option.some.inj h
    rw [invalidateRemoteTimedOutRequest]
    split
    · exact advances_nothing hn
    · exact advances_of_subset hn List.eraseP_subset rfl
  · rw [processTubeNotification] at h
    split at h
    · exact Option.some.inj h ▸ advances_nothing hn
    · split at h
      · exact Option.some.inj h ▸ advances_nothing hn
      · rename_i p n' hobtain
        obtain ⟨o, ho, rfl⟩ := Option.map_eq_some_iff.mp h
        have hobtained := obtainProcessor_cases hobtain
        obtain ⟨hn', -, hp, -⟩ := hobtained.master hn
        have hfit : p.kind ≠ .deallocation → p.mNotificationType = x.mNotificationType := by
          intro hkind
          cases hobtained with
          | found _ hfound => exact (of_decide_eq_true hfound).1
          | made hnew => exact (createProcessorForType_sound hn.master hnew).2.2.1 hkind
        obtain ⟨hkept, hlive⟩ := onRemoteNotification_kept (hn'.sound p hp) hfit ho
        exact settle_advances hobtained hn hkept fun y hy => .inl (hlive hy)

end Negotiator

/-! ## Exclusive ids -/

namespace Ledger

open Negotiator

variable {l l' : Ledger} {e : Event}

/-- The invariant: besides the claim itself, no id that is out is above the free one. -/
structure Ordered (l : Ledger) : Prop where
  master : l.negotiator.IsMaster
  bound : ∀ x ∈ l.live, x.2 ≤ l.negotiator.map.m_FreeChannelId
  exclusive : l.Exclusive

theorem mem_live_iff {x : Tag × UInt32} :
    x ∈ l.live ↔ l.negotiator.Live x ∨ x ∈ l.completed := by
  rw [live, List.mem_append, List.mem_flatMap]
  rfl

theorem ordered_init : Ordered init where
  master := ⟨rfl, by simp [init, Negotiator.init]⟩
  bound := by simp [live, init, Negotiator.init]
  exclusive := by simp [Exclusive, live, init, Negotiator.init]

variable {new : Tag × UInt32 → Prop} {r : Reaction Negotiator Notification Answer}

/-- What is live afterwards was so before, or is new. -/
theorem mem_live_record (h : l.negotiator.Advances new r) {x : Tag × UInt32}
    (hx : x ∈ (l.record e r).live) : x ∈ l.live ∨ new x := by
  rcases mem_live_iff.mp hx with hx | hx
  · exact (h.live x hx).imp (fun hx => mem_live_iff.mpr (.inl hx)) id
  · obtain ⟨hx, -⟩ := List.mem_filter.mp hx
    rcases List.mem_append.mp hx with hx | hx
    · exact .inl (mem_live_iff.mpr (.inr hx))
    · obtain ⟨t, ht, hx⟩ := List.mem_filterMap.mp hx
      exact .inl (mem_live_iff.mpr (.inl (h.told t ht x hx)))

/-- One reaction: what is new has the free id, and this is above the ids of all others. -/
theorem Ordered.record (h : Ordered l) (ha : l.negotiator.Advances new r)
    (hfree : ∀ x, new x → x.2 = r.state.map.m_FreeChannelId)
    (habove : ∀ x, new x → ∀ y ∈ l.live, Apart y.1 x.1 → y.2 < r.state.map.m_FreeChannelId)
    (hone : ∀ x y, new x → new y → x = y) : Ordered (l.record e r) := by
  have hnew : ∀ x y, new x → y ∈ l.live → Apart y.1 x.1 → y.2 ≠ x.2 := by
    intro x y hx hy hxy heq
    have hlt := habove x hx y hy hxy
    rw [heq, hfree x hx] at hlt
    exact UInt32.lt_irrefl _ hlt
  refine ⟨ha.master, ?_, ?_⟩
  · intro x hx
    rcases mem_live_record ha hx with hx | hx
    · exact UInt32.le_trans (h.bound x hx) ha.free
    · exact UInt32.le_of_eq (hfree x hx)
  · intro x hx y hy hxy
    rcases mem_live_record ha hx with hx | hx
    · rcases mem_live_record ha hy with hy | hy
      · exact h.exclusive x hx y hy hxy
      · exact hnew y x hy hx hxy
    · rcases mem_live_record ha hy with hy | hy
      · exact (hnew x y hx hy hxy.symm).symm
      · obtain rfl := hone x y hx hy
        exact absurd rfl hxy.1

theorem ordered_step (h : Ordered l) (hc : Clear l e) (hs : step l e = some l') : Ordered l' := by
  have hnothing : ∀ r : Reaction Negotiator Notification Answer,
      l.negotiator.Advances (fun _ => False) r → Ordered (l.record e r) := by
    intro r ha
    exact h.record ha (fun _ hx => hx.elim) (fun _ hx => hx.elim) (fun _ _ hx => hx.elim)
  cases e with
  | call c =>
    obtain rfl := Option.some.inj hs
    cases c with
    | processClientRequest r container place =>
      obtain ⟨hlast, hclear⟩ := hc
      refine h.record (processClientRequest_advances h.master hlast) ?_ ?_ ?_
      · rintro x ⟨-, rfl, hmap⟩
        exact Map.getNextFreeChannelId_fst.trans (congrArg Map.m_FreeChannelId hmap.symm)
      · rintro x ⟨hreq, rfl, hmap⟩ y hy hxy
        have hfree := congrArg Map.m_FreeChannelId hmap
        show y.2 < (l.negotiator.processClientRequest r container place).state.map.m_FreeChannelId
        rw [hfree]
        rcases hclear hreq with hle | hbelow
        · exact UInt32.lt_of_le_of_lt (h.bound y hy) (Map.getNextFreeChannelId_lt hle hlast)
        · exact UInt32.lt_of_lt_of_le (hbelow y hy hxy) (Map.getNextFreeChannelId_free hlast)
      · rintro x y ⟨-, rfl, -⟩ ⟨-, rfl, -⟩
        rfl
    | sendClientDisconnected dirId => exact hnothing _ (advances_nothing h.master)
    | processLocalClientDisconnected dirId =>
      exact hnothing _ (advances_of_subset h.master List.filter_sublist.subset rfl)
    | sendInvalidateTimedoutRequest dirId id => exact hnothing _ (advances_nothing h.master)
    | invalidateLocalTimedOutRequest dirId id =>
      refine hnothing _ ?_
      rw [call, invalidateLocalTimedOutRequest]
      split
      · exact advances_nothing h.master
      · exact advances_of_subset h.master List.eraseP_subset rfl
    | invalidateChannelInfo channelId =>
      exact hnothing _ (advances_of_subset h.master (List.Subset.refl _)
        (Map.invalidateChannelInfo_free _ channelId))
  | receive place x =>
    rw [step] at hs
    split at hs
    · exact absurd hs (by simp)
    · rename_i r hr
      obtain rfl := Option.some.inj hs
      exact hnothing r (onDataReceived_advances h.master hr)

/-- **Channel ids are exclusive as long as the map keeps up.** Over every run of the master
whose steps are clear, with whatever requests and notifications: two allocations for different
channels that are in progress, or completed and not deallocated, do not carry the same id. -/
theorem exclusive_run (es : List Event) (l : Ledger) (hclear : Along step Clear init es)
    (hrun : run step init es = some l) : l.Exclusive :=
  (run_invariant (fun _ _ _ h hc hs => ordered_step h hc hs) ordered_init hclear hrun).exclusive

/-- A client asks for a channel. -/
def ask (name : Char) (channelID : UInt32) : Event :=
  .call (.processClientRequest
    ⟨[name, '#', 'S', 'E', 'R', 'V', 'E', 'R'], channelID, .allocateChannel⟩ ⟨3, 7⟩ 0)

/-- The second client asks for an id that is not below the free one. -/
theorem exclusive_run_ask : ∃ l, run step init [ask 'm' 0, ask 'n' 100] = some l
    ∧ l.live.length = 2 ∧ l.Exclusive := by
  have hrun : ∃ l, run step init [ask 'm' 0, ask 'n' 100] = some l ∧ l.live.length = 2 :=
    ⟨_, rfl, by decide⟩
  obtain ⟨l, hr, hl⟩ := hrun
  exact ⟨l, hr, hl, exclusive_run _ l (by decide) hr⟩

/-- **Two allocations with the same id**: the second begins before the first is in the map. -/
theorem same_id_twice : ∃ l, run step init [ask 'm' 0, ask 'n' 0] = some l ∧ ¬ l.Exclusive := by
  refine ⟨_, rfl, ?_⟩
  intro h
  exact h (['m', '#', 'S', 'E', 'R', 'V', 'E', 'R'], 100) (by decide)
    (['n', '#', 'S', 'E', 'R', 'V', 'E', 'R'], 100) (by decide) (by decide) rfl

end Ledger

end IviLink.ChannelSupervisor
