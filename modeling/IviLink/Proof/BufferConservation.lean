import IviLink.L1.BufferPools
import Mathlib.Data.List.Perm.Basic

/-!
# No buffer is lost

Every buffer of an end of a channel is in one place: free, queued, or in the hands
of an operation. Each step moves a buffer from one place to another, and the two
mutexes keep an end from being deleted while one of its buffers is in somebody's
hands.

There is one way around them. The thread that receives frames holds a buffer of the
service channel while the stub handles the messages in it, and a message may make
the stub delete the service channel.
-/

namespace IviLink.L1.Pools

open IviLink.Hal IviLink.L0 IviLink.Lib

/-! ## Places -/

/-- The places hold the buffers of the pool, each of them once. -/
structure Kept (places pool : List Nat) : Prop where
  perm : places.Perm pool
  nodup : pool.Nodup
  length : pool.length = QUEUE_SIZE

theorem Kept.move {places places' pool : List Nat} (h : Kept places pool)
    (hmove : places'.Perm places) : Kept places' pool :=
  ⟨hmove.trans h.perm, h.nodup, h.length⟩

theorem kept_new (address : Nat) :
    Kept (List.range' address QUEUE_SIZE) (List.range' address QUEUE_SIZE) :=
  ⟨List.Perm.refl _, List.nodup_range', List.length_range'⟩

/-- What holds the whole pool alone leaves nothing for another place. -/
theorem Kept.rest_nil {places rest pool : List Nat} (h : Kept (places ++ rest) pool)
    (hall : Kept places pool) : rest = [] := by
  have hlen := h.perm.length_eq
  have hlen' := hall.perm.length_eq
  rw [List.length_append] at hlen
  exact List.eq_nil_of_length_eq_zero (by omega)

def addresses (buffers : List Buffer) : List Nat := buffers.map Buffer.address

/-- The queue of the source, if there is one. -/
def SourceSide.queue (side : SourceSide) : List Buffer :=
  match side.agent.mpBufferConsumer with
  | none => []
  | some source => source.mBuffersQueue

/-- Where the buffers of a sending end are. -/
def SourceSide.places (side : SourceSide) : List Nat :=
  side.agent.mBufferQueue ++ (addresses side.queue ++ (addresses side.filling.toList
    ++ (addresses side.released ++ addresses side.flushing)))

/-- Where the buffers of a receiving end are, given those in the hands of the thread that
receives. -/
def TargetSide.places (side : TargetSide) (hands : List Nat) : List Nat :=
  side.mBufferQueue ++ (addresses side.queue ++ hands)

/-- The buffer of the channel that the receiving thread has in its hands. -/
def State.hands (s : State) (channel_id : UInt32) : List Nat :=
  match s.receiving with
  | .copied visited _ buf => if visited = channel_id then [buf.address] else []
  | .inStub visited _ buf _ => if visited = channel_id then [buf.address] else []
  | _ => []

/-- **Every buffer is in exactly one place.** The buffers of an end that was deleted were deleted
with it. -/
structure Conserved (s : State) : Prop where
  sources : ∀ channel_id side, s.sources channel_id = some side → Kept side.places side.pool
  targets : ∀ channel_id side, s.targets channel_id = some side →
    Kept (side.places (s.hands channel_id)) side.pool
  deleted : ∀ d ∈ s.deleted, Kept d.freed d.pool

/-- The step keeps the buffers. -/
def Keeps (s : State) (ev : Event) : Prop := ∀ s', next s ev = some s' → Conserved s'

/-- The service channel is not deleted: not its target, and not its source agent if a buffer was
filled after the queue was flushed. -/
def SparesService (s : State) : Event → Prop
  | .destroy => ∀ side, s.deleting = .transmission CA_SERVICE_CHANNEL →
    s.sources CA_SERVICE_CHANNEL = some side → side.flushing = [] →
      side.filling = none ∧ side.queue = []
  | .closeIncoming => s.deleting ≠ .incoming CA_SERVICE_CHANNEL
  | _ => True

/-! ## What the source does to its queue -/

theorem addresses_append (l l' : List Buffer) :
    addresses (l ++ l') = addresses l ++ addresses l' := List.map_append

theorem addresses_cons (b : Buffer) (l : List Buffer) :
    addresses (b :: l) = b.address :: addresses l := rfl

theorem addresses_nil : addresses [] = [] := rfl

/-- What `OnDispatch` releases was at the front of the queue, and what it cuts stays there. -/
theorem addresses_OnDispatch {source source' : CSource} {quote : Nat} {frame : Frame}
    {released : List Buffer} (h : source.OnDispatch quote = some (source', frame, released)) :
    addresses source.mBuffersQueue
      = addresses released ++ addresses source'.mBuffersQueue := by
  unfold CSource.OnDispatch at h
  cases hq : source.mBuffersQueue with
  | nil =>
    rw [hq] at h
    cases h
  | cons b rest =>
    rw [hq] at h
    have h := Option.some.inj h
    unfold CSource.CopyToFrame at h
    by_cases hfull : b.getFilledSize ≤ quote
    · simp only [if_pos hfull] at h
      cases h
      rfl
    · simp only [if_neg hfull] at h
      cases h
      rfl

/-! ## The invariant -/

/-- A sending end, and who may have its buffers. -/
structure SourceOk (s : State) (channel_id : UInt32) (side : SourceSide) : Prop where
  kept : Kept side.places side.pool
  consumer : ∃ source, side.agent.mpBufferConsumer = some source
  /-- A client's buffer is filled under the stub's mutex. -/
  filling : side.filling ≠ none →
    channel_id = CA_SERVICE_CHANNEL ∨ s.sending = some channel_id
  released : side.released ≠ [] → s.dispatching = some channel_id
  flushing : side.flushing ≠ [] → s.deleting = .transmission channel_id
  /-- Nothing of a client's is queued any more once the source is being deleted. -/
  flushed : s.deleting = .transmission channel_id → channel_id ≠ CA_SERVICE_CHANNEL →
    side.queue = []

/-- The channel whose frame is being received has a target. -/
def ReceivingOk (s : State) : Prop :=
  match s.receiving with
  | .idle => True
  | .copied channel_id _ _ => s.targets channel_id ≠ none
  | .queued channel_id _ => s.targets channel_id ≠ none
  | .inStub channel_id _ _ mpBufferProducer =>
    s.targets channel_id ≠ none ∧ mpBufferProducer = true

/-- What the mutexes are for. -/
structure Locked (s : State) : Prop where
  /-- Channels are deleted by the stub, which then sends for no client. -/
  deleting : s.deleting ≠ .no → s.sending = none ∧ s.handling
  /-- Sources are not deleted while one of them is served. -/
  transmission : ∀ channel_id, s.deleting = .transmission channel_id → s.dispatching = none

structure Inv (s : State) : Prop where
  sources : ∀ channel_id side, s.sources channel_id = some side → SourceOk s channel_id side
  targets : ∀ channel_id side, s.targets channel_id = some side →
    Kept (side.places (s.hands channel_id)) side.pool
  deleted : ∀ d ∈ s.deleted, Kept d.freed d.pool
  receiving : ReceivingOk s
  locked : Locked s

theorem Inv.conserved {s : State} (h : Inv s) : Conserved s :=
  ⟨fun channel_id side hside => (h.sources channel_id side hside).kept, h.targets, h.deleted⟩

theorem inv_initial : Inv State.initial where
  sources := fun _ _ h => by cases h
  targets := fun _ _ h => by cases h
  deleted := fun _ h => absurd h List.not_mem_nil
  receiving := trivial
  locked := ⟨fun h => absurd rfl h, fun _ h => by cases h⟩

/-! ## Frames -/

section Frames

variable {s s' : State}

theorem update_eq_some {β : Type*} {f : UInt32 → Option β} {a c : UInt32} {o : Option β} {d : β}
    (h : Function.update f a o c = some d) : c = a ∧ o = some d ∨ c ≠ a ∧ f c = some d := by
  by_cases hc : c = a
  · rw [hc, Function.update_self] at h
    exact Or.inl ⟨hc, h⟩
  · rw [Function.update_of_ne hc] at h
    exact Or.inr ⟨hc, h⟩

theorem update_ne_none {β : Type*} {f : UInt32 → Option β} {a c : UInt32} {b : β}
    (h : f c ≠ none) : Function.update f a (some b) c ≠ none := by
  by_cases hc : c = a
  · rw [hc, Function.update_self]
    exact Option.some_ne_none b
  · rwa [Function.update_of_ne hc]

/-- The holders of the mutexes stay the same. -/
theorem SourceOk.frame {channel_id : UInt32} {side : SourceSide} (h : SourceOk s channel_id side)
    (hsending : s'.sending = s.sending) (hdispatching : s'.dispatching = s.dispatching)
    (hdeleting : s'.deleting = s.deleting) : SourceOk s' channel_id side where
  kept := h.kept
  consumer := h.consumer
  filling := by rw [hsending]; exact h.filling
  released := by rw [hdispatching]; exact h.released
  flushing := by rw [hdeleting]; exact h.flushing
  flushed := by rw [hdeleting]; exact h.flushed

/-- A step of the sending side. -/
theorem Inv.sendingSide (h : Inv s)
    (hsources : ∀ channel_id side, s'.sources channel_id = some side →
      SourceOk s' channel_id side)
    (htargets : s'.targets = s.targets) (hreceiving : s'.receiving = s.receiving)
    (hdeleted : ∀ d ∈ s'.deleted, Kept d.freed d.pool) (hlocked : Locked s') : Inv s' where
  sources := hsources
  targets := by
    intro channel_id side hside
    rw [htargets] at hside
    have hhands : s'.hands channel_id = s.hands channel_id := by
      unfold State.hands
      rw [hreceiving]
    rw [hhands]
    exact h.targets channel_id side hside
  deleted := hdeleted
  receiving := by
    have hrec := h.receiving
    unfold ReceivingOk at hrec ⊢
    rw [hreceiving, htargets]
    exact hrec
  locked := hlocked

/-- A step that changes one sending end. -/
theorem Inv.source (h : Inv s) {channel_id : UInt32} {side : SourceSide}
    (hsources : s'.sources = Function.update s.sources channel_id (some side))
    (hside : SourceOk s' channel_id side)
    (hothers : ∀ other side, other ≠ channel_id → SourceOk s other side → SourceOk s' other side)
    (htargets : s'.targets = s.targets) (hreceiving : s'.receiving = s.receiving)
    (hdeleted : s'.deleted = s.deleted) (hlocked : Locked s') : Inv s' := by
  refine h.sendingSide ?_ htargets hreceiving ?_ hlocked
  · intro other side' hother
    rw [hsources] at hother
    rcases update_eq_some hother with ⟨rfl, hside'⟩ | ⟨hne, hother⟩
    · cases hside'
      exact hside
    · exact hothers other side' hne (h.sources other side' hother)
  · rw [hdeleted]
    exact h.deleted

/-- A step that changes one receiving end. -/
theorem Inv.target (h : Inv s) {channel_id : UInt32} {side : TargetSide}
    (htargets : s'.targets = Function.update s.targets channel_id (some side))
    (hside : Kept (side.places (s'.hands channel_id)) side.pool)
    (hothers : ∀ other, other ≠ channel_id → s'.hands other = s.hands other)
    (hsources : s'.sources = s.sources) (hsending : s'.sending = s.sending)
    (hdispatching : s'.dispatching = s.dispatching) (hdeleting : s'.deleting = s.deleting)
    (hdeleted : s'.deleted = s.deleted) (hreceiving : ReceivingOk s') (hlocked : Locked s') :
    Inv s' where
  sources := by
    intro other side' hother
    rw [hsources] at hother
    exact (h.sources other side' hother).frame hsending hdispatching hdeleting
  targets := by
    intro other side' hother
    rw [htargets] at hother
    rcases update_eq_some hother with ⟨rfl, hside'⟩ | ⟨hne, hother⟩
    · cases hside'
      exact hside
    · rw [hothers other hne]
      exact h.targets other side' hother
  deleted := by
    rw [hdeleted]
    exact h.deleted
  receiving := hreceiving
  locked := hlocked

/-- The mutexes and the thread that receives are left alone. -/
theorem Locked.frame (h : Locked s) (hsending : s'.sending = s.sending)
    (hdispatching : s'.dispatching = s.dispatching) (hdeleting : s'.deleting = s.deleting)
    (hreceiving : s'.receiving = s.receiving) : Locked s' where
  deleting := by
    unfold State.handling
    rw [hdeleting, hsending, hreceiving]
    exact h.deleting
  transmission := by
    rw [hdeleting, hdispatching]
    exact h.transmission

/-- The stub's mutex is free. -/
theorem Locked.free (hdeleting : s.deleting = .no) : Locked s :=
  ⟨fun h => absurd hdeleting h, fun _ h => by rw [hdeleting] at h; cases h⟩

theorem hands_of_closed (h : ReceivingOk s) {channel_id : UInt32}
    (hnone : s.targets channel_id = none) : s.hands channel_id = [] := by
  unfold ReceivingOk at h
  unfold State.hands
  cases hr : s.receiving with
  | idle => rfl
  | queued visited number => rfl
  | copied visited number buf =>
    rw [hr] at h
    refine if_neg ?_
    rintro rfl
    exact h hnone
  | inStub visited number buf mpBufferProducer =>
    rw [hr] at h
    refine if_neg ?_
    rintro rfl
    exact h.1 hnone

end Frames

/-! ## The sending side -/

section Sending

variable {s s' : State} {channel_id : UInt32}

theorem Inv.openChannel (h : Inv s) (hs : next s (.openChannel channel_id) = some s') :
    Inv s' := by
  simp only [next] at hs
  split at hs
  · next hfree =>
    obtain ⟨⟨hsending, hdeleting⟩, hdispatching⟩ := hfree
    split at hs
    · next hsource htarget =>
      cases hs
      have hhands := hands_of_closed h.receiving htarget
      constructor
      case sources =>
        intro other side hother
        rcases update_eq_some hother with ⟨rfl, hside⟩ | ⟨hne, hother⟩
        · cases hside
          refine ⟨(kept_new s.allocated).move ?_, ⟨_, rfl⟩, fun hf => absurd rfl hf,
            fun hr => absurd rfl hr, fun hf => absurd rfl hf, fun _ _ => rfl⟩
          -- everything is in the free list
          show (List.range' s.allocated QUEUE_SIZE ++ []).Perm _
          rw [List.append_nil]
        · exact (h.sources other side hother).frame rfl rfl rfl
      case targets =>
        intro other side hother
        rcases update_eq_some hother with ⟨rfl, hside⟩ | ⟨hne, hother⟩
        · cases hside
          refine (kept_new (s.allocated + QUEUE_SIZE)).move ?_
          show (List.range' (s.allocated + QUEUE_SIZE) QUEUE_SIZE ++ ([] ++ s.hands other)).Perm _
          rw [hhands, List.append_nil, List.append_nil]
        · exact h.targets other side hother
      case deleted => exact h.deleted
      case receiving =>
        have hrec := h.receiving
        unfold ReceivingOk at hrec ⊢
        cases hr : s.receiving with
        | idle => trivial
        | copied visited number buf =>
          rw [hr] at hrec
          exact update_ne_none hrec
        | queued visited number =>
          rw [hr] at hrec
          exact update_ne_none hrec
        | inStub visited number buf mpBufferProducer =>
          rw [hr] at hrec
          exact ⟨update_ne_none hrec.1, hrec.2⟩
      case locked => exact Locked.free hdeleting
    · cases hs
      exact h
  · cases hs

/-- A free buffer goes into the hands of `fillBuffer`. -/
theorem Inv.fillBuffer (h : Inv s) {data : List UInt8}
    (hs : next s (.fillBuffer channel_id data) = some s') : Inv s' := by
  simp only [next] at hs
  split at hs
  · next hfree =>
    split at hs
    · cases hs
      exact h
    · next side hside =>
      split at hs
      · cases hs
      · cases hs
        exact h
      · cases hs
        exact h
      · next source buf rest hfilling hconsumer hqueue =>
        cases hs
        have hold := h.sources channel_id side hside
        have hown : channel_id = CA_SERVICE_CHANNEL ∨ (if channel_id ≠ CA_SERVICE_CHANNEL
            then some channel_id else s.sending) = some channel_id := by
          by_cases hservice : channel_id = CA_SERVICE_CHANNEL
          · exact Or.inl hservice
          · exact Or.inr (if_pos hservice)
        refine h.source rfl ⟨hold.kept.move ?_, ⟨source, hconsumer⟩, fun _ => hown, hold.released,
          hold.flushing, hold.flushed⟩ ?_ rfl rfl rfl ?_
        · unfold SourceSide.places SourceSide.queue
          simp only [hconsumer, hqueue, hfilling, Option.toList, addresses_cons, addresses_nil,
            List.nil_append, List.cons_append]
          refine List.perm_iff_count.mpr fun a => ?_
          simp only [List.count_append, List.count_cons]
          omega
        · intro other side' hne hok
          refine ⟨hok.kept, hok.consumer, ?_, hok.released, hok.flushing, hok.flushed⟩
          intro hf
          by_cases hservice : channel_id = CA_SERVICE_CHANNEL
          · show _ ∨ (if _ then _ else _) = _
            rw [if_neg (not_not.mpr hservice)]
            exact hok.filling hf
          · -- the stub's mutex was free
            have hsending := (hfree.resolve_left hservice).1
            refine Or.inl ((hok.filling hf).resolve_right ?_)
            rw [hsending]
            exact (Option.some_ne_none other).symm
        · by_cases hservice : channel_id = CA_SERVICE_CHANNEL
          · refine h.locked.frame ?_ rfl rfl rfl
            exact if_neg (not_not.mpr hservice)
          · exact Locked.free (hfree.resolve_left hservice).2
  · cases hs

/-- And from there into the queue of the source. -/
theorem Inv.consumeBuffer (h : Inv s) (hs : next s (.consumeBuffer channel_id) = some s') :
    Inv s' := by
  simp only [next] at hs
  split at hs
  · cases hs
  · next side hside =>
    split at hs
    · next buf source hfilling hconsumer =>
      cases hs
      have hold := h.sources channel_id side hside
      have howner := hold.filling (by rw [hfilling]; exact Option.some_ne_none buf)
      -- while a source is being deleted, no client's buffer is filled
      have hclient : s.deleting ≠ .no → channel_id = CA_SERVICE_CHANNEL := by
        intro hdel
        refine howner.resolve_right ?_
        rw [(h.locked.deleting hdel).1]
        exact (Option.some_ne_none channel_id).symm
      have hflushed : s.deleting = .transmission channel_id → channel_id ≠ CA_SERVICE_CHANNEL →
          (side.consumeBuffer source buf).queue = [] := by
        intro hdel hservice
        exact absurd (hclient (by rw [hdel]; exact Deleting.noConfusion)) hservice
      refine h.source rfl ⟨hold.kept.move ?_, ⟨_, rfl⟩, fun hf => absurd rfl hf, hold.released,
        hold.flushing, hflushed⟩ ?_ rfl rfl rfl ?_
      · unfold SourceSide.places SourceSide.queue SourceSide.consumeBuffer
        simp only [hconsumer, hfilling, CSource.consumeBuffer, Option.toList, addresses_append,
          addresses_cons, addresses_nil, List.append_assoc, List.nil_append]
        exact List.Perm.refl _
      · intro other side' hne hok
        refine ⟨hok.kept, hok.consumer, ?_, hok.released, hok.flushing, hok.flushed⟩
        intro hf
        by_cases hservice : channel_id = CA_SERVICE_CHANNEL
        · show _ ∨ (if _ then _ else _) = _
          rw [if_neg (not_not.mpr hservice)]
          exact hok.filling hf
        · -- the mutex was held for this channel and no other
          refine Or.inl ((hok.filling hf).resolve_right ?_)
          rw [howner.resolve_left hservice]
          intro heq
          exact hne (Option.some.inj heq).symm
      · by_cases hservice : channel_id = CA_SERVICE_CHANNEL
        · refine h.locked.frame ?_ rfl rfl rfl
          exact if_neg (not_not.mpr hservice)
        · exact Locked.free (not_not.mp (mt hclient hservice))
    · cases hs

/-- What `OnDispatch` releases goes from the queue into its hands. -/
theorem Inv.onDispatch (h : Inv s) {quote : Nat}
    (hs : next s (.OnDispatch channel_id quote) = some s') : Inv s' := by
  simp only [next] at hs
  split at hs
  · next hfree =>
    split at hs
    · cases hs
    · next side hside =>
      split at hs
      · cases hs
      · next source hconsumer =>
        split at hs
        · cases hs
          exact h
        · next source' frame released hdispatch =>
          cases hs
          have hold := h.sources channel_id side hside
          have hnone : ∀ other side', SourceOk s other side' → side'.released = [] := by
            intro other side' hok
            by_contra hne
            have hdisp := hok.released hne
            rw [hfree.1] at hdisp
            cases hdisp
          have hkeeping : ∀ other, s.deleting ≠ .transmission other := by
            intro other hdel
            have hdisp := hfree.2
            unfold State.dispatcherFree at hdisp
            rw [hdel] at hdisp
            exact hdisp
          refine h.source rfl ⟨hold.kept.move ?_, ⟨_, rfl⟩, hold.filling, fun _ => rfl,
            hold.flushing, fun hdel => absurd hdel (hkeeping channel_id)⟩ ?_ rfl rfl rfl ?_
          · unfold SourceSide.places SourceSide.queue
            simp only [hconsumer, hnone channel_id side hold, addresses_nil,
              addresses_OnDispatch hdispatch, List.nil_append, List.append_assoc]
            refine List.perm_iff_count.mpr fun a => ?_
            simp only [List.count_append]
            omega
          · intro other side' hne hok
            refine ⟨hok.kept, hok.consumer, hok.filling, ?_, hok.flushing, hok.flushed⟩
            intro hr
            exact absurd (hnone other side' hok) hr
          · exact ⟨h.locked.deleting, fun other hdel => absurd hdel (hkeeping other)⟩
  · cases hs

/-- A released buffer goes back to the free list. -/
theorem Inv.release (h : Inv s) (hs : next s .release = some s') : Inv s' := by
  simp only [next] at hs
  split at hs
  · cases hs
  · next channel_id hdispatching =>
    split at hs
    · cases hs
    · next side hside =>
      have hold := h.sources channel_id side hside
      split at hs
      · next hreleased =>
        cases hs
        refine h.sendingSide ?_ rfl rfl h.deleted ⟨h.locked.deleting, fun _ _ => rfl⟩
        intro other side' hother
        have hok := h.sources other side' hother
        refine ⟨hok.kept, hok.consumer, hok.filling, ?_, hok.flushing, hok.flushed⟩
        intro hr
        have hdisp := hok.released hr
        rw [hdispatching] at hdisp
        cases hdisp
        rw [hside] at hother
        cases hother
        exact absurd hreleased hr
      · next buf rest hreleased =>
        split at hs
        · cases hs
          refine h.source rfl ⟨hold.kept.move ?_, hold.consumer, hold.filling,
            fun _ => hdispatching, hold.flushing, hold.flushed⟩
            (fun _ _ _ hok => hok.frame rfl rfl rfl) rfl rfl rfl (h.locked.frame rfl rfl rfl rfl)
          unfold SourceSide.places SourceSide.queue CSourceAgent.returnBufferBack
          simp only [hreleased, addresses_cons]
          refine List.perm_iff_count.mpr fun a => ?_
          simp only [List.count_append, List.count_cons, List.count_nil]
          omega
        · cases hs

/-- The queue goes into the hands of `flushBuffers`. -/
theorem Inv.closeTransmission (h : Inv s)
    (hs : next s (.closeTransmission channel_id) = some s') : Inv s' := by
  simp only [next] at hs
  split at hs
  · next hfree =>
    obtain ⟨hhandling, ⟨hsending, hdeleting⟩, hdispatching⟩ := hfree
    have hnone : ∀ other side, SourceOk s other side → side.flushing = [] := by
      intro other side hok
      by_contra hne
      have hdel := hok.flushing hne
      rw [hdeleting] at hdel
      cases hdel
    split at hs
    · cases hs
      refine h.sendingSide ?_ rfl rfl h.deleted
        ⟨fun _ => ⟨hsending, hhandling⟩, fun _ hdel => by cases hdel⟩
      intro other side hother
      have hok := h.sources other side hother
      exact ⟨hok.kept, hok.consumer, hok.filling, hok.released,
        fun hne => absurd (hnone other side hok) hne, fun hdel => by cases hdel⟩
    · next side hside =>
      have hold := h.sources channel_id side hside
      split at hs
      · cases hs
      · next source hconsumer =>
        cases hs
        refine h.source rfl ⟨hold.kept.move ?_, ⟨_, rfl⟩, hold.filling, hold.released,
          fun _ => rfl, fun _ _ => rfl⟩ ?_ rfl rfl rfl
          ⟨fun _ => ⟨hsending, hhandling⟩, fun _ _ => hdispatching⟩
        · unfold SourceSide.places SourceSide.queue SourceSide.flushBuffers CSource.flushBuffers
          simp only [hconsumer, hnone channel_id side hold, addresses_nil]
          refine List.perm_iff_count.mpr fun a => ?_
          simp only [List.count_append, List.count_nil]
          omega
        · intro other side' hne hok
          refine ⟨hok.kept, hok.consumer, hok.filling, hok.released,
            fun hf => absurd (hnone other side' hok) hf, ?_⟩
          intro hdel
          cases hdel
          exact absurd rfl hne
  · cases hs

/-- And from there to the free list. -/
theorem Inv.flush (h : Inv s) (hs : next s .flush = some s') : Inv s' := by
  simp only [next] at hs
  split at hs
  · next channel_id hdeleting =>
    split at hs
    · cases hs
    · next side hside =>
      have hold := h.sources channel_id side hside
      split at hs
      · cases hs
      · next buf rest hflushing =>
        split at hs
        · cases hs
          refine h.source rfl ⟨hold.kept.move ?_, hold.consumer, hold.filling, hold.released,
            fun _ => hdeleting, hold.flushed⟩
            (fun _ _ _ hok => hok.frame rfl rfl rfl) rfl rfl rfl (h.locked.frame rfl rfl rfl rfl)
          unfold SourceSide.places SourceSide.queue CSourceAgent.returnBufferBack
          simp only [hflushing, addresses_cons]
          refine List.perm_iff_count.mpr fun a => ?_
          simp only [List.count_append, List.count_cons, List.count_nil]
          omega
        · cases hs
  · cases hs

/-- A source that is being deleted has everything in its free list, but for what is filled and
queued. -/
theorem Inv.flushed (h : Inv s) {side : SourceSide} (hdeleting : s.deleting = .transmission channel_id)
    (hside : s.sources channel_id = some side) (hflushing : side.flushing = []) :
    Kept (side.agent.mBufferQueue ++ (addresses side.queue ++ addresses side.filling.toList))
      side.pool := by
  have hok := h.sources channel_id side hside
  have hreleased : side.released = [] := by
    by_contra hne
    have hdisp := hok.released hne
    rw [h.locked.transmission channel_id hdeleting] at hdisp
    cases hdisp
  have hkept := hok.kept
  unfold SourceSide.places at hkept
  rw [hreleased, hflushing, addresses_nil, List.append_nil, List.append_nil] at hkept
  exact hkept

/-- The source agent is deleted with all its buffers. -/
theorem Inv.destroy (h : Inv s) (hq : SparesService s .destroy) (hs : next s .destroy = some s') :
    Inv s' := by
  simp only [next] at hs
  split at hs
  · next channel_id hdeleting =>
    split at hs
    · cases hs
    · next side hside =>
      split at hs
      · next hflushing =>
        cases hs
        have hok := h.sources channel_id side hside
        have hlocks := h.locked.deleting (by rw [hdeleting]; exact Deleting.noConfusion)
        have hempty : side.filling = none ∧ side.queue = [] := by
          by_cases hservice : channel_id = CA_SERVICE_CHANNEL
          · subst hservice
            exact hq side hdeleting hside hflushing
          · refine ⟨?_, hok.flushed hdeleting hservice⟩
            by_contra hfilling
            have hsending := (hok.filling hfilling).resolve_left hservice
            rw [hlocks.1] at hsending
            cases hsending
        have hfreed := h.flushed hdeleting hside hflushing
        rw [hempty.1, hempty.2] at hfreed
        refine h.sendingSide ?_ rfl rfl ?_ ⟨fun _ => hlocks, fun _ hdel => by cases hdel⟩
        · intro other side' hother
          rcases update_eq_some hother with ⟨-, hside'⟩ | ⟨hne, hother⟩
          · cases hside'
          · have hok' := h.sources other side' hother
            refine ⟨hok'.kept, hok'.consumer, hok'.filling, hok'.released, ?_,
              fun hdel => by cases hdel⟩
            intro hf
            have hdel := hok'.flushing hf
            rw [hdeleting] at hdel
            cases hdel
            exact absurd rfl hne
        · intro d hd
          rcases List.mem_cons.mp hd with rfl | hd
          · refine hfreed.move ?_
            show (side.agent.mBufferQueue).Perm (side.agent.mBufferQueue ++ ([] ++ []))
            rw [List.append_nil, List.append_nil]
          · exact h.deleted d hd
      · cases hs
  · cases hs

end Sending

/-! ## The receiving side -/

section Receiving

variable {s s' : State}

/-- While no service message is handled no channel is deleted. -/
theorem Inv.notDeleting (h : Inv s)
    (hreceiving : ∀ channel_id number buf mpBufferProducer,
      s.receiving ≠ .inStub channel_id number buf mpBufferProducer) : s.deleting = .no := by
  by_contra hdel
  have hhandling := (h.locked.deleting hdel).2
  unfold State.handling at hhandling
  split at hhandling
  · next hr => exact hreceiving _ _ _ _ hr
  · exact hhandling

/-- A free buffer goes into the hands of `receiveFrame`. -/
theorem Inv.receiveFrame (h : Inv s) {frame : Frame}
    (hs : next s (.receiveFrame frame) = some s') : Inv s' := by
  simp only [next] at hs
  split at hs
  · next hidle =>
    split at hs
    · cases hs
      exact h
    · next side hside =>
      split at hs
      · cases hs
        exact h
      · split at hs
        · cases hs
          exact h
        · next buf rest hqueue =>
          cases hs
          have hnone : ∀ other, s.hands other = [] := by
            intro other
            unfold State.hands
            rw [hidle]
          have hdeleting : s.deleting = .no := by
            refine h.notDeleting ?_
            rw [hidle]
            simp
          refine h.target rfl ((h.targets frame.channel_id side hside).move ?_) ?_
            rfl rfl rfl rfl rfl ?_ (Locked.free hdeleting)
          · unfold TargetSide.places State.hands
            simp only [hqueue, hidle, if_true]
            refine List.perm_iff_count.mpr fun a => ?_
            simp only [List.count_append, List.count_cons, List.count_nil]
            omega
          · intro other hne
            rw [hnone other]
            exact if_neg (Ne.symm hne)
          · show Function.update s.targets frame.channel_id _ frame.channel_id ≠ none
            rw [Function.update_self]
            exact Option.some_ne_none _
  · cases hs

/-- And from there into the queue of the target agent. -/
theorem Inv.consume (h : Inv s) (hs : next s .consume = some s') : Inv s' := by
  simp only [next] at hs
  split at hs
  · next channel_id number buf hreceiving =>
    split at hs
    · cases hs
    · next side hside =>
      cases hs
      have hdeleting : s.deleting = .no := by
        refine h.notDeleting ?_
        rw [hreceiving]
        simp
      refine h.target rfl ((h.targets channel_id side hside).move ?_) ?_
        rfl rfl rfl rfl rfl ?_ (Locked.free hdeleting)
      · unfold TargetSide.places State.hands
        simp only [hreceiving, if_true, addresses_append, addresses_cons, addresses_nil]
        refine List.perm_iff_count.mpr fun a => ?_
        simp only [List.count_append, List.count_cons, List.count_nil]
        omega
      · intro other hne
        unfold State.hands
        rw [hreceiving]
        exact (if_neg (Ne.symm hne)).symm
      · show Function.update s.targets channel_id _ channel_id ≠ none
        rw [Function.update_self]
        exact Option.some_ne_none _
  · cases hs

/-- The first of that queue goes into the hands of `visitStub`. -/
theorem Inv.visitStub (h : Inv s) (hs : next s .visitStub = some s') : Inv s' := by
  simp only [next] at hs
  split at hs
  · next channel_id number hreceiving =>
    have hnone : ∀ other, s.hands other = [] := by
      intro other
      unfold State.hands
      rw [hreceiving]
    have hdeleting : s.deleting = .no := by
      refine h.notDeleting ?_
      rw [hreceiving]
      simp
    split at hs
    · cases hs
    · next side hside =>
      split at hs
      · cases hs
        refine ⟨fun other side' hother => (h.sources other side' hother).frame rfl rfl rfl, ?_,
          h.deleted, trivial, Locked.free hdeleting⟩
        intro other side' hother
        have hkept := h.targets other side' hother
        rw [hnone other] at hkept
        exact hkept
      · next buf rest hqueue =>
        cases hs
        refine h.target rfl ((h.targets channel_id side hside).move ?_) ?_
          rfl rfl rfl rfl rfl ⟨?_, rfl⟩ (Locked.free hdeleting)
        · unfold TargetSide.places State.hands
          simp only [hqueue, hreceiving, if_true, addresses_cons]
          refine List.perm_iff_count.mpr fun a => ?_
          simp only [List.count_append, List.count_cons, List.count_nil]
          omega
        · intro other hne
          rw [hnone other]
          exact if_neg (Ne.symm hne)
        · show Function.update s.targets channel_id _ channel_id ≠ none
          rw [Function.update_self]
          exact Option.some_ne_none _
  · cases hs

/-- And from there to the free list, whatever the stub made of the data. -/
theorem Inv.returnBufferBack (h : Inv s) {result : ConnectivityAgentError}
    (hs : next s (.returnBufferBack result) = some s') : Inv s' := by
  simp only [next] at hs
  split at hs
  · next channel_id number buf mpBufferProducer hreceiving =>
    split at hs
    · next hfree =>
      split at hs
      · cases hs
      · next side hside =>
        cases hs
        refine h.target rfl ((h.targets channel_id side hside).move ?_) ?_
          rfl rfl rfl rfl rfl trivial (Locked.free hfree.1)
        · unfold TargetSide.places State.hands TargetSide.returnBufferBack
          simp only [hreceiving, if_true]
          refine List.perm_iff_count.mpr fun a => ?_
          simp only [List.count_append, List.count_cons, List.count_nil]
          omega
        · intro other hne
          unfold State.hands
          rw [hreceiving]
          exact (if_neg (Ne.symm hne)).symm
    · cases hs
  · cases hs

theorem Inv.replaceCarrier (h : Inv s) (hs : next s .replaceCarrier = some s') : Inv s' := by
  cases hs
  constructor
  case sources =>
    intro channel_id side hside
    exact (h.sources channel_id side hside).frame rfl rfl rfl
  case targets =>
    intro channel_id side hside
    obtain ⟨side₀, hside₀, rfl⟩ := Option.map_eq_some_iff.mp hside
    exact h.targets channel_id side₀ hside₀
  case deleted => exact h.deleted
  case receiving =>
    have hrec := h.receiving
    have hmap : ∀ {channel_id}, s.targets channel_id ≠ none →
        (s.targets channel_id).map (fun side => { side with mCarrierReplaced := true }) ≠ none := by
      intro channel_id hne hnone
      exact hne (Option.map_eq_none_iff.mp hnone)
    unfold ReceivingOk at hrec ⊢
    cases hr : s.receiving with
    | idle => trivial
    | copied visited number buf =>
      rw [hr] at hrec
      exact hmap hrec
    | queued visited number =>
      rw [hr] at hrec
      exact hmap hrec
    | inStub visited number buf mpBufferProducer =>
      rw [hr] at hrec
      exact ⟨hmap hrec.1, hrec.2⟩
  case locked => exact h.locked.frame rfl rfl rfl rfl

/-- Channels are deleted while the stub has a buffer of the service channel. -/
theorem Inv.inService (h : Inv s) (hdeleting : s.deleting ≠ .no) :
    ∃ number buf, s.receiving = .inStub CA_SERVICE_CHANNEL number buf true
      ∧ s.targets CA_SERVICE_CHANNEL ≠ none := by
  have hhandling := (h.locked.deleting hdeleting).2
  have hrec := h.receiving
  unfold State.handling at hhandling
  unfold ReceivingOk at hrec
  cases hr : s.receiving with
  | inStub visited number buf mpBufferProducer =>
    rw [hr] at hhandling hrec
    obtain rfl : visited = CA_SERVICE_CHANNEL := hhandling
    obtain ⟨htarget, rfl⟩ := hrec
    exact ⟨number, buf, rfl, htarget⟩
  | idle | copied _ _ _ | queued _ _ =>
    rw [hr] at hhandling
    exact hhandling.elim

/-- The target is deleted with all its buffers. -/
theorem Inv.closeIncoming (h : Inv s) (hq : SparesService s .closeIncoming)
    (hs : next s .closeIncoming = some s') : Inv s' := by
  simp only [next] at hs
  split at hs
  · next channel_id hdeleting =>
    obtain ⟨number, buf, hreceiving, htarget⟩ :=
      h.inService (by rw [hdeleting]; exact Deleting.noConfusion)
    have hservice : CA_SERVICE_CHANNEL ≠ channel_id := by
      rintro rfl
      exact hq hdeleting
    have hok : ∀ other side, s.sources other = some side →
        SourceOk { s with deleting := .no } other side := by
      intro other side hother
      have hok := h.sources other side hother
      refine ⟨hok.kept, hok.consumer, hok.filling, hok.released, ?_, fun hdel => by cases hdel⟩
      intro hf
      have hdel := hok.flushing hf
      rw [hdeleting] at hdel
      cases hdel
    split at hs
    · cases hs
      refine h.sendingSide ?_ rfl rfl h.deleted (Locked.free rfl)
      exact hok
    · next side hside =>
      cases hs
      -- the buffer in the stub's hands is one of another channel
      have hhands : s.hands channel_id = [] := by
        unfold State.hands
        rw [hreceiving]
        exact if_neg hservice
      constructor
      case sources =>
        intro other side' hother
        exact (hok other side' hother).frame rfl rfl rfl
      case targets =>
        intro other side' hother
        rcases update_eq_some hother with ⟨-, hside'⟩ | ⟨hne, hother⟩
        · cases hside'
        · have hkept := h.targets other side' hother
          unfold State.hands at hkept ⊢
          rw [hreceiving] at hkept
          simp only [hreceiving]
          exact hkept
      case deleted =>
        intro d hd
        rcases List.mem_cons.mp hd with rfl | hd
        · refine (h.targets channel_id side hside).move ?_
          unfold TargetSide.places
          rw [hhands, List.append_nil]
          exact List.Perm.refl _
        · exact h.deleted d hd
      case receiving =>
        unfold ReceivingOk
        simp only [hreceiving, Bool.true_and]
        refine ⟨?_, by simpa using hservice⟩
        rwa [Function.update_of_ne hservice]
      case locked => exact Locked.free rfl
  · cases hs

end Receiving

/-! ## Runs -/

/-- **One step** that spares the service channel. -/
theorem inv_step {s s' : State} {ev : Event} (h : Inv s) (hq : SparesService s ev)
    (hs : next s ev = some s') : Inv s' := by
  cases ev with
  | openChannel channel_id => exact h.openChannel hs
  | fillBuffer channel_id data => exact h.fillBuffer hs
  | consumeBuffer channel_id => exact h.consumeBuffer hs
  | OnDispatch channel_id quote => exact h.onDispatch hs
  | release => exact h.release hs
  | closeTransmission channel_id => exact h.closeTransmission hs
  | flush => exact h.flush hs
  | destroy => exact h.destroy hq hs
  | closeIncoming => exact h.closeIncoming hq hs
  | receiveFrame frame => exact h.receiveFrame hs
  | consume => exact h.consume hs
  | visitStub => exact h.visitStub hs
  | returnBufferBack result => exact h.returnBufferBack hs
  | replaceCarrier => exact h.replaceCarrier hs

/-- A step that deletes an end of the service channel while its buffers are elsewhere loses
them. -/
theorem spares_of_keeps {s : State} {ev : Event} (h : Inv s) (hk : Keeps s ev) :
    SparesService s ev := by
  cases ev with
  | destroy =>
    intro side hdeleting hside hflushing
    have hstep : next s .destroy = some { s with
        sources := Function.update s.sources CA_SERVICE_CHANNEL none
        deleting := .incoming CA_SERVICE_CHANNEL
        deleted := ⟨side.pool, side.agent.mBufferQueue⟩ :: s.deleted } := by
      unfold next
      simp only [hdeleting, hside, if_pos hflushing]
    have hfreed : Kept side.agent.mBufferQueue side.pool :=
      (hk _ hstep).deleted ⟨side.pool, side.agent.mBufferQueue⟩ List.mem_cons_self
    have hnil := (h.flushed hdeleting hside hflushing).rest_nil hfreed
    obtain ⟨hqueue, hfilling⟩ := List.append_eq_nil_iff.mp hnil
    refine ⟨?_, List.map_eq_nil_iff.mp hqueue⟩
    cases hf : side.filling with
    | none => rfl
    | some buf =>
      rw [hf] at hfilling
      cases hfilling
  | closeIncoming =>
    intro hdeleting
    obtain ⟨number, buf, hreceiving, htarget⟩ :=
      h.inService (by rw [hdeleting]; exact Deleting.noConfusion)
    obtain ⟨side, hside⟩ := Option.ne_none_iff_exists'.mp htarget
    have hkept := h.targets CA_SERVICE_CHANNEL side hside
    unfold TargetSide.places State.hands at hkept
    simp only [hreceiving, if_true] at hkept
    rw [← List.append_assoc] at hkept
    have hfreed : Kept (side.mBufferQueue ++ addresses side.queue) side.pool := by
      have hstep : ∃ s', next s .closeIncoming = some s' ∧
          ⟨side.pool, side.mBufferQueue ++ addresses side.queue⟩ ∈ s'.deleted := by
        unfold next
        simp only [hdeleting, hside]
        exact ⟨_, rfl, List.mem_cons_self⟩
      obtain ⟨s', hs', hd⟩ := hstep
      exact (hk s' hs').deleted _ hd
    -- the buffer of the message that is being handled is missing
    have hnil := hkept.rest_nil hfreed
    cases hnil
  | openChannel _ | fillBuffer _ _ | consumeBuffer _ | OnDispatch _ _ | release
  | closeTransmission _ | flush | receiveFrame _ | consume | visitStub | returnBufferBack _
  | replaceCarrier => trivial

/-- **Every buffer stays in exactly one place**, along any run on any channels, exactly as long
as no message makes the agent delete its service channel. -/
theorem buffers_kept_iff (evs : List Event) :
    Along next Keeps State.initial evs ↔ Along next SparesService State.initial evs :=
  along_iff_along (P := Keeps) (Q := SparesService) (E := fun _ _ => True) (I := Inv)
    (fun _ _ h _ => ⟨spares_of_keeps h, fun hq _ hs => (inv_step h hq hs).conserved⟩)
    (fun _ _ _ h _ hq hs => inv_step h hq hs) inv_initial
    (along_of_mem fun _ _ _ => trivial)

/-- A message asks the agent to deallocate channel 0, the one it came on: its target is deleted
with 199 buffers. -/
theorem service_buffer_lost :
    ¬ ∀ evs : List Event, Along next Keeps State.initial evs := by
  intro h
  have hrun := h [.openChannel 0, .receiveFrame ⟨⟨0, 0, 1⟩, []⟩, .consume, .visitStub,
    .closeTransmission 0, .destroy, .closeIncoming]
  have hlast := (hrun.2 _ rfl).2 _ rfl |>.2 _ rfl |>.2 _ rfl |>.2 _ rfl |>.2 _ rfl |>.1 _ rfl
  have hlen := (hlast.deleted _ List.mem_cons_self).perm.length_eq
  revert hlen
  decide +kernel

end IviLink.L1.Pools
