import IviLink.L1.ServiceCodec

/-!
# What bytes from outside can do

Every fault of the stub on bytes, traced to the check that is missing. The
conditions are on the bytes and on the stub before they are looked at; for a buffer
of several messages, on the stub as each message finds it (`LoopHarmless`).

A priority is not looked at when it arrives. It is kept with the request, and is an
index only when a second request opens the channel (`BadPriority`).
-/

namespace IviLink.L0.L0Interface

theorem openTransmissionChannel_result (l : L0Interface) (channel_id : UInt32)
    (prio : TChannelPriority) :
    (l.openTransmissionChannel channel_id prio).2 = .noError
      ∨ (l.openTransmissionChannel channel_id prio).2 = .channelBusy := by
  unfold openTransmissionChannel CTransmitDispatcher.openChannel CQoS.openChannel
  by_cases hsource : (l.mpTransmitDispatcher.mRegistry prio).any (SourcePtr.isOf channel_id) = true
  · rw [if_pos hsource]
    exact .inr rfl
  · rw [if_neg hsource]
    by_cases hcounted : l.mpQoS.mStatMap channel_id = true
    · exact .inr (by simp [hcounted, ConnectivityAgentError.isNoError])
    · exact .inl (by simp [hcounted, ConnectivityAgentError.isNoError])

theorem openIncomingChannel_result (l : L0Interface) (channel_id : UInt32) :
    (l.openIncomingChannel channel_id).2 = .noError
      ∨ (l.openIncomingChannel channel_id).2 = .channelBusy := by
  unfold openIncomingChannel CIncomeDispatcher.openChannel
  cases l.mpIncomeDispatcher.mTargetMap channel_id with
  | none => exact .inl rfl
  | some _ => exact .inr rfl

end IviLink.L0.L0Interface

namespace IviLink.L1

open IviLink.Common IviLink.Lib

/-- Nothing below defers anything. -/
theorem CChannelAllocator.allocateChannel_ne_deferred (a : CChannelAllocator)
    (prio : TChannelPriority) (channel_id : UInt32) :
    (a.allocateChannel prio channel_id).2 ≠ .deferred := by
  unfold allocateChannel
  cases a.mpL0Interface with
  | none => exact fun h => nomatch h
  | some l =>
    dsimp only
    rcases l.openTransmissionChannel_result channel_id prio with hopened | hopened
    · rw [hopened]
      rcases (l.openTransmissionChannel channel_id prio).1.openIncomingChannel_result channel_id
        with hincoming | hincoming <;> simp [hincoming, ConnectivityAgentError.isNoError]
    · simp [hopened, ConnectivityAgentError.isNoError]

namespace RawStub

variable {l : RawStub} {a : CDataAccessor} {channel_id : UInt32}

/-! ## Opening a channel -/

/-- A request for the channel would open it, with a priority that was kept from the first
request and has no list in the dispatcher's registry. -/
structure BadPriority (l : RawStub) (channel_id : UInt32) (client : Option ClientDirection) :
    Prop where
  free : l.mL1ChannelRegistry channel_id = none
  below : l.channelAllocator.mpL0Interface.isSome
  waiting : ∃ info, l.mRequestedMap channel_id = some info
    ∧ (client.isNone ∨ info.mState = .transitionAgent) ∧ registryOf info.mType = none

theorem fine_allocateChannel {c : CChannelAllocator} {prio : UInt32} (channel_id : UInt32) :
    Fine (allocateChannel c prio channel_id)
      ↔ ¬ (c.mpL0Interface.isSome ∧ registryOf prio = none) := by
  unfold allocateChannel
  cases c.mpL0Interface with
  | none => simp
  | some _ => cases registryOf prio <;> simp

/-- What is opened is opened, or refused at once. -/
theorem allocateChannel_result {c : CChannelAllocator} {prio : UInt32}
    {r : CChannelAllocator × ConnectivityAgentError}
    (h : allocateChannel c prio channel_id = .ok r) : r.2 ≠ .deferred := by
  unfold allocateChannel at h
  cases hl : c.mpL0Interface with
  | none =>
    rw [hl] at h
    obtain rfl := Except.ok.inj h
    exact fun h => nomatch h
  | some _ =>
    rw [hl] at h
    cases hi : registryOf prio with
    | none =>
      rw [hi] at h
      cases h
    | some i =>
      rw [hi] at h
      obtain rfl := Except.ok.inj h
      exact c.allocateChannel_ne_deferred i channel_id

theorem allocateChannelLocally_result {info : RawRequestedInfo}
    {r : RawStub × ConnectivityAgentError}
    (h : l.allocateChannelLocally channel_id info = .ok r) : r.2 ≠ .deferred := by
  unfold allocateChannelLocally at h
  split at h
  · cases h
  · obtain ⟨opened, hopen, h⟩ := bind_ok.mp h
    have hne := allocateChannel_result hopen
    split at h <;> exact Except.ok.inj h ▸ hne

theorem fine_allocateChannelLocally {info : RawRequestedInfo}
    (hfree : l.mL1ChannelRegistry channel_id = none) :
    Fine (l.allocateChannelLocally channel_id info)
      ↔ ¬ (l.channelAllocator.mpL0Interface.isSome ∧ registryOf info.mType = none) := by
  rw [← fine_allocateChannel channel_id]
  unfold allocateChannelLocally
  rw [hfree, if_neg (by simp), fine_bind]
  constructor
  · rintro ⟨opened, hopen, -⟩
    exact ⟨opened, hopen⟩
  · rintro ⟨opened, hopen⟩
    refine ⟨opened, hopen, ?_⟩
    split <;> exact fine_pure _

/-- **A request faults where it opens a channel of a bad priority**, and nowhere else. -/
theorem fine_beginAllocateChannel (prio : UInt32) {client : Option ClientDirection} :
    Fine (l.beginAllocateChannel prio channel_id client)
      ↔ ¬ l.BadPriority channel_id client := by
  unfold beginAllocateChannel
  cases hfree : l.mL1ChannelRegistry channel_id with
  | some _ =>
    refine iff_of_true (fine_ok _) fun hbad => ?_
    rw [hbad.free] at hfree
    cases hfree
  | none =>
    cases hwait : l.mRequestedMap channel_id with
    | none =>
      refine iff_of_true (fine_ok _) fun hbad => ?_
      obtain ⟨info, hinfo, -⟩ := hbad.waiting
      rw [hwait] at hinfo
      cases hinfo
    | some info =>
      dsimp only
      by_cases hopens : client.isNone ∨ info.mState = .transitionAgent
      · rw [if_pos hopens]
        have hlocal : ∀ info' : RawRequestedInfo, info'.mType = info.mType →
            (Fine (l.allocateChannelLocally channel_id info' >>= fun x =>
              if x.2 = ConnectivityAgentError.deferred then .error .assertion
              else .ok ({ x.1 with
                mRequestedMap := Function.update x.1.mRequestedMap channel_id none }, x.2))
              ↔ ¬ l.BadPriority channel_id client) := by
          intro info' htype
          have hbad : l.BadPriority channel_id client
              ↔ l.channelAllocator.mpL0Interface.isSome ∧ registryOf info'.mType = none := by
            rw [htype]
            constructor
            · intro h
              obtain ⟨other, hother, -, hnone⟩ := h.waiting
              rw [hwait] at hother
              exact ⟨h.below, Option.some.inj hother ▸ hnone⟩
            · intro h
              exact ⟨hfree, h.1, info, hwait, hopens, h.2⟩
          rw [hbad, ← fine_allocateChannelLocally hfree, fine_bind]
          constructor
          · rintro ⟨r, hr, -⟩
            exact ⟨r, hr⟩
          · rintro ⟨r, hr⟩
            refine ⟨r, hr, ?_⟩
            rw [if_neg (allocateChannelLocally_result hr)]
            exact fine_ok _
        cases client with
        | none => exact hlocal info rfl
        | some dir => exact hlocal { info with mClientDir := dir.id } rfl
      · rw [if_neg hopens]
        refine iff_of_true (fine_ok _) fun hbad => ?_
        obtain ⟨info', hinfo, hopens', -⟩ := hbad.waiting
        rw [hwait] at hinfo
        exact hopens (Option.some.inj hinfo ▸ hopens')

theorem beginAllocateChannel_client {prio : UInt32} {dir : ClientDirection}
    {r : RawStub × ConnectivityAgentError}
    (h : l.beginAllocateChannel prio channel_id (some dir) = .ok r) : r.2 ≠ .deferred := by
  unfold beginAllocateChannel at h
  cases hfree : l.mL1ChannelRegistry channel_id with
  | some _ =>
    rw [hfree] at h
    exact Except.ok.inj h ▸ fun hd => nomatch hd
  | none =>
    rw [hfree] at h
    cases hwait : l.mRequestedMap channel_id with
    | none =>
      rw [hwait] at h
      exact Except.ok.inj h ▸ fun hd => nomatch hd
    | some info =>
      rw [hwait] at h
      dsimp only at h
      split at h
      · obtain ⟨r', hlocal, h⟩ := bind_ok.mp h
        have hne := allocateChannelLocally_result hlocal
        rw [if_neg hne] at h
        exact Except.ok.inj h ▸ hne
      · exact Except.ok.inj h ▸ fun hd => nomatch hd

/-! ## Handlers of service messages -/

/-- An accessor that fits a buffer of the service channel. -/
def Sendable (a : CDataAccessor) : Prop := a.getObjectSize + 2 ≤ MAX_SIZE

theorem sendable_setOpCode {id : UInt32} : Sendable (a.setOpCode id) ↔ Sendable a := Iff.rfl

theorem sendable_setErrorCode {err : UInt32} : Sendable (a.setErrorCode err) ↔ Sendable a := Iff.rfl

theorem sendable_of_le (h : a.getDataSize ≤ 4) : Sendable a := by
  unfold Sendable CDataAccessor.getObjectSize MAX_SIZE
  omega

theorem fine_sendRequest : Fine (l.sendRequest a) ↔ Sendable a := by
  unfold sendRequest Sendable
  constructor
  · intro h
    by_contra hsize
    rw [if_neg hsize] at h
    exact not_fine_error _ h
  · intro hsize
    rw [if_pos hsize]
    split <;> exact fine_ok _

theorem sendRequest_ne_deferred {r : RawStub × ConnectivityAgentError}
    (h : l.sendRequest a = .ok r) : r.2 ≠ .deferred := by
  unfold sendRequest at h
  split at h
  · split at h <;> exact Except.ok.inj h ▸ fun hd => nomatch hd
  · cases h

theorem fine_dataWord : Fine (dataWord a) ↔ 4 ≤ a.getDataSize := by
  unfold dataWord
  rw [fine_bind]
  constructor
  · rintro ⟨bytes, h, -⟩
    have := (readAt_eq_ok.mp h).1
    unfold CDataAccessor.getDataSize
    omega
  · intro h
    exact ⟨_, readAt_ok (by unfold CDataAccessor.getDataSize at h; omega), fine_pure _⟩

/-- What a handler of a service message needs: a word of data where it reads one, and a channel
that it can open. -/
structure ServiceHarmless (l : RawStub) (a : CDataAccessor) : Prop where
  word : a.mOperation = E_ALLOCATE_CHANNEL ∨ a.mOperation = E_DEALLOCATE_CHANNEL_RESP →
    4 ≤ a.getDataSize
  priority : a.mOperation = E_ALLOCATE_CHANNEL → a.mErrorCode = 0 →
    ¬ l.BadPriority a.mChannelID none

theorem fine_processServiceAllocateRequest :
    Fine (l.processServiceAllocateRequest a)
      ↔ 4 ≤ a.getDataSize ∧ (a.mErrorCode = 0 → ¬ l.BadPriority a.mChannelID none) := by
  unfold processServiceAllocateRequest
  rw [← fine_dataWord, fine_bind]
  constructor
  · rintro ⟨prio, hprio, h⟩
    refine ⟨⟨prio, hprio⟩, fun herr => ?_⟩
    rw [if_neg (not_not.mpr herr)] at h
    obtain ⟨r, hr, -⟩ := fine_bind.mp h
    exact (fine_beginAllocateChannel prio).mp ⟨r, hr⟩
  · rintro ⟨⟨prio, hprio⟩, hbad⟩
    refine ⟨prio, hprio, ?_⟩
    by_cases herr : a.mErrorCode = 0
    · rw [if_neg (not_not.mpr herr)]
      obtain ⟨r, hr⟩ := (fine_beginAllocateChannel prio).mpr (hbad herr)
      refine fine_bind.mpr ⟨r, hr, ?_⟩
      dsimp only
      split
      · -- the answer has no data
        have hsize : Sendable (((a.setOpCode E_ALLOCATE_CHANNEL_RESP).resetData).setErrorCode
            r.2.code) := sendable_of_le (Nat.zero_le 4)
        obtain ⟨s, hs⟩ := fine_sendRequest.mpr hsize
        exact fine_bind.mpr ⟨s, hs, fine_pure _⟩
      · exact fine_pure _
    · rw [if_pos herr]
      exact fine_pure _

theorem fine_processServiceDeallocateRequest : Fine (l.processServiceDeallocateRequest a) := by
  unfold processServiceDeallocateRequest
  dsimp only
  -- the answer has one word of data
  have hsize : Sendable ((a.setOpCode E_DEALLOCATE_CHANNEL_RESP).setData
      (le32 (l.deallocateChannel a.mChannelID).2.code)) := by
    refine sendable_of_le ?_
    unfold CDataAccessor.setData CDataAccessor.getDataSize
    rw [length_le32, if_pos (by omega)]
    exact Nat.le_of_eq (length_le32 _)
  obtain ⟨s, hs⟩ := fine_sendRequest.mpr hsize
  exact fine_bind.mpr ⟨s, hs, fine_pure _⟩

theorem fine_processServiceAllocateResponse (hsize : Sendable a) :
    Fine (l.processServiceAllocateResponse a) := by
  unfold processServiceAllocateResponse
  dsimp only
  generalize (if a.mErrorCode = 0 then l.endAllocateChannel a.mChannelID (-1)
    else (l, a.mErrorCode, -1)) = ended
  split
  · obtain ⟨s, hs⟩ : Fine (ended.1.sendRequest (a.setErrorCode 0)) :=
      fine_sendRequest.mpr (sendable_setErrorCode.mpr hsize)
    refine fine_bind.mpr ⟨s, hs, fine_bind.mpr ⟨_, rfl, ?_⟩⟩
    split <;> exact fine_pure _
  · refine fine_bind.mpr ⟨_, rfl, ?_⟩
    split <;> exact fine_pure _

theorem fine_processServiceDeallocateResponse :
    Fine (l.processServiceDeallocateResponse a) ↔ 4 ≤ a.getDataSize := by
  unfold processServiceDeallocateResponse
  rw [← fine_dataWord, fine_bind]
  constructor
  · rintro ⟨errCode, h, -⟩
    exact ⟨errCode, h⟩
  · rintro ⟨errCode, h⟩
    refine ⟨errCode, h, ?_⟩
    split <;> exact fine_pure _

/-- **A handler of a service message faults on a missing word and on a bad priority.** -/
theorem fine_callService (hsize : Sendable a) :
    Fine (l.callService a) ↔ l.ServiceHarmless a := by
  unfold callService mServiceCallbacksMap
  by_cases hallocate : a.mOperation = E_ALLOCATE_CHANNEL
  · rw [if_pos hallocate]
    refine fine_processServiceAllocateRequest.trans ⟨fun h => ⟨fun _ => h.1, fun _ => h.2⟩,
      fun h => ⟨h.word (.inl hallocate), h.priority hallocate⟩⟩
  · rw [if_neg hallocate]
    have hnone : a.mOperation = E_ALLOCATE_CHANNEL → a.mErrorCode = 0 →
        ¬ l.BadPriority a.mChannelID none := fun h => absurd h hallocate
    by_cases hdeallocate : a.mOperation = E_DEALLOCATE_CHANNEL
    · rw [if_pos hdeallocate]
      refine iff_of_true fine_processServiceDeallocateRequest ⟨fun h => ?_, hnone⟩
      rw [hdeallocate] at h
      exact absurd h (by decide)
    · rw [if_neg hdeallocate]
      by_cases hallocated : a.mOperation = E_ALLOCATE_CHANNEL_RESP
      · rw [if_pos hallocated]
        refine iff_of_true (fine_processServiceAllocateResponse hsize) ⟨fun h => ?_, hnone⟩
        rw [hallocated] at h
        exact absurd h (by decide)
      · rw [if_neg hallocated]
        by_cases hdeallocated : a.mOperation = E_DEALLOCATE_CHANNEL_RESP
        · rw [if_pos hdeallocated]
          exact fine_processServiceDeallocateResponse.trans
            ⟨fun h => ⟨fun _ => h, hnone⟩, fun h => h.word (.inr hdeallocated)⟩
        · rw [if_neg hdeallocated]
          exact iff_of_true (fine_ok _)
            ⟨fun h => (h.elim hallocate hdeallocated).elim, hnone⟩

/-! ### What they leave in the accessor -/

theorem left_allocateRequest {r : RawStub × CDataAccessor}
    (h : l.processServiceAllocateRequest a = .ok r) : r.2.mpData = [] := by
  unfold processServiceAllocateRequest at h
  obtain ⟨prio, -, h⟩ := bind_ok.mp h
  dsimp only at h
  split at h
  · exact Except.ok.inj h ▸ rfl
  · obtain ⟨begun, -, h⟩ := bind_ok.mp h
    split at h
    · obtain ⟨s, -, h⟩ := bind_ok.mp h
      exact Except.ok.inj h ▸ rfl
    · exact Except.ok.inj h ▸ rfl

theorem left_deallocateRequest {r : RawStub × CDataAccessor}
    (h : l.processServiceDeallocateRequest a = .ok r) : r.2.mpData.length = 4 := by
  unfold processServiceDeallocateRequest at h
  dsimp only at h
  obtain ⟨s, -, h⟩ := bind_ok.mp h
  obtain rfl := Except.ok.inj h
  show (CDataAccessor.setData _ (le32 _)).mpData.length = 4
  unfold CDataAccessor.setData
  rw [if_pos (by rw [length_le32]; omega)]
  exact length_le32 _

theorem left_allocateResponse {r : RawStub × CDataAccessor}
    (h : l.processServiceAllocateResponse a = .ok r) : r.2.mpData = a.mpData := by
  unfold processServiceAllocateResponse at h
  dsimp only at h
  generalize (if a.mErrorCode = 0 then l.endAllocateChannel a.mChannelID (-1)
    else (l, a.mErrorCode, -1)) = ended at h
  split at h
  · obtain ⟨s, -, h⟩ := bind_ok.mp h
    obtain ⟨answered, hanswered, h⟩ := bind_ok.mp h
    obtain rfl := Except.ok.inj hanswered
    split at h <;> exact Except.ok.inj h ▸ rfl
  · obtain ⟨answered, hanswered, h⟩ := bind_ok.mp h
    obtain rfl := Except.ok.inj hanswered
    split at h <;> exact Except.ok.inj h ▸ rfl

theorem left_deallocateResponse {r : RawStub × CDataAccessor}
    (h : l.processServiceDeallocateResponse a = .ok r) : r.2.mpData = a.mpData := by
  unfold processServiceDeallocateResponse at h
  obtain ⟨errCode, -, h⟩ := bind_ok.mp h
  dsimp only at h
  split at h <;> exact Except.ok.inj h ▸ rfl

/-- **What a handler leaves in the accessor**: an allocate request nothing, a deallocate request
the word of its answer, and any other message what the handler was given. -/
theorem callService_left {r : RawStub × CDataAccessor} (h : l.callService a = .ok r) :
    (a.mOperation = E_ALLOCATE_CHANNEL → r.2.mpData = [])
      ∧ (a.mOperation = E_DEALLOCATE_CHANNEL → r.2.mpData.length = 4)
      ∧ (a.mOperation ≠ E_ALLOCATE_CHANNEL → a.mOperation ≠ E_DEALLOCATE_CHANNEL →
        r.2.mpData = a.mpData) := by
  unfold callService mServiceCallbacksMap at h
  by_cases hallocate : a.mOperation = E_ALLOCATE_CHANNEL
  · rw [if_pos hallocate] at h
    refine ⟨fun _ => left_allocateRequest h, fun h' => ?_, fun h' => absurd hallocate h'⟩
    rw [hallocate] at h'
    exact absurd h' (by decide)
  · rw [if_neg hallocate] at h
    refine ⟨fun h' => absurd h' hallocate, ?_⟩
    by_cases hdeallocate : a.mOperation = E_DEALLOCATE_CHANNEL
    · rw [if_pos hdeallocate] at h
      exact ⟨fun _ => left_deallocateRequest h, fun _ h' => absurd hdeallocate h'⟩
    · rw [if_neg hdeallocate] at h
      refine ⟨fun h' => absurd h' hdeallocate, fun _ _ => ?_⟩
      by_cases hallocated : a.mOperation = E_ALLOCATE_CHANNEL_RESP
      · rw [if_pos hallocated] at h
        exact left_allocateResponse h
      · rw [if_neg hallocated] at h
        by_cases hdeallocated : a.mOperation = E_DEALLOCATE_CHANNEL_RESP
        · rw [if_pos hdeallocated] at h
          exact left_deallocateResponse h
        · rw [if_neg hdeallocated] at h
          exact Except.ok.inj h ▸ rfl

/-! ## The loop over a service buffer -/

/-- The message at the front of the bytes, as the accessor shows it. -/
def seen (a : CDataAccessor) (rest : List UInt8) : CDataAccessor := refill a (message rest)

/-- What is behind it. -/
def behind (rest : List UInt8) : List UInt8 := rest.drop (18 + dataSize rest)

theorem receiveLoop_unreadable {rest : List UInt8} (h : ¬ Readable rest) :
    ∃ f, l.receiveLoop a rest = ([], .error f) := by
  rw [receiveLoop]
  split
  · exact ⟨_, rfl⟩
  · rename_i hok
    exact absurd (fine_decode.mp ⟨_, hok⟩) h

theorem receiveLoop_readable {rest : List UInt8} (h : Readable rest) :
    l.receiveLoop a rest =
      match l.callService (seen a rest) with
      | .error f => (called (seen a rest), .error f)
      | .ok (l, left) =>
        if behind rest = [] then (called (seen a rest), .ok l)
        else (called (seen a rest) ++ (l.receiveLoop left (behind rest)).1,
          (l.receiveLoop left (behind rest)).2) := by
  rw [receiveLoop]
  split
  · rename_i f herr
    rw [decode_eq h] at herr
    cases herr
  · rename_i a' rest' hok
    rw [decode_eq h] at hok
    obtain ⟨rfl, rfl⟩ := Prod.mk.inj (Except.ok.inj hok)
    unfold seen behind
    cases l.callService (refill a (message rest)) with
    | error f => rfl
    | ok r => rfl

/-- Each message lies inside the buffer, and is harmless to the stub and with the accessor it
meets. -/
inductive LoopHarmless : RawStub → CDataAccessor → List UInt8 → Prop
  | message {l : RawStub} {a : CDataAccessor} {rest : List UInt8} (readable : Readable rest)
      (harmless : l.ServiceHarmless (seen a rest))
      (next : ∀ l' left, l.callService (seen a rest) = .ok (l', left) → behind rest ≠ [] →
        LoopHarmless l' left (behind rest)) : LoopHarmless l a rest

theorem sendable_seen {rest : List UInt8} (ha : Sendable a) (hread : Readable rest)
    (hrest : rest.length ≤ MAX_SIZE) : Sendable (seen a rest) := by
  have hin := hread.inside
  unfold seen refill CDataAccessor.setData
  split
  · unfold Sendable CDataAccessor.getObjectSize CDataAccessor.getDataSize message
    dsimp only
    rw [List.length_take, List.length_drop]
    omega
  · exact ha

theorem sendable_left {l' : RawStub} {left : CDataAccessor} (ha : Sendable a)
    (h : l.callService a = .ok (l', left)) : Sendable left := by
  obtain ⟨hallocate, hdeallocate, hother⟩ := callService_left h
  have hmax : MAX_SIZE = 4096 := rfl
  unfold Sendable CDataAccessor.getObjectSize CDataAccessor.getDataSize at *
  by_cases h₁ : a.mOperation = E_ALLOCATE_CHANNEL
  · rw [hallocate h₁, List.length_nil]
    omega
  · by_cases h₂ : a.mOperation = E_DEALLOCATE_CHANNEL
    · have hfour : left.mpData.length = 4 := hdeallocate h₂
      omega
    · have hsame : left.mpData = a.mpData := hother h₁ h₂
      rw [hsame]
      exact ha

theorem fine_receiveLoop : ∀ {rest : List UInt8} {l : RawStub} {a : CDataAccessor}, Sendable a →
    rest.length ≤ MAX_SIZE → (Fine (l.receiveLoop a rest).2 ↔ LoopHarmless l a rest)
  | rest, l, a, ha, hrest => by
      by_cases hread : Readable rest
      · have hsend := sendable_seen ha hread hrest
        have hlt : (behind rest).length < rest.length := hread.drop_lt
        have hbehind := (Nat.le_of_lt hlt).trans hrest
        have hnext : ∀ l' left, l.callService (seen a rest) = .ok (l', left) →
            (Fine (l'.receiveLoop left (behind rest)).2 ↔ LoopHarmless l' left (behind rest)) :=
          fun l' left hleft => fine_receiveLoop (sendable_left hsend hleft) hbehind
        constructor
        · intro h
          have hcall : Fine (l.callService (seen a rest)) := by
            by_contra hfault
            rw [receiveLoop_readable hread] at h
            cases hr : l.callService (seen a rest) with
            | error f =>
              rw [hr] at h
              exact not_fine_error _ h
            | ok r => exact hfault ⟨r, hr⟩
          refine .message hread ((fine_callService hsend).mp hcall) ?_
          intro l' left hleft hmore
          rw [receiveLoop_readable hread, hleft] at h
          dsimp only at h
          rw [if_neg hmore] at h
          exact (hnext l' left hleft).mp h
        · intro h
          obtain ⟨-, hharmless, hrec⟩ := h
          obtain ⟨⟨l', left⟩, hleft⟩ := (fine_callService hsend).mpr hharmless
          rw [receiveLoop_readable hread, hleft]
          dsimp only
          by_cases hmore : behind rest = []
          · rw [if_pos hmore]
            exact fine_ok _
          · rw [if_neg hmore]
            exact (hnext l' left hleft).mpr (hrec l' left hleft hmore)
      · obtain ⟨f, hf⟩ := receiveLoop_unreadable (l := l) (a := a) hread
        rw [hf]
        refine iff_of_false (not_fine_error _) fun h => ?_
        obtain ⟨hread', -, -⟩ := h
        exact hread hread'
  termination_by rest => rest.length

/-- A service buffer that does no harm. -/
structure BufferHarmless (l : RawStub) (buffer : List UInt8) : Prop where
  size : buffer.length ≤ MAX_SIZE
  messages : LoopHarmless l .empty buffer

theorem fine_receiveServiceData {buffer : List UInt8} :
    Fine (l.receiveServiceData buffer).2 ↔ l.BufferHarmless buffer := by
  have hempty : Sendable .empty := by
    unfold Sendable
    decide
  unfold receiveServiceData
  by_cases hsize : buffer.length ≤ MAX_SIZE
  · rw [if_pos hsize, fine_receiveLoop hempty hsize]
    exact ⟨fun h => ⟨hsize, h⟩, fun h => h.messages⟩
  · rw [if_neg hsize]
    exact iff_of_false (not_fine_error _) fun h => hsize h.size

/-! ## Requests of clients -/

/-- The size a payload tells of its data. -/
def payloadSize (pPayload : List UInt8) : Nat := (ofLE32 ((pPayload.drop 8).take 4)).toNat

/-- The four words and the data lie in the payload. -/
def Complete (pPayload : List UInt8) : Prop := 16 + payloadSize pPayload ≤ pPayload.length

instance (pPayload : List UInt8) : Decidable (Complete pPayload) :=
  inferInstanceAs (Decidable (_ ≤ _))

/-- The request in a payload. -/
def requestOf (pPayload : List UInt8) : CDataAccessor where
  mOperation := ofLE32 ((pPayload.drop 0).take 4)
  mChannelID := ofLE32 ((pPayload.drop 4).take 4)
  mErrorCode := ofLE32 ((pPayload.drop 12).take 4)
  mpData := (pPayload.drop 16).take (payloadSize pPayload)

theorem construct_eq {pPayload : List UInt8} (h : Complete pPayload) :
    construct pPayload = .ok (requestOf pPayload) := by
  unfold Complete at h
  unfold construct
  rw [if_pos (by omega), readAt_ok (by omega), readAt_ok (by omega), readAt_ok (by omega),
    readAt_ok (by omega)]
  show (readAt pPayload 16 (payloadSize pPayload) >>= _) = _
  rw [readAt_ok h]
  rfl

theorem fine_construct {pPayload : List UInt8} : Fine (construct pPayload) ↔ Complete pPayload := by
  constructor
  · intro h
    unfold construct at h
    obtain ⟨-, h⟩ := fine_check.mp h
    obtain ⟨_, -, h⟩ := fine_bind.mp h
    obtain ⟨_, -, h⟩ := fine_bind.mp h
    obtain ⟨size, hsize, h⟩ := fine_bind.mp h
    obtain ⟨-, rfl⟩ := readAt_eq_ok.mp hsize
    obtain ⟨_, -, h⟩ := fine_bind.mp h
    obtain ⟨_, hdata, -⟩ := fine_bind.mp h
    exact (readAt_eq_ok.mp hdata).1
  · intro h
    exact ⟨_, construct_eq h⟩

/-- What a handler of a client's request needs: a priority of no more than a word, for a channel
that it can open; data that fits a service buffer where it is forwarded, and a channel's buffer
where it is sent. -/
structure ClientHarmless (l : RawStub) (a : CDataAccessor) (dirId : ClientDirection) : Prop where
  priority : a.mOperation = E_ALLOCATE_CHANNEL → a.mChannelID ≠ CA_SERVICE_CHANNEL →
    a.getDataSize ≤ 4 ∧ ¬ l.BadPriority a.mChannelID (some dirId)
  forwarded : a.mOperation = E_DEALLOCATE_CHANNEL ∨ a.mOperation = E_DEALLOCATE_CHANNEL_WATCHDOG →
    a.mChannelID ≠ CA_SERVICE_CHANNEL → (l.mL1ChannelRegistry a.mChannelID).isSome → Sendable a
  sent : a.mOperation = E_SEND_DATA → a.mChannelID ≠ CA_SERVICE_CHANNEL →
    (l.mL1ChannelRegistry a.mChannelID).isSome → a.getDataSize ≤ MAX_SIZE

variable {dirId : ClientDirection}

theorem fine_copyToWord {data : List UInt8} : Fine (copyToWord data) ↔ data.length ≤ 4 := by
  unfold copyToWord
  rw [fine_check]
  exact and_iff_left (fine_ok _)

theorem fine_processClientAllocateRequest :
    Fine (l.processClientAllocateRequest a dirId) ↔ (a.mChannelID ≠ CA_SERVICE_CHANNEL →
      a.getDataSize ≤ 4 ∧ ¬ l.BadPriority a.mChannelID (some dirId)) := by
  unfold processClientAllocateRequest
  by_cases hservice : a.mChannelID = CA_SERVICE_CHANNEL
  · rw [if_pos hservice]
    exact iff_of_true (fine_ok _) fun hne => absurd hservice hne
  · rw [if_neg hservice, fine_bind]
    constructor
    · rintro ⟨prio, hprio, h⟩ -
      obtain ⟨begun, hbegun, -⟩ := fine_bind.mp h
      exact ⟨fine_copyToWord.mp ⟨prio, hprio⟩, (fine_beginAllocateChannel prio).mp ⟨begun, hbegun⟩⟩
    · intro h
      obtain ⟨hword, hbad⟩ := h hservice
      obtain ⟨prio, hprio⟩ := fine_copyToWord.mpr hword
      obtain ⟨begun, hbegun⟩ := (fine_beginAllocateChannel prio).mpr hbad
      refine ⟨prio, hprio, fine_bind.mpr ⟨begun, hbegun, ?_⟩⟩
      have hbegan := beginAllocateChannel_client hbegun
      -- what is sent to the other side has no more data than the request
      have hsize : Sendable (a.setErrorCode begun.2.code) :=
        sendable_setErrorCode.mpr (sendable_of_le hword)
      have hlast : ∀ (l : RawStub) (err : ConnectivityAgentError) (a : CDataAccessor),
          err ≠ .deferred →
          Fine (if err.isNoError = true then (pure (l, a, false) : ClientResult)
            else if err ≠ .deferred then pure (l, a.resetData.setErrorCode err.code, true)
            else .error .assertion) := by
        intro l err a hne
        rw [if_pos hne]
        split <;> exact fine_pure _
      dsimp only
      split
      · obtain ⟨s, hs⟩ : Fine (begun.1.sendRequest (a.setErrorCode begun.2.code)) :=
          fine_sendRequest.mpr hsize
        exact fine_bind.mpr ⟨s, hs, hlast _ _ _ (sendRequest_ne_deferred hs)⟩
      · exact fine_bind.mpr ⟨_, rfl, hlast _ _ _ hbegan⟩

theorem fine_processClientDeallocateRequest :
    Fine (l.processClientDeallocateRequest a dirId) ↔ (a.mChannelID ≠ CA_SERVICE_CHANNEL →
      (l.mL1ChannelRegistry a.mChannelID).isSome → Sendable a) := by
  unfold processClientDeallocateRequest
  by_cases hservice : a.mChannelID ≠ CA_SERVICE_CHANNEL
  · rw [if_pos hservice]
    cases hinfo : l.mL1ChannelRegistry a.mChannelID with
    | none =>
      exact iff_of_true (fine_ok _) fun _ hsome => by cases hsome
    | some info =>
      dsimp only
      rw [fine_bind]
      constructor
      · rintro ⟨s, hs, -⟩ - -
        exact fine_sendRequest.mp ⟨s, hs⟩
      · intro h
        obtain ⟨s, hs⟩ := fine_sendRequest.mpr (h hservice rfl)
        exact ⟨s, hs, fine_pure _⟩
  · rw [if_neg hservice]
    exact iff_of_true (fine_ok _) fun hne => absurd hne hservice

theorem fine_processClientDeallocateByWD :
    Fine (l.processClientDeallocateByWD a dirId) ↔ (a.mChannelID ≠ CA_SERVICE_CHANNEL →
      (l.mL1ChannelRegistry a.mChannelID).isSome → Sendable a) := by
  unfold processClientDeallocateByWD
  by_cases hservice : a.mChannelID ≠ CA_SERVICE_CHANNEL
  · rw [if_pos hservice]
    cases hinfo : l.mL1ChannelRegistry a.mChannelID with
    | none =>
      exact iff_of_true (fine_ok _) fun _ hsome => by cases hsome
    | some info =>
      dsimp only
      rw [fine_bind]
      constructor
      · rintro ⟨s, hs, -⟩ - -
        exact sendable_setOpCode.mp (fine_sendRequest.mp ⟨s, hs⟩)
      · intro h
        obtain ⟨s, hs⟩ := fine_sendRequest.mpr (sendable_setOpCode.mpr (h hservice rfl))
        exact ⟨s, hs, fine_pure _⟩
  · rw [if_neg hservice]
    exact iff_of_true (fine_ok _) fun hne => absurd hne hservice

theorem fine_processClientSendRequest :
    Fine (l.processClientSendRequest a dirId) ↔ (a.mChannelID ≠ CA_SERVICE_CHANNEL →
      (l.mL1ChannelRegistry a.mChannelID).isSome → a.getDataSize ≤ MAX_SIZE) := by
  unfold processClientSendRequest
  dsimp only
  split
  · rename_i hboth
    rw [fine_check]
    exact ⟨fun h _ _ => h.1, fun h => ⟨h hboth.1 hboth.2, fine_ok _⟩⟩
  · rename_i hneither
    exact iff_of_true (fine_ok _) fun hne hsome => absurd ⟨hne, hsome⟩ hneither

theorem fine_processClientGetDeviceList : Fine (l.processClientGetDeviceList a dirId) := by
  unfold processClientGetDeviceList
  split
  · exact fine_ok _
  · rename_i hword
    obtain ⟨number, hnumber⟩ := fine_dataWord.mpr (Nat.not_lt.mp hword)
    refine fine_bind.mpr ⟨number, hnumber, ?_⟩
    split <;> exact fine_pure _

/-- **A handler of a client's request faults on sizes it does not check and on a bad priority.** -/
theorem fine_callClient : Fine (l.callClient a dirId) ↔ l.ClientHarmless a dirId := by
  unfold callClient mClientsCallbacksMap
  by_cases hallocate : a.mOperation = E_ALLOCATE_CHANNEL
  · rw [if_pos hallocate]
    refine fine_processClientAllocateRequest.trans ⟨fun h => ⟨fun _ => h, ?_, ?_⟩,
      fun h => h.priority hallocate⟩
    · intro h
      rw [hallocate] at h
      exact absurd h (by decide)
    · intro h
      rw [hallocate] at h
      exact absurd h (by decide)
  · rw [if_neg hallocate]
    by_cases hdeallocate : a.mOperation = E_DEALLOCATE_CHANNEL
    · rw [if_pos hdeallocate]
      exact fine_processClientDeallocateRequest.trans
        ⟨fun h => ⟨fun h' => absurd h' hallocate, fun _ => h,
          fun h' => absurd (h'.symm.trans hdeallocate) (by decide)⟩,
          fun h => h.forwarded (.inl hdeallocate)⟩
    · rw [if_neg hdeallocate]
      by_cases hsend : a.mOperation = E_SEND_DATA
      · rw [if_pos hsend]
        refine fine_processClientSendRequest.trans
          ⟨fun h => ⟨fun h' => absurd h' hallocate, ?_, fun _ => h⟩, fun h => h.sent hsend⟩
        rintro (h' | h')
        · exact absurd h' hdeallocate
        · exact absurd (h'.symm.trans hsend) (by decide)
      · rw [if_neg hsend]
        -- of the others only the watchdog's request is sent on
        have hother : a.mOperation ≠ E_DEALLOCATE_CHANNEL_WATCHDOG → l.ClientHarmless a dirId := by
          intro hwatchdog
          exact ⟨fun h' => absurd h' hallocate, fun h' => (h'.elim hdeallocate hwatchdog).elim,
            fun h' => absurd h' hsend⟩
        by_cases haddr : a.mOperation = E_GET_CONNECTION_ADDR
        · rw [if_pos haddr]
          exact iff_of_true (fine_ok _) (hother (haddr ▸ by decide))
        · rw [if_neg haddr]
          by_cases hwatchdog : a.mOperation = E_DEALLOCATE_CHANNEL_WATCHDOG
          · rw [if_pos hwatchdog]
            exact fine_processClientDeallocateByWD.trans
              ⟨fun h => ⟨fun h' => absurd h' hallocate, fun _ => h, fun h' => absurd h' hsend⟩,
                fun h => h.forwarded (.inr hwatchdog)⟩
          · rw [if_neg hwatchdog]
            refine iff_of_true ?_ (hother hwatchdog)
            by_cases hconnect : a.mOperation = E_CONNECT_DEVICE
            · rw [if_pos hconnect]
              exact fine_ok _
            · rw [if_neg hconnect]
              by_cases hdisconnect : a.mOperation = E_DISCONNECT_DEVICE
              · rw [if_pos hdisconnect]
                exact fine_ok _
              · rw [if_neg hdisconnect]
                by_cases hlist : a.mOperation = E_GET_DEVICE_LIST
                · rw [if_pos hlist]
                  exact fine_processClientGetDeviceList
                · rw [if_neg hlist]
                  exact fine_ok _

/-- A payload that does no harm. -/
structure PayloadHarmless (l : RawStub) (pPayload : List UInt8) (dirId : ClientDirection) :
    Prop where
  complete : Complete pPayload
  request : l.ClientHarmless (requestOf pPayload) dirId

theorem fine_OnAsyncRequest {pPayload : List UInt8} :
    Fine (l.OnAsyncRequest pPayload dirId) ↔ l.PayloadHarmless pPayload dirId := by
  unfold OnAsyncRequest
  rw [fine_bind]
  constructor
  · rintro ⟨pReq, hreq, h⟩
    have hcomplete := fine_construct.mp ⟨pReq, hreq⟩
    rw [construct_eq hcomplete] at hreq
    obtain rfl := Except.ok.inj hreq
    obtain ⟨r, hr, -⟩ := fine_bind.mp h
    exact ⟨hcomplete, fine_callClient.mp ⟨r, hr⟩⟩
  · intro h
    obtain ⟨r, hr⟩ := fine_callClient.mpr h.request
    exact ⟨_, construct_eq h.complete, fine_bind.mpr ⟨r, hr, fine_pure _⟩⟩

theorem copyOut_ok {capacity : Nat} (h : a.getObjectSize ≤ capacity) :
    copyOut a capacity = .ok a.raw := if_pos h

/-- The response is only copied where the caller has room for it. -/
theorem fine_OnRequest {pPayload : List UInt8} (bufferSize : Nat) :
    Fine (l.OnRequest pPayload bufferSize dirId) ↔ l.PayloadHarmless pPayload dirId := by
  unfold OnRequest
  rw [fine_bind]
  constructor
  · rintro ⟨pReq, hreq, h⟩
    have hcomplete := fine_construct.mp ⟨pReq, hreq⟩
    rw [construct_eq hcomplete] at hreq
    obtain rfl := Except.ok.inj hreq
    obtain ⟨r, hr, -⟩ := fine_bind.mp h
    exact ⟨hcomplete, fine_callClient.mp ⟨r, hr⟩⟩
  · intro h
    obtain ⟨r, hr⟩ := fine_callClient.mpr h.request
    refine ⟨_, construct_eq h.complete, fine_bind.mpr ⟨r, hr, ?_⟩⟩
    dsimp only
    split
    · rename_i hroom
      exact fine_bind.mpr ⟨_, copyOut_ok hroom.2, fine_pure _⟩
    · exact fine_pure _

/-! ## Everything that arrives -/

/-- What is asked of bytes from outside so that nothing happens. -/
def Harmless (l : RawStub) : Arrival → Prop
  | .serviceData buffer => l.BufferHarmless buffer
  | .request pPayload _ dirId => l.PayloadHarmless pPayload dirId
  | .asyncRequest pPayload dirId => l.PayloadHarmless pPayload dirId

/-- **Bytes from outside do no harm exactly if they keep to what nobody checks.** -/
theorem handle_fine_iff (l : RawStub) (x : Arrival) : Fine (l.handle x) ↔ l.Harmless x := by
  cases x with
  | serviceData buffer => exact fine_receiveServiceData
  | request pPayload bufferSize dirId =>
    refine Iff.trans ?_ (fine_OnRequest bufferSize)
    unfold handle
    rw [fine_bind]
    exact ⟨fun ⟨r, hr, _⟩ => ⟨r, hr⟩, fun ⟨r, hr⟩ => ⟨r, hr, fine_pure _⟩⟩
  | asyncRequest pPayload dirId => exact fine_OnAsyncRequest

theorem transitionAgent_requested : tChannelState.transitionAgent = .transitionClient
    ∨ tChannelState.transitionAgent = .transitionAgent :=
  .inr rfl

/-- A connected agent that has been asked by the other side for channel 5, with priority 3. -/
def asked : RawStub where
  mL1ChannelRegistry := fun _ => none
  mRequestedMap := fun c =>
    if c = 5 then some ⟨3, .transitionAgent, -1, transitionAgent_requested⟩ else none
  channelAllocator := ⟨some .init⟩
  hasBuffer := []
  sent := []
  device := []
  connection := ([], .notFound)

def someClient : ClientDirection := ⟨1, by decide⟩

/-- Allocate channel 6, with eight bytes of priority. -/
def longPriority : List UInt8 := le32 1 ++ le32 6 ++ le32 8 ++ le32 0 ++ List.replicate 8 0

/-- Allocate channel 5. -/
def opening : List UInt8 := le32 1 ++ le32 5 ++ le32 4 ++ le32 0 ++ le32 0

/-- A service message that tells of 1000 bytes of data and has none. -/
def lyingSize : List UInt8 := [0, 18, 0, 0, 0, 1, 0, 0, 0, 6, 0, 0, 3, 0xe8, 0, 0, 0, 0]

/-- **Four kinds of bytes that do harm**: a payload too short for an accessor, a priority longer
than a word, a channel opened with a priority that has no list, and data that is not there. -/
theorem bytes_do_harm :
    asked.handle (.asyncRequest (List.replicate 8 0) someClient) = .error .assertion
      ∧ asked.handle (.request longPriority 4096 someClient) = .error .overCopy
      ∧ asked.handle (.request opening 4096 someClient) = .error .badIndex
      ∧ ¬ Fine (asked.handle (.serviceData lyingSize)) := by
  refine ⟨rfl, rfl, rfl, ?_⟩
  intro h
  obtain ⟨-, ⟨hread, -, -⟩⟩ := fine_receiveServiceData.mp h
  exact absurd hread (by decide)

end RawStub

end IviLink.L1
