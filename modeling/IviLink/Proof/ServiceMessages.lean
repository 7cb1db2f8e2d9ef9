import IviLink.Proof.Decoder

/-!
# Service messages, one after the other

What `sendRequest` encodes, `receiveData` decodes: the header of each message and its
data come back (`message_encode`), and the next message is found behind them. What
a handler is called with is still not always its own message. The accessor is one
for the whole buffer, and a message without data leaves in it what the handler of
the message before has left there.

`Stale` follows, over the messages, whether there is something left. It is the only
way that a message is seen wrong (`messages_exactly_once`).
-/

namespace IviLink.L1.RawStub

open IviLink.Common IviLink.Lib

variable {l : RawStub} {a m : CDataAccessor}

/-! ## One message -/

@[simp] theorem ofBE32_be32 (x : UInt32) : ofBE32 (be32 x) = x := by
  unfold ofBE32 be32
  rw [ofLE32_le32, swap32_swap32]

@[simp] theorem length_be32 (x : UInt32) : (be32 x).length = 4 := length_le32 _

@[simp] theorem length_header (m : CDataAccessor) : (header m).length = 18 := by
  unfold header
  simp only [List.length_append, length_le16, length_be32]

theorem length_encode (m : CDataAccessor) : (encode m).length = 18 + m.getDataSize := by
  unfold encode CDataAccessor.getDataSize
  rw [List.length_append, length_header]

/-- The words of a message, where `decode` looks for them. -/
theorem header_words (m : CDataAccessor) (rest : List UInt8) :
    (encode m ++ rest).take 2 = le16 (swap16 (UInt16.ofNat (m.getObjectSize + 2)))
      ∧ ((encode m ++ rest).drop 2).take 4 = be32 m.mOperation
      ∧ ((encode m ++ rest).drop 6).take 4 = be32 m.mChannelID
      ∧ ((encode m ++ rest).drop 10).take 4 = be32 (UInt32.ofNat m.getDataSize)
      ∧ ((encode m ++ rest).drop 14).take 4 = be32 m.mErrorCode
      ∧ (encode m ++ rest).drop 18 = m.mpData ++ rest := by
  have hsplit : encode m ++ rest = le16 (swap16 (UInt16.ofNat (m.getObjectSize + 2)))
      ++ (be32 m.mOperation ++ (be32 m.mChannelID ++ (be32 (UInt32.ofNat m.getDataSize)
        ++ (be32 m.mErrorCode ++ (m.mpData ++ rest))))) := by
    unfold encode header
    simp only [List.append_assoc]
  have h2 := congrArg (List.drop 2) hsplit
  rw [List.drop_left' (length_le16 _)] at h2
  have h6 := congrArg (List.drop 4) h2
  rw [List.drop_drop, List.drop_left' (length_be32 _)] at h6
  have h10 := congrArg (List.drop 4) h6
  rw [List.drop_drop, List.drop_left' (length_be32 _)] at h10
  have h14 := congrArg (List.drop 4) h10
  rw [List.drop_drop, List.drop_left' (length_be32 _)] at h14
  have h18 := congrArg (List.drop 4) h14
  rw [List.drop_drop, List.drop_left' (length_be32 _)] at h18
  refine ⟨?_, ?_, ?_, ?_, ?_, h18⟩
  · rw [hsplit, List.take_left' (length_le16 _)]
  · rw [h2, List.take_left' (length_be32 _)]
  · rw [h6, List.take_left' (length_be32 _)]
  · rw [h10, List.take_left' (length_be32 _)]
  · rw [h14, List.take_left' (length_be32 _)]

theorem dataSize_encode (hm : Sendable m) (rest : List UInt8) :
    dataSize (encode m ++ rest) = m.getDataSize := by
  obtain ⟨-, -, -, hsize, -, -⟩ := header_words m rest
  unfold Sendable CDataAccessor.getObjectSize MAX_SIZE at hm
  unfold dataSize
  rw [hsize, ofBE32_be32, UInt32.toNat_ofNat']
  exact Nat.mod_eq_of_lt (by omega)

theorem readable_encode (hm : Sendable m) (rest : List UInt8) : Readable (encode m ++ rest) where
  inside := by
    rw [dataSize_encode hm, List.length_append, length_encode]
    omega
  length := by
    obtain ⟨hlength, -⟩ := header_words m rest
    unfold Sendable CDataAccessor.getObjectSize MAX_SIZE at hm
    unfold bufLength CDataAccessor.getObjectSize at *
    rw [hlength, ofLE16_le16, swap16_swap16, UInt16.toNat_ofNat', List.length_append,
      length_encode]
    have hmod : (m.getDataSize + 4 * 4 + 2) % 65536 ≤ m.getDataSize + 4 * 4 + 2 := Nat.mod_le _ _
    show (m.getDataSize + 4 * 4 + 2) % 65536 ≤ _
    omega

/-- **What was encoded is what is decoded.** -/
theorem message_encode (hm : Sendable m) (rest : List UInt8) :
    message (encode m ++ rest) = m ∧ behind (encode m ++ rest) = rest := by
  obtain ⟨-, hop, hchannel, -, herr, hdata⟩ := header_words m rest
  refine ⟨?_, ?_⟩
  · unfold message
    rw [hop, hchannel, herr, hdata, dataSize_encode hm, ofBE32_be32, ofBE32_be32, ofBE32_be32]
    unfold CDataAccessor.getDataSize
    rw [List.take_left]
  · unfold behind
    rw [dataSize_encode hm, ← List.drop_drop, hdata]
    unfold CDataAccessor.getDataSize
    exact List.drop_left

/-! ## What is left in the accessor -/

/-- Whether there is data in the accessor behind a message, if there was before it or not. -/
def staleAfter (stale : Bool) (m : CDataAccessor) : Bool :=
  if m.mOperation = E_ALLOCATE_CHANNEL then false
  else if m.mOperation = E_DEALLOCATE_CHANNEL then true
  else stale || !m.mpData.isEmpty

/-- There is data in the accessor behind these messages. -/
def Stale (stale : Bool) (ms : List CDataAccessor) : Prop := ms.foldl staleAfter stale = true

/-- The handlers return from each of these messages. -/
def Served : RawStub → List CDataAccessor → Prop
  | _, [] => True
  | l, m :: ms => l.ServiceHarmless m ∧
      ∀ l' left, l.callService m = .ok (l', left) → Served l' ms

theorem refill_eq_iff : refill a m = m ↔ (m.mpData = [] → a.mpData = []) := by
  unfold refill CDataAccessor.setData
  cases hdata : m.mpData with
  | nil =>
    rw [if_neg (by simp)]
    constructor
    · intro h _
      have := congrArg CDataAccessor.mpData h
      rwa [hdata] at this
    · intro h
      rw [h rfl, ← hdata]
  | cons b bs =>
    rw [if_pos (by simp)]
    refine iff_of_true ?_ (fun h => by cases h)
    rw [← hdata]

theorem refill_isEmpty : (refill a m).mpData.isEmpty = (a.mpData.isEmpty && m.mpData.isEmpty) := by
  unfold refill CDataAccessor.setData
  cases m.mpData with
  | nil => simp
  | cons b bs => simp

theorem refill_operation : (refill a m).mOperation = m.mOperation := by
  unfold refill CDataAccessor.setData
  split <;> rfl

theorem known_refill : Known (refill a m) ↔ Known m := by
  unfold Known
  rw [refill_operation]

theorem sendable_refill (ha : Sendable a) (hm : Sendable m) : Sendable (refill a m) := by
  unfold refill CDataAccessor.setData
  split
  · exact hm
  · exact ha

/-- What a handler leaves, as far as it matters. -/
theorem stale_left {l' : RawStub} {left : CDataAccessor}
    (h : l.callService (refill a m) = .ok (l', left)) :
    (!left.mpData.isEmpty) = staleAfter (!a.mpData.isEmpty) m := by
  obtain ⟨hallocate, hdeallocate, hother⟩ := callService_left h
  rw [refill_operation] at hallocate hdeallocate hother
  unfold staleAfter
  by_cases h₁ : m.mOperation = E_ALLOCATE_CHANNEL
  · rw [if_pos h₁]
    simp only at hallocate
    rw [hallocate h₁]
    rfl
  · rw [if_neg h₁]
    by_cases h₂ : m.mOperation = E_DEALLOCATE_CHANNEL
    · rw [if_pos h₂]
      have hfour : left.mpData.length = 4 := hdeallocate h₂
      cases hleft : left.mpData with
      | nil =>
        rw [hleft] at hfour
        cases hfour
      | cons b bs => rfl
    · rw [if_neg h₂]
      have hsame : left.mpData = (refill a m).mpData := hother h₁ h₂
      rw [hsame, refill_isEmpty, Bool.not_and]

/-! ## All messages -/

/-- A message without a handler changes nothing. -/
theorem callService_unknown (h : ¬ Known m) : l.callService m = .ok (l, m) := by
  unfold Known at h
  unfold callService
  cases hm : mServiceCallbacksMap m.mOperation with
  | none => rfl
  | some _ =>
    rw [hm] at h
    exact absurd rfl h

/-- The loop on the first message. -/
theorem receiveLoop_encode (hm : Sendable m) (rest : List UInt8) :
    l.receiveLoop a (encode m ++ rest) =
      match l.callService (refill a m) with
      | .error f => (called (refill a m), .error f)
      | .ok (l, left) =>
        if rest = [] then (called (refill a m), .ok l)
        else (called (refill a m) ++ (l.receiveLoop left rest).1, (l.receiveLoop left rest).2) := by
  obtain ⟨hmessage, hbehind⟩ := message_encode hm rest
  have hseen : seen a (encode m ++ rest) = refill a m := by
    unfold seen
    rw [hmessage]
  have hloop := receiveLoop_readable (l := l) (a := a) (readable_encode hm rest)
  rw [hseen, hbehind] at hloop
  exact hloop

/-- The calls behind a message that was handled. -/
theorem calls_next {l' : RawStub} {left : CDataAccessor} (hm : Sendable m)
    (hcall : l.callService (refill a m) = .ok (l', left)) (ms : List CDataAccessor) :
    (l.receiveLoop a (encode m ++ ms.flatMap encode)).1
      = called (refill a m) ++ (l'.receiveLoop left (ms.flatMap encode)).1 := by
  rw [receiveLoop_encode hm, hcall]
  dsimp only
  split
  · rename_i hend
    have hunreadable : ¬ Readable (ms.flatMap encode) := by
      intro h
      have := h.inside
      rw [hend, List.length_nil] at this
      omega
    obtain ⟨f, hf⟩ := receiveLoop_unreadable (l := l') (a := left) hunreadable
    rw [hf, List.append_nil]
  · rfl

/-- The first call, whatever comes of it. -/
theorem calls_head (hm : Sendable m) (rest : List UInt8) :
    ∃ more, (l.receiveLoop a (encode m ++ rest)).1 = called (refill a m) ++ more := by
  rw [receiveLoop_encode hm]
  cases l.callService (refill a m) with
  | error f => exact ⟨[], (List.append_nil _).symm⟩
  | ok r =>
    dsimp only
    split
    · exact ⟨[], (List.append_nil _).symm⟩
    · exact ⟨_, rfl⟩

/-- No message is seen with data of another, and the handlers return from all before it. -/
def Undisturbed (l : RawStub) (stale : Bool) (ms : List CDataAccessor) : Prop :=
  ∀ pre m post, ms = pre ++ m :: post → Known m →
    (m.mpData = [] → ¬ Stale stale pre) ∧ l.Served pre

/-- The messages behind one that was handled are served as if they were the first. -/
theorem served_cons {l' : RawStub} {left : CDataAccessor} (hm : Sendable m)
    (hcall : l.callService m = .ok (l', left)) (ms : List CDataAccessor) :
    l.Served (m :: ms) ↔ l'.Served ms := by
  constructor
  · intro h
    exact h.2 l' left hcall
  · intro h
    refine ⟨(fine_callService hm).mp ⟨_, hcall⟩, fun l'' left' hleft => ?_⟩
    rw [hcall] at hleft
    obtain ⟨rfl, rfl⟩ := Prod.mk.inj (Except.ok.inj hleft)
    exact h

theorem undisturbed_nil {stale : Bool} : l.Undisturbed stale [] := by
  intro pre m post h
  exact absurd h (by simp)

/-- What is asked of a list is asked of its first message and of the others behind it. -/
theorem undisturbed_cons {stale : Bool} {ms : List CDataAccessor} :
    l.Undisturbed stale (m :: ms) ↔ (Known m → m.mpData = [] → stale = false)
      ∧ (∀ pre m' post, ms = pre ++ m' :: post → Known m' →
          (m'.mpData = [] → ¬ Stale (staleAfter stale m) pre) ∧ l.Served (m :: pre)) := by
  constructor
  · intro h
    refine ⟨fun hknown hnil => ?_, fun pre m' post heq hknown => ?_⟩
    · have hstale := (h [] m ms rfl hknown).1 hnil
      exact Bool.eq_false_iff.mpr hstale
    · exact h (m :: pre) m' post (by rw [heq]; rfl) hknown
  · rintro ⟨hfirst, hnext⟩ pre m' post heq hknown
    cases pre with
    | nil =>
      obtain ⟨rfl, -⟩ := List.cons.inj heq
      exact ⟨fun hnil => Bool.eq_false_iff.mp (hfirst hknown hnil), trivial⟩
    | cons m'' pre =>
      obtain ⟨rfl, hrest⟩ := List.cons.inj heq
      exact hnext pre m' post hrest hknown

/-- **The handlers are called once for each message that has one, with its own data**, exactly
if no message is disturbed. -/
theorem calls_iff : ∀ {ms : List CDataAccessor} {l : RawStub} {a : CDataAccessor}, Sendable a →
    (∀ m ∈ ms, Sendable m) → ((l.receiveLoop a (ms.flatMap encode)).1 = ms.filter Known
      ↔ l.Undisturbed (!a.mpData.isEmpty) ms)
  | [], l, a, _, _ => by
      have hunreadable : ¬ Readable [] := by decide
      obtain ⟨f, hf⟩ := receiveLoop_unreadable (l := l) (a := a) hunreadable
      rw [List.flatMap_nil, hf]
      exact iff_of_true rfl undisturbed_nil
  | m :: ms, l, a, ha, hms => by
      have hm := hms m List.mem_cons_self
      have hms' : ∀ m' ∈ ms, Sendable m' := fun m' h => hms m' (List.mem_cons_of_mem _ h)
      have hsend := sendable_refill ha hm
      rw [List.flatMap_cons, undisturbed_cons]
      by_cases hknown : Known m
      · have hcalled : called (refill a m) = [refill a m] := if_pos (known_refill.mpr hknown)
        have hfilter : (m :: ms).filter Known = m :: ms.filter Known :=
          List.filter_cons_of_pos (decide_eq_true hknown)
        by_cases hown : m.mpData = [] → a.mpData = []
        · have hrefill : refill a m = m := refill_eq_iff.mpr hown
          have hfirst : Known m → m.mpData = [] → (!a.mpData.isEmpty) = false := by
            intro _ hnil
            rw [hown hnil]
            rfl
          rw [and_iff_right hfirst, hfilter]
          by_cases hharmless : l.ServiceHarmless m
          · obtain ⟨⟨l', left⟩, hcall⟩ := (fine_callService hm).mpr hharmless
            have hcall' : l.callService (refill a m) = .ok (l', left) := by
              rw [hrefill]
              exact hcall
            rw [calls_next hm hcall', hcalled, hrefill, List.singleton_append,
              List.cons_inj_right, calls_iff (sendable_left hm hcall) hms', stale_left hcall']
            unfold Undisturbed
            simp only [served_cons hm hcall]
          · -- the handler does not return, and no message that has one must follow
            have hcalls : (l.receiveLoop a (encode m ++ ms.flatMap encode)).1 = [m] := by
              rw [receiveLoop_encode hm, hrefill]
              cases hr : l.callService m with
              | error f => rw [← hrefill, hcalled, hrefill]
              | ok r => exact absurd ((fine_callService hm).mp ⟨r, hr⟩) hharmless
            rw [hcalls, List.cons_inj_right, eq_comm, List.filter_eq_nil_iff]
            constructor
            · intro h pre m' post heq hknown'
              refine absurd (decide_eq_true hknown') (h m' ?_)
              rw [heq]
              exact List.mem_append_right _ List.mem_cons_self
            · intro h m' hmem hknown'
              obtain ⟨pre, post, heq⟩ := List.append_of_mem hmem
              exact hharmless (h pre m' post heq (of_decide_eq_true hknown')).2.1
        · -- the call is made with what was left
          obtain ⟨more, hmore⟩ := calls_head (l := l) (a := a) hm (ms.flatMap encode)
          rw [hmore, hcalled, hfilter]
          refine iff_of_false ?_ ?_
          · intro h
            exact hown (refill_eq_iff.mp (List.cons.inj h).1)
          · rintro ⟨hfirst, -⟩
            refine hown fun hnil => ?_
            have hempty := hfirst hknown hnil
            rwa [Bool.not_eq_false', List.isEmpty_iff] at hempty
      · have hcalled : called (refill a m) = [] :=
          if_neg fun h => hknown (known_refill.mp h)
        have hfilter : (m :: ms).filter Known = ms.filter Known :=
          List.filter_cons_of_neg (by simpa using hknown)
        have hcall := callService_unknown (l := l) hknown
        have hcall' : l.callService (refill a m) = .ok (l, refill a m) :=
          callService_unknown fun h => hknown (known_refill.mp h)
        have hfirst : Known m → m.mpData = [] → (!a.mpData.isEmpty) = false :=
          fun h => absurd h hknown
        rw [and_iff_right hfirst, hfilter, calls_next hm hcall', hcalled, List.nil_append,
          calls_iff hsend hms', stale_left hcall']
        unfold Undisturbed
        simp only [served_cons hm hcall]

/-- Messages that fit one buffer fit one each. -/
theorem sendable_of_fits {ms : List CDataAccessor} (hsize : (ms.flatMap encode).length ≤ MAX_SIZE) :
    ∀ m ∈ ms, Sendable m := by
  intro m hm
  obtain ⟨pre, post, rfl⟩ := List.append_of_mem hm
  rw [List.flatMap_append, List.flatMap_cons, List.length_append, List.length_append,
    length_encode] at hsize
  unfold Sendable CDataAccessor.getObjectSize
  omega

/-- The answer to a deallocation, with the code of its result as data. -/
def deallocated : CDataAccessor := ⟨E_DEALLOCATE_CHANNEL_RESP, 7, 0, le32 11⟩

/-- The answer to an allocation, which has no data. -/
def allocated : CDataAccessor := ⟨E_ALLOCATE_CHANNEL_RESP, 9, 0, []⟩

end IviLink.L1.RawStub
