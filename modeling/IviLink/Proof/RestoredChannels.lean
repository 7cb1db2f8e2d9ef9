import IviLink.Common.ProxyBuffers

/-!
# A channel that could not be deleted is put back

While `deallocateChannel` waits for its result, the entry of its channel is in the
local `info` of the call, and nothing else knows the array of its buffer: a
notification for the channel finds no entry. When the call fails it puts the entry
back as it was, unless the channel has been allocated again in the meantime. Then
the new entry stays, the client is told `ERROR_NOT_FOUND`, and the old buffer goes
when the call returns.

Owners of an array are the registry entries and the calls' `info`s. That each array
has one owner, and each of them an array that is there, is kept by every step; what
a step leaves alone is the same lemma for all of them (`next_keeps`).
-/

namespace IviLink.Common.ProxyBuffers

open IviLink.Lib
open ProxyCalls (Phase resultOf erase)

/-- What may hold a buffer. -/
inductive Owner
  | entry (channel_id : UInt32)
  /-- The local `info` of a call. -/
  | info (call : Nat)
  deriving DecidableEq

/-- What it holds. -/
def State.held (s : State) : Owner → Option tChannelInfo
  | .entry channel_id => s.mChannelRegistry channel_id
  | .info call => (s.calls call).bind Call.info

/-- The array of the buffer. -/
def tChannelInfo.data (info : tChannelInfo) : Option Nat := info.mChannelBuffer.data

def State.Owns (s : State) (o : Owner) (a : Nat) : Prop :=
  ∃ info, s.held o = some info ∧ info.data = some a

/-- The bytes that are there for the client of a channel. -/
def State.contents (s : State) (channel_id : UInt32) : Option (List UInt8) :=
  (s.mChannelRegistry channel_id).bind fun info => info.mChannelBuffer.contents s.memory

def State.phase (s : State) (call : Nat) : Option Phase := (s.calls call).map Call.phase

/-- No array was freed twice or used after it was freed, each array that is there has exactly one
owner, and no owner has one that is not there. -/
structure OneOwner (s : State) : Prop where
  clean : s.memory.fault = false
  owner : ∀ a, s.memory.cell a ≠ none → ∃! o, s.Owns o a
  live : ∀ o a, s.Owns o a → s.memory.cell a ≠ none

/-- The channel is as it was. -/
def Restored (s s' : State) (channel_id : UInt32) : Prop :=
  s'.mChannelRegistry channel_id = s.mChannelRegistry channel_id
    ∧ s'.contents channel_id = s.contents channel_id

/-- The other channels are as they were. -/
def Spares (s s' : State) (channel_id : UInt32) : Prop :=
  ∀ i, i ≠ channel_id → Restored s s' i

/-- The call an event is a step of. -/
def Event.caller : Event → Option Nat
  | .deallocateChannel call _ | .deallocateChannelForcibly call _ | .requestDone call _
  | .requestFailed call | .take call | .restore call | .finish call => some call
  | _ => none

/-- What a call that could not delete its channel leaves behind, where `s` is the state in which
it began and `t` the one in which it puts its channel back. -/
structure Afterwards (s t t' : State) (call : Nat) (channel_id error : UInt32) : Prop where
  /-- The channel is as it was. -/
  restored : t.mChannelRegistry channel_id = none →
    Restored s t' channel_id ∧ t'.phase call = some (.leaving error)
  /-- A channel that was allocated again stays as it is now. The old one is left to the end of
  the call. -/
  replaced : t.mChannelRegistry channel_id ≠ none →
    t'.mChannelRegistry = t.mChannelRegistry ∧ t'.memory = t.memory
      ∧ t'.held (.info call) = s.mChannelRegistry channel_id
      ∧ t'.phase call = some (.leaving ConnectivityAgentError.notFound.code)

/-- Whatever goes on during a call of `deallocateChannel` that begins in `s`, a failure does no
harm. -/
structure PutsBack (s : State) (call : Nat) (channel_id : UInt32) : Prop where
  /-- A call that is refused at once changes nothing. -/
  refused : ∀ s', next s (.deallocateChannel call channel_id) = some s' →
    s.mpIpc = false ∨ s.mChannelRegistry channel_id = none →
      s'.mChannelRegistry = s.mChannelRegistry ∧ s'.memory = s.memory
  /-- No step of the call touches another channel. -/
  begins : ∀ s', next s (.deallocateChannel call channel_id) = some s' → Spares s s' channel_id
  spares : ∀ mid t ev t', run next s (.deallocateChannel call channel_id :: mid) = some t →
    ev.caller = some call → next t ev = some t' → Spares t t' channel_id
  /-- A call with an error for its result goes on to put its channel back. -/
  fails : ∀ mid t error, run next s (.deallocateChannel call channel_id :: mid) = some t →
    t.phase call = some (.result error) → error ≠ ConnectivityAgentError.noError.code →
      ∃ t', next t (.restore call) = some t' ∧ Afterwards s t t' call channel_id error

/-- What holds of an array and the buffer that points to it. -/
def Fits (info : tChannelInfo) (arr : List UInt8) : Prop :=
  arr.length = info.mChannelBuffer.allocated_size
    ∧ info.mChannelBuffer.filled_size ≤ info.mChannelBuffer.allocated_size

/-- The call has not put its channel back yet. -/
def Call.Early (c : Call) : Prop :=
  match c.phase with
  | .requesting | .waiting | .result _ => True
  | .leaving _ | .returned _ => False

abbrev State.Owned (s : State) : Prop := Heap.Owned tChannelInfo.data Fits s.memory s.held

structure Inv (s : State) : Prop where
  owned : s.Owned
  /-- Entries have memory, -/
  backed : ∀ channel_id info, s.mChannelRegistry channel_id = some info → info.data ≠ none
  /-- and so has what may have to be put back. -/
  kept : ∀ call c info, s.calls call = some c → c.Early → c.info = some info → info.data ≠ none

/-- What a step keeps: the ownership, and what is with the owners that it does not touch. -/
structure Keeps (touched : Owner → Prop) (s s' : State) : Prop where
  owned : s'.Owned
  backed : ∀ channel_id info, s'.mChannelRegistry channel_id = some info → info.data ≠ none
  frame : ∀ o, ¬ touched o → s'.held o = s.held o ∧
    ∀ info a, s.held o = some info → info.data = some a → s'.memory.cell a = s.memory.cell a

/-! ## Who holds what -/

section Held

variable {s s' : State} {call : Nat} {c d : Call} {channel_id : UInt32}

theorem calls_setCall : (s.setCall call c).calls call = some c := Function.update_self ..

theorem held_setCall : (s.setCall call c).held = Function.update s.held (.info call) c.info := by
  funext o
  cases o with
  | entry i => exact (Function.update_of_ne (by simp) ..).symm
  | info i =>
    by_cases hi : i = call
    · subst hi
      simp only [State.held, State.setCall, Function.update_self, Option.bind_some]
    · have hne : Owner.info i ≠ .info call := by simpa using hi
      simp only [State.held, State.setCall, Function.update_of_ne hi, Function.update_of_ne hne]

theorem held_setEntry {info : Option tChannelInfo} : (s.setEntry channel_id info).held =
    Function.update s.held (.entry channel_id) info := by
  funext o
  cases o with
  | info i => exact (Function.update_of_ne (by simp) ..).symm
  | entry i =>
    by_cases hi : i = channel_id
    · subst hi
      simp only [State.held, State.setEntry, Function.update_self]
    · have hne : Owner.entry i ≠ .entry channel_id := by simpa using hi
      simp only [State.held, State.setEntry, Function.update_of_ne hi, Function.update_of_ne hne]

/-- A call that keeps its `info`. -/
theorem held_setCall_of_info (hc : s.calls call = some c) (hinfo : d.info = c.info) :
    (s.setCall call d).held = s.held := by
  rw [held_setCall, hinfo]
  refine Function.update_eq_self_iff.mpr ?_
  simp only [State.held, hc, Option.bind_some]

/-- A call that begins without one. -/
theorem held_setCall_new (hc : s.calls call = none) (hinfo : c.info = none) :
    (s.setCall call c).held = s.held := by
  rw [held_setCall, hinfo]
  refine Function.update_eq_self_iff.mpr ?_
  simp only [State.held, hc, Option.bind_none]

/-- A step that neither moves a buffer nor uses the memory. -/
theorem Keeps.same {touched : Owner → Prop} (h : Inv s) (hm : s'.memory = s.memory)
    (hb : s'.held = s.held) : Keeps touched s s' where
  owned := by
    unfold State.Owned
    rw [hm, hb]
    exact h.owned
  backed := by
    intro i info hi
    exact h.backed i info ((congrFun hb (.entry i)).symm.trans hi)
  frame := fun o _ => ⟨by rw [hb], fun info a _ _ => by rw [hm]⟩

/-- A step at one entry, which has memory afterwards or is gone. -/
theorem Keeps.entry (h : Inv s) {new : Option tChannelInfo}
    (hb : s'.held = Function.update s.held (.entry channel_id) new)
    (howned : Heap.Owned tChannelInfo.data Fits s'.memory
      (Function.update s.held (.entry channel_id) new))
    (hnew : ∀ info, new = some info → info.data ≠ none)
    (hcells : ∀ o info a, o ≠ .entry channel_id → s.held o = some info → info.data = some a →
      s'.memory.cell a = s.memory.cell a) : Keeps (· = .entry channel_id) s s' where
  owned := by
    unfold State.Owned
    rw [hb]
    exact howned
  backed := by
    intro i info hi
    have hi := (congrFun hb (.entry i)).symm.trans hi
    by_cases hne : Owner.entry i = .entry channel_id
    · rw [hne, Function.update_self] at hi
      exact hnew info hi
    · rw [Function.update_of_ne hne] at hi
      exact h.backed i info hi
  frame := by
    intro o ho
    refine ⟨?_, fun info a => hcells o info a ho⟩
    rw [hb, Function.update_of_ne ho]

end Held

/-! ## The steps that use the memory -/

section Memory

variable {s s' : State} {call : Nat} {c : Call} {channel_id : UInt32} {info : tChannelInfo}

/-- `reserveSize` leaves its owner with an array. -/
theorem owned_reserveSize {m : Heap} {holds : Owner → Option tChannelInfo} {o : Owner}
    {b : Buffer} {size : Nat} {new : tChannelInfo}
    (h : Heap.Owned tChannelInfo.data Fits m holds)
    (hb : (holds o = none ∧ b = .new) ∨
      ∃ info, holds o = some info ∧ info.mChannelBuffer = b ∧ b.data ≠ none)
    (hnew : new.mChannelBuffer = (b.reserveSize m size).1) :
    Heap.Owned tChannelInfo.data Fits (b.reserveSize m size).2
        (Function.update holds o (some new))
      ∧ new.data ≠ none
      ∧ ∀ o' d a, o' ≠ o → holds o' = some d → d.data = some a →
        (b.reserveSize m size).2.cell a = m.cell a := by
  have hlen : (List.replicate size (0 : UInt8)).length = size := List.length_replicate
  have hfresh : ∀ o' d a, holds o' = some d → d.data = some a → a ≠ m.next := by
    rintro o' d a hd ha rfl
    obtain ⟨arr, harr, -⟩ := h.live o' d m.next hd ha
    exact absurd ((h.fresh m.next (Nat.le_refl _)).symm.trans harr) (by simp)
  unfold tChannelInfo.data Fits at *
  rcases hb with ⟨ho, rfl⟩ | ⟨info, ho, rfl, hdata⟩
  · rw [Buffer.reserveSize, if_pos (Or.inl (show Buffer.new.data = none from rfl))] at hnew ⊢
    rw [hnew]
    refine ⟨h.alloc ?_ (by rw [hnew]; rfl) ?_, by simp, ?_⟩
    · intro b hb
      rw [ho] at hb
      cases hb
    · rw [hnew]
      exact ⟨hlen, Nat.zero_le _⟩
    · intro o' d a _ hd ha
      exact Heap.cell_alloc_of_ne (hfresh o' d a hd ha)
  · obtain ⟨x, hx⟩ := Option.ne_none_iff_exists'.mp hdata
    obtain ⟨arr, harr, hsize, hfilled⟩ := h.live o info x ho hx
    by_cases hsmall : info.mChannelBuffer.allocated_size < size
    · -- the old array is freed first
      have hfreed := h.free ho hx
        (some { info with mChannelBuffer := { info.mChannelBuffer with data := none } }) (by
          rintro c hc
          obtain rfl := Option.some.inj hc
          rfl)
      have hnext : (m.free x).next = m.next := by rw [Heap.free_eq harr]
      rw [Buffer.reserveSize, if_pos (Or.inr hsmall), Buffer.destroy, hx] at hnew ⊢
      refine ⟨?_, by rw [hnew]; simp, ?_⟩
      · have halloc := hfreed.alloc (i := o) (c := new) (by
            intro c hc
            rw [Function.update_self] at hc
            obtain rfl := Option.some.inj hc
            rfl) (by rw [hnew]) (by
            show Fits new (List.replicate size 0)
            unfold Fits
            rw [hnew]
            exact ⟨hlen, Nat.le_of_lt (Nat.lt_of_le_of_lt hfilled hsmall)⟩)
        rwa [Function.update_idem] at halloc
      · intro o' d a ho' hd ha
        have hne : a ≠ (m.free x).next := hnext ▸ hfresh o' d a hd ha
        exact (Heap.cell_alloc_of_ne hne).trans
          (Heap.cell_free_of_ne (h.ne ho' hd ho ha hx))
    · rw [Buffer.reserveSize, if_neg (by simp [hx, hsmall])] at hnew ⊢
      have hnew : new.mChannelBuffer = info.mChannelBuffer := hnew
      refine ⟨?_, hnew ▸ hdata, fun _ _ _ _ _ _ => rfl⟩
      -- the array stays, under what may be another client
      refine h.set (some new) h.clean h.fresh (fun _ _ _ => rfl) ?_ ?_
      · intro b a hb ha
        obtain rfl := Option.some.inj hb
        rw [hnew] at ha ⊢
        exact ⟨Or.inl ⟨info, ho, ha⟩, h.live o info a ho ha⟩
      · intro b a hb ha hnone
        obtain rfl := Option.some.inj (ho.symm.trans hb)
        exact absurd (hnew ▸ ha) (hnone new rfl)

/-- The entry of an allocated channel. -/
theorem keeps_receiveAllocateChannelResponse {errorCode : UInt32} (h : Inv s) :
    Keeps (· = .entry channel_id) s (s.receiveAllocateChannelResponse channel_id errorCode) := by
  unfold State.receiveAllocateChannelResponse
  cases hreq : s.mAllocateRequestMap channel_id with
  | none => exact .same h rfl rfl
  | some request =>
    by_cases hok : errorCode = ConnectivityAgentError.noError.code
    · simp only [if_pos hok]
      have hheld : (s.held (.entry channel_id) = none ∧ s.bufferAt channel_id = .new) ∨
          ∃ info, s.held (.entry channel_id) = some info
            ∧ info.mChannelBuffer = s.bufferAt channel_id
            ∧ (s.bufferAt channel_id).data ≠ none := by
        unfold State.bufferAt
        cases hreg : s.mChannelRegistry channel_id with
        | none => exact Or.inl ⟨hreg, rfl⟩
        | some info => exact Or.inr ⟨info, hreg, rfl, h.backed _ _ hreg⟩
      generalize hr : (s.bufferAt channel_id).reserveSize s.memory MAX_SIZE = r
      obtain ⟨howned, hdata, hcells⟩ := owned_reserveSize h.owned hheld
        (show (tChannelInfo.mk request.mType request.mpClient r.1).mChannelBuffer
          = ((s.bufferAt channel_id).reserveSize s.memory MAX_SIZE).1 by rw [hr])
      rw [hr] at howned hcells
      refine .entry h (held_setEntry (s := { s with mAllocateRequestMap := _ })) howned ?_ hcells
      intro b hb
      obtain rfl := Option.some.inj hb
      exact hdata
    · simp only [if_neg hok]
      exact .same h rfl rfl

/-- A notification takes the entry away, and its array with it. -/
theorem keeps_channelDeletedNotification (h : Inv s) :
    Keeps (· = .entry channel_id) s (s.channelDeletedNotification channel_id) := by
  unfold State.channelDeletedNotification
  cases hreg : s.mChannelRegistry channel_id with
  | none =>
    by_cases hmem : channel_id ∈ s.mChannelOnDeallocSet
    · simp only [if_pos hmem]
      exact .same h rfl rfl
    · simp only [if_neg hmem]
      exact .same h rfl rfl
  | some info =>
    have hb : s.held (.entry channel_id) = some info := hreg
    obtain ⟨a, ha⟩ := Option.ne_none_iff_exists'.mp (h.backed _ _ hreg)
    have hdestroy : info.mChannelBuffer.destroy s.memory = s.memory.free a := by
      rw [Buffer.destroy, show info.mChannelBuffer.data = some a from ha]
    simp only [hdestroy]
    refine .entry h (held_setEntry (s := s)) (h.owned.free hb ha none fun _ hc => nomatch hc)
      (fun _ hc => nomatch hc) ?_
    intro o b x ho hbo hx
    exact Heap.cell_free_of_ne (h.owned.ne ho hbo hb hx ha)

/-- What is written into the array of an entry. -/
theorem Keeps.write (h : Inv s) {a : Nat} {arr : List UInt8} (off filled : Nat)
    (bytes : List UInt8) (hreg : s.mChannelRegistry channel_id = some info)
    (ha : info.mChannelBuffer.data = some a) (harr : s.memory.cell a = some arr)
    (hfits : off + bytes.length ≤ arr.length) (hfilled : filled ≤ info.mChannelBuffer.allocated_size)
    (hmem : s'.memory = s.memory.write (some a) off bytes)
    (hheld : s'.held = Function.update s.held (.entry channel_id) (some { info with
      mChannelBuffer := ⟨info.mChannelBuffer.allocated_size, filled, some a⟩ })) :
    Keeps (· = .entry channel_id) s s' := by
  have hb : s.held (.entry channel_id) = some info := hreg
  obtain ⟨arr', harr', hsize, -⟩ := h.owned.live _ _ a hb ha
  obtain rfl := Option.some.inj (harr.symm.trans harr')
  refine .entry h hheld ?_ ?_ ?_
  · rw [hmem]
    refine h.owned.write hb ha harr hfits rfl ⟨?_, hfilled⟩
    rw [length_writeAt hfits, hsize]
  · intro b hb'
    obtain rfl := Option.some.inj hb'
    simp [tChannelInfo.data]
  · intro o b x ho hbo hx
    rw [hmem]
    exact Heap.cell_write_of_ne (h.owned.ne ho hbo hb hx ha)

/-- Data is appended to the buffer of its channel, or dropped. -/
theorem keeps_receiveDataNotification {accessor : CDataAccessor} (h : Inv s) :
    Keeps (· = .entry accessor.mChannelID) s (s.receiveDataNotification accessor) := by
  unfold State.receiveDataNotification
  cases hreg : s.mChannelRegistry accessor.mChannelID with
  | none =>
    simp only [hreg]
    exact .same h rfl rfl
  | some info =>
    by_cases hfull : info.mChannelBuffer.allocated_size - info.mChannelBuffer.filled_size
        < accessor.getDataSize
    · simp only [hreg, if_pos hfull]
      exact .same h rfl rfl
    · have hb : s.held (.entry accessor.mChannelID) = some info := hreg
      obtain ⟨a, ha⟩ := Option.ne_none_iff_exists'.mp (h.backed _ _ hreg)
      have ha : info.mChannelBuffer.data = some a := ha
      obtain ⟨arr, harr, hsize, hfilled⟩ := h.owned.live _ _ a hb ha
      have hroom : ¬ accessor.mpData.length
          > info.mChannelBuffer.allocated_size - info.mChannelBuffer.filled_size := hfull
      simp only [hreg, if_neg hfull, Buffer.appendData, if_neg hroom, ha]
      exact .write h info.mChannelBuffer.filled_size
        (info.mChannelBuffer.filled_size + accessor.mpData.length) accessor.mpData hreg ha harr
        (by omega) (by omega) rfl held_setEntry

/-- The client takes data out of the buffer of its channel. -/
theorem keeps_receiveData {max_size : Nat} (h : Inv s) :
    Keeps (· = .entry channel_id) s (s.receiveData channel_id max_size).1 := by
  unfold State.receiveData
  cases hreg : s.mChannelRegistry channel_id with
  | none => exact .same h rfl rfl
  | some info =>
    have hb : s.held (.entry channel_id) = some info := hreg
    obtain ⟨a, ha⟩ := Option.ne_none_iff_exists'.mp (h.backed _ _ hreg)
    have ha : info.mChannelBuffer.data = some a := ha
    obtain ⟨arr, harr, hsize, hfilled⟩ := h.owned.live _ _ a hb ha
    have harray : info.mChannelBuffer.array s.memory = some arr := by
      rw [Buffer.array, ha, Option.bind_some, harr]
    have htouch : s.memory.touch (some a) info.mChannelBuffer.filled_size = s.memory :=
      Heap.touch_eq harr (by omega)
    by_cases hempty : info.mChannelBuffer.filled_size = 0
    · simp only [if_pos hempty]
      exact .same h rfl rfl
    · simp only [if_neg hempty, harray, Option.getD_some, ha, htouch]
      by_cases hmore : info.mChannelBuffer.filled_size > max_size
      · simp only [if_pos hmore]
        refine .write h 0 (info.mChannelBuffer.filled_size - max_size) _ hreg ha harr ?_ (by omega)
          rfl held_setEntry
        rw [List.length_drop, List.length_take]
        omega
      · simp only [if_neg hmore]
        refine .write h 0 0 _ hreg ha harr ?_ (Nat.zero_le _) rfl held_setEntry
        rw [List.length_replicate]
        omega

/-- The buffer of an entry goes to a call that begins. -/
theorem keeps_deallocateChannel (h : Inv s) (hnew : s.calls call = none) :
    Keeps (fun o => o = .entry channel_id ∨ o = .info call) s
      (s.deallocateChannel call channel_id) := by
  unfold State.deallocateChannel
  by_cases hipc : s.connectIpcIfNecessary.isNoError = true
  · have hgo : (!s.connectIpcIfNecessary.isNoError) = true ↔ False := by simp [hipc]
    simp only [hgo, if_false]
    cases hreg : s.mChannelRegistry channel_id with
    | none => exact .same h rfl (held_setCall_new hnew rfl)
    | some info =>
      have hb : s.held (.entry channel_id) = some info := hreg
      have hnone : s.held (.info call) = none := by
        simp only [State.held, hnew, Option.bind_none]
      have hmove := h.owned.move (i := .entry channel_id) (j := .info call) (by simp) hb
        (fun c hc => by rw [hnone] at hc; cases hc) none (fun _ hc => nomatch hc)
      have hheld : ((s.setEntry channel_id none).setCall call
          ⟨channel_id, false, some info, .requesting⟩).held =
          Function.update (Function.update s.held (.entry channel_id) none) (.info call)
            (some info) := by
        rw [held_setCall, held_setEntry]
      refine ⟨?_, ?_, ?_⟩
      · exact (show Heap.Owned tChannelInfo.data Fits s.memory _ from hheld ▸ hmove)
      · intro i b hi
        have hi := (congrFun hheld (.entry i)).symm.trans hi
        rw [Function.update_of_ne (by simp)] at hi
        by_cases hne : Owner.entry i = .entry channel_id
        · rw [hne, Function.update_self] at hi
          cases hi
        · rw [Function.update_of_ne hne] at hi
          exact h.backed i b hi
      · intro o ho
        push Not at ho
        refine ⟨?_, fun b a _ _ => rfl⟩
        refine (congrFun hheld o).trans ?_
        rw [Function.update_of_ne ho.2, Function.update_of_ne ho.1]
  · have hstop : (!s.connectIpcIfNecessary.isNoError) = true ↔ True := by simpa using hipc
    simp only [hstop, if_true]
    exact .same h rfl (held_setCall_new hnew rfl)

/-- A call that has failed gives its buffer back to the registry, if there is room for it. -/
theorem keeps_restore {error : UInt32} (h : Inv s) (hcall : s.calls call = some c)
    (hinfo : c.info = some info) (hphase : c.phase = .result error) :
    Keeps (fun o => o = .entry c.channel_id ∨ o = .info call) s (s.restore call c info error) := by
  unfold State.restore
  by_cases hok : error = ConnectivityAgentError.noError.code
  · rw [if_pos hok]
    exact .same h rfl (held_setCall_of_info hcall rfl)
  · rw [if_neg hok]
    cases hreg : s.mChannelRegistry c.channel_id with
    | some entry => exact .same h rfl (held_setCall_of_info hcall rfl)
    | none =>
      have hb : s.held (.info call) = some info := by
        simp only [State.held, hcall, Option.bind_some, hinfo]
      have hnone : s.held (.entry c.channel_id) = none := hreg
      have hearly : c.Early := by
        unfold Call.Early
        rw [hphase]
        trivial
      have hmove := h.owned.move (i := .info call) (j := .entry c.channel_id) (by simp) hb
        (fun d hd => by rw [hnone] at hd; cases hd)
        (some { info with mChannelBuffer := info.mChannelBuffer.forgetData })
        (by
          intro d hd
          obtain rfl := Option.some.inj hd
          rfl)
      have hheld : ((s.setEntry c.channel_id (some info)).setCall call
          { c with
            info := some { info with mChannelBuffer := info.mChannelBuffer.forgetData }
            phase := .leaving error }).held =
          Function.update (Function.update s.held (.info call)
            (some { info with mChannelBuffer := info.mChannelBuffer.forgetData }))
            (.entry c.channel_id) (some info) := by
        rw [held_setCall, held_setEntry, Function.update_comm (by simp)]
      refine ⟨?_, ?_, ?_⟩
      · exact (show Heap.Owned tChannelInfo.data Fits s.memory _ from hheld ▸ hmove)
      · intro i b hi
        have hi := (congrFun hheld (.entry i)).symm.trans hi
        by_cases hne : Owner.entry i = .entry c.channel_id
        · rw [hne, Function.update_self] at hi
          obtain rfl := Option.some.inj hi
          exact h.kept call c info hcall hearly hinfo
        · rw [Function.update_of_ne hne, Function.update_of_ne (by simp)] at hi
          exact h.backed i b hi
      · intro o ho
        push Not at ho
        refine ⟨?_, fun b a _ _ => rfl⟩
        rw [hheld, Function.update_of_ne ho.1, Function.update_of_ne ho.2]

/-- When a call returns, what is left in its `info` is freed. -/
theorem keeps_finish {error : UInt32} (h : Inv s) (hcall : s.calls call = some c) :
    Keeps (· = .info call) s (s.finish call c error) := by
  unfold State.finish
  cases hinfo : c.info with
  | none => exact .same h rfl (held_setCall_of_info hcall hinfo.symm)
  | some info =>
    have hb : s.held (.info call) = some info := by
      simp only [State.held, hcall, Option.bind_some, hinfo]
    have hheld : (s.setCall call { c with info := none, phase := .returned error }).held =
        Function.update s.held (.info call) none := held_setCall
    cases hdata : info.mChannelBuffer.data with
    | none =>
      -- the channel was put back
      simp only [Buffer.destroy, hdata]
      refine ⟨?_, h.backed, ?_⟩
      · refine (show Heap.Owned tChannelInfo.data Fits s.memory _ from hheld ▸ ?_)
        refine h.owned.set none h.owned.clean h.owned.fresh (fun _ _ _ => rfl)
          (fun _ _ hc => nomatch hc) ?_
        intro b a hb' ha
        obtain rfl := Option.some.inj (hb.symm.trans hb')
        exact absurd (hdata.symm.trans ha) (by simp)
      · intro o ho
        exact ⟨(congrFun hheld o).trans (Function.update_of_ne ho ..), fun _ _ _ _ => rfl⟩
    | some a =>
      simp only [Buffer.destroy, hdata]
      refine ⟨?_, h.backed, ?_⟩
      · refine (show Heap.Owned tChannelInfo.data Fits (s.memory.free a) _ from hheld ▸ ?_)
        exact h.owned.free hb hdata none (fun _ hc => nomatch hc)
      · intro o ho
        refine ⟨(congrFun hheld o).trans (Function.update_of_ne ho ..), ?_⟩
        intro b x hbo hx
        exact Heap.cell_free_of_ne (h.owned.ne ho hbo hb hx hdata)

end Memory

/-! ## Every step -/

/-- The owners whose buffers an event may move, free or write to. -/
def Touches (s : State) : Event → Owner → Prop
  | .allocateResponse channel_id _, o => o = .entry channel_id
  | .deallocateChannel call channel_id, o => o = .entry channel_id ∨ o = .info call
  | .channelDeleted channel_id, o => o = .entry channel_id
  | .dataNotification accessor, o => o = .entry accessor.mChannelID
  | .receiveData channel_id _, o => o = .entry channel_id
  | .restore call, o =>
    o = .info call ∨ ∃ c, s.calls call = some c ∧ o = .entry c.channel_id
  | .finish call, o => o = .info call
  | _, _ => False

section Steps

variable {s s' : State} {ev : Event} {call : Nat} {c c' : Call}

theorem Keeps.mono {p q : Owner → Prop} (h : Keeps p s s') (hpq : ∀ o, p o → q o) :
    Keeps q s s' :=
  ⟨h.owned, h.backed, fun o ho => h.frame o fun hp => ho (hpq o hp)⟩

/-- **What every step keeps**, and which owners it leaves alone. -/
theorem next_keeps (h : Inv s) (hs : next s ev = some s') : Keeps (Touches s ev) s s' := by
  cases ev with
  | allocateChannel prio channel_id observer =>
    obtain rfl := Option.some.inj hs
    unfold State.allocateChannel
    split
    · exact .same h rfl rfl
    · split
      · exact .same h rfl rfl
      · split <;> exact .same h rfl rfl
  | insertRequest prio channel_id client =>
    simp only [next] at hs
    split at hs
    · obtain rfl := Option.some.inj hs
      unfold State.insertRequest
      split <;> exact .same h rfl rfl
    · cases hs
  | allocateFailed channel_id =>
    simp only [next] at hs
    split at hs
    · cases hs
    · obtain rfl := Option.some.inj hs
      exact .same h rfl rfl
  | allocateResponse channel_id errorCode =>
    obtain rfl := Option.some.inj hs
    exact keeps_receiveAllocateChannelResponse h
  | allocateDone channel_id =>
    simp only [next] at hs
    split at hs
    · cases hs
    · split at hs
      · obtain rfl := Option.some.inj hs
        exact .same h rfl rfl
      · cases hs
  | deallocateChannel call channel_id =>
    simp only [next] at hs
    split at hs
    · cases hs
    · next hnew =>
      obtain rfl := Option.some.inj hs
      exact keeps_deallocateChannel h hnew
  | deallocateChannelForcibly call channel_id =>
    simp only [next] at hs
    split at hs
    · cases hs
    · next hnew =>
      obtain rfl := Option.some.inj hs
      unfold State.deallocateChannelForcibly
      split <;> exact .same h rfl (held_setCall_new hnew rfl)
  | requestDone call errorCode =>
    simp only [next] at hs
    split at hs
    · cases hs
    · next c hcall =>
      split at hs
      · obtain rfl := Option.some.inj hs
        unfold State.requestDone
        split <;> exact .same h rfl (held_setCall_of_info hcall rfl)
      · cases hs
  | requestFailed call =>
    simp only [next] at hs
    split at hs
    · cases hs
    · next c hcall =>
      split at hs
      · obtain rfl := Option.some.inj hs
        unfold State.requestFailed
        split <;> exact .same h rfl (held_setCall_of_info hcall rfl)
      · cases hs
  | deallocateResponse responseDA =>
    simp only [next] at hs
    split at hs
    · obtain rfl := Option.some.inj hs
      exact .same h rfl rfl
    · cases hs
  | channelDeleted channel_id =>
    obtain rfl := Option.some.inj hs
    exact keeps_channelDeletedNotification h
  | dataNotification accessor =>
    obtain rfl := Option.some.inj hs
    exact keeps_receiveDataNotification h
  | receiveData channel_id max_size =>
    obtain rfl := Option.some.inj hs
    exact keeps_receiveData h
  | take call =>
    simp only [next] at hs
    split at hs
    · cases hs
    · next c hcall =>
      split at hs
      · split at hs
        · cases hs
        · obtain rfl := Option.some.inj hs
          exact .same h rfl (held_setCall_of_info hcall rfl)
      · cases hs
  | restore call =>
    simp only [next] at hs
    split at hs
    · cases hs
    · next c hcall =>
      split at hs
      · next info error hinfo hphase =>
        obtain rfl := Option.some.inj hs
        refine (keeps_restore h hcall hinfo hphase).mono ?_
        rintro o (rfl | rfl)
        · exact Or.inr ⟨c, hcall, rfl⟩
        · exact Or.inl rfl
      · cases hs
  | finish call =>
    simp only [next] at hs
    split at hs
    · cases hs
    · next c hcall =>
      split at hs
      · obtain rfl := Option.some.inj hs
        exact keeps_finish h hcall
      · cases hs

/-- A call that goes on: its channel is the same, and so is its `info` until it puts it back. -/
def Call.Later (c c' : Call) : Prop :=
  c'.channel_id = c.channel_id ∧ (c'.Early → c.Early ∧ c'.info = c.info)

theorem Call.Later.refl (c : Call) : c.Later c := ⟨rfl, fun h => ⟨h, rfl⟩⟩

/-- **What a step does to the calls**: at most one of them begins or goes on. -/
theorem next_calls (hs : next s ev = some s') : s'.calls = s.calls ∨
    ∃ call c', s'.calls = Function.update s.calls call (some c') ∧
      ((∃ c, s.calls call = some c ∧ c.Later c') ∨ (s.calls call = none ∧
        ∀ info, c'.info = some info → s.mChannelRegistry c'.channel_id = some info)) := by
  cases ev with
  | allocateChannel prio channel_id observer =>
    obtain rfl := Option.some.inj hs
    refine Or.inl ?_
    unfold State.allocateChannel
    split
    · rfl
    · split
      · rfl
      · split <;> rfl
  | insertRequest prio channel_id client =>
    simp only [next] at hs
    split at hs
    · obtain rfl := Option.some.inj hs
      refine Or.inl ?_
      unfold State.insertRequest
      split <;> rfl
    · cases hs
  | allocateFailed channel_id =>
    simp only [next] at hs
    split at hs
    · cases hs
    · obtain rfl := Option.some.inj hs
      exact Or.inl rfl
  | allocateResponse channel_id errorCode =>
    obtain rfl := Option.some.inj hs
    refine Or.inl ?_
    unfold State.receiveAllocateChannelResponse
    split
    · rfl
    · split <;> rfl
  | allocateDone channel_id =>
    simp only [next] at hs
    split at hs
    · cases hs
    · split at hs
      · obtain rfl := Option.some.inj hs
        exact Or.inl rfl
      · cases hs
  | deallocateChannel call channel_id =>
    simp only [next] at hs
    split at hs
    · cases hs
    · next hnew =>
      obtain rfl := Option.some.inj hs
      unfold State.deallocateChannel
      split
      · exact Or.inr ⟨call, _, rfl, Or.inr ⟨hnew, fun _ h => nomatch h⟩⟩
      · split
        · exact Or.inr ⟨call, _, rfl, Or.inr ⟨hnew, fun _ h => nomatch h⟩⟩
        · next info hreg =>
          exact Or.inr ⟨call, _, rfl, Or.inr ⟨hnew, fun _ h => hreg.trans h⟩⟩
  | deallocateChannelForcibly call channel_id =>
    simp only [next] at hs
    split at hs
    · cases hs
    · next hnew =>
      obtain rfl := Option.some.inj hs
      unfold State.deallocateChannelForcibly
      split <;> exact Or.inr ⟨call, _, rfl, Or.inr ⟨hnew, fun _ h => nomatch h⟩⟩
  | requestDone call errorCode =>
    simp only [next] at hs
    split at hs
    · cases hs
    · next c hcall =>
      split at hs
      · next hphase =>
        obtain rfl := Option.some.inj hs
        have hearly : c.Early := by
          unfold Call.Early
          rw [hphase]
          trivial
        unfold State.requestDone
        split <;> exact Or.inr ⟨call, _, rfl, Or.inl ⟨c, hcall, rfl, fun _ => ⟨hearly, rfl⟩⟩⟩
      · cases hs
  | requestFailed call =>
    simp only [next] at hs
    split at hs
    · cases hs
    · next c hcall =>
      split at hs
      · next hphase =>
        obtain rfl := Option.some.inj hs
        have hearly : c.Early := by
          unfold Call.Early
          rw [hphase]
          trivial
        unfold State.requestFailed
        split <;> exact Or.inr ⟨call, _, rfl, Or.inl ⟨c, hcall, rfl, fun _ => ⟨hearly, rfl⟩⟩⟩
      · cases hs
  | deallocateResponse responseDA =>
    simp only [next] at hs
    split at hs
    · obtain rfl := Option.some.inj hs
      exact Or.inl rfl
    · cases hs
  | channelDeleted channel_id =>
    obtain rfl := Option.some.inj hs
    refine Or.inl ?_
    unfold State.channelDeletedNotification
    split
    · split <;> rfl
    · rfl
  | dataNotification accessor =>
    obtain rfl := Option.some.inj hs
    refine Or.inl ?_
    simp only [State.receiveDataNotification]
    split
    · rfl
    · split <;> rfl
  | receiveData channel_id max_size =>
    obtain rfl := Option.some.inj hs
    refine Or.inl ?_
    simp only [State.receiveData]
    split
    · rfl
    · split
      · rfl
      · split <;> rfl
  | take call =>
    simp only [next] at hs
    split at hs
    · cases hs
    · next c hcall =>
      split at hs
      · next hphase =>
        split at hs
        · cases hs
        · obtain rfl := Option.some.inj hs
          have hearly : c.Early := by
            unfold Call.Early
            rw [hphase]
            trivial
          exact Or.inr ⟨call, _, rfl, Or.inl ⟨c, hcall, rfl, fun _ => ⟨hearly, rfl⟩⟩⟩
      · cases hs
  | restore call =>
    simp only [next] at hs
    split at hs
    · cases hs
    · next c hcall =>
      split at hs
      · obtain rfl := Option.some.inj hs
        unfold State.restore
        split
        · exact Or.inr ⟨call, _, rfl, Or.inl ⟨c, hcall, rfl, fun h => h.elim⟩⟩
        · split <;> exact Or.inr ⟨call, _, rfl, Or.inl ⟨c, hcall, rfl, fun h => h.elim⟩⟩
      · cases hs
  | finish call =>
    simp only [next] at hs
    split at hs
    · cases hs
    · next c hcall =>
      split at hs
      · obtain rfl := Option.some.inj hs
        exact Or.inr ⟨call, _, rfl, Or.inl ⟨c, hcall, rfl, fun h => h.elim⟩⟩
      · cases hs

/-- A call is still there after a step. -/
theorem next_call (hs : next s ev = some s') (hc : s.calls call = some c) :
    ∃ c', s'.calls call = some c' ∧ c.Later c' := by
  rcases next_calls hs with hcalls | ⟨i, d, hcalls, hd⟩
  · exact ⟨c, by rw [hcalls, hc], .refl c⟩
  · by_cases hi : call = i
    · subst hi
      refine ⟨d, by rw [hcalls, Function.update_self], ?_⟩
      rcases hd with ⟨c', hc', hlater⟩ | ⟨hnone, -⟩
      · obtain rfl := Option.some.inj (hc.symm.trans hc')
        exact hlater
      · exact absurd (hc.symm.trans hnone) (by simp)
    · exact ⟨c, by rw [hcalls, Function.update_of_ne hi, hc], .refl c⟩

/-- **Every step keeps the invariant.** -/
theorem inv_next (h : Inv s) (hs : next s ev = some s') : Inv s' := by
  have hkeeps := next_keeps h hs
  refine ⟨hkeeps.owned, hkeeps.backed, ?_⟩
  intro call c' info hc' hearly hinfo
  rcases next_calls hs with hcalls | ⟨i, d, hcalls, hd⟩
  · exact h.kept call c' info (by rw [← hcalls, hc']) hearly hinfo
  · by_cases hi : call = i
    · subst hi
      rw [hcalls, Function.update_self] at hc'
      obtain rfl := Option.some.inj hc'
      rcases hd with ⟨c, hc, -, hlater⟩ | ⟨-, hreg⟩
      · exact h.kept call c info hc (hlater hearly).1 ((hlater hearly).2 ▸ hinfo)
      · exact h.backed _ _ (hreg info hinfo)
    · rw [hcalls, Function.update_of_ne hi] at hc'
      exact h.kept call c' info hc' hearly hinfo

/-- What an early call holds is not touched by a step that leaves it early. -/
theorem not_touches_info (hs : next s ev = some s') (hc : s.calls call = some c)
    (hc' : s'.calls call = some c') (hearly : c'.Early) : ¬ Touches s ev (.info call) := by
  intro htouch
  cases ev with
  | deallocateChannel i channel_id =>
    obtain rfl : call = i := by simpa [Touches] using htouch
    simp only [next, hc] at hs
    cases hs
  | restore i =>
    obtain rfl : call = i := by simpa [Touches] using htouch
    simp only [next, hc] at hs
    split at hs
    · obtain rfl := Option.some.inj hs
      unfold State.restore at hc'
      -- every branch leaves the call behind its result
      split at hc'
      · obtain rfl := Option.some.inj (calls_setCall.symm.trans hc')
        exact hearly
      · split at hc'
        · obtain rfl := Option.some.inj (calls_setCall.symm.trans hc')
          exact hearly
        · obtain rfl := Option.some.inj (calls_setCall.symm.trans hc')
          exact hearly
    · cases hs
  | finish i =>
    obtain rfl : call = i := by simpa [Touches] using htouch
    simp only [next, hc] at hs
    split at hs
    · obtain rfl := Option.some.inj hs
      obtain rfl := Option.some.inj (calls_setCall.symm.trans hc')
      exact hearly
    · cases hs
  | allocateChannel _ _ _ | insertRequest _ _ _ | allocateFailed _ | allocateDone _
  | deallocateChannelForcibly _ _ | requestDone _ _ | requestFailed _ | deallocateResponse _
  | take _ => exact htouch
  | allocateResponse _ _ | channelDeleted _ | dataNotification _ | receiveData _ _ =>
    exact Owner.noConfusion htouch

end Steps

/-! ## Runs -/

section Runs

variable {mpIpc : Bool} {s t t' : State} {es mid : List Event} {ev : Event} {call : Nat}
  {channel_id : UInt32} {info : tChannelInfo}

theorem inv_initial : Inv (.initial mpIpc) where
  owned := by
    have hheld : (State.initial mpIpc).held = fun _ => none := by
      funext o
      cases o <;> rfl
    unfold State.Owned
    rw [hheld]
    exact Heap.owned_empty
  backed := fun _ _ h => nomatch h
  kept := fun _ _ _ h => nomatch h

theorem inv_run (hi : Inv s) (hr : run next s es = some t) : Inv t :=
  run_invariant (P := fun _ _ => True) (fun _ _ _ h _ hs => inv_next h hs) hi
    (along_of_mem fun _ _ _ => trivial) hr

theorem Inv.oneOwner (h : Inv s) : OneOwner s where
  clean := h.owned.clean
  owner := by
    intro a ha
    obtain ⟨o, info, hinfo, hdata⟩ := h.owned.owner a ha
    refine ⟨o, ⟨info, hinfo, hdata⟩, ?_⟩
    rintro p ⟨info', hinfo', hdata'⟩
    exact h.owned.unique p o info' info a hinfo' hinfo hdata' hdata
  live := by
    rintro o a ⟨info, hinfo, hdata⟩
    obtain ⟨arr, harr, -⟩ := h.owned.live o info a hinfo hdata
    simp [harr]

/-- What is untouched has the contents it had. -/
theorem Keeps.restored {touched : Owner → Prop} (h : Keeps touched s t)
    (hi : ¬ touched (.entry channel_id)) (hs : Inv s) : Restored s t channel_id := by
  obtain ⟨hheld, hcells⟩ := h.frame _ hi
  have hreg : t.mChannelRegistry channel_id = s.mChannelRegistry channel_id := hheld
  refine ⟨hreg, ?_⟩
  unfold State.contents
  rw [hreg]
  cases hinfo : s.mChannelRegistry channel_id with
  | none => rfl
  | some info =>
    obtain ⟨a, ha⟩ := Option.ne_none_iff_exists'.mp (hs.backed _ _ hinfo)
    have hdata : info.mChannelBuffer.data = some a := ha
    simp only [Option.bind_some, Buffer.contents, Buffer.array, hdata, hcells info a hinfo ha]

/-! ## The proxy without its memory -/

/-- What a callback of `CConnectivityAgentProxy` is about, if it is about data. -/
def Callback.view : Callback → Option Common.Callback
  | .dataReceived client channel_id read_size => some (.dataReceived client channel_id read_size)
  | .bufferOverflow client channel_id => some (.bufferOverflow client channel_id)
  | .channelDeleted _ _ => none

/-- The data a client can get, and what it was told of it. -/
def State.view (s : State) : CConnectivityAgentProxy where
  mChannelRegistry := fun channel_id => (s.mChannelRegistry channel_id).map fun info =>
    ⟨info.mpClient, info.mChannelBuffer.allocated_size, (s.contents channel_id).getD []⟩
  mCallbacksQueue := s.mCallbacksQueue.filterMap Callback.view

section View

variable {a max_size : Nat} {arr : List UInt8}

theorem Restored.view (h : Restored s t channel_id) :
    t.view.mChannelRegistry channel_id = s.view.mChannelRegistry channel_id := by
  simp only [State.view, h.1, h.2]

/-- A step at one entry is one in the view. -/
theorem Keeps.view (h : Keeps (· = .entry channel_id) s t) (hs : Inv s) :
    t.view.mChannelRegistry = Function.update s.view.mChannelRegistry channel_id
      (t.view.mChannelRegistry channel_id) := by
  funext i
  by_cases hi : i = channel_id
  · rw [hi, Function.update_self]
  · rw [Function.update_of_ne hi]
    exact (h.restored (by simpa using hi) hs).view

/-- An entry, its array and what there is in the view. -/
theorem view_entry (h : Inv s) (hreg : s.mChannelRegistry channel_id = some info) :
    ∃ a arr, info.mChannelBuffer.data = some a ∧ s.memory.cell a = some arr ∧ Fits info arr
      ∧ s.view.mChannelRegistry channel_id = some ⟨info.mpClient,
        info.mChannelBuffer.allocated_size, arr.take info.mChannelBuffer.filled_size⟩ := by
  obtain ⟨a, ha⟩ := Option.ne_none_iff_exists'.mp (h.backed _ _ hreg)
  have ha : info.mChannelBuffer.data = some a := ha
  obtain ⟨arr, harr, hfits⟩ := h.owned.live (.entry channel_id) info a hreg ha
  refine ⟨a, arr, ha, harr, hfits, ?_⟩
  simp only [State.view, State.contents, hreg, Option.map_some, Option.bind_some,
    Buffer.contents, Buffer.array, ha, harr, Option.getD_some]

theorem view_eq {registry : UInt32 → Option Common.tChannelInfo} {queue : List Common.Callback}
    (hr : s.view.mChannelRegistry = registry) (hq : s.view.mCallbacksQueue = queue) :
    s.view = ⟨registry, queue⟩ := by
  rw [← hr, ← hq]

/-- What is in the view after a write to the array of an entry. -/
theorem view_write (off filled : Nat) (bytes : List UInt8) (harr : s.memory.cell a = some arr)
    (hfits : off + bytes.length ≤ arr.length)
    (hmem : t.memory = s.memory.write (some a) off bytes)
    (hreg : t.mChannelRegistry channel_id = some { info with
      mChannelBuffer := ⟨info.mChannelBuffer.allocated_size, filled, some a⟩ }) :
    t.view.mChannelRegistry channel_id = some ⟨info.mpClient,
      info.mChannelBuffer.allocated_size, (writeAt arr off bytes).take filled⟩ := by
  have hcell : t.memory.cell a = some (writeAt arr off bytes) := by
    rw [hmem, Heap.write_eq harr hfits]
    exact Function.update_self ..
  simp only [State.view, State.contents, hreg, Option.map_some, Option.bind_some,
    Buffer.contents, Buffer.array, hcell, Option.getD_some]

/-- **Data arrives** as it does without the memory. -/
theorem view_receiveDataNotification {accessor : CDataAccessor} (h : Inv s) :
    (s.receiveDataNotification accessor).view = s.view.receiveDataNotification accessor := by
  have hkeeps : Keeps (· = .entry accessor.mChannelID) s (s.receiveDataNotification accessor) :=
    keeps_receiveDataNotification h
  have hregistry := hkeeps.view h
  cases hreg : s.mChannelRegistry accessor.mChannelID with
  | none =>
    have hview : s.view.mChannelRegistry accessor.mChannelID = none := by
      simp only [State.view, hreg, Option.map_none]
    simp only [State.receiveDataNotification, hreg, CConnectivityAgentProxy.receiveDataNotification,
      hview]
  | some info =>
    obtain ⟨a, arr, ha, harr, ⟨hsize, hfilled⟩, hview⟩ := view_entry h hreg
    have hlen : (arr.take info.mChannelBuffer.filled_size).length
        = info.mChannelBuffer.filled_size := by
      rw [List.length_take]
      omega
    have hfree : ChannelBuffer.freeSize ⟨info.mChannelBuffer.allocated_size,
        arr.take info.mChannelBuffer.filled_size⟩
        = info.mChannelBuffer.allocated_size - info.mChannelBuffer.filled_size := by
      simp only [ChannelBuffer.freeSize, ChannelBuffer.getFilledSize, hlen]
    by_cases hfull : info.mChannelBuffer.allocated_size - info.mChannelBuffer.filled_size
        < accessor.getDataSize
    · rw [CConnectivityAgentProxy.receiveDataNotification_full hview (hfree ▸ hfull)]
      simp only [State.receiveDataNotification, hreg, if_pos hfull, State.view,
        List.filterMap_append]
      rfl
    · have hroom : accessor.getDataSize
          ≤ info.mChannelBuffer.allocated_size - info.mChannelBuffer.filled_size :=
        Nat.le_of_not_lt hfull
      have hdata : accessor.getDataSize = accessor.mpData.length := rfl
      rw [CConnectivityAgentProxy.receiveDataNotification_room hview (hfree ▸ hroom)]
      have hstep : s.receiveDataNotification accessor =
          { s.setEntry accessor.mChannelID (some { info with
              mChannelBuffer := ⟨info.mChannelBuffer.allocated_size,
                info.mChannelBuffer.filled_size + accessor.mpData.length, some a⟩ }) with
            memory := s.memory.write (some a) info.mChannelBuffer.filled_size accessor.mpData
            mCallbacksQueue := s.mCallbacksQueue
              ++ [.dataReceived info.mpClient accessor.mChannelID accessor.getDataSize] } := by
        simp only [State.receiveDataNotification, hreg, if_neg hfull, Buffer.appendData,
          if_neg (show ¬ accessor.mpData.length > _ from hfull), ha]
      have hreg' : (s.receiveDataNotification accessor).mChannelRegistry accessor.mChannelID =
          some { info with mChannelBuffer := ⟨info.mChannelBuffer.allocated_size,
            info.mChannelBuffer.filled_size + accessor.mpData.length, some a⟩ } := by
        rw [hstep]
        exact Function.update_self ..
      have hentry := view_write info.mChannelBuffer.filled_size _ accessor.mpData harr (by omega)
        (by rw [hstep]) hreg'
      rw [take_writeAt (by omega)] at hentry
      rw [hentry] at hregistry
      have hqueue : (s.receiveDataNotification accessor).view.mCallbacksQueue =
          s.view.mCallbacksQueue
            ++ [.dataReceived info.mpClient accessor.mChannelID accessor.getDataSize] := by
        rw [hstep]
        exact List.filterMap_append
      exact view_eq hregistry hqueue

/-- **A client gets** what it gets without the memory. -/
theorem view_receiveData (h : Inv s) :
    ((s.receiveData channel_id max_size).1.view, (s.receiveData channel_id max_size).2)
      = s.view.receiveData channel_id max_size := by
  have hkeeps : Keeps (· = .entry channel_id) s (s.receiveData channel_id max_size).1 :=
    keeps_receiveData h
  have hregistry := hkeeps.view h
  cases hreg : s.mChannelRegistry channel_id with
  | none =>
    have hview : s.view.mChannelRegistry channel_id = none := by
      simp only [State.view, hreg, Option.map_none]
    simp only [State.receiveData, hreg, CConnectivityAgentProxy.receiveData, hview]
  | some info =>
    obtain ⟨a, arr, ha, harr, ⟨hsize, hfilled⟩, hview⟩ := view_entry h hreg
    have hlen : (arr.take info.mChannelBuffer.filled_size).length
        = info.mChannelBuffer.filled_size := by
      rw [List.length_take]
      omega
    have harray : info.mChannelBuffer.array s.memory = some arr := by
      rw [Buffer.array, ha, Option.bind_some, harr]
    have htouch : s.memory.touch (some a) info.mChannelBuffer.filled_size = s.memory :=
      Heap.touch_eq harr (by omega)
    unfold CConnectivityAgentProxy.receiveData
    simp only [hview, ChannelBuffer.getFilledSize, hlen]
    by_cases hempty : info.mChannelBuffer.filled_size = 0
    · simp only [State.receiveData, hreg, if_pos hempty]
    · rw [if_neg hempty]
      by_cases hmore : info.mChannelBuffer.filled_size > max_size
      · -- what is left moves to the front
        have hrest : ((arr.take info.mChannelBuffer.filled_size).drop max_size).length
            = info.mChannelBuffer.filled_size - max_size := by
          rw [List.length_drop, hlen]
        have hstep : s.receiveData channel_id max_size =
            ({ s.setEntry channel_id (some { info with
                mChannelBuffer := ⟨info.mChannelBuffer.allocated_size,
                  info.mChannelBuffer.filled_size - max_size, some a⟩ }) with
              memory := s.memory.write (some a) 0
                ((arr.take info.mChannelBuffer.filled_size).drop max_size) },
              arr.take max_size, .noError) := by
          simp only [State.receiveData, hreg, if_neg hempty, if_pos hmore, harray,
            Option.getD_some, ha, htouch]
        have hreg' : (s.receiveData channel_id max_size).1.mChannelRegistry channel_id =
            some { info with mChannelBuffer := ⟨info.mChannelBuffer.allocated_size,
              info.mChannelBuffer.filled_size - max_size, some a⟩ } := by
          rw [hstep]
          exact Function.update_self ..
        have hentry := view_write 0 _ ((arr.take info.mChannelBuffer.filled_size).drop max_size)
          harr (by rw [hrest]; omega) (by rw [hstep]) hreg'
        have htake := take_writeAt (l := (arr.take info.mChannelBuffer.filled_size).drop max_size)
          (Nat.zero_le arr.length)
        rw [hrest, Nat.zero_add, List.take_zero, List.nil_append] at htake
        rw [htake] at hentry
        rw [hentry] at hregistry
        have hbytes : (arr.take info.mChannelBuffer.filled_size).take max_size
            = arr.take max_size := by
          rw [List.take_take, Nat.min_eq_left (Nat.le_of_lt hmore)]
        rw [if_pos hmore, hbytes]
        refine Prod.ext ?_ (by rw [hstep])
        exact view_eq hregistry (by rw [hstep]; rfl)
      · -- all of it is taken
        have hstep : s.receiveData channel_id max_size =
            ({ s.setEntry channel_id (some { info with
                mChannelBuffer := ⟨info.mChannelBuffer.allocated_size, 0, some a⟩ }) with
              memory := s.memory.write (some a) 0
                (List.replicate info.mChannelBuffer.filled_size 0) },
              arr.take info.mChannelBuffer.filled_size, .noError) := by
          simp only [State.receiveData, hreg, if_neg hempty, if_neg hmore, harray,
            Option.getD_some, ha, htouch]
        have hreg' : (s.receiveData channel_id max_size).1.mChannelRegistry channel_id =
            some { info with
              mChannelBuffer := ⟨info.mChannelBuffer.allocated_size, 0, some a⟩ } := by
          rw [hstep]
          exact Function.update_self ..
        have hentry := view_write 0 0 (List.replicate info.mChannelBuffer.filled_size 0) harr
          (by rw [List.length_replicate]; omega) (by rw [hstep]) hreg'
        rw [List.take_zero] at hentry
        rw [hentry] at hregistry
        have hbytes : (arr.take info.mChannelBuffer.filled_size).take max_size
            = arr.take info.mChannelBuffer.filled_size := by
          rw [List.take_take, Nat.min_eq_right (Nat.le_of_not_lt hmore)]
        rw [if_neg hmore, hbytes]
        refine Prod.ext ?_ (by rw [hstep])
        exact view_eq hregistry (by rw [hstep]; rfl)

end View

/-- The call holds what it has taken out of the registry in state `s`, until it puts it back. -/
def Holding (s : State) (call : Nat) (channel_id : UInt32) (t : State) : Prop :=
  ∃ c, t.calls call = some c ∧ c.channel_id = channel_id ∧ (c.Early → ∃ info, c.info = some info
    ∧ s.mChannelRegistry channel_id = some info
    ∧ ∀ a, info.data = some a → t.memory.cell a = s.memory.cell a)

theorem Holding.next (h : Holding s call channel_id t) (ht : Inv t)
    (hs : ProxyBuffers.next t ev = some t') : Holding s call channel_id t' := by
  obtain ⟨c, hc, hch, hkept⟩ := h
  obtain ⟨c', hc', hid, hlater⟩ := next_call hs hc
  refine ⟨c', hc', hid.trans hch, ?_⟩
  intro hearly
  obtain ⟨hearly', hsame⟩ := hlater hearly
  obtain ⟨info, hinfo, hreg, hcells⟩ := hkept hearly'
  refine ⟨info, hsame.trans hinfo, hreg, ?_⟩
  intro a ha
  have hheld : t.held (.info call) = some info := by
    simp only [State.held, hc, Option.bind_some, hinfo]
  have hframe := (next_keeps ht hs).frame _ (not_touches_info hs hc hc' hearly)
  exact (hframe.2 info a hheld ha).trans (hcells a ha)

/-- A call that is not refused begins with the entry of its channel. -/
theorem holding_deallocateChannel : Holding s call channel_id
    (s.deallocateChannel call channel_id) := by
  unfold State.deallocateChannel
  split
  · exact ⟨_, calls_setCall, rfl, fun h => h.elim⟩
  · split
    · exact ⟨_, calls_setCall, rfl, fun h => h.elim⟩
    · next info hreg =>
      exact ⟨_, calls_setCall, rfl, fun _ => ⟨info, rfl, hreg, fun _ _ => rfl⟩⟩

theorem holding_run (hi : Inv s)
    (hr : run next s (.deallocateChannel call channel_id :: mid) = some t) :
    Inv t ∧ Holding s call channel_id t := by
  obtain ⟨s₁, hs₁, hmid⟩ := run_cons hr
  have hi₁ := inv_next hi hs₁
  simp only [next] at hs₁
  split at hs₁
  · cases hs₁
  · obtain rfl := Option.some.inj hs₁
    have hstep : ∀ u ev u', Inv u ∧ Holding s call channel_id u → True → next u ev = some u' →
        Inv u' ∧ Holding s call channel_id u' :=
      fun u ev u' h _ hu => ⟨inv_next h.1 hu, h.2.next h.1 hu⟩
    exact run_invariant (P := fun _ _ => True) hstep ⟨hi₁, holding_deallocateChannel⟩
      (along_of_mem fun _ _ _ => trivial) hmid

/-- A step of the call is about its own channel. -/
theorem Holding.spares (h : Holding s call channel_id t) (ht : Inv t)
    (hcaller : ev.caller = some call) (hs : ProxyBuffers.next t ev = some t') :
    Spares t t' channel_id := by
  obtain ⟨c, hc, hch, -⟩ := h
  intro i hi
  refine (next_keeps ht hs).restored ?_ ht
  cases ev with
  | deallocateChannel d j =>
    obtain rfl := Option.some.inj hcaller
    simp only [ProxyBuffers.next, hc] at hs
    cases hs
  | restore d =>
    obtain rfl := Option.some.inj hcaller
    rintro (hno | ⟨c', hc', hentry⟩)
    · cases hno
    · obtain rfl := Option.some.inj (hc.symm.trans hc')
      exact hi ((Owner.entry.inj hentry).trans hch)
  | finish d => exact fun hno => nomatch hno
  | deallocateChannelForcibly _ _ | requestDone _ _ | requestFailed _ | take _ => exact id
  | allocateChannel _ _ _ | insertRequest _ _ _ | allocateFailed _ | allocateResponse _ _
  | allocateDone _ | deallocateResponse _ | channelDeleted _ | dataNotification _
  | receiveData _ _ => cases hcaller

/-- What a failed call does with its channel. -/
theorem Holding.afterwards (h : Holding s call channel_id t) (hi : Inv s) {error : UInt32}
    (hphase : t.phase call = some (.result error))
    (hfail : error ≠ ConnectivityAgentError.noError.code) :
    ∃ t', ProxyBuffers.next t (.restore call) = some t'
      ∧ Afterwards s t t' call channel_id error := by
  obtain ⟨c, hc, rfl, hkept⟩ := h
  have hresult : c.phase = .result error := by
    simp only [State.phase, hc, Option.map_some] at hphase
    exact Option.some.inj hphase
  have hearly : c.Early := by
    unfold Call.Early
    rw [hresult]
    trivial
  obtain ⟨info, hinfo, hreg, hcells⟩ := hkept hearly
  refine ⟨t.restore call c info error, ?_, ?_, ?_⟩
  · simp only [ProxyBuffers.next, hc, hinfo, hresult]
  · intro hnone
    unfold State.restore
    rw [if_neg hfail, hnone]
    have hentry : ((t.setEntry c.channel_id (some info)).setCall call { c with
        info := some { info with mChannelBuffer := info.mChannelBuffer.forgetData }
        phase := .leaving error }).mChannelRegistry c.channel_id = some info :=
      Function.update_self ..
    refine ⟨⟨hentry.trans hreg.symm, ?_⟩, by simp only [State.phase, calls_setCall]; rfl⟩
    obtain ⟨a, ha⟩ := Option.ne_none_iff_exists'.mp (hi.backed _ _ hreg)
    have hdata : info.mChannelBuffer.data = some a := ha
    unfold State.contents
    rw [hentry, hreg]
    simp only [Option.bind_some, Buffer.contents, Buffer.array, hdata]
    exact congrArg _ (hcells a ha)
  · intro hsome
    obtain ⟨entry, hentry⟩ := Option.ne_none_iff_exists'.mp hsome
    unfold State.restore
    rw [if_neg hfail, hentry]
    refine ⟨rfl, rfl, ?_, by simp only [State.phase, calls_setCall]; rfl⟩
    simp only [State.held, calls_setCall, Option.bind_some, hinfo, hreg]

/-- **A channel that could not be deleted is put back**, whatever else the client, the agent and
the client's other threads do in the meantime, unless it was allocated again. In every state each
array has one owner. -/
theorem failed_deallocation_puts_back (hr : run next (.initial mpIpc) es = some s) :
    OneOwner s ∧ ∀ call channel_id, PutsBack s call channel_id := by
  have hi := inv_run inv_initial hr
  refine ⟨hi.oneOwner, ?_⟩
  intro call channel_id
  refine ⟨?_, ?_, ?_, ?_⟩
  · intro s' hs hrefused
    simp only [next] at hs
    split at hs
    · cases hs
    · obtain rfl := Option.some.inj hs
      unfold State.deallocateChannel
      rcases hrefused with hipc | hreg
      · have hstop : (!s.connectIpcIfNecessary.isNoError) = true := by
          rw [State.connectIpcIfNecessary, hipc]
          rfl
        rw [if_pos hstop]
        exact ⟨rfl, rfl⟩
      · split
        · exact ⟨rfl, rfl⟩
        · rw [hreg]
          exact ⟨rfl, rfl⟩
  · intro s' hs i hne
    refine (next_keeps hi hs).restored ?_ hi
    simpa [Touches] using hne
  · intro mid t ev t' hmid hcaller hs
    obtain ⟨ht, hholding⟩ := holding_run hi hmid
    exact hholding.spares ht hcaller hs
  · intro mid t error hmid hphase hfail
    exact (holding_run hi hmid).2.afterwards hi hphase hfail

/-- A client opens a channel. -/
def opened : List Event :=
  [.allocateChannel .plainData 5 (some 1), .insertRequest .plainData 5 1, .allocateResponse 5 0,
    .allocateDone 5]

/-- The request to delete it times out. -/
theorem failed_deallocation_puts_back_timeout :
    ∃ s, run next (.initial true) opened = some s ∧ OneOwner s ∧ PutsBack s 0 5 ∧
      ∃ t, run next s [.deallocateChannel 0 5, .requestFailed 0] = some t ∧
        t.phase 0 = some (.result ConnectivityAgentError.requestFailed.code) := by
  have hr : run next (.initial true) opened = some _ := rfl
  have h := failed_deallocation_puts_back hr
  exact ⟨_, hr, h.1, h.2 0 5, _, rfl, rfl⟩

/-- While a request that has timed out is still on its way, the agent deletes the channel and
another thread opens it for another client. The channel stays with the second one. -/
theorem failed_deallocation_of_reallocated_channel :
    ¬ ∀ (es mid : List Event) (s t t' : State) (call : Nat) (channel_id error : UInt32),
      run next (.initial true) es = some s →
      run next s (.deallocateChannel call channel_id :: mid) = some t →
      t.phase call = some (.result error) → error ≠ ConnectivityAgentError.noError.code →
      next t (.restore call) = some t' → Restored s t' channel_id := by
  intro h
  have hrestored := h opened [.requestFailed 0, .allocateChannel .plainData 5 (some 2),
    .insertRequest .plainData 5 2, .allocateResponse 5 0] _ _ _ 0 5
    ConnectivityAgentError.requestFailed.code rfl rfl rfl (by decide) rfl
  exact absurd (congrArg (Option.map tChannelInfo.mpClient) hrestored.1) (by decide)

end Runs

end IviLink.Common.ProxyBuffers
