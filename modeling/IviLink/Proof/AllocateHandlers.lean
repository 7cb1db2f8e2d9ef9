import IviLink.L1.Agents
import IviLink.L1.Rendezvous
import IviLink.Proof.Allocator

/-!
# What the allocation handlers do to a channel

What a stub has in `mRequestedMap` and in `mL1ChannelRegistry` about a channel is one
slot of the rendezvous, and the messages about it are words. A handler changes the one
channel it is called for, and does to its slot what the rendezvous says (`Moved`).
-/

namespace IviLink.L1

open IviLink.Ipc (DirectionId)
open Rendezvous

namespace L1InterfaceStub

/-- What is registered is what is open below. -/
def Served (l : L1InterfaceStub) : Prop :=
  l.channelAllocator.Serves fun c => l.mL1ChannelRegistry c ≠ none

/-- What a stub has about a channel. -/
def At (l : L1InterfaceStub) (c : UInt32) : Slot → Prop
  | .idle => l.mRequestedMap c = none ∧ l.mL1ChannelRegistry c = none
  | .requestedClient => (∃ prio dirId, l.mRequestedMap c = some ⟨prio, .transitionClient, dirId⟩
      ∧ dirId ≠ -1) ∧ l.mL1ChannelRegistry c = none
  | .requestedAgent => (∃ prio, l.mRequestedMap c = some ⟨prio, .transitionAgent, -1⟩)
      ∧ l.mL1ChannelRegistry c = none
  | .client => l.mRequestedMap c = none ∧ ∃ prio dirId,
      l.mL1ChannelRegistry c = some ⟨.transitionClient, prio, dirId⟩ ∧ dirId ≠ -1
  | .agent => l.mRequestedMap c = none ∧ ∃ prio dirId,
      l.mL1ChannelRegistry c = some ⟨.transitionAgent, prio, dirId⟩ ∧ dirId ≠ -1
  | .operational => l.mRequestedMap c = none ∧ ∃ prio dirId,
      l.mL1ChannelRegistry c = some ⟨.operational, prio, dirId⟩ ∧ dirId ≠ -1

/-- A slot depends on the entries of its channel only. -/
theorem At.congr {l l' : L1InterfaceStub} {c : UInt32} {s : Slot} (h : l.At c s)
    (hm : l'.mRequestedMap c = l.mRequestedMap c)
    (hr : l'.mL1ChannelRegistry c = l.mL1ChannelRegistry c) : l'.At c s := by
  cases s <;> simp only [At, hm, hr] <;> exact h

/-- A channel is never both requested and registered. -/
theorem At.apart {l : L1InterfaceStub} {c : UInt32} {s : Slot} (h : l.At c s) :
    l.mRequestedMap c = none ∨ l.mL1ChannelRegistry c = none := by
  cases s with
  | idle => exact .inl h.1
  | requestedClient => exact .inr h.2
  | requestedAgent => exact .inr h.2
  | client => exact .inl h.1
  | agent => exact .inl h.1
  | operational => exact .inl h.1

/-- What is operational is in no other slot. -/
theorem At.eq_operational {l : L1InterfaceStub} {c : UInt32} {s : Slot} (h : l.At c s)
    (ho : l.At c .operational) : s = .operational := by
  obtain ⟨-, prio, dirId, hr, -⟩ := ho
  cases s with
  | idle => exact absurd (hr.symm.trans h.2) (by simp)
  | requestedClient => exact absurd (hr.symm.trans h.2) (by simp)
  | requestedAgent => exact absurd (hr.symm.trans h.2) (by simp)
  | client =>
    obtain ⟨-, prio', dirId', hr', -⟩ := h
    exact absurd (hr.symm.trans hr') (by simp)
  | agent =>
    obtain ⟨-, prio', dirId', hr', -⟩ := h
    exact absurd (hr.symm.trans hr') (by simp)
  | operational => rfl

/-- An open slot is a registered channel of a client. -/
theorem At.registered {l : L1InterfaceStub} {c : UInt32} {s : Slot} (h : l.At c s)
    (ho : s.isOpen = true) : ∃ info, l.mL1ChannelRegistry c = some info ∧ info.mClientDir ≠ -1 := by
  cases s with
  | idle => exact absurd ho (by decide)
  | requestedClient => exact absurd ho (by decide)
  | requestedAgent => exact absurd ho (by decide)
  | client =>
    obtain ⟨-, prio, dirId, hr, hd⟩ := h
    exact ⟨_, hr, hd⟩
  | agent =>
    obtain ⟨-, prio, dirId, hr, hd⟩ := h
    exact ⟨_, hr, hd⟩
  | operational =>
    obtain ⟨-, prio, dirId, hr, hd⟩ := h
    exact ⟨_, hr, hd⟩

end L1InterfaceStub

/-- A message of an allocation, as a word about its channel. -/
def ServiceMessage.word : ServiceMessage → Option (UInt32 × Word)
  | .allocateChannel c _ errorCode => if errorCode.isNoError then some (c, .request) else none
  | .allocateChannelResp c errorCode =>
    some (c, if errorCode.isNoError then .granted else .refused)
  | _ => none

/-- The words about a channel. -/
def wordsOn (c : UInt32) (ms : List ServiceMessage) : List Word :=
  ms.filterMap fun m => m.word.bind fun x => if x.1 = c then some x.2 else none

theorem wordsOn_append (c : UInt32) (ms ns : List ServiceMessage) :
    wordsOn c (ms ++ ns) = wordsOn c ms ++ wordsOn c ns :=
  List.filterMap_append

/-- Only allocations of other channels than the service channel. -/
def Allocating (ms : List ServiceMessage) : Prop :=
  ∀ m ∈ ms, ∃ c word, m.word = some (c, word) ∧ c ≠ CA_SERVICE_CHANNEL

/-- The word that tells a client of success. -/
def success (c : UInt32) : ClientMessage := .allocateChannelResp c .noError

namespace L1InterfaceStub

/-- A handler called for a channel has moved its slot, said the words, and left everything about
other channels as it was. -/
structure Moved (l : L1InterfaceStub) (r : Handled) (c : UInt32) (s : Slot) (words : List Word) :
    Prop where
  slot : r.state.At c s
  words : wordsOn c r.sent = words
  others : ∀ c', c' ≠ c → r.state.mRequestedMap c' = l.mRequestedMap c'
    ∧ r.state.mL1ChannelRegistry c' = l.mL1ChannelRegistry c'
  silent : ∀ c', c' ≠ c → wordsOn c' r.sent = []
  allocating : c ≠ CA_SERVICE_CHANNEL → Allocating r.sent
  served : r.state.Served
  told : ∀ c' dirId, (dirId, success c') ∈ r.told → c' = c ∧ s = .operational
  announced : s = .operational → (∃ dirId, (dirId, success c) ∈ r.told) ∨ l.At c .operational

/-! ## What the handlers do to a slot -/

/-- Nothing but an answer to the client that is no success. -/
theorem moved_same {l : L1InterfaceStub} {c : UInt32} {s : Slot} (hs : l.Served) (ha : l.At c s)
    (told : List (DirectionId × ClientMessage))
    (ht : ∀ c' dirId, (dirId, success c') ∉ told) : Moved l ⟨l, [], told⟩ c s [] where
  slot := ha
  words := rfl
  others := fun _ _ => ⟨rfl, rfl⟩
  silent := fun _ _ => rfl
  allocating := fun _ _ hm => absurd hm List.not_mem_nil
  served := hs
  told := fun c' dirId hm => absurd hm (ht c' dirId)
  announced := fun heq => .inr (heq ▸ ha)

theorem wordsOn_sendRequest (env : Env) (m : ServiceMessage) (c : UInt32) :
    wordsOn c (sendRequest env m).1 = if env.hasBuffer then wordsOn c [m] else [] := by
  rw [sendRequest]
  split <;> rfl

theorem allocating_sendRequest {env : Env} {m : ServiceMessage} {c : UInt32} {word : Word}
    (h : m.word = some (c, word)) (hc : c ≠ CA_SERVICE_CHANNEL) :
    Allocating (sendRequest env m).1 := by
  intro m' hm
  rw [sendRequest] at hm
  split at hm
  · rw [List.mem_singleton.mp hm]
    exact ⟨c, word, h, hc⟩
  · exact absurd hm List.not_mem_nil

theorem wordsOn_self {m : ServiceMessage} {c : UInt32} {word : Word} (h : m.word = some (c, word)) :
    wordsOn c [m] = [word] := by
  simp [wordsOn, h]

theorem wordsOn_other {m : ServiceMessage} {c c' : UInt32} {word : Word}
    (h : m.word = some (c, word)) (hne : c' ≠ c) : wordsOn c' [m] = [] := by
  simp [wordsOn, h, Ne.symm hne]

/-- A message goes out, or finds no buffer, with a new state. -/
theorem moved_send {l l' : L1InterfaceStub} {c : UInt32} {s : Slot} {word : Word} {env : Env}
    {m : ServiceMessage} {told : List (DirectionId × ClientMessage)} (hm : m.word = some (c, word))
    (ha : l'.At c s) (hs : l'.Served)
    (hothers : ∀ c', c' ≠ c → l'.mRequestedMap c' = l.mRequestedMap c'
      ∧ l'.mL1ChannelRegistry c' = l.mL1ChannelRegistry c')
    (ht : ∀ c' dirId, (dirId, success c') ∉ told)
    (hn : s = .operational → l.At c .operational) :
    Moved l ⟨l', (sendRequest env m).1, told⟩ c s (sends env.hasBuffer word) where
  slot := ha
  words := by rw [wordsOn_sendRequest, wordsOn_self hm, sends]
  others := hothers
  silent := fun c' hne => by rw [wordsOn_sendRequest, wordsOn_other hm hne, ite_self]
  allocating := allocating_sendRequest hm
  served := hs
  told := fun c' dirId hm => absurd hm (ht c' dirId)
  announced := fun heq => .inr (hn heq)

/-- A request that is taken up is open at once. -/
theorem allocateChannelLocally_spec {l : L1InterfaceStub} {c : UInt32}
    (info : tRequestedChannelInfo) (hs : l.Served) (hr : l.mL1ChannelRegistry c = none)
    (hi : info.mState = .transitionAgent ∨ info.mState = .transitionClient) :
    ∃ l', l.allocateChannelLocally c info = some (l', .noError)
      ∧ l'.mRequestedMap = l.mRequestedMap
      ∧ l'.mL1ChannelRegistry = Function.update l.mL1ChannelRegistry c
          (some ⟨info.mState, info.mType, info.mClientDir⟩) ∧ l'.Served := by
  obtain ⟨hresult, hserves⟩ := CChannelAllocator.Serves.allocateChannel hs c (fun h => h hr)
    info.mType
  refine ⟨{ l with
    channelAllocator := (l.channelAllocator.allocateChannel info.mType c).1
    mL1ChannelRegistry := Function.update l.mL1ChannelRegistry c
      (some ⟨info.mState, info.mType, info.mClientDir⟩) }, ?_, rfl, rfl, ?_⟩
  · simp [allocateChannelLocally, hr, hi, hresult, ConnectivityAgentError.isNoError]
  · refine hserves.congr fun c' => ?_
    by_cases hc : c' = c
    · subst hc
      simp
    · simp [hc]

/-- A client's request, by the slot of its channel. -/
theorem processClientAllocateRequest_moved {l : L1InterfaceStub} {c : UInt32} {s : Slot}
    (hs : l.Served) (ha : l.At c s) (hc : c ≠ CA_SERVICE_CHANNEL) (env : Env)
    (prio : TChannelPriority) {dirId : DirectionId} (hd : 0 < dirId) :
    ∃ r, l.processClientAllocateRequest env c prio dirId = some r
      ∧ Moved l r c (s.request env.hasBuffer).1 (s.request env.hasBuffer).2 := by
  have hd' : dirId ≠ -1 := ne_of_gt (lt_trans (by decide) hd)
  have hother : ∀ err : ConnectivityAgentError, err ≠ .noError →
      ∀ c' d, (d, success c') ∉ [(dirId, ClientMessage.allocateChannelResp c err)] := by
    intro err herr c' d hm
    have heq := List.mem_singleton.mp hm
    injection heq with _ heq
    injection heq with _ heq
    exact herr heq.symm
  cases s with
  | idle =>
    obtain ⟨hm, hr⟩ := ha
    have hbegin : l.beginAllocateChannel prio c true dirId = some ({ l with
        mRequestedMap := Function.update l.mRequestedMap c
          (some ⟨prio, .transitionClient, dirId⟩) }, .noError, dirId) := by
      simp [beginAllocateChannel, hm, hr, hd']
    have hmove : ∀ told : List (DirectionId × ClientMessage),
        (∀ c' d, (d, success c') ∉ told) →
        Moved l ⟨{ l with
            mRequestedMap := Function.update l.mRequestedMap c
              (some ⟨prio, .transitionClient, dirId⟩) },
          (sendRequest env (.allocateChannel c prio .noError)).1, told⟩ c .requestedClient
          (sends env.hasBuffer .request) := fun told ht =>
      moved_send rfl ⟨⟨prio, dirId, Function.update_self .., hd'⟩, hr⟩ hs
        (fun c' hne => ⟨Function.update_of_ne hne .., rfl⟩) ht
        fun heq => absurd heq (by decide)
    rw [processClientAllocateRequest, if_neg hc, hbegin]
    cases hb : env.hasBuffer with
    | true =>
      have hmove := hmove [] fun _ _ => List.not_mem_nil
      rw [sendRequest, hb] at hmove
      exact ⟨_, by simp [sendRequest, hb, ConnectivityAgentError.isNoError], hmove⟩
    | false =>
      have hmove := hmove [(dirId, .allocateChannelResp c .noFreeBuffersLeft)]
        (hother _ (by decide))
      rw [sendRequest, hb] at hmove
      exact ⟨_, by simp [sendRequest, hb, ConnectivityAgentError.isNoError], hmove⟩
  | requestedAgent =>
    obtain ⟨⟨prio', hm⟩, hr⟩ := ha
    obtain ⟨l', hlocal, hmap, hreg, hs'⟩ := allocateChannelLocally_spec (c := c)
      ⟨prio', .transitionAgent, dirId⟩ hs hr (.inl rfl)
    have hbegin : l.beginAllocateChannel prio c true dirId = some ({ l' with
        mRequestedMap := Function.update l'.mRequestedMap c none }, .noError, dirId) := by
      simp [beginAllocateChannel, hm, hr, hlocal]
    have hmove : ∀ told : List (DirectionId × ClientMessage),
        (∀ c' d, (d, success c') ∉ told) →
        Moved l ⟨{ l' with mRequestedMap := Function.update l'.mRequestedMap c none },
          (sendRequest env (.allocateChannel c prio .noError)).1, told⟩ c .agent
          (sends env.hasBuffer .request) := fun told ht =>
      moved_send rfl
        ⟨Function.update_self .., prio', dirId, by rw [hreg]; exact Function.update_self .., hd'⟩
        hs' (fun c' hne => ⟨by rw [hmap]; exact Function.update_of_ne hne ..,
          by rw [hreg]; exact Function.update_of_ne hne ..⟩) ht fun heq => absurd heq (by decide)
    rw [processClientAllocateRequest, if_neg hc, hbegin]
    cases hb : env.hasBuffer with
    | true =>
      have hmove := hmove [] fun _ _ => List.not_mem_nil
      rw [sendRequest, hb] at hmove
      exact ⟨_, by simp [sendRequest, hb, ConnectivityAgentError.isNoError], hmove⟩
    | false =>
      have hmove := hmove [(dirId, .allocateChannelResp c .noFreeBuffersLeft)]
        (hother _ (by decide))
      rw [sendRequest, hb] at hmove
      exact ⟨_, by simp [sendRequest, hb, ConnectivityAgentError.isNoError], hmove⟩
  | requestedClient =>
    obtain ⟨⟨prio', dirId', hm, hd''⟩, hr⟩ := ha
    refine ⟨_, ?_, moved_same (s := .requestedClient) hs ⟨⟨prio', dirId', hm, hd''⟩, hr⟩ _
      (hother .allocationInProgress (by decide))⟩
    simp [processClientAllocateRequest, hc, beginAllocateChannel, hm, hr,
      ConnectivityAgentError.isNoError]
  | client =>
    obtain ⟨hm, prio', dirId', hr, hd''⟩ := ha
    refine ⟨_, ?_, moved_same (s := .client) hs ⟨hm, prio', dirId', hr, hd''⟩ _
      (hother .channelBusy (by decide))⟩
    simp [processClientAllocateRequest, hc, beginAllocateChannel, hr,
      ConnectivityAgentError.isNoError]
  | agent =>
    obtain ⟨hm, prio', dirId', hr, hd''⟩ := ha
    refine ⟨_, ?_, moved_same (s := .agent) hs ⟨hm, prio', dirId', hr, hd''⟩ _
      (hother .channelBusy (by decide))⟩
    simp [processClientAllocateRequest, hc, beginAllocateChannel, hr,
      ConnectivityAgentError.isNoError]
  | operational =>
    obtain ⟨hm, prio', dirId', hr, hd''⟩ := ha
    refine ⟨_, ?_, moved_same (s := .operational) hs ⟨hm, prio', dirId', hr, hd''⟩ _
      (hother .channelBusy (by decide))⟩
    simp [processClientAllocateRequest, hc, beginAllocateChannel, hr,
      ConnectivityAgentError.isNoError]

/-- A failed allocation leaves nothing of the channel. -/
theorem failAllocateChannel_spec {l : L1InterfaceStub} {c : UInt32} {s : Slot} (hs : l.Served)
    (ha : l.At c s) (dirId : DirectionId) :
    (l.failAllocateChannel c dirId).1.At c .idle
      ∧ (∀ c', c' ≠ c → (l.failAllocateChannel c dirId).1.mRequestedMap c' = l.mRequestedMap c'
        ∧ (l.failAllocateChannel c dirId).1.mL1ChannelRegistry c' = l.mL1ChannelRegistry c')
      ∧ (l.failAllocateChannel c dirId).1.Served := by
  rw [failAllocateChannel]
  cases hr : l.mL1ChannelRegistry c with
  | none =>
    exact ⟨⟨Function.update_self .., hr⟩, fun c' hne => ⟨Function.update_of_ne hne .., rfl⟩, hs⟩
  | some info =>
    refine ⟨⟨Function.update_self .., Function.update_self ..⟩,
      fun c' hne => ⟨Function.update_of_ne hne .., Function.update_of_ne hne ..⟩, ?_⟩
    have hserves := (CChannelAllocator.Serves.deallocateChannel hs c
      (by rw [hr]; exact Option.some_ne_none info)).2
    refine hserves.congr fun c' => ?_
    by_cases hc : c' = c
    · subst hc
      simp
    · simp [hc]

/-- What ends in a failed allocation, with whatever was said to the other side before. -/
theorem moved_fail {l l' : L1InterfaceStub} {c : UInt32} {s : Slot} (hs : l'.Served)
    (ha : l'.At c s) (dirId : DirectionId)
    (hothers : ∀ c', c' ≠ c → l'.mRequestedMap c' = l.mRequestedMap c'
      ∧ l'.mL1ChannelRegistry c' = l.mL1ChannelRegistry c') {err : ConnectivityAgentError}
    (herr : err ≠ .noError) (d : DirectionId) :
    Moved l ⟨(l'.failAllocateChannel c dirId).1, [],
      sendIpcNotification (.allocateChannelResp c err) d⟩ c .idle [] where
  slot := (failAllocateChannel_spec hs ha dirId).1
  words := rfl
  others := fun c' hne =>
    ⟨((failAllocateChannel_spec hs ha dirId).2.1 c' hne).1.trans (hothers c' hne).1,
      ((failAllocateChannel_spec hs ha dirId).2.1 c' hne).2.trans (hothers c' hne).2⟩
  silent := fun _ _ => rfl
  allocating := fun _ _ hm => absurd hm List.not_mem_nil
  served := (failAllocateChannel_spec hs ha dirId).2.2
  told := by
    intro c' dirId' hm
    rw [sendIpcNotification] at hm
    split at hm
    · injection List.mem_singleton.mp hm with _ heq
      injection heq with _ heq
      exact absurd heq.symm herr
    · exact absurd hm List.not_mem_nil
  announced := nofun

/-- A request of the other side, by the slot of its channel. It has not asked before. -/
theorem processServiceAllocateRequest_moved {l : L1InterfaceStub} {c : UInt32} {s : Slot}
    (hs : l.Served) (ha : l.At c s) (hne : s ≠ .requestedAgent) (env : Env)
    (prio : TChannelPriority) :
    ∃ r, l.processServiceAllocateRequest env c prio .noError = some r
      ∧ Moved l r c (s.receive env.hasBuffer .request).1 (s.receive env.hasBuffer .request).2 := by
  have hbusy : ∀ info, l.mL1ChannelRegistry c = some info →
      l.processServiceAllocateRequest env c prio .noError
        = some ⟨l, (sendRequest env (.allocateChannelResp c .channelBusy)).1, []⟩ := by
    intro info hr
    simp [processServiceAllocateRequest, beginAllocateChannel, hr,
      ConnectivityAgentError.isNoError, sendIpcNotification]
  have hrefused : Moved l ⟨l, (sendRequest env (.allocateChannelResp c .channelBusy)).1, []⟩ c s
      (sends env.hasBuffer .refused) :=
    moved_send rfl ha hs (fun _ _ => ⟨rfl, rfl⟩) (fun _ _ => List.not_mem_nil) fun heq => heq ▸ ha
  cases s with
  | idle =>
    obtain ⟨hm, hr⟩ := ha
    refine ⟨⟨addSubscriber { l with
        mRequestedMap := Function.update l.mRequestedMap c (some ⟨prio, .transitionAgent, -1⟩) }
        .allocateChannel c env.now 250000, [], []⟩, ?_, ?_⟩
    · simp [processServiceAllocateRequest, beginAllocateChannel, hm, hr,
        ConnectivityAgentError.isNoError]
    · exact
        { slot := ⟨⟨prio, Function.update_self ..⟩, hr⟩
          words := rfl
          others := fun c' hne => ⟨Function.update_of_ne hne .., rfl⟩
          silent := fun _ _ => rfl
          allocating := fun _ _ hm => absurd hm List.not_mem_nil
          served := hs
          told := fun _ _ hm => absurd hm List.not_mem_nil
          announced := fun heq => absurd heq (by simp [Slot.receive]) }
  | requestedClient =>
    obtain ⟨⟨prio', dirId, hm, hd⟩, hr⟩ := ha
    obtain ⟨l', hlocal, hmap, hreg, hs'⟩ := allocateChannelLocally_spec (c := c)
      ⟨prio', .transitionClient, dirId⟩ hs hr (.inr rfl)
    refine ⟨⟨{ l' with mRequestedMap := Function.update l'.mRequestedMap c none },
      (sendRequest env (.allocateChannelResp c .noError)).1, []⟩, ?_, ?_⟩
    · simp [processServiceAllocateRequest, beginAllocateChannel, hm, hr, hlocal,
        ConnectivityAgentError.isNoError]
    · refine moved_send rfl ⟨Function.update_self .., prio', dirId, ?_, hd⟩ hs'
        (fun c' hne => ⟨?_, ?_⟩) (fun _ _ => List.not_mem_nil)
        fun heq => absurd heq (by simp [Slot.receive])
      · show l'.mL1ChannelRegistry c = _
        rw [hreg]
        exact Function.update_self ..
      · show Function.update l'.mRequestedMap c none c' = _
        rw [hmap]
        exact Function.update_of_ne hne ..
      · show l'.mL1ChannelRegistry c' = _
        rw [hreg]
        exact Function.update_of_ne hne ..
  | requestedAgent => exact absurd rfl hne
  | client =>
    obtain ⟨-, prio', dirId, hr, -⟩ := ha
    exact ⟨_, hbusy _ hr, hrefused⟩
  | agent =>
    obtain ⟨-, prio', dirId, hr, -⟩ := ha
    exact ⟨_, hbusy _ hr, hrefused⟩
  | operational =>
    obtain ⟨-, prio', dirId, hr, -⟩ := ha
    exact ⟨_, hbusy _ hr, hrefused⟩

/-- The channel is operational once the other side has granted it. -/
theorem endAllocateChannel_spec {l : L1InterfaceStub} {c : UInt32} {info : tL1ChannelInfo}
    (hs : l.Served) (hm : l.mRequestedMap c = none) (hr : l.mL1ChannelRegistry c = some info)
    (hd : info.mClientDir ≠ -1) :
    ∃ l', l.endAllocateChannel c (-1)
        = (l', if info.mState = .transitionAgent then .deferred else .noError, info.mClientDir)
      ∧ l'.At c .operational ∧ l'.Served
      ∧ ∀ c', c' ≠ c → l'.mRequestedMap c' = l.mRequestedMap c'
        ∧ l'.mL1ChannelRegistry c' = l.mL1ChannelRegistry c' := by
  refine ⟨{ l with
    mL1ChannelRegistry := Function.update l.mL1ChannelRegistry c
      (some { info with mState := .operational }) }, ?_, ?_, ?_, ?_⟩
  · rw [endAllocateChannel, hr]
  · exact ⟨hm, info.mType, info.mClientDir, Function.update_self .., hd⟩
  · refine CChannelAllocator.Serves.congr hs fun c' => ?_
    by_cases hc : c' = c
    · subst hc
      simp [hr]
    · simp [hc]
  · exact fun c' hne => ⟨rfl, Function.update_of_ne hne ..⟩

/-- The other side has granted the channel. -/
theorem processServiceAllocateResponse_granted {l : L1InterfaceStub} {c : UInt32} {s : Slot}
    (hs : l.Served) (ha : l.At c s) (hc : c ≠ CA_SERVICE_CHANNEL) (env : Env) :
    Moved l (l.processServiceAllocateResponse env c .noError) c
      (s.receive env.hasBuffer .granted).1 (s.receive env.hasBuffer .granted).2 := by
  have hclosed : l.mL1ChannelRegistry c = none → Moved l
      (l.processServiceAllocateResponse env c .noError) c .idle [] := by
    intro hr
    have heq : l.processServiceAllocateResponse env c .noError
        = ⟨(l.failAllocateChannel c (-1)).1, [], sendIpcNotification
          (.allocateChannelResp c .notFound) (l.failAllocateChannel c (-1)).2⟩ := by
      simp [processServiceAllocateResponse, endAllocateChannel, hr,
        ConnectivityAgentError.isNoError]
    rw [heq]
    exact moved_fail hs ha (-1) (fun _ _ => ⟨rfl, rfl⟩) (by decide) _
  -- the state after the channel was found, and the client was told
  have htold : ∀ {l' : L1InterfaceStub} {dirId : DirectionId} {sent : List ServiceMessage}
      {words : List Word}, dirId ≠ -1 → l'.At c .operational → l'.Served →
      (∀ c', c' ≠ c → l'.mRequestedMap c' = l.mRequestedMap c'
        ∧ l'.mL1ChannelRegistry c' = l.mL1ChannelRegistry c') →
      wordsOn c sent = words → (∀ c', c' ≠ c → wordsOn c' sent = []) → Allocating sent →
      Moved l ⟨l', sent, sendIpcNotification (success c) dirId⟩ c .operational words := by
    intro l' dirId sent words hd hat hserved hothers hwords hsilent halloc
    rw [sendIpcNotification, if_pos hd]
    refine ⟨hat, hwords, hothers, hsilent, fun _ => halloc, hserved, fun c' d hm => ⟨?_, rfl⟩,
      fun _ => .inl ⟨dirId, List.mem_singleton_self _⟩⟩
    injection List.mem_singleton.mp hm with _ heq
    injection heq
  cases s with
  | idle => exact hclosed ha.2
  | requestedClient => exact hclosed ha.2
  | requestedAgent => exact hclosed ha.2
  | client =>
    obtain ⟨hm, prio, dirId, hr, hd⟩ := ha
    obtain ⟨l', hend, hat, hserved, hothers⟩ := endAllocateChannel_spec hs hm hr hd
    have heq : l.processServiceAllocateResponse env c .noError
        = ⟨l', [], sendIpcNotification (success c) dirId⟩ := by
      simp [processServiceAllocateResponse, hend, ConnectivityAgentError.isNoError, hd, success]
    rw [heq]
    exact htold hd hat hserved hothers rfl (fun _ _ => rfl) fun _ hm => absurd hm List.not_mem_nil
  | operational =>
    obtain ⟨hm, prio, dirId, hr, hd⟩ := ha
    obtain ⟨l', hend, hat, hserved, hothers⟩ := endAllocateChannel_spec hs hm hr hd
    have heq : l.processServiceAllocateResponse env c .noError
        = ⟨l', [], sendIpcNotification (success c) dirId⟩ := by
      simp [processServiceAllocateResponse, hend, ConnectivityAgentError.isNoError, hd, success]
    rw [heq]
    exact htold hd hat hserved hothers rfl (fun _ _ => rfl) fun _ hm => absurd hm List.not_mem_nil
  | agent =>
    obtain ⟨hm, prio, dirId, hr, hd⟩ := ha
    obtain ⟨l', hend, hat, hserved, hothers⟩ := endAllocateChannel_spec hs hm hr hd
    cases hb : env.hasBuffer with
    | true =>
      have heq : l.processServiceAllocateResponse env c .noError
          = ⟨l', [.allocateChannelResp c .noError], sendIpcNotification (success c) dirId⟩ := by
        simp [processServiceAllocateResponse, hend, ConnectivityAgentError.isNoError, hd, success,
          sendRequest, hb]
      rw [heq]
      refine htold hd hat hserved hothers (wordsOn_self rfl)
        (fun c' hne => wordsOn_other rfl hne) ?_
      intro m hm
      rw [List.mem_singleton.mp hm]
      exact ⟨c, .granted, rfl, hc⟩
    | false =>
      have heq : l.processServiceAllocateResponse env c .noError
          = ⟨(l'.failAllocateChannel c dirId).1, [], sendIpcNotification
            (.allocateChannelResp c .noFreeBuffersLeft) (l'.failAllocateChannel c dirId).2⟩ := by
        simp [processServiceAllocateResponse, hend, ConnectivityAgentError.isNoError, sendRequest,
          hb]
      rw [heq]
      exact moved_fail hserved hat dirId hothers (by decide) _

/-- The other side has refused the channel. -/
theorem processServiceAllocateResponse_refused {l : L1InterfaceStub} {c : UInt32} {s : Slot}
    (hs : l.Served) (ha : l.At c s) (env : Env) {err : ConnectivityAgentError}
    (herr : err.isNoError = false) :
    Moved l (l.processServiceAllocateResponse env c err) c .idle [] := by
  have heq : l.processServiceAllocateResponse env c err
      = ⟨(l.failAllocateChannel c (-1)).1, [], sendIpcNotification
        (.allocateChannelResp c err) (l.failAllocateChannel c (-1)).2⟩ := by
    simp [processServiceAllocateResponse, herr]
  rw [heq]
  refine moved_fail hs ha (-1) (fun _ _ => ⟨rfl, rfl⟩) ?_ _
  rintro rfl
  exact absurd herr (by decide)

/-- A message of an allocation does to the slot what its word says. -/
theorem receive_moved {l : L1InterfaceStub} {c : UInt32} {s : Slot} (hs : l.Served)
    (ha : l.At c s) (hc : c ≠ CA_SERVICE_CHANNEL) (env : Env) {m : ServiceMessage} {word : Word}
    (hm : m.word = some (c, word)) (hne : ¬ (word = .request ∧ s = .requestedAgent)) :
    ∃ r, l.receive env m = some r
      ∧ Moved l r c (s.receive env.hasBuffer word).1 (s.receive env.hasBuffer word).2 := by
  cases m with
  | allocateChannel c' prio err =>
    rw [ServiceMessage.word] at hm
    split at hm
    · rename_i herr
      obtain ⟨rfl, rfl⟩ := Prod.mk.inj (Option.some.inj hm)
      obtain rfl := of_decide_eq_true herr
      exact processServiceAllocateRequest_moved hs ha (fun h => hne ⟨rfl, h⟩) env prio
    · exact absurd hm (by simp)
  | allocateChannelResp c' err =>
    obtain ⟨rfl, hword⟩ := Prod.mk.inj (Option.some.inj hm)
    cases herr : err.isNoError with
    | true =>
      obtain rfl := of_decide_eq_true herr
      obtain rfl : word = .granted := hword.symm
      exact ⟨_, rfl, processServiceAllocateResponse_granted hs ha hc env⟩
    | false =>
      obtain rfl : word = .refused := by
        rw [herr] at hword
        exact hword.symm
      exact ⟨_, rfl, processServiceAllocateResponse_refused hs ha env herr⟩
  | deallocateChannel c' => exact absurd hm (by simp [ServiceMessage.word])
  | deallocateChannelResp c' data => exact absurd hm (by simp [ServiceMessage.word])

end L1InterfaceStub

end IviLink.L1
