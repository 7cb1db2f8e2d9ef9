import IviLink.L1.Timed
import Mathlib.Data.List.TakeWhile

/-!
# Timers hit their own request

An armed timer can do harm where its channel has a request of its kind that is not its
own. `Owned` says there is none. A request that comes keeps it if no timer is armed
that would take it for its own.
-/

namespace IviLink.L1

open IviLink.Ipc (DirectionId)
open IviLink.Lib

namespace L1InterfaceStub

/-! ## What the handlers change -/

/-- Nothing comes to the registry or to `mRequestedMap`, and no timer is armed. -/
structure Loses (l l' : L1InterfaceStub) : Prop where
  timers : l'.mTimeoutManager = l.mTimeoutManager
  registry : ∀ c, l.mL1ChannelRegistry c = none → l'.mL1ChannelRegistry c = none
  requested : ∀ c, l'.mRequestedMap c = none ∨ l'.mRequestedMap c = l.mRequestedMap c

theorem Loses.refl (l : L1InterfaceStub) : l.Loses l := ⟨rfl, fun _ h => h, fun _ => .inr rfl⟩

theorem Loses.trans {l m n : L1InterfaceStub} (h : l.Loses m) (h' : m.Loses n) : l.Loses n where
  timers := h'.timers.trans h.timers
  registry := fun c hc => h'.registry c (h.registry c hc)
  requested := fun c => (h'.requested c).elim .inl fun heq => heq ▸ h.requested c

/-- An entry of the registry is changed or goes. -/
theorem loses_registry {l l' : L1InterfaceStub} {c : UInt32} {info : Option tL1ChannelInfo}
    (hr : l'.mL1ChannelRegistry = Function.update l.mL1ChannelRegistry c info)
    (hold : l.mL1ChannelRegistry c = none → info = none)
    (hm : l'.mRequestedMap = l.mRequestedMap) (ht : l'.mTimeoutManager = l.mTimeoutManager) :
    l.Loses l' := by
  refine ⟨ht, fun c' hc' => ?_, fun c' => .inr (by rw [hm])⟩
  rw [hr]
  by_cases hcc : c' = c
  · subst hcc
    rw [Function.update_self]
    exact hold hc'
  · rw [Function.update_of_ne hcc]
    exact hc'

/-- An entry of `mRequestedMap` goes. -/
theorem loses_requested {l l' : L1InterfaceStub} {c : UInt32}
    (hm : l'.mRequestedMap = Function.update l.mRequestedMap c none)
    (hr : l'.mL1ChannelRegistry = l.mL1ChannelRegistry)
    (ht : l'.mTimeoutManager = l.mTimeoutManager) : l.Loses l' := by
  refine ⟨ht, fun c' hc' => hr ▸ hc', fun c' => ?_⟩
  rw [hm]
  by_cases hcc : c' = c
  · subst hcc
    exact .inl (Function.update_self ..)
  · exact .inr (Function.update_of_ne hcc ..)

theorem failAllocateChannel_loses (l : L1InterfaceStub) (c : UInt32) (dirId : DirectionId) :
    l.Loses (l.failAllocateChannel c dirId).1 := by
  have hmap : l.Loses { l with mRequestedMap := Function.update l.mRequestedMap c none } :=
    loses_requested rfl rfl rfl
  rw [failAllocateChannel]
  dsimp only
  split
  · exact hmap
  · exact hmap.trans (loses_registry rfl (fun _ => rfl) rfl rfl)

theorem endAllocateChannel_loses (l : L1InterfaceStub) (c : UInt32) (dirId : DirectionId) :
    l.Loses (l.endAllocateChannel c dirId).1 := by
  rw [endAllocateChannel]
  split
  · exact .refl l
  · rename_i info hr
    exact loses_registry rfl (fun hn => absurd (hn.symm.trans hr) (by simp)) rfl rfl

theorem deallocateChannel_loses (l : L1InterfaceStub) (c : UInt32) :
    l.Loses (l.deallocateChannel c).1 := by
  rw [deallocateChannel]
  split
  · exact .refl l
  · exact ⟨rfl, fun _ h => h, fun _ => .inr rfl⟩

theorem unregister_loses (l : L1InterfaceStub) (c : UInt32) : l.Loses (l.unregister c) :=
  loses_registry rfl (fun _ => rfl) rfl rfl

theorem processServiceAllocateResponse_loses (l : L1InterfaceStub) (env : Env) (c : UInt32)
    (err : ConnectivityAgentError) :
    l.Loses (l.processServiceAllocateResponse env c err).state := by
  have hended : l.Loses (if err.isNoError then l.endAllocateChannel c (-1) else (l, err, -1)).1 := by
    split
    · exact endAllocateChannel_loses l c (-1)
    · exact .refl l
  rw [processServiceAllocateResponse]
  dsimp only
  generalize (if err.isNoError then l.endAllocateChannel c (-1) else (l, err, -1)) = ended
    at hended ⊢
  generalize (if err.isNoError = true ∧ ended.2.1 = .deferred then _ else _ :
    List ServiceMessage × ConnectivityAgentError) = answer
  split
  · exact hended.trans (failAllocateChannel_loses _ c _)
  · exact hended

theorem processServiceDeallocateRequest_loses (l : L1InterfaceStub) (env : Env) (c : UInt32) :
    l.Loses (l.processServiceDeallocateRequest env c).state := by
  rw [processServiceDeallocateRequest]
  split
  · split
    · exact deallocateChannel_loses l c
    · exact (deallocateChannel_loses l c).trans (unregister_loses _ c)
  · exact deallocateChannel_loses l c

theorem processServiceDeallocateResponse_loses (l : L1InterfaceStub) (c : UInt32)
    (data : ConnectivityAgentError) :
    l.Loses (l.processServiceDeallocateResponse c data).state := by
  rw [processServiceDeallocateResponse]
  split
  · dsimp only
    split
    · split
      · exact deallocateChannel_loses l c
      · exact (deallocateChannel_loses l c).trans (unregister_loses _ c)
    · exact deallocateChannel_loses l c
  · exact .refl l

/-- The waiting request is taken up: it is registered, or the allocator has refused. -/
theorem allocateChannelLocally_frame {l l' : L1InterfaceStub} {c : UInt32}
    {info : tRequestedChannelInfo} {err : ConnectivityAgentError}
    (h : l.allocateChannelLocally c info = some (l', err)) :
    l'.mTimeoutManager = l.mTimeoutManager ∧ l'.mRequestedMap = l.mRequestedMap
      ∧ ∀ c', c' ≠ c → l'.mL1ChannelRegistry c' = l.mL1ChannelRegistry c' := by
  rw [allocateChannelLocally] at h
  split at h
  · dsimp only at h
    split at h
    · obtain ⟨rfl, -⟩ := Prod.mk.inj (Option.some.inj h)
      exact ⟨rfl, rfl, fun c' hc => Function.update_of_ne hc ..⟩
    · obtain ⟨rfl, -⟩ := Prod.mk.inj (Option.some.inj h)
      exact ⟨rfl, rfl, fun _ _ => rfl⟩
  · exact absurd h (by simp)

/-- A request begins to wait. -/
structure Begins (l l' : L1InterfaceStub) (c : UInt32) (now : Nat) : Prop where
  registry : l'.mL1ChannelRegistry = l.mL1ChannelRegistry
  requested : ∀ c', c' ≠ c → l'.mRequestedMap c' = l.mRequestedMap c'
  timers : l'.mTimeoutManager = l.mTimeoutManager
    ∨ l'.mTimeoutManager = (l.addSubscriber .allocateChannel c now 250000).mTimeoutManager

/-- A request that was waiting is registered, or given up. -/
structure Registers (l l' : L1InterfaceStub) (c : UInt32) : Prop where
  registry : ∀ c', c' ≠ c → l'.mL1ChannelRegistry c' = l.mL1ChannelRegistry c'
  requested : l'.mRequestedMap = Function.update l.mRequestedMap c none
  timers : l'.mTimeoutManager = l.mTimeoutManager

/-- A registered channel is asked for the other way. -/
structure Asks (l l' : L1InterfaceStub) (c : UInt32) (now : Nat) : Prop where
  registered : l.mL1ChannelRegistry c ≠ none
  registry : ∀ c', l'.mL1ChannelRegistry c' = none ↔ l.mL1ChannelRegistry c' = none
  requested : l'.mRequestedMap = l.mRequestedMap
  timers : l'.mTimeoutManager = (l.addSubscriber .deallocateChannel c now 250000).mTimeoutManager

/-- What a handler does to the state, by what it does about the request. -/
def Effect (l l' : L1InterfaceStub) (now : Nat) : Option (UInt32 × Taking) → Prop
  | some (c, .begins) => l.Begins l' c now ∧ l.mL1ChannelRegistry c = none
  | some (c, .registers) => l.Registers l' c
  | some (c, .asks) => l.Asks l' c now
  | none => l.Loses l'

section BeginAllocateChannel

variable {l l' : L1InterfaceStub} {prio : TChannelPriority} {c : UInt32} {client_side : Bool}
  {dirId dirId' : DirectionId} {err : ConnectivityAgentError}

theorem beginAllocateChannel_busy (hr : l.mL1ChannelRegistry c ≠ none) :
    l.beginAllocateChannel prio c client_side dirId = some (l, .channelBusy, dirId) := by
  obtain ⟨info, hinfo⟩ := Option.ne_none_iff_exists'.mp hr
  rw [beginAllocateChannel, hinfo]

theorem beginAllocateChannel_begins (hr : l.mL1ChannelRegistry c = none)
    (hm : l.mRequestedMap c = none)
    (h : l.beginAllocateChannel prio c client_side dirId = some (l', err, dirId')) :
    l'.mL1ChannelRegistry = l.mL1ChannelRegistry ∧ l'.mTimeoutManager = l.mTimeoutManager
      ∧ (∀ c', c' ≠ c → l'.mRequestedMap c' = l.mRequestedMap c')
      ∧ err = if client_side then .noError else .deferred := by
  rw [beginAllocateChannel, hr, hm] at h
  dsimp only at h
  split at h
  · obtain ⟨rfl, herr⟩ := Prod.mk.inj (Option.some.inj h)
    exact ⟨rfl, rfl, fun c' hc => Function.update_of_ne hc .., (Prod.mk.inj herr).1.symm⟩
  · exact absurd h (by simp)

theorem beginAllocateChannel_registers {info : tRequestedChannelInfo}
    (hr : l.mL1ChannelRegistry c = none) (hm : l.mRequestedMap c = some info)
    (hi : ¬ client_side ∨ info.mState = .transitionAgent)
    (h : l.beginAllocateChannel prio c client_side dirId = some (l', err, dirId')) :
    l.Registers l' c ∧ err ≠ .deferred := by
  rw [beginAllocateChannel, hr, hm] at h
  dsimp only at h
  rw [if_pos hi] at h
  cases hlocal : l.allocateChannelLocally c
      { info with mClientDir := if client_side then dirId else info.mClientDir } with
  | none => simp [hlocal] at h
  | some x =>
    obtain ⟨m, result⟩ := x
    obtain ⟨ht, hmap, hreg⟩ := allocateChannelLocally_frame hlocal
    simp only [hlocal] at h
    split at h
    · exact absurd h (by simp)
    · rename_i hresult
      obtain ⟨rfl, herr⟩ := Prod.mk.inj (Option.some.inj h)
      exact ⟨⟨hreg, by rw [← hmap], ht⟩, (Prod.mk.inj herr).1 ▸ hresult⟩

theorem beginAllocateChannel_inProgress {info : tRequestedChannelInfo}
    (hr : l.mL1ChannelRegistry c = none) (hm : l.mRequestedMap c = some info)
    (hi : info.mState ≠ .transitionAgent) :
    l.beginAllocateChannel prio c true dirId = some (l, .allocationInProgress, dirId) := by
  rw [beginAllocateChannel, hr, hm]
  simp [hi]

end BeginAllocateChannel

/-- A client's request does to the state what `beginAllocateChannel` does. -/
theorem processClientAllocateRequest_state {l : L1InterfaceStub} {env : Env} {c : UInt32}
    {prio : TChannelPriority} {dirId : DirectionId} {r : Handled} (hc : c ≠ CA_SERVICE_CHANNEL)
    (h : l.processClientAllocateRequest env c prio dirId = some r) :
    ∃ err dirId', l.beginAllocateChannel prio c true dirId = some (r.state, err, dirId') := by
  rw [processClientAllocateRequest, if_neg hc] at h
  cases hbegin : l.beginAllocateChannel prio c true dirId with
  | none => simp [hbegin] at h
  | some x =>
    obtain ⟨l', err, dirId'⟩ := x
    simp only [hbegin] at h
    refine ⟨err, dirId', ?_⟩
    generalize (if err.isNoError = true then _ else _ :
      List ServiceMessage × ConnectivityAgentError) = request at h
    split at h
    · rw [← Option.some.inj h]
    · split at h
      · exact absurd h (by simp)
      · rw [← Option.some.inj h]

theorem processClientAllocateRequest_effect {l : L1InterfaceStub} {env : Env} {c : UInt32}
    {prio : TChannelPriority} {dirId : DirectionId} {r : Handled}
    (h : l.processClientAllocateRequest env c prio dirId = some r) :
    l.Effect r.state env.now (Event.takes l (.call (.allocate c prio dirId env))) := by
  by_cases hc : c = CA_SERVICE_CHANNEL
  · rw [processClientAllocateRequest, if_pos hc] at h
    rw [Event.takes, if_pos hc, ← Option.some.inj h]
    exact .refl l
  · obtain ⟨err, dirId', hbegin⟩ := processClientAllocateRequest_state hc h
    rw [Event.takes, if_neg hc]
    cases hr : l.mL1ChannelRegistry c with
    | some info =>
      rw [beginAllocateChannel_busy (by simp [hr])] at hbegin
      rw [← (Prod.mk.inj (Option.some.inj hbegin)).1]
      exact .refl l
    | none =>
      cases hm : l.mRequestedMap c with
      | none =>
        obtain ⟨hreg, ht, hmap, -⟩ := beginAllocateChannel_begins hr hm hbegin
        exact ⟨⟨hreg, hmap, .inl ht⟩, hr⟩
      | some info =>
        by_cases hi : info.mState = .transitionAgent
        · simp only [hi, if_true]
          exact (beginAllocateChannel_registers hr hm (.inr hi) hbegin).1
        · simp only [hi, if_false]
          rw [beginAllocateChannel_inProgress hr hm hi] at hbegin
          rw [← (Prod.mk.inj (Option.some.inj hbegin)).1]
          exact .refl l

theorem processServiceAllocateRequest_effect {l : L1InterfaceStub} {env : Env} {c : UInt32}
    {prio : TChannelPriority} {errorCode : ConnectivityAgentError} {r : Handled}
    (h : l.processServiceAllocateRequest env c prio errorCode = some r) :
    l.Effect r.state env.now (Event.takes l (.receive (.allocateChannel c prio errorCode) env)) := by
  rw [processServiceAllocateRequest] at h
  rw [Event.takes]
  cases herr : errorCode.isNoError with
  | false =>
    simp only [herr, Bool.false_eq_true, not_false_eq_true, if_true] at h
    rw [← Option.some.inj h]
    exact failAllocateChannel_loses l c (-1)
  | true =>
    simp only [herr, not_true_eq_false, if_false] at h
    cases hbegin : l.beginAllocateChannel prio c false (-1) with
    | none => simp [hbegin] at h
    | some x =>
      obtain ⟨l', err, dirId'⟩ := x
      simp only [hbegin] at h
      simp only [if_true]
      cases hr : l.mL1ChannelRegistry c with
      | some info =>
        rw [beginAllocateChannel_busy (by simp [hr])] at hbegin
        obtain ⟨rfl, hbusy⟩ := Prod.mk.inj (Option.some.inj hbegin)
        obtain ⟨rfl, rfl⟩ := Prod.mk.inj hbusy
        rw [← Option.some.inj h]
        exact .refl l
      | none =>
        cases hm : l.mRequestedMap c with
        | none =>
          obtain ⟨hreg, ht, hmap, rfl⟩ := beginAllocateChannel_begins hr hm hbegin
          simp only [Bool.false_eq_true, if_false, if_true] at h
          rw [← Option.some.inj h]
          refine ⟨⟨hreg, hmap, .inr ?_⟩, hr⟩
          simp only [addSubscriber, ht]
        | some info =>
          obtain ⟨hregisters, hne⟩ := beginAllocateChannel_registers hr hm (.inl (by simp)) hbegin
          rw [if_neg hne] at h
          rw [← Option.some.inj h]
          exact hregisters

/-- A request to deallocate what is registered. -/
theorem asks_update {l l' : L1InterfaceStub} {c : UInt32} {info : tL1ChannelInfo} {now : Nat}
    (hr : l.mL1ChannelRegistry c ≠ none)
    (hr' : l'.mL1ChannelRegistry = Function.update l.mL1ChannelRegistry c (some info))
    (hm : l'.mRequestedMap = l.mRequestedMap)
    (ht : l'.mTimeoutManager
      = (l.addSubscriber .deallocateChannel c now 250000).mTimeoutManager) : l.Asks l' c now := by
  refine ⟨hr, fun c' => ?_, hm, ht⟩
  rw [hr']
  by_cases hc : c' = c
  · subst hc
    simp [hr]
  · rw [Function.update_of_ne hc]

theorem processClientDeallocateRequest_effect (l : L1InterfaceStub) (env : Env) (c : UInt32) :
    l.Effect (l.processClientDeallocateRequest env c).state env.now
      (Event.takes l (.call (.deallocate c env))) := by
  rw [Event.takes, processClientDeallocateRequest]
  by_cases hc : c = CA_SERVICE_CHANNEL
  · rw [if_pos hc, if_neg fun h => h.1 hc]
    exact .refl l
  · rw [if_neg hc]
    cases hr : l.mL1ChannelRegistry c with
    | none =>
      rw [if_neg fun h => h.2 rfl]
      exact .refl l
    | some info =>
      rw [if_pos ⟨hc, Option.some_ne_none _⟩]
      exact asks_update (by simp [hr]) rfl rfl rfl

theorem processClientDeallocateByWD_effect (l : L1InterfaceStub) (env : Env) (c : UInt32)
    (dirId : DirectionId) :
    l.Effect (l.processClientDeallocateByWD env c dirId).state env.now
      (Event.takes l (.call (.deallocateByWD c dirId env))) := by
  rw [Event.takes, processClientDeallocateByWD]
  by_cases hc : c = CA_SERVICE_CHANNEL
  · rw [if_pos hc, if_neg fun h => h.1 hc]
    exact .refl l
  · rw [if_neg hc]
    cases hr : l.mL1ChannelRegistry c with
    | none =>
      rw [if_neg fun h => h.2 rfl]
      exact .refl l
    | some info =>
      rw [if_pos ⟨hc, Option.some_ne_none _⟩]
      exact asks_update (by simp [hr]) rfl rfl rfl

/-- What every call and message does to the state, apart from the timers. -/
theorem handle_effect {l : L1InterfaceStub} {e : Event} {r : Handled}
    (he : ∀ env, e ≠ .call (.timeout env)) (h : e.handle l = some r) :
    l.Effect r.state e.env.now (e.takes l) := by
  cases e with
  | call call =>
    cases call with
    | allocate c prio dirId env =>
      change (if 0 < dirId then _ else none) = some r at h
      split at h
      · exact processClientAllocateRequest_effect h
      · exact absurd h (by simp)
    | deallocate c env =>
      rw [← Option.some.inj h]
      exact processClientDeallocateRequest_effect l env c
    | deallocateByWD c dirId env =>
      change (if 0 < dirId then some _ else none) = some r at h
      split at h
      · rw [← Option.some.inj h]
        exact processClientDeallocateByWD_effect l env c dirId
      · exact absurd h (by simp)
    | timeout env => exact absurd rfl (he env)
  | receive m env =>
    cases m with
    | allocateChannel c prio errorCode => exact processServiceAllocateRequest_effect h
    | allocateChannelResp c errorCode =>
      rw [← Option.some.inj h]
      exact processServiceAllocateResponse_loses l env c errorCode
    | deallocateChannel c =>
      rw [← Option.some.inj h]
      exact processServiceDeallocateRequest_loses l env c
    | deallocateChannelResp c data =>
      rw [← Option.some.inj h]
      exact processServiceDeallocateResponse_loses l c data

/-- A timer that is due last goes to the end. -/
theorem addSubscriber_append {l : L1InterfaceStub} {k : tOpCode} {c : UInt32} {now ms : Nat}
    (h : ∀ t ∈ l.mTimeoutManager, t.timeoutTime ≤ now + ms) :
    (l.addSubscriber k c now ms).mTimeoutManager = l.mTimeoutManager ++ [⟨k, c, now + ms⟩] := by
  have hall : ∀ t ∈ l.mTimeoutManager, decide (t.timeoutTime ≤ now + ms) = true := fun t ht =>
    decide_eq_true (h t ht)
  show l.mTimeoutManager.takeWhile (fun u => u.timeoutTime ≤ now + ms)
    ++ _ :: l.mTimeoutManager.dropWhile (fun u => u.timeoutTime ≤ now + ms) = _
  rw [List.dropWhile_eq_nil_iff.mpr hall, List.takeWhile_eq_self_iff.mpr hall]

/-- What a timer does when it fires. -/
theorem processTopTimeout_cases {l : L1InterfaceStub} {env : Env} {r : Handled}
    (h : l.processTopTimeout env = some r) :
    ∃ t rest, l.mTimeoutManager = t :: rest ∧ r.state.mTimeoutManager = rest
      ∧ r.state.mL1ChannelRegistry = l.mL1ChannelRegistry
      ∧ ((r.state.mRequestedMap = l.mRequestedMap ∧ r.told = [])
        ∨ (t.mRequest = .allocateChannel ∧ l.mL1ChannelRegistry t.mChannelID = none
          ∧ r.state.mRequestedMap = Function.update l.mRequestedMap t.mChannelID none
          ∧ r.told = [])
        ∨ (t.mRequest = .deallocateChannel ∧ l.mL1ChannelRegistry t.mChannelID ≠ none
          ∧ r.state.mRequestedMap = l.mRequestedMap)) := by
  rw [processTopTimeout] at h
  cases ht : l.mTimeoutManager with
  | nil => simp [ht] at h
  | cons t rest =>
    simp only [ht] at h
    split at h
    · refine ⟨t, rest, rfl, ?_⟩
      rw [← Option.some.inj h, onTimeout]
      cases hk : t.mRequest with
      | allocateChannel =>
        cases hr : l.mL1ChannelRegistry t.mChannelID with
        | some info => simp
        | none => simp
      | deallocateChannel =>
        cases hr : l.mL1ChannelRegistry t.mChannelID with
        | some info => simp
        | none => simp
      | allocateChannelResp => simp
      | deallocateChannelResp => simp
      | deallocateChannelNtf => simp
    · exact absurd h (by simp)

end L1InterfaceStub

namespace Timed

open L1InterfaceStub

/-- What a timer is armed for is the last request for its channel, where it could do harm. -/
def Own (w : Timed) (t : RequestTimeout) (n : Nat) : Prop :=
  (t.mRequest = .allocateChannel → w.stub.mL1ChannelRegistry t.mChannelID = none →
      w.stub.mRequestedMap t.mChannelID ≠ none → w.latest t.mChannelID = n)
    ∧ (t.mRequest = .deallocateChannel → w.stub.mL1ChannelRegistry t.mChannelID ≠ none →
      w.latest t.mChannelID = n)

structure Owned (w : Timed) : Prop where
  due : ∀ t ∈ w.stub.mTimeoutManager, t.timeoutTime ≤ w.clock + 250000
  paired : w.owners.length = w.stub.mTimeoutManager.length
  /-- A channel is not requested and registered at once. -/
  apart : ∀ c, w.stub.mL1ChannelRegistry c = none ∨ w.stub.mRequestedMap c = none
  own : ∀ x ∈ w.stub.mTimeoutManager.zip w.owners, w.Own x.1 x.2

theorem owned_init : Owned init where
  due := fun t ht => absurd ht List.not_mem_nil
  paired := by decide
  apart := fun _ => .inr rfl
  own := fun x hx => absurd hx List.not_mem_nil

/-- A timer stays what it is while nothing new comes to its channel. -/
theorem Own.stays {w w' : Timed} {t : RequestTimeout} {n : Nat} (h : w.Own t n)
    (hapart : w.stub.mL1ChannelRegistry t.mChannelID = none
      ∨ w.stub.mRequestedMap t.mChannelID = none)
    (hr : w.stub.mL1ChannelRegistry t.mChannelID = none →
      w'.stub.mL1ChannelRegistry t.mChannelID = none)
    (hm : w.stub.mRequestedMap t.mChannelID = none →
      w'.stub.mRequestedMap t.mChannelID = none)
    (hl : w'.latest t.mChannelID = w.latest t.mChannelID) : w'.Own t n := by
  refine ⟨fun hk _ hm' => ?_, fun hk hr' => ?_⟩
  · have hreq : w.stub.mRequestedMap t.mChannelID ≠ none := fun h => hm' (hm h)
    rw [hl]
    exact h.1 hk (hapart.resolve_right hreq) hreq
  · rw [hl]
    exact h.2 hk fun h => hr' (hr h)

/-- A step that is not a timer. -/
theorem step_other {w w' : Timed} {e : Event} (he : ∀ env, e ≠ .call (.timeout env))
    (hstep : w.step e = some w') :
    w.clock ≤ e.env.now ∧ w'.clock = e.env.now
      ∧ w.stub.Effect w'.stub e.env.now (e.takes w.stub)
      ∧ w'.latest = (match e.takes w.stub with
        | some (c, k) => if k.isNew then Function.update w.latest c (w.count + 1) else w.latest
        | none => w.latest)
      ∧ w'.owners = if w.stub.mTimeoutManager.length < w'.stub.mTimeoutManager.length then
          w.owners ++ [w.count + 1] else w.owners := by
  rw [step] at hstep
  split at hstep
  · rename_i hclock
    cases hr : e.handle w.stub with
    | none => simp [hr] at hstep
    | some r =>
      simp only [hr] at hstep
      obtain rfl := Option.some.inj hstep
      refine ⟨hclock, rfl, handle_effect he hr, rfl, ?_⟩
      cases e with
      | receive m env => rfl
      | call call =>
        cases call with
        | timeout env => exact absurd rfl (he env)
        | allocate c prio dirId env => rfl
        | deallocate c env => rfl
        | deallocateByWD c dirId env => rfl
  · exact absurd hstep (by simp)

/-- A timer fires. -/
theorem step_timeout {w w' : Timed} {env : Env} (hstep : w.step (.call (.timeout env)) = some w') :
    w.clock ≤ env.now ∧ w'.clock = env.now ∧ w'.latest = w.latest ∧ w'.owners = w.owners.tail
      ∧ ∃ r, w.stub.processTopTimeout env = some r ∧ w'.stub = r.state := by
  rw [step] at hstep
  split at hstep
  · rename_i hclock
    cases hr : Event.handle w.stub (.call (.timeout env)) with
    | none => simp [hr] at hstep
    | some r =>
      simp only [hr] at hstep
      obtain rfl := Option.some.inj hstep
      exact ⟨hclock, rfl, rfl, rfl, r, hr, rfl⟩
  · exact absurd hstep (by simp)

/-- A timer is armed, for the request that is now the last of its channel. -/
theorem Owned.arm {w w' : Timed} {k : tOpCode} {c : UInt32} {now : Nat} (h : Owned w)
    (hclock : w.clock ≤ now) (hclock' : w'.clock = now)
    (ht : w'.stub.mTimeoutManager = (w.stub.addSubscriber k c now 250000).mTimeoutManager)
    (howners : w'.owners = if w.stub.mTimeoutManager.length < w'.stub.mTimeoutManager.length then
      w.owners ++ [w.count + 1] else w.owners)
    (hapart : ∀ c, w'.stub.mL1ChannelRegistry c = none ∨ w'.stub.mRequestedMap c = none)
    (hlatest : w'.latest c = w.count + 1)
    (hown : ∀ x ∈ w.stub.mTimeoutManager.zip w.owners, w'.Own x.1 x.2) : Owned w' := by
  have hdue : ∀ t ∈ w.stub.mTimeoutManager, t.timeoutTime ≤ now + 250000 := fun t hm =>
    le_trans (h.due t hm) (Nat.add_le_add_right hclock _)
  rw [addSubscriber_append hdue] at ht
  rw [ht, List.length_append, if_pos (Nat.lt_add_of_pos_right (by simp))] at howners
  refine ⟨fun t hm => ?_, ?_, hapart, fun x hm => ?_⟩
  · rw [ht] at hm
    rw [hclock']
    rcases List.mem_append.mp hm with hm | hm
    · exact hdue t hm
    · rw [List.mem_singleton.mp hm]
  · rw [ht, howners, List.length_append, List.length_append, h.paired]
    rfl
  · rw [ht, howners, List.zip_append h.paired.symm] at hm
    rcases List.mem_append.mp hm with hm | hm
    · exact hown x hm
    · rw [List.mem_singleton.mp hm]
      exact ⟨fun _ _ _ => hlatest, fun _ _ => hlatest⟩

/-- No timer is armed. -/
theorem Owned.same {w w' : Timed} (h : Owned w) (hclock : w.clock ≤ w'.clock)
    (ht : w'.stub.mTimeoutManager = w.stub.mTimeoutManager)
    (howners : w'.owners = if w.stub.mTimeoutManager.length < w'.stub.mTimeoutManager.length then
      w.owners ++ [w.count + 1] else w.owners)
    (hapart : ∀ c, w'.stub.mL1ChannelRegistry c = none ∨ w'.stub.mRequestedMap c = none)
    (hown : ∀ x ∈ w.stub.mTimeoutManager.zip w.owners, w'.Own x.1 x.2) : Owned w' := by
  rw [ht, if_neg (Nat.lt_irrefl _)] at howners
  refine ⟨fun t hm => ?_, ?_, hapart, ?_⟩
  · rw [ht] at hm
    exact le_trans (h.due t hm) (Nat.add_le_add_right hclock _)
  · rw [ht, howners]
    exact h.paired
  · rw [ht, howners]
    exact hown

/-- A timer has fired. -/
theorem owned_timeout {w w' : Timed} {env : Env} (h : Owned w)
    (hstep : w.step (.call (.timeout env)) = some w') : Owned w' := by
  obtain ⟨hclock, hclock', hlatest, howners, r, hr, hstub⟩ := step_timeout hstep
  obtain ⟨t, rest, ht, ht', hreg, hcases⟩ := processTopTimeout_cases hr
  rw [← hstub] at ht' hreg hcases
  have hm : ∀ c, w.stub.mRequestedMap c = none → w'.stub.mRequestedMap c = none := by
    intro c hc
    rcases hcases with ⟨hsame, -⟩ | ⟨-, -, hupdate, -⟩ | ⟨-, -, hsame⟩
    · rw [hsame]
      exact hc
    · rw [hupdate, Function.update_apply]
      split
      · rfl
      · exact hc
    · rw [hsame]
      exact hc
  obtain ⟨n, ns, hns⟩ : ∃ n ns, w.owners = n :: ns := by
    refine List.exists_cons_of_ne_nil fun hnil => ?_
    have hlen := h.paired
    rw [hnil, ht] at hlen
    exact absurd hlen (by simp)
  rw [hns, List.tail_cons] at howners
  refine ⟨fun u hu => ?_, ?_, fun c => ?_, fun x hx => ?_⟩
  · rw [ht'] at hu
    rw [hclock']
    exact le_trans (h.due u (ht ▸ List.mem_cons_of_mem _ hu)) (Nat.add_le_add_right hclock _)
  · have hlen := h.paired
    rw [hns, ht] at hlen
    rw [howners, ht']
    exact Nat.succ.inj hlen
  · rw [hreg]
    exact (h.apart c).imp id (hm c)
  · rw [ht', howners] at hx
    have hx' : x ∈ w.stub.mTimeoutManager.zip w.owners := by
      rw [ht, hns, List.zip_cons_cons]
      exact List.mem_cons_of_mem _ hx
    exact (h.own x hx').stays (h.apart _) (fun hn => hreg ▸ hn) (hm _) (by rw [hlatest])

/-- **Every step without a stale timer.** -/
theorem owned_step {w w' : Timed} {e : Event} (h : Owned w) (hf : w.Fresh e)
    (hstep : w.step e = some w') : Owned w' := by
  by_cases he : ∃ env, e = .call (.timeout env)
  · obtain ⟨env, rfl⟩ := he
    exact owned_timeout h hstep
  · obtain ⟨hclock, hclock', heffect, hlatest, howners⟩ :=
      step_other (fun env heq => he ⟨env, heq⟩) hstep
    cases htakes : e.takes w.stub with
    | none =>
      rw [htakes] at heffect hlatest
      have hm : ∀ c, w.stub.mRequestedMap c = none → w'.stub.mRequestedMap c = none := fun c hc =>
        (heffect.requested c).elim id fun heq => heq.trans hc
      exact h.same (hclock' ▸ hclock) heffect.timers howners
        (fun c => (h.apart c).imp (heffect.registry c) (hm c))
        fun x hx => (h.own x hx).stays (h.apart _) (heffect.registry _) (hm _) (by rw [hlatest])
    | some x =>
      obtain ⟨c, k⟩ := x
      rw [htakes] at heffect hlatest
      have hfresh : ∀ x ∈ w.stub.mTimeoutManager.zip w.owners,
          x.1.mChannelID = c → x.1.mRequest ≠ k.exposedTo := fun x hx =>
        hf (c, k) htakes x.1 (List.of_mem_zip hx).1
      cases k with
      | begins =>
        obtain ⟨⟨hreg, hmap, ht⟩, hnone⟩ := heffect
        have hapart : ∀ c', w'.stub.mL1ChannelRegistry c' = none
            ∨ w'.stub.mRequestedMap c' = none := by
          intro c'
          rw [hreg]
          by_cases hc : c' = c
          · exact .inl (hc ▸ hnone)
          · rw [hmap c' hc]
            exact h.apart c'
        have hself : w'.latest c = w.count + 1 := hlatest ▸ Function.update_self ..
        have hown : ∀ x ∈ w.stub.mTimeoutManager.zip w.owners, w'.Own x.1 x.2 := by
          intro x hx
          by_cases hc : x.1.mChannelID = c
          · refine ⟨fun hk => absurd hk (hfresh x hx hc), fun _ hr => absurd ?_ hr⟩
            rw [hreg, hc]
            exact hnone
          · exact (h.own x hx).stays (h.apart _) (fun hn => hreg ▸ hn)
              (fun hn => (hmap _ hc).trans hn) (hlatest ▸ Function.update_of_ne hc ..)
        rcases ht with ht | ht
        · exact h.same (hclock' ▸ hclock) ht howners hapart hown
        · exact h.arm hclock hclock' ht howners hapart hself hown
      | registers =>
        have hmap : ∀ c', w.stub.mRequestedMap c' = none → w'.stub.mRequestedMap c' = none := by
          intro c' hc'
          rw [heffect.requested, Function.update_apply]
          split
          · rfl
          · exact hc'
        refine h.same (hclock' ▸ hclock) heffect.timers howners (fun c' => ?_) fun x hx => ?_
        · by_cases hc : c' = c
          · right
            rw [heffect.requested, hc]
            exact Function.update_self ..
          · rw [heffect.registry c' hc]
            exact (h.apart c').imp id (hmap c')
        · by_cases hc : x.1.mChannelID = c
          · refine ⟨fun _ _ hm => absurd ?_ hm, fun hk => absurd hk (hfresh x hx hc)⟩
            rw [heffect.requested, hc]
            exact Function.update_self ..
          · exact (h.own x hx).stays (h.apart _)
              (fun hn => (heffect.registry _ hc).trans hn) (hmap _) (by rw [hlatest]; rfl)
      | asks =>
        have hself : w'.latest c = w.count + 1 := hlatest ▸ Function.update_self ..
        refine h.arm hclock hclock' heffect.timers howners (fun c' => ?_) hself fun x hx => ?_
        · rw [heffect.requested, heffect.registry]
          exact h.apart c'
        · by_cases hc : x.1.mChannelID = c
          · refine ⟨fun _ hr => absurd hr ?_, fun hk => absurd hk (hfresh x hx hc)⟩
            rw [heffect.registry, hc]
            exact heffect.registered
          · exact (h.own x hx).stays (h.apart _) (heffect.registry _).mpr
              (fun hn => heffect.requested ▸ hn) (hlatest ▸ Function.update_of_ne hc ..)

/-- Where no timer can do harm, none does. -/
theorem Owned.not_hits {w : Timed} (h : Owned w) (env : Env) : ¬ w.Hits env := by
  rintro ⟨t, n, r, ht, hn, hr, hne, hharm⟩
  obtain ⟨t', rest, htimers, -, -, hcases⟩ := processTopTimeout_cases hr
  obtain rfl : t' = t := by
    rw [htimers] at ht
    exact Option.some.inj ht
  obtain ⟨ns, hns⟩ := List.head?_eq_some_iff.mp hn
  have hown := h.own (t', n) (by rw [htimers, hns, List.zip_cons_cons]; exact List.mem_cons_self)
  rcases hcases with ⟨hsame, htold⟩ | ⟨hk, hnone, hupdate, htold⟩ | ⟨hk, hopen, -⟩
  · exact hharm.elim (fun h => h (by rw [hsame])) fun h => h htold
  · refine hne (hown.1 hk hnone fun hreq => ?_)
    exact hharm.elim (fun h => h (by rw [hupdate, Function.update_self, hreq])) fun h => h htold
  · exact hne (hown.2 hk hopen)

/-- A channel is allocated for a request of the other side, deallocated, and asked for again after
200 seconds. -/
def askedAgain : List Event :=
  [.receive (.allocateChannel 5 .realTime .noError) ⟨0, true⟩,
    .call (.allocate 5 .realTime 7 ⟨1000, true⟩), .receive (.allocateChannelResp 5 .noError)
      ⟨2000, true⟩,
    .call (.deallocate 5 ⟨3000, true⟩), .receive (.deallocateChannelResp 5 .noError) ⟨4000, true⟩,
    .call (.allocate 5 .realTime 7 ⟨200000, true⟩)]

end Timed

end IviLink.L1
