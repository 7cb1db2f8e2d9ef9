import IviLink.L1.Closing
import IviLink.Proof.Allocation

/-!
# Two agents deallocate a channel

What is seen of two agents that deallocate, of one channel, is `Closing`: which client
a stub has it registered for, the messages about it, and who is told the end of it. So
a channel that both had is gone when all is heard, and a channel that one of them had
alone is not.
-/

namespace IviLink.L1

open IviLink.Ipc (DirectionId)
open IviLink.L0 (Side)
open IviLink.Lib
open Closing

/-- The word about a channel. -/
def ServiceMessage.closing (c : UInt32) : ServiceMessage → Option Closing.Word
  | .deallocateChannel c' => if c' = c then some .close else none
  | .deallocateChannelResp c' data =>
    if c' = c then some (if data.isNoError then .closed else .unknown) else none
  | _ => none

def ServiceMessage.isDeallocation : ServiceMessage → Bool
  | .deallocateChannel _ => true
  | .deallocateChannelResp _ _ => true
  | _ => false

/-- Who is told the end of a channel, in a response or a notification. -/
def finalWord (c : UInt32) : DirectionId × ClientMessage → Option DirectionId
  | (dirId, .deallocateChannelResp c' _) => if c' = c then some dirId else none
  | (dirId, .deallocateChannelNtf c') => if c' = c then some dirId else none
  | _ => none

namespace L1InterfaceStub

/-- The client a channel is registered for. -/
def registeredFor (c : UInt32) (l : L1InterfaceStub) : Closing.End :=
  (l.mL1ChannelRegistry c).map tL1ChannelInfo.mClientDir

/-- What is seen of a handler. -/
def seen (c : UInt32) (r : Handled) : Reaction Closing.End Closing.Word DirectionId :=
  r.view (registeredFor c) (ServiceMessage.closing c) (finalWord c)

/-- A handler that keeps what is registered open below, and says nothing but deallocations. -/
structure Deallocating (r : Handled) : Prop where
  served : r.state.Served
  sent : ∀ m ∈ r.sent, m.isDeallocation = true

theorem sendRequest_buffer {env : Env} (hb : env.hasBuffer = true) (m : ServiceMessage) :
    (sendRequest env m).1 = [m] := by
  rw [sendRequest, if_pos hb]

/-- An entry is changed, and stays. -/
theorem served_update {l : L1InterfaceStub} {c : UInt32} {info : tL1ChannelInfo} (hs : l.Served)
    (hr : l.mL1ChannelRegistry c ≠ none) :
    ({ l with mL1ChannelRegistry := Function.update l.mL1ChannelRegistry c (some info) } :
      L1InterfaceStub).Served := by
  refine CChannelAllocator.Serves.congr hs fun c' => ?_
  by_cases hc : c' = c
  · subst hc
    simp [hr]
  · simp [hc]

theorem registeredFor_update (l : L1InterfaceStub) {l' : L1InterfaceStub} {channel_id : UInt32}
    {info : Option tL1ChannelInfo}
    (h : l'.mL1ChannelRegistry = Function.update l.mL1ChannelRegistry channel_id info)
    (c : UInt32) : l'.registeredFor c
      = if c = channel_id then info.map tL1ChannelInfo.mClientDir else l.registeredFor c := by
  rw [registeredFor, h, Function.update_apply]
  split <;> rfl

/-- A client's request finds the channel or does not; `dirId` is who asks for himself. -/
theorem deallocating_request {l l' : L1InterfaceStub} {c channel_id : UInt32}
    {info : tL1ChannelInfo} (hs : l'.Served) (dirId : Option DirectionId)
    (hr : l.mL1ChannelRegistry channel_id = some info)
    (hr' : l'.mL1ChannelRegistry = Function.update l.mL1ChannelRegistry channel_id
      (some { info with mClientDir := dirId.getD info.mClientDir, mState := .transitionClient }))
    {told : List (DirectionId × ClientMessage)} (htold : told.filterMap (finalWord c) = []) :
    Deallocating ⟨l', [.deallocateChannel channel_id], told⟩
      ∧ seen c ⟨l', [.deallocateChannel channel_id], told⟩
        = if channel_id = c then ask dirId (l.registeredFor c) else ⟨l.registeredFor c, [], []⟩ := by
  refine ⟨⟨hs, by simp [ServiceMessage.isDeallocation]⟩, ?_⟩
  rw [seen, Reaction.view, htold, registeredFor_update _ hr']
  by_cases hc : channel_id = c
  · subst hc
    simp [ServiceMessage.closing, registeredFor, hr, ask]
  · simp [ServiceMessage.closing, hc, Ne.symm hc]

theorem deallocating_nothing {l : L1InterfaceStub} {c channel_id : UInt32} (hs : l.Served)
    (dirId : Option DirectionId) (hr : channel_id = c → l.registeredFor c = none)
    {told : List (DirectionId × ClientMessage)} (htold : told.filterMap (finalWord c) = []) :
    Deallocating ⟨l, [], told⟩ ∧ seen c ⟨l, [], told⟩
      = if channel_id = c then ask dirId (l.registeredFor c) else ⟨l.registeredFor c, [], []⟩ := by
  refine ⟨⟨hs, by simp⟩, ?_⟩
  rw [seen, Reaction.view, htold]
  split
  · rename_i hc
    rw [hr hc]
    rfl
  · rfl

theorem registeredFor_eq_none {l : L1InterfaceStub} {c : UInt32} :
    l.registeredFor c = none ↔ l.mL1ChannelRegistry c = none := by
  rw [registeredFor, Option.map_eq_none_iff]

theorem processClientDeallocateRequest_seen {l : L1InterfaceStub} (hs : l.Served) {env : Env}
    (hb : env.hasBuffer = true) {c : UInt32} (hc : c ≠ CA_SERVICE_CHANNEL) (channel_id : UInt32) :
    Deallocating (l.processClientDeallocateRequest env channel_id)
      ∧ seen c (l.processClientDeallocateRequest env channel_id)
        = if channel_id = c then ask none (l.registeredFor c) else ⟨l.registeredFor c, [], []⟩ := by
  by_cases hservice : channel_id = CA_SERVICE_CHANNEL
  · rw [processClientDeallocateRequest, if_pos hservice]
    exact deallocating_nothing hs none (fun heq => absurd (heq.symm.trans hservice) hc) rfl
  · rw [processClientDeallocateRequest, if_neg hservice]
    cases hr : l.mL1ChannelRegistry channel_id with
    | none =>
      exact deallocating_nothing hs none (fun heq => registeredFor_eq_none.mpr (heq ▸ hr)) rfl
    | some info =>
      dsimp only
      rw [sendRequest_buffer hb]
      refine deallocating_request ?_ none hr ?_ rfl
      · exact served_update hs (by simp [hr])
      · rfl

theorem processClientDeallocateByWD_seen {l : L1InterfaceStub} (hs : l.Served) {env : Env}
    (hb : env.hasBuffer = true) {c : UInt32} (hc : c ≠ CA_SERVICE_CHANNEL) (channel_id : UInt32)
    (dirId : DirectionId) :
    Deallocating (l.processClientDeallocateByWD env channel_id dirId)
      ∧ seen c (l.processClientDeallocateByWD env channel_id dirId)
        = if channel_id = c then ask (some dirId) (l.registeredFor c)
          else ⟨l.registeredFor c, [], []⟩ := by
  by_cases hservice : channel_id = CA_SERVICE_CHANNEL
  · rw [processClientDeallocateByWD, if_pos hservice]
    exact deallocating_nothing hs (some dirId) (fun heq => absurd (heq.symm.trans hservice) hc) rfl
  · rw [processClientDeallocateByWD, if_neg hservice]
    cases hr : l.mL1ChannelRegistry channel_id with
    | none =>
      exact deallocating_nothing hs (some dirId) (fun heq => registeredFor_eq_none.mpr (heq ▸ hr))
        rfl
    | some info =>
      dsimp only
      rw [sendRequest_buffer hb]
      refine deallocating_request ?_ (some dirId) hr ?_ rfl
      · exact served_update hs (by simp [hr])
      · rfl

/-- What is registered can be closed and taken out. -/
theorem deallocateChannel_spec {l : L1InterfaceStub} {c : UInt32} (hs : l.Served)
    (hr : l.mL1ChannelRegistry c ≠ none) :
    (l.deallocateChannel c).2 = .noError
      ∧ (l.deallocateChannel c).1.mL1ChannelRegistry = l.mL1ChannelRegistry
      ∧ ((l.deallocateChannel c).1.unregister c).Served := by
  obtain ⟨info, hinfo⟩ := Option.ne_none_iff_exists'.mp hr
  obtain ⟨hresult, hserves⟩ := CChannelAllocator.Serves.deallocateChannel hs _ hr
  rw [deallocateChannel, hinfo]
  refine ⟨hresult, rfl, hserves.congr fun c' => ?_⟩
  by_cases hc : c' = c
  · subst hc
    simp [unregister]
  · simp [unregister, hc]

/-- The end of a channel: who it was registered for is told. -/
theorem deallocating_unregister {l : L1InterfaceStub} {c channel_id : UInt32}
    {info : tL1ChannelInfo} (hs : l.Served) (hr : l.mL1ChannelRegistry channel_id = some info)
    {word : Closing.Word} (hword : word ≠ .unknown) {sent : List ServiceMessage}
    {message : ClientMessage} (hd : ∀ m ∈ sent, m.isDeallocation = true)
    (hsent : sent.filterMap (ServiceMessage.closing c) = if channel_id = c then
      (hear word (l.registeredFor c)).sent else [])
    (htold : finalWord c (info.mClientDir, message)
      = if channel_id = c then some info.mClientDir else none) :
    Deallocating ⟨(l.deallocateChannel channel_id).1.unregister channel_id, sent,
        [(info.mClientDir, message)]⟩
      ∧ seen c ⟨(l.deallocateChannel channel_id).1.unregister channel_id, sent,
          [(info.mClientDir, message)]⟩
        = if channel_id = c then hear word (l.registeredFor c)
          else ⟨l.registeredFor c, [], []⟩ := by
  obtain ⟨-, hsame, hserved⟩ := deallocateChannel_spec hs (by rw [hr]; exact Option.some_ne_none _)
  have hunregister : ((l.deallocateChannel channel_id).1.unregister channel_id).mL1ChannelRegistry
      = Function.update l.mL1ChannelRegistry channel_id none := by
    rw [← hsame]
    rfl
  refine ⟨⟨hserved, hd⟩, ?_⟩
  rw [seen, Reaction.view, hsent, registeredFor_update l hunregister]
  by_cases hc : channel_id = c
  · subst hc
    simp only [if_true, List.filterMap_cons, htold]
    cases word <;> simp_all [registeredFor, hear]
  · simp [hc, Ne.symm hc, htold]

/-- The other side asks. -/
theorem processServiceDeallocateRequest_seen {l : L1InterfaceStub} (hs : l.Served) {env : Env}
    (hb : env.hasBuffer = true) (c channel_id : UInt32) :
    Deallocating (l.processServiceDeallocateRequest env channel_id)
      ∧ seen c (l.processServiceDeallocateRequest env channel_id)
        = if channel_id = c then hear .close (l.registeredFor c)
          else ⟨l.registeredFor c, [], []⟩ := by
  cases hr : l.mL1ChannelRegistry channel_id with
  | none =>
    have heq : l.processServiceDeallocateRequest env channel_id
        = ⟨l, [.deallocateChannelResp channel_id .notFound], []⟩ := by
      simp [processServiceDeallocateRequest, deallocateChannel, hr, sendRequest_buffer hb,
        ConnectivityAgentError.isNoError]
    rw [heq]
    refine ⟨⟨hs, by simp [ServiceMessage.isDeallocation]⟩, ?_⟩
    by_cases hc : channel_id = c
    · subst hc
      rw [if_pos rfl, registeredFor_eq_none.mpr hr]
      simp [seen, Reaction.view, registeredFor_eq_none.mpr hr, ServiceMessage.closing, hear,
        ConnectivityAgentError.isNoError]
    · simp [seen, Reaction.view, ServiceMessage.closing, hc]
  | some info =>
    obtain ⟨hresult, hsame, -⟩ := deallocateChannel_spec hs (by rw [hr]; exact Option.some_ne_none _)
    have heq : l.processServiceDeallocateRequest env channel_id
        = ⟨(l.deallocateChannel channel_id).1.unregister channel_id,
          [.deallocateChannelResp channel_id .noError],
          [(info.mClientDir, .deallocateChannelNtf channel_id)]⟩ := by
      simp [processServiceDeallocateRequest, hresult, hsame, hr, sendRequest_buffer hb,
        ConnectivityAgentError.isNoError]
    rw [heq]
    refine deallocating_unregister hs hr (by decide) (by simp [ServiceMessage.isDeallocation]) ?_ rfl
    by_cases hc : channel_id = c
    · subst hc
      simp [ServiceMessage.closing, ConnectivityAgentError.isNoError, registeredFor, hr, hear]
    · simp [ServiceMessage.closing, hc]

/-- The other side answers. -/
theorem processServiceDeallocateResponse_seen {l : L1InterfaceStub} (hs : l.Served)
    (c channel_id : UInt32) (data : ConnectivityAgentError) :
    Deallocating (l.processServiceDeallocateResponse channel_id data)
      ∧ seen c (l.processServiceDeallocateResponse channel_id data)
        = if channel_id = c then
            hear (if data.isNoError then .closed else .unknown) (l.registeredFor c)
          else ⟨l.registeredFor c, [], []⟩ := by
  have hnothing : Deallocating ⟨l, [], []⟩ ∧ seen c ⟨l, [], []⟩ = ⟨l.registeredFor c, [], []⟩ :=
    ⟨⟨hs, by simp⟩, rfl⟩
  cases hdata : data.isNoError with
  | false =>
    have heq : l.processServiceDeallocateResponse channel_id data = ⟨l, [], []⟩ := by
      simp [processServiceDeallocateResponse, hdata]
    rw [heq]
    refine ⟨hnothing.1, hnothing.2.trans ?_⟩
    split <;> rfl
  | true =>
    obtain rfl := of_decide_eq_true hdata
    cases hr : l.mL1ChannelRegistry channel_id with
    | none =>
      have heq : l.processServiceDeallocateResponse channel_id .noError = ⟨l, [], []⟩ := by
        simp [processServiceDeallocateResponse, deallocateChannel, hr,
          ConnectivityAgentError.isNoError]
      rw [heq]
      refine ⟨hnothing.1, hnothing.2.trans ?_⟩
      split
      · rename_i hc
        rw [registeredFor_eq_none.mpr (hc ▸ hr)]
        rfl
      · rfl
    | some info =>
      obtain ⟨hresult, hsame, -⟩ := deallocateChannel_spec hs
        (by rw [hr]; exact Option.some_ne_none _)
      have heq : l.processServiceDeallocateResponse channel_id .noError
          = ⟨(l.deallocateChannel channel_id).1.unregister channel_id, [],
            [(info.mClientDir, .deallocateChannelResp channel_id .noError)]⟩ := by
        simp [processServiceDeallocateResponse, hresult, hsame, hr,
          ConnectivityAgentError.isNoError]
      rw [heq]
      refine deallocating_unregister hs hr (by decide) (by simp) ?_ rfl
      split
      · cases l.registeredFor c <;> rfl
      · rfl

/-- A deallocation arrives. -/
theorem receive_seen {l : L1InterfaceStub} (hs : l.Served) {env : Env}
    (hb : env.hasBuffer = true) (c : UInt32) {m : ServiceMessage} (hm : m.isDeallocation = true) :
    ∃ r, l.receive env m = some r ∧ Deallocating r
      ∧ (∀ word, m.closing c = some word → seen c r = hear word (l.registeredFor c))
      ∧ (m.closing c = none → seen c r = ⟨l.registeredFor c, [], []⟩) := by
  cases m with
  | allocateChannel c' prio err => exact absurd hm (by simp [ServiceMessage.isDeallocation])
  | allocateChannelResp c' err => exact absurd hm (by simp [ServiceMessage.isDeallocation])
  | deallocateChannel c' =>
    obtain ⟨hd, hseen⟩ := processServiceDeallocateRequest_seen hs hb c c'
    refine ⟨_, rfl, hd, fun word hword => ?_, fun hnone => ?_⟩
    · rw [ServiceMessage.closing] at hword
      split at hword
      · rename_i hc
        rw [hseen, if_pos hc, ← Option.some.inj hword]
      · exact absurd hword (by simp)
    · rw [hseen, if_neg]
      exact fun hc => by simp [ServiceMessage.closing, hc] at hnone
  | deallocateChannelResp c' data =>
    obtain ⟨hd, hseen⟩ := processServiceDeallocateResponse_seen hs c c' data
    refine ⟨_, rfl, hd, fun word hword => ?_, fun hnone => ?_⟩
    · rw [ServiceMessage.closing] at hword
      split at hword
      · rename_i hc
        rw [hseen, if_pos hc, ← Option.some.inj hword]
      · exact absurd hword (by simp)
    · rw [hseen, if_neg]
      exact fun hc => by simp [ServiceMessage.closing, hc] at hnone

end L1InterfaceStub

namespace Agents

open L1InterfaceStub

/-! ## The two of them -/

/-- What is seen of the two agents, of one channel. -/
def closing (c : UInt32) (w : Agents) : Ends :=
  w.view (registeredFor c) (ServiceMessage.closing c) (finalWord c)

/-- A client deallocates, or a message arrives, and what is sent finds a buffer. -/
def Deallocates : Action → Prop
  | .act _ (.deallocate _ env) => env.hasBuffer = true
  | .act _ (.deallocateByWD _ _ env) => env.hasBuffer = true
  | .deliver _ env => env.hasBuffer = true
  | _ => False

/-- Side `i` is asked to deallocate the channel, by the client it is for or, for the watchdog, by
the client `some dirId`. -/
inductive Asks (c : UInt32) (i : Side) : Option DirectionId → Action → Prop
  | client {env} : Asks c i none (.act i (.deallocate c env))
  | watchdog {dirId env} : Asks c i (some dirId) (.act i (.deallocateByWD c dirId env))

/-- What is registered is open below, and only deallocations are on the way. -/
structure Parting (w : Agents) : Prop where
  served : ∀ i, (w.state i).Served
  link : ∀ i, ∀ m ∈ w.link i, m.isDeallocation = true

/-- An agent has reacted, and said nothing but deallocations. -/
theorem Parting.react {w : Agents} {i : Side} {rest : List ServiceMessage} {r : Handled}
    (h : Parting w) (hr : Deallocating r) (hsub : rest ⊆ w.link i) :
    Parting (({ w with link := Function.update w.link i rest } : Agents).react Side.other i r) := by
  have hne := Side.other_ne i
  refine ⟨both (i := i) ?_ ?_, both (i := i) ?_ ?_⟩
  · rw [Duplex.react_state_self]
    exact hr.served
  · rw [Duplex.react_state_ne _ _ _ hne]
    exact h.served i.other
  · rw [Duplex.react_link_ne _ _ _ hne.symm]
    intro m hm
    change m ∈ Function.update w.link i rest i at hm
    rw [Function.update_self] at hm
    exact h.link i m (hsub hm)
  · rw [Duplex.react_link_peer]
    intro m hm
    rcases List.mem_append.mp hm with hm | hm
    · change m ∈ Function.update w.link i rest i.other at hm
      rw [Function.update_of_ne hne] at hm
      exact h.link i.other m hm
    · exact hr.sent m hm

/-- A step of the two agents is one of `Closing`, or nothing is seen of it. -/
theorem parting_step {w w' : Agents} {a : Action} (h : Parting w) (ha : Deallocates a)
    (hstep : w.step a = some w') {c : UInt32} (hc : c ≠ CA_SERVICE_CHANNEL) :
    Parting w' ∧ ((∃ i dirId, Asks c i dirId a
        ∧ Closing.step (w.closing c) (.act i dirId) = some (w'.closing c))
      ∨ (∀ i dirId, ¬ Asks c i dirId a) ∧ (w'.closing c = w.closing c
        ∨ ∃ i, Closing.step (w.closing c) (.deliver i ()) = some (w'.closing c))) := by
  have hstay : ∀ i, Function.update w.link i (w.link i) = w.link := fun i =>
    Function.update_eq_self i w.link
  have hact : ∀ {i r}, Deallocating r → Parting (w.react Side.other i r) := by
    intro i r hr
    have hp := h.react (i := i) hr (List.Subset.refl _)
    rwa [hstay] at hp
  cases Duplex.step_cases hstep with
  | @act i call r hcall =>
    cases call with
    | allocate c' prio dirId env => exact absurd ha id
    | timeout env => exact absurd ha id
    | deallocate c' env =>
      obtain rfl := Option.some.inj hcall
      obtain ⟨hd, hseen⟩ := processClientDeallocateRequest_seen (h.served i) ha hc c'
      refine ⟨hact hd, ?_⟩
      by_cases hcc : c' = c
      · subst hcc
        rw [if_pos rfl] at hseen
        exact .inl ⟨i, none, .client, Duplex.view_act (congrArg some hseen.symm)⟩
      · rw [if_neg hcc] at hseen
        refine .inr ⟨fun _ _ hasks => ?_, .inl (Duplex.view_unseen hseen)⟩
        cases hasks
        exact hcc rfl
    | deallocateByWD c' dirId env =>
      change (if 0 < dirId then some _ else none) = some r at hcall
      split at hcall
      · obtain rfl := Option.some.inj hcall
        obtain ⟨hd, hseen⟩ := processClientDeallocateByWD_seen (h.served i) ha hc c' dirId
        refine ⟨hact hd, ?_⟩
        by_cases hcc : c' = c
        · subst hcc
          rw [if_pos rfl] at hseen
          exact .inl ⟨i, some dirId, .watchdog, Duplex.view_act (congrArg some hseen.symm)⟩
        · rw [if_neg hcc] at hseen
          refine .inr ⟨fun _ _ hasks => ?_, .inl (Duplex.view_unseen hseen)⟩
          cases hasks
          exact hcc rfl
      · exact absurd hcall (by simp)
  | @deliver i env m rest r hlink hreceive =>
    obtain ⟨r', hr', hd, hword, hnone⟩ := receive_seen (h.served i) ha c
      (h.link i m (hlink ▸ List.mem_cons_self))
    obtain rfl := Option.some.inj (hr'.symm.trans hreceive)
    refine ⟨h.react hd (hlink ▸ List.subset_cons_self m rest), .inr ⟨fun _ _ hasks => ?_, ?_⟩⟩
    · cases hasks
    · cases hm : m.closing c with
      | none => exact .inl (Duplex.view_deliver_unseen hlink hm (hnone hm))
      | some word =>
        exact .inr ⟨i, Duplex.view_deliver hlink hm (congrArg some (hword word hm).symm)⟩

/-! ## Runs -/

/-- What the steps of `Closing` keep, the runs of two agents keep. -/
theorem closing_run (clients : Side → DirectionId → Prop) {I : Ends → Prop}
    (hI : ∀ v b v', I v → Known clients b → Closing.step v b = some v' → I v') {w w' : Agents}
    {as : List Action} {c : UInt32} (hc : c ≠ CA_SERVICE_CHANNEL) (hp : Parting w)
    (hw : I (w.closing c)) (ha : ∀ a ∈ as, Deallocates a)
    (hclients : ∀ a ∈ as, ∀ i d, Asks c i (some d) a → clients i d)
    (hr : run step w as = some w') : Parting w' ∧ I (w'.closing c) := by
  refine run_invariant (P := fun _ a => Deallocates a ∧ ∀ i d, Asks c i (some d) a → clients i d)
    (I := fun w => Parting w ∧ I (w.closing c)) ?_ ⟨hp, hw⟩
    (along_of_mem fun a hmem _ => ⟨ha a hmem, hclients a hmem⟩) hr
  rintro v a v' ⟨hv, hiv⟩ ⟨hda, hka⟩ hstep
  obtain ⟨hv', ⟨i, dirId, hasks, hseen⟩ | ⟨-, heq | ⟨i, hseen⟩⟩⟩ := parting_step hv hda hstep hc
  · refine ⟨hv', hI _ _ _ hiv ?_ hseen⟩
    cases dirId with
    | none => trivial
    | some d => exact hka i d hasks
  · exact ⟨hv', heq ▸ hiv⟩
  · exact ⟨hv', hI _ (.deliver i ()) _ hiv trivial hseen⟩

/-- A request made anywhere in a run has been made at its end. -/
theorem asked_run {w w' : Agents} {as : List Action} {c : UInt32} (hc : c ≠ CA_SERVICE_CHANNEL)
    (hp : Parting w) (ha : ∀ a ∈ as, Deallocates a) (hr : run step w as = some w') {i : Side}
    {dirId : Option DirectionId} {a : Action} (hmem : a ∈ as) (hasks : Asks c i dirId a) :
    Asked (w'.closing c) := by
  obtain ⟨before, after, rfl⟩ := List.append_of_mem hmem
  rw [run_append] at hr
  obtain ⟨v, hv, hr⟩ := Option.bind_eq_some_iff.mp hr
  obtain ⟨v', hstep, hr⟩ := run_cons hr
  have hparting : Parting v := (closing_run (fun _ _ => True) (I := fun _ => True)
    (fun _ _ _ _ _ _ => trivial) hc hp trivial
    (fun b hb => ha b (List.mem_append_left _ hb)) (fun _ _ _ _ _ => trivial) hv).1
  obtain ⟨hparting', ⟨j, dirId', -, hseen⟩ | ⟨hno, -⟩⟩ :=
    parting_step hparting (ha a hmem) hstep hc
  · exact (closing_run (fun _ _ => True) (fun _ _ _ h _ hs => asked_step h hs) hc
      hparting' (asked_of_act hseen)
      (fun b hb => ha b (List.mem_append_right _ (List.mem_cons_of_mem _ hb)))
      (fun _ _ _ _ _ => trivial) hr).2
  · exact absurd hasks (hno i dirId)

/-- Both clients deallocate what they had asked for at once. -/
def crossingDeallocations : List Action :=
  [.act .a (.deallocate 5 ⟨3, true⟩), .act .b (.deallocate 5 ⟨3, true⟩), .deliver .a ⟨4, true⟩,
    .deliver .b ⟨4, true⟩, .deliver .a ⟨5, true⟩, .deliver .b ⟨5, true⟩]

/-- The answer of side `a` to the grant of channel 5 finds no buffer, so `b` has it alone. -/
def halfAllocated : List Action :=
  [.act .b (.allocate 5 .realTime 9 ⟨0, true⟩), .deliver .a ⟨0, true⟩,
    .act .a (.allocate 5 .realTime 7 ⟨1, true⟩), .deliver .b ⟨1, true⟩, .deliver .a ⟨2, false⟩]

end Agents

end IviLink.L1
