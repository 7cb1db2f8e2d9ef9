import IviLink.Proof.AllocateHandlers

/-!
# Two agents agree about what they allocate

For each channel apart from the service channel the two stubs are in a situation of
the rendezvous (`Meets`). A step is about one channel and takes it to another
situation, so what holds in all situations holds in all runs.
-/

namespace IviLink.L1

open IviLink.L0 (Side)
open IviLink.Lib
open Rendezvous

namespace Agents

open L1InterfaceStub

/-! ## The two of them -/

/-- Where two agents are with a channel, given what each of them has about it. -/
def meeting (w : Agents) (slots : Side → Slot) (c : UInt32) (i : Side) : Meeting :=
  ⟨slots i, slots i.other, wordsOn c (w.link i), wordsOn c (w.link i.other)⟩

theorem meeting_other (w : Agents) (slots : Side → Slot) (c : UInt32) (i : Side) :
    w.meeting slots c i.other = (w.meeting slots c i).swap := by
  simp only [meeting, Meeting.swap, Side.other_other]

/-- Where two agents are with a channel is one of the situations, and the clients that were told
of success are those whose end is operational. -/
structure MeetsAt (situations : List Meeting) (w : Agents) (c : UInt32) (slots : Side → Slot) :
    Prop where
  holds : ∀ i, (w.state i).At c (slots i)
  among : ∀ i, Among situations (w.meeting slots c i)
  told : ∀ i, (∃ dirId, (dirId, success c) ∈ w.told i) ↔ slots i = .operational

/-- All channels but the service channel. -/
structure Meets (situations : List Meeting) (w : Agents) : Prop where
  served : ∀ i, (w.state i).Served
  /-- Nobody asks for the service channel. -/
  service : ∀ i, (w.state i).mRequestedMap CA_SERVICE_CHANNEL = none
    ∧ ∀ dirId, (dirId, success CA_SERVICE_CHANNEL) ∉ w.told i
  allocating : ∀ i, Allocating (w.link i)
  channel : ∀ c, c ≠ CA_SERVICE_CHANNEL → ∃ slots, MeetsAt situations w c slots

/-- An agent has reacted to something about one channel. -/
theorem Meets.react {situations : List Meeting} {w : Agents} {i : Side} {c : UInt32}
    {r : Handled} {slots : Side → Slot} {s : Slot} {words : List Word}
    (h : Meets situations w) (rest : List ServiceMessage) (hc : c ≠ CA_SERVICE_CHANNEL)
    (hslots : MeetsAt situations w c slots) (hmoved : Moved (w.state i) r c s words)
    (hsub : rest ⊆ w.link i) (hsilent : ∀ c', c' ≠ c → wordsOn c' rest = wordsOn c' (w.link i))
    (hamong : Among situations
      ⟨s, slots i.other, wordsOn c rest, wordsOn c (w.link i.other) ++ words⟩)
    (hkept : slots i = .operational → s = .operational) :
    Meets situations
      (({ w with link := Function.update w.link i rest } : Agents).react Side.other i r) := by
  have hne := Side.other_ne i
  -- the two sides one by one
  have hboth : ∀ {P : Side → Prop}, P i → P i.other → ∀ j, P j := by
    intro P h₁ h₂ j
    rcases Side.eq_or i j with rfl | rfl
    · exact h₁
    · exact h₂
  set w' : Agents := ({ w with link := Function.update w.link i rest } : Agents).react Side.other i r
  have hstate : w'.state i = r.state := Function.update_self ..
  have hstate' : w'.state i.other = w.state i.other := Function.update_of_ne hne ..
  have hlink : w'.link i = rest := by
    show Function.update (Function.update w.link i rest) i.other _ i = rest
    rw [Function.update_of_ne hne.symm, Function.update_self]
  have hlink' : w'.link i.other = w.link i.other ++ r.sent := by
    show Function.update (Function.update w.link i rest) i.other _ i.other = _
    rw [Function.update_self]
    show Function.update w.link i rest i.other ++ r.sent = _
    rw [Function.update_of_ne hne]
  have htold : w'.told i = w.told i ++ r.told := Function.update_self ..
  have htold' : w'.told i.other = w.told i.other := Function.update_of_ne hne ..
  refine ⟨hboth ?_ ?_, hboth ⟨?_, fun dirId hm => ?_⟩ ?_, hboth ?_ ?_, fun c' hc' => ?_⟩
  · rw [hstate]
    exact hmoved.served
  · rw [hstate']
    exact h.served i.other
  · rw [hstate, (hmoved.others _ (Ne.symm hc)).1]
    exact (h.service i).1
  · rw [htold] at hm
    rcases List.mem_append.mp hm with hm | hm
    · exact (h.service i).2 dirId hm
    · exact hc (hmoved.told _ dirId hm).1.symm
  · rw [hstate', htold']
    exact h.service i.other
  · rw [hlink]
    exact fun m hm => h.allocating i m (hsub hm)
  · rw [hlink']
    intro m hm
    rcases List.mem_append.mp hm with hm | hm
    · exact h.allocating i.other m hm
    · exact hmoved.allocating hc m hm
  · by_cases hcc : c' = c
    · subst hcc
      refine ⟨Function.update slots i s, hboth ?_ ?_, ?_, hboth ?_ ?_⟩
      · rw [hstate, Function.update_self]
        exact hmoved.slot
      · rw [hstate', Function.update_of_ne hne]
        exact hslots.holds i.other
      · have hown : w'.meeting (Function.update slots i s) c' i
            = ⟨s, slots i.other, wordsOn c' rest, wordsOn c' (w.link i.other) ++ words⟩ := by
          rw [meeting, hlink, hlink', Function.update_self, Function.update_of_ne hne,
            wordsOn_append, hmoved.words]
        refine hboth ?_ ?_
        · rw [hown]
          exact hamong
        · rw [meeting_other, hown]
          exact hamong.swap
      · rw [htold, Function.update_self]
        refine ⟨fun ⟨dirId, hm⟩ => ?_, fun hs => ?_⟩
        · rcases List.mem_append.mp hm with hm | hm
          · exact hkept ((hslots.told i).mp ⟨dirId, hm⟩)
          · exact (hmoved.told c' dirId hm).2
        · rcases hmoved.announced hs with ⟨dirId, hm⟩ | hat
          · exact ⟨dirId, List.mem_append_right _ hm⟩
          · obtain ⟨dirId, hm⟩ := (hslots.told i).mpr ((hslots.holds i).eq_operational hat)
            exact ⟨dirId, List.mem_append_left _ hm⟩
      · rw [htold', Function.update_of_ne hne]
        exact hslots.told i.other
    · obtain ⟨slots', hslots'⟩ := h.channel c' hc'
      have hmeeting : w'.meeting slots' c' i = w.meeting slots' c' i := by
        rw [meeting, meeting, hlink, hlink', wordsOn_append, hmoved.silent c' hcc, List.append_nil,
          hsilent c' hcc]
      refine ⟨slots', hboth ?_ ?_, hboth ?_ ?_, hboth ?_ ?_⟩
      · rw [hstate]
        exact (hslots'.holds i).congr (hmoved.others c' hcc).1 (hmoved.others c' hcc).2
      · rw [hstate']
        exact hslots'.holds i.other
      · rw [hmeeting]
        exact hslots'.among i
      · rw [meeting_other, hmeeting, ← meeting_other]
        exact hslots'.among i.other
      · rw [htold, ← hslots'.told i]
        refine ⟨fun ⟨dirId, hm⟩ => ?_, fun ⟨dirId, hm⟩ => ⟨dirId, List.mem_append_left _ hm⟩⟩
        rcases List.mem_append.mp hm with hm | hm
        · exact ⟨dirId, hm⟩
        · exact absurd (hmoved.told c' dirId hm).1 hcc
      · rw [htold']
        exact hslots'.told i.other

/-! ## Runs -/

/-- A client asks for a channel, or a message arrives; `buffers` says which buffers are there. -/
def Allocates (buffers : Bool → Prop) : Action → Prop
  | .act _ (.allocate _ _ dirId env) => 0 < dirId ∧ buffers env.hasBuffer
  | .deliver _ env => buffers env.hasBuffer
  | _ => False

/-- What arrives was on the way. -/
def Pending (w : Agents) : Action → Prop
  | .deliver i _ => w.link i ≠ []
  | _ => True

/-- Situations the two sides do not leave with these buffers. -/
structure Closed (situations : List Meeting) (buffers : Bool → Prop) : Prop where
  known : ∀ m, Among situations m → Among meetings m
  closed : ∀ hasBuffer, buffers hasBuffer → ∀ m, Among situations m →
    Among situations (m.request hasBuffer) ∧ Among situations (m.deliver hasBuffer)

theorem closed_meetings : Closed meetings fun _ => True :=
  ⟨fun _ h => h, fun hasBuffer _ _ h => meetings_closed hasBuffer h⟩

theorem closed_heard : Closed heard fun hasBuffer => hasBuffer = true :=
  ⟨fun _ h => heard_sub h, fun _ hb _ h => hb ▸ heard_closed h⟩

theorem wordsOn_cons (c : UInt32) (m : ServiceMessage) (ms : List ServiceMessage) :
    wordsOn c (m :: ms) = wordsOn c [m] ++ wordsOn c ms :=
  wordsOn_append c [m] ms

theorem connected_spec : L1InterfaceStub.connected.Served
    ∧ L1InterfaceStub.connected.mRequestedMap CA_SERVICE_CHANNEL = none
    ∧ ∀ c, c ≠ CA_SERVICE_CHANNEL → L1InterfaceStub.connected.At c .idle := by
  have hclosed : ({ L1InterfaceStub.init with channelAllocator := ⟨some .init⟩ } :
      L1InterfaceStub).Served :=
    ⟨.init, rfl, fun c => ⟨fun h => absurd rfl h, fun _ => L0.L0Interface.init_isClosed c⟩⟩
  obtain ⟨l', hlocal, hmap, hreg, hs⟩ := allocateChannelLocally_spec (c := CA_SERVICE_CHANNEL)
    ⟨.safetyCritical, .transitionClient, -1⟩ hclosed rfl (.inr rfl)
  have heq : L1InterfaceStub.connected = l' := by
    rw [L1InterfaceStub.connected, OnConnected, hlocal]
    rfl
  rw [heq, hmap]
  refine ⟨hs, rfl, fun c hc => ⟨by rw [hmap]; rfl, ?_⟩⟩
  rw [hreg]
  exact Function.update_of_ne hc ..

theorem meets_init {situations : List Meeting}
    (h : Among situations ⟨.idle, .idle, [], []⟩) : Meets situations init where
  served := fun _ => connected_spec.1
  service := fun _ => ⟨connected_spec.2.1, fun _ => List.not_mem_nil⟩
  allocating := fun _ _ hm => absurd hm List.not_mem_nil
  channel := fun c hc => ⟨fun _ => .idle, fun _ => connected_spec.2.2 c hc, fun _ => h,
    fun _ => ⟨fun ⟨_, hm⟩ => absurd hm List.not_mem_nil, nofun⟩⟩

/-- **Every step is possible, and keeps the situations.** -/
theorem meets_step {situations : List Meeting} {buffers : Bool → Prop} {w : Agents} {a : Action}
    (hclosed : Closed situations buffers) (h : Meets situations w) (ha : Allocates buffers a)
    (hp : w.Pending a) : ∃ w', w.step a = some w' ∧ Meets situations w' := by
  have hstay : ∀ i, Function.update w.link i (w.link i) = w.link := fun i =>
    Function.update_eq_self i w.link
  cases a with
  | act i call =>
    cases call with
    | allocate c prio dirId env =>
      obtain ⟨hd, hb⟩ := ha
      by_cases hc : c = CA_SERVICE_CHANNEL
      · -- the client is answered at once; any other channel serves to say that nothing changes
        have hcall : (w.state i).call (.allocate c prio dirId env)
            = some ⟨w.state i, [], [(dirId, .allocateChannelResp c .channelBusy)]⟩ := by
          rw [call, if_pos hd, processClientAllocateRequest, if_pos hc]
        obtain ⟨slots, hslots⟩ := h.channel 1 (by decide)
        refine ⟨_, Duplex.step_act hcall, ?_⟩
        have hmeets := h.react (i := i) (w.link i) (by decide) hslots
          (moved_same (h.served i) (hslots.holds i)
            [(dirId, .allocateChannelResp c .channelBusy)] (by simp [success]))
          (List.Subset.refl _) (fun _ _ => rfl)
          (by rw [List.append_nil]; exact hslots.among i) id
        rw [hstay] at hmeets
        exact hmeets
      · obtain ⟨slots, hslots⟩ := h.channel c hc
        obtain ⟨r, hcall, hmoved⟩ := processClientAllocateRequest_moved (h.served i)
          (hslots.holds i) hc env prio hd
        have hcall' : (w.state i).call (.allocate c prio dirId env) = some r := by
          rw [call, if_pos hd, hcall]
        refine ⟨_, Duplex.step_act hcall', ?_⟩
        have hmeets := h.react (w.link i) hc hslots hmoved (List.Subset.refl _)
          (fun _ _ => rfl) (hclosed.closed _ hb _ (hslots.among i)).1 fun ho =>
            (operational_stays (hclosed.known _ (hslots.among i)) ho env.hasBuffer).1
        rw [hstay] at hmeets
        exact hmeets
    | deallocate c env => exact absurd ha id
    | deallocateByWD c dirId env => exact absurd ha id
    | timeout env => exact absurd ha id
  | deliver i env =>
    obtain ⟨m, rest, hlink⟩ := List.exists_cons_of_ne_nil hp
    obtain ⟨c, word, hm, hc⟩ := h.allocating i m (hlink ▸ List.mem_cons_self)
    obtain ⟨slots, hslots⟩ := h.channel c hc
    have hwords : wordsOn c (w.link i) = word :: wordsOn c rest := by
      rw [hlink, wordsOn_cons, wordsOn_self hm]
      rfl
    have hamong := hslots.among i
    rw [meeting, hwords] at hamong
    have hknown := hclosed.known _ hamong
    obtain ⟨r, hreceive, hmoved⟩ := receive_moved (h.served i) (hslots.holds i) hc env hm
      fun hboth => requestedAgent_waits hknown (by rw [hboth.1]; rfl) hboth.2
    refine ⟨_, Duplex.step_deliver hlink hreceive, h.react rest hc hslots hmoved ?_ ?_
      (hclosed.closed _ ha _ hamong).2 fun ho => (operational_stays hknown ho env.hasBuffer).2⟩
    · rw [hlink]
      exact List.subset_cons_self m rest
    · intro c' hne
      rw [hlink, wordsOn_cons, wordsOn_other hm hne, List.nil_append]

/-- **At the end of every run** of two agents whose clients ask for channels. -/
theorem meets_run {situations : List Meeting} {buffers : Bool → Prop} {as : List Action}
    {w w' : Agents} (hclosed : Closed situations buffers) (h : Meets situations w)
    (ha : ∀ a ∈ as, Allocates buffers a) (hr : run step w as = some w') :
    Meets situations w' := by
  refine run_invariant (P := fun _ a => Allocates buffers a) ?_ h
    (along_of_mem fun a hmem _ => ha a hmem) hr
  intro v a v' hv hva hstep
  have hp : v.Pending a := by
    cases a with
    | act i call => trivial
    | deliver i env =>
      intro hnil
      rw [step, Duplex.step, hnil] at hstep
      exact absurd hstep (by simp)
  obtain ⟨v'', hv'', hmeets⟩ := meets_step hclosed hv hva hp
  exact Option.some.inj (hv''.symm.trans hstep) ▸ hmeets

/-- What is on the way to a side can be consumed, and nothing is untold by that. -/
theorem meets_consume {situations : List Meeting} {buffers : Bool → Prop} (i : Side)
    (hclosed : Closed situations buffers) :
    ∀ {envs : List Env} {w : Agents}, Meets situations w → envs.length = (w.link i).length →
      (∀ env ∈ envs, buffers env.hasBuffer) →
      ∃ w', run step w (envs.map (.deliver i)) = some w' ∧ Meets situations w' ∧ w'.link i = []
        ∧ ∀ j, w.told j ⊆ w'.told j
  | [], w, h, hlen, _ =>
    ⟨w, rfl, h, List.length_eq_zero_iff.mp hlen.symm, fun _ => List.Subset.refl _⟩
  | env :: envs, w, h, hlen, hb => by
    have hp : w.link i ≠ [] := by
      rintro hnil
      rw [hnil] at hlen
      exact absurd hlen (by simp)
    obtain ⟨v, hstep, hv⟩ := meets_step (a := .deliver i env) hclosed h
      (hb env List.mem_cons_self) hp
    have hdone : v.link i = (w.link i).tail ∧ ∀ j, w.told j ⊆ v.told j := by
      cases Duplex.step_cases hstep with
      | deliver hlink _ =>
        refine ⟨?_, fun j => ?_⟩
        · show Function.update (Function.update w.link i _) i.other _ i = _
          rw [Function.update_of_ne (Side.other_ne i).symm, Function.update_self, hlink]
          rfl
        · show w.told j ⊆ Function.update w.told i (w.told i ++ _) j
          by_cases hj : j = i
          · rw [hj, Function.update_self]
            exact List.subset_append_left ..
          · rw [Function.update_of_ne hj]
            exact List.Subset.refl _
    have hlen' : envs.length = (v.link i).length := by
      rw [hdone.1, List.length_tail, ← hlen, List.length_cons, Nat.add_sub_cancel]
    obtain ⟨w', hrun, hw', hnil, htold⟩ := meets_consume i hclosed hv hlen'
      fun env' hmem => hb env' (List.mem_cons_of_mem _ hmem)
    refine ⟨w', ?_, hw', hnil, fun j => List.Subset.trans (hdone.2 j) (htold j)⟩
    rw [List.map_cons, run, hstep]
    exact hrun

/-- **Two agents agree about the channels they allocate**, whatever their clients ask for and
when, and whatever messages find no buffer. No channel is requested and registered at once; every
step is possible, so no assertion fails; and when a client was told of success, its channel is
registered and so is the other side's, for a client of that side. If every message has found a
buffer, that client too is told once its agent has heard what is on the way to it. -/
theorem allocation_agreed {as : List Action} {w : Agents}
    (ha : ∀ a ∈ as, Allocates (fun _ => True) a) (hr : run step init as = some w) :
    (∀ i c, (w.state i).mRequestedMap c = none ∨ (w.state i).mL1ChannelRegistry c = none)
    ∧ (∀ a, Allocates (fun _ => True) a → w.Pending a → ∃ w', w.step a = some w')
    ∧ ∀ i c dirId, (dirId, success c) ∈ w.told i →
        (∃ info, (w.state i).mL1ChannelRegistry c = some info ∧ info.mClientDir ≠ -1)
        ∧ (∃ info, (w.state i.other).mL1ChannelRegistry c = some info ∧ info.mClientDir ≠ -1)
        ∧ ((∀ a ∈ as, Allocates (fun hasBuffer => hasBuffer = true) a) →
          ∀ envs : List Env, envs.length = (w.link i.other).length →
            (∀ env ∈ envs, env.hasBuffer = true) →
            ∃ w', run step w (envs.map (.deliver i.other)) = some w'
              ∧ ∃ dirId', (dirId', success c) ∈ w'.told i.other) := by
  have h : Meets meetings w := meets_run closed_meetings (meets_init (by decide)) ha hr
  refine ⟨fun i c => ?_, fun a haa hp => ?_, fun i c dirId ht => ?_⟩
  · by_cases hc : c = CA_SERVICE_CHANNEL
    · exact .inl (hc ▸ (h.service i).1)
    · obtain ⟨slots, hslots⟩ := h.channel c hc
      exact (hslots.holds i).apart
  · obtain ⟨w', hstep, -⟩ := meets_step closed_meetings h haa hp
    exact ⟨w', hstep⟩
  · have hc : c ≠ CA_SERVICE_CHANNEL := by
      rintro rfl
      exact (h.service i).2 dirId ht
    obtain ⟨slots, hslots⟩ := h.channel c hc
    have ho : slots i = .operational := (hslots.told i).mp ⟨dirId, ht⟩
    refine ⟨(hslots.holds i).registered (by rw [ho]; rfl),
      (hslots.holds i.other).registered (operational_agreed (hslots.among i) ho),
      fun hbuffered envs hlen hb => ?_⟩
    have hheard : Meets heard w := meets_run closed_heard (meets_init (by decide)) hbuffered hr
    obtain ⟨w', hrun, hw', hnil, htold⟩ := meets_consume i.other closed_heard hheard hlen hb
    obtain ⟨slots', hslots'⟩ := hw'.channel c hc
    have ho' : slots' i = .operational := (hslots'.told i).mp ⟨dirId, htold i ht⟩
    have hwords : (w'.meeting slots' c i).toPeer = [] := by
      rw [meeting, hnil]
      rfl
    exact ⟨w', hrun, (hslots'.told i.other).mpr (heard_agreed (hslots'.among i) ho' hwords)⟩

/-- Both clients ask before either side has heard of the other. -/
def crossingRequests : List Action :=
  [.act .a (.allocate 5 .realTime 7 ⟨0, true⟩), .act .b (.allocate 5 .plainData 9 ⟨0, true⟩),
    .deliver .b ⟨1, true⟩, .deliver .a ⟨1, true⟩, .deliver .a ⟨2, true⟩]

theorem allocation_agreed_crossing : ∃ w, run step init crossingRequests = some w
    ∧ (7, success 5) ∈ w.told .a
    ∧ ∃ info, (w.state .b).mL1ChannelRegistry 5 = some info ∧ info.mClientDir ≠ -1 := by
  have hrun : ∃ w, run step init crossingRequests = some w ∧ (7, success 5) ∈ w.told .a :=
    ⟨_, rfl, by decide⟩
  obtain ⟨w, hr, ht⟩ := hrun
  refine ⟨w, hr, ht, ((allocation_agreed ?_ hr).2.2 .a 5 7 ht).2.1⟩
  simp [crossingRequests, Allocates]

end Agents

end IviLink.L1
