import IviLink.ChannelSupervisor.NegotiatorClient
import Mathlib.Tactic.Common

/-!
# What late responses do to a client of the negotiator

Whatever comes when, a response is stored only in an entry of the id it came with, and
a call reads only the entry of its own id: what a call returns is a response with its
id (`Named`).

The rest depends on the order. Only callers erase entries, and only the entry that is
there when they are done: a response that comes later makes a new one that stays. The
invariant is per message id (`Cell`): where the call is, what is in the entry, and
what the receiving thread does for this id. Responses that come for a call that waits,
one for each, pass through the cell and leave it empty.
-/

namespace IviLink.ChannelSupervisor.NegotiatorClient

open IviLink.Ipc (MsgId)
open IviLink.Lib

variable {c c' : Client} {e : Event} {id : MsgId} {k : Nat}

/-! ## Responses stay with their id -/

/-- What a phase refers to is of this id. -/
def Phase.Named (id : MsgId) : Phase → Prop
  | .sending | .sent => True
  | .waiting p | .waited p _ => p.key = id
  | .erasing result _ => ∀ response, result = some response → response.id = id

structure Named (c : Client) : Prop where
  entries : ∀ id data response, c.mResponsesMap id = some data →
    data.mResponse = some response → response.id = id
  phases : ∀ id, ∀ phase ∈ c.calls id, phase.Named id
  receiver : ∀ p response, c.receiver = .found p response → response.id = p.key
  returned : ∀ x ∈ c.returned, x.2.id = x.1

theorem Named.init : Named .init where
  entries := fun _ _ _ h => nomatch h
  phases := fun _ _ h => absurd h List.not_mem_nil
  receiver := fun _ _ h => Receiver.noConfusion h
  returned := fun _ h => absurd h List.not_mem_nil

theorem Named.setPhase (h : Named c) {phase : Phase} (hphase : phase.Named id) :
    Named (c.setPhase id k phase) := by
  refine { h with phases := ?_ }
  intro id' phase' hmem
  by_cases hid : id' = id
  · subst hid
    have hmem : phase' ∈ (c.calls id').set k phase := by simpa [Client.setPhase] using hmem
    rcases List.mem_or_eq_of_mem_set hmem with hmem | rfl
    · exact h.phases id' phase' hmem
    · exact hphase
  · exact h.phases id' phase' (by simpa [Client.setPhase, hid] using hmem)

theorem Named.endCall (h : Named c) : Named (c.endCall id k) := by
  refine { h with phases := ?_ }
  intro id' phase' hmem
  by_cases hid : id' = id
  · subst hid
    have hmem : phase' ∈ (c.calls id').eraseIdx k := by simpa [Client.endCall] using hmem
    exact h.phases id' phase' (List.mem_of_mem_eraseIdx hmem)
  · exact h.phases id' phase' (by simpa [Client.endCall, hid] using hmem)

/-- An entry is replaced by one whose response, if any, has the id. -/
theorem Named.update (h : Named c) (id : MsgId) {entry : Option NegotiatorResponseData}
    {allocated : Nat}
    (hentry : ∀ data response, entry = some data → data.mResponse = some response →
      response.id = id) :
    Named { c with mResponsesMap := Function.update c.mResponsesMap id entry,
                   allocated := allocated } := by
  refine { h with entries := ?_ }
  intro id' data response hdata hresponse
  by_cases hid : id' = id
  · subst hid
    exact hentry data response (by simpa using hdata) hresponse
  · exact h.entries id' data response (by simpa [hid] using hdata) hresponse

theorem Named.getData (h : Named c) (id : MsgId) :
    Named (c.getDataForMessageId id).1 ∧ (c.getDataForMessageId id).2.key = id := by
  unfold Client.getDataForMessageId
  split
  · exact ⟨h, rfl⟩
  · refine ⟨h.update id ?_, rfl⟩
    intro data response hdata hresponse
    rw [← Option.some.inj hdata] at hresponse
    cases hresponse

theorem Named.deref (h : Named c) {p : DataPtr} {data : NegotiatorResponseData}
    (hp : c.deref p = some data) {response : Response} (hr : data.mResponse = some response) :
    response.id = p.key :=
  h.entries p.key data response (Option.eq_some_of_filter_eq_some hp) hr

/-- **Whatever comes when, a response stays with its id.** -/
theorem named_step (h : Named c) (hs : next c e = some c') : Named c' := by
  cases e with
  | communicateWithNegotiator =>
    cases hs
    refine { h with phases := ?_ }
    intro id phase hmem
    by_cases hid : id = c.mMessageId
    · subst hid
      have hmem : phase ∈ c.calls c.mMessageId ++ [.sending] := by simpa using hmem
      rcases List.mem_append.mp hmem with hmem | hmem
      · exact h.phases _ phase hmem
      · rw [List.mem_singleton.mp hmem]
        exact trivial
    · exact h.phases id phase (by simpa [hid] using hmem)
  | freeChannel =>
    cases hs
    exact { h with }
  | sendMessageToNegotiator id k ok =>
    rw [next] at hs
    split at hs <;> cases hs
    split
    · exact h.setPhase trivial
    · exact h.endCall
  | getDataForMessageId id k =>
    rw [next] at hs
    split at hs <;> cases hs
    obtain ⟨hn, hkey⟩ := h.getData id
    exact hn.setPhase hkey
  | wakeUp id k =>
    rw [next] at hs
    split at hs
    · next p hphase =>
      have hkey : p.key = id := h.phases id _ (List.mem_of_getElem? hphase)
      split at hs
      · cases hs
        exact { h with }
      · next data hp =>
        split at hs <;> cases hs
        refine Named.setPhase (h.update p.key ?_) hkey
        intro data' response hdata hresponse
        rw [← Option.some.inj hdata] at hresponse
        exact h.deref hp hresponse
    · cases hs
  | timedOut id k =>
    rw [next] at hs
    split at hs
    · next p hphase =>
      have hkey : p.key = id := h.phases id _ (List.mem_of_getElem? hphase)
      split at hs
      · cases hs
        exact { h with }
      · split at hs <;> cases hs
        exact h.setPhase hkey
    · cases hs
  | readResponse id k =>
    rw [next] at hs
    split at hs
    · next p ok hphase =>
      have hkey : p.key = id := h.phases id _ (List.mem_of_getElem? hphase)
      split at hs
      · cases hs
        exact { h with }
      · next data hp =>
        cases hs
        exact h.setPhase fun response hresponse => hkey ▸ h.deref hp hresponse
    · cases hs
  | eraseDataForMessageId id k =>
    rw [next] at hs
    split at hs
    · next result ok hphase =>
      cases hs
      have hresult : ∀ response, result = some response → response.id = id :=
        h.phases id _ (List.mem_of_getElem? hphase)
      have herased : Named ((c.eraseDataForMessageId id).endCall id k) :=
        Named.endCall (h.update id fun _ _ hnone => nomatch hnone)
      unfold Client.finish
      split
      · split
        · next response =>
          refine { herased with returned := ?_ }
          intro x hx
          rcases List.mem_append.mp hx with hx | hx
          · exact herased.returned x hx
          · rw [List.mem_singleton.mp hx]
            exact hresult response rfl
        · exact herased
      · exact herased
    · cases hs
  | OnAsyncRequest id =>
    rw [next] at hs
    split at hs <;> cases hs
    exact { h with receiver := fun _ _ heq => Receiver.noConfusion heq }
  | findData =>
    rw [next] at hs
    split at hs
    · next response hreceiver =>
      cases hs
      obtain ⟨hn, hkey⟩ := h.getData response.id
      refine { hn with receiver := ?_ }
      intro p response' heq
      cases heq
      exact hkey.symm
    · cases hs
  | storeResponse =>
    rw [next] at hs
    split at hs
    · next p response hreceiver =>
      have hkey := h.receiver p response hreceiver
      split at hs
      · cases hs
        exact { h with receiver := fun _ _ heq => Receiver.noConfusion heq }
      · next data hp =>
        cases hs
        have hn : Named (c.assign p { data with mResponse := some response }) := by
          refine h.update _ ?_
          intro data' response' hdata hresponse
          rw [← Option.some.inj hdata] at hresponse
          exact Option.some.inj hresponse ▸ hkey
        exact { hn with receiver := fun _ _ heq => Receiver.noConfusion heq }
    · cases hs
  | signal =>
    rw [next] at hs
    split at hs
    · next p hreceiver =>
      split at hs
      · cases hs
        exact { h with receiver := fun _ _ heq => Receiver.noConfusion heq }
      · next data hp =>
        cases hs
        have hn : Named (c.assign p { data with mSema := data.mSema + 1 }) := by
          refine h.update _ ?_
          intro data' response' hdata hresponse
          rw [← Option.some.inj hdata] at hresponse
          exact h.deref hp hresponse
        exact { hn with receiver := fun _ _ heq => Receiver.noConfusion heq }
    · cases hs

/-! ## One message id -/

/-- What the receiving thread does for an id. -/
def Receiver.forId (r : Receiver) (id : MsgId) : Receiver := if r.about = some id then r else .idle

/-- The call waits for its response, with the entry it has got or will get. -/
def Waits (id : MsgId) (address : Nat) (phase : Phase) : Prop :=
  phase = .sent ∨ phase = .waiting ⟨id, address⟩

/-- The calls with an id, its entry, and what the receiving thread does for it. -/
inductive Cell (id : MsgId) : List Phase → Option NegotiatorResponseData → Receiver → Prop
  | empty : Cell id [] none .idle
  | sending : Cell id [.sending] none .idle
  | sent : Cell id [.sent] none .idle
  | sentReceived {r} : r.id = id → Cell id [.sent] none (.received r)
  | entry {a phase} : Waits id a phase → Cell id [phase] (some ⟨a, none, 0⟩) .idle
  | received {a phase r} : Waits id a phase → r.id = id →
      Cell id [phase] (some ⟨a, none, 0⟩) (.received r)
  | found {a phase r} : Waits id a phase → r.id = id →
      Cell id [phase] (some ⟨a, none, 0⟩) (.found ⟨id, a⟩ r)
  | stored {a phase r} : Waits id a phase → Cell id [phase] (some ⟨a, some r, 0⟩) (.stored ⟨id, a⟩)
  | answered {a phase r} : Waits id a phase → Cell id [phase] (some ⟨a, some r, 1⟩) .idle
  | woken {a r} : Cell id [.waited ⟨id, a⟩ true] (some ⟨a, some r, 0⟩) .idle
  | timedOut {a} : Cell id [.waited ⟨id, a⟩ false] (some ⟨a, none, 0⟩) .idle
  | erasing {a r} : Cell id [.erasing (some r) true] (some ⟨a, some r, 0⟩) .idle
  | erasingNone {a} : Cell id [.erasing none false] (some ⟨a, none, 0⟩) .idle

/-- Where a response is. -/
def Holds (entry : Option NegotiatorResponseData) (receiver : Receiver) (r : Response) : Prop :=
  (∃ data, entry = some data ∧ data.mResponse = some r) ∨ receiver = .received r ∨
    ∃ p, receiver = .found p r

/-- What holds of a client that responses are prompt to. -/
structure Tidy (c : Client) : Prop where
  cells : ∀ id, Cell id (c.calls id) (c.mResponsesMap id) (c.receiver.forId id)
  held : ∀ r ∈ c.undeleted, Holds (c.mResponsesMap r.id) (c.receiver.forId r.id) r
  sound : c.usedErased = false

theorem Tidy.init : Tidy .init where
  cells := fun _ => .empty
  held := fun _ h => absurd h List.not_mem_nil
  sound := rfl

/-- What is to be shown of a step that is about one id. -/
theorem Tidy.update (h : Tidy c) (id : MsgId)
    (hcalls : ∀ id', id' ≠ id → c'.calls id' = c.calls id')
    (hmap : ∀ id', id' ≠ id → c'.mResponsesMap id' = c.mResponsesMap id')
    (hreceiver : ∀ id', id' ≠ id → c'.receiver.forId id' = c.receiver.forId id')
    (hundeleted : ∀ r ∈ c'.undeleted, r.id ≠ id → r ∈ c.undeleted)
    (cell : Cell id (c'.calls id) (c'.mResponsesMap id) (c'.receiver.forId id))
    (held : ∀ r ∈ c'.undeleted, r.id = id → Holds (c'.mResponsesMap id) (c'.receiver.forId id) r)
    (sound : c'.usedErased = false) : Tidy c' where
  cells := by
    intro id'
    by_cases hid : id' = id
    · exact hid ▸ cell
    · rw [hcalls id' hid, hmap id' hid, hreceiver id' hid]
      exact h.cells id'
  held := by
    intro r hr
    by_cases hid : r.id = id
    · have hheld := held r hr hid
      rwa [← hid] at hheld
    · rw [hmap _ hid, hreceiver _ hid]
      exact h.held r (hundeleted r hr hid)
  sound := sound

theorem forId_self {r : Receiver} (h : r.about = some id) : r.forId id = r := if_pos h

theorem forId_ne {r : Receiver} {id' : MsgId} (h : r.about = some id) (hne : id' ≠ id) :
    r.forId id' = .idle :=
  if_neg fun heq => hne (Option.some.inj (heq.symm.trans h))

@[simp] theorem forId_idle : Receiver.forId .idle id = .idle := ite_self _

/-- The receiving thread goes on with the same id. -/
theorem forId_congr {r r' : Receiver} (h : r.about = some id) (h' : r'.about = some id) :
    ∀ id', id' ≠ id → r'.forId id' = r.forId id' := by
  intro id' hne
  rw [forId_ne h hne, forId_ne h' hne]

theorem deref_eq {p : DataPtr} {data : NegotiatorResponseData}
    (hmap : c.mResponsesMap p.key = some data) (ha : data.address = p.address) :
    c.deref p = some data := by
  rw [Client.deref, hmap]
  exact Option.filter_eq_some_iff.mpr ⟨rfl, decide_eq_true ha⟩

section Calls

variable {phase phase' : Phase}

/-- Where there is one call the index says nothing. -/
theorem getElem?_one (h : [phase'][k]? = some phase) : k = 0 ∧ phase' = phase := by
  cases k with
  | zero => exact ⟨rfl, Option.some.inj h⟩
  | succ k => cases h

theorem setPhase_calls (hcalls : c.calls id = [phase]) :
    (c.setPhase id 0 phase').calls id = [phase'] := by
  simp [Client.setPhase, hcalls]

theorem setPhase_calls_ne {id' : MsgId} (h : id' ≠ id) :
    (c.setPhase id k phase').calls id' = c.calls id' :=
  Function.update_of_ne h ..

theorem endCall_calls (hcalls : c.calls id = [phase]) : (c.endCall id 0).calls id = [] := by
  simp [Client.endCall, hcalls]

theorem endCall_calls_ne {id' : MsgId} (h : id' ≠ id) :
    (c.endCall id k).calls id' = c.calls id' :=
  Function.update_of_ne h ..

end Calls

/-- A step of a call that changes nothing but where the call is. -/
theorem Tidy.setPhase (h : Tidy c) {phase phase' : Phase} (hcalls : c.calls id = [phase])
    (cell : Cell id [phase'] (c.mResponsesMap id) (c.receiver.forId id)) :
    Tidy (c.setPhase id 0 phase') := by
  refine h.update id (fun _ hne => setPhase_calls_ne hne) (fun _ _ => rfl) (fun _ _ => rfl)
    (fun _ hr _ => hr) ?_ ?_ h.sound
  · rw [setPhase_calls hcalls]
    exact cell
  · intro r hr hid
    subst hid
    exact h.held r hr

/-! ## The steps -/

/-- An entry without a response holds nothing. -/
theorem not_holds_idle {a n : Nat} {r : Response} : ¬ Holds (some ⟨a, none, n⟩) .idle r := by
  rintro (⟨data, hdata, hr⟩ | hr | ⟨p, hr⟩)
  · cases hdata
    cases hr
  · cases hr
  · cases hr

theorem getData_some {data : NegotiatorResponseData} (h : c.mResponsesMap id = some data) :
    c.getDataForMessageId id = (c, ⟨id, data.address⟩) := by
  rw [Client.getDataForMessageId, h]

theorem getData_none (h : c.mResponsesMap id = none) :
    c.getDataForMessageId id =
      ({ c with
        mResponsesMap := Function.update c.mResponsesMap id (some ⟨c.allocated, none, 0⟩)
        allocated := c.allocated + 1 }, ⟨id, c.allocated⟩) := by
  rw [Client.getDataForMessageId, h]

theorem tidy_communicateWithNegotiator (h : Tidy c) (hp : Prompt c .communicateWithNegotiator)
    (hs : next c .communicateWithNegotiator = some c') : Tidy c' := by
  have hcell := h.cells c.mMessageId
  rw [show c.calls c.mMessageId = [] from hp] at hcell
  generalize he : c.mResponsesMap c.mMessageId = e at hcell
  generalize hr : c.receiver.forId c.mMessageId = r at hcell
  cases hcell
  cases hs
  have hnothing : ∀ r ∈ c.undeleted, r.id ≠ c.mMessageId := by
    intro r hmem hid
    have hheld := h.held r hmem
    rw [hid, he, hr] at hheld
    rcases hheld with ⟨_, hdata, _⟩ | hr | ⟨_, hr⟩
    · cases hdata
    · cases hr
    · cases hr
  refine h.update c.mMessageId (fun _ hne => Function.update_of_ne hne ..) (fun _ _ => rfl)
    (fun _ _ => rfl) (fun _ hmem _ => hmem) ?_ ?_ h.sound
  · have hcalls : Function.update c.calls c.mMessageId (c.calls c.mMessageId ++ [.sending])
        c.mMessageId = [.sending] := by
      rw [Function.update_self, show c.calls c.mMessageId = [] from hp]
      rfl
    show Cell c.mMessageId (Function.update c.calls c.mMessageId _ c.mMessageId)
      (c.mResponsesMap c.mMessageId) (c.receiver.forId c.mMessageId)
    rw [hcalls, he, hr]
    exact .sending
  · exact fun r hmem hid => absurd hid (hnothing r hmem)

theorem tidy_sendMessageToNegotiator (h : Tidy c) {ok : Bool}
    (hs : next c (.sendMessageToNegotiator id k ok) = some c') : Tidy c' := by
  rw [next] at hs
  split at hs
  · next hphase =>
    cases hs
    have hcell := h.cells id
    generalize hl : c.calls id = l at hcell hphase
    generalize he : c.mResponsesMap id = e at hcell
    generalize hr : c.receiver.forId id = r at hcell
    cases hcell with
    | sending =>
      obtain ⟨rfl, -⟩ := getElem?_one hphase
      cases ok with
      | true =>
        refine h.setPhase hl ?_
        rw [he, hr]
        exact .sent
      | false =>
        refine h.update id (fun _ hne => endCall_calls_ne hne) (fun _ _ => rfl) (fun _ _ => rfl)
          (fun _ hmem _ => hmem) ?_ ?_ h.sound
        · rw [if_neg Bool.false_ne_true, endCall_calls hl]
          show Cell id [] (c.mResponsesMap id) (c.receiver.forId id)
          rw [he, hr]
          exact .empty
        · intro r hmem hid
          subst hid
          exact h.held r hmem
    | entry hw | received hw _ | found hw _ | stored hw | answered hw =>
      obtain ⟨-, rfl⟩ := getElem?_one hphase
      rcases hw with hw | hw <;> cases hw
    | empty => cases hphase
    | _ => cases (getElem?_one hphase).2
  · cases hs

theorem tidy_getDataForMessageId (h : Tidy c)
    (hs : next c (.getDataForMessageId id k) = some c') : Tidy c' := by
  rw [next] at hs
  split at hs
  · next hphase =>
    cases hs
    have hcell := h.cells id
    generalize hl : c.calls id = l at hcell hphase
    generalize he : c.mResponsesMap id = e at hcell
    generalize hr : c.receiver.forId id = r at hcell
    -- the caller is the first one to come, or finds what the receiving thread has made
    have hfirst : ∀ r', c.mResponsesMap id = none → c.receiver.forId id = r' →
        c.calls id = [.sent] → k = 0 →
        Cell id [.waiting ⟨id, c.allocated⟩] (some ⟨c.allocated, none, 0⟩) r' →
        Tidy ((c.getDataForMessageId id).1.setPhase id k
          (.waiting (c.getDataForMessageId id).2)) := by
      rintro r' he hr hl rfl hnew
      rw [getData_none he]
      refine h.update id (fun _ hne => setPhase_calls_ne hne)
        (fun _ hne => Function.update_of_ne hne ..) (fun _ _ => rfl) (fun _ hmem _ => hmem) ?_ ?_
        h.sound
      · show Cell id
          (Function.update c.calls id ((c.calls id).set 0 (.waiting ⟨id, c.allocated⟩)) id)
          (Function.update c.mResponsesMap id _ id) (c.receiver.forId id)
        rw [Function.update_self, Function.update_self, hl, hr]
        exact hnew
      · intro r hmem hid
        have hheld := h.held r hmem
        rw [hid, he] at hheld
        rcases hheld with ⟨_, hdata, _⟩ | hheld
        · cases hdata
        · exact Or.inr hheld
    have hlater : ∀ data, c.mResponsesMap id = some data → c.calls id = [.sent] → k = 0 →
        Cell id [.waiting ⟨id, data.address⟩] (c.mResponsesMap id) (c.receiver.forId id) →
        Tidy ((c.getDataForMessageId id).1.setPhase id k
          (.waiting (c.getDataForMessageId id).2)) := by
      rintro data he hl rfl hnew
      rw [getData_some he]
      exact h.setPhase hl hnew
    cases hcell with
    | sent =>
      obtain ⟨hk, -⟩ := getElem?_one hphase
      exact hfirst _ he hr hl hk (.entry (Or.inr rfl))
    | sentReceived hid =>
      obtain ⟨hk, -⟩ := getElem?_one hphase
      exact hfirst _ he hr hl hk (.received (Or.inr rfl) hid)
    | entry hw =>
      obtain ⟨hk, rfl⟩ := getElem?_one hphase
      exact hlater _ he hl hk (by rw [he, hr]; exact .entry (Or.inr rfl))
    | received hw hid =>
      obtain ⟨hk, rfl⟩ := getElem?_one hphase
      exact hlater _ he hl hk (by rw [he, hr]; exact .received (Or.inr rfl) hid)
    | found hw hid =>
      obtain ⟨hk, rfl⟩ := getElem?_one hphase
      exact hlater _ he hl hk (by rw [he, hr]; exact .found (Or.inr rfl) hid)
    | stored hw =>
      obtain ⟨hk, rfl⟩ := getElem?_one hphase
      exact hlater _ he hl hk (by rw [he, hr]; exact .stored (Or.inr rfl))
    | answered hw =>
      obtain ⟨hk, rfl⟩ := getElem?_one hphase
      exact hlater _ he hl hk (by rw [he, hr]; exact .answered (Or.inr rfl))
    | empty => cases hphase
    | _ => cases (getElem?_one hphase).2
  · cases hs

/-- A call that waits for an entry: what the cell is like, by what the receiving thread does. -/
theorem waits_waiting {a : Nat} {p : DataPtr} (h : Waits id a (.waiting p)) : p = ⟨id, a⟩ := by
  rcases h with h | h <;> cases h
  rfl

theorem tidy_wakeUp (h : Tidy c) (hs : next c (.wakeUp id k) = some c') : Tidy c' := by
  rw [next] at hs
  split at hs
  · next p hphase =>
    have hcell := h.cells id
    generalize hl : c.calls id = l at hcell hphase
    generalize he : c.mResponsesMap id = e at hcell
    generalize hr : c.receiver.forId id = r at hcell
    -- without a response the semaphore is not there to be taken
    have hzero : ∀ a response, p = ⟨id, a⟩ → c.mResponsesMap id = some ⟨a, response, 0⟩ →
        Tidy c' := by
      rintro a response rfl he
      rw [deref_eq (c := c) (p := ⟨id, a⟩) he rfl] at hs
      cases hs
    cases hcell with
    | entry hw | received hw _ | found hw _ | stored hw =>
      obtain ⟨-, rfl⟩ := getElem?_one hphase
      exact hzero _ _ (waits_waiting hw) he
    | @answered a _ response hw =>
      obtain ⟨rfl, rfl⟩ := getElem?_one hphase
      obtain rfl := waits_waiting hw
      rw [deref_eq (c := c) (p := ⟨id, a⟩) he rfl] at hs
      cases hs
      refine h.update id (fun _ hne => setPhase_calls_ne hne)
        (fun _ hne => Function.update_of_ne hne ..) (fun _ _ => rfl) (fun _ hmem _ => hmem) ?_ ?_
        h.sound
      · show Cell id (Function.update c.calls id ((c.calls id).set 0 (.waited ⟨id, a⟩ true)) id)
          (Function.update c.mResponsesMap id _ id) (c.receiver.forId id)
        rw [Function.update_self, Function.update_self, hl, hr]
        exact .woken
      · intro r hmem hid
        have hheld := h.held r hmem
        rw [hid, he, hr] at hheld
        show Holds (Function.update c.mResponsesMap id _ id) _ r
        rw [Function.update_self]
        rcases hheld with ⟨data, hdata, hresponse⟩ | hr' | ⟨_, hr'⟩
        · cases hdata
          exact Or.inl ⟨_, rfl, hresponse⟩
        · cases hr'
        · cases hr'
    | empty => cases hphase
    | _ => cases (getElem?_one hphase).2
  · cases hs

theorem tidy_timedOut (h : Tidy c) (hp : Prompt c (.timedOut id k))
    (hs : next c (.timedOut id k) = some c') : Tidy c' := by
  rw [next] at hs
  split at hs
  · next p hphase =>
    have hcell := h.cells id
    have hidle : c.receiver.forId id = .idle := if_neg hp
    rw [hidle] at hcell
    generalize hl : c.calls id = l at hcell hphase
    generalize he : c.mResponsesMap id = e at hcell
    cases hcell with
    | @entry a phase hw =>
      obtain ⟨rfl, rfl⟩ := getElem?_one hphase
      obtain rfl := waits_waiting hw
      rw [deref_eq (c := c) (p := ⟨id, a⟩) he rfl] at hs
      cases hs
      refine h.setPhase hl ?_
      rw [he, hidle]
      exact .timedOut
    | @answered a phase r hw =>
      obtain ⟨rfl, rfl⟩ := getElem?_one hphase
      obtain rfl := waits_waiting hw
      rw [deref_eq (c := c) (p := ⟨id, a⟩) he rfl] at hs
      cases hs
    | empty => cases hphase
    | _ => cases (getElem?_one hphase).2
  · cases hs

theorem tidy_readResponse (h : Tidy c) (hs : next c (.readResponse id k) = some c') : Tidy c' := by
  rw [next] at hs
  split at hs
  · next p ok hphase =>
    have hcell := h.cells id
    generalize hl : c.calls id = l at hcell hphase
    generalize he : c.mResponsesMap id = e at hcell
    generalize hr : c.receiver.forId id = r at hcell
    cases hcell with
    | @woken a r =>
      obtain ⟨rfl, hw⟩ := getElem?_one hphase
      cases hw
      rw [deref_eq (c := c) (p := ⟨id, a⟩) he rfl] at hs
      cases hs
      refine h.setPhase hl ?_
      rw [he, hr]
      exact .erasing
    | @timedOut a =>
      obtain ⟨rfl, hw⟩ := getElem?_one hphase
      cases hw
      rw [deref_eq (c := c) (p := ⟨id, a⟩) he rfl] at hs
      cases hs
      refine h.setPhase hl ?_
      rw [he, hr]
      exact .erasingNone
    | entry hw | received hw _ | found hw _ | stored hw | answered hw =>
      obtain ⟨-, rfl⟩ := getElem?_one hphase
      rcases hw with hw | hw <;> cases hw
    | empty => cases hphase
    | _ => cases (getElem?_one hphase).2
  · cases hs

theorem tidy_eraseDataForMessageId (h : Tidy c)
    (hs : next c (.eraseDataForMessageId id k) = some c') : Tidy c' := by
  rw [next] at hs
  split at hs
  · next result ok hphase =>
    cases hs
    have hcell := h.cells id
    generalize hl : c.calls id = l at hcell hphase
    generalize he : c.mResponsesMap id = e at hcell
    generalize hr : c.receiver.forId id = r at hcell
    have hempty : k = 0 → r = .idle → c.calls id = [.erasing result ok] →
        Cell id (Function.update c.calls id ((c.calls id).eraseIdx k) id)
          (Function.update c.mResponsesMap id none id) (c.receiver.forId id) := by
      rintro rfl rfl hl
      rw [Function.update_self, Function.update_self, hl, hr]
      exact .empty
    cases hcell with
    | @erasing a response =>
      obtain ⟨rfl, hw⟩ := getElem?_one hphase
      cases hw
      refine h.update id (fun _ hne => endCall_calls_ne hne)
        (fun _ hne => Function.update_of_ne hne ..) (fun _ _ => rfl)
        (fun r hmem _ => List.mem_of_mem_filter hmem) (hempty rfl rfl hl) ?_ h.sound
      intro r hmem hid
      obtain ⟨hmem, hother⟩ := List.mem_filter.mp hmem
      have hheld := h.held r hmem
      rw [hid, he, hr] at hheld
      rcases hheld with ⟨data, hdata, hresponse⟩ | hr' | ⟨_, hr'⟩
      · cases hdata
        cases hresponse
        simp at hother
      · cases hr'
      · cases hr'
    | erasingNone =>
      obtain ⟨rfl, hw⟩ := getElem?_one hphase
      cases hw
      refine h.update id (fun _ hne => endCall_calls_ne hne)
        (fun _ hne => Function.update_of_ne hne ..) (fun _ _ => rfl) (fun r hmem _ => hmem)
        (hempty rfl rfl hl) ?_ h.sound
      intro r hmem hid
      have hheld := h.held r hmem
      rw [hid, he, hr] at hheld
      exact absurd hheld not_holds_idle
    | entry hw | received hw _ | found hw _ | stored hw | answered hw =>
      obtain ⟨-, rfl⟩ := getElem?_one hphase
      rcases hw with hw | hw <;> cases hw
    | empty => cases hphase
    | _ => cases (getElem?_one hphase).2
  · cases hs

theorem tidy_freeChannel (h : Tidy c) (hs : next c .freeChannel = some c') : Tidy c' := by
  cases hs
  exact { h with }

theorem tidy_OnAsyncRequest (h : Tidy c) (hp : Prompt c (.OnAsyncRequest id))
    (hs : next c (.OnAsyncRequest id) = some c') : Tidy c' := by
  rw [next] at hs
  split at hs
  · next hidle =>
    cases hs
    obtain ⟨⟨phase, hmem, hwaits⟩, hnone⟩ := hp
    have hcell := h.cells id
    have hr : c.receiver.forId id = .idle := by rw [hidle, forId_idle]
    rw [hr] at hcell
    have habout : (Receiver.received ⟨c.arrived, id⟩).about = some id := rfl
    have hgoal : Cell id (c.calls id) (c.mResponsesMap id) (.received ⟨c.arrived, id⟩) := by
      generalize hl : c.calls id = l at hcell hmem
      generalize he : c.mResponsesMap id = e at hcell hnone
      cases hcell with
      | sent => exact .sentReceived rfl
      | entry hw => exact .received hw rfl
      | answered hw => cases hnone _ rfl
      | empty => exact absurd hmem List.not_mem_nil
      | _ =>
        rw [List.mem_singleton.mp hmem] at hwaits
        cases hwaits
    refine h.update id (fun _ _ => rfl) (fun _ _ => rfl) ?_ ?_ ?_ ?_ h.sound
    · intro id' hne
      rw [hidle, forId_idle, forId_ne habout hne]
    · intro r hmem hid
      rcases List.mem_append.mp hmem with hmem | hmem
      · exact hmem
      · rw [List.mem_singleton.mp hmem] at hid
        exact absurd rfl hid
    · rw [forId_self habout]
      exact hgoal
    · intro r hmem hid
      rw [forId_self habout]
      rcases List.mem_append.mp hmem with hmem | hmem
      · have hheld := h.held r hmem
        rw [hid, hr] at hheld
        rcases hheld with hheld | hheld | ⟨_, hheld⟩
        · exact Or.inl hheld
        · cases hheld
        · cases hheld
      · rw [List.mem_singleton.mp hmem]
        exact Or.inr (Or.inl rfl)
  · cases hs

theorem tidy_findData (h : Tidy c) (hs : next c .findData = some c') : Tidy c' := by
  rw [next] at hs
  split at hs
  · next response hreceiver =>
    cases hs
    have habout : c.receiver.about = some response.id := by rw [hreceiver]; rfl
    have hr : c.receiver.forId response.id = .received response := by
      rw [forId_self habout, hreceiver]
    have hcell := h.cells response.id
    rw [hr] at hcell
    -- the response is now with the entry, which is there or is made
    have hheld : ∀ r ∈ c.undeleted, r.id = response.id →
        (∀ data, c.mResponsesMap response.id = some data → data.mResponse = none) →
        r = response := by
      intro r hmem hid hnone
      have hheld := h.held r hmem
      rw [hid, hr] at hheld
      rcases hheld with ⟨data, hdata, hresponse⟩ | hreceived | ⟨_, hfound⟩
      · rw [hnone data hdata] at hresponse
        cases hresponse
      · exact (Receiver.received.inj hreceived).symm
      · cases hfound
    generalize hl : c.calls response.id = l at hcell
    generalize he : c.mResponsesMap response.id = e at hcell hheld
    cases hcell with
    | sentReceived =>
      rw [getData_none he]
      have habout' : (Receiver.found ⟨response.id, c.allocated⟩ response).about =
          some response.id := rfl
      refine h.update response.id (fun _ _ => rfl) (fun _ hne => Function.update_of_ne hne ..)
        (forId_congr habout habout') (fun _ hmem _ => hmem) ?_ ?_ h.sound
      · rw [forId_self habout']
        show Cell response.id (c.calls response.id)
          (Function.update c.mResponsesMap response.id _ response.id) _
        rw [hl, Function.update_self]
        exact .found (Or.inl rfl) rfl
      · intro r hmem hid
        rw [forId_self habout', hheld r hmem hid fun _ hdata => nomatch hdata]
        exact Or.inr (Or.inr ⟨_, rfl⟩)
    | @received a phase _ hw hid =>
      rw [getData_some he]
      have habout' : (Receiver.found ⟨response.id, a⟩ response).about = some response.id := rfl
      refine h.update response.id (fun _ _ => rfl) (fun _ _ => rfl)
        (forId_congr habout habout') (fun _ hmem _ => hmem) ?_ ?_ h.sound
      · rw [forId_self habout']
        show Cell response.id (c.calls response.id) (c.mResponsesMap response.id) _
        rw [hl, he]
        exact .found hw rfl
      · intro r hmem hid
        rw [forId_self habout', hheld r hmem hid fun _ hdata => by cases hdata; rfl]
        exact Or.inr (Or.inr ⟨_, rfl⟩)
  · cases hs

/-- What the receiving thread is about is in a cell, with a call that waits. -/
theorem Tidy.found_cell (h : Tidy c) {p : DataPtr} {response : Response}
    (hreceiver : c.receiver = .found p response) :
    ∃ phase, Waits p.key p.address phase ∧ response.id = p.key ∧ c.calls p.key = [phase] ∧
      c.mResponsesMap p.key = some ⟨p.address, none, 0⟩ := by
  have hcell := h.cells p.key
  have hr : c.receiver.forId p.key = .found p response := by
    rw [forId_self (by rw [hreceiver]; rfl), hreceiver]
  rw [hr] at hcell
  generalize hl : c.calls p.key = l at hcell
  generalize he : c.mResponsesMap p.key = e at hcell
  generalize hkey : p.key = key at hcell
  cases hcell with
  | @found _ phase _ hw hid => exact ⟨phase, hw, hid, rfl, rfl⟩

theorem Tidy.stored_cell (h : Tidy c) {p : DataPtr} (hreceiver : c.receiver = .stored p) :
    ∃ phase r, Waits p.key p.address phase ∧ c.calls p.key = [phase] ∧
      c.mResponsesMap p.key = some ⟨p.address, some r, 0⟩ := by
  have hcell := h.cells p.key
  have hr : c.receiver.forId p.key = .stored p := by
    rw [forId_self (by rw [hreceiver]; rfl), hreceiver]
  rw [hr] at hcell
  generalize hl : c.calls p.key = l at hcell
  generalize he : c.mResponsesMap p.key = e at hcell
  generalize hkey : p.key = key at hcell
  cases hcell with
  | @stored _ phase r hw => exact ⟨phase, r, hw, rfl, rfl⟩

theorem tidy_storeResponse (h : Tidy c) (hs : next c .storeResponse = some c') : Tidy c' := by
  rw [next] at hs
  split at hs
  · next p response hreceiver =>
    obtain ⟨phase, hw, hid, hl, he⟩ := h.found_cell hreceiver
    have habout : c.receiver.about = some p.key := by rw [hreceiver]; rfl
    have habout' : (Receiver.stored p).about = some p.key := rfl
    rw [deref_eq he rfl] at hs
    cases hs
    refine h.update p.key (fun _ _ => rfl) (fun _ hne => Function.update_of_ne hne ..)
      (forId_congr habout habout') (fun _ hmem _ => hmem) ?_ ?_ h.sound
    · rw [forId_self habout']
      show Cell p.key (c.calls p.key) (Function.update c.mResponsesMap p.key _ p.key) _
      rw [hl, Function.update_self]
      exact .stored hw
    · intro r hmem hrid
      have hheld := h.held r hmem
      rw [hrid, he, forId_self habout, hreceiver] at hheld
      refine Or.inl ⟨⟨p.address, some response, 0⟩, Function.update_self .., ?_⟩
      rcases hheld with ⟨_, hdata, hresponse⟩ | hreceived | ⟨_, hfound⟩
      · cases hdata
        cases hresponse
      · cases hreceived
      · rw [(Receiver.found.inj hfound).2]
  · cases hs

theorem tidy_signal (h : Tidy c) (hs : next c .signal = some c') : Tidy c' := by
  rw [next] at hs
  split at hs
  · next p hreceiver =>
    obtain ⟨phase, r, hw, hl, he⟩ := h.stored_cell hreceiver
    have habout : c.receiver.about = some p.key := by rw [hreceiver]; rfl
    rw [deref_eq he rfl] at hs
    cases hs
    refine h.update p.key (fun _ _ => rfl) (fun _ hne => Function.update_of_ne hne ..)
      (fun id' hne => by rw [forId_idle, forId_ne habout hne]) (fun _ hmem _ => hmem) ?_ ?_ h.sound
    · rw [forId_idle]
      show Cell p.key (c.calls p.key) (Function.update c.mResponsesMap p.key _ p.key) _
      rw [hl, Function.update_self]
      exact .answered hw
    · intro r' hmem hrid
      have hheld := h.held r' hmem
      rw [hrid, he, forId_self habout, hreceiver] at hheld
      refine Or.inl ⟨⟨p.address, some r, 1⟩, Function.update_self .., ?_⟩
      rcases hheld with ⟨_, hdata, hresponse⟩ | hreceived | ⟨_, hfound⟩
      · cases hdata
        exact hresponse
      · cases hreceived
      · cases hfound
  · cases hs

theorem tidy_step (h : Tidy c) (hp : Prompt c e) (hs : next c e = some c') : Tidy c' := by
  cases e with
  | communicateWithNegotiator => exact tidy_communicateWithNegotiator h hp hs
  | freeChannel => exact tidy_freeChannel h hs
  | sendMessageToNegotiator id k ok => exact tidy_sendMessageToNegotiator h hs
  | getDataForMessageId id k => exact tidy_getDataForMessageId h hs
  | wakeUp id k => exact tidy_wakeUp h hs
  | timedOut id k => exact tidy_timedOut h hp hs
  | readResponse id k => exact tidy_readResponse h hs
  | eraseDataForMessageId id k => exact tidy_eraseDataForMessageId h hs
  | OnAsyncRequest id => exact tidy_OnAsyncRequest h hp hs
  | findData => exact tidy_findData h hs
  | storeResponse => exact tidy_storeResponse h hs
  | signal => exact tidy_signal h hs

/-! ## Runs -/

theorem Tidy.clean (h : Tidy c) (hq : Quiet c) : Clean c := by
  obtain ⟨hcalls, hreceiver⟩ := hq
  have hidle : ∀ id, c.receiver.forId id = .idle := by
    intro id
    rw [hreceiver, forId_idle]
  have hmap : ∀ id, c.mResponsesMap id = none := by
    intro id
    have hcell := h.cells id
    rw [hcalls id, hidle id] at hcell
    generalize he : c.mResponsesMap id = e at hcell
    cases hcell
    rfl
  refine ⟨hmap, List.eq_nil_iff_forall_not_mem.mpr ?_⟩
  intro r hmem
  have hheld := h.held r hmem
  rw [hmap, hidle] at hheld
  rcases hheld with ⟨_, hdata, _⟩ | hreceived | ⟨_, hfound⟩
  · cases hdata
  · cases hreceived
  · cases hfound

/-- A call that gets its response. -/
def answeredCall : List Event :=
  [.communicateWithNegotiator, .sendMessageToNegotiator 1 0 true, .OnAsyncRequest 1, .findData,
   .getDataForMessageId 1 0, .storeResponse, .signal, .wakeUp 1 0, .readResponse 1 0,
   .eraseDataForMessageId 1 0]

/-- A call whose response comes when it has given up. -/
def lateResponse : List Event :=
  [.communicateWithNegotiator, .sendMessageToNegotiator 1 0 true, .getDataForMessageId 1 0,
   .timedOut 1 0, .readResponse 1 0, .eraseDataForMessageId 1 0, .OnAsyncRequest 1, .findData,
   .storeResponse, .signal]

end IviLink.ChannelSupervisor.NegotiatorClient
