import IviLink.PMAL.SyncRequestsData
import Mathlib.Tactic.Common

/-!
# Whose answer a blocking call returns

A call returns true if the flag of its kind is set when it looks at it, and the value
that was there a step before. Both may be of a response to an earlier call that has
given up.

If no other call of the kind is under way when a response comes, the flag is set for
the call that it answers and for no other (`Served.flag`); a call that begins later
resets it. What is left is the time between flag and value, in which a call must not
read.
-/

namespace IviLink.PMAL.SyncRequestsData

open IviLink.Lib

variable {s s' : State} {e : Event} {k : Kind} {n : Nat}

@[simp] theorem setSlot_self (s : State) (k : Kind) (slot : Slot k) :
    (s.setSlot k slot).slots k = slot :=
  Function.update_self ..

theorem setSlot_ne {k' : Kind} (h : k' ≠ k) (s : State) (slot : Slot k) :
    (s.setSlot k slot).slots k' = s.slots k' :=
  Function.update_of_ne h ..

/-- The flag is set for this call: by its response, which is being stored or is. -/
inductive SetFor (slot : Slot k) (receiver : Receiver) (n : Nat) (phase : Phase k) : Prop
  | flagged {response} : receiver = .flagged k response → response.call = n →
      (∀ value, phase ≠ .read value) → SetFor slot receiver n phase
  | stored : (∀ response, receiver ≠ .flagged k response) → ⟨n, slot.value⟩ ∈ slot.responses →
      (∀ value, phase = .read value → ⟨n, value⟩ ∈ slot.responses) →
      SetFor slot receiver n phase

/-- What holds of the variables of a kind and its calls. -/
structure Served (slot : Slot k) (receiver : Receiver) : Prop where
  own : ∀ n value, slot.calls[n]? = some (.returned true value) → ⟨n, value⟩ ∈ slot.responses
  flag : slot.result = true → ∀ n phase, slot.calls[n]? = some phase → phase.underWay = true →
    SetFor slot receiver n phase
  came : ∀ response, receiver = .flagged k response → response ∈ slot.responses

def AllServed (s : State) : Prop := ∀ k, Served (s.slots k) s.receiver

theorem allServed_init : AllServed .init := by
  intro k
  refine ⟨?_, ?_, ?_⟩
  · intro n value h
    cases h
  · intro h
    cases h
  · intro response h
    cases h

/-- A step of a call, which leaves the receiving thread where it is. -/
theorem AllServed.setSlot (h : AllServed s) {slot : Slot k} (hslot : Served slot s.receiver) :
    AllServed (s.setSlot k slot) := by
  intro k'
  by_cases hk : k' = k
  · subst hk
    rw [setSlot_self]
    exact hslot
  · rw [setSlot_ne hk]
    exact h k'

/-- The receiving thread goes on, and is not about to store a value of another kind. -/
theorem AllServed.receive (h : AllServed s) {slot : Slot k} {receiver : Receiver}
    (hslot : Served slot receiver)
    (hbefore : ∀ k', k' ≠ k → ∀ response, s.receiver ≠ .flagged k' response)
    (hafter : ∀ k', k' ≠ k → ∀ response, receiver ≠ .flagged k' response) :
    AllServed { s.setSlot k slot with receiver := receiver } := by
  intro k'
  by_cases hk : k' = k
  · subst hk
    show Served ((s.setSlot k' slot).slots k') receiver
    rw [setSlot_self]
    exact hslot
  · show Served ((s.setSlot k slot).slots k') receiver
    rw [setSlot_ne hk]
    refine ⟨(h k').own, ?_, ?_⟩
    · intro hresult n phase hphase hunder
      cases (h k').flag hresult n phase hphase hunder with
      | flagged heq => exact absurd heq (hbefore k' hk _)
      | stored _ hvalue hread => exact .stored (hafter k' hk) hvalue hread
    · intro response heq
      exact absurd heq (hafter k' hk response)

/-- A call is in one phase or another, and only one has moved. -/
theorem calls_set {calls : List (Phase k)} {n n' : Nat} {phase phase' : Phase k}
    (h : (calls.set n phase)[n']? = some phase') :
    (n' = n ∧ phase' = phase) ∨ calls[n']? = some phase' := by
  by_cases hn : n = n'
  · subst hn
    rw [List.getElem?_set_self'] at h
    cases hc : calls[n]? with
    | none => rw [hc] at h; cases h
    | some _ =>
      rw [hc] at h
      cases h
      exact Or.inl ⟨rfl, rfl⟩
  · rw [List.getElem?_set_ne hn] at h
    exact Or.inr h

/-- A call goes on to a phase in which it has not returned true, and if it is under way, then as
before and without having read the value. -/
theorem Served.setPhase {slot : Slot k} {receiver : Receiver} (h : Served slot receiver)
    {phase phase' : Phase k} {sem : Nat} (hphase : slot.calls[n]? = some phase)
    (hunder : phase'.underWay = true → phase.underWay = true)
    (hread : ∀ value, phase' ≠ .read value) (hreturned : ∀ value, phase' ≠ .returned true value) :
    Served { slot with sem := sem, calls := slot.calls.set n phase' } receiver := by
  refine ⟨?_, ?_, h.came⟩
  · intro n' value hreturn
    rcases calls_set hreturn with ⟨rfl, heq⟩ | hreturn
    · exact absurd heq.symm (hreturned value)
    · exact h.own n' value hreturn
  · intro hresult n' phase'' hphase' hunder'
    rcases calls_set hphase' with ⟨rfl, rfl⟩ | hphase'
    · cases h.flag hresult n' phase hphase (hunder hunder') with
      | flagged heq hcall _ => exact .flagged heq hcall hread
      | stored hidle hvalue _ =>
        exact .stored hidle hvalue fun value heq => absurd heq (hread value)
    · cases h.flag hresult n' phase'' hphase' hunder' with
      | flagged heq hcall hread => exact .flagged heq hcall hread
      | stored hidle hvalue hread => exact .stored hidle hvalue hread

theorem Served.reset {slot : Slot k} {receiver : Receiver} (h : Served slot receiver) :
    Served { slot with result := false, calls := slot.calls ++ [.reset] } receiver := by
  refine ⟨?_, fun hresult => absurd hresult Bool.false_ne_true, h.came⟩
  intro n value hreturn
  rcases List.mem_append.mp (List.mem_of_getElem? hreturn) with _ | hlast
  · by_cases hn : n < slot.calls.length
    · rw [List.getElem?_append_left hn] at hreturn
      exact h.own n value hreturn
    · rw [List.getElem?_append_right (Nat.le_of_not_lt hn)] at hreturn
      have hlast := List.mem_of_getElem? hreturn
      cases List.mem_singleton.mp hlast
  · cases List.mem_singleton.mp hlast

theorem Served.readValue {slot : Slot k} {receiver : Receiver} (h : Served slot receiver)
    (hphase : slot.calls[n]? = some .waited)
    (hidle : ∀ response, receiver ≠ .flagged k response) :
    Served { slot with calls := slot.calls.set n (.read slot.value) } receiver := by
  refine ⟨?_, ?_, h.came⟩
  · intro n' value hreturn
    rcases calls_set hreturn with ⟨-, heq⟩ | hreturn
    · cases heq
    · exact h.own n' value hreturn
  · intro hresult n' phase' hphase' hunder
    rcases calls_set hphase' with ⟨rfl, rfl⟩ | hphase'
    · cases h.flag hresult n' .waited hphase rfl with
      | flagged heq => exact absurd heq (hidle _)
      | stored _ hvalue _ =>
        refine .stored hidle hvalue ?_
        intro value heq
        rwa [← Phase.read.inj heq]
    · cases h.flag hresult n' phase' hphase' hunder with
      | flagged heq => exact absurd heq (hidle _)
      | stored _ hvalue hread => exact .stored hidle hvalue hread

theorem Served.readResult {slot : Slot k} {receiver : Receiver} (h : Served slot receiver)
    {value : Content k} (hphase : slot.calls[n]? = some (.read value)) :
    Served { slot with calls := slot.calls.set n (.returned slot.result value) } receiver := by
  refine ⟨?_, ?_, h.came⟩
  · intro n' value' hreturn
    rcases calls_set hreturn with ⟨rfl, heq⟩ | hreturn
    · obtain ⟨hresult, rfl⟩ := Phase.returned.inj heq
      cases h.flag hresult.symm n' _ hphase rfl with
      | flagged _ _ hread => exact absurd rfl (hread _)
      | stored _ _ hread => exact hread _ rfl
    · exact h.own n' value' hreturn
  · intro hresult n' phase' hphase' hunder
    rcases calls_set hphase' with ⟨-, rfl⟩ | hphase'
    · cases hunder
    · cases h.flag hresult n' phase' hphase' hunder with
      | flagged heq hcall hread => exact .flagged heq hcall hread
      | stored hidle hvalue hread => exact .stored hidle hvalue hread

theorem Served.setResult {slot : Slot k} {receiver : Receiver} (h : Served slot receiver)
    {response : Response k} (hown : ∀ n phase, slot.calls[n]? = some phase →
      phase.underWay = true → n = response.call ∧ ∀ value, phase ≠ .read value) :
    Served { slot with result := true, responses := slot.responses ++ [response] }
      (.flagged k response) := by
  refine ⟨?_, ?_, ?_⟩
  · intro n value hreturn
    exact List.mem_append_left _ (h.own n value hreturn)
  · intro _ n phase hphase hunder
    obtain ⟨hn, hread⟩ := hown n phase hphase hunder
    exact .flagged rfl hn.symm hread
  · intro response' heq
    cases heq
    exact List.mem_append_right _ (List.mem_singleton.mpr rfl)

theorem Served.storeValue {slot : Slot k} {response : Response k}
    (h : Served slot (.flagged k response)) :
    Served { slot with value := response.content } (.stored k) := by
  refine ⟨h.own, ?_, fun _ heq => nomatch heq⟩
  intro hresult n phase hphase hunder
  cases h.flag hresult n phase hphase hunder with
  | flagged heq hcall hread =>
    cases heq
    refine .stored (fun _ heq => nomatch heq) ?_ fun value heq => absurd heq (hread value)
    rw [← hcall]
    exact h.came response rfl
  | stored hidle => exact absurd rfl (hidle response)

theorem Served.signal {slot : Slot k} (h : Served slot (.stored k)) :
    Served { slot with sem := slot.sem + 1 } .idle := by
  refine ⟨h.own, ?_, fun _ heq => nomatch heq⟩
  intro hresult n phase hphase hunder
  cases h.flag hresult n phase hphase hunder with
  | flagged heq => cases heq
  | stored _ hvalue hread => exact .stored (fun _ heq => nomatch heq) hvalue hread

/-- **What an undisturbed step keeps.** -/
theorem allServed_step (h : AllServed s) (hu : Undisturbed s e) (hs : next s e = some s') :
    AllServed s' := by
  cases e with
  | reset k =>
    cases hs
    exact h.setSlot (h k).reset
  | asyncRequest k n ok =>
    rw [next] at hs
    split at hs
    · next hphase =>
      cases hs
      cases ok with
      | true => exact h.setSlot ((h k).setPhase hphase (fun _ => rfl) (by simp) (by simp))
      | false => exact h.setSlot ((h k).setPhase hphase (fun _ => rfl) (by simp) (by simp))
    · cases hs
  | wakeUp k n =>
    rw [next] at hs
    split at hs
    · next hphase _ =>
      cases hs
      exact h.setSlot ((h k).setPhase hphase (fun _ => rfl) (by simp) (by simp))
    · cases hs
  | timedOut k n =>
    rw [next] at hs
    split at hs
    · next hphase =>
      cases hs
      exact h.setSlot ((h k).setPhase hphase (fun _ => rfl) (by simp) (by simp))
    · cases hs
  | readValue k n =>
    rw [next] at hs
    split at hs
    · next hphase =>
      cases hs
      exact h.setSlot ((h k).readValue hphase hu)
    · cases hs
  | readResult k n =>
    rw [next] at hs
    split at hs
    · next hphase =>
      cases hs
      exact h.setSlot ((h k).readResult hphase)
    · cases hs
  | setResult k response =>
    rw [next] at hs
    split at hs
    · next hidle =>
      split at hs
      · cases hs
        refine h.receive ((h k).setResult hu) ?_ ?_
        · rw [hidle]
          exact fun _ _ _ heq => nomatch heq
        · intro k' hk response' heq
          cases heq
          exact hk rfl
      · cases hs
    · cases hs
  | storeValue =>
    rw [next] at hs
    split at hs
    · next k response hflagged =>
      cases hs
      have hserved := h k
      rw [hflagged] at hserved
      refine h.receive hserved.storeValue ?_ fun _ _ _ heq => nomatch heq
      rw [hflagged]
      intro k' hk response' heq
      cases heq
      exact hk rfl
    · cases hs
  | signal =>
    rw [next] at hs
    split at hs
    · next k hstored =>
      cases hs
      have hserved := h k
      rw [hstored] at hserved
      refine h.receive hserved.signal ?_ fun _ _ _ heq => nomatch heq
      rw [hstored]
      exact fun _ _ _ heq => nomatch heq
    · cases hs

/-- **In an undisturbed run a call that returns true has its own answer.** -/
theorem own_answers {es : List Event} (hr : run next .init es = some s)
    (hu : Along next Undisturbed .init es) : OwnAnswers s := by
  have h : AllServed s := run_invariant (fun _ _ _ h hu hs => allServed_step h hu hs)
    allServed_init hu hr
  exact fun k => (h k).own

/-- A call that is answered in time. -/
def answeredCall : List Event :=
  [.reset .generatePIUid, .asyncRequest .generatePIUid 0 true,
   .setResult .generatePIUid ⟨0, "first"⟩, .storeValue, .signal, .wakeUp .generatePIUid 0,
   .readValue .generatePIUid 0, .readResult .generatePIUid 0]

/-- A call whose answer comes when the next one waits. -/
def lateAnswer : List Event :=
  [.reset .generatePIUid, .asyncRequest .generatePIUid 0 true, .timedOut .generatePIUid 0,
   .readValue .generatePIUid 0, .readResult .generatePIUid 0,
   .reset .generatePIUid, .asyncRequest .generatePIUid 1 true,
   .setResult .generatePIUid ⟨0, "first"⟩, .storeValue, .signal, .wakeUp .generatePIUid 1,
   .readValue .generatePIUid 1, .readResult .generatePIUid 1]

theorem own_answers_answered :
    ∃ s, run next .init answeredCall = some s ∧
      (s.slots .generatePIUid).calls = [.returned true "first"] ∧ OwnAnswers s := by
  have halone : ∀ n phase, ([.waiting] : List (Phase .generatePIUid))[n]? = some phase →
      phase.underWay = true → n = 0 ∧ ∀ value, phase ≠ .read value := by
    intro n phase hphase _
    cases n with
    | zero =>
      cases hphase
      exact ⟨rfl, fun _ heq => nomatch heq⟩
    | succ n => cases hphase
  have hundisturbed : Along next Undisturbed .init answeredCall :=
    .cons trivial rfl (.cons trivial rfl (.cons halone rfl (.cons trivial rfl (.cons trivial rfl
      (.cons trivial rfl (.cons (fun _ heq => nomatch heq) rfl (.cons trivial rfl trivial)))))))
  exact ⟨_, rfl, rfl, own_answers rfl hundisturbed⟩

theorem late_response_returned : ¬ ∀ es s, run next .init es = some s → OwnAnswers s := by
  intro h
  have hown := h lateAnswer _ rfl .generatePIUid 1 "first" rfl
  exact absurd hown (by decide)

end IviLink.PMAL.SyncRequestsData
