import IviLink.Ipc.Socket
import IviLink.L0.Peers
import IviLink.Lib.Duplex

/-!
# How one channel is closed

What L1 makes of requests to deallocate one channel, as a protocol of its own. Each
side has the channel for a client or has it not, and they exchange three words about
it. Closing works between two sides that both have the channel (`Shared`), in
whatever order they ask; a side that has it alone is not heard (`Alone`).
-/

namespace IviLink.L1.Closing

open IviLink.Ipc (DirectionId)
open IviLink.L0 (Side)
open IviLink.Lib

/-- The client an end of the channel is registered for. -/
abbrev End := Option DirectionId

inductive Word
  /-- The channel is to be closed. -/
  | close
  /-- It has been. -/
  | closed
  /-- There is no such channel. -/
  | unknown
  deriving DecidableEq, Repr

/-- A client asks, and may become the one the end is registered for. -/
def ask (dirId : Option DirectionId) : End → Reaction End Word DirectionId
  | none => ⟨none, [], []⟩
  | some d => ⟨some (dirId.getD d), [.close], []⟩

/-- A word arrives. Who is told is told the end of the channel. -/
def hear : Word → End → Reaction End Word DirectionId
  | .close, some d => ⟨none, [.closed], [d]⟩
  | .close, none => ⟨none, [.unknown], []⟩
  | .closed, some d => ⟨none, [], [d]⟩
  | .closed, none => ⟨none, [], []⟩
  | .unknown, e => ⟨e, [], []⟩

def machine : Machine End (Option DirectionId) Unit Word DirectionId :=
  ⟨fun e dirId => some (ask dirId e), fun e _ word => some (hear word e)⟩

abbrev Ends := Duplex Side End Word DirectionId

abbrev Action := Duplex.Action Side (Option DirectionId) Unit

def step (w : Ends) (a : Action) : Option Ends := Duplex.step machine Side.other w a

variable {clients : Side → DirectionId → Prop} {told : Side → List DirectionId} {w w' : Ends}
  {a : Action}

/-- Who asks for himself is one of the clients. -/
def Known (clients : Side → DirectionId → Prop) : Action → Prop
  | .act i (some d) => clients i d
  | _ => True

/-- A channel both sides had when what is in `told` had been told. -/
structure Shared (clients : Side → DirectionId → Prop) (told : Side → List DirectionId)
    (w : Ends) : Prop where
  client : ∀ i d, w.state i = some d → clients i d
  /-- The end of the channel has been told once where it has come, and nowhere else. -/
  once : ∀ i, (w.state i ≠ none ∧ w.told i = told i)
    ∨ (w.state i = none ∧ ∃ d, clients i d ∧ w.told i = told i ++ [d])
  /-- Where it has come on one side only, the other side is going to hear of it. -/
  heard : ∀ i, w.state i = none → w.state i.other ≠ none → .closed ∈ w.link i.other
  closed : ∀ i, .closed ∈ w.link i → w.state i.other = none

/-- A side has asked and was heard or will be. -/
def Asked (w : Ends) : Prop := ∃ i, w.state i = none ∨ .close ∈ w.link i

/-- One side only has the channel. -/
structure Alone (i : Side) (w : Ends) : Prop where
  own : w.state i ≠ none
  peer : w.state i.other = none
  quiet : ∀ word ∈ w.link i, word = .unknown

theorem shared_init (hclient : ∀ i d, w.state i = some d → clients i d)
    (hboth : ∀ i, w.state i ≠ none) (hquiet : ∀ i, w.link i = []) : Shared clients w.told w where
  client := hclient
  once := fun i => .inl ⟨hboth i, rfl⟩
  heard := fun i hi => absurd hi (hboth i)
  closed := fun i hm => absurd (hquiet i ▸ hm) List.not_mem_nil

theorem hear_none (word : Word) : (hear word none).state = none ∧ (hear word none).told = []
    ∧ .closed ∉ (hear word none).sent := by
  cases word <;> simp [hear]

/-- The facts about one side and about the other. -/
theorem both {P : Side → Prop} {i : Side} (h : P i) (h' : P i.other) (j : Side) : P j := by
  rcases Side.eq_or i j with rfl | rfl
  · exact h
  · exact h'

/-- **Every step between two sides that had the channel.** -/
theorem shared_step (h : Shared clients told w) (ha : Known clients a)
    (hstep : step w a = some w') : Shared clients told w' := by
  cases Duplex.step_cases hstep with
  | @act i dirId r hact =>
    obtain rfl := Option.some.inj hact
    have hne := Side.other_ne i
    cases he : w.state i with
    | none =>
      have hsame := Duplex.react_nothing Side.other w i
      rw [he] at hsame
      rw [ask, hsame]
      exact h
    | some d =>
      have hopen : w.state i ≠ none := by simp [he]
      refine ⟨both (i := i) ?_ ?_, both (i := i) ?_ ?_, both (i := i) ?_ ?_, both (i := i) ?_ ?_⟩
      · intro d' hd'
        rw [Duplex.react_state_self] at hd'
        obtain rfl := Option.some.inj hd'
        cases dirId with
        | none => exact h.client i d he
        | some d' => exact ha
      · rw [Duplex.react_state_ne _ _ _ hne]
        exact h.client i.other
      · rw [Duplex.react_state_self, Duplex.react_told_self]
        refine .inl ⟨by simp [ask], ?_⟩
        rcases h.once i with ⟨-, ht⟩ | ⟨hnone, -⟩
        · rw [ht]
          exact List.append_nil _
        · exact absurd hnone hopen
      · rw [Duplex.react_state_ne _ _ _ hne, Duplex.react_told_ne _ _ _ hne]
        exact h.once i.other
      · intro hi
        rw [Duplex.react_state_self] at hi
        exact absurd hi (by simp [ask])
      · rw [Side.other_other, Duplex.react_state_ne _ _ _ hne, Duplex.react_link_ne _ _ _ hne.symm]
        intro hi _
        exact Side.other_other i ▸ h.heard i.other hi (by rw [Side.other_other]; exact hopen)
      · rw [Duplex.react_state_ne _ _ _ hne, Duplex.react_link_ne _ _ _ hne.symm]
        exact h.closed i
      · rw [Duplex.react_link_peer, Side.other_other]
        intro hm
        rcases List.mem_append.mp hm with hm | hm
        · exact absurd (Side.other_other i ▸ h.closed i.other hm) hopen
        · exact absurd hm (by simp [ask])
  | @deliver i b word rest r hlink hreceive =>
    obtain rfl := Option.some.inj hreceive
    have hne := Side.other_ne i
    have hrest : ({ w with link := Function.update w.link i rest } : Ends).link i = rest :=
      Function.update_self ..
    have hother : ({ w with link := Function.update w.link i rest } : Ends).link i.other
        = w.link i.other := Function.update_of_ne hne ..
    have hold : ∀ word', word' ∈ rest → word' ∈ w.link i := fun _ hm =>
      hlink ▸ List.mem_cons_of_mem _ hm
    refine ⟨both (i := i) ?_ ?_, both (i := i) ?_ ?_, both (i := i) ?_ ?_, both (i := i) ?_ ?_⟩
    · rw [Duplex.react_state_self]
      intro d hd
      refine h.client i d ?_
      revert hd
      cases word <;> cases w.state i <;> simp [hear]
    · rw [Duplex.react_state_ne _ _ _ hne]
      exact h.client i.other
    · rw [Duplex.react_state_self, Duplex.react_told_self]
      rcases h.once i with ⟨hopen, ht⟩ | ⟨hnone, d, hd, ht⟩
      · obtain ⟨d, he⟩ := Option.ne_none_iff_exists'.mp hopen
        -- the end comes now, unless the word says nothing
        cases word with
        | close => exact .inr ⟨by simp [hear, he], d, h.client i d he, by simp [hear, he, ht]⟩
        | closed => exact .inr ⟨by simp [hear, he], d, h.client i d he, by simp [hear, he, ht]⟩
        | unknown => exact .inl ⟨by simp [hear, he], by simp [hear, ht]⟩
      · refine .inr ⟨?_, d, hd, ?_⟩
        · rw [hnone]
          exact (hear_none word).1
        · show w.told i ++ (hear word (w.state i)).told = _
          rw [hnone, (hear_none word).2.1, List.append_nil, ht]
    · rw [Duplex.react_state_ne _ _ _ hne, Duplex.react_told_ne _ _ _ hne]
      exact h.once i.other
    · rw [Duplex.react_state_self, Duplex.react_state_ne _ _ _ hne, Duplex.react_link_peer, hother]
      intro hi hpeer
      cases he : w.state i with
      | none => exact List.mem_append_left _ (h.heard i he hpeer)
      | some d =>
        cases word with
        | close => exact List.mem_append_right _ (by simp [hear])
        | closed => exact absurd (h.closed i (hlink ▸ List.mem_cons_self)) hpeer
        | unknown => exact absurd hi (by simp [hear, he])
    · rw [Duplex.react_state_ne _ _ _ hne, Side.other_other, Duplex.react_state_self,
        Duplex.react_link_ne _ _ _ hne.symm, hrest]
      intro hpeer hi
      have hopen : w.state i ≠ none := by
        intro he
        rw [he] at hi
        exact hi (hear_none word).1
      have hm := h.heard i.other hpeer (by rw [Side.other_other]; exact hopen)
      rw [Side.other_other, hlink] at hm
      rcases List.mem_cons.mp hm with rfl | hm
      · obtain ⟨d, he⟩ := Option.ne_none_iff_exists'.mp hopen
        exact absurd rfl (he ▸ hi)
      · exact hm
    · rw [Duplex.react_state_ne _ _ _ hne, Duplex.react_link_ne _ _ _ hne.symm, hrest]
      exact fun hm => h.closed i (hold _ hm)
    · rw [Duplex.react_link_peer, Side.other_other, Duplex.react_state_self, hother]
      intro hm
      rcases List.mem_append.mp hm with hm | hm
      · have he := h.closed i.other hm
        rw [Side.other_other] at he
        rw [he]
        exact (hear_none word).1
      · cases he : w.state i with
        | none => exact (hear_none word).1
        | some d =>
          rw [he] at hm
          cases word with
          | close => rfl
          | closed => rfl
          | unknown => exact absurd hm (by simp [hear])

/-- A request is not forgotten. -/
theorem asked_step (h : Asked w) (hstep : step w a = some w') : Asked w' := by
  obtain ⟨j, h⟩ := h
  cases Duplex.step_cases hstep with
  | @act i dirId r hact =>
    obtain rfl := Option.some.inj hact
    refine ⟨j, h.imp (fun hj => ?_) fun hm => ?_⟩
    · by_cases hij : j = i
      · subst hij
        rw [Duplex.react_state_self, hj]
        rfl
      · rwa [Duplex.react_state_ne _ _ _ hij]
    · by_cases hij : j = i.other
      · subst hij
        rw [Duplex.react_link_peer]
        exact List.mem_append_left _ hm
      · rwa [Duplex.react_link_ne _ _ _ hij]
  | @deliver i b word rest r hlink hreceive =>
    obtain rfl := Option.some.inj hreceive
    by_cases hij : j = i
    · subst hij
      refine ⟨j, ?_⟩
      rw [Duplex.react_state_self, Duplex.react_link_ne _ _ _ (Side.other_ne j).symm]
      rcases h with hj | hm
      · left
        show (hear word (w.state j)).state = none
        rw [hj]
        exact (hear_none word).1
      · rw [hlink] at hm
        rcases List.mem_cons.mp hm with rfl | hm
        · left
          cases w.state j <;> rfl
        · right
          show _ ∈ Function.update w.link j rest j
          rwa [Function.update_self]
    · refine ⟨j, ?_⟩
      rw [Duplex.react_state_ne _ _ _ hij]
      refine h.imp id fun hm => ?_
      obtain rfl : j = i.other := (Side.eq_or i j).resolve_left hij
      rw [Duplex.react_link_peer]
      refine List.mem_append_left _ ?_
      show _ ∈ Function.update w.link i rest i.other
      rwa [Function.update_of_ne (Side.other_ne i)]

/-- Asking is one way to have asked. -/
theorem asked_of_act {i : Side} {dirId : Option DirectionId}
    (hstep : step w (.act i dirId) = some w') : Asked w' := by
  cases Duplex.step_cases hstep with
  | @act i dirId r hact =>
    obtain rfl := Option.some.inj hact
    cases he : w.state i with
    | none =>
      refine ⟨i, .inl ?_⟩
      rw [Duplex.react_state_self]
      rfl
    | some d =>
      refine ⟨i.other, .inr ?_⟩
      rw [Duplex.react_link_peer]
      exact List.mem_append_right _ (by simp [ask])

/-- **When nothing is on the way any more**, a channel both sides had is gone on both sides if
one of them has asked. -/
theorem Shared.gone (h : Shared clients told w) (ha : Asked w) (hquiet : ∀ i, w.link i = [])
    (i : Side) : w.state i = none ∧ ∃ d, clients i d ∧ w.told i = told i ++ [d] := by
  have hnone : w.state i = none := by
    obtain ⟨j, hj⟩ := ha
    have hj : w.state j = none := hj.resolve_right (by rw [hquiet]; exact List.not_mem_nil)
    have hpeer : w.state j.other = none := by
      by_contra hopen
      exact absurd (hquiet j.other ▸ h.heard j hj hopen) List.not_mem_nil
    exact both (P := fun i => w.state i = none) hj hpeer i
  exact ⟨hnone, ((h.once i).resolve_left fun ho => ho.1 hnone).2⟩

theorem alone_init {i : Side} (hown : w.state i ≠ none) (hpeer : w.state i.other = none)
    (hquiet : w.link i = []) : Alone i w :=
  ⟨hown, hpeer, fun _ hm => absurd (hquiet ▸ hm) List.not_mem_nil⟩

/-- **A side that has the channel alone keeps it**: nobody answers but to say that there is no
such channel. -/
theorem alone_step {i : Side} (h : Alone i w) (hstep : step w a = some w') : Alone i w' := by
  have hne := Side.other_ne i
  cases Duplex.step_cases hstep with
  | @act j dirId r hact =>
    obtain rfl := Option.some.inj hact
    rcases Side.eq_or i j with rfl | rfl
    · obtain ⟨d, he⟩ := Option.ne_none_iff_exists'.mp h.own
      refine ⟨?_, ?_, ?_⟩
      · rw [Duplex.react_state_self, he]
        simp [ask]
      · rw [Duplex.react_state_ne _ _ _ hne]
        exact h.peer
      · rw [Duplex.react_link_ne _ _ _ hne.symm]
        exact h.quiet
    · have hsame := Duplex.react_nothing Side.other w i.other
      rw [h.peer] at hsame
      rw [h.peer, ask, hsame]
      exact h
  | @deliver j b word rest r hlink hreceive =>
    obtain rfl := Option.some.inj hreceive
    rcases Side.eq_or i j with rfl | rfl
    · obtain rfl := h.quiet word (hlink ▸ List.mem_cons_self)
      refine ⟨?_, ?_, ?_⟩
      · rw [Duplex.react_state_self]
        exact h.own
      · rw [Duplex.react_state_ne _ _ _ hne]
        exact h.peer
      · rw [Duplex.react_link_ne _ _ _ hne.symm]
        intro word' hm
        change word' ∈ Function.update w.link j rest j at hm
        rw [Function.update_self] at hm
        exact h.quiet word' (hlink ▸ List.mem_cons_of_mem _ hm)
    · refine ⟨?_, ?_, ?_⟩
      · rw [Duplex.react_state_ne _ _ _ hne.symm]
        exact h.own
      · rw [Duplex.react_state_self, h.peer]
        exact (hear_none word).1
      · intro word' hm
        have hm' : word' ∈ w.link i ++ (hear word (w.state i.other)).sent := by
          have heq := Duplex.react_link_peer
            { w with link := Function.update w.link i.other rest } Side.other i.other
            (hear word (w.state i.other))
          rw [Side.other_other] at heq
          rw [heq] at hm
          change word' ∈ Function.update w.link i.other rest i ++ _ at hm
          rwa [Function.update_of_ne hne.symm] at hm
        rcases List.mem_append.mp hm' with hm | hm
        · exact h.quiet word' hm
        · rw [h.peer] at hm
          cases word <;> simp_all [hear]

end IviLink.L1.Closing
