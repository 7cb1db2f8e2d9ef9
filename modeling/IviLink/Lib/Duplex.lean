import IviLink.Lib.Run
import Mathlib.Logic.Function.Basic

/-!
# Parties over FIFO links

Parties that act on their own or on a message, send messages, and tell things to
their surroundings. Every party has one link it receives from, and what it sends
goes to the link of its peer, at the end. With two parties that are each other's
peers this is a duplex connection that loses and reorders nothing.

A machine says what one party does; `none` is an action it cannot take, or one that
ends in a failed assertion. `Duplex.step` is the step function of all of them, so
that the rules of `Lib.Run` apply.
-/

namespace IviLink.Lib

/-- What a party does: its new state, the messages it sends, and what it tells. -/
structure Reaction (σ μ ω : Type*) where
  state : σ
  sent : List μ
  told : List ω

/-- The behaviour of one party. `β` is what its surroundings choose when a message comes. -/
structure Machine (σ α β μ ω : Type*) where
  act : σ → α → Option (Reaction σ μ ω)
  receive : σ → β → μ → Option (Reaction σ μ ω)

/-- The parties, what is on the way to each of them, and what each has told. -/
structure Duplex (ι σ μ ω : Type*) where
  state : ι → σ
  link : ι → List μ
  told : ι → List ω

namespace Duplex

inductive Action (ι α β : Type*)
  /-- A party acts on its own. -/
  | act (i : ι) (a : α)
  /-- The next message on its way to a party arrives. -/
  | deliver (i : ι) (b : β)

variable {ι σ α β μ ω : Type*} [DecidableEq ι]

/-- A party reacts. -/
def react (peer : ι → ι) (w : Duplex ι σ μ ω) (i : ι) (r : Reaction σ μ ω) : Duplex ι σ μ ω where
  state := Function.update w.state i r.state
  link := Function.update w.link (peer i) (w.link (peer i) ++ r.sent)
  told := Function.update w.told i (w.told i ++ r.told)

def step (M : Machine σ α β μ ω) (peer : ι → ι) (w : Duplex ι σ μ ω) :
    Action ι α β → Option (Duplex ι σ μ ω)
  | .act i a =>
    match M.act (w.state i) a with
    | none => none
    | some r => some (w.react peer i r)
  | .deliver i b =>
    match w.link i with
    | [] => none
    | x :: rest =>
      match M.receive (w.state i) b x with
      | none => none
      | some r => some ({ w with link := Function.update w.link i rest }.react peer i r)

/-- The kinds of steps. -/
inductive Steps (M : Machine σ α β μ ω) (peer : ι → ι) (w : Duplex ι σ μ ω) :
    Action ι α β → Duplex ι σ μ ω → Prop
  | act {i a r} : M.act (w.state i) a = some r → Steps M peer w (.act i a) (w.react peer i r)
  | deliver {i b x rest r} : w.link i = x :: rest → M.receive (w.state i) b x = some r →
      Steps M peer w (.deliver i b) ({ w with link := Function.update w.link i rest }.react peer i r)

variable {M : Machine σ α β μ ω} {peer : ι → ι} {w w' : Duplex ι σ μ ω}

theorem step_cases {a : Action ι α β} (h : w.step M peer a = some w') : Steps M peer w a w' := by
  cases a with
  | act i a =>
    rw [step] at h
    split at h
    · exact absurd h (by simp)
    · rename_i r hr
      obtain rfl := Option.some.inj h
      exact .act hr
  | deliver i b =>
    rw [step] at h
    split at h
    · exact absurd h (by simp)
    · rename_i x rest hlink
      split at h
      · exact absurd h (by simp)
      · rename_i r hr
        obtain rfl := Option.some.inj h
        exact .deliver hlink hr

theorem step_act {i : ι} {a : α} {r : Reaction σ μ ω} (h : M.act (w.state i) a = some r) :
    w.step M peer (.act i a) = some (w.react peer i r) := by
  rw [step, h]

theorem step_deliver {i : ι} {b : β} {x : μ} {rest : List μ} {r : Reaction σ μ ω}
    (hlink : w.link i = x :: rest) (h : M.receive (w.state i) b x = some r) :
    w.step M peer (.deliver i b)
      = some ({ w with link := Function.update w.link i rest }.react peer i r) := by
  rw [step, hlink]
  dsimp only
  rw [h]

/-! ## What a reaction changes -/

section React

variable (w : Duplex ι σ μ ω) (peer : ι → ι) (i : ι) (r : Reaction σ μ ω)

@[simp] theorem react_state_self : (w.react peer i r).state i = r.state := Function.update_self ..

@[simp] theorem react_told_self : (w.react peer i r).told i = w.told i ++ r.told :=
  Function.update_self ..

@[simp] theorem react_link_peer :
    (w.react peer i r).link (peer i) = w.link (peer i) ++ r.sent := Function.update_self ..

variable {i}

theorem react_state_ne {j : ι} (h : j ≠ i) : (w.react peer i r).state j = w.state j :=
  Function.update_of_ne h ..

theorem react_told_ne {j : ι} (h : j ≠ i) : (w.react peer i r).told j = w.told j :=
  Function.update_of_ne h ..

theorem react_link_ne {j : ι} (h : j ≠ peer i) : (w.react peer i r).link j = w.link j :=
  Function.update_of_ne h ..

end React

theorem react_nothing (peer : ι → ι) (w : Duplex ι σ μ ω) (i : ι) :
    w.react peer i (⟨w.state i, [], []⟩ : Reaction σ μ ω) = w := by
  simp only [react, Function.update_eq_self, List.append_nil]

/-! ## Views

What can be seen of a system may be a system of the same kind with a machine of its own: a part
of each state, and some of the messages and of what is told.
-/

end Duplex

variable {σ μ ω σ' μ' ω' : Type*}

def Reaction.view (f : σ → σ') (g : μ → Option μ') (h : ω → Option ω') (r : Reaction σ μ ω) :
    Reaction σ' μ' ω' :=
  ⟨f r.state, r.sent.filterMap g, r.told.filterMap h⟩

namespace Duplex

variable {ι α β α' β' : Type*} [DecidableEq ι] {f : σ → σ'} {g : μ → Option μ'} {h : ω → Option ω'}

def view (f : σ → σ') (g : μ → Option μ') (h : ω → Option ω') (w : Duplex ι σ μ ω) :
    Duplex ι σ' μ' ω' where
  state := fun i => f (w.state i)
  link := fun i => (w.link i).filterMap g
  told := fun i => (w.told i).filterMap h

variable {M' : Machine σ' α' β' μ' ω'} {peer : ι → ι} {w : Duplex ι σ μ ω} {i : ι}
  {r : Reaction σ μ ω}

theorem view_react : (w.react peer i r).view f g h = (w.view f g h).react peer i (r.view f g h) := by
  simp only [view, react, Reaction.view, mk.injEq]
  refine ⟨funext fun j => ?_, funext fun j => ?_, funext fun j => ?_⟩
  · by_cases hj : j = i
    · subst hj
      simp
    · simp [hj]
  · by_cases hj : j = peer i
    · subst hj
      simp
    · simp [hj]
  · by_cases hj : j = i
    · subst hj
      simp
    · simp [hj]

theorem view_rest (rest : List μ) :
    ({ w with link := Function.update w.link i rest } : Duplex ι σ μ ω).view f g h
      = { w.view f g h with
          link := Function.update (w.view f g h).link i (rest.filterMap g) } := by
  simp only [view, mk.injEq, true_and, and_true]
  funext j
  by_cases hj : j = i
  · subst hj
    simp
  · simp [hj]

/-- A party acts, and is seen to act. -/
theorem view_act {a' : α'} (hact : M'.act (f (w.state i)) a' = some (r.view f g h)) :
    (w.view f g h).step M' peer (.act i a') = some ((w.react peer i r).view f g h) := by
  rw [view_react]
  exact step_act hact

/-- A party reacts, and nothing is seen of it. -/
theorem view_unseen (hr : r.view f g h = ⟨f (w.state i), [], []⟩) :
    (w.react peer i r).view f g h = w.view f g h := by
  rw [view_react, hr]
  exact react_nothing peer (w.view f g h) i

variable {x : μ} {rest : List μ}

/-- A message arrives, and is seen to arrive. -/
theorem view_deliver {b' : β'} {x' : μ'} (hlink : w.link i = x :: rest) (hx : g x = some x')
    (hreceive : M'.receive (f (w.state i)) b' x' = some (r.view f g h)) :
    (w.view f g h).step M' peer (.deliver i b')
      = some ((({ w with link := Function.update w.link i rest } : Duplex ι σ μ ω).react
          peer i r).view f g h) := by
  rw [view_react, view_rest]
  refine step_deliver ?_ hreceive
  show (w.link i).filterMap g = _
  rw [hlink, List.filterMap_cons_some hx]

/-- A message arrives of which nothing is seen. -/
theorem view_deliver_unseen (hlink : w.link i = x :: rest) (hx : g x = none)
    (hr : r.view f g h = ⟨f (w.state i), [], []⟩) :
    (({ w with link := Function.update w.link i rest } : Duplex ι σ μ ω).react peer i r).view f g h
      = w.view f g h := by
  rw [view_unseen (w := { w with link := Function.update w.link i rest }) hr, view_rest]
  have hsame : rest.filterMap g = (w.view f g h).link i := by
    show _ = (w.link i).filterMap g
    rw [hlink, List.filterMap_cons_none hx]
  rw [hsame, Function.update_eq_self]

end Duplex

end IviLink.Lib
