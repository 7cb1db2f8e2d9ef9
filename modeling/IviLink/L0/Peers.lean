import IviLink.Hal.CCarrierAdapter
import IviLink.L0.Receive
import IviLink.L0.Transmit

/-!
# Two peers

Two connectivity agents and the frames that are under way between them. Each side
has a transmit side and a receive side, and they share the retransmission queue:
an ACK that arrives is a `dequeue`. A link delivers what was put on it in order,
and loses nothing until a side changes to a new carrier; then everything that was
on its way to it over the old one is gone. The two sides change at different
times, so each counts its carriers (`epoch`): what one side sends over a carrier
that the other side has left is lost, and what it sends over one that the other
side has not come to yet waits.

Ghost again: every frame under way knows the source it is of, or the frame it
answers (`Flight.about`), and the frames that ACKs took out of the queues are kept,
each with the frame the ACK was for (`retired`).
-/

namespace IviLink.L0

open IviLink.Hal IviLink.Lib

inductive Side
  | a
  | b
  deriving DecidableEq, Repr

def Side.other : Side → Side
  | .a => .b
  | .b => .a

@[simp] theorem Side.other_other (s : Side) : s.other.other = s := by cases s <;> rfl

theorem Side.other_ne (s : Side) : s.other ≠ s := by cases s <;> simp [Side.other]

theorem Side.eq_or (s r : Side) : r = s ∨ r = s.other := by cases s <;> cases r <;> simp [Side.other]

/-- A frame under way. -/
structure Flight where
  frame : Frame
  /-- The data frame that this is or, for an ACK, that it answers; with the address of its
  source. -/
  about : Nat × Frame
  epoch : Nat

structure Peers where
  tx : Side → Transmit
  rx : Side → Receive
  /-- What is on its way to a side. -/
  link : Side → List Flight
  /-- Frames that an ACK took out of the queue, each with the frame that the ACK was for. -/
  retired : Side → List ((Nat × Frame) × (Nat × Frame))

/-- What an action puts on the carrier, with the addresses of the sources. -/
def Transmit.onCarrier (t : Transmit) : Transmit.Action → List (Nat × Frame)
  | .thread env =>
    if env.sent.isNoError then
      match t.disp.threadStep env with
      | some (_, .sent address frame _) => [(address, frame)]
      | some (_, .resent frame _) => [((t.queued.headD (0, frame)).1, frame)]
      | _ => []
    else []
  | _ => []

namespace Peers

def init : Peers := ⟨fun _ => .init, fun _ => .init, fun _ => [], fun _ => []⟩

inductive Action
  /-- A call on a transmit side, or a step of its thread. -/
  | transmit (s : Side) (act : Transmit.Action)
  /-- A call on a receive side. -/
  | receive (s : Side) (call : Receive.Call)
  | replaceCarrier (s : Side)
  /-- The next frame on its way to a side arrives. A consumer that is given a buffer returns
  `consumed`, and an ACK that is sent `acked`. -/
  | deliver (s : Side) (consumed acked : ConnectivityAgentError) (now : Timespec)

/-- Frames sent by a side. -/
def put (w : Peers) (s : Side) (frames : List (Frame × (Nat × Frame))) : Peers :=
  if (w.rx s.other).epoch ≤ (w.rx s).epoch then
    { w with
      link := Function.update w.link s.other
        (w.link s.other ++ frames.map fun x => ⟨x.1, x.2, (w.rx s).epoch⟩) }
  else w

/-- `CIncomeDispatcher::receiveFrame` -/
def receiveFrame (w : Peers) (s : Side) (x : Flight) (consumed : ConnectivityAgentError)
    (now : Timespec) : Option (Peers × ConnectivityAgentError) :=
  if x.frame.isACK then
    match (w.tx s).step (.dequeue x.frame.channel_id x.frame.number now) with
    | none => none
    | some t =>
      let found := (w.tx s).queued.find? (Transmit.isFrame x.frame.channel_id x.frame.number)
      some ({ w with
        tx := Function.update w.tx s t
        retired := Function.update w.retired s
          (w.retired s ++ found.toList.map fun y => (y, x.about)) }, .noError)
  else
    match (w.rx s).receiveFrame x.frame x.about.1 consumed with
    | none => none
    | some (r, result) => some ({ w with rx := Function.update w.rx s r }, result)

/-- What the carrier adapter sends back. -/
def answer (x : Flight) (result acked : ConnectivityAgentError) : List (Frame × (Nat × Frame)) :=
  if acked.isNoError then (processFrame result x.frame).toList.map fun f => (f, x.about) else []

/-- One action; `none` when it is not enabled or an assertion fails. -/
def step (w : Peers) : Action → Option Peers
  -- ACKs come over the link
  | .transmit _ (.dequeue ..) => none
  | .transmit s act =>
    match (w.tx s).step act with
    | none => none
    | some t =>
      some ({ w with tx := Function.update w.tx s t }.put s
        (((w.tx s).onCarrier act).map fun x : Nat × Frame => (x.2, x)))
  | .receive s call => some { w with rx := Function.update w.rx s ((w.rx s).call call) }
  | .replaceCarrier s =>
    some { w with
      rx := Function.update w.rx s (w.rx s).replaceCarrier
      link := Function.update w.link s ((w.link s).filter fun x => (w.rx s).epoch < x.epoch) }
  | .deliver s consumed acked now =>
    match w.link s with
    | [] => none
    | x :: rest =>
      -- no consumer returns ERROR_RESEND_ACK
      if (w.rx s).mIsFrameProcessingAllowed ∧ x.epoch = (w.rx s).epoch ∧ consumed ≠ .resendAck then
        match { w with link := Function.update w.link s rest }.receiveFrame s x consumed now with
        | none => none
        | some (w', result) => some (w'.put s (answer x result acked))
      else none

/-! ## What a step can do -/

/-- What is on the links after a side has sent frames. -/
theorem mem_put {w : Peers} {s r : Side} {frames : List (Frame × (Nat × Frame))} {x : Flight}
    (h : x ∈ (w.put s frames).link r) :
    x ∈ w.link r ∨ r = s.other ∧ (x.frame, x.about) ∈ frames := by
  rw [put] at h
  split at h
  · dsimp only at h
    by_cases hr : r = s.other
    · subst hr
      rw [Function.update_self] at h
      rcases List.mem_append.mp h with h | h
      · exact .inl h
      · obtain ⟨y, hy, rfl⟩ := List.mem_map.mp h
        exact .inr ⟨rfl, hy⟩
    · rw [Function.update_of_ne hr] at h
      exact .inl h
  · exact .inl h

@[simp] theorem put_nil (w : Peers) (s : Side) : w.put s [] = w := by
  rw [put]
  split
  · simp
  · rfl

@[simp] theorem put_tx (w : Peers) (s : Side) (frames : List (Frame × (Nat × Frame))) :
    (w.put s frames).tx = w.tx := by
  rw [put]
  split <;> rfl

@[simp] theorem put_rx (w : Peers) (s : Side) (frames : List (Frame × (Nat × Frame))) :
    (w.put s frames).rx = w.rx := by
  rw [put]
  split <;> rfl

@[simp] theorem put_retired (w : Peers) (s : Side) (frames : List (Frame × (Nat × Frame))) :
    (w.put s frames).retired = w.retired := by
  rw [put]
  split <;> rfl

/-- No ACK is answered. -/
theorem answer_ack {x : Flight} (h : x.frame.isACK = true) (result acked : ConnectivityAgentError) :
    answer x result acked = [] := by
  rw [answer, processFrame, h]
  split
  · split <;> rfl
  · rfl

/-- The kinds of actions that are enabled, each with its successor. -/
inductive Steps (w : Peers) : Action → Peers → Prop
  | transmit {s act t} : (∀ channel_id number now, act ≠ .dequeue channel_id number now) →
      (w.tx s).step act = some t →
      Steps w (.transmit s act) ({ w with tx := Function.update w.tx s t }.put s
        (((w.tx s).onCarrier act).map fun x : Nat × Frame => (x.2, x)))
  | receive {s call} :
      Steps w (.receive s call) { w with rx := Function.update w.rx s ((w.rx s).call call) }
  | replaceCarrier {s} :
      Steps w (.replaceCarrier s) { w with
        rx := Function.update w.rx s (w.rx s).replaceCarrier
        link := Function.update w.link s ((w.link s).filter fun x => (w.rx s).epoch < x.epoch) }
  | ack {s consumed acked now x rest t} : w.link s = x :: rest → x.frame.isACK = true →
      (w.tx s).step (.dequeue x.frame.channel_id x.frame.number now) = some t →
      Steps w (.deliver s consumed acked now) { w with
        tx := Function.update w.tx s t
        link := Function.update w.link s rest
        retired := Function.update w.retired s (w.retired s
          ++ ((w.tx s).queued.find?
            (Transmit.isFrame x.frame.channel_id x.frame.number)).toList.map
            fun y => (y, x.about)) }
  | data {s consumed acked now x rest r result} : w.link s = x :: rest →
      x.frame.isACK = false → (w.rx s).Answers x.frame x.about.1 consumed r result →
      Steps w (.deliver s consumed acked now)
        ({ w with
          rx := Function.update w.rx s r
          link := Function.update w.link s rest }.put s (answer x result acked))

theorem step_cases {w w' : Peers} {a : Action} (h : w.step a = some w') : Steps w a w' := by
  cases a with
  | transmit s act =>
    have hact : ∀ channel_id number now, act ≠ .dequeue channel_id number now := by
      rintro channel_id number now rfl
      exact absurd h (by simp [step])
    rw [step] at h
    · split at h
      · exact absurd h (by simp)
      · rename_i t ht
        obtain rfl := Option.some.inj h
        exact .transmit hact ht
    · exact hact
  | receive s call =>
    obtain rfl := Option.some.inj h
    exact .receive
  | replaceCarrier s =>
    obtain rfl := Option.some.inj h
    exact .replaceCarrier
  | deliver s consumed acked now =>
    rw [step] at h
    split at h
    · exact absurd h (by simp)
    · rename_i x rest hlink
      split at h
      · rename_i hpre
        split at h
        · exact absurd h (by simp)
        · rename_i w₁ result hreceive
          obtain rfl := Option.some.inj h
          rw [receiveFrame] at hreceive
          split at hreceive
          · rename_i hack
            split at hreceive
            · exact absurd hreceive (by simp)
            · rename_i t ht
              obtain ⟨rfl, rfl⟩ : _ ∧ _ := by simpa using hreceive
              rw [answer_ack hack, put_nil]
              exact .ack hlink hack ht
          · rename_i hack
            split at hreceive
            · exact absurd hreceive (by simp)
            · rename_i r result hr
              obtain ⟨rfl, rfl⟩ : _ ∧ _ := by simpa using hreceive
              exact .data hlink (by simpa using hack) (Receive.receiveFrame_cases hpre.2.2 hr)
      · exact absurd h (by simp)

/-- Each transmit side takes a step of its own or none; an ACK is one that nobody calls for. -/
theorem step_tx {w w' : Peers} {a : Action} (h : w.step a = some w') (s : Side) :
    w'.tx s = w.tx s ∨ ∃ act, (w.tx s).step act = some (w'.tx s)
      ∧ (a = .transmit s act ∨ ∃ channel_id number now, act = .dequeue channel_id number now) := by
  cases step_cases h with
  | @transmit r act t hact ht =>
    rw [put_tx]
    by_cases hs : s = r
    · subst hs
      exact .inr ⟨act, by simpa using ht, .inl rfl⟩
    · exact .inl (Function.update_of_ne hs ..)
  | receive => exact .inl rfl
  | replaceCarrier => exact .inl rfl
  | @ack r consumed acked now x rest t hlink hack ht =>
    by_cases hs : s = r
    · subst hs
      exact .inr ⟨_, by simpa using ht, .inr ⟨_, _, _, rfl⟩⟩
    · exact .inl (Function.update_of_ne hs ..)
  | data hlink hack hr =>
    rw [put_tx]
    exact .inl rfl

/-- Each receive side takes a step of its own or none. -/
theorem step_rx {w w' : Peers} {a : Action} (h : w.step a = some w') (s : Side) :
    w'.rx s = w.rx s ∨ (w.rx s).Steps (w'.rx s) := by
  have hupdate : ∀ {q : Side} {r}, (w.rx q).Steps r →
      Function.update w.rx q r s = w.rx s ∨ (w.rx s).Steps (Function.update w.rx q r s) := by
    intro q r hr
    by_cases hs : s = q
    · subst hs
      exact .inr (by rw [Function.update_self]; exact hr)
    · exact .inl (Function.update_of_ne hs ..)
  cases step_cases h with
  | transmit hact ht =>
    rw [put_rx]
    exact .inl rfl
  | receive => exact hupdate (.call _)
  | replaceCarrier => exact hupdate .replaceCarrier
  | ack hlink hack ht => exact .inl rfl
  | data hlink hack hr =>
    rw [put_rx]
    exact hupdate (.frame hr)

/-- What every step of a transmit side keeps holds of both in every run. -/
theorem tx_run {I : Transmit → Prop} (hinit : I .init)
    (hstep : ∀ t act t', I t → t.step act = some t' → I t') {as : List Action} {w : Peers}
    (h : run step init as = some w) (s : Side) : I (w.tx s) := by
  refine run_invariant (P := fun _ _ => True) (I := fun w : Peers => I (w.tx s)) ?_ hinit
    (along_of_mem fun _ _ _ => trivial) h
  intro w a w' hi _ hs
  rcases step_tx hs s with heq | ⟨act, ht, -⟩
  · rw [heq]; exact hi
  · exact hstep _ _ _ hi ht

/-- What every step of a receive side keeps holds of both in every run. -/
theorem rx_run {I : Receive → Prop} (hinit : I .init) (hstep : ∀ r r', I r → r.Steps r' → I r')
    {as : List Action} {w : Peers} (h : run step init as = some w) (s : Side) : I (w.rx s) := by
  refine run_invariant (P := fun _ _ => True) (I := fun w : Peers => I (w.rx s)) ?_ hinit
    (along_of_mem fun _ _ _ => trivial) h
  intro w a w' hi _ hs
  rcases step_rx hs s with heq | hr
  · rw [heq]; exact hi
  · exact hstep _ _ hi hr

end Peers

end IviLink.L0
