import IviLink.Hal.CTcpCarrierAdapter
import IviLink.Lib.Run
import IviLink.Proof.Framing

/-!
# One socket for several threads

`sendPreparedArray` does not keep other threads away from the socket between two turns of its loop.
If a `send` takes only a part of what it was given, another thread may put its frame, or a part of
it, in between: the frames on the wire are whole exactly if that does not happen
(`frames_whole_iff`). In runs in which it does not, the adapter at the other end hands on the frames
of the calls that have returned `NO_ERROR`, in the order in which they returned (`frames_arrive`).
-/

namespace IviLink.Hal

open IviLink.Lib

/-! ## One turn of the loop -/

theorem sendFrame_length_pos (f : Frame) : 0 < (sendFrame f).length := by
  rw [sendFrame, List.length_take, frameToArray, List.length_append, FrameHeader.length_bytes]
  have : 0 < HEADER_SIZE := by decide
  omega

namespace Sending

variable {s s' : Sending} {result : SendResult} {out : List UInt8} {e : ConnectivityAgentError}

/-- What a turn can do. -/
theorem turn_cases {next : Sending ⊕ ConnectivityAgentError}
    (h : s.turn result = some (out, next)) :
    (∃ n, ∃ hle : s.sent + n ≤ s.pArray.length,
      result = .taken n ∧ out = (s.pArray.drop s.sent).take n ∧
      next = if s.sent + n < s.pArray.length then .inl ⟨s.pArray, s.sent + n, hle⟩
        else .inr .noError) ∨
    (result = .interrupted ∧ out = [] ∧ next = .inl s) ∨
    (result = .failed ∧ out = [] ∧ next = .inr .brokenPipe) := by
  cases result with
  | taken n =>
    simp only [turn] at h
    split at h
    · next hle =>
      obtain ⟨hout, hnext⟩ := Prod.mk.inj (Option.some.inj h)
      exact .inl ⟨n, hle, rfl, hout.symm, hnext.symm⟩
    · exact absurd h (by simp)
  | interrupted =>
    obtain ⟨hout, hnext⟩ := Prod.mk.inj (Option.some.inj h)
    exact .inr (.inl ⟨rfl, hout.symm, hnext.symm⟩)
  | failed =>
    obtain ⟨hout, hnext⟩ := Prod.mk.inj (Option.some.inj h)
    exact .inr (.inr ⟨rfl, hout.symm, hnext.symm⟩)

/-- The bytes that go out are the next ones of the array. -/
theorem out_of_turn {next : Sending ⊕ ConnectivityAgentError}
    (h : s.turn result = some (out, next)) :
    out.length = result.bytes ∧
      s.pArray.take s.sent ++ out = s.pArray.take (s.sent + result.bytes) := by
  rcases turn_cases h with ⟨n, hle, rfl, rfl, -⟩ | ⟨rfl, rfl, -⟩ | ⟨rfl, rfl, -⟩
  · refine ⟨?_, List.take_add.symm⟩
    rw [List.length_take, List.length_drop]
    exact Nat.min_eq_left (by omega)
  all_goals
    rw [List.append_nil]
    exact ⟨rfl, rfl⟩

theorem turn_again (hs : s.sent < s.pArray.length) (h : s.turn result = some (out, .inl s')) :
    s'.pArray = s.pArray ∧ s'.sent = s.sent + result.bytes ∧ s'.sent < s.pArray.length := by
  rcases turn_cases h with ⟨n, hle, rfl, -, hnext⟩ | ⟨rfl, -, hnext⟩ | ⟨-, -, hnext⟩
  · split at hnext
    · next hlt =>
      obtain rfl := Sum.inl.inj hnext
      exact ⟨rfl, rfl, hlt⟩
    · exact absurd hnext (by simp)
  · obtain rfl := Sum.inl.inj hnext
    exact ⟨rfl, rfl, hs⟩
  · exact absurd hnext (by simp)

/-- The method returns without an error when all of the array is out. -/
theorem turn_over (h : s.turn result = some (out, .inr e)) :
    e = .noError ∧ s.sent + result.bytes = s.pArray.length ∨ e = .brokenPipe ∧ out = [] := by
  rcases turn_cases h with ⟨n, hle, rfl, -, hnext⟩ | ⟨-, -, hnext⟩ | ⟨-, rfl, hnext⟩
  · split at hnext
    · exact absurd hnext (by simp)
    · next hlt =>
      refine .inl ⟨Sum.inr.inj hnext, ?_⟩
      show s.sent + n = s.pArray.length
      omega
  · exact absurd hnext (by simp)
  · exact .inr ⟨Sum.inr.inj hnext, rfl⟩

end Sending

namespace Senders

variable {I : Type*} {w w' : Senders I} {event : Event I} {i : I} {c : SendCall}

/-- The bytes of a call, as the socket should have them. -/
def block (c : SendCall) : List UInt8 := sendFrame c.frame

theorem block_ne_nil (c : SendCall) : block c ≠ [] :=
  List.ne_nil_of_length_pos (sendFrame_length_pos c.frame)

/-- If the step puts bytes out, the frames of the other calls are out as a whole or not begun. -/
def Alone (w : Senders I) : Event I → Prop
  | .sendFrame _ _ => True
  | .send i result =>
    result.bytes ≠ 0 → ∀ p ∈ w.loops i, ∀ e ∈ w.socket, e.1 ≠ p.1 → part e.1 w.socket = block e.1

instance (w : Senders I) : ∀ event, Decidable (w.Alone event)
  | .sendFrame _ _ => isTrue trivial
  | .send i result =>
    inferInstanceAs (Decidable (result.bytes ≠ 0 → ∀ p ∈ w.loops i, ∀ e ∈ w.socket,
      e.1 ≠ p.1 → part e.1 w.socket = block e.1))

/-- A thread in its loop has put out as much of its frame as it knows of. -/
structure AtWork (w : Senders I) (c : SendCall) (s : Sending) : Prop where
  number : c.number < w.calls
  pArray : s.pArray = block c
  out : part c w.socket = s.pArray.take s.sent
  unfinished : s.sent < s.pArray.length

/-- What every step keeps. -/
structure Kept (w : Senders I) : Prop where
  loops : ∀ i c s, w.loops i = some (c, s) → w.AtWork c s
  apart : ∀ i j c s s', w.loops i = some (c, s) → w.loops j = some (c, s') → i = j
  called : ∀ c, part c w.socket ≠ [] → c.number < w.calls

theorem kept_start : (start : Senders I).Kept where
  loops := fun i c s h => absurd h (by simp [start])
  apart := fun i j c s s' h => absurd h (by simp [start])
  called := fun c h => absurd rfl h

theorem sent_append (r : SendCall × ConnectivityAgentError) (w : Senders I) :
    sent { w with returned := w.returned ++ [r] } =
      if r.2.isNoError then w.sent ++ [r.1] else w.sent := by
  rw [sent, List.filter_append, List.map_append]
  split
  · next hr =>
    rw [List.filter_singleton, hr]
    rfl
  · next hr =>
    rw [List.filter_singleton, Bool.eq_false_iff.mpr hr]
    exact List.append_nil _

/-- The others are complete where a step puts bytes out. -/
theorem Alone.others {result : SendResult} (h : w.Alone (.send i result)) {s : Sending}
    (hbytes : result.bytes ≠ 0) (hloop : w.loops i = some (c, s)) :
    ∀ c', c' ≠ c → part c' w.socket ≠ [] → part c' w.socket = block c' := by
  intro c' hne hpart
  obtain ⟨e, he, rfl⟩ := part_ne_nil_iff.mp hpart
  exact h hbytes (c, s) hloop e he hne

/-- Only frames are sent that hold what they say. -/
def Event.WellFormed : Event I → Prop
  | .sendFrame _ frame => frame.WellFormed
  | .send _ _ => True

instance : ∀ event : Event I, Decidable event.WellFormed
  | .sendFrame _ frame => inferInstanceAs (Decidable frame.WellFormed)
  | .send _ _ => isTrue trivial

/-- So are the frames that threads are sending, and those of which there are bytes. -/
def Formed (w : Senders I) : Prop :=
  (∀ i c s, w.loops i = some (c, s) → c.frame.WellFormed) ∧ ∀ e ∈ w.socket, e.1.frame.WellFormed

theorem Formed.turn (h : w.Formed) {s : Sending} (hloop : w.loops i = some (c, s))
    (out : List UInt8) : ∀ e ∈ w.socket ++ marked c out, e.1.frame.WellFormed := by
  intro e he
  rcases List.mem_append.mp he with he | he
  · exact h.2 e he
  · obtain ⟨x, -, rfl⟩ := List.mem_map.mp he
    exact h.1 i c s hloop

variable [DecidableEq I]

/-- What a step can do. -/
theorem step_cases (h : w.step event = some w') :
    (∃ i frame, event = .sendFrame i frame ∧ w.loops i = none ∧
      w' = { w with
        calls := w.calls + 1
        loops := Function.update w.loops i
          (some (⟨w.calls, frame⟩, ⟨sendFrame frame, 0, Nat.zero_le _⟩)) }) ∨
    (∃ i result c s out s', event = .send i result ∧ w.loops i = some (c, s) ∧
      s.turn result = some (out, .inl s') ∧
      w' = { w with
        loops := Function.update w.loops i (some (c, s'))
        socket := w.socket ++ marked c out }) ∨
    (∃ i result c s out e, event = .send i result ∧ w.loops i = some (c, s) ∧
      s.turn result = some (out, .inr e) ∧
      w' = { w with
        loops := Function.update w.loops i none
        socket := w.socket ++ marked c out
        returned := w.returned ++ [(c, e)] }) := by
  cases event with
  | sendFrame i frame =>
    simp only [step] at h
    split at h
    · exact absurd h (by simp)
    · next hloop => exact .inl ⟨i, frame, rfl, hloop, (Option.some.inj h).symm⟩
  | send i result =>
    simp only [step] at h
    split at h
    · exact absurd h (by simp)
    · next c s hloop =>
      split at h
      · exact absurd h (by simp)
      · next out s' hturn =>
        exact .inr (.inl ⟨i, result, c, s, out, s', rfl, hloop, hturn, (Option.some.inj h).symm⟩)
      · next out e hturn =>
        exact .inr (.inr ⟨i, result, c, s, out, e, rfl, hloop, hturn, (Option.some.inj h).symm⟩)

/-- A turn puts its bytes behind those that are out. -/
theorem socket_of_send {result : SendResult} (h : w.step (.send i result) = some w') :
    ∃ c s out, w.loops i = some (c, s) ∧ w'.socket = w.socket ++ marked c out ∧
      out.length = result.bytes ∧
      s.pArray.take s.sent ++ out = s.pArray.take (s.sent + result.bytes) := by
  rcases step_cases h with ⟨j, frame, hevent, -⟩ |
    ⟨j, r, c, s, out, s', hevent, hloop, hturn, rfl⟩ |
    ⟨j, r, c, s, out, e, hevent, hloop, hturn, rfl⟩
  · exact absurd hevent (by simp)
  all_goals
    obtain ⟨rfl, rfl⟩ := Event.send.inj hevent
    exact ⟨c, s, out, hloop, rfl, Sending.out_of_turn hturn⟩

theorem socket_prefix (h : w.step event = some w') : w.socket <+: w'.socket := by
  rcases step_cases h with ⟨i, frame, -, -, rfl⟩ | ⟨i, r, c, s, out, s', -, -, -, rfl⟩ |
    ⟨i, r, c, s, out, e, -, -, -, rfl⟩
  · exact List.prefix_rfl
  all_goals exact List.prefix_append _ _

/-! ## What every run keeps -/

theorem Kept.call (h : w.Kept) (i : I) (frame : Frame) :
    Kept { w with
      calls := w.calls + 1
      loops := Function.update w.loops i
        (some (⟨w.calls, frame⟩, ⟨sendFrame frame, 0, Nat.zero_le _⟩)) } where
  loops := by
    intro j c s hloop
    dsimp only at hloop
    by_cases hj : j = i
    · subst hj
      rw [Function.update_self] at hloop
      obtain ⟨rfl, rfl⟩ := Prod.mk.inj (Option.some.inj hloop)
      refine ⟨Nat.lt_succ_self _, rfl, ?_, sendFrame_length_pos frame⟩
      -- no byte is from a call that has not been made
      by_contra hpart
      exact Nat.lt_irrefl _ (h.called ⟨w.calls, frame⟩ hpart)
    · rw [Function.update_of_ne hj] at hloop
      have hwork := h.loops j c s hloop
      exact ⟨Nat.lt_succ_of_lt hwork.number, hwork.pArray, hwork.out, hwork.unfinished⟩
  apart := by
    have hnew : ∀ {j c s}, w.loops j = some (c, s) → c ≠ ⟨w.calls, frame⟩ := by
      intro j c s hloop heq
      have hlt := (h.loops j c s hloop).number
      rw [heq] at hlt
      exact Nat.lt_irrefl _ hlt
    intro j k c s s' hj hk
    dsimp only at hj hk
    rw [Function.update_apply] at hj hk
    split at hj <;> split at hk
    · next hji hki => rw [hji, hki]
    · exact absurd (Prod.mk.inj (Option.some.inj hj)).1.symm (hnew hk)
    · exact absurd (Prod.mk.inj (Option.some.inj hk)).1.symm (hnew hj)
    · exact h.apart j k c s s' hj hk
  called := fun c hpart => Nat.lt_succ_of_lt (h.called c hpart)

/-- A turn of a thread, which may be its last one. -/
theorem Kept.turn (h : w.Kept) {s : Sending} {out : List UInt8}
    (loop : Option (SendCall × Sending)) (returned : List (SendCall × ConnectivityAgentError))
    (hloop : w.loops i = some (c, s))
    (hnext : ∀ c' s', loop = some (c', s') → c' = c ∧ s'.pArray = s.pArray ∧
      s'.sent < s.pArray.length ∧ s.pArray.take s.sent ++ out = s.pArray.take s'.sent) :
    Kept { w with
      loops := Function.update w.loops i loop
      socket := w.socket ++ marked c out
      returned := returned } where
  loops := by
    intro j c' s' hloop'
    dsimp only at hloop'
    by_cases hj : j = i
    · subst hj
      rw [Function.update_self] at hloop'
      obtain ⟨rfl, hpArray, hsent, hout⟩ := hnext c' s' hloop'
      have hwork := h.loops j c' s hloop
      refine ⟨hwork.number, hpArray.trans hwork.pArray, ?_, hpArray ▸ hsent⟩
      rw [part_append, part_marked, hwork.out, hout, hpArray]
    · rw [Function.update_of_ne hj] at hloop'
      have hwork := h.loops j c' s' hloop'
      have hne : c' ≠ c := fun heq => hj (h.apart j i c' s' s hloop' (heq ▸ hloop))
      refine ⟨hwork.number, hwork.pArray, ?_, hwork.unfinished⟩
      rw [part_append, part_marked_of_ne hne, List.append_nil]
      exact hwork.out
  apart := by
    -- the thread stays with its call
    have hsame : ∀ {c' s'}, loop = some (c', s') → w.loops i = some (c', s) := by
      intro c' s' hnew
      rw [(hnext c' s' hnew).1]
      exact hloop
    intro j k c' s₁ s₂ hj hk
    dsimp only at hj hk
    rw [Function.update_apply] at hj hk
    split at hj <;> split at hk
    · next hji hki => rw [hji, hki]
    · next hji hki =>
      rw [hji]
      exact h.apart i k c' s s₂ (hsame hj) hk
    · next hji hki =>
      rw [hki]
      exact h.apart j i c' s₁ s hj (hsame hk)
    · exact h.apart j k c' s₁ s₂ hj hk
  called := by
    intro c' hpart
    dsimp only at hpart ⊢
    by_cases hc : c' = c
    · rw [hc]
      exact (h.loops i c s hloop).number
    · rw [part_append, part_marked_of_ne hc, List.append_nil] at hpart
      exact h.called c' hpart

theorem kept_step (h : w.Kept) (hs : w.step event = some w') : w'.Kept := by
  rcases step_cases hs with ⟨i, frame, -, -, rfl⟩ | ⟨i, r, c, s, out, s', -, hloop, hturn, rfl⟩ |
    ⟨i, r, c, s, out, e, -, hloop, -, rfl⟩
  · exact h.call i frame
  · refine h.turn (some (c, s')) w.returned hloop ?_
    intro c' s'' heq
    obtain ⟨rfl, rfl⟩ := Prod.mk.inj (Option.some.inj heq)
    obtain ⟨hpArray, hsent, hlt⟩ := Sending.turn_again (h.loops i _ s hloop).unfinished hturn
    exact ⟨rfl, hpArray, hlt, hsent ▸ (Sending.out_of_turn hturn).2⟩
  · exact h.turn none _ hloop fun _ _ heq => absurd heq (by simp)

/-! ## Whole frames -/

/-- A step that is alone keeps the frames that are out in the order in which they were finished. -/
theorem stacked_step (hk : w.Kept) (h : Stacked block w.sent w.socket) (halone : w.Alone event)
    (hs : w.step event = some w') : Stacked block w'.sent w'.socket := by
  rcases step_cases hs with ⟨i, frame, -, -, rfl⟩ | ⟨i, r, c, s, out, s', rfl, hloop, hturn, rfl⟩ |
    ⟨i, r, c, s, out, e, rfl, hloop, hturn, rfl⟩
  · exact h
  · have hwork := hk.loops i c s hloop
    obtain ⟨hlen, hout⟩ := Sending.out_of_turn hturn
    obtain ⟨-, hsent, hlt⟩ := Sending.turn_again hwork.unfinished hturn
    rw [← hwork.out, hwork.pArray, ← hsent] at hout
    -- an interrupted `send`, or one that takes nothing, leaves the socket as it is
    by_cases hnil : out = []
    · subst hnil
      rw [marked_nil, List.append_nil]
      exact h
    · have hbytes : r.bytes ≠ 0 := hlen ▸ (List.length_pos_of_ne_nil hnil).ne'
      refine h.add hnil ?_ ?_ (halone.others hbytes hloop)
      · rw [hout]
        exact List.take_prefix _ _
      · intro heq
        have hshort := congrArg List.length (hout.symm.trans heq)
        rw [← hwork.pArray, List.length_take] at hshort
        omega
  · have hwork := hk.loops i c s hloop
    obtain ⟨hlen, hout⟩ := Sending.out_of_turn hturn
    rcases Sending.turn_over hturn with ⟨rfl, hall⟩ | ⟨rfl, rfl⟩
    · -- the frame is all out, and joins those that are sent
      rw [hall, List.take_length, ← hwork.out, hwork.pArray] at hout
      have hbytes : r.bytes ≠ 0 := by
        have := hwork.unfinished
        omega
      have hnil : out ≠ [] := by
        rintro rfl
        exact hbytes hlen.symm
      have hsent : sent { w with returned := w.returned ++ [(c, .noError)] } = w.sent ++ [c] :=
        sent_append _ w
      exact hsent ▸ h.finish hnil hout (halone.others hbytes hloop)
    · -- what a failed call has put out stays in the socket
      rw [marked_nil, List.append_nil]
      have hsent : sent { w with returned := w.returned ++ [(c, .brokenPipe)] } = w.sent :=
        sent_append _ w
      exact hsent ▸ h

/-- A step that is not alone breaks a frame. -/
theorem not_whole_of_not_alone (halone : ¬ w.Alone event) (hs : w.step event = some w') :
    ¬ Whole block w'.socket := by
  cases event with
  | sendFrame i frame => exact absurd trivial halone
  | send i result =>
    intro hwhole
    refine halone ?_
    intro hbytes p hp e he hne
    obtain ⟨c, s, out, hloop, hsocket, hlen, -⟩ := socket_of_send hs
    obtain rfl := Option.some.inj (hloop.symm.trans hp)
    have hnil : out ≠ [] := by
      rintro rfl
      exact hbytes hlen.symm
    exact (hsocket ▸ hwhole).complete hnil hne (part_ne_nil_iff.mpr ⟨e, he, rfl⟩)

/-- **The frames on the wire are whole exactly if no `send` puts bytes out while a frame of another
call is only partly out.** -/
theorem frames_whole_iff {events : List (Event I)} (hr : run step start events = some w) :
    Whole block w.socket ↔ Along step Alone start events := by
  constructor
  · intro hwhole
    by_contra hslip
    refine run_of_not_along (B := fun w => ¬ Whole block w.socket) (fun _ _ _ => kept_step)
      (fun _ _ _ _ => not_whole_of_not_alone) ?_ kept_start hr hslip hwhole
    -- later bytes do not mend a frame
    intro v event v' _ hbroken hs hwhole
    obtain ⟨rest, hrest⟩ := socket_prefix hs
    exact hbroken (hrest ▸ hwhole).of_append
  · intro halone
    have hboth := run_invariant (I := fun w => w.Kept ∧ Stacked block w.sent w.socket)
      (fun v event v' hv halone hs => ⟨kept_step hv.1 hs, stacked_step hv.1 hv.2 halone hs⟩)
      ⟨kept_start, stacked_nil⟩ halone hr
    exact hboth.2.whole

/-- A frame with three bytes of data is out up to the middle of its header when another thread
sends an ACK. -/
def crossing : List (Event Bool) :=
  [.sendFrame false ⟨⟨3, 5, 1⟩, [10, 20, 30]⟩, .send false (.taken 4),
    .sendFrame true (ackFrame ⟨⟨3, 5, 1⟩, []⟩), .send true (.taken 10), .send false (.taken 9)]

theorem frames_whole_iff_crossing : ∃ w : Senders Bool, run step start crossing = some w ∧
    (Whole block w.socket ↔ Along step Alone start crossing) ∧
    ¬ Along step Alone (start : Senders Bool) crossing :=
  ⟨_, rfl, frames_whole_iff rfl, by decide⟩

-- the stream begins like a frame of another channel
example : (run step (start : Senders Bool) crossing).map (fun w => w.socket.map Prod.snd) =
    some (sendFrame ⟨⟨3, 0x8000, 5⟩, [0, 0, 0]⟩ ++ [1, 0, 5, 0, 0, 0, 1, 10, 20, 30]) := by
  decide

/-! ## What arrives -/

open CCarrierAdapter (Unfinished Holds holds_init)

/-- A stream that goes less far has no more frames in it. -/
theorem prefix_of_wire {xs us ys vs : List Frame} {t : List UInt8}
    (hfs : ∀ f ∈ xs ++ us, f.WellFormed) (hsame : xs ++ us = ys ++ vs) (ht : Unfinished t us)
    (hwire : wire ys <+: wire xs ++ t) : ys <+: xs := by
  have hys : ys <+: xs ++ us := ⟨vs, hsame.symm⟩
  rcases List.prefix_or_prefix_of_prefix hys (List.prefix_append xs us) with h | ⟨zs, rfl⟩
  · exact h
  · cases zs with
    | nil => simp
    | cons f zs =>
      -- then `f` is the frame that is not all there
      rw [List.append_assoc] at hsame
      obtain rfl := List.append_cancel_left hsame
      have hf : f.WellFormed := hfs f (by simp)
      have hlt : t.length < (frameToArray f).length := ht
      have hle := hwire.length_le
      rw [wire_append, wire_cons hf] at hle
      simp only [List.length_append] at hle
      omega

theorem formed_step (h : w.Formed) (hevent : event.WellFormed) (hs : w.step event = some w') :
    w'.Formed := by
  have hupdate : ∀ {i : I} {loop : Option (SendCall × Sending)},
      (∀ c s, loop = some (c, s) → c.frame.WellFormed) →
      ∀ j c s, Function.update w.loops i loop j = some (c, s) → c.frame.WellFormed := by
    intro i loop hnew j c s hloop
    rw [Function.update_apply] at hloop
    split at hloop
    · exact hnew c s hloop
    · exact h.1 j c s hloop
  rcases step_cases hs with ⟨i, frame, rfl, -, rfl⟩ | ⟨i, r, c, s, out, s', -, hloop, -, rfl⟩ |
    ⟨i, r, c, s, out, e, -, hloop, -, rfl⟩
  · refine ⟨hupdate ?_, h.2⟩
    intro c s hnew
    obtain ⟨rfl, -⟩ := Prod.mk.inj (Option.some.inj hnew)
    exact hevent
  · refine ⟨hupdate ?_, h.turn hloop out⟩
    intro c' s'' hnew
    obtain ⟨rfl, -⟩ := Prod.mk.inj (Option.some.inj hnew)
    exact h.1 i c s hloop
  · exact ⟨hupdate fun _ _ hnew => absurd hnew (by simp), h.turn hloop out⟩

theorem flatMap_block (done : List SendCall) :
    done.flatMap block = wire (done.map SendCall.frame) := by
  rw [wire, List.flatMap_map]
  rfl

/-- The stream of a socket with whole frames. -/
theorem stream_of_stacked {done : List SendCall} {log : List (SendCall × UInt8)}
    (h : Stacked block done log) (hformed : ∀ e ∈ log, e.1.frame.WellFormed) :
    ∃ todo tail rest, (∀ f ∈ done.map SendCall.frame ++ todo, f.WellFormed) ∧
      log.map Prod.snd = wire (done.map SendCall.frame) ++ tail ∧ Unfinished tail todo ∧
      log.map Prod.snd ++ rest = wire (done.map SendCall.frame ++ todo) := by
  have hdone : ∀ f ∈ done.map SendCall.frame, f.WellFormed := by
    intro f hf
    obtain ⟨c, hc, rfl⟩ := List.mem_map.mp hf
    have hpart : part c log ≠ [] := h.part_of_mem hc ▸ block_ne_nil c
    obtain ⟨e, he, rfl⟩ := part_ne_nil_iff.mp hpart
    exact hformed e he
  obtain ⟨-, rfl | ⟨c, l, -, rfl, hl, ⟨rest, hrest⟩, hproper⟩⟩ := h
  · refine ⟨[], [], [], ?_, ?_, rfl, ?_⟩
    · rwa [List.append_nil]
    · rw [map_snd_laid, flatMap_block, List.append_nil]
    · rw [map_snd_laid, flatMap_block, List.append_nil, List.append_nil]
  · have hc : c.frame.WellFormed := by
      obtain ⟨x, l, rfl⟩ := List.exists_cons_of_ne_nil hl
      exact hformed (c, x) (List.mem_append_right _ List.mem_cons_self)
    refine ⟨[c.frame], l, rest, ?_, ?_, ?_, ?_⟩
    · intro f hf
      rcases List.mem_append.mp hf with hf | hf
      · exact hdone f hf
      · exact List.mem_singleton.mp hf ▸ hc
    · rw [List.map_append, map_snd_laid, flatMap_block, map_snd_marked]
    · show l.length < (frameToArray c.frame).length
      rw [← hc.sendFrame_eq]
      have hlen := congrArg List.length hrest
      have hpos : 0 < rest.length := by
        refine List.length_pos_of_ne_nil ?_
        rintro rfl
        exact hproper ((List.append_nil l).symm.trans hrest)
      rw [List.length_append, block] at hlen
      omega
    · rw [List.map_append, map_snd_laid, flatMap_block, map_snd_marked, List.append_assoc, hrest,
        wire_append]
      exact congrArg _ (List.append_nil _).symm

/-- **The frames of the calls that return `NO_ERROR` arrive**, each once and in the order in which
the calls return, if every `send` that puts bytes out is alone: whatever the adapter at the other
end has read, it has handed on the first of them, and all of them when it has read what there
is. -/
theorem frames_arrive {events : List (Event I)} {cs : List (List UInt8)}
    (hframes : ∀ event ∈ events, event.WellFormed)
    (hr : run step start events = some w) (halone : Along step Alone start events)
    (hcs : CCarrierAdapter.init.Offered cs) (hread : cs.flatten <+: w.socket.map Prod.snd) :
    ∃ a done, CCarrierAdapter.init.haveDataAll cs = some (a, done) ∧
      done <+: w.sent.map SendCall.frame ∧
      (cs.flatten = w.socket.map Prod.snd → done = w.sent.map SendCall.frame) := by
  have hformed : Along step (fun _ event => event.WellFormed) (start : Senders I) events :=
    along_of_mem fun event hmem _ => hframes event hmem
  obtain ⟨-, hstacked, -, hsocket⟩ :=
    run_invariant (I := fun w => w.Kept ∧ Stacked block w.sent w.socket ∧ w.Formed)
      (fun v event v' hv hboth hs => ⟨kept_step hv.1 hs, stacked_step hv.1 hv.2.1 hboth.1 hs,
        formed_step hv.2.2 hboth.2 hs⟩)
      ⟨kept_start, stacked_nil, fun _ _ _ h => absurd h (by simp [start]), by simp [start]⟩
      (halone.and hformed) hr
  obtain ⟨todo, tail, rest, hfs, hstream, htail, hwire⟩ := stream_of_stacked hstacked hsocket
  obtain ⟨unread, hunread⟩ := hread
  rw [← hunread, List.append_assoc] at hwire
  obtain ⟨a, done, todo', tail', hall, hsame, hdone, hholds⟩ :=
    (holds_init _ hfs).haveDataAll hfs hcs (by rw [List.nil_append]; exact hwire)
  rw [List.nil_append] at hdone
  have hprefix : done <+: w.sent.map SendCall.frame := by
    refine prefix_of_wire hfs hsame htail ?_
    rw [← hstream, ← hunread, hdone, List.append_assoc]
    exact List.prefix_append _ _
  refine ⟨a, done, hall, hprefix, ?_⟩
  intro hread
  -- neither of the two streams goes further than the other
  have hback : w.sent.map SendCall.frame <+: done := by
    refine prefix_of_wire (hsame ▸ hfs) hsame.symm hholds.unfinished ?_
    rw [← hdone, hread, hstream]
    exact List.prefix_append _ _
  exact hprefix.eq_of_length_le hback.length_le

/-- The same two frames, the second behind the first. -/
def inTurn : List (Event Bool) :=
  [.sendFrame false ⟨⟨3, 5, 1⟩, [10, 20, 30]⟩, .send false (.taken 4),
    .sendFrame true (ackFrame ⟨⟨3, 5, 1⟩, []⟩), .send false .interrupted, .send false (.taken 9),
    .send true (.taken 10)]

theorem frames_arrive_inTurn :
    let cs := [[0, 3, 0, 0], [0, 5, 0, 0, 0, 1, 10], [20, 30, 0x80, 0, 0, 0, 0, 5, 0, 0, 0, 1]]
    ∃ w : Senders Bool, run step start inTurn = some w ∧
      ∃ a done, CCarrierAdapter.init.haveDataAll cs = some (a, done) ∧
        done <+: w.sent.map SendCall.frame ∧
        (cs.flatten = w.socket.map Prod.snd → done = w.sent.map SendCall.frame) :=
  ⟨_, rfl, frames_arrive (by decide) (rfl : run step start inTurn = _) (by decide)
    (CCarrierAdapter.offered_of_length (by decide)) ⟨[], by decide⟩⟩

/-! ## Sends that take everything -/

/-- A `send` that puts bytes out takes all that it is given. -/
def Full (w : Senders I) : Event I → Prop
  | .sendFrame _ _ => True
  | .send i result =>
    result.bytes ≠ 0 → ∀ p ∈ w.loops i, p.2.sent + result.bytes = p.2.pArray.length

/-- Then no frame is ever partly out, and threads do not disturb each other. -/
theorem alone_of_full {events : List (Event I)}
    (hfull : Along step Full (start : Senders I) events) : Along step Alone start events := by
  refine Along.of_invariant (I := fun w => w.Kept ∧ ∀ e ∈ w.socket, part e.1 w.socket = block e.1)
    ?_ ?_ ⟨kept_start, fun _ h => absurd h List.not_mem_nil⟩ hfull
  · intro v event hv _
    cases event with
    | sendFrame i frame => trivial
    | send i result => exact fun _ _ _ e he _ => hv.2 e he
  · intro v event v' ⟨hk, hparts⟩ hfull hs
    refine ⟨kept_step hk hs, ?_⟩
    cases event with
    | sendFrame i frame =>
      rcases step_cases hs with ⟨j, f, -, -, rfl⟩ | ⟨_, _, _, _, _, _, hevent, -⟩ |
        ⟨_, _, _, _, _, _, hevent, -⟩
      · exact hparts
      all_goals exact absurd hevent (by simp)
    | send i result =>
      obtain ⟨c, s, out, hloop, hsocket, hlen, hout⟩ := socket_of_send hs
      have hwork := hk.loops i c s hloop
      rw [hsocket]
      by_cases hbytes : result.bytes = 0
      · obtain rfl := List.length_eq_zero_iff.mp (hlen.trans hbytes)
        rwa [marked_nil, List.append_nil]
      rw [hfull hbytes (c, s) hloop, List.take_length, ← hwork.out, hwork.pArray] at hout
      intro e he
      by_cases hc : e.1 = c
      · rw [hc, part_append, part_marked, hout]
      · rw [part_append, part_marked_of_ne hc, List.append_nil]
        rcases List.mem_append.mp he with he | he
        · exact hparts e he
        · obtain ⟨x, -, rfl⟩ := List.mem_map.mp he
          exact absurd rfl hc

end Senders

end IviLink.Hal
