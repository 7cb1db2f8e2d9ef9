import IviLink.Hal.Handshake

/-!
# When the handshake works

Each end takes its two messages off the stream with one `recv` each. No byte is
lost on the way, so what matters is where the handshake ends in the stream: after
57 bytes if both calls return all they ask for, and earlier if one does not. What
it leaves behind then goes to `haveData` as if it were a frame.

If every call returns all it asks for, the two ends go through the stages in step:
what an end waits for is on its way, and the other cannot be further than that
allows.
-/

namespace IviLink.Hal.Handshake

open IviLink.Lib

variable {peers : Side → Peer}

/-- Both ends accept the version of the other. -/
def Compatible (peers : Side → Peer) : Prop :=
  ∀ p : Side, checkCompatibility (version (peers p).major (peers p).minor)
    (version (peers p.other).major (peers p.other).minor) ≠ .notCompatible

instance (peers : Side → Peer) : Decidable (Compatible peers) :=
  inferInstanceAs (Decidable (∀ _ : Side, _))

/-- Both calls of `makeHandshake` have returned and both ends are done, and `haveData` has got
the frame traffic of the other end, from its first byte to its last. -/
def Success (s : State) : Prop :=
  ∀ p : Side, (s.adapter p).stage = .returned ∧ (s.adapter p).mHandshakeState = .done
    ∧ (s.adapter p).handed = (s.adapter p.other).frames

/-- Everything was received that somebody can receive, and neither thread that makes the
handshake can go on. -/
def Complete (peers : Side → Peer) (s : State) : Prop :=
  ∀ p : Side, (s.link p = [] ∨ (s.adapter p.other).mIsBroken = true)
    ∧ (next peers s (.makeHandshake p)).isNone

instance (peers : Side → Peer) (s : State) : Decidable (Complete peers s) :=
  inferInstanceAs (Decidable (∀ _ : Side, _))

/-- A `recv` of the handshake returns all it is asked for, and `makeHandshake` is called before
the greeting of the other end is received. -/
def Whole (s : State) : Event → Prop
  | .makeHandshake p => (s.adapter p).stage = .start → (s.adapter p).mHandshakeState = .before
  | .consumeData p n _ =>
    ((s.adapter p).mHandshakeState = .before → n = GREETING_SIZE)
      ∧ ((s.adapter p).mHandshakeState = .a → n = ADDRESS_SIZE)
  | _ => True

instance (s : State) (ev : Event) : Decidable (Whole s ev) := by
  cases ev <;> unfold Whole <;> infer_instance

/-! ## What is sent -/

@[simp] theorem length_greeting (p : Side) (peer : Peer) :
    (greeting p peer).length = GREETING_SIZE := by
  cases p <;> rfl

@[simp] theorem length_pAddr (peer : Peer) : (pAddr peer).length = ADDRESS_SIZE := by
  unfold pAddr
  rw [List.length_append, List.length_take, List.length_replicate]
  omega

/-- How many messages an end has sent when it is at a stage. -/
def sends : Side → Stage → Nat
  | .server, .waitA => 1
  | .server, .sendAddress => 1
  | .server, .waitDone => 2
  | .server, .returned => 2
  | .client, .waitDone => 1
  | .client, .sendAddress => 1
  | .client, .returned => 2
  | _, _ => 0

/-- How many messages it has seen then. -/
def seen : Side → Stage → Nat
  | .server, .sendAddress => 1
  | .server, .waitDone => 1
  | .server, .returned => 2
  | .client, .sendGreeting => 1
  | .client, .waitDone => 1
  | .client, .sendAddress => 2
  | .client, .returned => 2
  | _, _ => 0

/-- How many messages an end in a state has received. -/
def rank : EHandshakeState → Nat
  | .a => 1
  | .done => 2
  | _ => 0

/-- The first messages of an end. -/
def messages (peers : Side → Peer) (p : Side) : Nat → List UInt8
  | 0 => []
  | 1 => greeting p (peers p)
  | _ => greeting p (peers p) ++ pAddr (peers p)

/-- How long they are together. -/
def messagesSize : Nat → Nat
  | 0 => 0
  | 1 => 7
  | _ => 57

theorem length_messages (peers : Side → Peer) (p : Side) (k : Nat) :
    (messages peers p k).length = messagesSize k := by
  match k with
  | 0 => rfl
  | 1 => exact length_greeting p _
  | k + 2 =>
    show (greeting p (peers p) ++ pAddr (peers p)).length = 57
    rw [List.length_append, length_greeting, length_pAddr]
    rfl

theorem messagesSize_lt {j k : Nat} (hlt : j < k) (hk : k ≤ 2) :
    messagesSize j < messagesSize k := by
  have hcases : (j = 0 ∧ k = 1) ∨ (j = 0 ∧ k = 2) ∨ (j = 1 ∧ k = 2) := by omega
  rcases hcases with ⟨rfl, rfl⟩ | ⟨rfl, rfl⟩ | ⟨rfl, rfl⟩ <;> decide

/-! ## Streams -/

/-- What holds at one end in any run. -/
structure AdapterOk (peers : Side → Peer) (p : Side) (q : Adapter) : Prop where
  sent : q.stage ≠ .failed → q.sent = messages peers p (sends p q.stage) ++ q.frames
  frames : q.frames ≠ [] → q.stage = .returned
  fresh : q.mHandshakeState = .before → q.mIsBroken = false → q.taken = []
  greeted : q.mHandshakeState = .a → q.taken.length ≤ GREETING_SIZE
  handed : q.mHandshakeState ≠ .done → q.mIsBroken = false → q.handed = []
  closed : q.mIsBroken = true → q.mHandshakeState = .before

/-- **No byte is lost or received twice** on the way from one end to the other. -/
structure Inv (peers : Side → Peer) (s : State) : Prop where
  stream : ∀ p, (s.adapter p).sent
    = (s.adapter p.other).taken ++ ((s.adapter p.other).handed ++ s.link p)
  adapter : ∀ p, AdapterOk peers p (s.adapter p)

theorem inv_initial (peers : Side → Peer) : Inv peers State.initial where
  stream := fun _ => rfl
  adapter := fun p =>
    ⟨fun _ => by cases p <;> rfl, fun h => absurd rfl h, fun _ _ => rfl, fun h => (by cases h),
      fun _ _ => rfl, fun h => by cases h⟩

theorem Side.eq_or (p p' : Side) : p' = p ∨ p' = p.other := by
  cases p <;> cases p' <;> simp [Side.other]

theorem Side.other_ne (p : Side) : p.other ≠ p := by
  cases p <;> exact Side.noConfusion

section Frames

variable {s : State} {p : Side} {q : Adapter} {bytes : List UInt8} {n : Nat}

@[simp] theorem adapter_setAdapter : (s.setAdapter p q).adapter p = q := Function.update_self ..

@[simp] theorem adapter_setAdapter_other :
    (s.setAdapter p q).adapter p.other = s.adapter p.other :=
  Function.update_of_ne p.other_ne ..

@[simp] theorem link_setAdapter : (s.setAdapter p q).link = s.link := rfl

@[simp] theorem adapter_send :
    (s.send p q bytes).adapter p = { q with sent := q.sent ++ bytes } := Function.update_self ..

@[simp] theorem adapter_send_other : (s.send p q bytes).adapter p.other = s.adapter p.other :=
  Function.update_of_ne p.other_ne ..

@[simp] theorem link_send : (s.send p q bytes).link p = s.link p ++ bytes :=
  Function.update_self ..

@[simp] theorem link_send_other : (s.send p q bytes).link p.other = s.link p.other :=
  Function.update_of_ne p.other_ne ..

@[simp] theorem adapter_receive : (s.receive p q n).adapter p = q := Function.update_self ..

@[simp] theorem adapter_receive_other :
    (s.receive p q n).adapter p.other = s.adapter p.other :=
  Function.update_of_ne p.other_ne ..

@[simp] theorem link_receive : (s.receive p q n).link p.other = (s.link p.other).drop n :=
  Function.update_self ..

@[simp] theorem link_receive_other : (s.receive p q n).link p = s.link p :=
  Function.update_of_ne p.other_ne.symm ..

/-- A step that neither sends nor receives. -/
theorem Inv.setAdapter (h : Inv peers s) (hsent : q.sent = (s.adapter p).sent)
    (htaken : q.taken = (s.adapter p).taken) (hhanded : q.handed = (s.adapter p).handed)
    (hq : AdapterOk peers p q) : Inv peers (s.setAdapter p q) where
  stream := by
    intro p'
    have hstream := h.stream p'
    rcases p.eq_or p' with rfl | rfl
    · rw [adapter_setAdapter, adapter_setAdapter_other, link_setAdapter, hsent]
      exact hstream
    · rw [Side.other_other] at hstream ⊢
      rw [adapter_setAdapter, adapter_setAdapter_other, link_setAdapter, htaken, hhanded]
      exact hstream
  adapter := by
    intro p'
    rcases p.eq_or p' with rfl | rfl
    · rw [adapter_setAdapter]
      exact hq
    · rw [adapter_setAdapter_other]
      exact h.adapter p.other

/-- A step that sends. -/
theorem Inv.send (h : Inv peers s) (hsent : q.sent = (s.adapter p).sent)
    (htaken : q.taken = (s.adapter p).taken) (hhanded : q.handed = (s.adapter p).handed)
    (hq : AdapterOk peers p { q with sent := q.sent ++ bytes }) :
    Inv peers (s.send p q bytes) where
  stream := by
    intro p'
    have hstream := h.stream p'
    rcases p.eq_or p' with rfl | rfl
    · rw [adapter_send, adapter_send_other, link_send]
      show q.sent ++ bytes = _
      rw [hsent, hstream, List.append_assoc, List.append_assoc]
    · rw [Side.other_other] at hstream ⊢
      rw [adapter_send, adapter_send_other, link_send_other]
      show _ = q.taken ++ (q.handed ++ _)
      rw [htaken, hhanded, hstream]
  adapter := by
    intro p'
    rcases p.eq_or p' with rfl | rfl
    · rw [adapter_send]
      exact hq
    · rw [adapter_send_other]
      exact h.adapter p.other

/-- A step that receives. -/
theorem Inv.receive (h : Inv peers s) (hsent : q.sent = (s.adapter p).sent)
    (hbytes : q.taken ++ q.handed = (s.adapter p).taken
      ++ ((s.adapter p).handed ++ (s.link p.other).take n))
    (hq : AdapterOk peers p q) : Inv peers (s.receive p q n) where
  stream := by
    intro p'
    have hstream := h.stream p'
    rcases p.eq_or p' with rfl | rfl
    · rw [adapter_receive, adapter_receive_other, link_receive_other, hsent, hstream]
    · rw [Side.other_other] at hstream ⊢
      rw [adapter_receive, adapter_receive_other, link_receive, hstream,
        ← List.append_assoc q.taken, hbytes, List.append_assoc, List.append_assoc,
        List.take_append_drop]
  adapter := by
    intro p'
    rcases p.eq_or p' with rfl | rfl
    · rw [adapter_receive]
      exact hq
    · rw [adapter_receive_other]
      exact h.adapter p.other

end Frames

/-! ## Steps -/

section Steps

variable {s s' : State} {p : Side} {q : Adapter}

theorem AdapterOk.frames_nil (h : AdapterOk peers p q) (hstage : q.stage ≠ .returned) :
    q.frames = [] := by
  by_contra hne
  exact hstage (h.frames hne)

/-- A stage at which nothing is sent. -/
theorem AdapterOk.stage (h : AdapterOk peers p q) (hstage : q.stage ≠ .returned) {stage : Stage}
    (hsends : stage ≠ .failed → q.stage ≠ .failed ∧ sends p stage = sends p q.stage) :
    AdapterOk peers p { q with stage := stage } where
  sent := by
    intro hok
    obtain ⟨hok', heq⟩ := hsends hok
    show q.sent = messages peers p (sends p stage) ++ q.frames
    rw [heq]
    exact h.sent hok'
  frames := fun hne => absurd (h.frames_nil hstage) hne
  fresh := h.fresh
  greeted := h.greeted
  handed := h.handed
  closed := h.closed

/-- A stage at which the next message is sent. -/
theorem AdapterOk.message (h : AdapterOk peers p q) {stage : Stage} {bytes : List UInt8}
    (hstage : q.stage ≠ .returned) (hok : q.stage ≠ .failed)
    (hbytes : messages peers p (sends p stage) = messages peers p (sends p q.stage) ++ bytes) :
    AdapterOk peers p { q with stage := stage, sent := q.sent ++ bytes } where
  sent := by
    intro _
    have hframes := h.frames_nil hstage
    show q.sent ++ bytes = messages peers p (sends p stage) ++ q.frames
    rw [hbytes, h.sent hok, hframes, List.append_nil, List.append_nil]
  frames := fun hne => absurd (h.frames_nil hstage) hne
  fresh := h.fresh
  greeted := h.greeted
  handed := h.handed
  closed := h.closed

theorem sends_sendGreeting (p : Side) :
    sends p .sendGreeting = 0 ∧ sends p (Stage.next p .sendGreeting) = 1 := by
  cases p <;> exact ⟨rfl, rfl⟩

theorem sends_sendAddress (p : Side) :
    sends p .sendAddress = 1 ∧ sends p (Stage.next p .sendAddress) = 2 := by
  cases p <;> exact ⟨rfl, rfl⟩

/-- At the other stages nothing is sent. -/
theorem sends_next (p : Side) {stage : Stage} (hg : stage ≠ .sendGreeting)
    (ha : stage ≠ .sendAddress) : sends p (Stage.next p stage) = sends p stage := by
  cases p <;> cases stage <;> first | rfl | exact absurd rfl hg | exact absurd rfl ha

/-- What the greeting of the other end does to the state. -/
theorem processGreeting_eq (q : Adapter) (peers : Side → Peer) (p : Side)
    (received garbage : List UInt8) :
    ∃ state, (state = .a ∨ state = .error) ∧ q.processGreeting peers p received garbage
      = { q with taken := q.taken ++ received, mHandshakeState := state } := by
  unfold Adapter.processGreeting
  dsimp only
  split
  · exact ⟨.error, Or.inr rfl, rfl⟩
  · split
    · exact ⟨.a, Or.inl rfl, rfl⟩
    · exact ⟨.a, Or.inl rfl, rfl⟩
    · exact ⟨.error, Or.inr rfl, rfl⟩

theorem Inv.makeHandshake (h : Inv peers s) (hs : next peers s (.makeHandshake p) = some s') :
    Inv peers s' := by
  have hp := h.adapter p
  simp only [next] at hs
  split at hs
  · next hstage =>
    cases hs
    refine h.setAdapter rfl rfl rfl (hp.stage (by rw [hstage]; exact Stage.noConfusion) ?_)
    split
    · intro _
      rw [hstage]
      exact ⟨Stage.noConfusion, sends_next p Stage.noConfusion Stage.noConfusion⟩
    · intro hne
      exact absurd rfl hne
  · next hstage =>
    split at hs <;> cases hs
    · exact h.setAdapter rfl rfl rfl (hp.stage (by rw [hstage]; exact Stage.noConfusion)
        fun hne => absurd rfl hne)
    · refine h.send rfl rfl rfl (hp.message (by rw [hstage]; exact Stage.noConfusion)
        (by rw [hstage]; exact Stage.noConfusion) ?_)
      rw [hstage, (sends_sendGreeting p).1, (sends_sendGreeting p).2]
      rfl
  · next hstage =>
    split at hs <;> cases hs
    refine h.setAdapter rfl rfl rfl (hp.stage (by rw [hstage]; exact Stage.noConfusion) ?_)
    intro _
    rw [hstage]
    exact ⟨Stage.noConfusion, sends_next p Stage.noConfusion Stage.noConfusion⟩
  · next hstage =>
    split at hs <;> cases hs
    · exact h.setAdapter rfl rfl rfl (hp.stage (by rw [hstage]; exact Stage.noConfusion)
        fun hne => absurd rfl hne)
    · refine h.send rfl rfl rfl (hp.message (by rw [hstage]; exact Stage.noConfusion)
        (by rw [hstage]; exact Stage.noConfusion) ?_)
      rw [hstage, (sends_sendAddress p).1, (sends_sendAddress p).2]
      rfl
  · next hstage =>
    split at hs <;> cases hs
    refine h.setAdapter rfl rfl rfl (hp.stage (by rw [hstage]; exact Stage.noConfusion) ?_)
    intro _
    rw [hstage]
    exact ⟨Stage.noConfusion, sends_next p Stage.noConfusion Stage.noConfusion⟩
  · cases hs
  · cases hs

theorem Inv.consumeData (h : Inv peers s) {n : Nat} {garbage : List UInt8}
    (hs : next peers s (.consumeData p n garbage) = some s') : Inv peers s' := by
  have hp := h.adapter p
  simp only [next] at hs
  split at hs
  · next hconn =>
    obtain ⟨halive, hpos, havailable⟩ := hconn
    split at hs
    · next hstate =>
      split at hs <;> cases hs
      next hn =>
      obtain ⟨state, hstate', heq⟩ := processGreeting_eq (s.adapter p) peers p
        ((s.link p.other).take n) garbage
      have htaken := hp.fresh hstate halive
      have hhanded := hp.handed (by rw [hstate]; exact EHandshakeState.noConfusion) halive
      rw [heq]
      refine h.receive rfl ?_ ⟨hp.sent, hp.frames, ?_, ?_, fun _ _ => hhanded, ?_⟩
      · show (s.adapter p).taken ++ _ ++ (s.adapter p).handed = _
        rw [hhanded, List.append_nil, List.nil_append]
      · intro hbefore
        rcases hstate' with rfl | rfl <;> cases hbefore
      · intro _
        show ((s.adapter p).taken ++ (s.link p.other).take n).length ≤ GREETING_SIZE
        rw [htaken, List.nil_append, List.length_take]
        omega
      · intro hbroken
        exact absurd (halive.symm.trans hbroken) Bool.noConfusion
    · next hstate =>
      split at hs <;> cases hs
      have hhanded := hp.handed (by rw [hstate]; exact EHandshakeState.noConfusion) halive
      refine h.receive rfl ?_ ⟨hp.sent, hp.frames, fun hb => (by cases hb), fun ha => (by cases ha),
        fun hne => absurd rfl hne, ?_⟩
      · show (s.adapter p).taken ++ _ ++ (s.adapter p).handed = _
        rw [hhanded, List.append_nil, List.nil_append]
      · intro hbroken
        exact absurd (halive.symm.trans hbroken) Bool.noConfusion
    · next hstate =>
      cases hs
      refine h.receive rfl rfl ⟨hp.sent, hp.frames, hp.fresh, hp.greeted, ?_, hp.closed⟩
      intro hne
      exact absurd hstate hne
    · cases hs
  · cases hs

/-- A connection that is closed. -/
theorem AdapterOk.close (h : AdapterOk peers p q) :
    AdapterOk peers p { q with mIsBroken := true, mHandshakeState := .before } where
  sent := h.sent
  frames := h.frames
  fresh := fun _ halive => by cases halive
  greeted := fun ha => by cases ha
  handed := fun _ halive => by cases halive
  closed := fun _ => rfl

theorem inv_step {ev : Event} (h : Inv peers s) (hs : next peers s ev = some s') :
    Inv peers s' := by
  cases ev with
  | makeHandshake p => exact h.makeHandshake hs
  | consumeData p n garbage => exact h.consumeData hs
  | hangUp p =>
    simp only [next] at hs
    split at hs <;> cases hs
    exact h.setAdapter rfl rfl rfl (h.adapter p).close
  | closeAllSockets p =>
    simp only [next] at hs
    split at hs <;> cases hs
    exact h.setAdapter rfl rfl rfl (h.adapter p).close
  | sendFrames p bytes =>
    simp only [next] at hs
    split at hs <;> cases hs
    next hconn =>
    have hp := h.adapter p
    refine h.send rfl rfl rfl ⟨?_, fun _ => hconn.1, hp.fresh, hp.greeted, hp.handed, hp.closed⟩
    intro hok
    show (s.adapter p).sent ++ bytes = messages peers p _ ++ ((s.adapter p).frames ++ bytes)
    rw [hp.sent hok, List.append_assoc]

end Steps

/-! ## An end that has taken too little -/

/-- This end will not get where it should: it has failed, or it has taken fewer bytes off the
stream than the messages it thinks it has received. -/
def Behind (q : Adapter) : Prop :=
  q.stage = .failed ∨ q.mIsBroken = true ∨ q.mHandshakeState = .error
    ∨ (q.mHandshakeState = .a ∧ q.taken.length < GREETING_SIZE)
    ∨ (q.mHandshakeState = .done ∧ q.taken.length < GREETING_SIZE + ADDRESS_SIZE)

section Behind

variable {s s' : State} {p e : Side} {q q' : Adapter} {bytes : List UInt8} {n : Nat}

/-- A step that does not receive. -/
theorem Behind.moved (h : Behind q) (hstage : q.stage = .failed → q'.stage = .failed)
    (hbroken : q'.mIsBroken = q.mIsBroken) (hstate : q'.mHandshakeState = q.mHandshakeState)
    (htaken : q'.taken = q.taken) : Behind q' := by
  unfold Behind
  rw [hbroken, hstate, htaken]
  rcases h with h | h
  · exact Or.inl (hstage h)
  · exact Or.inr h

theorem Behind.setAdapter (h : Behind (s.adapter p)) (hq : Behind (s.adapter e) → Behind q) :
    Behind ((s.setAdapter e q).adapter p) := by
  rcases e.eq_or p with rfl | rfl
  · rw [adapter_setAdapter]
    exact hq h
  · rw [adapter_setAdapter_other]
    exact h

theorem Behind.send (h : Behind (s.adapter p))
    (hq : Behind (s.adapter e) → Behind { q with sent := q.sent ++ bytes }) :
    Behind ((s.send e q bytes).adapter p) := by
  rcases e.eq_or p with rfl | rfl
  · rw [adapter_send]
    exact hq h
  · rw [adapter_send_other]
    exact h

theorem Behind.receive (h : Behind (s.adapter p)) (hq : Behind (s.adapter e) → Behind q) :
    Behind ((s.receive e q n).adapter p) := by
  rcases e.eq_or p with rfl | rfl
  · rw [adapter_receive]
    exact hq h
  · rw [adapter_receive_other]
    exact h

theorem Behind.makeHandshake (h : Behind (s.adapter p))
    (hs : next peers s (.makeHandshake e) = some s') : Behind (s'.adapter p) := by
  simp only [next] at hs
  split at hs
  · next hstage =>
    cases hs
    refine h.setAdapter fun hb => hb.moved (fun hf => ?_) rfl rfl rfl
    rw [hstage] at hf
    cases hf
  · next hstage =>
    split at hs <;> cases hs
    · exact h.setAdapter fun _ => Or.inl rfl
    · refine h.send fun hb => hb.moved (fun hf => ?_) rfl rfl rfl
      rw [hstage] at hf
      cases hf
  · next hstage =>
    split at hs <;> cases hs
    refine h.setAdapter fun hb => hb.moved (fun hf => ?_) rfl rfl rfl
    rw [hstage] at hf
    cases hf
  · next hstage =>
    split at hs <;> cases hs
    · exact h.setAdapter fun _ => Or.inl rfl
    · refine h.send fun hb => hb.moved (fun hf => ?_) rfl rfl rfl
      rw [hstage] at hf
      cases hf
  · next hstage =>
    split at hs <;> cases hs
    refine h.setAdapter fun hb => hb.moved (fun hf => ?_) rfl rfl rfl
    rw [hstage] at hf
    cases hf
  · cases hs
  · cases hs

/-- What is taken for the address cannot make up for what the greeting lacks. -/
theorem Behind.processAddress (h : Behind q) (halive : q.mIsBroken = false)
    (hstate : q.mHandshakeState = .a) {received : List UInt8}
    (hn : received.length ≤ ADDRESS_SIZE) (garbage : List UInt8) :
    Behind (q.processAddress received garbage) := by
  rcases h with h | h | h | ⟨-, h⟩ | ⟨h, -⟩
  · exact Or.inl h
  · exact absurd (halive.symm.trans h) Bool.noConfusion
  · exact absurd (hstate.symm.trans h) EHandshakeState.noConfusion
  · refine Or.inr (Or.inr (Or.inr (Or.inr ⟨rfl, ?_⟩)))
    show (q.taken ++ received).length < GREETING_SIZE + ADDRESS_SIZE
    rw [List.length_append]
    omega
  · exact absurd (hstate.symm.trans h) EHandshakeState.noConfusion

theorem Behind.consumeData {garbage : List UInt8} (h : Behind (s.adapter p))
    (hs : next peers s (.consumeData e n garbage) = some s') : Behind (s'.adapter p) := by
  simp only [next] at hs
  split at hs
  · next hconn =>
    split at hs
    · next hstate =>
      split at hs <;> cases hs
      obtain ⟨state, hstate', heq⟩ := processGreeting_eq (s.adapter e) peers e
        ((s.link e.other).take n) garbage
      rw [heq]
      refine h.receive fun hb => ?_
      rcases hb with hb | hb | hb | ⟨hb, -⟩ | ⟨hb, -⟩
      · exact Or.inl hb
      · exact absurd (hconn.1.symm.trans hb) Bool.noConfusion
      · exact absurd (hstate.symm.trans hb) EHandshakeState.noConfusion
      · exact absurd (hstate.symm.trans hb) EHandshakeState.noConfusion
      · exact absurd (hstate.symm.trans hb) EHandshakeState.noConfusion
    · next hstate =>
      split at hs <;> cases hs
      next hn =>
      refine h.receive fun hb => hb.processAddress hconn.1 hstate ?_ garbage
      rw [List.length_take]
      omega
    · cases hs
      exact h.receive fun hb => hb.moved id rfl rfl rfl
    · cases hs
  · cases hs

theorem behind_step {ev : Event} (h : Behind (s.adapter p)) (hs : next peers s ev = some s') :
    Behind (s'.adapter p) := by
  cases ev with
  | makeHandshake e => exact h.makeHandshake hs
  | consumeData e n garbage => exact h.consumeData hs
  | hangUp e =>
    simp only [next] at hs
    split at hs <;> cases hs
    exact h.setAdapter fun _ => Or.inr (Or.inl rfl)
  | closeAllSockets e =>
    simp only [next] at hs
    split at hs <;> cases hs
    exact h.setAdapter fun _ => Or.inr (Or.inl rfl)
  | sendFrames e bytes =>
    simp only [next] at hs
    split at hs <;> cases hs
    exact h.send fun hb => hb.moved id rfl rfl rfl

/-- **A `recv` that returns less than it is asked for leaves its end behind**, and so does a
greeting that comes before `makeHandshake` is called. -/
theorem behind_of_not_whole {ev : Event} (h : Inv peers s) (hw : ¬ Whole s ev)
    (hs : next peers s ev = some s') : ∃ p, Behind (s'.adapter p) := by
  cases ev with
  | makeHandshake p =>
    obtain ⟨hstage, hstate⟩ := Classical.not_imp.mp hw
    simp only [next, hstage, if_neg hstate] at hs
    cases hs
    refine ⟨p, ?_⟩
    rw [adapter_setAdapter]
    exact Or.inl rfl
  | consumeData p n garbage =>
    have hp := h.adapter p
    refine ⟨p, ?_⟩
    simp only [next] at hs
    split at hs
    · next hconn =>
      have hlen : ((s.link p.other).take n).length = n := by
        rw [List.length_take]
        omega
      split at hs
      · next hstate =>
        split at hs <;> cases hs
        next hn =>
        obtain ⟨state, hstate', heq⟩ := processGreeting_eq (s.adapter p) peers p
          ((s.link p.other).take n) garbage
        have hshort : n < GREETING_SIZE := by
          refine Nat.lt_of_le_of_ne hn ?_
          rintro rfl
          exact hw ⟨fun _ => rfl, fun ha => absurd (hstate.symm.trans ha)
            EHandshakeState.noConfusion⟩
        rw [heq, adapter_receive]
        rcases hstate' with rfl | rfl
        · refine Or.inr (Or.inr (Or.inr (Or.inl ⟨rfl, ?_⟩)))
          show ((s.adapter p).taken ++ (s.link p.other).take n).length < GREETING_SIZE
          rw [hp.fresh hstate hconn.1, List.nil_append, hlen]
          exact hshort
        · exact Or.inr (Or.inr (Or.inl rfl))
      · next hstate =>
        split at hs <;> cases hs
        next hn =>
        have hshort : n < ADDRESS_SIZE := by
          refine Nat.lt_of_le_of_ne hn ?_
          rintro rfl
          exact hw ⟨fun hb => absurd (hstate.symm.trans hb) EHandshakeState.noConfusion,
            fun _ => rfl⟩
        have hgreeted := hp.greeted hstate
        rw [adapter_receive]
        refine Or.inr (Or.inr (Or.inr (Or.inr ⟨rfl, ?_⟩)))
        show ((s.adapter p).taken ++ (s.link p.other).take n).length < GREETING_SIZE + ADDRESS_SIZE
        rw [List.length_append, hlen]
        omega
      · next hstate =>
        exact absurd ⟨fun hb => absurd (hstate.symm.trans hb) EHandshakeState.noConfusion,
          fun ha => absurd (hstate.symm.trans ha) EHandshakeState.noConfusion⟩ hw
      · cases hs
    · cases hs
  | hangUp _ | closeAllSockets _ | sendFrames _ _ => exact absurd trivial hw

/-- An end that is behind has left a part of a message for `haveData`, or nothing at all. -/
theorem not_success_of_behind (h : Inv peers s) (hc : Complete peers s)
    (hb : Behind (s.adapter p)) : ¬ Success s := by
  intro hsuccess
  obtain ⟨hstage, hstate, hhanded⟩ := hsuccess p
  have hopen : (s.adapter p).mIsBroken = false := by
    cases hbroken : (s.adapter p).mIsBroken with
    | false => rfl
    | true =>
      have hbefore := (h.adapter p).closed hbroken
      rw [hstate] at hbefore
      cases hbefore
  rcases hb with hb | hb | hb | ⟨hb, -⟩ | ⟨-, hb⟩
  · exact absurd (hstage.symm.trans hb) Stage.noConfusion
  · exact absurd (hopen.symm.trans hb) Bool.noConfusion
  · exact absurd (hstate.symm.trans hb) EHandshakeState.noConfusion
  · exact absurd (hstate.symm.trans hb) EHandshakeState.noConfusion
  · -- count the bytes of the other end
    have hother := (hsuccess p.other).1
    have hsent := (h.adapter p.other).sent (by rw [hother]; exact Stage.noConfusion)
    have hstream := h.stream p.other
    have hlink : s.link p.other = [] := by
      refine (hc p.other).1.resolve_right ?_
      rw [Side.other_other, hopen]
      exact Bool.noConfusion
    rw [Side.other_other, hlink, List.append_nil, hsent, hhanded, hother] at hstream
    have hlen := congrArg List.length hstream
    have htwo : sends p.other .returned = 2 := by cases p <;> rfl
    have hall : (messages peers p.other 2).length = 57 := length_messages peers p.other 2
    rw [List.length_append, List.length_append, htwo, hall] at hlen
    have hsizes : GREETING_SIZE + ADDRESS_SIZE = 57 := rfl
    omega

end Behind

/-! ## Two ends in step -/

/-- An end that has received whole messages, and is at no stage it should not be at yet. -/
structure GoodAt (peers : Side → Peer) (p : Side) (q : Adapter) : Prop where
  working : q.stage ≠ .failed ∧ q.mIsBroken = false ∧ q.mHandshakeState ≠ .error
  taken : q.taken = messages peers p.other (rank q.mHandshakeState)
  reached : seen p q.stage ≤ rank q.mHandshakeState

def Good (peers : Side → Peer) (s : State) : Prop := ∀ p, GoodAt peers p (s.adapter p)

theorem good_initial (peers : Side → Peer) : Good peers State.initial :=
  fun p => ⟨⟨Stage.noConfusion, rfl, EHandshakeState.noConfusion⟩, rfl,
    by cases p <;> exact Nat.le_refl 0⟩

section Good

variable {s s' : State} {p : Side} {q : Adapter} {bytes : List UInt8} {n : Nat}

theorem Good.setAdapter (h : Good peers s) (hq : GoodAt peers p q) :
    Good peers (s.setAdapter p q) := by
  intro p'
  rcases p.eq_or p' with rfl | rfl
  · rw [adapter_setAdapter]
    exact hq
  · rw [adapter_setAdapter_other]
    exact h p.other

theorem Good.send (h : Good peers s) (hq : GoodAt peers p { q with sent := q.sent ++ bytes }) :
    Good peers (s.send p q bytes) := by
  intro p'
  rcases p.eq_or p' with rfl | rfl
  · rw [adapter_send]
    exact hq
  · rw [adapter_send_other]
    exact h p.other

theorem Good.receive (h : Good peers s) (hq : GoodAt peers p q) :
    Good peers (s.receive p q n) := by
  intro p'
  rcases p.eq_or p' with rfl | rfl
  · rw [adapter_receive]
    exact hq
  · rw [adapter_receive_other]
    exact h p.other

/-- The next stage, for which the end has received enough. -/
theorem GoodAt.next (h : GoodAt peers p q) {stage : Stage} (hstage : q.stage = stage)
    (hend : stage ≠ .returned)
    (hseen : seen p (Stage.next p stage) ≤ rank q.mHandshakeState) :
    GoodAt peers p { q with stage := Stage.next p stage } where
  working := by
    refine ⟨?_, h.working.2⟩
    have hok := h.working.1
    rw [hstage] at hok
    cases p <;> cases stage <;> first | exact Stage.noConfusion | exact absurd rfl hok
  taken := h.taken
  reached := hseen

/-- Only a wait lets an end go on to a stage for which it must have received more. -/
theorem seen_next (p : Side) {stage : Stage} (ha : stage ≠ .waitA) (hd : stage ≠ .waitDone) :
    seen p (Stage.next p stage) = seen p stage := by
  cases p <;> cases stage <;> first | rfl | exact absurd rfl ha | exact absurd rfl hd

theorem Good.makeHandshake (h : Good peers s) (hw : Whole s (.makeHandshake p))
    (hs : next peers s (.makeHandshake p) = some s') : Good peers s' := by
  have hp := h p
  simp only [next] at hs
  split at hs
  · next hstage =>
    cases hs
    rw [if_pos (hw hstage)]
    refine h.setAdapter (hp.next hstage Stage.noConfusion ?_)
    rw [seen_next p Stage.noConfusion Stage.noConfusion, ← hstage]
    exact hp.reached
  · next hstage =>
    rw [if_neg (by rw [hp.working.2.1]; exact Bool.noConfusion)] at hs
    cases hs
    have hq := hp.next hstage Stage.noConfusion (by
      rw [seen_next p Stage.noConfusion Stage.noConfusion, ← hstage]
      exact hp.reached)
    exact h.send ⟨hq.working, hq.taken, hq.reached⟩
  · next hstage =>
    split at hs <;> cases hs
    next hstate =>
    refine h.setAdapter (hp.next hstage Stage.noConfusion ?_)
    rw [hstate]
    cases p <;> exact Nat.le_refl 1
  · next hstage =>
    rw [if_neg (by rw [hp.working.2.1]; exact Bool.noConfusion)] at hs
    cases hs
    have hq := hp.next hstage Stage.noConfusion (by
      rw [seen_next p Stage.noConfusion Stage.noConfusion, ← hstage]
      exact hp.reached)
    exact h.send ⟨hq.working, hq.taken, hq.reached⟩
  · next hstage =>
    split at hs <;> cases hs
    next hstate =>
    refine h.setAdapter (hp.next hstage Stage.noConfusion ?_)
    rw [hstate]
    cases p <;> exact Nat.le_refl 2
  · cases hs
  · cases hs

theorem sends_le (p : Side) (stage : Stage) : sends p stage ≤ 2 := by
  cases p <;> cases stage <;> decide

theorem sends_returned (p : Side) {stage : Stage} (hsends : sends p stage < 2) :
    stage ≠ .returned := by
  rintro rfl
  cases p <;> exact absurd hsends (Nat.lt_irrefl 2)

/-- The first bytes an end sends are its messages. -/
theorem sent_take (h : AdapterOk peers p q) (hok : q.stage ≠ .failed) {k : Nat} (hk : k ≤ 2)
    (hlen : (messages peers p k).length ≤ q.sent.length) :
    q.sent.take (messages peers p k).length = messages peers p k := by
  have hsent := h.sent hok
  have hle := sends_le p q.stage
  have hframes := fun hlt => h.frames_nil (sends_returned p hlt)
  generalize sends p q.stage = j at hsent hle hframes
  by_cases hjk : j < k
  · -- it has not sent that much
    rw [hsent, hframes (by omega), List.append_nil, length_messages, length_messages] at hlen
    exact absurd hlen (Nat.not_le.mpr (messagesSize_lt hjk hk))
  · rw [hsent]
    have hcases : k = 0 ∨ j = k ∨ (j = 2 ∧ k = 1) := by omega
    rcases hcases with rfl | rfl | ⟨rfl, rfl⟩
    · rfl
    · exact List.take_left
    · show (greeting p (peers p) ++ pAddr (peers p) ++ q.frames).take _ = _
      rw [List.append_assoc]
      exact List.take_left

/-- **The next message.** An end that has received `k` messages and takes as many bytes as the
next one has receives the next one. -/
theorem Good.message (hi : Inv peers s) (h : Good peers s)
    (hstate : (s.adapter p).mHandshakeState ≠ .done) {k : Nat} (hk : k < 2)
    (hrank : rank (s.adapter p).mHandshakeState = k)
    (hn : (messages peers p.other k).length + n = (messages peers p.other (k + 1)).length)
    (hle : n ≤ (s.link p.other).length) :
    (s.adapter p).taken ++ (s.link p.other).take n = messages peers p.other (k + 1) := by
  have htaken := (h p).taken
  have hhanded := (hi.adapter p).handed hstate (h p).working.2.1
  have hstream := hi.stream p.other
  rw [Side.other_other, hhanded, List.nil_append] at hstream
  rw [hrank] at htaken
  have hlen : (messages peers p.other (k + 1)).length ≤ (s.adapter p.other).sent.length := by
    rw [hstream, htaken, List.length_append]
    omega
  have htake := sent_take (hi.adapter p.other) (h p.other).working.1 hk hlen
  rw [hstream, htaken, ← hn, List.take_length_add_append] at htake
  rw [htaken, htake]

/-- The greeting of a compatible end is accepted. -/
theorem processGreeting_whole (hcompat : Compatible peers) (q : Adapter) (p : Side)
    (garbage : List UInt8) :
    q.processGreeting peers p (greeting p.other (peers p.other)) garbage
      = { q with
          taken := q.taken ++ greeting p.other (peers p.other), mHandshakeState := .a } := by
  have hversion := hcompat p
  have hfour : (greeting p.other (peers p.other) ++ garbage).take 4
      = (greeting p.other (peers p.other)).take 4 := by
    cases p <;> rfl
  have hmajor : (greeting p.other (peers p.other) ++ garbage).getD 4 0
      = (peers p.other).major := by
    cases p <;> rfl
  have hminor : (greeting p.other (peers p.other) ++ garbage).getD 5 0
      = (peers p.other).minor := by
    cases p <;> rfl
  unfold Adapter.processGreeting
  simp only [hfour, hmajor, hminor, ne_eq, not_true, if_false]
  split
  · rfl
  · rfl
  · next hnot => exact absurd hnot hversion

theorem Good.consumeData (hcompat : Compatible peers) (hi : Inv peers s) (h : Good peers s)
    {garbage : List UInt8} (hw : Whole s (.consumeData p n garbage))
    (hs : next peers s (.consumeData p n garbage) = some s') : Good peers s' := by
  have hp := h p
  simp only [next] at hs
  split at hs
  · next hconn =>
    obtain ⟨-, -, havailable⟩ := hconn
    split at hs
    · next hstate =>
      split at hs <;> cases hs
      obtain rfl : n = GREETING_SIZE := hw.1 hstate
      have hmessage := h.message hi (by rw [hstate]; exact EHandshakeState.noConfusion)
        Nat.zero_lt_two (by rw [hstate]; rfl)
        (by rw [length_messages, length_messages]; rfl) havailable
      have htaken := hp.taken
      rw [hstate] at htaken
      have hreceived : (s.link p.other).take GREETING_SIZE
          = greeting p.other (peers p.other) := by
        rw [htaken] at hmessage
        exact hmessage
      rw [hreceived, processGreeting_whole hcompat]
      refine h.receive ⟨⟨hp.working.1, hp.working.2.1, EHandshakeState.noConfusion⟩, ?_, ?_⟩
      · rw [← hreceived]
        exact hmessage
      · refine Nat.le_trans hp.reached ?_
        rw [hstate]
        exact Nat.zero_le 1
    · next hstate =>
      split at hs <;> cases hs
      obtain rfl : n = ADDRESS_SIZE := hw.2 hstate
      have hmessage := h.message hi (by rw [hstate]; exact EHandshakeState.noConfusion)
        Nat.one_lt_two (by rw [hstate]; rfl)
        (by rw [length_messages, length_messages]; rfl) havailable
      refine h.receive ⟨⟨hp.working.1, hp.working.2.1, EHandshakeState.noConfusion⟩, hmessage, ?_⟩
      refine Nat.le_trans hp.reached ?_
      rw [hstate]
      exact Nat.le_succ 1
    · next hstate =>
      cases hs
      exact h.receive ⟨hp.working, hp.taken, hp.reached⟩
    · cases hs
  · cases hs

/-- **One step** of a run in which all messages come whole. -/
theorem good_step (hcompat : Compatible peers) {ev : Event} (hi : Inv peers s)
    (h : Good peers s) (hw : Whole s ev) (hs : next peers s ev = some s') : Good peers s' := by
  cases ev with
  | makeHandshake p => exact h.makeHandshake hw hs
  | consumeData p n garbage => exact h.consumeData hcompat hi hw hs
  | hangUp p =>
    simp only [next] at hs
    split at hs
    · next hconn =>
      have hbroken := hconn.2.2.1
      rw [(h p.other).working.2.1] at hbroken
      cases hbroken
    · cases hs
  | closeAllSockets p =>
    simp only [next] at hs
    split at hs
    · next hconn => exact absurd hconn.2 (h p).working.2.2
    · cases hs
  | sendFrames p bytes =>
    simp only [next] at hs
    split at hs <;> cases hs
    exact h.send ⟨(h p).working, (h p).taken, (h p).reached⟩

end Good

/-! ## The end of a run -/

section Complete

variable {s : State} {p : Side}

theorem rank_le (state : EHandshakeState) : rank state ≤ 2 := by
  cases state <;> decide

theorem rank_one {state : EHandshakeState} (h : rank state = 1) : state = .a := by
  cases state <;> first | rfl | cases h

theorem rank_two {state : EHandshakeState} (h : rank state = 2) : state = .done := by
  cases state <;> first | rfl | cases h

/-- Where `makeHandshake` is when it cannot go on. -/
theorem waiting_cases (hc : (next peers s (.makeHandshake p)).isNone)
    (hok : (s.adapter p).stage ≠ .failed) :
    (s.adapter p).stage = .waitA ∧ (s.adapter p).mHandshakeState ≠ .a
      ∨ (s.adapter p).stage = .waitDone ∧ (s.adapter p).mHandshakeState ≠ .done
      ∨ (s.adapter p).stage = .returned := by
  simp only [next] at hc
  split at hc
  · cases hc
  · split at hc <;> cases hc
  · next hstage =>
    refine Or.inl ⟨hstage, ?_⟩
    intro hstate
    rw [if_pos hstate] at hc
    cases hc
  · split at hc <;> cases hc
  · next hstage =>
    refine Or.inr (Or.inl ⟨hstage, ?_⟩)
    intro hstate
    rw [if_pos hstate] at hc
    cases hc
  · next hstage => exact Or.inr (Or.inr hstage)
  · next hstage => exact absurd hstage hok

/-- With nothing on the way, an end has received what the other has sent. -/
theorem Good.stream (hi : Inv peers s) (h : Good peers s) (hlink : s.link p.other = []) :
    messages peers p.other (rank (s.adapter p).mHandshakeState) ++ (s.adapter p).handed
      = messages peers p.other (sends p.other (s.adapter p.other).stage)
        ++ (s.adapter p.other).frames := by
  have hstream := hi.stream p.other
  rw [Side.other_other, hlink, List.append_nil, (h p).taken,
    (hi.adapter p.other).sent (h p.other).working.1] at hstream
  exact hstream.symm

theorem Good.rank_eq_sends (hi : Inv peers s) (h : Good peers s) (hlink : s.link p.other = []) :
    rank (s.adapter p).mHandshakeState = sends p.other (s.adapter p.other).stage := by
  have hlen := congrArg List.length (h.stream hi hlink)
  have hr := rank_le (s.adapter p).mHandshakeState
  have hj := sends_le p.other (s.adapter p.other).stage
  have hhanded : rank (s.adapter p).mHandshakeState < 2 → (s.adapter p).handed = [] := by
    intro hlt
    refine (hi.adapter p).handed ?_ (h p).working.2.1
    intro hdone
    rw [hdone] at hlt
    exact absurd hlt (Nat.lt_irrefl 2)
  have hframes : sends p.other (s.adapter p.other).stage < 2 →
      (s.adapter p.other).frames = [] :=
    fun hlt => (hi.adapter p.other).frames_nil (sends_returned p.other hlt)
  generalize rank (s.adapter p).mHandshakeState = r at hlen hr hhanded ⊢
  generalize sends p.other (s.adapter p.other).stage = j at hlen hj hframes ⊢
  rw [List.length_append, List.length_append, length_messages, length_messages] at hlen
  rcases Nat.lt_trichotomy r j with hlt | heq | hlt
  · have hsize := messagesSize_lt hlt hj
    rw [hhanded (by omega), List.length_nil] at hlen
    omega
  · exact heq
  · have hsize := messagesSize_lt hlt hr
    rw [hframes (by omega), List.length_nil] at hlen
    omega

/-- **Nobody waits in vain**: when both ends can go no further they have returned. -/
theorem Good.returned (hi : Inv peers s) (h : Good peers s) (hc : Complete peers s) :
    (s.adapter .server).stage = .returned ∧ (s.adapter .client).stage = .returned := by
  have hlink : ∀ p : Side, s.link p = [] := by
    intro p
    refine (hc p).1.resolve_right ?_
    rw [(h p.other).working.2.1]
    exact Bool.noConfusion
  have hclient := h.rank_eq_sends (p := .client) hi (hlink _)
  have hserver := h.rank_eq_sends (p := .server) hi (hlink _)
  have hreachedS := (h .server).reached
  have hreachedC := (h .client).reached
  rcases waiting_cases (hc .server).2 (h .server).working.1 with ⟨hs, hne⟩ | ⟨hs, hne⟩ | hs
  · -- the server's greeting has arrived, and either end has its next message
    rw [Side.other, hs] at hclient
    rcases waiting_cases (hc .client).2 (h .client).working.1 with ⟨ht, hne'⟩ | ⟨ht, hne'⟩ | ht
    · exact absurd (rank_one hclient) hne'
    · rw [Side.other, ht] at hserver
      exact absurd (rank_one hserver) hne
    · rw [ht, hclient] at hreachedC
      exact absurd hreachedC (by decide)
  · -- the server's address has arrived
    rw [Side.other, hs] at hclient
    rcases waiting_cases (hc .client).2 (h .client).working.1 with ⟨ht, hne'⟩ | ⟨ht, hne'⟩ | ht
    · rw [Side.other, ht] at hserver
      rw [hs, hserver] at hreachedS
      exact absurd hreachedS (by decide)
    · exact absurd (rank_two hclient) hne'
    · rw [Side.other, ht] at hserver
      exact absurd (rank_two hserver) hne
  · refine ⟨hs, ?_⟩
    rw [hs] at hreachedS
    rcases waiting_cases (hc .client).2 (h .client).working.1 with ⟨ht, -⟩ | ⟨ht, -⟩ | ht
    · rw [hserver, Side.other, ht] at hreachedS
      exact absurd hreachedS (by decide)
    · rw [hserver, Side.other, ht] at hreachedS
      exact absurd hreachedS (by decide)
    · exact ht

theorem Good.success (hi : Inv peers s) (h : Good peers s) (hc : Complete peers s) :
    Success s := by
  obtain ⟨hserver, hclient⟩ := h.returned hi hc
  have hreturned : ∀ p : Side, (s.adapter p).stage = .returned := by
    intro p
    cases p with
    | server => exact hserver
    | client => exact hclient
  intro p
  have hlink : s.link p.other = [] := by
    refine (hc p.other).1.resolve_right ?_
    rw [(h p.other.other).working.2.1]
    exact Bool.noConfusion
  have hrank : rank (s.adapter p).mHandshakeState = 2 := by
    rw [h.rank_eq_sends hi hlink, hreturned p.other]
    cases p <;> rfl
  have hstream := h.stream hi hlink
  rw [← h.rank_eq_sends hi hlink] at hstream
  exact ⟨hreturned p, rank_two hrank, List.append_cancel_left hstream⟩

end Complete

/-- **The handshake works exactly when its messages come whole**: two ends with compatible
versions, that have gone as far as they can, have both finished the handshake and hand on the
frame traffic from its first byte exactly if every `recv` of the handshake has returned all it
asked for and neither greeting was early. -/
theorem handshake_iff {s : State} {evs : List Event} (hcompat : Compatible peers)
    (hr : run (next peers) State.initial evs = some s) (hc : Complete peers s) :
    Success s ↔ Along (next peers) Whole State.initial evs := by
  have hinv : Inv peers s :=
    run_invariant (P := fun _ _ => True) (fun _ _ _ h _ hs => inv_step h hs)
      (inv_initial peers) (along_of_mem fun _ _ _ => trivial) hr
  constructor
  · intro hsuccess
    by_contra hslips
    obtain ⟨p, hbehind⟩ : ∃ p, Behind (s.adapter p) :=
      run_of_not_along (I := Inv peers) (B := fun t => ∃ p, Behind (t.adapter p))
        (fun _ _ _ h hs => inv_step h hs) (fun _ _ _ h hw hs => behind_of_not_whole h hw hs)
        (fun _ _ _ _ ⟨p, hb⟩ hs => ⟨p, behind_step hb hs⟩) (inv_initial peers) hr hslips
    exact not_success_of_behind hinv hc hbehind hsuccess
  · intro hwhole
    have hgood : Inv peers s ∧ Good peers s :=
      run_invariant (P := Whole) (I := fun t => Inv peers t ∧ Good peers t)
        (fun _ _ _ h hw hs => ⟨inv_step h.1 hs, good_step hcompat h.1 h.2 hw hs⟩)
        ⟨inv_initial peers, good_initial peers⟩ hwhole hr
    exact hgood.2.success hinv hc

/-- Two ends of version 1.1. -/
def samePeers : Side → Peer := fun _ => ⟨1, 1, [0x31]⟩

/-- The messages come whole, and the client's first frame follows its address at once. -/
def wholeRun : List Event :=
  [.makeHandshake .client, .makeHandshake .server, .makeHandshake .server,
    .consumeData .client 7 [], .makeHandshake .client, .makeHandshake .client,
    .consumeData .server 7 [], .makeHandshake .server, .makeHandshake .server,
    .consumeData .client 50 [], .makeHandshake .client, .makeHandshake .client,
    .sendFrames .client [9, 9], .consumeData .server 50 [], .makeHandshake .server,
    .consumeData .server 2 []]

theorem handshake_iff_whole :
    ∃ s, run (next samePeers) State.initial wholeRun = some s ∧ Success s :=
  ⟨_, rfl, (@handshake_iff samePeers _ wholeRun (by decide) rfl (by decide)).mpr (by decide)⟩

/-- The first six bytes of the server's greeting come before the seventh. The version is all
there, so the client goes on, but takes that byte for the server's address, and misses the state
it waits for. -/
theorem cut_greeting_stops :
    ¬ ∀ (peers : Side → Peer) (evs : List Event) (s : State), Compatible peers →
      run (next peers) State.initial evs = some s → Complete peers s → Success s := by
  intro h
  have hsuccess := h samePeers [.makeHandshake .client, .makeHandshake .server,
    .makeHandshake .server, .consumeData .client 6 [], .consumeData .client 1 []] _ (by decide)
    rfl (by decide) .client
  exact absurd hsuccess.1 (by decide)

/-! ## Two versions

An end that meets a newer one goes on and leaves the decision to it. The newer one
refuses, so that it sends its greeting at most, and the older one waits for an
address that never comes.
-/

/-- What an end has for its own version. -/
def ownVersion (peers : Side → Peer) (p : Side) : UInt16 := version (peers p).major (peers p).minor

/-- The end of a later version than the other's. -/
def Newer (peers : Side → Peer) (p : Side) : Prop := ownVersion peers p.other < ownVersion peers p

/-- What holds at an end that does not get to the address of the other. -/
structure KeptAt (peers : Side → Peer) (p : Side) (q : Adapter) : Prop where
  greets : q.sent = [] ∨ greeting p (peers p) <+: q.sent
  reached : seen p q.stage ≤ 1
  undone : q.mHandshakeState ≠ .done
  handed : q.handed = []
  greeted : q.mHandshakeState = .a → q.taken.length = GREETING_SIZE
  /-- The newer end has accepted nothing. -/
  newer : Newer peers p →
    seen p q.stage = 0 ∧ q.mHandshakeState ≠ .a ∧ q.sent.length ≤ GREETING_SIZE

def Kept (peers : Side → Peer) (s : State) : Prop := ∀ p, KeptAt peers p (s.adapter p)

theorem kept_initial (peers : Side → Peer) : Kept peers State.initial :=
  fun p =>
    have hnone : seen p .start = 0 := by cases p <;> rfl
    ⟨Or.inl rfl, hnone ▸ Nat.zero_le 1, EHandshakeState.noConfusion, rfl, fun h => (by cases h),
      fun _ => ⟨hnone, EHandshakeState.noConfusion, Nat.zero_le GREETING_SIZE⟩⟩

theorem newer_or (h : ownVersion peers .server ≠ ownVersion peers .client) (p : Side) :
    Newer peers p ∨ Newer peers p.other := by
  have hne : ownVersion peers p.other ≠ ownVersion peers p := by
    cases p with
    | server => exact h.symm
    | client => exact h
  unfold Newer
  rw [Side.other_other]
  exact UInt16.lt_or_lt_of_ne hne

/-- The newer end refuses the greeting of the other. -/
theorem processGreeting_newer {p : Side} (h : Newer peers p) (q : Adapter)
    (garbage : List UInt8) :
    (q.processGreeting peers p (greeting p.other (peers p.other)) garbage).mHandshakeState
      = .error := by
  have hfour : (greeting p.other (peers p.other) ++ garbage).take 4
      = (greeting p.other (peers p.other)).take 4 := by
    cases p <;> rfl
  have hmajor : (greeting p.other (peers p.other) ++ garbage).getD 4 0
      = (peers p.other).major := by
    cases p <;> rfl
  have hminor : (greeting p.other (peers p.other) ++ garbage).getD 5 0
      = (peers p.other).minor := by
    cases p <;> rfl
  have hrefused : checkCompatibility (version (peers p).major (peers p).minor)
      (version (peers p.other).major (peers p.other).minor) = .notCompatible :=
    (if_neg (UInt16.ne_of_lt h).symm).trans (if_neg (UInt16.lt_asymm h))
  unfold Adapter.processGreeting
  simp only [hfour, hmajor, hminor, hrefused, ne_eq, not_true, if_false]

section Kept

variable {s s' : State} {p : Side} {q : Adapter} {n : Nat}

/-- A step at one end. -/
theorem Kept.of_other (h : Kept peers s) (hother : s'.adapter p.other = s.adapter p.other)
    (hp : KeptAt peers p (s'.adapter p)) : Kept peers s' := by
  intro e
  rcases p.eq_or e with rfl | rfl
  · exact hp
  · rw [hother]
    exact h p.other

/-- A stage at which no more has been seen. -/
theorem KeptAt.stage (h : KeptAt peers p q) {stage : Stage} (hle : seen p stage ≤ 1)
    (hnewer : Newer peers p → seen p stage = 0) : KeptAt peers p { q with stage := stage } :=
  ⟨h.greets, hle, h.undone, h.handed, h.greeted, fun hn => ⟨hnewer hn, (h.newer hn).2⟩⟩

theorem KeptAt.failed (h : KeptAt peers p q) : KeptAt peers p { q with stage := .failed } :=
  have hnone : seen p .failed = 0 := by cases p <;> rfl
  h.stage (hnone ▸ Nat.zero_le 1) fun _ => hnone

/-- A message that starts with the greeting, or comes after it. -/
theorem KeptAt.message (h : KeptAt peers p q) {stage : Stage} {bytes : List UInt8}
    (hseen : seen p stage = seen p q.stage) (hgreets : greeting p (peers p) <+: q.sent ++ bytes)
    (hlen : Newer peers p → (q.sent ++ bytes).length ≤ GREETING_SIZE) :
    KeptAt peers p { q with stage := stage, sent := q.sent ++ bytes } :=
  ⟨Or.inr hgreets, hseen ▸ h.reached, h.undone, h.handed, h.greeted,
    fun hn => ⟨hseen.trans (h.newer hn).1, (h.newer hn).2.1, hlen hn⟩⟩

/-- The connection is closed. -/
theorem KeptAt.close (h : KeptAt peers p q) :
    KeptAt peers p { q with mIsBroken := true, mHandshakeState := .before } :=
  ⟨h.greets, h.reached, EHandshakeState.noConfusion, h.handed, fun ha => (by cases ha),
    fun hn => ⟨(h.newer hn).1, EHandshakeState.noConfusion, (h.newer hn).2.2⟩⟩

theorem Kept.makeHandshake (hi : Inv peers s) (h : Kept peers s)
    (hs : next peers s (.makeHandshake p) = some s') : Kept peers s' := by
  have hp := h p
  simp only [next] at hs
  split at hs
  · next hstage =>
    cases hs
    have hnone : seen p (Stage.next p .start) = 0 := by cases p <;> rfl
    refine h.of_other adapter_setAdapter_other ?_
    rw [adapter_setAdapter]
    split
    · exact hp.stage (hnone ▸ Nat.zero_le 1) fun _ => hnone
    · exact hp.failed
  · next hstage =>
    split at hs <;> cases hs
    · refine h.of_other adapter_setAdapter_other ?_
      rw [adapter_setAdapter]
      exact hp.failed
    · have hsent : (s.adapter p).sent = [] := by
        have hpast := (hi.adapter p).sent (by rw [hstage]; exact Stage.noConfusion)
        rw [(hi.adapter p).frames_nil (by rw [hstage]; exact Stage.noConfusion), hstage,
          (sends_sendGreeting p).1] at hpast
        exact hpast
      refine h.of_other adapter_send_other ?_
      rw [adapter_send]
      refine hp.message ?_ (by rw [hsent]; exact List.prefix_rfl) fun _ => ?_
      · rw [hstage]
        exact seen_next p Stage.noConfusion Stage.noConfusion
      · exact Nat.le_of_eq (by rw [hsent, List.nil_append, length_greeting])
  · next hstage =>
    split at hs <;> cases hs
    next hstate =>
    refine h.of_other adapter_setAdapter_other ?_
    rw [adapter_setAdapter]
    refine hp.stage ?_ fun hn => absurd hstate (hp.newer hn).2.1
    cases p <;> exact Nat.le_refl 1
  · next hstage =>
    split at hs <;> cases hs
    · refine h.of_other adapter_setAdapter_other ?_
      rw [adapter_setAdapter]
      exact hp.failed
    · -- the older end is the server: the client sends no address before it has seen one
      have hsent := (hi.adapter p).sent (by rw [hstage]; exact Stage.noConfusion)
      rw [(hi.adapter p).frames_nil (by rw [hstage]; exact Stage.noConfusion), hstage,
        (sends_sendAddress p).1, List.append_nil] at hsent
      refine h.of_other adapter_send_other ?_
      rw [adapter_send]
      refine hp.message ?_ (by rw [hsent]; exact List.prefix_append _ _) fun hn => ?_
      · rw [hstage]
        exact seen_next p Stage.noConfusion Stage.noConfusion
      · have hzero := (hp.newer hn).1
        rw [hstage] at hzero
        cases p <;> cases hzero
  · next hstage =>
    split at hs <;> cases hs
    next hstate => exact absurd hstate hp.undone
  · cases hs
  · cases hs

/-- **The greeting is all that comes.** -/
theorem Kept.consumeData (hi : Inv peers s) (h : Kept peers s)
    (hne : ownVersion peers .server ≠ ownVersion peers .client) {garbage : List UInt8}
    (hw : Whole s (.consumeData p n garbage))
    (hs : next peers s (.consumeData p n garbage) = some s') : Kept peers s' := by
  have hp := h p
  have hstream := hi.stream p.other
  rw [Side.other_other, hp.handed, List.nil_append] at hstream
  simp only [next] at hs
  split at hs
  · next hconn =>
    obtain ⟨halive, hpos, havailable⟩ := hconn
    split at hs
    · next hstate =>
      split at hs <;> cases hs
      obtain rfl : n = GREETING_SIZE := hw.1 hstate
      have htaken := (hi.adapter p).fresh hstate halive
      rw [htaken, List.nil_append] at hstream
      -- the other end has sent something, so that begins with its greeting
      have hreceived : (s.link p.other).take GREETING_SIZE = greeting p.other (peers p.other) := by
        rw [← hstream] at havailable ⊢
        rcases (h p.other).greets with hnil | hstart
        · rw [hnil] at havailable
          exact absurd havailable (by decide)
        · rw [← length_greeting p.other (peers p.other)]
          exact (List.prefix_iff_eq_take.mp hstart).symm
      rw [hreceived]
      obtain ⟨state, hstate', heq⟩ := processGreeting_eq (s.adapter p) peers p
        (greeting p.other (peers p.other)) garbage
      refine h.of_other adapter_receive_other ?_
      rw [adapter_receive]
      have hrefused : Newer peers p → state = .error := fun hn => by
        have herror := processGreeting_newer hn (s.adapter p) garbage
        rw [heq] at herror
        exact herror
      rw [heq]
      refine ⟨hp.greets, hp.reached, ?_, hp.handed, fun _ => ?_, fun hn =>
        ⟨(hp.newer hn).1, ?_, (hp.newer hn).2.2⟩⟩
      · rcases hstate' with rfl | rfl <;> exact EHandshakeState.noConfusion
      · show ((s.adapter p).taken ++ greeting p.other (peers p.other)).length = GREETING_SIZE
        rw [htaken, List.nil_append, length_greeting]
      · show state ≠ .a
        rw [hrefused hn]
        exact EHandshakeState.noConfusion
    · next hstate =>
      -- it is the older end, and the newer one has sent its greeting at most
      have hother : Newer peers p.other :=
        (newer_or hne p).resolve_left fun hn => (hp.newer hn).2.1 hstate
      have hlen := ((h p.other).newer hother).2.2
      rw [hstream, List.length_append, hp.greeted hstate] at hlen
      omega
    · next hstate => exact absurd hstate hp.undone
    · cases hs
  · cases hs

/-- **One step** of two ends of different versions. -/
theorem kept_step {ev : Event} (hne : ownVersion peers .server ≠ ownVersion peers .client)
    (hi : Inv peers s) (h : Kept peers s) (hw : Whole s ev) (hs : next peers s ev = some s') :
    Kept peers s' := by
  cases ev with
  | makeHandshake p => exact h.makeHandshake hi hs
  | consumeData p n garbage => exact h.consumeData hi hne hw hs
  | hangUp p =>
    simp only [next] at hs
    split at hs <;> cases hs
    refine h.of_other (p := p) adapter_setAdapter_other ?_
    rw [State.close, adapter_setAdapter]
    exact (h p).close
  | closeAllSockets p =>
    simp only [next] at hs
    split at hs <;> cases hs
    refine h.of_other (p := p) adapter_setAdapter_other ?_
    rw [State.close, adapter_setAdapter]
    exact (h p).close
  | sendFrames p bytes =>
    simp only [next] at hs
    split at hs <;> cases hs
    next hconn =>
    have hreached := (h p).reached
    rw [hconn.1] at hreached
    cases p <;> exact absurd hreached (by decide)

end Kept

/-- **Two versions never work together**: whichever end is the newer one, in no run whose
messages come whole does `makeHandshake` return at either end, and no byte gets to
`haveData`. -/
theorem versions_kept_apart {s : State} {evs : List Event}
    (hne : ownVersion peers .server ≠ ownVersion peers .client)
    (hwhole : Along (next peers) Whole State.initial evs)
    (hr : run (next peers) State.initial evs = some s) (p : Side) :
    (s.adapter p).stage ≠ .returned ∧ (s.adapter p).mHandshakeState ≠ .done
      ∧ (s.adapter p).handed = [] := by
  have hkept : Inv peers s ∧ Kept peers s :=
    run_invariant (P := Whole) (I := fun t => Inv peers t ∧ Kept peers t)
      (fun _ _ _ h hw hs => ⟨inv_step h.1 hs, kept_step hne h.1 h.2 hw hs⟩)
      ⟨inv_initial peers, kept_initial peers⟩ hwhole hr
  refine ⟨?_, (hkept.2 p).undone, (hkept.2 p).handed⟩
  intro hstage
  have hreached := (hkept.2 p).reached
  rw [hstage] at hreached
  cases p <;> exact absurd hreached (by decide)

/-- A server of version 1.2 and a client of version 1.1. -/
def otherPeers : Side → Peer
  | .server => ⟨1, 2, [0x31]⟩
  | .client => ⟨1, 1, [0x31]⟩

/-- The client goes on, and the server refuses. -/
def refusedRun : List Event :=
  [.makeHandshake .client, .makeHandshake .server, .makeHandshake .server,
    .consumeData .client 7 [], .makeHandshake .client, .makeHandshake .client,
    .consumeData .server 7 [], .closeAllSockets .server, .hangUp .client]

theorem versions_kept_apart_refused :
    ∃ s, run (next otherPeers) State.initial refusedRun = some s
      ∧ (s.adapter .client).stage ≠ .returned ∧ (s.adapter .client).mHandshakeState ≠ .done
      ∧ (s.adapter .client).handed = [] :=
  ⟨_, rfl, @versions_kept_apart otherPeers _ refusedRun (by decide) (by decide) rfl .client⟩

/-- With a greeting that is cut, the client takes the rest of it for the address and returns. -/
example : ((run (next otherPeers) State.initial [.makeHandshake .client, .makeHandshake .server,
    .makeHandshake .server, .consumeData .client 6 [], .makeHandshake .client,
    .consumeData .client 1 [], .makeHandshake .client, .makeHandshake .client,
    .makeHandshake .client]).map fun s => (s.adapter .client).stage) = some .returned := by
  decide

end IviLink.Hal.Handshake
