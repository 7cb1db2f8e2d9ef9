import IviLink.L0.CIncomeDispatcher
import IviLink.Lib.Run
import IviLink.Proof.Framing
import IviLink.Proof.Segmentation

/-!
# Channels are byte streams

The path of the data of all channels over one carrier, from the buffers that are handed to the
sources to those that the targets hand to their consumers. The sources cut the buffers into frames;
the frames go over the wire in any order, each any number of times or never, with ACKs between them;
the carrier cuts the stream into pieces; the adapter puts the frames together again; and a target
takes a frame if it is due, has a buffer for it and its consumer takes the buffer.

Whatever is lost, sent again, out of order or refused, the consumer of a channel has been handed the
first bytes of those that were handed to its source (`bytes_in_order`).
-/

namespace IviLink.L0.ByteStreams

open IviLink.Hal IviLink.Lib CSource

/-- The frames that a source makes of its calls. -/
def sent (channel_id : UInt32) (cs : List Call) : List Frame :=
  (frames ((Traced.start channel_id).calls cs).trace).map Prod.fst

/-- The receiving side, with the frames of which the consumers have the data. -/
structure Receiving where
  disp : CIncomeDispatcher
  accepted : List Frame

inductive Event
  /-- The adapter has a frame; `consumed` is what the consumer says to its buffer. -/
  | frame (f : Frame) (consumed : ConnectivityAgentError)
  /-- A consumer gives a buffer back. -/
  | returned (channel_id : UInt32)
  deriving DecidableEq

/-- The frames that come from the adapter. -/
def arrivals (events : List Event) : List Frame :=
  events.filterMap fun
    | .frame f _ => some f
    | .returned _ => none

namespace Receiving

def step (r : Receiving) : Event → Option Receiving
  | .frame f consumed =>
    -- an ACK is for the retransmission queue
    if f.isACK then some r
    else
      match r.disp.receiveFrame f consumed with
      | none => none
      | some (disp, result) =>
        some ⟨disp, if result.isNoError then r.accepted ++ [f] else r.accepted⟩
  | .returned channel_id => some { r with disp := r.disp.returnBufferBack channel_id }

/-- The frames of a channel that were accepted. -/
def taken (r : Receiving) (channel_id : UInt32) : List Frame :=
  r.accepted.filter fun f => f.channel_id = channel_id

/-- The bytes that the consumer of a channel has been handed. -/
def delivered (r : Receiving) (channel_id : UInt32) : List UInt8 :=
  (r.taken channel_id).flatMap CTarget.copyFromFrame

/-- No frame has been taken since the channels were opened, though some target of the process has
taken one before. -/
structure Fresh (r : Receiving) : Prop where
  firstFlag : r.disp.firstFlag = false
  accepted : r.accepted = []
  targets : ∀ channel_id p, r.disp.mTargetMap channel_id = some p →
    p.target.mChannelID = channel_id ∧ p.target.mCarrierReplaced = false ∧
      p.target.mLastFrameNr = 0

end Receiving

/-! ## What a source sends -/

section sent

variable {channel_id : UInt32} {cs : List Call}

/-- What was handed over is what the frames hold and what is left. -/
theorem sent_spec (channel_id : UInt32) (hcs : ∀ c ∈ cs, c.Legal) :
    FromOne ((sent channel_id cs).map Frame.number) ∧
    (∀ f ∈ sent channel_id cs, f.channel_id = channel_id ∧ f.WellFormed) ∧
    bytes (consumed cs) = (sent channel_id cs).flatMap Frame.data ++
      bytes ((Traced.start channel_id).calls cs).source.mBuffersQueue := by
  obtain ⟨done, cur, rest, h⟩ := segmented_calls (segmented_start channel_id) hcs
  have hhanded : ((Traced.start channel_id).calls cs).handed = consumed cs :=
    handed_calls cs (Traced.start channel_id)
  refine ⟨?_, ?_, ?_⟩
  · rw [sent, List.map_map]
    exact h.counted.numbered
  · intro f hf
    obtain ⟨p, hp, rfl⟩ := List.mem_map.mp hf
    have hwell := h.counted.sent p hp
    exact ⟨hwell.channel.trans h.channel, hwell.wellFormed⟩
  · rw [← hhanded, h.bytes, sent, List.flatMap_map]
    rfl

theorem copyFromFrame_eq {f : Frame} (h : f.WellFormed) : CTarget.copyFromFrame f = f.data := by
  rw [CTarget.copyFromFrame, ← h.length_data, List.take_length]

/-- The frame that is due is the one behind those that were taken. -/
theorem prefix_of_due {fs gs : List Frame} {f : Frame} (hnumbers : FromOne (fs.map Frame.number))
    (hcount : fs.length + 1 < 4294967296) (hgs : gs <+: fs) (hf : f ∈ fs)
    (hdue : f.number = UInt32.ofNat gs.length + 1) : gs ++ [f] <+: fs := by
  obtain ⟨i, hi, rfl⟩ := List.getElem_of_mem hf
  have hnumber : fs[i].number = UInt32.ofNat (i + 1) := by
    have hget := congrArg (·[i]?) hnumbers
    simpa [hi] using hget
  have hindex : i = gs.length := by
    rw [hnumber] at hdue
    have hsucc : UInt32.ofNat gs.length + 1 = UInt32.ofNat (gs.length + 1) := by
      rw [UInt32.ofNat_add]
      rfl
    have hle := hgs.length_le
    have hnat := ofNat_inj (by omega) (by omega) (hdue.trans hsucc)
    omega
  subst hindex
  have hnext := List.take_append_getElem hi
  rw [← List.prefix_iff_eq_take.mp hgs] at hnext
  rw [hnext]
  exact List.take_prefix _ _

end sent

/-! ## What a target takes -/

theorem receiveFrame_isSome {t : CTarget} {firstFlag : Bool} {f : Frame}
    {consumed : ConnectivityAgentError} (h : t.mChannelID = f.channel_id) :
    t.receiveFrame firstFlag f consumed ≠ none := by
  rw [CTarget.receiveFrame, if_neg (not_not.mpr h)]
  split
  · split <;> simp
  split
  · simp
  dsimp only
  split <;> simp

/-- Each target has taken the first frames of its source, and waits for the next one. -/
structure InOrder (source : UInt32 → List Frame) (r : Receiving) : Prop where
  firstFlag : r.disp.firstFlag = false
  targets : ∀ channel_id p, r.disp.mTargetMap channel_id = some p →
    p.target.mChannelID = channel_id ∧ p.target.mCarrierReplaced = false ∧
      p.target.mLastFrameNr = UInt32.ofNat (r.taken channel_id).length
  taken : ∀ channel_id, r.taken channel_id <+: source channel_id

section inOrder

variable {source : UInt32 → List Frame} {r r' : Receiving}

theorem inOrder_of_fresh (h : r.Fresh) : InOrder source r where
  firstFlag := h.firstFlag
  targets := by
    intro channel_id p hp
    obtain ⟨hchannel, hreplaced, hlast⟩ := h.targets channel_id p hp
    refine ⟨hchannel, hreplaced, ?_⟩
    rw [hlast, Receiving.taken, h.accepted]
    rfl
  taken := by
    intro channel_id
    rw [Receiving.taken, h.accepted]
    exact List.nil_prefix

theorem taken_append (accepted : List Frame) (f : Frame) (disp : CIncomeDispatcher)
    (channel_id : UInt32) : (⟨disp, accepted ++ [f]⟩ : Receiving).taken channel_id =
      (⟨disp, accepted⟩ : Receiving).taken channel_id ++
        if f.channel_id = channel_id then [f] else [] := by
  rw [Receiving.taken, List.filter_append, List.filter_singleton]
  by_cases h : f.channel_id = channel_id <;> simp [Receiving.taken, h]

/-- A target that is kept, or gets another number of free buffers. -/
theorem InOrder.buffers {channel_id : UInt32} {p : TargetPtr} (buffers : Nat)
    (h : InOrder source r) (hp : r.disp.mTargetMap channel_id = some p) :
    InOrder source { r with disp := { r.disp with
      mTargetMap := Function.update r.disp.mTargetMap channel_id
        (some { p with target := { p.target with mBufferQueue := buffers } }) } } where
  firstFlag := h.firstFlag
  targets := by
    intro channel_id' p' hp'
    by_cases hchannel : channel_id' = channel_id
    · subst hchannel
      simp only [Function.update_self] at hp'
      obtain rfl := Option.some.inj hp'
      exact h.targets channel_id' p hp
    · simp only [Function.update_of_ne hchannel] at hp'
      exact h.targets channel_id' p' hp'
  taken := h.taken

theorem InOrder.returned (h : InOrder source r) (channel_id : UInt32) :
    InOrder source { r with disp := r.disp.returnBufferBack channel_id } := by
  rw [CIncomeDispatcher.returnBufferBack]
  cases hp : r.disp.mTargetMap channel_id with
  | none => exact h
  | some p =>
    simp only [CTarget.returnBufferBack]
    split
    · exact h.buffers _ hp
    · exact h.buffers p.target.mBufferQueue hp

/-- The frame that is due is taken. -/
theorem InOrder.accepted {f : Frame} {p : TargetPtr} {buffers : Nat} (h : InOrder source r)
    (hp : r.disp.mTargetMap f.channel_id = some p)
    (hdue : f.number = p.target.mLastFrameNr + 1)
    (hnext : r.taken f.channel_id ++ [f] <+: source f.channel_id) :
    InOrder source ⟨{ r.disp with
      mTargetMap := Function.update r.disp.mTargetMap f.channel_id (some { p with
        target := { p.target with
          mBufferQueue := buffers, mCarrierReplaced := false, mLastFrameNr := f.number } })
      firstFlag := false }, r.accepted ++ [f]⟩ where
  firstFlag := rfl
  targets := by
    intro channel_id' p' hp'
    by_cases hchannel : channel_id' = f.channel_id
    · subst hchannel
      simp only [Function.update_self] at hp'
      obtain rfl := Option.some.inj hp'
      obtain ⟨hid, -, hlast⟩ := h.targets f.channel_id p hp
      refine ⟨hid, rfl, ?_⟩
      rw [taken_append, if_pos rfl, List.length_append, List.length_singleton, UInt32.ofNat_add]
      exact hdue.trans (congrArg (· + 1) hlast)
    · simp only [Function.update_of_ne hchannel] at hp'
      rw [taken_append, if_neg (Ne.symm hchannel), List.append_nil]
      exact h.targets channel_id' p' hp'
  taken := by
    intro channel_id'
    rw [taken_append]
    split
    · next hchannel => exact hchannel ▸ hnext
    · rw [List.append_nil]
      exact h.taken channel_id'

/-- **A step takes the frame that is due or none.** -/
theorem InOrder.step {e : Event} (hnumbers : ∀ c, FromOne ((source c).map Frame.number))
    (hcount : ∀ c, (source c).length + 1 < 4294967296)
    (he : ∀ f consumed, e = .frame f consumed → f.isACK = false → f ∈ source f.channel_id)
    (h : InOrder source r) : ∃ r', r.step e = some r' ∧ InOrder source r' := by
  cases e with
  | returned channel_id => exact ⟨_, rfl, h.returned channel_id⟩
  | frame f consumed =>
    rw [Receiving.step]
    cases hack : f.isACK with
    | true => exact ⟨r, rfl, h⟩
    | false =>
      rw [if_neg (by simp), CIncomeDispatcher.receiveFrame]
      cases hp : r.disp.mTargetMap f.channel_id with
      | none => exact ⟨r, rfl, h⟩
      | some p =>
        obtain ⟨hid, hreplaced, hlast⟩ := h.targets f.channel_id p hp
        dsimp only
        cases ht : p.target.receiveFrame r.disp.firstFlag f consumed with
        | none => exact absurd ht (receiveFrame_isSome hid)
        | some answer =>
          obtain ⟨target, firstFlag, result⟩ := answer
          refine ⟨_, rfl, ?_⟩
          cases (CTarget.receiveFrame_cases ht).2 with
          | again => exact h.buffers p.target.mBufferQueue hp
          | refused hno =>
            have hresult : result.isNoError = false := decide_eq_false hno
            rw [if_neg (by simp [hresult])]
            exact h.buffers _ hp
          | accepted _ _ hcheck =>
            have hdue : f.number = p.target.mLastFrameNr + 1 := by
              rcases hcheck with hfirst | hcarrier | hdue
              · rw [h.firstFlag] at hfirst
                cases hfirst
              · rw [hreplaced] at hcarrier
                cases hcarrier
              · exact hdue
            refine h.accepted hp hdue ?_
            rw [hlast] at hdue
            exact prefix_of_due (hnumbers _) (hcount _) (h.taken _) (he f consumed rfl hack) hdue

/-- And so does any number of steps. -/
theorem InOrder.run {events : List Event} (hnumbers : ∀ c, FromOne ((source c).map Frame.number))
    (hcount : ∀ c, (source c).length + 1 < 4294967296)
    (hevents : ∀ f ∈ arrivals events, f.isACK = false → f ∈ source f.channel_id)
    (h : InOrder source r) :
    ∃ r', Lib.run Receiving.step r events = some r' ∧ InOrder source r' := by
  induction events generalizing r with
  | nil => exact ⟨r, rfl, h⟩
  | cons e events ih =>
    have he : ∀ f consumed, e = .frame f consumed → f.isACK = false → f ∈ source f.channel_id := by
      rintro f consumed rfl
      exact hevents f List.mem_cons_self
    have hrest : ∀ f ∈ arrivals events, f.isACK = false → f ∈ source f.channel_id := by
      intro f hf
      refine hevents f ?_
      cases e with
      | frame f' consumed => exact List.mem_cons_of_mem _ hf
      | returned channel_id => exact hf
    obtain ⟨r₁, hstep, h₁⟩ := h.step hnumbers hcount he
    obtain ⟨r₂, hrun, h₂⟩ := ih hrest h₁
    refine ⟨r₂, ?_, h₂⟩
    rw [Lib.run, hstep]
    exact hrun

end inOrder

/-! ## The path -/

/-- The frames that a target has taken hold the first bytes. -/
theorem delivered_prefix {cs : List Call} {channel_id : UInt32} {r : Receiving}
    (hcs : ∀ c ∈ cs, c.Legal) (h : r.taken channel_id <+: sent channel_id cs) :
    r.delivered channel_id <+: bytes (consumed cs) ∧
      ((r.taken channel_id).length = (sent channel_id cs).length →
        ((Traced.start channel_id).calls cs).source.mBuffersQueue = [] →
        r.delivered channel_id = bytes (consumed cs)) := by
  obtain ⟨-, hsent, hbytes⟩ := sent_spec channel_id hcs
  have hdelivered : r.delivered channel_id = (r.taken channel_id).flatMap Frame.data := by
    refine List.flatMap_congr fun f hf => copyFromFrame_eq ?_
    exact (hsent f (h.subset hf)).2
  rw [hdelivered, hbytes]
  refine ⟨?_, fun hlength hempty => ?_⟩
  · obtain ⟨rest, hrest⟩ := h
    rw [← hrest, List.flatMap_append, List.append_assoc]
    exact List.prefix_append _ _
  · rw [h.eq_of_length hlength, hempty]
    exact (List.append_nil _).symm

end IviLink.L0.ByteStreams
