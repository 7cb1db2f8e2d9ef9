import IviLink.Hal.CCarrierAdapter

/-!
# Framing

Whatever pieces a carrier cuts its stream into, the adapter hands on the frames
that were sent.

At the start of a frame the adapter holds the bytes of it that have arrived, the
header still in network order. From the tenth byte on the header in memory is in
host order instead. `hostForm` is that change on the bytes that arrived, so what
the memory holds of an unfinished frame is always `hostForm` of them, and the
loop of `haveData` is followed frame by frame (`deliver_spec`): each complete
frame comes out with the header it was sent with, and the memory is left with
`hostForm` of what remains.
-/

namespace IviLink.Hal

open IviLink.Lib

/-! ## Frames on the wire -/

namespace Frame.WellFormed

variable {f : Frame}

theorem frameToArray_eq (h : f.WellFormed) :
    frameToArray f = f.mFrameHeader.hton.bytes ++ f.data := by
  rw [frameToArray, ← h.length_data, List.take_length]

theorem length_frameToArray (h : f.WellFormed) :
    (frameToArray f).length = f.getSize + HEADER_SIZE := by
  rw [h.frameToArray_eq, List.length_append, FrameHeader.length_bytes, h.length_data, Nat.add_comm]

/-- All of the array is passed to the carrier. -/
theorem sendFrame_eq (h : f.WellFormed) : sendFrame f = frameToArray f := by
  rw [sendFrame, ← h.length_frameToArray, List.take_length]

end Frame.WellFormed

/-- The bytes of frames sent one after the other. -/
def wire (fs : List Frame) : List UInt8 := fs.flatMap sendFrame

theorem wire_cons {f : Frame} (h : f.WellFormed) (fs : List Frame) :
    wire (f :: fs) = frameToArray f ++ wire fs := by
  rw [wire, List.flatMap_cons, h.sendFrame_eq]
  rfl

theorem wire_append (fs gs : List Frame) : wire (fs ++ gs) = wire fs ++ wire gs :=
  List.flatMap_append

/-! ## What the memory holds -/

/-- The bytes of a frame as the memory holds them: with the header in host order once all of it
has arrived. -/
def hostForm (l : List UInt8) : List UInt8 :=
  if l.length < HEADER_SIZE then l
  else (FrameHeader.ofBytes l).ntoh.bytes ++ l.drop HEADER_SIZE

theorem hostForm_short {l : List UInt8} (h : l.length < HEADER_SIZE) : hostForm l = l := if_pos h

theorem hostForm_long {l : List UInt8} (h : ¬ l.length < HEADER_SIZE) :
    hostForm l = (FrameHeader.ofBytes l).ntoh.bytes ++ l.drop HEADER_SIZE := if_neg h

@[simp] theorem length_hostForm (l : List UInt8) : (hostForm l).length = l.length := by
  rw [hostForm]
  split
  · rfl
  · rw [List.length_append, FrameHeader.length_bytes, List.length_drop]
    omega

theorem ofBytes_append {l : List UInt8} (h : ¬ l.length < HEADER_SIZE) (c : List UInt8) :
    FrameHeader.ofBytes (l ++ c) = FrameHeader.ofBytes l := by
  rw [← FrameHeader.ofBytes_take, List.take_append_of_le_length (Nat.le_of_not_lt h),
    FrameHeader.ofBytes_take]

/-- Bytes behind a converted header stay as they arrive. -/
theorem hostForm_append {l : List UInt8} (h : ¬ l.length < HEADER_SIZE) (c : List UInt8) :
    hostForm (l ++ c) = hostForm l ++ c := by
  have hlc : ¬ (l ++ c).length < HEADER_SIZE := by
    rw [List.length_append]; omega
  rw [hostForm_long hlc, hostForm_long h, ofBytes_append h,
    List.drop_append_of_le_length (Nat.le_of_not_lt h), List.append_assoc]

namespace CCarrierAdapter

theorem length_filled (a : CCarrierAdapter) : a.filled.length = a.mFilledSize := by
  rw [filled, List.length_take, a.length_mFrame, Nat.min_eq_left a.filled_le]

/-- The header lies in the filled part once that is long enough. -/
theorem header_eq {a : CCarrierAdapter} (h : HEADER_SIZE ≤ a.mFilledSize) :
    a.header = FrameHeader.ofBytes a.filled := by
  rw [header, ← FrameHeader.ofBytes_take, ← FrameHeader.ofBytes_take a.filled, filled,
    List.take_take, Nat.min_eq_left h]

theorem store_filled (a : CCarrierAdapter) (l : List UInt8)
    (h : a.mFilledSize + l.length ≤ FRAME_SIZE) : (a.store l h).filled = a.filled ++ l :=
  take_writeAt (by rw [a.length_mFrame]; exact a.filled_le)

theorem arrayToFrame_filled {a : CCarrierAdapter} (h : HEADER_SIZE ≤ a.mFilledSize) :
    a.arrayToFrame.filled = a.header.ntoh.bytes ++ a.filled.drop HEADER_SIZE := by
  show (writeAt a.mFrame 0 a.header.ntoh.bytes).take a.mFilledSize = _
  have hlen : a.header.ntoh.bytes.length ≤ a.mFilledSize := by
    rw [FrameHeader.length_bytes]; exact h
  rw [writeAt, List.take_zero, List.nil_append, Nat.zero_add, List.take_append,
    List.take_of_length_le hlen, FrameHeader.length_bytes, filled, List.drop_take]

theorem shift_filled (a : CCarrierAdapter) : a.shift.filled = a.filled.drop a.fullSize := by
  have hlen : (a.filled.drop a.fullSize).length = a.mFilledSize - a.fullSize := by
    rw [List.length_drop, length_filled]
  show (writeAt a.mFrame 0 (a.filled.drop a.fullSize)).take (a.mFilledSize - a.fullSize) = _
  rw [← hlen]
  simpa using take_writeAt (l := a.filled.drop a.fullSize) (Nat.zero_le a.mFrame.length)

/-- The conversion leaves the host form of all that has arrived, whichever of it is new. -/
theorem convert_filled {a : CCarrierAdapter} {l c : List UInt8}
    (h : a.filled = hostForm l ++ c) (hlen : HEADER_SIZE ≤ a.mFilledSize) :
    (a.convert l.length).filled = hostForm (l ++ c) := by
  have hlc : (l ++ c).length = a.mFilledSize := by
    rw [← length_filled, h, List.length_append, List.length_append, length_hostForm]
  rw [convert]
  split
  · rename_i hshort
    rw [hostForm_short hshort] at h
    rw [arrayToFrame_filled hlen, header_eq hlen, h, hostForm_long (by omega)]
  · rename_i hlong
    rw [h, hostForm_append hlong]

/-! ## Cutting frames off -/

/-- `tail` is part of the first frame still to come, and not all of it. -/
def Unfinished (tail : List UInt8) : List Frame → Prop
  | [] => tail = []
  | f :: _ => tail.length < (frameToArray f).length

/-- The header of the frame whose bytes have arrived. -/
theorem header_of_hostForm {a : CCarrierAdapter} {x r w : List UInt8} {f : Frame}
    (hf : f.WellFormed) (ha : a.filled = hostForm x) (hx : x ++ r = frameToArray f ++ w)
    (hlen : HEADER_SIZE ≤ a.mFilledSize) : a.header = f.mFrameHeader := by
  have hlong : ¬ x.length < HEADER_SIZE := by
    rw [← length_hostForm, ← ha, length_filled]; omega
  have hwire : FrameHeader.ofBytes x = f.mFrameHeader.hton := by
    rw [← ofBytes_append hlong r, hx, hf.frameToArray_eq, List.append_assoc,
      FrameHeader.ofBytes_bytes_append]
  rw [header_eq hlen, ha, hostForm_long hlong, FrameHeader.ofBytes_bytes_append, hwire,
    FrameHeader.ntoh_hton]

/-- A complete frame is at the front of the memory as it was sent. -/
theorem frame_of_hostForm {a : CCarrierAdapter} {x : List UInt8} {f : Frame} (hf : f.WellFormed)
    (ha : a.filled = hostForm (frameToArray f ++ x)) : a.frame = f := by
  have hsize : a.mFilledSize = f.getSize + HEADER_SIZE + x.length := by
    rw [← length_filled, ha, length_hostForm, List.length_append, hf.length_frameToArray]
  have hlong : ¬ (frameToArray f ++ x).length < HEADER_SIZE := by
    rw [List.length_append, hf.length_frameToArray]; omega
  have hheader : a.header = f.mFrameHeader :=
    header_of_hostForm (r := []) hf ha (List.append_nil _) (by omega)
  have hdata : (a.mFrame.drop HEADER_SIZE).take f.getSize = f.data := by
    have hdrop : a.filled.drop HEADER_SIZE = f.data ++ x := by
      rw [ha, hostForm_long hlong, List.drop_left' (FrameHeader.length_bytes _),
        hf.frameToArray_eq, List.append_assoc, List.drop_left' (FrameHeader.length_bytes _)]
    rw [filled, List.drop_take] at hdrop
    have htake := congrArg (List.take f.getSize) hdrop
    rwa [List.take_take, Nat.min_eq_left (by omega), List.take_left' hf.length_data] at htake
  rw [frame, hheader]
  show (⟨f.mFrameHeader, (a.mFrame.drop HEADER_SIZE).take f.getSize⟩ : Frame) = f
  rw [hdata]

/-- **What the loop hands on and what it leaves.** With `l` of the current frame seen before
and `c` new, the frames that are complete in `l ++ c` come out and the memory keeps the rest. -/
theorem deliver_spec {rest : List UInt8} :
    ∀ {fs : List Frame} {a : CCarrierAdapter} {l c : List UInt8}, (∀ f ∈ fs, f.WellFormed) →
      a.filled = hostForm l ++ c → (l ++ c) ++ rest = wire fs →
      ∃ a' done todo tail, a.deliver l.length = (a', done) ∧ fs = done ++ todo
        ∧ l ++ c = wire done ++ tail ∧ a'.filled = hostForm tail ∧ Unfinished tail todo
  | [], a, l, c, _, ha, hwire => by
      obtain ⟨hlc, -⟩ := List.append_eq_nil_iff.mp hwire
      obtain ⟨rfl, rfl⟩ := List.append_eq_nil_iff.mp hlc
      have hzero : a.mFilledSize = 0 := by rw [← length_filled, ha]; rfl
      have hshort : ¬ HEADER_SIZE ≤ a.mFilledSize := by rw [hzero]; decide
      exact ⟨a, [], [], [], by rw [deliver, if_neg hshort], rfl, rfl, ha, rfl⟩
  | f :: fs, a, l, c, hwf, ha, hwire => by
      have hf := hwf f List.mem_cons_self
      have hfs : ∀ g ∈ fs, g.WellFormed := fun g hg => hwf g (List.mem_cons_of_mem _ hg)
      have hsize : a.mFilledSize = (l ++ c).length := by
        rw [← length_filled, ha, List.length_append, List.length_append, length_hostForm]
      rw [wire_cons hf] at hwire
      by_cases hheader : HEADER_SIZE ≤ a.mFilledSize
      · have hconv := convert_filled ha hheader
        have hlen : HEADER_SIZE ≤ (a.convert l.length).mFilledSize := by
          rw [convert_mFilledSize]; exact hheader
        have hfull : (a.convert l.length).fullSize = (frameToArray f).length := by
          rw [fullSize, header_of_hostForm hf hconv hwire hlen, hf.length_frameToArray]
          rfl
        by_cases hdone : (frameToArray f).length ≤ (l ++ c).length
        · -- the frame is complete: go on behind it
          obtain ⟨x, hx⟩ : frameToArray f <+: l ++ c :=
            List.prefix_of_prefix_length_le ⟨wire fs, rfl⟩ (hwire ▸ List.prefix_append _ _) hdone
          have hx' : x ++ rest = wire fs := by
            rw [← hx, List.append_assoc] at hwire
            exact List.append_cancel_left hwire
          rw [← hx] at hconv
          have hshift : (a.convert l.length).shift.filled = hostForm [] ++ x := by
            have hlong : ¬ (frameToArray f).length < HEADER_SIZE := by
              rw [hf.length_frameToArray]; omega
            rw [shift_filled, hfull, hconv, hostForm_append hlong,
              List.drop_left' (length_hostForm _)]
            rfl
          obtain ⟨a', done, todo, tail, hdel, hfs', htail, ha', hun⟩ :=
            deliver_spec (l := []) hfs hshift hx'
          refine ⟨a', f :: done, todo, tail, ?_, by rw [hfs']; rfl, ?_, ha', hun⟩
          · rw [deliver, if_pos hheader, if_pos (by rw [hfull, hsize]; exact hdone),
              frame_of_hostForm hf hconv]
            rw [List.length_nil] at hdel
            rw [hdel]
          · rw [← hx, wire_cons hf, List.append_assoc]
            rw [List.nil_append] at htail
            rw [htail]
        · refine ⟨a.convert l.length, [], f :: fs, l ++ c, ?_, rfl, rfl, hconv,
            Nat.lt_of_not_le hdone⟩
          rw [deliver, if_pos hheader, if_neg (by rw [hfull, hsize]; exact hdone)]
      · have hshort : (l ++ c).length < HEADER_SIZE := by omega
        have hl : l.length < HEADER_SIZE := by
          rw [List.length_append] at hshort; omega
        refine ⟨a, [], f :: fs, l ++ c, by rw [deliver, if_neg hheader], rfl, rfl, ?_, ?_⟩
        · rw [ha, hostForm_short hl, hostForm_short hshort]
        · show (l ++ c).length < (frameToArray f).length
          rw [hf.length_frameToArray]
          omega

/-! ## Any number of pieces -/

/-- The adapter holds `tail`, an unfinished part of what is still to come. -/
structure Holds (tail : List UInt8) (todo : List Frame) (a : CCarrierAdapter) : Prop where
  filled : a.filled = hostForm tail
  unfinished : Unfinished tail todo

theorem holds_init (fs : List Frame) (hfs : ∀ f ∈ fs, f.WellFormed) : Holds [] fs init where
  filled := rfl
  unfinished := by
    cases fs with
    | nil => rfl
    | cons f fs =>
      show 0 < (frameToArray f).length
      rw [(hfs f List.mem_cons_self).length_frameToArray]
      exact Nat.succ_pos _

/-- One call of `haveData` on the next piece of a stream of frames. -/
theorem Holds.haveData {tail c rest : List UInt8} {fs : List Frame} {a : CCarrierAdapter}
    (h : Holds tail fs a) (hfs : ∀ f ∈ fs, f.WellFormed) (hc : c.length ≤ a.free)
    (hwire : (tail ++ c) ++ rest = wire fs) :
    ∃ a' done todo tail', a.haveData (.ok c) = some (a', done) ∧ fs = done ++ todo
      ∧ tail ++ c = wire done ++ tail' ∧ Holds tail' todo a' := by
  have hfit : a.mFilledSize + c.length ≤ FRAME_SIZE := by
    rw [free] at hc
    have := a.filled_le
    omega
  have hstore : (a.store c hfit).filled = hostForm tail ++ c := by rw [store_filled, h.filled]
  have hlen : a.mFilledSize = tail.length := by
    rw [← length_filled, h.filled, length_hostForm]
  obtain ⟨a', done, todo, tail', hdel, hfs', htail, ha', hun⟩ := deliver_spec hfs hstore hwire
  refine ⟨a', done, todo, tail', ?_, hfs', htail, ha', hun⟩
  rw [CCarrierAdapter.haveData, dif_pos hfit, hlen, hdel]

/-- The same for all pieces of a stream. -/
theorem Holds.haveDataAll {rest : List UInt8} :
    ∀ {cs : List (List UInt8)} {tail : List UInt8} {fs : List Frame} {a : CCarrierAdapter},
      Holds tail fs a → (∀ f ∈ fs, f.WellFormed) → Offered a cs →
      (tail ++ cs.flatten) ++ rest = wire fs →
      ∃ a' done todo tail', a.haveDataAll cs = some (a', done) ∧ fs = done ++ todo
        ∧ tail ++ cs.flatten = wire done ++ tail' ∧ Holds tail' todo a'
  | [], tail, fs, a, h, _, _, _ => ⟨a, [], fs, tail, rfl, rfl, by simp [wire], h⟩
  | c :: cs, tail, fs, a, h, hfs, ⟨hc, hnext⟩, hwire => by
      have hwire₁ : (tail ++ c) ++ (cs.flatten ++ rest) = wire fs := by
        rw [← hwire, List.flatten_cons]
        simp only [List.append_assoc]
      obtain ⟨a₁, done₁, todo₁, tail₁, hstep, rfl, htail₁, h₁⟩ := h.haveData hfs hc hwire₁
      have hfs₁ : ∀ f ∈ todo₁, f.WellFormed := fun f hf => hfs f (List.mem_append_right _ hf)
      have hrest : (tail₁ ++ cs.flatten) ++ rest = wire todo₁ := by
        rw [htail₁, wire_append, List.append_assoc] at hwire₁
        rw [List.append_assoc]
        exact List.append_cancel_left hwire₁
      obtain ⟨a₂, done₂, todo₂, tail₂, hall, rfl, htail₂, h₂⟩ :=
        Holds.haveDataAll h₁ hfs₁ (hnext a₁ done₁ hstep) hrest
      refine ⟨a₂, done₁ ++ done₂, todo₂, tail₂, ?_, by rw [List.append_assoc], ?_, h₂⟩
      · simp only [CCarrierAdapter.haveDataAll, hstep, hall]
      · rw [List.flatten_cons, ← List.append_assoc, htail₁, List.append_assoc, htail₂, wire_append,
          List.append_assoc]

/-- **The frames that were sent are the frames that are handed on**, however the carrier cuts
them. After any part of the stream the complete frames are out, with the headers and data they
were sent with, nothing was written behind the buffer, and the buffer holds the unfinished one
unharmed; after all of it nothing is left. -/
theorem haveDataAll_wire {fs : List Frame} {cs : List (List UInt8)} {rest : List UInt8}
    (hfs : ∀ f ∈ fs, f.WellFormed) (hcs : Offered init cs) (hwire : cs.flatten ++ rest = wire fs) :
    ∃ a done todo tail, init.haveDataAll cs = some (a, done) ∧ fs = done ++ todo
      ∧ cs.flatten = wire done ++ tail ∧ Holds tail todo a
      ∧ (rest = [] → done = fs ∧ a.mFilledSize = 0) := by
  obtain ⟨a, done, todo, tail, hall, rfl, htail, hholds⟩ :=
    (holds_init fs hfs).haveDataAll hfs hcs (by rw [List.nil_append]; exact hwire)
  rw [List.nil_append] at htail
  refine ⟨a, done, todo, tail, hall, rfl, htail, hholds, fun hrest => ?_⟩
  rw [hrest, List.append_nil, htail, wire_append] at hwire
  have htodo := List.append_cancel_left hwire
  cases todo with
  | nil =>
    refine ⟨(List.append_nil _).symm, ?_⟩
    rw [← length_filled, hholds.filled, length_hostForm, htodo]
    rfl
  | cons f todo =>
    have hf := hfs f (List.mem_append_right _ List.mem_cons_self)
    have hlt : tail.length < (frameToArray f).length := hholds.unfinished
    rw [htodo, wire_cons hf, List.length_append] at hlt
    omega

/-! ### Streams that fit the buffer -/

theorem deliver_mFilledSize_le (savedSize : Nat) (a : CCarrierAdapter) :
    (a.deliver savedSize).1.mFilledSize ≤ a.mFilledSize := by
  fun_induction deliver savedSize a with
  | case1 savedSize a _ _ a' fs heq ih =>
    rw [heq, shift_mFilledSize, convert_mFilledSize] at ih
    exact ih.trans (Nat.sub_le _ _)
  | case2 savedSize a _ _ => rw [convert_mFilledSize]
  | case3 => exact Nat.le_refl _

/-- Pieces that fit the buffer together fit it one by one. -/
theorem offered_of_length : ∀ {cs : List (List UInt8)} {a : CCarrierAdapter},
    a.mFilledSize + cs.flatten.length ≤ FRAME_SIZE → Offered a cs
  | [], _, _ => trivial
  | c :: cs, a, h => by
      rw [List.flatten_cons, List.length_append] at h
      refine ⟨by rw [free]; omega, fun a' fs hstep => offered_of_length ?_⟩
      have hfit : a.mFilledSize + c.length ≤ FRAME_SIZE := by omega
      rw [haveData, dif_pos hfit] at hstep
      have hle := deliver_mFilledSize_le a.mFilledSize (a.store c hfit)
      have hstore : (a.store c hfit).mFilledSize = a.mFilledSize + c.length := rfl
      rw [Option.some.inj hstep, hstore] at hle
      have hle' : a'.mFilledSize ≤ a.mFilledSize + c.length := hle
      omega

/-- A frame with three bytes of data and an ACK, cut inside the first header and inside the
data. -/
theorem haveDataAll_wire_example :
    let f : Frame := ⟨⟨3, 5, 1⟩, [10, 20, 30]⟩
    let cs := [[0, 3, 0, 0], [0, 5, 0, 0, 0, 1, 10], [20, 30, 0x80, 0, 0, 0, 0, 5, 0, 0, 0, 1]]
    ∃ a done todo tail, init.haveDataAll cs = some (a, done) ∧ [f, ackFrame f] = done ++ todo
      ∧ cs.flatten = wire done ++ tail ∧ Holds tail todo a
      ∧ (([] : List UInt8) = [] → done = [f, ackFrame f] ∧ a.mFilledSize = 0) :=
  haveDataAll_wire (by decide) (offered_of_length (by decide)) (by decide)

end CCarrierAdapter

end IviLink.Hal
