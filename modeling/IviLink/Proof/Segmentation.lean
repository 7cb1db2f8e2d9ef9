import IviLink.L0.CSource

/-!
# Segmentation

What a source makes of the buffers handed to it, for any order of `consumeBuffer`
and `OnDispatch`. The run keeps a trace of everything that leaves the source, in
order: frames, and buffers going back to the producer.

The invariant (`Segmented`) says what the trace looks like. It is the buffers
handed over, one after the other, each as the frames its bytes went into followed
at once by its return, and then the frames of the buffer now at the front of the
queue, whose data is what they left of it.
-/

namespace IviLink.L0

open IviLink.Hal IviLink.Lib

namespace CSource

/-- What leaves a source: a frame, with the quote it was filled under, or a buffer. -/
inductive Output
  | frame (f : Frame) (quote : Nat)
  | returned (address : Nat)
  deriving DecidableEq, Repr

/-- One call on a source. -/
inductive Call
  | consume (b : Buffer)
  | dispatch (quote : Nat)
  deriving DecidableEq, Repr

/-- The calls the transport makes: filled buffers, and quotes a frame has room for. -/
def Call.Legal : Call → Prop
  | consume b => b.Filled
  | dispatch quote => 0 < quote ∧ quote ≤ MAX_SIZE

instance : DecidablePred Call.Legal
  | .consume b => inferInstanceAs (Decidable b.Filled)
  | .dispatch _ => inferInstanceAs (Decidable (_ ∧ _))

/-- A source with the record of what it was given and what it gave. -/
structure Traced where
  source : CSource
  handed : List Buffer
  trace : List Output

namespace Traced

/-- A channel just opened. -/
def start (channel_id : UInt32) : Traced := ⟨.new channel_id, [], []⟩

def call (t : Traced) : Call → Traced
  | .consume b => ⟨(t.source.consumeBuffer (some b)).1, t.handed ++ [b], t.trace⟩
  | .dispatch quote =>
    match t.source.OnDispatch quote with
    | none => t
    | some (s, f, released) =>
      ⟨s, t.handed, t.trace ++ .frame f quote :: released.map fun b => .returned b.address⟩

/-- A sequence of calls. -/
def calls (t : Traced) (cs : List Call) : Traced := cs.foldl call t

end Traced

/-! ## Reading a trace -/

/-- A frame with its quote, as it stands in a trace. -/
abbrev Sent := Frame × Nat

def Sent.output (p : Sent) : Output := .frame p.1 p.2

/-- The data of frames, put together. -/
def payload (fs : List Sent) : List UInt8 := fs.flatMap fun p => p.1.data

@[simp] theorem payload_nil : payload [] = [] := rfl

@[simp] theorem payload_append (fs gs : List Sent) :
    payload (fs ++ gs) = payload fs ++ payload gs := List.flatMap_append

theorem payload_singleton (p : Sent) : payload [p] = p.1.data := List.flatMap_singleton ..

/-- The frames of a trace. -/
def frames (out : List Output) : List Sent :=
  out.filterMap fun
    | .frame f quote => some (f, quote)
    | .returned _ => none

@[simp] theorem frames_append (out out' : List Output) :
    frames (out ++ out') = frames out ++ frames out' := List.filterMap_append

@[simp] theorem frames_output (fs : List Sent) : frames (fs.map Sent.output) = fs := by
  induction fs with
  | nil => rfl
  | cons p fs ih =>
    rw [List.map_cons, frames, List.filterMap_cons]
    exact congrArg (p :: ·) ih

@[simp] theorem frames_returned (bs : List Buffer) :
    frames (bs.map fun b => .returned b.address) = [] := by
  induction bs with
  | nil => rfl
  | cons b bs ih => exact ih

/-- A buffer that has been copied: its frames, and its return right behind them. -/
def copied (p : Buffer × List Sent) : List Output :=
  p.2.map Sent.output ++ [.returned p.1.address]

theorem frames_copied (ps : List (Buffer × List Sent)) :
    frames (ps.flatMap copied) = ps.flatMap Prod.snd := by
  induction ps with
  | nil => rfl
  | cons p ps ih =>
    rw [List.flatMap_cons, List.flatMap_cons, frames_append, ih, copied, frames_append,
      frames_output]
    simp [frames]

/-! ## The invariant -/

/-- The buffers not copied yet, and the queue they make: the first may have lost the bytes that
are in `cur`. -/
def Remaining (cur : List Sent) : List Buffer → List Buffer → Prop
  | [], [] => cur = []
  | b :: bs, q :: qs => qs = bs ∧ q.address = b.address ∧ b.data = payload cur ++ q.data
  | _, _ => False

/-- The numbers of the frames, in order. -/
def numbers (fs : List Sent) : List UInt32 := fs.map fun p => p.1.number

/-- What a single frame has to be. -/
structure SentWell (channel_id : UInt32) (p : Sent) : Prop where
  channel : p.1.channel_id = channel_id
  wellFormed : p.1.WellFormed
  nonempty : p.1.data ≠ []
  quote : p.1.data.length ≤ p.2

/-- The frames a source has sent, and the counter that continues them. -/
structure Counted (s : CSource) (fs : List Sent) : Prop where
  sent : ∀ p ∈ fs, SentWell s.mChannelID p
  numbered : FromOne (numbers fs)
  counter : s.mFrameCounter = UInt32.ofNat (fs.length + 1)

/-- `done` are the buffers that went back and `cur` the frames of the one at the front. -/
structure Segmented (channel_id : UInt32) (t : Traced) (done : List (Buffer × List Sent))
    (cur : List Sent) (rest : List Buffer) : Prop where
  channel : t.source.mChannelID = channel_id
  counted : Counted t.source (frames t.trace)
  handed : t.handed = done.map Prod.fst ++ rest
  trace : t.trace = done.flatMap copied ++ cur.map Sent.output
  /-- The frames of a buffer hold its bytes and nothing else. -/
  lossless : ∀ p ∈ done, payload p.2 = p.1.data
  remaining : Remaining cur rest t.source.mBuffersQueue
  /-- There is something to send in every buffer of the queue. -/
  filled : ∀ b ∈ t.source.mBuffersQueue, b.Filled

theorem segmented_start (channel_id : UInt32) :
    Segmented channel_id (.start channel_id) [] [] [] where
  channel := rfl
  counted := ⟨fun p hp => absurd hp (by simp [Traced.start, frames]), rfl, rfl⟩
  handed := rfl
  trace := rfl
  lossless := fun p hp => absurd hp (by simp)
  remaining := rfl
  filled := fun b hb => absurd hb (by simp [Traced.start, new])

theorem Remaining.append {cur : List Sent} :
    ∀ {rest queue : List Buffer} (b : Buffer), Remaining cur rest queue →
      Remaining cur (rest ++ [b]) (queue ++ [b])
  | [], [], b, h => by
      obtain rfl : cur = [] := h
      exact ⟨rfl, rfl, rfl⟩
  | c :: cs, q :: qs, b, ⟨hq, ha, hd⟩ => ⟨by rw [hq], ha, hd⟩
  | [], _ :: _, _, h => h.elim
  | _ :: _, [], _, h => h.elim

/-- The copied size is positive and within the quote and the buffer. -/
theorem copySize_bounds {b : Buffer} {quote : Nat} (hb : b.Filled) (hq : 0 < quote) :
    0 < copySize b quote ∧ copySize b quote ≤ quote ∧ copySize b quote ≤ b.getFilledSize
      ∧ copySize b quote ≤ MAX_SIZE := by
  have hpos : 0 < b.getFilledSize := List.length_pos_of_ne_nil hb.1
  have hmax := hb.2
  rw [copySize]
  split <;> omega

theorem getSize_nextHeader (s : CSource) {n : Nat} (h : n ≤ MAX_SIZE) :
    (s.nextHeader n).getSize = n := by
  have hn : n < 2 ^ 15 := Nat.lt_of_le_of_lt h (by decide)
  have h1 : (s.nextHeader n).getSize = ((UInt16.ofNat n &&& 0x7fff) &&& 0x7fff).toNat := rfl
  rw [h1, UInt16.and_assoc, UInt16.and_self, UInt16.toNat_and, UInt16.toNat_ofNat']
  have h2 : n % 2 ^ 16 = n := Nat.mod_eq_of_lt (by omega)
  rw [h2]
  show n &&& (2 ^ 15 - 1) = n
  rw [Nat.and_two_pow_sub_one_eq_mod, Nat.mod_eq_of_lt hn]

/-- The frame `CopyToFrame` fills. -/
theorem CopyToFrame_frame {s s' : CSource} {b : Buffer} {rest released : List Buffer}
    {quote : Nat} {f : Frame} (h : s.CopyToFrame b rest quote = (s', f, released)) :
    f = ⟨s.nextHeader (copySize b quote), b.data.take (copySize b quote)⟩
      ∧ s'.mChannelID = s.mChannelID ∧ s'.mFrameCounter = s.mFrameCounter + 1 := by
  rw [CopyToFrame] at h
  dsimp only at h
  split at h
  all_goals
    injection h with hs h
    injection h with hf _
    subst hs hf
    exact ⟨rfl, rfl, rfl⟩

theorem CopyToFrame_sentWell {s : CSource} {b : Buffer} {quote : Nat} (hb : b.Filled)
    (hq : 0 < quote) :
    SentWell s.mChannelID
      (⟨s.nextHeader (copySize b quote), b.data.take (copySize b quote)⟩, quote) := by
  obtain ⟨hpos, hquote, hsize, hmax⟩ := copySize_bounds hb hq
  have hlen : (b.data.take (copySize b quote)).length = copySize b quote := by
    rw [List.length_take]
    exact Nat.min_eq_left hsize
  have hget := getSize_nextHeader s hmax
  refine ⟨rfl, ⟨hlen.trans hget.symm, ?_⟩, ?_, ?_⟩
  · rw [Frame.getSize, hget]; exact hmax
  · exact List.ne_nil_of_length_pos (by rw [hlen]; exact hpos)
  · rw [hlen]; exact hquote

/-- One more frame, filled at the counter's number. -/
theorem Counted.append {s s' : CSource} {fs : List Sent} {p : Sent} (h : Counted s fs)
    (hchannel : s'.mChannelID = s.mChannelID) (hcounter : s'.mFrameCounter = s.mFrameCounter + 1)
    (hnumber : p.1.number = s.mFrameCounter) (hp : SentWell s.mChannelID p) :
    Counted s' (fs ++ [p]) where
  sent := by
    rw [hchannel]
    intro q hq
    rcases List.mem_append.mp hq with hq | hq
    · exact h.sent q hq
    · rw [List.mem_singleton.mp hq]; exact hp
  numbered := by
    have hp : p.1.number = UInt32.ofNat ((numbers fs).length + 1) := by
      rw [hnumber, h.counter, numbers, List.length_map]
    rw [numbers, List.map_append, List.map_singleton, hp]
    exact h.numbered.append
  counter := by
    rw [hcounter, h.counter, List.length_append, List.length_singleton, UInt32.ofNat_add (_ + 1) 1]
    rfl

theorem Segmented.consume {channel_id : UInt32} {t : Traced} {done : List (Buffer × List Sent)}
    {cur : List Sent} {rest : List Buffer} {b : Buffer}
    (h : Segmented channel_id t done cur rest) (hb : b.Filled) :
    Segmented channel_id (t.call (.consume b)) done cur (rest ++ [b]) where
  channel := h.channel
  counted := ⟨h.counted.sent, h.counted.numbered, h.counted.counter⟩
  handed := by
    show t.handed ++ [b] = _
    rw [h.handed, List.append_assoc]
  trace := h.trace
  lossless := h.lossless
  remaining := h.remaining.append b
  filled := by
    intro q hq
    rcases List.mem_append.mp hq with hq | hq
    · exact h.filled q hq
    · rw [List.mem_singleton.mp hq]; exact hb

/-- A buffer that fits the quote leaves the queue, with the frame that finishes it. -/
theorem Segmented.finish {channel_id : UInt32} {t : Traced} {done : List (Buffer × List Sent)}
    {cur : List Sent} {b q : Buffer} {bs qs : List Buffer} {f : Frame} {quote : Nat}
    {s' : CSource} (h : Segmented channel_id t done cur (b :: bs))
    (hqueue : t.source.mBuffersQueue = q :: qs) (hs' : s'.mBuffersQueue = qs)
    (hchannel : s'.mChannelID = t.source.mChannelID)
    (hcounter : s'.mFrameCounter = t.source.mFrameCounter + 1)
    (hnumber : f.number = t.source.mFrameCounter)
    (hf : SentWell t.source.mChannelID (f, quote)) (hdata : f.data = q.data) :
    Segmented channel_id ⟨s', t.handed, t.trace ++ [.frame f quote, .returned q.address]⟩
      (done ++ [(b, cur ++ [(f, quote)])]) [] bs := by
  have hrem := h.remaining
  rw [hqueue] at hrem
  obtain ⟨hbs, haddr, hbytes⟩ := hrem
  have hfilled := h.filled
  rw [hqueue] at hfilled
  have hframes : frames (t.trace ++ [.frame f quote, .returned q.address])
      = frames t.trace ++ [(f, quote)] := by
    rw [frames_append]
    rfl
  exact {
    channel := hchannel.trans h.channel
    counted := by
      rw [hframes]
      exact h.counted.append hchannel hcounter hnumber hf
    handed := by
      rw [List.map_append, List.map_singleton, List.append_assoc]
      exact h.handed
    trace := by
      rw [List.flatMap_append, List.flatMap_singleton, copied, List.map_nil, List.append_nil,
        List.map_append, h.trace, ← haddr]
      simp only [List.append_assoc]
      rfl
    lossless := by
      intro p hp
      rcases List.mem_append.mp hp with hp | hp
      · exact h.lossless p hp
      · rw [List.mem_singleton.mp hp, payload_append, payload_singleton, hdata, hbytes]
    remaining := by
      show Remaining [] bs s'.mBuffersQueue
      rw [hs', ← hbs]
      cases qs with
      | nil => rfl
      | cons c cs => exact ⟨rfl, rfl, rfl⟩
    filled := by
      intro c hc
      rw [hs'] at hc
      exact hfilled c (List.mem_cons_of_mem _ hc) }

/-- A buffer larger than the quote stays, with the bytes behind those in the frame. -/
theorem Segmented.continue {channel_id : UInt32} {t : Traced}
    {done : List (Buffer × List Sent)} {cur : List Sent} {b q : Buffer} {bs qs : List Buffer}
    {f : Frame} {quote : Nat} {s' : CSource} {left : List UInt8}
    (h : Segmented channel_id t done cur (b :: bs))
    (hqueue : t.source.mBuffersQueue = q :: qs)
    (hs' : s'.mBuffersQueue = { q with data := left } :: qs)
    (hchannel : s'.mChannelID = t.source.mChannelID)
    (hcounter : s'.mFrameCounter = t.source.mFrameCounter + 1)
    (hnumber : f.number = t.source.mFrameCounter)
    (hf : SentWell t.source.mChannelID (f, quote)) (hdata : f.data ++ left = q.data) (hleft : left ≠ []) :
    Segmented channel_id ⟨s', t.handed, t.trace ++ [.frame f quote]⟩ done
      (cur ++ [(f, quote)]) (b :: bs) := by
  have hrem := h.remaining
  rw [hqueue] at hrem
  obtain ⟨hbs, haddr, hbytes⟩ := hrem
  have hfilled := h.filled
  rw [hqueue] at hfilled
  have hframes : frames (t.trace ++ [.frame f quote]) = frames t.trace ++ [(f, quote)] := by
    rw [frames_append]
    rfl
  exact {
    channel := hchannel.trans h.channel
    counted := by
      rw [hframes]
      exact h.counted.append hchannel hcounter hnumber hf
    handed := h.handed
    trace := by
      rw [List.map_append, h.trace, List.append_assoc]
      rfl
    lossless := h.lossless
    remaining := by
      show Remaining (cur ++ [(f, quote)]) (b :: bs) s'.mBuffersQueue
      rw [hs']
      refine ⟨hbs, haddr, ?_⟩
      rw [payload_append, payload_singleton, List.append_assoc, hbytes, ← hdata]
    filled := by
      intro c hc
      rw [hs'] at hc
      rcases List.mem_cons.mp hc with rfl | hc
      · have hmax := (hfilled q List.mem_cons_self).2
        rw [Buffer.getFilledSize, ← hdata, List.length_append] at hmax
        exact ⟨hleft, (Nat.le_add_left _ _).trans hmax⟩
      · exact hfilled c (List.mem_cons_of_mem _ hc) }

theorem Segmented.dispatch {channel_id : UInt32} {t : Traced} {done : List (Buffer × List Sent)}
    {cur : List Sent} {rest : List Buffer} {quote : Nat}
    (h : Segmented channel_id t done cur rest) (hq : 0 < quote) :
    ∃ done' cur' rest', Segmented channel_id (t.call (.dispatch quote)) done' cur' rest' := by
  cases hqueue : t.source.mBuffersQueue with
  | nil =>
    refine ⟨done, cur, rest, ?_⟩
    have hnone : t.call (.dispatch quote) = t := by
      simp only [Traced.call, OnDispatch, hqueue]
    rw [hnone]
    exact h
  | cons q qs =>
    have hfilled : q.Filled := h.filled q (by rw [hqueue]; exact List.mem_cons_self)
    have hrem := h.remaining
    rw [hqueue] at hrem
    cases rest with
    | nil => exact hrem.elim
    | cons b bs =>
      have hf := CopyToFrame_sentWell (s := t.source) hfilled hq
      have hnumber : (t.source.nextHeader (copySize q quote)).number = t.source.mFrameCounter := rfl
      by_cases hfits : q.getFilledSize ≤ quote
      · have hsize : copySize q quote = q.getFilledSize := if_pos hfits
        have hcall : t.call (.dispatch quote) = ⟨{ t.source with
            mFrameCounter := t.source.mFrameCounter + 1, mBuffersQueue := qs }, t.handed,
            t.trace ++ [.frame ⟨t.source.nextHeader (copySize q quote),
              q.data.take (copySize q quote)⟩ quote, .returned q.address]⟩ := by
          simp only [Traced.call, OnDispatch, hqueue, CopyToFrame, if_pos hfits]
          rfl
        rw [hcall]
        refine ⟨_, _, _, h.finish hqueue rfl rfl rfl hnumber hf ?_⟩
        rw [hsize]
        exact List.take_length
      · have hsize : copySize q quote = quote := if_neg hfits
        have hcall : t.call (.dispatch quote) = ⟨{ t.source with
            mFrameCounter := t.source.mFrameCounter + 1
            mBuffersQueue := { q with data := q.data.drop (copySize q quote) } :: qs },
            t.handed, t.trace ++ [.frame ⟨t.source.nextHeader (copySize q quote),
              q.data.take (copySize q quote)⟩ quote]⟩ := by
          simp only [Traced.call, OnDispatch, hqueue, CopyToFrame, if_neg hfits]
          rfl
        rw [hcall]
        refine ⟨_, _, _,
          h.continue hqueue rfl rfl rfl hnumber hf (List.take_append_drop _ _) ?_⟩
        rw [hsize]
        refine List.ne_nil_of_length_pos ?_
        rw [List.length_drop]
        exact Nat.sub_pos_of_lt (Nat.lt_of_not_le hfits)

/-- **Any calls keep the trace in segments.** -/
theorem segmented_calls {channel_id : UInt32} {cs : List Call} :
    ∀ {t : Traced} {done : List (Buffer × List Sent)} {cur : List Sent} {rest : List Buffer},
      Segmented channel_id t done cur rest → (∀ c ∈ cs, c.Legal) →
      ∃ done' cur' rest', Segmented channel_id (t.calls cs) done' cur' rest' := by
  induction cs with
  | nil => exact fun h _ => ⟨_, _, _, h⟩
  | cons c cs ih =>
    intro t done cur rest h hlegal
    have hcs : ∀ c' ∈ cs, c'.Legal := fun c' hc' => hlegal c' (List.mem_cons_of_mem _ hc')
    cases c with
    | consume b => exact ih (h.consume (hlegal _ List.mem_cons_self)) hcs
    | dispatch quote =>
      obtain ⟨done', cur', rest', h'⟩ := h.dispatch (hlegal _ List.mem_cons_self).1
      exact ih h' hcs

/-! ## The law -/

/-- The buffers handed over by these calls. -/
def consumed (cs : List Call) : List Buffer :=
  cs.filterMap fun
    | .consume b => some b
    | .dispatch _ => none

theorem handed_calls (cs : List Call) :
    ∀ t : Traced, (t.calls cs).handed = t.handed ++ consumed cs := by
  induction cs with
  | nil => exact fun t => (List.append_nil _).symm
  | cons c cs ih =>
    intro t
    show (Traced.calls (t.call c) cs).handed = _
    rw [ih]
    cases c with
    | consume b =>
      show (t.handed ++ [b]) ++ consumed cs = t.handed ++ (b :: consumed cs)
      rw [List.append_assoc, List.singleton_append]
    | dispatch quote =>
      show (t.call (.dispatch quote)).handed ++ consumed cs = t.handed ++ consumed cs
      simp only [Traced.call]
      split <;> rfl

/-- All bytes of some buffers, in order. -/
def bytes (bs : List Buffer) : List UInt8 := bs.flatMap Buffer.data

theorem payload_done {done : List (Buffer × List Sent)}
    (h : ∀ p ∈ done, payload p.2 = p.1.data) :
    payload (done.flatMap Prod.snd) = bytes (done.map Prod.fst) := by
  induction done with
  | nil => rfl
  | cons p done ih =>
    rw [List.flatMap_cons, payload_append, h p List.mem_cons_self,
      ih fun q hq => h q (List.mem_cons_of_mem _ hq)]
    rfl

/-- The bytes not copied yet are those of the queue. -/
theorem Remaining.bytes {cur : List Sent} : ∀ {rest queue : List Buffer},
    Remaining cur rest queue → bytes rest = payload cur ++ bytes queue
  | [], [], h => by
      obtain rfl : cur = [] := h
      rfl
  | b :: bs, q :: qs, ⟨hq, _, hd⟩ => by
      show b.data ++ CSource.bytes bs = payload cur ++ (q.data ++ CSource.bytes qs)
      rw [hd, hq, List.append_assoc]
  | [], _ :: _, h => h.elim
  | _ :: _, [], h => h.elim

/-- What was sent and what is still in the queue are what was handed over. -/
theorem Segmented.bytes {channel_id : UInt32} {t : Traced} {done : List (Buffer × List Sent)}
    {cur : List Sent} {rest : List Buffer} (h : Segmented channel_id t done cur rest) :
    CSource.bytes t.handed = payload (frames t.trace) ++ CSource.bytes t.source.mBuffersQueue := by
  rw [h.handed, h.trace, frames_append, frames_copied, frames_output, payload_append,
    payload_done h.lossless, CSource.bytes, List.flatMap_append, List.append_assoc]
  exact congrArg _ h.remaining.bytes

/-- A trace is made of the buffers handed over, in order: those in `done` each by frames that
hold its bytes, with its return right behind the last, then the frames `cur` of the first in
`rest`, whose other bytes are at the front of the queue. -/
def InSegments (handed : List Buffer) (trace : List Output) (queue : List Buffer) : Prop :=
  ∃ (done : List (Buffer × List Sent)) (cur : List Sent) (rest : List Buffer),
    handed = done.map Prod.fst ++ rest ∧ trace = done.flatMap copied ++ cur.map Sent.output
      ∧ (∀ p ∈ done, payload p.2 = p.1.data) ∧ Remaining cur rest queue
      ∧ (∀ b ∈ queue, b.data ≠ [])

/-- **Segmentation is lossless.** The payloads sent so far, with what the queue still holds, are
the bytes handed over; the frames are numbered from 1, not empty and within their quotes; and no
frame mixes two buffers, each of which is returned once, right behind its last frame. -/
theorem calls_lossless (channel_id : UInt32) (cs : List Call) (hcs : ∀ c ∈ cs, c.Legal) :
    let t := (Traced.start channel_id).calls cs
    payload (frames t.trace) <+: bytes (consumed cs)
      ∧ (t.source.mBuffersQueue = [] → payload (frames t.trace) = bytes (consumed cs))
      ∧ FromOne (numbers (frames t.trace))
      ∧ (∀ p ∈ frames t.trace, SentWell channel_id p)
      ∧ InSegments (consumed cs) t.trace t.source.mBuffersQueue := by
  intro t
  obtain ⟨done, cur, rest, h⟩ := segmented_calls (segmented_start channel_id) hcs
  have hhanded : t.handed = consumed cs := handed_calls cs (Traced.start channel_id)
  have hbytes := h.bytes
  rw [hhanded] at hbytes
  refine ⟨⟨_, hbytes.symm⟩, fun hempty => ?_, h.counted.numbered,
    h.channel ▸ h.counted.sent, done, cur, rest,
    hhanded ▸ h.handed, h.trace, h.lossless, h.remaining, fun b hb => (h.filled b hb).1⟩
  rw [hbytes, hempty]
  exact (List.append_nil _).symm

/-- Two buffers, the first in two frames, with a third buffer handed over in between. -/
theorem calls_lossless_example :
    let cs := [Call.consume ⟨1, [10, 11, 12]⟩, .consume ⟨2, [20]⟩, .dispatch 2,
      .consume ⟨3, [30, 31]⟩, .dispatch 2, .dispatch 2]
    let t := (Traced.start 5).calls cs
    payload (frames t.trace) <+: bytes (consumed cs)
      ∧ (t.source.mBuffersQueue = [] → payload (frames t.trace) = bytes (consumed cs))
      ∧ FromOne (numbers (frames t.trace))
      ∧ (∀ p ∈ frames t.trace, SentWell 5 p)
      ∧ InSegments (consumed cs) t.trace t.source.mBuffersQueue :=
  calls_lossless 5 _ (by decide)

end CSource

end IviLink.L0
