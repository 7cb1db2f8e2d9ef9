import IviLink.Hal.CTcpCarrierAdapter
import IviLink.Proof.Framing

/-!
# Progress on any bytes

The frames here are whatever a peer says they are. The loop of `haveData` cuts the
stream at the sizes the headers declare (`deliver_cut`), and this needs no
well-formed sender: a frame is handed on only when all of it lies in the buffer.

What does need one is that the next call has room. A header may declare up to
`0x7fff` bytes and the buffer holds `MAX_SIZE` behind it, so a frame that is larger
is waited for until the buffer is full, and then the `recv` of no byte at all is
taken for a broken pipe. `progress_iff` says that this is the only way.
-/

namespace IviLink.Hal

open IviLink.Lib
open CTcpCarrierAdapter (receiveRawArray receiveRawArray_some receiveRawArray_zero)

/-- The first ten bytes are a header, whatever they are. -/
theorem FrameHeader.bytes_ofBytes {l : List UInt8} (h : HEADER_SIZE ≤ l.length) :
    (FrameHeader.ofBytes l).bytes = l.take HEADER_SIZE := by
  unfold HEADER_SIZE at h
  have h2 : (l.take 2).length = 2 := by
    rw [List.length_take]
    omega
  have h6 : ((l.drop 2).take 4).length = 4 := by
    rw [List.length_take, List.length_drop]
    omega
  have h10 : ((l.drop 6).take 4).length = 4 := by
    rw [List.length_take, List.length_drop]
    omega
  unfold ofBytes bytes
  rw [le16_ofLE16 h2, le32_ofLE32 h6, le32_ofLE32 h10, ← List.take_add, ← List.take_add]
  rfl

/-- The size the header at the front of these bytes declares. -/
def declaredSize (l : List UInt8) : Nat := (FrameHeader.ofBytes l).ntoh.getSize

/-- What the headers in a stream declare, each found behind the frame before it. -/
def declared (l : List UInt8) : List Nat :=
  if l.length < HEADER_SIZE then []
  else declaredSize l :: declared (l.drop (declaredSize l + HEADER_SIZE))
  termination_by l.length
  decreasing_by
    rw [List.length_drop]
    unfold HEADER_SIZE at *
    omega

/-- A part of a frame, less than its header or less than the header declares. -/
def Incomplete (l : List UInt8) : Prop :=
  HEADER_SIZE ≤ l.length → l.length < declaredSize l + HEADER_SIZE

theorem declared_nil : declared [] = [] := by
  unfold declared
  exact if_pos (by decide)

theorem declared_incomplete {l : List UInt8} (h : Incomplete l) (hlen : HEADER_SIZE ≤ l.length) :
    declared l = [declaredSize l] := by
  rw [declared, if_neg (by omega), List.drop_eq_nil_of_le (Nat.le_of_lt (h hlen)), declared_nil]

/-- More bytes leave the headers that were there. -/
theorem declaredSize_append {l : List UInt8} (h : HEADER_SIZE ≤ l.length) (c : List UInt8) :
    declaredSize (l ++ c) = declaredSize l := by
  unfold declaredSize
  rw [ofBytes_append (Nat.not_lt.mpr h)]

theorem declaredSize_frame {f : Frame} (hf : f.WellFormed) (l : List UInt8) :
    declaredSize (frameToArray f ++ l) = f.getSize := by
  unfold declaredSize
  rw [hf.frameToArray_eq, List.append_assoc, FrameHeader.ofBytes_bytes_append,
    FrameHeader.ntoh_hton]
  rfl

theorem declared_frame {f : Frame} (hf : f.WellFormed) (l : List UInt8) :
    declared (frameToArray f ++ l) = f.getSize :: declared l := by
  have hlong : ¬ (frameToArray f ++ l).length < HEADER_SIZE := by
    rw [List.length_append, hf.length_frameToArray]
    omega
  rw [declared, if_neg hlong, declaredSize_frame hf, List.drop_left' hf.length_frameToArray]

theorem declared_wire {fs : List Frame} (hfs : ∀ f ∈ fs, f.WellFormed) (l : List UInt8) :
    declared (wire fs ++ l) = fs.map Frame.getSize ++ declared l := by
  induction fs with
  | nil => rfl
  | cons f fs ih =>
    have hf := hfs f List.mem_cons_self
    rw [wire_cons hf, List.append_assoc, declared_frame hf,
      ih fun g hg => hfs g (List.mem_cons_of_mem _ hg)]
    rfl

/-- The beginning of a stream has the beginning of its headers. -/
theorem declared_append (l c : List UInt8) : declared l <+: declared (l ++ c) := by
  fun_induction declared l with
  | case1 l _ => exact List.nil_prefix
  | case2 l hlong ih =>
    have hlen : HEADER_SIZE ≤ l.length := Nat.not_lt.mp hlong
    have hlong' : ¬ (l ++ c).length < HEADER_SIZE := by
      rw [List.length_append]
      omega
    rw [declared.eq_def (l ++ c), if_neg hlong', declaredSize_append hlen]
    by_cases hcut : declaredSize l + HEADER_SIZE ≤ l.length
    · rw [List.drop_append_of_le_length hcut]
      exact List.prefix_cons_inj _ |>.mpr ih
    · rw [List.drop_eq_nil_of_le (by omega), declared_nil]
      exact List.prefix_cons_inj _ |>.mpr List.nil_prefix

namespace CCarrierAdapter

/-! ## What one call does -/

theorem fullSize_of_hostForm {a : CCarrierAdapter} {l : List UInt8} (ha : a.filled = hostForm l)
    (hlen : HEADER_SIZE ≤ l.length) : a.fullSize = declaredSize l + HEADER_SIZE := by
  have hfilled : a.mFilledSize = l.length := by rw [← length_filled, ha, length_hostForm]
  unfold fullSize declaredSize
  rw [header_eq (by omega), ha, hostForm_long (by omega), FrameHeader.ofBytes_bytes_append]

/-- The frame at the front of the memory, out of the bytes it came in. -/
theorem frame_cut {a : CCarrierAdapter} {l : List UInt8} (ha : a.filled = hostForm l)
    (hlen : HEADER_SIZE ≤ l.length) (hcut : declaredSize l + HEADER_SIZE ≤ l.length) :
    a.frame.WellFormed ∧ frameToArray a.frame = l.take (declaredSize l + HEADER_SIZE) := by
  have hfilled : a.mFilledSize = l.length := by rw [← length_filled, ha, length_hostForm]
  have hheader : a.header = (FrameHeader.ofBytes l).ntoh := by
    rw [header_eq (by omega), ha, hostForm_long (by omega), FrameHeader.ofBytes_bytes_append]
  have hsize : a.frame.getSize = declaredSize l := by
    show a.header.getSize = _
    rw [hheader]
    rfl
  have hdata : a.frame.data = (l.drop HEADER_SIZE).take (declaredSize l) := by
    have hdrop : a.filled.drop HEADER_SIZE = l.drop HEADER_SIZE := by
      rw [ha, hostForm_long (by omega), List.drop_left' (FrameHeader.length_bytes _)]
    rw [filled, List.drop_take] at hdrop
    show (a.mFrame.drop HEADER_SIZE).take a.header.getSize = _
    rw [← hdrop, List.take_take, hheader, Nat.min_eq_left]
    · rfl
    · rw [hfilled]
      omega
  have hwf : a.frame.WellFormed := by
    refine ⟨?_, ?_⟩
    · rw [hdata, hsize, List.length_take, List.length_drop]
      omega
    · have := a.filled_le
      rw [hsize]
      unfold FRAME_SIZE at this
      omega
  refine ⟨hwf, ?_⟩
  have hbytes : a.frame.mFrameHeader.hton.bytes = l.take HEADER_SIZE := by
    show a.header.ntoh.bytes = _
    rw [hheader]
    show ((FrameHeader.ofBytes l).hton.ntoh).bytes = _
    rw [FrameHeader.ntoh_hton, FrameHeader.bytes_ofBytes hlen]
  rw [hwf.frameToArray_eq, hbytes, hdata, Nat.add_comm, List.take_add]

/-- **What the loop cuts off and what it leaves**, for any bytes: with `l` of the current frame
seen before and `c` new, `l ++ c` comes apart into whole frames and an incomplete one. -/
theorem deliver_cut (savedSize : Nat) (a : CCarrierAdapter) :
    ∀ {l c : List UInt8}, savedSize = l.length → a.filled = hostForm l ++ c →
      ∃ a' fs tail, a.deliver savedSize = (a', fs) ∧ l ++ c = wire fs ++ tail
        ∧ (∀ f ∈ fs, f.WellFormed) ∧ a'.filled = hostForm tail ∧ Incomplete tail := by
  fun_induction deliver savedSize a with
  | case1 savedSize a hheader hfull a' fs heq ih =>
    intro l c hl ha
    subst hl
    have hlen : (l ++ c).length = a.mFilledSize := by
      rw [← length_filled, ha, List.length_append, List.length_append, length_hostForm]
    have hconv := convert_filled ha hheader
    have hsize := fullSize_of_hostForm hconv (by omega)
    have hcut : declaredSize (l ++ c) + HEADER_SIZE ≤ (l ++ c).length := by omega
    obtain ⟨hwf, hframe⟩ := frame_cut hconv (by omega) hcut
    have hshift : (a.convert l.length).shift.filled
        = hostForm [] ++ (l ++ c).drop (declaredSize (l ++ c) + HEADER_SIZE) := by
      rw [shift_filled, hsize, hconv, hostForm_long (by omega), Nat.add_comm, ← List.drop_drop,
        List.drop_left' (FrameHeader.length_bytes _), List.drop_drop]
      rfl
    obtain ⟨a₁, fs₁, tail, hdel, htail, hfs, ha₁, hinc⟩ := ih rfl hshift
    rw [heq] at hdel
    obtain ⟨rfl, rfl⟩ := Prod.mk.inj hdel
    refine ⟨_, _, tail, rfl, ?_, ?_, ha₁, hinc⟩
    · rw [wire_cons hwf, hframe, List.append_assoc, ← htail, List.nil_append,
        List.take_append_drop]
    · intro f hf
      rcases List.mem_cons.mp hf with rfl | hf
      · exact hwf
      · exact hfs f hf
  | case2 savedSize a hheader hfull =>
    intro l c hl ha
    subst hl
    have hlen : (l ++ c).length = a.mFilledSize := by
      rw [← length_filled, ha, List.length_append, List.length_append, length_hostForm]
    have hconv := convert_filled ha hheader
    have hsize := fullSize_of_hostForm hconv (by omega)
    refine ⟨_, [], l ++ c, rfl, rfl, fun _ hf => absurd hf List.not_mem_nil, hconv, ?_⟩
    intro _
    omega
  | case3 savedSize a hheader =>
    intro l c hl ha
    subst hl
    have hlen : (l ++ c).length = a.mFilledSize := by
      rw [← length_filled, ha, List.length_append, List.length_append, length_hostForm]
    have hl : l.length < HEADER_SIZE := by
      rw [List.length_append] at hlen
      omega
    refine ⟨a, [], l ++ c, rfl, rfl, fun _ hf => absurd hf List.not_mem_nil, ?_, ?_⟩
    · rw [ha, hostForm_short hl, hostForm_short (by omega)]
    · intro hlong
      omega

/-! ## Every call -/

/-- What was received so far is in the frames handed on and in the buffer, which holds no whole
frame. -/
structure Cut (l : List UInt8) (a : CCarrierAdapter) (fs : List Frame) (tail : List UInt8) :
    Prop where
  bytes : l = wire fs ++ tail
  wellFormed : ∀ f ∈ fs, f.WellFormed
  filled : a.filled = hostForm tail
  incomplete : Incomplete tail

/-- The adapter waits for a frame that fits the buffer, with room for the next byte of it. -/
structure Waits (a : CCarrierAdapter) : Prop where
  room : 0 < a.free
  fits : HEADER_SIZE ≤ a.mFilledSize → a.mFilledSize < a.fullSize ∧ a.fullSize ≤ FRAME_SIZE

theorem cut_init : Cut [] init [] [] where
  bytes := rfl
  wellFormed := fun _ hf => absurd hf List.not_mem_nil
  filled := rfl
  incomplete := fun h => absurd h (by decide)

/-- It does so exactly if the header it has seen declares no more than there is memory for. -/
theorem waits_iff {a : CCarrierAdapter} {tail : List UInt8} (ha : a.filled = hostForm tail)
    (hinc : Incomplete tail) :
    a.Waits ↔ (HEADER_SIZE ≤ tail.length → declaredSize tail ≤ MAX_SIZE) := by
  have hfilled : a.mFilledSize = tail.length := by rw [← length_filled, ha, length_hostForm]
  constructor
  · intro h hlen
    obtain ⟨-, hle⟩ := h.fits (by omega)
    rw [fullSize_of_hostForm ha hlen] at hle
    unfold FRAME_SIZE at hle
    omega
  · intro h
    refine ⟨?_, ?_⟩
    · -- less than a header, or less than a frame that fits
      unfold free FRAME_SIZE
      by_cases hlen : HEADER_SIZE ≤ tail.length
      · have hle := h hlen
        have hlt := hinc hlen
        omega
      · omega
    · intro hheader
      have hlen : HEADER_SIZE ≤ tail.length := by omega
      have hle := h hlen
      have hlt := hinc hlen
      rw [fullSize_of_hostForm ha hlen]
      unfold FRAME_SIZE
      omega

/-- One call, with a piece it has room for. -/
theorem haveData_cut {a : CCarrierAdapter} {tail c : List UInt8} (ha : a.filled = hostForm tail)
    (hne : c ≠ []) (hle : c.length ≤ a.free) :
    ∃ a' fs tail', a.haveData (receiveRawArray a.free c) = some (a', fs)
      ∧ Cut (tail ++ c) a' fs tail' := by
  have hfit : a.mFilledSize + c.length ≤ FRAME_SIZE := by
    have := a.filled_le
    unfold free at hle
    omega
  have hstore : (a.store c hfit).filled = hostForm tail ++ c := by rw [store_filled, ha]
  have hlen : a.mFilledSize = tail.length := by rw [← length_filled, ha, length_hostForm]
  obtain ⟨a', fs, tail', hdel, hbytes, hwf, hfilled, hinc⟩ := deliver_cut _ _ hlen hstore
  refine ⟨a', fs, tail', ?_, hbytes, hwf, hfilled, hinc⟩
  rw [receiveRawArray_some hne hle, haveData, dif_pos hfit, hdel]

theorem received_of_append : ∀ {pre cs : List (List UInt8)} {a : CCarrierAdapter}, pre <+: cs →
    Received a cs → Received a pre
  | [], _, _, _, _ => trivial
  | c :: pre, cs, a, hpre, h => by
      obtain ⟨rest, rfl⟩ := hpre
      obtain ⟨hne, hle, hnext⟩ := h
      exact ⟨hne, hle, fun a' fs hstep =>
        received_of_append (List.prefix_append pre rest) (hnext a' fs hstep)⟩

/-- **As long as the headers declare what fits, every call finds room for its piece.** -/
theorem receiveAll_waits : ∀ {cs : List (List UInt8)} {a : CCarrierAdapter} {tail : List UInt8},
    a.filled = hostForm tail → Incomplete tail → Received a cs →
      (∀ size ∈ declared (tail ++ cs.flatten), size ≤ MAX_SIZE) →
      ∃ a' fs tail', a.receiveAll cs = some (a', fs) ∧ Cut (tail ++ cs.flatten) a' fs tail'
        ∧ a'.Waits
  | cs, a, tail, ha, hinc, hcs, hfit => by
      have hwaits : a.Waits := by
        refine (waits_iff ha hinc).mpr fun hlen => hfit _ ?_
        refine (declared_append tail cs.flatten).subset ?_
        rw [declared_incomplete hinc hlen]
        exact List.mem_singleton_self _
      cases cs with
      | nil =>
        refine ⟨a, [], tail, rfl, ⟨?_, fun _ hf => absurd hf List.not_mem_nil, ha, hinc⟩, hwaits⟩
        rw [List.flatten_nil, List.append_nil]
        rfl
      | cons c cs =>
        obtain ⟨hne, hle, hnext⟩ := hcs
        have hroom := hwaits.room
        obtain ⟨a₁, fs₁, tail₁, hstep, hcut₁⟩ := haveData_cut ha hne (hle (by omega))
        have hbytes : tail ++ (c :: cs).flatten = wire fs₁ ++ (tail₁ ++ cs.flatten) := by
          rw [List.flatten_cons, ← List.append_assoc, hcut₁.bytes, List.append_assoc]
        have hfit₁ : ∀ size ∈ declared (tail₁ ++ cs.flatten), size ≤ MAX_SIZE := by
          intro size hsize
          refine hfit size ?_
          rw [hbytes, declared_wire hcut₁.wellFormed]
          exact List.mem_append_right _ hsize
        obtain ⟨a₂, fs₂, tail₂, hall, hcut₂, hwaits₂⟩ :=
          receiveAll_waits hcut₁.filled hcut₁.incomplete (hnext a₁ fs₁ hstep) hfit₁
        refine ⟨a₂, fs₁ ++ fs₂, tail₂, ?_, ⟨?_, ?_, hcut₂.filled, hcut₂.incomplete⟩, hwaits₂⟩
        · simp only [receiveAll, hstep, hall]
        · rw [hbytes, hcut₂.bytes, wire_append, List.append_assoc]
        · intro f hf
          rcases List.mem_append.mp hf with hf | hf
          · exact hcut₁.wellFormed f hf
          · exact hcut₂.wellFormed f hf

/-- **Every call delivers what is complete and waits for what fits, with room for it**, exactly
if no header in the stream declares more than `MAX_SIZE` bytes: after each of the pieces the
frames handed on and the buffer are the bytes received, and the next call does not ask for a
zero-length piece. -/
theorem progress_iff {cs : List (List UInt8)} (hcs : Received init cs) :
    (∀ pre, pre <+: cs →
        ∃ a fs tail, init.receiveAll pre = some (a, fs) ∧ Cut pre.flatten a fs tail ∧ a.Waits)
      ↔ ∀ size ∈ declared cs.flatten, size ≤ MAX_SIZE := by
  constructor
  · intro h size hsize
    obtain ⟨a, fs, tail, -, hcut, hwaits⟩ := h cs (List.prefix_refl cs)
    rw [hcut.bytes, declared_wire hcut.wellFormed] at hsize
    rcases List.mem_append.mp hsize with hdone | htail
    · obtain ⟨f, hf, rfl⟩ := List.mem_map.mp hdone
      exact (hcut.wellFormed f hf).size_le
    · by_cases hlen : HEADER_SIZE ≤ tail.length
      · rw [declared_incomplete hcut.incomplete hlen] at htail
        rw [List.mem_singleton.mp htail]
        exact (waits_iff hcut.filled hcut.incomplete).mp hwaits hlen
      · rw [declared, if_pos (by omega)] at htail
        exact absurd htail List.not_mem_nil
  · intro h pre hpre
    obtain ⟨rest, hrest⟩ := hpre
    have hfit : ∀ size ∈ declared ([] ++ pre.flatten), size ≤ MAX_SIZE := by
      intro size hsize
      refine h size ?_
      rw [← hrest, List.flatten_append]
      exact (declared_append _ _).subset hsize
    exact receiveAll_waits cut_init.filled cut_init.incomplete
      (received_of_append ⟨rest, hrest⟩ hcs) hfit

/-- Pieces that fit the buffer together fit it one by one. -/
theorem received_of_length : ∀ {cs : List (List UInt8)} {a : CCarrierAdapter},
    (∀ c ∈ cs, c ≠ []) → a.mFilledSize + cs.flatten.length ≤ FRAME_SIZE → Received a cs
  | [], _, _, _ => trivial
  | c :: cs, a, hne, h => by
      rw [List.flatten_cons, List.length_append] at h
      have hc := hne c List.mem_cons_self
      have hfit : a.mFilledSize + c.length ≤ FRAME_SIZE := by omega
      have hroom : c.length ≤ a.free := by
        unfold free
        omega
      refine ⟨hc, fun _ => hroom, fun a' fs hstep => ?_⟩
      rw [receiveRawArray_some hc hroom, haveData, dif_pos hfit] at hstep
      have hle : a'.mFilledSize ≤ a.mFilledSize + c.length := by
        have := deliver_mFilledSize_le a.mFilledSize (a.store c hfit)
        rw [Option.some.inj hstep] at this
        exact this
      exact received_of_length (fun d hd => hne d (List.mem_cons_of_mem _ hd)) (by omega)

/-- A frame with three bytes of data, in two pieces. -/
theorem progress_iff_twoPieces :
    Received init [[0, 3, 0, 0, 0, 5], [0, 0, 0, 1, 10, 20, 30]] ∧
      ∀ pre, pre <+: [[0, 3, 0, 0, 0, 5], [0, 0, 0, 1, 10, 20, 30]] →
        ∃ a fs tail, init.receiveAll pre = some (a, fs) ∧ Cut pre.flatten a fs tail ∧ a.Waits := by
  have hreceived : Received init [[0, 3, 0, 0, 0, 5], [0, 0, 0, 1, 10, 20, 30]] :=
    received_of_length (by decide) (by decide)
  refine ⟨hreceived, (progress_iff hreceived).mpr ?_⟩
  have hwire : [[0, 3, 0, 0, 0, 5], [0, 0, 0, 1, 10, 20, 30]].flatten
      = wire [⟨⟨3, 5, 1⟩, [10, 20, 30]⟩] ++ [] := by decide
  rw [hwire, declared_wire (by decide), declared_nil]
  decide

/-- A header that declares 4097 bytes, with 4096 of them. -/
def oneTooLarge : List UInt8 :=
  (FrameHeader.hton ⟨4097, 7, 0⟩).bytes ++ List.replicate MAX_SIZE 0

/-- **One byte more than there is memory for, and the stream counts as broken**: the buffer is
full, no frame is out, and the next call asks for nothing and is told that the pipe broke. -/
theorem oneTooLarge_stuck :
    Received init [oneTooLarge]
      ∧ ∃ a, init.receiveAll [oneTooLarge] = some (a, []) ∧ a.free = 0 ∧ ¬ a.Waits
        ∧ ∀ kernel, receiveRawArray a.free kernel = .error .brokenPipe := by
  have hlength : oneTooLarge.length = FRAME_SIZE := by
    unfold oneTooLarge FRAME_SIZE
    rw [List.length_append, FrameHeader.length_bytes, List.length_replicate]
  have hsize : declaredSize oneTooLarge = 4097 := by
    unfold oneTooLarge
    rw [declaredSize_append (Nat.le_of_eq (FrameHeader.length_bytes _).symm)]
    decide
  have hne : oneTooLarge ≠ [] := by
    intro h
    rw [h] at hlength
    exact absurd hlength (by decide)
  have hroom : oneTooLarge.length ≤ init.free := Nat.le_of_eq hlength
  have hreceived : Received init [oneTooLarge] := by
    refine received_of_length (by simpa using hne) ?_
    rw [List.flatten_singleton, hlength]
    decide
  obtain ⟨a, fs, tail, hstep, hcut⟩ := haveData_cut cut_init.filled hne hroom
  rw [List.nil_append] at hcut
  have hhead : declared oneTooLarge = fs.map Frame.getSize ++ declared tail := by
    rw [hcut.bytes, declared_wire hcut.wellFormed]
  cases fs with
  | cons f fs =>
    -- a frame that came out fits the memory, and the first one does not
    have hle := (hcut.wellFormed f List.mem_cons_self).size_le
    rw [declared, if_neg (by rw [hlength]; decide), hsize] at hhead
    have hfirst : 4097 = f.getSize := (List.cons.inj hhead).1
    unfold MAX_SIZE at hle
    omega
  | nil =>
    have htail : oneTooLarge = tail := hcut.bytes
    have hfree : a.free = 0 := by
      unfold free
      rw [← length_filled, hcut.filled, length_hostForm, ← htail, hlength, Nat.sub_self]
    refine ⟨hreceived, a, ?_, hfree, ?_, ?_⟩
    · simp only [receiveAll, hstep]
      rfl
    · intro hwaits
      exact absurd hwaits.room (by omega)
    · intro kernel
      rw [hfree, receiveRawArray_zero]

end CCarrierAdapter

end IviLink.Hal
