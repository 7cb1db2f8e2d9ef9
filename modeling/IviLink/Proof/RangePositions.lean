import IviLink.Proof.BufferRoundTrip

/-!
# Where a range leaves the write position

No call of `write` goes behind the position it starts from, succeed or fail: the only
jump back is to the count of a range, which is not behind the start of the range. So
what is in front of the position is safe, and a range is safe from what is written next
exactly if the position is behind it. That is where it is unless a range with elements,
this one or one inside it, ends where the buffer ends, or a string was cut.
-/

namespace IviLink.ProfileLibrary

open IviLink.Lib

/-! ## What is in front stays -/

/-- A call that leaves everything in front of `p` alone, if the write position is not in front
of it. -/
def Keeps {α : Type} (p : Nat) (c : Call α) : Prop :=
  ∀ b : Buffer, b.Valid → p ≤ b.mWritePos.toNat →
    (c b).2.Valid ∧ p ≤ (c b).2.mWritePos.toNat ∧ (c b).2.mpBuffer.take p = b.mpBuffer.take p

section Keeps

variable {α β : Type} {p : Nat}

theorem keeps_pure (a : α) : Keeps p (pure a) := fun _ hb hp => ⟨hb, hp, rfl⟩

theorem keeps_bind {x : Call α} {f : α → Call β} (hx : Keeps p x) (hf : ∀ a, Keeps p (f a)) :
    Keeps p (x >>= f) := by
  intro b hb hp
  obtain ⟨hvalid, hpos, hmem⟩ := hx b hb hp
  rw [Call.bind_apply]
  rcases hxb : x b with ⟨_ | a, b₁⟩
  · rw [hxb] at hvalid hpos hmem
    exact ⟨hvalid, hpos, hmem⟩
  · rw [hxb] at hvalid hpos hmem
    obtain ⟨hvalid₂, hpos₂, hmem₂⟩ := hf a b₁ hvalid hpos
    exact ⟨hvalid₂, hpos₂, hmem₂.trans hmem⟩

/-- What comes after `getWritePosition` is given a position that is not in front of `p`. -/
theorem keeps_getWritePosition {f : UInt32 → Call β} (hf : ∀ pos, p ≤ pos.toNat → Keeps p (f pos)) :
    Keeps p (Buffer.getWritePosition >>= f) := fun b hb hp => hf b.mWritePos hp b hb hp

theorem keeps_setWritePosition {pos : UInt32} (hpos : p ≤ pos.toNat) :
    Keeps p (Buffer.setWritePosition pos) := by
  intro b hb hp
  unfold Buffer.setWritePosition
  split
  · exact ⟨hb, hp, rfl⟩
  · next hlt =>
    have hle : pos.toNat ≤ b.mSize.toNat := by
      rw [UInt32.le_iff_toNat_le] at hlt
      omega
    exact ⟨⟨hb.holds, hb.read_le, hle⟩, hpos, rfl⟩

/-- Bytes stored at the write position or behind it. -/
theorem take_writeAt_of_le {mem bytes : List UInt8} {off : Nat} (hoff : p ≤ off)
    (hlen : off ≤ mem.length) : (writeAt mem off bytes).take p = mem.take p := by
  have hfront : p ≤ (mem.take off).length := by
    rw [List.length_take]
    omega
  rw [writeAt, List.append_assoc, List.take_append_of_le_length hfront, List.take_take,
    Nat.min_eq_left hoff]

theorem keeps_stored {b : Buffer} {bytes : List UInt8} {n : UInt32} (hb : b.Valid)
    (hp : p ≤ b.mWritePos.toNat) (hn : bytes.length ≤ n.toNat)
    (hroom : b.mWritePos.toNat + n.toNat ≤ b.mSize.toNat) :
    Buffer.Valid { b with
      mpBuffer := writeAt b.mpBuffer b.mWritePos.toNat bytes, mWritePos := b.mWritePos + n } ∧
    p ≤ (b.mWritePos + n).toNat ∧
      (writeAt b.mpBuffer b.mWritePos.toNat bytes).take p = b.mpBuffer.take p := by
  have hmove := move_eq hroom
  refine ⟨⟨?_, hb.read_le, ?_⟩, by omega, take_writeAt_of_le hp (hb.holds ▸ hb.write_le)⟩
  · show (writeAt b.mpBuffer b.mWritePos.toNat bytes).length = b.mSize.toNat
    rw [length_writeAt (by rw [hb.holds]; omega), hb.holds]
  · show (b.mWritePos + n).toNat ≤ b.mSize.toNat
    omega

theorem keeps_writeInternal (t : IntType) (v : t.Val) : Keeps p (Buffer.writeInternal t v) := by
  intro b hb hp
  have hroom := room_eq hb.write_le
  have hle := hb.write_le
  unfold Buffer.writeInternal
  split
  · exact ⟨hb, hp, rfl⟩
  · next hfits =>
    refine keeps_stored hb hp ?_ ?_
    · rw [length_leBytes, toNat_sizeof]
    · rw [toNat_sizeof]
      omega

theorem keeps_writeRaw (bytes : List UInt8) (size : UInt32) :
    Keeps p (Buffer.writeRaw bytes size) := by
  intro b hb hp
  have hroom := room_eq hb.write_le
  have hle := hb.write_le
  unfold Buffer.writeRaw
  split
  · exact ⟨hb, hp, rfl⟩
  · next hfits =>
    rw [UInt32.lt_iff_toNat_lt, hroom] at hfits
    refine keeps_stored hb hp ?_ (by omega)
    rw [List.length_take]
    exact Nat.min_le_left _ _

theorem keeps_writeString (s : List UInt8) : Keeps p (Buffer.writeString s) := by
  refine keeps_bind (keeps_writeInternal .UInt32 _) fun _ => keeps_bind ?_ fun _ =>
    keeps_writeRaw s _
  intro b hb hp
  unfold Buffer.roomToWrite
  split <;> exact ⟨hb, hp, rfl⟩

theorem keeps_writeElems {wr : α → Call Unit} (hwr : ∀ v, Keeps p (wr v)) (l : List α) :
    ∀ n, Keeps p (Buffer.writeElems wr l n) := by
  induction l with
  | nil => exact fun n => keeps_pure n
  | cons v l ih => exact fun n => keeps_bind (hwr v) fun _ => ih (n + 1)

/-- A range jumps back to its own count, and no further. -/
theorem keeps_writeRange {wr : α → Call Unit} (hwr : ∀ v, Keeps p (wr v)) (l : List α) :
    Keeps p (Buffer.writeRange wr l) := by
  refine keeps_getWritePosition fun savedPos1 hpos1 => ?_
  refine keeps_bind (keeps_writeInternal .UInt32 _) fun _ => ?_
  refine keeps_bind (keeps_writeElems hwr l 0) fun size => ?_
  refine keeps_getWritePosition fun savedPos2 hpos2 => ?_
  refine keeps_bind (keeps_setWritePosition hpos1) fun _ => ?_
  refine keeps_bind (keeps_writeInternal .UInt32 _) fun _ => ?_
  exact keeps_bind (keeps_setWritePosition hpos2) fun _ => keeps_pure ()

theorem keeps_write (t : Ty) : ∀ v : t.Val, Keeps p (Buffer.write t v) := by
  induction t with
  | int t => exact fun v => keeps_writeInternal t v
  | string => exact fun s => keeps_writeString s
  | pair first second ih₁ ih₂ => exact fun v => keeps_bind (ih₁ v.1) fun _ => ih₂ v.2
  | container t ih => exact fun l => keeps_writeRange ih l

end Keeps

/-! ## The end of a range -/

/-- What may be written next: a value, or raw bytes. -/
inductive NextWrite where
  | value (t : Ty) (v : t.Val)
  | raw (bytes : List UInt8) (size : UInt32)

def NextWrite.call : NextWrite → Call Unit
  | .value t v => Buffer.write t v
  | .raw bytes size => Buffer.writeRaw bytes size

theorem NextWrite.keeps {p : Nat} (next : NextWrite) : Keeps p next.call := by
  cases next with
  | value t v => exact keeps_write t v
  | raw bytes size => exact keeps_writeRaw bytes size

/-- Where the bytes of a range end that is written from the write position on. -/
def Buffer.rangeEnd (b : Buffer) (t : Ty) (l : List t.Val) : Nat :=
  b.mWritePos.toNat + wireSize (.container t) l

/-- The write position is behind the count and the elements, the range can be read where it was
written, and whatever is written next leaves it as it is. -/
structure RangeWritten (b b' : Buffer) (t : Ty) (l : List t.Val) : Prop where
  position : b'.mWritePos.toNat = b.rangeEnd t l
  readsBack : (Buffer.read (.container t) { b' with mReadPos := b.mWritePos }).1 = some l
  kept : ∀ next : NextWrite,
    (next.call b').2.mpBuffer.take (b.rangeEnd t l) = b'.mpBuffer.take (b.rangeEnd t l)

/-- **A range is written as it should be** exactly if no string in it is too long for its length,
and no range with elements, this one or one inside it, ends where the buffer ends. -/
theorem range_written_iff (b b' : Buffer) (t : Ty) (l : List t.Val) (hb : b.Valid)
    (h : Buffer.write (.container t) l b = (some (), b')) :
    RangeWritten b b' t l ↔ Intact b.mSize.toNat (.container t) b.mWritePos.toNat l := by
  have hw := wrote_write (.container t) l b b' hb h
  have hlen : (encode b.mEndianConvert (.container t) l).length = wireSize (.container t) l :=
    length_encode _ _ _
  have hexact : b'.mWritePos.toNat = b.rangeEnd t l ↔
      Intact b.mSize.toNat (.container t) b.mWritePos.toNat l := by
    rw [Buffer.rangeEnd, ← hlen]
    exact hw.exact_iff
  constructor
  · intro hwritten
    exact hexact.mp hwritten.position
  · intro hintact
    have hpos := hexact.mpr hintact
    refine ⟨hpos, ?_, fun next => (next.keeps b' hw.valid hpos.ge).2.2⟩
    have hread_le : b.mWritePos.toNat ≤ b'.mSize.toNat := hw.mSize_eq ▸ hb.write_le
    have hoff : (b.mpBuffer.take b.mWritePos.toNat).length = b.mWritePos.toNat := by
      rw [List.length_take, hb.holds, Nat.min_eq_left hb.write_le]
    -- what is behind the start of the range: the range, and what was there before
    have hdrop : b'.mpBuffer.drop b.mWritePos.toNat = encode b.mEndianConvert (.container t) l ++
        b'.mpBuffer.drop b'.mWritePos.toNat := by
      conv_lhs => rw [← List.take_append_drop b'.mWritePos.toNat b'.mpBuffer, hw.take_eq hintact,
        List.append_assoc]
      exact List.drop_left' hoff
    have hahead : Ahead b.mEndianConvert { b' with mReadPos := b.mWritePos }
        (encode b.mEndianConvert (.container t) l ++ b'.mpBuffer.drop b'.mWritePos.toNat) :=
      ⟨⟨hw.valid.holds, hread_le, hw.valid.write_le⟩, hw.conv_eq, hdrop⟩
    obtain ⟨r, hread, -, -⟩ := gives_read (.container t) l _ _ hahead
    rw [hread]

/-- Two numbers behind three bytes, in a buffer with room to spare. -/
theorem range_written_twoNumbers :
    RangeWritten (Buffer.mk 16 0 3 (List.replicate 16 0) true)
      (Buffer.mk 16 0 11 [0, 0, 0, 0, 0, 0, 2, 1, 2, 3, 4, 0, 0, 0, 0, 0] true) (.int .UInt16)
      [258#16, 772#16] := by
  have hvalid : (Buffer.mk 16 0 3 (List.replicate 16 0) true).Valid :=
    ⟨rfl, Nat.zero_le _, by decide⟩
  refine (range_written_iff _ _ (.int .UInt16) [258#16, 772#16] hvalid (by decide +kernel)).mpr ?_
  exact ⟨Or.inr (by decide), trivial, trivial, trivial⟩

/-- A range that fills the buffer to its last byte. -/
theorem range_position_left_behind :
    ¬ ∀ (b b' : Buffer) (t : Ty) (l : List t.Val), b.Valid →
      Buffer.write (.container t) l b = (some (), b') → RangeWritten b b' t l := by
  intro h
  have hwritten := h (Buffer.new (List.replicate 6 0) 6 true)
    (Buffer.mk 6 0 4 [0, 0, 0, 1, 1, 2] true) (.int .UInt16) [258#16] (valid_new true rfl)
    (by decide +kernel)
  exact absurd hwritten.position (by decide)

end IviLink.ProfileLibrary
