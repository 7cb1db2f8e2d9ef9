import IviLink.Proof.RangePositions

/-!
# What a failed call leaves in a `Buffer`

A compound value is written and read piece by piece, and nothing is taken back when a piece
does not fit: the position stays where the last piece has left it. It is where it was only if
already the integer at the value's front did not fit. What is in front of the write position is
safe, and a write leaves the read position alone, as a read does the rest of the buffer.
-/

namespace IviLink.ProfileLibrary

open IviLink.Lib

/-- The size of the integer that a value of the type begins with. -/
def Ty.leading : Ty → Nat
  | .int t => t.sizeof
  | .string => 4
  | .pair first _ => first.leading
  | .container _ => 4

/-! ## Writing -/

/-- A call that moves no more than the write position. -/
def Frames {α : Type} (c : Call α) : Prop :=
  ∀ b : Buffer, (c b).2.mReadPos = b.mReadPos ∧ (c b).2.mSize = b.mSize

section Frames

variable {α β : Type}

theorem frames_pure (a : α) : Frames (pure a) := fun _ => ⟨rfl, rfl⟩

theorem frames_bind {x : Call α} {f : α → Call β} (hx : Frames x) (hf : ∀ a, Frames (f a)) :
    Frames (x >>= f) := by
  intro b
  have hframe := hx b
  rw [Call.bind_apply]
  rcases hxb : x b with ⟨_ | a, b₁⟩
  · rw [hxb] at hframe
    exact hframe
  · rw [hxb] at hframe
    obtain ⟨hread, hsize⟩ := hf a b₁
    exact ⟨hread.trans hframe.1, hsize.trans hframe.2⟩

theorem frames_getWritePosition : Frames Buffer.getWritePosition := fun _ => ⟨rfl, rfl⟩

theorem frames_setWritePosition (pos : UInt32) : Frames (Buffer.setWritePosition pos) := by
  intro b
  unfold Buffer.setWritePosition
  split <;> exact ⟨rfl, rfl⟩

theorem frames_writeInternal (t : IntType) (v : t.Val) : Frames (Buffer.writeInternal t v) := by
  intro b
  unfold Buffer.writeInternal
  split <;> exact ⟨rfl, rfl⟩

theorem frames_writeRaw (bytes : List UInt8) (size : UInt32) :
    Frames (Buffer.writeRaw bytes size) := by
  intro b
  unfold Buffer.writeRaw
  split <;> exact ⟨rfl, rfl⟩

theorem frames_writeString (s : List UInt8) : Frames (Buffer.writeString s) := by
  refine frames_bind (frames_writeInternal .UInt32 _) fun _ => frames_bind ?_ fun _ =>
    frames_writeRaw s _
  intro b
  unfold Buffer.roomToWrite
  split <;> exact ⟨rfl, rfl⟩

theorem frames_writeElems {wr : α → Call Unit} (hwr : ∀ v, Frames (wr v)) (l : List α) :
    ∀ n, Frames (Buffer.writeElems wr l n) := by
  induction l with
  | nil => exact fun n => frames_pure n
  | cons v l ih => exact fun n => frames_bind (hwr v) fun _ => ih (n + 1)

theorem frames_writeRange {wr : α → Call Unit} (hwr : ∀ v, Frames (wr v)) (l : List α) :
    Frames (Buffer.writeRange wr l) := by
  refine frames_bind frames_getWritePosition fun savedPos1 => ?_
  refine frames_bind (frames_writeInternal .UInt32 _) fun _ => ?_
  refine frames_bind (frames_writeElems hwr l 0) fun size => ?_
  refine frames_bind frames_getWritePosition fun savedPos2 => ?_
  refine frames_bind (frames_setWritePosition savedPos1) fun _ => ?_
  refine frames_bind (frames_writeInternal .UInt32 _) fun _ => ?_
  exact frames_bind (frames_setWritePosition savedPos2) fun _ => frames_pure ()

theorem frames_write (t : Ty) : ∀ v : t.Val, Frames (Buffer.write t v) := by
  induction t with
  | int t => exact fun v => frames_writeInternal t v
  | string => exact fun s => frames_writeString s
  | pair first second ih₁ ih₂ => exact fun v => frames_bind (ih₁ v.1) fun _ => ih₂ v.2
  | container t ih => exact fun l => frames_writeRange ih l

end Frames

/-- A call that has failed has left the write position where it was exactly if there was no room
for `least` bytes. -/
def Stays {α : Type} (c : Call α) (least : Nat) : Prop :=
  ∀ b : Buffer, b.Valid → (c b).1 = none →
    ((c b).2.mWritePos = b.mWritePos ↔ b.mSize.toNat < b.mWritePos.toNat + least)

section Stays

variable {α β : Type} {least : Nat} {b b' : Buffer}

theorem writeInternal_none {t : IntType} {v : t.Val} (hb : b.Valid) :
    Buffer.writeInternal t v b = (none, b) ↔ b.mSize.toNat < b.mWritePos.toNat + t.sizeof := by
  have hroom := room_eq hb.write_le
  have hle := hb.write_le
  unfold Buffer.writeInternal
  split
  · next h => exact iff_of_true rfl (by omega)
  · next h => exact iff_of_false (by simp) (by omega)

theorem stays_writeInternal (t : IntType) (v : t.Val) :
    Stays (Buffer.writeInternal t v) t.sizeof := by
  intro b hb h
  have heq : Buffer.writeInternal t v b = (none, b) := by
    unfold Buffer.writeInternal at h ⊢
    split
    · rfl
    · next hfits =>
      rw [if_neg hfits] at h
      cases h
  rw [heq]
  exact iff_of_true rfl ((writeInternal_none hb).mp heq)

/-- Where the first piece fits, the position has moved on. -/
theorem stays_bind {x : Call α} {f : α → Call β} (hx : Stays x least)
    (hmoved : ∀ b b' a, b.Valid → x b = (some a, b') → b'.Valid ∧
      b.mWritePos.toNat < b'.mWritePos.toNat ∧ b.mWritePos.toNat + least ≤ b.mSize.toNat)
    (hf : ∀ a p, Keeps p (f a)) : Stays (x >>= f) least := by
  intro b hb h
  rw [Call.bind_apply] at h ⊢
  rcases hxb : x b with ⟨_ | a, b₁⟩
  · have hstays := hx b hb (by rw [hxb])
    rw [hxb] at hstays
    exact hstays
  · obtain ⟨hvalid, hlt, hroom⟩ := hmoved b b₁ a hb hxb
    have hkept := (hf a b₁.mWritePos.toNat b₁ hvalid (Nat.le_refl _)).2.1
    refine iff_of_false (fun heq => ?_) (by omega)
    have hpos : (f a b₁).2.mWritePos.toNat = b.mWritePos.toNat := congrArg UInt32.toNat heq
    omega

theorem moved_writeUInt32 {n : UInt32} (hb : b.Valid)
    (h : Buffer.writeUInt32 n b = (some (), b')) : b'.Valid ∧
      b.mWritePos.toNat < b'.mWritePos.toNat ∧ b.mWritePos.toNat + 4 ≤ b.mSize.toNat := by
  have hw := wrote_writeUInt32 hb h
  have hleast := hw.least_le
  have hwithin := hw.valid.write_le
  rw [hw.mSize_eq] at hwithin
  exact ⟨hw.valid, by omega, by omega⟩

/-- A value of which something was written had room for its first integer. -/
theorem leading_le (t : Ty) : ∀ v : t.Val, ∀ b b' : Buffer, b.Valid →
    Buffer.write t v b = (some (), b') → b.mWritePos.toNat + t.leading ≤ b.mSize.toNat := by
  induction t with
  | int t =>
    intro v b b' hb h
    have hw := wrote_writeInternal hb h
    have hleast := hw.least_le
    have hwithin := hw.valid.write_le
    rw [hw.mSize_eq] at hwithin
    exact Nat.le_trans hleast hwithin
  | string =>
    intro s b b' hb h
    obtain ⟨⟨⟩, b₁, hcount, -⟩ := Call.bind_eq_some.mp h
    exact (moved_writeUInt32 hb hcount).2.2
  | pair first second ih₁ _ =>
    intro v b b' hb h
    obtain ⟨⟨⟩, b₁, hfirst, -⟩ := Call.bind_eq_some.mp h
    exact ih₁ v.1 b b₁ hb hfirst
  | container t _ =>
    intro l b b' hb h
    obtain ⟨savedPos1, _, hpos1, h⟩ := Call.bind_eq_some.mp h
    cases hpos1
    obtain ⟨⟨⟩, b₁, hcount, -⟩ := Call.bind_eq_some.mp h
    exact (moved_writeUInt32 hb hcount).2.2

theorem stays_writeString (s : List UInt8) : Stays (Buffer.writeString s) 4 := by
  refine stays_bind (stays_writeInternal .UInt32 _) (fun b b' _ hb h => moved_writeUInt32 hb h)
    fun _ p => keeps_bind ?_ fun _ => keeps_writeRaw s _
  intro b hb hp
  unfold Buffer.roomToWrite
  split <;> exact ⟨hb, hp, rfl⟩

theorem stays_pair (first second : Ty) (v : (Ty.pair first second).Val)
    (hfirst : Stays (Buffer.write first v.1) first.leading) :
    Stays (Buffer.write (.pair first second) v) first.leading := by
  refine stays_bind hfirst (fun b b' _ hb h => ?_) fun _ p => keeps_write second v.2
  have hw := wrote_write first v.1 b b' hb h
  have hleast := hw.least_le
  exact ⟨hw.valid, by omega, leading_le first v.1 b b' hb h⟩

theorem writeUInt32_fits {c : Buffer} {n : UInt32} (hroom : c.mWritePos.toNat + 4 ≤ c.mSize.toNat) :
    ∃ c', Buffer.writeUInt32 n c = (some (), c') := by
  have hsub := room_eq (show c.mWritePos.toNat ≤ c.mSize.toNat by omega)
  have hfits : ¬ (c.mSize - c.mWritePos).toNat < IntType.sizeof .UInt32 := by
    rw [hsub, IntType.sizeof]
    omega
  unfold Buffer.writeUInt32 Buffer.writeInternal
  rw [if_neg hfits]
  exact ⟨_, rfl⟩

/-- When the elements are written, so is the count: there was room for it before. -/
theorem recount {c : Buffer} {pos n : UInt32} (hroom : pos.toNat + 4 ≤ c.mSize.toNat) :
    ∃ c', (do
      let savedPos2 ← Buffer.getWritePosition
      let _ ← Buffer.setWritePosition pos
      Buffer.writeUInt32 n
      let _ ← Buffer.setWritePosition savedPos2
      pure () : Call Unit) c = (some (), c') := by
  have hset : Buffer.setWritePosition pos c = (some true, { c with mWritePos := pos }) := by
    unfold Buffer.setWritePosition
    rw [if_neg]
    rw [UInt32.le_iff_toNat_le]
    omega
  obtain ⟨c₁, hcount⟩ := writeUInt32_fits (c := { c with mWritePos := pos }) (n := n) hroom
  refine ⟨(Buffer.setWritePosition c.mWritePos c₁).2, ?_⟩
  have hget : Buffer.getWritePosition c = (some c.mWritePos, c) := rfl
  have hback : ∃ ok, Buffer.setWritePosition c.mWritePos c₁ =
      (some ok, (Buffer.setWritePosition c.mWritePos c₁).2) := by
    unfold Buffer.setWritePosition
    split <;> exact ⟨_, rfl⟩
  obtain ⟨ok, hback⟩ := hback
  rw [Call.bind_some hget, Call.bind_some hset, Call.bind_some hcount, Call.bind_some hback]
  rfl

theorem stays_writeRange (t : Ty) (l : List t.Val) :
    Stays (Buffer.writeRange (Buffer.write t) l) 4 := by
  intro b hb h
  have hrange : Buffer.writeRange (Buffer.write t) l b = (Buffer.writeUInt32 0 >>= fun _ =>
      Buffer.writeElems (Buffer.write t) l 0 >>= fun size => do
        let savedPos2 ← Buffer.getWritePosition
        let _ ← Buffer.setWritePosition b.mWritePos
        Buffer.writeUInt32 size
        let _ ← Buffer.setWritePosition savedPos2
        pure ()) b := rfl
  rw [hrange, Call.bind_apply] at h ⊢
  rcases hcount : Buffer.writeUInt32 0 b with ⟨_ | _, b₁⟩
  · have hstays := stays_writeInternal .UInt32 _ b hb (congrArg Prod.fst hcount)
    rw [show Buffer.writeInternal .UInt32 _ b = (none, b₁) from hcount] at hstays
    exact hstays
  · obtain ⟨hvalid, hlt, hroom⟩ := moved_writeUInt32 hb hcount
    rw [hcount] at h
    dsimp only at h ⊢
    rw [Call.bind_apply] at h ⊢
    have hframe := frames_writeElems (fun v => frames_write t v) l 0 b₁
    have hkept := keeps_writeElems (p := b₁.mWritePos.toNat) (fun v => keeps_write t v) l 0 b₁
      hvalid (Nat.le_refl _)
    rcases helems : Buffer.writeElems (Buffer.write t) l 0 b₁ with ⟨_ | size, b₂⟩
    · rw [helems] at hkept
      refine iff_of_false (fun heq => ?_) (by omega)
      have hpos : b₂.mWritePos.toNat = b.mWritePos.toNat := congrArg UInt32.toNat heq
      have hle : b₁.mWritePos.toNat ≤ b₂.mWritePos.toNat := hkept.2.1
      omega
    · -- from here on nothing fails
      rw [helems] at h hframe
      have hsize : b₂.mSize = b.mSize :=
        hframe.2.trans (wrote_writeUInt32 hb hcount).mSize_eq
      have hlast := recount (c := b₂) (n := size) (show b.mWritePos.toNat + 4 ≤ b₂.mSize.toNat by
        rw [hsize]; exact hroom)
      obtain ⟨c, hc⟩ := hlast
      dsimp only at h
      rw [hc] at h
      cases h

theorem stays_write (t : Ty) : ∀ v : t.Val, Stays (Buffer.write t v) t.leading := by
  induction t with
  | int t => exact fun v => stays_writeInternal t v
  | string => exact fun s => stays_writeString s
  | pair first second ih₁ _ => exact fun v => stays_pair first second v (ih₁ v.1)
  | container t _ => exact fun l => stays_writeRange t l

end Stays

/-! ## Reading -/

/-- The same for the read position. -/
def ReadStays {α : Type} (c : Call α) (least : Nat) : Prop :=
  ∀ b : Buffer, b.Valid → (c b).1 = none →
    ((c b).2.mReadPos = b.mReadPos ↔ b.mSize.toNat < b.mReadPos.toNat + least)

section ReadStays

variable {α β : Type} {least : Nat} {b b' : Buffer}

theorem readStays_readInternal (t : IntType) : ReadStays (Buffer.readInternal t) t.sizeof := by
  intro b hb h
  have hroom := room_eq hb.read_le
  have hle := hb.read_le
  unfold Buffer.readInternal at h ⊢
  split
  · exact iff_of_true rfl (by omega)
  · next hfits =>
    rw [if_neg hfits] at h
    cases h

theorem readStays_bind {x : Call α} {f : α → Call β} {size : α → Nat} (hx : ReadStays x least)
    (hreads : Reads x size) (hleast : ∀ a, least ≤ size a) (hpos : 0 < least)
    (hf : ∀ a b, b.Valid → b.mReadPos.toNat ≤ (f a b).2.mReadPos.toNat) :
    ReadStays (x >>= f) least := by
  intro b hb h
  rw [Call.bind_apply] at h ⊢
  have htook := hreads b hb
  rcases hxb : x b with ⟨_ | a, b₁⟩
  · have hstays := hx b hb (by rw [hxb])
    rw [hxb] at hstays
    exact hstays
  · rw [hxb] at htook
    have hmoved : b₁.mReadPos.toNat = b.mReadPos.toNat + size a := htook.exact a rfl
    have hwithin : b₁.mReadPos.toNat ≤ b.mSize.toNat := htook.within
    have hsize := hleast a
    have hforward := hf a b₁ (htook.valid hb)
    refine iff_of_false (fun heq => ?_) (by omega)
    have hsame : (f a b₁).2.mReadPos.toNat = b.mReadPos.toNat := congrArg UInt32.toNat heq
    omega

theorem readStays_readUInt32 : ReadStays Buffer.readUInt32 4 :=
  readStays_bind (readStays_readInternal .UInt32) (reads_readInternal .UInt32)
    (fun _ => Nat.le_refl 4) (by omega) fun _ _ _ => Nat.le_refl _

theorem readStays_readString : ReadStays Buffer.readString 4 :=
  readStays_bind readStays_readUInt32 reads_readUInt32 (fun _ => Nat.le_refl 4) (by omega)
    fun n b hb => (reads_readRaw n b hb).least

theorem Ty.leading_pos (t : Ty) : 0 < t.leading := by
  induction t with
  | int t => exact t.sizeof_pos
  | string | container => exact Nat.succ_pos 3
  | pair first second ih _ => exact ih

theorem Ty.leading_le_minSize (t : Ty) : t.leading ≤ t.minSize := by
  induction t with
  | int t | string | container => exact Nat.le_refl _
  | pair first second ih _ => exact Nat.le_trans ih (Nat.le_add_right _ _)

theorem readStays_pair (first second : Ty) (hfirst : ReadStays (Buffer.read first) first.leading) :
    ReadStays (Buffer.read (.pair first second)) first.leading := by
  refine readStays_bind hfirst (reads_read first)
    (fun v => Nat.le_trans first.leading_le_minSize (minSize_le first v)) first.leading_pos ?_
  intro v b hb
  have hforward := (reads_read second b hb).least
  rw [Call.bind_apply]
  rcases hsecond : Buffer.read second b with ⟨_ | w, b₁⟩
  · rw [hsecond] at hforward
    exact hforward
  · rw [hsecond] at hforward
    exact hforward

theorem readStays_container (t : Ty) : ReadStays (Buffer.read (.container t)) 4 := by
  intro b hb h
  have htook := reads_readUInt32 b hb
  show ((Buffer.readContainer (Buffer.read t) b).2.mReadPos = b.mReadPos ↔ _)
  unfold Buffer.readContainer
  rcases hcount : Buffer.readUInt32 b with ⟨_ | size, b₁⟩
  · have hstays := readStays_readUInt32 b hb (by rw [hcount])
    rw [hcount] at hstays
    exact hstays
  · rw [hcount] at htook
    have hmoved : b₁.mReadPos.toNat = b.mReadPos.toNat + 4 := htook.exact size rfl
    have hwithin : b₁.mReadPos.toNat ≤ b.mSize.toNat := htook.within
    have helems := (took_readElems (reads_read t) size.toNat b₁ (htook.valid hb)).2.1
    refine iff_of_false (fun heq => ?_) (by omega)
    have hsame := congrArg UInt32.toNat heq
    dsimp only at hsame
    omega

theorem readStays_read (t : Ty) : ReadStays (Buffer.read t) t.leading := by
  induction t with
  | int t => exact readStays_readInternal t
  | string => exact readStays_readString
  | pair first second ih₁ _ => exact readStays_pair first second ih₁
  | container t _ => exact readStays_container t

end ReadStays

/-! ## Failed calls -/

/-- What a write that has failed leaves: the write position may have moved on. -/
structure WriteFailed (b b' : Buffer) (leading : Nat) : Prop where
  mSize_eq : b'.mSize = b.mSize
  mReadPos_eq : b'.mReadPos = b.mReadPos
  front : b'.mpBuffer.take b.mWritePos.toNat = b.mpBuffer.take b.mWritePos.toNat
  forwards : b.mWritePos.toNat ≤ b'.mWritePos.toNat
  stays_iff : b'.mWritePos = b.mWritePos ↔ b.mSize.toNat < b.mWritePos.toNat + leading

/-- What a read that has failed leaves: the read position may have moved on. -/
structure ReadFailed (b b' : Buffer) (leading : Nat) : Prop where
  frame : b' = { b with mReadPos := b'.mReadPos }
  forwards : b.mReadPos.toNat ≤ b'.mReadPos.toNat
  stays_iff : b'.mReadPos = b.mReadPos ↔ b.mSize.toNat < b.mReadPos.toNat + leading

/-- **Failed calls move nothing but their own position, and that not back**; it is where it was
exactly if there was no room, or nothing left, for the first integer. -/
theorem failed_calls (b : Buffer) (t : Ty) (hb : b.Valid) :
    (∀ v : t.Val, (Buffer.write t v b).1 = none →
        WriteFailed b (Buffer.write t v b).2 t.leading) ∧
      ((Buffer.read t b).1 = none → ReadFailed b (Buffer.read t b).2 t.leading) := by
  constructor
  · intro v h
    obtain ⟨hread, hsize⟩ := frames_write t v b
    obtain ⟨-, hforwards, hfront⟩ := keeps_write t v b hb (Nat.le_refl _)
    exact ⟨hsize, hread, hfront, hforwards, stays_write t v b hb h⟩
  · intro h
    have htook := reads_read t b hb
    exact ⟨htook.frame, htook.least, readStays_read t b hb h⟩

/-- A string in a buffer that has room for its length only. -/
theorem failed_calls_string :
    WriteFailed (Buffer.new (List.replicate 5 0) 5 true)
      (Buffer.write .string [1, 2] (Buffer.new (List.replicate 5 0) 5 true)).2 4 :=
  (failed_calls (Buffer.new (List.replicate 5 0) 5 true) .string (valid_new true rfl)).1 [1, 2]
    (by decide +kernel)

/-- It has been written when the write fails. -/
theorem length_left_behind :
    (Buffer.write .string [1, 2] (Buffer.new (List.replicate 5 0) 5 true)).1 = none ∧
      (Buffer.write .string [1, 2] (Buffer.new (List.replicate 5 0) 5 true)).2.mWritePos = 4 := by
  decide +kernel

end IviLink.ProfileLibrary
