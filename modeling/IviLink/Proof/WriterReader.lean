import IviLink.Ipc.BufferHelpers
import Mathlib.Algebra.BigOperators.Group.List.Basic
import Mathlib.Data.List.TakeWhile

/-!
# What `CBufferReader` reads of what `CBufferWriter` has written

`encode` says which bytes a value stands for. A write that succeeds puts exactly these behind what
is there (`Wrote`), and from these a reader takes the value again (`Gives`). A write that fails
leaves the beginning of its bytes behind, unless there was no room even for the integer it begins
with; what is written after it is then not where a reader looks for it.
-/

namespace IviLink.Ipc.Helpers

open IviLink.Lib

/-! ## The bytes a value stands for -/

theorem Width.sizeof_pos (t : Width) : 0 < t.sizeof := by
  cases t <;> exact Nat.succ_pos _

theorem Width.toNat_sizeof (t : Width) : (UInt32.ofNat t.sizeof).toNat = t.sizeof := by
  cases t <;> rfl

/-- A size and that many bytes. -/
def encodeSized (bytes : List UInt8) (size : UInt32) : List UInt8 :=
  le32 size ++ bytes.take size.toNat

def encode : (t : Ty) → t.Val → List UInt8
  | .int t, val => leBytes t.sizeof val.toNat
  | .uid, val => encodeSized (val ++ [0]) (UInt32.ofNat (List.length val + 1))
  | .string, val => encodeSized val (UInt32.ofNat (List.length val))
  | .pair first second, val => encode first val.1 ++ encode second val.2

/-- A count and the bytes of the elements. -/
def encodeRange {α : Type} (enc : α → List UInt8) (range : List α) : List UInt8 :=
  le32 (UInt32.ofNat range.length) ++ range.flatMap enc

def encodeValue : Value → List UInt8
  | ⟨.value t, val⟩ => encode t val
  | ⟨.container t, range⟩ => encodeRange (encode t) range
  | ⟨.map key mapped, range⟩ => encodeRange (encode (.pair key mapped)) range

theorem length_encode_pos (t : Ty) (val : t.Val) : 0 < (encode t val).length := by
  induction t with
  | int t => rw [encode, length_leBytes]; exact t.sizeof_pos
  | uid | string => rw [encode, encodeSized, List.length_append, length_le32]; omega
  | pair first second ih =>
    rw [encode, List.length_append]
    have := ih val.1
    omega

/-! ## Writing -/

/-- The size of the integer that the bytes of a value begin with. -/
def Ty.headSize : Ty → Nat
  | .int t => t.sizeof
  | .uid => 4
  | .string => 4
  | .pair first _ => first.headSize

def Shape.headSize : Shape → Nat
  | .value t => t.headSize
  | .container _ => 4
  | .map _ _ => 4

namespace CBufferWriter

/-- No write fails that has room for the integer that its value begins with. -/
def FailAtOnce : List Value → CBufferWriter → Prop
  | [], _ => True
  | v :: rest, w =>
    ((write v w).1 = false → w.room.toNat < v.1.headSize) ∧ FailAtOnce rest (write v w).2

/-- The array has the size that the writer was told, and is not left. -/
structure Valid (w : CBufferWriter) : Prop where
  holds : w.mpBuffer.length = w.mFullSize.toNat
  used_le : w.mUsedSize.toNat ≤ w.mFullSize.toNat

/-- The bytes that are used. -/
def used (w : CBufferWriter) : List UInt8 := w.mpBuffer.take w.mUsedSize.toNat

/-- What was used stays. -/
structure Grown (w w' : CBufferWriter) : Prop where
  valid : w'.Valid
  full : w'.mFullSize = w.mFullSize
  le : w.mUsedSize.toNat ≤ w'.mUsedSize.toNat
  kept : w'.mpBuffer.take w.mUsedSize.toNat = w.used

/-- What a write of these bytes comes to. -/
structure Wrote (w : CBufferWriter) (r : Result) (bytes : List UInt8) : Prop where
  grown : Grown w r.2
  written : r.1 = true → r.2.mUsedSize.toNat = w.mUsedSize.toNat + bytes.length ∧
    r.2.used = w.used ++ bytes

variable {w w' w'' : CBufferWriter}

theorem valid_new {pBuffer : List UInt8} {bufSize : UInt32}
    (h : pBuffer.length = bufSize.toNat) : (new pBuffer bufSize).Valid :=
  ⟨h, Nat.zero_le _⟩

theorem Valid.grown (h : w.Valid) : Grown w w := ⟨h, rfl, Nat.le_refl _, rfl⟩

theorem Valid.toNat_room (h : w.Valid) :
    w.room.toNat = w.mFullSize.toNat - w.mUsedSize.toNat := room_eq h.used_le

theorem Valid.length_used (h : w.Valid) : w.used.length = w.mUsedSize.toNat := by
  have := h.used_le
  rw [used, List.length_take, h.holds, Nat.min_eq_left this]

theorem Grown.trans (h : Grown w w') (h' : Grown w' w'') : Grown w w'' where
  valid := h'.valid
  full := h'.full.trans h.full
  le := h.le.trans h'.le
  kept := by
    have hkept := congrArg (List.take w.mUsedSize.toNat) h'.kept
    rwa [used, List.take_take, List.take_take, Nat.min_eq_left h.le, h.kept] at hkept

theorem Wrote.andThen {r : Result} {f : CBufferWriter → Result} {x y : List UInt8}
    (h : Wrote w r x) (hf : r.1 = true → Wrote r.2 (f r.2) y) :
    Wrote w (CBufferWriter.andThen r f) (x ++ y) := by
  rw [CBufferWriter.andThen]
  split
  · next hok =>
    obtain ⟨hsize, hused⟩ := h.written hok
    refine ⟨h.grown.trans (hf hok).grown, fun hok' => ?_⟩
    obtain ⟨hsize', hused'⟩ := (hf hok).written hok'
    rw [hsize', hused', hsize, hused, List.length_append, List.append_assoc]
    exact ⟨by omega, rfl⟩
  · next hfail => exact ⟨h.grown, fun hok => absurd hok hfail⟩

/-- The bytes are behind what was there. -/
theorem Valid.put (h : w.Valid) {bytes : List UInt8} {size : UInt32}
    (hroom : size.toNat ≤ w.room.toNat) (hlen : size.toNat ≤ bytes.length) :
    Wrote w (true, w.put bytes size) (bytes.take size.toNat) := by
  have hle := h.used_le
  rw [h.toNat_room] at hroom
  have htake : (bytes.take size.toNat).length = size.toNat := by
    rw [List.length_take, Nat.min_eq_left hlen]
  have hmove : (w.mUsedSize + size).toNat = w.mUsedSize.toNat + size.toNat :=
    move_eq (by omega : _ ≤ w.mFullSize.toNat)
  have hbuffer : w.mUsedSize.toNat ≤ w.mpBuffer.length := by rw [h.holds]; exact hle
  have hlength : (w.put bytes size).mpBuffer.length = w.mpBuffer.length :=
    length_writeAt (by rw [htake, h.holds]; omega)
  refine ⟨⟨⟨?_, ?_⟩, rfl, ?_, ?_⟩, fun _ => ⟨?_, ?_⟩⟩
  · rw [hlength]
    exact h.holds
  · show (w.mUsedSize + size).toNat ≤ w.mFullSize.toNat
    omega
  · show w.mUsedSize.toNat ≤ (w.mUsedSize + size).toNat
    omega
  · show (writeAt w.mpBuffer w.mUsedSize.toNat _).take w.mUsedSize.toNat = w.used
    rw [writeAt, List.append_assoc,
      List.take_left' (by rw [List.length_take, Nat.min_eq_left hbuffer]), used]
  · rw [htake]
    exact hmove
  · have hover : (writeAt w.mpBuffer w.mUsedSize.toNat (bytes.take size.toNat)).take
        (w.mUsedSize.toNat + (bytes.take size.toNat).length) =
        w.mpBuffer.take w.mUsedSize.toNat ++ bytes.take size.toNat := take_writeAt hbuffer
    rw [htake, ← hmove] at hover
    exact hover

theorem Valid.writeInt (h : w.Valid) (t : Width) (val : BitVec (8 * t.sizeof)) :
    Wrote w (writeInt t val w) (leBytes t.sizeof val.toNat) := by
  rw [CBufferWriter.writeInt]
  split
  · exact ⟨h.grown, fun hok => absurd hok Bool.false_ne_true⟩
  · next hroom =>
    have hlen : (leBytes t.sizeof val.toNat).length = t.sizeof := length_leBytes _ _
    have hput : Wrote w (true, w.put (leBytes t.sizeof val.toNat) (UInt32.ofNat t.sizeof))
        ((leBytes t.sizeof val.toNat).take (UInt32.ofNat t.sizeof).toNat) :=
      h.put (by rw [t.toNat_sizeof]; omega) (by rw [t.toNat_sizeof, hlen])
    rwa [List.take_of_length_le (by rw [t.toNat_sizeof, hlen])] at hput

theorem Valid.writeUInt32 (h : w.Valid) (val : UInt32) : Wrote w (writeUInt32 val w) (le32 val) :=
  h.writeInt .four val.toBitVec

theorem Valid.writeSized (h : w.Valid) (bytes : List UInt8) (size : UInt32)
    (hlen : size.toNat ≤ bytes.length) :
    Wrote w (writeSized bytes size w) (encodeSized bytes size) := by
  refine (h.writeUInt32 size).andThen fun _ => ?_
  have hvalid := (h.writeUInt32 size).grown.valid
  split
  · exact ⟨hvalid.grown, fun hok => absurd hok Bool.false_ne_true⟩
  · next hroom => exact hvalid.put (UInt32.le_iff_toNat_le.mp (UInt32.not_lt.mp hroom)) hlen

theorem toNat_ofNat_le (n : Nat) : (UInt32.ofNat n).toNat ≤ n := by
  rw [UInt32.toNat_ofNat']
  exact Nat.mod_le _ _

theorem Valid.writeValue (t : Ty) (val : t.Val) (h : w.Valid) :
    Wrote w (writeValue t val w) (encode t val) := by
  induction t generalizing w with
  | int t => exact h.writeInt t val
  | uid =>
    refine h.writeSized (val ++ [0]) _ ?_
    rw [List.length_append, List.length_singleton]
    exact toNat_ofNat_le _
  | string => exact h.writeSized val _ (toNat_ofNat_le _)
  | pair first second ih₁ ih₂ =>
    exact (ih₁ val.1 h).andThen fun _ => ih₂ val.2 (ih₁ val.1 h).grown.valid

/-! ### Ranges -/

/-- The loop counts the elements. -/
theorem Valid.writeElems {α : Type} {write : α → CBufferWriter → Result} {enc : α → List UInt8}
    (hwrite : ∀ (val : α) (w : CBufferWriter), w.Valid → Wrote w (write val w) (enc val))
    (range : List α) (size : UInt32) (h : w.Valid) :
    Wrote w (writeElems write range size w).2 (range.flatMap enc) ∧
      ((writeElems write range size w).2.1 = true →
        (writeElems write range size w).1 = size + UInt32.ofNat range.length) := by
  induction range generalizing w size with
  | nil =>
    refine ⟨⟨h.grown, fun _ => ?_⟩, fun _ => ?_⟩
    · simp [CBufferWriter.writeElems]
    · simp [CBufferWriter.writeElems]
  | cons val rest ih =>
    have hval := hwrite val w h
    rw [CBufferWriter.writeElems]
    split
    · next w' heq =>
      rw [heq] at hval
      exact ⟨⟨hval.grown, fun hok => absurd hok Bool.false_ne_true⟩,
        fun hok => absurd hok Bool.false_ne_true⟩
    · next w' heq =>
      rw [heq] at hval
      obtain ⟨hrest, hcount⟩ := ih (size + 1) hval.grown.valid
      refine ⟨?_, fun hok => ?_⟩
      · rw [List.flatMap_cons]
        exact @Wrote.andThen w (true, w') (fun w => (writeElems write rest (size + 1) w).2) _ _ hval
          fun _ => hrest
      · rw [hcount hok, List.length_cons, UInt32.add_assoc]
        congr 1
        rw [UInt32.ofNat_add, UInt32.add_comm]
        rfl

/-- The place of the count, which was kept free, is written at the end. -/
theorem Valid.writeRange {α : Type} {write : α → CBufferWriter → Result} {enc : α → List UInt8}
    (hwrite : ∀ (val : α) (w : CBufferWriter), w.Valid → Wrote w (write val w) (enc val))
    (range : List α) (h : w.Valid) :
    Wrote w (writeRange write range w) (encodeRange enc range) := by
  have hcount := h.writeUInt32 0
  rw [CBufferWriter.writeRange, CBufferWriter.andThen]
  split
  · next hok =>
    obtain ⟨hsize₁, hused₁⟩ := hcount.written hok
    obtain ⟨helems, hnumber⟩ := Valid.writeElems hwrite range 0 hcount.grown.valid
    dsimp only
    rw [CBufferWriter.andThen]
    split
    · next hok' =>
      obtain ⟨hsize₂, hused₂⟩ := helems.written hok'
      generalize hr : CBufferWriter.writeElems write range 0 (CBufferWriter.writeUInt32 0 w).2 = r at *
      have hgrown := hcount.grown.trans helems.grown
      rw [length_le32] at hsize₁
      have hplace : w.mUsedSize.toNat + (le32 r.1).length ≤ r.2.2.mUsedSize.toNat := by
        rw [length_le32]
        omega
      have hwhole : r.2.2.mUsedSize.toNat ≤ r.2.2.mpBuffer.length := by
        rw [hgrown.valid.holds]
        exact hgrown.valid.used_le
      have htake : r.2.2.mpBuffer.take r.2.2.mUsedSize.toNat =
          w.used ++ le32 0 ++ range.flatMap enc := by
        rw [← hused₁]
        exact hused₂
      have hover : (writeAt r.2.2.mpBuffer w.mUsedSize.toNat (le32 r.1)).take
          r.2.2.mUsedSize.toNat = w.used ++ le32 r.1 ++ range.flatMap enc := by
        refine take_writeAt_over htake h.length_used ?_ ?_
        · rw [length_le32, length_le32]
        · rw [length_le32]
          omega
      refine ⟨⟨⟨?_, hgrown.valid.used_le⟩, hgrown.full, hgrown.le, ?_⟩, fun _ => ⟨?_, ?_⟩⟩
      · exact (length_writeAt (by omega)).trans hgrown.valid.holds
      · have hleft := congrArg (List.take w.mUsedSize.toNat) hover
        rwa [List.take_take, Nat.min_eq_left hgrown.le, List.append_assoc,
          List.take_left' h.length_used] at hleft
      · rw [encodeRange, List.length_append, length_le32]
        show r.2.2.mUsedSize.toNat = _
        omega
      · rw [encodeRange, ← List.append_assoc]
        rw [hnumber hok', UInt32.zero_add] at hover
        rw [hnumber hok', UInt32.zero_add]
        exact hover
    · next hfail => exact ⟨hcount.grown.trans helems.grown, fun hok' => absurd hok' hfail⟩
  · next hfail => exact ⟨hcount.grown, fun hok => absurd hok hfail⟩

/-- **What a write comes to.** -/
theorem Valid.write (v : Value) (h : w.Valid) : Wrote w (write v w) (encodeValue v) := by
  obtain ⟨s, val⟩ := v
  cases s with
  | value t => exact h.writeValue t val
  | container t => exact h.writeRange (fun val w hw => hw.writeValue t val) val
  | map key mapped => exact h.writeRange (fun val w hw => hw.writeValue (.pair key mapped) val) val

/-! ### Writes that fail at once -/

theorem writeInt_full {t : Width} {val : BitVec (8 * t.sizeof)} (h : w.room.toNat < t.sizeof) :
    writeInt t val w = (false, w) := if_pos h

theorem writeUInt32_full {val : UInt32} (h : w.room.toNat < 4) :
    writeUInt32 val w = (false, w) := if_pos h

theorem writeSized_full {bytes : List UInt8} {size : UInt32} (h : w.room.toNat < 4) :
    writeSized bytes size w = (false, w) := by
  rw [writeSized, writeUInt32_full h]
  rfl

theorem writeValue_full (t : Ty) (val : t.Val) (h : w.room.toNat < t.headSize) :
    writeValue t val w = (false, w) := by
  induction t with
  | int t => exact writeInt_full h
  | uid | string => exact writeSized_full h
  | pair first second ih =>
    rw [writeValue, ih val.1 h]
    rfl

theorem writeRange_full {α : Type} {write : α → CBufferWriter → Result} {range : List α}
    (h : w.room.toNat < 4) : writeRange write range w = (false, w) := by
  rw [writeRange, writeUInt32_full h]
  rfl

/-- Where there is no room for the integer that a value begins with, nothing is written. -/
theorem write_full (v : Value) (h : w.room.toNat < v.1.headSize) : write v w = (false, w) := by
  obtain ⟨s, val⟩ := v
  cases s with
  | value t => exact writeValue_full t val h
  | container t => exact writeRange_full h
  | map key mapped => exact writeRange_full h

/-- **Writes that fail at once leave the others together.** -/
theorem Valid.used_writeEach (vs : List Value) (h : w.Valid) (hclean : FailAtOnce vs w) :
    (writeEach vs w).2.used = w.used ++ (writeEach vs w).1.flatMap encodeValue := by
  induction vs generalizing w with
  | nil => simp [CBufferWriter.writeEach]
  | cons v rest ih =>
    obtain ⟨hfirst, hrest⟩ := hclean
    have hv := h.write v
    rw [CBufferWriter.writeEach]
    dsimp only
    rw [ih hv.grown.valid hrest]
    split
    · next hok =>
      rw [(hv.written hok).2, List.flatMap_cons, List.append_assoc]
    · next hfail => rw [write_full v (hfirst (Bool.eq_false_of_not_eq_true hfail))]

theorem Valid.grown_writeEach (vs : List Value) (h : w.Valid) : Grown w (writeEach vs w).2 := by
  induction vs generalizing w with
  | nil => exact h.grown
  | cons v rest ih => exact (h.write v).grown.trans (ih (h.write v).grown.valid)

end CBufferWriter

/-! ## Reading -/

namespace CBufferReader

/-- The array has the size that the reader was told, and is not left. -/
structure Valid (r : CBufferReader) : Prop where
  holds : r.mpBuffer.length = r.mFullSize.toNat
  used_le : r.mUsedSize.toNat ≤ r.mFullSize.toNat

variable {r : CBufferReader}

theorem Valid.toNat_room (h : r.Valid) :
    r.room.toNat = r.mFullSize.toNat - r.mUsedSize.toNat := room_eq h.used_le

theorem Valid.length_ahead (h : r.Valid) : r.ahead.length = r.room.toNat := by
  rw [ahead, List.length_drop, h.holds, h.toNat_room]

theorem Valid.toNat_skip (h : r.Valid) {size : UInt32} (hroom : size.toNat ≤ r.room.toNat) :
    (r.skip size).mUsedSize.toNat = r.mUsedSize.toNat + size.toNat := by
  have hle := h.used_le
  rw [h.toNat_room] at hroom
  exact move_eq (by omega : _ ≤ r.mFullSize.toNat)

theorem Valid.skip (h : r.Valid) {size : UInt32} (hroom : size.toNat ≤ r.room.toNat) :
    (r.skip size).Valid := by
  have hmove := h.toNat_skip hroom
  have hle := h.used_le
  rw [h.toNat_room] at hroom
  refine ⟨h.holds, ?_⟩
  rw [hmove]
  show _ ≤ r.mFullSize.toNat
  omega

theorem Valid.ahead_skip (h : r.Valid) {size : UInt32} (hroom : size.toNat ≤ r.room.toNat) :
    (r.skip size).ahead = r.ahead.drop size.toNat := by
  rw [ahead, h.toNat_skip hroom, ahead, List.drop_drop]
  rfl

/-! ### What is read of the bytes of a value -/

/-- From these bytes the value is read, and they are passed, whatever comes behind them. -/
def Gives {α : Type} (rd : Read α) (val : α) (bytes : List UInt8) : Prop :=
  ∀ (r : CBufferReader) (rest : List UInt8), r.Valid → r.ahead = bytes ++ rest →
    ∃ r' : CBufferReader, rd r = (.ok val, r') ∧ r'.Valid ∧ r'.ahead = rest ∧
      r'.mUsedSize.toNat = r.mUsedSize.toNat + bytes.length

variable {α β : Type}

theorem bind_apply (x : Read α) (f : α → Read β) (r : CBufferReader) :
    (x >>= f) r = match x r with
      | (.ok a, r') => f a r'
      | (.error, r') => (.error, r')
      | (.beyond size, r') => (.beyond size, r') :=
  rfl

theorem gives_pure (val : α) : Gives (pure val) val [] :=
  fun r _ h hrest => ⟨r, rfl, h, hrest, rfl⟩

theorem gives_bind {x : Read α} {f : α → Read β} {a : α} {b : β} {bytes bytes' : List UInt8}
    (hx : Gives x a bytes) (hf : Gives (f a) b bytes') : Gives (x >>= f) b (bytes ++ bytes') := by
  intro r rest h hrest
  rw [List.append_assoc] at hrest
  obtain ⟨r₁, hr₁, hvalid₁, hahead₁, hused₁⟩ := hx r _ h hrest
  obtain ⟨r₂, hr₂, hvalid₂, hahead₂, hused₂⟩ := hf r₁ rest hvalid₁ hahead₁
  refine ⟨r₂, ?_, hvalid₂, hahead₂, ?_⟩
  · rw [bind_apply, hr₁]
    exact hr₂
  · rw [hused₂, hused₁, List.length_append]
    omega

theorem gives_map {x : Read α} {a : α} {bytes : List UInt8} (hx : Gives x a bytes) (f : α → β) :
    Gives (do let a ← x; return f a) (f a) bytes := by
  have h : Gives (x >>= fun a => pure (f a)) (f a) (bytes ++ []) := gives_bind hx (gives_pure (f a))
  rwa [List.append_nil] at h

theorem Valid.gives {size : UInt32} {bytes rest : List UInt8} (h : r.Valid)
    (hahead : r.ahead = bytes ++ rest) (hlen : bytes.length = size.toNat) :
    size.toNat ≤ r.room.toNat ∧ (r.skip size).Valid ∧ (r.skip size).ahead = rest ∧
      (r.skip size).mUsedSize.toNat = r.mUsedSize.toNat + bytes.length := by
  have hroom : size.toNat ≤ r.room.toNat := by
    rw [← h.length_ahead, hahead, List.length_append]
    omega
  refine ⟨hroom, h.skip hroom, ?_, ?_⟩
  · rw [h.ahead_skip hroom, hahead, ← hlen, List.drop_left]
  · rw [h.toNat_skip hroom, hlen]

theorem gives_readInt (t : Width) (val : BitVec (8 * t.sizeof)) :
    Gives (readInt t) val (leBytes t.sizeof val.toNat) := by
  intro r rest h hahead
  have hlen : (leBytes t.sizeof val.toNat).length = (UInt32.ofNat t.sizeof).toNat := by
    rw [length_leBytes, t.toNat_sizeof]
  obtain ⟨hroom, hvalid, hrest, hused⟩ := h.gives hahead hlen
  rw [t.toNat_sizeof] at hroom
  refine ⟨_, ?_, hvalid, hrest, hused⟩
  have htake : (leBytes t.sizeof val.toNat ++ rest).take t.sizeof =
      leBytes t.sizeof val.toNat := List.take_left' (length_leBytes _ _)
  have hpow : (256 : Nat) ^ t.sizeof = 2 ^ (8 * t.sizeof) := by
    rw [Nat.pow_mul]
  have hval : BitVec.ofNat (8 * t.sizeof) (ofLE (leBytes t.sizeof val.toNat)) = val := by
    rw [ofLE_leBytes, hpow]
    apply BitVec.eq_of_toNat_eq
    rw [BitVec.toNat_ofNat, Nat.mod_mod, Nat.mod_eq_of_lt val.isLt]
  rw [readInt, if_neg (by omega), hahead, htake, hval]

theorem gives_readUInt32 (val : UInt32) : Gives readUInt32 val (le32 val) :=
  gives_map (gives_readInt .four val.toBitVec) UInt32.ofBitVec

theorem gives_readSized {take : List UInt8 → UInt32 → Outcome α} {val : α} {bytes : List UInt8}
    {size : UInt32} (hlen : bytes.length = size.toNat)
    (htake : ∀ rest, take (bytes ++ rest) size = .ok val) :
    Gives (readSized take) val (encodeSized bytes size) := by
  rw [encodeSized, ← hlen, List.take_length]
  refine gives_bind (gives_readUInt32 size) ?_
  intro r rest h hahead
  obtain ⟨hroom, hvalid, hrest, hused⟩ := h.gives hahead hlen
  refine ⟨_, ?_, hvalid, hrest, hused⟩
  dsimp only
  rw [if_neg (UInt32.not_lt.mpr (UInt32.le_iff_toNat_le.mpr hroom)), hahead, htake]

theorem toNat_ofNat_lt {n : Nat} (h : n < 2 ^ 32) : (UInt32.ofNat n).toNat = n := by
  rw [UInt32.toNat_ofNat', Nat.mod_eq_of_lt h]

theorem gives_readString {val : List UInt8} (h : val.length < 2 ^ 32) :
    Gives readString val (encode .string val) := by
  refine gives_readSized (toNat_ofNat_lt h).symm fun rest => ?_
  rw [toNat_ofNat_lt h, if_pos (by simp), List.take_left]

theorem takeWhile_ne_zero {val : List UInt8} (h : 0 ∉ val) (rest : List UInt8) :
    (val ++ 0 :: rest).takeWhile (· ≠ 0) = val := by
  rw [List.takeWhile_append_of_pos]
  · simp
  · intro c hc
    simpa using fun hzero : c = 0 => h (hzero ▸ hc)

theorem gives_readUid {val : List UInt8} (h : val.length + 1 < 2 ^ 32) (hzero : 0 ∉ val) :
    Gives readUid val (encode .uid val) := by
  have hsize := toNat_ofNat_lt h
  refine gives_readSized (by rw [List.length_append, List.length_singleton, hsize]) fun rest => ?_
  have hone : (1 : UInt32) ≤ UInt32.ofNat (val.length + 1) := by
    rw [UInt32.le_iff_toNat_le, hsize]
    exact Nat.le_add_left ..
  have hsub : (UInt32.ofNat (val.length + 1) - 1).toNat = val.length := by
    rw [UInt32.toNat_sub_of_le _ _ hone, hsize]
    rfl
  have hlast : (val ++ [0] ++ rest)[val.length]? = some 0 := by
    rw [List.append_assoc, List.getElem?_append_right (Nat.le_refl _), Nat.sub_self]
    rfl
  rw [fromByteArray, hsub, hlast, List.append_assoc]
  exact (if_neg fun h0 => h0 rfl).trans (congrArg Outcome.ok (takeWhile_ne_zero hzero rest))

/-- The sizes fit into `UInt32`, and no uid has a character that is 0. -/
def Representable : (t : Ty) → t.Val → Prop
  | .int _, _ => True
  | .uid, val => List.length val + 1 < 2 ^ 32 ∧ 0 ∉ (val : List UInt8)
  | .string, val => List.length val < 2 ^ 32
  | .pair first second, val => Representable first val.1 ∧ Representable second val.2

theorem gives_readValue (t : Ty) (val : t.Val) (h : Representable t val) :
    Gives (readValue t) val (encode t val) := by
  induction t with
  | int t => exact gives_readInt t val
  | uid => exact gives_readUid h.1 h.2
  | string => exact gives_readString h
  | pair first second ih₁ ih₂ =>
    exact gives_bind (ih₁ val.1 h.1) (gives_map (ih₂ val.2 h.2) fun b => (val.1, b))

theorem gives_readElems {rd : Read α} {enc : α → List UInt8} {range : List α}
    (hrd : ∀ val ∈ range, Gives rd val (enc val)) :
    Gives (readElems rd range.length) range (range.flatMap enc) := by
  induction range with
  | nil => exact gives_pure []
  | cons val rest ih =>
    rw [List.length_cons, List.flatMap_cons]
    exact gives_bind (hrd val List.mem_cons_self)
      (gives_map (ih fun v hv => hrd v (List.mem_cons_of_mem _ hv)) (val :: ·))

theorem gives_readContainer {rd : Read α} {enc : α → List UInt8} {range : List α}
    (hlen : range.length < 2 ^ 32) (hrd : ∀ val ∈ range, Gives rd val (enc val)) :
    Gives (readContainer rd) range (encodeRange enc range) := by
  refine gives_bind (gives_readUInt32 _) ?_
  rw [toNat_ofNat_lt hlen]
  exact gives_readElems hrd

/-- Every value in it is representable. -/
def RepresentableValue : Value → Prop
  | ⟨.value t, val⟩ => Representable t val
  | ⟨.container t, range⟩ => ∀ val ∈ (range : List t.Val), Representable t val
  | ⟨.map key mapped, range⟩ =>
    ∀ val ∈ (range : List (key.Val × mapped.Val)), Representable (.pair key mapped) val

theorem length_range_le {t : Ty} (range : List t.Val) :
    range.length ≤ (encodeRange (encode t) range).length := by
  rw [encodeRange, List.length_append, List.length_flatMap]
  have hone := List.length_le_sum_of_one_le (range.map fun val => (encode t val).length) (by
    intro n hn
    obtain ⟨val, -, rfl⟩ := List.mem_map.mp hn
    exact length_encode_pos t val)
  rw [List.length_map] at hone
  omega

theorem gives_read (v : Value) (h : RepresentableValue v)
    (hlen : (encodeValue v).length < 2 ^ 32) : Gives (read v.1) v.2 (encodeValue v) := by
  obtain ⟨s, val⟩ := v
  cases s with
  | value t => exact gives_readValue t val h
  | container t =>
    exact gives_readContainer ((length_range_le val).trans_lt hlen) fun v hv =>
      gives_readValue t v (h v hv)
  | map key mapped =>
    have hcount := length_range_le (t := .pair key mapped) val
    exact gives_readContainer (hcount.trans_lt hlen) fun v hv =>
      gives_readValue (.pair key mapped) v (h v hv)

/-- **The values are read in their order.** -/
theorem gives_readAll (vs : List Value) (h : ∀ v ∈ vs, RepresentableValue v)
    (hlen : (vs.flatMap encodeValue).length < 2 ^ 32) :
    Gives (readAll (vs.map Sigma.fst)) vs (vs.flatMap encodeValue) := by
  induction vs with
  | nil => exact gives_pure []
  | cons v rest ih =>
    rw [List.flatMap_cons, List.length_append] at hlen
    rw [List.map_cons, List.flatMap_cons]
    exact gives_bind (gives_read v (h v List.mem_cons_self) (by omega))
      (gives_map (ih (fun v' hv' => h v' (List.mem_cons_of_mem _ hv')) (by omega)) (v :: ·))

/-! ### What is read of any bytes -/

/-- The call stays inside of the array, but for what it does with a size that is 0. -/
def Stays (rd : Read α) : Prop :=
  ∀ r : CBufferReader, r.Valid → (rd r).2.Valid ∧ (rd r).2.mFullSize = r.mFullSize ∧
    r.mUsedSize.toNat ≤ (rd r).2.mUsedSize.toNat ∧ ∀ size, (rd r).1 = .beyond size → size = 0

theorem stays_pure (val : α) : Stays (pure val : Read α) := by
  intro r h
  refine ⟨h, rfl, Nat.le_refl _, fun size hsize => ?_⟩
  cases hsize

theorem stays_bind {x : Read α} {f : α → Read β} (hx : Stays x) (hf : ∀ a, Stays (f a)) :
    Stays (x >>= f) := by
  intro r h
  obtain ⟨hvalid, hfull, hused, hbeyond⟩ := hx r h
  rw [bind_apply]
  cases hr : x r with
  | mk o r' =>
    rw [hr] at hvalid hfull hused hbeyond
    cases o with
    | ok a =>
      obtain ⟨hvalid', hfull', hused', hbeyond'⟩ := hf a r' hvalid
      exact ⟨hvalid', hfull'.trans hfull, hused.trans hused', hbeyond'⟩
    | error =>
      refine ⟨hvalid, hfull, hused, fun size hsize => ?_⟩
      cases hsize
    | beyond n =>
      refine ⟨hvalid, hfull, hused, fun size hsize => ?_⟩
      cases hsize
      exact hbeyond n rfl

theorem Valid.stays_skip (h : r.Valid) {size : UInt32} (hroom : size.toNat ≤ r.room.toNat) :
    (r.skip size).Valid ∧ (r.skip size).mFullSize = r.mFullSize ∧
      r.mUsedSize.toNat ≤ (r.skip size).mUsedSize.toNat := by
  refine ⟨h.skip hroom, rfl, ?_⟩
  rw [h.toNat_skip hroom]
  exact Nat.le_add_right _ _

theorem stays_readInt (t : Width) : Stays (readInt t) := by
  intro r h
  rw [readInt]
  split
  · refine ⟨h, rfl, Nat.le_refl _, fun size hsize => ?_⟩
    cases hsize
  · next hroom =>
    obtain ⟨hvalid, hfull, hused⟩ :=
      h.stays_skip (show (UInt32.ofNat t.sizeof).toNat ≤ _ by rw [t.toNat_sizeof]; omega)
    refine ⟨hvalid, hfull, hused, fun size hsize => ?_⟩
    cases hsize

theorem stays_readUInt32 : Stays readUInt32 :=
  stays_bind (stays_readInt .four) fun _ => stays_pure _

/-- What is taken is inside of the array, where the size in front of it fits. -/
theorem stays_readSized {take : List UInt8 → UInt32 → Outcome α}
    (htake : ∀ pArr size n, size.toNat ≤ pArr.length → take pArr size = .beyond n → n = 0) :
    Stays (readSized take) := by
  refine stays_bind stays_readUInt32 fun size r h => ?_
  split
  · refine ⟨h, rfl, Nat.le_refl _, fun n hn => ?_⟩
    cases hn
  · next hroom =>
    have hle := UInt32.le_iff_toNat_le.mp (UInt32.not_lt.mp hroom)
    obtain ⟨hvalid, hfull, hused⟩ := h.stays_skip hle
    exact ⟨hvalid, hfull, hused, fun n hn => htake _ size n (h.length_ahead ▸ hle) hn⟩

theorem stays_readUid : Stays readUid := by
  refine stays_readSized fun pArr size n hle hn => ?_
  rw [fromByteArray] at hn
  split at hn
  · next hnone =>
    cases hn
    by_contra hne
    have hone : (1 : UInt32) ≤ size := by
      rw [UInt32.le_iff_toNat_le]
      exact Nat.pos_of_ne_zero fun h0 => hne (UInt32.toNat_inj.mp h0)
    have hsub : (size - 1).toNat = size.toNat - 1 := UInt32.toNat_sub_of_le _ _ hone
    have hpos := UInt32.le_iff_toNat_le.mp hone
    rw [List.getElem?_eq_none_iff, hsub] at hnone
    have : (1 : UInt32).toNat = 1 := rfl
    omega
  · split at hn <;> cases hn

theorem stays_readString : Stays readString := by
  refine stays_readSized fun pArr size n hle hn => ?_
  rw [if_pos hle] at hn
  cases hn

theorem stays_readValue (t : Ty) : Stays (readValue t) := by
  induction t with
  | int t => exact stays_readInt t
  | uid => exact stays_readUid
  | string => exact stays_readString
  | pair first second ih₁ ih₂ =>
    exact stays_bind ih₁ fun _ => stays_bind ih₂ fun _ => stays_pure _

theorem stays_readElems {rd : Read α} (hrd : Stays rd) (n : Nat) : Stays (readElems rd n) := by
  induction n with
  | zero => exact stays_pure []
  | succ n ih => exact stays_bind hrd fun _ => stays_bind ih fun _ => stays_pure _

theorem stays_read (s : Shape) : Stays (read s) := by
  cases s with
  | value t => exact stays_readValue t
  | container t => exact stays_bind stays_readUInt32 fun _ => stays_readElems (stays_readValue t) _
  | map key mapped =>
    exact stays_bind stays_readUInt32 fun _ =>
      stays_readElems (stays_readValue (.pair key mapped)) _

theorem Valid.readEach (ss : List Shape) (h : r.Valid) :
    (readEach ss r).Valid ∧ (readEach ss r).mFullSize = r.mFullSize := by
  induction ss generalizing r with
  | nil => exact ⟨h, rfl⟩
  | cons s rest ih =>
    obtain ⟨hvalid, hfull, -⟩ := stays_read s r h
    obtain ⟨hvalid', hfull'⟩ := ih hvalid
    exact ⟨hvalid', hfull'.trans hfull⟩

/-! ### What is read is representable -/

/-- The call leaves the array as it is, and what comes of it has the property. -/
def Yields (rd : Read α) (P : α → Prop) : Prop :=
  ∀ (r r' : CBufferReader) (val : α), r.mpBuffer.length < 2 ^ 32 → rd r = (.ok val, r') →
    r'.mpBuffer = r.mpBuffer ∧ P val

theorem yields_pure {P : α → Prop} {val : α} (h : P val) : Yields (pure val) P := by
  intro r r' val' _ heq
  cases heq
  exact ⟨rfl, h⟩

theorem yields_bind {x : Read α} {f : α → Read β} {P : α → Prop} {Q : β → Prop}
    (hx : Yields x P) (hf : ∀ a, P a → Yields (f a) Q) : Yields (x >>= f) Q := by
  intro r r' val hlen heq
  rw [bind_apply] at heq
  cases hr : x r with
  | mk o r₁ =>
    rw [hr] at heq
    cases o with
    | ok a =>
      obtain ⟨hbuffer, ha⟩ := hx r r₁ a hlen hr
      obtain ⟨hbuffer', hval⟩ := hf a ha r₁ r' val (hbuffer ▸ hlen) heq
      exact ⟨hbuffer'.trans hbuffer, hval⟩
    | error => cases heq
    | beyond size => cases heq

theorem Yields.imp {rd : Read α} {P Q : α → Prop} (h : Yields rd P) (himp : ∀ val, P val → Q val) :
    Yields rd Q :=
  fun r r' val hlen heq => (h r r' val hlen heq).imp_right (himp val)

theorem yields_readInt (t : Width) : Yields (readInt t) fun _ => True := by
  intro r r' val _ heq
  rw [readInt] at heq
  split at heq
  · cases heq
  · obtain ⟨-, rfl⟩ := Prod.mk.inj heq
    exact ⟨rfl, trivial⟩

theorem yields_readUInt32 : Yields readUInt32 fun _ => True :=
  yields_bind (yields_readInt .four) fun _ _ => yields_pure trivial

theorem yields_readSized {take : List UInt8 → UInt32 → Outcome α} {P : α → Prop}
    (htake : ∀ pArr size val, pArr.length < 2 ^ 32 → take pArr size = .ok val → P val) :
    Yields (readSized take) P := by
  refine yields_bind yields_readUInt32 fun size _ r r' val hlen heq => ?_
  split at heq
  · cases heq
  · obtain ⟨hval, rfl⟩ := Prod.mk.inj heq
    refine ⟨rfl, htake r.ahead size val ?_ hval⟩
    rw [ahead, List.length_drop]
    omega

/-- The characters end before the last one that was looked at. -/
theorem yields_readUid :
    Yields readUid fun val => List.length val + 1 < 2 ^ 32 ∧ 0 ∉ (val : List UInt8) := by
  refine yields_readSized fun pArr size val hlen heq => ?_
  rw [fromByteArray] at heq
  split at heq
  · cases heq
  · next last hlast =>
    split at heq
    · cases heq
    · next hzero =>
      cases heq
      have hmem : (0 : UInt8) ∈ pArr := not_not.mp hzero ▸ List.mem_of_getElem? hlast
      have hstop : (0 : UInt8) ∉ pArr.takeWhile (· ≠ 0) := by
        intro h
        simpa using List.mem_takeWhile_imp h
      have hne : pArr.takeWhile (· ≠ 0) ≠ pArr := fun h => hstop (h.symm ▸ hmem)
      have hstart := List.takeWhile_prefix (l := pArr) fun c => decide (c ≠ 0)
      have hshort := Nat.lt_of_le_of_ne hstart.length_le fun h => hne (hstart.eq_of_length h)
      exact ⟨by omega, hstop⟩

theorem yields_readString : Yields readString fun val => List.length val < 2 ^ 32 := by
  refine yields_readSized fun pArr size val hlen heq => ?_
  split at heq
  · cases heq
    rw [List.length_take]
    omega
  · cases heq

theorem yields_readValue (t : Ty) : Yields (readValue t) (Representable t) := by
  induction t with
  | int t => exact yields_readInt t
  | uid => exact yields_readUid
  | string => exact yields_readString
  | pair first second ih₁ ih₂ =>
    exact yields_bind ih₁ fun a ha => yields_bind ih₂ fun b hb => yields_pure ⟨ha, hb⟩

theorem yields_readElems {rd : Read α} {P : α → Prop} (hrd : Yields rd P) (n : Nat) :
    Yields (readElems rd n) fun vals => ∀ val ∈ vals, P val := by
  induction n with
  | zero => exact yields_pure (List.forall_mem_nil P)
  | succ n ih =>
    exact yields_bind hrd fun val hval => yields_bind ih fun rest hrest =>
      yields_pure (List.forall_mem_cons.mpr ⟨hval, hrest⟩)

/-- **What is read is representable.** -/
theorem yields_read (s : Shape) : Yields (read s) fun val => RepresentableValue ⟨s, val⟩ := by
  cases s with
  | value t => exact yields_readValue t
  | container t =>
    exact yields_bind yields_readUInt32 fun _ _ => yields_readElems (yields_readValue t) _
  | map key mapped =>
    exact yields_bind yields_readUInt32 fun _ _ =>
      yields_readElems (yields_readValue (.pair key mapped)) _

end CBufferReader

/-! ## Both -/

open CBufferWriter (writeEach FailAtOnce)
open CBufferReader (read readAll readEach RepresentableValue stays_read gives_readAll)

/-- **A writer and a reader**: never is more used than there is; what was written with success is
read back, where no write has left a part of its value; and a reader of any bytes is never taken
out of the array by a size. -/
theorem writer_reader (pBuffer : List UInt8) (bufSize : UInt32)
    (hsize : pBuffer.length = bufSize.toNat) :
    (∀ vs : List Value,
      (writeEach vs (.new pBuffer bufSize)).2.mUsedSize ≤ bufSize ∧
      (writeEach vs (.new pBuffer bufSize)).2.mpBuffer.length = pBuffer.length ∧
      (FailAtOnce vs (.new pBuffer bufSize) →
        (∀ v ∈ (writeEach vs (.new pBuffer bufSize)).1, RepresentableValue v) →
        ∀ given : UInt32, (writeEach vs (.new pBuffer bufSize)).2.mUsedSize ≤ given →
          given ≤ bufSize →
          ∃ r, readAll ((writeEach vs (.new pBuffer bufSize)).1.map Sigma.fst)
              (.new ((writeEach vs (.new pBuffer bufSize)).2.mpBuffer.take given.toNat) given) =
                (.ok (writeEach vs (.new pBuffer bufSize)).1, r) ∧
            r.mUsedSize = (writeEach vs (.new pBuffer bufSize)).2.mUsedSize)) ∧
    ∀ ss : List Shape, (readEach ss (.new pBuffer bufSize)).mUsedSize ≤ bufSize ∧
      ∀ s size, (read s (readEach ss (.new pBuffer bufSize))).1 = .beyond size → size = 0 := by
  have hw : (CBufferWriter.new pBuffer bufSize).Valid := CBufferWriter.valid_new hsize
  constructor
  · intro vs
    have hgrown := hw.grown_writeEach vs
    generalize hr : writeEach vs (CBufferWriter.new pBuffer bufSize) = r at hgrown
    have hfull : r.2.mFullSize = bufSize := hgrown.full
    have hle := hgrown.valid.used_le
    rw [hfull] at hle
    refine ⟨UInt32.le_iff_toNat_le.mpr hle, ?_, ?_⟩
    · rw [hgrown.valid.holds, hfull, hsize]
    · intro hclean hrepr given hused hgiven
      rw [UInt32.le_iff_toNat_le] at hused hgiven
      have hbytes := hw.used_writeEach vs hclean
      rw [hr] at hbytes
      have hlen := congrArg List.length hbytes
      have hnone : (CBufferWriter.new pBuffer bufSize).used = [] := List.take_zero
      rw [hnone, List.nil_append, hgrown.valid.length_used] at hlen
      rw [hnone, List.nil_append] at hbytes
      have htake : (r.2.mpBuffer.take given.toNat).length = given.toNat := by
        rw [List.length_take, hgrown.valid.holds, hfull, Nat.min_eq_left hgiven]
      have hahead : r.2.mpBuffer.take given.toNat = r.1.flatMap encodeValue ++
          (r.2.mpBuffer.take given.toNat).drop r.2.mUsedSize.toNat := by
        rw [← hbytes, CBufferWriter.used]
        conv_lhs => rw [← List.take_append_drop r.2.mUsedSize.toNat (r.2.mpBuffer.take given.toNat)]
        rw [List.take_take, Nat.min_eq_left hused]
      obtain ⟨r', hread, -, -, hused'⟩ := gives_readAll r.1 hrepr
        (by rw [← hlen]; exact r.2.mUsedSize.toNat_lt)
        (.new (r.2.mpBuffer.take given.toNat) given) _ ⟨htake, Nat.zero_le _⟩ hahead
      refine ⟨r', hread, UInt32.toNat_inj.mp ?_⟩
      rw [hused', ← hlen]
      exact Nat.zero_add _
  · intro ss
    have hr : (CBufferReader.new pBuffer bufSize).Valid := ⟨hsize, Nat.zero_le _⟩
    obtain ⟨hvalid, hfull⟩ := hr.readEach ss
    refine ⟨UInt32.le_iff_toNat_le.mpr ?_, fun s size => (stays_read s _ hvalid).2.2.2 size⟩
    exact hvalid.used_le.trans (Nat.le_of_eq (congrArg UInt32.toNat hfull))

/-- A map, a uid, and a string that does not fit, of which not even the size does. -/
def threeValues : List Value :=
  [⟨.map .string (.int .one), [([97], 1), ([98], 2)]⟩, ⟨.value .uid, [99]⟩,
    ⟨.value (.pair .string .uid), ([100], [101])⟩]

theorem writer_reader_three :
    ∃ r, readAll [.map .string (.int .one), .value .uid]
        (.new ((writeEach threeValues (.new (List.replicate 24 7) 24)).2.mpBuffer.take 24) 24) =
      (.ok [⟨.map .string (.int .one), [([97], 1), ([98], 2)]⟩, ⟨.value .uid, [99]⟩], r) := by
  have hwritten : (writeEach threeValues (.new (List.replicate 24 7) 24)).1 =
      [⟨.map .string (.int .one), [([97], 1), ([98], 2)]⟩, ⟨.value .uid, [99]⟩] := rfl
  have hclean : FailAtOnce threeValues (.new (List.replicate 24 7) 24) := by
    refine ⟨?_, ?_, ?_, trivial⟩ <;> decide
  obtain ⟨hused, -, hread⟩ := (writer_reader (List.replicate 24 7) 24 rfl).1 threeValues
  rw [hwritten] at hread
  have hrepr : ∀ v ∈ ([⟨.map .string (.int .one), [([97], 1), ([98], 2)]⟩, ⟨.value .uid, [99]⟩] :
      List Value), RepresentableValue v := by
    rw [List.forall_mem_cons, List.forall_mem_singleton]
    refine ⟨?_, by decide, by decide⟩
    rintro ⟨key, mapped⟩ hmem
    have hkey : key = [97] ∨ key = [98] := by
      rcases List.mem_cons.mp hmem with h | h
      · exact Or.inl (Prod.mk.inj h).1
      · exact Or.inr (Prod.mk.inj (List.mem_singleton.mp h)).1
    rcases hkey with rfl | rfl
    · exact ⟨show 1 < 2 ^ 32 by decide, trivial⟩
    · exact ⟨show 1 < 2 ^ 32 by decide, trivial⟩
  obtain ⟨r, hr, -⟩ := hread hclean hrepr 24 hused (UInt32.le_refl _)
  exact ⟨r, hr⟩

/-- A string for which there is room only for the size, and a byte. -/
theorem size_left_behind :
    (writeEach [⟨.value .string, [97, 98, 99]⟩, ⟨.value (.int .one), (7 : BitVec 8)⟩]
        (.new (List.replicate 6 0) 6)).1 = [⟨.value (.int .one), (7 : BitVec 8)⟩] ∧
      (read (.value (.int .one)) (.new (writeEach [⟨.value .string, [97, 98, 99]⟩,
        ⟨.value (.int .one), (7 : BitVec 8)⟩] (.new (List.replicate 6 0) 6)).2.mpBuffer 6)).1 =
        .ok (3 : BitVec 8) :=
  ⟨rfl, rfl⟩

end IviLink.Ipc.Helpers
