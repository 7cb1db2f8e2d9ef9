import IviLink.ProfileLibrary.Buffer
import Mathlib.Tactic.Common

/-!
# What is written to a `Buffer` and what is read from it

`encode` says which bytes a value stands for. Reading takes exactly the bytes of
the value it gives (`Took`), whatever the bytes are. Writing puts exactly the
bytes of the value behind what is there (`Wrote`) unless a range that is not
empty ends where the buffer ends: then the last `setWritePosition` is refused,
the write position stays behind the count, and what is written next goes over
the elements. A string whose length does not fit `UInt32` is the other way to
lose bytes.
-/

namespace IviLink.ProfileLibrary

open IviLink.Lib

/-! ## Calls -/

namespace Call

variable {α β : Type}

theorem bind_apply (x : Call α) (f : α → Call β) (b : Buffer) :
    (x >>= f) b = match x b with
      | (some a, b') => f a b'
      | (none, b') => (none, b') :=
  rfl

theorem bind_some {x : Call α} {f : α → Call β} {b b' : Buffer} {a : α}
    (h : x b = (some a, b')) : (x >>= f) b = f a b' := by
  rw [bind_apply, h]

theorem bind_none {x : Call α} {f : α → Call β} {b b' : Buffer}
    (h : x b = (none, b')) : (x >>= f) b = (none, b') := by
  rw [bind_apply, h]

theorem bind_eq_some {x : Call α} {f : α → Call β} {b b' : Buffer} {r : β} :
    (x >>= f) b = (some r, b') ↔ ∃ a b₁, x b = (some a, b₁) ∧ f a b₁ = (some r, b') := by
  constructor
  · intro h
    cases hx : x b with
    | mk o b₁ =>
      cases o with
      | some a => exact ⟨a, b₁, rfl, (bind_some hx).symm.trans h⟩
      | none => cases (bind_none hx).symm.trans h
  · rintro ⟨a, b₁, hx, hf⟩
    rw [bind_some hx, hf]

theorem pure_eq_some {a r : α} {b b' : Buffer} :
    (pure a : Call α) b = (some r, b') ↔ r = a ∧ b' = b := by
  show (some a, b) = (some r, b') ↔ _
  simp only [Prod.mk.injEq, Option.some.injEq, eq_comm]

end Call

/-! ## The bytes a value stands for -/

theorem bswap_bswap {n : Nat} (x : BitVec (8 * n)) : bswap (bswap x) = x := by
  have hpow : (256 : Nat) ^ n = 2 ^ (8 * n) := by norm_num [pow_mul]
  have hx : x.toNat < 256 ^ n := hpow ▸ x.isLt
  have hlen : (leBytes n x.toNat).reverse.length = n := by simp
  have hlt : ofLE (leBytes n x.toNat).reverse < 256 ^ n := by
    have h := ofLE_lt (leBytes n x.toNat).reverse
    rwa [hlen] at h
  have hto : (bswap x).toNat = ofLE (leBytes n x.toNat).reverse := by
    unfold bswap
    rw [BitVec.toNat_ofNat, ← hpow, Nat.mod_eq_of_lt hlt]
  have hback : leBytes n (ofLE (leBytes n x.toNat).reverse) = (leBytes n x.toNat).reverse := by
    have h := leBytes_ofLE (leBytes n x.toNat).reverse
    rwa [hlen] at h
  apply BitVec.eq_of_toNat_eq
  unfold bswap at hto ⊢
  rw [hto, hback, List.reverse_reverse, ofLE_leBytes, Nat.mod_eq_of_lt hx, BitVec.toNat_ofNat,
    ← hpow, Nat.mod_eq_of_lt hx]

theorem CEndianConverter.ntoh_hton (t : IntType) (v : t.Val) : ntoh t (hton t v) = v := by
  cases t with
  | Int8 | UInt8 => rfl
  | Int16 | UInt16 | Int32 | UInt32 | Int64 | UInt64 => exact bswap_bswap v

theorem IntType.sizeof_pos (t : IntType) : 0 < t.sizeof := by
  cases t <;> simp [IntType.sizeof]

theorem IntType.sizeof_le (t : IntType) : t.sizeof ≤ 8 := by
  cases t <;> simp [IntType.sizeof]

/-- The bytes of an integer in the buffer. -/
def encodeInt (conv : Bool) (t : IntType) (v : t.Val) : List UInt8 :=
  leBytes t.sizeof (if conv then CEndianConverter.hton t v else v).toNat

/-- A count or a length in the buffer. -/
def encodeCount (conv : Bool) (n : UInt32) : List UInt8 := encodeInt conv .UInt32 n.toBitVec

/-- The bytes of a value. -/
def encode (conv : Bool) : (t : Ty) → t.Val → List UInt8
  | .int t, v => encodeInt conv t v
  | .string, s => encodeCount conv (UInt32.ofNat s.length) ++ s
  | .pair first second, v => encode conv first v.1 ++ encode conv second v.2
  | .container t, l =>
    encodeCount conv (UInt32.ofNat l.length) ++ List.flatMap (encode conv t) l

/-- The bytes of a sequence of values. -/
def encodeAll (conv : Bool) (vs : List (Σ t : Ty, t.Val)) : List UInt8 :=
  vs.flatMap (fun v => encode conv v.1 v.2)

/-- How many bytes that is. -/
def wireSize : (t : Ty) → t.Val → Nat
  | .int t, _ => t.sizeof
  | .string, s => 4 + List.length s
  | .pair first second, v => wireSize first v.1 + wireSize second v.2
  | .container t, l => 4 + (List.map (wireSize t) l).sum

/-- The least number of bytes a value of a type takes. -/
def Ty.minSize : Ty → Nat
  | .int t => t.sizeof
  | .string => 4
  | .pair first second => first.minSize + second.minSize
  | .container _ => 4

theorem Ty.minSize_pos (t : Ty) : 0 < t.minSize := by
  induction t with
  | int t => exact t.sizeof_pos
  | string | container => exact Nat.succ_pos 3
  | pair first second ih _ => exact Nat.add_pos_left ih _

theorem minSize_le (t : Ty) (v : t.Val) : t.minSize ≤ wireSize t v := by
  induction t with
  | int t => exact Nat.le_refl _
  | string | container => exact Nat.le_add_right 4 _
  | pair first second ih₁ ih₂ => exact Nat.add_le_add (ih₁ v.1) (ih₂ v.2)

@[simp] theorem length_encodeInt (conv : Bool) (t : IntType) (v : t.Val) :
    (encodeInt conv t v).length = t.sizeof := length_leBytes _ _

@[simp] theorem length_encodeCount (conv : Bool) (n : UInt32) :
    (encodeCount conv n).length = 4 := length_encodeInt conv .UInt32 _

theorem length_encode (conv : Bool) (t : Ty) (v : t.Val) :
    (encode conv t v).length = wireSize t v := by
  induction t with
  | int t => exact length_encodeInt conv t v
  | string =>
    unfold encode wireSize
    rw [List.length_append, length_encodeCount]
  | pair first second ih₁ ih₂ =>
    unfold encode wireSize
    rw [List.length_append, ih₁, ih₂]
  | container t ih =>
    unfold encode wireSize
    rw [List.length_append, length_encodeCount, List.length_flatMap]
    simp only [ih]

theorem length_encodeAll (conv : Bool) (vs : List (Σ t : Ty, t.Val)) :
    (encodeAll conv vs).length = (vs.map (fun v => wireSize v.1 v.2)).sum := by
  unfold encodeAll
  rw [List.length_flatMap]
  simp only [length_encode]

theorem length_le_sum {t : Ty} (l : List t.Val) :
    l.length * t.minSize ≤ (l.map (wireSize t)).sum := by
  induction l with
  | nil => simp
  | cons v l ih =>
    have hv := minSize_le t v
    simp only [List.length_cons, List.map_cons, List.sum_cons]
    rw [Nat.succ_mul]
    omega

/-! ## What a read takes -/

/-- The array has the size the buffer was told, and both positions lie in it. -/
structure Buffer.Valid (b : Buffer) : Prop where
  holds : b.mpBuffer.length = b.mSize.toNat
  read_le : b.mReadPos.toNat ≤ b.mSize.toNat
  write_le : b.mWritePos.toNat ≤ b.mSize.toNat

theorem valid_new {pBuffer : List UInt8} {size : UInt32} (conv : Bool)
    (h : pBuffer.length = size.toNat) : (Buffer.new pBuffer size conv).Valid :=
  { holds := h, read_le := Nat.zero_le _, write_le := Nat.zero_le _ }

theorem toNat_sizeof (t : IntType) : (UInt32.ofNat t.sizeof).toNat = t.sizeof := by
  have h := t.sizeof_le
  rw [UInt32.toNat_ofNat']
  exact Nat.mod_eq_of_lt (by omega)

/-- What a call to `read` did: only the read position moved, forwards and inside
the buffer, and by exactly the bytes of what it gave. -/
structure Took {α : Type} (size : α → Nat) (b : Buffer) (r : Option α × Buffer) : Prop where
  frame : r.2 = { b with mReadPos := r.2.mReadPos }
  least : b.mReadPos.toNat ≤ r.2.mReadPos.toNat
  within : r.2.mReadPos.toNat ≤ b.mSize.toNat
  exact : ∀ v, r.1 = some v → r.2.mReadPos.toNat = b.mReadPos.toNat + size v

/-- A read that behaves so in every buffer. -/
def Reads {α : Type} (rd : Call α) (size : α → Nat) : Prop :=
  ∀ b : Buffer, b.Valid → Took size b (rd b)

section Reads

variable {α β : Type} {size : α → Nat}

theorem Took.valid {b : Buffer} {r : Option α × Buffer} (h : Took size b r) (hb : b.Valid) :
    r.2.Valid := by
  rw [h.frame]
  exact { holds := hb.holds, read_le := h.within, write_le := hb.write_le }

theorem Took.mSize {b : Buffer} {r : Option α × Buffer} (h : Took size b r) :
    r.2.mSize = b.mSize := by rw [h.frame]

/-- A read that failed before it moved. -/
theorem took_none {b : Buffer} (hb : b.Valid) : Took size b ((none : Option α), b) :=
  { frame := rfl, least := Nat.le_refl _, within := hb.read_le,
    exact := fun _ h => (Option.some_ne_none _ h.symm).elim }

/-- A call that failed gave nothing, of whatever type. -/
theorem Took.failed {b b₁ : Buffer} {size' : β → Nat}
    (h : Took size b ((none : Option α), b₁)) : Took size' b ((none : Option β), b₁) :=
  { frame := h.frame, least := h.least, within := h.within,
    exact := fun _ h => (Option.some_ne_none _ h.symm).elim }

/-- Nothing more is read once a value is complete. -/
theorem took_pure {b : Buffer} {v : α} (hb : b.Valid) (hv : size v = 0) :
    Took size b (some v, b) :=
  { frame := rfl, least := Nat.le_refl _, within := hb.read_le,
    exact := fun w hw => by cases hw; rw [hv, Nat.add_zero] }

/-- A read of `n` bytes that are there. -/
theorem took_bytes {b : Buffer} {v : α} {n : UInt32}
    (hroom : b.mReadPos.toNat + n.toNat ≤ b.mSize.toNat) (hv : size v = n.toNat) :
    Took size b (some v, { b with mReadPos := b.mReadPos + n }) := by
  have hpos : (b.mReadPos + n).toNat = b.mReadPos.toNat + n.toNat := move_eq hroom
  constructor
  case frame => rfl
  case least =>
    show b.mReadPos.toNat ≤ (b.mReadPos + n).toNat
    omega
  case within =>
    show (b.mReadPos + n).toNat ≤ b.mSize.toNat
    omega
  case exact =>
    intro w hw
    cases hw
    show (b.mReadPos + n).toNat = _
    omega

theorem reads_readInternal (t : IntType) : Reads (Buffer.readInternal t) (fun _ => t.sizeof) := by
  intro b hb
  unfold Buffer.readInternal
  have hroom := room_eq hb.read_le
  have hle := hb.read_le
  split
  · exact took_none hb
  · have hsz := toNat_sizeof t
    exact took_bytes (by omega) hsz.symm

/-- A second read after one that succeeded. -/
theorem took_trans {size' : β → Nat} {size'' : β → Nat} {b b₁ : Buffer} {a : α}
    {r : Option β × Buffer} (h₁ : Took size b (some a, b₁)) (h₂ : Took size' b₁ r)
    (hs : ∀ v, r.1 = some v → size'' v = size a + size' v) : Took size'' b r := by
  have hpos := h₁.exact a rfl
  have hle := h₁.least
  have hsize := h₁.mSize
  have hframe := h₁.frame
  have hle₂ := h₂.least
  simp only at hpos hle hsize hframe
  constructor
  case frame => rw [h₂.frame, hframe]
  case least => omega
  case within => rw [← hsize]; exact h₂.within
  case exact =>
    intro v hv
    have hv₂ := h₂.exact v hv
    have hs := hs v hv
    omega

/-- One read after another, the second with what the first gave. -/
theorem reads_bind {x : Call α} {f : α → Call β} {sizeβ : β → Nat} (hx : Reads x size)
    (hf : ∀ a b, b.Valid → ∃ size', Took size' b (f a b) ∧
      ∀ v, (f a b).1 = some v → sizeβ v = size a + size' v) : Reads (x >>= f) sizeβ := by
  intro b hb
  have hx := hx b hb
  cases hxb : x b with
  | mk o b₁ =>
    rw [hxb] at hx
    cases o with
    | some a =>
      rw [Call.bind_some hxb]
      obtain ⟨size', htook, hsz⟩ := hf a b₁ (hx.valid hb)
      exact took_trans hx htook hsz
    | none =>
      rw [Call.bind_none hxb]
      exact hx.failed

theorem reads_readUInt32 : Reads Buffer.readUInt32 (fun _ => 4) := by
  apply reads_bind (reads_readInternal .UInt32)
  intro a b hb
  exact ⟨fun _ => 0, took_pure hb rfl, fun _ _ => rfl⟩

theorem reads_readRaw (n : UInt32) : Reads (Buffer.readRaw n) List.length := by
  intro b hb
  have hroom := room_eq hb.read_le
  have hle := hb.read_le
  unfold Buffer.readRaw
  split
  · exact took_none hb
  · next hn =>
    have hn : n.toNat ≤ (b.mSize - b.mReadPos).toNat := Nat.le_of_not_lt hn
    refine took_bytes (by omega) ?_
    rw [List.length_take, List.length_drop, hb.holds, Nat.min_eq_left]
    omega

theorem reads_readString : Reads Buffer.readString (wireSize .string) := by
  apply reads_bind reads_readUInt32
  intro n b hb
  exact ⟨List.length, reads_readRaw n b hb, fun _ _ => rfl⟩

theorem reads_pair {x : Call α} {y : Call β} {sizeβ : β → Nat} (hx : Reads x size)
    (hy : Reads y sizeβ) :
    Reads (do let a ← x; let b ← y; pure (a, b)) (fun v : α × β => size v.1 + sizeβ v.2) := by
  apply reads_bind hx
  intro a b hb
  refine ⟨fun v : α × β => sizeβ v.2, ?_, ?_⟩
  · refine reads_bind hy ?_ b hb
    intro c b₁ hb₁
    refine ⟨fun _ => 0, took_pure hb₁ rfl, ?_⟩
    intro v hv
    cases hv
    rfl
  · intro v hv
    obtain ⟨c, b₁, -, hc⟩ := Call.bind_eq_some.mp (Prod.ext hv rfl)
    obtain ⟨rfl, -⟩ := Call.pure_eq_some.mp hc
    rfl

/-- The loop of a container read takes the bytes of what it inserts, and no others
when every read succeeds. -/
theorem took_readElems {rd : Call α} (hrd : Reads rd size) (n : Nat) :
    ∀ b : Buffer, b.Valid →
      let r := Buffer.readElems rd n b
      r.2 = { b with mReadPos := r.2.mReadPos } ∧
      b.mReadPos.toNat + (r.1.1.map size).sum ≤ r.2.mReadPos.toNat ∧
      r.2.mReadPos.toNat ≤ b.mSize.toNat ∧
      (r.1.2 = true → r.2.mReadPos.toNat = b.mReadPos.toNat + (r.1.1.map size).sum) := by
  induction n with
  | zero =>
    intro b hb
    exact ⟨rfl, Nat.le_refl _, hb.read_le, fun _ => rfl⟩
  | succ n ih =>
    intro b hb
    have htook := hrd b hb
    unfold Buffer.readElems
    cases hx : rd b with
    | mk o b₁ =>
      rw [hx] at htook
      cases o with
      | none => exact ⟨htook.frame, htook.least, htook.within, fun h => absurd h Bool.false_ne_true⟩
      | some v =>
        obtain ⟨hframe, hleast, hwithin, hexact⟩ := ih b₁ (htook.valid hb)
        have hpos := htook.exact v rfl
        have hsize := htook.mSize
        have hframe₁ := htook.frame
        simp only at hpos hsize hframe₁
        refine ⟨?_, ?_, ?_, ?_⟩
        · rw [hframe, hframe₁]
        · simp only [List.map_cons, List.sum_cons]
          omega
        · rw [← hsize]
          exact hwithin
        · intro hok
          have hexact := hexact hok
          simp only [List.map_cons, List.sum_cons]
          omega

/-- A container read takes the count and what it inserts, however large the count is. -/
theorem took_readContainer {rd : Call α} (hrd : Reads rd size) {b : Buffer} (hb : b.Valid) :
    let r := Buffer.readContainer rd b
    Took (fun l => 4 + (l.map size).sum) b (if r.1.2 then some r.1.1 else none, r.2) ∧
    (r.1.1 ≠ [] → b.mReadPos.toNat + 4 + (r.1.1.map size).sum ≤ r.2.mReadPos.toNat) := by
  have htook := reads_readUInt32 b hb
  unfold Buffer.readContainer
  cases hx : Buffer.readUInt32 b with
  | mk o b₁ =>
    rw [hx] at htook
    cases o with
    | none => exact ⟨htook.failed, fun h => absurd rfl h⟩
    | some n =>
      obtain ⟨hframe, hleast, hwithin, hexact⟩ := took_readElems hrd n.toNat b₁ (htook.valid hb)
      have hpos := htook.exact n rfl
      have hsize := htook.mSize
      have hframe₁ := htook.frame
      simp only at hpos hsize hframe₁
      have hmoved : b.mReadPos.toNat + 4 + ((Buffer.readElems rd n.toNat b₁).1.1.map size).sum ≤
          (Buffer.readElems rd n.toNat b₁).2.mReadPos.toNat := by omega
      refine ⟨?_, fun _ => hmoved⟩
      constructor
      case frame =>
        show (Buffer.readElems rd n.toNat b₁).2 = _
        rw [hframe, hframe₁]
      case least =>
        show _ ≤ (Buffer.readElems rd n.toNat b₁).2.mReadPos.toNat
        omega
      case within =>
        show (Buffer.readElems rd n.toNat b₁).2.mReadPos.toNat ≤ _
        rw [← hsize]
        exact hwithin
      case exact =>
        intro l hl
        simp only [Option.ite_none_right_eq_some, Option.some.injEq] at hl
        obtain ⟨hok, rfl⟩ := hl
        have hexact := hexact hok
        show (Buffer.readElems rd n.toNat b₁).2.mReadPos.toNat = _
        omega

end Reads

/-- Every read takes the bytes of its value; one that fails stays inside the buffer. -/
theorem reads_read (t : Ty) : Reads (Buffer.read t) (wireSize t) := by
  induction t with
  | int t => exact reads_readInternal t
  | string => exact reads_readString
  | pair first second ih₁ ih₂ => exact reads_pair ih₁ ih₂
  | container t ih =>
    intro b hb
    exact (took_readContainer ih hb).1

theorem valid_readEach (ts : List Ty) : ∀ b : Buffer, b.Valid →
    (Buffer.readEach ts b).Valid ∧ (Buffer.readEach ts b).mSize = b.mSize := by
  induction ts with
  | nil => exact fun b hb => ⟨hb, rfl⟩
  | cons t ts ih =>
    intro b hb
    have htook := reads_read t b hb
    have hrest := ih (Buffer.read t b).2 (htook.valid hb)
    exact ⟨hrest.1, hrest.2.trans htook.mSize⟩

/-- What a container read inserts fits in the bytes that are left behind the count. -/
theorem inserted_le (t : Ty) {b : Buffer} (hb : b.Valid)
    (hne : (Buffer.readContainer (Buffer.read t) b).1.1 ≠ []) :
    4 + (Buffer.readContainer (Buffer.read t) b).1.1.length * t.minSize ≤
      b.mSize.toNat - b.mReadPos.toNat := by
  obtain ⟨htook, hmoved⟩ := took_readContainer (reads_read t) hb
  have hmoved := hmoved hne
  have hwithin := htook.within
  have hsum := length_le_sum (Buffer.readContainer (Buffer.read t) b).1.1
  simp only at hwithin
  omega

/-! ## Reading what was encoded -/

/-- A buffer with these bytes in front of its read position. -/
structure Ahead (conv : Bool) (b : Buffer) (bytes : List UInt8) : Prop where
  valid : b.Valid
  conv_eq : b.mEndianConvert = conv
  drop_eq : b.mpBuffer.drop b.mReadPos.toNat = bytes

theorem Ahead.room {conv : Bool} {b : Buffer} {bytes : List UInt8} (h : Ahead conv b bytes) :
    b.mReadPos.toNat + bytes.length = b.mSize.toNat := by
  have hlen := congrArg List.length h.drop_eq
  have hle := h.valid.read_le
  rw [List.length_drop, h.valid.holds] at hlen
  omega

/-- A read that gives `v` where these bytes are, whatever is behind them. -/
def Gives {α : Type} (conv : Bool) (rd : Call α) (v : α) (bytes : List UInt8) : Prop :=
  ∀ b rest, Ahead conv b (bytes ++ rest) →
    ∃ b', rd b = (some v, b') ∧ Ahead conv b' rest ∧ b'.mSize = b.mSize

section Gives

variable {α β : Type} {conv : Bool}

theorem gives_pure (v : α) : Gives conv (pure v) v [] := by
  intro b rest h
  exact ⟨b, rfl, h, rfl⟩

theorem gives_bind {x : Call α} {f : α → Call β} {a : α} {v : β} {bytes₁ bytes₂ : List UInt8}
    (hx : Gives conv x a bytes₁) (hf : Gives conv (f a) v bytes₂) :
    Gives conv (x >>= f) v (bytes₁ ++ bytes₂) := by
  intro b rest h
  rw [List.append_assoc] at h
  obtain ⟨b₁, hx, h₁, hsize₁⟩ := hx b (bytes₂ ++ rest) h
  obtain ⟨b₂, hf, h₂, hsize₂⟩ := hf b₁ rest h₁
  exact ⟨b₂, by rw [Call.bind_some hx, hf], h₂, hsize₂.trans hsize₁⟩

/-- The read position moved over the bytes in front of it. -/
theorem ahead_move {b : Buffer} {bytes rest : List UInt8} {n : UInt32}
    (h : Ahead conv b (bytes ++ rest)) (hn : n.toNat = bytes.length) :
    Ahead conv { b with mReadPos := b.mReadPos + n } rest := by
  have hroom := h.room
  rw [List.length_append] at hroom
  have hpos : (b.mReadPos + n).toNat = b.mReadPos.toNat + n.toNat :=
    move_eq (by omega : b.mReadPos.toNat + n.toNat ≤ b.mSize.toNat)
  have hle : (b.mReadPos + n).toNat ≤ b.mSize.toNat := by omega
  refine ⟨⟨h.valid.holds, hle, h.valid.write_le⟩, h.conv_eq, ?_⟩
  show b.mpBuffer.drop (b.mReadPos + n).toNat = rest
  rw [hpos, hn, ← List.drop_drop, h.drop_eq, List.drop_left]

theorem gives_readInternal (t : IntType) (v : t.Val) :
    Gives conv (Buffer.readInternal t) v (encodeInt conv t v) := by
  intro b rest h
  refine ⟨_, ?_, ahead_move (n := UInt32.ofNat t.sizeof) h ?_, rfl⟩
  · have hroom := h.room
    have hsub := room_eq h.valid.read_le
    rw [List.length_append, length_encodeInt] at hroom
    have hpow : (256 : Nat) ^ t.sizeof = 2 ^ (8 * t.sizeof) := by norm_num [pow_mul]
    -- the bits that were stored are the bits read back
    have hbits : ∀ w : t.Val, BitVec.ofNat (8 * t.sizeof)
        (ofLE (((leBytes t.sizeof w.toNat ++ rest)).take t.sizeof)) = w := by
      intro w
      have htake : (leBytes t.sizeof w.toNat ++ rest).take t.sizeof = leBytes t.sizeof w.toNat :=
        List.take_left' (length_leBytes _ _)
      apply BitVec.eq_of_toNat_eq
      rw [htake, ofLE_leBytes, hpow, BitVec.toNat_ofNat, Nat.mod_mod, Nat.mod_eq_of_lt w.isLt]
    unfold Buffer.readInternal
    rw [if_neg (by omega), h.drop_eq, h.conv_eq]
    unfold encodeInt
    cases conv with
    | true =>
      simp only [if_true, hbits, CEndianConverter.ntoh_hton]
    | false =>
      simp only [Bool.false_eq_true, if_false, hbits]
  · rw [length_encodeInt, toNat_sizeof]

theorem gives_readUInt32 (n : UInt32) :
    Gives conv Buffer.readUInt32 n (encodeCount conv n) := by
  have hint : Gives conv (Buffer.readInternal .UInt32) n.toBitVec (encodeCount conv n) :=
    gives_readInternal .UInt32 n.toBitVec
  have h := gives_bind hint (f := fun value => pure (UInt32.ofBitVec value))
    (gives_pure (UInt32.ofBitVec n.toBitVec))
  rw [List.append_nil] at h
  exact h

theorem gives_readRaw {n : UInt32} {s : List UInt8} (hn : n.toNat = s.length) :
    Gives conv (Buffer.readRaw n) s s := by
  intro b rest h
  refine ⟨_, ?_, ahead_move h hn, rfl⟩
  have hroom := h.room
  have hsub := room_eq h.valid.read_le
  rw [List.length_append] at hroom
  unfold Buffer.readRaw
  rw [if_neg, h.drop_eq, hn, List.take_left]
  rw [UInt32.lt_iff_toNat_lt]
  omega

/-- A length that is in the buffer fits `UInt32`. -/
theorem toNat_count {b : Buffer} {bytes : List UInt8} {n : Nat} (h : Ahead conv b bytes)
    (hn : n ≤ bytes.length) : (UInt32.ofNat n).toNat = n := by
  have hroom := h.room
  have hlt : b.mSize.toNat < 4294967296 := b.mSize.toNat_lt
  rw [UInt32.toNat_ofNat']
  exact Nat.mod_eq_of_lt (by omega)

theorem gives_readString (s : List UInt8) :
    Gives conv Buffer.readString s (encodeCount conv (UInt32.ofNat s.length) ++ s) := by
  intro b rest h
  have hn : (UInt32.ofNat s.length).toNat = s.length :=
    toNat_count h (by simp only [List.length_append]; omega)
  exact gives_bind (gives_readUInt32 _) (gives_readRaw hn) b rest h

theorem gives_readElems {rd : Call α} {enc : α → List UInt8}
    (hrd : ∀ v, Gives conv rd v (enc v)) (l : List α) :
    ∀ b rest, Ahead conv b (l.flatMap enc ++ rest) →
      ∃ b', Buffer.readElems rd l.length b = ((l, true), b') ∧ Ahead conv b' rest ∧
        b'.mSize = b.mSize := by
  induction l with
  | nil =>
    intro b rest h
    exact ⟨b, rfl, h, rfl⟩
  | cons v l ih =>
    intro b rest h
    rw [List.flatMap_cons, List.append_assoc] at h
    obtain ⟨b₁, hv, h₁, hsize₁⟩ := hrd v b _ h
    obtain ⟨b₂, hl, h₂, hsize₂⟩ := ih b₁ rest h₁
    refine ⟨b₂, ?_, h₂, hsize₂.trans hsize₁⟩
    rw [List.length_cons]
    unfold Buffer.readElems
    rw [hv]
    simp only [hl]

theorem gives_readContainer {t : Ty} (hrd : ∀ v, Gives conv (Buffer.read t) v (encode conv t v))
    (l : List t.Val) : Gives conv (Buffer.read (.container t)) l (encode conv (.container t) l) := by
  intro b rest h
  have hcount : l.length ≤ (encode conv (.container t) l).length := by
    have hsum := length_le_sum l
    have hpos := Nat.le_mul_of_pos_right l.length t.minSize_pos
    rw [length_encode]
    unfold wireSize
    omega
  have hn : (UInt32.ofNat l.length).toNat = l.length :=
    toNat_count h (by simp only [List.length_append]; omega)
  unfold encode at h
  rw [List.append_assoc] at h
  obtain ⟨b₁, hsize, h₁, heq₁⟩ := gives_readUInt32 _ b _ h
  obtain ⟨b₂, hl, h₂, heq₂⟩ := gives_readElems hrd l b₁ rest h₁
  refine ⟨b₂, ?_, h₂, heq₂.trans heq₁⟩
  unfold Buffer.read Buffer.readContainer
  rw [hsize]
  simp only [hn, hl, if_true]

/-- Reading a type where a value of it is encoded gives the value. -/
theorem gives_read (t : Ty) : ∀ v : t.Val, Gives conv (Buffer.read t) v (encode conv t v) := by
  induction t with
  | int t => exact fun v => gives_readInternal t v
  | string => exact fun s => gives_readString s
  | pair first second ih₁ ih₂ =>
    intro v
    have h := gives_bind (ih₁ v.1) (f := fun a => do let b ← Buffer.read second; pure (a, b))
      (gives_bind (ih₂ v.2) (gives_pure (v.1, v.2)))
    rw [List.append_nil] at h
    exact h
  | container t ih => exact fun l => gives_readContainer ih l

theorem gives_readAll (vs : List (Σ t : Ty, t.Val)) :
    Gives conv (Buffer.readAll (vs.map Sigma.fst)) vs (encodeAll conv vs) := by
  induction vs with
  | nil => exact gives_pure []
  | cons v vs ih =>
    have h := gives_bind (gives_read v.1 v.2)
      (f := fun value => do
        let values ← Buffer.readAll (vs.map Sigma.fst)
        pure (⟨v.1, value⟩ :: values))
      (gives_bind ih (gives_pure (⟨v.1, v.2⟩ :: vs)))
    rw [List.append_nil] at h
    exact h

end Gives

/-! ## What a write leaves -/

/-- Elements one behind the other from a position on, each where it should be. -/
def Along {α : Type} (place : Nat → α → Prop) (size : α → Nat) : Nat → List α → Prop
  | _, [] => True
  | pos, v :: rest => place pos v ∧ Along place size (pos + size v) rest

/-- Writing the value at `pos` loses nothing: the length of every string fits `UInt32`,
and no range that has elements ends at the very end of the buffer. -/
def Intact (mSize : Nat) : (t : Ty) → Nat → t.Val → Prop
  | .int _, _, _ => True
  | .string, _, s => List.length s < 4294967296
  | .pair first second, pos, v =>
    Intact mSize first pos v.1 ∧ Intact mSize second (pos + wireSize first v.1) v.2
  | .container t, pos, l =>
    (l = [] ∨ pos + wireSize (.container t) l ≠ mSize) ∧
      Along (Intact mSize t) (wireSize t) (pos + 4) l

/-- The same for a sequence of values. -/
def IntactAll (mSize pos : Nat) (vs : List (Σ t : Ty, t.Val)) : Prop :=
  Along (fun pos v => Intact mSize v.1 pos v.2) (fun v => wireSize v.1 v.2) pos vs

/-- What writes that succeeded did: the position moved by at least `least`, by at most
the bytes there were to write, and by exactly these when the writes were `intact`; then
the bytes are behind what was there. -/
structure Wrote (b b' : Buffer) (least : Nat) (bytes : List UInt8) (intact : Prop) : Prop where
  valid : b'.Valid
  mSize_eq : b'.mSize = b.mSize
  conv_eq : b'.mEndianConvert = b.mEndianConvert
  least_le : b.mWritePos.toNat + least ≤ b'.mWritePos.toNat
  le_most : b'.mWritePos.toNat ≤ b.mWritePos.toNat + bytes.length
  exact_iff : b'.mWritePos.toNat = b.mWritePos.toNat + bytes.length ↔ intact
  take_eq : intact → b'.mpBuffer.take b'.mWritePos.toNat =
    b.mpBuffer.take b.mWritePos.toNat ++ bytes

section Wrote

variable {b b₁ b' : Buffer}

theorem wrote_nil (hb : b.Valid) : Wrote b b 0 [] True :=
  { valid := hb, mSize_eq := rfl, conv_eq := rfl, least_le := Nat.le_refl _,
    le_most := Nat.le_refl _, exact_iff := ⟨fun _ => trivial, fun _ => rfl⟩,
    take_eq := fun _ => (List.append_nil _).symm }

/-- One write behind another; the second is judged at the place the first should
have left it. -/
theorem Wrote.trans {m n : Nat} {x y : List UInt8} {p q q' : Prop} (h₁ : Wrote b b₁ m x p)
    (h₂ : Wrote b₁ b' n y q)
    (hq : b₁.mWritePos.toNat = b.mWritePos.toNat + x.length → (q ↔ q')) :
    Wrote b b' (m + n) (x ++ y) (p ∧ q') := by
  have hleast₁ := h₁.least_le
  have hleast₂ := h₂.least_le
  have hmost₁ := h₁.le_most
  have hmost₂ := h₂.le_most
  have hlen : (x ++ y).length = x.length + y.length := List.length_append
  constructor
  case valid => exact h₂.valid
  case mSize_eq => exact h₂.mSize_eq.trans h₁.mSize_eq
  case conv_eq => exact h₂.conv_eq.trans h₁.conv_eq
  case least_le => omega
  case le_most => omega
  case exact_iff =>
    constructor
    · intro h
      have hx : b₁.mWritePos.toNat = b.mWritePos.toNat + x.length := by omega
      have hy : b'.mWritePos.toNat = b₁.mWritePos.toNat + y.length := by omega
      exact ⟨h₁.exact_iff.mp hx, (hq hx).mp (h₂.exact_iff.mp hy)⟩
    · rintro ⟨hp, hq'⟩
      have hx := h₁.exact_iff.mpr hp
      have hy := h₂.exact_iff.mpr ((hq hx).mpr hq')
      omega
  case take_eq =>
    rintro ⟨hp, hq'⟩
    have hx := h₁.exact_iff.mpr hp
    rw [h₂.take_eq ((hq hx).mpr hq'), h₁.take_eq hp, List.append_assoc]

/-- Bytes stored at the write position. -/
theorem wrote_bytes {bytes : List UInt8} {n : UInt32} (hb : b.Valid) (hn : n.toNat = bytes.length)
    (hroom : b.mWritePos.toNat + n.toNat ≤ b.mSize.toNat) :
    Wrote b { b with
      mpBuffer := writeAt b.mpBuffer b.mWritePos.toNat bytes
      mWritePos := b.mWritePos + n } bytes.length bytes True := by
  have hpos : (b.mWritePos + n).toNat = b.mWritePos.toNat + bytes.length := by
    rw [move_eq hroom, hn]
  have hlen : (writeAt b.mpBuffer b.mWritePos.toNat bytes).length = b.mSize.toNat := by
    rw [length_writeAt, hb.holds]
    rw [hb.holds]
    omega
  have hle : (b.mWritePos + n).toNat ≤ b.mSize.toNat := by omega
  constructor
  case valid => exact { holds := hlen, read_le := hb.read_le, write_le := hle }
  case mSize_eq => rfl
  case conv_eq => rfl
  case least_le => exact Nat.le_of_eq hpos.symm
  case le_most => exact Nat.le_of_eq hpos
  case exact_iff => exact ⟨fun _ => trivial, fun _ => hpos⟩
  case take_eq =>
    intro _
    show (writeAt b.mpBuffer b.mWritePos.toNat bytes).take (b.mWritePos + n).toNat = _
    have hle : b.mWritePos.toNat ≤ b.mpBuffer.length := by
      rw [hb.holds]
      exact hb.write_le
    rw [hpos, take_writeAt hle]

theorem wrote_writeInternal {t : IntType} {v : t.Val} (hb : b.Valid)
    (h : Buffer.writeInternal t v b = (some (), b')) :
    Wrote b b' t.sizeof (encodeInt b.mEndianConvert t v) True := by
  have hroom := room_eq hb.write_le
  have hle := hb.write_le
  have hsz := toNat_sizeof t
  unfold Buffer.writeInternal at h
  split at h
  · cases h
  · cases h
    have hn : (UInt32.ofNat t.sizeof).toNat = (encodeInt b.mEndianConvert t v).length := by
      rw [hsz, length_encodeInt]
    have hw := wrote_bytes hb hn (by omega)
    rw [length_encodeInt] at hw
    exact hw

theorem wrote_writeUInt32 {n : UInt32} (hb : b.Valid)
    (h : Buffer.writeUInt32 n b = (some (), b')) :
    Wrote b b' 4 (encodeCount b.mEndianConvert n) True :=
  wrote_writeInternal hb h

/-- A string is written whole exactly when its length survives the conversion. -/
theorem wrote_writeString {s : List UInt8} (hb : b.Valid)
    (h : Buffer.writeString s b = (some (), b')) :
    Wrote b b' 1 (encode b.mEndianConvert .string s) (s.length < 4294967296) := by
  obtain ⟨⟨⟩, b₁, hsize, h⟩ := Call.bind_eq_some.mp h
  have hw₁ := wrote_writeUInt32 hb hsize
  obtain ⟨⟨⟩, b₂, hroom, h⟩ := Call.bind_eq_some.mp h
  unfold Buffer.roomToWrite at hroom
  split at hroom
  · cases hroom
  · next hcheck =>
    cases hroom
    have hle := hw₁.valid.write_le
    have hsub := room_eq hle
    have hn : (UInt32.ofNat s.length).toNat ≤ (b₁.mSize - b₁.mWritePos).toNat :=
      Nat.le_of_not_lt hcheck
    have hmod : (UInt32.ofNat s.length).toNat = s.length % 4294967296 := UInt32.toNat_ofNat'
    have hmodle := Nat.mod_le s.length 4294967296
    unfold Buffer.writeRaw at h
    rw [if_neg hcheck] at h
    cases h
    have htake : (s.take (UInt32.ofNat s.length).toNat).length = (UInt32.ofNat s.length).toNat := by
      rw [List.length_take, Nat.min_eq_left]
      omega
    have hw₂ := wrote_bytes hw₁.valid htake.symm (by omega)
    -- the raw write puts a prefix of the string, all of it when nothing was cut off the length
    have hlong : s.length < 4294967296 ↔ (UInt32.ofNat s.length).toNat = s.length := by
      constructor
      · intro hlt
        rw [hmod, Nat.mod_eq_of_lt hlt]
      · intro heq
        have hlt := Nat.mod_lt s.length (by omega : 0 < 4294967296)
        omega
    have hleast₁ := hw₁.least_le
    have hexact₁ := hw₁.exact_iff.mpr trivial
    have hexact₂ := hw₂.exact_iff.mpr trivial
    rw [length_encodeCount] at hexact₁
    rw [htake] at hexact₂
    have hlen : (encode b.mEndianConvert .string s).length = 4 + s.length :=
      length_encode _ .string s
    constructor
    case valid => exact hw₂.valid
    case mSize_eq => exact hw₂.mSize_eq.trans hw₁.mSize_eq
    case conv_eq => exact hw₂.conv_eq.trans hw₁.conv_eq
    case least_le => omega
    case le_most => omega
    case exact_iff =>
      rw [hlong]
      omega
    case take_eq =>
      intro hlt
      have hwhole : s.take (UInt32.ofNat s.length).toNat = s := by
        rw [hlong.mp hlt, List.take_length]
      have htake₂ := hw₂.take_eq trivial
      rw [hw₁.take_eq trivial, List.append_assoc] at htake₂
      rw [htake₂, hwhole]
      rfl

/-- The loop over a range: every element in its place, and the count. -/
theorem wrote_writeElems {α : Type} {wr : α → Call Unit} {enc : α → List UInt8}
    {size : α → Nat} {place : Nat → α → Prop} {conv : Bool} {m : UInt32}
    (hsize : ∀ v, (enc v).length = size v)
    (hwr : ∀ v (b b' : Buffer), b.Valid → b.mEndianConvert = conv → b.mSize = m →
      wr v b = (some (), b') → Wrote b b' 1 (enc v) (place b.mWritePos.toNat v))
    (l : List α) : ∀ (b b' : Buffer) (n k : UInt32), b.Valid → b.mEndianConvert = conv →
      b.mSize = m → Buffer.writeElems wr l n b = (some k, b') →
      k = n + UInt32.ofNat l.length ∧
      Wrote b b' l.length (l.flatMap enc) (Along place size b.mWritePos.toNat l) := by
  induction l with
  | nil =>
    intro b b' n k hb _ _ h
    obtain ⟨rfl, rfl⟩ := Call.pure_eq_some.mp h
    refine ⟨?_, wrote_nil hb⟩
    show k = k + 0
    rw [UInt32.add_zero]
  | cons v l ih =>
    intro b b' n k hb hconv hm h
    obtain ⟨⟨⟩, b₁, hv, h⟩ := Call.bind_eq_some.mp h
    have hw₁ := hwr v b b₁ hb hconv hm hv
    obtain ⟨hk, hw₂⟩ := ih b₁ b' (n + 1) k hw₁.valid (hw₁.conv_eq.trans hconv)
      (hw₁.mSize_eq.trans hm) h
    constructor
    · rw [hk, List.length_cons, UInt32.ofNat_add, UInt32.add_assoc, UInt32.add_comm 1]
      rfl
    · have hw : Wrote b b' (1 + l.length) (enc v ++ l.flatMap enc)
          (place b.mWritePos.toNat v ∧ Along place size (b.mWritePos.toNat + size v) l) :=
        hw₁.trans hw₂ (fun hpos => by rw [hpos, hsize])
      rw [Nat.add_comm 1] at hw
      exact hw

theorem writeUInt32_memory {n : UInt32} (h : Buffer.writeUInt32 n b = (some (), b')) :
    b'.mReadPos = b.mReadPos ∧ b'.mpBuffer =
      writeAt b.mpBuffer b.mWritePos.toNat (encodeCount b.mEndianConvert n) := by
  unfold Buffer.writeUInt32 Buffer.writeInternal at h
  split at h
  · cases h
  · cases h
    exact ⟨rfl, rfl⟩

/-- The end of a range: the count goes into the four bytes kept at `pos`, and the
position goes back behind the elements if that is still below the size. -/
theorem count_written {b₂ b₃ b₄ : Buffer} {pos k : UInt32} {back forth : Bool}
    (hb₂ : b₂.Valid) (hkept : pos.toNat + 4 ≤ b₂.mWritePos.toNat)
    (hback : Buffer.setWritePosition pos b₂ = (some back, b₃))
    (hcount : Buffer.writeUInt32 k b₃ = (some (), b₄))
    (hforth : Buffer.setWritePosition b₂.mWritePos b₄ = (some forth, b')) :
    b'.Valid ∧ b'.mSize = b₂.mSize ∧ b'.mEndianConvert = b₂.mEndianConvert ∧
      b'.mpBuffer = writeAt b₂.mpBuffer pos.toNat (encodeCount b₂.mEndianConvert k) ∧
      b'.mWritePos.toNat =
        if b₂.mWritePos.toNat < b₂.mSize.toNat then b₂.mWritePos.toNat else pos.toNat + 4 := by
  have hle := hb₂.write_le
  have hback_ok : ¬b₂.mSize ≤ pos := by
    rw [UInt32.le_iff_toNat_le]
    omega
  unfold Buffer.setWritePosition at hback
  rw [if_neg hback_ok] at hback
  cases hback
  have hpos : pos.toNat ≤ b₂.mSize.toNat := by omega
  have hb₃ : Buffer.Valid { b₂ with mWritePos := pos } :=
    { holds := hb₂.holds, read_le := hb₂.read_le, write_le := hpos }
  have hw₄ := wrote_writeUInt32 hb₃ hcount
  obtain ⟨-, hmem⟩ := writeUInt32_memory hcount
  have hpos₄ : b₄.mWritePos.toNat = pos.toNat + 4 := by
    have h := hw₄.exact_iff.mpr trivial
    rw [length_encodeCount] at h
    exact h
  have hsize₄ : b₄.mSize = b₂.mSize := hw₄.mSize_eq
  unfold Buffer.setWritePosition at hforth
  split at hforth
  · next hrefused =>
    cases hforth
    rw [hsize₄, UInt32.le_iff_toNat_le] at hrefused
    refine ⟨hw₄.valid, hsize₄, hw₄.conv_eq, hmem, ?_⟩
    rw [if_neg (by omega), hpos₄]
  · next hmoved =>
    cases hforth
    rw [hsize₄, UInt32.le_iff_toNat_le] at hmoved
    have hvalid : Buffer.Valid { b₄ with mWritePos := b₂.mWritePos } :=
      { holds := hw₄.valid.holds, read_le := hw₄.valid.read_le,
        write_le := by show b₂.mWritePos.toNat ≤ b₄.mSize.toNat; rw [hsize₄]; exact hle }
    refine ⟨hvalid, hsize₄, hw₄.conv_eq, hmem, ?_⟩
    rw [if_pos (by omega)]

/-- A range is written whole exactly when its elements are and, unless it is empty,
it does not end where the buffer ends: there `setWritePosition(savedPos2)` is refused. -/
theorem wrote_writeRange {t : Ty}
    (hwr : ∀ v (b b' : Buffer), b.Valid → Buffer.write t v b = (some (), b') →
      Wrote b b' 1 (encode b.mEndianConvert t v)
        (Intact b.mSize.toNat t b.mWritePos.toNat v))
    {l : List t.Val} (hb : b.Valid) (h : Buffer.writeRange (Buffer.write t) l b = (some (), b')) :
    Wrote b b' 1 (encode b.mEndianConvert (.container t) l)
      (Intact b.mSize.toNat (.container t) b.mWritePos.toNat l) := by
  obtain ⟨savedPos1, _, hpos1, h⟩ := Call.bind_eq_some.mp h
  cases hpos1
  obtain ⟨⟨⟩, b₁, hreserve, h⟩ := Call.bind_eq_some.mp h
  have hw₁ := wrote_writeUInt32 hb hreserve
  obtain ⟨k, b₂, helems, h⟩ := Call.bind_eq_some.mp h
  obtain ⟨hk, hw₂⟩ := wrote_writeElems (fun v => length_encode b.mEndianConvert t v)
    (fun v c c' hc hconv hm hv => by
      have hw := hwr v c c' hc hv
      rw [hconv, hm] at hw
      exact hw)
    l b₁ b₂ 0 k hw₁.valid hw₁.conv_eq hw₁.mSize_eq helems
  rw [UInt32.zero_add] at hk
  obtain ⟨savedPos2, _, hpos2, h⟩ := Call.bind_eq_some.mp h
  cases hpos2
  obtain ⟨back, b₃, hback, h⟩ := Call.bind_eq_some.mp h
  obtain ⟨⟨⟩, b₄, hcount, h⟩ := Call.bind_eq_some.mp h
  obtain ⟨forth, b₅, hforth, h⟩ := Call.bind_eq_some.mp h
  obtain ⟨-, rfl⟩ := Call.pure_eq_some.mp h
  have hw := hw₁.trans hw₂ (fun _ => Iff.rfl)
  have hleast := hw.least_le
  have hmost := hw.le_most
  have hexact₁ := hw₁.exact_iff.mpr trivial
  have hmost₂ := hw₂.le_most
  have hleast₂ := hw₂.least_le
  rw [length_encodeCount] at hexact₁
  obtain ⟨hvalid, hsize, hconv, hmem, hpos⟩ :=
    count_written hw₂.valid (by omega) hback hcount hforth
  rw [hw.mSize_eq] at hsize hpos
  rw [hw.conv_eq] at hconv hmem
  -- the elements take no more than their bytes, and at least one each
  have hlen : (l.flatMap (encode b.mEndianConvert t)).length + 4 =
      wireSize (.container t) l := by
    have h := length_encode b.mEndianConvert (.container t) l
    unfold encode at h
    rw [List.length_append, length_encodeCount] at h
    omega
  have hle₂ := hw₂.valid.write_le
  rw [hw.mSize_eq] at hle₂
  have hexact : b'.mWritePos.toNat = b.mWritePos.toNat + wireSize (.container t) l ↔
      Intact b.mSize.toNat (.container t) b.mWritePos.toNat l := by
    unfold Intact
    rw [← hexact₁, ← hw₂.exact_iff]
    by_cases hend : b₂.mWritePos.toNat < b.mSize.toNat
    · rw [if_pos hend] at hpos
      constructor
      · intro heq
        exact ⟨Or.inr (by omega), by omega⟩
      · rintro ⟨-, heq⟩
        omega
    · -- the position stays behind the count
      rw [if_neg hend] at hpos
      constructor
      · intro heq
        have hnil : l = [] := List.length_eq_zero_iff.mp (by omega)
        exact ⟨Or.inl hnil, by omega⟩
      · rintro ⟨hnil | hne, heq⟩
        · subst hnil
          have hzero : wireSize (.container t) ([] : List t.Val) = 4 := rfl
          omega
        · omega
  have hbytes : (encode b.mEndianConvert (.container t) l).length = wireSize (.container t) l :=
    length_encode _ _ _
  constructor
  case valid => exact hvalid
  case mSize_eq => exact hsize
  case conv_eq => exact hconv
  case least_le =>
    split at hpos <;> omega
  case le_most =>
    split at hpos <;> omega
  case exact_iff => rw [hbytes, hexact]
  case take_eq =>
    intro hintact
    have heq := hexact.mpr hintact
    have heq₂ : b₂.mWritePos.toNat = b.mWritePos.toNat + wireSize (.container t) l := by
      split at hpos <;> omega
    have hall := hw₂.exact_iff.mp (by omega)
    have htake := hw.take_eq ⟨trivial, hall⟩
    rw [← List.append_assoc] at htake
    have hoff : (b.mpBuffer.take b.mWritePos.toNat).length = b.mWritePos.toNat := by
      rw [List.length_take, hb.holds, Nat.min_eq_left hb.write_le]
    have hcounts : (encodeCount b.mEndianConvert 0).length =
        (encodeCount b.mEndianConvert k).length := by
      rw [length_encodeCount, length_encodeCount]
    have hend : b₂.mWritePos.toNat = b.mWritePos.toNat +
        (encodeCount b.mEndianConvert 0).length +
        (l.flatMap (encode b.mEndianConvert t)).length := by
      rw [length_encodeCount]
      omega
    have hover := take_writeAt_over htake hoff hcounts hend
    rw [hmem, heq, ← heq₂, hover, hk, List.append_assoc]
    rfl

/-- Every write of a value that succeeds puts its bytes behind what is there, if the
value is `Intact` where it is written; if it is not, it falls short of them. -/
theorem wrote_write (t : Ty) : ∀ (v : t.Val) (b b' : Buffer), b.Valid →
    Buffer.write t v b = (some (), b') →
    Wrote b b' 1 (encode b.mEndianConvert t v)
      (Intact b.mSize.toNat t b.mWritePos.toNat v) := by
  induction t with
  | int t =>
    intro v b b' hb h
    have hw := wrote_writeInternal hb h
    have hleast := hw.least_le
    have hpos := t.sizeof_pos
    exact { hw with least_le := by omega }
  | string => exact fun s b b' hb h => wrote_writeString hb h
  | pair first second ih₁ ih₂ =>
    intro v b b' hb h
    obtain ⟨⟨⟩, b₁, h₁, h₂⟩ := Call.bind_eq_some.mp h
    have hw₁ := ih₁ v.1 b b₁ hb h₁
    have hw₂ := ih₂ v.2 b₁ b' hw₁.valid h₂
    rw [hw₁.conv_eq, hw₁.mSize_eq] at hw₂
    have hw : Wrote b b' (1 + 1) (encode b.mEndianConvert (.pair first second) v)
        (Intact b.mSize.toNat (.pair first second) b.mWritePos.toNat v) :=
      hw₁.trans hw₂ (fun hpos => by rw [hpos, length_encode])
    have hleast := hw.least_le
    exact { hw with least_le := by omega }
  | container t ih => exact fun l b b' hb h => wrote_writeRange ih hb h

theorem wrote_writeAll (vs : List (Σ t : Ty, t.Val)) : ∀ b b' : Buffer, b.Valid →
    Buffer.writeAll vs b = (some (), b') →
    Wrote b b' vs.length (encodeAll b.mEndianConvert vs)
      (IntactAll b.mSize.toNat b.mWritePos.toNat vs) := by
  induction vs with
  | nil =>
    intro b b' hb h
    obtain ⟨-, rfl⟩ := Call.pure_eq_some.mp h
    exact wrote_nil hb
  | cons v vs ih =>
    intro b b' hb h
    obtain ⟨⟨⟩, b₁, h₁, h₂⟩ := Call.bind_eq_some.mp h
    have hw₁ := wrote_write v.1 v.2 b b₁ hb h₁
    have hw₂ := ih b₁ b' hw₁.valid h₂
    rw [hw₁.conv_eq, hw₁.mSize_eq] at hw₂
    have hw : Wrote b b' (1 + vs.length) (encodeAll b.mEndianConvert (v :: vs))
        (IntactAll b.mSize.toNat b.mWritePos.toNat (v :: vs)) :=
      hw₁.trans hw₂ (fun hpos => by rw [hpos, length_encode]; exact Iff.rfl)
    rw [Nat.add_comm 1] at hw
    exact hw

end Wrote

/-! ## The round trip -/

/-- A second buffer over the bytes written between two states of the first one gives the
same values for the same types, and nothing is left. -/
def ReadsBack (b b' : Buffer) (vs : List (Σ t : Ty, t.Val)) : Prop :=
  ∃ r, Buffer.readAll (vs.map Sigma.fst)
      (Buffer.new ((b'.mpBuffer.take b'.mWritePos.toNat).drop b.mWritePos.toNat)
        (b'.mWritePos - b.mWritePos) b.mEndianConvert) = (some vs, r) ∧
    r.mReadPos = b'.mWritePos - b.mWritePos

/-- A successful read of a sequence has taken the bytes of its values. -/
theorem reads_readAll (ts : List Ty) :
    Reads (Buffer.readAll ts) (fun vs => (vs.map (fun v => wireSize v.1 v.2)).sum) := by
  induction ts with
  | nil => exact fun b hb => took_pure hb rfl
  | cons t ts ih =>
    apply reads_bind (reads_read t)
    intro a b hb
    refine ⟨fun vs => ((vs.drop 1).map (fun v => wireSize v.1 v.2)).sum, ?_, ?_⟩
    · refine reads_bind ih ?_ b hb
      intro vs b₁ hb₁
      refine ⟨fun _ => 0, took_pure hb₁ rfl, ?_⟩
      intro ws hws
      cases hws
      rfl
    · intro ws hws
      obtain ⟨vs, b₁, -, hvs⟩ := Call.bind_eq_some.mp (Prod.ext hws rfl)
      obtain ⟨rfl, -⟩ := Call.pure_eq_some.mp hvs
      rfl

/-- What was written is read back exactly when every write was intact. -/
theorem readsBack_iff {b b' : Buffer} {vs : List (Σ t : Ty, t.Val)} (hb : b.Valid)
    (h : Buffer.writeAll vs b = (some (), b')) :
    ReadsBack b b' vs ↔ IntactAll b.mSize.toNat b.mWritePos.toNat vs := by
  have hw := wrote_writeAll vs b b' hb h
  have hleast := hw.least_le
  have hle := hw.valid.write_le
  have hsub : (b'.mWritePos - b.mWritePos).toNat =
      b'.mWritePos.toNat - b.mWritePos.toNat := room_eq (by omega)
  have hlen : ((b'.mpBuffer.take b'.mWritePos.toNat).drop b.mWritePos.toNat).length =
      (b'.mWritePos - b.mWritePos).toNat := by
    rw [List.length_drop, List.length_take, hw.valid.holds, Nat.min_eq_left hle, hsub]
  have hvalid := valid_new b.mEndianConvert hlen
  constructor
  · rintro ⟨r, hread, hpos⟩
    have htook := reads_readAll (vs.map Sigma.fst) _ hvalid
    rw [hread] at htook
    have htaken := htook.exact vs rfl
    rw [← hw.exact_iff, length_encodeAll]
    simp only [hpos, hsub, Buffer.new] at htaken
    have hzero : (0 : UInt32).toNat = 0 := rfl
    omega
  · intro hintact
    have hpos := hw.exact_iff.mpr hintact
    have hbytes : (b'.mpBuffer.take b'.mWritePos.toNat).drop b.mWritePos.toNat =
        encodeAll b.mEndianConvert vs := by
      have hoff : (b.mpBuffer.take b.mWritePos.toNat).length = b.mWritePos.toNat := by
        rw [List.length_take, hb.holds, Nat.min_eq_left hb.write_le]
      have hdrop : (b.mpBuffer.take b.mWritePos.toNat ++ encodeAll b.mEndianConvert vs).drop
          (b.mpBuffer.take b.mWritePos.toNat).length = encodeAll b.mEndianConvert vs :=
        List.drop_left
      rw [hoff] at hdrop
      rw [hw.take_eq hintact, hdrop]
    have hahead : Ahead b.mEndianConvert
        (Buffer.new ((b'.mpBuffer.take b'.mWritePos.toNat).drop b.mWritePos.toNat)
          (b'.mWritePos - b.mWritePos) b.mEndianConvert)
        (encodeAll b.mEndianConvert vs ++ []) :=
      { valid := hvalid, conv_eq := rfl,
        drop_eq := by rw [List.append_nil]; exact hbytes }
    obtain ⟨r, hread, hr, hsize⟩ := gives_readAll vs _ [] hahead
    refine ⟨r, hread, ?_⟩
    have hroom := hr.room
    rw [hsize] at hroom
    exact UInt32.toNat_inj.mp hroom

/-- What is written to a buffer is read back, and all of it, exactly when no string is too
long for its length field and no range with elements ends where the buffer ends. Reads of
any types from any bytes stay inside the buffer, and a container read inserts no more
elements than there are bytes for. -/
theorem round_trip_iff (b b' : Buffer) (vs : List (Σ t : Ty, t.Val)) (ts : List Ty)
    (hb : b.Valid) :
    (Buffer.writeAll vs b = (some (), b') →
      (ReadsBack b b' vs ↔ IntactAll b.mSize.toNat b.mWritePos.toNat vs)) ∧
    (Buffer.readEach ts b).mReadPos ≤ b.mSize ∧
    ∀ t : Ty,
      let inserted := (Buffer.readContainer (Buffer.read t) (Buffer.readEach ts b)).1.1
      inserted ≠ [] → 4 + inserted.length * t.minSize ≤
        b.mSize.toNat - (Buffer.readEach ts b).mReadPos.toNat := by
  obtain ⟨hvalid, hsize⟩ := valid_readEach ts b hb
  refine ⟨readsBack_iff hb, ?_, ?_⟩
  · rw [UInt32.le_iff_toNat_le, ← hsize]
    exact hvalid.read_le
  · intro t inserted hne
    rw [← hsize]
    exact inserted_le t hvalid hne

/-- A map of a string to a number behind an integer, and reads that ask for more than
there is. -/
theorem round_trip_iff_map :
    ReadsBack (Buffer.new (List.replicate 20 0) 20 true)
      { mSize := 20, mReadPos := 0, mWritePos := 16, mEndianConvert := true,
        mpBuffer := [1, 2, 0, 0, 0, 1, 0, 0, 0, 2, 65, 66, 0, 0, 0, 7, 0, 0, 0, 0] }
      [⟨.int .Int16, 258#16⟩,
        ⟨.container (.pair .string (.int .UInt32)), [([65, 66], 7#32)]⟩] ∧
    (Buffer.readEach [.int .UInt64, .int .UInt64] (Buffer.new (List.replicate 9 1) 9 true)).mReadPos
      ≤ 9 := by
  constructor
  · refine ((round_trip_iff _ _ _ [] (valid_new true rfl)).1 (by decide +kernel)).mpr ?_
    refine ⟨trivial, ⟨Or.inr ?_, ⟨?_, trivial⟩, trivial⟩, trivial⟩
    · decide
    · exact (by decide : 2 < 4294967296)
  · exact (round_trip_iff _ (Buffer.new (List.replicate 9 1) 9 true) [] _
      (valid_new true rfl)).2.1

/-- One byte in a vector, in a buffer of the five bytes this takes: the write succeeds and
leaves the position behind the count, so the element is not among the bytes written. -/
theorem last_element_lost :
    Buffer.writeAll [⟨.container (.int .UInt8), [7#8]⟩]
        (Buffer.new (List.replicate 5 0) 5 true) =
      (some (), { mSize := 5, mReadPos := 0, mWritePos := 4, mpBuffer := [0, 0, 0, 1, 7],
                  mEndianConvert := true }) ∧
    ¬ReadsBack (Buffer.new (List.replicate 5 0) 5 true)
      { mSize := 5, mReadPos := 0, mWritePos := 4, mpBuffer := [0, 0, 0, 1, 7],
        mEndianConvert := true }
      [⟨.container (.int .UInt8), [7#8]⟩] := by
  constructor
  · decide +kernel
  · rintro ⟨r, hread, -⟩
    have hnone : (Buffer.readAll [.container (.int .UInt8)]
        (Buffer.new [0, 0, 0, 1] 4 true)).1.isSome = false := by decide +kernel
    have hsome := congrArg (fun x => x.1.isSome) hread
    exact Bool.false_ne_true (hnone.symm.trans hsome)

end IviLink.ProfileLibrary
