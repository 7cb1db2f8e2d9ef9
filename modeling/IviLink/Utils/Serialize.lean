import IviLink.Lib.Bytes
import Mathlib.Algebra.Order.BigOperators.Group.List

/-!
# Messages that are put together by hand

The size of a message is computed, a block of that size is allocated, and the fields are copied
into it one behind the other, at a position that is moved by hand; the receiver copies them out
in the same way. Sizes and positions are of type `UInt32`, and nothing is compared with them.
An access outside of the block or the message has no result, and neither has a block that is
sent before every byte of it has been written.

Strings are their characters, and integers are in the byte order of the host (`forNetwork = false`).
A value that is given to an `int` and comes back is the same modulo 2^32.
-/

namespace IviLink.Serialize

open IviLink.Lib

/-! ## Writing -/

/-- `stringToBuffer`: the size, and as much of the string and the byte that ends it. -/
def stringToBuffer (str : List UInt8) : List UInt8 :=
  let size := UInt32.ofNat (str.length + 1)
  le32 size ++ (str ++ [0]).take size.toNat

def stringInBufSize (str : List UInt8) : UInt32 := UInt32.ofNat (str.length + 1 + 4)

/-- A byte has no value before it is written. -/
abbrev Block := List (Option UInt8)

/-- `new UInt8[size]` -/
def Block.new (size : UInt32) : Block := List.replicate size.toNat none

/-- `memcpy(buf + pos, bytes, …)` -/
def memcpy (buf : Block) (pos : UInt32) (bytes : List UInt8) : Option Block :=
  if pos.toNat + bytes.length ≤ buf.length then
    some (buf.take pos.toNat ++ bytes.map some ++ buf.drop (pos.toNat + bytes.length))
  else none

/-- The bytes that are sent. -/
def Block.sent : Block → Option (List UInt8)
  | [] => some []
  | none :: _ => none
  | some b :: rest => (sent rest).map (b :: ·)

inductive Field
  /-- `memcpy(buf+pos,&val,sizeof(val)); pos += sizeof(val);` -/
  | value (bytes : List UInt8)
  /-- `stringToBuffer(str,buf+pos,false); pos += stringInBufSize(str);` -/
  | string (str : List UInt8)
  deriving DecidableEq, Repr

def Field.bytes : Field → List UInt8
  | .value bytes => bytes
  | .string str => stringToBuffer str

def Field.step : Field → UInt32
  | .value bytes => UInt32.ofNat bytes.length
  | .string str => stringInBufSize str

def fill : List Field → Block → UInt32 → Option Block
  | [], buf, _ => some buf
  | f :: rest, buf, pos =>
    match memcpy buf pos f.bytes with
    | none => none
    | some buf => fill rest buf (pos + f.step)

/-- The message of the computed size. -/
def message (size : UInt32) (fields : List Field) : Option (List UInt8) :=
  match fill fields (.new size) 0 with
  | none => none
  | some buf => buf.sent

/-! ## Reading -/

/-- `n` bytes of the message from a position on. -/
def readBytes (pPayload : List UInt8) (pos n : Nat) : Option (List UInt8) :=
  if pos + n ≤ pPayload.length then some ((pPayload.drop pos).take n) else none

def readUInt8 (pPayload : List UInt8) (pos : UInt32) : Option UInt8 :=
  (readBytes pPayload pos.toNat 1).map fun bytes => UInt8.ofNat (ofLE bytes)

def readUInt32 (pPayload : List UInt8) (pos : UInt32) : Option UInt32 :=
  (readBytes pPayload pos.toNat 4).map ofLE32

def bufferToString (pPayload : List UInt8) (pos : UInt32) : Option (List UInt8) :=
  match readUInt32 pPayload pos with
  | none => none
  | some size => readBytes pPayload (pos.toNat + 4) (size - 1).toNat

/-! ## What is written -/

/-- The size of a field fits into `UInt32`, in front of a string. -/
def Field.Short : Field → Prop
  | .value bytes => bytes.length < 2 ^ 32
  | .string str => str.length + 1 < 2 ^ 32

theorem stringToBuffer_eq {str : List UInt8} (h : str.length + 1 < 2 ^ 32) :
    stringToBuffer str = le32 (UInt32.ofNat (str.length + 1)) ++ (str ++ [0]) := by
  rw [stringToBuffer, UInt32.toNat_ofNat', Nat.mod_eq_of_lt h, List.take_of_length_le (by simp)]

theorem length_stringToBuffer {str : List UInt8} (h : str.length + 1 < 2 ^ 32) :
    (stringToBuffer str).length = str.length + 5 := by
  simp [stringToBuffer_eq h]
  omega

@[simp] theorem Field.short_value {bytes : List UInt8} :
    (Field.value bytes).Short ↔ bytes.length < 2 ^ 32 := Iff.rfl

@[simp] theorem Field.short_string {str : List UInt8} :
    (Field.string str).Short ↔ str.length + 1 < 2 ^ 32 := Iff.rfl

/-- What a field takes up. -/
@[simp] def Field.size : Field → Nat
  | .value bytes => bytes.length
  | .string str => str.length + 5

theorem Field.length_bytes {f : Field} (h : f.Short) : f.bytes.length = f.size := by
  cases f with
  | value bytes => rfl
  | string str => exact length_stringToBuffer h

theorem length_fields {fields : List Field} (h : ∀ f ∈ fields, f.Short) :
    (fields.flatMap Field.bytes).length = (fields.map Field.size).sum := by
  rw [List.length_flatMap]
  exact congrArg List.sum (List.map_congr_left fun f hf => f.length_bytes (h f hf))

/-- The position is moved by as much as has been written. -/
theorem Field.toNat_step {f : Field} (hshort : f.Short) (h : f.bytes.length < 2 ^ 32) :
    f.step.toNat = f.bytes.length := by
  cases f with
  | value val =>
    show (UInt32.ofNat val.length).toNat = val.length
    rw [UInt32.toNat_ofNat', Nat.mod_eq_of_lt hshort]
  | string str =>
    have hlen : (Field.string str).bytes.length = str.length + 5 := length_stringToBuffer hshort
    rw [hlen] at h ⊢
    rw [step, stringInBufSize, UInt32.toNat_ofNat', Nat.mod_eq_of_lt h]

theorem sent_written (l : List UInt8) (k : Nat) :
    Block.sent (l.map some ++ List.replicate k none) = if k = 0 then some l else none := by
  induction l with
  | nil =>
    cases k with
    | zero => rfl
    | succ k => rfl
  | cons b l ih =>
    rw [List.map_cons, List.cons_append, Block.sent, ih]
    split <;> rfl

/-- **The fields are written behind each other**, as long as there is room. -/
theorem fill_eq {fields : List Field} {done : List UInt8} {k : Nat} {pos : UInt32}
    (hshort : ∀ f ∈ fields, f.Short) (hpos : pos.toNat = done.length)
    (hblock : done.length + k < 2 ^ 32) :
    fill fields (done.map some ++ List.replicate k none) pos =
      if (fields.flatMap Field.bytes).length ≤ k then
        some ((done ++ fields.flatMap Field.bytes).map some ++
          List.replicate (k - (fields.flatMap Field.bytes).length) none)
      else none := by
  induction fields generalizing done k pos with
  | nil => simp [fill]
  | cons f rest ih =>
    obtain ⟨hf, hrest⟩ := List.forall_mem_cons.mp hshort
    have hlen : (done.map some ++ List.replicate k (none : Option UInt8)).length =
        done.length + k := by simp
    rw [fill, memcpy, hlen, hpos, List.flatMap_cons, List.length_append]
    by_cases hroom : f.bytes.length ≤ k
    · have hdone : (done.map some).length = done.length := List.length_map _
      have hbuf : (done.map some ++ List.replicate k (none : Option UInt8)).take done.length ++
          f.bytes.map some ++
          (done.map some ++ List.replicate k (none : Option UInt8)).drop
            (done.length + f.bytes.length) =
          (done ++ f.bytes).map some ++ List.replicate (k - f.bytes.length) none := by
        rw [List.take_left' hdone, ← hdone, List.drop_length_add_append, List.drop_replicate,
          List.map_append]
      have hmove : (pos + f.step).toNat = (done ++ f.bytes).length := by
        rw [UInt32.toNat_add, hpos, f.toNat_step hf (by omega), List.length_append]
        exact Nat.mod_eq_of_lt (by omega)
      rw [if_pos (by omega)]
      dsimp only
      rw [hbuf, ih hrest hmove (by rw [List.length_append]; omega), List.append_assoc]
      by_cases hall : (rest.flatMap Field.bytes).length ≤ k - f.bytes.length
      · rw [if_pos hall, if_pos (by omega), Nat.sub_sub]
      · rw [if_neg hall, if_neg (by omega)]
    · rw [if_neg (by omega), if_neg (by omega)]

/-- **What a message is**: the size has to be that of the fields, and then these are its bytes. -/
theorem message_eq_some_iff {size : UInt32} {fields : List Field} {payload : List UInt8}
    (hshort : ∀ f ∈ fields, f.Short) :
    message size fields = some payload ↔
      (fields.map Field.size).sum = size.toNat ∧ payload = fields.flatMap Field.bytes := by
  have hblock : ([] : List UInt8).length + size.toNat < 2 ^ 32 := by
    rw [List.length_nil, Nat.zero_add]
    exact size.toNat_lt
  have hfill : fill fields (.new size) 0 =
      if (fields.flatMap Field.bytes).length ≤ size.toNat then
        some ((fields.flatMap Field.bytes).map some ++
          List.replicate (size.toNat - (fields.flatMap Field.bytes).length) none)
      else none :=
    fill_eq hshort rfl hblock
  rw [message, hfill, ← length_fields hshort]
  by_cases hle : (fields.flatMap Field.bytes).length ≤ size.toNat
  · rw [if_pos hle]
    dsimp only
    rw [sent_written]
    by_cases heq : (fields.flatMap Field.bytes).length = size.toNat
    · rw [if_pos (by omega), Option.some.injEq, eq_comm, and_iff_right heq]
    · rw [if_neg (by omega)]
      exact iff_of_false (Option.some_ne_none _).symm fun h => heq h.1
  · rw [if_neg hle]
    exact iff_of_false (Option.some_ne_none _).symm fun h => hle (Nat.le_of_eq h.1)

/-- The size and the length that are to be the same. -/
theorem message_ofNat_iff {n : Nat} {fields : List Field} {payload : List UInt8}
    (hshort : ∀ f ∈ fields, f.Short) (hn : (fields.map Field.size).sum = n) :
    message (UInt32.ofNat n) fields = some payload ↔
      n < 2 ^ 32 ∧ payload = fields.flatMap Field.bytes := by
  rw [message_eq_some_iff hshort, hn, UInt32.toNat_ofNat']
  refine and_congr_left' ⟨fun h => ?_, fun h => (Nat.mod_eq_of_lt h).symm⟩
  exact h ▸ Nat.mod_lt _ (by decide)

theorem length_of_fill {fields : List Field} {buf buf' : Block} {pos : UInt32}
    (h : fill fields buf pos = some buf') : buf'.length = buf.length := by
  induction fields generalizing buf pos with
  | nil =>
    cases h
    rfl
  | cons f rest ih =>
    rw [fill] at h
    split at h
    · cases h
    · next buf₁ hcopied =>
      rw [ih h]
      rw [memcpy] at hcopied
      split at hcopied
      · cases hcopied
        simp only [List.length_append, List.length_take, List.length_map, List.length_drop]
        omega
      · cases hcopied

theorem length_of_sent {buf : Block} {payload : List UInt8} (h : buf.sent = some payload) :
    payload.length = buf.length := by
  induction buf generalizing payload with
  | nil =>
    cases h
    rfl
  | cons b rest ih =>
    cases b with
    | none => cases h
    | some b =>
      obtain ⟨payload', hrest, rfl⟩ := Option.map_eq_some_iff.mp h
      rw [List.length_cons, List.length_cons, ih hrest]

theorem length_of_message {size : UInt32} {fields : List Field} {payload : List UInt8}
    (h : message size fields = some payload) : payload.length = size.toNat := by
  rw [message] at h
  split at h
  · cases h
  · next buf hfill => rw [length_of_sent h, length_of_fill hfill, Block.new, List.length_replicate]

/-! ## Strings behind each other -/

/-- What the strings take up. -/
def stringsSize (strs : List (List UInt8)) : Nat := (strs.map fun str => str.length + 5).sum

theorem foldl_stringInBufSize (strs : List (List UInt8)) (n : Nat) :
    strs.foldl (fun size it => size + stringInBufSize it) (UInt32.ofNat n) =
      UInt32.ofNat (n + stringsSize strs) := by
  induction strs generalizing n with
  | nil => rfl
  | cons str rest ih =>
    have hstep : UInt32.ofNat n + stringInBufSize str = UInt32.ofNat (n + (str.length + 5)) := by
      rw [UInt32.ofNat_add]
      rfl
    rw [List.foldl_cons, hstep, ih, Nat.add_assoc]
    rfl

theorem sum_size_strings (strs : List (List UInt8)) :
    ((strs.map Field.string).map Field.size).sum = stringsSize strs := by
  rw [List.map_map]
  rfl

theorem length_strings {strs : List (List UInt8)} (h : ∀ str ∈ strs, str.length + 1 < 2 ^ 32) :
    ((strs.map Field.string).flatMap Field.bytes).length = stringsSize strs := by
  have hfields : ∀ f ∈ strs.map Field.string, f.Short := List.forall_mem_map.mpr h
  rw [length_fields hfields, sum_size_strings]

theorem short_strings {strs : List (List UInt8)} (h : stringsSize strs < 2 ^ 32) :
    ∀ str ∈ strs, str.length + 1 < 2 ^ 32 := by
  intro str hstr
  have hle : str.length + 5 ≤ stringsSize strs :=
    List.single_le_sum (fun _ _ => Nat.zero_le _) _ (List.mem_map_of_mem hstr)
  omega

theorem count_le_stringsSize (strs : List (List UInt8)) : 5 * strs.length ≤ stringsSize strs := by
  induction strs with
  | nil => exact Nat.le_refl _
  | cons str strs ih =>
    rw [stringsSize] at ih
    rw [stringsSize, List.map_cons, List.sum_cons, List.length_cons]
    omega

/-! ## What is read -/

/-- At this position there are these bytes, and nothing behind them. -/
structure Ahead (pPayload : List UInt8) (pos : UInt32) (rest : List UInt8) : Prop where
  drop_eq : pPayload.drop pos.toNat = rest
  pos_le : pos.toNat ≤ pPayload.length
  length_lt : pPayload.length < 2 ^ 32

variable {pPayload bytes rest str : List UInt8} {pos : UInt32}

theorem ahead_start (h : pPayload.length < 2 ^ 32) : Ahead pPayload 0 pPayload :=
  ⟨rfl, Nat.zero_le _, h⟩

theorem Ahead.length_eq (h : Ahead pPayload pos rest) :
    pPayload.length = pos.toNat + rest.length := by
  have hlen := congrArg List.length h.drop_eq
  rw [List.length_drop] at hlen
  have := h.pos_le
  omega

theorem Ahead.move (h : Ahead pPayload pos (bytes ++ rest)) {step : UInt32}
    (hstep : step.toNat = bytes.length) : Ahead pPayload (pos + step) rest := by
  have hlen := h.length_eq
  have hlt := h.length_lt
  rw [List.length_append] at hlen
  have hmove : (pos + step).toNat = pos.toNat + bytes.length := by
    rw [UInt32.toNat_add, hstep]
    exact Nat.mod_eq_of_lt (by omega)
  refine ⟨?_, by omega, hlt⟩
  rw [hmove, ← List.drop_drop, h.drop_eq, List.drop_left]

theorem Ahead.readBytes_eq (h : Ahead pPayload pos (bytes ++ rest)) {n : Nat}
    (hn : bytes.length = n) : readBytes pPayload pos.toNat n = some bytes := by
  have hlen := h.length_eq
  rw [List.length_append] at hlen
  rw [readBytes, if_pos (by omega), h.drop_eq, List.take_left' hn]

theorem Ahead.readUInt8_eq {b : UInt8} (h : Ahead pPayload pos (b :: rest)) :
    readUInt8 pPayload pos = some b ∧ Ahead pPayload (pos + 1) rest := by
  have h' : Ahead pPayload pos ([b] ++ rest) := h
  refine ⟨?_, h'.move rfl⟩
  rw [readUInt8, h'.readBytes_eq (n := 1) rfl, Option.map_some]
  simp [ofLE]

theorem Ahead.readUInt32_eq {x : UInt32} (h : Ahead pPayload pos (le32 x ++ rest)) :
    readUInt32 pPayload pos = some x ∧ Ahead pPayload (pos + 4) rest := by
  refine ⟨?_, h.move (by rw [length_le32]; rfl)⟩
  rw [readUInt32, h.readBytes_eq (length_le32 x), Option.map_some, ofLE32_le32]

theorem Ahead.bufferToString_eq (h : Ahead pPayload pos (stringToBuffer str ++ rest))
    (hstr : str.length + 1 < 2 ^ 32) :
    bufferToString pPayload pos = some str ∧ Ahead pPayload (pos + stringInBufSize str) rest := by
  have hlen := h.length_eq
  have hlt := h.length_lt
  have hlong := length_stringToBuffer hstr
  rw [List.length_append, hlong] at hlen
  have hstep : (stringInBufSize str).toNat = (stringToBuffer str).length := by
    rw [hlong, stringInBufSize, UInt32.toNat_ofNat']
    exact Nat.mod_eq_of_lt (by omega)
  refine ⟨?_, h.move hstep⟩
  rw [stringToBuffer_eq hstr, List.append_assoc] at h
  obtain ⟨hsize, hbehind⟩ := h.readUInt32_eq
  have hn : (UInt32.ofNat (str.length + 1)).toNat = str.length + 1 := by
    rw [UInt32.toNat_ofNat', Nat.mod_eq_of_lt hstr]
  have hone : (1 : UInt32) ≤ UInt32.ofNat (str.length + 1) := by
    rw [UInt32.le_iff_toNat_le, hn]
    exact Nat.le_add_left ..
  have hsub : (UInt32.ofNat (str.length + 1) - 1).toNat = str.length := by
    rw [UInt32.toNat_sub_of_le _ _ hone, hn]
    rfl
  have hdrop : pPayload.drop (pos.toNat + 4) = str ++ ([0] ++ rest) := by
    rw [← List.drop_drop, h.drop_eq, List.drop_left' (length_le32 _), List.append_assoc]
  rw [bufferToString, hsize]
  dsimp only
  rw [readBytes, hsub, if_pos (by omega), hdrop, List.take_left]

/-- A string that has been read is inside of the message. -/
theorem length_of_bufferToString (h : bufferToString pPayload pos = some str) :
    str.length + 4 ≤ pPayload.length := by
  rw [bufferToString] at h
  split at h
  · cases h
  · rw [readBytes] at h
    split at h
    · cases h
      rw [List.length_take]
      omega
    · cases h

end IviLink.Serialize
