import Mathlib.Data.List.Basic
import Mathlib.Tactic.Ring

/-!
# Bytes in memory

Fixed-width integers as lists of bytes, and a byte memory that is written at an
offset. Everything here is little-endian at the bottom, because that is how the
hosts this code runs on lay an integer out; network order is the same list
reversed, and swapping an integer is reading its reversed bytes.

The two facts every codec above rests on are `ofLE_leBytes` and
`leBytes_ofLE`: bytes and integers of one width determine each other.
-/

namespace IviLink.Lib

/-! ## Naturals -/

/-- The `w` little-endian bytes of `n`. -/
def leBytes : Nat → Nat → List UInt8
  | 0, _ => []
  | w + 1, n => UInt8.ofNat (n % 256) :: leBytes w (n / 256)

/-- The natural whose little-endian bytes are given. -/
def ofLE : List UInt8 → Nat
  | [] => 0
  | b :: bs => b.toNat + 256 * ofLE bs

@[simp] theorem length_leBytes (w n : Nat) : (leBytes w n).length = w := by
  induction w generalizing n with
  | zero => rfl
  | succ w ih => rw [leBytes, List.length_cons, ih]

theorem ofLE_leBytes (w n : Nat) : ofLE (leBytes w n) = n % 256 ^ w := by
  induction w generalizing n with
  | zero => simp [leBytes, ofLE, Nat.mod_one]
  | succ w ih =>
    have hb : (UInt8.ofNat (n % 256)).toNat = n % 256 := by
      rw [UInt8.toNat_ofNat']
      omega
    rw [leBytes, ofLE, ih, hb, Nat.pow_succ', Nat.mod_mul]

theorem leBytes_ofLE (l : List UInt8) : leBytes l.length (ofLE l) = l := by
  induction l with
  | nil => rfl
  | cons b bs ih =>
    have hb : b.toNat < 256 := b.toNat_lt
    have hm : (b.toNat + 256 * ofLE bs) % 256 = b.toNat := by omega
    have hd : (b.toNat + 256 * ofLE bs) / 256 = ofLE bs := by omega
    rw [List.length_cons, ofLE, leBytes, hm, hd, ih, UInt8.ofNat_toNat]

theorem ofLE_lt (l : List UInt8) : ofLE l < 256 ^ l.length := by
  induction l with
  | nil => simp [ofLE]
  | cons b bs ih =>
    have hb : b.toNat < 256 := b.toNat_lt
    rw [ofLE, List.length_cons, Nat.pow_succ]
    omega

/-! ## Sixteen and thirty-two bits -/

/-- A 16-bit integer as the host stores it. -/
def le16 (x : UInt16) : List UInt8 := leBytes 2 x.toNat

/-- The 16-bit integer the host reads from two bytes. -/
def ofLE16 (l : List UInt8) : UInt16 := UInt16.ofNat (ofLE l)

/-- A 32-bit integer as the host stores it. -/
def le32 (x : UInt32) : List UInt8 := leBytes 4 x.toNat

/-- The 32-bit integer the host reads from four bytes. -/
def ofLE32 (l : List UInt8) : UInt32 := UInt32.ofNat (ofLE l)

@[simp] theorem length_le16 (x : UInt16) : (le16 x).length = 2 := length_leBytes 2 _
@[simp] theorem length_le32 (x : UInt32) : (le32 x).length = 4 := length_leBytes 4 _

@[simp] theorem ofLE16_le16 (x : UInt16) : ofLE16 (le16 x) = x := by
  have hx : x.toNat < 65536 := x.toNat_lt
  rw [ofLE16, le16, ofLE_leBytes, Nat.mod_eq_of_lt (by simpa using hx), UInt16.ofNat_toNat]

@[simp] theorem ofLE32_le32 (x : UInt32) : ofLE32 (le32 x) = x := by
  have hx : x.toNat < 4294967296 := x.toNat_lt
  rw [ofLE32, le32, ofLE_leBytes, Nat.mod_eq_of_lt (by simpa using hx), UInt32.ofNat_toNat]

theorem le16_ofLE16 {l : List UInt8} (h : l.length = 2) : le16 (ofLE16 l) = l := by
  have hlt : ofLE l < 65536 := by simpa [h] using ofLE_lt l
  have hn : (ofLE16 l).toNat = ofLE l := by
    rw [ofLE16, UInt16.toNat_ofNat']
    exact Nat.mod_eq_of_lt hlt
  rw [le16, hn, ← h, leBytes_ofLE]

theorem le32_ofLE32 {l : List UInt8} (h : l.length = 4) : le32 (ofLE32 l) = l := by
  have hlt : ofLE l < 4294967296 := by simpa [h] using ofLE_lt l
  have hn : (ofLE32 l).toNat = ofLE l := by
    rw [ofLE32, UInt32.toNat_ofNat']
    exact Nat.mod_eq_of_lt hlt
  rw [le32, hn, ← h, leBytes_ofLE]

/-- The two bytes of an integer exchanged. -/
def swap16 (x : UInt16) : UInt16 := ofLE16 (le16 x).reverse

/-- The four bytes of an integer in the opposite order. -/
def swap32 (x : UInt32) : UInt32 := ofLE32 (le32 x).reverse

@[simp] theorem le16_swap16 (x : UInt16) : le16 (swap16 x) = (le16 x).reverse :=
  le16_ofLE16 (by simp)

@[simp] theorem le32_swap32 (x : UInt32) : le32 (swap32 x) = (le32 x).reverse :=
  le32_ofLE32 (by simp)

@[simp] theorem swap16_swap16 (x : UInt16) : swap16 (swap16 x) = x := by
  rw [swap16, le16_swap16, List.reverse_reverse, ofLE16_le16]

@[simp] theorem swap32_swap32 (x : UInt32) : swap32 (swap32 x) = x := by
  rw [swap32, le32_swap32, List.reverse_reverse, ofLE32_le32]

/-! ## Memory written at an offset -/

/-- The memory after storing `bytes` from `off` on. -/
def writeAt (mem : List UInt8) (off : Nat) (bytes : List UInt8) : List UInt8 :=
  mem.take off ++ bytes ++ mem.drop (off + bytes.length)

theorem length_writeAt {mem bytes : List UInt8} {off : Nat}
    (h : off + bytes.length ≤ mem.length) : (writeAt mem off bytes).length = mem.length := by
  simp only [writeAt, List.length_append, List.length_take, List.length_drop]
  omega

/-- Writing just behind what is already there extends it. -/
theorem take_writeAt {mem l : List UInt8} {off : Nat} (h : off ≤ mem.length) :
    (writeAt mem off l).take (off + l.length) = mem.take off ++ l := by
  have hl : (mem.take off ++ l).length = off + l.length := by
    rw [List.length_append, List.length_take, Nat.min_eq_left h]
  rw [writeAt, ← hl, List.take_left]

/-- Writing over what is there leaves what comes before and behind. -/
theorem take_writeAt_over {mem x y z w : List UInt8} {off n : Nat}
    (h : mem.take n = x ++ y ++ z) (hoff : x.length = off) (hy : y.length = w.length)
    (hn : n = off + y.length + z.length) : (writeAt mem off w).take n = x ++ w ++ z := by
  have hmem : mem = x ++ y ++ z ++ mem.drop n := by rw [← h, List.take_append_drop]
  have hx : mem.take off = x := by
    rw [hmem, List.append_assoc, List.append_assoc, ← hoff, List.take_left]
  have hdrop : mem.drop (off + w.length) = z ++ mem.drop n := by
    have hxy : (x ++ y).length = off + w.length := by rw [List.length_append, hoff, hy]
    conv_lhs => rw [hmem, List.append_assoc, ← hxy, List.drop_left]
  have hlen : (x ++ w ++ z).length = n := by
    simp only [List.length_append]
    omega
  unfold writeAt
  rw [hx, hdrop, ← List.append_assoc, ← hlen, List.take_left]

/-! ## Sizes and positions -/

/-- Below the size, `size - pos` is the room that is left. -/
theorem room_eq {size pos : UInt32} (h : pos.toNat ≤ size.toNat) :
    (size - pos).toNat = size.toNat - pos.toNat :=
  UInt32.toNat_sub_of_le _ _ (UInt32.le_iff_toNat_le.mpr h)

/-- A position moved no further than the size has not wrapped. -/
theorem move_eq {size pos n : UInt32} (h : pos.toNat + n.toNat ≤ size.toNat) :
    (pos + n).toNat = pos.toNat + n.toNat := by
  have hlt : size.toNat < 4294967296 := size.toNat_lt
  rw [UInt32.toNat_add]
  exact Nat.mod_eq_of_lt (by omega)

end IviLink.Lib
