import Mathlib.Data.List.Basic

/-!
# Reading lines from a stream

`istream::getline` into a buffer of a fixed size. It looks for the end of the stream, then for the
delimiter, then for whether the buffer is full; a line that does not fit sets `failbit`, and from
then on nothing is extracted any more. Nothing that a stream contains sets `badbit`.
-/

namespace IviLink.Lib

variable {α : Type*} [DecidableEq α]

structure Istream (α : Type*) where
  rest : List α
  eofbit : Bool
  failbit : Bool
  deriving DecidableEq, Repr

namespace Istream

/-- A stream that has just been opened. -/
def opened (content : List α) : Istream α := ⟨content, false, false⟩

/-- Why `getline` has stopped. -/
inductive Stop
  | atEnd
  | delimiter
  | full
  deriving DecidableEq, Repr

/-- What is stored of a line where there is room for this many characters, and what remains. -/
def extract (delim : α) : Nat → List α → List α × List α × Stop
  | _, [] => ([], [], .atEnd)
  | room, c :: cs =>
    if c = delim then ([], cs, .delimiter)
    else
      match room with
      | 0 => ([], c :: cs, .full)
      | room + 1 =>
        let (stored, rest, stop) := extract delim room cs
        (c :: stored, rest, stop)

/-- `getline(s, n, delim)`, with what has been stored before the terminating character. -/
def getline (delim : α) (n : Nat) (s : Istream α) : Istream α × List α :=
  if s.eofbit || s.failbit then ({ s with failbit := true }, [])
  else
    match extract delim (n - 1) s.rest with
    | (stored, rest, .atEnd) => (⟨rest, true, stored.isEmpty⟩, stored)
    | (stored, rest, .delimiter) => (⟨rest, false, false⟩, stored)
    | (stored, rest, .full) => (⟨rest, false, true⟩, stored)

variable {delim : α} {line : List α}

theorem extract_atEnd {room : Nat} (hline : delim ∉ line) (hroom : line.length ≤ room) :
    extract delim room line = (line, [], .atEnd) := by
  induction line generalizing room with
  | nil => rw [extract]
  | cons c cs ih =>
    obtain ⟨hc, hcs⟩ := not_or.mp (mt List.mem_cons.mpr hline)
    obtain ⟨room, rfl⟩ : ∃ r, room = r + 1 :=
      Nat.exists_eq_add_one_of_ne_zero (Nat.ne_of_gt (Nat.lt_of_lt_of_le (Nat.succ_pos _) hroom))
    rw [extract, if_neg (Ne.symm hc), ih hcs (Nat.le_of_succ_le_succ hroom)]

theorem extract_delimiter {room : Nat} (hline : delim ∉ line) (hroom : line.length ≤ room)
    (rest : List α) : extract delim room (line ++ delim :: rest) = (line, rest, .delimiter) := by
  induction line generalizing room with
  | nil => cases room <;> exact if_pos rfl
  | cons c cs ih =>
    obtain ⟨hc, hcs⟩ := not_or.mp (mt List.mem_cons.mpr hline)
    obtain ⟨room, rfl⟩ : ∃ r, room = r + 1 :=
      Nat.exists_eq_add_one_of_ne_zero (Nat.ne_of_gt (Nat.lt_of_lt_of_le (Nat.succ_pos _) hroom))
    rw [List.cons_append, extract, if_neg (Ne.symm hc), ih hcs (Nat.le_of_succ_le_succ hroom)]

theorem extract_full {room : Nat} (hline : delim ∉ line) (hroom : room < line.length)
    (rest : List α) :
    extract delim room (line ++ rest) = (line.take room, line.drop room ++ rest, .full) := by
  induction line generalizing room with
  | nil => exact absurd hroom (Nat.not_lt_zero _)
  | cons c cs ih =>
    obtain ⟨hc, hcs⟩ := not_or.mp (mt List.mem_cons.mpr hline)
    cases room with
    | zero => rw [List.cons_append, extract, if_neg (Ne.symm hc)]; rfl
    | succ room =>
      rw [List.cons_append, extract, if_neg (Ne.symm hc), ih hcs (Nat.lt_of_succ_lt_succ hroom)]
      rfl

/-- A line that does not fit sets `failbit` and nothing else. -/
theorem getline_full {n : Nat} (hline : delim ∉ line) (hn : n - 1 < line.length) (rest : List α) :
    getline delim n (opened (line ++ rest))
      = (⟨line.drop (n - 1) ++ rest, false, true⟩, line.take (n - 1)) := by
  rw [getline, opened, if_neg (by simp)]
  rw [extract_full hline hn rest]

theorem getline_delimiter {n : Nat} (hline : delim ∉ line) (hn : line.length ≤ n - 1)
    (rest : List α) : getline delim n (opened (line ++ delim :: rest)) = (opened rest, line) := by
  rw [getline, opened, if_neg (by simp)]
  rw [extract_delimiter hline hn rest]
  rfl

theorem getline_atEnd {n : Nat} (hline : delim ∉ line) (hn : line.length ≤ n - 1) :
    getline delim n (opened line) = (⟨[], true, line.isEmpty⟩, line) := by
  rw [getline, opened, if_neg (by simp)]
  rw [extract_atEnd hline hn]

/-- After a failure nothing is extracted. -/
theorem getline_failed {n : Nat} {s : Istream α} (h : s.failbit = true) :
    getline delim n s = (s, []) := by
  rw [getline, if_pos (by rw [h, Bool.or_true])]
  cases s
  cases h
  rfl

end Istream

end IviLink.Lib
