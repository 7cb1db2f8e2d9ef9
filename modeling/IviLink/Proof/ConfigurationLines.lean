import IviLink.Utils.Configurator
import Mathlib.Data.List.TakeWhile

/-!
# When a configuration file is read to its end

A line that fits into the buffer is read with its newline, and the last one sets `eofbit`. A longer
one sets `failbit`, which the loop does not look at: from then on every round reads nothing.
-/

namespace IviLink.Utils.Conf

open IviLink.Lib

variable {content line : Str} {result : List Str}

theorem lines_of_not_mem (h : newline ∉ content) : lines content = [content] :=
  List.splitOn_eq_singleton h

theorem lines_append (h : newline ∉ line) (rest : Str) :
    lines (line ++ newline :: rest) = line :: lines rest :=
  List.splitOn_append_cons_self_of_not_mem h rest

/-- The loop does not end. -/
theorem readLines_failed {s : Istream UInt8} (heof : s.eofbit = false) (hfail : s.failbit = true)
    (rounds : Nat) : readLines rounds s = none := by
  induction rounds with
  | zero => rfl
  | succ rounds ih =>
    rw [readLines, heof, if_neg Bool.false_ne_true, Istream.getline_failed hfail]
    dsimp only
    rw [ih]
    rfl

/-- What the loop does with a file that has a newline. -/
theorem ReadFile_append (hline : newline ∉ line) (rest : Str) :
    ReadFile (line ++ newline :: rest) result ↔ line.length ≤ bufferSize - 1
      ∧ ∃ others, ReadFile rest others ∧ result = c_str line :: others := by
  constructor
  · rintro ⟨rounds, hread⟩
    cases rounds with
    | zero => cases hread
    | succ rounds =>
      rw [readLines, if_neg (by rw [Istream.opened]; exact Bool.false_ne_true)] at hread
      rcases Nat.lt_or_ge (bufferSize - 1) line.length with hlong | hshort
      · rw [Istream.getline_full hline hlong] at hread
        dsimp only at hread
        rw [readLines_failed rfl rfl] at hread
        cases hread
      · rw [Istream.getline_delimiter hline hshort] at hread
        obtain ⟨others, hothers, rfl⟩ := Option.map_eq_some_iff.mp hread
        exact ⟨hshort, others, ⟨rounds, hothers⟩, rfl⟩
  · rintro ⟨hshort, others, ⟨rounds, hothers⟩, rfl⟩
    refine ⟨rounds + 1, ?_⟩
    rw [readLines, if_neg (by rw [Istream.opened]; exact Bool.false_ne_true),
      Istream.getline_delimiter hline hshort]
    dsimp only
    rw [hothers]
    rfl

/-- And with its last line. -/
theorem ReadFile_last (hline : newline ∉ line) :
    ReadFile line result ↔ line.length ≤ bufferSize - 1 ∧ result = [c_str line] := by
  constructor
  · rintro ⟨rounds, hread⟩
    cases rounds with
    | zero => cases hread
    | succ rounds =>
      rw [readLines, if_neg (by rw [Istream.opened]; exact Bool.false_ne_true)] at hread
      rcases Nat.lt_or_ge (bufferSize - 1) line.length with hlong | hshort
      · have hfull := Istream.getline_full hline hlong []
        rw [List.append_nil] at hfull
        rw [hfull] at hread
        dsimp only at hread
        rw [readLines_failed rfl rfl] at hread
        cases hread
      · rw [Istream.getline_atEnd hline hshort] at hread
        obtain ⟨others, hothers, rfl⟩ := Option.map_eq_some_iff.mp hread
        cases rounds with
        | zero => cases hothers
        | succ rounds =>
          obtain rfl := Option.some.inj hothers
          exact ⟨hshort, rfl⟩
  · rintro ⟨hshort, rfl⟩
    refine ⟨2, ?_⟩
    rw [readLines, if_neg (by rw [Istream.opened]; exact Bool.false_ne_true),
      Istream.getline_atEnd hline hshort]
    rfl

/-- **What `ReadFile` returns**: the lines, as C strings, if none of them is too long. -/
theorem ReadFile_iff : ReadFile content result
    ↔ (∀ line ∈ lines content, line.length ≤ bufferSize - 1)
      ∧ result = (lines content).map c_str := by
  induction hn : content.length using Nat.strongRecOn generalizing content result with
  | ind n ih =>
    by_cases hmem : newline ∈ content
    · obtain ⟨line, rest, rfl, hline⟩ := List.eq_append_cons_of_mem hmem
      have hshorter : rest.length < n := by
        rw [← hn, List.length_append, List.length_cons]
        omega
      rw [ReadFile_append hline, lines_append hline, List.forall_mem_cons, List.map_cons]
      constructor
      · rintro ⟨hshort, others, hothers, rfl⟩
        obtain ⟨hall, rfl⟩ := (ih _ hshorter rfl).mp hothers
        exact ⟨⟨hshort, hall⟩, rfl⟩
      · rintro ⟨⟨hshort, hall⟩, rfl⟩
        exact ⟨hshort, _, (ih _ hshorter rfl).mpr ⟨hall, rfl⟩, rfl⟩
    · rw [ReadFile_last hmem, lines_of_not_mem hmem, List.forall_mem_singleton]
      rfl

theorem c_str_eq_self : c_str line = line ↔ 0 ∉ line := by
  rw [c_str, List.takeWhile_eq_self_iff]
  constructor
  · intro hall hmem
    exact absurd (hall 0 hmem) (by simp)
  · intro hzero c hc
    exact decide_eq_true fun h => hzero (h ▸ hc)

/-- **Reading ends with every line of the file exactly if every line fits into the buffer and has
no zero byte.** For every content. -/
theorem reads_lines_iff (content : Str) :
    ReadFile content (lines content) ↔ ∀ line ∈ lines content, line.length ≤ 2046 ∧ 0 ∉ line := by
  have hsame : lines content = (lines content).map c_str ↔ ∀ line ∈ lines content, 0 ∉ line := by
    have hid : (lines content).map c_str = (lines content).map id
        ↔ ∀ line ∈ lines content, 0 ∉ line :=
      List.map_inj_left.trans (forall₂_congr fun _ _ => c_str_eq_self)
    rwa [List.map_id, eq_comm] at hid
  rw [ReadFile_iff, hsame]
  exact forall₂_and.symm

/-- One line of 2047 bytes. -/
theorem long_line_not_read : ¬ ∀ content : Str, ∃ result, ReadFile content result := by
  intro hall
  obtain ⟨result, hread⟩ := hall (List.replicate 2047 97)
  have hnone : newline ∉ List.replicate 2047 (97 : UInt8) := by
    rw [List.mem_replicate]
    decide
  have hshort := ((ReadFile_last hnone).mp hread).1
  rw [List.length_replicate] at hshort
  exact absurd hshort (by decide)

end IviLink.Utils.Conf
