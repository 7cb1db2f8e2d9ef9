import IviLink.Proof.ConfigurationLines

/-!
# When a configurator is a map that survives saving

What comes from a file has been trimmed, and trimming it again changes nothing; what was set may be
changed when it is read again, and the empty value always is: it becomes a space. Setting a key
removes one of its values, so that another one may come first.
-/

namespace IviLink.Utils.Conf

open IviLink.Lib

variable {charSigned : Bool} {str : Str} {i : kvpair} {l : List kvpair}

/-! ## Trimming -/

theorem mem_trimRight {c : UInt8} (h : c ∈ trimRight str) : c ∈ str :=
  (List.rdropWhile_prefix _ _).subset h

theorem mem_Trim {c : UInt8} (h : c ∈ Trim charSigned str) : c ∈ str ∨ c = space := by
  rw [Trim] at h
  split at h
  · exact .inr (List.mem_singleton.mp h)
  · exact .inl (mem_trimRight ((List.dropWhile_suffix _).subset h))

theorem not_mem_Trim {c : UInt8} (hspace : c ≠ space) (h : c ∉ str) : c ∉ Trim charSigned str := by
  intro hmem
  rcases mem_Trim hmem with hmem | hmem
  · exact h hmem
  · exact hspace hmem

theorem Trim_ne_nil : Trim charSigned str ≠ [] := by
  rw [Trim]
  split
  · exact List.cons_ne_nil _ _
  · next hne => exact hne

theorem Trim_nil : Trim charSigned [] = [space] := rfl

theorem Trim_space : Trim charSigned [space] = [space] := by
  cases charSigned <;> rfl

theorem Trim_eq_of_ne_nil
    (h : ((trimRight str).dropWhile fun c => !aboveSpace charSigned c) ≠ []) :
    Trim charSigned str = (trimRight str).dropWhile fun c => !aboveSpace charSigned c := by
  rw [Trim]
  split
  · next hnil => exact absurd hnil h
  · rfl

/-- What has been trimmed is not changed by trimming. -/
@[simp] theorem Trim_Trim (str : Str) :
    Trim charSigned (Trim charSigned str) = Trim charSigned str := by
  by_cases hne : ((trimRight str).dropWhile fun c => !aboveSpace charSigned c) = []
  · have htrim : Trim charSigned str = [space] := by
      rw [Trim, hne]
    rw [htrim, Trim_space]
  · rw [Trim_eq_of_ne_nil hne]
    -- it begins above a space, and ends as before
    have hright : trimRight ((trimRight str).dropWhile fun c => !aboveSpace charSigned c)
        = (trimRight str).dropWhile fun c => !aboveSpace charSigned c := by
      refine List.rdropWhile_eq_self_iff.mpr ?_
      intro hl
      rw [(List.dropWhile_suffix _).getLast hl]
      exact List.rdropWhile_last_not (fun c => decide (c = space)) str _
    have hleft := List.dropWhile_idempotent (fun c => !aboveSpace charSigned c) (trimRight str)
    rw [Trim_eq_of_ne_nil (by rw [hright, hleft]; exact hne), hright, hleft]

/-! ## Reading what was saved -/

/-- A parameter that makes one line, with its key before the first `=`. -/
structure Writable (i : kvpair) : Prop where
  noEquals : equals ∉ i.key
  keyLine : newline ∉ i.key
  valueLine : newline ∉ i.value

/-- What is read of the line of a parameter. -/
def reread (charSigned : Bool) (i : kvpair) : Option kvpair :=
  if 0 ∈ i.key then none
  else some ⟨Trim charSigned i.key, Trim charSigned (c_str i.value)⟩

theorem Writable.not_mem_line (h : Writable i) : newline ∉ i.key ++ equals :: i.value := by
  intro hmem
  rcases List.mem_append.mp hmem with hmem | hmem
  · exact h.keyLine hmem
  · rcases List.mem_cons.mp hmem with heq | hmem
    · exact absurd heq (by decide)
    · exact h.valueLine hmem

theorem lines_save (h : ∀ i ∈ l, Writable i) :
    lines (save l) = l.map (fun i => i.key ++ equals :: i.value) ++ [[]] := by
  induction l with
  | nil => rfl
  | cons i l ih =>
    obtain ⟨hi, hl⟩ := List.forall_mem_cons.mp h
    have hsave : save (i :: l) = (i.key ++ equals :: i.value) ++ newline :: save l := by
      simp [save]
    rw [hsave, lines_append hi.not_mem_line, ih hl]
    rfl

theorem c_str_append {front back : Str} (h : 0 ∉ front) :
    c_str (front ++ back) = front ++ c_str back := by
  rw [c_str, List.takeWhile_append_of_pos]
  · rfl
  · intro c hc
    exact decide_eq_true fun h0 => h (h0 ▸ hc)

/-- A key with a zero byte is all that is read of its line. -/
theorem c_str_append_of_mem {front back : Str} (h : 0 ∈ front) :
    c_str (front ++ back) = c_str front := by
  obtain ⟨before, after, rfl, hbefore⟩ := List.eq_append_cons_of_mem h
  have hcut : ∀ rest, c_str (before ++ 0 :: rest) = before := by
    intro rest
    rw [c_str_append hbefore, c_str, List.takeWhile_cons_of_neg (by simp), List.append_nil]
  rw [List.append_assoc, List.cons_append, hcut, hcut]

theorem Split_append {key : Str} (h : equals ∉ key) (value : Str) :
    Split (key ++ equals :: value) equals = (key, value) := by
  have hall : ∀ c ∈ key, decide (c ≠ equals) = true :=
    fun c hc => decide_eq_true fun heq => h (heq ▸ hc)
  rw [Split, if_pos (by simp), List.takeWhile_append_of_pos hall,
    List.dropWhile_append_of_pos hall, List.takeWhile_cons_of_neg (by simp),
    List.dropWhile_cons_of_neg (by simp), List.append_nil, List.tail_cons]

/-- **What is read from the saved file.** -/
theorem Parse_save (h : ∀ i ∈ l, Writable i) :
    Parse charSigned ((lines (save l)).map c_str) = l.filterMap (reread charSigned) := by
  rw [lines_save h]
  induction l with
  | nil => rfl
  | cons i l ih =>
    obtain ⟨hi, hl⟩ := List.forall_mem_cons.mp h
    have hrest := ih hl
    by_cases hzero : 0 ∈ i.key
    · have hnone : reread charSigned i = none := if_pos hzero
      have hcut : equals ∉ c_str (i.key ++ equals :: i.value) := by
        rw [c_str_append_of_mem hzero]
        exact fun hmem => hi.noEquals ((List.takeWhile_prefix _).subset hmem)
      rw [List.filterMap_cons_none hnone, ← hrest]
      simp only [Parse, List.map_cons, List.cons_append]
      rw [List.filter_cons_of_neg (by simpa using hcut)]
    · have hsome : reread charSigned i
          = some ⟨Trim charSigned i.key, Trim charSigned (c_str i.value)⟩ := if_neg hzero
      have hline : c_str (i.key ++ equals :: i.value) = i.key ++ equals :: c_str i.value := by
        rw [c_str_append hzero, c_str, List.takeWhile_cons_of_pos (by decide)]
        rfl
      rw [List.filterMap_cons_some hsome, ← hrest]
      simp only [Parse, List.map_cons, List.cons_append]
      rw [hline, List.filter_cons_of_pos (by simp), List.map_cons, ParserLine,
        Split_append hi.noEquals]

/-- **A saved file is read to its end** if its lines are not too long. -/
theorem ReadFile_save (h : ∀ i ∈ l, Writable i) {mnt : List Str} :
    ReadFile (save l) mnt ↔ (∀ i ∈ l, i.key.length + i.value.length + 1 ≤ 2046)
      ∧ mnt = (lines (save l)).map c_str := by
  have hlength : (∀ line ∈ lines (save l), line.length ≤ bufferSize - 1)
      ↔ ∀ i ∈ l, i.key.length + i.value.length + 1 ≤ 2046 := by
    rw [lines_save h, List.forall_mem_append, List.forall_mem_singleton, List.forall_mem_map]
    simp [bufferSize, Nat.add_assoc]
  rw [ReadFile_iff, hlength]

/-! ## The first parameter of a key -/

theorem getParam_of_none {key : Str} (h : ∀ i ∈ l, i.key ≠ key) : getParam l key = [] := by
  rw [getParam, List.find?_eq_none.mpr (fun i hi => by simpa using h i hi)]

theorem find?_first {front back : List kvpair} (hfirst : ∀ j ∈ front, j.key ≠ i.key) :
    (front ++ i :: back).find? (fun j => j.key = i.key) = some i := by
  refine List.find?_eq_some_iff_append.mpr ⟨decide_eq_true rfl, front, back, rfl, ?_⟩
  intro j hj
  simpa using hfirst j hj

theorem getParam_first {front back : List kvpair} (hfirst : ∀ j ∈ front, j.key ≠ i.key) :
    getParam (front ++ i :: back) i.key = i.value := by
  rw [getParam, find?_first hfirst]

theorem getParam_eq (l : List kvpair) (key : Str) : (∀ i ∈ l, i.key ≠ key) ∧ getParam l key = []
    ∨ ∃ front i back, l = front ++ i :: back ∧ (∀ j ∈ front, j.key ≠ key) ∧ i.key = key
        ∧ getParam l key = i.value := by
  cases hfind : l.find? fun i => i.key = key with
  | none =>
    refine .inl ⟨fun i hi => by simpa using List.find?_eq_none.mp hfind i hi, ?_⟩
    rw [getParam, hfind]
  | some i =>
    obtain ⟨hkey, front, back, hl, hfront⟩ := List.find?_eq_some_iff_append.mp hfind
    refine .inr ⟨front, i, back, hl, fun j hj => by simpa using hfront j hj,
      of_decide_eq_true hkey, ?_⟩
    rw [getParam, hfind]

/-! ## The first parameter that is read with a key -/

/-- The line of the parameter is read with this key. -/
def ReadAs (charSigned : Bool) (key : Str) (i : kvpair) : Prop :=
  0 ∉ i.key ∧ Trim charSigned i.key = key

theorem reread_any {key : Str} :
    (reread charSigned i).any (fun j => j.key = key) = true ↔ ReadAs charSigned key i := by
  rw [reread, ReadAs]
  split
  · next hzero => simp [hzero]
  · next hzero => simp [hzero]

theorem getParam_read {key : Str} {front back : List kvpair}
    (hfront : ∀ j ∈ front, ¬ ReadAs charSigned key j) (hi : ReadAs charSigned key i) :
    getParam ((front ++ i :: back).filterMap (reread charSigned)) key
      = Trim charSigned (c_str i.value) := by
  have hfind : (front ++ i :: back).find? (fun i => (reread charSigned i).any fun j => j.key = key)
      = some i := by
    refine List.find?_eq_some_iff_append.mpr ⟨reread_any.mpr hi, front, back, rfl, ?_⟩
    intro j hj
    rw [Bool.not_eq_true', Bool.eq_false_iff]
    exact mt reread_any.mp (hfront j hj)
  rw [getParam, List.find?_filterMap, hfind, Option.bind_some, reread, if_neg hi.1]

/-- No line is read with the key, or one is the first. -/
theorem getParam_reread (charSigned : Bool) (l : List kvpair) (key : Str) :
    (∀ i ∈ l, ¬ ReadAs charSigned key i) ∧ getParam (l.filterMap (reread charSigned)) key = []
    ∨ ∃ front i back, l = front ++ i :: back ∧ (∀ j ∈ front, ¬ ReadAs charSigned key j)
        ∧ ReadAs charSigned key i := by
  cases hfind : l.find? fun i => (reread charSigned i).any fun j => j.key = key with
  | none =>
    refine .inl ⟨fun i hi hread => ?_, ?_⟩
    · exact List.find?_eq_none.mp hfind i hi (reread_any.mpr hread)
    · rw [getParam, List.find?_filterMap, hfind]
      rfl
  | some i =>
    obtain ⟨hkey, front, back, hl, hfront⟩ := List.find?_eq_some_iff_append.mp hfind
    refine .inr ⟨front, i, back, hl, ?_, reread_any.mp hkey⟩
    intro j hj hread
    have hnot := hfront j hj
    rw [reread_any.mpr hread] at hnot
    cases hnot

namespace Configurator

/-- Every key is read with the value it has. -/
def ReadBack (charSigned : Bool) (l : List kvpair) : Prop :=
  ∀ key, getParam (l.filterMap (reread charSigned)) key = getParam l key

theorem Stable.readAs (h : Stable charSigned i) : ReadAs charSigned i.key i := ⟨h.keyZero, h.key⟩

theorem Stable.value_eq (h : Stable charSigned i) : Trim charSigned (c_str i.value) = i.value := by
  rw [c_str_eq_self.mpr h.valueZero, h.value]

/-- A value that is read as it was written has no zero byte. -/
theorem stable_of_read (hread : ReadAs charSigned i.key i)
    (hvalue : Trim charSigned (c_str i.value) = i.value) : Stable charSigned i := by
  have hzero : 0 ∉ i.value := by
    rw [← hvalue]
    refine not_mem_Trim (by decide) ?_
    intro hmem
    exact absurd (List.mem_takeWhile_imp hmem) (by simp)
  rw [c_str_eq_self.mpr hzero] at hvalue
  exact ⟨hread.2, hvalue, hread.1, hzero⟩

/-- What is read with a key, and first, is the first parameter of that key. -/
theorem readBack_of_kept (hkept : Kept charSigned l) : ReadBack charSigned l := by
  intro key
  rcases getParam_reread charSigned l key with
    ⟨hnone, hread⟩ | ⟨front, i, back, rfl, hfront, hi⟩
  · rw [hread]
    rcases getParam_eq l key with ⟨-, hvalue⟩ | ⟨front, i, back, hl, hfront, rfl, hvalue⟩
    · exact hvalue.symm
    · rw [hvalue]
      rcases hkept front i back hl hfront with hstable | ⟨hempty, -⟩
      · exact absurd hstable.readAs (hnone i (by rw [hl]; simp))
      · exact hempty.symm
  · have hfirst : ∀ j ∈ front, j.key ≠ i.key := by
      intro j hj heq
      refine hfront j hj ⟨?_, ?_⟩
      · rw [heq]
        exact hi.1
      · rw [heq]
        exact hi.2
    rw [getParam_read hfront hi]
    rcases hkept front i back rfl hfirst with hstable | ⟨-, hzero | ⟨j, hj, hj0, hjkey⟩⟩
    · obtain rfl : i.key = key := hstable.key.symm.trans hi.2
      rw [hstable.value_eq, getParam_first hfirst]
    · exact absurd hzero hi.1
    · exact absurd ⟨hj0, hjkey.trans hi.2⟩ (hfront j hj)

/-- What has come from the file stands before what was set. -/
structure Parts (charSigned : Bool) (l : List kvpair) (read set : List kvpair) : Prop where
  parts : l = read ++ set
  stable : ∀ i ∈ read, Stable charSigned i
  noSpace : ∀ i ∈ set, i.value ≠ [space]
  writable : ∀ i ∈ l, Writable i

theorem Parts.back {read set front back : List kvpair} (hp : Parts charSigned l read set)
    (hl : l = front ++ i :: back) (hnot : ¬ Stable charSigned i) : ∀ j ∈ back, j.value ≠ [space] := by
  rcases List.append_eq_append_iff.mp (hp.parts.symm.trans hl) with
    ⟨middle, hfront, hset⟩ | ⟨middle, hread, hset⟩
  · intro j hj
    exact hp.noSpace j (by rw [hset]; simp [hj])
  · cases middle with
    | nil =>
      intro j hj
      refine hp.noSpace j ?_
      rw [← List.nil_append set, ← hset]
      exact List.mem_cons_of_mem _ hj
    | cons k middle =>
      -- then it would have come from the file
      obtain ⟨rfl, -⟩ := List.cons.inj hset
      exact absurd (hp.stable i (by rw [hread]; simp)) hnot

/-- The first parameter of a key that is changed by trimming is empty, and a line before it is read
with the trimmed key. -/
theorem trimmed_key {read set front back : List kvpair} (hp : Parts charSigned l read set)
    (hback : ReadBack charSigned l) (hl : l = front ++ i :: back)
    (hfirst : ∀ j ∈ front, j.key ≠ i.key) (hzero : 0 ∉ i.key)
    (htrim : Trim charSigned i.key ≠ i.key) :
    i.value = [] ∧ ∃ j ∈ front, ReadAs charSigned (Trim charSigned i.key) j := by
  have hempty : i.value = [] := by
    have hvalue := hback i.key
    rw [hl, getParam_first hfirst, ← hl] at hvalue
    rcases getParam_reread charSigned l i.key with ⟨-, hread⟩ | ⟨_, k, _, -, -, hk⟩
    · exact hvalue.symm.trans hread
    · refine absurd ?_ htrim
      rw [← hk.2, Trim_Trim]
  refine ⟨hempty, ?_⟩
  by_contra hnone
  -- then its line is the first that is read with the trimmed key, with a space as the value
  have hread : getParam l (Trim charSigned i.key) = [space] := by
    rw [← hback, hl, getParam_read (fun j hj hread => hnone ⟨j, hj, hread⟩) ⟨hzero, rfl⟩, hempty]
    exact Trim_nil
  rcases getParam_eq l (Trim charSigned i.key) with ⟨-, hvalue⟩ | ⟨before, j, after, hj, -, hkey, hvalue⟩
  · exact absurd (hvalue.symm.trans hread) (List.cons_ne_nil _ _).symm
  · have hspace : j.value = [space] := hvalue.symm.trans hread
    have hmem : j ∈ front ++ i :: back := hl ▸ hj ▸ List.mem_append_right _ List.mem_cons_self
    rcases List.mem_append.mp hmem with hmem | hmem
    · refine hnone ⟨j, hmem, ?_, ?_⟩
      · rw [hkey]
        exact not_mem_Trim (by decide) hzero
      · rw [hkey, Trim_Trim]
    · rcases List.mem_cons.mp hmem with rfl | hmem
      · exact htrim hkey.symm
      · exact hp.back hl (fun hstable => htrim hstable.key) j hmem hspace

theorem kept_of_readBack {read set : List kvpair} (hp : Parts charSigned l read set)
    (hback : ReadBack charSigned l) : Kept charSigned l := by
  intro front i back hl hfirst
  by_cases hstable : Stable charSigned i
  · exact .inl hstable
  · refine .inr ?_
    by_cases hzero : 0 ∈ i.key
    · refine ⟨?_, .inl hzero⟩
      -- its key is in no line that is read
      have hvalue := hback i.key
      rw [hl, getParam_first hfirst, ← hl] at hvalue
      rcases getParam_reread charSigned l i.key with ⟨-, hread⟩ | ⟨_, k, _, -, -, hk⟩
      · exact hvalue.symm.trans hread
      · rw [← hk.2] at hzero
        exact absurd hzero (not_mem_Trim (by decide) hk.1)
    · by_cases htrim : Trim charSigned i.key = i.key
      · -- it is not the first that is read with its key, and the one that is has another key
        exfalso
        rcases getParam_reread charSigned l i.key with
          ⟨hnone, -⟩ | ⟨front', k, back', hk, hfront', hread⟩
        · exact hnone i (by rw [hl]; simp) ⟨hzero, htrim⟩
        · have hbefore : ∀ j ∈ front', j.key ≠ k.key := by
            intro j hj heq
            refine hfront' j hj ⟨?_, ?_⟩
            · rw [heq]
              exact hread.1
            · rw [heq]
              exact hread.2
          by_cases hkey : k.key = i.key
          · have hvalue : i.value = k.value := by
              rw [← getParam_first hfirst, ← getParam_first hbefore, ← hl, ← hk, hkey]
            have hsame : Trim charSigned (c_str k.value) = i.value := by
              rw [← getParam_read hfront' hread, ← hk, hback i.key, hl, getParam_first hfirst]
            exact hstable (stable_of_read ⟨hzero, htrim⟩ (hvalue ▸ hsame))
          · have htrimmed : Trim charSigned k.key ≠ k.key :=
              fun heq => hkey (heq.symm.trans hread.2)
            obtain ⟨-, j, hj, hjread⟩ := trimmed_key hp hback hk hbefore hread.1 htrimmed
            rw [hread.2] at hjread
            exact hfront' j hj hjread
      · obtain ⟨hempty, j, hj, hread⟩ := trimmed_key hp hback hl hfirst hzero htrim
        exact ⟨hempty, .inr ⟨j, hj, hread⟩⟩

/-! ## Setting a parameter -/

theorem getParam_append_single (l : List kvpair) (key value : Str) :
    getParam (l ++ [⟨key, value⟩]) key
      = match l.find? fun i => i.key = key with
        | none => value
        | some i => i.value := by
  rw [getParam, List.find?_append]
  cases l.find? fun i => i.key = key with
  | none => simp
  | some i => rfl

/-- **A key gets its new value** unless another one of its values comes first then. -/
theorem getParam_setParam_self (l : List kvpair) (key value : Str) :
    getParam (setParam l key value) key = value ↔ Replaces l key value := by
  rw [setParam, getParam_append_single, Replaces, delParam]
  cases hfind : l.find? fun i => i.key = key with
  | none =>
    dsimp only
    rw [hfind]
    simp
  | some i =>
    dsimp only
    constructor
    · intro hvalue i' hi' j hj
      obtain rfl := Option.some.inj hi'
      rw [hj] at hvalue
      exact hvalue
    · intro hnext
      cases hfirst : (l.filter fun p => p ≠ i).find? fun j => j.key = key with
      | none => rfl
      | some j => exact hnext i rfl j hfirst

/-- The other keys keep their values. -/
theorem getParam_setParam_of_ne {key other : Str} (h : other ≠ key) (value : Str) :
    getParam (setParam l key value) other = getParam l other := by
  have happend : ∀ l : List kvpair, getParam (l ++ [⟨key, value⟩]) other = getParam l other := by
    intro l
    rw [getParam, getParam, List.find?_append]
    cases l.find? fun i => i.key = other with
    | none => simp [Ne.symm h]
    | some i => rfl
  rw [setParam, happend, delParam]
  cases hfind : l.find? fun i => i.key = key with
  | none => rfl
  | some i =>
    have hkey : i.key = key := by simpa using List.find?_some hfind
    rw [getParam, getParam, List.find?_filter]
    congr 2
    funext j
    rw [Bool.eq_iff_iff]
    simp only [decide_eq_true_eq, and_iff_right_iff_imp]
    rintro rfl rfl
    exact h hkey

theorem mem_delParam {key : Str} {j : kvpair} (h : j ∈ delParam l key) : j ∈ l := by
  rw [delParam] at h
  split at h
  · exact h
  · exact (List.mem_filter.mp h).1

theorem Parts.setParam {read set : List kvpair} (hp : Parts charSigned l read set)
    (key value : PlainStr) :
    ∃ read' set', Parts charSigned (setParam l key.str value.str) read' set' := by
  have hnew : ∀ i ∈ Conf.setParam l key.str value.str, Writable i := by
    intro i hi
    rcases List.mem_append.mp hi with hi | hi
    · exact hp.writable i (mem_delParam hi)
    · rw [List.mem_singleton.mp hi]
      exact ⟨key.noEquals, key.noNewline, value.noNewline⟩
  have hspace : value.str ≠ [space] := fun heq => value.noFirstSpace (heq ▸ rfl)
  have hset : ∀ set : List kvpair, (∀ i ∈ set, i.value ≠ [space]) →
      ∀ i ∈ set ++ [⟨key.str, value.str⟩], i.value ≠ [space] := by
    intro set hall i hi
    rcases List.mem_append.mp hi with hi | hi
    · exact hall i hi
    · rw [List.mem_singleton.mp hi]
      exact hspace
  cases hfind : l.find? fun i => i.key = key.str with
  | none =>
    refine ⟨read, set ++ [⟨key.str, value.str⟩], ?_, hp.stable, hset set hp.noSpace, hnew⟩
    rw [Conf.setParam, delParam, hfind, hp.parts, List.append_assoc]
  | some i =>
    refine ⟨read.filter fun p => p ≠ i, (set.filter fun p => p ≠ i) ++ [⟨key.str, value.str⟩],
      ?_, ?_, hset _ ?_, hnew⟩
    · rw [Conf.setParam, delParam, hfind]
      dsimp only
      rw [hp.parts, List.filter_append, List.append_assoc]
    · exact fun j hj => hp.stable j (List.mem_filter.mp hj).1
    · exact fun j hj => hp.noSpace j (List.mem_filter.mp hj).1

/-! ## What comes from a file -/

theorem mem_of_mem_lines {content line : Str} (h : line ∈ lines content) : newline ∉ line := by
  induction hn : content.length using Nat.strongRecOn generalizing content with
  | ind n ih =>
    by_cases hmem : newline ∈ content
    · obtain ⟨first, rest, rfl, hfirst⟩ := List.eq_append_cons_of_mem hmem
      rw [lines_append hfirst] at h
      rcases List.mem_cons.mp h with rfl | h
      · exact hfirst
      · refine ih rest.length ?_ h rfl
        rw [← hn, List.length_append, List.length_cons]
        omega
    · rw [lines_of_not_mem hmem] at h
      rw [List.mem_singleton.mp h]
      exact hmem

theorem mem_Parse {content : Str} (h : i ∈ Parse charSigned ((lines content).map c_str)) :
    Stable charSigned i ∧ Writable i := by
  obtain ⟨str, hstr, rfl⟩ := List.mem_map.mp h
  obtain ⟨hmem, hequals⟩ := List.mem_filter.mp hstr
  obtain ⟨line, hline, rfl⟩ := List.mem_map.mp hmem
  have hzero : 0 ∉ c_str line := fun hmem => absurd (List.mem_takeWhile_imp hmem) (by simp)
  have hnewline : newline ∉ c_str line :=
    fun hmem => mem_of_mem_lines hline ((List.takeWhile_prefix _).subset hmem)
  have hkey : ∀ c ∈ (Split (c_str line) equals).1, c ∈ c_str line ∧ c ≠ equals := by
    rw [Split, if_pos (of_decide_eq_true hequals)]
    intro c hc
    exact ⟨(List.takeWhile_prefix _).subset hc, by simpa using List.mem_takeWhile_imp hc⟩
  have hvalue : ∀ c ∈ (Split (c_str line) equals).2, c ∈ c_str line := by
    rw [Split, if_pos (of_decide_eq_true hequals)]
    intro c hc
    exact (List.dropWhile_suffix _).subset (List.mem_of_mem_tail hc)
  refine ⟨⟨Trim_Trim _, Trim_Trim _, ?_, ?_⟩, ⟨?_, ?_, ?_⟩⟩
  · exact not_mem_Trim (by decide) fun hmem => hzero (hkey _ hmem).1
  · exact not_mem_Trim (by decide) fun hmem => hzero (hvalue _ hmem)
  · exact not_mem_Trim (by decide) fun hmem => (hkey _ hmem).2 rfl
  · exact not_mem_Trim (by decide) fun hmem => hnewline (hkey _ hmem).1
  · exact not_mem_Trim (by decide) fun hmem => hnewline (hvalue _ hmem)

theorem parts_opened {content : Str} {mnt : List Str} (hr : ReadFile content mnt) :
    Parts charSigned (Parse charSigned mnt) (Parse charSigned mnt) [] := by
  obtain ⟨-, rfl⟩ := ReadFile_iff.mp hr
  exact ⟨(List.append_nil _).symm, fun i hi => (mem_Parse hi).1,
    fun i hi => absurd hi List.not_mem_nil, fun i hi => (mem_Parse hi).2⟩

/-! ## Runs -/

variable {c : Configurator}

structure Inv (charSigned : Bool) (c : Configurator) : Prop where
  survives : Survives charSigned c
  parts : ∃ read set, Parts charSigned c.paramlist read set

theorem Inv.setParam (h : Inv charSigned c) (key value : PlainStr) :
    Survives charSigned
        ⟨Conf.setParam c.paramlist key.str value.str, ⟨key.str, value.str⟩ :: c.sets, none⟩
      ↔ Replaces c.paramlist key.str value.str := by
  rw [← getParam_setParam_self]
  constructor
  · intro hs
    exact hs.latest key.str ⟨key.str, value.str⟩ (List.find?_cons_of_pos (by simp))
  · intro hvalue
    refine ⟨?_, fun content hsaved => by cases hsaved⟩
    intro other i hi
    by_cases hkey : other = key.str
    · subst hkey
      rw [List.find?_cons_of_pos (by simp)] at hi
      rw [hvalue, ← Option.some.inj hi]
    · rw [List.find?_cons_of_neg (by simpa using Ne.symm hkey)] at hi
      rw [getParam_setParam_of_ne hkey]
      exact h.survives.latest other i hi

theorem Inv.save (h : Inv charSigned c) :
    Survives charSigned { c with saved := some (Conf.save c.paramlist) }
      ↔ (∀ i ∈ c.paramlist, i.key.length + i.value.length + 1 ≤ 2046)
        ∧ Kept charSigned c.paramlist := by
  obtain ⟨read, set, hp⟩ := h.parts
  constructor
  · intro hs
    obtain ⟨mnt, hread, hsame⟩ := hs.reread _ rfl
    obtain ⟨hlength, rfl⟩ := (ReadFile_save hp.writable).mp hread
    rw [Parse_save hp.writable] at hsame
    exact ⟨hlength, kept_of_readBack hp hsame⟩
  · rintro ⟨hlength, hkept⟩
    refine ⟨h.survives.latest, ?_⟩
    intro content hsaved
    obtain rfl := Option.some.inj hsaved
    refine ⟨_, (ReadFile_save hp.writable).mpr ⟨hlength, rfl⟩, ?_⟩
    rw [Parse_save hp.writable]
    exact readBack_of_kept hkept

theorem survives_step_iff (h : Inv charSigned c) (s : Step) :
    (∀ c', step c s = some c' → Survives charSigned c') ↔ Careful charSigned c s := by
  cases s with
  | setParam key value =>
    rw [Careful, ← h.setParam key value]
    exact ⟨fun hall => hall _ rfl, fun hs c' hc' => Option.some.inj hc' ▸ hs⟩
  | save =>
    rw [Careful, ← h.save]
    exact ⟨fun hall => hall _ rfl, fun hs c' hc' => Option.some.inj hc' ▸ hs⟩

theorem parts_step {c' : Configurator} {s : Step} (h : Inv charSigned c)
    (hs : step c s = some c') : ∃ read set, Parts charSigned c'.paramlist read set := by
  obtain ⟨read, set, hp⟩ := h.parts
  cases s with
  | setParam key value =>
    obtain rfl := Option.some.inj hs
    exact hp.setParam key value
  | save =>
    obtain rfl := Option.some.inj hs
    exact ⟨read, set, hp⟩

/-- **A configurator is a map that survives saving exactly along the runs whose steps all meet the
condition.** For every file that is read to its end, and any keys and values. -/
theorem survives_iff {content : Str} {mnt : List Str} (hr : ReadFile content mnt)
    (as : List Step) :
    Always step (opened charSigned mnt) as (Survives charSigned)
      ↔ Along step (Careful charSigned) (opened charSigned mnt) as := by
  refine always_iff_of_enabled (I := Inv charSigned) (fun _ h => h.survives)
    (fun _ s h => survives_step_iff h s) ?_ ?_
  · intro c s c' h hcareful hs
    exact ⟨(survives_step_iff h s).mpr hcareful c' hs, parts_step h hs⟩
  · refine ⟨⟨fun _ _ hi => ?_, fun _ hsaved => ?_⟩, _, _, parts_opened hr⟩
    · cases hi
    · cases hsaved

/-- `k=1`, and then `k` is set to `2`. -/
theorem survives_iff_set : Always step (opened true [[107, 61, 49], []])
    [.setParam ⟨[107], by decide, by decide, by decide, by decide⟩
      ⟨[50], by decide, by decide, by decide, by decide⟩] (Survives true) := by
  have hr : ReadFile [107, 61, 49, 10] [[107, 61, 49], []] := ⟨3, by decide⟩
  refine (survives_iff hr _).mpr ⟨?_, fun _ _ => trivial⟩
  intro i hi j hj
  obtain rfl := Option.some.inj hi
  cases hj

/-- `k=1` and `k=2`, and then `k` is set to `3`: the value is `2`. -/
theorem set_value_hidden : ¬ ∃ charSigned, ∀ content mnt as, ReadFile content mnt →
    Always step (opened charSigned mnt) as (Survives charSigned) := by
  rintro ⟨charSigned, hall⟩
  have hr : ReadFile [107, 61, 49, 10, 107, 61, 50, 10] [[107, 61, 49], [107, 61, 50], []] :=
    ⟨4, by decide⟩
  have hlast := hall _ _ [.setParam ⟨[107], by decide, by decide, by decide, by decide⟩
    ⟨[51], by decide, by decide, by decide, by decide⟩] hr _ [] _ (List.append_nil _).symm rfl
  have hvalue := hlast.latest [107] ⟨[107], [51]⟩ rfl
  cases charSigned with
  | true => revert hvalue; decide
  | false => revert hvalue; decide

end Configurator

end IviLink.Utils.Conf
