import IviLink.Proof.WaitingStart
import Mathlib.Algebra.BigOperators.Group.List.Basic

/-!
# What the lists of the profile managers survive

A list is written into an array whose size was computed before, and is read back with a position
of type `int`. The reader believes what it reads: it stays inside of the data exactly if the data
begin with as many sized strings as they announce.
-/

namespace IviLink.ProfileManager.Interaction

open IviLink.Lib Complements WaitingServices

/-! ## Sized strings -/

/-- Some bytes, with their number in front. -/
def sized (s : List UInt8) : List UInt8 := le32 (hton32 (UInt32.ofNat s.length)) ++ s

/-- A sized string, and a version. -/
def entryBytes (e : List UInt8 × UInt32) : List UInt8 := sized e.1 ++ le32 (hton32 e.2)

/-- The data of a response begin with as many entries as they announce. -/
structure AnnouncedComplements (data : List UInt8) (entries : List (List UInt8 × UInt32))
    (tail : List UInt8) : Prop where
  /-- The byte that ends a string is counted. -/
  nonempty : ∀ e ∈ entries, e.1 ≠ []
  counted : 4 + (entries.map (·.1.length + 8)).sum ≤ INT_MAX
  data_eq : data = le32 (hton32 (UInt32.ofNat entries.length)) ++
    entries.flatMap entryBytes ++ tail

/-- The data of a list of services begin with as many strings as they announce. The byte that ends
the last one is counted, but is not read. -/
structure AnnouncedServices (data : List UInt8) (last : UInt8) (strings : List (List UInt8))
    (tail : List UInt8) : Prop where
  nonempty : ∀ s ∈ strings, s ≠ []
  counted : 4 + (strings.map (·.length + 4)).sum ≤ INT_MAX
  count : 4 ≤ data.length
  data_eq : data ++ [last] = le32 (hton32 (UInt32.ofNat strings.length)) ++
    strings.flatMap sized ++ tail

/-- What is written for a list of complements has the size that was computed, and is read back. -/
structure CarriesComplements (complements : List (Complements.Uid × UInt32)) : Prop where
  size : PMP_FRAME_SIZE + (responseData complements).length = (responseSize complements).toNat
  read : onGetAvailableProfileComplementsResponse (responseData complements) = some complements

/-- What is written for a list of services has the size that was computed, and is read back. -/
structure CarriesServices (services : List WaitingServices.Uid) : Prop where
  size : PMP_FRAME_SIZE + (listData services).length = (frameSize services).toNat
  read : onReceivedServicesList (listData services) = some services

theorem length_sized (s : List UInt8) : (sized s).length = s.length + 4 := by
  rw [sized, List.length_append, length_le32, Nat.add_comm]

theorem readUInt32_eq_some {l rest : List UInt8} {x : UInt32} (h : readUInt32 l = some (x, rest)) :
    l = le32 (hton32 x) ++ rest := by
  rw [readUInt32] at h
  split at h
  · next hlen =>
    obtain ⟨rfl, rfl⟩ := Prod.mk.inj (Option.some.inj h)
    have htake : (l.take 4).length = 4 := by rw [List.length_take]; omega
    rw [hton32, ntoh32, swap32_swap32, le32_ofLE32 htake, List.take_append_drop]
  · cases h

/-- What `bufferToString` has read, when the size in front of it is not 0. -/
theorem bufferToString_eq_some {l str : List UInt8} (h : bufferToString l = some str)
    (hlen : str.length ≤ INT_MAX) :
    ∃ rest, l = le32 (hton32 (UInt32.ofNat (str.length + 1))) ++ rest ∧
      str.length ≤ rest.length ∧ l.drop (stringInBufSize str) = rest.drop (str.length + 1) := by
  rw [bufferToString] at h
  split at h
  · cases h
  · next size rest hread =>
    split at h
    · next hle =>
      obtain rfl := Option.some.inj h
      rw [List.length_take, Nat.min_eq_left hle] at hlen ⊢
      have hsize : size ≠ 0 := by
        rintro rfl
        exact absurd hlen (by decide)
      have hpos : 0 < size.toNat := by
        rw [Nat.pos_iff_ne_zero]
        exact fun h0 => hsize (UInt32.toNat_inj.mp h0)
      have hone : (1 : UInt32) ≤ size := UInt32.le_iff_toNat_le.mpr hpos
      have hsub : (size - 1).toNat = size.toNat - 1 := UInt32.toNat_sub_of_le _ _ hone
      have hl : l = le32 (hton32 (UInt32.ofNat ((size - 1).toNat + 1))) ++ rest := by
        rw [hsub, Nat.sub_add_cancel hpos, UInt32.ofNat_toNat]
        exact readUInt32_eq_some hread
      refine ⟨rest, hl, hle, ?_⟩
      have hfour : (le32 (hton32 (UInt32.ofNat ((size - 1).toNat + 1)))).length = 4 := length_le32 _
      rw [stringInBufSize, List.length_take, Nat.min_eq_left hle, hl, Nat.add_comm,
        List.drop_append, hfour, List.drop_of_length_le (by omega), Nat.add_sub_cancel_left,
        List.nil_append]
    · cases h

/-- A string that is sized with the byte that ends it. -/
theorem bufferToString_sized {s rest : List UInt8} (hne : s ≠ []) (hlen : s.length < 2 ^ 32)
    (hrest : s.length - 1 ≤ rest.length) :
    bufferToString (le32 (hton32 (UInt32.ofNat s.length)) ++ rest) =
      some (rest.take (s.length - 1)) := by
  have hpos : 0 < s.length := List.length_pos_iff.mpr hne
  have hn : (UInt32.ofNat s.length).toNat = s.length := by
    rw [UInt32.toNat_ofNat', Nat.mod_eq_of_lt hlen]
  have hone : (1 : UInt32) ≤ UInt32.ofNat s.length := by
    rw [UInt32.le_iff_toNat_le, hn]
    exact hpos
  have hsub : (UInt32.ofNat s.length - 1).toNat = s.length - 1 := by
    rw [UInt32.toNat_sub_of_le _ _ hone, hn]
    rfl
  rw [bufferToString, readUInt32_le32]
  dsimp only
  rw [hsub, if_pos hrest]

/-! ## Complements -/

/-- **What the loop has passed** is that many entries. -/
theorem entries_of_readComplements {n pos : Nat} {rest : List UInt8}
    {complements : List (Complements.Uid × UInt32)}
    (h : readComplements n pos rest = some complements) (hpos : pos ≤ INT_MAX) :
    ∃ (entries : List (List UInt8 × UInt32)) (tail : List UInt8), entries.length = n ∧
      (∀ e ∈ entries, e.1 ≠ []) ∧ pos + (entries.map (·.1.length + 8)).sum ≤ INT_MAX ∧
      rest = entries.flatMap entryBytes ++ tail := by
  induction n generalizing pos rest complements with
  | zero => exact ⟨[], rest, rfl, by simp, hpos, rfl⟩
  | succ n ih =>
    rw [readComplements] at h
    split at h
    · cases h
    · next str hstr =>
      dsimp only at h
      split at h
      · cases h
      · next version rest' hversion =>
        split at h
        · next hmax =>
          obtain ⟨complements', hread, -⟩ := Option.map_eq_some_iff.mp h
          rw [stringInBufSize] at hmax
          obtain ⟨bytes, hbytes, hle, hdrop⟩ := bufferToString_eq_some hstr (by omega)
          have hbehind : bytes.drop (str.length + 1) = le32 (hton32 version) ++ rest' :=
            hdrop ▸ readUInt32_eq_some hversion
          have hend : str.length + 1 ≤ bytes.length := by
            have hcount := congrArg List.length hbehind
            rw [List.length_drop, List.length_append, length_le32] at hcount
            omega
          have hfirst : (bytes.take (str.length + 1)).length = str.length + 1 := by
            rw [List.length_take, Nat.min_eq_left hend]
          obtain ⟨entries, tail, hlen, hne, hcounted, hrest⟩ := ih hread hmax
          refine ⟨(bytes.take (str.length + 1), version) :: entries, tail, by simp [hlen], ?_, ?_, ?_⟩
          · rw [List.forall_mem_cons]
            exact ⟨List.ne_nil_of_length_pos (by dsimp only; omega), hne⟩
          · rw [stringInBufSize] at hcounted
            rw [List.map_cons, List.sum_cons, hfirst]
            omega
          · rw [List.flatMap_cons, entryBytes, sized, hfirst, hbytes, List.append_assoc,
              List.append_assoc, List.append_assoc, ← hrest, ← hbehind, List.take_append_drop]
        · cases h

/-- The loop passes the entries that are there. -/
theorem readComplements_entries {entries : List (List UInt8 × UInt32)} {pos : Nat}
    {tail : List UInt8} (hne : ∀ e ∈ entries, e.1 ≠ [])
    (hcounted : pos + (entries.map (·.1.length + 8)).sum ≤ INT_MAX) :
    ∃ complements, readComplements entries.length pos (entries.flatMap entryBytes ++ tail) =
      some complements := by
  induction entries generalizing pos with
  | nil => exact ⟨[], rfl⟩
  | cons e entries ih =>
    obtain ⟨s, version⟩ := e
    rw [List.map_cons, List.sum_cons] at hcounted
    dsimp only at hcounted
    have hs : s ≠ [] := hne _ List.mem_cons_self
    have hpos : 0 < s.length := List.length_pos_iff.mpr hs
    have hmax : INT_MAX < 2 ^ 32 := by decide
    rw [List.length_cons, List.flatMap_cons, entryBytes, sized, List.append_assoc,
      List.append_assoc, List.append_assoc, readComplements,
      bufferToString_sized hs (by omega) (by rw [List.length_append]; dsimp only; omega)]
    dsimp only
    have hstr : stringInBufSize ((s ++ (le32 (hton32 version) ++
        (entries.flatMap entryBytes ++ tail))).take (s.length - 1)) = s.length + 4 := by
      rw [stringInBufSize, List.length_take, List.length_append]
      omega
    have hdrop : (le32 (hton32 (UInt32.ofNat s.length)) ++ (s ++ (le32 (hton32 version) ++
        (entries.flatMap entryBytes ++ tail)))).drop (s.length + 4) =
        le32 (hton32 version) ++ (entries.flatMap entryBytes ++ tail) := by
      rw [← length_sized, ← List.append_assoc, ← sized, List.drop_left]
    rw [hstr, hdrop, readUInt32_le32]
    dsimp only
    rw [if_pos (by omega)]
    obtain ⟨complements, hread⟩ := @ih (pos + (s.length + 4) + 4)
      (fun e he => hne e (List.mem_cons_of_mem _ he)) (by omega)
    rw [hread]
    exact ⟨_, rfl⟩

theorem length_le_sum {α : Type} (l : List α) (f : α → Nat) (h : ∀ a ∈ l, 0 < f a) :
    l.length ≤ (l.map f).sum := by
  have hone := List.length_le_sum_of_one_le (l.map f) (List.forall_mem_map.mpr h)
  rwa [List.length_map] at hone

/-- **The reader of the complements stays inside of the data** exactly if they begin with what they
announce. -/
theorem exists_complements_iff (data : List UInt8) :
    (∃ complements, onGetAvailableProfileComplementsResponse data = some complements) ↔
      ∃ entries tail, AnnouncedComplements data entries tail := by
  constructor
  · rintro ⟨complements, h⟩
    rw [onGetAvailableProfileComplementsResponse] at h
    split at h
    · cases h
    · next count rest hcount =>
      obtain ⟨entries, tail, hlen, hne, hcounted, hrest⟩ :=
        entries_of_readComplements h (by decide)
      refine ⟨entries, tail, hne, hcounted, ?_⟩
      rw [hlen, UInt32.ofNat_toNat, List.append_assoc]
      exact hrest ▸ readUInt32_eq_some hcount
  · rintro ⟨entries, tail, hne, hcounted, rfl⟩
    have hlen : (UInt32.ofNat entries.length).toNat = entries.length := by
      have hle := length_le_sum entries (·.1.length + 8) fun e _ => Nat.succ_pos _
      rw [INT_MAX] at hcounted
      rw [UInt32.toNat_ofNat', Nat.mod_eq_of_lt (by omega)]
    rw [onGetAvailableProfileComplementsResponse, List.append_assoc, readUInt32_le32]
    dsimp only
    rw [hlen]
    exact readComplements_entries hne hcounted

theorem readComplements_counted {n pos : Nat} {rest : List UInt8}
    {complements : List (Complements.Uid × UInt32)}
    (h : readComplements n pos rest = some complements) (hpos : pos ≤ INT_MAX) :
    pos + (complements.map (·.1.length + 9)).sum ≤ INT_MAX := by
  induction n generalizing pos rest complements with
  | zero =>
    obtain rfl := Option.some.inj h
    exact hpos
  | succ n ih =>
    rw [readComplements] at h
    split at h
    · cases h
    · next str hstr =>
      dsimp only at h
      split at h
      · cases h
      · next version rest' hversion =>
        split at h
        · next hmax =>
          obtain ⟨complements', hread, rfl⟩ := Option.map_eq_some_iff.mp h
          have hrest := ih hread hmax
          rw [stringInBufSize] at hrest
          rw [List.map_cons, List.sum_cons]
          dsimp only
          omega
        · cases h

theorem length_flatMap_entries (complements : List (Complements.Uid × UInt32)) :
    (complements.flatMap entryToBuffer).length = (complements.map (·.1.length + 9)).sum := by
  rw [List.length_flatMap]
  congr 1
  exact List.map_congr_left fun it _ => by rw [length_entryToBuffer, stringInBufSize]

theorem carriesComplements_iff (complements : List (Complements.Uid × UInt32)) :
    CarriesComplements complements ↔ 4 + (complements.map (·.1.length + 9)).sum ≤ INT_MAX := by
  have hlen := length_responseData complements
  rw [length_flatMap_entries] at hlen
  constructor
  · intro h
    have hread := h.read
    rw [onGetAvailableProfileComplementsResponse] at hread
    split at hread
    · cases hread
    · exact readComplements_counted hread (by decide)
  · intro h
    rw [← hlen] at h
    refine ⟨?_, (response_exchanged h).2⟩
    rw [INT_MAX] at h
    rw [responseSize_toNat (by rw [PMP_FRAME_SIZE]; omega)]

/-! ## Services -/

/-- **What the loop has passed** is that many strings, whatever comes behind the data. -/
theorem strings_of_readServices {n pos : Nat} {rest : List UInt8}
    {services : List WaitingServices.Uid} (h : readServices n pos rest = some services)
    (hpos : pos ≤ INT_MAX) :
    ∃ (strings : List (List UInt8)) (tail : List UInt8), strings.length = n ∧
      (∀ s ∈ strings, s ≠ []) ∧ pos + (strings.map (·.length + 4)).sum ≤ INT_MAX ∧
      rest ++ [0] = strings.flatMap sized ++ tail := by
  induction n generalizing pos rest services with
  | zero => exact ⟨[], rest ++ [0], rfl, by simp, hpos, rfl⟩
  | succ n ih =>
    rw [readServices] at h
    split at h
    · cases h
    · next str hstr =>
      dsimp only at h
      split at h
      · next hmax =>
        obtain ⟨services', hread, -⟩ := Option.map_eq_some_iff.mp h
        rw [stringInBufSize] at hmax
        obtain ⟨bytes, hbytes, hle, hdrop⟩ := bufferToString_eq_some hstr (by omega)
        obtain ⟨strings, tail, hlen, hne, hcounted, hrest⟩ := ih hread hmax
        rw [stringInBufSize] at hcounted
        rw [hdrop] at hrest
        -- the byte that ends the string is there, or is the one behind the data
        have hends : ∃ s tail', s.length = str.length + 1 ∧
            bytes ++ [0] = s ++ (strings.flatMap sized ++ tail') := by
          rcases Nat.lt_or_eq_of_le hle with hlt | heq
          · refine ⟨bytes.take (str.length + 1), tail, ?_, ?_⟩
            · rw [List.length_take, Nat.min_eq_left hlt]
            · rw [← hrest, ← List.append_assoc, List.take_append_drop]
          · have hnil : strings = [] := by
              cases strings with
              | nil => rfl
              | cons s strings =>
                rw [List.drop_of_length_le (by omega), List.flatMap_cons] at hrest
                have hcount := congrArg List.length hrest
                simp only [List.length_append, length_sized, List.length_singleton,
                  List.length_nil] at hcount
                omega
            refine ⟨bytes ++ [0], [], ?_, ?_⟩
            · rw [List.length_append, List.length_singleton, heq]
            · rw [hnil, List.flatMap_nil, List.nil_append, List.append_nil]
        obtain ⟨s, tail', hs, hbehind⟩ := hends
        refine ⟨s :: strings, tail', by simp [hlen], ?_, ?_, ?_⟩
        · rw [List.forall_mem_cons]
          exact ⟨List.ne_nil_of_length_pos (by omega), hne⟩
        · rw [List.map_cons, List.sum_cons, hs]
          omega
        · rw [List.flatMap_cons, sized, hs, hbytes, List.append_assoc, List.append_assoc,
            List.append_assoc, hbehind]
      · cases h

/-- The loop passes the strings that are there. -/
theorem readServices_strings {strings : List (List UInt8)} {pos : Nat} {rest tail : List UInt8}
    {last : UInt8} (hne : ∀ s ∈ strings, s ≠ [])
    (hcounted : pos + (strings.map (·.length + 4)).sum ≤ INT_MAX)
    (hrest : rest ++ [last] = strings.flatMap sized ++ tail) :
    ∃ services, readServices strings.length pos rest = some services := by
  induction strings generalizing pos rest with
  | nil => exact ⟨[], rfl⟩
  | cons s strings ih =>
    rw [List.map_cons, List.sum_cons] at hcounted
    have hs : s ≠ [] := hne _ List.mem_cons_self
    have hpos : 0 < s.length := List.length_pos_iff.mpr hs
    have hmax : INT_MAX < 2 ^ 32 := by decide
    have hsize : (le32 (hton32 (UInt32.ofNat s.length))).length = 4 := length_le32 _
    rw [List.flatMap_cons, sized, List.append_assoc, List.append_assoc] at hrest
    have hlen := congrArg List.length hrest
    simp only [List.length_append, hsize, List.length_singleton] at hlen
    -- the number in front of the string is inside of the data
    obtain ⟨bytes, rfl, hbytes⟩ : ∃ bytes, rest = le32 (hton32 (UInt32.ofNat s.length)) ++ bytes ∧
        bytes ++ [last] = s ++ (strings.flatMap sized ++ tail) := by
      rcases List.append_eq_append_iff.mp hrest with ⟨bs, hfront, hback⟩ | ⟨bs, hfront, hback⟩
      · have hnil : bs = [] := by
          have hcount := congrArg List.length hback
          simp only [List.length_append, List.length_singleton] at hcount
          exact List.eq_nil_of_length_eq_zero (by omega)
        subst hnil
        rw [List.append_nil] at hfront
        exact ⟨[], by rw [hfront, List.append_nil], hback⟩
      · exact ⟨bs, hfront, hback.symm⟩
    have hcount := congrArg List.length hbytes
    simp only [List.length_append, List.length_singleton] at hcount
    rw [List.length_cons, readServices, bufferToString_sized hs (by omega) (by omega)]
    dsimp only
    have hstr : stringInBufSize (bytes.take (s.length - 1)) = s.length + 4 := by
      rw [stringInBufSize, List.length_take]
      omega
    have hdrop : (le32 (hton32 (UInt32.ofNat s.length)) ++ bytes).drop (s.length + 4) =
        bytes.drop s.length := by
      rw [Nat.add_comm, List.drop_append, hsize, List.drop_of_length_le (by omega),
        Nat.add_sub_cancel_left, List.nil_append]
    rw [hstr, hdrop, if_pos (by omega)]
    have hread : ∃ services, readServices strings.length (pos + (s.length + 4))
        (bytes.drop s.length) = some services := by
      rcases Nat.lt_or_ge bytes.length s.length with hlt | hge
      · cases strings with
        | nil => exact ⟨[], rfl⟩
        | cons s' strings =>
          simp only [List.flatMap_cons, List.length_append, length_sized] at hcount
          omega
      · refine ih (fun s' hs' => hne s' (List.mem_cons_of_mem _ hs')) (by omega) ?_
        rw [← List.drop_append_of_le_length hge, hbytes, List.drop_left]
    obtain ⟨services, hread⟩ := hread
    rw [hread]
    exact ⟨_, rfl⟩

/-- **The reader of the services stays inside of the data** exactly if they begin with what they
announce; the byte behind the last string may be missing. -/
theorem exists_services_iff (data : List UInt8) :
    (∃ services, onReceivedServicesList data = some services) ↔
      ∃ last strings tail, AnnouncedServices data last strings tail := by
  constructor
  · rintro ⟨services, h⟩
    rw [onReceivedServicesList] at h
    split at h
    · cases h
    · next count rest hcount =>
      obtain ⟨strings, tail, hlen, hne, hcounted, hrest⟩ := strings_of_readServices h (by decide)
      have hdata := readUInt32_eq_some hcount
      refine ⟨0, strings, tail, hne, hcounted, ?_, ?_⟩
      · rw [hdata, List.length_append, length_le32]
        omega
      · rw [hdata, hlen, UInt32.ofNat_toNat, List.append_assoc, List.append_assoc, hrest]
  · rintro ⟨last, strings, tail, hne, hcounted, hfour, hdata⟩
    have hlen : (UInt32.ofNat strings.length).toNat = strings.length := by
      have hle := length_le_sum strings (·.length + 4) fun s _ => Nat.succ_pos _
      rw [INT_MAX] at hcounted
      rw [UInt32.toNat_ofNat', Nat.mod_eq_of_lt (by omega)]
    obtain ⟨rest, rfl, hrest⟩ : ∃ rest,
        data = le32 (hton32 (UInt32.ofNat strings.length)) ++ rest ∧
        rest ++ [last] = strings.flatMap sized ++ tail := by
      rw [List.append_assoc] at hdata
      have hsize : (le32 (hton32 (UInt32.ofNat strings.length))).length = 4 := length_le32 _
      refine ⟨data.drop 4, ?_, ?_⟩
      · rw [← List.take_append_drop 4 data, List.take_append_drop 4 data]
        have htake := congrArg (List.take 4) hdata
        rw [List.take_append_of_le_length hfour, ← hsize, List.take_left, hsize] at htake
        rw [← htake, List.take_append_drop]
      · have hbehind := congrArg (List.drop 4) hdata
        rw [List.drop_append_of_le_length hfour, ← hsize, List.drop_left, hsize] at hbehind
        exact hbehind
    rw [onReceivedServicesList, readUInt32_le32]
    dsimp only
    rw [hlen]
    exact readServices_strings hne hcounted hrest

theorem readServices_counted {n pos : Nat} {rest : List UInt8}
    {services : List WaitingServices.Uid} (h : readServices n pos rest = some services)
    (hpos : pos ≤ INT_MAX) : pos + (services.map (·.length + 5)).sum ≤ INT_MAX := by
  induction n generalizing pos rest services with
  | zero =>
    obtain rfl := Option.some.inj h
    exact hpos
  | succ n ih =>
    rw [readServices] at h
    split at h
    · cases h
    · next str hstr =>
      dsimp only at h
      split at h
      · next hmax =>
        obtain ⟨services', hread, rfl⟩ := Option.map_eq_some_iff.mp h
        have hrest := ih hread hmax
        rw [stringInBufSize] at hrest
        rw [List.map_cons, List.sum_cons]
        omega
      · cases h

theorem length_flatMap_strings (services : List WaitingServices.Uid) :
    (services.flatMap stringToBuffer).length = (services.map (·.length + 5)).sum := by
  rw [List.length_flatMap]
  congr 1
  exact List.map_congr_left fun it _ => by rw [length_stringToBuffer, stringInBufSize]

theorem frameSize_toNat {services : List WaitingServices.Uid}
    (h : PMP_FRAME_SIZE + 4 + (services.map (·.length + 5)).sum < 2 ^ 32) :
    (frameSize services).toNat = PMP_FRAME_SIZE + 4 + (services.map (·.length + 5)).sum := by
  have hfold : ∀ (size : UInt32) (l : List WaitingServices.Uid),
      size.toNat + (l.map (·.length + 5)).sum < 2 ^ 32 →
      (l.foldl (fun size it => size + UInt32.ofNat (stringInBufSize it)) size).toNat =
        size.toNat + (l.map (·.length + 5)).sum := by
    intro size l
    induction l generalizing size with
    | nil => exact fun _ => rfl
    | cons it l ih =>
      intro hlt
      rw [List.map_cons, List.sum_cons] at hlt ⊢
      have hadd : (size + UInt32.ofNat (stringInBufSize it)).toNat =
          size.toNat + (it.length + 5) := by
        rw [UInt32.toNat_add, UInt32.toNat_ofNat', stringInBufSize]
        omega
      rw [List.foldl_cons, ih _ (by rw [hadd]; omega), hadd]
      omega
  exact hfold _ services h

theorem carriesServices_iff (services : List WaitingServices.Uid) :
    CarriesServices services ↔ 4 + (services.map (·.length + 5)).sum ≤ INT_MAX := by
  have hlen : (listData services).length = 4 + (services.map (·.length + 5)).sum := by
    rw [listData, List.length_append, length_le32, length_flatMap_strings]
  constructor
  · intro h
    have hread := h.read
    rw [onReceivedServicesList] at hread
    split at hread
    · cases hread
    · exact readServices_counted hread (by decide)
  · intro h
    have hmax : INT_MAX = 2147483647 := rfl
    have hsize : PMP_FRAME_SIZE + (listData services).length = (frameSize services).toNat := by
      rw [frameSize_toNat (by rw [PMP_FRAME_SIZE]; omega), hlen]
      omega
    refine ⟨hsize, ?_⟩
    obtain ⟨services', hread⟩ : ∃ services', onReceivedServicesList (listData services) =
        some services' := by
      refine (exists_services_iff _).mpr ⟨0, services.map (· ++ [0]), [0], ?_, ?_, ?_, ?_⟩
      · simp
      · simpa [Function.comp_def, Nat.add_assoc] using h
      · omega
      · have hsized : ∀ str : WaitingServices.Uid, sized (str ++ [0]) = stringToBuffer str := by
          intro str
          rw [sized, stringToBuffer, List.length_append, List.length_singleton, List.append_assoc]
        rw [listData, List.length_map, List.flatMap_map]
        simp only [hsized]
    rw [hread, list_read (if_pos (Nat.le_of_eq hsize)) hread]

/-- **The lists are carried** exactly as far as an `int` counts, and **the readers stay inside of
the data** exactly where these have what they announce. -/
theorem list_codecs_iff (complements : List (Complements.Uid × UInt32))
    (services : List WaitingServices.Uid) (data : List UInt8) :
    (CarriesComplements complements ↔
      4 + (complements.map (·.1.length + 9)).sum ≤ INT_MAX) ∧
    (CarriesServices services ↔ 4 + (services.map (·.length + 5)).sum ≤ INT_MAX) ∧
    ((∃ complements, onGetAvailableProfileComplementsResponse data = some complements) ↔
      ∃ entries tail, AnnouncedComplements data entries tail) ∧
    ((∃ services, onReceivedServicesList data = some services) ↔
      ∃ last strings tail, AnnouncedServices data last strings tail) :=
  ⟨carriesComplements_iff complements, carriesServices_iff services, exists_complements_iff data,
    exists_services_iff data⟩

/-- The data have a number of entries, and no entry. -/
theorem lying_count :
    (∀ complements, onGetAvailableProfileComplementsResponse [0, 0, 0, 1] ≠ some complements) ∧
      ∀ services, onReceivedServicesList [0, 0, 0, 1] ≠ some services := by
  have hcomplements : onGetAvailableProfileComplementsResponse [0, 0, 0, 1] = none := by decide
  have hservices : onReceivedServicesList [0, 0, 0, 1] = none := by decide
  constructor
  · intro complements
    rw [hcomplements]
    simp
  · intro services
    rw [hservices]
    simp

end IviLink.ProfileManager.Interaction
