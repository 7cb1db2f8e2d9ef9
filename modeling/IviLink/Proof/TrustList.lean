import IviLink.TrustList.CFileStorage
import IviLink.Lib.Run

/-!
# The trust list as a map

What each call makes of the document, and what has been given for the uids. The elements are a
set of pairs, so that it has a uid twice if it is added without a name where it has one. A name is
given to all elements of the uid, which then are the same.
-/

namespace IviLink.TrustList

open IviLink.Lib

namespace Document

variable {root : Document} {uid u : Uid} {name : String} {element : NameUid}

theorem mem_insert : element ∈ (root.insert uid).trusted ↔
    element = (uid, "") ∨ element ∈ root.trusted := by
  rw [insert, List.mem_insert_iff, uids, List.mem_dedup]

theorem nodup_insert : (root.insert uid).trusted.Nodup := (List.nodup_dedup _).insert

theorem remove_of_mem (h : element ∈ root.trusted) : root.remove element.1 = .undefined :=
  if_pos ⟨element, List.mem_dedup.mpr h, rfl⟩

theorem remove_of_not_mem (h : ∀ element ∈ root.trusted, element.1 ≠ uid) :
    root.remove uid = .error (.ERROR_UNKNOWN_UID "unknown uid") := by
  refine if_neg ?_
  intro ⟨element, helement, huid⟩
  exact h element (List.mem_dedup.mp helement) huid

theorem mem_updateName : element ∈ (root.updateName uid name).trusted ↔
    (element.1 ≠ uid ∧ element ∈ root.trusted) ∨
      (element = (uid, name) ∧ ∃ e ∈ root.trusted, e.1 = uid) := by
  rw [updateName, List.mem_dedup, List.mem_map]
  constructor
  · intro ⟨e, he, heq⟩
    split at heq
    · rename_i hu
      exact Or.inr ⟨heq.symm, e, he, hu⟩
    · rename_i hu
      rw [← heq]
      exact Or.inl ⟨hu, he⟩
  · intro h
    rcases h with ⟨hne, he⟩ | ⟨rfl, e, he, hu⟩
    · exact ⟨element, he, if_neg hne⟩
    · exact ⟨e, he, if_pos hu⟩

theorem nodup_updateName : (root.updateName uid name).trusted.Nodup := List.nodup_dedup _

end Document

namespace CTrustList

variable {File : Type} {json : JsonFiles File} {t t' : CTrustList File} {first d : Document}
  {uid u : Uid} {name : String} {call : Call} {given : Uid → Option String}

open Document

theorem isKnownUid_iff (h : json.Has t.file d) : isKnownUid json t uid = true ↔
    ∃ element ∈ d.trusted, element.1 = uid := by
  rcases h with h | ⟨h, rfl⟩
  · simp [isKnownUid, CFileStorage.readAll, h]
  · simp [isKnownUid, CFileStorage.readAll, h]

theorem root_write : root json ⟨json.write d, given⟩ = d := json.root_write d

/-- What a call that writes leaves. -/
theorem perform_write {op : Operation} {file : File}
    (h : op.change (json.root file) = .write d) :
    CFileStorage.perform json op {} file = some (.NoTLError, json.write d) := by
  have hroot : CFileStorage.readRoot json {} file = json.root file := rfl
  rw [CFileStorage.perform, hroot, h]
  rfl

theorem step_addUid : t.step json (.addUid uid) =
    some ⟨json.write ((root json t).insert uid), givenAfter t.given (.addUid uid)⟩ := by
  rw [step, perform, addUid, perform_write rfl]
  rfl

theorem step_addNamedUid : t.step json (.addNamedUid uid name) =
    some ⟨json.write (((root json t).insert uid).updateName uid name),
      givenAfter t.given (.addNamedUid uid name)⟩ := by
  have hname : CFileStorage.perform json (.updateName uid name) {}
      (json.write ((root json t).insert uid)) =
        some (.NoTLError, json.write (((root json t).insert uid).updateName uid name)) := by
    refine perform_write ?_
    rw [json.root_write]
    rfl
  rw [step, perform, addNamedUid, perform_write rfl]
  exact congrArg (Option.map _) hname

theorem step_clearList : t.step json .clearList =
    some ⟨json.write (root json t).clear, givenAfter t.given .clearList⟩ := by
  rw [step, perform, clearList, perform_write rfl]
  rfl

theorem step_removeUid_of_mem {element : NameUid} (h : element ∈ (root json t).trusted) :
    t.step json (.removeUid element.1) = none := by
  have hchange : (Operation.remove element.1).change (CFileStorage.readRoot json {} t.file) =
      .undefined := remove_of_mem h
  rw [step, perform, removeUid, CFileStorage.perform, hchange]
  rfl

theorem step_removeUid_of_not_mem (h : ∀ element ∈ (root json t).trusted, element.1 ≠ uid) :
    t.step json (.removeUid uid) = some ⟨t.file, givenAfter t.given (.removeUid uid)⟩ := by
  have hchange : (Operation.remove uid).change (CFileStorage.readRoot json {} t.file) =
      .error (.ERROR_UNKNOWN_UID "unknown uid") := remove_of_not_mem h
  rw [step, perform, removeUid, CFileStorage.perform, hchange]
  rfl

/-- The list refines what has been given if each element has the name of its uid, and each uid
that has a name is there. -/
theorem refines_of {d : Document} (hhas : json.Has t.file d)
    (hnodup : (d.trusted.map (·.1)).Nodup)
    (hnames : ∀ element ∈ d.trusted, t.given element.1 = some element.2)
    (hthere : ∀ uid, (t.given uid).isSome = true → ∃ element ∈ d.trusted, element.1 = uid)
    (hour : d.our = first.our) (hlast : d.last = first.last) : Refines json first t := by
  have hroot : root json t = d := hhas.root_eq
  refine ⟨hroot ▸ hhas, ?_, hroot ▸ hnodup, hroot ▸ hnames, hroot ▸ hour, hroot ▸ hlast⟩
  intro uid
  rw [isKnownUid_iff hhas]
  constructor
  · intro ⟨element, helement, huid⟩
    rw [← huid, hnames element helement]
    rfl
  · exact hthere uid

/-- A uid is there once if each of its elements has the same name. -/
theorem nodup_uids {l : List NameUid} (hl : l.Nodup)
    (hnames : ∀ element ∈ l, given element.1 = some element.2) : (l.map (·.1)).Nodup := by
  refine hl.map_on ?_
  intro a ha b hb hab
  have hname : some a.2 = some b.2 := by rw [← hnames a ha, ← hnames b hb, hab]
  exact Prod.ext hab (Option.some.inj hname)

theorem refines_start {file : File} (hhas : json.Has file first)
    (h : (first.trusted.map (·.1)).Nodup) : Refines json first (start json file) := by
  have hgiven : ∀ uid, (start json file).given uid =
      (first.trusted.find? (·.1 = uid)).map (·.2) := by
    intro uid
    rw [← hhas.root_eq]
    rfl
  refine refines_of hhas h ?_ ?_ rfl rfl
  · intro element helement
    rw [hgiven]
    cases hfind : first.trusted.find? (·.1 = element.1) with
    | none => exact absurd (List.find?_eq_none.mp hfind element helement) (by simp)
    | some e =>
      have huid : e.1 = element.1 := by simpa using List.find?_some hfind
      have hsame := List.inj_on_of_nodup_map h (List.mem_of_find?_eq_some hfind) helement huid
      rw [Option.map_some, hsame]
  · intro uid huid
    rw [hgiven, Option.isSome_map, List.find?_isSome] at huid
    obtain ⟨element, helement, hsame⟩ := huid
    exact ⟨element, helement, by simpa using hsame⟩

theorem givenAfter_addUid : givenAfter given (.addUid uid) u =
    if u = uid then some ((given uid).getD "") else given u := rfl

theorem givenAfter_addNamedUid : givenAfter given (.addNamedUid uid name) u =
    if u = uid then some name else given u := rfl

theorem givenAfter_removeUid : givenAfter given (.removeUid uid) u =
    if u = uid then none else given u := rfl

theorem Refines.addUid_iff (h : Refines json first t) :
    Refines json first
        ⟨json.write ((root json t).insert uid), givenAfter t.given (.addUid uid)⟩ ↔
      t.Proper (.addUid uid) := by
  constructor
  · intro hnew name hname
    have hmem : (uid, "") ∈ (root json
        ⟨json.write ((root json t).insert uid), givenAfter t.given (.addUid uid)⟩).trusted := by
      rw [root_write]
      exact mem_insert.mpr (Or.inl rfl)
    have hgiven := hnew.names _ hmem
    dsimp only at hgiven
    rw [givenAfter_addUid, if_pos rfl, Option.mem_def.mp hname] at hgiven
    exact Option.some.inj hgiven
  · intro hproper
    have hempty : (t.given uid).getD "" = "" := by
      cases hname : t.given uid with
      | none => rfl
      | some name => exact hproper name hname
    have hnames : ∀ element ∈ ((root json t).insert uid).trusted,
        givenAfter t.given (.addUid uid) element.1 = some element.2 := by
      intro element helement
      rcases mem_insert.mp helement with rfl | helement
      · rw [givenAfter_addUid, if_pos rfl, hempty]
      · have hgiven := h.names element helement
        rw [givenAfter_addUid]
        split
        · rename_i hu
          rw [← hu, hgiven, Option.getD_some]
        · exact hgiven
    refine refines_of (Or.inl (json.faithful _)) (nodup_uids nodup_insert hnames) hnames ?_
      h.our h.last
    intro u hu
    by_cases huid : u = uid
    · exact ⟨(uid, ""), mem_insert.mpr (Or.inl rfl), huid.symm⟩
    · dsimp only at hu
      rw [givenAfter_addUid, if_neg huid] at hu
      obtain ⟨element, helement, hsame⟩ := (isKnownUid_iff h.has).mp ((h.known u).mpr hu)
      exact ⟨element, mem_insert.mpr (Or.inr helement), hsame⟩

theorem Refines.addNamedUid (h : Refines json first t) :
    Refines json first
      ⟨json.write (((root json t).insert uid).updateName uid name),
        givenAfter t.given (.addNamedUid uid name)⟩ := by
  have hthere : (uid, name) ∈ (((root json t).insert uid).updateName uid name).trusted :=
    mem_updateName.mpr (Or.inr ⟨rfl, (uid, ""), mem_insert.mpr (Or.inl rfl), rfl⟩)
  have hnames : ∀ element ∈ (((root json t).insert uid).updateName uid name).trusted,
      givenAfter t.given (.addNamedUid uid name) element.1 = some element.2 := by
    intro element helement
    rcases mem_updateName.mp helement with ⟨hne, helement⟩ | ⟨rfl, -⟩
    · rcases mem_insert.mp helement with rfl | helement
      · exact absurd rfl hne
      · rw [givenAfter_addNamedUid, if_neg hne, h.names element helement]
    · rw [givenAfter_addNamedUid, if_pos rfl]
  refine refines_of (Or.inl (json.faithful _)) (nodup_uids nodup_updateName hnames) hnames ?_
    h.our h.last
  intro u hu
  by_cases huid : u = uid
  · exact ⟨(uid, name), hthere, huid.symm⟩
  · dsimp only at hu
    rw [givenAfter_addNamedUid, if_neg huid] at hu
    obtain ⟨element, helement, hsame⟩ := (isKnownUid_iff h.has).mp ((h.known u).mpr hu)
    refine ⟨element, mem_updateName.mpr (Or.inl ⟨?_, mem_insert.mpr (Or.inr helement)⟩), hsame⟩
    rw [hsame]
    exact huid

theorem Refines.clearList (h : Refines json first t) :
    Refines json first ⟨json.write (root json t).clear, givenAfter t.given .clearList⟩ := by
  refine refines_of (Or.inl (json.faithful _)) List.nodup_nil ?_ ?_ h.our h.last
  · intro element helement
    exact absurd helement List.not_mem_nil
  · intro u hu
    cases hu

/-- **One call**: the list still is the map exactly if the call is proper. -/
theorem Refines.step_iff (h : Refines json first t) (call : Call) :
    (∃ t', t.step json call = some t' ∧ Refines json first t') ↔ t.Proper call := by
  cases call with
  | addUid uid =>
    rw [← h.addUid_iff, step_addUid]
    constructor
    · intro ⟨t', ht', hnew⟩
      exact Option.some.inj ht' ▸ hnew
    · intro hnew
      exact ⟨_, rfl, hnew⟩
  | addNamedUid uid name => exact iff_of_true ⟨_, step_addNamedUid, h.addNamedUid⟩ trivial
  | clearList => exact iff_of_true ⟨_, step_clearList, h.clearList⟩ trivial
  | removeUid uid =>
    constructor
    · intro hnext
      obtain ⟨t', ht', -⟩ := hnext
      refine Option.not_isSome_iff_eq_none.mp fun hsome => ?_
      obtain ⟨element, helement, rfl⟩ := (isKnownUid_iff h.has).mp ((h.known uid).mpr hsome)
      rw [step_removeUid_of_mem helement] at ht'
      cases ht'
    · intro hnone
      have hnot : ∀ element ∈ (root json t).trusted, element.1 ≠ uid := by
        intro element helement huid
        have hgiven := h.names element helement
        rw [huid, hnone] at hgiven
        cases hgiven
      have hsame : givenAfter t.given (.removeUid uid) = t.given := by
        funext u
        rw [givenAfter_removeUid]
        split
        · rename_i hu
          rw [hu, hnone]
        · rfl
      exact ⟨_, step_removeUid_of_not_mem hnot, by rw [hsame]; exact h⟩

/-- **Exactly when the trust list is a map**: along a run that starts with a document in which no
uid is repeated, or with nothing, a uid is known if and only if it has been added and not removed
or cleared, it is there once, with the name that it has been given last, and the rest of the
document stays, if and only if no uid that has a name is added without one, and none is removed
that is there. -/
theorem trust_list_refines_iff (json : JsonFiles File) (file : File) (first : Document)
    (hhas : json.Has file first) (h : (first.trusted.map (·.1)).Nodup) (calls : List Call) :
    (∃ t, run (step json) (start json file) calls = some t) ∧
        Always (step json) (start json file) calls (Refines json first) ↔
      Along (step json) Proper (start json file) calls := by
  refine run_and_always_iff (I := Refines json first) (fun _ h => h)
    (fun _ call h => h.step_iff call) ?_ (refines_start hhas h)
  intro v call v' hv hproper hs
  obtain ⟨t', ht', hnew⟩ := (hv.step_iff call).mpr hproper
  rw [hs] at ht'
  exact Option.some.inj ht' ▸ hnew

/-- Files that are the documents; one that is not there is `none`. -/
def plainFiles : JsonFiles (Option Document) where
  parse file := file.elim (.error {}) .ok
  write := some
  faithful _ := rfl

def properCalls : List Call :=
  [.removeUid "a", .addUid "a", .addUid "a", .addNamedUid "b" "c", .addNamedUid "b" "d",
   .addNamedUid "a" "e", .clearList, .addUid "b"]

theorem trust_list_refines_iff_properCalls :
    (∃ t, run (step plainFiles) (start plainFiles none) properCalls = some t) ∧
      Always (step plainFiles) (start plainFiles none) properCalls (Refines plainFiles {}) :=
  (trust_list_refines_iff plainFiles none {} (Or.inr ⟨rfl, rfl⟩) List.nodup_nil properCalls).mpr
    (by decide +kernel)

/-- A uid that has a name is added without one, and is there twice then; and one that is there is
removed. -/
theorem uid_twice :
    (∃ t, run (step plainFiles) (start plainFiles none) [.addNamedUid "a" "b", .addUid "a"] =
        some t ∧ (root plainFiles t).trusted = [("a", ""), ("a", "b")] ∧
        ¬ Refines plainFiles {} t) ∧
      run (step plainFiles) (start plainFiles none) [.addUid "a", .removeUid "a"] = none := by
  refine ⟨⟨_, rfl, rfl, fun h => ?_⟩, rfl⟩
  exact absurd h.once (by decide)

end CTrustList

end IviLink.TrustList
