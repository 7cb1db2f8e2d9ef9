import IviLink.Proof.TrustList

/-!
# The trust list where its file fails

An operation that could not read the document goes on with what it has of it, and writes that; and
one that cannot write the document has truncated the file before.
-/

namespace IviLink.TrustList

open CFileStorage

namespace Document

/-- Equal but for the order and the repetitions of the trusted devices. -/
structure Same (a b : Document) : Prop where
  trusted : ∀ element, element ∈ a.trusted ↔ element ∈ b.trusted
  our : a.our = b.our
  last : a.last = b.last

theorem Same.refl (root : Document) : root.Same root := ⟨fun _ => Iff.rfl, rfl, rfl⟩

end Document

namespace Operation

/-- The change that an operation is for. -/
def intended (root : Document) : Operation → Document
  | .insert uid => root.insert uid
  | .remove uid => { root with trusted := root.trusted.filter (·.1 ≠ uid) }
  | .clear => root.clear
  | .updateName uid name => root.updateName uid name
  | .setOurUid uid => root.setOurUid uid
  | .setOurName name => root.setOurName name
  | .setLastConnection uid timestamp => root.setLastConnection uid timestamp

/-- Two documents agree in all that the operation does not set. -/
def Agree (a b : Document) : Operation → Prop
  | .insert uid => (∀ element, element ≠ (uid, "") → (element ∈ a.trusted ↔ element ∈ b.trusted)) ∧
      a.our = b.our ∧ a.last = b.last
  | .remove uid => (∀ element, element.1 ≠ uid → (element ∈ a.trusted ↔ element ∈ b.trusted)) ∧
      a.our = b.our ∧ a.last = b.last
  | .clear => a.our = b.our ∧ a.last = b.last
  | .updateName uid _ =>
      ((∀ element, element.1 ≠ uid → (element ∈ a.trusted ↔ element ∈ b.trusted)) ∧
        ((∃ element ∈ a.trusted, element.1 = uid) ↔ ∃ element ∈ b.trusted, element.1 = uid)) ∧
      a.our = b.our ∧ a.last = b.last
  | .setOurUid _ => (∀ element, element ∈ a.trusted ↔ element ∈ b.trusted) ∧
      a.our.name = b.our.name ∧ a.last = b.last
  | .setOurName _ => (∀ element, element ∈ a.trusted ↔ element ∈ b.trusted) ∧
      a.our.uid = b.our.uid ∧ a.last = b.last
  | .setLastConnection _ _ => (∀ element, element ∈ a.trusted ↔ element ∈ b.trusted) ∧
      a.our = b.our

end Operation

/-- What there is of the stored document after reading. -/
def Failures.seen {File : Type} (failures : Failures File) (stored : Document) : Document :=
  if failures.reopenIn then {} else failures.read.getD stored

variable {File : Type} (json : JsonFiles File)

/-- The file has the document. -/
def Stores (file : File) (stored : Document) : Prop :=
  ∃ root, json.parse file = .ok root ∧ root.Same stored

/-- An operation succeeds with its change applied to the stored document, or it reports an error
and leaves that as it was. -/
def LosesNothing (op : Operation) (stored : Document) (result : Option (CTrustListError × File)) :
    Prop :=
  ∃ err file, result = some (err, file) ∧
    Stores json file (if err.isNoError then op.intended stored else stored)

/-- An operation that removes does not find the uid. Of the others, the file cannot be opened to be
written; or writing fails and yet leaves the document; or it succeeds, and what has been read
agrees with the document in all that the operation does not set. -/
def Safe (failures : Failures File) (stored : Document) : Operation → Prop
  | .remove uid => ∀ element ∈ (failures.seen stored).trusted, element.1 ≠ uid
  | op => failures.reopenTrunc = true ∨
      match failures.write with
      | some left => Stores json left stored
      | none => op.Agree (failures.seen stored) stored

variable {json} {op : Operation} {file : File} {stored a b : Document} {failures : Failures File}

open Document

theorem same_insert_iff {uid : Uid} :
    (a.insert uid).Same (b.insert uid) ↔ (Operation.insert uid).Agree a b := by
  constructor
  · intro h
    refine ⟨fun element hne => ?_, h.our, h.last⟩
    have hmem := h.trusted element
    rwa [mem_insert, mem_insert, or_iff_right hne, or_iff_right hne] at hmem
  · intro ⟨htrusted, hour, hlast⟩
    refine ⟨fun element => ?_, hour, hlast⟩
    rw [mem_insert, mem_insert]
    by_cases hnew : element = (uid, "")
    · exact iff_of_true (Or.inl hnew) (Or.inl hnew)
    · rw [htrusted element hnew]

theorem same_updateName_iff {uid : Uid} {name : String} :
    (a.updateName uid name).Same (b.updateName uid name) ↔
      (Operation.updateName uid name).Agree a b := by
  constructor
  · intro h
    refine ⟨⟨fun element hne => ?_, ?_⟩, h.our, h.last⟩
    · have hmem := h.trusted element
      have hnew : element ≠ (uid, name) := fun heq => hne (congrArg Prod.fst heq)
      simpa only [mem_updateName, hne, hnew, ne_eq, not_false_eq_true, true_and, false_and,
        or_false] using hmem
    · have hmem := h.trusted (uid, name)
      simpa only [mem_updateName, ne_eq, not_true_eq_false, true_and, false_and,
        false_or] using hmem
  · intro ⟨⟨htrusted, hthere⟩, hour, hlast⟩
    refine ⟨fun element => ?_, hour, hlast⟩
    rw [mem_updateName, mem_updateName, hthere]
    exact or_congr_left (and_congr_right (htrusted element))

/-- The changes of two documents are the same exactly if these agree in the rest. -/
theorem same_intended_iff (hop : ∀ uid, op ≠ .remove uid) :
    (op.intended a).Same (op.intended b) ↔ op.Agree a b := by
  cases op with
  | insert uid => exact same_insert_iff
  | remove uid => exact absurd rfl (hop uid)
  | clear =>
    constructor
    · intro h
      exact ⟨h.our, h.last⟩
    · intro ⟨hour, hlast⟩
      exact ⟨fun _ => Iff.rfl, hour, hlast⟩
  | updateName uid name => exact same_updateName_iff
  | setOurUid uid =>
    constructor
    · intro h
      have hour : Our.mk (some uid) a.our.name = Our.mk (some uid) b.our.name := h.our
      exact ⟨h.trusted, (Our.mk.inj hour).2, h.last⟩
    · intro ⟨htrusted, hname, hlast⟩
      exact ⟨htrusted, congrArg (Our.mk (some uid)) hname, hlast⟩
  | setOurName name =>
    constructor
    · intro h
      have hour : Our.mk a.our.uid (some name) = Our.mk b.our.uid (some name) := h.our
      exact ⟨h.trusted, (Our.mk.inj hour).1, h.last⟩
    · intro ⟨htrusted, huid, hlast⟩
      exact ⟨htrusted, congrArg (Our.mk · (some name)) huid, hlast⟩
  | setLastConnection uid timestamp =>
    constructor
    · intro h
      exact ⟨h.trusted, h.our⟩
    · intro ⟨htrusted, hour⟩
      exact ⟨htrusted, hour, rfl⟩

theorem change_intended (hop : ∀ uid, op ≠ .remove uid) (root : Document) :
    op.change root = .write (op.intended root) := by
  cases op with
  | remove uid => exact absurd rfl (hop uid)
  | _ => rfl

theorem readRoot_eq (h : json.parse file = .ok stored) :
    readRoot json failures file = failures.seen stored := by
  have hroot : json.root file = stored := JsonFiles.Has.root_eq (Or.inl h)
  rw [readRoot, hroot]
  rfl

theorem losesNothing_iff {err : CTrustListError} : LosesNothing json op stored (some (err, file)) ↔
    Stores json file (if err.isNoError then op.intended stored else stored) := by
  constructor
  · intro ⟨err, file, hresult, hstores⟩
    cases hresult
    exact hstores
  · intro hstores
    exact ⟨err, file, rfl, hstores⟩

theorem not_losesNothing : ¬ LosesNothing json op stored none := by
  intro ⟨_, _, hresult, _⟩
  cases hresult

theorem stores_of_parse (h : json.parse file = .ok stored) : Stores json file stored :=
  ⟨stored, h, .refl stored⟩

theorem stores_write_iff : Stores json (json.write a) b ↔ a.Same b := by
  constructor
  · intro ⟨root, hroot, hsame⟩
    rw [json.faithful] at hroot
    cases hroot
    exact hsame
  · intro hsame
    exact ⟨a, json.faithful a, hsame⟩

theorem losesNothing_remove_iff {uid : Uid} (h : json.parse file = .ok stored) :
    LosesNothing json (.remove uid) stored (perform json (.remove uid) failures file) ↔
      Safe json failures stored (.remove uid) := by
  have hchange : (Operation.remove uid).change (readRoot json failures file) =
      (failures.seen stored).remove uid := by
    rw [readRoot_eq h]
    rfl
  constructor
  · intro hnothing element helement huid
    subst huid
    rw [remove_of_mem helement] at hchange
    rw [perform, hchange] at hnothing
    exact not_losesNothing hnothing
  · intro hsafe
    rw [remove_of_not_mem hsafe] at hchange
    rw [perform, hchange, losesNothing_iff]
    exact stores_of_parse h

/-- **Exactly when nothing is lost**: an operation with a document in the file either succeeds with
its change applied to that, or reports an error and leaves it, if and only if the failures are
safe for it. -/
theorem failures_lose_nothing_iff (json : JsonFiles File) (op : Operation)
    (failures : Failures File) (file : File) (stored : Document)
    (h : json.parse file = .ok stored) :
    LosesNothing json op stored (perform json op failures file) ↔
      Safe json failures stored op := by
  by_cases hremove : ∃ uid, op = .remove uid
  · obtain ⟨uid, rfl⟩ := hremove
    exact losesNothing_remove_iff h
  have hop : ∀ uid, op ≠ .remove uid := fun uid heq => hremove ⟨uid, heq⟩
  have hsafe : Safe json failures stored op ↔ failures.reopenTrunc = true ∨
      match failures.write with
      | some left => Stores json left stored
      | none => op.Agree (failures.seen stored) stored := by
    cases op with
    | remove uid => exact absurd rfl (hop uid)
    | _ => exact Iff.rfl
  rw [hsafe, perform, change_intended hop, readRoot_eq h]
  cases htrunc : failures.reopenTrunc with
  | true => exact iff_of_true (losesNothing_iff.mpr (stores_of_parse h)) (Or.inl rfl)
  | false =>
    rw [or_iff_right Bool.false_ne_true]
    cases failures.write with
    | some left => exact losesNothing_iff
    | none => exact losesNothing_iff.trans (stores_write_iff.trans (same_intended_iff hop))

def oneDevice : Document where
  trusted := [("a", "c")]
  our := ⟨some "d", none⟩

theorem failures_lose_nothing_nothingFails :
    LosesNothing CTrustList.plainFiles (.insert "b") oneDevice
      (perform CTrustList.plainFiles (.insert "b") {} (some oneDevice)) :=
  (failures_lose_nothing_iff CTrustList.plainFiles (.insert "b") {} (some oneDevice) oneDevice
    rfl).mpr (Or.inr ⟨fun _ _ => Iff.rfl, rfl, rfl⟩)

/-- The file cannot be opened to be read: the own uid is written, and the device is lost. Writing
fails after the file has been truncated: all is lost. A uid that is there is removed. -/
theorem device_lost :
    perform CTrustList.plainFiles (.setOurUid "b") { reopenIn := true } (some oneDevice) =
        some (.NoTLError, some { our := ⟨some "b", none⟩ }) ∧
      ¬ LosesNothing CTrustList.plainFiles (.setOurUid "b") oneDevice
        (perform CTrustList.plainFiles (.setOurUid "b") { reopenIn := true } (some oneDevice)) ∧
      ¬ LosesNothing CTrustList.plainFiles (.setOurUid "b") oneDevice
        (perform CTrustList.plainFiles (.setOurUid "b") { write := some none }
          (some oneDevice)) ∧
      ¬ LosesNothing CTrustList.plainFiles (.remove "a") oneDevice
        (perform CTrustList.plainFiles (.remove "a") {} (some oneDevice)) := by
  refine ⟨rfl, ?_, ?_, not_losesNothing⟩
  · intro h
    obtain ⟨root, hroot, hsame⟩ := losesNothing_iff.mp h
    cases hroot
    exact List.not_mem_nil ((hsame.trusted ("a", "c")).mpr (List.mem_singleton.mpr rfl))
  · intro h
    obtain ⟨root, hroot, hsame⟩ := losesNothing_iff.mp h
    cases hroot

end IviLink.TrustList
