import IviLink.Lib.Rivals
import IviLink.Proof.Pairing

/-!
# Processors and the messages they wait for

A message is meant for the processor that waits for it. `ProcessorsHolder` takes the
first one of the set that fits, so there should be no other. Two processors that some
message fits are of one class and have the same tag; they also have the same id, but
for an allocation that has not been answered, where the id is not looked at.

After a processor has worked, the others are as they were, so all depends on what it
is left with and on which of the others the message did not fit.
-/

namespace IviLink.ChannelSupervisor

open IviLink.Lib

/-! ## Which processors are the same to a message -/

/-- What the class is made for. -/
def Kind.type : Kind → NotificationType
  | .allocation _ _ => .allocate
  | .conAgentAllocationDone _ => .caAllocate
  | .deallocation => .deallocate
  | .updateChannel => .updateChannelInfo

/-- What the class may wait for from the other side. -/
def Kind.awaits : Kind → NotificationType → Bool
  | .allocation _ _, type => type = .allocate ∨ type = .checkMap
  | .conAgentAllocationDone _, type => type = .caAllocate ∨ type = .mapAddCid
  | .deallocation, type => type = .unknown
  | .updateChannel, type => type = .updateChannelInfo ∨ type = .unknown

namespace Processor

/-- Of one class, with the same tag and id. -/
def SameKey (p q : Processor) : Prop :=
  p.kind.type = q.kind.type ∧ p.mTag = q.mTag ∧ p.mChannelID = q.mChannelID

/-- An `ALLOCATE` is for the tag, whatever the id. -/
def Rival (p q : Processor) : Prop :=
  p.kind.type = q.kind.type ∧ p.mTag = q.mTag
    ∧ (p.mChannelID = q.mChannelID
      ∨ p.mNotificationType = .allocate ∧ q.mNotificationType = .allocate)

instance (p q : Processor) : Decidable (p.SameKey q) :=
  inferInstanceAs (Decidable (_ ∧ _ ∧ _))

theorem SameKey.symm {p q : Processor} (h : p.SameKey q) : q.SameKey p :=
  ⟨h.1.symm, h.2.1.symm, h.2.2.symm⟩

theorem Rival.symm (p q : Processor) (h : p.Rival q) : q.Rival p :=
  ⟨h.1.symm, h.2.1.symm, h.2.2.imp Eq.symm And.symm⟩

theorem SameKey.rival {p q : Processor} (h : p.SameKey q) : p.Rival q :=
  ⟨h.1, h.2.1, .inl h.2.2⟩

/-- What every live processor keeps to. -/
structure Formed (mIsMaster : Bool) (p : Processor) : Prop where
  /-- It waits for the request of its class, or has had it. -/
  request : p.mRequestType = .unknown
    ∨ Negotiator.requestTypeToNotification p.mRequestType = p.kind.type
  /-- It waits for a notification of its class. -/
  notification : p.kind.awaits p.mNotificationType = true
  /-- An allocation processor without its client's request has not got to the check. -/
  early : p.kind.type = .allocate → p.mRequestType ≠ .unknown → p.mNotificationType = .allocate
  /-- An allocation processor knows the role. -/
  role : ∀ master got, p.kind = .allocation master got → master = mIsMaster
  /-- A deallocation processor with its request is finished. -/
  deallocation : p.kind.type = .deallocate → p.mRequestType ≠ .unknown

end Processor

namespace Negotiator

/-- No two live processors are of one class with the same tag and id, and none but one waits
for a message. -/
structure Single (n : Negotiator) : Prop where
  key : n.mProcessors.Pairwise fun p q => ¬ p.SameKey q
  request : ∀ r, requestTypeToNotification r.mRequestType ≠ .unknown →
    ∀ p ∈ n.mProcessors, ∀ q ∈ n.mProcessors,
      fitsRequest r p = true → fitsRequest r q = true → p = q
  notification : ∀ x, x.mNotificationType ≠ .unknown →
    ∀ p ∈ n.mProcessors, ∀ q ∈ n.mProcessors,
      fitsNotification x p = true → fitsNotification x q = true → p = q

/-! ## Rivals and messages -/

/-- What holds of the processors whatever comes. -/
structure Formed (n : Negotiator) : Prop where
  processors : ∀ p ∈ n.mProcessors, p.Formed n.mIsMaster
  keyed : Keyed Processor.number n.mProcessors
  made : ∀ p ∈ n.mProcessors, p.number < n.created

theorem awaits_type {k k' : Kind} {type : NotificationType} (hk : k.awaits type = true)
    (hk' : k'.awaits type = true) (htype : type ≠ .unknown) : k.type = k'.type := by
  cases type with
  | unknown => exact absurd rfl htype
  | allocate | checkMap | caAllocate | mapAddCid | deallocate | updateChannelInfo
  | clientDisconnected | invalidateTimedoutRequest =>
    cases k <;> cases k' <;> first | rfl | simp [Kind.awaits] at hk hk'

theorem type_of_allocate {mIsMaster : Bool} {p : Processor} (hp : p.Formed mIsMaster)
    (hwaits : p.mNotificationType = .allocate) :
    p.kind.type = .allocate := by
  have hawaits := hp.notification
  rw [hwaits] at hawaits
  cases hkind : p.kind <;> first | rfl | simp [hkind, Kind.awaits] at hawaits

variable {n n' : Negotiator} {p q : Processor} {r : Request} {x : Notification}
  {found : Processor → Bool} {type : NotificationType}

theorem fitsRequest_iff : fitsRequest r p = true ↔ p.mRequestType = r.mRequestType
    ∧ p.mTag = r.mTag ∧ (r.mRequestType = .allocateChannel ∨ p.mChannelID = r.mChannelID) :=
  decide_eq_true_iff

theorem fitsNotification_iff : fitsNotification x p = true ↔
    p.mNotificationType = x.mNotificationType ∧ p.mTag = getComplementingTag x.mTag
      ∧ (x.mNotificationType = .allocate ∨ p.mChannelID = x.mChannelID) :=
  decide_eq_true_iff

/-- A request fits processors of its class. -/
theorem type_of_fitsRequest {mIsMaster : Bool} (hp : p.Formed mIsMaster)
    (hr : requestTypeToNotification r.mRequestType ≠ .unknown) (hfits : fitsRequest r p = true) :
    p.kind.type = requestTypeToNotification r.mRequestType := by
  obtain ⟨hreq, -⟩ := fitsRequest_iff.mp hfits
  rcases hp.request with hun | hclass
  · rw [← hreq, hun] at hr
    exact absurd rfl hr
  · rw [← hreq]
    exact hclass.symm

theorem requestTypeToNotification_inj {type type' : RequestType}
    (h : requestTypeToNotification type = requestTypeToNotification type')
    (hknown : requestTypeToNotification type ≠ .unknown) : type = type' := by
  cases type <;> cases type' <;> first | rfl | simp [requestTypeToNotification] at h hknown

/-- **No rivals** is what keeps the processors apart for every message. -/
theorem single_iff_unrivalled (hn : n.Formed) :
    n.Single ↔ Unrivalled Processor.Rival n.mProcessors := by
  have hkeys : (n.mProcessors.Pairwise fun p q => ¬ p.SameKey q)
      ↔ Unrivalled Processor.SameKey n.mProcessors :=
    hn.keyed.pairwise_iff fun _ _ => Processor.SameKey.symm
  constructor
  · intro h p hp q hq hrival
    obtain ⟨hclass, htag, hid | ⟨hpa, hqa⟩⟩ := hrival
    · exact hkeys.mp h.key p hp q hq ⟨hclass, htag, hid⟩
    · -- the next `ALLOCATE` for the tag would fit both
      have hfits : ∀ q : Processor, q.mNotificationType = .allocate → q.mTag = p.mTag →
          fitsNotification ⟨getComplementingTag p.mTag, 0, 0, 0, .allocate, .success⟩ q = true := by
        intro q hqa hqt
        refine fitsNotification_iff.mpr ⟨hqa, ?_, .inl rfl⟩
        rw [getComplementingTag_getComplementingTag]
        exact hqt
      exact h.notification _ (by simp) p hp q hq (hfits p hpa rfl) (hfits q hqa htag.symm)
  · intro h
    refine ⟨hkeys.mpr fun p hp q hq hsame => h p hp q hq hsame.rival, ?_, ?_⟩
    · intro r hr p hp q hq hpf hqf
      have hpn := hn.processors p hp
      have hqn := hn.processors q hq
      have hpc := type_of_fitsRequest hpn hr hpf
      have hqc := type_of_fitsRequest hqn hr hqf
      obtain ⟨hpr, hpt, hpi⟩ := fitsRequest_iff.mp hpf
      obtain ⟨hqr, hqt, hqi⟩ := fitsRequest_iff.mp hqf
      refine h p hp q hq ⟨hpc.trans hqc.symm, hpt.trans hqt.symm, ?_⟩
      rcases hpi with halloc | hpi
      · rw [halloc] at hpr hqr hpc hqc
        exact .inr ⟨hpn.early hpc (by simp [hpr]), hqn.early hqc (by simp [hqr])⟩
      · rcases hqi with halloc | hqi
        · rw [halloc] at hpr hqr hpc hqc
          exact .inr ⟨hpn.early hpc (by simp [hpr]), hqn.early hqc (by simp [hqr])⟩
        · exact .inl (hpi.trans hqi.symm)
    · intro x hx p hp q hq hpf hqf
      obtain ⟨hpx, hpt, hpi⟩ := fitsNotification_iff.mp hpf
      obtain ⟨hqx, hqt, hqi⟩ := fitsNotification_iff.mp hqf
      have hpa := (hn.processors p hp).notification
      have hqa := (hn.processors q hq).notification
      rw [hpx] at hpa
      rw [hqx] at hqa
      refine h p hp q hq ⟨awaits_type hpa hqa hx, hpt.trans hqt.symm, ?_⟩
      by_cases halloc : x.mNotificationType = .allocate
      · exact .inr ⟨hpx.trans halloc, hqx.trans halloc⟩
      · exact .inl ((hpi.resolve_left halloc).trans (hqi.resolve_left halloc).symm)

/-! ## How a processor is obtained -/

theorem obtainProcessor_spec {place : Nat}
    (h : n.obtainProcessor found type place = some (p, n')) :
    (n.mProcessors.find? found = some p ∧ n' = n)
      ∨ (n.mProcessors.find? found = none ∧ n.createProcessorForType type = some p
        ∧ n' = n.insert place p) := by
  rw [obtainProcessor] at h
  split at h
  · rename_i q hfind
    obtain ⟨rfl, rfl⟩ := Prod.mk.inj (Option.some.inj h)
    exact .inl ⟨hfind, rfl⟩
  · rename_i hfind
    split at h
    · exact absurd h (by simp)
    · rename_i q hnew
      obtain ⟨rfl, rfl⟩ := Prod.mk.inj (Option.some.inj h)
      exact .inr ⟨hfind, hnew, rfl⟩

theorem obtainProcessor_none {place : Nat} (h : n.obtainProcessor found type place = none) :
    n.mProcessors.find? found = none ∧ n.createProcessorForType type = none := by
  rw [obtainProcessor] at h
  split at h
  · exact absurd h (by simp)
  · rename_i hfind
    split at h
    · rename_i hnone
      exact ⟨hfind, hnone⟩
    · exact absurd h (by simp)

theorem not_found (h : n.mProcessors.find? found = none) : ∀ q ∈ n.mProcessors, found q = false := by
  intro q hq
  simpa using List.find?_eq_none.mp h q hq

/-- A new processor is of the class that the type is for. -/
theorem createProcessorForType_formed (h : n.createProcessorForType type = some p) :
    p.Formed n.mIsMaster ∧ p.kind.type = type ∧ p.number = n.created := by
  cases type with
  | allocate | caAllocate | deallocate | updateChannelInfo =>
    obtain rfl := Option.some.inj h
    exact ⟨⟨by simp [Processor.new, requestTypeToNotification, Kind.type],
      by simp [Processor.new, Kind.awaits], by simp [Processor.new, Kind.type],
      by simp [Processor.new], by simp [Processor.new, Kind.type]⟩, rfl, rfl⟩
  | unknown | checkMap | mapAddCid | clientDisconnected | invalidateTimedoutRequest =>
    exact absurd h (by simp [createProcessorForType])

/-- The id of the processor that a loop returns, or else of a new one. -/
def foundChannelID (n : Negotiator) (found : Processor → Bool) : UInt32 :=
  match n.mProcessors.find? found with
  | some p => p.mChannelID
  | none => 0

/-- No message has come to the processor. -/
structure Fresh (p : Processor) : Prop where
  request : p.mRequestType ≠ .unknown
  notification : p.kind.type ≠ .deallocate → p.mNotificationType = p.kind.type
  allocation : ∀ master got, p.kind = .allocation master got → got = false
  conAgent : ∀ got, p.kind = .conAgentAllocationDone got → got = false
  tag : p.mTag = []
  id : p.mChannelID = 0

theorem createProcessorForType_fresh (h : n.createProcessorForType type = some p) : Fresh p := by
  cases type with
  | allocate | caAllocate | deallocate | updateChannelInfo =>
    obtain rfl := Option.some.inj h
    exact ⟨by simp [Processor.new], by simp [Processor.new, Kind.type], by simp [Processor.new],
      by simp [Processor.new], rfl, rfl⟩
  | unknown | checkMap | mapAddCid | clientDisconnected | invalidateTimedoutRequest =>
    exact absurd h (by simp [createProcessorForType])

/-- A processor has been obtained; beside it there are those that the message does not fit. -/
structure Taken (n : Negotiator) (found : Processor → Bool) (p : Processor) (n' : Negotiator) :
    Prop where
  formed : n'.Formed
  mem : p ∈ n'.mProcessors
  role : n'.mIsMaster = n.mIsMaster
  map : n'.map = n.map
  id : p.mChannelID = n.foundChannelID found
  /-- It was there and the message fits it, or it is new. -/
  origin : (p ∈ n.mProcessors ∧ found p = true) ∨ Fresh p
  others : ∀ q, q ∈ n'.mProcessors ∧ q.number ≠ p.number ↔ q ∈ n.mProcessors ∧ found q = false

theorem obtainProcessor_taken {place : Nat} (hn : n.Formed)
    (hone : ∀ p ∈ n.mProcessors, ∀ q ∈ n.mProcessors, found p = true → found q = true → p = q)
    (h : n.obtainProcessor found type place = some (p, n')) : n.Taken found p n' := by
  rcases obtainProcessor_spec h with ⟨hfind, rfl⟩ | ⟨hfind, hnew, rfl⟩
  · have hp := List.mem_of_find?_eq_some hfind
    have hfound := List.find?_some hfind
    refine ⟨hn, hp, rfl, rfl, by rw [foundChannelID, hfind], .inl ⟨hp, hfound⟩, ?_⟩
    intro q
    constructor
    · intro ⟨hq, hne⟩
      refine ⟨hq, ?_⟩
      by_contra hqf
      exact hne (by rw [hone p hp q hq hfound (by simpa using hqf)])
    · intro ⟨hq, hqf⟩
      refine ⟨hq, ?_⟩
      intro hnumber
      rw [hn.keyed.eq hq hp hnumber, hfound] at hqf
      exact absurd hqf (by simp)
  · obtain ⟨hform, -, hnumber⟩ := createProcessorForType_formed hnew
    have hfreshp := createProcessorForType_fresh hnew
    have hfresh : ∀ q ∈ n.mProcessors, q.number ≠ p.number := by
      intro q hq
      have hlt := hn.made q hq
      omega
    refine ⟨⟨?_, hn.keyed.insert hfresh place, ?_⟩, mem_insert.mpr (.inl rfl), rfl, rfl,
      by rw [foundChannelID, hfind]; exact hfreshp.id, .inr hfreshp, ?_⟩
    · intro q hq
      rcases mem_insert.mp hq with rfl | hq
      · exact hform
      · exact hn.processors q hq
    · intro q hq
      rcases mem_insert.mp hq with rfl | hq
      · exact hnumber ▸ Nat.lt_succ_self n.created
      · exact Nat.lt_succ_of_lt (hn.made q hq)
    · intro q
      constructor
      · intro ⟨hq, hne⟩
        rcases mem_insert.mp hq with rfl | hq
        · exact absurd rfl hne
        · exact ⟨hq, not_found hfind q hq⟩
      · intro ⟨hq, _⟩
        exact ⟨mem_insert.mpr (.inr hq), hfresh q hq⟩

/-! ## What the work of a processor leaves -/

variable {o : Outcome} {key : Tag × UInt32}

/-- A processor has worked; unless it is finished it is left with the key. -/
structure Worked (mIsMaster : Bool) (p : Processor) (o : Outcome) (key : Tag × UInt32) :
    Prop where
  number : o.processor.number = p.number
  formed : o.processor.isFinished = false → o.processor.Formed mIsMaster
  type : o.processor.kind.type = p.kind.type
  key : o.processor.isFinished = false →
    o.processor.mTag = key.1 ∧ o.processor.mChannelID = key.2

theorem Worked.of_finished {mIsMaster : Bool} (hnumber : o.processor.number = p.number)
    (htype : o.processor.kind.type = p.kind.type) (hfin : o.processor.isFinished = true) :
    Worked mIsMaster p o key :=
  ⟨hnumber, fun hnot => absurd hfin (by simp [hnot]), htype, fun hnot => absurd hfin (by simp [hnot])⟩

theorem mem_settle_iff (hp : p ∈ n.mProcessors) (ho : o.processor.number = p.number) :
    q ∈ (n.settle o).state.mProcessors ↔
      (q = o.processor ∧ o.processor.isFinished = false)
        ∨ (q ∈ n.mProcessors ∧ q.number ≠ p.number) := by
  constructor
  · intro hq
    rcases mem_settle hq with ⟨hq, hne⟩ | hlast
    · exact .inr ⟨hq, ho ▸ hne⟩
    · exact .inl hlast
  · intro hcase
    rcases hcase with ⟨rfl, hfin⟩ | ⟨hq, hne⟩
    · exact settle_mem hp ho hfin
    · rw [← ho] at hne
      simp only [settle]
      split
      · exact List.mem_filter.mpr ⟨hq, decide_eq_true hne⟩
      · exact List.mem_map.mpr ⟨q, hq, if_neg hne⟩

theorem settle_formed (hn : n.Formed) (hp : p ∈ n.mProcessors)
    (hw : Worked n.mIsMaster p o key) : (n.settle o).state.Formed := by
  refine ⟨?_, ?_, ?_⟩
  · intro q hq
    rcases (mem_settle_iff hp hw.number).mp hq with ⟨rfl, hfin⟩ | ⟨hq, -⟩
    · exact hw.formed hfin
    · exact hn.processors q hq
  · simp only [settle]
    split
    · exact hn.keyed.sublist List.filter_sublist
    · exact hn.keyed.replace
  · intro q hq
    rcases (mem_settle_iff hp hw.number).mp hq with ⟨rfl, -⟩ | ⟨hq, -⟩
    · exact hw.number ▸ hn.made p hp
    · exact hn.made q hq

/-- **After a processor has worked** it has rivals among those the message did not fit, or there
are none. -/
theorem Taken.settled_iff (ht : n.Taken found p n') (hu : Unrivalled Processor.Rival n.mProcessors)
    (hw : Worked n'.mIsMaster p o key) :
    (n'.settle o).state.Single ↔ (o.processor.isFinished = false →
      ∀ q ∈ n.mProcessors, found q = false → ¬ o.processor.Rival q) := by
  rw [single_iff_unrivalled (settle_formed ht.formed ht.mem hw)]
  by_cases hfin : o.processor.isFinished = true
  · constructor
    · intro _ hnot
      exact absurd hfin (by simp [hnot])
    · intro _
      refine hu.subset ?_
      intro q hq
      rcases (mem_settle_iff ht.mem hw.number).mp hq with ⟨-, hnot⟩ | hq
      · exact absurd hfin (by simp [hnot])
      · exact ((ht.others q).mp hq).1
  · have hlive : o.processor.isFinished = false := by simpa using hfin
    have hmem : ∀ q, q ∈ (n'.settle o).state.mProcessors ↔
        q = o.processor ∨ (q ∈ n.mProcessors ∧ found q = false) := by
      intro q
      rw [mem_settle_iff ht.mem hw.number, ht.others q]
      simp [hlive]
    have hne : ∀ q ∈ n.mProcessors, found q = false → q ≠ o.processor := by
      intro q hq hqf heq
      exact ((ht.others q).mpr ⟨hq, hqf⟩).2 (by rw [heq, hw.number])
    rw [unrivalled_iff_of_changed Processor.Rival.symm hu hmem hne]
    simp [hlive]

end Negotiator

end IviLink.ChannelSupervisor
