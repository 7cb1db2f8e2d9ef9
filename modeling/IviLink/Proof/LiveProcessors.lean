import IviLink.Proof.Exclusive
import IviLink.Proof.ProcessorKeys

/-!
# Live processors

Where no processor fits a message the holder makes a new one: also where a processor
of the same class with the same tag and id is there, but has had such a message
before. A request or a notification that is repeated therefore makes a second
processor with the key of the first, or runs into an assertion.

As long as no message does so the processors stay apart, whatever the clients and the
other side do.
-/

namespace IviLink.ChannelSupervisor

open IviLink.Lib
open Ledger (Event)

namespace Negotiator

/-- The negotiator is called, or the other side's notification comes; `none` is an assertion that
has failed. -/
def next (n : Negotiator) : Event → Option Negotiator
  | .call c => some (n.call c).state
  | .receive place x =>
    match n.onDataReceived place x with
    | none => none
    | some r => some r.state

/-! ## Messages that find their processor -/

/-- The id that a request comes to: the master gives one to an allocation, the other side keeps
what it has been told. -/
def requestChannelID (n : Negotiator) (r : Request) : UInt32 :=
  if r.mRequestType = .allocateChannel then
    if n.mIsMaster then (n.map.getNextFreeChannelId r.mChannelID).1
    else n.foundChannelID (fitsRequest r)
  else r.mChannelID

/-- The tag and the id that a notification comes to; a deallocation processor does not take them. -/
def notificationKey (n : Negotiator) (x : Notification) : Tag × UInt32 :=
  match x.mNotificationType with
  | .allocate =>
    (getComplementingTag x.mTag,
      if n.mIsMaster then n.foundChannelID (fitsNotification x) else x.mChannelID)
  | .deallocate => ([], 0)
  | _ => (getComplementingTag x.mTag, x.mChannelID)

/-- What the assertions are about: `CA_ALLOCATE` comes once, and a check carries no error. -/
def Accepts (x : Notification) (p : Processor) : Prop :=
  (x.mNotificationType = .caAllocate → p.kind ≠ .conAgentAllocationDone true)
    ∧ (x.mNotificationType = .checkMap ∨ x.mNotificationType = .mapAddCid →
      x.mErrorCode = .success)

/-- No processor of the message's class that the message does not fit has the key that it comes to,
or waits for the allocation that a request begins; and one that it fits accepts it. -/
def Clear (n : Negotiator) : Event → Prop
  | .call (.processClientRequest r _ _) =>
    ∀ p ∈ n.mProcessors, p.kind.type = requestTypeToNotification r.mRequestType →
      p.mTag = r.mTag → fitsRequest r p = false →
        p.mNotificationType ≠ .allocate ∧ p.mChannelID ≠ n.requestChannelID r
  | .receive _ x =>
    (∀ p ∈ n.mProcessors, p.kind.type = x.mNotificationType → fitsNotification x p = false →
      (p.mTag, p.mChannelID) ≠ n.notificationKey x)
      ∧ ∀ p ∈ n.mProcessors, fitsNotification x p = true → Accepts x p
  | _ => True

variable {n n' : Negotiator} {p q : Processor} {r : Request} {x : Notification}
  {found : Processor → Bool} {o : Outcome}

/-! ## Requests -/

variable {mIsMaster : Bool} {m : Map} {container : ResponseContainer}

/-- What the request leaves its processor with. -/
def requestKey (mIsMaster : Bool) (p : Processor) (m : Map) (r : Request) : Tag × UInt32 :=
  (r.mTag,
    if p.kind.type = .allocate then
      if mIsMaster then (m.getNextFreeChannelId r.mChannelID).1 else p.mChannelID
    else r.mChannelID)

/-- After its request a processor waits for a notification of its class. -/
theorem Worked.asked {key : Tag × UInt32} (hnumber : o.processor.number = p.number)
    (htype : o.processor.kind.type = p.kind.type) (hasked : o.processor.mRequestType = .unknown)
    (hawaits : o.processor.kind.awaits o.processor.mNotificationType = true)
    (hrole : ∀ master got, o.processor.kind = .allocation master got → master = mIsMaster)
    (hclass : p.kind.type ≠ .deallocate)
    (hkey : o.processor.mTag = key.1 ∧ o.processor.mChannelID = key.2) :
    Worked mIsMaster p o key := by
  refine ⟨hnumber, ?_, htype, fun _ => hkey⟩
  intro _
  exact {
    request := .inl hasked
    notification := hawaits
    early := fun _ hnot => absurd hasked hnot
    role := hrole
    deallocation := fun hdeallocation => absurd (htype.symm.trans hdeallocation) hclass }

theorem onLocalRequest_worked (hp : p.Formed mIsMaster) :
    Worked mIsMaster p (p.onLocalRequest m r container) (requestKey mIsMaster p m r) := by
  rw [Processor.onLocalRequest]
  dsimp only
  split
  · rename_i master got hkind
    obtain rfl := hp.role master got hkind
    have htype : p.kind.type = .allocate := by rw [hkind]; rfl
    rw [AllocationProcessor.onLocalRequest]
    dsimp only
    split
    · exact .asked rfl rfl rfl (by simp [hkind, Kind.awaits]) hp.role (by simp [htype])
        (by simp [requestKey, htype])
    · exact .asked rfl rfl rfl hp.notification hp.role (by simp [htype])
        (by simp [requestKey, htype])
  · rename_i got hkind
    have htype : p.kind.type = .caAllocate := by rw [hkind]; rfl
    rw [ConAgentAllocationDoneProcessor.onLocalRequest]
    dsimp only
    split
    · exact .asked rfl rfl rfl (by simp [hkind, Kind.awaits]) hp.role (by simp [htype])
        (by simp [requestKey, htype])
    · exact .asked rfl rfl rfl hp.notification hp.role (by simp [htype])
        (by simp [requestKey, htype])
  · rename_i hkind
    exact .of_finished rfl rfl
      (by simp [DeallocationProcessor.onLocalRequest, Processor.isFinished, hkind])
  · rename_i hkind
    have htype : p.kind.type = .updateChannelInfo := by rw [hkind]; rfl
    rw [UpdateChannelProcessor.onLocalRequest]
    dsimp only
    split
    · rename_i hfin
      exact .of_finished rfl rfl hfin
    · exact .asked rfl rfl rfl hp.notification hp.role (by simp [htype])
        (by simp [requestKey, htype])

/-- What allocates waits for a notification until it is finished. -/
theorem waits_of_allocates (hp : p.Formed mIsMaster)
    (htype : p.kind.type = .allocate ∨ p.kind.type = .caAllocate) :
    p.mNotificationType ≠ .unknown := by
  intro hun
  have hawaits := hp.notification
  rw [hun] at hawaits
  cases hkind : p.kind with
  | allocation | conAgentAllocationDone => simp [hkind, Kind.awaits] at hawaits
  | deallocation | updateChannel => simp [hkind, Kind.type] at htype

/-- A request finishes the deallocations, and the updates that the other side has sent. -/
theorem onLocalRequest_finished (hfin : (p.onLocalRequest m r container).processor.isFinished = true)
    (hp : p.Formed mIsMaster) :
    p.kind.type = .deallocate
      ∨ (p.kind.type = .updateChannelInfo ∧ p.mNotificationType = .unknown) := by
  rw [Processor.onLocalRequest] at hfin
  dsimp only at hfin
  split at hfin
  · rename_i master got hkind
    rw [AllocationProcessor.onLocalRequest] at hfin
    dsimp only at hfin
    split at hfin
    · simp [Processor.isFinished, hkind] at hfin
    · simp only [Processor.isFinished, hkind, decide_eq_true_eq] at hfin
      exact absurd hfin (waits_of_allocates hp (by simp [hkind, Kind.type]))
  · rename_i got hkind
    rw [ConAgentAllocationDoneProcessor.onLocalRequest] at hfin
    dsimp only at hfin
    split at hfin
    · simp [Processor.isFinished, hkind] at hfin
    · simp only [Processor.isFinished, hkind, decide_eq_true_eq] at hfin
      exact absurd hfin (waits_of_allocates hp (by simp [hkind, Kind.type]))
  · rename_i hkind
    exact .inl (by rw [hkind]; rfl)
  · rename_i hkind
    refine .inr ⟨by rw [hkind]; rfl, ?_⟩
    rw [UpdateChannelProcessor.onLocalRequest] at hfin
    dsimp only at hfin
    split at hfin
    · rename_i hdone
      simpa [Processor.isFinished, hkind] using hdone
    · simpa [Processor.isFinished, hkind] using hfin

/-- An allocation begun by its client waits for the other side's. -/
theorem onLocalRequest_fresh (hp : Fresh p) (htype : p.kind.type = .allocate) :
    (p.onLocalRequest m r container).processor.mNotificationType = .allocate := by
  have hwaits := (hp.notification (by simp [htype])).trans htype
  cases hkind : p.kind with
  | allocation master got =>
    obtain rfl := hp.allocation master got hkind
    simpa [Processor.onLocalRequest, hkind, AllocationProcessor.onLocalRequest] using hwaits
  | conAgentAllocationDone | deallocation | updateChannel =>
    simp [hkind, Kind.type] at htype

/-- A processor that the message fits has no rivals among those it does not fit. -/
theorem not_rival_of_found (hu : Unrivalled Processor.Rival n.mProcessors) (hp : p ∈ n.mProcessors)
    (hpf : found p = true) (hq : q ∈ n.mProcessors) (hqf : found q = false) : ¬ p.Rival q := by
  intro hrival
  rw [hu p hp q hq hrival, hqf] at hpf
  exact absurd hpf (by simp)

/-- The request has been taken up by a processor of its class. -/
structure TakenUp (n : Negotiator) (r : Request) (p : Processor) (n' : Negotiator) : Prop where
  taken : n.Taken (fitsRequest r) p n'
  formed : p.Formed n'.mIsMaster
  type : p.kind.type = requestTypeToNotification r.mRequestType
  known : requestTypeToNotification r.mRequestType ≠ .unknown
  id : (requestKey n'.mIsMaster p n'.map r).2 = n.requestChannelID r

theorem obtainProcessorForRequest_takenUp {place : Nat} (hn : n.Formed) (hsingle : n.Single)
    (hknown : requestTypeToNotification r.mRequestType ≠ .unknown)
    (h : n.obtainProcessorForRequest r place = some (p, n')) : n.TakenUp r p n' := by
  have ht := obtainProcessor_taken hn (hsingle.request r hknown) h
  have htype : p.kind.type = requestTypeToNotification r.mRequestType := by
    rcases obtainProcessor_spec h with ⟨hfind, -⟩ | ⟨-, hnew, -⟩
    · exact type_of_fitsRequest (hn.processors p (List.mem_of_find?_eq_some hfind)) hknown
        (List.find?_some hfind)
    · exact (createProcessorForType_formed hnew).2.1
  refine ⟨ht, ht.formed.processors p ht.mem, htype, hknown, ?_⟩
  rw [requestKey, requestChannelID, ht.role, ht.map, ht.id]
  by_cases halloc : r.mRequestType = .allocateChannel
  · rw [if_pos halloc, if_pos (htype.trans (by rw [halloc]; rfl))]
  · rw [if_neg halloc, if_neg]
    intro hp
    exact halloc (requestTypeToNotification_inj (htype.symm.trans hp) hknown)

section TakenUp

variable (ht : n.TakenUp r p n') (hn : n.Formed) (hu : Unrivalled Processor.Rival n.mProcessors)
  (hq : q ∈ n.mProcessors) (hqp : q.kind.type = p.kind.type) (hqtag : q.mTag = r.mTag)
  (hqf : fitsRequest r q = false)
include ht hn hu hq hqp hqtag hqf

/-- A processor that waits for the other side's allocation is a rival of one that begins one. -/
theorem TakenUp.rival_of_waits (hqwaits : q.mNotificationType = .allocate) :
    (p.onLocalRequest n'.map r container).processor.isFinished = false
      ∧ (p.onLocalRequest n'.map r container).processor.Rival q := by
  have hw : Worked n'.mIsMaster p (p.onLocalRequest n'.map r container) _ :=
    onLocalRequest_worked ht.formed
  have htype : p.kind.type = .allocate :=
    hqp.symm.trans (type_of_allocate (hn.processors q hq) hqwaits)
  have hlive : (p.onLocalRequest n'.map r container).processor.isFinished = false := by
    by_contra hfin
    rcases onLocalRequest_finished (by simpa using hfin) ht.formed with hother | ⟨hother, -⟩
    · simp [htype] at hother
    · simp [htype] at hother
  refine ⟨hlive, ?_⟩
  rcases ht.taken.origin with ⟨hp, hpf⟩ | hfresh
  · obtain ⟨hpreq, hptag, -⟩ := fitsRequest_iff.mp hpf
    have hpasked : p.mRequestType ≠ .unknown := by
      intro hun
      exact ht.known (by rw [← hpreq, hun]; rfl)
    have hpwaits := ht.formed.early htype hpasked
    exact absurd ⟨hqp.symm, hptag.trans hqtag.symm, .inr ⟨hpwaits, hqwaits⟩⟩
      (not_rival_of_found hu hp hpf hq hqf)
  · exact ⟨hw.type.trans hqp.symm, (hw.key hlive).1.trans hqtag.symm,
      .inr ⟨onLocalRequest_fresh hfresh htype, hqwaits⟩⟩

/-- So is one with the id that the request comes to, and then the request is not the last word. -/
theorem TakenUp.rival_of_id (hqid : q.mChannelID = n.requestChannelID r) :
    (p.onLocalRequest n'.map r container).processor.isFinished = false
      ∧ (p.onLocalRequest n'.map r container).processor.Rival q := by
  have hw : Worked n'.mIsMaster p (p.onLocalRequest n'.map r container) _ :=
    onLocalRequest_worked ht.formed
  have hqn := hn.processors q hq
  have hlive : (p.onLocalRequest n'.map r container).processor.isFinished = false := by
    by_contra hfin
    rw [← ht.id, requestKey] at hqid
    rcases onLocalRequest_finished (by simpa using hfin) ht.formed with htype | ⟨htype, hgot⟩
    · -- a deallocation that waits for its request
      rw [if_neg (by simp [htype])] at hqid
      have hqreq := hqn.request.resolve_left (hqn.deallocation (hqp.trans htype))
      have hsame := requestTypeToNotification_inj (ht.type.symm.trans (hqp.symm.trans hqreq.symm))
        ht.known
      exact absurd (fitsRequest_iff.mpr ⟨hsame.symm, hqtag, .inr hqid⟩) (by simp [hqf])
    · -- an update that the other side has sent
      rw [if_neg (by simp [htype])] at hqid
      rcases ht.taken.origin with ⟨hp, hpf⟩ | hfresh
      · obtain ⟨hpreq, hptag, halloc | hpid⟩ := fitsRequest_iff.mp hpf
        · rw [ht.type, halloc] at htype
          simp [requestTypeToNotification] at htype
        · exact not_rival_of_found hu hp hpf hq hqf
            ⟨hqp.symm, hptag.trans hqtag.symm, .inl (hpid.trans hqid.symm)⟩
      · have hwaits := hfresh.notification (by simp [htype])
        rw [hgot, htype] at hwaits
        simp at hwaits
  obtain ⟨hotag, hoid⟩ := hw.key hlive
  exact ⟨hlive, hw.type.trans hqp.symm, hotag.trans hqtag.symm,
    .inl (hoid.trans (ht.id.trans hqid.symm))⟩

end TakenUp

/-- **A request** leaves the processors apart where it is clear. -/
theorem processClientRequest_spec (hn : n.Formed)
    (hu : Unrivalled Processor.Rival n.mProcessors) (place : Nat) :
    (n.processClientRequest r container place).state.Formed
      ∧ ((n.processClientRequest r container place).state.Single
        ↔ n.Clear (.call (.processClientRequest r container place))) := by
  have hsingle := (single_iff_unrivalled hn).mpr hu
  rw [processClientRequest]
  split
  · rename_i hun
    refine ⟨hn, iff_of_true hsingle ?_⟩
    intro q hq hclass
    rw [hun] at hclass
    cases hkind : q.kind <;> simp [hkind, Kind.type] at hclass
  · rename_i hknown
    split
    · rename_i hnone
      refine ⟨hn, iff_of_true hsingle ?_⟩
      obtain ⟨-, hcreate⟩ := obtainProcessor_none hnone
      intro q hq hclass
      rw [← hclass] at hcreate
      cases hkind : q.kind <;> simp [hkind, Kind.type, createProcessorForType] at hcreate
    · rename_i p n' hobtain
      have ht := obtainProcessorForRequest_takenUp hn hsingle hknown hobtain
      have hw : Worked n'.mIsMaster p (p.onLocalRequest n'.map r container) _ :=
        onLocalRequest_worked ht.formed
      refine ⟨settle_formed ht.taken.formed ht.taken.mem hw, ?_⟩
      rw [ht.taken.settled_iff hu hw]
      constructor
      · intro h q hq hclass hqtag hqf
        have hqp := hclass.trans ht.type.symm
        refine ⟨?_, ?_⟩
        · intro hqwaits
          obtain ⟨hlive, hrival⟩ := ht.rival_of_waits hn hu hq hqp hqtag hqf hqwaits
          exact h hlive q hq hqf hrival
        · intro hqid
          obtain ⟨hlive, hrival⟩ := ht.rival_of_id hn hu hq hqp hqtag hqf hqid
          exact h hlive q hq hqf hrival
      · intro h hlive q hq hqf hrival
        obtain ⟨hqclass, hqtag, hcase⟩ := hrival
        obtain ⟨hotag, hoid⟩ := hw.key hlive
        obtain ⟨hwaits, hne⟩ := h q hq (hqclass.symm.trans (hw.type.trans ht.type))
          (hqtag.symm.trans hotag) hqf
        rcases hcase with hsame | ⟨-, hqwaits⟩
        · exact hne (hsame.symm.trans (hoid.trans ht.id))
        · exact hwaits hqwaits

/-! ## Notifications -/

/-- A notification comes to a processor that it fits, or to a new one of its class. -/
def Comes (x : Notification) (p : Processor) : Prop :=
  fitsNotification x p = true ∨ (Fresh p ∧ p.kind.type = x.mNotificationType)

theorem Comes.waits (h : Comes x p) (htype : p.kind.type ≠ .deallocate) :
    p.mNotificationType = x.mNotificationType := by
  rcases h with hfits | ⟨hfresh, hclass⟩
  · exact (fitsNotification_iff.mp hfits).1
  · exact (hfresh.notification htype).trans hclass

/-- Who has had its request was there before. -/
theorem Comes.fits (h : Comes x p) (hreq : p.mRequestType = .unknown) :
    fitsNotification x p = true :=
  h.resolve_right fun hnew => hnew.1.request hreq

/-- No notification fits a deallocation processor; one for deallocation makes a new one. -/
theorem Comes.deallocate {mIsMaster : Bool} (h : Comes x p) (hp : p.Formed mIsMaster)
    (hx : x.mNotificationType ≠ .unknown) (hkind : p.kind = .deallocation) :
    x.mNotificationType = .deallocate := by
  rcases h with hfits | ⟨-, hclass⟩
  · have hawaits := hp.notification
    rw [(fitsNotification_iff.mp hfits).1, hkind] at hawaits
    simp [Kind.awaits, hx] at hawaits
  · rw [← hclass, hkind]
    rfl

/-- An update processor is told of updates. -/
theorem Comes.update {mIsMaster : Bool} (h : Comes x p) (hp : p.Formed mIsMaster)
    (hx : x.mNotificationType ≠ .unknown) (hkind : p.kind = .updateChannel) :
    x.mNotificationType = .updateChannelInfo := by
  have hawaits := hp.notification
  rw [h.waits (by simp [hkind, Kind.type]), hkind] at hawaits
  simpa [Kind.awaits, hx] using hawaits

/-- What the notification leaves its processor with. -/
def notifiedKey (mIsMaster : Bool) (p : Processor) (x : Notification) : Tag × UInt32 :=
  match p.kind with
  | .allocation _ _ =>
    (getComplementingTag x.mTag, if mIsMaster then p.mChannelID else x.mChannelID)
  | .deallocation => (p.mTag, p.mChannelID)
  | _ => (getComplementingTag x.mTag, x.mChannelID)

/-- What the work on a notification shows of it. -/
structure Notified (mIsMaster : Bool) (p : Processor) (x : Notification) (o : Outcome) :
    Prop where
  worked : Worked mIsMaster p o (notifiedKey mIsMaster p x)
  /-- The notification is the first of its class. -/
  live : o.processor.isFinished = false → p.kind.type = x.mNotificationType
  /-- It is the last one, which only an update has not been told before. -/
  finished : o.processor.isFinished = true →
    (∀ k : Kind, k.type ≠ x.mNotificationType)
      ∨ (p.kind = .updateChannel ∧ p.mRequestType = .unknown)

theorem type_ne_checkMap (k : Kind) : k.type ≠ .checkMap := by
  cases k <;> simp [Kind.type]

theorem type_ne_mapAddCid (k : Kind) : k.type ≠ .mapAddCid := by
  cases k <;> simp [Kind.type]

/-- The last notification of all is of no class. -/
theorem Notified.ended (hnumber : o.processor.number = p.number)
    (htype : o.processor.kind.type = p.kind.type) (hfin : o.processor.isFinished = true)
    (hx : ∀ k : Kind, k.type ≠ x.mNotificationType) : Notified mIsMaster p x o :=
  ⟨.of_finished hnumber htype hfin, fun hnot => absurd hfin (by simp [hnot]), fun _ => .inl hx⟩

theorem allocation_notified {master got : Bool} (hp : p.Formed mIsMaster)
    (hkind : p.kind = .allocation master got) (hc : Comes x p)
    (ho : AllocationProcessor.onRemoteNotification p master m x = some o) :
    Notified mIsMaster p x o := by
  obtain rfl := hp.role master got hkind
  have htype : p.kind.type = .allocate := by rw [hkind]; rfl
  have hwaits := hc.waits (by simp [htype])
  have hkey : notifiedKey master p x
      = (getComplementingTag x.mTag, if master then p.mChannelID else x.mChannelID) := by
    rw [notifiedKey, hkind]
  rw [AllocationProcessor.onRemoteNotification] at ho
  split at ho
  · rename_i hx
    dsimp only at ho
    split at ho
    · obtain rfl := Option.some.inj ho
      refine ⟨⟨rfl, ?_, htype.symm, ?_⟩, fun _ => htype.trans hx.symm, ?_⟩
      · intro _
        exact ⟨hp.request.imp_right fun h => h.trans htype, by simp [Kind.awaits, hwaits, hx],
          fun _ _ => hwaits.trans hx, by simp, by simp [Kind.type]⟩
      · intro _
        exact ⟨by rw [hkey], by rw [hkey]⟩
      · intro hfin
        simp [Processor.isFinished, hwaits, hx] at hfin
    · rename_i hreq
      obtain rfl := Option.some.inj ho
      obtain ⟨-, htag, -⟩ := fitsNotification_iff.mp (hc.fits (not_not.mp hreq))
      refine ⟨⟨rfl, ?_, htype.symm, ?_⟩, fun _ => htype.trans hx.symm, ?_⟩
      · intro _
        exact ⟨.inl (not_not.mp hreq), by simp [Kind.awaits], fun _ hasked => absurd hasked hreq,
          by simp, by simp [Kind.type]⟩
      · intro _
        exact ⟨by rw [hkey]; exact htag, by rw [hkey]⟩
      · intro hfin
        simp [Processor.isFinished] at hfin
  · rename_i hx
    split at ho
    · obtain rfl := Option.some.inj ho
      refine .ended rfl rfl (by simp [Processor.isFinished, hkind]) ?_
      rw [hx]
      exact type_ne_checkMap
    · exact absurd ho (by simp)
  · exact absurd ho (by simp)

theorem conAgent_notified {got : Bool} (hp : p.Formed mIsMaster)
    (hkind : p.kind = .conAgentAllocationDone got) (hc : Comes x p)
    (ho : ConAgentAllocationDoneProcessor.onRemoteNotification p got m x = some o) :
    Notified mIsMaster p x o := by
  have htype : p.kind.type = .caAllocate := by rw [hkind]; rfl
  have hwaits := hc.waits (by simp [htype])
  have hkey : notifiedKey mIsMaster p x = (getComplementingTag x.mTag, x.mChannelID) := by
    rw [notifiedKey, hkind]
  rw [ConAgentAllocationDoneProcessor.onRemoteNotification] at ho
  split at ho
  · rename_i hx
    split at ho
    · exact absurd ho (by simp)
    · dsimp only at ho
      split at ho
      · obtain rfl := Option.some.inj ho
        refine ⟨⟨rfl, ?_, htype.symm, ?_⟩, fun _ => htype.trans hx.symm, ?_⟩
        · intro _
          exact ⟨hp.request.imp_right fun h => h.trans htype, by simp [Kind.awaits, hwaits, hx],
            by simp [Kind.type], by simp, by simp [Kind.type]⟩
        · intro _
          exact ⟨by rw [hkey], by rw [hkey]⟩
        · intro hfin
          simp [Processor.isFinished, hwaits, hx] at hfin
      · rename_i hreq
        obtain ⟨-, htag, -⟩ := fitsNotification_iff.mp (hc.fits (not_not.mp hreq))
        split at ho
        · rename_i hid
          obtain rfl := Option.some.inj ho
          refine ⟨⟨rfl, ?_, htype.symm, ?_⟩, fun _ => htype.trans hx.symm, ?_⟩
          · intro _
            exact ⟨.inl (not_not.mp hreq), by simp [Kind.awaits], by simp [Kind.type], by simp,
              by simp [Kind.type]⟩
          · intro _
            exact ⟨by rw [hkey]; exact htag, by rw [hkey]; exact hid⟩
          · intro hfin
            simp [Processor.isFinished] at hfin
        · exact absurd ho (by simp)
  · rename_i hx
    split at ho
    · obtain rfl := Option.some.inj ho
      refine .ended rfl rfl (by simp [Processor.isFinished, hkind]) ?_
      rw [hx]
      exact type_ne_mapAddCid
    · exact absurd ho (by simp)
  · exact absurd ho (by simp)

theorem update_notified (hp : p.Formed mIsMaster) (hkind : p.kind = .updateChannel)
    (hx : x.mNotificationType ≠ .unknown) (hc : Comes x p) :
    Notified mIsMaster p x (UpdateChannelProcessor.onRemoteNotification p m x) := by
  have htype : p.kind.type = .updateChannelInfo := by rw [hkind]; rfl
  have hclass := hc.update hp hx hkind
  have hkey : notifiedKey mIsMaster p x = (getComplementingTag x.mTag, x.mChannelID) := by
    rw [notifiedKey, hkind]
  rw [UpdateChannelProcessor.onRemoteNotification]
  dsimp only
  split
  · rename_i hfin
    have hreq : p.mRequestType = .unknown := by simpa [Processor.isFinished, hkind] using hfin
    exact ⟨.of_finished rfl rfl hfin, fun _ => htype.trans hclass.symm, fun _ => .inr ⟨hkind, hreq⟩⟩
  · rename_i hfin
    refine ⟨⟨rfl, ?_, rfl, ?_⟩, fun _ => htype.trans hclass.symm, ?_⟩
    · intro _
      exact ⟨hp.request, by simp [hkind, Kind.awaits], by simp [htype], hp.role, by simp [htype]⟩
    · intro _
      exact ⟨by rw [hkey], by rw [hkey]⟩
    · intro hfin'
      exact absurd hfin' (by simpa [Processor.isFinished, hkind] using hfin)

/-- **One processor works** on a notification that comes to it. -/
theorem onRemoteNotification_notified (hp : p.Formed mIsMaster)
    (hx : x.mNotificationType ≠ .unknown) (hc : Comes x p)
    (ho : p.onRemoteNotification m x = some o) : Notified mIsMaster p x o := by
  have key : Notified mIsMaster
        { p with
          mRemoteClientID := x.mClientID
          mRemoteRequestID := x.mRequestID } x o := by
    have hp' : Processor.Formed mIsMaster
        { p with
          mRemoteClientID := x.mClientID
          mRemoteRequestID := x.mRequestID } :=
      ⟨hp.request, hp.notification, hp.early, hp.role, hp.deallocation⟩
    have hc' : Comes x
        { p with
          mRemoteClientID := x.mClientID
          mRemoteRequestID := x.mRequestID } :=
      hc.imp id fun h => ⟨⟨h.1.request, h.1.notification, h.1.allocation, h.1.conAgent, h.1.tag, h.1.id⟩, h.2⟩
    rw [Processor.onRemoteNotification] at ho
    dsimp only at ho
    split at ho
    · rename_i hkind
      exact allocation_notified hp' hkind hc' ho
    · rename_i hkind
      exact conAgent_notified hp' hkind hc' ho
    · rename_i hkind
      obtain rfl := Option.some.inj ho
      have htype : p.kind.type = .deallocate := by rw [hkind]; rfl
      have hlive : Processor.isFinished
          { p with
            mRemoteClientID := x.mClientID
            mRemoteRequestID := x.mRequestID } = false := by
        simpa [Processor.isFinished, hkind] using hp.deallocation htype
      refine ⟨⟨rfl, fun _ => hp', rfl, fun _ => ?_⟩, fun _ => ?_,
        fun hfin => absurd hfin (by simp [hlive])⟩
      · simp [notifiedKey, hkind]
      · exact htype.trans (hc.deallocate hp hx hkind).symm
    · rename_i hkind
      obtain rfl := Option.some.inj ho
      exact update_notified hp' hkind hx hc'
  exact ⟨⟨key.worked.number, key.worked.formed, key.worked.type, key.worked.key⟩, key.live,
    key.finished⟩

/-- **An assertion fails** on a notification that is not accepted, and on no other. -/
theorem onRemoteNotification_iff (hp : p.Formed mIsMaster) (hx : x.mNotificationType ≠ .unknown)
    (hc : Comes x p) : (∃ o, p.onRemoteNotification m x = some o) ↔ Accepts x p := by
  have hawaits := hp.notification
  cases hkind : p.kind with
  | allocation master got =>
    rw [hc.waits (by simp [hkind, Kind.type]), hkind] at hawaits
    simp only [Kind.awaits, decide_eq_true_eq] at hawaits
    rcases hawaits with hfirst | hlast
    · refine iff_of_true ?_ ⟨by simp [hfirst], by simp [hfirst]⟩
      by_cases hreq : p.mRequestType = .unknown <;>
        simp [Processor.onRemoteNotification, hkind, AllocationProcessor.onRemoteNotification,
          hfirst, hreq]
    · simp [Processor.onRemoteNotification, hkind, AllocationProcessor.onRemoteNotification, hlast,
        Accepts]
  | conAgentAllocationDone got =>
    rw [hc.waits (by simp [hkind, Kind.type]), hkind] at hawaits
    simp only [Kind.awaits, decide_eq_true_eq] at hawaits
    rcases hawaits with hfirst | hlast
    · cases got with
      | true =>
        refine iff_of_false ?_ fun h => h.1 hfirst hkind
        simp [Processor.onRemoteNotification, hkind,
          ConAgentAllocationDoneProcessor.onRemoteNotification, hfirst]
      | false =>
        refine iff_of_true ?_ ⟨by simp [hkind], by simp [hfirst]⟩
        by_cases hreq : p.mRequestType = .unknown
        · -- the assertion on the ids holds, as the processor was looked up by its id
          have hid : p.mChannelID = x.mChannelID :=
            (fitsNotification_iff.mp (hc.fits hreq)).2.2.resolve_left (by simp [hfirst])
          simp [Processor.onRemoteNotification, hkind,
            ConAgentAllocationDoneProcessor.onRemoteNotification, hfirst, hreq, hid]
        · simp [Processor.onRemoteNotification, hkind,
            ConAgentAllocationDoneProcessor.onRemoteNotification, hfirst, hreq]
    · simp [Processor.onRemoteNotification, hkind,
        ConAgentAllocationDoneProcessor.onRemoteNotification, hlast, Accepts]
  | deallocation =>
    refine iff_of_true ⟨_, by simp [Processor.onRemoteNotification, hkind]; rfl⟩ ?_
    have hclass := hc.deallocate hp hx hkind
    exact ⟨by simp [hclass], by simp [hclass]⟩
  | updateChannel =>
    refine iff_of_true ⟨_, by simp [Processor.onRemoteNotification, hkind]; rfl⟩ ?_
    have hclass := hc.update hp hx hkind
    exact ⟨by simp [hclass], by simp [hclass]⟩

/-- The notification has come to a processor. -/
structure Reached (n : Negotiator) (x : Notification) (p : Processor) (n' : Negotiator) :
    Prop where
  taken : n.Taken (fitsNotification x) p n'
  formed : p.Formed n'.mIsMaster
  known : x.mNotificationType ≠ .unknown
  comes : Comes x p
  /-- None of the processors it fits is another one. -/
  accepts : (∀ q ∈ n.mProcessors, fitsNotification x q = true → Accepts x q) ↔ Accepts x p

theorem obtainProcessorForNotification_reached {place : Nat} (hn : n.Formed) (hsingle : n.Single)
    (hx : x.mNotificationType ≠ .unknown)
    (h : n.obtainProcessorForNotification x place = some (p, n')) : n.Reached x p n' := by
  have hone := hsingle.notification x hx
  have ht := obtainProcessor_taken hn hone h
  rcases obtainProcessor_spec h with ⟨hfind, -⟩ | ⟨hfind, hnew, -⟩
  · have hp := List.mem_of_find?_eq_some hfind
    have hfits := List.find?_some hfind
    refine ⟨ht, ht.formed.processors p ht.mem, hx, .inl hfits, fun hall => hall p hp hfits, ?_⟩
    intro haccepts q hq hqf
    rw [hone q hq p hp hqf hfits]
    exact haccepts
  · have hfresh := createProcessorForType_fresh hnew
    have hclass := (createProcessorForType_formed hnew).2.1
    refine ⟨ht, ht.formed.processors p ht.mem, hx, .inr ⟨hfresh, hclass⟩,
      iff_of_true ?_ ⟨?_, ?_⟩⟩
    · intro q hq hqf
      rw [not_found hfind q hq] at hqf
      exact absurd hqf (by simp)
    · intro _ hkind
      exact absurd (hfresh.conAgent true hkind) (by simp)
    · intro hcheck
      rw [← hclass] at hcheck
      exact (hcheck.elim (type_ne_checkMap _) (type_ne_mapAddCid _)).elim

theorem Reached.notifiedKey_eq (hr : n.Reached x p n') (hclass : p.kind.type = x.mNotificationType) :
    notifiedKey n'.mIsMaster p x = n.notificationKey x := by
  cases hkind : p.kind with
  | allocation master got =>
    rw [hkind] at hclass
    simp [notifiedKey, notificationKey, hkind, ← hclass, Kind.type, hr.taken.role, hr.taken.id]
  | conAgentAllocationDone | updateChannel =>
    rw [hkind] at hclass
    simp [notifiedKey, notificationKey, hkind, ← hclass, Kind.type]
  | deallocation =>
    have hfresh : Fresh p := by
      refine (hr.comes.resolve_left ?_).1
      intro hfits
      have hawaits := hr.formed.notification
      rw [(fitsNotification_iff.mp hfits).1, hkind, ← hclass, hkind] at hawaits
      simp [Kind.awaits, Kind.type] at hawaits
    rw [hkind] at hclass
    simp [notifiedKey, notificationKey, hkind, ← hclass, Kind.type, hfresh.tag, hfresh.id]

/-- Where the work leaves no rivals. -/
theorem Reached.rival_iff (hr : n.Reached x p n') (hn : n.Formed)
    (hu : Unrivalled Processor.Rival n.mProcessors) (hw : Notified n'.mIsMaster p x o) :
    (o.processor.isFinished = false →
        ∀ q ∈ n.mProcessors, fitsNotification x q = false → ¬ o.processor.Rival q)
      ↔ ∀ q ∈ n.mProcessors, q.kind.type = x.mNotificationType → fitsNotification x q = false →
        (q.mTag, q.mChannelID) ≠ n.notificationKey x := by
  constructor
  · intro h q hq hqclass hqf hqkey
    by_cases hfin : o.processor.isFinished = true
    · rcases hw.finished hfin with hother | ⟨hkind, hreq⟩
      · exact hother q.kind hqclass
      · -- the update that is finished had the key of the other one
        have hclass := hr.comes.update hr.formed hr.known hkind
        have hfits := hr.comes.fits hreq
        obtain ⟨-, htag, hid⟩ := fitsNotification_iff.mp hfits
        have hp := hr.taken.origin.resolve_right fun hfresh => hfresh.request hreq
        simp only [notificationKey, hclass, Prod.mk.injEq] at hqkey
        refine not_rival_of_found hu hp.1 hfits hq hqf ⟨?_, htag.trans hqkey.1.symm, .inl ?_⟩
        · rw [hqclass, hclass, hkind]
          rfl
        · exact (hid.resolve_left (by simp [hclass])).trans hqkey.2.symm
    · have hlive : o.processor.isFinished = false := by simpa using hfin
      obtain ⟨hotag, hoid⟩ := hw.worked.key hlive
      rw [hr.notifiedKey_eq (hw.live hlive)] at hotag hoid
      refine h hlive q hq hqf ⟨?_, ?_, .inl ?_⟩
      · rw [hw.worked.type, hw.live hlive, hqclass]
      · rw [hotag, ← hqkey]
      · rw [hoid, ← hqkey]
  · intro h hlive q hq hqf hrival
    obtain ⟨hclass, htag, hcase⟩ := hrival
    obtain ⟨hotag, hoid⟩ := hw.worked.key hlive
    have hpclass := hw.live hlive
    have hqclass : q.kind.type = x.mNotificationType :=
      hclass.symm.trans (hw.worked.type.trans hpclass)
    rw [hr.notifiedKey_eq hpclass] at hotag hoid
    rcases hcase with hsame | ⟨-, hqwaits⟩
    · exact h q hq hqclass hqf (Prod.ext (htag.symm.trans hotag) (hsame.symm.trans hoid))
    · -- it would be the one that the notification fits
      have hx : x.mNotificationType = .allocate :=
        hqclass.symm.trans (type_of_allocate (hn.processors q hq) hqwaits)
      rw [notificationKey, hx] at hotag
      have hqfits : fitsNotification x q = true :=
        fitsNotification_iff.mpr ⟨hqwaits.trans hx.symm, htag.symm.trans hotag, .inl hx⟩
      rw [hqf] at hqfits
      exact absurd hqfits (by simp)

/-- A notification that makes no processor and is accepted is clear. -/
theorem clear_of_other {place : Nat} (hother : ∀ k : Kind, k.type ≠ x.mNotificationType)
    (haccepts : ∀ p ∈ n.mProcessors, fitsNotification x p = true → Accepts x p) :
    n.Clear (.receive place x) :=
  ⟨fun q _ hclass => absurd hclass (hother q.kind), haccepts⟩

/-- **A notification** leaves the processors apart, and no assertion fails, where it is clear. -/
theorem processTubeNotification_spec (hn : n.Formed)
    (hu : Unrivalled Processor.Rival n.mProcessors) (place : Nat) :
    (∀ r, n.processTubeNotification x place = some r → r.state.Formed)
      ∧ ((∃ r, n.processTubeNotification x place = some r ∧ r.state.Single)
        ↔ n.Clear (.receive place x)) := by
  have hsingle := (single_iff_unrivalled hn).mpr hu
  have hquiet : ∀ s, some (⟨n, [], []⟩ : Reaction Negotiator Notification Answer) = some s →
      s.state.Formed := by
    intro s hs
    exact Option.some.inj hs ▸ hn
  have hsome : ∃ s, some (⟨n, [], []⟩ : Reaction Negotiator Notification Answer) = some s
      ∧ s.state.Single := ⟨_, rfl, hsingle⟩
  rw [processTubeNotification]
  split
  · rename_i hun
    refine ⟨hquiet, iff_of_true hsome (clear_of_other ?_ ?_)⟩
    · intro k
      rw [hun]
      cases k <;> simp [Kind.type]
    · intro p _ _
      exact ⟨by simp [hun], by simp [hun]⟩
  · rename_i hx
    split
    · rename_i hnone
      obtain ⟨hfind, hcreate⟩ := obtainProcessor_none hnone
      refine ⟨hquiet, iff_of_true hsome (clear_of_other ?_ ?_)⟩
      · intro k hclass
        rw [← hclass] at hcreate
        cases k <;> simp [Kind.type, createProcessorForType] at hcreate
      · intro p hp hfits
        rw [not_found hfind p hp] at hfits
        exact absurd hfits (by simp)
    · rename_i p n' hobtain
      have hr := obtainProcessorForNotification_reached hn hsingle hx hobtain
      have hiff := onRemoteNotification_iff (m := n'.map) hr.formed hx hr.comes
      refine ⟨?_, ?_, ?_⟩
      · intro s hs
        obtain ⟨o, ho, rfl⟩ := Option.map_eq_some_iff.mp hs
        exact settle_formed hr.taken.formed hr.taken.mem
          (onRemoteNotification_notified hr.formed hx hr.comes ho).worked
      · intro h
        obtain ⟨s, hs, hs'⟩ := h
        obtain ⟨o, ho, rfl⟩ := Option.map_eq_some_iff.mp hs
        have hw := onRemoteNotification_notified hr.formed hx hr.comes ho
        exact ⟨(hr.rival_iff hn hu hw).mp ((hr.taken.settled_iff hu hw.worked).mp hs'),
          hr.accepts.mpr (hiff.mp ⟨o, ho⟩)⟩
      · intro h
        obtain ⟨hapart, haccepts⟩ := h
        obtain ⟨o, ho⟩ := hiff.mpr (hr.accepts.mp haccepts)
        have hw := onRemoteNotification_notified hr.formed hx hr.comes ho
        exact ⟨n'.settle o, by rw [ho]; rfl,
          (hr.taken.settled_iff hu hw.worked).mpr ((hr.rival_iff hn hu hw).mpr hapart)⟩

/-! ## Runs -/

theorem formed_init (mIsMaster : Bool) : (init mIsMaster).Formed :=
  ⟨fun _ hp => absurd hp List.not_mem_nil, List.nodup_nil, fun _ hp => absurd hp List.not_mem_nil⟩

/-- Processors are only taken out. -/
theorem quiet_spec (hn : n.Formed) (hu : Unrivalled Processor.Rival n.mProcessors)
    (hsub : n'.mProcessors.Sublist n.mProcessors) (hcreated : n'.created = n.created)
    (hrole : n'.mIsMaster = n.mIsMaster) : n'.Formed ∧ n'.Single := by
  have hform : n'.Formed := by
    refine ⟨?_, hn.keyed.sublist hsub, ?_⟩
    · intro p hp
      exact hrole ▸ hn.processors p (hsub.subset hp)
    · intro p hp
      exact hcreated ▸ hn.made p (hsub.subset hp)
  exact ⟨hform, (single_iff_unrivalled hform).mpr (hu.subset hsub.subset)⟩

theorem clear_of_disconnected {place : Nat} (hx : x.mNotificationType = .clientDisconnected
    ∨ x.mNotificationType = .invalidateTimedoutRequest) : n.Clear (.receive place x) := by
  refine clear_of_other ?_ ?_
  · intro k hclass
    cases k <;> rcases hx with hx | hx <;> simp [← hclass, Kind.type] at hx
  · intro p _ _
    rcases hx with hx | hx
    · exact ⟨by simp [hx], by simp [hx]⟩
    · exact ⟨by simp [hx], by simp [hx]⟩

/-- **One step** keeps the processors apart where it is clear, and only there. -/
theorem next_spec (hn : n.Formed) (hu : Unrivalled Processor.Rival n.mProcessors) (e : Event) :
    (∀ n', n.next e = some n' → n'.Formed)
      ∧ ((∃ n', n.next e = some n' ∧ n'.Single) ↔ n.Clear e) := by
  have hkeeps : ∀ n' : Negotiator, n'.Formed → (n'.Single ↔ n.Clear e) →
      (∀ t, some n' = some t → t.Formed) ∧ ((∃ t, some n' = some t ∧ t.Single) ↔ n.Clear e) := by
    intro n' hform hiff
    refine ⟨fun t ht => Option.some.inj ht ▸ hform, ?_⟩
    rw [← hiff]
    exact ⟨fun ⟨t, ht, hs⟩ => Option.some.inj ht ▸ hs, fun hs => ⟨n', rfl, hs⟩⟩
  have hquiet : ∀ n' : Negotiator, n'.mProcessors.Sublist n.mProcessors →
      n'.created = n.created → n'.mIsMaster = n.mIsMaster → n.Clear e →
      (∀ t, some n' = some t → t.Formed) ∧ ((∃ t, some n' = some t ∧ t.Single) ↔ n.Clear e) := by
    intro n' hsub hcreated hrole hclear
    obtain ⟨hform, hsingle⟩ := quiet_spec hn hu hsub hcreated hrole
    exact hkeeps n' hform (iff_of_true hsingle hclear)
  cases e with
  | call c =>
    cases c with
    | processClientRequest r container place =>
      have hspec : _ ∧ (Single (n.processClientRequest r container place).state ↔ _) :=
        processClientRequest_spec hn hu place
      exact hkeeps _ hspec.1 hspec.2
    | sendClientDisconnected dirId => exact hquiet _ (List.Sublist.refl _) rfl rfl trivial
    | processLocalClientDisconnected dirId => exact hquiet _ List.filter_sublist rfl rfl trivial
    | sendInvalidateTimedoutRequest dirId id => exact hquiet _ (List.Sublist.refl _) rfl rfl trivial
    | invalidateLocalTimedOutRequest dirId id =>
      rw [next, call, invalidateLocalTimedOutRequest]
      dsimp only
      split
      · exact hquiet n (List.Sublist.refl _) rfl rfl trivial
      · exact hquiet _ List.eraseP_sublist rfl rfl trivial
    | invalidateChannelInfo channelId => exact hquiet _ (List.Sublist.refl _) rfl rfl trivial
  | receive place x =>
    by_cases hgone : x.mNotificationType = .clientDisconnected
    · have hreceive : n.onDataReceived place x
          = some ⟨n.processRemoteClientDisconnected x.mClientID, [], []⟩ := by
        rw [onDataReceived, hgone]
      rw [next, hreceive]
      exact hquiet _ List.filter_sublist rfl rfl (clear_of_disconnected (.inl hgone))
    by_cases hlate : x.mNotificationType = .invalidateTimedoutRequest
    · have hreceive : n.onDataReceived place x
          = some ⟨n.invalidateRemoteTimedOutRequest x.mClientID x.mRequestID, [], []⟩ := by
        rw [onDataReceived, hlate]
      rw [next, hreceive, invalidateRemoteTimedOutRequest]
      dsimp only
      split
      · exact hquiet n (List.Sublist.refl _) rfl rfl (clear_of_disconnected (.inr hlate))
      · exact hquiet _ List.eraseP_sublist rfl rfl (clear_of_disconnected (.inr hlate))
    have hreceive : n.onDataReceived place x = n.processTubeNotification x place := by
      rw [onDataReceived]
      split
      · exact absurd ‹_› hgone
      · exact absurd ‹_› hlate
      · rfl
    obtain ⟨hform, hiff⟩ := processTubeNotification_spec (x := x) hn hu place
    rw [next, hreceive, ← hiff]
    cases hr : n.processTubeNotification x place with
    | none => simp
    | some s => exact ⟨fun t ht => Option.some.inj ht ▸ hform s hr, by simp⟩

/-- **There is one live processor for a negotiation exactly as long as every message finds its
own.** Along every run of calls and notifications, from the beginning on: no assertion fails, no
two live processors are of one class with the same tag and id, and no request or notification
fits two of them, if and only if every message is clear: no processor that it does not fit has
the key it comes to, or waits for the other side's allocation that it begins. -/
theorem single_iff (mIsMaster : Bool) (es : List Event) :
    Along next (fun n e => ∃ n', n.next e = some n' ∧ n'.Single) (init mIsMaster) es
      ↔ Along next Clear (init mIsMaster) es := by
  refine along_iff_along (E := fun _ _ => True)
    (I := fun n => n.Formed ∧ Unrivalled Processor.Rival n.mProcessors) ?_ ?_
    ⟨formed_init mIsMaster, unrivalled_nil⟩ (along_of_mem fun _ _ _ => trivial)
  · intro n e ⟨hn, hu⟩ _
    exact (next_spec hn hu e).2
  · intro n e n' ⟨hn, hu⟩ _ hclear hs
    obtain ⟨hform, hiff⟩ := next_spec hn hu e
    obtain ⟨t, ht, hsingle⟩ := hiff.mpr hclear
    obtain rfl := Option.some.inj (hs.symm.trans ht)
    exact ⟨hform n' hs, (single_iff_unrivalled (hform n' hs)).mp hsingle⟩

/-- A client asks again before the other side has answered. -/
def askedTwice : List Event :=
  [.call (.processClientRequest
      ⟨['n', '#', 'S', 'E', 'R', 'V', 'E', 'R'], 100, .caAllocationDone⟩ ⟨3, 5⟩ 0),
    .call (.processClientRequest
      ⟨['n', '#', 'S', 'E', 'R', 'V', 'E', 'R'], 100, .caAllocationDone⟩ ⟨3, 6⟩ 0)]

/-- What the other side then hears. -/
def toldTwice : List Event :=
  [.receive 0 ⟨['n', '#', 'S', 'E', 'R', 'V', 'E', 'R'], 100, 3, 5, .caAllocate, .success⟩,
    .receive 0 ⟨['n', '#', 'S', 'E', 'R', 'V', 'E', 'R'], 100, 3, 6, .caAllocate, .success⟩]

/-- There are two processors with one key here, and an assertion fails there. -/
theorem asked_twice : (∃ n, run next (init true) askedTwice = some n ∧ ¬ n.Single)
    ∧ run next (init false) toldTwice = none := by
  have hkey : ∃ n, run next (init true) askedTwice = some n
      ∧ ¬ n.mProcessors.Pairwise fun p q => ¬ p.SameKey q := ⟨_, rfl, by decide⟩
  obtain ⟨n, hr, hn⟩ := hkey
  exact ⟨⟨n, hr, fun hs => hn hs.key⟩, rfl⟩

end Negotiator

end IviLink.ChannelSupervisor
