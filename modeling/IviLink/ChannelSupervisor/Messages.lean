import IviLink.Ipc.Socket

/-!
# Messages of the channel supervisor

What clients and negotiators send each other, without its XML: a request of a client,
a notification of the other negotiator, and a response. A tag names one end of a
channel; the tag of the other end has the other suffix behind the last `#`.
-/

namespace IviLink.ChannelSupervisor

open IviLink.Ipc (DirectionId)

abbrev Tag := List Char

inductive RequestType
  | unknown
  | allocateChannel
  | caAllocationDone
  | deallocateChannel
  | updateChannelInfo
  | invalidateTimedoutRequest
  deriving DecidableEq, Repr

inductive NotificationType
  | unknown
  | allocate
  | checkMap
  | caAllocate
  | mapAddCid
  | deallocate
  | updateChannelInfo
  | clientDisconnected
  | invalidateTimedoutRequest
  deriving DecidableEq, Repr

inductive ResponseType
  | allocateChannel
  | caAllocationDone
  | updateChannelInfo
  deriving DecidableEq, Repr

inductive ErrorCode
  | success
  | other
  deriving DecidableEq, Repr

structure Request where
  mTag : Tag
  mChannelID : UInt32
  mRequestType : RequestType
  deriving DecidableEq, Repr

structure Notification where
  mTag : Tag
  mChannelID : UInt32
  mClientID : DirectionId
  mRequestID : UInt32
  mNotificationType : NotificationType
  mErrorCode : ErrorCode
  deriving DecidableEq, Repr

structure Response where
  mTag : Tag
  mChannelID : UInt32
  mResponseType : ResponseType
  mErrorCode : ErrorCode
  deriving DecidableEq, Repr

/-! ## Complementing tags -/

/-- `TAG_SUFFIX_SEPARATOR` -/
def TAG_SUFFIX_SEPARATOR : Char := '#'

/-- `TAG_SERVER_SUFFIX` -/
def TAG_SERVER_SUFFIX : Tag := ['S', 'E', 'R', 'V', 'E', 'R']

/-- `TAG_CLIENT_SUFFIX` -/
def TAG_CLIENT_SUFFIX : Tag := ['C', 'L', 'I', 'E', 'N', 'T']

/-- What stands before and behind the last separator. -/
def splitTag (tag : Tag) : Option (Tag × Tag) :=
  match tag.reverse.dropWhile (fun c => c ≠ TAG_SUFFIX_SEPARATOR) with
  | [] => none
  | _ :: rest =>
    some (rest.reverse, (tag.reverse.takeWhile fun c => c ≠ TAG_SUFFIX_SEPARATOR).reverse)

/-- `Notification::getComplementingTag` -/
def getComplementingTag (tag : Tag) : Tag :=
  match splitTag tag with
  | none => tag
  | some (result, suffix) =>
    if suffix = TAG_SERVER_SUFFIX then result ++ TAG_SUFFIX_SEPARATOR :: TAG_CLIENT_SUFFIX
    else if suffix = TAG_CLIENT_SUFFIX then result ++ TAG_SUFFIX_SEPARATOR :: TAG_SERVER_SUFFIX
    else tag

theorem splitTag_append {result suffix : Tag} (h : TAG_SUFFIX_SEPARATOR ∉ suffix) :
    splitTag (result ++ TAG_SUFFIX_SEPARATOR :: suffix) = some (result, suffix) := by
  have hall : ∀ c ∈ suffix.reverse, decide (c ≠ TAG_SUFFIX_SEPARATOR) = true := by
    intro c hc
    refine decide_eq_true ?_
    rintro rfl
    exact h (List.mem_reverse.mp hc)
  have hrev : (result ++ TAG_SUFFIX_SEPARATOR :: suffix).reverse
      = suffix.reverse ++ TAG_SUFFIX_SEPARATOR :: result.reverse := by
    simp
  rw [splitTag, hrev, List.dropWhile_append_of_pos hall, List.takeWhile_append_of_pos hall]
  simp

theorem splitTag_spec {tag result suffix : Tag} (h : splitTag tag = some (result, suffix)) :
    tag = result ++ TAG_SUFFIX_SEPARATOR :: suffix := by
  rw [splitTag] at h
  split at h
  · exact absurd h (by simp)
  · rename_i c rest hdrop
    obtain ⟨rfl, rfl⟩ := Prod.mk.inj (Option.some.inj h)
    have hc : c = TAG_SUFFIX_SEPARATOR := by
      have hhead := List.head?_dropWhile_not (fun c => decide (c ≠ TAG_SUFFIX_SEPARATOR)) tag.reverse
      rw [hdrop] at hhead
      simpa using hhead
    have hsplit := List.takeWhile_append_dropWhile
      (p := fun c => decide (c ≠ TAG_SUFFIX_SEPARATOR)) (l := tag.reverse)
    rw [hdrop, hc] at hsplit
    have hrev := congrArg List.reverse hsplit
    rw [List.reverse_reverse, List.reverse_append, List.reverse_cons, List.append_assoc] at hrev
    exact hrev.symm

/-- **Each end's tag is the complement of the other's.** -/
@[simp] theorem getComplementingTag_getComplementingTag (tag : Tag) :
    getComplementingTag (getComplementingTag tag) = tag := by
  have hserver : TAG_SUFFIX_SEPARATOR ∉ TAG_SERVER_SUFFIX := by decide
  have hclient : TAG_SUFFIX_SEPARATOR ∉ TAG_CLIENT_SUFFIX := by decide
  cases hsplit : splitTag tag with
  | none => simp [getComplementingTag, hsplit]
  | some x =>
    obtain ⟨result, suffix⟩ := x
    have htag := splitTag_spec hsplit
    by_cases hs : suffix = TAG_SERVER_SUFFIX
    · have hcomp : getComplementingTag tag
          = result ++ TAG_SUFFIX_SEPARATOR :: TAG_CLIENT_SUFFIX := by
        simp [getComplementingTag, hsplit, hs]
      have hback : getComplementingTag (result ++ TAG_SUFFIX_SEPARATOR :: TAG_CLIENT_SUFFIX)
          = result ++ TAG_SUFFIX_SEPARATOR :: TAG_SERVER_SUFFIX := by
        rw [getComplementingTag, splitTag_append hclient]
        rfl
      rw [hcomp, hback, htag, hs]
    · by_cases hc : suffix = TAG_CLIENT_SUFFIX
      · have hcomp : getComplementingTag tag
            = result ++ TAG_SUFFIX_SEPARATOR :: TAG_SERVER_SUFFIX := by
          simp [getComplementingTag, hsplit, hc]
        have hback : getComplementingTag (result ++ TAG_SUFFIX_SEPARATOR :: TAG_SERVER_SUFFIX)
            = result ++ TAG_SUFFIX_SEPARATOR :: TAG_CLIENT_SUFFIX := by
          rw [getComplementingTag, splitTag_append hserver]
          rfl
        rw [hcomp, hback, htag, hc]
      · have hcomp : getComplementingTag tag = tag := by
          simp [getComplementingTag, hsplit, hs, hc]
        rw [hcomp, hcomp]

end IviLink.ChannelSupervisor
