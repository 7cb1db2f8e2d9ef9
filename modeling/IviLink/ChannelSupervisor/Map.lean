import IviLink.ChannelSupervisor.Messages
import Mathlib.Logic.Function.Basic

/-!
# The map of channels

What a negotiator knows about channels, and the next free id. The time stamps are
left out: only the watchdog reads them.
-/

namespace IviLink.ChannelSupervisor

/-- `CHANNEL_ID_START_NUMBER` -/
def CHANNEL_ID_START_NUMBER : UInt32 := 100

structure Map where
  m_channelMap : UInt32 → Option Tag
  m_FreeChannelId : UInt32

namespace Map

/-- `Map::Map` -/
def init : Map where
  m_channelMap := fun _ => none
  m_FreeChannelId := CHANNEL_ID_START_NUMBER

/-- `Map::updateFreeChannel`: behind the last id there is 0. -/
def updateFreeChannel (m : Map) (lastChannel : UInt32) : Map :=
  if m.m_FreeChannelId ≤ lastChannel then { m with m_FreeChannelId := lastChannel + 1 } else m

/-- `Map::addChannelInfo`: `insert` leaves an entry that is there as it is. -/
def addChannelInfo (m : Map) (channelId : UInt32) (tag : Tag) : Map :=
  match m.m_channelMap channelId with
  | some _ => m.updateFreeChannel channelId
  | none =>
    { m with
      m_channelMap := Function.update m.m_channelMap channelId (some tag) }.updateFreeChannel
        channelId

/-- `Map::updateChannelInfo` -/
def updateChannelInfo (m : Map) (channelId : UInt32) (tag : Tag) : Map :=
  let m' := if m.m_channelMap channelId = none then m.updateFreeChannel channelId else m
  { m' with
    m_channelMap := Function.update m'.m_channelMap channelId (some tag) }

/-- `Map::getNextFreeChannelId`: the id is not recorded here. -/
def getNextFreeChannelId (m : Map) (channelId : UInt32) : UInt32 × Map :=
  if channelId < m.m_FreeChannelId then (m.m_FreeChannelId, m)
  else ((m.updateFreeChannel channelId).m_FreeChannelId, m.updateFreeChannel channelId)

/-- `Map::invalidateChannelInfo` -/
def invalidateChannelInfo (m : Map) (channelId : UInt32) : Map :=
  match m.m_channelMap channelId with
  | some _ =>
    { m with
      m_channelMap := Function.update m.m_channelMap channelId (some []) }
  | none => m

/-! ## The next free id

Only the last id of all turns it back.
-/

/-- `UINT32_MAX`, behind which `updateFreeChannel` starts again at 0. -/
def lastId : UInt32 := 0xFFFFFFFF

@[simp] theorem invalidateChannelInfo_free (m : Map) (channelId : UInt32) :
    (m.invalidateChannelInfo channelId).m_FreeChannelId = m.m_FreeChannelId := by
  rw [invalidateChannelInfo]
  cases m.m_channelMap channelId <;> rfl

theorem toNat_lastId : lastId.toNat = 4294967295 := rfl

theorem le_lastId (channelId : UInt32) : channelId ≤ lastId := by
  have hlt := channelId.toNat_lt
  rw [UInt32.le_iff_toNat_le, toNat_lastId]
  omega

theorem not_lastId_lt (channelId : UInt32) : ¬ lastId < channelId :=
  UInt32.not_lt.mpr (le_lastId channelId)

/-- What is in front of another id is not the last one. -/
theorem ne_lastId_of_lt {channelId key : UInt32} (h : channelId < key) : channelId ≠ lastId := by
  rintro rfl
  exact not_lastId_lt key h

/-- Up to the last id, the next one is one more. -/
theorem toNat_add_one {channelId : UInt32} (h : channelId ≠ lastId) :
    (channelId + 1).toNat = channelId.toNat + 1 := by
  have hne : channelId.toNat ≠ 4294967295 := fun heq => h (UInt32.toNat_inj.mp heq)
  have hlt := channelId.toNat_lt
  rw [UInt32.toNat_add, UInt32.toNat_one]
  omega

theorem lt_add_one {channelId : UInt32} (h : channelId ≠ lastId) : channelId < channelId + 1 := by
  rw [UInt32.lt_iff_toNat_lt, toNat_add_one h]
  exact Nat.lt_succ_self _

variable {m : Map} {channelId : UInt32}

/-- The free id never goes back and is behind the id given. -/
theorem updateFreeChannel_free (h : channelId ≠ lastId) :
    m.m_FreeChannelId ≤ (m.updateFreeChannel channelId).m_FreeChannelId
      ∧ channelId < (m.updateFreeChannel channelId).m_FreeChannelId := by
  rw [updateFreeChannel]
  split
  · rename_i hle
    exact ⟨UInt32.le_of_lt (UInt32.lt_of_le_of_lt hle (lt_add_one h)), lt_add_one h⟩
  · rename_i hlt
    exact ⟨UInt32.le_refl _, UInt32.not_le.mp hlt⟩

theorem addChannelInfo_free (tag : Tag) (h : channelId ≠ lastId) :
    m.m_FreeChannelId ≤ (m.addChannelInfo channelId tag).m_FreeChannelId := by
  rw [addChannelInfo]
  split
  · exact (updateFreeChannel_free h).1
  · exact (updateFreeChannel_free
      (m := ⟨Function.update m.m_channelMap channelId (some tag), m.m_FreeChannelId⟩) h).1

theorem updateChannelInfo_free (tag : Tag) (h : channelId ≠ lastId) :
    m.m_FreeChannelId ≤ (m.updateChannelInfo channelId tag).m_FreeChannelId := by
  rw [updateChannelInfo]
  dsimp only
  split
  · exact (updateFreeChannel_free h).1
  · exact UInt32.le_refl _

/-- **What `getNextFreeChannelId` gives** is the next free id, from then on. -/
theorem getNextFreeChannelId_fst :
    (m.getNextFreeChannelId channelId).1
      = (m.getNextFreeChannelId channelId).2.m_FreeChannelId := by
  rw [getNextFreeChannelId]
  split <;> rfl

theorem getNextFreeChannelId_free (h : channelId ≠ lastId) :
    m.m_FreeChannelId ≤ (m.getNextFreeChannelId channelId).2.m_FreeChannelId := by
  rw [getNextFreeChannelId]
  split
  · exact UInt32.le_refl _
  · exact (updateFreeChannel_free h).1

/-- Asked for an id that is not below the free one, it moves the free id on. -/
theorem getNextFreeChannelId_lt (hfree : m.m_FreeChannelId ≤ channelId) (h : channelId ≠ lastId) :
    m.m_FreeChannelId < (m.getNextFreeChannelId channelId).2.m_FreeChannelId := by
  rw [getNextFreeChannelId, if_neg (UInt32.not_lt.mpr hfree)]
  exact UInt32.lt_of_le_of_lt hfree (updateFreeChannel_free h).2

end Map

end IviLink.ChannelSupervisor
