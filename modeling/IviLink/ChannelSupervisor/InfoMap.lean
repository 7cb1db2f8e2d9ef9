import IviLink.ChannelSupervisor.Map

/-!
# The map of channels with its time stamps

`Map` with all that a `ChannelInfo` has, and the watchdog, which goes over the ids from
the first one on and gives up the channels that have not been updated for too long.
Without the time stamps it is the map that the negotiator's processors use (`tags`).

A time is in seconds. `time` is asked again for every channel, so that the watchdog
gets a time for each id. The age of a channel is cast to `UInt32` before it is turned
to milliseconds, and so is the product.
-/

namespace IviLink.ChannelSupervisor

structure ChannelInfo where
  mTag : Tag
  mTimeStamp : Int
  deriving DecidableEq, Repr

namespace ChannelInfo

/-- What `invalidateChannelInfo` leaves. -/
def empty : ChannelInfo := ⟨[], 0⟩

end ChannelInfo

structure InfoMap where
  m_channelMap : UInt32 → Option ChannelInfo
  m_FreeChannelId : UInt32

namespace InfoMap

/-- `Map::Map` -/
def init : InfoMap where
  m_channelMap := fun _ => none
  m_FreeChannelId := CHANNEL_ID_START_NUMBER

/-- The map without the time stamps. -/
def tags (m : InfoMap) : Map where
  m_channelMap := fun channelId => (m.m_channelMap channelId).map (·.mTag)
  m_FreeChannelId := m.m_FreeChannelId

def getChannelInfo (m : InfoMap) (channelId : UInt32) : Option ChannelInfo :=
  m.m_channelMap channelId

def updateFreeChannel (m : InfoMap) (lastChannel : UInt32) : InfoMap :=
  if m.m_FreeChannelId ≤ lastChannel then { m with m_FreeChannelId := lastChannel + 1 } else m

def addChannelInfo (m : InfoMap) (channelId : UInt32) (channelInfo : ChannelInfo) : InfoMap :=
  match m.m_channelMap channelId with
  | some _ => m.updateFreeChannel channelId
  | none =>
    { m with
      m_channelMap := Function.update m.m_channelMap channelId (some channelInfo)
    }.updateFreeChannel channelId

def updateChannelInfo (m : InfoMap) (channelId : UInt32) (channelInfo : ChannelInfo) : InfoMap :=
  let m' := if m.m_channelMap channelId = none then m.updateFreeChannel channelId else m
  { m' with
    m_channelMap := Function.update m'.m_channelMap channelId (some channelInfo) }

def getNextFreeChannelId (m : InfoMap) (channelId : UInt32) : UInt32 × InfoMap :=
  if channelId < m.m_FreeChannelId then (m.m_FreeChannelId, m)
  else ((m.updateFreeChannel channelId).m_FreeChannelId, m.updateFreeChannel channelId)

def invalidateChannelInfo (m : InfoMap) (channelId : UInt32) : InfoMap :=
  match m.m_channelMap channelId with
  | some _ =>
    { m with
      m_channelMap := Function.update m.m_channelMap channelId (some .empty) }
  | none => m

/-! ## The watchdog -/

def DEALLOCATE_TIMEOUT_MS : UInt32 := 30000

/-- `diffMillis` of a channel that was stamped at `mTimeStamp`. -/
def diffMillis (currentTime mTimeStamp : Int) : UInt32 :=
  UInt32.ofInt (currentTime - mTimeStamp) * 1000

/-- One round of the loop of `checkChannels`, with the ids given to `forceChannelDeallocation`. -/
def checkChannel (m : InfoMap) (currentTime : Int) (channelId : UInt32) : InfoMap × List UInt32 :=
  match m.getChannelInfo channelId with
  | none => (m, [])
  | some channelInfo =>
    if channelInfo.mTag = [] then (m, [])
    else if DEALLOCATE_TIMEOUT_MS < diffMillis currentTime channelInfo.mTimeStamp then
      (m.invalidateChannelInfo channelId, [channelId])
    else (m, [])

/-- The loop from `channelId` on; `currentTime` is what `time` says in the round of an id. -/
def checkFrom (currentTime : UInt32 → Int) (channelId : UInt32) (m : InfoMap) :
    InfoMap × List UInt32 :=
  if _h : channelId < (m.getNextFreeChannelId 0).1 then
    let r := (m.getNextFreeChannelId 0).2.checkChannel (currentTime channelId) channelId
    let rest := checkFrom currentTime (channelId + 1) r.1
    (rest.1, r.2 ++ rest.2)
  else ((m.getNextFreeChannelId 0).2, [])
  termination_by 4294967296 - channelId.toNat
  decreasing_by
    have hnext := UInt32.lt_iff_toNat_lt.mp (Map.lt_add_one (Map.ne_lastId_of_lt _h))
    have hmax := channelId.toNat_lt
    omega

/-- `ChannelSupervisorWatchdog::checkChannels` -/
def checkChannels (m : InfoMap) (currentTime : UInt32 → Int) : InfoMap × List UInt32 :=
  m.checkFrom currentTime (CHANNEL_ID_START_NUMBER + 1)

/-! ## Without the time stamps -/

variable {m : InfoMap} {channelId : UInt32}

theorem tags_updateFreeChannel (lastChannel : UInt32) :
    (m.updateFreeChannel lastChannel).tags = m.tags.updateFreeChannel lastChannel := by
  unfold updateFreeChannel Map.updateFreeChannel
  by_cases hle : m.m_FreeChannelId ≤ lastChannel
  · rw [if_pos hle, if_pos (show m.tags.m_FreeChannelId ≤ lastChannel from hle)]
    rfl
  · rw [if_neg hle, if_neg (show ¬ m.tags.m_FreeChannelId ≤ lastChannel from hle)]

/-- The tag of an entry that is set. -/
theorem tags_update (channelInfo : ChannelInfo) :
    (fun key => (Function.update m.m_channelMap channelId (some channelInfo) key).map (·.mTag))
      = Function.update m.tags.m_channelMap channelId (some channelInfo.mTag) := by
  funext key
  by_cases hkey : key = channelId
  · subst hkey
    simp
  · simp [hkey, tags]

theorem tags_addChannelInfo (channelInfo : ChannelInfo) :
    (m.addChannelInfo channelId channelInfo).tags
      = m.tags.addChannelInfo channelId channelInfo.mTag := by
  unfold addChannelInfo Map.addChannelInfo
  cases hkey : m.m_channelMap channelId with
  | some old =>
    have htag : m.tags.m_channelMap channelId = some old.mTag := by simp [tags, hkey]
    simp only [htag]
    exact tags_updateFreeChannel channelId
  | none =>
    have htag : m.tags.m_channelMap channelId = none := by simp [tags, hkey]
    simp only [htag]
    rw [tags_updateFreeChannel, ← tags_update]
    rfl

theorem tags_updateChannelInfo (channelInfo : ChannelInfo) :
    (m.updateChannelInfo channelId channelInfo).tags
      = m.tags.updateChannelInfo channelId channelInfo.mTag := by
  unfold updateChannelInfo Map.updateChannelInfo
  by_cases hkey : m.m_channelMap channelId = none
  · have htag : m.tags.m_channelMap channelId = none := by simp [tags, hkey]
    simp only [if_pos hkey, if_pos htag]
    rw [← tags_updateFreeChannel, ← tags_update]
    rfl
  · have htag : ¬ m.tags.m_channelMap channelId = none := by simpa [tags] using hkey
    simp only [if_neg hkey, if_neg htag]
    rw [← tags_update]
    rfl

theorem tags_invalidateChannelInfo :
    (m.invalidateChannelInfo channelId).tags = m.tags.invalidateChannelInfo channelId := by
  unfold invalidateChannelInfo Map.invalidateChannelInfo
  cases hkey : m.m_channelMap channelId with
  | some old =>
    have htag : m.tags.m_channelMap channelId = some old.mTag := by simp [tags, hkey]
    simp only [htag]
    rw [show ([] : Tag) = ChannelInfo.empty.mTag from rfl, ← tags_update]
    rfl
  | none =>
    have htag : m.tags.m_channelMap channelId = none := by simp [tags, hkey]
    simp only [htag]

theorem tags_getNextFreeChannelId :
    (m.getNextFreeChannelId channelId).2.tags = (m.tags.getNextFreeChannelId channelId).2
      ∧ (m.getNextFreeChannelId channelId).1 = (m.tags.getNextFreeChannelId channelId).1 := by
  unfold getNextFreeChannelId Map.getNextFreeChannelId
  by_cases hlt : channelId < m.m_FreeChannelId
  · rw [if_pos hlt, if_pos (show channelId < m.tags.m_FreeChannelId from hlt)]
    exact ⟨rfl, rfl⟩
  · rw [if_neg hlt, if_neg (show ¬ channelId < m.tags.m_FreeChannelId from hlt)]
    have htags := tags_updateFreeChannel (m := m) channelId
    exact ⟨htags, congrArg Map.m_FreeChannelId htags⟩

end InfoMap

end IviLink.ChannelSupervisor
