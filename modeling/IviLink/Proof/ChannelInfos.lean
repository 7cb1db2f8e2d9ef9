import IviLink.ChannelSupervisor.InfoMap
import IviLink.Lib.Run

/-!
# The map of channels against what was put into it

Beside the map stands what was last added, updated or invalidated for each id. The map
agrees with it as long as no id is added that has an entry, which an `insert` leaves as
it is, and the last id of all is not used, behind which the free id starts again at 0.
Until then every key is below the free id, and the free id is the next one to be given
out.
-/

namespace IviLink.ChannelSupervisor

open IviLink.Lib

namespace InfoMap

/-- The calls that change the map; `getChannelInfo` only reads it. -/
inductive Event
  | addChannelInfo (channelId : UInt32) (channelInfo : ChannelInfo)
  | updateChannelInfo (channelId : UInt32) (channelInfo : ChannelInfo)
  | invalidateChannelInfo (channelId : UInt32)
  | getNextFreeChannelId (channelId : UInt32)

/-- A map with the info that was last put in for each id. -/
structure Recorded where
  map : InfoMap
  latest : UInt32 → Option ChannelInfo

namespace Recorded

def init : Recorded := ⟨.init, fun _ => none⟩

/-- The info is put in. -/
def put (latest : UInt32 → Option ChannelInfo) (channelId : UInt32) (channelInfo : ChannelInfo) :
    UInt32 → Option ChannelInfo :=
  Function.update latest channelId (some channelInfo)

def next (r : Recorded) : Event → Option Recorded
  | .addChannelInfo channelId channelInfo =>
    some ⟨r.map.addChannelInfo channelId channelInfo, put r.latest channelId channelInfo⟩
  | .updateChannelInfo channelId channelInfo =>
    some ⟨r.map.updateChannelInfo channelId channelInfo, put r.latest channelId channelInfo⟩
  | .invalidateChannelInfo channelId =>
    some ⟨r.map.invalidateChannelInfo channelId,
      if r.latest channelId = none then r.latest else put r.latest channelId .empty⟩
  | .getNextFreeChannelId channelId => some ⟨(r.map.getNextFreeChannelId channelId).2, r.latest⟩

end Recorded

/-- The id can be given out, and has no entry. -/
def Unused (m : InfoMap) (channelId : UInt32) : Prop :=
  CHANNEL_ID_START_NUMBER ≤ channelId ∧ m.getChannelInfo channelId = none

/-- The map gives what was put in, and `getNextFreeChannelId()` an id without an entry. -/
structure Refines (r : Recorded) : Prop where
  info : ∀ channelId, r.map.getChannelInfo channelId = r.latest channelId
  free : r.map.Unused (r.map.getNextFreeChannelId 0).1

/-- What a call of `getNextFreeChannelId` gives is an id without an entry. -/
def Answered (r : Recorded) : Event → Prop
  | .getNextFreeChannelId channelId => r.map.Unused (r.map.getNextFreeChannelId channelId).1
  | _ => True

/-- An id that is added has no entry, or just this one, and the last id of all is not used. -/
def Proper (r : Recorded) : Event → Prop
  | .addChannelInfo channelId channelInfo => channelId ≠ Map.lastId ∧
    (r.map.getChannelInfo channelId = none ∨ r.map.getChannelInfo channelId = some channelInfo)
  | .updateChannelInfo channelId _ => channelId ≠ Map.lastId
  | .invalidateChannelInfo _ => True
  | .getNextFreeChannelId channelId => channelId ≠ Map.lastId

instance (r : Recorded) (ev : Event) : Decidable (Proper r ev) :=
  match ev with
  | .addChannelInfo _ _ => inferInstanceAs (Decidable (_ ∧ (_ ∨ _)))
  | .updateChannelInfo _ _ => inferInstanceAs (Decidable (¬ _))
  | .invalidateChannelInfo _ => isTrue trivial
  | .getNextFreeChannelId _ => inferInstanceAs (Decidable (¬ _))

/-! ## The free id -/

/-- Every key is below the free id, which is one that can be given out. -/
structure Bounded (m : InfoMap) : Prop where
  start : CHANNEL_ID_START_NUMBER ≤ m.m_FreeChannelId
  keys : ∀ channelId, m.getChannelInfo channelId ≠ none → channelId < m.m_FreeChannelId

variable {m : InfoMap} {channelId key : UInt32} {channelInfo : ChannelInfo}

theorem bounded_init : Bounded .init where
  start := UInt32.le_refl _
  keys := fun _ h => absurd rfl h

theorem updateFreeChannel_map (lastChannel : UInt32) :
    (m.updateFreeChannel lastChannel).m_channelMap = m.m_channelMap := by
  unfold updateFreeChannel
  split <;> rfl

/-- The free id never goes back and is behind the id given, if that is not the last one of all. -/
theorem updateFreeChannel_free (h : channelId ≠ Map.lastId) :
    m.m_FreeChannelId ≤ (m.updateFreeChannel channelId).m_FreeChannelId
      ∧ channelId < (m.updateFreeChannel channelId).m_FreeChannelId := by
  have htags : (m.updateFreeChannel channelId).m_FreeChannelId
      = (m.tags.updateFreeChannel channelId).m_FreeChannelId :=
    congrArg Map.m_FreeChannelId (tags_updateFreeChannel channelId)
  rw [htags]
  exact Map.updateFreeChannel_free (m := m.tags) h

/-- The last id turns the free id back. -/
theorem updateFreeChannel_lastId :
    (m.updateFreeChannel Map.lastId).m_FreeChannelId = 0 := by
  unfold updateFreeChannel
  rw [if_pos (Map.le_lastId m.m_FreeChannelId)]
  rfl

theorem Bounded.updateFreeChannel (h : Bounded m) (hlast : channelId ≠ Map.lastId) :
    Bounded (m.updateFreeChannel channelId) where
  start := UInt32.le_trans h.start (updateFreeChannel_free hlast).1
  keys := by
    intro key hkey
    rw [getChannelInfo, updateFreeChannel_map] at hkey
    exact UInt32.lt_of_lt_of_le (h.keys key hkey) (updateFreeChannel_free hlast).1

/-- An entry is put in below the free id. -/
theorem Bounded.set (h : Bounded m) (hlt : channelId < m.m_FreeChannelId) :
    Bounded { m with
      m_channelMap := Function.update m.m_channelMap channelId (some channelInfo) } where
  start := h.start
  keys := by
    intro key hkey
    by_cases hsame : key = channelId
    · subst hsame
      exact hlt
    · simp only [getChannelInfo, Function.update_of_ne hsame] at hkey
      exact h.keys key hkey

/-! ## The calls -/

/-- What `addChannelInfo` does to an id without an entry. -/
theorem addChannelInfo_new (h : m.getChannelInfo channelId = none) :
    m.addChannelInfo channelId channelInfo =
      { m.updateFreeChannel channelId with
        m_channelMap := Function.update m.m_channelMap channelId (some channelInfo) } := by
  have hkey : m.m_channelMap channelId = none := h
  unfold addChannelInfo InfoMap.updateFreeChannel
  simp only [hkey]
  split <;> rfl

/-- An entry that is there is not replaced. -/
theorem addChannelInfo_old (h : m.getChannelInfo channelId ≠ none) :
    m.addChannelInfo channelId channelInfo = m.updateFreeChannel channelId := by
  obtain ⟨old, hold⟩ := Option.ne_none_iff_exists'.mp h
  have hkey : m.m_channelMap channelId = some old := hold
  unfold addChannelInfo
  simp only [hkey]

theorem getChannelInfo_updateChannelInfo :
    (m.updateChannelInfo channelId channelInfo).getChannelInfo
      = Function.update m.getChannelInfo channelId (some channelInfo) := by
  unfold updateChannelInfo getChannelInfo
  simp only
  split
  · rw [updateFreeChannel_map]
  · rfl

theorem getChannelInfo_invalidateChannelInfo :
    (m.invalidateChannelInfo channelId).getChannelInfo =
      if m.getChannelInfo channelId = none then m.getChannelInfo
      else Function.update m.getChannelInfo channelId (some .empty) := by
  unfold invalidateChannelInfo getChannelInfo
  cases hkey : m.m_channelMap channelId with
  | none => simp
  | some old => simp

theorem getNextFreeChannelId_snd (channelId : UInt32) :
    (m.getNextFreeChannelId channelId).2.getChannelInfo = m.getChannelInfo
      ∧ (m.getNextFreeChannelId channelId).1
        = (m.getNextFreeChannelId channelId).2.m_FreeChannelId := by
  unfold getNextFreeChannelId
  split
  · exact ⟨rfl, rfl⟩
  · refine ⟨?_, rfl⟩
    unfold getChannelInfo
    rw [updateFreeChannel_map]

theorem Bounded.addChannelInfo (h : Bounded m) (hlast : channelId ≠ Map.lastId) :
    Bounded (m.addChannelInfo channelId channelInfo) := by
  by_cases hkey : m.getChannelInfo channelId = none
  · rw [addChannelInfo_new hkey, ← updateFreeChannel_map channelId]
    exact (h.updateFreeChannel hlast).set (updateFreeChannel_free hlast).2
  · rw [addChannelInfo_old hkey]
    exact h.updateFreeChannel hlast

theorem Bounded.updateChannelInfo (h : Bounded m) (hlast : channelId ≠ Map.lastId) :
    Bounded (m.updateChannelInfo channelId channelInfo) := by
  by_cases hkey : m.m_channelMap channelId = none
  · simp only [InfoMap.updateChannelInfo, if_pos hkey]
    exact (h.updateFreeChannel hlast).set (updateFreeChannel_free hlast).2
  · simp only [InfoMap.updateChannelInfo, if_neg hkey]
    exact h.set (h.keys channelId hkey)

theorem Bounded.invalidateChannelInfo (h : Bounded m) :
    Bounded (m.invalidateChannelInfo channelId) := by
  unfold InfoMap.invalidateChannelInfo
  cases hkey : m.m_channelMap channelId with
  | none => exact h
  | some old =>
    refine h.set (h.keys channelId ?_)
    rw [getChannelInfo, hkey]
    simp

theorem Bounded.getNextFreeChannelId (h : Bounded m) (hlast : channelId ≠ Map.lastId) :
    Bounded (m.getNextFreeChannelId channelId).2 := by
  unfold InfoMap.getNextFreeChannelId
  split
  · exact h
  · exact h.updateFreeChannel hlast

/-- **The id that is given out has no entry.** -/
theorem Bounded.unused (h : Bounded m) (hlast : channelId ≠ Map.lastId) :
    m.Unused (m.getNextFreeChannelId channelId).1 := by
  have hnext := h.getNextFreeChannelId hlast
  obtain ⟨hmap, hfree⟩ := getNextFreeChannelId_snd (m := m) channelId
  rw [hfree]
  refine ⟨hnext.start, ?_⟩
  rw [← hmap]
  by_contra hkey
  exact UInt32.lt_irrefl _ (hnext.keys _ hkey)

/-! ## Runs -/

/-- The invariant: the map agrees with what was put in, and its keys are below the free id. -/
structure Inv (r : Recorded) : Prop where
  info : r.map.getChannelInfo = r.latest
  bounded : Bounded r.map

theorem inv_init : Inv .init := ⟨rfl, bounded_init⟩

theorem Inv.refines {r : Recorded} (h : Inv r) : Refines r where
  info := fun channelId => congrFun h.info channelId
  free := h.bounded.unused (by decide)

theorem Inv.answered {r : Recorded} (h : Inv r) {ev : Event} (hp : Proper r ev) :
    Answered r ev := by
  cases ev with
  | getNextFreeChannelId channelId => exact h.bounded.unused hp
  | _ => trivial

/-- **A proper call keeps the invariant.** -/
theorem Inv.next {r r' : Recorded} (h : Inv r) {ev : Event} (hp : Proper r ev)
    (hs : r.next ev = some r') : Inv r' := by
  cases ev with
  | addChannelInfo channelId channelInfo =>
    obtain rfl := Option.some.inj hs
    obtain ⟨hlast, hold⟩ := hp
    refine ⟨?_, h.bounded.addChannelInfo hlast⟩
    have hput : r.latest = r.map.getChannelInfo := h.info.symm
    rw [Recorded.put, hput]
    rcases hold with hnone | hsame
    · rw [addChannelInfo_new hnone]
      rfl
    · rw [addChannelInfo_old (by rw [hsame]; simp)]
      unfold getChannelInfo
      rw [updateFreeChannel_map]
      exact (Function.update_eq_self_iff.mpr hsame.symm).symm
  | updateChannelInfo channelId channelInfo =>
    obtain rfl := Option.some.inj hs
    refine ⟨?_, h.bounded.updateChannelInfo hp⟩
    rw [getChannelInfo_updateChannelInfo, h.info]
    rfl
  | invalidateChannelInfo channelId =>
    obtain rfl := Option.some.inj hs
    refine ⟨?_, h.bounded.invalidateChannelInfo⟩
    rw [getChannelInfo_invalidateChannelInfo, h.info]
    rfl
  | getNextFreeChannelId channelId =>
    obtain rfl := Option.some.inj hs
    refine ⟨?_, h.bounded.getNextFreeChannelId hp⟩
    rw [(getNextFreeChannelId_snd channelId).1, h.info]

/-- Once the free id is 0, the next one that is given out is 1. -/
theorem not_unused_of_free (h : m.m_FreeChannelId = 0) :
    ¬ m.Unused (m.getNextFreeChannelId 0).1 := by
  have hone : (m.getNextFreeChannelId 0).1 = 1 := by
    unfold getNextFreeChannelId updateFreeChannel
    rw [h]
    rfl
  rw [hone]
  intro hunused
  exact absurd hunused.1 (by decide)

/-- **A call that is not proper shows**, in what it gives or in the map after it. -/
theorem Inv.proper {r : Recorded} (h : Inv r) {ev : Event} (hanswered : Answered r ev)
    (hafter : ∀ r', r.next ev = some r' → Refines r') : Proper r ev := by
  cases ev with
  | addChannelInfo channelId channelInfo =>
    have hrefines := hafter _ rfl
    constructor
    · rintro rfl
      refine not_unused_of_free ?_ hrefines.free
      by_cases hkey : r.map.getChannelInfo Map.lastId = none
      · rw [addChannelInfo_new hkey]
        exact updateFreeChannel_lastId
      · rw [addChannelInfo_old hkey]
        exact updateFreeChannel_lastId
    · by_contra hold
      rw [not_or] at hold
      have hinfo := hrefines.info channelId
      simp only [addChannelInfo_old hold.1, getChannelInfo, updateFreeChannel_map, Recorded.put,
        Function.update_self] at hinfo
      exact hold.2 hinfo
  | updateChannelInfo channelId channelInfo =>
    rintro rfl
    have hnone : r.map.m_channelMap Map.lastId = none := by
      by_contra hkey
      exact Map.not_lastId_lt _ (h.bounded.keys Map.lastId hkey)
    refine not_unused_of_free ?_ (hafter _ rfl).free
    simp only [InfoMap.updateChannelInfo, if_pos hnone]
    exact updateFreeChannel_lastId
  | invalidateChannelInfo channelId => trivial
  | getNextFreeChannelId channelId =>
    rintro rfl
    have hzero : (r.map.getNextFreeChannelId Map.lastId).1 = 0 := by
      unfold InfoMap.getNextFreeChannelId
      rw [if_neg (Map.not_lastId_lt r.map.m_FreeChannelId)]
      exact updateFreeChannel_lastId
    have hstart : CHANNEL_ID_START_NUMBER ≤ (r.map.getNextFreeChannelId Map.lastId).1 :=
      hanswered.1
    rw [hzero] at hstart
    exact absurd hstart (by decide)

/-- **The map is a finite map with a free id beside it** exactly in the runs whose calls are all
proper. -/
theorem map_refines_iff {es : List Event} :
    Along Recorded.next (fun r ev => Answered r ev ∧ ∀ r', r.next ev = some r' → Refines r')
        .init es
      ↔ Along Recorded.next Proper .init es := by
  have hagree : ∀ r ev, Inv r → True →
      ((Answered r ev ∧ ∀ r', r.next ev = some r' → Refines r') ↔ Proper r ev) := by
    intro r ev h _
    constructor
    · intro hright
      exact h.proper hright.1 hright.2
    · intro hp
      exact ⟨h.answered hp, fun r' hs => (h.next hp hs).refines⟩
  exact along_iff_along (E := fun _ _ => True) hagree (fun r ev r' h _ hp hs => h.next hp hs)
    inv_init (along_of_mem fun _ _ _ => trivial)

/-- A channel is given up and its id is used again: the new info does not get into the map. -/
theorem readded_channel_lost :
    ∃ es r, run Recorded.next .init es = some r ∧
      r.latest 100 = some ⟨['a'], 7⟩ ∧ r.map.getChannelInfo 100 = some .empty :=
  ⟨[.addChannelInfo 100 ⟨['a'], 5⟩, .invalidateChannelInfo 100, .addChannelInfo 100 ⟨['a'], 7⟩],
    _, rfl, rfl, rfl⟩

end InfoMap

end IviLink.ChannelSupervisor
