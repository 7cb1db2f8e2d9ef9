import IviLink.Proof.ChannelInfos

/-!
# Which channels the watchdog gives up

A round of `checkChannels` looks at one id and changes no other, and the ids in front
of the next free one are gone through once each. So the watchdog gives up what its
computation of the age says is too old, from the second id on. That computation never
makes a channel older than it is, so that no channel is given up that should not be.
One that should be is missed if it has the first id, or is not below the next free id,
or if its age in milliseconds goes round in 32 bits.
-/

namespace IviLink.ChannelSupervisor

namespace InfoMap

variable {m : InfoMap} {currentTime : UInt32 → Int} {channelId key : UInt32}

/-- The channel has a tag, and its last update is more than `DEALLOCATE_TIMEOUT_MS` old. -/
def Unresponsive (m : InfoMap) (currentTime : UInt32 → Int) (channelId : UInt32) : Prop :=
  ∃ channelInfo, m.getChannelInfo channelId = some channelInfo ∧ channelInfo.mTag ≠ [] ∧
    DEALLOCATE_TIMEOUT_MS.toNat < (currentTime channelId - channelInfo.mTimeStamp) * 1000

/-- **What the watchdog is for**: the channels that it gives up, once each, and invalidates are
those that do not respond, and it touches no other. -/
structure Reaps (m : InfoMap) (currentTime : UInt32 → Int) : Prop where
  forced : ∀ channelId,
    channelId ∈ (m.checkChannels currentTime).2 ↔ m.Unresponsive currentTime channelId
  once : (m.checkChannels currentTime).2.Nodup
  invalidated : ∀ channelId, m.Unresponsive currentTime channelId →
    (m.checkChannels currentTime).1.getChannelInfo channelId = some .empty
  others : ∀ channelId, ¬ m.Unresponsive currentTime channelId →
    (m.checkChannels currentTime).1.getChannelInfo channelId = m.getChannelInfo channelId

/-- `diffMillis` of the channel is too large. -/
def TooOld (m : InfoMap) (currentTime : UInt32 → Int) (channelId : UInt32) : Prop :=
  ∃ channelInfo, m.getChannelInfo channelId = some channelInfo ∧ channelInfo.mTag ≠ [] ∧
    DEALLOCATE_TIMEOUT_MS < diffMillis (currentTime channelId) channelInfo.mTimeStamp

/-- `getNextFreeChannelId()`, at which the loop ends. -/
def loopEnd (m : InfoMap) : UInt32 := (m.getNextFreeChannelId 0).1

/-! ## One round -/

theorem loopEnd_eq : (m.getNextFreeChannelId 0).2.m_FreeChannelId = m.loopEnd :=
  (getNextFreeChannelId_snd 0).2.symm

/-- The end of the loop is never 0, and asking for it once is enough. -/
theorem loopEnd_of_free {m' : InfoMap} (h : m'.m_FreeChannelId = m.loopEnd) :
    m'.loopEnd = m.loopEnd := by
  have hpos : 0 < m.loopEnd := by
    unfold loopEnd getNextFreeChannelId updateFreeChannel
    split
    · next hlt => exact hlt
    · next hge =>
      have hzero : m.m_FreeChannelId ≤ 0 := UInt32.not_lt.mp hge
      simp only [if_pos hzero]
      exact UInt32.lt_iff_toNat_lt.mpr Nat.one_pos
  unfold loopEnd getNextFreeChannelId
  rw [if_pos (h ▸ hpos)]
  exact h

/-- A round gives up its own channel, if that is too old, and leaves the others. -/
theorem checkChannel_spec (m : InfoMap) (currentTime : UInt32 → Int) (channelId : UInt32) :
    (m.checkChannel (currentTime channelId) channelId).1.m_FreeChannelId = m.m_FreeChannelId
      ∧ (TooOld m currentTime channelId ∧
          (m.checkChannel (currentTime channelId) channelId).2 = [channelId] ∧
          (m.checkChannel (currentTime channelId) channelId).1.getChannelInfo
            = Function.update m.getChannelInfo channelId (some .empty)
        ∨ ¬ TooOld m currentTime channelId ∧
          m.checkChannel (currentTime channelId) channelId = (m, [])) := by
  unfold checkChannel
  cases hinfo : m.getChannelInfo channelId with
  | none =>
    refine ⟨rfl, Or.inr ⟨?_, rfl⟩⟩
    intro ⟨channelInfo, hsome, _⟩
    exact absurd (hinfo.symm.trans hsome) (by simp)
  | some channelInfo =>
    have hsame : ∀ other, m.getChannelInfo channelId = some other → other = channelInfo :=
      fun other hother => Option.some.inj (hother.symm.trans hinfo)
    simp only
    split
    · next htag =>
      refine ⟨rfl, Or.inr ⟨?_, rfl⟩⟩
      intro ⟨other, hother, hne, _⟩
      exact hne (hsame other hother ▸ htag)
    next htag =>
    split
    · next hold =>
      have hfree : (m.invalidateChannelInfo channelId).m_FreeChannelId = m.m_FreeChannelId := by
        unfold invalidateChannelInfo
        split <;> rfl
      refine ⟨hfree, Or.inl ⟨⟨channelInfo, hinfo, htag, hold⟩, rfl, ?_⟩⟩
      rw [getChannelInfo_invalidateChannelInfo, if_neg (by rw [hinfo]; simp)]
    · next hyoung =>
      refine ⟨rfl, Or.inr ⟨?_, rfl⟩⟩
      intro ⟨other, hother, _, hlt⟩
      exact hyoung (hsame other hother ▸ hlt)

/-! ## The loop -/

/-- What the loop from `channelId` on has done. -/
structure Walked (m : InfoMap) (currentTime : UInt32 → Int) (channelId : UInt32)
    (r : InfoMap × List UInt32) : Prop where
  forced : ∀ key, key ∈ r.2 ↔ channelId ≤ key ∧ key < m.loopEnd ∧ m.TooOld currentTime key
  once : r.2.Nodup
  given : ∀ key ∈ r.2, r.1.getChannelInfo key = some .empty
  others : ∀ key, key ∉ r.2 → r.1.getChannelInfo key = m.getChannelInfo key

theorem walked_end (h : ¬ channelId < m.loopEnd) :
    Walked m currentTime channelId ((m.getNextFreeChannelId 0).2, []) where
  forced := by
    intro key
    constructor
    · intro hkey
      cases hkey
    · intro ⟨hle, hlt, _⟩
      exact absurd (UInt32.lt_of_le_of_lt hle hlt) h
  once := List.nodup_nil
  given := fun key hkey => nomatch hkey
  others := fun key _ => congrFun (getNextFreeChannelId_snd 0).1 key

theorem add_one_le_iff (h : channelId ≠ Map.lastId) :
    channelId + 1 ≤ key ↔ channelId < key := by
  rw [UInt32.le_iff_toNat_le, UInt32.lt_iff_toNat_lt, Map.toNat_add_one h]
  exact Nat.succ_le_iff

/-- One round in front of what has been done from the next id on. -/
theorem walked_round {m' : InfoMap} {r : InfoMap × List UInt32} (hlt : channelId < m.loopEnd)
    (hm' : m' = ((m.getNextFreeChannelId 0).2.checkChannel (currentTime channelId) channelId).1)
    (h : Walked m' currentTime (channelId + 1) r) :
    Walked m currentTime channelId (r.1,
      ((m.getNextFreeChannelId 0).2.checkChannel (currentTime channelId) channelId).2 ++ r.2) := by
  have hne : channelId ≠ Map.lastId := Map.ne_lastId_of_lt hlt
  have hasked : (m.getNextFreeChannelId 0).2.getChannelInfo = m.getChannelInfo :=
    (getNextFreeChannelId_snd 0).1
  obtain ⟨hfree, hround⟩ := checkChannel_spec (m.getNextFreeChannelId 0).2 currentTime channelId
  have hend : m'.loopEnd = m.loopEnd := loopEnd_of_free (by rw [hm', hfree, loopEnd_eq])
  have hold : ∀ key, TooOld (m.getNextFreeChannelId 0).2 currentTime key ↔
      TooOld m currentTime key := by
    intro key
    unfold TooOld
    rw [hasked]
  -- the ids behind this one are as they were
  have hlater : ∀ key, key ≠ channelId → m'.getChannelInfo key = m.getChannelInfo key := by
    intro key hkey
    rcases hround with ⟨-, -, hmap⟩ | ⟨-, heq⟩
    · rw [hm', hmap, Function.update_of_ne hkey, hasked]
    · rw [hm', heq, hasked]
  have hrest : ∀ key, key ∈ r.2 ↔ channelId < key ∧ key < m.loopEnd ∧ m.TooOld currentTime key := by
    intro key
    rw [h.forced key, add_one_le_iff hne, hend]
    refine and_congr_right fun hlt => and_congr_right fun _ => ?_
    unfold TooOld
    rw [hlater key (fun heq => UInt32.lt_irrefl _ (heq ▸ hlt))]
  have hnotin : channelId ∉ r.2 := fun hin => UInt32.lt_irrefl _ ((hrest channelId).mp hin).1
  have hsplit : ∀ key, channelId ≤ key ↔ key = channelId ∨ channelId < key := by
    intro key
    rw [UInt32.le_iff_lt_or_eq, or_comm, eq_comm]
  rcases hround with ⟨hforced, htold, hmap⟩ | ⟨hyoung, heq⟩
  · have hforced := (hold channelId).mp hforced
    rw [htold]
    refine ⟨?_, List.nodup_cons.mpr ⟨hnotin, h.once⟩, ?_, ?_⟩
    · intro key
      rw [List.singleton_append, List.mem_cons, hrest key, hsplit key]
      constructor
      · intro hkey
        rcases hkey with rfl | ⟨hgt, hlt', hkey⟩
        · exact ⟨Or.inl rfl, hlt, hforced⟩
        · exact ⟨Or.inr hgt, hlt', hkey⟩
      · intro ⟨hle, hlt', hkey⟩
        rcases hle with rfl | hgt
        · exact Or.inl rfl
        · exact Or.inr ⟨hgt, hlt', hkey⟩
    · intro key hkey
      rcases List.mem_cons.mp hkey with rfl | hkey
      · rw [h.others key hnotin, hm', hmap, Function.update_self]
      · exact h.given key hkey
    · intro key hkey
      rw [List.singleton_append, List.mem_cons, not_or] at hkey
      rw [h.others key hkey.2, hlater key hkey.1]
  · have hyoung : ¬ TooOld m currentTime channelId := fun hkey => hyoung ((hold channelId).mpr hkey)
    rw [heq, List.nil_append]
    refine ⟨?_, h.once, h.given, ?_⟩
    · intro key
      rw [hrest key, hsplit key]
      constructor
      · intro ⟨hgt, hkey⟩
        exact ⟨Or.inr hgt, hkey⟩
      · intro ⟨hle, hlt', hkey⟩
        rcases hle with rfl | hgt
        · exact absurd hkey hyoung
        · exact ⟨hgt, hlt', hkey⟩
    · intro key hkey
      rw [h.others key hkey, hm', heq, hasked]

/-- **What the loop does.** -/
theorem walked_checkFrom (currentTime : UInt32 → Int) (channelId : UInt32) (m : InfoMap) :
    Walked m currentTime channelId (checkFrom currentTime channelId m) := by
  induction channelId, m using checkFrom.induct currentTime with
  | case1 channelId m hlt r ih =>
    rw [checkFrom, dif_pos hlt]
    exact walked_round hlt rfl ih
  | case2 channelId m hend =>
    rw [checkFrom, dif_neg hend]
    exact walked_end hend

/-! ## The ages -/

/-- The computed age is never more than the age. -/
theorem diffMillis_le {now stamp : Int} (h : stamp ≤ now) :
    ((diffMillis now stamp).toNat : Int) ≤ (now - stamp) * 1000 := by
  obtain ⟨n, hn⟩ := Int.eq_ofNat_of_zero_le (Int.sub_nonneg.mpr h)
  unfold diffMillis
  rw [hn, UInt32.toNat_mul]
  have hcast : (UInt32.ofInt (n : Int)).toNat ≤ n := by
    unfold UInt32.ofInt
    rw [UInt32.toNat_ofNat']
    omega
  have hmod := Nat.mod_le ((UInt32.ofInt (n : Int)).toNat * (1000 : UInt32).toNat) (2 ^ 32)
  have hthousand : (1000 : UInt32).toNat = 1000 := rfl
  rw [hthousand] at hmod ⊢
  omega

/-- A channel that is found too old does not respond. -/
theorem TooOld.unresponsive
    (hpast : ∀ channelId channelInfo, m.getChannelInfo channelId = some channelInfo →
      channelInfo.mTag ≠ [] → channelInfo.mTimeStamp ≤ currentTime channelId)
    (h : TooOld m currentTime channelId) : Unresponsive m currentTime channelId := by
  obtain ⟨channelInfo, hinfo, htag, hold⟩ := h
  refine ⟨channelInfo, hinfo, htag, ?_⟩
  have hage := diffMillis_le (hpast channelId channelInfo hinfo htag)
  have hlt := UInt32.lt_iff_toNat_lt.mp hold
  omega

/-- **The watchdog gives up exactly the channels that do not respond** if each of them has an id
behind the first one and below the next free one, and is too old also in 32 bits. -/
theorem watchdog_reaps_iff
    (hpast : ∀ channelId channelInfo, m.getChannelInfo channelId = some channelInfo →
      channelInfo.mTag ≠ [] → channelInfo.mTimeStamp ≤ currentTime channelId) :
    Reaps m currentTime ↔ ∀ channelId, Unresponsive m currentTime channelId →
      CHANNEL_ID_START_NUMBER < channelId ∧ channelId < m.loopEnd ∧
        TooOld m currentTime channelId := by
  have hwalk := walked_checkFrom currentTime (CHANNEL_ID_START_NUMBER + 1) m
  have hfirst : ∀ key, CHANNEL_ID_START_NUMBER + 1 ≤ key ↔ CHANNEL_ID_START_NUMBER < key :=
    fun key => add_one_le_iff (by decide)
  constructor
  · intro h key hkey
    obtain ⟨hge, hlt, hold⟩ := (hwalk.forced key).mp ((h.forced key).mpr hkey)
    exact ⟨(hfirst key).mp hge, hlt, hold⟩
  · intro h
    have hforced : ∀ key, key ∈ (m.checkChannels currentTime).2 ↔
        m.Unresponsive currentTime key := by
      intro key
      unfold checkChannels
      rw [hwalk.forced key]
      constructor
      · intro ⟨_, _, hold⟩
        exact hold.unresponsive hpast
      · intro hkey
        obtain ⟨hgt, hlt, hold⟩ := h key hkey
        exact ⟨(hfirst key).mpr hgt, hlt, hold⟩
    exact {
      forced := hforced
      once := hwalk.once
      invalidated := fun key hkey => hwalk.given key ((hforced key).mpr hkey)
      others := fun key hkey => hwalk.others key fun hin => hkey ((hforced key).mp hin) }

/-- Two channels, of which the second one was not updated for a long time. -/
def twoChannels : InfoMap :=
  (InfoMap.init.addChannelInfo 100 ⟨['a'], 25⟩).addChannelInfo 101 ⟨['b'], 0⟩

theorem getChannelInfo_twoChannels {channelInfo : ChannelInfo}
    (h : twoChannels.getChannelInfo key = some channelInfo) :
    key = 100 ∧ channelInfo = ⟨['a'], 25⟩ ∨ key = 101 ∧ channelInfo = ⟨['b'], 0⟩ := by
  have hmap : twoChannels.getChannelInfo
      = Function.update (Function.update (fun _ => none) 100 (some ⟨['a'], 25⟩)) 101
          (some ⟨['b'], 0⟩) := rfl
  rw [hmap] at h
  by_cases hsecond : key = 101
  · subst hsecond
    rw [Function.update_self] at h
    exact Or.inr ⟨rfl, (Option.some.inj h).symm⟩
  · rw [Function.update_of_ne hsecond] at h
    by_cases hfirst : key = 100
    · subst hfirst
      rw [Function.update_self] at h
      exact Or.inl ⟨rfl, (Option.some.inj h).symm⟩
    · rw [Function.update_of_ne hfirst] at h
      cases h

theorem watchdog_reaps_second : Reaps twoChannels fun _ => 31 := by
  refine (watchdog_reaps_iff ?_).mpr ?_
  · intro key channelInfo hinfo _
    rcases getChannelInfo_twoChannels hinfo with ⟨-, rfl⟩ | ⟨-, rfl⟩ <;> decide
  · intro key ⟨channelInfo, hinfo, htag, hold⟩
    rcases getChannelInfo_twoChannels hinfo with ⟨-, rfl⟩ | ⟨rfl, rfl⟩
    · have hage : (30000 : Int) < (31 - 25) * 1000 := hold
      exact absurd hage (by decide)
    · exact ⟨by decide, by decide, ⟨['b'], 0⟩, rfl, htag, by decide⟩

/-- The first channel of all, which does not respond, is not given up. -/
theorem first_channel_not_reaped :
    (InfoMap.init.addChannelInfo 100 ⟨['a'], 0⟩).Unresponsive (fun _ => 31) 100 ∧
      ((InfoMap.init.addChannelInfo 100 ⟨['a'], 0⟩).checkChannels fun _ => 31).2 = [] := by
  refine ⟨⟨⟨['a'], 0⟩, rfl, by decide, by decide⟩, ?_⟩
  rw [checkChannels, checkFrom, dif_neg (by decide)]

end InfoMap

end IviLink.ChannelSupervisor
