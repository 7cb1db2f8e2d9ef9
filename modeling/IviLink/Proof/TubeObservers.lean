import IviLink.Proof.TubeAllocations
import IviLink.Lib.Run

/-!
# The observers of the tube's channels

The tube keeps a map of its observers, from which `deallocateChannel` takes the one to delete by
the channel's id. It is filled under one and the same key, whatever the channel: from the first
id that is negotiated the map is not the one of the open channels.
-/

namespace IviLink.ChannelSupervisor

open IviLink.Lib

/-- The map has the observers of the open channels, under their ids. -/
def Tube.Follows (s : Tube) : Prop :=
  ∀ channelId, s.observerMap channelId.toInt32 = s.channels channelId

/-- No observer is registered, and no channel is open. -/
structure Tube.Unused (s : Tube) : Prop where
  map : ∀ key, s.observerMap key = none
  channels : ∀ channelId, s.channels channelId = none

/-- A call negotiates no id. -/
def TubeEvent.NoId : TubeEvent → Prop
  | .allocateChannel _ _ answers _ => ChannelSupervisor.NoId answers
  | _ => True

namespace Call

variable {c : Call} {a : Answers} {answers : Nat → Answers} {n : Nat}

/-- The agent is never asked for a channel of id 0. -/
theorem round_channels_zero : (c.round a).tube.channels 0 = c.tube.channels 0 := by
  cases hc : c.loop with
  | ended err => rw [round_ended hc]
  | trying i =>
    rw [round_trying hc]
    show (c.attempt a).tube.channels 0 = c.tube.channels 0
    unfold attempt
    split
    · have hne : (0 : UInt32) ≠ a.channelId := fun h => (‹a.Negotiated›).1 h.symm
      split
      · exact Function.update_of_ne hne _ _
      · rfl
    · rfl

theorem rounds_channels_zero : (c.rounds answers n).tube.channels 0 = c.tube.channels 0 := by
  induction n with
  | zero => rfl
  | succ n ih => rw [rounds, round_channels_zero, ih]

end Call

namespace Tube

variable {s s' : Tube} {ev : TubeEvent}

theorem Unused.follows (h : s.Unused) : s.Follows := fun channelId => by
  rw [h.map, h.channels]

theorem unused_init : Tube.init.Unused := ⟨fun _ => rfl, fun _ => rfl⟩

theorem Unused.closeChannel (h : s.Unused) (channelId : UInt32) :
    (s.closeChannel channelId).Unused where
  map := h.map
  channels key := by
    by_cases hk : key = channelId
    · subst hk
      exact Function.update_self _ _ _
    · exact (Function.update_of_ne hk _ _).trans (h.channels key)

theorem Unused.deallocateChannel (h : s.Unused) (channelId : UInt32)
    (closed : ConnectivityAgentError) : (s.deallocateChannel channelId closed).1.Unused := by
  have hclosed : (if closed = .noError then s.closeChannel channelId else s).Unused := by
    split
    · exact h.closeChannel channelId
    · exact h
  unfold Tube.deallocateChannel
  split
  · exact h
  · split
    · exact h
    · simp only [hclosed.map]
      exact hclosed

theorem Unused.channelDeletedCallback (h : s.Unused) (channelId : UInt32) :
    (s.channelDeletedCallback channelId).Unused := by
  rw [Tube.channelDeletedCallback, h.channels]
  exact h

/-- A call that succeeds has come through the loop. -/
theorem next_allocateChannel {observer : TubeObserver} {tag : Tag} {answers : Nat → Answers}
    {n : Nat} (hs : s.next (.allocateChannel observer tag answers n) = some s') :
    ∃ c err, s.beginAllocation (some observer) tag = .ok c ∧
      (c.rounds answers n).loop = .ended err ∧ (c.rounds answers n).tube = s' := by
  rw [Tube.next] at hs
  cases hb : s.beginAllocation (some observer) tag with
  | error err =>
    obtain ⟨-, rfl⟩ := beginAllocation_error hb
    rw [allocateChannel_error hb] at hs
    cases hs
  | ok c =>
    cases hr : s.allocateChannel (some observer) tag answers n with
    | none => rw [hr] at hs; cases hs
    | some r =>
      simp only [hr] at hs
      split at hs
      · cases hs
        obtain ⟨hend, htube, -⟩ := (allocateChannel_ok hb).mp hr
        exact ⟨c, r.err, rfl, hend, htube.symm⟩
      · cases hs

/-- A call that negotiates no id leaves an unused tube unused. -/
theorem Unused.next (h : s.Unused) (hev : ev.NoId) (hs : s.next ev = some s') : s'.Unused := by
  cases ev with
  | allocateChannel observer tag answers n =>
    obtain ⟨c, r, hb, hend, rfl⟩ := next_allocateChannel hs
    obtain ⟨o, -, -, htube, -, hbegin⟩ := beginAllocation_ok hb
    rw [Call.rounds_tube (NoId.not_negotiated hev hbegin), htube]
    exact ⟨h.map, h.channels⟩
  | deallocateChannel channelId closed =>
    rw [Tube.next] at hs
    split at hs
    · cases hs
      exact h.deallocateChannel channelId closed
    · cases hs
  | channelDeletedCallback channelId =>
    cases hs
    exact h.channelDeletedCallback channelId

/-- One that does leaves an observer under a key that is no channel's. -/
theorem Unused.noId (h : s.Unused) (hs : s.next ev = some s') (hfollows : s'.Follows) :
    ev.NoId := by
  cases ev with
  | deallocateChannel channelId closed => trivial
  | channelDeletedCallback channelId => trivial
  | allocateChannel observer tag answers n =>
    obtain ⟨c, err, hb, hend, rfl⟩ := next_allocateChannel hs
    obtain ⟨o, -, -, htube, -, hbegin⟩ := beginAllocation_ok hb
    by_contra hid
    have hreg := Call.registered_of_not_noId hbegin hend hid
    have hzero := hfollows 0
    rw [Call.rounds_channels_zero, htube] at hzero
    exact absurd (hreg.symm.trans (hzero.trans (h.channels 0))) (Option.some_ne_none _)

/-- **Observers follow their channels** exactly as long as no allocation has got an id. -/
theorem observers_follow_iff {es : List TubeEvent} {t : Tube}
    (hrun : run Tube.next .init es = some t) :
    Always Tube.next .init es Follows ↔ ∀ ev ∈ es, ev.NoId := by
  have hagree : ∀ (s : Tube) (ev : TubeEvent), s.Unused → (∃ s', s.next ev = some s') →
      ((∀ s', s.next ev = some s' → s'.Follows) ↔ ev.NoId) := by
    intro s ev h ⟨s', hs⟩
    constructor
    · intro hfollows
      exact h.noId hs (hfollows s' hs)
    · intro hid s' hs
      exact (h.next hid hs).follows
  have halong := along_iff_along hagree (fun s ev s' h _ hid hs => h.next hid hs) unused_init
    (along_of_run hrun)
  rw [always_iff_along, halong]
  constructor
  · intro ⟨_, hid⟩
    exact hid.forall_mem hrun
  · intro hid
    exact ⟨unused_init.follows, along_of_mem fun ev hev _ => hid ev hev⟩

/-- The negotiator gives no id, and there is nothing to deallocate. -/
theorem observers_follow_no_id :
    Always Tube.next .init [.allocateChannel 0 ['a'] (fun _ => ⟨.noError, 0, .noError, .noError⟩) 1,
      .deallocateChannel 100 .notFound, .channelDeletedCallback 101] Follows := by
  refine (observers_follow_iff rfl).mpr ?_
  intro ev hev
  simp only [List.mem_cons, List.not_mem_nil, or_false] at hev
  rcases hev with rfl | rfl | rfl
  · intro _ _ _ hnegotiated
    exact hnegotiated.1 rfl
  · trivial
  · trivial

/-- Two channels are open, and the map has the observer of one of them, under the key 0. -/
theorem two_channels_one_observer :
    ∃ es s, run Tube.next .init es = some s ∧ s.channels 100 = some 0 ∧
      s.channels 101 = some 1 ∧ s.observerMap (100 : UInt32).toInt32 = none ∧
      s.observerMap (101 : UInt32).toInt32 = none ∧ s.observerMap 0 = some 1 :=
  ⟨[.allocateChannel 0 ['a'] (fun _ => ⟨.noError, 100, .noError, .noError⟩) 1,
    .allocateChannel 1 ['b'] (fun _ => ⟨.noError, 101, .noError, .noError⟩) 1],
    _, rfl, rfl, rfl, rfl, rfl, rfl⟩

end Tube

end IviLink.ChannelSupervisor
