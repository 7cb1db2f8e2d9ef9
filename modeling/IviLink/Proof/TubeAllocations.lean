import IviLink.ChannelSupervisor.ChannelSupervisorTube

/-!
# How allocations of the tube end

A call of `allocateChannel` drives the negotiator and the agent in rounds. It is a loop with
a limit, whose counter stands still when the agent says that a channel is busy: with such
answers the call goes on past the limit. Nothing in it takes a round back: the observer that a
round has registered stays in the map, and the channel that the agent has opened stays open.
-/

namespace IviLink.ChannelSupervisor

open IviLink.Lib

namespace Answers

/-- The negotiator reports no error, but the id 0. -/
def Empty (a : Answers) : Prop := a.channelId = 0 ∧ a.negotiated = .noError

variable {a : Answers}

/-- A busy channel is the only answer after which the loop goes on uncounted. -/
theorem verdict_uncounted : a.verdict = .uncounted ↔ a.Negotiated ∧ a.allocated = .channelBusy := by
  unfold verdict
  by_cases hn : a.Negotiated
  · rw [if_pos hn]
    cases hca : a.allocated <;> simp [hn]
    cases a.updated <;> simp
  · rw [if_neg hn]
    by_cases hne : a.negotiated = .negotiationChannelError <;> simp [hn, hne]

/-- The loop ends without an error when a channel was opened and reported, or with no channel at
all. -/
theorem ends_noError (h : a.verdict = .ends .noError) :
    a.Negotiated ∧ a.allocated = .noError ∨ a.Empty := by
  unfold verdict at h
  by_cases hn : a.Negotiated
  · rw [if_pos hn] at h
    left
    refine ⟨hn, ?_⟩
    cases hca : a.allocated <;> simp [hca] at h ⊢
  · rw [if_neg hn] at h
    by_cases hne : a.negotiated = .negotiationChannelError
    · rw [if_pos hne] at h
      cases h
    · rw [if_neg hne] at h
      have hno : a.negotiated = .noError := Verdict.ends.inj h
      exact Or.inr ⟨by_contra fun h0 => hn ⟨h0, hno⟩, hno⟩

theorem Empty.verdict (h : a.Empty) : a.verdict = .ends .noError := by
  have hn : ¬ a.Negotiated := fun hn => hn.1 h.1
  rw [Answers.verdict, if_neg hn, h.2, if_neg (by simp)]

end Answers

namespace Call

variable {c : Call} {a : Answers} {answers : Nat → Answers} {n m k i : Nat} {err : CSError}

@[simp] theorem attempt_obs : (c.attempt a).obs = c.obs := by
  unfold attempt
  split <;> [split; skip] <;> rfl

theorem round_ended (h : c.loop = .ended err) : c.round a = c := by
  rw [round, h]

theorem round_trying (h : c.loop = .trying i) :
    c.round a = { c.attempt a with
      channelId := a.channelId
      loop := c.loop.round ALLOCATION_ATTEMPTS .attemptsLimitExceeded a.verdict } := by
  rw [round, h]

@[simp] theorem round_obs : (c.round a).obs = c.obs := by
  cases h : c.loop with
  | ended err => rw [round_ended h]
  | trying i => rw [round_trying h]; exact attempt_obs

@[simp] theorem rounds_obs : (c.rounds answers n).obs = c.obs := by
  induction n with
  | zero => rfl
  | succ n ih => rw [rounds, round_obs, ih]

theorem round_loop :
    (c.round a).loop = c.loop.round ALLOCATION_ATTEMPTS .attemptsLimitExceeded a.verdict := by
  cases h : c.loop with
  | ended err => rw [round_ended h, h]; rfl
  | trying i => rw [round_trying h, h]

/-- The call's loop is one with a limit: what its answers come to decides where it is. -/
theorem rounds_loop (hbegin : c.loop = .enter ALLOCATION_ATTEMPTS .attemptsLimitExceeded 0) :
    (c.rounds answers n).loop =
      .after ALLOCATION_ATTEMPTS .attemptsLimitExceeded (fun k => (answers k).verdict) n := by
  induction n with
  | zero => exact hbegin
  | succ n ih => rw [rounds, round_loop, ih, Attempts.after_succ]

/-- A call that has returned stays as it is. -/
theorem rounds_of_le (h : (c.rounds answers n).loop = .ended err) (hle : n ≤ m) :
    c.rounds answers m = c.rounds answers n := by
  induction hle with
  | refl => rfl
  | step _ ih => rw [rounds, ih, round_ended h]

/-- What a round that negotiates an id registers is not taken out again. -/
theorem round_registered (h : c.tube.observerMap channel = some c.obs) :
    (c.round a).tube.observerMap channel = some c.obs := by
  cases hc : c.loop with
  | ended err => rw [round_ended hc, h]
  | trying i =>
    rw [round_trying hc]
    show (c.attempt a).tube.observerMap channel = some c.obs
    unfold attempt
    split
    · split <;> exact Function.update_self channel (some c.obs) c.tube.observerMap
    · exact h

theorem round_registers (hc : c.loop = .trying i) (hn : a.Negotiated) :
    (c.round a).tube.observerMap channel = some c.obs := by
  rw [round_trying hc]
  show (c.attempt a).tube.observerMap channel = some c.obs
  rw [attempt, if_pos hn]
  split <;> exact Function.update_self channel (some c.obs) c.tube.observerMap

theorem rounds_registered (hk : k < n) (hc : (c.rounds answers k).loop = .trying i)
    (hn : (answers k).Negotiated) :
    (c.rounds answers n).tube.observerMap channel = some c.obs := by
  induction hk with
  | refl =>
    have h := round_registers hc hn
    rw [rounds_obs] at h
    exact h
  | @step m _ ih =>
    have h : (c.rounds answers m).tube.observerMap channel =
        some (c.rounds answers m).obs := by rw [rounds_obs, ih]
    have h' := round_registered (a := answers m) h
    rw [rounds_obs] at h'
    exact h'

/-- A round that negotiates no id leaves the tube alone. -/
theorem round_tube (hn : ∀ i, c.loop = .trying i → ¬ a.Negotiated) :
    (c.round a).tube = c.tube := by
  cases hc : c.loop with
  | ended err => rw [round_ended hc]
  | trying i =>
    rw [round_trying hc]
    show (c.attempt a).tube = c.tube
    rw [attempt, if_neg (hn i hc)]

theorem rounds_tube (hn : ∀ k i, (c.rounds answers k).loop = .trying i →
    ¬ (answers k).Negotiated) : (c.rounds answers n).tube = c.tube := by
  induction n with
  | zero => rfl
  | succ n ih => rw [rounds, round_tube (hn n), ih]

section Ends

variable (hbegin : c.loop = .enter ALLOCATION_ATTEMPTS .attemptsLimitExceeded 0)
  (hn : n < ALLOCATION_ATTEMPTS) (hfirst : ∀ k, k < n → ¬ (answers k).verdict.Ends)
include hbegin hn hfirst

/-- The loop is still running when it gets the first answer that ends it. -/
theorem trying_first : ∃ i, (c.rounds answers n).loop = .trying i := by
  rw [rounds_loop hbegin]
  obtain ⟨i, -, hat⟩ := Attempts.after_of_not_ends hfirst hn
  exact ⟨i, hat⟩

theorem first_channelId : (c.rounds answers (n + 1)).channelId = (answers n).channelId := by
  obtain ⟨i, hat⟩ := trying_first hbegin hn hfirst
  rw [rounds, round_trying hat]

theorem first_tube : (c.rounds answers (n + 1)).tube =
    ((c.rounds answers n).attempt (answers n)).tube := by
  obtain ⟨i, hat⟩ := trying_first hbegin hn hfirst
  rw [rounds, round_trying hat]

/-- After it nothing more happens. -/
theorem rounds_first (hv : (answers n).verdict = .ends err) :
    c.rounds answers ALLOCATION_ATTEMPTS = c.rounds answers (n + 1) := by
  have hend : (c.rounds answers (n + 1)).loop = .ended err := by
    rw [rounds_loop hbegin]
    exact Attempts.after_first hfirst hn hv
  exact rounds_of_le hend hn

end Ends

end Call

/-- No id is negotiated, up to the answer that ends the call or to its last attempt. -/
def NoId (answers : Nat → Answers) : Prop :=
  ∀ n, n < ALLOCATION_ATTEMPTS → (∀ k, k < n → ¬ (answers k).verdict.Ends) →
    ¬ (answers n).Negotiated

/-- Where no id is negotiated every attempt counts, so that the call is at no later round than
those the condition speaks about. -/
theorem NoId.not_negotiated {answers : Nat → Answers} (h : NoId answers) {c : Call}
    (hbegin : c.loop = .enter ALLOCATION_ATTEMPTS .attemptsLimitExceeded 0) (n i : Nat)
    (hc : (c.rounds answers n).loop = .trying i) : ¬ (answers n).Negotiated := by
  induction n using Nat.strongRecOn generalizing i with
  | ind n ih =>
    rw [Call.rounds_loop hbegin] at hc
    have hnone : ∀ k, k < n → ¬ (answers k).verdict.Ends := fun k hk =>
      Attempts.not_ends_of_trying hc hk
    have hagain : ∀ k, k < n → (answers k).verdict = .again := by
      intro k hk
      obtain ⟨j, hj⟩ := Attempts.trying_of_le hc (Nat.le_of_lt hk)
      rw [← Call.rounds_loop hbegin] at hj
      cases hv : (answers k).verdict with
      | ends err => exact absurd ⟨err, hv⟩ (hnone k hk)
      | again => rfl
      | uncounted => exact absurd (Answers.verdict_uncounted.mp hv).1 (ih k hk j hj)
    have hlimit : n < ALLOCATION_ATTEMPTS := by
      rw [Attempts.after_of_again hagain, Attempts.enter] at hc
      by_contra hn
      rw [if_neg hn] at hc
      cases hc
    exact h n hlimit hnone

/-- Where an id is negotiated the call's observer is in the map when it returns. -/
theorem Call.registered_of_not_noId {c : Call} {answers : Nat → Answers} {n : Nat} {err : CSError}
    (hbegin : c.loop = .enter ALLOCATION_ATTEMPTS .attemptsLimitExceeded 0)
    (hend : (c.rounds answers n).loop = .ended err) (h : ¬ NoId answers) :
    (c.rounds answers n).tube.observerMap channel = some c.obs := by
  by_contra hmap
  refine h fun k hk hfirst hnegotiated => hmap ?_
  obtain ⟨i, hat⟩ := trying_first hbegin hk hfirst
  have hkn : k < n := by
    by_contra hle
    rw [rounds_of_le hend (Nat.le_of_not_lt hle), hend] at hat
    cases hat
  exact rounds_registered hkn hat hnegotiated

namespace Tube

variable {s : Tube} {observer : Option TubeObserver} {tag : Tag} {answers : Nat → Answers}
  {n : Nat} {r : Returned}

theorem beginAllocation_error {err : CSError} (h : s.beginAllocation observer tag = .error err) :
    (tag = [] ∨ observer = none) ∧ err = .errorOther := by
  unfold beginAllocation at h
  split at h
  · cases h
    exact ⟨Or.inl ‹_›, rfl⟩
  · cases observer with
    | none => cases h; exact ⟨Or.inr rfl, rfl⟩
    | some o => cases h

theorem beginAllocation_ok {c : Call} (h : s.beginAllocation observer tag = .ok c) :
    ∃ o, observer = some o ∧ tag ≠ [] ∧ c.tube = s.newObserver o ∧ c.obs = s.created ∧
      c.loop = .enter ALLOCATION_ATTEMPTS .attemptsLimitExceeded 0 := by
  unfold beginAllocation at h
  split at h
  · cases h
  · cases observer with
    | none => cases h
    | some o =>
      cases h
      exact ⟨o, rfl, ‹_›, rfl, rfl, rfl⟩

theorem allocateChannel_error {err : CSError} (hb : s.beginAllocation observer tag = .error err) :
    s.allocateChannel observer tag answers n = some ⟨s, none, err⟩ := by
  rw [allocateChannel, hb]

/-- The call has returned when its loop has ended. -/
theorem allocateChannel_ok {c : Call} (hb : s.beginAllocation observer tag = .ok c) :
    s.allocateChannel observer tag answers n = some r ↔
      (c.rounds answers n).loop = .ended r.err ∧ r.tube = (c.rounds answers n).tube ∧
        r.channelId = some (c.rounds answers n).channelId := by
  rw [allocateChannel, hb]
  cases hc : (c.rounds answers n).loop with
  | trying i => simp only [hc, reduceCtorEq, false_and]
  | ended err =>
    obtain ⟨tube, channelId, err'⟩ := r
    simp only [hc, Option.some.injEq, Returned.mk.injEq, Attempts.ended.injEq]
    constructor
    · intro ⟨ht, hid, herr⟩
      exact ⟨herr, ht.symm, hid.symm⟩
    · intro ⟨herr, ht, hid⟩
      exact ⟨ht.symm, hid.symm, herr⟩

theorem allocateChannel_of_ended {c : Call} {channelId : UInt32} {err : CSError}
    (hb : s.beginAllocation observer tag = .ok c) (hend : (c.rounds answers n).loop = .ended err)
    (hid : (c.rounds answers n).channelId = channelId) :
    s.allocateChannel observer tag answers n =
      some ⟨(c.rounds answers n).tube, some channelId, err⟩ :=
  (allocateChannel_ok hb).mpr ⟨hend, rfl, congrArg some hid.symm⟩

/-- The channel of the call is open, for the observer that it has made. -/
def Allocated (s : Tube) (r : Returned) : Prop :=
  ∃ channelId, r.channelId = some channelId ∧ channelId ≠ 0 ∧
    r.tube.channels channelId = some s.created

theorem allocated_of_open {tube : Tube} {channelId : UInt32} {err : CSError}
    (h : channelId ≠ 0 ∧ tube.channels channelId = some s.created) :
    s.Allocated ⟨tube, some channelId, err⟩ :=
  ⟨channelId, rfl, h⟩

/-- The call returns after at most `ALLOCATION_ATTEMPTS` rounds, with an error if it has not
allocated a channel. -/
def GivesUp (s : Tube) (observer : Option TubeObserver) (tag : Tag) (answers : Nat → Answers) :
    Prop :=
  ∃ r, s.allocateChannel observer tag answers ALLOCATION_ATTEMPTS = some r ∧
    (r.err = .noError → s.Allocated r)

/-- An answer ends the call in time, and it is not the id 0 without an error. -/
def EndsInTime (answers : Nat → Answers) : Prop :=
  ∃ n, n < ALLOCATION_ATTEMPTS ∧ (answers n).verdict.Ends ∧ ¬ (answers n).Empty ∧
    ∀ k, k < n → ¬ (answers k).verdict.Ends

/-- **Allocations give up in time** exactly if an answer ends the call, other than with the
id 0 and no error, or all of the first hundred count as attempts. -/
theorem gives_up_iff : s.GivesUp observer tag answers ↔
    tag = [] ∨ observer = none ∨ EndsInTime answers ∨
      ∀ n, n < ALLOCATION_ATTEMPTS → (answers n).verdict = .again := by
  cases hb : s.beginAllocation observer tag with
  | error err =>
    obtain ⟨hrefused, rfl⟩ := beginAllocation_error hb
    have hgives : s.GivesUp observer tag answers :=
      ⟨_, allocateChannel_error hb, fun h => absurd h (by simp)⟩
    rcases hrefused with htag | hobserver
    · exact iff_of_true hgives (Or.inl htag)
    · exact iff_of_true hgives (Or.inr (Or.inl hobserver))
  | ok c =>
    obtain ⟨o, hobserver, htag, htube, hobs, hbegin⟩ := beginAllocation_ok hb
    constructor
    · intro ⟨r, hr, hallocated⟩
      obtain ⟨hend, -, hid⟩ := (allocateChannel_ok hb).mp hr
      have hend' := hend
      rw [Call.rounds_loop hbegin, Attempts.after_limit_iff] at hend'
      refine Or.inr (Or.inr ?_)
      rcases hend' with ⟨n, hn, hv, hfirst⟩ | ⟨-, hall⟩
      · refine Or.inl ⟨n, hn, ⟨r.err, hv⟩, ?_, hfirst⟩
        -- with the id 0 there is no channel, but the error says that there is
        intro hempty
        have herr : r.err = .noError := by
          have h := hv.symm.trans hempty.verdict
          exact Verdict.ends.inj h
        obtain ⟨channelId, hchannelId, hne, -⟩ := hallocated herr
        rw [Call.rounds_first hbegin hn hfirst hv, Call.first_channelId hbegin hn hfirst,
          hempty.1] at hid
        rw [hid] at hchannelId
        exact hne (Option.some.inj hchannelId).symm
      · exact Or.inr hall
    · intro h
      rcases h with h | h | h | h
      · exact absurd h htag
      · rw [hobserver] at h
        cases h
      · obtain ⟨n, hn, ⟨err, hv⟩, hempty, hfirst⟩ := h
        have hlast := Call.rounds_first hbegin hn hfirst hv
        have hend : (c.rounds answers ALLOCATION_ATTEMPTS).loop = .ended err := by
          rw [Call.rounds_loop hbegin, Attempts.after_limit_iff]
          exact Or.inl ⟨n, hn, hv, hfirst⟩
        have hid : (c.rounds answers ALLOCATION_ATTEMPTS).channelId = (answers n).channelId := by
          rw [hlast, Call.first_channelId hbegin hn hfirst]
        have htube : (c.rounds answers ALLOCATION_ATTEMPTS).tube =
            ((c.rounds answers n).attempt (answers n)).tube := by
          rw [hlast, Call.first_tube hbegin hn hfirst]
        have hopen : err = .noError → (answers n).channelId ≠ 0 ∧
            (c.rounds answers ALLOCATION_ATTEMPTS).tube.channels (answers n).channelId =
              some s.created := by
          intro herr
          subst herr
          obtain ⟨hnegotiated, hca⟩ := (Answers.ends_noError hv).resolve_right hempty
          rw [htube, Call.attempt, if_pos hnegotiated, if_pos hca, ← hobs,
            ← Call.rounds_obs (c := c) (n := n)]
          exact ⟨hnegotiated.1, Function.update_self _ _ _⟩
        exact ⟨_, allocateChannel_of_ended hb hend hid, fun herr => allocated_of_open (hopen herr)⟩
      · have hend : (c.rounds answers ALLOCATION_ATTEMPTS).loop = .ended .attemptsLimitExceeded := by
          rw [Call.rounds_loop hbegin, Attempts.after_limit_iff]
          exact Or.inr ⟨rfl, h⟩
        have herr : CSError.attemptsLimitExceeded ≠ .noError := by decide
        exact ⟨_, allocateChannel_of_ended hb hend rfl, fun h => absurd h herr⟩

/-- The agent says, again and again, that the negotiated channel is busy. -/
theorem busy_never_gives_up : ¬ Tube.init.GivesUp (some 0) ['t'] fun _ =>
    ⟨.noError, 100, .channelBusy, .noError⟩ := by
  intro ⟨r, hr, _⟩
  have hend := ((allocateChannel_ok rfl).mp hr).1
  rw [Call.rounds_loop rfl, Attempts.after_limit_iff] at hend
  have hv : (⟨.noError, 100, .channelBusy, .noError⟩ : Answers).verdict = .uncounted := rfl
  rw [hv] at hend
  rcases hend with ⟨_, _, h, _⟩ | ⟨_, hall⟩
  · cases h
  · exact absurd (hall 0 (by decide)) (by simp)

/-- The call has taken back what it did: the agent has the channels that it had, and the
observers are registered as they were. -/
def LeaksNothing (s : Tube) (r : Returned) : Prop :=
  (∀ channelId, r.tube.channels channelId = s.channels channelId) ∧
    r.tube.observerMap = s.observerMap

/-- **A call that fails leaks nothing** exactly if it was refused or has not got as far as an
id, and the same holds of any call that returns. -/
theorem leaks_nothing_iff (h : s.allocateChannel observer tag answers n = some r) :
    s.LeaksNothing r ↔ tag = [] ∨ observer = none ∨ NoId answers := by
  cases hb : s.beginAllocation observer tag with
  | error err =>
    obtain ⟨hrefused, rfl⟩ := beginAllocation_error hb
    have hr : ⟨s, none, .errorOther⟩ = r :=
      Option.some.inj ((allocateChannel_error hb).symm.trans h)
    have hleaks : s.LeaksNothing r := by
      subst hr
      exact ⟨fun _ => rfl, rfl⟩
    rcases hrefused with htag | hobserver
    · exact iff_of_true hleaks (Or.inl htag)
    · exact iff_of_true hleaks (Or.inr (Or.inl hobserver))
  | ok c =>
    obtain ⟨o, hobserver, htag, htube, hobs, hbegin⟩ := beginAllocation_ok hb
    obtain ⟨hend, hrtube, -⟩ := (allocateChannel_ok hb).mp h
    constructor
    · intro ⟨_, hmap⟩
      refine Or.inr (Or.inr ?_)
      by_contra hid
      -- the observer in the map is the call's own, which no map has had before
      have hreg := Call.registered_of_not_noId hbegin hend hid
      rw [← hrtube, hmap, hobs] at hreg
      exact Nat.lt_irrefl _ (s.made _ _ hreg)
    · intro h
      rcases h with h | h | h
      · exact absurd h htag
      · rw [hobserver] at h
        cases h
      · have hkept : r.tube = s.newObserver o := by
          rw [hrtube, Call.rounds_tube (h.not_negotiated hbegin), htube]
        rw [LeaksNothing, hkept]
        exact ⟨fun _ => rfl, rfl⟩

theorem leaks_nothing_timeout : ∃ r,
    Tube.init.allocateChannel (some 0) ['t'] (fun _ => ⟨.errorTimeout, 0, .other, .errorOther⟩) 1 =
      some r ∧ r.err = .errorTimeout ∧ Tube.init.LeaksNothing r := by
  have hnoId : NoId fun _ => ⟨.errorTimeout, 0, .other, .errorOther⟩ :=
    fun _ _ _ hnegotiated => hnegotiated.1 rfl
  have hr : Tube.init.allocateChannel (some 0) ['t']
    (fun _ => ⟨.errorTimeout, 0, .other, .errorOther⟩) 1 = some _ := rfl
  exact ⟨_, hr, rfl, (leaks_nothing_iff hr).mpr (Or.inr (Or.inr hnoId))⟩

/-- The channel is open when the negotiator does not answer to its report: the call fails, and
the channel stays open. -/
theorem unreported_channel_leaks : ∃ r,
    Tube.init.allocateChannel (some 0) ['t'] (fun _ => ⟨.noError, 100, .noError, .errorTimeout⟩) 1 =
      some r ∧ r.err = .errorTimeout ∧ Tube.init.channels 100 = none ∧
      r.tube.channels 100 = some 0 :=
  ⟨_, rfl, rfl, rfl, rfl⟩

end Tube

end IviLink.ChannelSupervisor
