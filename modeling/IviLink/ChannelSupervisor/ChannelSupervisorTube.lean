import IviLink.Common.Types
import IviLink.ChannelSupervisor.Map
import IviLink.Lib.Attempts

/-!
# The tube of the channel supervisor

What a client does to allocate a channel (`ChannelSupervisorTube.cpp`): it negotiates an
id, has the connectivity agent open the channel of that id and reports the id to the
negotiator, in up to `ALLOCATION_ATTEMPTS` rounds. The agent is given a `ChannelObserver`,
which the tube also keeps in a map. What the two services answer is up to them.
-/

namespace IviLink.ChannelSupervisor

open IviLink.Lib

/-- What the channel supervisor's operations return: no error, or one of
`CSError::eCodes`. -/
inductive CSError
  | noError
  | errorOther
  | errorTimeout
  | ipcNoDataError
  | negotiationChannelError
  | negotiationChannelTimeout
  | noFreeCidInMap
  | updateMapTimeout
  | updateMapError
  | deallocationChannelMapTimeout
  | deallocationChannelMapError
  | deallocationChannelMapWrongCid
  | updateMapWrongCid
  | attemptsLimitExceeded
  | allocationAlreadyInProgress
  | sendToRestrictedChannel
  | sendToNotExistingChannel
  | updateChannelMapWrongCid
  | updateChannelMapTimeout
  | updateChannelMapError
  deriving DecidableEq, Repr

/-- An observer that the application has given, by its number. -/
abbrev TubeObserver := Nat

/-- `ChannelObserver` -/
structure ChannelObserver where
  m_tubeObserver : Option TubeObserver
  deriving DecidableEq, Repr

def ALLOCATION_ATTEMPTS : Nat := 100

/-- The key that observers are registered under, `static int channel`. -/
def channel : Int32 := 0

/-- What the services answer in a round: the negotiator, with the id that it leaves, the
agent, and the negotiator when the id is reported. -/
structure Answers where
  negotiated : CSError
  channelId : UInt32
  allocated : ConnectivityAgentError
  updated : CSError
  deriving DecidableEq, Repr

namespace Answers

/-- The negotiation has given an id. -/
def Negotiated (a : Answers) : Prop := a.channelId ≠ 0 ∧ a.negotiated = .noError

instance (a : Answers) : Decidable a.Negotiated :=
  inferInstanceAs (Decidable (a.channelId ≠ 0 ∧ a.negotiated = .noError))

/-- How the body of the `while` loop goes on: a `break` with an error, the end of the body,
where the attempt is counted, or for a channel that is busy a `continue`. -/
def verdict (a : Answers) : Verdict CSError :=
  if a.Negotiated then
    match a.allocated with
    | .noError =>
      match a.updated with
      | .updateMapWrongCid => .again
      | err => .ends err
    | .channelBusy => .uncounted
    | .allocationInProgress => .ends .allocationAlreadyInProgress
    | .requestFailed => .ends .ipcNoDataError
    | _ => .ends .errorOther
  else if a.negotiated = .negotiationChannelError then
    .again
  else
    .ends a.negotiated

end Answers

/-- The tube, with the agent's channels. Observers are numbered as they are made. -/
structure Tube where
  observerMap : Int32 → Option Nat
  observers : Nat → Option ChannelObserver
  created : Nat
  /-- The channels that are open, with the observer that each was allocated with. -/
  channels : UInt32 → Option Nat
  made : ∀ key obs, observerMap key = some obs → obs < created

/-- A call of `allocateChannel`, with its observer. -/
structure Call where
  tube : Tube
  obs : Nat
  made : obs < tube.created
  channelId : UInt32
  loop : Attempts CSError

/-- What a call of `allocateChannel` has left when it returns. -/
structure Returned where
  tube : Tube
  /-- `none` where the caller's variable is not set. -/
  channelId : Option UInt32
  err : CSError

namespace Tube

def init : Tube where
  observerMap := fun _ => none
  observers := fun _ => none
  created := 0
  channels := fun _ => none
  made := fun _ _ h => absurd h.symm (Option.some_ne_none _)

/-- `new ChannelObserver(observer)` -/
def newObserver (s : Tube) (observer : TubeObserver) : Tube :=
  { s with
    observers := Function.update s.observers s.created (some ⟨some observer⟩)
    created := s.created + 1
    made := fun key obs h => Nat.lt_succ_of_lt (s.made key obs h) }

/-- `isIdRestricted` -/
def isIdRestricted (numberToCheck : UInt32) : Bool := numberToCheck < CHANNEL_ID_START_NUMBER

end Tube

namespace Call

/-- `observerMap[channel] = obs` -/
def register (c : Call) : Call :=
  { c with
    tube := { c.tube with
      observerMap := Function.update c.tube.observerMap channel (some c.obs)
      made := fun key obs h => by
        by_cases hk : key = channel
        · subst hk
          rw [Function.update_self] at h
          exact Option.some.inj h ▸ c.made
        · rw [Function.update_of_ne hk] at h
          exact c.tube.made key obs h }
    made := c.made }

/-- The agent opens the channel for the call's observer. -/
def openChannel (c : Call) (channelId : UInt32) : Call :=
  { c with
    tube := { c.tube with
      channels := Function.update c.tube.channels channelId (some c.obs) }
    made := c.made }

/-- What the body of the `while` loop leaves behind: the observer is registered before the
agent is asked. -/
def attempt (c : Call) (a : Answers) : Call :=
  if a.Negotiated then
    if a.allocated = .noError then c.register.openChannel a.channelId else c.register
  else
    c

/-- One round of the loop, if the call is still in it. -/
def round (c : Call) (a : Answers) : Call :=
  match c.loop with
  | .ended _ => c
  | .trying _ =>
    { c.attempt a with
      channelId := a.channelId
      loop := c.loop.round ALLOCATION_ATTEMPTS .attemptsLimitExceeded a.verdict }

/-- The call after `n` rounds. -/
def rounds (c : Call) (answers : Nat → Answers) : Nat → Call
  | 0 => c
  | n + 1 => (c.rounds answers n).round (answers n)

end Call

namespace Tube

/-- `allocateChannel` up to the head of its loop: the error, or the call. -/
def beginAllocation (s : Tube) (observer : Option TubeObserver) (tag : Tag) :
    Except CSError Call :=
  if tag = [] then
    .error .errorOther
  else
    match observer with
    | none => .error .errorOther
    | some observer => .ok {
        tube := s.newObserver observer
        obs := s.created
        made := Nat.lt_succ_self s.created
        channelId := 0
        loop := .enter ALLOCATION_ATTEMPTS .attemptsLimitExceeded 0 }

/-- `allocateChannel`, if it returns within `n` rounds. -/
def allocateChannel (s : Tube) (observer : Option TubeObserver) (tag : Tag)
    (answers : Nat → Answers) (n : Nat) : Option Returned :=
  match s.beginAllocation observer tag with
  | .error err => some ⟨s, none, err⟩
  | .ok call =>
    match (call.rounds answers n).loop with
    | .trying _ => none
    | .ended err =>
      some ⟨(call.rounds answers n).tube, some (call.rounds answers n).channelId, err⟩

/-- The agent closes the channel. -/
def closeChannel (s : Tube) (channelId : UInt32) : Tube :=
  { s with channels := Function.update s.channels channelId none }

/-- `delete obs; observerMap.erase(it)` -/
def erase (s : Tube) (key : Int32) (obs : Nat) : Tube :=
  { s with
    observerMap := Function.update s.observerMap key none
    observers := Function.update s.observers obs none
    made := fun key' obs' h => by
      by_cases hk : key' = key
      · subst hk
        rw [Function.update_self] at h
        cases h
      · rw [Function.update_of_ne hk] at h
        exact s.made key' obs' h }

/-- `deallocateChannel`, with the agent's answer. The key of the map is an `int`. -/
def deallocateChannel (s : Tube) (channelId : UInt32) (closed : ConnectivityAgentError) :
    Tube × CSError :=
  if isIdRestricted channelId then
    (s, .errorOther)
  else if closed = .requestFailed then
    (s, .ipcNoDataError)
  else
    let s' := if closed = .noError then s.closeChannel channelId else s
    match s'.observerMap channelId.toInt32 with
    | some obs => (s'.erase channelId.toInt32 obs, .noError)
    | none => (s', .noError)

/-- The agent gives up a channel and calls `ChannelObserver::channelDeletedCallback` of the
observer that it was allocated with. -/
def channelDeletedCallback (s : Tube) (channelId : UInt32) : Tube :=
  match s.channels channelId with
  | none => s
  | some obs =>
    { s.closeChannel channelId with
      observers := Function.update s.observers obs
        ((s.observers obs).map fun o => { o with m_tubeObserver := none }) }

end Tube

/-- What happens to a tube: calls that succeed, with the answers of the services, and callbacks
of the agent. -/
inductive TubeEvent
  | allocateChannel (observer : TubeObserver) (tag : Tag) (answers : Nat → Answers) (n : Nat)
  | deallocateChannel (channelId : UInt32) (closed : ConnectivityAgentError)
  | channelDeletedCallback (channelId : UInt32)

/-- `none` where the call does not succeed. -/
def Tube.next (s : Tube) : TubeEvent → Option Tube
  | .allocateChannel observer tag answers n =>
    match s.allocateChannel (some observer) tag answers n with
    | none => none
    | some r => if r.err = .noError then some r.tube else none
  | .deallocateChannel channelId closed =>
    if (s.deallocateChannel channelId closed).2 = .noError then
      some (s.deallocateChannel channelId closed).1
    else
      none
  | .channelDeletedCallback channelId => some (s.channelDeletedCallback channelId)

end IviLink.ChannelSupervisor
