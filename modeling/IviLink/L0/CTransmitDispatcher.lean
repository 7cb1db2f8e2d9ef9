import IviLink.L0.CSource
import IviLink.L0.CTransmittedFramesQueue

/-!
# `CTransmitDispatcher`

The registry of open sources and the thread that serves them. A pass of the
thread goes through the priorities, and through the sources of each: a source
with data fills a frame, the frame is sent and, if the carrier took it, put into
the retransmission queue. At the end of each priority the frames that have waited
too long are sent again.

The thread is a program counter and a step function, a step being one section
between two points where another thread can come in. The registry is locked from
the first step of a pass to the last, so channels are opened and removed only
while the thread is `idle`; the queues of the sources and the retransmission
queue have locks of their own and change between any two steps.

A `CSource` is known by its address, since a channel id says nothing about which
opening of the channel is meant.
-/

namespace IviLink.L0

open IviLink.Hal

/-- A `CSource*` in the registry. -/
structure SourcePtr where
  address : Nat
  source : CSource
  deriving DecidableEq, Repr

/-- `true` for the sources of a channel. -/
def SourcePtr.isOf (channel_id : UInt32) (p : SourcePtr) : Bool := p.source.mChannelID = channel_id

/-- Where `threadFunc` is. `i` is the priority and `iter` the place in its list. -/
inductive Pc
  /-- Waiting for the event; the registry is not locked. -/
  | idle
  /-- At the head of the loop over the sources. -/
  | source (i : TChannelPriority) (iter : Nat)
  /-- The source has data: is it its turn? -/
  | turn (i : TChannelPriority) (iter : Nat)
  /-- About to call `OnDispatch`. -/
  | dispatch (i : TChannelPriority) (iter : Nat)
  /-- With the frame that `*iter`, at this address, has filled. -/
  | send (i : TChannelPriority) (iter : Nat) (address : Nat) (frame : Frame)
  /-- The frame is gone: on to the next source, or out of the loop? -/
  | sent (i : TChannelPriority) (iter : Nat)
  /-- In the retransmission loop. -/
  | retransmit (i : TChannelPriority)
  deriving DecidableEq, Repr

/-- The frame the thread has in hand: filled by the source at this address, not sent yet. -/
def Pc.hand : Pc → List (Nat × Frame)
  | .send _ _ address frame => [(address, frame)]
  | _ => []

structure CTransmitDispatcher where
  mRegistry : TChannelPriority → List SourcePtr
  mpTransmittedFrameQueue : CTransmittedFramesQueue
  pc : Pc
  realTimeMessagesCounter : Nat
  /-- How many sources were made; the address of the next one. -/
  allocated : Nat

namespace CTransmitDispatcher

def init : CTransmitDispatcher := ⟨fun _ => [], .empty, .idle, 0, 0⟩

/-- `getQuoteBySourceType` -/
def getQuoteBySourceType : TChannelPriority → Nat
  | .safetyCritical => 4000
  | .realTime => 4000
  | .plainData => 4000

/-- `realTimeMessagesLimit` -/
def realTimeMessagesLimit : Nat := 2

/-- `hasCertainPriorityData`. The lists are short and their sources only gain data while the
registry is locked, unless a producer flushes, so it is one step here. -/
def hasCertainPriorityData (d : CTransmitDispatcher) (priority : TChannelPriority) : Bool :=
  (d.mRegistry priority).any fun p => p.source.hasData

/-! ## Channels -/

/-- `CTransmitDispatcher::openChannel`. Only the list of the same priority is searched for the
channel. -/
def openChannel (d : CTransmitDispatcher) (channel_id : UInt32) (prio : TChannelPriority) :
    CTransmitDispatcher × ConnectivityAgentError :=
  if (d.mRegistry prio).any (SourcePtr.isOf channel_id) then (d, .channelBusy)
  else
    ({ d with
      mRegistry := Function.update d.mRegistry prio
        (d.mRegistry prio ++ [⟨d.allocated, .new channel_id⟩])
      allocated := d.allocated + 1 }, .noError)

/-- The first half of `closeChannel`, under the lock of the queue. -/
def purge (d : CTransmitDispatcher) (channel_id : UInt32) : CTransmitDispatcher :=
  { d with
    mpTransmittedFrameQueue := d.mpTransmittedFrameQueue.deleteFramesForChannel channel_id }

/-- The lists of the registry one after the other: the first source of the channel in the first
list that has one is deleted. -/
def removeFrom (channel_id : UInt32) (registry : TChannelPriority → List SourcePtr) :
    List TChannelPriority → (TChannelPriority → List SourcePtr) × ConnectivityAgentError
  | [] => (registry, .notFound)
  | i :: is =>
    if (registry i).any (SourcePtr.isOf channel_id) then
      (Function.update registry i ((registry i).eraseP (SourcePtr.isOf channel_id)), .noError)
    else removeFrom channel_id registry is

/-- The second half of `closeChannel`, under the lock of the registry. -/
def remove (d : CTransmitDispatcher) (channel_id : UInt32) :
    CTransmitDispatcher × ConnectivityAgentError :=
  let result := removeFrom channel_id d.mRegistry TChannelPriority.all
  ({ d with mRegistry := result.1 }, result.2)

/-! ## Producers -/

/-- The source at an address, if there is one. -/
def sourceAt (d : CTransmitDispatcher) (address : Nat) : Option SourcePtr :=
  (TChannelPriority.all.flatMap d.mRegistry).find? fun p => p.address = address

theorem sourceAt_some {d : CTransmitDispatcher} {address : Nat} {p : SourcePtr}
    (h : d.sourceAt address = some p) : p.address = address ∧ ∃ i, p ∈ d.mRegistry i := by
  rw [sourceAt] at h
  obtain ⟨i, -, hp⟩ := List.mem_flatMap.mp (List.mem_of_find?_eq_some h)
  exact ⟨by simpa using List.find?_some h, i, hp⟩

/-- Something done to the source at an address. -/
def atSource (d : CTransmitDispatcher) (address : Nat) (f : CSource → CSource) :
    CTransmitDispatcher :=
  { d with mRegistry := fun i => (d.mRegistry i).map fun p =>
      if p.address = address then { p with source := f p.source } else p }

/-! ## The thread -/

/-- What the carrier answers and the clock shows during a step. -/
structure Env where
  /-- The result of `sendFrame`. -/
  sent : ConnectivityAgentError
  now : Timespec
  later : Timespec

/-- What a step does besides changing the state. -/
inductive Effect
  | none
  /-- A source has filled a frame. -/
  | produced (address : Nat) (frame : Frame) (released : List Buffer)
  /-- The frame was given to the carrier for the first time. -/
  | sent (address : Nat) (frame : Frame) (result : ConnectivityAgentError)
  /-- The frame was given to the carrier again, and what then became of it. -/
  | resent (frame : Frame) (report : Report)
  deriving DecidableEq, Repr

/-- The next round of the loop over the priorities, or the end of the pass. -/
def nextPriority : TChannelPriority → Pc
  | .safetyCritical => .source .realTime 0
  | .realTime => .source .plainData 0
  | .plainData => .idle

/-- What follows a frame that was sent: in real-time lists the loop ends after
`realTimeMessagesLimit` frames, in plain-data lists when there is real-time data. -/
def afterSend (d : CTransmitDispatcher) (i : TChannelPriority) (iter : Nat) :
    CTransmitDispatcher :=
  match i with
  | .safetyCritical => { d with pc := .source i (iter + 1) }
  | .realTime =>
    if d.realTimeMessagesCounter < realTimeMessagesLimit - 1 then
      { d with
        realTimeMessagesCounter := d.realTimeMessagesCounter + 1, pc := .source i (iter + 1) }
    else { d with realTimeMessagesCounter := 0, pc := .retransmit i }
  | .plainData =>
    if d.hasCertainPriorityData .realTime then { d with pc := .retransmit i }
    else { d with pc := .source i (iter + 1) }

/-- One step of `threadFunc`; `none` is a failed assertion. -/
def threadStep (d : CTransmitDispatcher) (env : Env) : Option (CTransmitDispatcher × Effect) :=
  match d.pc with
  | .idle => some ({ d with pc := .source .safetyCritical 0 }, .none)
  | .source i iter =>
    match (d.mRegistry i)[iter]? with
    | none => some ({ d with pc := .retransmit i }, .none)
    | some p =>
      if p.source.hasData then some ({ d with pc := .turn i iter }, .none)
      else some ({ d with pc := .source i (iter + 1) }, .none)
  | .turn i iter =>
    if i ≠ .safetyCritical ∧ d.hasCertainPriorityData .safetyCritical then
      some ({ d with pc := .retransmit i }, .none)
    else some ({ d with pc := .dispatch i iter }, .none)
  | .dispatch i iter =>
    match (d.mRegistry i)[iter]? with
    | none => none
    | some p =>
      match p.source.OnDispatch (getQuoteBySourceType i) with
      | none => some ({ d with pc := .source i (iter + 1) }, .none)
      | some (s, frame, released) =>
        some ({ d.atSource p.address (fun _ => s) with pc := .send i iter p.address frame },
          .produced p.address frame released)
  | .send i iter address frame =>
    -- `enqueue` runs only behind a successful `sendFrame`
    let queue := if env.sent.isNoError then d.mpTransmittedFrameQueue.enqueue frame env.now
      else d.mpTransmittedFrameQueue
    some ({ d with mpTransmittedFrameQueue := queue, pc := .sent i iter },
      .sent address frame env.sent)
  | .sent i iter => some (d.afterSend i iter, .none)
  | .retransmit i =>
    match d.mpTransmittedFrameQueue.getFrameToRetransmit env.now with
    | none => none
    | some none => some ({ d with pc := nextPriority i }, .none)
    | some (some frame) =>
      -- whatever `sendFrame` returns, the frame goes back into the queue
      match d.mpTransmittedFrameQueue.reenqueueRetransmittedFrame frame env.later with
      | none => none
      | some (queue, report) =>
        some ({ d with mpTransmittedFrameQueue := queue }, .resent frame report)

/-! ## What a step can do -/

/-- A step that only moves the program counter. -/
structure Quiet (d d' : CTransmitDispatcher) : Prop where
  registry : d'.mRegistry = d.mRegistry
  queue : d'.mpTransmittedFrameQueue = d.mpTransmittedFrameQueue
  allocated : d'.allocated = d.allocated
  hand : d.pc.hand = []
  hand' : d'.pc.hand = []

theorem nextPriority_hand (i : TChannelPriority) : (nextPriority i).hand = [] := by
  cases i <;> rfl

theorem afterSend_quiet {d : CTransmitDispatcher} {i : TChannelPriority} {iter : Nat}
    (h : d.pc = .sent i iter) : Quiet d (d.afterSend i iter) := by
  have hhand : d.pc.hand = [] := by rw [h]; rfl
  cases i with
  | safetyCritical => exact ⟨rfl, rfl, rfl, hhand, rfl⟩
  | realTime =>
    rw [afterSend]
    split <;> exact ⟨rfl, rfl, rfl, hhand, rfl⟩
  | plainData =>
    rw [afterSend]
    split <;> exact ⟨rfl, rfl, rfl, hhand, rfl⟩

/-- The kinds of steps, each with all it changes. -/
inductive StepCases (d : CTransmitDispatcher) (env : Env) : CTransmitDispatcher → Effect → Prop
  | quiet {d'} : Quiet d d' → StepCases d env d' .none
  | produced {i iter p s frame released} : d.pc = .dispatch i iter →
      (d.mRegistry i)[iter]? = some p →
      p.source.OnDispatch (getQuoteBySourceType i) = some (s, frame, released) →
      StepCases d env { d.atSource p.address (fun _ => s) with pc := .send i iter p.address frame }
        (.produced p.address frame released)
  | sent {i iter address frame} : d.pc = .send i iter address frame → env.sent.isNoError = true →
      StepCases d env { d with
        mpTransmittedFrameQueue := d.mpTransmittedFrameQueue.enqueue frame env.now
        pc := .sent i iter } (.sent address frame env.sent)
  | refused {i iter address frame} : d.pc = .send i iter address frame →
      env.sent.isNoError = false →
      StepCases d env { d with pc := .sent i iter } (.sent address frame env.sent)
  | resent {i frame queue report} : d.pc = .retransmit i →
      d.mpTransmittedFrameQueue.getFrameToRetransmit env.now = some (some frame) →
      d.mpTransmittedFrameQueue.reenqueueRetransmittedFrame frame env.later
        = some (queue, report) →
      StepCases d env { d with mpTransmittedFrameQueue := queue } (.resent frame report)

theorem threadStep_cases {d d' : CTransmitDispatcher} {env : Env} {effect : Effect}
    (h : d.threadStep env = some (d', effect)) : StepCases d env d' effect := by
  rw [threadStep] at h
  split at h
  · rename_i hpc
    obtain ⟨rfl, rfl⟩ : _ ∧ _ := by simpa using h
    exact .quiet ⟨rfl, rfl, rfl, by rw [hpc]; rfl, rfl⟩
  · rename_i i iter hpc
    have hhand : d.pc.hand = [] := by rw [hpc]; rfl
    split at h
    · obtain ⟨rfl, rfl⟩ : _ ∧ _ := by simpa using h
      exact .quiet ⟨rfl, rfl, rfl, hhand, rfl⟩
    · split at h
      all_goals
        obtain ⟨rfl, rfl⟩ : _ ∧ _ := by simpa using h
        exact .quiet ⟨rfl, rfl, rfl, hhand, rfl⟩
  · rename_i i iter hpc
    have hhand : d.pc.hand = [] := by rw [hpc]; rfl
    split at h
    all_goals
      obtain ⟨rfl, rfl⟩ : _ ∧ _ := by simpa using h
      exact .quiet ⟨rfl, rfl, rfl, hhand, rfl⟩
  · rename_i i iter hpc
    split at h
    · exact absurd h (by simp)
    · rename_i p hp
      split at h
      · obtain ⟨rfl, rfl⟩ : _ ∧ _ := by simpa using h
        exact .quiet ⟨rfl, rfl, rfl, by rw [hpc]; rfl, rfl⟩
      · rename_i s frame released hs
        obtain ⟨rfl, rfl⟩ : _ ∧ _ := by simpa using h
        exact .produced hpc hp hs
  · rename_i i iter address frame hpc
    dsimp only at h
    split at h
    · rename_i hok
      obtain ⟨rfl, rfl⟩ : _ ∧ _ := by simpa using h
      exact .sent hpc hok
    · rename_i hfail
      obtain ⟨rfl, rfl⟩ : _ ∧ _ := by simpa using h
      exact .refused hpc (by simpa using hfail)
  · rename_i i iter hpc
    obtain ⟨rfl, rfl⟩ : _ ∧ _ := by simpa using h
    exact .quiet (afterSend_quiet hpc)
  · rename_i i hpc
    split at h
    · exact absurd h (by simp)
    · obtain ⟨rfl, rfl⟩ : _ ∧ _ := by simpa using h
      exact .quiet ⟨rfl, rfl, rfl, by rw [hpc]; rfl, nextPriority_hand i⟩
    · rename_i frame hframe
      split at h
      · exact absurd h (by simp)
      · rename_i queue report hre
        obtain ⟨rfl, rfl⟩ : _ ∧ _ := by simpa using h
        exact .resent hpc hframe hre

end CTransmitDispatcher

end IviLink.L0
