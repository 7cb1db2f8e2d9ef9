import IviLink.L0.CTransmitDispatcher
import IviLink.Lib.Run

/-!
# The transmit side

The dispatcher with everybody who works on it: its own thread, the threads that
open and close channels, the producers, and the carrier's thread that brings ACKs.
An action is one section between two locks; `closeChannel` is two of them, and
between its halves anything may happen that the locks allow.

The rest of the state is ghost. It keeps what producers have written, every frame a
source has filled and what became of it, and which channels are closed right now.
-/

namespace IviLink.L0

open IviLink.Hal

structure Transmit where
  disp : CTransmitDispatcher
  /-- Calls of `closeChannel` that have purged the queue and not yet removed the source. -/
  closing : List UInt32
  /-- Every frame `OnDispatch` has filled, by the address of its source. -/
  produced : List (Nat × Frame)
  /-- Frames the carrier took when they were first given to it. -/
  carried : List (Nat × Frame)
  /-- Frames it did not take. -/
  refused : List Frame
  /-- Frames that left the queue for an ACK. -/
  acked : List Frame
  /-- Frames that left the queue because their channel was closed. -/
  purged : List Frame
  /-- Frames that left the queue with a timeout reported. -/
  timedOut : List Frame
  /-- Whether `closeChannel` has returned and `openChannel` was not called since. -/
  closed : UInt32 → Bool
  /-- The frames in the queue, in its order, with the addresses of their sources. -/
  queued : List (Nat × Frame)
  /-- What was written to each channel. -/
  written : UInt32 → List UInt8

namespace Transmit

def init : Transmit where
  disp := .init
  closing := []
  produced := []
  carried := []
  refused := []
  acked := []
  purged := []
  timedOut := []
  closed := fun _ => false
  queued := []
  written := fun _ => []

/-- `true` for the frame an ACK is for. -/
def isFrame (channel_id number : UInt32) (x : Nat × Frame) : Bool :=
  x.2.channel_id = channel_id && x.2.number = number

inductive Action
  | openChannel (channel_id : UInt32) (prio : TChannelPriority)
  /-- `closeChannel` begins: `deleteFramesForChannel`. -/
  | purge (channel_id : UInt32)
  /-- `closeChannel` goes on to the registry and returns. -/
  | remove (channel_id : UInt32)
  | consumeBuffer (address : Nat) (b : Buffer)
  | flushBuffers (address : Nat)
  /-- An ACK arrives. -/
  | dequeue (channel_id number : UInt32) (now : Timespec)
  /-- The next step of the dispatcher's thread. -/
  | thread (env : CTransmitDispatcher.Env)

/-- What a step of the thread adds to the records. -/
def record (t : Transmit) : CTransmitDispatcher.Effect → Transmit
  | .none => t
  | .produced address frame _ => { t with produced := t.produced ++ [(address, frame)] }
  | .sent address frame result =>
    if result.isNoError then
      { t with
        carried := t.carried ++ [(address, frame)]
        queued := t.queued ++ [(address, frame)] }
    else { t with refused := t.refused ++ [frame] }
  | .resent frame report =>
    if report = .timeout then
      { t with timedOut := t.timedOut ++ [frame], queued := t.queued.tail }
    else { t with queued := t.queued.tail ++ t.queued.head?.toList }

@[simp] theorem record_disp (t : Transmit) (effect : CTransmitDispatcher.Effect) :
    (t.record effect).disp = t.disp := by
  cases effect with
  | sent _ _ result => rw [record]; split <;> rfl
  | resent _ report => rw [record]; split <;> rfl
  | _ => rfl

/-- One action; `none` when it is not enabled or an assertion fails. -/
def step (t : Transmit) : Action → Option Transmit
  | .openChannel channel_id prio =>
    if t.disp.pc = .idle then
      some { t with
        disp := (t.disp.openChannel channel_id prio).1
        closed := Function.update t.closed channel_id false }
    else none
  | .purge channel_id =>
    some { t with
      disp := t.disp.purge channel_id
      closing := channel_id :: t.closing
      purged := t.purged ++ t.disp.mpTransmittedFrameQueue.framesOf channel_id
      queued := t.queued.filter fun x => x.2.channel_id ≠ channel_id }
  | .remove channel_id =>
    if t.disp.pc = .idle ∧ channel_id ∈ t.closing then
      some { t with
        disp := (t.disp.remove channel_id).1
        closing := t.closing.erase channel_id
        closed := Function.update t.closed channel_id true }
    else none
  | .consumeBuffer address b =>
    match t.disp.sourceAt address with
    | none => none
    | some p =>
      some { t with
        disp := t.disp.atSource address fun s => (s.consumeBuffer (some b)).1
        written := Function.update t.written p.source.mChannelID
          (t.written p.source.mChannelID ++ b.data) }
  | .flushBuffers address =>
    match t.disp.sourceAt address with
    | none => none
    | some _ => some { t with disp := t.disp.atSource address fun s => s.flushBuffers.1 }
  | .dequeue channel_id number now =>
    match t.disp.mpTransmittedFrameQueue.dequeue channel_id number now with
    | none => none
    | some (q, _) =>
      some { t with
        disp := { t.disp with mpTransmittedFrameQueue := q }
        acked := t.acked ++
          (t.disp.mpTransmittedFrameQueue.find channel_id number).toList
        queued := t.queued.eraseP (isFrame channel_id number) }
  | .thread env =>
    match t.disp.threadStep env with
    | none => none
    | some (d, effect) => some ({ t with disp := d }.record effect)

/-- The actions that are enabled, each with its successor. -/
inductive Steps (t : Transmit) : Action → Transmit → Prop
  | openChannel {channel_id prio} : t.disp.pc = .idle →
      Steps t (.openChannel channel_id prio) { t with
        disp := (t.disp.openChannel channel_id prio).1
        closed := Function.update t.closed channel_id false }
  | purge {channel_id} :
      Steps t (.purge channel_id) { t with
        disp := t.disp.purge channel_id
        closing := channel_id :: t.closing
        purged := t.purged ++ t.disp.mpTransmittedFrameQueue.framesOf channel_id
        queued := t.queued.filter fun x => x.2.channel_id ≠ channel_id }
  | remove {channel_id} : t.disp.pc = .idle → channel_id ∈ t.closing →
      Steps t (.remove channel_id) { t with
        disp := (t.disp.remove channel_id).1
        closing := t.closing.erase channel_id
        closed := Function.update t.closed channel_id true }
  | consumeBuffer {address b p} : t.disp.sourceAt address = some p →
      Steps t (.consumeBuffer address b) { t with
        disp := t.disp.atSource address fun s => (s.consumeBuffer (some b)).1
        written := Function.update t.written p.source.mChannelID
          (t.written p.source.mChannelID ++ b.data) }
  | flushBuffers {address} :
      Steps t (.flushBuffers address)
        { t with disp := t.disp.atSource address fun s => s.flushBuffers.1 }
  | dequeue {channel_id number now q time} :
      t.disp.mpTransmittedFrameQueue.dequeue channel_id number now = some (q, time) →
      Steps t (.dequeue channel_id number now) { t with
        disp := { t.disp with mpTransmittedFrameQueue := q }
        acked := t.acked ++ (t.disp.mpTransmittedFrameQueue.find channel_id number).toList
        queued := t.queued.eraseP (isFrame channel_id number) }
  | thread {env d effect} : t.disp.StepCases env d effect →
      Steps t (.thread env) ({ t with disp := d }.record effect)

theorem step_cases {t t' : Transmit} {a : Action} (h : t.step a = some t') : Steps t a t' := by
  cases a with
  | openChannel channel_id prio =>
    rw [step] at h
    split at h
    · rename_i hidle
      obtain rfl := Option.some.inj h
      exact .openChannel hidle
    · exact absurd h (by simp)
  | purge channel_id =>
    obtain rfl := Option.some.inj h
    exact .purge
  | remove channel_id =>
    rw [step] at h
    split at h
    · rename_i hpre
      obtain rfl := Option.some.inj h
      exact .remove hpre.1 hpre.2
    · exact absurd h (by simp)
  | consumeBuffer address b =>
    rw [step] at h
    split at h
    · exact absurd h (by simp)
    · rename_i p hp
      obtain rfl := Option.some.inj h
      exact .consumeBuffer hp
  | flushBuffers address =>
    rw [step] at h
    split at h
    · exact absurd h (by simp)
    · obtain rfl := Option.some.inj h
      exact .flushBuffers
  | dequeue channel_id number now =>
    rw [step] at h
    split at h
    · exact absurd h (by simp)
    · rename_i q time hq
      obtain rfl := Option.some.inj h
      exact .dequeue hq
  | thread env =>
    rw [step] at h
    split at h
    · exact absurd h (by simp)
    · rename_i d effect hstep
      obtain rfl := Option.some.inj h
      exact .thread (CTransmitDispatcher.threadStep_cases hstep)

/-- The carrier takes what it is given, at a time when nothing is due again. -/
def takes : CTransmitDispatcher.Env := ⟨.noError, .ms 0 Timespec.start_lt, .ms 0 Timespec.start_lt⟩

end Transmit

end IviLink.L0
