import IviLink.Hal.Frame
import IviLink.Lib.Numbering

/-!
# `CSource`

The sending end of a channel: a queue of buffers that a producer has filled, cut
into frames one `OnDispatch` at a time. A buffer that is not copied as a whole
stays at the front of the queue with what is left of it; one that is copied to its
last byte leaves the queue and goes back to the producer.
-/

namespace IviLink.L0

open IviLink.Hal IviLink.Lib

/-- A filled `ConnectivityAgent::Buffer`. Buffers are passed by pointer, so one is known by its
address, whatever it holds. -/
structure Buffer where
  address : Nat
  /-- The first `filled_size` bytes. -/
  data : List UInt8
  deriving DecidableEq, Repr

namespace Buffer

def getFilledSize (b : Buffer) : Nat := b.data.length

/-- Something to send, and no more than a buffer can hold. -/
def Filled (b : Buffer) : Prop := b.data ≠ [] ∧ b.getFilledSize ≤ MAX_SIZE

instance (b : Buffer) : Decidable b.Filled := inferInstanceAs (Decidable (_ ∧ _))

end Buffer

structure CSource where
  mChannelID : UInt32
  mFrameCounter : UInt32
  mBuffersQueue : List Buffer
  deriving DecidableEq, Repr

namespace CSource

/-- The constructor. -/
def new (channel_id : UInt32) : CSource := ⟨channel_id, 1, []⟩

def hasData (s : CSource) : Bool := !s.mBuffersQueue.isEmpty

/-- `CSource::consumeBuffer`, with `none` for a null pointer. -/
def consumeBuffer (s : CSource) : Option Buffer → CSource × ConnectivityAgentError
  | none => (s, .inconsistentData)
  | some b => ({ s with mBuffersQueue := s.mBuffersQueue ++ [b] }, .noError)

/-- `CSource::flushBuffers`, with the buffers that go back to the producer. -/
def flushBuffers (s : CSource) : CSource × List Buffer :=
  ({ s with mBuffersQueue := [] }, s.mBuffersQueue)

/-- The header `CopyToFrame` leaves in the frame it fills. -/
def nextHeader (s : CSource) (copySize : Nat) : FrameHeader :=
  FrameHeader.setSize ⟨0, s.mChannelID, s.mFrameCounter⟩ copySize

/-- How much of a buffer goes into one frame. -/
def copySize (b : Buffer) (quote : Nat) : Nat :=
  if b.getFilledSize ≤ quote then b.getFilledSize else quote

/-- `CSource::CopyToFrame` on the buffer at the front of the queue: the frame, the queue, and
the buffers it releases. -/
def CopyToFrame (s : CSource) (b : Buffer) (rest : List Buffer) (quote : Nat) :
    CSource × Frame × List Buffer :=
  let copy_size := copySize b quote
  let frame : Frame := ⟨s.nextHeader copy_size, b.data.take copy_size⟩
  let s := { s with mFrameCounter := s.mFrameCounter + 1 }
  if b.getFilledSize ≤ quote then
    ({ s with mBuffersQueue := rest }, frame, [b])
  else
    -- only the not-copied data is left
    ({ s with mBuffersQueue := { b with data := b.data.drop copy_size } :: rest }, frame, [])

/-- `CSource::OnDispatch`: the frame it fills and the buffers it returns to the producer, or
`none` for `ERROR_INCONSISTENT_DATA`, the queue being empty. -/
def OnDispatch (s : CSource) (quote : Nat) : Option (CSource × Frame × List Buffer) :=
  match s.mBuffersQueue with
  | [] => none
  | b :: rest => some (s.CopyToFrame b rest quote)

/-- The number of the next frame goes up by one, whatever is copied. -/
theorem OnDispatch_counter {s s' : CSource} {quote : Nat} {frame : Frame}
    {released : List Buffer} (h : s.OnDispatch quote = some (s', frame, released)) :
    frame.number = s.mFrameCounter ∧ s'.mFrameCounter = s.mFrameCounter + 1
      ∧ frame.channel_id = s.mChannelID ∧ s'.mChannelID = s.mChannelID ∧ frame.isACK = false := by
  have hack : ∀ n : UInt16, (n &&& 0x7fff) &&& 0x8000 = 0 := by
    intro n
    rw [UInt16.and_assoc]
    exact UInt16.and_zero
  rw [OnDispatch] at h
  split at h
  · exact absurd h (by simp)
  · injection h with h
    simp only [CopyToFrame] at h
    split at h
    all_goals
      injection h with hs h
      injection h with hf _
      subst hs hf
      exact ⟨rfl, rfl, rfl, rfl, by simp [Frame.isACK, FrameHeader.isACK, nextHeader,
        FrameHeader.setSize, hack]⟩

end CSource

end IviLink.L0
