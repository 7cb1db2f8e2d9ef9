import IviLink.Ipc.Socket
import IviLink.Lib.Run

/-!
# `CIpc::request` beside the receiving thread

A call of `CIpc::request` holds `mRequestMutex` from its first step to its last,
so one call is in progress at a time. It puts its id and its response buffer in
the container the receiving thread looks into, sends, waits on a semaphore, and
then reads from the container how many bytes the response had. The receiving
thread writes into the buffer while it holds the container's lock, so what the
two threads do is a sequence of steps: those of the call, and the reads of the
socket (`socketReady`).

The semaphore belongs to the call. It is signalled through the container, once
for every response that is complete, and once when the entry is dropped because
its direction was lost.
-/

namespace IviLink.Ipc

open IviLink.Lib

/-- Why a call returns an error. -/
inductive CallError
  /-- "MsgID already exists" -/
  | invalidParams
  /-- Sending failed, or waiting did (`ERROR_RESPONSE_TIMEOUT`, `ERROR_OTHER`). -/
  | notAnswered
  | connectionLost
  deriving DecidableEq, Repr

/-- How far a call has got. -/
inductive Phase
  /-- In the container; it sends and waits on `recvSem`. -/
  | waiting
  /-- `recvSem` was taken. -/
  | woken
  /-- `getData` gave this `bufferSize`, or found nothing. -/
  | took (bufferSize : Option Nat)
  deriving DecidableEq, Repr

/-- The call that holds `mRequestMutex`. -/
structure Call where
  id : MsgId
  /-- `pResponseBuffer` -/
  responseBuffer : Nat
  /-- The size of that buffer, as the caller gave it. -/
  bufferSize : Nat
  phase : Phase
  deriving DecidableEq, Repr

/-- What a call returned: an error, or the size of the response and that much of its buffer. -/
structure Returned where
  id : MsgId
  /-- The size of the response buffer when the call was made. -/
  bufferSize : Nat
  result : Except CallError (Nat × List UInt8)

structure CIpc where
  receiver : Receiver
  /-- The holder of `mRequestMutex`. -/
  call : Option Call
  /-- The ids of all calls so far. -/
  issued : List MsgId
  returned : List Returned

/-- A step of the calling thread or of the receiving one. -/
inductive Activity
  /-- `request` gets the mutex, with a response buffer that holds `contents`. -/
  | request (id : MsgId) (responseBuffer : Nat) (contents : List UInt8)
      (pDirId : Option DirectionId)
  /-- Sending failed or waiting did. -/
  | giveUp
  /-- `waitTimeout` returns because the semaphore was signalled. -/
  | wake
  | getData
  /-- The call returns what it took. -/
  | finish
  /-- A socket is readable. -/
  | readable (dir : DirectionId) (k : Kernel)
  /-- A direction is closed for another reason than a failed read. -/
  | closed (dir : DirectionId)
  deriving DecidableEq, Repr

/-- `CRequestDataContainer::insert`. Without a direction id, 1 is recorded. -/
def Receiver.insert (w : Receiver) (id : MsgId) (responseBuffer : Nat) (bufferSize : Nat)
    (pDirId : Option DirectionId) : Receiver :=
  let data : RequestData := ⟨responseBuffer, bufferSize, 0, pDirId.getD 1⟩
  { w with requests := Function.update w.requests id (some data) }

/-- `CRequestDataContainer::erase` -/
def Receiver.erase (w : Receiver) (id : MsgId) : Receiver :=
  { w with requests := Function.update w.requests id none }

/-- The semaphore of the call with this id was signalled. An entry that is gone was signalled
when it was dropped. -/
def Receiver.signalled (w : Receiver) (id : MsgId) : Prop :=
  ∀ d, w.requests id = some d → 0 < d.recvSem

/-- The call erases its entry, unlocks the mutex and returns. -/
def CIpc.leave (s : CIpc) (c : Call) (result : Except CallError (Nat × List UInt8)) : CIpc :=
  { s with
    receiver := s.receiver.erase c.id
    call := none
    returned := s.returned ++ [⟨c.id, c.bufferSize, result⟩] }

/-- The call goes on to its next phase. -/
def CIpc.goOn (s : CIpc) (c : Call) (phase : Phase) : CIpc :=
  { s with call := some { c with phase := phase } }

/-- What a step does. -/
def act (s : CIpc) : Activity → Except Failure CIpc
  | .request id responseBuffer contents pDirId =>
    let s := { s with issued := id :: s.issued }
    if (s.receiver.requests id).isSome then
      .ok { s with returned := s.returned ++ [⟨id, contents.length, .error .invalidParams⟩] }
    else
      let memory := Function.update s.receiver.memory responseBuffer contents
      let w := { s.receiver with memory := memory }
      .ok { s with
        receiver := w.insert id responseBuffer contents.length pDirId
        call := some ⟨id, responseBuffer, contents.length, .waiting⟩ }
  | .giveUp =>
    match s.call with
    | some c => .ok (s.leave c (.error .notAnswered))
    | none => .ok s
  | .wake =>
    match s.call with
    | some c => .ok (s.goOn c .woken)
    | none => .ok s
  | .getData =>
    match s.call with
    | some c => .ok (s.goOn c (.took ((s.receiver.requests c.id).map RequestData.bufferSize)))
    | none => .ok s
  | .finish =>
    match s.call with
    | some c =>
      match c.phase with
      | .took (some size) =>
        .ok (s.leave c (.ok (size, (s.receiver.memory c.responseBuffer).take size)))
      | _ => .ok (s.leave c (.error .connectionLost))
    | none => .ok s
  | .readable dir k =>
    match socketReady s.receiver dir k with
    | .error f => .error f
    | .ok (w, _, _) => .ok { s with receiver := w }
  | .closed dir =>
    let w := s.receiver.invalidateRequestsForDirection dir
    .ok { s with receiver := if w.socket.readingSocket = some dir then w.toHeader else w }

/-- When a step can be taken. The ids of calls are unique, as the users of the library have to
see to. A `recv` that gives bytes gives at least one and no more than it was asked for. -/
def Enabled (s : CIpc) : Activity → Prop
  | .request id _ _ _ => s.call = none ∧ id ∉ s.issued
  | .giveUp => ∃ c, s.call = some c ∧ c.phase = .waiting
  | .wake => ∃ c, s.call = some c ∧ c.phase = .waiting ∧ s.receiver.signalled c.id
  | .getData => ∃ c, s.call = some c ∧ c.phase = .woken
  | .finish => ∃ c size, s.call = some c ∧ c.phase = .took size
  | .readable _ (.bytes c) => c ≠ [] ∧ c.length ≤ s.receiver.asked
  | .readable _ .eof => True
  | .readable _ .error => True
  | .closed _ => True

instance Receiver.decidableSignalled (w : Receiver) (id : MsgId) : Decidable (w.signalled id) :=
  decidable_of_iff (∀ d ∈ (w.requests id).toList, 0 < d.recvSem)
    (by simp only [Option.mem_toList, Option.mem_def, Receiver.signalled])

/-- Whether the call in progress is such can be evaluated. -/
instance CIpc.decidableCall (s : CIpc) (P : Call → Prop) [DecidablePred P] :
    Decidable (∃ c, s.call = some c ∧ P c) :=
  decidable_of_iff (∃ c ∈ s.call.toList, P c) (by simp only [Option.mem_toList, Option.mem_def])

instance Enabled.decidable (s : CIpc) : (a : Activity) → Decidable (Enabled s a)
  | .request id _ _ _ => inferInstanceAs (Decidable (s.call = none ∧ id ∉ s.issued))
  | .giveUp => inferInstanceAs (Decidable (∃ c, s.call = some c ∧ c.phase = .waiting))
  | .wake => inferInstanceAs (Decidable (∃ c, s.call = some c ∧ c.phase = .waiting ∧
      s.receiver.signalled c.id))
  | .getData => inferInstanceAs (Decidable (∃ c, s.call = some c ∧ c.phase = .woken))
  | .finish => decidable_of_iff (∃ c, s.call = some c ∧ c.phase ≠ .waiting ∧ c.phase ≠ .woken)
      ⟨fun ⟨c, hc, hw, hk⟩ => match hphase : c.phase with
        | .waiting => absurd hphase hw
        | .woken => absurd hphase hk
        | .took size => ⟨c, size, hc, hphase⟩,
       fun ⟨c, size, hc, hphase⟩ => ⟨c, hc, by rw [hphase]; exact Phase.noConfusion,
        by rw [hphase]; exact Phase.noConfusion⟩⟩
  | .readable _ (.bytes c) => inferInstanceAs (Decidable (c ≠ [] ∧ c.length ≤ s.receiver.asked))
  | .readable _ .eof => isTrue trivial
  | .readable _ .error => isTrue trivial
  | .closed _ => isTrue trivial

/-- A step as one of a run: a process that failed takes none. -/
def next (s : CIpc) (a : Activity) : Option CIpc := (act s a).toOption

/-- No call has been made and no byte read. -/
structure CIpc.Started (s : CIpc) : Prop where
  own : s.receiver.socket.buffer.length = BUFFER_SIZE
  mode : s.receiver.socket.mode = .header
  haveInBuffer : s.receiver.socket.haveInBuffer = 0
  readingSocket : s.receiver.socket.readingSocket = none
  requests : s.receiver.requests = fun _ => none
  call : s.call = none
  issued : s.issued = []
  returned : s.returned = []

/-- A `CIpc` as its constructor leaves it. -/
def CIpc.initial : CIpc :=
  { receiver :=
      { socket :=
          { mode := .header, msgId := 0, unknownResponse := false, currentBufBegin := ⟨.own, 0⟩
            currentBuf := ⟨.own, 0⟩, haveInBuffer := 0, leftToReceive := MSG_HEADER_SIZE
            readingSocket := none, buffer := List.replicate BUFFER_SIZE 0 }
        requests := fun _ => none
        memory := fun _ => [] }
    call := none
    issued := []
    returned := [] }

theorem CIpc.started_initial : CIpc.initial.Started :=
  { own := List.length_replicate, mode := rfl, haveInBuffer := rfl, readingSocket := rfl
    requests := rfl, call := rfl, issued := rfl, returned := rfl }

end IviLink.Ipc
