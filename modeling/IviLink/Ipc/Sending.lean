import IviLink.Ipc.Directions

/-!
# Sending over a `CIpcSocket`

`CIpcSocket::send` as a whole: the checks in front, the socket of the direction, the
header and the payload, and what is done about a failure. The kernel's side is the
list of the results that it gives to the calls of `::send`, interruptions included. A
result that is not -1 is taken for success, however few bytes it stands for.

A list that ends before the call does stands for a kernel that has not answered yet.
-/

namespace IviLink.Ipc.Sending

open Directions (CSockInfo findClientSocket)

/-- `CIpcError::eCodes`, as far as `send` uses them, and `BaseError::IVILINK_NO_ERROR`. -/
inductive eCodes
  | IVILINK_NO_ERROR
  | ERROR_INVALID_PARAMS
  | ERROR_CONNECTION_LOST
  | ERROR_UNKNOWN_DIRECTION
  deriving DecidableEq, Repr

/-- `BaseError`: its code and its description. -/
structure BaseError where
  mCode : eCodes
  mDescription : String
  deriving DecidableEq, Repr

namespace BaseError

def isNoError (e : BaseError) : Bool := e.mCode = .IVILINK_NO_ERROR

/-- `CIpcError::NoIpcError` -/
def NoIpcError : BaseError := ⟨.IVILINK_NO_ERROR, ""⟩

/-- `BaseError::FormErrnoDescr` -/
def FormErrnoDescr (strerror : Int → String) (e : Int) : String :=
  "Error " ++ toString e ++ ": " ++ strerror e

end BaseError

/-- What `send` uses of the socket. -/
structure CIpcSocket where
  mIsConnected : Bool
  mSockets : List CSockInfo
  /-- Descriptors; -1 gets in where no socket was found. -/
  mClosedSocketsQueue : List Int
  /-- How often `SPS_CLI_DIR_CLOSED` was signalled. -/
  selfpipe : Nat
  deriving DecidableEq, Repr

/-- A message as `send` is given it. -/
structure Message where
  id : MsgId
  msgType : MsgType
  pPayload : List UInt8
  /-- `payloadSize` is a `UInt32`. -/
  short : pPayload.length < 2 ^ 32

namespace Message

def payloadSize (m : Message) : Nat := m.pPayload.length

def header (m : Message) : MsgHeader := ⟨UInt32.ofNat m.payloadSize, m.id, m.msgType.code⟩

/-- The message as it should stand on the socket. -/
def bytes (m : Message) : List UInt8 := m.header.bytes ++ m.pPayload

end Message

/-- What has been done by a call of `send`. -/
structure Sent where
  socket : CIpcSocket
  /-- What was put on the socket of the direction. -/
  out : List UInt8
  err : BaseError
  deriving DecidableEq, Repr

/-- `do res = ::send(...) while (res == -1 && errno == EINTR)`, and the results left for what
comes after it. -/
def retry : List SendResult → Option (SendResult × List SendResult)
  | [] => none
  | .eintr :: rs => retry rs
  | r :: rs => some (r, rs)

/-- The branch of `send` for `-1 == res`. -/
def CIpcSocket.closed (s : CIpcSocket) (sock : Int) (out : List UInt8) (descr : String) : Sent :=
  ⟨{ s with mClosedSocketsQueue := s.mClosedSocketsQueue ++ [sock], selfpipe := s.selfpipe + 1 },
    out, ⟨.ERROR_CONNECTION_LOST, descr⟩⟩

variable (strerror : Int → String) (errno : Int)

/-- `CIpcSocket::send` once it has a socket. -/
def sendOver (s : CIpcSocket) (sock : Nat) (m : Message) (results : List SendResult) :
    Option Sent :=
  match retry results with
  | none => none
  | some (res, results) =>
    let out := res.written m.header.bytes
    if res ≠ .failed ∧ m.payloadSize > 0 then
      match retry results with
      | none => none
      | some (res, _) =>
        let out := out ++ res.written m.pPayload
        if res = .failed then
          some (s.closed sock out (BaseError.FormErrnoDescr strerror errno))
        else some ⟨s, out, .NoIpcError⟩
    else if res = .failed then
      some (s.closed sock out (BaseError.FormErrnoDescr strerror errno))
    else some ⟨s, out, .NoIpcError⟩

/-- `CIpcSocket::send`. An unknown direction is reported as such at first, and then, since no
`::send` has changed the -1 in `res`, as a lost connection. -/
def send (s : CIpcSocket) (m : Message) (pDirId : Option DirectionId)
    (results : List SendResult) : Option Sent :=
  if s.mIsConnected = false then
    some ⟨s, [], ⟨.ERROR_CONNECTION_LOST, "ERROR_CONNECTION_LOST"⟩⟩
  else if ¬ m.payloadSize < 4294967295 - MSG_HEADER_SIZE then
    some ⟨s, [], ⟨.ERROR_INVALID_PARAMS, "Buffer is too big"⟩⟩
  else
    match findClientSocket s.mSockets pDirId with
    | none => some (s.closed (-1) [] (BaseError.FormErrnoDescr strerror errno))
    | some info => sendOver strerror errno s info.sock m results

/-! ## Whole messages -/

/-- The message is on the socket as a whole, or an error is reported. -/
def Sent.WholeOrError (r : Sent) (m : Message) : Prop :=
  (r.err.isNoError = true ∧ r.out = m.bytes) ∨ r.err.isNoError = false

/-- The results that end a loop. -/
def answers (results : List SendResult) : List SendResult := results.filter (· ≠ .eintr)

/-- The sizes that `::send` is called with. -/
def Message.sizes (m : Message) : List Nat :=
  if m.payloadSize > 0 then [MSG_HEADER_SIZE, m.payloadSize] else [MSG_HEADER_SIZE]

/-- Each call of `::send` for the message gets its answer. -/
def Answered (m : Message) (results : List SendResult) : Prop :=
  m.sizes.length ≤ (answers results).length

/-- The message comes as far as `::send`. -/
def Reaches (s : CIpcSocket) (m : Message) (pDirId : Option DirectionId) : Prop :=
  s.mIsConnected = true ∧ m.payloadSize < 4294967295 - MSG_HEADER_SIZE ∧
    (findClientSocket s.mSockets pDirId).isSome

/-- If none of the calls of `::send` for the message fails, each takes all the bytes that it is
given. -/
def TakenWhole (m : Message) (results : List SendResult) : Prop :=
  (∀ x ∈ m.sizes.zip (answers results), x.2 ≠ .failed) →
    ∀ x ∈ m.sizes.zip (answers results), ∀ n, x.2 = .wrote n → x.1 ≤ n

end IviLink.Ipc.Sending
