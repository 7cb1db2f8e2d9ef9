import IviLink.Ipc.Socket
import IviLink.Lib.Run

/-!
# Directions of a `CIpc`

A direction is a connection and the id it got from `DirectionIdGen`, whose
counter is one for the whole process. A `CIpc` keeps its connections in
`mSockets`, in the order they came. A request names a direction or none; the
container records the one it names, or 1, and the socket it is sent over is
looked up separately, by the id or as the first in the list.

When a connection is closed its direction id is handed to `onConnectionLost`,
which drops and signals the entries of the container that have it recorded.
Taking the socket out of the list and dropping the entries are two steps of the
receiving thread, with the calling threads free to run in between.
-/

namespace IviLink.Ipc.Directions

open IviLink.Lib

/-- `CSockInfo` -/
structure CSockInfo where
  sock : Nat
  dirId : DirectionId
  deriving DecidableEq, Repr

/-- An entry of the container. -/
structure Entry where
  id : MsgId
  mDirID : DirectionId
  /-- The direction id the call was made with. -/
  pDirId : Option DirectionId
  /-- The direction the request went out on, once it did. -/
  sentOver : Option DirectionId
  deriving DecidableEq, Repr

/-- The call that holds `mRequestMutex`. -/
structure Caller where
  id : MsgId
  pDirId : Option DirectionId
  sent : Bool
  deriving DecidableEq, Repr

structure State where
  /-- `DirectionIdGen::count` -/
  count : DirectionId
  mSockets : List CSockInfo
  /-- The directions the receiving thread is about to report as lost. -/
  closing : List DirectionId
  /-- `mRequestDataMap` -/
  requests : List Entry
  mRequestMutex : Option Caller
  /-- The requests marked as failed and signalled because a direction was lost. -/
  failed : List MsgId
  deriving DecidableEq, Repr

inductive Event
  /-- The client connects, over this socket. -/
  | connect (sock : Nat)
  /-- The server accepts a connection. -/
  | accept (sock : Nat)
  /-- Another `CIpc` of the process takes a direction id. -/
  | elsewhere
  /-- A call enters its request in the container. -/
  | insert (id : MsgId) (pDirId : Option DirectionId)
  /-- It sends the request; `ok` tells whether `::send` does. -/
  | send (ok : Bool)
  /-- It ends: with a response, a timeout, or because it was signalled. -/
  | finish
  /-- `closeClientSocket` takes a socket out of the list. -/
  | close (sock : Nat)
  /-- `closeAllSockets` -/
  | closeAll
  /-- `onConnectionLost` for the next direction to report. -/
  | connectionLost
  deriving DecidableEq, Repr

/-- `CRequestDataContainer::insert` -/
def insert (requests : List Entry) (id : MsgId) (pDirId : Option DirectionId) :
    Option (List Entry) :=
  if requests.any (fun e => e.id = id) then none
  else
    let mDirID := match pDirId with
      | none => 1
      | some dirId => dirId
    some (requests ++ [⟨id, mDirID, pDirId, none⟩])

/-- `CRequestDataContainer::erase` -/
def erase (requests : List Entry) (id : MsgId) : List Entry :=
  requests.filter (fun e => e.id ≠ id)

/-- `CRequestDataContainer::invalidateRequestsForDirection`: the entries that stay, and the ids
of those that were signalled and erased. -/
def invalidateRequestsForDirection (dirId : DirectionId) : List Entry → List Entry × List MsgId
  | [] => ([], [])
  | e :: rest =>
    let r := invalidateRequestsForDirection dirId rest
    if e.mDirID = dirId then (r.1, e.id :: r.2) else (e :: r.1, r.2)

/-- `CIpcSocket::findClientSocket` -/
def findClientSocket (mSockets : List CSockInfo) : Option DirectionId → Option CSockInfo
  | some dirId => mSockets.find? (fun s => s.dirId = dirId)
  | none => mSockets.head?

/-- The entry of a request that went out on a direction. -/
def markSent (requests : List Entry) (id : MsgId) (dirId : DirectionId) : List Entry :=
  requests.map (fun e => if e.id = id then { e with sentOver := some dirId } else e)

/-- The call erases its entry and unlocks the mutex. -/
def State.leave (s : State) (id : MsgId) : State :=
  { s with requests := erase s.requests id, mRequestMutex := none }

/-- The receiving thread is not about to report a lost direction. -/
def State.receiving (s : State) : Prop := s.closing = []

instance (s : State) : Decidable s.receiving := inferInstanceAs (Decidable (s.closing = []))

/-- One step. -/
def next (s : State) : Event → Option State
  | .connect sock =>
    if s.receiving ∧ s.mSockets = [] then
      some { s with count := s.count + 1, mSockets := [⟨sock, s.count + 1⟩] }
    else none
  | .accept sock =>
    if s.receiving then
      some { s with count := s.count + 1, mSockets := s.mSockets ++ [⟨sock, s.count + 1⟩] }
    else none
  | .elsewhere => some { s with count := s.count + 1 }
  | .insert id pDirId =>
    if s.mRequestMutex = none then
      match insert s.requests id pDirId with
      | none => some s
      | some requests =>
        some { s with requests := requests, mRequestMutex := some ⟨id, pDirId, false⟩ }
    else none
  | .send ok =>
    match s.mRequestMutex with
    | some ⟨id, pDirId, false⟩ =>
      match findClientSocket s.mSockets pDirId with
      | none => some (s.leave id)
      | some info =>
        if ok then
          some { s with
            requests := markSent s.requests id info.dirId
            mRequestMutex := some ⟨id, pDirId, true⟩ }
        else some (s.leave id)
    | _ => none
  | .finish =>
    match s.mRequestMutex with
    | some ⟨id, _, true⟩ => some (s.leave id)
    | _ => none
  | .close sock =>
    if s.receiving then
      match s.mSockets.find? (fun i => i.sock = sock) with
      | none => some s
      | some info =>
        some { s with mSockets := s.mSockets.erase info, closing := [info.dirId] }
    else none
  | .closeAll =>
    if s.receiving then
      some { s with mSockets := [], closing := s.mSockets.map CSockInfo.dirId }
    else none
  | .connectionLost =>
    match s.closing with
    | [] => none
    | dirId :: rest =>
      let r := invalidateRequestsForDirection dirId s.requests
      some { s with closing := rest, requests := r.1, failed := s.failed ++ r.2 }

/-- A `CIpc` at its start, in a process that has handed out some ids. -/
def State.initial (count : DirectionId) : State :=
  { count := count, mSockets := [], closing := [], requests := [], mRequestMutex := none
    failed := [] }

end IviLink.Ipc.Directions
