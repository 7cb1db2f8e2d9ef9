import IviLink.Lib.Run
import Mathlib.Logic.Function.Basic

/-!
# The handshake of two `CTcpCarrierAdapter`s

Before frames go over a new connection its two ends exchange a greeting with their
protocol versions and the addresses they see each other at. On either end two
threads take part: the one that calls `makeHandshake`, which sends and waits, and
the adapter's own, which receives and moves `mHandshakeState` on, one `recv` for
each state.

The connection is a stream of bytes in each direction, and `recv` returns any
number of those that are there, up to what it is asked for. Waiting is modelled
without its timeout: a wait that is never over is one that times out. What
`haveData` does with the bytes it gets is not part of this module.
-/

namespace IviLink.Hal.Handshake

open IviLink.Lib

inductive Side
  | server
  | client
  deriving DecidableEq, Repr

def Side.other : Side → Side
  | .server => .client
  | .client => .server

@[simp] theorem Side.other_other (p : Side) : p.other.other = p := by cases p <;> rfl

instance {P : Side → Prop} [DecidablePred P] : Decidable (∀ p, P p) :=
  decidable_of_iff (P .server ∧ P .client)
    ⟨fun h p => match p with
      | .server => h.1
      | .client => h.2, fun h => ⟨h _, h _⟩⟩

/-- What is fixed at one end. -/
structure Peer where
  /-- `IVILINK_VERSION_MAJOR` -/
  major : UInt8
  /-- `IVILINK_VERSION_MINOR` -/
  minor : UInt8
  /-- What `getRemoteAddress` returns. -/
  mpRemoteAddress : List UInt8
  deriving DecidableEq, Repr

/-! ## Messages -/

/-- `handshakeAndVerStrAxis` without the version, what the server sends. -/
def axis : List UInt8 := [0x41, 0x58, 0x49, 0x53]

/-- `handshakeAndVerStrSixa` without the version, what the client sends. -/
def sixa : List UInt8 := [0x53, 0x49, 0x58, 0x41]

/-- `handshakeAndVerStrAxis` or `handshakeAndVerStrSixa`, with the version filled in. -/
def greeting (p : Side) (peer : Peer) : List UInt8 :=
  (match p with
    | .server => axis
    | .client => sixa) ++ [peer.major, peer.minor, 0]

/-- `sizeof(handshakeAndVerStrAxis)` -/
def GREETING_SIZE : Nat := 7

/-- `size` of `makeHandshake` and `buf_size` of `processHandshake`. -/
def ADDRESS_SIZE : Nat := 50

/-- The array `pAddr` of `makeHandshake`: `memset` and `strncpy`. -/
def pAddr (peer : Peer) : List UInt8 :=
  peer.mpRemoteAddress.take ADDRESS_SIZE
    ++ List.replicate (ADDRESS_SIZE - peer.mpRemoteAddress.length) 0

/-- `(major << 8) | minor` -/
def version (major minor : UInt8) : UInt16 := major.toUInt16 <<< 8 ||| minor.toUInt16

/-- What `checkCompatibility` returns. -/
inductive Compatibility
  | compatible
  | unknownVersion
  | notCompatible
  deriving DecidableEq, Repr

/-- `VersionCompatibility::checkCompatibility`, with the map as the constructor leaves it:
empty. -/
def checkCompatibility (ourVersion otherSideVersion : UInt16) : Compatibility :=
  if ourVersion = otherSideVersion then .compatible
  else if ourVersion < otherSideVersion then .unknownVersion
  else .notCompatible

/-! ## One end -/

inductive EHandshakeState
  | before
  | a
  | done
  | error
  deriving DecidableEq, Repr

/-- The next thing `makeHandshake` does. -/
inductive Stage
  /-- It looks at the state. -/
  | start
  | sendGreeting
  /-- `waitHandshakeState(eHandshakeA)` -/
  | waitA
  | sendAddress
  /-- `waitHandshakeState(eHandshakeDone)` -/
  | waitDone
  | returned
  | failed
  deriving DecidableEq, Repr

/-- The order in which an end does these things. -/
def Stage.next : Side → Stage → Stage
  | .server, .start => .sendGreeting
  | .server, .sendGreeting => .waitA
  | .server, .waitA => .sendAddress
  | .server, .sendAddress => .waitDone
  | .server, .waitDone => .returned
  | .client, .start => .waitA
  | .client, .waitA => .sendGreeting
  | .client, .sendGreeting => .waitDone
  | .client, .waitDone => .sendAddress
  | .client, .sendAddress => .returned
  | _, s => s

structure Adapter where
  mHandshakeState : EHandshakeState
  mIsBroken : Bool
  stage : Stage
  mpLocalAddress : List UInt8
  /-- What it has sent. -/
  sent : List UInt8
  /-- The frame traffic among that. -/
  frames : List UInt8
  /-- What `processHandshake` has received. -/
  taken : List UInt8
  /-- What `haveData` has received. -/
  handed : List UInt8
  deriving DecidableEq, Repr

/-- `setLocalAddress` of a buffer that starts with these bytes; the rest of it was never written. -/
def localAddress (received garbage : List UInt8) : List UInt8 :=
  (received ++ garbage).takeWhile (fun c => c ≠ 0)

namespace Adapter

/-- An end of a new connection. -/
def init : Adapter := ⟨.before, false, .start, [], [], [], [], []⟩

/-- `processHandshake` in `eHandshakeBefore`, with the bytes `recv` has returned and what lies
behind them in `buf`. -/
def processGreeting (q : Adapter) (peers : Side → Peer) (p : Side)
    (received garbage : List UInt8) : Adapter :=
  let buf := received ++ garbage
  let q := { q with taken := q.taken ++ received }
  if buf.take 4 ≠ (greeting p.other (peers p.other)).take 4 then
    { q with mHandshakeState := .error }
  else
    let otherSideVer := version (buf.getD 4 0) (buf.getD 5 0)
    match checkCompatibility (version (peers p).major (peers p).minor) otherSideVer with
    | .compatible => { q with mHandshakeState := .a }
    | .unknownVersion => { q with mHandshakeState := .a }
    | .notCompatible => { q with mHandshakeState := .error }

/-- `processHandshake` in `eHandshakeA`. -/
def processAddress (q : Adapter) (received garbage : List UInt8) : Adapter :=
  { q with
    taken := q.taken ++ received
    mpLocalAddress := localAddress received garbage
    mHandshakeState := .done }

end Adapter

/-! ## The connection -/

structure State where
  adapter : Side → Adapter
  /-- The bytes an end has sent and the other has not received. -/
  link : Side → List UInt8

inductive Event
  /-- The next thing `makeHandshake` does. -/
  | makeHandshake (p : Side)
  /-- `consumeData`: the kernel returns that many bytes. The rest of the local buffer holds
  anything. -/
  | consumeData (p : Side) (n : Nat) (garbage : List UInt8)
  /-- `recv` returns nothing, the other end having closed the connection. -/
  | hangUp (p : Side)
  /-- The thread ends after an error, with `closeAllSockets`. -/
  | closeAllSockets (p : Side)
  /-- Frame traffic. -/
  | sendFrames (p : Side) (bytes : List UInt8)
  deriving DecidableEq, Repr

namespace State

def setAdapter (s : State) (p : Side) (q : Adapter) : State :=
  { s with adapter := Function.update s.adapter p q }

/-- `sendPreparedArray` -/
def send (s : State) (p : Side) (q : Adapter) (bytes : List UInt8) : State :=
  { adapter := Function.update s.adapter p { q with sent := q.sent ++ bytes }
    link := Function.update s.link p (s.link p ++ bytes) }

/-- `recv` at one end takes bytes off the other's stream. -/
def receive (s : State) (p : Side) (q : Adapter) (n : Nat) : State :=
  { adapter := Function.update s.adapter p q
    link := Function.update s.link p.other ((s.link p.other).drop n) }

/-- `closeAllSockets` -/
def close (s : State) (p : Side) : State :=
  s.setAdapter p { s.adapter p with mIsBroken := true, mHandshakeState := .before }

def initial : State := ⟨fun _ => .init, fun _ => []⟩

end State

/-- One step. -/
def next (peers : Side → Peer) (s : State) : Event → Option State
  | .makeHandshake p =>
    let q := s.adapter p
    match q.stage with
    | .start =>
      some (s.setAdapter p { q with
        stage := if q.mHandshakeState = .before then Stage.next p .start else .failed })
    | .sendGreeting =>
      if q.mIsBroken then some (s.setAdapter p { q with stage := .failed })
      else some (s.send p { q with stage := Stage.next p .sendGreeting } (greeting p (peers p)))
    | .waitA =>
      if q.mHandshakeState = .a then
        some (s.setAdapter p { q with stage := Stage.next p .waitA })
      else none
    | .sendAddress =>
      if q.mIsBroken then some (s.setAdapter p { q with stage := .failed })
      else some (s.send p { q with stage := Stage.next p .sendAddress } (pAddr (peers p)))
    | .waitDone =>
      if q.mHandshakeState = .done then
        some (s.setAdapter p { q with stage := Stage.next p .waitDone })
      else none
    | .returned => none
    | .failed => none
  | .consumeData p n garbage =>
    let q := s.adapter p
    let received := (s.link p.other).take n
    if q.mIsBroken = false ∧ 0 < n ∧ n ≤ (s.link p.other).length then
      match q.mHandshakeState with
      | .before =>
        if n ≤ GREETING_SIZE then
          some (s.receive p (q.processGreeting peers p received garbage) n)
        else none
      | .a =>
        if n ≤ ADDRESS_SIZE then some (s.receive p (q.processAddress received garbage) n)
        else none
      | .done => some (s.receive p { q with handed := q.handed ++ received } n)
      | .error => none
    else none
  | .hangUp p =>
    let q := s.adapter p
    if q.mIsBroken = false ∧ q.mHandshakeState ≠ .error
        ∧ (s.adapter p.other).mIsBroken = true ∧ s.link p.other = [] then
      some (s.close p)
    else none
  | .closeAllSockets p =>
    if (s.adapter p).mIsBroken = false ∧ (s.adapter p).mHandshakeState = .error then
      some (s.close p)
    else none
  | .sendFrames p bytes =>
    let q := s.adapter p
    if q.stage = .returned ∧ q.mIsBroken = false then
      some (s.send p { q with frames := q.frames ++ bytes } bytes)
    else none

end IviLink.Hal.Handshake
