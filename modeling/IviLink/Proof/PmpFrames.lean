import IviLink.ProfileManager.WaitingServices
import IviLink.Proof.ListCodecs
import Mathlib.Algebra.Order.BigOperators.Group.List

/-!
# The frames of the profile managers

Two profile managers send each other requests over a channel: for the core, for the server of
profile instances, for the session, and one that says that a manager is ready. The frame has its
number and its size in network order, and the client and the kind of the request as the host has
them. The hosts are little-endian.

A frame is written into an array whose size was computed before. Where that has no room for what
is written, or where the other side reads beyond what it has received, there is no next step.
-/

namespace IviLink.ProfileManager.PmpFrames

open IviLink.Lib
open Complements (PMP_FRAME_SIZE hton32 ntoh32 stringToBuffer stringInBufSize readUInt32
  bufferToString responseSize responseData onGetAvailableProfileComplementsResponse)
open WaitingServices (frameSize listData onReceivedServicesList)

/-- The string in `BaseUid`. -/
abbrev Uid := Complements.Uid

inductive ClientId
  | PMP_CLIENT_CORE
  | PMP_CLIENT_PI_SRV
  | PMP_CLIENT_CMP_MGR
  | PMP_CLIENT_SESSION
  deriving DecidableEq

inductive RequestType
  | PMP_REQ_CORE_GET_COMPLEMENTS_REQUEST
  | PMP_REQ_CORE_GET_COMPLEMENTS_RESPONSE
  | PMP_REQ_CORE_RELOAD_PROFS_FROM_REPO
  | PMP_REQ_CORE_RESET_PROF_STATE
  | PMP_REQ_CORE_LOCK
  | PMP_REQ_CORE_UNLOCK
  | PMP_REQ_CORE_LOCK_ALL
  | PMP_REQ_CORE_UNLOCK_ALL
  | PMP_REQ_CORE_DIS_BY_CLIENT
  | PMP_REQ_CORE_ENABLE_BY_CLNT
  | PMP_REQ_CORE_ENABLE_BY_CLNT_ALL
  | PMP_REQ_PIM_CREATE_PROFILE
  | PMP_REQ_PIM_PROFILE_DIED
  | PMP_REQ_CMP_MGR_READY
  | PMP_REQ_SESSION_NEGOTIATE_NUMBER
  | PMP_REQ_SESSION_SEND_WAITING_SERVICES
  deriving DecidableEq

/-- The clients, in the order of their numbers. -/
def clients : List ClientId :=
  [.PMP_CLIENT_CORE, .PMP_CLIENT_PI_SRV, .PMP_CLIENT_CMP_MGR, .PMP_CLIENT_SESSION]

/-- The kinds of requests, in the order of their numbers. -/
def requestTypes : List RequestType :=
  [.PMP_REQ_CORE_GET_COMPLEMENTS_REQUEST, .PMP_REQ_CORE_GET_COMPLEMENTS_RESPONSE,
    .PMP_REQ_CORE_RELOAD_PROFS_FROM_REPO, .PMP_REQ_CORE_RESET_PROF_STATE, .PMP_REQ_CORE_LOCK,
    .PMP_REQ_CORE_UNLOCK, .PMP_REQ_CORE_LOCK_ALL, .PMP_REQ_CORE_UNLOCK_ALL,
    .PMP_REQ_CORE_DIS_BY_CLIENT, .PMP_REQ_CORE_ENABLE_BY_CLNT, .PMP_REQ_CORE_ENABLE_BY_CLNT_ALL,
    .PMP_REQ_PIM_CREATE_PROFILE, .PMP_REQ_PIM_PROFILE_DIED, .PMP_REQ_CMP_MGR_READY,
    .PMP_REQ_SESSION_NEGOTIATE_NUMBER, .PMP_REQ_SESSION_SEND_WAITING_SERVICES]

def ClientId.code (c : ClientId) : UInt32 := UInt32.ofNat (clients.idxOf c)

def RequestType.code (t : RequestType) : UInt32 := UInt32.ofNat (requestTypes.idxOf t)

/-- Which client it is that has this number. -/
def clientOf (code : UInt32) : Option ClientId := clients[code.toNat]?

def requestTypeOf (code : UInt32) : Option RequestType := requestTypes[code.toNat]?

/-- What one manager asks of the other one, by the functions of the protocol classes. -/
inductive Request
  | getAvailableProfileComplementsRequest
  | getAvailableProfileComplementsResponse (complements : List (Uid × UInt32))
  | reloadProfilesFromRepository
  | resetProfileState
  | lock (id : Uid)
  | unlock (id : Uid)
  | lockAll
  | unlockAll
  | disableByClient (id : Uid)
  | enableByClient (id : Uid)
  | enableByClientAll
  | createProfile (profileUid piuid sid : Uid)
  | profileDied (piuid sid : Uid)
  | ready
  | sendNegotiateNumber (number : UInt32)
  | sendWaitingServicesList (services : List Uid)
  deriving DecidableEq

/-! ## Sending -/

/-- A frame whose `id` and `client` are not set yet. -/
structure PMPFrame where
  reqType : RequestType
  size : UInt32
  data : List UInt8

/-- An array of `size` bytes is allocated and filled. -/
def newFrame (reqType : RequestType) (size : UInt32) (data : List UInt8) : Option PMPFrame :=
  if PMP_FRAME_SIZE + data.length ≤ size.toNat then some ⟨reqType, size, data⟩ else none

/-- `size` of a frame with strings, which is of type `UInt32`. -/
def stringsSize (strings : List Uid) : UInt32 :=
  strings.foldl (fun size s => size + UInt32.ofNat (stringInBufSize s))
    (UInt32.ofNat PMP_FRAME_SIZE)

/-- A frame with strings, one behind the other. -/
def stringsFrame (reqType : RequestType) (strings : List Uid) : Option PMPFrame :=
  newFrame reqType (stringsSize strings) (strings.flatMap stringToBuffer)

/-- A frame that has no data. -/
def bareFrame (reqType : RequestType) : Option PMPFrame :=
  newFrame reqType (UInt32.ofNat PMP_FRAME_SIZE) []

namespace Request

def frame : Request → Option PMPFrame
  | getAvailableProfileComplementsRequest => bareFrame .PMP_REQ_CORE_GET_COMPLEMENTS_REQUEST
  | getAvailableProfileComplementsResponse complements =>
    newFrame .PMP_REQ_CORE_GET_COMPLEMENTS_RESPONSE (responseSize complements)
      (responseData complements)
  | reloadProfilesFromRepository => bareFrame .PMP_REQ_CORE_RELOAD_PROFS_FROM_REPO
  | resetProfileState => bareFrame .PMP_REQ_CORE_RESET_PROF_STATE
  | lock id => stringsFrame .PMP_REQ_CORE_LOCK [id]
  | unlock id => stringsFrame .PMP_REQ_CORE_UNLOCK [id]
  | lockAll => bareFrame .PMP_REQ_CORE_LOCK_ALL
  | unlockAll => bareFrame .PMP_REQ_CORE_UNLOCK_ALL
  | disableByClient id => stringsFrame .PMP_REQ_CORE_DIS_BY_CLIENT [id]
  | enableByClient id => stringsFrame .PMP_REQ_CORE_ENABLE_BY_CLNT [id]
  | enableByClientAll => bareFrame .PMP_REQ_CORE_ENABLE_BY_CLNT_ALL
  | createProfile profileUid piuid sid =>
    stringsFrame .PMP_REQ_PIM_CREATE_PROFILE [profileUid, piuid, sid]
  | profileDied piuid sid => stringsFrame .PMP_REQ_PIM_PROFILE_DIED [piuid, sid]
  | ready => bareFrame .PMP_REQ_CMP_MGR_READY
  | sendNegotiateNumber number =>
    newFrame .PMP_REQ_SESSION_NEGOTIATE_NUMBER (UInt32.ofNat (PMP_FRAME_SIZE + 4))
      (le32 (hton32 number))
  | sendWaitingServicesList services =>
    newFrame .PMP_REQ_SESSION_SEND_WAITING_SERVICES (frameSize services) (listData services)

/-- Whose request function is called. -/
def client : Request → ClientId
  | createProfile _ _ _ | profileDied _ _ => .PMP_CLIENT_PI_SRV
  | ready => .PMP_CLIENT_CMP_MGR
  | sendNegotiateNumber _ | sendWaitingServicesList _ => .PMP_CLIENT_SESSION
  | _ => .PMP_CLIENT_CORE

end Request

structure PmpProtocol where
  mGenId : UInt32
  mReady : Bool
  deriving DecidableEq

namespace PmpProtocol

/-- `makeCoreRequest` and its like: what is given to the channel. -/
def makeRequest (p : PmpProtocol) (client : ClientId) (request : PMPFrame) :
    PmpProtocol × List UInt8 :=
  ({ p with mGenId := p.mGenId + 1 },
    le32 (hton32 p.mGenId) ++ (le32 client.code ++ (le32 request.reqType.code ++
      (le32 (hton32 request.size) ++ request.data))))

def request (p : PmpProtocol) (r : Request) : Option (PmpProtocol × List UInt8) :=
  r.frame.map (p.makeRequest r.client)

end PmpProtocol

/-! ## Receiving -/

/-- An integer as the host has it, and what comes behind it. -/
def host32 (rest : List UInt8) : UInt32 × List UInt8 := (ofLE32 (rest.take 4), rest.drop 4)

/-- Strings that come one behind the other. -/
def readStrings : Nat → List UInt8 → Option (List Uid)
  | 0, _ => some []
  | n + 1, data =>
    match bufferToString data with
    | none => none
    | some str => (readStrings n (data.drop (stringInBufSize str))).map (str :: ·)

/-- What `EventFactory` is told: nothing if the request is not defined. -/
def onCoreRequest (reqType : Option RequestType) (data : List UInt8) : Option (Option Request) :=
  match reqType with
  | some .PMP_REQ_CORE_GET_COMPLEMENTS_REQUEST =>
    some (some .getAvailableProfileComplementsRequest)
  | some .PMP_REQ_CORE_GET_COMPLEMENTS_RESPONSE =>
    (onGetAvailableProfileComplementsResponse data).map fun complements =>
      some (.getAvailableProfileComplementsResponse complements)
  | some .PMP_REQ_CORE_RELOAD_PROFS_FROM_REPO => some (some .reloadProfilesFromRepository)
  | some .PMP_REQ_CORE_RESET_PROF_STATE => some (some .resetProfileState)
  | some .PMP_REQ_CORE_LOCK => (bufferToString data).map fun id => some (.lock id)
  | some .PMP_REQ_CORE_UNLOCK => (bufferToString data).map fun id => some (.unlock id)
  | some .PMP_REQ_CORE_LOCK_ALL => some (some .lockAll)
  | some .PMP_REQ_CORE_UNLOCK_ALL => some (some .unlockAll)
  | some .PMP_REQ_CORE_DIS_BY_CLIENT =>
    (bufferToString data).map fun id => some (.disableByClient id)
  | some .PMP_REQ_CORE_ENABLE_BY_CLNT =>
    (bufferToString data).map fun id => some (.enableByClient id)
  | some .PMP_REQ_CORE_ENABLE_BY_CLNT_ALL => some (some .enableByClientAll)
  | _ => some none

def onPimRequest (reqType : Option RequestType) (data : List UInt8) : Option (Option Request) :=
  match reqType with
  | some .PMP_REQ_PIM_CREATE_PROFILE =>
    match readStrings 3 data with
    | some [profileUid, piuid, sid] => some (some (.createProfile profileUid piuid sid))
    | _ => none
  | some .PMP_REQ_PIM_PROFILE_DIED =>
    match readStrings 2 data with
    | some [piuid, sid] => some (some (.profileDied piuid sid))
    | _ => none
  | _ => some none

def onSessionRequest (reqType : Option RequestType) (data : List UInt8) :
    Option (Option Request) :=
  match reqType with
  | some .PMP_REQ_SESSION_NEGOTIATE_NUMBER =>
    (readUInt32 data).map fun it => some (.sendNegotiateNumber it.1)
  | some .PMP_REQ_SESSION_SEND_WAITING_SERVICES =>
    (onReceivedServicesList data).map fun services => some (.sendWaitingServicesList services)
  | _ => some none

def onCmpMgrRequest (reqType : Option RequestType) : Option Request :=
  match reqType with
  | some .PMP_REQ_CMP_MGR_READY => some .ready
  | _ => none

namespace PmpProtocol

def onRequest (p : PmpProtocol) (client : Option ClientId) (reqType : Option RequestType)
    (data : List UInt8) : Option (PmpProtocol × Option Request) :=
  match client with
  | some .PMP_CLIENT_CORE => (onCoreRequest reqType data).map (p, ·)
  | some .PMP_CLIENT_PI_SRV => (onPimRequest reqType data).map (p, ·)
  | some .PMP_CLIENT_CMP_MGR =>
    match onCmpMgrRequest reqType with
    | some event => some ({ p with mReady := true }, some event)
    | none => some (p, none)
  | some .PMP_CLIENT_SESSION => (onSessionRequest reqType data).map (p, ·)
  | none => some (p, none)

/-- The size in the frame is not looked at. -/
def onDataReceived (p : PmpProtocol) (data : List UInt8) :
    Option (PmpProtocol × Option Request) :=
  if data.length < PMP_FRAME_SIZE then none
  else
    let (client, rest) := host32 (host32 data).2
    let (reqType, rest) := host32 rest
    p.onRequest (clientOf client) (requestTypeOf reqType) (host32 rest).2

/-- One request after the other, with the frames. -/
def requests (p : PmpProtocol) : List Request → Option (PmpProtocol × List (List UInt8))
  | [] => some (p, [])
  | r :: rs =>
    match p.request r with
    | none => none
    | some (p, frame) => (p.requests rs).map fun it => (it.1, frame :: it.2)

/-- One frame after the other, with the events. -/
def events (p : PmpProtocol) : List (List UInt8) → Option (PmpProtocol × List (Option Request))
  | [] => some (p, [])
  | frame :: frames =>
    match p.onDataReceived frame with
    | none => none
    | some (p, event) => (p.events frames).map fun it => (it.1, event :: it.2)

end PmpProtocol

end IviLink.ProfileManager.PmpFrames

/-!
## What arrives at the other profile manager

A request is told to the event factory of the other side as it was made, if its frame is not
larger than a `UInt32` can say, and if a list in it is not longer than an `int` counts. The two
sides agree on the client of each kind of request, and no string ends early.
-/

namespace IviLink.ProfileManager.PmpFrames

open IviLink.Lib Interaction
open Complements (PMP_FRAME_SIZE INT_MAX hton32 stringToBuffer stringInBufSize
  readUInt32_le32 length_stringToBuffer bufferToString bufferToString_stringToBuffer responseSize
  responseData onGetAvailableProfileComplementsResponse)
open WaitingServices (frameSize listData onReceivedServicesList)

variable {reqType : RequestType} {size : UInt32} {data rest : List UInt8} {f : PMPFrame}

/-! ## Sizes -/

/-- What strings take in a frame. -/
def stringBytes (strings : List Uid) : Nat := (strings.map (·.length + 5)).sum

/-- A frame of this request says what the request says. -/
def Request.Fits : Request → Prop
  | getAvailableProfileComplementsResponse complements =>
    4 + (complements.map (·.1.length + 9)).sum ≤ INT_MAX
  | lock id | unlock id | disableByClient id | enableByClient id =>
    PMP_FRAME_SIZE + stringBytes [id] < 4294967296
  | createProfile profileUid piuid sid =>
    PMP_FRAME_SIZE + stringBytes [profileUid, piuid, sid] < 4294967296
  | profileDied piuid sid => PMP_FRAME_SIZE + stringBytes [piuid, sid] < 4294967296
  | sendWaitingServicesList services => 4 + (services.map (·.length + 5)).sum ≤ INT_MAX
  | _ => True

theorem newFrame_eq_some : newFrame reqType size data = some f ↔
    PMP_FRAME_SIZE + data.length ≤ size.toNat ∧ f = ⟨reqType, size, data⟩ := by
  rw [newFrame]
  split
  case isTrue h => simp [h, eq_comm]
  case isFalse h => simp [h]

theorem toNat_foldl_size (strings : List Uid) (size : UInt32) :
    (strings.foldl (fun size s => size + UInt32.ofNat (stringInBufSize s)) size).toNat =
      (size.toNat + stringBytes strings) % 4294967296 := by
  induction strings generalizing size with
  | nil =>
    have hlt : size.toNat < 4294967296 := size.toNat_lt
    simp [stringBytes, Nat.mod_eq_of_lt hlt]
  | cons s strings ih =>
    have hadd : (size + UInt32.ofNat (stringInBufSize s)).toNat =
        (size.toNat + (s.length + 5)) % 4294967296 := by
      rw [UInt32.toNat_add, UInt32.toNat_ofNat', stringInBufSize]
      omega
    rw [List.foldl_cons, ih, hadd, stringBytes, stringBytes, List.map_cons, List.sum_cons]
    omega

theorem length_strings (strings : List Uid) :
    (strings.flatMap stringToBuffer).length = stringBytes strings :=
  length_flatMap_strings strings

/-- The room is there exactly if the size has not gone round. -/
theorem stringsFrame_eq_some {strings : List Uid} : stringsFrame reqType strings = some f ↔
    PMP_FRAME_SIZE + stringBytes strings < 4294967296 ∧
      f = ⟨reqType, stringsSize strings, strings.flatMap stringToBuffer⟩ := by
  have hsize := toNat_foldl_size strings (UInt32.ofNat PMP_FRAME_SIZE)
  have hframe : (UInt32.ofNat PMP_FRAME_SIZE).toNat = PMP_FRAME_SIZE := rfl
  rw [hframe] at hsize
  rw [stringsFrame, newFrame_eq_some, stringsSize, length_strings, hsize]
  refine and_congr_left fun _ => ?_
  constructor
  · intro hle
    have hlt := Nat.mod_lt (PMP_FRAME_SIZE + stringBytes strings) (by decide : 0 < 4294967296)
    omega
  · intro hlt
    rw [Nat.mod_eq_of_lt hlt]

/-! ## Reading -/

theorem readStrings_flatMap {strings : List Uid} (h : ∀ s ∈ strings, s.length + 1 < 4294967296)
    (rest : List UInt8) :
    readStrings strings.length (strings.flatMap stringToBuffer ++ rest) = some strings := by
  induction strings with
  | nil => rfl
  | cons s strings ih =>
    have hdrop : (stringToBuffer s ++ (strings.flatMap stringToBuffer ++ rest)).drop
        (stringInBufSize s) = strings.flatMap stringToBuffer ++ rest := by
      rw [← length_stringToBuffer, List.drop_left]
    rw [List.length_cons, List.flatMap_cons, List.append_assoc, readStrings,
      bufferToString_stringToBuffer (h s List.mem_cons_self)]
    dsimp only
    rw [hdrop, ih fun s hs => h s (List.mem_cons_of_mem _ hs)]
    rfl

theorem length_lt_of_fits {strings : List Uid}
    (h : PMP_FRAME_SIZE + stringBytes strings < 4294967296) {s : Uid} (hs : s ∈ strings) :
    s.length + 1 < 4294967296 := by
  have hle : s.length + 5 ≤ stringBytes strings :=
    List.single_le_sum (by simp) _ (List.mem_map_of_mem hs)
  omega

theorem host32_le32 (x : UInt32) (rest : List UInt8) : host32 (le32 x ++ rest) = (x, rest) := by
  have hlen : (le32 x).length = 4 := length_le32 x
  rw [host32, ← hlen, List.take_left, List.drop_left, ofLE32_le32]

theorem clientOf_code (c : ClientId) : clientOf c.code = some c := by
  cases c <;> rfl

theorem requestTypeOf_code (t : RequestType) : requestTypeOf t.code = some t := by
  cases t <;> rfl

namespace PmpProtocol

variable {p q q' : PmpProtocol} {r : Request}

/-- The header is read as it was written. -/
theorem onDataReceived_makeRequest (p q : PmpProtocol) (client : ClientId) (f : PMPFrame) :
    q.onDataReceived (p.makeRequest client f).2 =
      q.onRequest (some client) (some f.reqType) f.data := by
  have hlen : ¬ (p.makeRequest client f).2.length < PMP_FRAME_SIZE := by
    simp only [makeRequest, List.length_append, length_le32, PMP_FRAME_SIZE]
    omega
  rw [onDataReceived, if_neg hlen]
  simp only [makeRequest, host32_le32, clientOf_code, requestTypeOf_code]

/-- What a manager is after it was told of a request. -/
def told (q : PmpProtocol) (r : Request) : PmpProtocol :=
  if r = .ready then { q with mReady := true } else q

/-- A request is made, and the other side is told of it. -/
def Arrives (p q : PmpProtocol) (r : Request) : Prop :=
  ∃ p' frame, p.request r = some (p', frame) ∧ q.onDataReceived frame = some (q.told r, some r)

theorem arrives_iff_onRequest : Arrives p q r ↔
    ∃ f, r.frame = some f ∧
      q.onRequest (some r.client) (some f.reqType) f.data = some (q.told r, some r) := by
  constructor
  · rintro ⟨p', frame, hreq, hdata⟩
    obtain ⟨f, hf, hmake⟩ := Option.map_eq_some_iff.mp hreq
    have hframe : (p.makeRequest r.client f).2 = frame := congrArg Prod.snd hmake
    rw [← hframe, onDataReceived_makeRequest] at hdata
    exact ⟨f, hf, hdata⟩
  · rintro ⟨f, hf, hdata⟩
    have hreq : p.request r = some (p.makeRequest r.client f) := by
      rw [request, hf]
      rfl
    refine ⟨(p.makeRequest r.client f).1, (p.makeRequest r.client f).2, hreq, ?_⟩
    rw [onDataReceived_makeRequest]
    exact hdata

theorem arrives_bare (hframe : r.frame = bareFrame reqType)
    (hdata : q.onRequest (some r.client) (some reqType) [] = some (q.told r, some r)) :
    Arrives p q r :=
  arrives_iff_onRequest.mpr ⟨⟨reqType, _, []⟩, by rw [hframe]; rfl, hdata⟩

theorem arrives_strings {strings : List Uid} (hframe : r.frame = stringsFrame reqType strings)
    (hdata : ∀ data, readStrings strings.length data = some strings →
      q.onRequest (some r.client) (some reqType) data = some (q.told r, some r)) :
    Arrives p q r ↔ PMP_FRAME_SIZE + stringBytes strings < 4294967296 := by
  rw [arrives_iff_onRequest, hframe]
  constructor
  · rintro ⟨f, hf, -⟩
    exact (stringsFrame_eq_some.mp hf).1
  · intro hfits
    refine ⟨_, stringsFrame_eq_some.mpr ⟨hfits, rfl⟩, hdata _ ?_⟩
    have hread := readStrings_flatMap (fun s hs => length_lt_of_fits hfits hs) []
    rwa [List.append_nil] at hread

/-- One string is read as the first of a list. -/
theorem readStrings_one {id : Uid} {data : List UInt8}
    (h : readStrings [id].length data = some [id]) : bufferToString data = some id := by
  rw [List.length_singleton, readStrings] at h
  cases hid : bufferToString data with
  | none =>
    rw [hid] at h
    cases h
  | some str =>
    rw [hid] at h
    simp only [readStrings, Option.map_some, Option.some.injEq, List.cons.injEq, and_true] at h
    rw [h]

theorem arrives_one {id : Uid} (hframe : r.frame = stringsFrame reqType [id])
    (hdata : ∀ data, bufferToString data = some id →
      q.onRequest (some r.client) (some reqType) data = some (q.told r, some r)) :
    Arrives p q r ↔ PMP_FRAME_SIZE + stringBytes [id] < 4294967296 :=
  arrives_strings hframe fun data hread => hdata data (readStrings_one hread)

theorem onRequest_complements (q : PmpProtocol) (data : List UInt8) :
    q.onRequest (some .PMP_CLIENT_CORE) (some .PMP_REQ_CORE_GET_COMPLEMENTS_RESPONSE) data =
      (onGetAvailableProfileComplementsResponse data).map fun complements =>
        (q, some (.getAvailableProfileComplementsResponse complements)) := by
  rw [onRequest, onCoreRequest, Option.map_map]
  rfl

theorem onRequest_services (q : PmpProtocol) (data : List UInt8) :
    q.onRequest (some .PMP_CLIENT_SESSION) (some .PMP_REQ_SESSION_SEND_WAITING_SERVICES) data =
      (onReceivedServicesList data).map fun services =>
        (q, some (.sendWaitingServicesList services)) := by
  rw [onRequest, onSessionRequest, Option.map_map]
  rfl

theorem counted_of_complements {complements : List (Uid × UInt32)}
    (h : onGetAvailableProfileComplementsResponse data = some complements) :
    4 + (complements.map (·.1.length + 9)).sum ≤ INT_MAX := by
  rw [onGetAvailableProfileComplementsResponse] at h
  split at h
  · cases h
  · exact readComplements_counted h (by decide)

theorem counted_of_services {services : List Uid}
    (h : onReceivedServicesList data = some services) :
    4 + (services.map (·.length + 5)).sum ≤ INT_MAX := by
  rw [onReceivedServicesList] at h
  split at h
  · cases h
  · exact readServices_counted h (by decide)

theorem arrives_complements {complements : List (Uid × UInt32)} :
    Arrives p q (.getAvailableProfileComplementsResponse complements) ↔
      4 + (complements.map (·.1.length + 9)).sum ≤ INT_MAX := by
  have hclient : (Request.getAvailableProfileComplementsResponse complements).client =
      .PMP_CLIENT_CORE := rfl
  have htold : q.told (.getAvailableProfileComplementsResponse complements) = q :=
    if_neg (by simp)
  rw [arrives_iff_onRequest, hclient, htold]
  constructor
  · rintro ⟨f, hf, hdata⟩
    obtain ⟨hsize, rfl⟩ := newFrame_eq_some.mp hf
    rw [onRequest_complements] at hdata
    obtain ⟨complements', hread, heq⟩ := Option.map_eq_some_iff.mp hdata
    simp only [Prod.mk.injEq, Option.some.injEq, true_and,
      Request.getAvailableProfileComplementsResponse.injEq] at heq
    exact counted_of_complements (heq ▸ hread)
  · intro hfits
    have hcarries := (carriesComplements_iff complements).mpr hfits
    refine ⟨_, newFrame_eq_some.mpr ⟨Nat.le_of_eq hcarries.size, rfl⟩, ?_⟩
    rw [onRequest_complements, hcarries.read]
    rfl

theorem arrives_services {services : List Uid} :
    Arrives p q (.sendWaitingServicesList services) ↔
      4 + (services.map (·.length + 5)).sum ≤ INT_MAX := by
  have hclient : (Request.sendWaitingServicesList services).client = .PMP_CLIENT_SESSION := rfl
  have htold : q.told (.sendWaitingServicesList services) = q := if_neg (by simp)
  rw [arrives_iff_onRequest, hclient, htold]
  constructor
  · rintro ⟨f, hf, hdata⟩
    obtain ⟨hsize, rfl⟩ := newFrame_eq_some.mp hf
    rw [onRequest_services] at hdata
    obtain ⟨services', hread, heq⟩ := Option.map_eq_some_iff.mp hdata
    simp only [Prod.mk.injEq, Option.some.injEq, true_and,
      Request.sendWaitingServicesList.injEq] at heq
    exact counted_of_services (heq ▸ hread)
  · intro hfits
    have hcarries := (carriesServices_iff services).mpr hfits
    refine ⟨_, newFrame_eq_some.mpr ⟨Nat.le_of_eq hcarries.size, rfl⟩, ?_⟩
    rw [onRequest_services, hcarries.read]
    rfl

/-- **A request arrives exactly if it fits.** -/
theorem arrives_iff (p q : PmpProtocol) (r : Request) : Arrives p q r ↔ r.Fits := by
  cases r with
  | getAvailableProfileComplementsRequest => exact iff_of_true (arrives_bare rfl rfl) trivial
  | getAvailableProfileComplementsResponse complements => exact arrives_complements
  | reloadProfilesFromRepository => exact iff_of_true (arrives_bare rfl rfl) trivial
  | resetProfileState => exact iff_of_true (arrives_bare rfl rfl) trivial
  | lock id =>
    refine arrives_one rfl fun data h => ?_
    simp [onRequest, onCoreRequest, h, told, Request.client]
  | unlock id =>
    refine arrives_one rfl fun data h => ?_
    simp [onRequest, onCoreRequest, h, told, Request.client]
  | lockAll => exact iff_of_true (arrives_bare rfl rfl) trivial
  | unlockAll => exact iff_of_true (arrives_bare rfl rfl) trivial
  | disableByClient id =>
    refine arrives_one rfl fun data h => ?_
    simp [onRequest, onCoreRequest, h, told, Request.client]
  | enableByClient id =>
    refine arrives_one rfl fun data h => ?_
    simp [onRequest, onCoreRequest, h, told, Request.client]
  | enableByClientAll => exact iff_of_true (arrives_bare rfl rfl) trivial
  | createProfile profileUid piuid sid =>
    refine arrives_strings rfl fun data h => ?_
    simp only [List.length_cons, List.length_nil] at h
    simp [onRequest, onPimRequest, h, told, Request.client]
  | profileDied piuid sid =>
    refine arrives_strings rfl fun data h => ?_
    simp only [List.length_cons, List.length_nil] at h
    simp [onRequest, onPimRequest, h, told, Request.client]
  | ready => exact iff_of_true (arrives_bare rfl rfl) trivial
  | sendNegotiateNumber number =>
    refine iff_of_true (arrives_iff_onRequest.mpr ?_) trivial
    refine ⟨_, newFrame_eq_some.mpr ⟨by simp [PMP_FRAME_SIZE], rfl⟩, ?_⟩
    have hread := readUInt32_le32 number []
    rw [List.append_nil] at hread
    simp [onRequest, onSessionRequest, hread, told, Request.client]
  | sendWaitingServicesList services => exact arrives_services

/-! ## One request after the other -/

theorem told_of_map {x : Option (Option Request)} (hready : x ≠ some (some .ready))
    (h : x.map (q, ·) = some (q', some r)) : q' = q.told r := by
  obtain ⟨event, hx, heq⟩ := Option.map_eq_some_iff.mp h
  obtain ⟨rfl, rfl⟩ := Prod.mk.inj heq
  have hne : r ≠ .ready := by
    rintro rfl
    exact hready hx
  exact (if_neg hne).symm

/-- Only the client that tells of readiness makes a manager ready. -/
theorem told_of_onRequest {client : Option ClientId} {reqType : Option RequestType}
    (h : q.onRequest client reqType data = some (q', some r)) : q' = q.told r := by
  unfold onRequest at h
  split at h
  · refine told_of_map ?_ h
    unfold onCoreRequest
    split <;> simp
  · refine told_of_map ?_ h
    unfold onPimRequest
    split <;> (try split) <;> simp
  · cases hready : onCmpMgrRequest reqType with
    | none =>
      rw [hready] at h
      cases h
    | some event =>
      rw [hready] at h
      obtain ⟨rfl, htold⟩ := Prod.mk.inj (Option.some.inj h)
      obtain rfl := Option.some.inj htold
      have hevent : event = .ready := by
        unfold onCmpMgrRequest at hready
        split at hready
        · exact (Option.some.inj hready).symm
        · cases hready
      exact (if_pos hevent).symm
  · refine told_of_map ?_ h
    unfold onSessionRequest
    split <;> simp
  · cases h

theorem told_of_onDataReceived (h : q.onDataReceived data = some (q', some r)) :
    q' = q.told r := by
  rw [onDataReceived] at h
  split at h
  · cases h
  · exact told_of_onRequest h

/-- **Any number of requests arrive**, each as it was made and in their order, exactly if every one
of them fits. -/
theorem requests_arrive_iff (p q : PmpProtocol) (rs : List Request) :
    (∃ p' frames, p.requests rs = some (p', frames) ∧
      q.events frames = some (rs.foldl told q, rs.map some)) ↔ ∀ r ∈ rs, r.Fits := by
  induction rs generalizing p q with
  | nil => exact iff_of_true ⟨p, [], rfl, rfl⟩ (List.forall_mem_nil _)
  | cons r rs ih =>
    rw [List.forall_mem_cons, ← arrives_iff p q r]
    constructor
    · rintro ⟨p', frames, hreqs, hevents⟩
      rw [requests] at hreqs
      cases hreq : p.request r with
      | none =>
        rw [hreq] at hreqs
        cases hreqs
      | some it =>
        obtain ⟨p₁, frame⟩ := it
        rw [hreq] at hreqs
        obtain ⟨⟨p₂, frames'⟩, hrest, heq⟩ := Option.map_eq_some_iff.mp hreqs
        obtain ⟨rfl, rfl⟩ := Prod.mk.inj heq
        rw [events] at hevents
        cases hdata : q.onDataReceived frame with
        | none =>
          rw [hdata] at hevents
          cases hevents
        | some it =>
          obtain ⟨q₁, event⟩ := it
          rw [hdata] at hevents
          obtain ⟨⟨q₂, tail⟩, htail, heq⟩ := Option.map_eq_some_iff.mp hevents
          obtain ⟨rfl, hlist⟩ := Prod.mk.inj heq
          obtain ⟨rfl, rfl⟩ := List.cons.inj hlist
          obtain rfl := told_of_onDataReceived hdata
          exact ⟨⟨p₁, frame, hreq, hdata⟩, (ih p₁ _).mp ⟨_, _, hrest, htail⟩⟩
    · rintro ⟨⟨p₁, frame, hreq, hdata⟩, hfits⟩
      obtain ⟨p', frames, hrest, htail⟩ := (ih p₁ (q.told r)).mpr hfits
      refine ⟨p', frame :: frames, ?_, ?_⟩
      · rw [requests, hreq]
        dsimp only
        rw [hrest]
        rfl
      · rw [events, hdata]
        dsimp only
        rw [htail]
        rfl

end PmpProtocol

end IviLink.ProfileManager.PmpFrames
