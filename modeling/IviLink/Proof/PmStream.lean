import IviLink.Proof.IpcStream
import IviLink.Proof.PmMessages

/-!
# Calls over the socket

The messages between an application and the profile manager go over a stream socket as triggers,
one behind the other. As long as every payload comes in one piece, each of them leads to its
handler, in the order in which they were sent, whatever is left in the buffers of both ends.
-/

namespace IviLink.ProfileManager.Ipc

open IviLink.Lib IviLink.Ipc.Helpers
open IviLink.Ipc (MsgId DirectionId Receiver Idle WholePayloads feed)
open IviLink.PMP.Ipc (DirectionID PmpIpcProtocol.OnAsyncRequest)
open IviLink.PMAL.Ipc (CPMALComponentMgr CIpcProtocol.OnAsyncRequest)

variable {type : UInt16} {fields : List Value} {writeBuf : List UInt8} {req : Request}
  {dir : DirectionId} {w : Receiver} {cs : List (List UInt8)}

/-- The buffer has what is sent, and the socket's buffer has room for it. -/
theorem length_payload (hbuf : writeBuf.length = BUFFER_SIZE.toNat)
    (h : request type fields writeBuf = some req) :
    req.payload.length = req.reqSize.toNat ∧ req.reqSize ≠ 0 ∧
      req.reqSize.toNat ≤ IviLink.Ipc.BUFFER_SIZE := by
  have hnew : (CBufferWriter.new (writeBuf.drop sizeofHeader.toNat)
      (BUFFER_SIZE - sizeofHeader)).Valid := by
    refine CBufferWriter.valid_new ?_
    rw [List.length_drop, hbuf]
    rfl
  have hwrote := wrote_writeFields fields hnew
  rw [request] at h
  generalize writeFields fields (.new (writeBuf.drop sizeofHeader.toNat)
    (BUFFER_SIZE - sizeofHeader)) = r at h hwrote
  split at h
  · obtain rfl := Option.some.inj h
    have hvalid := hwrote.grown.valid
    have hfull : r.2.mFullSize.toNat = 4090 := congrArg UInt32.toNat hwrote.grown.full
    have hused := hvalid.used_le
    have hreq : (sizeofHeader + r.2.mUsedSize).toNat = 6 + r.2.mUsedSize.toNat := by
      rw [UInt32.toNat_add]
      exact Nat.mod_eq_of_lt (show 6 + r.2.mUsedSize.toNat < 2 ^ 32 by omega)
    refine ⟨?_, ?_, ?_⟩
    · rw [Request.payload, List.length_take, hreq]
      simp only [List.length_append, length_le16, length_le32, hvalid.holds]
      omega
    · intro hzero
      have hnone : (sizeofHeader + r.2.mUsedSize).toNat = 0 := congrArg UInt32.toNat hzero
      omega
    · rw [hreq, IviLink.Ipc.BUFFER_SIZE]
      omega
  · cases h

variable {κ : Type} {send : κ → List UInt8 → Option Request}

/-- A call that has been given to `asyncRequest`, from the buffer that it was written into. -/
structure Sent (send : κ → List UInt8 → Option Request) where
  id : MsgId
  call : κ
  writeBuf : List UInt8
  req : Request
  room : writeBuf.length = BUFFER_SIZE.toNat
  sent : send call writeBuf = some req

/-- What `CIpc::asyncRequest` sends. -/
def Sent.message (s : Sent send) : IviLink.Ipc.Message := ⟨.trigger, s.id, s.req.payload⟩

/-- The event by which it is handed on. -/
def Sent.event (dir : DirectionId) (s : Sent send) : IviLink.Ipc.Event :=
  .trigger s.id s.req.payload (some dir)

theorem expected_triggers (dir : DirectionId) (ss : List (Sent send))
    (reqs : MsgId → Option IviLink.Ipc.RequestData) :
    IviLink.Ipc.expected dir reqs (ss.map Sent.message) = ss.map (Sent.event dir) := by
  induction ss generalizing reqs with
  | nil => rfl
  | cons s ss ih =>
    rw [List.map_cons, List.map_cons, IviLink.Ipc.expected, ih]
    rfl

/-- All calls of a protocol are sent by `request`. -/
def ByRequest (send : κ → List UInt8 → Option Request) (type : κ → UInt16)
    (fields : κ → List Value) : Prop :=
  ∀ c, send c = request (type c) (fields c)

variable {type : κ → UInt16} {fields : κ → List Value}

/-- **Messages arrive** in their order, and nothing else does. -/
theorem feed_sent (hsend : ByRequest send type fields) (hw : Idle w) (ss : List (Sent send))
    (hcs : WholePayloads (ss.map Sent.message) cs) :
    ∃ w', feed dir w cs = .ok (w', ss.map (Sent.event dir)) ∧ Idle w' := by
  have hlen : ∀ m ∈ ss.map Sent.message, m.payload.length ≤ IviLink.Ipc.BUFFER_SIZE := by
    intro m hm
    obtain ⟨s, -, rfl⟩ := List.mem_map.mp hm
    have hsent := s.sent
    rw [hsend] at hsent
    obtain ⟨hpayload, -, hle⟩ := length_payload s.room hsent
    exact hpayload ▸ hle
  obtain ⟨w', hfeed, hidle⟩ := IviLink.Ipc.decoded_of_wholePayloads dir hw hlen hcs
  rw [expected_triggers] at hfeed
  exact ⟨w', hfeed, hidle⟩

/-- Each message is read as it was written, by its receiver's `OnAsyncRequest`. -/
theorem Sent.carries {ρ : Type} (hsend : ByRequest send type fields) (s : Sent send)
    (behind : List UInt8) : ∃ msg, Carries msg (type s.call) (fields s.call) ∧
      ∀ switch : PmMessage → Received ρ,
        onAsyncRequest switch (s.req.payload ++ behind) (UInt32.ofNat s.req.payload.length) =
          switch msg := by
  have hsent := s.sent
  rw [hsend] at hsent
  have hsize : UInt32.ofNat s.req.payload.length = s.req.reqSize := by
    rw [(length_payload s.room hsent).1, UInt32.ofNat_toNat]
  rw [hsize]
  exact carries_of_request s.room hsent behind

/-! ## Both directions -/

/-- `PmpIpcProtocol::OnAsyncRequest`, with what lies behind the payload. -/
def handledByPmp (behind : List UInt8) : IviLink.Ipc.Event → Received PMP.Ipc.HandlerCall
  | .trigger _ payload (some dirId) =>
    PmpIpcProtocol.OnAsyncRequest (Int32.ofInt dirId) (payload ++ behind)
      (UInt32.ofNat payload.length)
  | _ => .calls []

/-- `CIpcProtocol::OnAsyncRequest` -/
def handledByPmal (mgr : Option CPMALComponentMgr) (behind : List UInt8) :
    IviLink.Ipc.Event → Received PMAL.Ipc.HandlerCall
  | .trigger _ payload (some _) =>
    CIpcProtocol.OnAsyncRequest mgr (payload ++ behind) (UInt32.ofNat payload.length)
  | _ => .calls []

theorem handledByPmp_event (s : Sent PMAL.Ipc.Call.send) (hs : Whole s.call.fields)
    (behind : List UInt8) :
    handledByPmp behind (s.event dir) = .calls [s.call.handler (Int32.ofInt dir)] := by
  obtain ⟨msg, hmsg, hswitch⟩ := s.carries PMAL.Ipc.Call.send_eq behind
  rw [Sent.event, handledByPmp]
  exact (PMAL.Ipc.handler_iff hmsg hswitch).mpr hs

theorem handledByPmal_event (s : Sent PMP.Ipc.Call.send) (hs : Whole s.call.fields)
    (behind : List UInt8) :
    handledByPmal (some ⟨true⟩) behind (s.event dir) = .calls [s.call.handler] := by
  obtain ⟨msg, hmsg, hswitch⟩ := s.carries PMP.Ipc.Call.send_eq behind
  rw [Sent.event, handledByPmal]
  exact (PMP.Ipc.handler_iff hmsg hswitch).mpr ⟨hs, fun _ => rfl⟩

/-- The pieces of a stream in which each header and each payload is one. -/
def inPieces (ss : List (Sent send)) : List (List UInt8) :=
  ss.flatMap fun s => [s.message.header.bytes, s.req.payload]

theorem wholePayloads_inPieces (hsend : ByRequest send type fields) (ss : List (Sent send)) :
    WholePayloads (ss.map Sent.message) (inPieces ss) := by
  induction ss with
  | nil => rfl
  | cons s ss ih =>
    have hsent := s.sent
    rw [hsend] at hsent
    obtain ⟨hlen, hpos, -⟩ := length_payload s.room hsent
    have hpayload : s.message.payload ≠ [] := by
      intro hnil
      have hzero : s.req.reqSize.toNat = 0 := by
        rw [← hlen]
        exact congrArg List.length hnil
      exact hpos (UInt32.toNat_inj.mp hzero)
    refine ⟨[s.message.header.bytes], inPieces ss, ?_, List.append_nil _, ?_, ih⟩
    · intro c hc
      rw [List.mem_singleton.mp hc]
      refine List.ne_nil_of_length_pos ?_
      rw [IviLink.Ipc.MsgHeader.length_bytes]
      decide
    · rw [if_neg hpayload]
      rfl

/-- A call that is written into a buffer with nothing in it. -/
def sentOf (id : MsgId) (call : κ) (h : (send call cleanBuf).isSome = true) : Sent send :=
  ⟨id, call, cleanBuf, (send call cleanBuf).get h, length_cleanBuf, (Option.some_get h).symm⟩

def twoCalls : List (Sent PMAL.Ipc.Call.send) :=
  [sentOf 1 (.disableByUid [97]) rfl, sentOf 2 (.readyToServe [98]) rfl]

def oneAnswer : List (Sent PMP.Ipc.Call.send) := [sentOf 1 (.generatePIUidResponse [99]) rfl]

end IviLink.ProfileManager.Ipc
