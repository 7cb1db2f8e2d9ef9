import IviLink.Proof.ReceiverSafety

/-!
# Requests and their responses

Beside the process runs a record of what the peers sent (`Traced`): the messages
that have come whole, and the bytes of the one that is coming. It is kept from
the bytes alone. The socket follows it (`Receiver.Follows`): it is between two
messages when the record is, and knows of the message that is coming what its
header says. A message that is complete is either kept from every caller, or is
a response stored for the one call that waits for its id (`Delivered`).

A call takes the size from the container and gives up its entry in two steps,
and a second response that comes between them is still stored in its buffer.
That is the one way for a caller to get bytes that no response has, as long as
payloads come in one piece.
-/

namespace IviLink.Ipc

open IviLink.Lib

/-! ## What the peers sent -/

/-- A process, and what has been read from its sockets. -/
structure Traced where
  ipc : CIpc
  /-- The messages that came whole, each as its header and its payload. -/
  messages : List (MsgHeader × List UInt8)
  /-- The bytes of the message that is coming. -/
  begun : List UInt8

/-- The bytes of a message after some more have come, and the message if these complete it. -/
def collect (begun c : List UInt8) : Option (MsgHeader × List UInt8) × List UInt8 :=
  let l := begun ++ c
  if l.length ≥ MSG_HEADER_SIZE ∧ l.length = MSG_HEADER_SIZE + (MsgHeader.ofBytes l).size.toNat then
    (some (MsgHeader.ofBytes l, l.drop MSG_HEADER_SIZE), [])
  else (none, l)

/-- The record after a step that left the process in `s`. What had come of a message is void
when its direction is lost. -/
def Traced.after (t : Traced) (s : CIpc) : Activity → Traced
  | .readable _ (.bytes c) =>
    ⟨s, t.messages ++ (collect t.begun c).1.toList, (collect t.begun c).2⟩
  | .readable _ _ => ⟨s, t.messages, []⟩
  | .closed dir =>
    ⟨s, t.messages, if t.ipc.receiver.socket.readingSocket = some dir then [] else t.begun⟩
  | _ => ⟨s, t.messages, t.begun⟩

/-- A step of the process, recorded. -/
def Traced.next (t : Traced) (a : Activity) : Option Traced :=
  (Ipc.next t.ipc a).map fun s => t.after s a

/-- The socket knows of the message that is coming what has come of it. -/
structure Receiver.Follows (begun : List UInt8) (w : Receiver) : Prop where
  header : w.socket.mode = .header →
    w.socket.haveInBuffer = begun.length ∧ w.socket.buffer.take begun.length = begun
  payload : w.socket.mode ≠ .header → begun.length = MSG_HEADER_SIZE ∧
    w.socket.haveInBuffer = 0 ∧
    w.socket.leftToReceive = (MsgHeader.ofBytes begun).size.toNat ∧
    w.socket.msgId = (MsgHeader.ofBytes begun).msgId
  response : w.socket.mode = .dataResp → (MsgHeader.ofBytes begun).isResponse = true

/-- The message was stored in the buffer of the call that waits for it, and the call signalled. -/
def Delivered (w w' : Receiver) (m : MsgHeader × List UInt8) : Prop :=
  m.1.isResponse = true ∧ ∃ d, w.requests m.1.msgId = some d ∧
    m.2.length ≤ (w.memory d.responseBuffer).length ∧
    w'.requests = Function.update w.requests m.1.msgId
      (some { d with bufferSize := m.2.length, recvSem := d.recvSem + 1 }) ∧
    w'.memory = Function.update w.memory d.responseBuffer
      (writeAt (w.memory d.responseBuffer) 0 m.2)

/-- No caller sees anything of what was read. -/
def Untouched (w w' : Receiver) : Prop := w'.memory = w.memory ∧ w'.requests = w.requests

section Collect

variable {begun c : List UInt8}

theorem collect_part (h : (begun ++ c).length < MSG_HEADER_SIZE) :
    collect begun c = (none, begun ++ c) := by
  unfold collect
  rw [if_neg]
  rintro ⟨hge, -⟩
  omega

theorem collect_header (h : (begun ++ c).length = MSG_HEADER_SIZE) :
    collect begun c = if (MsgHeader.ofBytes (begun ++ c)).size.toNat = 0 then
      (some (MsgHeader.ofBytes (begun ++ c), []), []) else (none, begun ++ c) := by
  unfold collect
  simp only
  have hdrop : (begun ++ c).drop MSG_HEADER_SIZE = [] := by
    rw [← h, List.drop_length]
  by_cases hsize : (MsgHeader.ofBytes (begun ++ c)).size.toNat = 0
  · rw [if_pos ⟨by omega, by omega⟩, if_pos hsize, hdrop]
  · rw [if_neg (by omega), if_neg hsize]

theorem ofBytes_append (h : begun.length = MSG_HEADER_SIZE) :
    MsgHeader.ofBytes (begun ++ c) = MsgHeader.ofBytes begun := by
  rw [← ofBytes_take, List.take_left' h]

theorem collect_payload (h : begun.length = MSG_HEADER_SIZE)
    (hc : c.length = (MsgHeader.ofBytes begun).size.toNat) :
    collect begun c = (some (MsgHeader.ofBytes begun, c), []) := by
  unfold collect
  simp only [ofBytes_append h, List.length_append, h, hc]
  rw [if_pos ⟨by omega, trivial⟩, List.drop_left' h]

end Collect

/-- Between two messages the socket follows an empty record. -/
theorem follows_nil {w : Receiver} (hmode : w.socket.mode = .header)
    (hhave : w.socket.haveInBuffer = 0) : w.Follows [] where
  header := fun _ => ⟨hhave, rfl⟩
  payload := fun h => absurd hmode h
  response := fun h => absurd (hmode.symm.trans h) RecvMode.noConfusion

/-! ## A payload that comes in one piece -/

section Piece

variable {w : Receiver} {issued : List MsgId} {current : MsgId → Prop} {begun c : List UInt8}

/-- The payload of a request or trigger goes into `mBuffer`. -/
theorem follow_incoming (h : w.Sound issued current)
    (hincoming : w.socket.mode = .dataRequ ∨ w.socket.mode = .dataTrig)
    (hc : c ≠ []) (hhave : w.socket.haveInBuffer = 0) (hwhole : c.length = w.socket.leftToReceive)
    (dir : DirectionId) :
    ∃ w' evs, socketReady w dir (.bytes c) = .ok (w', evs, true) ∧ w'.socket.mode = .header ∧
      w'.socket.haveInBuffer = 0 ∧ Untouched w w' := by
  have hs := reading_ne_none w dir
  have hle : c.length ≤ (w.reading dir).socket.leftToReceive := Nat.le_of_eq hwhole
  obtain ⟨hbuf, hroom⟩ := (h.reading dir).intoOwn hincoming
  have hfit : (w.reading dir).socket.currentBuf.offset + c.length ≤
      ((w.reading dir).block (w.reading dir).socket.currentBuf.block).length := by
    rw [hbuf]
    show w.socket.haveInBuffer + c.length ≤ w.socket.buffer.length
    rw [h.toWellFormed.own, hhave, Nat.zero_add, hwhole]
    have hroom : w.socket.haveInBuffer + w.socket.leftToReceive ≤ BUFFER_SIZE := hroom
    omega
  obtain ⟨emit, hdata⟩ := consumeData_incoming hincoming dir (.bytes c)
  have hsum : (w.reading dir).socket.haveInBuffer + c.length =
      (w.reading dir).socket.leftToReceive := by
    show w.socket.haveInBuffer + c.length = w.socket.leftToReceive
    omega
  rw [consumeIncoming_eq hs hc hle hfit, if_pos (Nat.le_of_eq hsum), if_neg (by omega)] at hdata
  refine ⟨_, _, socketReady_good hdata rfl, rfl, rfl, ?_, write_requests ..⟩
  show ((w.reading dir).write (w.reading dir).socket.currentBuf c).memory = w.memory
  rw [hbuf]
  rfl

/-- The payload of a response nobody waits for goes into `mBuffer` as well. -/
theorem follow_unknown (h : w.Sound issued current) (hresp : w.socket.mode = .dataResp)
    (hunknown : w.unknown = true) (hc : c ≠ []) (hhave : w.socket.haveInBuffer = 0)
    (hwhole : c.length = w.socket.leftToReceive) (hown : c.length ≤ BUFFER_SIZE)
    (dir : DirectionId) :
    ∃ w' evs, socketReady w dir (.bytes c) = .ok (w', evs, true) ∧ w'.socket.mode = .header ∧
      w'.socket.haveInBuffer = 0 ∧ Untouched w w' := by
  have hs := reading_ne_none w dir
  have hle : c.length ≤ (w.reading dir).socket.leftToReceive := Nat.le_of_eq hwhole
  have hlock := lockData_unknown (w := w.reading dir) hunknown
  have hfit : (w.reading dir).lockData.socket.currentBuf.offset + c.length ≤
      ((w.reading dir).lockData.block (w.reading dir).lockData.socket.currentBuf.block).length := by
    rw [hlock]
    show 0 + c.length ≤ w.socket.buffer.length
    rw [h.toWellFormed.own, Nat.zero_add]
    exact hown
  have hdata := consumeData_response hresp dir (.bytes c)
  have hsum : (w.reading dir).socket.haveInBuffer + c.length =
      (w.reading dir).socket.leftToReceive := by
    show w.socket.haveInBuffer + c.length = w.socket.leftToReceive
    omega
  rw [consumeResponseData_eq hs hc hle hfit, if_pos (Nat.le_of_eq hsum), if_neg (by omega), hlock]
    at hdata
  exact ⟨_, _, socketReady_good hdata rfl, rfl, rfl, rfl, rfl⟩

/-- The payload of a response to the call that waits goes into that call's buffer. -/
theorem follow_known (h : w.Sound issued current) (hf : w.Follows begun)
    (hresp : w.socket.mode = .dataResp) (hknown : w.unknown = false) (hc : c ≠ [])
    (hwhole : c.length = w.socket.leftToReceive) (dir : DirectionId) :
    ∃ w' evs, socketReady w dir (.bytes c) = .ok (w', evs, true) ∧ w'.socket.mode = .header ∧
      w'.socket.haveInBuffer = 0 ∧ Delivered w w' (MsgHeader.ofBytes begun, c) := by
  have hmode : w.socket.mode ≠ .header := by
    rw [hresp]
    exact RecvMode.noConfusion
  obtain ⟨-, hhave, -, hid⟩ := hf.payload hmode
  have hs := reading_ne_none w dir
  have hle : c.length ≤ (w.reading dir).socket.leftToReceive := Nat.le_of_eq hwhole
  have hlock := lockData_known (w := w.reading dir) hknown
  unfold Receiver.unknown at hknown
  rw [Bool.or_eq_false_iff] at hknown
  obtain ⟨d, hd⟩ := Option.isSome_iff_exists.mp (Option.isNone_eq_false_iff.mp hknown.2)
  obtain ⟨hbuf, hroom⟩ := (h.intoResponse hresp hknown.1).2 d hd
  rw [hhave] at hbuf
  have hfits : c.length ≤ (w.memory d.responseBuffer).length := by omega
  have hfit : (w.reading dir).lockData.socket.currentBuf.offset + c.length ≤
      ((w.reading dir).lockData.block (w.reading dir).lockData.socket.currentBuf.block).length := by
    rw [hlock]
    show w.socket.currentBuf.offset + c.length ≤ (w.block w.socket.currentBuf.block).length
    rw [hbuf]
    show 0 + c.length ≤ (w.memory d.responseBuffer).length
    omega
  have hdata := consumeData_response hresp dir (.bytes c)
  have hsum : (w.reading dir).socket.haveInBuffer + c.length =
      (w.reading dir).socket.leftToReceive := by
    show w.socket.haveInBuffer + c.length = w.socket.leftToReceive
    omega
  rw [consumeResponseData_eq hs hc hle hfit, if_pos (Nat.le_of_eq hsum), if_neg (by omega), hlock]
    at hdata
  have hunknown : ((w.reading dir).piece c).socket.unknownResponse = false :=
    (write_unknownResponse ..).trans hknown.1
  have hfinish : ((w.reading dir).piece c).finishResponse =
      (((w.reading dir).piece c).signalResponse.toHeader,
        [.response ((w.reading dir).piece c).socket.msgId (((w.reading dir).piece c).load
          ((w.reading dir).piece c).socket.currentBufBegin
          ((w.reading dir).piece c).socket.haveInBuffer)], true) := by
    unfold Receiver.finishResponse
    simp only [hunknown, Bool.false_eq_true, if_false]
  rw [hfinish] at hdata
  -- what the piece leaves where the entry and the buffer of the caller are concerned
  have hmemory : ((w.reading dir).piece c).memory = Function.update w.memory d.responseBuffer
      (writeAt (w.memory d.responseBuffer) 0 c) := by
    show ((w.reading dir).write (w.reading dir).socket.currentBuf c).memory = _
    rw [show (w.reading dir).socket.currentBuf = ⟨.response d.responseBuffer, 0⟩ from hbuf]
    rfl
  have hrequests : ((w.reading dir).piece c).requests = w.requests := write_requests ..
  have hmsgId : ((w.reading dir).piece c).socket.msgId = w.socket.msgId := write_msgId ..
  have hcount : ((w.reading dir).piece c).socket.haveInBuffer = c.length := by
    show ((w.reading dir).write _ c).socket.haveInBuffer + c.length = c.length
    rw [write_haveInBuffer]
    show w.socket.haveInBuffer + c.length = c.length
    omega
  refine ⟨_, _, socketReady_good hdata rfl, rfl, rfl, hf.response hresp, d, ?_, hfits, ?_, hmemory⟩
  · rw [← hid]
    exact hd
  · show Function.update ((w.reading dir).piece c).requests _
      ((((w.reading dir).piece c).requests _).map _) = _
    rw [hrequests, hmsgId, hcount, hd, hid]
    rfl

/-- What a payload that comes in one piece does. -/
theorem follow_payload (h : w.Sound issued current) (hf : w.Follows begun)
    (hmode : w.socket.mode ≠ .header) (hc : c ≠ []) (hwhole : c.length = w.socket.leftToReceive)
    (hown : w.socket.mode = .dataResp → w.unknown = true → c.length ≤ BUFFER_SIZE)
    (dir : DirectionId) :
    ∃ w' evs, socketReady w dir (.bytes c) = .ok (w', evs, true) ∧
      w'.Follows (collect begun c).2 ∧
      (Untouched w w' ∨ ∃ m, (collect begun c).1 = some m ∧ w.socket.mode = .dataResp ∧
        m.1.msgId = w.socket.msgId ∧ Delivered w w' m) := by
  obtain ⟨hlen, hhave, hleft, hid⟩ := hf.payload hmode
  rw [collect_payload hlen (hwhole.trans hleft)]
  cases hm : w.socket.mode with
  | header => exact absurd hm hmode
  | dataRequ =>
    obtain ⟨w', evs, hw, hm', hh', hquiet⟩ := follow_incoming h (Or.inl hm) hc hhave hwhole dir
    exact ⟨w', evs, hw, follows_nil hm' hh', Or.inl hquiet⟩
  | dataTrig =>
    obtain ⟨w', evs, hw, hm', hh', hquiet⟩ := follow_incoming h (Or.inr hm) hc hhave hwhole dir
    exact ⟨w', evs, hw, follows_nil hm' hh', Or.inl hquiet⟩
  | dataResp =>
    cases hu : w.unknown with
    | true =>
      obtain ⟨w', evs, hw, hm', hh', hquiet⟩ :=
        follow_unknown h hm hu hc hhave hwhole (hown hm hu) dir
      exact ⟨w', evs, hw, follows_nil hm' hh', Or.inl hquiet⟩
    | false =>
      obtain ⟨w', evs, hw, hm', hh', hdel⟩ := follow_known h hf hm hu hc hwhole dir
      exact ⟨w', evs, hw, follows_nil hm' hh', Or.inr ⟨_, rfl, rfl, hid.symm, hdel⟩⟩

end Piece

/-! ## A piece of a header -/

section Header

variable {w : Receiver} {issued : List MsgId} {current : MsgId → Prop} {begun c : List UInt8}

/-- An empty response: the size in the entry is all that changes. -/
theorem deliver_empty {hdr : MsgHeader} (htype : hdr.isResponse = true) :
    ∃ w' evs, ((w.expect hdr .dataResp).expectResponse (w.waiting hdr)).lockData.finishResponse =
        (w', evs, true) ∧ w'.socket.mode = .header ∧ w'.socket.haveInBuffer = 0 ∧
      (Untouched w w' ∨ Delivered w w' (hdr, [])) := by
  cases hwait : w.waiting hdr with
  | none =>
    have hu : ((w.expect hdr .dataResp).expectResponse none).unknown = true := rfl
    rw [lockData_unknown hu]
    exact ⟨_, _, rfl, rfl, rfl, Or.inl ⟨rfl, rfl⟩⟩
  | some d =>
    have hd : w.requests hdr.msgId = some d := (Option.filter_eq_some_iff.mp hwait).1
    have hu : ((w.expect hdr .dataResp).expectResponse (some d)).unknown = false := by
      show (false || (w.requests hdr.msgId).isNone) = false
      rw [hd]
      rfl
    rw [lockData_known hu]
    refine ⟨_, _, rfl, rfl, rfl, Or.inr ⟨htype, d, hd, Nat.zero_le _, ?_, ?_⟩⟩
    · show Function.update w.requests hdr.msgId ((w.requests hdr.msgId).map _) = _
      rw [hd]
      rfl
    · show w.memory = _
      have hsame : writeAt (w.memory d.responseBuffer) 0 [] = w.memory d.responseBuffer := rfl
      rw [hsame, Function.update_eq_self]

/-- What a piece of a header does. -/
theorem follow_header (h : w.Sound issued current) (hf : w.Follows begun)
    (hmode : w.socket.mode = .header) (hc : c ≠ [])
    (hle : c.length ≤ MSG_HEADER_SIZE - w.socket.haveInBuffer) (hharmless : w.HarmlessWith c)
    (dir : DirectionId) :
    ∃ w' evs, socketReady w dir (.bytes c) = .ok (w', evs, true) ∧
      w'.Follows (collect begun c).2 ∧
      (Untouched w w' ∨
        ∃ m, (collect begun c).1 = some m ∧ m.2 = [] ∧ Delivered w w' m) := by
  obtain ⟨hhave, htake⟩ := hf.header hmode
  have hlt := h.header hmode
  have hown : w.socket.buffer.length = BUFFER_SIZE := h.toWellFormed.own
  have hs := reading_ne_none w dir
  have hdata := consumeData_header hmode dir (.bytes c)
  rw [consumeHeader_eq (w := w.reading dir) hown hs hlt hc hle] at hdata
  change _ = if w.socket.haveInBuffer + c.length < MSG_HEADER_SIZE then _
    else headerReady ((w.reading dir).write ⟨.own, w.socket.haveInBuffer⟩ c) at hdata
  have hlen : (begun ++ c).length = w.socket.haveInBuffer + c.length := by
    rw [List.length_append, hhave]
  unfold Receiver.HarmlessWith at hharmless
  rw [if_pos hmode] at hharmless
  by_cases hpart : w.socket.haveInBuffer + c.length < MSG_HEADER_SIZE
  · rw [if_pos hpart] at hdata
    rw [collect_part (by omega)]
    refine ⟨_, _, socketReady_good hdata rfl, ?_, Or.inl ⟨rfl, rfl⟩⟩
    have hroom : w.socket.haveInBuffer ≤ w.socket.buffer.length := by
      rw [hown]
      unfold MSG_HEADER_SIZE at hlt
      unfold BUFFER_SIZE
      omega
    constructor
    · intro _
      refine ⟨hlen.symm, ?_⟩
      rw [hlen]
      show (writeAt w.socket.buffer w.socket.haveInBuffer c).take _ = _
      rw [take_writeAt hroom, hhave, htake]
    · exact fun hm => absurd hmode hm
    · exact fun hm => absurd (hmode.symm.trans hm) RecvMode.noConfusion
  · have hsum : w.socket.haveInBuffer + c.length = MSG_HEADER_SIZE := by omega
    rw [if_neg hpart] at hdata
    have hhdr : MsgHeader.ofBytes ((w.reading dir).write ⟨.own, w.socket.haveInBuffer⟩ c
        ).socket.buffer = MsgHeader.ofBytes (begun ++ c) := by
      have hwrite := ofBytes_write (w := w.reading dir) hown hlt hsum
      unfold Receiver.announced at hwrite
      rw [show (w.reading dir).socket.buffer.take (w.reading dir).socket.haveInBuffer = begun by
        show w.socket.buffer.take w.socket.haveInBuffer = begun
        rw [hhave, htake]] at hwrite
      exact hwrite
    have hharmless := hharmless hsum
    unfold Receiver.announced at hharmless
    rw [hhave, htake] at hharmless
    rw [collect_header (by omega)]
    generalize hh : MsgHeader.ofBytes (begun ++ c) = hdr at hhdr hharmless ⊢
    unfold MsgHeader.Harmless at hharmless
    by_cases hincoming : (hdr.isRequest || hdr.isTrigger) = true
    · rw [if_pos hincoming] at hharmless
      rw [headerReady_incoming hhdr hincoming, if_pos hharmless.2] at hdata
      rw [if_neg (by omega)]
      have hm : (if hdr.isRequest then RecvMode.dataRequ else .dataTrig) ≠ .header ∧
          (if hdr.isRequest then RecvMode.dataRequ else .dataTrig) ≠ .dataResp := by
        split <;> exact ⟨RecvMode.noConfusion, RecvMode.noConfusion⟩
      refine ⟨_, _, socketReady_good hdata rfl, ?_, Or.inl ⟨rfl, rfl⟩⟩
      exact {
        header := fun h => absurd h hm.1
        payload := fun _ => ⟨hlen.trans hsum, rfl, by rw [hh]; rfl, by rw [hh]; rfl⟩
        response := fun h => absurd h hm.2 }
    · rw [if_neg hincoming] at hharmless
      rw [Bool.not_eq_true] at hincoming
      by_cases htype : hdr.isResponse = true
      · rw [headerReady_response hhdr hincoming htype] at hdata
        simp only at hdata
        by_cases hsize : hdr.size.toNat = 0
        · rw [if_pos hsize] at hdata ⊢
          obtain ⟨w', evs, hfinish, hm, hzero, hwhat⟩ := deliver_empty
            (w := (w.reading dir).write ⟨.own, w.socket.haveInBuffer⟩ c) htype
          rw [hfinish] at hdata
          refine ⟨w', evs, socketReady_good hdata rfl, follows_nil hm hzero, ?_⟩
          exact hwhat.imp id fun hdel => ⟨_, rfl, rfl, hdel⟩
        · rw [if_neg hsize] at hdata ⊢
          refine ⟨_, _, socketReady_good hdata rfl, ?_, Or.inl ⟨rfl, rfl⟩⟩
          exact {
            header := fun h => RecvMode.noConfusion h
            payload := fun _ => ⟨hlen.trans hsum, rfl, by rw [hh]; rfl, by rw [hh]; rfl⟩
            response := fun _ => by rw [hh]; exact htype }
      · -- no known type: nothing to come, and nothing of it in the buffer
        obtain ⟨hsize, hzero⟩ := hharmless.resolve_left htype
        have heq : headerReady ((w.reading dir).write ⟨.own, w.socket.haveInBuffer⟩ c) =
            .ok ({ (w.reading dir).write ⟨.own, w.socket.haveInBuffer⟩ c with
              socket := { ((w.reading dir).write ⟨.own, w.socket.haveInBuffer⟩ c).socket with
                msgId := hdr.msgId } }, [], true) := by
          unfold headerReady
          simp only [hhdr, hincoming, htype, Bool.false_eq_true, if_false]
        rw [heq] at hdata
        rw [if_pos hsize]
        refine ⟨_, _, socketReady_good hdata rfl, follows_nil hmode ?_, Or.inl ⟨rfl, rfl⟩⟩
        show w.socket.haveInBuffer = 0
        omega

end Header

/-! ## Calls -/

/-- These first `n` bytes of a buffer are the payload of a response with this id that came. -/
def Answer (messages : List (MsgHeader × List UInt8)) (id : MsgId) (n : Nat)
    (buffer : List UInt8) : Prop :=
  ∃ m ∈ messages, m.1.isResponse = true ∧ m.1.msgId = id ∧ m.2.length = n ∧ buffer.take n = m.2

theorem Answer.mono {messages messages' : List (MsgHeader × List UInt8)} {id : MsgId} {n : Nat}
    {buffer : List UInt8} (h : Answer messages id n buffer)
    (hsub : ∀ m ∈ messages, m ∈ messages') : Answer messages' id n buffer := by
  obtain ⟨m, hm, hrest⟩ := h
  exact ⟨m, hsub m hm, hrest⟩

/-- A successful call returned the size and the bytes of a response with its id, and the response
fits the buffer the caller gave. -/
def Returned.Correct (messages : List (MsgHeader × List UInt8)) (r : Returned) : Prop :=
  ∀ n bytes, r.result = .ok (n, bytes) → n ≤ r.bufferSize ∧
    ∃ m ∈ messages, m.1.isResponse = true ∧ m.1.msgId = r.id ∧ m.2.length = n ∧ m.2 = bytes

/-- What arrives does no harm, a payload comes in one piece, and no payload of a response comes
for a call that has taken its size and not yet given up its entry. -/
def Clean (t : Traced) : Activity → Prop
  | .readable _ (.bytes c) =>
    t.ipc.receiver.HarmlessWith c ∧
    (t.ipc.receiver.socket.mode ≠ .header → c.length = t.ipc.receiver.socket.leftToReceive) ∧
    (t.ipc.receiver.socket.mode = .dataResp → ∀ call n, t.ipc.call = some call →
      call.phase = .took (some n) → call.id ≠ t.ipc.receiver.socket.msgId)
  | _ => True

/-- What a read shows to the callers: nothing, or a response to the one that waits for it. -/
def Private (t : Traced) : Activity → Prop
  | .readable dir k => ∀ t', t.next (.readable dir k) = some t' →
    t'.ipc.receiver.memory = t.ipc.receiver.memory ∨
      ∃ m, t'.messages = t.messages ++ [m] ∧ Delivered t.ipc.receiver t'.ipc.receiver m
  | _ => True

/-- A process and its record belong together. -/
structure Correlated (t : Traced) : Prop where
  sound : t.ipc.Sound
  follows : t.ipc.receiver.Follows t.begun
  /-- The buffer of the call is as large as its caller said. -/
  room : ∀ c, t.ipc.call = some c →
    (t.ipc.receiver.memory c.responseBuffer).length = c.bufferSize
  /-- The entry of the call points to its buffer. -/
  entry : ∀ c d, t.ipc.call = some c → t.ipc.receiver.requests c.id = some d →
    d.responseBuffer = c.responseBuffer
  /-- Once it was signalled, the entry and the buffer hold a response. -/
  answered : ∀ c d, t.ipc.call = some c → t.ipc.receiver.requests c.id = some d →
    0 < d.recvSem ∨ c.phase ≠ .waiting →
    Answer t.messages c.id d.bufferSize (t.ipc.receiver.memory c.responseBuffer)
  /-- What the call took is the size of the response in its buffer. -/
  took : ∀ c n, t.ipc.call = some c → c.phase = .took (some n) →
    Answer t.messages c.id n (t.ipc.receiver.memory c.responseBuffer)
  returned : ∀ r ∈ t.ipc.returned, r.Correct t.messages

/-- A read of bytes, in terms of the record. -/
theorem follow_piece {t : Traced} {c : List UInt8} {dir : DirectionId} (h : Correlated t)
    (hc : c ≠ []) (hle : c.length ≤ t.ipc.receiver.asked)
    (hclean : Clean t (.readable dir (.bytes c))) :
    ∃ w' evs, socketReady t.ipc.receiver dir (.bytes c) = .ok (w', evs, true) ∧
      w'.Follows (collect t.begun c).2 ∧
      (Untouched t.ipc.receiver w' ∨ ∃ m, (collect t.begun c).1 = some m ∧
        Delivered t.ipc.receiver w' m ∧ (m.2 = [] ∨ ∀ call n, t.ipc.call = some call →
          call.phase = .took (some n) → call.id ≠ m.1.msgId)) := by
  obtain ⟨hharmless, hwhole, hfree⟩ := hclean
  by_cases hmode : t.ipc.receiver.socket.mode = .header
  · unfold Receiver.asked at hle
    rw [hmode] at hle
    obtain ⟨w', evs, hw, hf, hwhat⟩ :=
      follow_header h.sound.receiver h.follows hmode hc hle hharmless dir
    refine ⟨w', evs, hw, hf, hwhat.imp id ?_⟩
    rintro ⟨m, hm, hnil, hdel⟩
    exact ⟨m, hm, hdel, Or.inl hnil⟩
  · unfold Receiver.HarmlessWith at hharmless
    rw [if_neg hmode] at hharmless
    obtain ⟨w', evs, hw, hf, hwhat⟩ := follow_payload h.sound.receiver h.follows hmode hc
      (hwhole hmode) hharmless.2 dir
    refine ⟨w', evs, hw, hf, hwhat.imp id ?_⟩
    rintro ⟨m, hm, hresp, hid, hdel⟩
    refine ⟨m, hm, hdel, Or.inr ?_⟩
    rw [hid]
    exact hfree hresp

/-- Nothing the callers see has changed; more messages may have come. -/
theorem Correlated.untouched {t t' : Traced} (h : Correlated t) (hsound : t'.ipc.Sound)
    (hfollows : t'.ipc.receiver.Follows t'.begun)
    (hmemory : t'.ipc.receiver.memory = t.ipc.receiver.memory)
    (hsub : ∀ id d, t'.ipc.receiver.requests id = some d → t.ipc.receiver.requests id = some d)
    (hcall : t'.ipc.call = t.ipc.call) (hreturned : t'.ipc.returned = t.ipc.returned)
    (hmessages : ∀ m ∈ t.messages, m ∈ t'.messages) : Correlated t' where
  sound := hsound
  follows := hfollows
  room := by
    rw [hcall, hmemory]
    exact h.room
  entry := by
    intro c d hc hd
    rw [hcall] at hc
    exact h.entry c d hc (hsub _ _ hd)
  answered := by
    intro c d hc hd hsem
    rw [hcall] at hc
    rw [hmemory]
    exact (h.answered c d hc (hsub _ _ hd) hsem).mono hmessages
  took := by
    intro c n hc hphase
    rw [hcall] at hc
    rw [hmemory]
    exact (h.took c n hc hphase).mono hmessages
  returned := by
    intro r hr n bytes hok
    rw [hreturned] at hr
    obtain ⟨hle, m, hm, hrest⟩ := h.returned r hr n bytes hok
    exact ⟨hle, m, hmessages m hm, hrest⟩

/-- A response that was stored for a call which is still to take its size. -/
theorem Correlated.delivered {t t' : Traced} (h : Correlated t) {m : MsgHeader × List UInt8}
    (hsound : t'.ipc.Sound) (hfollows : t'.ipc.receiver.Follows t'.begun)
    (hdel : Delivered t.ipc.receiver t'.ipc.receiver m)
    (hfree : m.2 = [] ∨ ∀ call n, t.ipc.call = some call → call.phase = .took (some n) →
      call.id ≠ m.1.msgId)
    (hcall : t'.ipc.call = t.ipc.call) (hreturned : t'.ipc.returned = t.ipc.returned)
    (hmessages : t'.messages = t.messages ++ [m]) : Correlated t' := by
  obtain ⟨htype, d, hd, hfits, hrequests, hmemory⟩ := hdel
  obtain ⟨c₀, hc₀, hid⟩ := (h.sound.receiver.keys m.1.msgId (by rw [hd]; rfl)).2
  have hbuf : d.responseBuffer = c₀.responseBuffer := h.entry c₀ d hc₀ (hid ▸ hd)
  have hold : ∀ x ∈ t.messages, x ∈ t'.messages := by
    intro x hx
    rw [hmessages]
    exact List.mem_append_left _ hx
  have hnew : m ∈ t'.messages := by
    rw [hmessages]
    exact List.mem_append_right _ (List.mem_singleton_self m)
  have hmem₀ : t'.ipc.receiver.memory c₀.responseBuffer =
      writeAt (t.ipc.receiver.memory c₀.responseBuffer) 0 m.2 := by
    rw [hmemory, hbuf, Function.update_self]
  rw [hbuf] at hfits
  have hpayload : (t'.ipc.receiver.memory c₀.responseBuffer).take m.2.length = m.2 := by
    rw [hmem₀]
    have htake := take_writeAt (l := m.2) (Nat.zero_le
      (t.ipc.receiver.memory c₀.responseBuffer).length)
    rw [Nat.zero_add, List.take_zero, List.nil_append] at htake
    exact htake
  constructor
  case sound => exact hsound
  case follows => exact hfollows
  case room =>
    intro c hc
    rw [hcall, hc₀] at hc
    obtain rfl := Option.some.inj hc
    rw [hmem₀, length_writeAt (by omega)]
    exact h.room c₀ hc₀
  case entry =>
    intro c d' hc hd'
    rw [hcall, hc₀] at hc
    obtain rfl := Option.some.inj hc
    rw [hrequests, hid, Function.update_self] at hd'
    cases hd'
    exact hbuf
  case answered =>
    intro c d' hc hd' _
    rw [hcall, hc₀] at hc
    obtain rfl := Option.some.inj hc
    rw [hrequests, hid, Function.update_self] at hd'
    cases hd'
    exact ⟨m, hnew, htype, hid.symm, rfl, hpayload⟩
  case took =>
    intro c n hc hphase
    rw [hcall] at hc
    have hc' := hc
    rw [hc₀] at hc'
    obtain rfl := Option.some.inj hc'
    rcases hfree with hnil | hfree
    · -- an empty response writes nothing
      rw [hmem₀, hnil]
      exact (h.took c₀ n hc hphase).mono hold
    · exact absurd hid (hfree c₀ n hc hphase)
  case returned =>
    intro r hr n bytes hok
    rw [hreturned] at hr
    obtain ⟨hle, x, hx, hrest⟩ := h.returned r hr n bytes hok
    exact ⟨hle, x, hold x hx, hrest⟩

theorem Traced.next_eq {t : Traced} {a : Activity} {s : CIpc} (h : act t.ipc a = .ok s) :
    t.next a = some (t.after s a) := by
  unfold Traced.next Ipc.next
  rw [h]
  rfl

/-- A read: of bytes, or one that fails. -/
theorem correlated_readable {t : Traced} {dir : DirectionId} {k : Kernel} (h : Correlated t)
    (hen : Enabled t.ipc (.readable dir k)) (hclean : Clean t (.readable dir k)) :
    ∃ t', t.next (.readable dir k) = some t' ∧ Correlated t' ∧
      (t'.ipc.receiver.memory = t.ipc.receiver.memory ∨
        ∃ m, t'.messages = t.messages ++ [m] ∧ Delivered t.ipc.receiver t'.ipc.receiver m) := by
  have hharmless : Harmless t.ipc (.readable dir k) := by
    cases k with
    | bytes c => exact hclean.1
    | eof | error => exact trivial
  obtain ⟨s, hact, hsound⟩ := sound_step h.sound hen hharmless
  refine ⟨_, Traced.next_eq hact, ?_⟩
  simp only [act] at hact
  -- a read that fails costs the direction
  have hlost : k = .eof ∨ k = .error →
      Correlated ⟨s, t.messages, []⟩ ∧ s.receiver.memory = t.ipc.receiver.memory := by
    intro hk
    obtain ⟨w', evs, hw, -, hmode, hhave, hmemory, hsub⟩ := lost_sound h.sound.receiver hk dir
    rw [hw] at hact
    cases hact
    exact ⟨h.untouched hsound (follows_nil hmode hhave) hmemory hsub rfl rfl fun m hm => hm,
      hmemory⟩
  cases k with
  | eof => exact ⟨(hlost (Or.inl rfl)).1, Or.inl (hlost (Or.inl rfl)).2⟩
  | error => exact ⟨(hlost (Or.inr rfl)).1, Or.inl (hlost (Or.inr rfl)).2⟩
  | bytes c =>
    obtain ⟨w', evs, hw, hf, hwhat⟩ := follow_piece h hen.1 hen.2 hclean
    rw [hw] at hact
    cases hact
    rcases hwhat with ⟨hmemory, hrequests⟩ | ⟨m, hm, hdel, hfree⟩
    · refine ⟨h.untouched hsound hf hmemory ?_ rfl rfl ?_, Or.inl hmemory⟩
      · intro id d hd
        rw [← hrequests]
        exact hd
      · intro m hm
        exact List.mem_append_left _ hm
    · have hmessages : t.messages ++ (collect t.begun c).1.toList = t.messages ++ [m] := by
        rw [hm]
        rfl
      exact ⟨h.delivered hsound hf hdel hfree rfl rfl hmessages, Or.inr ⟨m, hmessages, hdel⟩⟩

/-- A call that leaves, with an error or with what it took. -/
theorem Correlated.leave {t : Traced} (h : Correlated t) {c : Call} (hc : t.ipc.call = some c)
    {result : Except CallError (Nat × List UInt8)}
    (hresult : (⟨c.id, c.bufferSize, result⟩ : Returned).Correct t.messages) :
    Correlated ⟨t.ipc.leave c result, t.messages, t.begun⟩ where
  sound := h.sound.leave hc result
  follows := ⟨h.follows.header, h.follows.payload, h.follows.response⟩
  room := fun c' hc' => by cases hc'
  entry := fun c' d hc' => by cases hc'
  answered := fun c' d hc' => by cases hc'
  took := fun c' n hc' => by cases hc'
  returned := by
    intro r hr
    rcases List.mem_append.mp hr with hr | hr
    · exact h.returned r hr
    · rw [List.mem_singleton.mp hr]
      exact hresult

/-- A call that goes on. -/
theorem Correlated.goOn {t : Traced} (h : Correlated t) {c : Call} (hc : t.ipc.call = some c)
    {phase : Phase}
    (hanswered : ∀ d, t.ipc.receiver.requests c.id = some d → phase ≠ .waiting →
      Answer t.messages c.id d.bufferSize (t.ipc.receiver.memory c.responseBuffer))
    (htook : ∀ n, phase = .took (some n) →
      Answer t.messages c.id n (t.ipc.receiver.memory c.responseBuffer)) :
    Correlated ⟨t.ipc.goOn c phase, t.messages, t.begun⟩ where
  sound := h.sound.goOn hc phase
  follows := h.follows
  room := by
    intro c' hc'
    cases hc'
    exact h.room c hc
  entry := by
    intro c' d hc' hd
    cases hc'
    exact h.entry c d hc hd
  answered := by
    intro c' d hc' hd hsem
    cases hc'
    rcases hsem with hsem | hphase
    · exact h.answered c d hc hd (Or.inl hsem)
    · exact hanswered d hd hphase
  took := by
    intro c' n hc' hphase
    cases hc'
    exact htook n hphase
  returned := h.returned

/-- A new call. -/
theorem correlated_request {t : Traced} {id : MsgId} {responseBuffer : Nat}
    {contents : List UInt8} {pDirId : Option DirectionId} (h : Correlated t)
    (hen : Enabled t.ipc (.request id responseBuffer contents pDirId)) :
    ∃ t', t.next (.request id responseBuffer contents pDirId) = some t' ∧ Correlated t' := by
  obtain ⟨s, hact, hsound⟩ := sound_step h.sound hen trivial
  refine ⟨_, Traced.next_eq hact, ?_⟩
  have hnone := h.sound.no_requests hen.1
  simp only [act, hnone, Option.isSome_none, Bool.false_eq_true, if_false] at hact
  cases hact
  constructor
  case sound => exact hsound
  case follows => exact ⟨h.follows.header, h.follows.payload, h.follows.response⟩
  case room =>
    intro c hc
    cases hc
    show (Function.update t.ipc.receiver.memory responseBuffer contents responseBuffer).length = _
    rw [Function.update_self]
  case entry =>
    intro c d hc hd
    cases hc
    have hd : Function.update t.ipc.receiver.requests id _ id = some d := hd
    rw [Function.update_self] at hd
    cases hd
    rfl
  case answered =>
    intro c d hc hd hsem
    cases hc
    have hd : Function.update t.ipc.receiver.requests id _ id = some d := hd
    rw [Function.update_self] at hd
    cases hd
    -- nobody has signalled it
    rcases hsem with hsem | hphase
    · exact absurd hsem (Nat.lt_irrefl 0)
    · exact absurd rfl hphase
  case took =>
    intro c n hc hphase
    cases hc
    cases hphase
  case returned => exact h.returned

/-- **Every clean step is taken and keeps the process and its record together.** -/
theorem correlated_step {t : Traced} {a : Activity} (h : Correlated t) (hen : Enabled t.ipc a)
    (hclean : Clean t a) : ∃ t', t.next a = some t' ∧ Correlated t' := by
  have herror : ∀ (c : Call) (e : CallError),
      (⟨c.id, c.bufferSize, .error e⟩ : Returned).Correct t.messages := by
    intro c e n bytes hok
    cases hok
  cases a with
  | request id responseBuffer contents pDirId => exact correlated_request h hen
  | giveUp =>
    obtain ⟨c, hc, -⟩ := hen
    have hact : act t.ipc .giveUp = .ok (t.ipc.leave c (.error .notAnswered)) := by
      unfold act
      simp only [hc]
    exact ⟨_, Traced.next_eq hact, h.leave hc (herror c _)⟩
  | wake =>
    obtain ⟨c, hc, -, hsignalled⟩ := hen
    have hact : act t.ipc .wake = .ok (t.ipc.goOn c .woken) := by
      unfold act
      simp only [hc]
    refine ⟨_, Traced.next_eq hact, h.goOn hc ?_ (fun n hn => by cases hn)⟩
    intro d hd _
    exact h.answered c d hc hd (Or.inl (hsignalled d hd))
  | getData =>
    obtain ⟨c, hc, hphase⟩ := hen
    have hact : act t.ipc .getData = .ok (t.ipc.goOn c
        (.took ((t.ipc.receiver.requests c.id).map RequestData.bufferSize))) := by
      unfold act
      simp only [hc]
    have hwoken : c.phase ≠ .waiting := by
      rw [hphase]
      exact Phase.noConfusion
    refine ⟨_, Traced.next_eq hact, h.goOn hc ?_ ?_⟩
    · intro d hd _
      exact h.answered c d hc hd (Or.inr hwoken)
    · intro n hn
      cases hd : t.ipc.receiver.requests c.id with
      | none =>
        rw [hd] at hn
        cases hn
      | some d =>
        rw [hd] at hn
        cases hn
        exact h.answered c d hc hd (Or.inr hwoken)
  | finish =>
    obtain ⟨c, size, hc, hphase⟩ := hen
    cases size with
    | none =>
      have hact : act t.ipc .finish = .ok (t.ipc.leave c (.error .connectionLost)) := by
        unfold act
        simp only [hc, hphase]
      exact ⟨_, Traced.next_eq hact, h.leave hc (herror c _)⟩
    | some size =>
      have hact : act t.ipc .finish = .ok (t.ipc.leave c
          (.ok (size, (t.ipc.receiver.memory c.responseBuffer).take size))) := by
        unfold act
        simp only [hc, hphase]
      refine ⟨_, Traced.next_eq hact, h.leave hc ?_⟩
      obtain ⟨m, hm, htype, hid, hlen, htake⟩ := h.took c size hc hphase
      intro n bytes hok
      cases hok
      have hroom := h.room c hc
      have hle := congrArg List.length htake
      rw [List.length_take] at hle
      exact ⟨by show size ≤ c.bufferSize; omega, m, hm, htype, hid, hlen, htake.symm⟩
  | readable dir k =>
    obtain ⟨t', ht', hcorr, -⟩ := correlated_readable h hen hclean
    exact ⟨t', ht', hcorr⟩
  | closed dir =>
    obtain ⟨s, hact, hsound⟩ := sound_step h.sound hen trivial
    refine ⟨_, Traced.next_eq hact, ?_⟩
    unfold act at hact
    cases hact
    have hsub : ∀ id d, (t.ipc.receiver.invalidateRequestsForDirection dir).requests id = some d →
        t.ipc.receiver.requests id = some d :=
      fun id d hd => (Option.filter_eq_some_iff.mp hd).1
    by_cases hreading : t.ipc.receiver.socket.readingSocket = some dir
    · have hreading' : (t.ipc.receiver.invalidateRequestsForDirection dir).socket.readingSocket =
          some dir := hreading
      simp only [Traced.after, hreading, hreading', if_true] at hsound ⊢
      exact h.untouched hsound (follows_nil rfl rfl) rfl hsub rfl rfl fun m hm => hm
    · have hreading' : (t.ipc.receiver.invalidateRequestsForDirection dir).socket.readingSocket ≠
          some dir := hreading
      simp only [Traced.after, hreading, hreading', if_false] at hsound ⊢
      exact h.untouched hsound ⟨h.follows.header, h.follows.payload, h.follows.response⟩ rfl hsub
        rfl rfl fun m hm => hm

/-- A process at its start, with an empty record. -/
def Traced.Started (t : Traced) : Prop := t.ipc.Started ∧ t.messages = [] ∧ t.begun = []

theorem Traced.Started.correlated {t : Traced} (h : t.Started) : Correlated t where
  sound := h.1.sound
  follows := by
    rw [h.2.2]
    exact follows_nil h.1.mode h.1.haveInBuffer
  room := fun c hc => by rw [h.1.call] at hc; cases hc
  entry := fun c d hc => by rw [h.1.call] at hc; cases hc
  answered := fun c d hc => by rw [h.1.call] at hc; cases hc
  took := fun c n hc => by rw [h.1.call] at hc; cases hc
  returned := fun r hr => by rw [h.1.returned] at hr; cases hr

/-- **A call gets its own response or none.** Over every run whose steps are clean, whatever the
order of calls, timeouts, reads and lost directions: each call that succeeded returned the size
and the bytes of a response with its id that fits its buffer, no read touched the buffer of a
call but a response to the one that waits for it, and the socket is where the bytes read so far
put it. -/
theorem responses_correlated {t : Traced} {as : List Activity} (ht : t.Started)
    (hen : Along Traced.next (fun t a => Enabled t.ipc a) t as)
    (hclean : Along Traced.next Clean t as) :
    ∃ t', run Traced.next t as = some t' ∧ t'.ipc.receiver.Follows t'.begun ∧
      (∀ r ∈ t'.ipc.returned, r.Correct t'.messages) ∧ Along Traced.next Private t as := by
  have hboth := hen.and hclean
  obtain ⟨t', hrun, hcorr⟩ := run_total (I := Correlated)
    (fun t a h hp => correlated_step h hp.1 hp.2) ht.correlated hboth
  refine ⟨t', hrun, hcorr.follows, hcorr.returned, ?_⟩
  refine Along.of_invariant (I := Correlated) ?_ ?_ ht.correlated hboth
  · intro t a h hp
    cases a with
    | readable dir k =>
      obtain ⟨t', ht', -, hprivate⟩ := correlated_readable h hp.1 hp.2
      intro u hu
      rw [ht'] at hu
      cases hu
      exact hprivate
    | _ => exact trivial
  · intro t a u h hp hu
    obtain ⟨t', ht', hcorr⟩ := correlated_step h hp.1 hp.2
    rw [ht'] at hu
    cases hu
    exact hcorr

/-- A call, and an empty response to it. -/
theorem responses_correlated_empty :
    ∃ t', run Traced.next ⟨CIpc.initial, [], []⟩
        [.request 7 0 [0, 0] none, .readable 1 (.bytes (MsgHeader.bytes ⟨0, 7, 2⟩)), .wake, .getData,
          .finish] = some t' ∧ t'.ipc.receiver.Follows t'.begun ∧
      (∀ r ∈ t'.ipc.returned, r.Correct t'.messages) ∧
      Along Traced.next Private ⟨CIpc.initial, [], []⟩
        [.request 7 0 [0, 0] none, .readable 1 (.bytes (MsgHeader.bytes ⟨0, 7, 2⟩)), .wake, .getData,
          .finish] := by
  refine responses_correlated ⟨CIpc.started_initial, rfl, rfl⟩ (by decide +kernel) ?_
  refine ⟨trivial, ?_⟩
  intro t ht
  cases ht
  refine ⟨⟨fun _ => Or.inl rfl, fun h => absurd rfl h, fun h => RecvMode.noConfusion h⟩, ?_⟩
  intro t _
  exact along_of_mem fun a ha _ => by
    simp only [List.mem_cons, List.not_mem_nil, or_false] at ha
    rcases ha with rfl | rfl | rfl <;> exact trivial

/-- The response to a call comes twice, the second time with two other bytes, after the call has
taken the size and before it gives up its entry: the call succeeds with three bytes that no
response has. -/
theorem second_response_mixed :
    Along Traced.next (fun t a => Enabled t.ipc a) ⟨CIpc.initial, [], []⟩
      [.request 7 0 [0, 0, 0] none, .readable 1 (.bytes (MsgHeader.bytes ⟨3, 7, 2⟩)),
        .readable 1 (.bytes [1, 2, 3]), .wake, .getData,
        .readable 1 (.bytes (MsgHeader.bytes ⟨2, 7, 2⟩)), .readable 1 (.bytes [9, 9]), .finish] ∧
    ∃ t', run Traced.next ⟨CIpc.initial, [], []⟩
      [.request 7 0 [0, 0, 0] none, .readable 1 (.bytes (MsgHeader.bytes ⟨3, 7, 2⟩)),
        .readable 1 (.bytes [1, 2, 3]), .wake, .getData,
        .readable 1 (.bytes (MsgHeader.bytes ⟨2, 7, 2⟩)), .readable 1 (.bytes [9, 9]), .finish] =
        some t' ∧ ¬∀ r ∈ t'.ipc.returned, r.Correct t'.messages := by
  refine ⟨by decide +kernel, ?_⟩
  have hreturned : (run Traced.next ⟨CIpc.initial, [], []⟩
      [.request 7 0 [0, 0, 0] none, .readable 1 (.bytes (MsgHeader.bytes ⟨3, 7, 2⟩)),
        .readable 1 (.bytes [1, 2, 3]), .wake, .getData,
        .readable 1 (.bytes (MsgHeader.bytes ⟨2, 7, 2⟩)), .readable 1 (.bytes [9, 9]), .finish]).map
      (fun t => t.ipc.returned.map fun r => (r.id, r.result.toOption)) =
      some [(7, some (3, [9, 9, 3]))] := by
    decide +kernel
  have hmessages : (run Traced.next ⟨CIpc.initial, [], []⟩
      [.request 7 0 [0, 0, 0] none, .readable 1 (.bytes (MsgHeader.bytes ⟨3, 7, 2⟩)),
        .readable 1 (.bytes [1, 2, 3]), .wake, .getData,
        .readable 1 (.bytes (MsgHeader.bytes ⟨2, 7, 2⟩)), .readable 1 (.bytes [9, 9]), .finish]).map
      (fun t => t.messages.map Prod.snd) = some [[1, 2, 3], [9, 9]] := by
    decide +kernel
  cases hrun : run Traced.next ⟨CIpc.initial, [], []⟩
      [.request 7 0 [0, 0, 0] none, .readable 1 (.bytes (MsgHeader.bytes ⟨3, 7, 2⟩)),
        .readable 1 (.bytes [1, 2, 3]), .wake, .getData,
        .readable 1 (.bytes (MsgHeader.bytes ⟨2, 7, 2⟩)), .readable 1 (.bytes [9, 9]), .finish] with
  | none =>
    rw [hrun] at hreturned
    cases hreturned
  | some t' =>
    rw [hrun] at hreturned hmessages
    simp only [Option.map_some, Option.some.injEq] at hreturned hmessages
    refine ⟨t', rfl, ?_⟩
    intro hcorrect
    obtain ⟨r, hr, hrest⟩ : ∃ r ∈ t'.ipc.returned,
        (r.id, r.result.toOption) = (7, some (3, [9, 9, 3])) := by
      have hmem := List.mem_singleton_self ((7, some (3, [9, 9, 3])) :
        MsgId × Option (Nat × List UInt8))
      rw [← hreturned, List.mem_map] at hmem
      exact hmem
    have hsome : r.result.toOption = some (3, [9, 9, 3]) := congrArg Prod.snd hrest
    have hok : r.result = .ok (3, [9, 9, 3]) := by
      cases hres : r.result with
      | error e =>
        rw [hres] at hsome
        cases hsome
      | ok v =>
        rw [hres] at hsome
        cases hsome
        rfl
    obtain ⟨-, m, hm, -, -, -, hbytes⟩ := hcorrect r hr 3 [9, 9, 3] hok
    have hin := List.mem_map_of_mem (f := Prod.snd) hm
    rw [hmessages, hbytes] at hin
    exact absurd hin (by decide)

end IviLink.Ipc
