import IviLink.Common.CConnectivityAgentProxy
import IviLink.L1.DataPath
import IviLink.Proof.IpcStream

/-!
# Sizes on the way of a request

One request of a client from `sendData` into the agent, against all the limits it
meets: the array the proxy packs it in, the buffer of the agent's socket, and the
assertions of the L1 stub. The three are written down independently, and what is
compared with them is not the same number: the accessor's four words are counted by
the first two and not by the last.

The socket's is the smallest by far. It is also the only one nobody asks about
before the data is on its way: `sendData` returns an error for sizes that the array
cannot hold, though it compares them without the four words.
-/

namespace IviLink.Ipc

open IviLink.Lib

/-! ## A trigger and its size -/

/-- These pieces are the header of a message. -/
structure HeaderPieces (m : Message) (hs : List (List UInt8)) : Prop where
  nonempty : ∀ c ∈ hs, c ≠ []
  flatten : hs.flatten = m.header.bytes

/-- A header that comes whole. -/
theorem headerPieces_whole (m : Message) : HeaderPieces m [m.header.bytes] where
  nonempty := by
    intro c hc
    rw [List.mem_singleton.mp hc]
    exact List.ne_nil_of_length_pos (by rw [MsgHeader.length_bytes]; omega)
  flatten := List.flatten_singleton

/-- Before its last piece a header leaves the socket in header mode. -/
theorem header_last {dir : DirectionId} {reqs : MsgId → Option RequestData} {m : Message} :
    ∀ {hs : List (List UInt8)} {l : List UInt8} {w : Receiver}, InHeader dir reqs l w →
      l.length < MSG_HEADER_SIZE → (∀ c ∈ hs, c ≠ []) → l ++ hs.flatten = m.header.bytes →
      ∃ w₀ l₀ c, InHeader dir reqs l₀ w₀ ∧ c ≠ [] ∧ l₀ ++ c = m.header.bytes
        ∧ ∀ cs, feed dir w (hs ++ cs) = feed dir w₀ (c :: cs)
  | [], l, w, _, hlt, _, heq => by
      have hlen := congrArg List.length heq
      rw [List.flatten_nil, List.append_nil, MsgHeader.length_bytes] at hlen
      exact absurd hlen (Nat.ne_of_lt hlt)
  | c :: hs, l, w, hw, hlt, hne, heq => by
      have hc := hne c List.mem_cons_self
      have hne' : ∀ c' ∈ hs, c' ≠ [] := fun c' hm => hne c' (List.mem_cons_of_mem _ hm)
      rw [List.flatten_cons, ← List.append_assoc] at heq
      cases hs with
      | nil =>
        rw [List.flatten_nil, List.append_nil] at heq
        exact ⟨w, l, c, hw, hc, heq, fun cs => rfl⟩
      | cons c' hs =>
        -- another piece follows, and it holds a byte of the header
        have hlt' : (l ++ c).length < MSG_HEADER_SIZE := by
          have hlen := congrArg List.length heq
          have hpos := List.length_pos_of_ne_nil (hne' c' List.mem_cons_self)
          have h12 : MSG_HEADER_SIZE = 12 := rfl
          simp only [List.length_append, MsgHeader.length_bytes, List.flatten_cons] at hlen ⊢
          omega
        obtain ⟨w', hs', hw'⟩ := hw.piece hc hlt'
        obtain ⟨w₀, l₀, c₀, hw₀, hc₀, heq₀, hfeed⟩ := header_last hw' hlt' hne' heq
        refine ⟨w₀, l₀, c₀, hw₀, hc₀, heq₀, fun cs => ?_⟩
        rw [List.cons_append, feed_cons hs', prepend_nil, hfeed]

theorem Message.size_header_of_lt {m : Message} (h : m.payload.length < 4294967296) :
    m.header.size.toNat = m.payload.length := by
  unfold Message.header
  rw [UInt32.toNat_ofNat']
  exact Nat.mod_eq_of_lt h

/-- A header that announces more than the buffer holds fails an assertion. -/
theorem HeaderRead.too_large {dir : DirectionId} {reqs : MsgId → Option RequestData}
    {m : Message} {w : Receiver} (h : HeaderRead dir reqs m w) (ht : m.type = .trigger)
    (hlen : BUFFER_SIZE < m.payload.length) (hsize : m.payload.length < 4294967296) :
    headerReady w = .error .assertion := by
  have htype : m.header.type = m.type.code := rfl
  have htrig : m.header.isTrigger = true := by simp [MsgHeader.isTrigger, htype, ht]
  have hbig : ¬ BUFFER_SIZE ≥ m.header.size.toNat := by
    rw [Message.size_header_of_lt hsize]
    omega
  unfold headerReady
  simp only [h.header, htrig, Bool.or_true, if_true, if_pos hbig]

/-- The piece that completes a header, when the socket cannot act on it. -/
theorem InHeader.fails {dir : DirectionId} {reqs : MsgId → Option RequestData}
    {l c : List UInt8} {w : Receiver} {m : Message} {f : Failure} (h : InHeader dir reqs l w)
    (hc : c ≠ []) (heq : l ++ c = m.header.bytes)
    (hready : ∀ w₁, HeaderRead dir reqs m w₁ → headerReady w₁ = .error f) :
    socketReady w dir (.bytes c) = .error f := by
  have hlen : (l ++ c).length = MSG_HEADER_SIZE := by rw [heq]; exact MsgHeader.length_bytes _
  obtain ⟨hrecv, hwf, hbytes, hreqs⟩ := h.read hc (Nat.le_of_eq hlen)
  have hhave : (w.readFrom dir).socket.haveInBuffer = l.length := h.haveInBuffer
  have hmode : (w.readFrom dir).socket.mode = .header := h.mode
  have hsum : l.length + c.length = MSG_HEADER_SIZE := by simpa using hlen
  have hpos := List.length_pos_of_ne_nil hc
  have hread : HeaderRead dir reqs m ((w.readFrom dir).write ⟨.own, l.length⟩ c) := {
    own := hwf.own
    response := hwf.response
    bytes := by rw [← hlen, hbytes, heq]
    readingSocket := rfl
    requests := hreqs }
  have hconsume : consumeHeader (w.readFrom dir) (.bytes c) = .error f := by
    rw [consumeHeader, hhave]
    simp only [hrecv, if_neg (show ¬ ¬ l.length < MSG_HEADER_SIZE by omega),
      if_neg (show ¬ ¬ l.length + c.length ≤ MSG_HEADER_SIZE by omega),
      if_neg (show ¬ l.length + c.length < MSG_HEADER_SIZE by omega), hready _ hread]
  simp only [socketReady, h.readingSocket, consumeData, hmode, hconsume]

/-- **A trigger goes through an idle socket if it fits the socket's buffer**, the payload coming
in one piece. -/
theorem Idle.trigger_feed {w : Receiver} {id : MsgId} {payload : List UInt8}
    {hs : List (List UInt8)} (hw : Idle w) (dir : DirectionId) (hne : payload ≠ [])
    (hlen : payload.length ≤ BUFFER_SIZE) (hhs : HeaderPieces ⟨.trigger, id, payload⟩ hs) :
    ∃ w', feed dir w (hs ++ [payload]) = .ok (w', [.trigger id payload (some dir)])
      ∧ Idle w' := by
  obtain ⟨w₁, hawaits, hfeed⟩ := hw.header_feed (m := ⟨.trigger, id, payload⟩) dir hlen
    (fun _ => hne) hhs.nonempty hhs.flatten
  obtain ⟨w', hready, hidle, -⟩ := payload_whole hawaits hne hlen
  refine ⟨w', ?_, hidle⟩
  rw [(hfeed [payload]).1, feed_cons hready]
  rfl

/-- **A trigger that does not fit ends the process that reads it**, at its header. -/
theorem Idle.trigger_too_large {w : Receiver} {id : MsgId} {payload : List UInt8}
    {hs : List (List UInt8)} (hw : Idle w) (dir : DirectionId)
    (hlen : BUFFER_SIZE < payload.length) (hsize : payload.length < 4294967296)
    (hhs : HeaderPieces ⟨.trigger, id, payload⟩ hs) (cs : List (List UInt8)) :
    feed dir w (hs ++ cs) = .error .assertion := by
  obtain ⟨w₀, l₀, c, hw₀, hc, heq, hfeed⟩ := header_last (m := ⟨.trigger, id, payload⟩)
    (hw.inHeader dir) (Nat.succ_pos 11) hhs.nonempty hhs.flatten
  have hready := hw₀.fails hc heq fun w₁ h₁ => h₁.too_large rfl hlen hsize
  rw [hfeed, feed, hready]

section Process

variable {α : Type*} {handle : α → Event → Except Failure α} {p : Process α} {id : MsgId}
  {dir : DirectionId} {payload : List UInt8} {hs : List (List UInt8)}

/-- The handler is called once, with the whole payload. -/
theorem Process.read_trigger {x : α} (hidle : Idle p.socket) (hne : payload ≠ [])
    (hlen : payload.length ≤ BUFFER_SIZE) (hhs : HeaderPieces ⟨.trigger, id, payload⟩ hs)
    (hx : handle p.state (.trigger id payload (some dir)) = .ok x) :
    ∃ w, p.read handle dir (hs ++ [payload]) = .ok ⟨w, x⟩ ∧ Idle w := by
  obtain ⟨w, hfeed, hw⟩ := hidle.trigger_feed dir hne hlen hhs
  have hhandled : [Event.trigger id payload (some dir)].foldlM handle p.state = .ok x := by
    rw [List.foldlM_cons, hx]
    rfl
  refine ⟨w, ?_, hw⟩
  unfold Process.read
  simp only [hfeed, hhandled]

theorem Process.read_too_large (hidle : Idle p.socket) (hlen : BUFFER_SIZE < payload.length)
    (hsize : payload.length < 4294967296) (hhs : HeaderPieces ⟨.trigger, id, payload⟩ hs)
    (cs : List (List UInt8)) : p.read handle dir (hs ++ cs) = .error .assertion := by
  unfold Process.read
  rw [hidle.trigger_too_large dir hlen hsize hhs]

end Process

end IviLink.Ipc

namespace IviLink.L1

open IviLink.Common
open IviLink.Ipc

/-- `sendData` does not come back without having made a request: none of its arguments is
wrong. -/
def Taken (p : CConnectivityAgentProxy) (env : ProxyEnv) (channel_id : UInt32)
    (data : List UInt8) : Prop :=
  ∀ result, p.sendData env channel_id (some data) ≠ .ok (result, none)

/-- The request gets all the way: it is built, and however its header is cut, the agent that
reads it goes on. No store is outside its buffer and no assertion fails. -/
def FitsEverywhere (p : CConnectivityAgentProxy) (env : ProxyEnv) (channel_id : UInt32)
    (data : List UInt8) (a : Agent) (id : MsgId) (dir : DirectionId) : Prop :=
  ∃ result buf, p.sendData env channel_id (some data) = .ok (result, some buf) ∧
    ∀ hs, HeaderPieces ⟨.trigger, id, buf⟩ hs → ∃ a', a.read dir (hs ++ [buf]) = .ok a'

/-- The largest size that fits everywhere: what the socket's buffer has room for behind the four
words. -/
def MAX_DATA_SIZE : Nat := BUFFER_SIZE - 16

section request

variable {p : CConnectivityAgentProxy} {env : ProxyEnv} {channel_id : UInt32} {data : List UInt8}

theorem objectSize_request :
    (CConnectivityAgentProxy.sendDataRequest channel_id data).getObjectSize = data.length + 16 :=
  rfl

theorem Taken.acceptable (h : Taken p env channel_id data) :
    CConnectivityAgentProxy.Acceptable p env channel_id data := by
  by_contra hno
  obtain ⟨result, hresult⟩ := CConnectivityAgentProxy.sendData_refused hno
  exact h result hresult

/-- The array is too small for the largest sizes `sendData` takes. -/
theorem sendData_overflows (h : CConnectivityAgentProxy.Acceptable p env channel_id data)
    (hsize : CConnectivityAgentProxy.MAX_BUF_SIZE < data.length + 16) :
    p.sendData env channel_id (some data) = .error .overflow := by
  rw [CConnectivityAgentProxy.sendData_acceptable h, objectSize_request, if_neg (by omega)]

/-- The agent asserts on sizes that the array holds and its socket does not. -/
theorem read_asserts {a : Agent} {id : MsgId} (dir : DirectionId) {hs : List (List UInt8)}
    (hidle : Idle a.socket) (hsize : BUFFER_SIZE < data.length + 16)
    (hword : data.length + 16 < 4294967296)
    (hhs : HeaderPieces ⟨.trigger, id,
      (CConnectivityAgentProxy.sendDataRequest channel_id data).raw⟩ hs) :
    a.read dir (hs ++ [(CConnectivityAgentProxy.sendDataRequest channel_id data).raw])
      = .error .assertion := by
  have hlen : (CConnectivityAgentProxy.sendDataRequest channel_id data).raw.length
      = data.length + 16 := by
    rw [CDataAccessor.length_raw, objectSize_request]
  exact Process.read_too_large hidle (by omega) (by omega) hhs _

/-- A request whose accessor fits the socket's buffer goes through, and the agent's stub is given
what was packed. -/
theorem read_ok {a : Agent} {id : MsgId} (dir : DirectionId) {hs : List (List UInt8)}
    (hidle : Idle a.socket) (hsize : data.length + 16 ≤ BUFFER_SIZE)
    (hhs : HeaderPieces ⟨.trigger, id,
      (CConnectivityAgentProxy.sendDataRequest channel_id data).raw⟩ hs) :
    ∃ socket stub, Idle socket
      ∧ a.state.OnAsyncRequest (CConnectivityAgentProxy.sendDataRequest channel_id data).raw
        = .ok stub
      ∧ a.read dir (hs ++ [(CConnectivityAgentProxy.sendDataRequest channel_id data).raw])
        = .ok ⟨socket, stub⟩ := by
  -- the four words of the accessor are more than what separates the two limits of the agent
  have hmax : (CConnectivityAgentProxy.sendDataRequest channel_id data).getDataSize
      ≤ MAX_SIZE := by
    have hdata : (CConnectivityAgentProxy.sendDataRequest channel_id data).getDataSize
        = data.length := rfl
    have h4096 : MAX_SIZE = BUFFER_SIZE := rfl
    omega
  obtain ⟨stub, hstub⟩ := a.state.OnAsyncRequest_ok hmax
  have hlen : (CConnectivityAgentProxy.sendDataRequest channel_id data).raw.length
      ≤ BUFFER_SIZE := by
    rw [CDataAccessor.length_raw, objectSize_request]
    exact hsize
  have hhandled : SourceAgents.handle a.state (.trigger id
      (CConnectivityAgentProxy.sendDataRequest channel_id data).raw (some dir)) = .ok stub := hstub
  obtain ⟨socket, hread, hsocket⟩ :=
    Process.read_trigger hidle (CDataAccessor.raw_ne_nil _) hlen hhs hhandled
  exact ⟨socket, stub, hsocket, hstub, hread⟩

/-- **Which sizes fit everywhere**: of those that `sendData` takes, exactly the ones that the
agent's socket has room for behind the four words of the accessor. -/
theorem fits_iff {a : Agent} {id : MsgId} {dir : DirectionId} (hidle : Idle a.socket)
    (h : Taken p env channel_id data) :
    FitsEverywhere p env channel_id data a id dir ↔ data.length ≤ MAX_DATA_SIZE := by
  have hsend := CConnectivityAgentProxy.sendData_acceptable h.acceptable
  have haccept : data.length < CConnectivityAgentProxy.MAX_BUF_SIZE := h.acceptable.2.1.2
  have hbuffer : BUFFER_SIZE = 4096 := rfl
  have hmax : MAX_DATA_SIZE = 4080 := rfl
  have harray : CConnectivityAgentProxy.MAX_BUF_SIZE = 65535 := rfl
  rw [objectSize_request] at hsend
  constructor
  · rintro ⟨result, buf, hbuf, hread⟩
    by_contra hlarge
    rw [hsend] at hbuf
    split at hbuf
    · injection hbuf with hbuf
      injection hbuf with _ hbuf
      have hraw := Option.some.inj hbuf
      subst hraw
      -- however the header is cut, so also when it comes whole
      have hhs := headerPieces_whole
        ⟨.trigger, id, (CConnectivityAgentProxy.sendDataRequest channel_id data).raw⟩
      obtain ⟨a', ha'⟩ := hread _ hhs
      rw [read_asserts dir hidle (by omega) (by omega) hhs] at ha'
      exact absurd ha' (by simp)
    · exact absurd hbuf (by simp)
  · intro hle
    rw [if_pos (by omega)] at hsend
    refine ⟨_, _, hsend, fun hs hhs => ?_⟩
    obtain ⟨socket, stub, -, -, hread⟩ := read_ok dir hidle (by omega) hhs
    exact ⟨_, hread⟩

end request

/-! ### The failing sizes -/

/-- A client with one channel. -/
def oneChannel : CConnectivityAgentProxy :=
  ⟨Function.update (fun _ => none) 5 (some (CConnectivityAgentProxy.allocated 0)), []⟩

/-- Everything there is to send with. -/
def connected : ProxyEnv := ⟨true, true⟩

theorem acceptable_oneChannel {data : List UInt8}
    (h : CConnectivityAgentProxy.SizeAccepted data.length) :
    CConnectivityAgentProxy.Acceptable oneChannel connected 5 data :=
  ⟨rfl, h, by simp [oneChannel]⟩

theorem Taken.of_acceptable {p : CConnectivityAgentProxy} {env : ProxyEnv} {channel_id : UInt32}
    {data : List UInt8} (h : CConnectivityAgentProxy.Acceptable p env channel_id data) :
    Taken p env channel_id data := by
  intro result
  rw [CConnectivityAgentProxy.sendData_acceptable h]
  split <;> simp

theorem fits_iff_oneChannel :
    FitsEverywhere oneChannel connected 5 [1, 2, 3] ⟨fresh, fun _ => none⟩ 7 1
      ↔ [1, 2, 3].length ≤ MAX_DATA_SIZE :=
  fits_iff idle_fresh (.of_acceptable (acceptable_oneChannel (by decide)))

/-- `n` bytes. -/
def zeros (n : Nat) : List UInt8 := List.replicate n 0

/-- One byte more ends the agent, and the largest sizes overrun the client's own stack. -/
theorem largest_do_not_fit :
    (∃ result buf, oneChannel.sendData connected 5 (some (zeros 4081)) = .ok (result, some buf)
      ∧ result = .noError
      ∧ Agent.read ⟨fresh, fun _ => none⟩ 1 [(Message.header ⟨.trigger, 7, buf⟩).bytes, buf]
        = .error .assertion)
    ∧ oneChannel.sendData connected 5 (some (zeros 65520)) = .error .overflow
    ∧ Taken oneChannel connected 5 (zeros 4081) ∧ Taken oneChannel connected 5 (zeros 65520)
    ∧ ¬ FitsEverywhere oneChannel connected 5 (zeros 4081) ⟨fresh, fun _ => none⟩ 7 1
    ∧ ¬ FitsEverywhere oneChannel connected 5 (zeros 65520) ⟨fresh, fun _ => none⟩ 7 1 := by
  have hlen : ∀ n, (zeros n).length = n := fun n => List.length_replicate
  have hsmall : CConnectivityAgentProxy.Acceptable oneChannel connected 5 (zeros 4081) :=
    acceptable_oneChannel (by rw [hlen]; decide)
  have hlarge : CConnectivityAgentProxy.Acceptable oneChannel connected 5 (zeros 65520) :=
    acceptable_oneChannel (by rw [hlen]; decide)
  have hsend := CConnectivityAgentProxy.sendData_acceptable hsmall
  rw [objectSize_request, hlen, if_pos (by decide)] at hsend
  have hoverflow := sendData_overflows hlarge (by rw [hlen]; decide)
  have hread : ∀ hs, HeaderPieces ⟨.trigger, 7,
      (CConnectivityAgentProxy.sendDataRequest 5 (zeros 4081)).raw⟩ hs →
      Agent.read ⟨fresh, fun _ => none⟩ 1
        (hs ++ [(CConnectivityAgentProxy.sendDataRequest 5 (zeros 4081)).raw])
        = .error .assertion :=
    fun hs hhs => read_asserts (a := ⟨fresh, fun _ => none⟩) 1 idle_fresh
      (by rw [hlen]; decide) (by rw [hlen]; decide) hhs
  have hwhole := hread _ (headerPieces_whole _)
  rw [List.singleton_append] at hwhole
  refine ⟨⟨_, _, hsend, rfl, hwhole⟩, hoverflow,
    .of_acceptable hsmall, .of_acceptable hlarge, ?_, ?_⟩
  · rintro ⟨result, buf, hbuf, hfits⟩
    rw [hsend] at hbuf
    injection hbuf with hbuf
    injection hbuf with _ hbuf
    have hraw := Option.some.inj hbuf
    subst hraw
    obtain ⟨a', ha'⟩ := hfits _ (headerPieces_whole _)
    rw [List.singleton_append, hwhole] at ha'
    exact absurd ha' (by simp)
  · rintro ⟨result, buf, hbuf, -⟩
    rw [hoverflow] at hbuf
    exact absurd hbuf (by simp)

end IviLink.L1
