import IviLink.L1.Stack
import IviLink.Lib.Pieces
import IviLink.Proof.AcceptedSizes
import IviLink.Proof.Segmentation

/-!
# Message boundaries

What a client at the other end of a channel is notified of are the payloads that
were sent, each in pieces of the quote under which the dispatcher serves the channel,
in order, less those its buffer had no room for when they came. Every buffer of the
stack is larger than the quote, and so is what `sendData` accepts: payloads between
the two are sent without complaint and arrive in two notifications.

The invariant (`Carrying`) accounts for the pieces of everything sent so far. They
have arrived at the client (`arrived`, each with whether it found room), or are in a
frame on the link, or are what the source still has to send. What has arrived was
either heard of already or has a callback waiting for it.
-/

namespace IviLink.L0.CSource

open IviLink.Lib

/-- **One `OnDispatch` sends one piece** of what the source has. -/
theorem OnDispatch_pieces {s s' : CSource} {quote : Nat} {frame : Hal.Frame}
    {released : List Buffer} (hq : 0 < quote) (hfilled : ∀ b ∈ s.mBuffersQueue, b.Filled)
    (h : s.OnDispatch quote = some (s', frame, released)) :
    (s.mBuffersQueue.flatMap fun b => pieces quote b.data)
        = frame.data :: s'.mBuffersQueue.flatMap (fun b => pieces quote b.data)
      ∧ frame.WellFormed ∧ frame.data ≠ [] ∧ frame.data.length ≤ quote
      ∧ ∀ b ∈ s'.mBuffersQueue, b.Filled := by
  unfold OnDispatch at h
  cases hqueue : s.mBuffersQueue with
  | nil => rw [hqueue] at h; exact absurd h (by simp)
  | cons b rest =>
    rw [hqueue] at h hfilled
    have hcopy := Option.some.inj h
    have hb : b.Filled := hfilled b List.mem_cons_self
    have hwell := CopyToFrame_sentWell (s := s) hb hq
    obtain ⟨hframe, -, -⟩ := CopyToFrame_frame hcopy
    rw [← hframe] at hwell
    refine ⟨?_, hwell.wellFormed, hwell.nonempty, hwell.quote, ?_⟩
    · unfold CopyToFrame copySize at hcopy
      by_cases hfits : b.getFilledSize ≤ quote
      · simp only [if_pos hfits] at hcopy
        injection hcopy with hs hcopy
        injection hcopy with hf _
        subst hs hf
        rw [List.flatMap_cons, pieces_of_le hfits]
        simp [Buffer.getFilledSize]
      · simp only [if_neg hfits] at hcopy
        injection hcopy with hs hcopy
        injection hcopy with hf _
        subst hs hf
        rw [List.flatMap_cons, pieces_of_lt hq (by unfold Buffer.getFilledSize at hfits; omega)]
        rfl
    · unfold CopyToFrame copySize at hcopy
      by_cases hfits : b.getFilledSize ≤ quote
      · simp only [if_pos hfits] at hcopy
        injection hcopy with hs _
        subst hs
        exact fun b' hb' => hfilled b' (List.mem_cons_of_mem _ hb')
      · simp only [if_neg hfits] at hcopy
        injection hcopy with hs _
        subst hs
        intro b' hb'
        rcases List.mem_cons.mp hb' with rfl | hb'
        · -- what is left of the buffer at the front
          have hlen := hb.2
          unfold Buffer.getFilledSize at hfits hlen
          refine ⟨List.ne_nil_of_length_pos ?_, ?_⟩
          · rw [List.length_drop]; omega
          · unfold Buffer.getFilledSize; rw [List.length_drop]; omega
        · exact hfilled b' (List.mem_cons_of_mem _ hb')

end IviLink.L0.CSource

namespace IviLink.L1

open IviLink.Common
open IviLink.Hal (Frame)
open IviLink.Ipc
open IviLink.Lib
open IviLink.L0 (CSource CTarget)
open IviLink.L0.CTransmitDispatcher (getQuoteBySourceType)

/-! ## The agents -/

/-- **What a client's data does in its agent.** -/
theorem SourceAgents.OnAsyncRequest_sendData (l : SourceAgents) {channel_id : UInt32}
    {data : List UInt8} (hsize : data.length ≤ MAX_SIZE) :
    l.OnAsyncRequest (CConnectivityAgentProxy.sendDataRequest channel_id data).raw =
      .ok (if channel_id = CA_SERVICE_CHANNEL then l
        else match l channel_id with
          | none => l
          | some s => Function.update l channel_id (some (s.fillBuffer data).1)) := by
  have hword : (CConnectivityAgentProxy.sendDataRequest channel_id data).getDataSize
      < 4294967296 := by
    have hmax : MAX_SIZE = 4096 := rfl
    have hdata : (CConnectivityAgentProxy.sendDataRequest channel_id data).getDataSize
        = data.length := rfl
    omega
  have hid : (CConnectivityAgentProxy.sendDataRequest channel_id data).mChannelID
      = channel_id := rfl
  have hop : (CConnectivityAgentProxy.sendDataRequest channel_id data).mOperation
      = E_SEND_DATA := rfl
  unfold OnAsyncRequest processClientSendRequest
  rw [CDataAccessor.ofRawArray_raw hword]
  simp only [hid, hop, if_true]
  by_cases hservice : channel_id = CA_SERVICE_CHANNEL
  · rw [if_pos hservice, if_neg (not_not.mpr hservice)]
  · rw [if_neg hservice, if_pos hservice]
    cases hs : l channel_id with
    | none =>
      unfold sendData
      rw [hid, hs]
    | some s =>
      rw [sendData_eq (CConnectivityAgentProxy.sendDataRequest channel_id data) hs hsize]
      rfl

/-- The proxy of the client there is told of the data in a notification. -/
theorem OnAsyncRequest_notification (p : CConnectivityAgentProxy) {channel_id : UInt32}
    {data : List UInt8} (hsize : data.length ≤ MAX_SIZE) :
    p.OnAsyncRequest (receiveDataNotification data channel_id).raw
      = .ok (p.receiveDataNotification (receiveDataNotification data channel_id)) := by
  have hword : (receiveDataNotification data channel_id).getDataSize < 4294967296 := by
    have hmax : MAX_SIZE = 4096 := rfl
    have hdata : (receiveDataNotification data channel_id).getDataSize = data.length := rfl
    omega
  unfold CConnectivityAgentProxy.OnAsyncRequest
  rw [CDataAccessor.ofRawArray_raw hword]
  rfl

namespace Stack

/-! ## The invariant -/

/-- The callback for a piece that has arrived. -/
def callbackFor (client : Nat) (channel_id : UInt32) (x : List UInt8 × Bool) : Callback :=
  if x.2 then .dataReceived client channel_id x.1.length else .bufferOverflow client channel_id

/-- The pieces of what was sent: arrived, on the link, and still with the source. -/
def Sending (channel_id : UInt32) (quote : Nat) (w : Stack)
    (arrived : List (List UInt8 × Bool)) : Prop :=
  ∃ free s, w.agent.state channel_id = some ⟨free, some s⟩
    ∧ (∀ b ∈ s.mBuffersQueue, b.Filled)
    ∧ w.sent.flatMap (pieces quote) = arrived.map Prod.fst ++ w.link.map Frame.data
      ++ s.mBuffersQueue.flatMap fun b => pieces quote b.data

/-- What has arrived was heard of, or waits in the buffer with its callback in the queue. -/
def Hearing (channel_id : UInt32) (w : Stack) (arrived : List (List UInt8 × Bool)) : Prop :=
  ∃ client heard pending, arrived = heard ++ pending
    ∧ w.client.state.mChannelRegistry channel_id
      = some ⟨client, MAX_SIZE, (kept pending).flatten⟩
    ∧ w.client.state.mCallbacksQueue = pending.map (callbackFor client channel_id)
    ∧ w.parsed = kept heard

structure Carrying (channel_id : UInt32) (quote : Nat) (w : Stack)
    (arrived : List (List UInt8 × Bool)) : Prop where
  agent : Idle w.agent.socket
  client : Idle w.client.socket
  /-- `sendData` takes no empty data. -/
  nonempty : ∀ p ∈ w.sent, p ≠ []
  frames : ∀ f ∈ w.link, f.WellFormed ∧ f.data ≠ [] ∧ f.data.length ≤ quote
  sending : Sending channel_id quote w arrived
  hearing : Hearing channel_id w arrived

theorem Opened.carrying {channel_id : UInt32} {w : Stack} (h : Opened channel_id w)
    (quote : Nat) : Carrying channel_id quote w [] where
  agent := h.agent
  client := h.client
  nonempty := by rw [h.sent]; exact fun p hp => absurd hp (by simp)
  frames := by rw [h.link]; exact fun f hf => absurd hf (by simp)
  sending := by
    obtain ⟨free, s, hs, hqueue⟩ := h.source
    refine ⟨free, s, hs, ?_, ?_⟩
    · rw [hqueue]; exact fun b hb => absurd hb (by simp)
    · rw [hqueue, h.sent, h.link]; rfl
  hearing := by
    obtain ⟨client, hclient⟩ := h.buffer
    exact ⟨client, [], [], rfl, hclient, h.callbacks, h.parsed⟩

/-- A piece of what was sent holds something. -/
theorem Carrying.piece_ne_nil {channel_id : UInt32} {quote : Nat} {w : Stack}
    {arrived : List (List UInt8 × Bool)} (h : Carrying channel_id quote w arrived) :
    ∀ x ∈ arrived, x.1 ≠ [] := by
  obtain ⟨free, s, -, -, hpieces⟩ := h.sending
  intro x hx
  have hmem : x.1 ∈ w.sent.flatMap (pieces quote) := by
    rw [hpieces, List.append_assoc]
    exact List.mem_append_left _ (List.mem_map_of_mem hx)
  obtain ⟨p, hp, hxp⟩ := List.mem_flatMap.mp hmem
  exact ne_nil_of_mem_pieces (h.nonempty p hp) hxp

/-! ## Steps -/

section steps

variable {channel_id : UInt32} {quote : Nat} {w w' : Stack} {arrived : List (List UInt8 × Bool)}

/-- What the agent takes goes to the end of the source's queue. -/
theorem Sending.taken {data : List UInt8} {stub : SourceAgents} {socket : Receiver}
    (h : Sending channel_id quote w arrived) (hdata : data ≠ [])
    (hsize : data.length ≤ MAX_SIZE)
    (hread : w.agent.state.OnAsyncRequest
      (CConnectivityAgentProxy.sendDataRequest channel_id data).raw = .ok stub) :
    Sending channel_id quote { w with
      agent := ⟨socket, stub⟩
      sent := if w.agent.state.takes channel_id then w.sent ++ [data] else w.sent } arrived := by
  obtain ⟨free, s, hs, hfilled, hpieces⟩ := h
  rw [SourceAgents.OnAsyncRequest_sendData w.agent.state hsize, hs] at hread
  have hstub := (Except.ok.inj hread).symm
  by_cases hservice : channel_id = CA_SERVICE_CHANNEL
  · -- the agent leaves it
    rw [if_pos hservice] at hstub
    have htakes : w.agent.state.takes channel_id = false := by
      simp [SourceAgents.takes, hservice]
    subst hstub
    exact ⟨free, s, hs, hfilled, by simpa [htakes] using hpieces⟩
  · rw [if_neg hservice] at hstub
    have htakes : w.agent.state.takes channel_id = !free.isEmpty := by
      simp [SourceAgents.takes, hservice, hs]
    cases hfree : free with
    | nil =>
      subst hstub hfree
      refine ⟨[], s, ?_, hfilled, by simpa [htakes] using hpieces⟩
      simp [CSourceAgent.fillBuffer]
    | cons buf rest =>
      subst hstub hfree
      refine ⟨rest, (s.consumeBuffer (some ⟨buf, data⟩)).1, ?_, ?_, ?_⟩
      · simp [CSourceAgent.fillBuffer]
      · intro b hb
        rcases List.mem_append.mp hb with hb | hb
        · exact hfilled b hb
        · rw [List.mem_singleton.mp hb]
          exact ⟨hdata, hsize⟩
      · simp only [htakes, List.isEmpty_cons, Bool.not_false, if_true, CSource.consumeBuffer,
          List.flatMap_append, hpieces, List.append_assoc, List.flatMap_singleton]

/-- A request that fits everywhere gets to the agent. -/
theorem sendData_eq {env : ProxyEnv} {data : List UInt8} (id : MsgId) (dir : DirectionId)
    (hidle : Idle w.agent.socket)
    (hok : CConnectivityAgentProxy.Acceptable w.sender env channel_id data)
    (hasync : env.asyncRequest = true) (hsize : data.length + 16 ≤ BUFFER_SIZE) :
    ∃ socket stub, Idle socket
      ∧ w.agent.state.OnAsyncRequest
        (CConnectivityAgentProxy.sendDataRequest channel_id data).raw = .ok stub
      ∧ w.sendData channel_id env id dir data = some { w with
        agent := ⟨socket, stub⟩
        sent := if w.agent.state.takes channel_id then w.sent ++ [data] else w.sent } := by
  obtain ⟨socket, stub, hsocket, hstub, hread⟩ :=
    read_ok dir hidle hsize (headerPieces_whole
      ⟨.trigger, id, (CConnectivityAgentProxy.sendDataRequest channel_id data).raw⟩)
  refine ⟨socket, stub, hsocket, hstub, ?_⟩
  have hfits : (CConnectivityAgentProxy.sendDataRequest channel_id data).getObjectSize
      ≤ CConnectivityAgentProxy.MAX_BUF_SIZE := by
    have hbuffer : BUFFER_SIZE = 4096 := rfl
    have harray : CConnectivityAgentProxy.MAX_BUF_SIZE = 65535 := rfl
    rw [objectSize_request]
    omega
  have hno : ConnectivityAgentError.isNoError .noError = true := rfl
  unfold Stack.sendData
  rw [CConnectivityAgentProxy.sendData_acceptable hok, if_pos hfits, if_pos hasync]
  simp only [hno, Bool.not_true, Bool.false_eq_true, if_false]
  rw [List.singleton_append] at hread
  unfold triggerPieces
  rw [hread]

/-- One that is refused, or not given to IPC, changes nothing; one that is too large ends the
agent. -/
theorem sendData_cases {env : ProxyEnv} {id : MsgId} {dir : DirectionId} {data : List UInt8}
    (hidle : Idle w.agent.socket) (hs : w.sendData channel_id env id dir data = some w') :
    w' = w ∨ (CConnectivityAgentProxy.Acceptable w.sender env channel_id data
      ∧ env.asyncRequest = true ∧ data.length + 16 ≤ BUFFER_SIZE) := by
  by_cases hok : CConnectivityAgentProxy.Acceptable w.sender env channel_id data
  · have hsend := CConnectivityAgentProxy.sendData_acceptable hok
    unfold Stack.sendData at hs
    rw [hsend] at hs
    by_cases hfits : (CConnectivityAgentProxy.sendDataRequest channel_id data).getObjectSize
        ≤ CConnectivityAgentProxy.MAX_BUF_SIZE
    · rw [if_pos hfits] at hs
      by_cases hasync : env.asyncRequest = true
      · refine .inr ⟨hok, hasync, ?_⟩
        by_contra hlarge
        have haccept : data.length < 65535 := hok.2.1.2
        have hno : ConnectivityAgentError.isNoError .noError = true := rfl
        have hbig : BUFFER_SIZE < data.length + 16 := by omega
        have hread := read_asserts dir hidle hbig (by omega) (headerPieces_whole
          ⟨.trigger, id, (CConnectivityAgentProxy.sendDataRequest channel_id data).raw⟩)
        rw [List.singleton_append] at hread
        rw [if_pos hasync] at hs
        simp only [hno, Bool.not_true, Bool.false_eq_true, if_false] at hs
        unfold triggerPieces at hs
        rw [hread] at hs
        exact absurd hs (by simp)
      · have hno : ConnectivityAgentError.isNoError .requestFailed = false := rfl
        rw [if_neg hasync] at hs
        simp only [hno, Bool.not_false, if_true] at hs
        exact .inl (Option.some.inj hs).symm
    · rw [if_neg hfits] at hs
      exact absurd hs (by simp)
  · obtain ⟨result, hresult⟩ := CConnectivityAgentProxy.sendData_refused hok
    unfold Stack.sendData at hs
    rw [hresult] at hs
    exact .inl (Option.some.inj hs).symm

theorem Carrying.sendData {env : ProxyEnv} {id : MsgId} {dir : DirectionId} {data : List UInt8}
    (h : Carrying channel_id quote w arrived)
    (hs : w.sendData channel_id env id dir data = some w') :
    Carrying channel_id quote w' arrived := by
  rcases sendData_cases h.agent hs with rfl | ⟨hok, hasync, hsize⟩
  · exact h
  · obtain ⟨socket, stub, hsocket, hstub, heq⟩ := sendData_eq id dir h.agent hok hasync hsize
    obtain rfl := Option.some.inj (hs.symm.trans heq)
    have hne : data ≠ [] := List.ne_nil_of_length_pos hok.2.1.1.1
    have hmax : data.length ≤ MAX_SIZE := by
      have h4096 : MAX_SIZE = BUFFER_SIZE := rfl
      omega
    refine ⟨hsocket, h.client, ?_, h.frames, h.sending.taken hne hmax hstub, h.hearing⟩
    intro p hp
    dsimp only at hp
    split at hp
    · rcases List.mem_append.mp hp with hp | hp
      · exact h.nonempty p hp
      · rw [List.mem_singleton.mp hp]
        exact hne
    · exact h.nonempty p hp

/-- A dispatch puts the next piece on the link. -/
theorem Carrying.dispatch (hq : 0 < quote) (h : Carrying channel_id quote w arrived)
    (hs : w.dispatch channel_id quote = some w') :
    Carrying channel_id quote w' arrived := by
  obtain ⟨free, s, hsource, hfilled, hpieces⟩ := h.sending
  unfold Stack.dispatch SourceAgents.OnDispatch at hs
  rw [hsource] at hs
  dsimp only at hs
  cases hd : s.OnDispatch quote with
  | none =>
    rw [hd] at hs
    exact absurd hs (by simp)
  | some out =>
    obtain ⟨s', frame, released⟩ := out
    rw [hd] at hs
    obtain rfl := Option.some.inj hs
    obtain ⟨hone, hwell, hne, hle, hfilled'⟩ := CSource.OnDispatch_pieces hq hfilled hd
    refine ⟨h.agent, h.client, h.nonempty, ?_, ?_, h.hearing⟩
    · intro f hf
      rcases List.mem_append.mp hf with hf | hf
      · exact h.frames f hf
      · rw [List.mem_singleton.mp hf]
        exact ⟨hwell, hne, hle⟩
    · refine ⟨_, s', Function.update_self .., hfilled', ?_⟩
      rw [hpieces, hone]
      simp

theorem copyFromFrame_eq {frame : Frame} (h : frame.WellFormed) :
    CTarget.copyFromFrame frame = frame.data := by
  unfold CTarget.copyFromFrame
  rw [← h.length_data, List.take_length]

/-- A frame that arrives is brought to the client in one notification. -/
theorem receiveFrame_eq {frame : Frame} {link : List Frame} (hq : quote + 16 ≤ BUFFER_SIZE)
    (h : Carrying channel_id quote w arrived) (hlink : w.link = frame :: link) (id : MsgId)
    (dir : DirectionId) :
    ∃ socket, Idle socket ∧ w.receiveFrame channel_id id dir = some { w with
      link := link
      client := ⟨socket, w.client.state.receiveDataNotification
        (receiveDataNotification frame.data channel_id)⟩ } := by
  obtain ⟨hwell, hne, hle⟩ := h.frames frame (hlink ▸ List.mem_cons_self)
  have hcopy := copyFromFrame_eq hwell
  have hmax : frame.data.length ≤ MAX_SIZE := by
    have h4096 : MAX_SIZE = BUFFER_SIZE := rfl
    omega
  have hlen : (receiveDataNotification frame.data channel_id).raw.length ≤ BUFFER_SIZE := by
    have hsize : (receiveDataNotification frame.data channel_id).getObjectSize
        = frame.data.length + 16 := rfl
    rw [CDataAccessor.length_raw, hsize]
    omega
  have hhandled : handleNotification w.client.state (.trigger id
      (receiveDataNotification frame.data channel_id).raw (some dir))
        = .ok (w.client.state.receiveDataNotification
          (receiveDataNotification frame.data channel_id)) :=
    OnAsyncRequest_notification w.client.state hmax
  obtain ⟨socket, hread, hsocket⟩ := Process.read_trigger h.client (CDataAccessor.raw_ne_nil _)
    hlen (headerPieces_whole _) hhandled
  refine ⟨socket, hsocket, ?_⟩
  rw [List.singleton_append] at hread
  unfold Stack.receiveFrame
  rw [hlink]
  simp only [hcopy, receiveData_eq hne hmax, triggerPieces, Client.read, hread]

/-- **What a notification does at the client**, whether it finds room or not. -/
theorem Hearing.notified (data : List UInt8) (link : List Frame) (socket : Receiver)
    (h : Hearing channel_id w arrived) :
    ∃ room, Hearing channel_id { w with
        link := link
        client := ⟨socket, w.client.state.receiveDataNotification
          (receiveDataNotification data channel_id)⟩ } (arrived ++ [(data, room)])
      ∧ (room = true ↔ ∀ info ∈ w.client.state.mChannelRegistry channel_id,
        data.length ≤ info.mChannelBuffer.freeSize) := by
  obtain ⟨client, heard, pending, harrived, hregistry, hcallbacks, hparsed⟩ := h
  have hinfo : w.client.state.mChannelRegistry
      (receiveDataNotification data channel_id).mChannelID
        = some ⟨client, MAX_SIZE, (kept pending).flatten⟩ := hregistry
  by_cases hroom : data.length ≤ ChannelBuffer.freeSize ⟨MAX_SIZE, (kept pending).flatten⟩
  · rw [CConnectivityAgentProxy.receiveDataNotification_room hinfo hroom]
    refine ⟨true, ⟨client, heard, pending ++ [(data, true)], ?_, ?_, ?_, hparsed⟩, ?_⟩
    · rw [harrived, List.append_assoc]
    · refine (Function.update_self ..).trans ?_
      rw [kept_append, List.flatten_append, kept_cons_true, kept_nil, List.flatten_singleton]
      rfl
    · rw [List.map_append, ← hcallbacks]
      rfl
    · simpa [hregistry] using hroom
  · rw [CConnectivityAgentProxy.receiveDataNotification_full hinfo (Nat.not_le.mp hroom)]
    refine ⟨false, ⟨client, heard, pending ++ [(data, false)], ?_, ?_, ?_, hparsed⟩, ?_⟩
    · rw [harrived, List.append_assoc]
    · rw [kept_append, kept_cons_false, kept_nil, List.append_nil]
      exact hregistry
    · rw [List.map_append, ← hcallbacks]
      rfl
    · simpa [hregistry] using hroom

theorem Carrying.receiveFrame {id : MsgId} {dir : DirectionId} (hq : quote + 16 ≤ BUFFER_SIZE)
    (h : Carrying channel_id quote w arrived)
    (hs : w.receiveFrame channel_id id dir = some w') :
    ∃ x, Carrying channel_id quote w' (arrived ++ [x])
      ∧ (Room channel_id w (.receiveFrame id dir) ↔ x.2 = true) := by
  cases hlink : w.link with
  | nil =>
    unfold Stack.receiveFrame at hs
    rw [hlink] at hs
    exact absurd hs (by simp)
  | cons frame link =>
    obtain ⟨socket, hsocket, heq⟩ := receiveFrame_eq hq h hlink id dir
    obtain rfl := Option.some.inj (hs.symm.trans heq)
    have hcopy := copyFromFrame_eq (h.frames frame (hlink ▸ List.mem_cons_self)).1
    obtain ⟨room, hhearing, hroom⟩ := h.hearing.notified frame.data link socket
    refine ⟨(frame.data, room), ⟨h.agent, hsocket, h.nonempty, ?_, ?_, hhearing⟩, ?_⟩
    · intro f hf
      exact h.frames f (hlink ▸ List.mem_cons_of_mem _ hf)
    · obtain ⟨free, s, hsource, hfilled, hpieces⟩ := h.sending
      refine ⟨free, s, hsource, hfilled, ?_⟩
      rw [hpieces, hlink]
      simp
    · unfold Room
      rw [hroom, hlink]
      simp [hcopy]

/-- The client that is told of a piece reads just that piece. -/
theorem Carrying.callback (h : Carrying channel_id quote w arrived)
    (hs : w.callback = some w') : Carrying channel_id quote w' arrived := by
  obtain ⟨client, heard, pending, harrived, hregistry, hcallbacks, hparsed⟩ := h.hearing
  unfold Stack.callback at hs
  rw [hcallbacks] at hs
  cases pending with
  | nil => exact absurd hs (by simp)
  | cons x pending =>
    obtain ⟨data, room⟩ := x
    have harrived' : arrived = (heard ++ [(data, room)]) ++ pending := by
      rw [harrived, List.append_assoc]
      rfl
    cases room with
    | false =>
      obtain rfl := Option.some.inj hs
      refine ⟨h.agent, h.client, h.nonempty, h.frames, h.sending, client, _, pending, harrived',
        hregistry, rfl, ?_⟩
      rw [kept_append, kept_cons_false, kept_nil, List.append_nil]
      exact hparsed
    | true =>
      have hne : data ≠ [] := h.piece_ne_nil (data, true) (by rw [harrived']; simp)
      rw [kept_cons_true, List.flatten_cons] at hregistry
      have hread := CConnectivityAgentProxy.receiveData_first
        (p := { w.client.state with
          mCallbacksQueue := pending.map (callbackFor client channel_id) }) hregistry hne
      have hw' := Option.some.inj hs
      unfold onDataReceived at hw'
      dsimp only at hw'
      rw [hread] at hw'
      obtain rfl := hw'
      refine ⟨h.agent, h.client, h.nonempty, h.frames, h.sending, client, _, pending, harrived',
        Function.update_self .., rfl, ?_⟩
      rw [kept_append, ← hparsed]
      rfl

end steps

/-! ## Runs -/

section runs

variable {channel_id : UInt32} {prio : TChannelPriority} {as : List Action} {w w' : Stack}
  {arrived : List (List UInt8 × Bool)}

/-- Every channel is served under the same quote, and it is the smallest limit of all. -/
theorem quote_eq (prio : TChannelPriority) : getQuoteBySourceType prio = 4000 := by
  cases prio <;> rfl

/-- A step brings at most one piece to the client, and it has found room if there was any. -/
theorem carrying_step {a : Action}
    (h : Carrying channel_id (getQuoteBySourceType prio) w arrived)
    (hs : step channel_id prio w a = some w') :
    ∃ more, Carrying channel_id (getQuoteBySourceType prio) w' (arrived ++ more)
      ∧ (Room channel_id w a ↔ ∀ x ∈ more, x.2 = true) := by
  have hquote := quote_eq prio
  have hbuffer : BUFFER_SIZE = 4096 := rfl
  cases a with
  | sendData env id dir data =>
    refine ⟨[], ?_, by simp [Room]⟩
    rw [List.append_nil]
    exact h.sendData hs
  | dispatch =>
    refine ⟨[], ?_, by simp [Room]⟩
    rw [List.append_nil]
    exact h.dispatch (by omega) hs
  | receiveFrame id dir =>
    obtain ⟨x, hx, hroom⟩ := h.receiveFrame (by omega) hs
    refine ⟨[x], hx, hroom.trans ?_⟩
    simp
  | callback =>
    refine ⟨[], ?_, by simp [Room]⟩
    rw [List.append_nil]
    exact h.callback hs

theorem carrying_run (hr : run (step channel_id prio) w as = some w')
    (h : Carrying channel_id (getQuoteBySourceType prio) w arrived) :
    ∃ more, Carrying channel_id (getQuoteBySourceType prio) w' (arrived ++ more)
      ∧ (Along (step channel_id prio) (Room channel_id) w as ↔ ∀ x ∈ more, x.2 = true) := by
  induction as generalizing w arrived with
  | nil =>
    obtain rfl := Option.some.inj hr
    refine ⟨[], ?_, by simp [Along]⟩
    rw [List.append_nil]
    exact h
  | cons a as ih =>
    obtain ⟨t, ht, hr⟩ := run_cons hr
    obtain ⟨first, hfirst, hroom⟩ := carrying_step h ht
    obtain ⟨more, hmore, halong⟩ := ih hr hfirst
    refine ⟨first ++ more, ?_, ?_⟩
    · rw [← List.append_assoc]
      exact hmore
    · rw [List.forall_mem_append, ← hroom, ← halong]
      refine and_congr_right fun _ => ⟨fun h' => h' t ht, fun h' u hu => ?_⟩
      obtain rfl := Option.some.inj (ht.symm.trans hu)
      exact h'

/-- What a client has parsed in the end, from what has arrived. -/
theorem Carrying.delivered {quote : Nat} (h : Carrying channel_id quote w arrived)
    (hdone : Delivered channel_id w) :
    w.sent.flatMap (pieces quote) = arrived.map Prod.fst ∧ w.parsed = kept arrived := by
  obtain ⟨free, s, hsource, -, hpieces⟩ := h.sending
  obtain ⟨client, heard, pending, harrived, -, hcallbacks, hparsed⟩ := h.hearing
  have hqueue : s.mBuffersQueue = [] := hdone.source _ hsource s rfl
  rw [hdone.link, hqueue] at hpieces
  rw [hdone.callbacks] at hcallbacks
  have hpending : pending = [] := List.map_eq_nil_iff.mp hcallbacks.symm
  refine ⟨by simpa using hpieces, ?_⟩
  rw [hparsed, harrived, hpending, List.append_nil]

/-- **Each payload is parsed in the pieces of the quote**, if the client's buffer always had room
for the next. -/
theorem parsed_in_pieces (hopen : Opened channel_id w)
    (hr : run (step channel_id prio) w as = some w') (hdone : Delivered channel_id w')
    (hroom : Along (step channel_id prio) (Room channel_id) w as) :
    w'.parsed = w'.sent.flatMap (pieces (getQuoteBySourceType prio)) := by
  obtain ⟨arrived, hcarrying, halong⟩ := carrying_run hr (hopen.carrying _)
  rw [List.nil_append] at hcarrying
  obtain ⟨hpieces, hparsed⟩ := hcarrying.delivered hdone
  rw [hparsed, kept_of_all (halong.mp hroom), hpieces]

/-- What has been sent stays sent. -/
theorem sent_grows {a : Action} (hs : step channel_id prio w a = some w') :
    w.sent <+: w'.sent := by
  cases a with
  | sendData env id dir data =>
    unfold step Stack.sendData at hs
    dsimp only at hs
    split at hs
    · exact absurd hs (by simp)
    · exact Option.some.inj hs ▸ List.prefix_refl _
    · split at hs
      · exact Option.some.inj hs ▸ List.prefix_refl _
      · split at hs
        · exact absurd hs (by simp)
        · obtain rfl := Option.some.inj hs
          dsimp only
          split
          · exact List.prefix_append _ _
          · exact List.prefix_refl _
  | dispatch =>
    unfold step Stack.dispatch at hs
    dsimp only at hs
    split at hs
    · exact absurd hs (by simp)
    · exact Option.some.inj hs ▸ List.prefix_refl _
  | receiveFrame id dir =>
    unfold step Stack.receiveFrame at hs
    dsimp only at hs
    split at hs
    · exact absurd hs (by simp)
    · split at hs
      · exact absurd hs (by simp)
      · split at hs
        · exact absurd hs (by simp)
        · exact Option.some.inj hs ▸ List.prefix_refl _
  | callback =>
    unfold step Stack.callback at hs
    dsimp only at hs
    split at hs
    · exact absurd hs (by simp)
    · split at hs <;> exact Option.some.inj hs ▸ List.prefix_refl _

end runs

/-! ## Everything arrives -/

section progress

variable {channel_id : UInt32} {quote i j k : Nat} {w : Stack}
  {arrived : List (List UInt8 × Bool)}

/-- So many pieces are with the source, on the link, and with the callbacks. -/
structure Stage (channel_id : UInt32) (quote : Nat) (w : Stack) (i j k : Nat) : Prop where
  carrying : ∃ arrived, Carrying channel_id quote w arrived
  source : ∃ free s, w.agent.state channel_id = some ⟨free, some s⟩
    ∧ (s.mBuffersQueue.flatMap fun b => pieces quote b.data).length = i
  link : w.link.length = j
  callbacks : w.client.state.mCallbacksQueue.length = k

theorem Stage.dispatch (hq : 0 < quote) (h : Stage channel_id quote w (i + 1) j k) :
    ∃ w', w.dispatch channel_id quote = some w' ∧ Stage channel_id quote w' i (j + 1) k
      ∧ w'.sent = w.sent := by
  obtain ⟨arrived, hc⟩ := h.carrying
  obtain ⟨free, s, hs, hi⟩ := h.source
  have hfilled : ∀ b ∈ s.mBuffersQueue, b.Filled := by
    obtain ⟨free', s', hs', hfilled, -⟩ := hc.sending
    obtain ⟨-, hsame⟩ := CSourceAgent.mk.inj (Option.some.inj (hs.symm.trans hs'))
    exact Option.some.inj hsame ▸ hfilled
  obtain ⟨⟨s', frame, released⟩, hd⟩ : ∃ out, s.OnDispatch quote = some out := by
    unfold CSource.OnDispatch
    cases hqueue : s.mBuffersQueue with
    | nil =>
      rw [hqueue] at hi
      exact absurd hi (by simp)
    | cons b rest => exact ⟨_, rfl⟩
  obtain ⟨hone, -, -, -, -⟩ := CSource.OnDispatch_pieces hq hfilled hd
  obtain ⟨agents, free', heq, hagent⟩ : ∃ agents free', w.dispatch channel_id quote
      = some { w with agent.state := agents, link := w.link ++ [frame] }
      ∧ agents channel_id = some ⟨free', some s'⟩ := by
    unfold Stack.dispatch SourceAgents.OnDispatch
    rw [hs]
    dsimp only
    rw [hd]
    exact ⟨_, _, rfl, Function.update_self ..⟩
  refine ⟨_, heq, ⟨⟨arrived, hc.dispatch hq heq⟩, ⟨free', s', hagent, ?_⟩, ?_, h.callbacks⟩, rfl⟩
  · rw [hone, List.length_cons] at hi
    omega
  · rw [List.length_append, h.link, List.length_singleton]

theorem Stage.receiveFrame (hq : quote + 16 ≤ BUFFER_SIZE)
    (h : Stage channel_id quote w i (j + 1) k) (id : MsgId) (dir : DirectionId) :
    ∃ w', w.receiveFrame channel_id id dir = some w' ∧ Stage channel_id quote w' i j (k + 1)
      ∧ w'.sent = w.sent := by
  obtain ⟨arrived, hc⟩ := h.carrying
  have hj := h.link
  cases hlink : w.link with
  | nil =>
    rw [hlink] at hj
    exact absurd hj (by simp)
  | cons frame link =>
    obtain ⟨socket, -, heq⟩ := receiveFrame_eq hq hc hlink id dir
    obtain ⟨x, hx, -⟩ := hc.receiveFrame hq heq
    obtain ⟨client, heard, pending, -, hregistry, -, -⟩ := hc.hearing
    refine ⟨_, heq, ⟨⟨_, hx⟩, h.source, ?_, ?_⟩, rfl⟩
    · rw [hlink, List.length_cons] at hj
      exact Nat.succ.inj hj
    · rw [← h.callbacks]
      exact CConnectivityAgentProxy.receiveDataNotification_callbacks hregistry

theorem Stage.callback (h : Stage channel_id quote w i j (k + 1)) :
    ∃ w', w.callback = some w' ∧ Stage channel_id quote w' i j k ∧ w'.sent = w.sent := by
  obtain ⟨arrived, hc⟩ := h.carrying
  have hk := h.callbacks
  cases hqueue : w.client.state.mCallbacksQueue with
  | nil =>
    rw [hqueue] at hk
    exact absurd hk (by simp)
  | cons c cs =>
    rw [hqueue, List.length_cons] at hk
    cases c with
    | dataReceived client channel size =>
      have heq : w.callback = some (onDataReceived
          { w with client.state.mCallbacksQueue := cs } channel size) := by
        unfold Stack.callback
        rw [hqueue]
      refine ⟨_, heq, ⟨⟨arrived, hc.callback heq⟩, h.source, h.link, ?_⟩, rfl⟩
      unfold onDataReceived
      dsimp only
      rw [CConnectivityAgentProxy.receiveData_callbacks]
      exact Nat.succ.inj hk
    | bufferOverflow client channel =>
      have heq : w.callback = some { w with client.state.mCallbacksQueue := cs } := by
        unfold Stack.callback
        rw [hqueue]
      exact ⟨_, heq, ⟨⟨arrived, hc.callback heq⟩, h.source, h.link, Nat.succ.inj hk⟩, rfl⟩

/-- Nothing is left. -/
theorem Stage.delivered (h : Stage channel_id quote w 0 0 0) : Delivered channel_id w := by
  refine ⟨?_, List.length_eq_zero_iff.mp h.link, List.length_eq_zero_iff.mp h.callbacks⟩
  obtain ⟨free, s, hs, hi⟩ := h.source
  intro agent hagent source hsource
  obtain rfl := Option.some.inj (hs.symm.trans hagent)
  obtain rfl := Option.some.inj hsource
  cases hqueue : s.mBuffersQueue with
  | nil => rfl
  | cons b rest =>
    have hpos := length_pieces_pos quote b.data
    rw [hqueue, List.flatMap_cons, List.length_append] at hi
    omega

variable {prio : TChannelPriority}

/-- **What can be done is done**: the dispatcher, the other agent and the callback thread get rid
of as many pieces as the source has. -/
theorem Stage.run_all {n : Nat} (id : MsgId) (dir : DirectionId)
    (h : Stage channel_id (getQuoteBySourceType prio) w n 0 0) :
    ∃ w', run (step channel_id prio) w (List.replicate n .dispatch
        ++ List.replicate n (.receiveFrame id dir) ++ List.replicate n .callback) = some w'
      ∧ Delivered channel_id w' ∧ w'.sent = w.sent := by
  have hquote := quote_eq prio
  have hbuffer : BUFFER_SIZE = 4096 := rfl
  -- first all are put on the link
  have hdispatch : ∃ t, run (step channel_id prio) w (List.replicate n .dispatch) = some t
      ∧ ∃ j, 0 + j = n ∧ Stage channel_id (getQuoteBySourceType prio) t 0 j 0
        ∧ t.sent = w.sent := by
    refine run_replicate (S := fun m v => ∃ j, m + j = n
      ∧ Stage channel_id (getQuoteBySourceType prio) v m j 0 ∧ v.sent = w.sent) ?_ ⟨0, rfl, h, rfl⟩
    intro m v hv
    obtain ⟨j, hj, hstage, hsent⟩ := hv
    obtain ⟨v', hs, hstage', hsame⟩ := Stage.dispatch (by omega) hstage
    exact ⟨v', hs, j + 1, by omega, hstage', hsame.trans hsent⟩
  obtain ⟨t, ht, j, hj, hlink, hsent⟩ := hdispatch
  obtain rfl := (Nat.zero_add j).symm.trans hj
  -- then all arrive
  have hreceive : ∃ u, run (step channel_id prio) t (List.replicate j (.receiveFrame id dir))
      = some u ∧ ∃ k, 0 + k = j ∧ Stage channel_id (getQuoteBySourceType prio) u 0 0 k
        ∧ u.sent = w.sent := by
    refine run_replicate (S := fun m v => ∃ k, m + k = j
      ∧ Stage channel_id (getQuoteBySourceType prio) v 0 m k ∧ v.sent = w.sent) ?_
      ⟨0, rfl, hlink, hsent⟩
    intro m v hv
    obtain ⟨k, hk, hstage, hsent⟩ := hv
    obtain ⟨v', hs, hstage', hsame⟩ := Stage.receiveFrame (by omega) hstage id dir
    exact ⟨v', hs, k + 1, by omega, hstage', hsame.trans hsent⟩
  obtain ⟨u, hu, k, hk, hqueue, hsent'⟩ := hreceive
  obtain rfl := (Nat.zero_add k).symm.trans hk
  -- and then the client hears of all
  have hcallback : ∃ w', run (step channel_id prio) u (List.replicate k .callback) = some w'
      ∧ Stage channel_id (getQuoteBySourceType prio) w' 0 0 0 ∧ w'.sent = w.sent := by
    refine run_replicate (S := fun m v => Stage channel_id (getQuoteBySourceType prio) v 0 0 m
      ∧ v.sent = w.sent) ?_ ⟨hqueue, hsent'⟩
    intro m v hv
    obtain ⟨v', hs, hstage, hsame⟩ := Stage.callback hv.1
    exact ⟨v', hs, hstage, hsame.trans hv.2⟩
  obtain ⟨w', hw', hdone, hsame⟩ := hcallback
  refine ⟨w', ?_, hdone.delivered, hsame⟩
  rw [run_append, run_append, ht, Option.bind_some, hu, Option.bind_some]
  exact hw'

/-- What an open channel takes is with its source. -/
theorem Opened.sendData {env : ProxyEnv} {data : List UInt8} (id : MsgId) (dir : DirectionId)
    (hopen : Opened channel_id w)
    (hok : CConnectivityAgentProxy.Acceptable w.sender env channel_id data)
    (hasync : env.asyncRequest = true) (hsize : data.length + 16 ≤ BUFFER_SIZE)
    (htakes : w.agent.state.takes channel_id = true) (quote : Nat) :
    ∃ w', w.sendData channel_id env id dir data = some w'
      ∧ Stage channel_id quote w' (pieces quote data).length 0 0 ∧ w'.sent = [data] := by
  have hc := hopen.carrying quote
  obtain ⟨socket, stub, -, -, heq⟩ := sendData_eq id dir hc.agent hok hasync hsize
  have hc' := hc.sendData heq
  have hsent : (if w.agent.state.takes channel_id then w.sent ++ [data] else w.sent) = [data] := by
    rw [if_pos htakes, hopen.sent, List.nil_append]
  obtain ⟨free, s, hs, -, hpieces⟩ := hc'.sending
  dsimp only at hs hpieces
  rw [hsent, hopen.link] at hpieces
  refine ⟨_, heq, ⟨⟨[], hc'⟩, ⟨free, s, hs, ?_⟩, ?_, ?_⟩, hsent⟩
  · simpa using congrArg List.length hpieces.symm
  · rw [hopen.link]
    rfl
  · rw [hopen.callbacks]
    rfl

/-- As long as little has been sent there is room for all of it. -/
theorem Carrying.room (h : Carrying channel_id quote w arrived)
    (hsmall : w.sent.flatten.length ≤ MAX_SIZE) (a : Action) : Room channel_id w a := by
  cases a with
  | receiveFrame id dir =>
    obtain ⟨free, s, -, -, hpieces⟩ := h.sending
    obtain ⟨client, heard, pending, harrived, hregistry, -, -⟩ := h.hearing
    intro frame hframe info hinfo
    obtain ⟨rest, hlink⟩ := List.head?_eq_some_iff.mp hframe
    rw [copyFromFrame_eq (h.frames frame (by rw [hlink]; exact List.mem_cons_self)).1]
    obtain rfl := Option.some.inj (hregistry.symm.trans hinfo)
    have htotal := congrArg (fun l => l.flatten.length) hpieces
    have hkept := length_kept_le pending
    simp only [flatten_flatMap_pieces, harrived, hlink, List.map_append, List.map_cons,
      List.flatten_append, List.flatten_cons, List.length_append] at htotal
    unfold ChannelBuffer.freeSize ChannelBuffer.getFilledSize
    dsimp only
    omega
  | sendData | dispatch | callback => trivial

/-- **Little data always finds room.** -/
theorem room_of_small {as : List Action} {w' : Stack}
    (hr : run (step channel_id prio) w as = some w')
    (h : Carrying channel_id (getQuoteBySourceType prio) w arrived)
    (hsmall : w'.sent.flatten.length ≤ MAX_SIZE) :
    w.sent <+: w'.sent ∧ Along (step channel_id prio) (Room channel_id) w as := by
  induction as generalizing w arrived with
  | nil => exact ⟨Option.some.inj hr ▸ List.prefix_refl _, trivial⟩
  | cons a as ih =>
    obtain ⟨t, ht, hr⟩ := run_cons hr
    obtain ⟨first, hfirst, -⟩ := carrying_step h ht
    obtain ⟨hgrown, halong⟩ := ih hr hfirst
    have hall := (sent_grows ht).trans hgrown
    have hless : w.sent.flatten.length ≤ w'.sent.flatten.length := by
      obtain ⟨rest, hrest⟩ := hall
      rw [← hrest, List.flatten_append, List.length_append]
      exact Nat.le_add_right _ _
    exact ⟨hall, .cons (h.room (hless.trans hsmall) a) ht halong⟩

end progress

/-! ### One payload -/

/-- Channel 5, just opened on both sides. -/
def start : Stack where
  sender := oneChannel
  agent := ⟨fresh, Function.update (fun _ => none) 5 (some ⟨[0, 1], some (CSource.new 5)⟩)⟩
  link := []
  client := ⟨fresh, oneChannel⟩
  sent := []
  parsed := []

theorem opened_start : Opened 5 start where
  agent := idle_fresh
  client := idle_fresh
  source := ⟨[0, 1], .new 5, by simp [start], rfl⟩
  buffer := ⟨0, by simp [start, oneChannel]⟩
  callbacks := rfl
  link := rfl
  sent := rfl
  parsed := rfl

/-- A payload is sent, and everything is done for it that there is to do for so many pieces. -/
def sendOne (data : List UInt8) (n : Nat) : List Action :=
  .sendData connected 7 1 data :: (List.replicate n .dispatch
    ++ List.replicate n (.receiveFrame 8 1) ++ List.replicate n .callback)

theorem pieces_zeros : pieces 4000 (zeros 4001) = [zeros 4000, zeros 1] := by
  have hlength : (zeros 4001).length = 4001 := List.length_replicate
  rw [pieces_of_lt (by omega) (by omega), pieces_of_le (by rw [List.length_drop]; omega)]
  unfold zeros
  rw [List.take_replicate, List.drop_replicate]
  rfl

end Stack

end IviLink.L1
