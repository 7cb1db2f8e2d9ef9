import IviLink.MessageProtocols.AppManMessages

/-!
# Which messages of the applications come back

A message is exact if its fields take up as much as was computed for it, and the other end reads
them as they were. Two computations have no term for the type of the message, so that the last byte
of each such message is written behind the block.
-/

namespace IviLink.AppMan.Ipc

open IviLink.Lib IviLink.Serialize

inductive AppManMessage
  | initApplication (pid : Pid) (list : List ServiceUid)
  | useService (pid : Pid) (service : ServiceUid) (use : Bool)
  | registerService (pid : Pid) (service : ServiceUid)
  | sessionRequest (pid : Pid) (session service : ServiceUid)
  | waitingServiceRequest (pid : Pid) (service : ServiceUid)

namespace AppManMessage

/-- The application manager has this call from the application. -/
def Called (sent : Option (List UInt8)) (s : CAppManProtoServer) (pid : Pid) (dirId : DirectionID)
    (call : ServerCall) : Prop :=
  ∃ payload, sent = some payload ∧
    s.OnRequest payload dirId = some (s.insertClient pid dirId, [call])

/-- Every byte of the block is written and none behind it, and the other end, which reads only
these, has the same arguments. -/
def Exact (s : CAppManProtoServer) (c : CAppManProtoClient) (dirId : DirectionID) :
    AppManMessage → Prop
  | initApplication pid list =>
    Called (CAppManProtoClient.initApplication pid list) s pid dirId (.initApplication pid list)
  | useService pid service use =>
    Called (CAppManProtoClient.useService pid service use) s pid dirId (.useService pid service use)
  | registerService pid service =>
    Called (CAppManProtoClient.registerService pid service) s pid dirId
      (.registerService pid service)
  | sessionRequest pid session service => ∃ sent,
    s.sessionRequest pid session service = some sent ∧ ∀ payload, sent = some payload →
      c.OnRequest payload = some (c.receiveSessionRequest pid session service)
  | waitingServiceRequest pid service => ∃ sent,
    s.waitingServiceRequest pid service = some sent ∧ ∀ payload, sent = some payload →
      CAppManProtoClient.OnAsyncRequest payload = some [.waitingServiceRequest pid service]

/-- The condition. -/
def Fits (s : CAppManProtoServer) (c : CAppManProtoClient) : AppManMessage → Prop
  | initApplication _ list => s.mpServer = true ∧ 13 + stringsSize list < 2 ^ 32
  | useService _ _ _ => False
  | registerService _ _ => False
  | sessionRequest pid session service => s.mClients pid = none ∨
    c.mpHandler = true ∧ 9 + stringsSize [session, service] < 2 ^ 32
  | waitingServiceRequest pid service => s.mClients pid = none ∨
    pid = 0 ∧ 5 + stringsSize [service] < 2 ^ 32

end AppManMessage

/-- The strings in it. -/
def ServerCall.strings : ServerCall → List ServiceUid
  | isLinkAlive => []
  | initApplication _ list => list
  | useService _ service _ => [service]
  | registerService _ service => [service]

/-! ## Reading -/

variable {pPayload rest : List UInt8} {pos : UInt32} {list : List ServiceUid}

theorem Ahead.readPid_eq {pid : Pid} (h : Ahead pPayload pos (pidBytes pid ++ rest)) :
    readPid pPayload pos = some pid ∧ Ahead pPayload (pos + 4) rest := by
  obtain ⟨hread, hbehind⟩ := h.readUInt32_eq
  refine ⟨?_, hbehind⟩
  rw [readPid, hread]
  rfl

namespace CAppManProtoServer

theorem readList_eq (h : Ahead pPayload pos ((list.map Field.string).flatMap Field.bytes ++ rest))
    (hshort : ∀ service ∈ list, service.length + 1 < 2 ^ 32) :
    readList pPayload pos list.length = some list := by
  induction list generalizing pos with
  | nil => rfl
  | cons service list ih =>
    obtain ⟨hservice, hlist⟩ := List.forall_mem_cons.mp hshort
    rw [List.map_cons, List.flatMap_cons, List.append_assoc] at h
    obtain ⟨hread, hbehind⟩ := h.bufferToString_eq hservice
    rw [List.length_cons, readList]
    refine Option.bind_eq_some_iff.mpr ⟨service, hread, ?_⟩
    exact Option.bind_eq_some_iff.mpr ⟨list, ih hbehind hlist, rfl⟩

theorem length_of_readList {n : Nat} (h : readList pPayload pos n = some list) :
    ∀ service ∈ list, service.length + 4 ≤ pPayload.length := by
  induction n generalizing pos list with
  | zero =>
    cases h
    exact List.forall_mem_nil _
  | succ n ih =>
    rw [readList] at h
    obtain ⟨service, hservice, h⟩ := Option.bind_eq_some_iff.mp h
    obtain ⟨list', hlist, h⟩ := Option.bind_eq_some_iff.mp h
    cases h
    exact List.forall_mem_cons.mpr ⟨length_of_bufferToString hservice, ih hlist⟩

variable {s s' : CAppManProtoServer} {dirId : DirectionID} {call : ServerCall}

/-- A call was read behind the pid. -/
theorem exists_readCall (h : s.OnRequest pPayload dirId = some (s', [call]))
    (hlink : call ≠ .isLinkAlive) : s.mpServer = true ∧
      ∃ type pid, readCall type pid pPayload 9 = some [call] := by
  rw [OnRequest] at h
  split at h
  · next hserver =>
    obtain ⟨size, -, h⟩ := Option.bind_eq_some_iff.mp h
    obtain ⟨type, -, h⟩ := Option.bind_eq_some_iff.mp h
    split at h
    · cases h
      exact absurd rfl hlink
    · obtain ⟨pid, -, h⟩ := Option.bind_eq_some_iff.mp h
      obtain ⟨calls, hcalls, h⟩ := Option.bind_eq_some_iff.mp h
      cases h
      exact ⟨hserver, type, pid, hcalls⟩
  · cases h

/-- The strings of a call are in the message that it was read from. -/
theorem length_of_readCall {type : UInt8} {pid : Pid}
    (h : readCall type pid pPayload pos = some [call]) :
    ∀ str ∈ call.strings, str.length + 4 ≤ pPayload.length := by
  rw [readCall] at h
  split at h
  · obtain ⟨count, -, h⟩ := Option.bind_eq_some_iff.mp h
    obtain ⟨list, hlist, h⟩ := Option.bind_eq_some_iff.mp h
    cases h
    exact length_of_readList hlist
  · split at h
    · obtain ⟨service, hservice, h⟩ := Option.bind_eq_some_iff.mp h
      obtain ⟨use, -, h⟩ := Option.bind_eq_some_iff.mp h
      cases h
      exact List.forall_mem_singleton.mpr (length_of_bufferToString hservice)
    · split at h
      · obtain ⟨service, hservice, h⟩ := Option.bind_eq_some_iff.mp h
        cases h
        exact List.forall_mem_singleton.mpr (length_of_bufferToString hservice)
      · cases h

/-- A call that is to be read has short strings. -/
theorem short_of_called {size : UInt32} {fields : List Field} {pid : Pid}
    (h : AppManMessage.Called (message size fields) s pid dirId call)
    (hlink : call ≠ .isLinkAlive) :
    s.mpServer = true ∧ ∀ str ∈ call.strings, str.length + 1 < 2 ^ 32 := by
  obtain ⟨payload, hsent, hread⟩ := h
  have hlt : payload.length < 2 ^ 32 := length_of_message hsent ▸ UInt32.toNat_lt _
  obtain ⟨hserver, type, pid', hcall⟩ := exists_readCall hread hlink
  refine ⟨hserver, fun str hstr => ?_⟩
  have := length_of_readCall hcall str hstr
  omega

end CAppManProtoServer

/-! ## The first messages -/

section called

variable {s : CAppManProtoServer} {c : CAppManProtoClient} {dirId : DirectionID} {pid : Pid}
  {service session : ServiceUid} {use : Bool}

/-- The header of a message, and what is behind it. -/
theorem ahead_header {size : UInt32} {type : UInt8} (h : pPayload = le32 size ++ ([type] ++ rest))
    (hlt : pPayload.length < 2 ^ 32) :
    readUInt32 pPayload 0 = some size ∧ readUInt8 pPayload 4 = some type ∧
      Ahead pPayload 5 rest := by
  have hstart : Ahead pPayload 0 (le32 size ++ ([type] ++ rest)) := h ▸ ahead_start hlt
  obtain ⟨hsize, hbehind⟩ := hstart.readUInt32_eq
  obtain ⟨htype, hrest⟩ := hbehind.readUInt8_eq
  exact ⟨hsize, htype, hrest⟩

theorem initApplication_eq_some_iff (hshort : ∀ service ∈ list, service.length + 1 < 2 ^ 32) :
    CAppManProtoClient.initApplication pid list = some pPayload ↔
      13 + stringsSize list < 2 ^ 32 ∧
      pPayload = le32 (UInt32.ofNat (13 + stringsSize list)) ++ ([C_PROTO_INIT_APP] ++
        (pidBytes pid ++ (le32 (UInt32.ofNat list.length) ++
          (list.map Field.string).flatMap Field.bytes))) := by
  have hsize : list.foldl (fun size it => size + stringInBufSize it) (4 + 1 + 4 + 4) =
      UInt32.ofNat (13 + stringsSize list) := foldl_stringInBufSize list 13
  rw [CAppManProtoClient.initApplication, hsize]
  refine message_ofNat_iff ?_ ?_
  · simp only [List.forall_mem_cons, List.forall_mem_map]
    exact ⟨by simp, by simp, by simp [pidBytes], by simp, hshort⟩
  · simp only [List.map_cons, List.sum_cons, sum_size_strings, Field.size, length_le32, pidBytes,
      List.length_singleton]
    omega

theorem initApplication_exact_iff :
    (AppManMessage.initApplication pid list).Exact s c dirId ↔
      (AppManMessage.initApplication pid list).Fits s c := by
  constructor
  · intro h
    obtain ⟨hserver, hshort⟩ := CAppManProtoServer.short_of_called h (by simp)
    obtain ⟨payload, hsent, -⟩ := h
    exact ⟨hserver, ((initApplication_eq_some_iff hshort).mp hsent).1⟩
  · intro ⟨hserver, hsize⟩
    have hshort := short_strings (show stringsSize list < 2 ^ 32 by omega)
    have hcount := count_le_stringsSize list
    have hn : (UInt32.ofNat list.length).toNat = list.length := by
      rw [UInt32.toNat_ofNat']
      exact Nat.mod_eq_of_lt (by omega)
    refine ⟨_, (initApplication_eq_some_iff hshort).mpr ⟨hsize, rfl⟩, ?_⟩
    generalize hp : le32 (UInt32.ofNat (13 + stringsSize list)) ++ _ = payload
    have hlt : payload.length < 2 ^ 32 := by
      rw [← hp]
      simp only [List.length_append, length_le32, List.length_singleton, pidBytes,
        length_strings hshort]
      omega
    obtain ⟨hread, htype, hpid⟩ := ahead_header hp.symm hlt
    obtain ⟨hpid, hcount⟩ := Ahead.readPid_eq hpid
    obtain ⟨hcount, hlist⟩ := hcount.readUInt32_eq
    rw [← List.append_nil (List.flatMap _ _)] at hlist
    rw [CAppManProtoServer.OnRequest, if_pos hserver]
    refine Option.bind_eq_some_iff.mpr ⟨_, hread, Option.bind_eq_some_iff.mpr ⟨_, htype, ?_⟩⟩
    rw [if_neg (by decide)]
    refine Option.bind_eq_some_iff.mpr ⟨pid, hpid, Option.bind_eq_some_iff.mpr ⟨_, ?_, rfl⟩⟩
    rw [CAppManProtoServer.readCall, if_pos rfl]
    refine Option.bind_eq_some_iff.mpr ⟨_, hcount, Option.bind_eq_some_iff.mpr ⟨list, ?_, rfl⟩⟩
    rw [hn]
    exact CAppManProtoServer.readList_eq hlist hshort

/-- What was computed for a message is one byte too little. -/
theorem not_called_of_short_size {n : Nat} {fields : List Field} {call : ServerCall}
    (hfields : (∀ str ∈ call.strings, str.length + 1 < 2 ^ 32) → ∀ f ∈ fields, f.Short)
    (hlong : n < (fields.map Field.size).sum) (hlink : call ≠ .isLinkAlive) :
    ¬ AppManMessage.Called (message (UInt32.ofNat n) fields) s pid dirId call := by
  intro h
  obtain ⟨-, hshort⟩ := CAppManProtoServer.short_of_called h hlink
  obtain ⟨payload, hsent, -⟩ := h
  have hsize := ((message_eq_some_iff (hfields hshort)).mp hsent).1
  have hle : (UInt32.ofNat n).toNat ≤ n := by
    rw [UInt32.toNat_ofNat']
    exact Nat.mod_le _ _
  omega

theorem not_useService_exact : ¬ (AppManMessage.useService pid service use).Exact s c dirId := by
  have hsize : 4 + 4 + stringInBufSize service + 1 = UInt32.ofNat (8 + (service.length + 5) + 1) := by
    rw [UInt32.ofNat_add, UInt32.ofNat_add]
    rfl
  rw [AppManMessage.Exact, CAppManProtoClient.useService, hsize]
  refine not_called_of_short_size (fun hshort => ?_) ?_ (by simp)
  · have hservice : service.length + 1 < 2 ^ 32 := hshort service (List.mem_singleton_self _)
    simpa [pidBytes] using hservice
  · simp [pidBytes]
    omega

theorem not_registerService_exact :
    ¬ (AppManMessage.registerService pid service).Exact s c dirId := by
  have hsize : 4 + 4 + stringInBufSize service = UInt32.ofNat (8 + (service.length + 5)) := by
    rw [UInt32.ofNat_add]
    rfl
  rw [AppManMessage.Exact, CAppManProtoClient.registerService, hsize]
  refine not_called_of_short_size (fun hshort => ?_) ?_ (by simp)
  · have hservice : service.length + 1 < 2 ^ 32 := hshort service (List.mem_singleton_self _)
    simpa [pidBytes] using hservice
  · simp [pidBytes]
    omega

/-! ## The messages to the application -/

theorem receiveSessionRequest_eq {calls : List ClientCall}
    (h : c.receiveSessionRequest pid session service = (c, calls)) :
    calls = [.sessionRequest pid session service] := by
  rw [CAppManProtoClient.receiveSessionRequest] at h
  split at h
  · exact (Prod.mk.inj h).2.symm
  · have hlist := congrArg (fun r => r.1.mSessionReqsList.length) h
    simp at hlist

theorem receiveSessionRequest_inj {pid' : Pid} {session' service' : ServiceUid}
    (h : c.receiveSessionRequest pid' session' service' =
      c.receiveSessionRequest pid session service) : session' = session ∧ service' = service := by
  rw [CAppManProtoClient.receiveSessionRequest, CAppManProtoClient.receiveSessionRequest] at h
  split at h
  · obtain ⟨-, hcalls⟩ := Prod.mk.inj h
    cases hcalls
    exact ⟨rfl, rfl⟩
  · have hlist := List.append_cancel_left (congrArg (fun r => r.1.mSessionReqsList) h)
    cases hlist
    exact ⟨rfl, rfl⟩

/-- The strings of a request for a session are in its message. -/
theorem length_of_sessionRequest
    (h : c.OnRequest pPayload = some (c.receiveSessionRequest pid session service)) :
    c.mpHandler = true ∧ session.length + 4 ≤ pPayload.length ∧
      service.length + 4 ≤ pPayload.length := by
  rw [CAppManProtoClient.OnRequest] at h
  split at h
  · next hhandler =>
    obtain ⟨size, -, h⟩ := Option.bind_eq_some_iff.mp h
    obtain ⟨type, -, h⟩ := Option.bind_eq_some_iff.mp h
    obtain ⟨pid', -, h⟩ := Option.bind_eq_some_iff.mp h
    split at h
    · obtain ⟨session', hsession, h⟩ := Option.bind_eq_some_iff.mp h
      obtain ⟨service', hservice, h⟩ := Option.bind_eq_some_iff.mp h
      obtain ⟨rfl, rfl⟩ := receiveSessionRequest_inj (Option.some.inj h)
      exact ⟨hhandler, length_of_bufferToString hsession, length_of_bufferToString hservice⟩
    · split at h
      · have hcalls := receiveSessionRequest_eq (Option.some.inj h).symm
        cases hcalls
      · rw [ite_self] at h
        have hcalls := receiveSessionRequest_eq (Option.some.inj h).symm
        cases hcalls
  · have hcalls := receiveSessionRequest_eq (Option.some.inj h).symm
    cases hcalls

theorem sessionRequest_message_iff (pid : Pid) (payload : List UInt8)
    (hsession : session.length + 1 < 2 ^ 32) (hservice : service.length + 1 < 2 ^ 32)
    {size : UInt32}
    (hsize : size = UInt32.ofNat (9 + stringsSize [session, service])) :
    message size [.value (le32 size), .value [C_PROTO_SES_REQ], .value (pidBytes pid),
        .string session, .string service] = some payload ↔
      9 + stringsSize [session, service] < 2 ^ 32 ∧ payload = le32 size ++ ([C_PROTO_SES_REQ] ++
        (pidBytes pid ++ (stringToBuffer session ++ (stringToBuffer service ++ [])))) := by
  subst hsize
  refine message_ofNat_iff ?_ ?_
  · simp [pidBytes]
    exact ⟨hsession, hservice⟩
  · simp [pidBytes, stringsSize]
    omega

theorem sessionRequest_exact_iff :
    (AppManMessage.sessionRequest pid session service).Exact s c dirId ↔
      (AppManMessage.sessionRequest pid session service).Fits s c := by
  have hsize : 4 + 4 + 1 + stringInBufSize session + stringInBufSize service =
      UInt32.ofNat (9 + stringsSize [session, service]) := foldl_stringInBufSize [session, service] 9
  rw [AppManMessage.Exact, AppManMessage.Fits, CAppManProtoServer.sessionRequest]
  cases hclient : s.mClients pid with
  | none => exact iff_of_true ⟨none, rfl, fun payload h => by cases h⟩ (Or.inl rfl)
  | some dirId =>
    constructor
    · intro ⟨sent, hsent, hread⟩
      obtain ⟨payload, hpayload, rfl⟩ := Option.map_eq_some_iff.mp hsent
      have hlt : payload.length < 2 ^ 32 := length_of_message hpayload ▸ UInt32.toNat_lt _
      obtain ⟨hhandler, hsession, hservice⟩ := length_of_sessionRequest (hread payload rfl)
      have hmessage := sessionRequest_message_iff pid payload
        (by omega : session.length + 1 < 2 ^ 32) (by omega) hsize
      exact Or.inr ⟨hhandler, (hmessage.mp hpayload).1⟩
    · intro h
      rcases h with hnone | ⟨hhandler, hfits⟩
      · cases hnone
      have hshort := short_strings (show stringsSize [session, service] < 2 ^ 32 by omega)
      have hsession := hshort session List.mem_cons_self
      have hservice := hshort service (List.mem_cons_of_mem _ List.mem_cons_self)
      have hsent := (sessionRequest_message_iff pid _ hsession hservice hsize).mpr ⟨hfits, rfl⟩
      have hlt := length_of_message hsent ▸ UInt32.toNat_lt _
      refine ⟨some _, Option.map_eq_some_iff.mpr ⟨_, hsent, rfl⟩, fun payload hpayload => ?_⟩
      rw [← Option.some.inj hpayload]
      obtain ⟨hread, htype, hahead⟩ := ahead_header rfl hlt
      obtain ⟨hpid, hahead⟩ := Ahead.readPid_eq hahead
      obtain ⟨hsession', hahead⟩ := hahead.bufferToString_eq hsession
      obtain ⟨hservice', -⟩ := hahead.bufferToString_eq hservice
      rw [CAppManProtoClient.OnRequest, if_pos hhandler]
      refine Option.bind_eq_some_iff.mpr ⟨_, hread, Option.bind_eq_some_iff.mpr ⟨_, htype, ?_⟩⟩
      refine Option.bind_eq_some_iff.mpr ⟨pid, hpid, ?_⟩
      rw [if_pos rfl]
      refine Option.bind_eq_some_iff.mpr ⟨session, hsession', ?_⟩
      exact Option.bind_eq_some_iff.mpr ⟨service, hservice', rfl⟩

theorem waitingServiceRequest_message_iff (payload : List UInt8)
    (hservice : service.length + 1 < 2 ^ 32) {size : UInt32}
    (hsize : size = UInt32.ofNat (5 + stringsSize [service])) :
    message size [.value (le32 size), .value [C_PROTO_WAIT_SERV_REQ], .string service] =
        some payload ↔
      5 + stringsSize [service] < 2 ^ 32 ∧
        payload = le32 size ++ ([C_PROTO_WAIT_SERV_REQ] ++ (stringToBuffer service ++ [])) := by
  subst hsize
  refine message_ofNat_iff ?_ ?_
  · simp
    exact hservice
  · simp [stringsSize]
    omega

/-- A request that was read has the pid 0. -/
theorem length_of_waitingServiceRequest
    (h : CAppManProtoClient.OnAsyncRequest pPayload = some [.waitingServiceRequest pid service]) :
    pid = 0 ∧ service.length + 4 ≤ pPayload.length := by
  rw [CAppManProtoClient.OnAsyncRequest] at h
  obtain ⟨size, -, h⟩ := Option.bind_eq_some_iff.mp h
  obtain ⟨type, -, h⟩ := Option.bind_eq_some_iff.mp h
  split at h
  · cases h
  · split at h
    · cases h
    · split at h
      · obtain ⟨service', hservice, h⟩ := Option.bind_eq_some_iff.mp h
        cases h
        exact ⟨rfl, length_of_bufferToString hservice⟩
      · cases h

theorem waitingServiceRequest_exact_iff :
    (AppManMessage.waitingServiceRequest pid service).Exact s c dirId ↔
      (AppManMessage.waitingServiceRequest pid service).Fits s c := by
  have hsize : 4 + 1 + stringInBufSize service = UInt32.ofNat (5 + stringsSize [service]) :=
    foldl_stringInBufSize [service] 5
  rw [AppManMessage.Exact, AppManMessage.Fits, CAppManProtoServer.waitingServiceRequest]
  cases hclient : s.mClients pid with
  | none => exact iff_of_true ⟨none, rfl, fun payload h => by cases h⟩ (Or.inl rfl)
  | some dirId =>
    constructor
    · intro ⟨sent, hsent, hread⟩
      obtain ⟨payload, hpayload, rfl⟩ := Option.map_eq_some_iff.mp hsent
      have hlt : payload.length < 2 ^ 32 := length_of_message hpayload ▸ UInt32.toNat_lt _
      obtain ⟨hpid, hservice⟩ := length_of_waitingServiceRequest (hread payload rfl)
      have hmessage := waitingServiceRequest_message_iff payload
        (by omega : service.length + 1 < 2 ^ 32) hsize
      exact Or.inr ⟨hpid, (hmessage.mp hpayload).1⟩
    · intro h
      rcases h with hnone | ⟨hpid, hfits⟩
      · cases hnone
      have hshort := short_strings (show stringsSize [service] < 2 ^ 32 by omega)
      have hservice := hshort service List.mem_cons_self
      have hsent := (waitingServiceRequest_message_iff _ hservice hsize).mpr ⟨hfits, rfl⟩
      have hlt := length_of_message hsent ▸ UInt32.toNat_lt _
      refine ⟨some _, Option.map_eq_some_iff.mpr ⟨_, hsent, rfl⟩, fun payload hpayload => ?_⟩
      rw [← Option.some.inj hpayload, hpid]
      obtain ⟨hread, htype, hahead⟩ := ahead_header rfl hlt
      have hservice' := (hahead.bufferToString_eq hservice).1
      rw [CAppManProtoClient.OnAsyncRequest]
      refine Option.bind_eq_some_iff.mpr ⟨_, hread, Option.bind_eq_some_iff.mpr ⟨_, htype, ?_⟩⟩
      rw [if_neg (by decide), if_neg (by decide), if_pos rfl]
      exact Option.bind_eq_some_iff.mpr ⟨service, hservice', rfl⟩

end called

/-- **Which messages are exact.** -/
theorem appMessages_exact_iff (s : CAppManProtoServer) (c : CAppManProtoClient)
    (dirId : DirectionID) (m : AppManMessage) : m.Exact s c dirId ↔ m.Fits s c := by
  cases m with
  | initApplication pid list => exact initApplication_exact_iff
  | useService pid service use => exact iff_of_false not_useService_exact id
  | registerService pid service => exact iff_of_false not_registerService_exact id
  | sessionRequest pid session service => exact sessionRequest_exact_iff
  | waitingServiceRequest pid service => exact waitingServiceRequest_exact_iff

/-- The block for `useService` has 15 bytes, and the message 16. -/
theorem use_written_beyond :
    CAppManProtoClient.useService 1 [97] true = none ∧
      (4 + 4 + stringInBufSize [97] + 1).toNat = 15 ∧
      ([Field.value (le32 15), .value [C_PROTO_USE_SERV], .value (pidBytes 1), .string [97],
        .value [1]].map Field.size).sum = 16 := by
  refine ⟨rfl, rfl, rfl⟩

end IviLink.AppMan.Ipc
