import IviLink.MessageProtocols.AmpMessages

/-!
# Which messages of the application manager come back

The loop that reads the waiting services stays at the first one, so that a list comes back if all
of its services are the same. No response of four bytes fits into one byte.
-/

namespace IviLink.AppMan.Ipc

open IviLink.Lib IviLink.Serialize

inductive AmpMessage
  | waitingServicesRequest (services : List Uid)
  | waitingServiceLoadRequest (service : Uid)
  | applicationRequest (session service : Uid)
  | appRequestError (session : Uid)

namespace AmpMessage

/-- The caller gets this response, whatever is in the variable with the size of its buffer. -/
def Responds (response : Option (List UInt8)) : Prop :=
  ∃ bytes, response = some bytes ∧
    ∀ rSize, receiveResponse respSize rSize bytes = .stored bytes

/-- What is written is inside of the block and is read inside of the message, the call has the
same arguments, and the response has the size that is expected. -/
def Exact : AmpMessage → Prop
  | waitingServicesRequest services => ∃ payload,
    CAppManPmpIpcServer.waitingServicesRequest services = some payload ∧
      AmpClient.OnAsyncRequest true payload = some [.onWaitingServicesRequest services]
  | waitingServiceLoadRequest service => ∃ sent,
    AmpClient.waitingServiceLoadRequest service = some sent ∧ ∀ payload, sent = some payload →
      CAppManPmpIpcServer.OnAsyncRequest true payload = some [.waitingServiceReqeust service]
  | applicationRequest session service => ∃ payload response,
    AmpClient.applicationRequest session service = some payload ∧
      CAppManPmpIpcServer.OnRequest true payload =
        some ([.applicationRequest session service], response) ∧ Responds response
  | appRequestError session => ∃ payload response,
    CAppManPmpIpcServer.appRequestError session = some payload ∧
      AmpClient.OnRequest true payload = some ([.onAmpAppRequestError session], response) ∧
      Responds response

/-- The condition. -/
def Fits : AmpMessage → Prop
  | waitingServicesRequest services =>
    (∃ uid, ∀ service ∈ services, service = uid) ∧ 4 + stringsSize services < 2 ^ 32
  | waitingServiceLoadRequest service => service.length + 5 < 2 ^ 32
  | applicationRequest _ _ => False
  | appRequestError _ => False

end AmpMessage

/-! ## Lists of services -/

variable {pPayload : List UInt8} {pos : UInt32} {services : List Uid}

theorem readServices_eq_some_iff {n : Nat} :
    AmpClient.readServices pPayload pos n = some services ↔ services.length = n ∧
      ∀ service ∈ services, bufferToString pPayload pos = some service := by
  induction n generalizing services with
  | zero =>
    rw [AmpClient.readServices, List.length_eq_zero_iff]
    constructor
    · intro h
      cases h
      exact ⟨rfl, List.forall_mem_nil _⟩
    · intro h
      rw [h.1]
      rfl
  | succ n ih =>
    rw [AmpClient.readServices]
    constructor
    · intro h
      obtain ⟨service, hservice, h⟩ := Option.bind_eq_some_iff.mp h
      obtain ⟨rest, hrest, h⟩ := Option.bind_eq_some_iff.mp h
      cases h
      obtain ⟨hlen, hall⟩ := ih.mp hrest
      rw [List.length_cons, hlen]
      exact ⟨rfl, List.forall_mem_cons.mpr ⟨hservice, hall⟩⟩
    · intro ⟨hlen, hall⟩
      cases services with
      | nil => cases hlen
      | cons service rest =>
        obtain ⟨hservice, hrest⟩ := List.forall_mem_cons.mp hall
        refine Option.bind_eq_some_iff.mpr ⟨service, hservice, ?_⟩
        exact Option.bind_eq_some_iff.mpr ⟨rest, ih.mpr ⟨Nat.succ.inj hlen, hrest⟩, rfl⟩

/-- The bytes of a list. -/
def servicesBytes (services : List Uid) : List UInt8 :=
  le32 (UInt32.ofNat services.length) ++ (services.map Field.string).flatMap Field.bytes

theorem waitingServicesRequest_eq_some_iff
    (hshort : ∀ service ∈ services, service.length + 1 < 2 ^ 32) :
    CAppManPmpIpcServer.waitingServicesRequest services = some pPayload ↔
      4 + stringsSize services < 2 ^ 32 ∧ pPayload = servicesBytes services := by
  have hfields : ∀ f ∈ Field.value (le32 (UInt32.ofNat services.length)) ::
      services.map Field.string, f.Short :=
    List.forall_mem_cons.mpr ⟨by simp, List.forall_mem_map.mpr hshort⟩
  have hsize : ((Field.value (le32 (UInt32.ofNat services.length)) ::
      services.map Field.string).map Field.size).sum = 4 + stringsSize services := by
    rw [List.map_cons, List.sum_cons, sum_size_strings, Field.size, length_le32]
  rw [CAppManPmpIpcServer.waitingServicesRequest, show (4 : UInt32) = UInt32.ofNat 4 from rfl,
    foldl_stringInBufSize, message_ofNat_iff hfields hsize]
  rfl

theorem waitingServices_exact_iff :
    (AmpMessage.waitingServicesRequest services).Exact ↔
      (AmpMessage.waitingServicesRequest services).Fits := by
  constructor
  · intro ⟨payload, hsent, hread⟩
    have hlt : payload.length < 2 ^ 32 := length_of_message hsent ▸ UInt32.toNat_lt _
    rw [AmpClient.OnAsyncRequest, if_pos rfl] at hread
    obtain ⟨count, -, hread⟩ := Option.bind_eq_some_iff.mp hread
    obtain ⟨services', hservices, hread⟩ := Option.bind_eq_some_iff.mp hread
    cases hread
    split at hservices
    · obtain ⟨-, hall⟩ := readServices_eq_some_iff.mp hservices
      have hshort : ∀ service ∈ services, service.length + 1 < 2 ^ 32 := by
        intro service hservice
        have := length_of_bufferToString (hall service hservice)
        omega
      refine ⟨?_, ((waitingServicesRequest_eq_some_iff hshort).mp hsent).1⟩
      cases services with
      | nil => exact ⟨[], List.forall_mem_nil _⟩
      | cons first rest =>
        refine ⟨first, fun service hservice => Option.some.inj ?_⟩
        rw [← hall service hservice, hall first List.mem_cons_self]
    · cases hservices
  · intro ⟨⟨uid, hsame⟩, hsize⟩
    have hshort := short_strings (show stringsSize services < 2 ^ 32 by omega)
    have hcount := count_le_stringsSize services
    have hn : (UInt32.ofNat services.length).toNat = services.length := by
      rw [UInt32.toNat_ofNat']
      exact Nat.mod_eq_of_lt (by omega)
    have hlen : (servicesBytes services).length = 4 + stringsSize services := by
      rw [servicesBytes, List.length_append, length_le32, length_strings hshort]
    refine ⟨servicesBytes services,
      (waitingServicesRequest_eq_some_iff hshort).mpr ⟨hsize, rfl⟩, ?_⟩
    obtain ⟨hread, hahead⟩ := (ahead_start (hlen ▸ hsize)).readUInt32_eq
    rw [AmpClient.OnAsyncRequest, if_pos rfl]
    refine Option.bind_eq_some_iff.mpr ⟨_, hread, Option.bind_eq_some_iff.mpr ⟨services, ?_, rfl⟩⟩
    have hmax : services.length ≤ INT_MAX := by
      rw [INT_MAX]
      omega
    rw [hn, if_pos hmax]
    refine readServices_eq_some_iff.mpr ⟨rfl, fun service hservice => ?_⟩
    cases services with
    | nil => cases hservice
    | cons first rest =>
      rw [hsame service hservice, ← hsame first List.mem_cons_self]
      rw [List.map_cons, List.flatMap_cons] at hahead
      exact (hahead.bufferToString_eq (hshort first List.mem_cons_self)).1

/-! ## The other messages -/

variable {service session : Uid}

theorem waitingServiceLoad_exact_iff :
    (AmpMessage.waitingServiceLoadRequest service).Exact ↔
      (AmpMessage.waitingServiceLoadRequest service).Fits := by
  rw [AmpMessage.Exact, AmpMessage.Fits, AmpClient.waitingServiceLoadRequest]
  by_cases hempty : service = []
  · rw [if_pos hempty, hempty]
    exact iff_of_true ⟨none, rfl, fun payload h => by cases h⟩ (by decide)
  · rw [if_neg hempty]
    have hmessage (payload : List UInt8) (hshort : service.length + 1 < 2 ^ 32) :
        message (stringInBufSize service) [.string service] = some payload ↔
          service.length + 5 < 2 ^ 32 ∧ payload = stringToBuffer service := by
      have hfields : ∀ f ∈ [Field.string service], f.Short := List.forall_mem_singleton.mpr hshort
      rw [stringInBufSize, message_ofNat_iff (n := service.length + 5) hfields (by simp),
        List.flatMap_singleton]
      rfl
    constructor
    · rintro ⟨sent, hsent, hread⟩
      obtain ⟨payload, hpayload, rfl⟩ := Option.map_eq_some_iff.mp hsent
      have hlt : payload.length < 2 ^ 32 := length_of_message hpayload ▸ UInt32.toNat_lt _
      have hread := hread payload rfl
      rw [CAppManPmpIpcServer.OnAsyncRequest, if_pos rfl] at hread
      obtain ⟨service', hservice, hread⟩ := Option.bind_eq_some_iff.mp hread
      cases hread
      have hin := length_of_bufferToString hservice
      exact ((hmessage payload (by omega)).mp hpayload).1
    · intro hsize
      have hshort : service.length + 1 < 2 ^ 32 := by omega
      refine ⟨some (stringToBuffer service), ?_, fun payload h => ?_⟩
      · exact Option.map_eq_some_iff.mpr ⟨_, (hmessage _ hshort).mpr ⟨hsize, rfl⟩, rfl⟩
      · cases h
        have hahead : Ahead (stringToBuffer service) 0 (stringToBuffer service ++ []) := by
          rw [List.append_nil]
          refine ahead_start ?_
          rw [length_stringToBuffer hshort]
          exact hsize
        rw [CAppManPmpIpcServer.OnAsyncRequest, if_pos rfl]
        exact Option.bind_eq_some_iff.mpr ⟨service, (hahead.bufferToString_eq hshort).1, rfl⟩

/-- Four bytes are not received where there is one. -/
theorem not_responds (type : UInt32) : ¬ AmpMessage.Responds (some (le32 type)) := by
  intro ⟨bytes, heq, h⟩
  cases heq
  have h4 := h 4
  rw [receiveResponse, length_le32, if_neg (by decide), if_neg (by decide)] at h4
  cases h4

theorem not_application_exact : ¬ (AmpMessage.applicationRequest session service).Exact := by
  intro ⟨payload, response, _, hread, hresponds⟩
  rw [CAppManPmpIpcServer.OnRequest, if_pos rfl] at hread
  obtain ⟨size, -, hread⟩ := Option.bind_eq_some_iff.mp hread
  obtain ⟨type, -, hread⟩ := Option.bind_eq_some_iff.mp hread
  obtain ⟨session', -, hread⟩ := Option.bind_eq_some_iff.mp hread
  obtain ⟨service', -, hread⟩ := Option.bind_eq_some_iff.mp hread
  cases hread
  exact not_responds type hresponds

theorem not_applicationError_exact : ¬ (AmpMessage.appRequestError session).Exact := by
  intro ⟨payload, response, _, hread, hresponds⟩
  rw [AmpClient.OnRequest, if_pos rfl] at hread
  obtain ⟨size, -, hread⟩ := Option.bind_eq_some_iff.mp hread
  obtain ⟨type, -, hread⟩ := Option.bind_eq_some_iff.mp hread
  obtain ⟨session', -, hread⟩ := Option.bind_eq_some_iff.mp hread
  cases hread
  exact not_responds type hresponds

/-- **Which messages are exact.** -/
theorem messages_exact_iff (m : AmpMessage) : m.Exact ↔ m.Fits := by
  cases m with
  | waitingServicesRequest services => exact waitingServices_exact_iff
  | waitingServiceLoadRequest service => exact waitingServiceLoad_exact_iff
  | applicationRequest session service => exact iff_of_false not_application_exact id
  | appRequestError session => exact iff_of_false not_applicationError_exact id

/-- Two services, and a request with its response. -/
theorem second_service_lost :
    (CAppManPmpIpcServer.waitingServicesRequest [[97], [98]] >>= AmpClient.OnAsyncRequest true) =
        some [.onWaitingServicesRequest [[97], [97]]] ∧
      (AmpClient.applicationRequest [115] [97] >>= CAppManPmpIpcServer.OnRequest true) =
        some ([.applicationRequest [115] [97]], some [0, 0, 0, 0]) ∧
      receiveResponse respSize 4 [0, 0, 0, 0] = .beyond := by
  refine ⟨?_, ?_, ?_⟩ <;> rfl

end IviLink.AppMan.Ipc
