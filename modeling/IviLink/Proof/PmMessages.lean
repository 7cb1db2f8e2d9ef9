import IviLink.MessageProtocols.PmMessages
import IviLink.Proof.WriterReader

/-!
# Which calls arrive at the other end

A message that has been sent begins with its type and size, and the bytes behind them are those of
its arguments (`Carries`). What is read from them is representable, whatever they are
(`Yields`), and what is representable is read as it was written (`Gives`). So a call arrives exactly
if its arguments are representable: a uid without a 0, and no size beyond `UInt32`.
-/

namespace IviLink.ProfileManager.Ipc

open IviLink.Lib IviLink.Ipc.Helpers
open IviLink.Ipc.Helpers.CBufferReader (Gives Yields Representable RepresentableValue)

/-! ## Maps -/

theorem StringMap.inserter_entries (m : StringMap) : inserter m.entries = m := by
  obtain ⟨entries, ordered⟩ := m
  rw [inserter, mk.injEq]
  exact toList_insertAll_of_ordered ordered

theorem StringMap.mem_of_mem_inserter {entries : List (List UInt8 × List UInt8)}
    {e : List UInt8 × List UInt8} (h : e ∈ (inserter entries).entries) : e ∈ entries :=
  mem_of_mem_firsts (mem_toList_insertAll.mp h)

/-! ## What has been sent -/

/-- All values are representable. -/
def Whole (fields : List Value) : Prop := ∀ v ∈ fields, RepresentableValue v

/-- A message with these values. -/
structure Carries (msg : PmMessage) (type : UInt16) (fields : List Value) : Prop where
  type_eq : msg.type = type
  size_eq : msg.size.toNat = (fields.flatMap encodeValue).length
  data_eq : msg.data.take msg.size.toNat = fields.flatMap encodeValue

theorem wrote_writeFields (fields : List Value) {w : CBufferWriter} (h : w.Valid) :
    w.Wrote (writeFields fields w) (fields.flatMap encodeValue) := by
  induction fields generalizing w with
  | nil => exact ⟨h.grown, fun _ => ⟨rfl, (List.append_nil _).symm⟩⟩
  | cons v rest ih =>
    rw [List.flatMap_cons]
    exact (h.write v).andThen fun _ => ih (h.write v).grown.valid

variable {κ : Type} {type : UInt16} {fields : List Value} {writeBuf : List UInt8} {req : Request}

/-- **A message arrives as it was sent**, whatever comes behind it. -/
theorem carries_of_request (hbuf : writeBuf.length = BUFFER_SIZE.toNat)
    (h : request type fields writeBuf = some req) (behind : List UInt8) :
    ∃ msg, Carries msg type fields ∧ ∀ switch : PmMessage → Received κ,
      onAsyncRequest switch (req.payload ++ behind) req.reqSize = switch msg := by
  have hnew : (CBufferWriter.new (writeBuf.drop sizeofHeader.toNat)
      (BUFFER_SIZE - sizeofHeader)).Valid := by
    refine CBufferWriter.valid_new ?_
    rw [List.length_drop, hbuf]
    rfl
  have hwrote := wrote_writeFields fields hnew
  rw [request] at h
  generalize writeFields fields (.new (writeBuf.drop sizeofHeader.toNat)
    (BUFFER_SIZE - sizeofHeader)) = r at h hwrote
  split at h
  · next hok =>
    obtain rfl := Option.some.inj h
    obtain ⟨hsize, hused⟩ := hwrote.written hok
    have hfull : r.2.mFullSize.toNat = 4090 := congrArg UInt32.toNat hwrote.grown.full
    have hle := hwrote.grown.valid.used_le
    have hsize' : r.2.mUsedSize.toNat = (fields.flatMap encodeValue).length := by
      rw [hsize]
      exact Nat.zero_add _
    have hreq : (sizeofHeader + r.2.mUsedSize).toNat = 6 + r.2.mUsedSize.toNat := by
      rw [UInt32.toNat_add]
      exact Nat.mod_eq_of_lt (show 6 + r.2.mUsedSize.toNat < 2 ^ 32 by omega)
    have hhead : (le16 type ++ le32 r.2.mUsedSize).length = 6 := by simp
    have hpayload : Request.payload ⟨le16 type ++ le32 r.2.mUsedSize ++ r.2.mpBuffer,
        sizeofHeader + r.2.mUsedSize⟩ ++ behind =
        le16 type ++ (le32 r.2.mUsedSize ++ (r.2.used ++ behind)) := by
      rw [Request.payload, hreq, ← hhead, List.take_length_add_append, CBufferWriter.used,
        List.append_assoc, List.append_assoc]
    have hlen : (r.2.used).length = r.2.mUsedSize.toNat := hwrote.grown.valid.length_used
    refine ⟨⟨type, r.2.mUsedSize, r.2.used ++ behind⟩, ⟨rfl, hsize', ?_⟩, fun switch => ?_⟩
    · rw [List.take_left' hlen, hused]
      rfl
    · rw [onAsyncRequest, hpayload, PmMessage.ofPayload, if_neg, List.take_left' (length_le16 _),
        List.drop_left' (length_le16 _), List.take_left' (length_le32 _), ofLE16_le16, ofLE32_le32]
      · rw [← List.append_assoc, List.drop_left' hhead]
        dsimp only
        rw [if_pos]
        rw [hreq, Nat.add_comm]
        rfl
      · rw [← List.append_assoc, List.length_append, hhead]
        exact Nat.not_lt.mpr (Nat.le_add_right _ _)
  · cases h

/-! ## What is read of it -/

variable {msg : PmMessage} {rd : Read (List κ)} {made : List κ}

theorem Carries.length_lt (h : Carries msg type fields) :
    (fields.flatMap encodeValue).length < 2 ^ 32 :=
  h.size_eq ▸ msg.size.toNat_lt

theorem Carries.process_eq (h : Carries msg type fields)
    (hrd : Gives rd made (fields.flatMap encodeValue)) : process rd msg = .calls made := by
  have hvalid : (CBufferReader.new (msg.data.take msg.size.toNat) msg.size).Valid := by
    refine ⟨?_, Nat.zero_le _⟩
    rw [h.data_eq]
    exact h.size_eq.symm
  have hahead : (CBufferReader.new (msg.data.take msg.size.toNat) msg.size).ahead =
      fields.flatMap encodeValue ++ [] := by
    rw [List.append_nil]
    exact h.data_eq
  obtain ⟨r', hr', -⟩ := hrd _ [] hvalid hahead
  rw [process, hr']

theorem Carries.of_process (h : Carries msg type fields) {P : List κ → Prop} (hrd : Yields rd P)
    {call : κ} (hmade : process rd msg = .calls [call]) : P [call] := by
  have hlen : (msg.data.take msg.size.toNat).length < 2 ^ 32 := by
    rw [h.data_eq]
    exact h.length_lt
  rw [process] at hmade
  split at hmade
  · next made hok =>
    cases hmade
    exact (hrd _ _ [call] hlen (Prod.ext hok rfl)).2
  · cases hmade
  · cases hmade

/-- **When a call arrives.** -/
theorem Carries.process_iff (h : Carries msg type fields) {call : κ} {Q : Prop}
    (hgives : Q → Gives rd [call] (fields.flatMap encodeValue))
    (hyields : Yields rd fun made => made = [call] → Q) :
    process rd msg = .calls [call] ↔ Q :=
  ⟨fun hmade => h.of_process hyields hmade rfl, fun hq => h.process_eq (hgives hq)⟩

theorem whole_cons {v : Value} : Whole (v :: fields) ↔ RepresentableValue v ∧ Whole fields :=
  List.forall_mem_cons

theorem whole_nil : Whole [] := List.forall_mem_nil _

theorem Carries.size_ne_zero {v : Value} (h : Carries msg type (v :: fields)) : msg.size ≠ 0 := by
  have hpos : 0 < (encodeValue v).length := by
    obtain ⟨s, val⟩ := v
    cases s with
    | value t => exact length_encode_pos t val
    | container t =>
      rw [encodeValue, encodeRange, List.length_append, length_le32]
      omega
    | map key mapped =>
      rw [encodeValue, encodeRange, List.length_append, length_le32]
      omega
  have hsize := h.size_eq
  rw [List.flatMap_cons, List.length_append] at hsize
  intro h0
  rw [h0] at hsize
  exact absurd (show 0 = _ from hsize) (by omega)

/-! ## The fields -/

section fields

variable {uid : Uid}

theorem gives_uidField (h : RepresentableValue (uidField uid)) :
    Gives CBufferReader.readUid uid (encodeValue (uidField uid)) :=
  CBufferReader.gives_readUid h.1 h.2

theorem yields_uidField :
    Yields CBufferReader.readUid fun uid => RepresentableValue (uidField uid) :=
  CBufferReader.yields_readUid

theorem gives_boolField (b : Bool) : Gives readBool b (encodeValue (boolField b)) := by
  cases b
  · exact CBufferReader.gives_map (CBufferReader.gives_readInt .one 0) _
  · exact CBufferReader.gives_map (CBufferReader.gives_readInt .one 1) _

theorem yields_readBool : Yields readBool fun b => RepresentableValue (boolField b) :=
  CBufferReader.yields_bind (CBufferReader.yields_readInt .one) fun _ _ =>
    CBufferReader.yields_pure trivial

/-- Only one uid is read. -/
theorem Carries.one_iff (h : Carries msg type [uidField uid]) {call : Uid → κ}
    (hcall : Function.Injective call) :
    process (do
      let uid ← CBufferReader.readUid
      return [call uid]) msg = .calls [call uid] ↔ Whole [uidField uid] := by
  refine h.process_iff (fun hwhole => ?_) ?_
  · rw [List.flatMap_singleton]
    exact CBufferReader.gives_map (gives_uidField (whole_cons.mp hwhole).1) fun uid => [call uid]
  · refine CBufferReader.yields_bind yields_uidField fun uid' huid => ?_
    refine CBufferReader.yields_pure fun heq => ?_
    rw [← hcall (List.singleton_inj.mp heq)]
    exact whole_cons.mpr ⟨huid, whole_nil⟩

end fields

end IviLink.ProfileManager.Ipc

/-! ## From the application to the profile manager -/

namespace IviLink.PMAL.Ipc

open IviLink.Ipc.Helpers IviLink.Ipc.Helpers.CBufferReader IviLink.ProfileManager.Ipc
open IviLink.PMP.Ipc (DirectionID PmpIpcProtocol.OnAsyncRequest)

/-- The calls of `CIpcProtocol` that send a message. -/
inductive Call
  | generatePIUID
  | releasePIUID (piuid : Uid)
  | createProfile (profileUid piuid sid : Uid)
  | profileDied (piuid : Uid)
  | readyToServe (sesId : Uid)
  | disableByUid (uid : Uid)
  | enableByUid (uid : Uid)
  | enableAll
  | getProfileLibPath (uid : Uid)
  | findProfiles (profileApiUid : Uid) (profileParameters : StringMap) (enabledProfiles : Bool)

namespace Call

def send : Call → List UInt8 → Option Request
  | .generatePIUID => CIpcProtocol.generatePIUID
  | .releasePIUID piuid => CIpcProtocol.releasePIUID piuid
  | .createProfile profileUid piuid sid => CIpcProtocol.createProfile profileUid piuid sid
  | .profileDied piuid => CIpcProtocol.profileDied piuid
  | .readyToServe sesId => CIpcProtocol.readyToServe sesId
  | .disableByUid uid => CIpcProtocol.disableByUid uid
  | .enableByUid uid => CIpcProtocol.enableByUid uid
  | .enableAll => CIpcProtocol.enableAll
  | .getProfileLibPath uid => CIpcProtocol.getProfileLibPath uid
  | .findProfiles profileApiUid profileParameters enabledProfiles =>
    CIpcProtocol.findProfiles profileApiUid profileParameters enabledProfiles

/-- The handler that the call is for. -/
def handler (dirId : DirectionID) : Call → PMP.Ipc.HandlerCall
  | .generatePIUID => .generatePIUID dirId
  | .releasePIUID piuid => .releasePIUID piuid dirId
  | .createProfile profileUid piuid sid => .createProfile profileUid piuid sid dirId
  | .profileDied piuid => .profileDied piuid dirId
  | .readyToServe sesId => .readyToServe sesId dirId
  | .disableByUid uid => .disableByClient uid dirId
  | .enableByUid uid => .enableByClient uid dirId
  | .enableAll => .enableByClientAll dirId
  | .getProfileLibPath uid => .getProfileLibPath uid dirId
  | .findProfiles profileApiUid profileParameters enabledProfiles =>
    .findProfiles profileApiUid profileParameters enabledProfiles dirId

def type : Call → ePmalPmpMessages
  | .generatePIUID => .PMAL_PMP_GENERATE_PIUID
  | .releasePIUID _ => .PMAL_PMP_RELEASE_PIUID
  | .createProfile _ _ _ => .PMAL_PMP_CREATE_PROFILE
  | .profileDied _ => .PMAL_PMP_PROFILE_DIED
  | .readyToServe _ => .PMAL_PMP_READY_TO_SERVE
  | .disableByUid _ => .PMAL_PMP_DISABLE_BY_UID
  | .enableByUid _ => .PMAL_PMP_ENABLE_BY_UID
  | .enableAll => .PMAL_PMP_ENABLE_ALL
  | .getProfileLibPath _ => .PMAL_PMP_GET_PROFILE_LIB_PATH
  | .findProfiles _ _ _ => .PMAL_PMP_FIND_PROFILES

/-- The arguments, in the order in which they are written. -/
def fields : Call → List Value
  | .generatePIUID | .enableAll => []
  | .releasePIUID uid | .profileDied uid | .readyToServe uid | .disableByUid uid
  | .enableByUid uid | .getProfileLibPath uid => [uidField uid]
  | .createProfile profileUid piuid sid => [uidField profileUid, uidField piuid, uidField sid]
  | .findProfiles profileApiUid profileParameters enabledProfiles =>
    [uidField profileApiUid, ⟨.map .string .string, profileParameters.entries⟩,
      boolField enabledProfiles]

theorem send_eq (c : Call) : c.send = request c.type.code c.fields := by
  cases c <;> rfl

end Call

theorem createProfile_iff {msg : PmMessage} {type : UInt16} {profileUid piuid sid : Uid}
    {dirId : DirectionID}
    (h : Carries msg type [uidField profileUid, uidField piuid, uidField sid]) :
    PMP.Ipc.PmpIpcProtocol.processCreateProfileRequest msg dirId =
        .calls [.createProfile profileUid piuid sid dirId] ↔
      Whole [uidField profileUid, uidField piuid, uidField sid] := by
  refine h.process_iff (fun hwhole => ?_) ?_
  · rw [whole_cons, whole_cons, whole_cons] at hwhole
    obtain ⟨hprofile, hpiuid, hsid, -⟩ := hwhole
    rw [List.flatMap_cons, List.flatMap_cons, List.flatMap_singleton]
    exact gives_bind (gives_uidField hprofile) (gives_bind (gives_uidField hpiuid)
      (gives_map (gives_uidField hsid) _))
  · refine yields_bind yields_uidField fun profileUid' hprofile => ?_
    refine yields_bind yields_uidField fun piuid' hpiuid => ?_
    refine yields_bind yields_uidField fun sid' hsid => yields_pure fun heq => ?_
    cases heq
    exact whole_cons.mpr ⟨hprofile, whole_cons.mpr ⟨hpiuid, whole_cons.mpr ⟨hsid, whole_nil⟩⟩⟩

theorem findProfiles_iff {msg : PmMessage} {type : UInt16} {uid : Uid} {params : StringMap}
    {enabled : Bool} {dirId : DirectionID}
    (h : Carries msg type [uidField uid, ⟨.map .string .string, params.entries⟩,
      boolField enabled]) :
    PMP.Ipc.PmpIpcProtocol.processFindProfilesRequest msg dirId =
        .calls [.findProfiles uid params enabled dirId] ↔
      Whole [uidField uid, ⟨.map .string .string, params.entries⟩, boolField enabled] := by
  refine h.process_iff (fun hwhole => ?_) ?_
  · rw [whole_cons, whole_cons] at hwhole
    obtain ⟨huid, hparams, -⟩ := hwhole
    have hlen := h.length_lt
    rw [List.flatMap_cons, List.flatMap_cons, List.flatMap_singleton] at hlen ⊢
    rw [List.length_append, List.length_append] at hlen
    have hmap := gives_read ⟨.map .string .string, params.entries⟩ hparams (by omega)
    have hrest := gives_map (gives_boolField enabled) fun enabledProfile =>
      [PMP.Ipc.HandlerCall.findProfiles uid (.inserter params.entries) enabledProfile dirId]
    rw [StringMap.inserter_entries] at hrest
    refine gives_bind (gives_uidField huid) (gives_bind hmap ?_)
    rw [StringMap.inserter_entries]
    exact hrest
  · refine yields_bind yields_uidField fun uid' huid => ?_
    refine yields_bind (yields_read (.map .string .string)) fun entries hentries => ?_
    refine yields_bind yields_readBool fun enabled' henabled => yields_pure fun heq => ?_
    cases heq
    refine whole_cons.mpr ⟨huid, whole_cons.mpr ⟨?_, whole_cons.mpr ⟨henabled, whole_nil⟩⟩⟩
    exact fun e he => hentries e (StringMap.mem_of_mem_inserter he)

variable {c : Call} {msg : PmMessage} {dirId : DirectionID} {pPayload : List UInt8}
  {payloadSize : UInt32}

/-- **A call of the application** and its handler in the profile manager. -/
theorem handler_iff (h : Carries msg c.type.code c.fields)
    (hmsg : ∀ switch : PmMessage → Received PMP.Ipc.HandlerCall,
      onAsyncRequest switch pPayload payloadSize = switch msg) :
    PMP.Ipc.PmpIpcProtocol.OnAsyncRequest dirId pPayload payloadSize = .calls [c.handler dirId] ↔
      Whole c.fields := by
  rw [PMP.Ipc.PmpIpcProtocol.OnAsyncRequest, hmsg, h.type_eq, ePmalPmpMessages.ofCode_code]
  cases c with
  | generatePIUID | enableAll => exact iff_of_true rfl whole_nil
  | releasePIUID uid => exact h.one_iff fun _ _ heq => (PMP.Ipc.HandlerCall.releasePIUID.inj heq).1
  | profileDied uid => exact h.one_iff fun _ _ heq => (PMP.Ipc.HandlerCall.profileDied.inj heq).1
  | readyToServe uid => exact h.one_iff fun _ _ heq => (PMP.Ipc.HandlerCall.readyToServe.inj heq).1
  | disableByUid uid =>
    exact h.one_iff fun _ _ heq => (PMP.Ipc.HandlerCall.disableByClient.inj heq).1
  | enableByUid uid =>
    exact h.one_iff fun _ _ heq => (PMP.Ipc.HandlerCall.enableByClient.inj heq).1
  | getProfileLibPath uid =>
    exact h.one_iff fun _ _ heq => (PMP.Ipc.HandlerCall.getProfileLibPath.inj heq).1
  | createProfile profileUid piuid sid => exact createProfile_iff h
  | findProfiles uid params enabled => exact findProfiles_iff h

end IviLink.PMAL.Ipc

/-! ## From the profile manager to the application -/

namespace IviLink.PMP.Ipc

open IviLink.Ipc.Helpers IviLink.Ipc.Helpers.CBufferReader IviLink.ProfileManager.Ipc
open IviLink.PMAL.Ipc (CPMALComponentMgr)

/-- The calls of `PmpIpcProtocol` that send a message. -/
inductive Call
  | incomingProfile (profileUid papiUid piuid serviceUID : Uid)
  | profileDied (piuid : Uid)
  | generatePIUidResponse (piuid : Uid)
  | getProfileLibPathResponse (path : List UInt8)
  | findProfilesResponse (profiles : List Uid)

namespace Call

def send : Call → List UInt8 → Option Request
  | .incomingProfile profileUid papiUid piuid serviceUID =>
    PmpIpcProtocol.incomingProfile profileUid papiUid piuid serviceUID
  | .profileDied piuid => PmpIpcProtocol.profileDied piuid
  | .generatePIUidResponse piuid => PmpIpcProtocol.generatePIUidResponse piuid
  | .getProfileLibPathResponse path => PmpIpcProtocol.getProfileLibPathResponse path
  | .findProfilesResponse profiles => PmpIpcProtocol.findProfilesResponse profiles

/-- The handler that the call is for. -/
def handler : Call → PMAL.Ipc.HandlerCall
  | .incomingProfile profileUid papiUid piuid serviceUID =>
    .incomingProfile profileUid papiUid piuid serviceUID
  | .profileDied piuid => .profileDied piuid
  | .generatePIUidResponse piuid => .generatePIUidResponseSignal piuid
  | .getProfileLibPathResponse path => .getProfileLibPathResponseSignal path
  | .findProfilesResponse profiles => .findProfilesResponseSignal profiles

def type : Call → ePmpPmalMessages
  | .incomingProfile _ _ _ _ => .PMP_PMAL_INCOMMING_PROFILE
  | .profileDied _ => .PMP_PMAL_PROFILE_DIED
  | .generatePIUidResponse _ => .PMP_PMAL_GENERATE_PIUID
  | .getProfileLibPathResponse _ => .PMP_PMAL_GET_PROFILE_LIB_PATH
  | .findProfilesResponse _ => .PMP_PMAL_FIND_PROFILES

/-- The arguments, in the order in which they are written. -/
def fields : Call → List Value
  | .incomingProfile profileUid papiUid piuid serviceUID =>
    [uidField profileUid, uidField papiUid, uidField piuid, uidField serviceUID]
  | .profileDied piuid | .generatePIUidResponse piuid => [uidField piuid]
  | .getProfileLibPathResponse path => [stringField path]
  | .findProfilesResponse profiles => [⟨.container .uid, profiles⟩]

/-- Whether the handler is one of the PIM's. -/
def isForPim : Call → Bool
  | .incomingProfile _ _ _ _ | .profileDied _ => true
  | .generatePIUidResponse _ | .getProfileLibPathResponse _ | .findProfilesResponse _ => false

theorem send_eq (c : Call) : c.send = request c.type.code c.fields := by
  cases c <;> rfl

end Call

section handlers

variable {mgr : Option CPMALComponentMgr} {msg : PmMessage} {type : UInt16}

theorem toPim_eq_iff {call call' : PMAL.Ipc.HandlerCall} :
    PMAL.Ipc.toPim mgr call = [call'] ↔ call = call' ∧ mgr = some ⟨true⟩ := by
  rcases mgr with _ | ⟨_ | _⟩ <;> simp [PMAL.Ipc.toPim]

theorem incomingProfile_iff {uid papiUid piuid sid : Uid}
    (h : Carries msg type [uidField uid, uidField papiUid, uidField piuid, uidField sid]) :
    PMAL.Ipc.CIpcProtocol.processIncomingProfileRequest mgr msg =
        .calls [.incomingProfile uid papiUid piuid sid] ↔
      Whole [uidField uid, uidField papiUid, uidField piuid, uidField sid] ∧
        mgr = some ⟨true⟩ := by
  refine h.process_iff (fun ⟨hwhole, hmgr⟩ => ?_) ?_
  · rw [whole_cons, whole_cons, whole_cons, whole_cons] at hwhole
    obtain ⟨huid, hpapi, hpiuid, hsid, -⟩ := hwhole
    rw [List.flatMap_cons, List.flatMap_cons, List.flatMap_cons, List.flatMap_singleton,
      ← toPim_eq_iff.mpr ⟨rfl, hmgr⟩]
    exact gives_bind (gives_uidField huid) (gives_bind (gives_uidField hpapi)
      (gives_bind (gives_uidField hpiuid) (gives_map (gives_uidField hsid) _)))
  · refine yields_bind yields_uidField fun uid' huid => ?_
    refine yields_bind yields_uidField fun papiUid' hpapi => ?_
    refine yields_bind yields_uidField fun piuid' hpiuid => ?_
    refine yields_bind yields_uidField fun sid' hsid => yields_pure fun heq => ?_
    obtain ⟨hcall, hmgr⟩ := toPim_eq_iff.mp heq
    cases hcall
    exact ⟨whole_cons.mpr ⟨huid, whole_cons.mpr ⟨hpapi, whole_cons.mpr ⟨hpiuid,
      whole_cons.mpr ⟨hsid, whole_nil⟩⟩⟩⟩, hmgr⟩

theorem profileDied_iff {piuid : Uid} (h : Carries msg type [uidField piuid]) :
    PMAL.Ipc.CIpcProtocol.processProfileDiedRequest mgr msg = .calls [.profileDied piuid] ↔
      Whole [uidField piuid] ∧ mgr = some ⟨true⟩ := by
  refine h.process_iff (fun ⟨hwhole, hmgr⟩ => ?_) ?_
  · rw [List.flatMap_singleton, ← toPim_eq_iff.mpr ⟨rfl, hmgr⟩]
    exact gives_map (gives_uidField (whole_cons.mp hwhole).1) _
  · refine yields_bind yields_uidField fun piuid' hpiuid => yields_pure fun heq => ?_
    obtain ⟨hcall, hmgr⟩ := toPim_eq_iff.mp heq
    cases hcall
    exact ⟨whole_cons.mpr ⟨hpiuid, whole_nil⟩, hmgr⟩

theorem processResponse_eq {type : ePmpPmalMessages} {v : Value} {fields : List Value}
    (h : Carries msg type.code (v :: fields)) (rd : Read (List PMAL.Ipc.HandlerCall)) :
    PMAL.Ipc.CIpcProtocol.processResponse type rd msg = process rd msg := by
  rw [PMAL.Ipc.CIpcProtocol.processResponse, if_neg (not_not.mpr h.type_eq), if_neg h.size_ne_zero]

theorem generatePIUidResponse_iff {piuid : Uid}
    (h : Carries msg ePmpPmalMessages.PMP_PMAL_GENERATE_PIUID.code [uidField piuid]) :
    PMAL.Ipc.CIpcProtocol.processGeneratePIUidResponse msg =
      .calls [.generatePIUidResponseSignal piuid] ↔ Whole [uidField piuid] := by
  rw [PMAL.Ipc.CIpcProtocol.processGeneratePIUidResponse, processResponse_eq h]
  exact h.one_iff fun _ _ heq => PMAL.Ipc.HandlerCall.generatePIUidResponseSignal.inj heq

theorem getProfileLibPathResponse_iff {path : List UInt8}
    (h : Carries msg ePmpPmalMessages.PMP_PMAL_GET_PROFILE_LIB_PATH.code [stringField path]) :
    PMAL.Ipc.CIpcProtocol.processGetProfileLibPathResponse msg =
      .calls [.getProfileLibPathResponseSignal path] ↔ Whole [stringField path] := by
  rw [PMAL.Ipc.CIpcProtocol.processGetProfileLibPathResponse, processResponse_eq h]
  refine h.process_iff (fun hwhole => ?_) ?_
  · rw [List.flatMap_singleton]
    exact gives_map (gives_readString (whole_cons.mp hwhole).1) _
  · refine yields_bind yields_readString fun path' hpath => yields_pure fun heq => ?_
    cases heq
    exact whole_cons.mpr ⟨hpath, whole_nil⟩

theorem findProfilesResponse_iff {profiles : List Uid}
    (h : Carries msg ePmpPmalMessages.PMP_PMAL_FIND_PROFILES.code
      [⟨.container .uid, profiles⟩]) :
    PMAL.Ipc.CIpcProtocol.processFindProfilesResponse msg =
      .calls [.findProfilesResponseSignal profiles] ↔ Whole [⟨.container .uid, profiles⟩] := by
  rw [PMAL.Ipc.CIpcProtocol.processFindProfilesResponse, processResponse_eq h]
  refine h.process_iff (fun hwhole => ?_) ?_
  · have hlen := h.length_lt
    rw [List.flatMap_singleton] at hlen ⊢
    exact gives_map (gives_read ⟨.container .uid, profiles⟩ (whole_cons.mp hwhole).1 hlen) _
  · refine yields_bind (yields_read (.container .uid)) fun profiles' hprofiles => ?_
    refine yields_pure fun heq => ?_
    cases heq
    exact whole_cons.mpr ⟨hprofiles, whole_nil⟩

variable {c : Call} {pPayload : List UInt8} {payloadSize : UInt32}

/-- **A call of the profile manager** and its handler in the application. -/
theorem handler_iff (h : Carries msg c.type.code c.fields)
    (hmsg : ∀ switch : PmMessage → Received PMAL.Ipc.HandlerCall,
      onAsyncRequest switch pPayload payloadSize = switch msg) :
    PMAL.Ipc.CIpcProtocol.OnAsyncRequest mgr pPayload payloadSize = .calls [c.handler] ↔
      Whole c.fields ∧ (c.isForPim = true → mgr = some ⟨true⟩) := by
  rw [PMAL.Ipc.CIpcProtocol.OnAsyncRequest, hmsg, h.type_eq, ePmpPmalMessages.ofCode_code]
  have hpim : mgr = some ⟨true⟩ ↔ (true = true → mgr = some ⟨true⟩) :=
    ⟨fun h _ => h, fun h => h rfl⟩
  have hresponse : (false = true → mgr = some ⟨true⟩) := fun hpim => Bool.noConfusion hpim
  cases c with
  | incomingProfile uid papiUid piuid sid =>
    exact (incomingProfile_iff h).trans (and_congr_right' hpim)
  | profileDied piuid =>
    exact (profileDied_iff h).trans (and_congr_right' hpim)
  | generatePIUidResponse piuid =>
    exact (generatePIUidResponse_iff h).trans (and_iff_left hresponse).symm
  | getProfileLibPathResponse path =>
    exact (getProfileLibPathResponse_iff h).trans (and_iff_left hresponse).symm
  | findProfilesResponse profiles =>
    exact (findProfilesResponse_iff h).trans (and_iff_left hresponse).symm

end handlers

end IviLink.PMP.Ipc

/-! ## Both directions -/

namespace IviLink.ProfileManager.Ipc

open IviLink.Lib IviLink.Ipc.Helpers
open IviLink.Ipc.Helpers.CBufferReader (Gives RepresentableValue)
open IviLink.PMP.Ipc (DirectionID PmpIpcProtocol.OnAsyncRequest)
open IviLink.PMAL.Ipc (CPMALComponentMgr CIpcProtocol.OnAsyncRequest)

/-- **Which calls arrive**: of the messages that are sent, a call of the application leads to
its handler exactly if its arguments are representable, and so does a call of the profile manager,
where the PIM of the application must be there if the handler is one of it. -/
theorem calls_arrive_iff (writeBuf : List UInt8) (hbuf : writeBuf.length = BUFFER_SIZE.toNat)
    (req : Request) :
    (∀ (c : PMAL.Ipc.Call) (dirId : DirectionID), c.send writeBuf = some req →
      ((∀ behind, PmpIpcProtocol.OnAsyncRequest dirId (req.payload ++ behind) req.reqSize =
          .calls [c.handler dirId]) ↔ Whole c.fields)) ∧
    ∀ (c : PMP.Ipc.Call) (mgr : Option CPMALComponentMgr), c.send writeBuf = some req →
      ((∀ behind, CIpcProtocol.OnAsyncRequest mgr (req.payload ++ behind) req.reqSize =
          .calls [c.handler]) ↔
        Whole c.fields ∧ (c.isForPim = true → mgr = some ⟨true⟩)) := by
  constructor
  · intro c dirId hsend
    rw [c.send_eq] at hsend
    have hcall : ∀ behind, PmpIpcProtocol.OnAsyncRequest dirId (req.payload ++ behind) req.reqSize =
        .calls [c.handler dirId] ↔ Whole c.fields := by
      intro behind
      obtain ⟨msg, hmsg, hswitch⟩ := carries_of_request hbuf hsend behind
      exact PMAL.Ipc.handler_iff hmsg fun switch => hswitch switch
    exact ⟨fun h => (hcall []).mp (h []), fun h behind => (hcall behind).mpr h⟩
  · intro c mgr hsend
    rw [c.send_eq] at hsend
    have hcall : ∀ behind, CIpcProtocol.OnAsyncRequest mgr (req.payload ++ behind) req.reqSize =
        .calls [c.handler] ↔ Whole c.fields ∧ (c.isForPim = true → mgr = some ⟨true⟩) := by
      intro behind
      obtain ⟨msg, hmsg, hswitch⟩ := carries_of_request hbuf hsend behind
      exact PMP.Ipc.handler_iff hmsg fun switch => hswitch switch
    exact ⟨fun h => (hcall []).mp (h []), fun h behind => (hcall behind).mpr h⟩

/-- A buffer with nothing in it yet. -/
def cleanBuf : List UInt8 := List.replicate BUFFER_SIZE.toNat 0

theorem length_cleanBuf : cleanBuf.length = BUFFER_SIZE.toNat := List.length_replicate ..

/-- Two parameters of a search. -/
def twoParameters : StringMap := ⟨[([98], [99]), ([100], [101])], by decide⟩

theorem calls_arrive_twoParameters :
    ∃ req, PMAL.Ipc.CIpcProtocol.findProfiles [97] twoParameters true cleanBuf = some req ∧
      ∀ behind, PmpIpcProtocol.OnAsyncRequest 3 (req.payload ++ behind) req.reqSize =
        .calls [.findProfiles [97] twoParameters true 3] := by
  have hsent : (PMAL.Ipc.CIpcProtocol.findProfiles [97] twoParameters true cleanBuf).isSome := rfl
  obtain ⟨req, hreq⟩ := Option.isSome_iff_exists.mp hsent
  refine ⟨req, hreq, ((calls_arrive_iff cleanBuf length_cleanBuf req).1
    (.findProfiles [97] twoParameters true) 3 hreq).mpr ?_⟩
  have huid : RepresentableValue (uidField [97]) :=
    show 1 + 1 < 2 ^ 32 ∧ (0 : UInt8) ∉ [97] by decide
  refine whole_cons.mpr ⟨huid, whole_cons.mpr ⟨?_, whole_cons.mpr ⟨trivial, whole_nil⟩⟩⟩
  intro e he
  rcases List.mem_cons.mp he with rfl | he
  · exact ⟨show 1 < 2 ^ 32 by decide, show 1 < 2 ^ 32 by decide⟩
  · rw [List.mem_singleton.mp he]
    exact ⟨show 1 < 2 ^ 32 by decide, show 1 < 2 ^ 32 by decide⟩

/-- A uid of three characters, of which the second one is 0. -/
theorem released_other : ∃ req,
    PMAL.Ipc.CIpcProtocol.releasePIUID [97, 0, 98] cleanBuf = some req ∧
      PmpIpcProtocol.OnAsyncRequest 3 req.payload req.reqSize = .calls [.releasePIUID [97] 3] := by
  have hsent : (PMAL.Ipc.CIpcProtocol.releasePIUID [97, 0, 98] cleanBuf).isSome := rfl
  obtain ⟨req, hreq⟩ := Option.isSome_iff_exists.mp hsent
  obtain ⟨msg, hmsg, hswitch⟩ := carries_of_request length_cleanBuf hreq []
  have hread : Gives CBufferReader.readUid [97] (encodeValue (uidField [97, 0, 98])) :=
    CBufferReader.gives_readSized rfl fun rest => rfl
  refine ⟨req, hreq, ?_⟩
  rw [← List.append_nil req.payload, PmpIpcProtocol.OnAsyncRequest, hswitch, hmsg.type_eq,
    ePmalPmpMessages.ofCode_code]
  refine hmsg.process_eq ?_
  rw [List.flatMap_singleton]
  exact CBufferReader.gives_map hread _

end IviLink.ProfileManager.Ipc
