import IviLink.Common.FoundDevice
import IviLink.Proof.Decoder

/-!
# Records that come back

Each field is read from where it was written, so that a record comes back from its bytes, whatever
comes behind them, as long as an `int` can count them.

The device manager finds the devices up to the first that needs more room than the one before it
(`devices_found_iff`), and the one device of this repository's agent if it fits (`device_shown`).
-/

namespace IviLink.Common

open IviLink.Lib

/-! ## The fields -/

theorem toInt_eq_some {n m : Nat} : toInt n = some m ↔ n ≤ INT_MAX ∧ n = m := by
  rw [toInt]
  split <;> simp_all

theorem toInt_of_le {n : Nat} (h : n ≤ INT_MAX) : toInt n = some n := if_pos h

theorem length_network32 (x : UInt32) : (network32 x).length = 4 := by
  rw [network32, List.length_reverse, length_le32]

theorem length_network64 (x : UInt64) : (network64 x).length = 8 := by
  rw [network64, List.length_reverse, le64, length_leBytes]

theorem stringToBuffer_eq {str : List UInt8} (h : str.length + 5 ≤ INT_MAX) :
    stringToBuffer str = le32 (UInt32.ofNat (str.length + 1)) ++ (str ++ [0]) := by
  have hsize : (UInt32.ofNat (str.length + 1)).toNat = str.length + 1 := by
    rw [INT_MAX] at h
    rw [UInt32.toNat_ofNat', Nat.mod_eq_of_lt (by omega)]
  rw [stringToBuffer, hsize]
  congr 1
  exact List.take_of_length_le (by simp)

theorem length_stringToBuffer {str : List UInt8} (h : str.length + 5 ≤ INT_MAX) :
    (stringToBuffer str).length = str.length + 5 := by
  rw [stringToBuffer_eq h, List.length_append, List.length_append, length_le32,
    List.length_singleton]
  omega

theorem bufferToString_stringToBuffer {str : List UInt8} (h : str.length + 5 ≤ INT_MAX)
    (rest : List UInt8) : bufferToString (stringToBuffer str ++ rest) = some str := by
  have hlen : (le32 (UInt32.ofNat (str.length + 1))).length = 4 := length_le32 _
  have hsize : (UInt32.ofNat (str.length + 1) - 1).toNat = str.length := by
    rw [INT_MAX] at h
    have hn : (UInt32.ofNat (str.length + 1)).toNat = str.length + 1 := by
      rw [UInt32.toNat_ofNat', Nat.mod_eq_of_lt (by omega)]
    have hle : (1 : UInt32) ≤ UInt32.ofNat (str.length + 1) := by
      rw [UInt32.le_iff_toNat_le, hn]
      exact Nat.le_add_left ..
    rw [UInt32.toNat_sub_of_le _ _ hle, hn]
    rfl
  rw [bufferToString, stringToBuffer_eq h, List.append_assoc, List.append_assoc, ← hlen,
    List.take_left, List.drop_left, ofLE32_le32, hsize, if_pos ⟨by simp, by simp⟩, List.take_left]

variable {n : UInt32} {data rest : List UInt8} {pos : Nat}

/-- What comes behind a field that is at the position. -/
theorem drop_field {field : List UInt8} {n : Nat} (h : data.drop pos = field ++ rest)
    (hlen : field.length = n) : data.drop (pos + n) = rest := by
  rw [← List.drop_drop, h, ← hlen, List.drop_left]

theorem takeString_field {str : List UInt8} (h : data.drop pos = stringToBuffer str ++ rest)
    (hmax : pos + (str.length + 5) ≤ INT_MAX) :
    takeString data pos = some (str, pos + (str.length + 5)) ∧
      data.drop (pos + (str.length + 5)) = rest := by
  refine ⟨?_, drop_field h (length_stringToBuffer (by omega))⟩
  rw [takeString, h, bufferToString_stringToBuffer (by omega)]
  simp only [Option.bind_eq_bind, Option.bind_some, stringInBufSize]
  rw [toInt_of_le (by omega), Option.bind_some, toInt_of_le (by omega), Option.bind_some]
  rfl

theorem takeUInt32_field {x : UInt32} (h : data.drop pos = network32 x ++ rest)
    (hmax : pos + 4 ≤ INT_MAX) :
    takeUInt32 data pos = some (x, pos + 4) ∧ data.drop (pos + 4) = rest := by
  have hlen : (network32 x).length = 4 := length_network32 x
  have hdata : pos + 4 ≤ data.length := by
    have hcount := congrArg List.length h
    rw [List.length_drop, List.length_append] at hcount
    omega
  refine ⟨?_, drop_field h hlen⟩
  rw [takeUInt32, if_pos hdata, toInt_of_le hmax, h, ← hlen, List.take_left, network32,
    List.reverse_reverse, ofLE32_le32]
  rfl

theorem takeUInt64_field {x : UInt64} (h : data.drop pos = network64 x ++ rest)
    (hmax : pos + 8 ≤ INT_MAX) :
    takeUInt64 data pos = some (x, pos + 8) ∧ data.drop (pos + 8) = rest := by
  have hlen : (network64 x).length = 8 := length_network64 x
  have hx : x.toNat < 256 ^ 8 := x.toNat_lt
  have hdata : pos + 8 ≤ data.length := by
    have hcount := congrArg List.length h
    rw [List.length_drop, List.length_append] at hcount
    omega
  refine ⟨?_, drop_field h hlen⟩
  rw [takeUInt64, if_pos hdata, toInt_of_le hmax, h, ← hlen, List.take_left, network64,
    List.reverse_reverse, le64, ofLE_leBytes, Nat.mod_eq_of_lt hx, UInt64.ofNat_toNat]
  rfl

theorem pos_takeString {str : List UInt8} {pos' : Nat}
    (h : takeString data pos = some (str, pos')) :
    pos' = pos + (str.length + 5) ∧ pos' ≤ INT_MAX := by
  simp only [takeString, stringInBufSize, Option.bind_eq_bind, Option.bind_eq_some_iff,
    toInt_eq_some, Option.pure_def, Option.some.injEq, Prod.mk.injEq] at h
  obtain ⟨_, -, _, ⟨-, rfl⟩, _, ⟨hmax, rfl⟩, rfl, rfl⟩ := h
  exact ⟨rfl, hmax⟩

theorem pos_takeUInt32 {x : UInt32} {pos' : Nat} (h : takeUInt32 data pos = some (x, pos')) :
    pos' = pos + 4 ∧ pos' ≤ INT_MAX := by
  rw [takeUInt32] at h
  split at h
  · obtain ⟨p, hp, heq⟩ := Option.map_eq_some_iff.mp h
    obtain ⟨hmax, rfl⟩ := toInt_eq_some.mp hp
    obtain rfl := (Prod.mk.inj heq).2
    exact ⟨rfl, hmax⟩
  · cases h

theorem pos_takeUInt64 {x : UInt64} {pos' : Nat} (h : takeUInt64 data pos = some (x, pos')) :
    pos' = pos + 8 ∧ pos' ≤ INT_MAX := by
  rw [takeUInt64] at h
  split at h
  · obtain ⟨p, hp, heq⟩ := Option.map_eq_some_iff.mp h
    obtain ⟨hmax, rfl⟩ := toInt_eq_some.mp hp
    obtain rfl := (Prod.mk.inj heq).2
    exact ⟨rfl, hmax⟩
  · cases h

@[simp] theorem ConnectionType.ofUInt32_toUInt32 (c : ConnectionType) :
    ofUInt32 c.toUInt32 = some c := by
  cases c <;> rfl

@[simp] theorem DeviceOs.ofUInt32_toUInt32 (os : DeviceOs) : ofUInt32 os.toUInt32 = some os := by
  cases os <;> rfl

theorem store_of_le {bytes result : List UInt8}
    (hsize : result.length + bytes.length ≤ n.toNat)
    (hmax : result.length + bytes.length ≤ INT_MAX) :
    store n bytes result = some (result ++ bytes) := by
  rw [store, List.length_append, if_pos ⟨hsize, hmax⟩]

/-- The bytes that are written are as many as was said, and the record comes back from them,
whatever comes behind. -/
def ComesBack {α : Type} (record : α) (size : Option UInt32) (written : Option (List UInt8))
    (deserialize : List UInt8 → Option (α × Nat)) : Prop :=
  ∃ n bytes, size = some n ∧ written = some bytes ∧ bytes.length = n.toNat ∧
    ∀ rest, deserialize (bytes ++ rest) = some (record, bytes.length)

/-! ## Devices -/

namespace FoundDevice

def total (d : FoundDevice) : Nat := d.mName.length + d.mAddress.length + d.mUid.length + 31

def bytes (d : FoundDevice) : List UInt8 :=
  stringToBuffer d.mName ++ (stringToBuffer d.mAddress ++
    (network32 d.mConnection.toUInt32 ++ (stringToBuffer d.mUid ++
      (network64 d.mLastSeenTime.toUInt64 ++ network32 d.mOS.toUInt32))))

variable {d : FoundDevice}

theorem getSerializedSize_eq (h : d.total ≤ INT_MAX) :
    d.getSerializedSize = some (UInt32.ofNat d.total) := by
  rw [total] at h
  rw [getSerializedSize]
  simp only [Option.bind_eq_bind, stringInBufSize]
  rw [toInt_of_le (by omega), Option.bind_some, toInt_of_le (by omega), Option.bind_some,
    toInt_of_le (by omega), Option.bind_some, toInt_of_le (by omega), Option.bind_some, total]
  simp only [Option.pure_def]
  congr 2
  omega

/-- A device whose size was computed has few enough bytes. -/
theorem serialize_eq (h : d.total ≤ INT_MAX) :
    d.serialize = some d.bytes ∧ d.bytes.length = d.total := by
  have hsize : (UInt32.ofNat d.total).toNat = d.total := by
    rw [INT_MAX] at h
    rw [UInt32.toNat_ofNat', Nat.mod_eq_of_lt (by omega)]
  have htotal : d.total = d.mName.length + d.mAddress.length + d.mUid.length + 31 := rfl
  have hname := @length_stringToBuffer d.mName (by omega)
  have haddress := @length_stringToBuffer d.mAddress (by omega)
  have huid := @length_stringToBuffer d.mUid (by omega)
  constructor
  · rw [serialize, getSerializedSize_eq h]
    simp only [Option.bind_eq_bind, Option.bind_some]
    have hstore : ∀ bytes result : List UInt8, result.length + bytes.length ≤ d.total →
        store (UInt32.ofNat d.total) bytes result = some (result ++ bytes) :=
      fun bytes result hle => store_of_le (by rwa [hsize]) (hle.trans h)
    rw [hstore _ [], Option.bind_some, hstore, Option.bind_some, hstore, Option.bind_some, hstore,
      Option.bind_some, hstore, Option.bind_some, hstore]
    · simp only [bytes, List.nil_append, List.append_assoc]
    all_goals
      simp only [List.length_append, List.length_nil, length_network32, length_network64, hname,
        haddress, huid]
      omega
  · simp only [bytes, List.length_append, length_network32, length_network64, hname, haddress, huid]
    omega

theorem deserialize_bytes (h : d.total ≤ INT_MAX) (rest : List UInt8) :
    deserialize (d.bytes ++ rest) = some (d, d.total) := by
  have htotal : d.total = d.mName.length + d.mAddress.length + d.mUid.length + 31 := rfl
  have h0 : (d.bytes ++ rest).drop 0 = stringToBuffer d.mName ++ (stringToBuffer d.mAddress ++
      (network32 d.mConnection.toUInt32 ++ (stringToBuffer d.mUid ++
        (network64 d.mLastSeenTime.toUInt64 ++ (network32 d.mOS.toUInt32 ++ rest))))) := by
    simp only [bytes, List.drop_zero, List.append_assoc]
  obtain ⟨hname, h1⟩ := takeString_field h0 (by omega)
  obtain ⟨haddress, h2⟩ := takeString_field h1 (by omega)
  obtain ⟨hconnection, h3⟩ := takeUInt32_field h2 (by omega)
  obtain ⟨huid, h4⟩ := takeString_field h3 (by omega)
  obtain ⟨htime, h5⟩ := takeUInt64_field h4 (by omega)
  obtain ⟨hos, -⟩ := takeUInt32_field h5 (by omega)
  rw [deserialize]
  simp only [hname, haddress, hconnection, huid, htime, hos, Option.bind_eq_bind, Option.bind_some,
    ConnectionType.ofUInt32_toUInt32, DeviceOs.ofUInt32_toUInt32, Int64.toInt64_toUInt64,
    Option.pure_def]
  congr 2
  omega

theorem total_le {data : List UInt8} {pos : Nat} (h : deserialize data = some (d, pos)) :
    d.total ≤ INT_MAX := by
  simp only [deserialize, Option.bind_eq_bind, Option.bind_eq_some_iff, Prod.exists,
    Option.pure_def, Option.some.injEq, Prod.mk.injEq] at h
  obtain ⟨name, p₁, hname, address, p₂, haddress, connection, p₃, hconnection, _, -, uid, p₄, huid,
    time, p₅, htime, os, p₆, hos, _, -, rfl, -⟩ := h
  obtain ⟨rfl, -⟩ := pos_takeString hname
  obtain ⟨rfl, -⟩ := pos_takeString haddress
  obtain ⟨rfl, -⟩ := pos_takeUInt32 hconnection
  obtain ⟨rfl, -⟩ := pos_takeString huid
  obtain ⟨rfl, -⟩ := pos_takeUInt64 htime
  obtain ⟨rfl, hmax⟩ := pos_takeUInt32 hos
  rw [total]
  dsimp only
  omega

theorem comesBack_iff (d : FoundDevice) :
    ComesBack d d.getSerializedSize d.serialize deserialize ↔ d.total ≤ INT_MAX := by
  constructor
  · rintro ⟨n, bytes, -, -, -, hback⟩
    exact total_le (hback [])
  · intro h
    obtain ⟨hwritten, hlen⟩ := serialize_eq h
    refine ⟨_, _, getSerializedSize_eq h, hwritten, ?_, fun rest => ?_⟩
    · rw [INT_MAX] at h
      rw [hlen, UInt32.toNat_ofNat', Nat.mod_eq_of_lt (by omega)]
    · rw [hlen, deserialize_bytes h]

end FoundDevice

/-! ## Connections -/

namespace ConnectionInformation

def total (c : ConnectionInformation) : Nat :=
  c.strConnectionType.length + c.strLocalAddr.length + c.strRemoteAddr.length + 15

def bytes (c : ConnectionInformation) : List UInt8 :=
  stringToBuffer c.strConnectionType ++
    (stringToBuffer c.strLocalAddr ++ stringToBuffer c.strRemoteAddr)

variable {c : ConnectionInformation}

theorem getSerializedSize_eq (h : c.total ≤ INT_MAX) :
    c.getSerializedSize = some (UInt32.ofNat c.total) := by
  rw [total] at h
  rw [getSerializedSize]
  simp only [Option.bind_eq_bind, stringInBufSize]
  rw [toInt_of_le (by omega), Option.bind_some, toInt_of_le (by omega), Option.bind_some,
    toInt_of_le (by omega), Option.bind_some, toInt_of_le (by omega), Option.bind_some,
    toInt_of_le (by omega), Option.bind_some, total]
  simp only [Option.pure_def]
  congr 2
  omega

/-- A connection whose size was computed has few enough bytes. -/
theorem serialize_eq (h : c.total ≤ INT_MAX) :
    c.serialize = some c.bytes ∧ c.bytes.length = c.total := by
  have hsize : (UInt32.ofNat c.total).toNat = c.total := by
    rw [INT_MAX] at h
    rw [UInt32.toNat_ofNat', Nat.mod_eq_of_lt (by omega)]
  have htotal : c.total =
      c.strConnectionType.length + c.strLocalAddr.length + c.strRemoteAddr.length + 15 := rfl
  have htype := @length_stringToBuffer c.strConnectionType (by omega)
  have hlocal := @length_stringToBuffer c.strLocalAddr (by omega)
  have hremote := @length_stringToBuffer c.strRemoteAddr (by omega)
  constructor
  · rw [serialize, getSerializedSize_eq h]
    simp only [Option.bind_eq_bind, Option.bind_some]
    have hstore : ∀ bytes result : List UInt8, result.length + bytes.length ≤ c.total →
        store (UInt32.ofNat c.total) bytes result = some (result ++ bytes) :=
      fun bytes result hle => store_of_le (by rwa [hsize]) (hle.trans h)
    rw [hstore _ [], Option.bind_some, hstore, Option.bind_some, hstore]
    · simp only [bytes, List.nil_append, List.append_assoc]
    all_goals
      simp only [List.length_append, List.length_nil, htype, hlocal, hremote]
      omega
  · simp only [bytes, List.length_append, htype, hlocal, hremote]
    omega

theorem deserialize_bytes (h : c.total ≤ INT_MAX) (rest : List UInt8) :
    deserialize (c.bytes ++ rest) = some (c, c.total) := by
  have htotal : c.total =
      c.strConnectionType.length + c.strLocalAddr.length + c.strRemoteAddr.length + 15 := rfl
  have h0 : (c.bytes ++ rest).drop 0 = stringToBuffer c.strConnectionType ++
      (stringToBuffer c.strLocalAddr ++ (stringToBuffer c.strRemoteAddr ++ rest)) := by
    simp only [bytes, List.drop_zero, List.append_assoc]
  obtain ⟨htype, h1⟩ := takeString_field h0 (by omega)
  obtain ⟨hlocal, h2⟩ := takeString_field h1 (by omega)
  obtain ⟨hremote, -⟩ := takeString_field h2 (by omega)
  rw [deserialize]
  simp only [htype, hlocal, hremote, Option.bind_eq_bind, Option.bind_some, Option.pure_def]
  congr 2
  omega

theorem total_le {data : List UInt8} {pos : Nat} (h : deserialize data = some (c, pos)) :
    c.total ≤ INT_MAX := by
  simp only [deserialize, Option.bind_eq_bind, Option.bind_eq_some_iff, Prod.exists,
    Option.pure_def, Option.some.injEq, Prod.mk.injEq] at h
  obtain ⟨type, p₁, htype, localAddr, p₂, hlocal, remoteAddr, p₃, hremote, rfl, -⟩ := h
  obtain ⟨rfl, -⟩ := pos_takeString htype
  obtain ⟨rfl, -⟩ := pos_takeString hlocal
  obtain ⟨rfl, hmax⟩ := pos_takeString hremote
  rw [total]
  dsimp only
  omega

theorem comesBack_iff (c : ConnectionInformation) :
    ComesBack c c.getSerializedSize c.serialize deserialize ↔ c.total ≤ INT_MAX := by
  constructor
  · rintro ⟨n, bytes, -, -, -, hback⟩
    exact total_le (hback [])
  · intro h
    obtain ⟨hwritten, hlen⟩ := serialize_eq h
    refine ⟨_, _, getSerializedSize_eq h, hwritten, ?_, fun rest => ?_⟩
    · rw [INT_MAX] at h
      rw [hlen, UInt32.toNat_ofNat', Nat.mod_eq_of_lt (by omega)]
    · rw [hlen, deserialize_bytes h]

end ConnectionInformation

/-- **Devices and connections come back** exactly as far as an `int` counts their bytes. -/
theorem records_come_back_iff (d : FoundDevice) (c : ConnectionInformation) :
    (ComesBack d d.getSerializedSize d.serialize FoundDevice.deserialize ↔
      d.mName.length + d.mAddress.length + d.mUid.length + 31 ≤ INT_MAX) ∧
    (ComesBack c c.getSerializedSize c.serialize ConnectionInformation.deserialize ↔
      c.strConnectionType.length + c.strLocalAddr.length + c.strRemoteAddr.length + 15 ≤
        INT_MAX) :=
  ⟨d.comesBack_iff, c.comesBack_iff⟩

/-- A device whose name has 2147483648 characters. -/
theorem long_name_lost :
    let d : FoundDevice := ⟨List.replicate 2147483648 65, [], .CON_IP, [], 0, .OS_UBUNTU⟩
    ¬ ComesBack d d.getSerializedSize d.serialize FoundDevice.deserialize := by
  intro d hback
  have hle : d.total ≤ INT_MAX := (FoundDevice.comesBack_iff d).mp hback
  have htotal : d.total = 2147483648 + 31 := by
    simp only [FoundDevice.total, d, List.length_replicate, List.length_nil]
  rw [htotal, INT_MAX] at hle
  omega

/-! ## The list of the device manager -/

namespace DeviceManager

variable {resp : List UInt8} {respSize : UInt32} {d : FoundDevice} {ds : List FoundDevice} {n : Nat}

/-- What the agent answers for a device. -/
def deviceAnswer (d : FoundDevice) : CDataAccessor := ⟨E_GET_DEVICE_LIST, 0, 0, d.bytes⟩

/-- What it answers behind the last one. -/
def noDevice : CDataAccessor :=
  ⟨E_GET_DEVICE_LIST, 0, ConnectivityAgentError.notFound.code, []⟩

/-- The answers of an agent with these devices. -/
def answers (ds : List FoundDevice) : List (Option (List UInt8)) :=
  ds.map (fun d => some (deviceAnswer d).raw) ++ [some noDevice.raw]

/-- The devices before the first one whose answer has more bytes than the answer before it. -/
def fitting : Nat → List FoundDevice → List FoundDevice
  | _, [] => []
  | n, d :: ds => if d.total + 16 ≤ n then d :: fitting (d.total + 16) ds else []

theorem length_deviceAnswer (h : d.total ≤ INT_MAX) :
    (deviceAnswer d).raw.length = d.total + 16 := by
  rw [CDataAccessor.length_raw, CDataAccessor.getObjectSize, CDataAccessor.getDataSize,
    deviceAnswer, (FoundDevice.serialize_eq h).2]

theorem length_noDevice : noDevice.raw.length = 16 := CDataAccessor.length_raw _

/-- A response at the front of the array, with bytes of earlier ones behind it. -/
theorem ofRawArray_writeAt {a : CDataAccessor} (hresp : resp.length ≤ RESP_SIZE.toNat)
    (hfit : a.raw.length ≤ resp.length) :
    ∃ response : Accessor, response.toCDataAccessor = a ∧
      Accessor.ofRawArray (some (writeAt resp 0 a.raw)) (UInt32.ofNat a.raw.length) =
        .ok response := by
  have hmax : RESP_SIZE.toNat = 4084 := rfl
  have hlen : a.raw.length = a.getDataSize + 16 := a.length_raw
  have hsized : a.mpData.length = (UInt32.ofNat a.getDataSize).toNat := by
    rw [UInt32.toNat_ofNat', Nat.mod_eq_of_lt (by omega)]
    rfl
  let response : Accessor :=
    ⟨a.mOperation, a.mChannelID, UInt32.ofNat a.getDataSize, a.mErrorCode, a.mpData, hsized⟩
  have hraw : response.raw = a.raw := (Accessor.raw_toCDataAccessor response).symm
  have hfront : writeAt resp 0 a.raw = response.raw ++ resp.drop a.raw.length := by
    rw [writeAt, List.take_zero, List.nil_append, Nat.zero_add, hraw]
  refine ⟨response, rfl, ?_⟩
  rw [hfront]
  refine Accessor.ofRawArray_raw _ ?_
  rw [UInt32.lt_iff_toNat_lt, UInt32.toNat_ofNat', Nat.mod_eq_of_lt (by omega)]
  show ¬ a.raw.length < 12
  omega

/-- What is read of a response that has come. -/
theorem readResponse_writeAt {a : CDataAccessor} (hresp : resp.length ≤ RESP_SIZE.toNat)
    (hfit : a.raw.length ≤ resp.length) :
    readResponse (writeAt resp 0 a.raw) (UInt32.ofNat a.raw.length) =
      if a.mErrorCode ≠ 0 then some none
      else if a.getDataSize > 0 then
        (FoundDevice.deserialize a.mpData).map fun device => some device.1
      else some none := by
  obtain ⟨response, rfl, hread⟩ := ofRawArray_writeAt hresp hfit
  have hmax : RESP_SIZE.toNat = 4084 := rfl
  have hlen : response.toCDataAccessor.raw.length = response.toCDataAccessor.getDataSize + 16 :=
    CDataAccessor.length_raw _
  have hsize : UInt32.ofNat response.toCDataAccessor.raw.length ≠ 0 := by
    intro hzero
    have hnat := congrArg UInt32.toNat hzero
    rw [UInt32.toNat_ofNat', Nat.mod_eq_of_lt (by omega)] at hnat
    have : (0 : UInt32).toNat = 0 := rfl
    omega
  have hdata : response.getDataSize > 0 ↔ response.toCDataAccessor.getDataSize > 0 := by
    show 0 < response.mDataSize ↔ 0 < response.mpData.length
    rw [response.sized, UInt32.lt_iff_toNat_lt]
    rfl
  rw [readResponse, if_neg hsize, hread]
  simp only [hdata]
  rfl

theorem readResponse_device (hd : d.total ≤ INT_MAX) (hresp : resp.length ≤ RESP_SIZE.toNat)
    (hfit : d.total + 16 ≤ resp.length) :
    readResponse (writeAt resp 0 (deviceAnswer d).raw) (UInt32.ofNat (deviceAnswer d).raw.length) =
      some (some d) := by
  have hdata : (deviceAnswer d).getDataSize > 0 := by
    show 0 < d.bytes.length
    rw [(FoundDevice.serialize_eq hd).2, FoundDevice.total]
    omega
  have hback : FoundDevice.deserialize (deviceAnswer d).mpData = some (d, d.total) := by
    rw [← FoundDevice.deserialize_bytes hd [], List.append_nil]
    rfl
  have herror : ¬ (deviceAnswer d).mErrorCode ≠ 0 := not_not.mpr rfl
  rw [readResponse_writeAt hresp (by rwa [length_deviceAnswer hd]), if_neg herror, if_pos hdata,
    hback]
  rfl

theorem readResponse_noDevice (hresp : resp.length ≤ RESP_SIZE.toNat) (hfit : 16 ≤ resp.length) :
    readResponse (writeAt resp 0 noDevice.raw) (UInt32.ofNat noDevice.raw.length) = some none := by
  rw [readResponse_writeAt hresp (by rwa [length_noDevice])]
  rfl

/-- **The loop ends before the first device whose answer does not fit what the one before it has
left.** -/
theorem loop_answers (hds : ∀ d ∈ ds, d.total ≤ INT_MAX) (hresp : resp.length ≤ RESP_SIZE.toNat)
    (hsize : 16 ≤ respSize.toNat) (hfit : respSize.toNat ≤ resp.length) :
    loop resp respSize (answers ds) = some (fitting respSize.toNat ds) := by
  induction ds generalizing resp respSize with
  | nil =>
    rw [answers, List.map_nil, List.nil_append, loop, if_neg (by rw [length_noDevice]; omega),
      readResponse_noDevice hresp (hsize.trans hfit)]
    rfl
  | cons d ds ih =>
    have hd := hds d List.mem_cons_self
    have hlen := length_deviceAnswer hd
    rw [answers, List.map_cons, List.cons_append, loop, fitting]
    by_cases hle : d.total + 16 ≤ respSize.toNat
    · have hsmall : (UInt32.ofNat (deviceAnswer d).raw.length).toNat = d.total + 16 := by
        rw [hlen, UInt32.toNat_ofNat', Nat.mod_eq_of_lt]
        exact hle.trans_lt respSize.toNat_lt
      have hkeep : (writeAt resp 0 (deviceAnswer d).raw).length = resp.length :=
        length_writeAt (by omega)
      rw [if_pos hle, if_neg (by omega), readResponse_device hd hresp (hle.trans hfit)]
      have hrest : loop (writeAt resp 0 (deviceAnswer d).raw)
          (UInt32.ofNat (deviceAnswer d).raw.length) (answers ds) =
            some (fitting (d.total + 16) ds) := by
        rw [← hsmall]
        exact ih (fun e he => hds e (List.mem_cons_of_mem d he)) (hkeep.le.trans hresp) (by omega)
          (by omega)
      exact congrArg (Option.map (d :: ·)) hrest
    · rw [if_neg hle, if_pos (by omega)]

/-- No device is left out if no answer has more bytes than one before it. -/
theorem fitting_eq_iff : fitting n ds = ds ↔
    (∀ d ∈ ds, d.total + 16 ≤ n) ∧ ds.Pairwise fun d d' => d'.total ≤ d.total := by
  induction ds generalizing n with
  | nil => simp [fitting]
  | cons d ds ih =>
    rw [fitting]
    split
    · next hle =>
      rw [List.cons_inj_right, ih, List.pairwise_cons]
      constructor
      · intro ⟨hfirst, hrest⟩
        refine ⟨?_, fun e he => Nat.le_of_add_le_add_right (hfirst e he), hrest⟩
        intro e he
        rcases List.mem_cons.mp he with rfl | he
        · exact hle
        · exact (hfirst e he).trans hle
      · intro ⟨_, hfirst, hrest⟩
        exact ⟨fun e he => Nat.add_le_add_right (hfirst e he) 16, hrest⟩
    · next hlong =>
      constructor
      · intro h
        exact absurd h (by simp)
      · intro h
        exact absurd (h.1 d List.mem_cons_self) hlong

/-- **The device manager shows the devices of the agent** before the first whose answer has more
bytes than the answer before it, all of them exactly if there is none. -/
theorem devices_found_iff (resp : Bytes RESP_SIZE.toNat) (hds : ∀ d ∈ ds, d.total ≤ INT_MAX) :
    updateFoundDevices resp (answers ds) = some (fitting 4084 ds) ∧
      (updateFoundDevices resp (answers ds) = some ds ↔
        (∀ d ∈ ds, d.total + 16 ≤ 4084) ∧ ds.Pairwise fun d d' => d'.total ≤ d.total) := by
  have hloop : updateFoundDevices resp (answers ds) = some (fitting 4084 ds) :=
    loop_answers hds resp.property.le (by decide) resp.property.ge
  refine ⟨hloop, ?_⟩
  rw [hloop, Option.some_inj]
  exact fitting_eq_iff

/-- The second name is longer than the first, so that the second device is not found. -/
theorem devices_found_iff_longer :
    let resp : Bytes RESP_SIZE.toNat := ⟨List.replicate 4084 0, List.length_replicate⟩
    let ds : List FoundDevice :=
      [⟨[65], [], .CON_IP, [], 0, .OS_UBUNTU⟩, ⟨[66, 66], [], .CON_IP, [], 0, .OS_UBUNTU⟩]
    updateFoundDevices resp (answers ds) = some (fitting 4084 ds) ∧
      (updateFoundDevices resp (answers ds) = some ds ↔
        (∀ d ∈ ds, d.total + 16 ≤ 4084) ∧ ds.Pairwise fun d d' => d'.total ≤ d.total) :=
  devices_found_iff _ (by decide)

/-! ### The agent of this repository -/

open IviLink.L1 (RawStub ClientDirection)

variable {l : RawStub} {dirId : ClientDirection}

/-- The agent reads what was copied out. -/
theorem construct_raw {a : CDataAccessor} (h : a.getDataSize < 4294967296) :
    RawStub.construct a.raw = .ok a := by
  obtain ⟨hop, hchannel, hsize, herror, hdata⟩ := a.raw_words
  have hword : RawStub.payloadSize a.raw = a.getDataSize := by
    rw [RawStub.payloadSize, hsize, ofLE32_le32, UInt32.toNat_ofNat', Nat.mod_eq_of_lt h]
  have hcomplete : RawStub.Complete a.raw := by
    rw [RawStub.Complete, hword, CDataAccessor.length_raw, CDataAccessor.getObjectSize]
    omega
  rw [RawStub.construct_eq hcomplete, RawStub.requestOf, List.drop_zero, hop, hchannel, herror,
    hdata, hword]
  simp only [ofLE32_le32]
  rw [CDataAccessor.getDataSize, List.take_length]

theorem construct_deviceRequest (counter : UInt32) :
    RawStub.construct (deviceRequest counter).raw =
      .ok ⟨E_GET_DEVICE_LIST, 0, 0, le32 counter⟩ := by
  rw [← Accessor.raw_toCDataAccessor]
  refine construct_raw ?_
  show (le32 counter).length < 4294967296
  rw [length_le32]
  decide

/-- `CIpc::RESP_BUFFER_SIZE` -/
def RESP_BUFFER_SIZE : Nat := 4096

/-- The response is empty if the agent's own buffer is too small for the answer. -/
theorem OnRequest_deviceRequest {counter : UInt32} (answer : CDataAccessor)
    (h : l.processClientGetDeviceList ⟨E_GET_DEVICE_LIST, 0, 0, le32 counter⟩ dirId =
      .ok (l, answer, true)) :
    l.OnRequest (deviceRequest counter).raw RESP_BUFFER_SIZE dirId =
      .ok (l, if answer.getObjectSize ≤ RESP_BUFFER_SIZE then answer.raw else []) := by
  have hcall : l.callClient ⟨E_GET_DEVICE_LIST, 0, 0, le32 counter⟩ dirId =
      .ok (l, answer, true) := h
  refine bind_ok.mpr ⟨_, construct_deviceRequest counter, bind_ok.mpr ⟨_, hcall, ?_⟩⟩
  dsimp only
  by_cases hfit : answer.getObjectSize ≤ RESP_BUFFER_SIZE
  · rw [if_pos ⟨rfl, hfit⟩, if_pos hfit]
    exact bind_ok.mpr ⟨_, if_pos hfit, rfl⟩
  · rw [if_neg fun h => hfit h.2, if_neg hfit]
    rfl

theorem dataWord_le32 (counter : UInt32) :
    RawStub.dataWord ⟨E_GET_DEVICE_LIST, 0, 0, le32 counter⟩ = .ok counter := by
  have hlen : (le32 counter).length = 4 := length_le32 counter
  refine bind_ok.mpr ⟨_, RawStub.readAt_ok (by dsimp only; omega), ?_⟩
  dsimp only
  rw [List.drop_zero, ← hlen, List.take_length, ofLE32_le32]
  rfl

theorem processClientGetDeviceList_eq (counter : UInt32) :
    l.processClientGetDeviceList ⟨E_GET_DEVICE_LIST, 0, 0, le32 counter⟩ dirId =
      .ok (l, if counter ≠ 0 then noDevice
        else (CDataAccessor.setData ⟨E_GET_DEVICE_LIST, 0, 0, []⟩ l.device).setErrorCode 0,
        true) := by
  have hword : ¬ (le32 counter).length < 4 := by
    rw [length_le32]
    decide
  refine (if_neg hword).trans (bind_ok.mpr ⟨counter, dataWord_le32 counter, ?_⟩)
  split
  all_goals rfl

theorem OnRequest_device (hd : d.total ≤ INT_MAX) (hl : l.device = d.bytes) :
    l.OnRequest (deviceRequest 0).raw RESP_BUFFER_SIZE dirId =
      .ok (l, if d.total + 16 ≤ RESP_BUFFER_SIZE then (deviceAnswer d).raw else []) := by
  have hsize : (deviceAnswer d).getObjectSize = d.total + 16 := by
    rw [← CDataAccessor.length_raw, length_deviceAnswer hd]
  have hpos : l.device.length > 0 := by
    rw [hl, (FoundDevice.serialize_eq hd).2, FoundDevice.total]
    omega
  have hset : (CDataAccessor.setData ⟨E_GET_DEVICE_LIST, 0, 0, []⟩ l.device).setErrorCode 0 =
      deviceAnswer d := by
    rw [CDataAccessor.setData, if_pos hpos, hl]
    rfl
  rw [← hsize]
  refine OnRequest_deviceRequest _ ?_
  rw [processClientGetDeviceList_eq, if_neg (not_not.mpr rfl), hset]

theorem OnRequest_noDevice {counter : UInt32} (hcounter : counter ≠ 0) :
    l.OnRequest (deviceRequest counter).raw RESP_BUFFER_SIZE dirId = .ok (l, noDevice.raw) := by
  refine OnRequest_deviceRequest noDevice ?_
  rw [processClientGetDeviceList_eq, if_pos hcounter]

/-- **The device manager shows the device of the agent** exactly if the answer fits what IPC lets
through in one response; otherwise it shows none. -/
theorem device_shown (resp : Bytes RESP_SIZE.toNat) (dirId : ClientDirection)
    (hd : d.total ≤ INT_MAX) (hl : l.device = d.bytes) :
    ∃ first second,
      l.OnRequest (deviceRequest 0).raw RESP_BUFFER_SIZE dirId = .ok (l, first) ∧
      l.OnRequest (deviceRequest 1).raw RESP_BUFFER_SIZE dirId = .ok (l, second) ∧
      updateFoundDevices resp [some first, some second] =
        some (if d.total + 16 ≤ 4084 then [d] else []) := by
  refine ⟨_, _, OnRequest_device hd hl, OnRequest_noDevice (by decide), ?_⟩
  by_cases hfit : d.total + 16 ≤ RESP_BUFFER_SIZE
  · rw [if_pos hfit]
    have hloop := loop_answers (fun e he => List.mem_singleton.mp he ▸ hd) resp.property.le
      (by decide : 16 ≤ RESP_SIZE.toNat) resp.property.ge
    exact hloop
  · -- an empty response ends the loop
    rw [if_neg hfit, if_neg (by rw [RESP_BUFFER_SIZE] at hfit; omega)]
    rfl

theorem device_shown_short :
    let resp : Bytes RESP_SIZE.toNat := ⟨List.replicate 4084 0, List.length_replicate⟩
    let dirId : ClientDirection := ⟨1, by decide⟩
    let d : FoundDevice := ⟨[65], [], .CON_IP, [], 0, .OS_UBUNTU⟩
    let l : RawStub := ⟨fun _ => none, fun _ => none, ⟨none⟩, [], [], d.bytes, ([], .notFound)⟩
    ∃ first second,
      l.OnRequest (deviceRequest 0).raw RESP_BUFFER_SIZE dirId = .ok (l, first) ∧
      l.OnRequest (deviceRequest 1).raw RESP_BUFFER_SIZE dirId = .ok (l, second) ∧
      updateFoundDevices resp [some first, some second] =
        some (if d.total + 16 ≤ 4084 then [d] else []) :=
  device_shown _ _ (by decide) rfl

end DeviceManager

end IviLink.Common
