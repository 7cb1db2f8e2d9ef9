import IviLink.Common.AccessorCopies
import IviLink.L1.ServiceCodec

/-!
# Devices and connections as bytes

What the agent tells its clients about a device it has found and about its connection. Both records
are written field by field into an array of the size that is computed before, and are read back
without a size. The strings have the byte order of the host, the other fields that of the network.

Where the code would write or read outside of an array, or give an `int` a value beyond its range,
there is no result. An enumeration is read by the numbers that it has names for.

The device manager asks for one device after the other. Its requests share a variable for the size
of the response, which is the size of the array at first, and what the last response had afterwards.
-/

namespace IviLink.Common

open IviLink.Lib

def INT_MAX : Nat := 2147483647

/-- A value that is given to an `int`. -/
def toInt (n : Nat) : Option Nat := if n ≤ INT_MAX then some n else none

def le64 (x : UInt64) : List UInt8 := leBytes 8 x.toNat

/-- The integers in the byte order of the network. -/
def network32 (x : UInt32) : List UInt8 := (le32 x).reverse

def network64 (x : UInt64) : List UInt8 := (le64 x).reverse

/-! ## Strings -/

/-- With `forNetwork = false`. The string is copied with the byte that ends it, as far as `size`
counts. -/
def stringToBuffer (str : List UInt8) : List UInt8 :=
  let size := UInt32.ofNat (str.length + 1)
  le32 size ++ (str ++ [0]).take size.toNat

def stringInBufSize (str : List UInt8) : Option Nat := toInt (str.length + 1 + 4)

/-- With `forNetwork = false`. -/
def bufferToString (pBuffer : List UInt8) : Option (List UInt8) :=
  let size := ofLE32 (pBuffer.take 4)
  let cstr := pBuffer.drop 4
  if 4 ≤ pBuffer.length ∧ (size - 1).toNat ≤ cstr.length then some (cstr.take (size - 1).toNat)
  else none

/-! ## Fields one after the other -/

/-- A field is stored at `result + pos`, and `pos` goes behind it. -/
def store (size : UInt32) (bytes result : List UInt8) : Option (List UInt8) :=
  if (result ++ bytes).length ≤ size.toNat ∧ (result ++ bytes).length ≤ INT_MAX then
    some (result ++ bytes)
  else none

/-- The string at `data + pos`, and the position behind it. -/
def takeString (data : List UInt8) (pos : Nat) : Option (List UInt8 × Nat) := do
  let str ← bufferToString (data.drop pos)
  let size ← stringInBufSize str
  let pos ← toInt (pos + size)
  return (str, pos)

def takeUInt32 (data : List UInt8) (pos : Nat) : Option (UInt32 × Nat) :=
  if pos + 4 ≤ data.length then
    (toInt (pos + 4)).map fun pos' => (ofLE32 ((data.drop pos).take 4).reverse, pos')
  else none

def takeUInt64 (data : List UInt8) (pos : Nat) : Option (UInt64 × Nat) :=
  if pos + 8 ≤ data.length then
    (toInt (pos + 8)).map fun pos' =>
      (UInt64.ofNat (ofLE ((data.drop pos).take 8).reverse), pos')
  else none

/-! ## The records -/

inductive ConnectionType
  | CON_BLUETOOTH
  | CON_IP
  | CON_UNKNOWN
  deriving DecidableEq, Repr

namespace ConnectionType

def toUInt32 : ConnectionType → UInt32
  | CON_BLUETOOTH => 0
  | CON_IP => 1
  | CON_UNKNOWN => 2

def ofUInt32 (x : UInt32) : Option ConnectionType :=
  [CON_BLUETOOTH, CON_IP, CON_UNKNOWN].find? (·.toUInt32 = x)

end ConnectionType

inductive DeviceOs
  | OS_ANDROID
  | OS_UBUNTU
  | OS_IOS
  | OS_OTHER
  deriving DecidableEq, Repr

namespace DeviceOs

def toUInt32 : DeviceOs → UInt32
  | OS_ANDROID => 0
  | OS_UBUNTU => 1
  | OS_IOS => 2
  | OS_OTHER => 3

def ofUInt32 (x : UInt32) : Option DeviceOs :=
  [OS_ANDROID, OS_UBUNTU, OS_IOS, OS_OTHER].find? (·.toUInt32 = x)

end DeviceOs

structure FoundDevice where
  mName : List UInt8
  mAddress : List UInt8
  mConnection : ConnectionType
  /-- The string in `BaseUid`. -/
  mUid : List UInt8
  /-- `time_t` has 64 bits. -/
  mLastSeenTime : Int64
  mOS : DeviceOs
  deriving DecidableEq, Repr

namespace FoundDevice

/-- The first two summands are of type `int`. -/
def getSerializedSize (d : FoundDevice) : Option UInt32 := do
  let name ← stringInBufSize d.mName
  let address ← stringInBufSize d.mAddress
  let sum ← toInt (name + address)
  let uid ← stringInBufSize d.mUid
  return UInt32.ofNat (sum + 4 + uid + 8 + 4)

/-- What is written to the array. -/
def serialize (d : FoundDevice) : Option (List UInt8) := do
  let size ← d.getSerializedSize
  let result ← store size (stringToBuffer d.mName) []
  let result ← store size (stringToBuffer d.mAddress) result
  let result ← store size (network32 d.mConnection.toUInt32) result
  let result ← store size (stringToBuffer d.mUid) result
  let result ← store size (network64 d.mLastSeenTime.toUInt64) result
  store size (network32 d.mOS.toUInt32) result

/-- The record, and the position behind its last field. -/
def deserialize (data : List UInt8) : Option (FoundDevice × Nat) := do
  let (mName, pos) ← takeString data 0
  let (mAddress, pos) ← takeString data pos
  let (connection, pos) ← takeUInt32 data pos
  let mConnection ← ConnectionType.ofUInt32 connection
  let (mUid, pos) ← takeString data pos
  let (time, pos) ← takeUInt64 data pos
  let (os, pos) ← takeUInt32 data pos
  let mOS ← DeviceOs.ofUInt32 os
  return (⟨mName, mAddress, mConnection, mUid, time.toInt64, mOS⟩, pos)

end FoundDevice

structure ConnectionInformation where
  strLocalAddr : List UInt8
  strRemoteAddr : List UInt8
  strConnectionType : List UInt8
  deriving DecidableEq, Repr

namespace ConnectionInformation

def getSerializedSize (c : ConnectionInformation) : Option UInt32 := do
  let localAddr ← stringInBufSize c.strLocalAddr
  let connectionType ← stringInBufSize c.strConnectionType
  let sum ← toInt (localAddr + connectionType)
  let remoteAddr ← stringInBufSize c.strRemoteAddr
  let sum ← toInt (sum + remoteAddr)
  return UInt32.ofNat sum

/-- What is written to the array. -/
def serialize (c : ConnectionInformation) : Option (List UInt8) := do
  let size ← c.getSerializedSize
  let result ← store size (stringToBuffer c.strConnectionType) []
  let result ← store size (stringToBuffer c.strLocalAddr) result
  store size (stringToBuffer c.strRemoteAddr) result

/-- The record, and the position behind its last field. -/
def deserialize (data : List UInt8) : Option (ConnectionInformation × Nat) := do
  let (strConnectionType, pos) ← takeString data 0
  let (strLocalAddr, pos) ← takeString data pos
  let (strRemoteAddr, pos) ← takeString data pos
  return (⟨strLocalAddr, strRemoteAddr, strConnectionType⟩, pos)

end ConnectionInformation

/-! ## `DeviceManager` -/

namespace DeviceManager

/-- "max size that can pass through ipc" -/
def RESP_SIZE : UInt32 := 4084

/-- The request for the device with a number. -/
def deviceRequest (counter : UInt32) : Accessor :=
  ((Accessor.new.setChannelID 0).setOpCode E_GET_DEVICE_LIST).setData 4
    (some ⟨le32 counter, length_le32 counter⟩)

/-- What `updateFoundDevices` makes of a response: a device, or the end of its loop. -/
def readResponse (resp : List UInt8) (respSize : UInt32) : Option (Option FoundDevice) :=
  -- "Zero sized answer from IPC, nothing to decode"
  if respSize = 0 then some none
  else
    match Accessor.ofRawArray (some resp) respSize with
    | .error _ => none
    | .ok response =>
      if response.mErrorCode ≠ 0 then some none
      else if response.getDataSize > 0 then
        (FoundDevice.deserialize response.mpData).map fun device => some device.1
      else some none

/-- The loop of `updateFoundDevices`, with what the agent sends back to one request after the
other, `none` if nothing comes, and the devices that get into `mFoundDeviceList`. IPC throws a
response away that is longer than `respSize` says, and the request times out. -/
def loop (resp : List UInt8) (respSize : UInt32) :
    List (Option (List UInt8)) → Option (List FoundDevice)
  | [] => none
  | none :: _ => some []
  | some answer :: answers =>
    if answer.length > respSize.toNat then some []
    else
      match readResponse (writeAt resp 0 answer) (UInt32.ofNat answer.length) with
      | none => none
      | some none => some []
      | some (some device) =>
        (loop (writeAt resp 0 answer) (UInt32.ofNat answer.length) answers).map (device :: ·)

/-- `DeviceManager::updateFoundDevices`, with what is in the array before. -/
def updateFoundDevices (resp : Bytes RESP_SIZE.toNat) (answers : List (Option (List UInt8))) :
    Option (List FoundDevice) :=
  loop resp.val RESP_SIZE answers

end DeviceManager

end IviLink.Common
