import IviLink.ChannelSupervisor.ChannelSupervisorTube
import IviLink.Common.CConnectivityAgentProxy
import IviLink.L1.L1InterfaceStub
import IviLink.ProfileLibrary.Buffer

/-!
# Data of channels in the profile library

`Channel.cpp`: what a profile has to send goes through the tube to the proxy of the
connectivity agent. When data has come, `ChannelHandler` takes it from the proxy into an
array of the announced size and gives the application a `Buffer` around this array.
-/

namespace IviLink.ChannelSupervisor

open IviLink.Common IviLink.L1
open IviLink.Ipc (Failure)

/-- `ChannelSupervisor::sendData`: what it returns, and what has been given to IPC. -/
def sendData (p : CConnectivityAgentProxy) (env : ProxyEnv) (channelId : UInt32)
    (data : List UInt8) : Except Failure (CSError × Option (List UInt8)) :=
  if channelId ≠ CA_SERVICE_CHANNEL then
    match p.sendData env channelId (some data) with
    | .error f => .error f
    | .ok (.noError, sent) => .ok (.noError, sent)
    | .ok (.notFound, sent) => .ok (.sendToNotExistingChannel, sent)
    | .ok (.requestFailed, sent) => .ok (.ipcNoDataError, sent)
    | .ok (_, sent) => .ok (.errorOther, sent)
  else
    .ok (.sendToRestrictedChannel, none)

/-- `ChannelSupervisor::receiveData`, with the bytes it leaves in the caller's array. -/
def receiveData (p : CConnectivityAgentProxy) (channelId : UInt32) (maxSize : UInt32) :
    CConnectivityAgentProxy × List UInt8 × CSError :=
  match p.receiveData channelId maxSize.toNat with
  | (p', data, .noError) => (p', data, .noError)
  | (p', data, _) => (p', data, .errorOther)

end IviLink.ChannelSupervisor

namespace IviLink.ProfileLibrary.Channel

open IviLink.Lib IviLink.Common IviLink.ChannelSupervisor
open IviLink.Ipc (Failure)

/-- The errors that `sendBuffer` returns. -/
inductive Error
  | noError
  | sendToNotAllocatedChannel
  | ipcRequestTimeout
  | unknownError
  deriving DecidableEq, Repr

/-- `sendBuffer(channel, pBuffer, bufferSize)`, with what has been given to IPC. -/
def sendBytes (p : CConnectivityAgentProxy) (env : ProxyEnv) (channel : UInt32)
    (bytes : List UInt8) : Except Failure (Error × Option (List UInt8)) :=
  match sendData p env channel bytes with
  | .error f => .error f
  | .ok (.noError, sent) => .ok (.noError, sent)
  | .ok (.sendToRestrictedChannel, sent) => .ok (.sendToNotAllocatedChannel, sent)
  | .ok (.sendToNotExistingChannel, sent) => .ok (.sendToNotAllocatedChannel, sent)
  | .ok (.ipcNoDataError, sent) => .ok (.ipcRequestTimeout, sent)
  | .ok (_, sent) => .ok (.unknownError, sent)

/-- `sendBuffer(channel, buffer)`: the write position is the length. -/
def sendBuffer (p : CConnectivityAgentProxy) (env : ProxyEnv) (channel : UInt32)
    (buffer : Buffer) : Except Failure (Error × Option (List UInt8)) :=
  sendBytes p env channel (buffer.mpBuffer.take buffer.mWritePos.toNat)

/-- `ChannelHandler::onDataReceived`: the buffer that the application is given, if any.
`memory` is what is in the array that has just been allocated. What `setWritePosition` returns
is not looked at. -/
def onDataReceived (p : CConnectivityAgentProxy) (memory : Nat → UInt8) (channelId : UInt32)
    (readSize : UInt32) : CConnectivityAgentProxy × Option Buffer :=
  match receiveData p channelId readSize with
  | (p', data, .noError) =>
    let pbuf := writeAt ((List.range readSize.toNat).map memory) 0 data
    let buf := Buffer.new pbuf readSize true
    (p', some (Buffer.setWritePosition (UInt32.ofNat data.length) buf).2)
  | (p', _, _) => (p', none)

/-! ## Tags -/

/-- `std::string(tag.c_str())`: what stands before the first zero character. -/
def c_str (tag : Tag) : Tag := tag.takeWhile fun c => c ≠ Char.ofNat 0

/-- The tag that a channel of this role is allocated with. -/
def fixedTag (suffix : Tag) (tag : Tag) : Tag := c_str tag ++ TAG_SUFFIX_SEPARATOR :: suffix

/-- The tag that `allocateChannelAsClient` gives to `allocateChannel`. -/
def allocateChannelAsClient (tag : Tag) : Tag := fixedTag TAG_CLIENT_SUFFIX tag

/-- The tag that `allocateChannelAsServer` gives to `allocateChannel`. -/
def allocateChannelAsServer (tag : Tag) : Tag := fixedTag TAG_SERVER_SUFFIX tag

end IviLink.ProfileLibrary.Channel

/-!
## The tags of the two ends of a channel

A tag is what the application calls the channel, and a suffix for the role. The complement looks
for the last separator, so that separators and suffixes in the name itself do not matter: the last
one is always the one that was put there. Of a name only what stands before a zero character gets
into the tag.
-/

namespace IviLink.ProfileLibrary.Channel

open IviLink.ChannelSupervisor

variable {suffix suffix' s t : Tag}

/-- A tag tells its role and its name. -/
theorem fixedTag_inj (h : TAG_SUFFIX_SEPARATOR ∉ suffix) (h' : TAG_SUFFIX_SEPARATOR ∉ suffix') :
    fixedTag suffix s = fixedTag suffix' t ↔ suffix = suffix' ∧ c_str s = c_str t := by
  constructor
  · intro heq
    have hsplit := congrArg splitTag heq
    rw [fixedTag, fixedTag, splitTag_append h, splitTag_append h'] at hsplit
    obtain ⟨hname, hrole⟩ := Prod.mk.inj (Option.some.inj hsplit)
    exact ⟨hrole, hname⟩
  · rintro ⟨rfl, hname⟩
    rw [fixedTag, fixedTag, hname]

theorem separator_client : TAG_SUFFIX_SEPARATOR ∉ TAG_CLIENT_SUFFIX := by decide

theorem separator_server : TAG_SUFFIX_SEPARATOR ∉ TAG_SERVER_SUFFIX := by decide

theorem complement_client (s : Tag) :
    getComplementingTag (allocateChannelAsClient s) = allocateChannelAsServer s := by
  rw [getComplementingTag, allocateChannelAsClient, fixedTag, splitTag_append separator_client]
  rfl

theorem complement_server (s : Tag) :
    getComplementingTag (allocateChannelAsServer s) = allocateChannelAsClient s := by
  rw [getComplementingTag, allocateChannelAsServer, fixedTag, splitTag_append separator_server]
  rfl

/-- **Complementing pairs the client with the server of the same name, and nothing else.** For any
two strings, whatever separators and suffixes are in them. -/
theorem tags_complement (s t : Tag) :
    getComplementingTag (getComplementingTag (allocateChannelAsClient s))
        = allocateChannelAsClient s
      ∧ getComplementingTag (getComplementingTag (allocateChannelAsServer s))
        = allocateChannelAsServer s
      ∧ (getComplementingTag (allocateChannelAsClient s) = allocateChannelAsServer t
          ↔ c_str s = c_str t)
      ∧ (getComplementingTag (allocateChannelAsServer s) = allocateChannelAsClient t
          ↔ c_str s = c_str t)
      ∧ getComplementingTag (allocateChannelAsClient s) ≠ allocateChannelAsClient t
      ∧ getComplementingTag (allocateChannelAsServer s) ≠ allocateChannelAsServer t := by
  refine ⟨getComplementingTag_getComplementingTag _, getComplementingTag_getComplementingTag _,
    ?_, ?_, ?_, ?_⟩
  · rw [complement_client]
    exact (fixedTag_inj separator_server separator_server).trans (and_iff_right rfl)
  · rw [complement_server]
    exact (fixedTag_inj separator_client separator_client).trans (and_iff_right rfl)
  · rw [complement_client]
    intro heq
    exact absurd ((fixedTag_inj separator_server separator_client).mp heq).1 (by decide)
  · rw [complement_server]
    intro heq
    exact absurd ((fixedTag_inj separator_client separator_server).mp heq).1 (by decide)

/-- Names that differ behind a zero character only. -/
theorem tags_of_different_names : ¬ ∀ s t : Tag, s ≠ t →
    getComplementingTag (allocateChannelAsClient s) ≠ allocateChannelAsServer t := by
  intro hall
  exact hall ['a', Char.ofNat 0, 'b'] ['a', Char.ofNat 0, 'c'] (by decide) (by decide)

end IviLink.ProfileLibrary.Channel
