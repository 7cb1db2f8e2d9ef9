import IviLink.ProfileLibrary.Channel

/-!
# Received buffers that are sent on

A buffer that an application is given and passes to `sendBuffer` goes out up to its write
position. That is set to the number of bytes received, which `setWritePosition` refuses when it
is the size of the buffer; and the buffer has been given the size that was announced.
-/

namespace IviLink.ProfileLibrary.Channel

open IviLink.Lib IviLink.Common IviLink.ChannelSupervisor IviLink.L1
open IviLink.Common.CConnectivityAgentProxy (Acceptable sendDataRequest)

/-- Whatever channel the buffer is sent on, what goes out is a request with the given bytes, if the
channel can send them at all. -/
def Forwards (received : List UInt8) (buf : Buffer) : Prop :=
  ∀ (q : CConnectivityAgentProxy) (env : ProxyEnv) (channel : UInt32),
    channel ≠ CA_SERVICE_CHANNEL → Acceptable q env channel received →
      ∃ err, sendBuffer q env channel buf = .ok (err, some (sendDataRequest channel received).raw)

section sendBytes

variable {q : CConnectivityAgentProxy} {env : ProxyEnv} {channel : UInt32} {bytes : List UInt8}

/-- What the proxy takes goes out. -/
theorem sendBytes_acceptable (hchannel : channel ≠ CA_SERVICE_CHANNEL)
    (h : Acceptable q env channel bytes) (hlen : bytes.length ≤ MAX_SIZE) :
    ∃ err, sendBytes q env channel bytes = .ok (err, some (sendDataRequest channel bytes).raw) := by
  have hsize : (sendDataRequest channel bytes).getObjectSize ≤
      CConnectivityAgentProxy.MAX_BUF_SIZE := by
    show bytes.length + 16 ≤ 65535
    have hmax : MAX_SIZE = 4096 := rfl
    omega
  have hsent := CConnectivityAgentProxy.sendData_acceptable h
  rw [if_pos hsize] at hsent
  unfold sendBytes ChannelSupervisor.sendData
  rw [if_pos hchannel, hsent]
  cases env.asyncRequest with
  | true => exact ⟨_, rfl⟩
  | false => exact ⟨_, rfl⟩

theorem sendData_nil : ∃ err, ChannelSupervisor.sendData q env channel [] = .ok (err, none) := by
  have hrefused : ¬ Acceptable q env channel [] := fun h => Nat.lt_irrefl 0 h.2.1.1.1
  obtain ⟨result, hresult⟩ := CConnectivityAgentProxy.sendData_refused hrefused
  unfold ChannelSupervisor.sendData
  by_cases hchannel : channel ≠ CA_SERVICE_CHANNEL
  · rw [if_pos hchannel, hresult]
    cases result <;> exact ⟨_, rfl⟩
  · rw [if_neg hchannel]
    exact ⟨_, rfl⟩

/-- Nothing goes out where there is nothing to send. -/
theorem sendBytes_nil : ∃ err, sendBytes q env channel [] = .ok (err, none) := by
  have hsent : ∃ err, ChannelSupervisor.sendData q env channel [] = .ok (err, none) := sendData_nil
  obtain ⟨err, herr⟩ := hsent
  unfold sendBytes
  rw [herr]
  cases err <;> exact ⟨_, rfl⟩

end sendBytes

/-- A proxy that has every channel. -/
def allChannels : CConnectivityAgentProxy :=
  ⟨fun _ => some (CConnectivityAgentProxy.allocated 0), []⟩

theorem acceptable_allChannels {bytes : List UInt8} (hne : bytes ≠ [])
    (hlen : bytes.length ≤ MAX_SIZE) : Acceptable allChannels ⟨true, true⟩ 1 bytes := by
  have hpos := List.length_pos_of_ne_nil hne
  have hmax : MAX_SIZE = 4096 := rfl
  have hbuf : CConnectivityAgentProxy.MAX_BUF_SIZE = 65535 := rfl
  exact ⟨rfl, ⟨⟨hpos, by omega⟩, by omega⟩, rfl⟩

section onDataReceived

variable {p : CConnectivityAgentProxy} {memory : Nat → UInt8} {channelId readSize : UInt32}
  {info : tChannelInfo}

theorem receiveData_eq (hinfo : p.mChannelRegistry channelId = some info)
    (hdata : info.mChannelBuffer.data ≠ []) :
    ∃ p', ChannelSupervisor.receiveData p channelId readSize =
      (p', info.mChannelBuffer.data.take readSize.toNat, .noError) := by
  have hfilled : info.mChannelBuffer.getFilledSize ≠ 0 :=
    Nat.ne_of_gt (List.length_pos_of_ne_nil hdata)
  unfold ChannelSupervisor.receiveData CConnectivityAgentProxy.receiveData
  simp only [hinfo, if_neg hfilled]
  exact ⟨_, rfl⟩

/-- The buffer that the application is given. -/
theorem onDataReceived_eq (hinfo : p.mChannelRegistry channelId = some info)
    (hdata : info.mChannelBuffer.data ≠ []) {received : List UInt8}
    (hreceived : info.mChannelBuffer.data.take readSize.toNat = received) :
    (onDataReceived p memory channelId readSize).2 =
      some (Buffer.setWritePosition (UInt32.ofNat received.length)
        (Buffer.new (writeAt ((List.range readSize.toNat).map memory) 0 received) readSize
          true)).2 := by
  have hp : ∃ p', ChannelSupervisor.receiveData p channelId readSize =
      (p', info.mChannelBuffer.data.take readSize.toNat, .noError) := receiveData_eq hinfo hdata
  obtain ⟨p', hp⟩ := hp
  unfold onDataReceived
  rw [hp, hreceived]

/-- Where the write position can be set, the buffer goes out as it was received. -/
theorem sendBuffer_below {q : CConnectivityAgentProxy} {env : ProxyEnv} {channel : UInt32}
    {received pbuf : List UInt8} (hlt : received.length < readSize.toNat) :
    sendBuffer q env channel (Buffer.setWritePosition (UInt32.ofNat received.length)
      (Buffer.new (writeAt pbuf 0 received) readSize true)).2 = sendBytes q env channel received := by
  have hpos : (UInt32.ofNat received.length).toNat = received.length := by
    rw [UInt32.toNat_ofNat']
    have hmax := readSize.toNat_lt
    omega
  have hset : ¬ readSize ≤ UInt32.ofNat received.length := by
    rw [UInt32.le_iff_toNat_le, hpos]
    omega
  unfold sendBuffer Buffer.setWritePosition Buffer.new
  rw [if_neg hset]
  show sendBytes q env channel ((writeAt pbuf 0 received).take (UInt32.ofNat received.length).toNat) =
    sendBytes q env channel received
  rw [hpos, writeAt, List.take_zero, List.nil_append, List.take_left]

/-- Where it cannot, the write position is still 0. -/
theorem sendBuffer_full {q : CConnectivityAgentProxy} {env : ProxyEnv} {channel : UInt32}
    {received pbuf : List UInt8} (heq : received.length = readSize.toNat) :
    sendBuffer q env channel (Buffer.setWritePosition (UInt32.ofNat received.length)
      (Buffer.new (writeAt pbuf 0 received) readSize true)).2 = sendBytes q env channel [] := by
  have hset : readSize ≤ UInt32.ofNat received.length := by
    rw [heq, UInt32.ofNat_toNat]
    exact UInt32.le_refl _
  unfold sendBuffer Buffer.setWritePosition Buffer.new
  rw [if_pos hset]
  rfl

/-- **A received buffer can be sent on** exactly if the channel had fewer bytes than were
announced. -/
theorem forwards_iff (hinfo : p.mChannelRegistry channelId = some info)
    (hdata : info.mChannelBuffer.data ≠ []) (hfilled : info.mChannelBuffer.data.length ≤ MAX_SIZE)
    (hread : readSize ≠ 0) :
    ∃ buf, (onDataReceived p memory channelId readSize).2 = some buf ∧
      (Forwards (info.mChannelBuffer.data.take readSize.toNat) buf ↔
        info.mChannelBuffer.data.length < readSize.toNat) := by
  refine ⟨_, onDataReceived_eq hinfo hdata rfl, ?_⟩
  have hlen : (info.mChannelBuffer.data.take readSize.toNat).length =
      min readSize.toNat info.mChannelBuffer.data.length := List.length_take
  constructor
  · intro hforwards
    by_contra hge
    have hfull : (info.mChannelBuffer.data.take readSize.toNat).length = readSize.toNat := by
      omega
    have hpos : 0 < readSize.toNat :=
      Nat.pos_of_ne_zero fun h0 => hread (UInt32.toNat_inj.mp h0)
    have hne : info.mChannelBuffer.data.take readSize.toNat ≠ [] := by
      refine List.ne_nil_of_length_pos ?_
      omega
    obtain ⟨err, herr⟩ := hforwards allChannels ⟨true, true⟩ 1 (by decide)
      (acceptable_allChannels hne (by omega))
    rw [sendBuffer_full hfull] at herr
    have hnil : ∃ err, sendBytes allChannels ⟨true, true⟩ 1 [] = .ok (err, none) := sendBytes_nil
    obtain ⟨err', herr'⟩ := hnil
    rw [herr'] at herr
    cases herr
  · intro hlt q env channel hchannel hacceptable
    have hbelow : (info.mChannelBuffer.data.take readSize.toNat).length < readSize.toNat := by
      omega
    rw [sendBuffer_below hbelow]
    exact sendBytes_acceptable hchannel hacceptable (by omega)

end onDataReceived

/-- Channel 100 holds two bytes. -/
def twoBytes : CConnectivityAgentProxy := ⟨fun _ => some ⟨0, ⟨4096, [1, 2]⟩⟩, []⟩

/-- Three bytes are announced, of which one has been taken before. -/
theorem forwards_two_of_three :
    ∃ buf, (onDataReceived twoBytes (fun _ => 0) 100 3).2 = some buf ∧ Forwards [1, 2] buf := by
  have hinfo : twoBytes.mChannelRegistry 100 = some ⟨0, ⟨4096, [1, 2]⟩⟩ := rfl
  have hread : (3 : UInt32) ≠ 0 := by decide
  obtain ⟨buf, hbuf, hiff⟩ := forwards_iff hinfo (by simp) (by decide) hread
  exact ⟨buf, hbuf, hiff.mpr (by decide)⟩

/-- Two bytes are announced and received, and the buffer with them sends nothing. -/
theorem received_buffer_sends_nothing :
    ∃ buf, (onDataReceived twoBytes (fun _ => 0) 100 2).2 = some buf ∧ buf.mpBuffer = [1, 2] ∧
      sendBuffer allChannels ⟨true, true⟩ 100 buf = .ok (.unknownError, none) :=
  ⟨_, rfl, by decide, by decide⟩

end IviLink.ProfileLibrary.Channel
