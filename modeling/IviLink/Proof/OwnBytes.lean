import IviLink.ChannelSupervisor.XmlMessages

/-!
# Messages and the memory behind them

The text that the library reads goes on behind the bytes received unless there is a zero byte in
them. The senders send none: they send the characters of a string. The tube has zeroed its array
before, which helps if fewer bytes arrive than were announced.
-/

namespace IviLink.ChannelSupervisor.Messages

open IviLink.Lib

/-- What `bzero` has left of the array is zero. -/
theorem zero_mem_tubeData {read_size : Nat} {received : List UInt8} :
    0 ∈ tubeData read_size received ↔ 0 ∈ received ∨ received.length < read_size := by
  rw [tubeData, List.mem_append, List.drop_replicate, List.mem_replicate]
  refine or_congr_right ⟨fun h => ?_, fun h => ?_⟩
  · have hrest := h.1
    omega
  · exact ⟨by omega, rfl⟩

/-! ## Documents that are told apart -/

/-- A message with a channel id and this below it. -/
def channelIdDoc (below : XmlNode) : XmlDocument :=
  .node [] [] [] (.node XML_MESSAGE_TAG [] [] (.node CHANNEL_ID_TAG [] [] below .null) .null) .null

def started : XmlDocument := channelIdDoc .null

def numbered : XmlDocument := channelIdDoc (.node [] "12".toList [] .null .null)

theorem request_started_ne : Request.ofDocument started ≠ Request.ofDocument numbered := by
  decide

theorem response_started_ne : Response.ofDocument started ≠ Response.ofDocument numbered := by
  decide

theorem notification_started_ne :
    Notification.ofDocument started ≠ Notification.ofDocument numbered := by
  decide

/-- **A message is decoded from its own bytes exactly if there is a zero byte among them, or, on
the tube, if fewer arrive than announced.** However the library makes documents of text. -/
theorem decodes_own_bytes_iff (p : Receiver) (received : List UInt8) :
    (∀ (load : List UInt8 → XmlDocument) (behind behind' : List UInt8),
        decode load p received behind = decode load p received behind')
      ↔ 0 ∈ received
        ∨ ∃ read_size, p = .negotiatorTube read_size ∧ received.length < read_size := by
  have hone : (1 : UInt8) ≠ 0 := by decide
  cases p with
  | negotiatorClient =>
    have hread := forall_read_iff (f := Response.ofDocument) hone response_started_ne received
    simpa [decode, decodeResponse, loadContents] using hread
  | negotiatorIPCHandler =>
    have hread := forall_read_iff (f := Request.ofDocument) hone request_started_ne received
    simpa [decode, decodeRequest, loadContents] using hread
  | negotiatorTube read_size =>
    have hread := forall_read_iff (f := Notification.ofDocument) hone notification_started_ne
      (tubeData read_size received)
    rw [zero_mem_tubeData] at hread
    simpa [decode, decodeNotification, loadContents] using hread

/-! ## A request without an end -/

/-- The bytes of a text. -/
def bytes (text : String) : List UInt8 := text.toList.map fun c => UInt8.ofNat c.toNat

/-- What the library makes of a text that ends in the middle, and of one that goes on. It does not
parse the last character, and keeps what it has built when a tag is not closed. -/
def library (text : List UInt8) : XmlDocument :=
  if text = bytes "<message><channel-id>1" then started
  else if text = bytes "<message><channel-id>12</channel-id></message>" then numbered
  else .null

/-- An earlier request lies behind: its channel id is decoded. -/
theorem stale_bytes_decoded :
    decode library .negotiatorIPCHandler (bytes "<message><channel-id>1") [0]
      ≠ decode library .negotiatorIPCHandler (bytes "<message><channel-id>1")
        (bytes "2</channel-id></message>" ++ [0]) := by
  decide

end IviLink.ChannelSupervisor.Messages
