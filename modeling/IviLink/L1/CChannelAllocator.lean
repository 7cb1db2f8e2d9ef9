import IviLink.L0.L0Interface

/-!
# `CChannelAllocator`

A channel of L1 is a channel in each direction below.
-/

namespace IviLink.L1

open IviLink.L0

/-- The singleton. There is no interface below before the first carrier is connected, nor
after the manager that it belongs to was destroyed. -/
structure CChannelAllocator where
  mpL0Interface : Option L0Interface

namespace CChannelAllocator

def allocateChannel (a : CChannelAllocator) (prio : TChannelPriority) (channel_id : UInt32) :
    CChannelAllocator × ConnectivityAgentError :=
  match a.mpL0Interface with
  | none => (a, .other)
  | some l =>
    let opened := l.openTransmissionChannel channel_id prio
    if opened.2.isNoError then
      let incoming := opened.1.openIncomingChannel channel_id
      if incoming.2.isNoError then (⟨incoming.1⟩, incoming.2)
      else (⟨(incoming.1.closeTransmissionChannel channel_id).1⟩, incoming.2)
    else (⟨opened.1⟩, opened.2)

/-- Both directions are closed even if the first cannot be; the error is the last one. -/
def deallocateChannel (a : CChannelAllocator) (channel_id : UInt32) :
    CChannelAllocator × ConnectivityAgentError :=
  match a.mpL0Interface with
  | none => (a, .other)
  | some l =>
    let closed := l.closeTransmissionChannel channel_id
    let incoming := closed.1.closeIncomingChannel channel_id
    (⟨incoming.1⟩, if incoming.2.isNoError then closed.2 else incoming.2)

end CChannelAllocator

end IviLink.L1
