import IviLink.L0.CIncomeDispatcher
import IviLink.L0.CTransmitDispatcher

/-!
# `L0Interface`

What L1 uses to open and close channels below: a source in the transmit dispatcher,
a target in the income dispatcher, and an entry in the statistics of `CQoS`. Of the
statistics only the channel ids matter here.
-/

namespace IviLink.L0

/-- The channels `CQoS` keeps statistics for. -/
structure CQoS where
  mStatMap : UInt32 → Bool

namespace CQoS

def init : CQoS := ⟨fun _ => false⟩

def openChannel (q : CQoS) (channel_id : UInt32) : CQoS × ConnectivityAgentError :=
  if q.mStatMap channel_id then (q, .channelBusy)
  else (⟨Function.update q.mStatMap channel_id true⟩, .noError)

def closeChannel (q : CQoS) (channel_id : UInt32) : CQoS × ConnectivityAgentError :=
  if q.mStatMap channel_id then (⟨Function.update q.mStatMap channel_id false⟩, .noError)
  else (q, .notFound)

end CQoS

/-- `CTransmitDispatcher::closeChannel`, with nothing in between its two halves. -/
def CTransmitDispatcher.closeChannel (d : CTransmitDispatcher) (channel_id : UInt32) :
    CTransmitDispatcher × ConnectivityAgentError :=
  (d.purge channel_id).remove channel_id

structure L0Interface where
  mpTransmitDispatcher : CTransmitDispatcher
  mpIncomeDispatcher : CIncomeDispatcher
  mpQoS : CQoS

namespace L0Interface

def init : L0Interface := ⟨.init, .init, .init⟩

def openTransmissionChannel (l : L0Interface) (channel_id : UInt32) (priority : TChannelPriority) :
    L0Interface × ConnectivityAgentError :=
  let opened := l.mpTransmitDispatcher.openChannel channel_id priority
  let l := { l with mpTransmitDispatcher := opened.1 }
  if opened.2.isNoError then
    let counted := l.mpQoS.openChannel channel_id
    ({ l with mpQoS := counted.1 }, counted.2)
  else (l, opened.2)

def openIncomingChannel (l : L0Interface) (channel_id : UInt32) :
    L0Interface × ConnectivityAgentError :=
  let opened := l.mpIncomeDispatcher.openChannel channel_id
  ({ l with mpIncomeDispatcher := opened.1 }, opened.2)

def closeTransmissionChannel (l : L0Interface) (channel_id : UInt32) :
    L0Interface × ConnectivityAgentError :=
  let closed := l.mpTransmitDispatcher.closeChannel channel_id
  let l := { l with mpTransmitDispatcher := closed.1 }
  if closed.2.isNoError then
    let counted := l.mpQoS.closeChannel channel_id
    ({ l with mpQoS := counted.1 }, counted.2)
  else (l, closed.2)

def closeIncomingChannel (l : L0Interface) (channel_id : UInt32) :
    L0Interface × ConnectivityAgentError :=
  let closed := l.mpIncomeDispatcher.closeChannel channel_id
  ({ l with mpIncomeDispatcher := closed.1 }, closed.2)

end L0Interface

end IviLink.L0
