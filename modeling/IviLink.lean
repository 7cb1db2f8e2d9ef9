import IviLink.Lib.Bytes
import IviLink.Lib.Run
import IviLink.Lib.Numbering
import IviLink.Lib.Pieces
import IviLink.Lib.Checked
import IviLink.Ipc.Socket
import IviLink.Ipc.Requests
import IviLink.Proof.IpcReceive
import IviLink.Proof.IpcStream
import IviLink.Proof.ReceiverSafety
import IviLink.Proof.Correlation
import IviLink.Ipc.Directions
import IviLink.Proof.LostDirections
import IviLink.Common.Types
import IviLink.Common.CDataAccessor
import IviLink.Common.CConnectivityAgentProxy
import IviLink.Proof.ReceiveBuffer
import IviLink.Hal.Frame
import IviLink.Hal.CCarrierAdapter
import IviLink.Proof.Framing
import IviLink.Hal.CTcpCarrierAdapter
import IviLink.Proof.FrameProgress
import IviLink.Hal.Handshake
import IviLink.Proof.Handshake
import IviLink.L0.CSource
import IviLink.Proof.Segmentation
import IviLink.L0.CTransmittedFramesQueue
import IviLink.Proof.QueueInvariant
import IviLink.L0.CTransmitDispatcher
import IviLink.L0.Transmit
import IviLink.Proof.TransmitAccounting
import IviLink.Proof.Registry
import IviLink.Proof.ChannelPurge
import IviLink.L0.CIncomeDispatcher
import IviLink.L0.Receive
import IviLink.L0.Peers
import IviLink.Proof.Queued
import IviLink.Proof.Targets
import IviLink.Proof.Flights
import IviLink.Proof.Replacement
import IviLink.Proof.Acks
import IviLink.Proof.InOrder
import IviLink.Lib.Duplex
import IviLink.L0.L0Interface
import IviLink.L1.CChannelAllocator
import IviLink.Proof.Allocator
import IviLink.L1.L1InterfaceStub
import IviLink.L1.Agents
import IviLink.L1.Rendezvous
import IviLink.Proof.AllocateHandlers
import IviLink.Proof.Allocation
import IviLink.L1.Closing
import IviLink.Proof.Deallocation
import IviLink.L1.Timed
import IviLink.Proof.Timeouts
import IviLink.L1.ServiceCodec
import IviLink.Proof.Decoder
import IviLink.Proof.ServiceMessages
import IviLink.Common.ProxyCalls
import IviLink.Proof.LeftoverResults
import IviLink.L1.DataPath
import IviLink.Proof.AcceptedSizes
import IviLink.L1.BufferPools
import IviLink.Proof.BufferConservation
import IviLink.L1.Stack
import IviLink.Proof.Boundaries
import IviLink.Hal.CConnectivityAgent
import IviLink.Proof.Reconnection
import IviLink.ChannelSupervisor.Messages
import IviLink.ChannelSupervisor.Map
import IviLink.ChannelSupervisor.Negotiator
import IviLink.Proof.Pairing
import IviLink.Proof.Exclusive
import IviLink.ProfileLibrary.Buffer
import IviLink.Proof.BufferRoundTrip
import IviLink.ProfileManager.PmpCore
import IviLink.Proof.LockAgreement
import IviLink.L1.ClientDirections
import IviLink.ProfileManager.Roles
import IviLink.Proof.RoleAgreement
import IviLink.Utils.TimeoutManager
import IviLink.Proof.Oversleeping
import IviLink.ChannelSupervisor.NegotiatorClient
import IviLink.Proof.LateResponses
import IviLink.PMAL.SyncRequestsData
import IviLink.Proof.SharedResults
import IviLink.ServiceManager.CServiceManager
import IviLink.Proof.ActiveServices
import IviLink.ProfileManager.Complements
import IviLink.Proof.ComplementMatching
import IviLink.PMAL.CPIM
import IviLink.Proof.DiedOnce
import IviLink.ApplicationManager.CRequestHandler
import IviLink.Proof.AppSessions
import IviLink.ProfileManager.ClientAppRegistry
import IviLink.ProfileManager.PmpPim
import IviLink.Proof.InstanceAgreement
import IviLink.Utils.CRWMutex
import IviLink.Proof.ReadWriteLock
import IviLink.Ipc.Sending
import IviLink.Proof.WholeMessages
import IviLink.Proof.Openings
import IviLink.Proof.RangePositions
import IviLink.ProfileManager.WaitingServices
import IviLink.Proof.WaitingStart
import IviLink.SystemController.CSystemStateMachine
import IviLink.Proof.StartUp
import IviLink.Proof.LinkState
import IviLink.Proof.RefusedAllocations
import IviLink.Lib.Heap
import IviLink.Common.ProxyBuffers
import IviLink.Proof.RestoredChannels
import IviLink.Lib.Waiting
import IviLink.Lib.Attempts
import IviLink.Lib.FirstEntries
import IviLink.Lib.Rivals
import IviLink.Hal.FinderThreads
import IviLink.Proof.FinderInvariant
import IviLink.Proof.FinderDeadlocks
import IviLink.ChannelSupervisor.InfoMap
import IviLink.Proof.ChannelInfos
import IviLink.Proof.Watchdog
import IviLink.ChannelSupervisor.ChannelSupervisorTube
import IviLink.Proof.TubeAllocations
import IviLink.Proof.TubeObservers
import IviLink.ProfileLibrary.Channel
import IviLink.Proof.Forwarding
import IviLink.Common.AccessorCopies
import IviLink.ProfileManager.ProfileDatabase
import IviLink.Proof.FoundProfiles
import IviLink.Proof.FailedBuffers
import IviLink.Proof.ProcessorKeys
import IviLink.Proof.LiveProcessors
import IviLink.ProfileManager.ProfileLibraries
import IviLink.Proof.LoadedLibraries
import IviLink.Proof.WaitingChoice
import IviLink.Proof.ListCodecs
import IviLink.Common.FoundDevice
import IviLink.Proof.DeviceRecords
import IviLink.Ipc.BufferHelpers
import IviLink.Proof.WriterReader
import IviLink.Utils.CUid
import IviLink.ProfileManager.Registrations
import IviLink.Proof.RegisteredInstances
import IviLink.ProfileManager.AppRequests
import IviLink.Proof.PendingServices
import IviLink.ApplicationManager.CAppComThread
import IviLink.Proof.ComRequests
import IviLink.Lib.Mutexes
import IviLink.ApplicationManager.HandlerMutexes
import IviLink.ServiceManager.ServiceMutexes
import IviLink.Proof.MutexDiscipline
import IviLink.ApplicationManager.CDatabase
import IviLink.Proof.ApplicationDatabase
import IviLink.Proof.DatabaseFile
import IviLink.Proof.TrustList
import IviLink.Proof.StorageFailures
import IviLink.Proof.DroppedServices
import IviLink.Proof.AbsentProfiles
import IviLink.PMAL.LoadProfile
import IviLink.Proof.FailedLoads
import IviLink.PMAL.IncomingProfiles
import IviLink.Proof.IncomingProfiles
import IviLink.MessageProtocols.PmMessages
import IviLink.Proof.PmMessages
import IviLink.Utils.Serialize
import IviLink.MessageProtocols.AmpMessages
import IviLink.Proof.AmpMessages
import IviLink.MessageProtocols.AppManMessages
import IviLink.Proof.AppManMessages
import IviLink.Proof.EarlyRequests
import IviLink.Proof.ClientConnections
import IviLink.Utils.EventHandler
import IviLink.Proof.EventOrder
import IviLink.Proof.Stopping
import IviLink.Utils.CThreadPool
import IviLink.Proof.PoolJobs
import IviLink.Lib.WeakOrder
import IviLink.ProfileManager.ProfileData
import IviLink.Lib.Istream
import IviLink.Utils.Configurator
import IviLink.Proof.ConfigurationLines
import IviLink.Proof.ConfigurationMap
import IviLink.Lib.CString
import IviLink.ChannelSupervisor.XmlMessages
import IviLink.Proof.OwnBytes
import IviLink.SystemController.SystemControllerWatchdog
import IviLink.SystemController.CComponentLauncher
import IviLink.ApplicationManager.CLaunchThread
import IviLink.Proof.XmlRoundTrip
import IviLink.Proof.PmpFrames
import IviLink.Proof.PmStream
import IviLink.Proof.ByteStreams
import IviLink.Proof.SharedSocket
