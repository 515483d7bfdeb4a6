import Dmsfwk.ByteCodec
import Dmsfwk.TlvCodec
import Dmsfwk.EventRun
import Dmsfwk.CollabError
import Dmsfwk.SessionDataHeader
import Dmsfwk.DataSenderReceiver
import Dmsfwk.BytesReassembly
import Dmsfwk.BytesTransmission
import Dmsfwk.BytesRoundTrip
import Dmsfwk.DSchedSoftbusSession
import Dmsfwk.SoftbusSessionDelivery
import Dmsfwk.DSchedCollabSource
import Dmsfwk.OrderedMap
import Dmsfwk.SoftbusAdapter
import Dmsfwk.AbilityConnectionInfo
import Dmsfwk.ChannelRegistry
import Dmsfwk.ChannelRouting
import Dmsfwk.AbilityConnectionSession
import Dmsfwk.AbilityConnectionManager
import Dmsfwk.SessionRegistry
import Dmsfwk.SessionLifecycle
import Dmsfwk.SimultaneousConnect
import Dmsfwk.ChannelRecords
import Dmsfwk.ChannelConsistency
import Dmsfwk.Base64
import Dmsfwk.CJson
import Dmsfwk.DSchedCollabEvent
import Dmsfwk.SinkStartRoundTrip
import Dmsfwk.CollabHandshake
import Dmsfwk.CollabEndStates
import Dmsfwk.CollabCloseSessions
import Dmsfwk.DSchedContinue
import Dmsfwk.ContinuePair
import Dmsfwk.ContinueSuccess
import Dmsfwk.ContinueEndOnce
import Dmsfwk.DSchedContinueManager
import Dmsfwk.ContinueCounters
import Dmsfwk.ContinueDispatch
import Dmsfwk.DSchedContinueEvent
import Dmsfwk.ContinueCommandRoundTrip
import Dmsfwk.StreamCodec
import Dmsfwk.DistributedWant
import Dmsfwk.DistributedWantRoundTrip
import Dmsfwk.ContinueBroadcast
import Dmsfwk.BroadcastDecoding
import Dmsfwk.DistributedSchedService
import Dmsfwk.ConnectCounting
import Dmsfwk.MissionChangeListener
import Dmsfwk.RemoteMissionSync
import Dmsfwk.MissionSyncEffect
import Dmsfwk.DistributedBmStorage
import Dmsfwk.BundleRecords
import Dmsfwk.BundleNameIds
import Dmsfwk.DMSContinueRecvMgr
import Dmsfwk.BroadcastOrder
import Dmsfwk.DockDisplay
import Dmsfwk.DMSContinueSendMgr
import Dmsfwk.Advertisement
import Dmsfwk.DSchedContinuation
import Dmsfwk.ContinuationMoves
import Dmsfwk.MissionCenterAnswers
import Dmsfwk.CleanMissionFlag
import Dmsfwk.DSchedAllConnectManager
import Dmsfwk.DistributedAbilityManagerService
import Dmsfwk.NotifierRegistrations
import Dmsfwk.ConnectedAbilities
import Dmsfwk.ConnectionAgreement
import Dmsfwk.ConnectInterleaving
import Dmsfwk.AbilityCall
import Dmsfwk.CallRoutes
import Dmsfwk.CallRouting
import Dmsfwk.CallerSessions
import Dmsfwk.CallReleases
import Dmsfwk.ExecuteContinueData
import Dmsfwk.NlohmannJson
import Dmsfwk.DistributedSchedStub
import Dmsfwk.RemoteRequestDecoding
import Dmsfwk.SortedEntries
import Dmsfwk.DecimalText
import Dmsfwk.DistributedWantParams
import Dmsfwk.WantParamsEquality
import Dmsfwk.DistributedWantCopies
import Dmsfwk.DistributedWantParamWrapper
import Dmsfwk.WantParamsParsing
import Dmsfwk.WantParamsReading
import Dmsfwk.WantParamsTermination
import Dmsfwk.WantParamsText
import Dmsfwk.WantJson
import Dmsfwk.WantParamsParcel
import Dmsfwk.WantParamsParcelRoundTrip
import Dmsfwk.WantParamsArrival
import Dmsfwk.RunningCollab
import Dmsfwk.CollabRedirection
import Dmsfwk.PeerRequests
import Dmsfwk.SourceAttribution
import Dmsfwk.ShownIcons
import Dmsfwk.NumberedList
import Dmsfwk.AVStreamFilters
import Dmsfwk.StreamDelivery
import Dmsfwk.BytesSenderBounds
import Dmsfwk.BytesReceiverBounds
import Dmsfwk.PacketLimit
import Dmsfwk.FragmentAssembly
import Dmsfwk.QuickStartCallbacks
import Dmsfwk.QuickStartVerdicts
import Dmsfwk.LocalCallTargets
import Dmsfwk.ContinueTimeouts
import Dmsfwk.BusyConnect
import Dmsfwk.ChannelRelease
import Dmsfwk.SendResults
import Dmsfwk.FragmentNumbering
import Dmsfwk.TlvFields
import Dmsfwk.MessageDataHeader
import Dmsfwk.HeaderDeterminacy
import Dmsfwk.CollabMessages
import Dmsfwk.SocketNames
import Dmsfwk.SocketBinding
import Dmsfwk.ClientSockets
import Dmsfwk.IdSupply
import Dmsfwk.ChannelIds
import Dmsfwk.SessionIdentity
import Dmsfwk.DmsContinueConditionMgr
import Dmsfwk.FocusBookKeeping
import Dmsfwk.PulledMission
import Dmsfwk.ContinueListeners
import Dmsfwk.SnapshotCache
import Dmsfwk.ProvisionInfo
import Dmsfwk.JsonUtil
import Dmsfwk.DmsBundleJson
import Dmsfwk.StreamCost
import Dmsfwk.ParcelPrimitives
import Dmsfwk.WordParcel
import Dmsfwk.CollabConnectParcel
import Dmsfwk.DmsBundleParcel
import Dmsfwk.SnapshotCreate
import Dmsfwk.CollabRegistry
import Dmsfwk.StreamRegistry
import Dmsfwk.FileChannels
import Dmsfwk.StreamDataCodec
import Dmsfwk.ConnectLimit
import Dmsfwk.FreeInstallTasks
import Dmsfwk.AppStateObservers
import Dmsfwk.DSchedEventListeners
import Dmsfwk.UserListeners
import Dmsfwk.DeviceInfoStorage
import Dmsfwk.CollabManagerRequests
import Dmsfwk.Base64Loops
import Dmsfwk.DmsVersionManager
import Dmsfwk.MissionInfoParcel
import Dmsfwk.RemoteObjectRemoval
import Dmsfwk.UriPermissions
import Dmsfwk.HiddenAbilities
import Dmsfwk.BroadcastRetries
import Dmsfwk.StreamEngines
import Dmsfwk.StreamPackets
import Dmsfwk.SurfaceEncoder
import Dmsfwk.AVSurfaceBufferCache
