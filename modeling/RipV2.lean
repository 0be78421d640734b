import RipV2.AdminConsistency
import RipV2.AdvertisedBuffers
import RipV2.AnnouncedChanges
import RipV2.ConfiguredStart
import RipV2.DatabaseErrors
import RipV2.DriverFailures
import RipV2.FailedOperations
import RipV2.GarbageTimers
import RipV2.GracefulShutdown
import RipV2.HostBits
import RipV2.IndependentDestinations
import RipV2.InterfaceNames
import RipV2.ReceivePath
import RipV2.ReceiveTask
import RipV2.RouteLifecycle
import RipV2.RouteListing
import RipV2.RouteOwners
import RipV2.RouteSelection
import RipV2.RouterStacks
import RipV2.RtNetlinkDriver
import RipV2.SelfStabilization
import RipV2.SharedKernelTable
import RipV2.SliceDecoding
import RipV2.StoredRoutes
import RipV2.SynchronousRounds
import RipV2.TimeoutCounters
import RipV2.WireCodec
