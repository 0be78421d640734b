import RipV2.AdminInterface
import RipV2.RoutingTables
import RipV2.Updater

/-!
The daemon: its state and the handlers of packets, timers, HTTP requests and
shutdown. Log output is left out; everything else follows the source.
-/

namespace RipV2.Deamon

open RipV2.Address
open RipV2.AdminInterface
open RipV2.Database
open RipV2.EffectLogic
open RipV2.HostEnvironment
open RipV2.LocalRoutes
open RipV2.Packets
open RipV2.Results
open RipV2.RoutingTables
open RipV2.Updater

def ripInfinityMetric : UInt32 := 16

def ripRequestWarmupMinMillis : UInt64 := 500

def ripRequestWarmupMaxMillis : UInt64 := 1000

def ripUpdateMinMillis : UInt64 := 27500

def ripUpdateMaxMillis : UInt64 := 35000

def ripTriggeredUpdateLockMinMillis : UInt64 := 1000

def ripTriggeredUpdateLockMaxMillis : UInt64 := 5000

def ripTimeoutCheckIntervalSecs : UInt64 := 15

def ripRouteTimeoutSecs : UInt64 := 180

def ripGarbageCollectionIntervalSecs : UInt64 := 5

def ripGarbageCollectionLifetimeSecs : UInt64 := 120

/-- `host` stands for the operating system the daemon runs on. -/
structure RipDeamon (Driver : Type) where
  routingTable : RoutingTable Driver
  interfaces : List RipIfc
  database : RipDatabase
  host : Host

/-- A handler runs on the daemon and may fail in the state it has reached. -/
abbrev DeamonM (Driver α : Type) := EStateM RipError (RipDeamon Driver) α

/-- An optional timer: when armed, the duration of its sleep. -/
abbrev Timer := Option Duration

/-- From 1 to the infinity metric. -/
def isMetricValid (metric : UInt32) : Bool :=
  1 ≤ metric && metric ≤ ripInfinityMetric

/-- The checks on a received entry. Host bits are not among them. -/
def isEntryValid (entry : RipEntry) : Bool :=
  isUnicastAddress entry.ipAddress && isNetMaskValid entry.subnetMask &&
    isMetricValid entry.metric

/-- `u32::saturating_add` -/
def saturatingAdd32 (a b : UInt32) : UInt32 :=
  if a.toNat + b.toNat < 2 ^ 32 then a + b else 0xffffffff

/-- One hop more, but at most infinity. -/
def updateMetric (metric : UInt32) : UInt32 :=
  min (saturatingAdd32 metric 1) ripInfinityMetric

def createRequestWarmupDuration {ε : Type} : HostM ε Duration := do
  return durationFromMillis
    (← randomMillisInRange ripRequestWarmupMinMillis ripRequestWarmupMaxMillis)

def createUpdateDuration {ε : Type} : HostM ε Duration := do
  return durationFromMillis (← randomMillisInRange ripUpdateMinMillis ripUpdateMaxMillis)

/-- How long a triggered update locks out the next one, drawn at random. -/
def createTriggeredUpdateLockDuration {ε : Type} : HostM ε Duration := do
  return durationFromMillis
    (← randomMillisInRange ripTriggeredUpdateLockMinMillis ripTriggeredUpdateLockMaxMillis)

/-- The interval at which routes are checked; it is also what each check adds to their
counters. -/
def timeoutCheckIntervalSecs (answers : Answers) : UInt64 :=
  answers.envU64OrDefault "RIP_TIMEOUT_CHECK_INTERVAL_SECS" ripTimeoutCheckIntervalSecs

def routeTimeoutSecs (answers : Answers) : UInt64 :=
  answers.envU64OrDefault "RIP_ROUTE_TIMEOUT_SECS" ripRouteTimeoutSecs

def garbageCollectionIntervalSecs (answers : Answers) : UInt64 :=
  answers.envU64OrDefault "RIP_GARBAGE_COLLECTION_INTERVAL_SECS" ripGarbageCollectionIntervalSecs

def garbageCollectionLifetimeSecs (answers : Answers) : UInt64 :=
  answers.envU64OrDefault "RIP_GARBAGE_COLLECTION_LIFETIME_SECS" ripGarbageCollectionLifetimeSecs

/-- The route that an entry stands for: one hop further, through the sender. An invalid entry
stands for none. -/
def responseEntryToRoute (entry : RipEntry) (packet : RipPacket) : Option RipEntry :=
  if !isEntryValid entry then none
  else some { entry with metric := updateMetric entry.metric, nextHop := packet.source.ip }

/-- Only the next hops are compared, and that of a local route is 0.0.0.0. -/
def routeIsFromCurrentNextHop (oldRoute : RipDbEntry) (routeEntry : RipEntry) : Bool :=
  oldRoute.ripEntry.nextHop == routeEntry.nextHop

variable {Driver : Type}

namespace RipDeamon

def new (driver : Driver) (host : Host) : RipDeamon Driver where
  routingTable := { driver }
  interfaces := []
  database := RipDatabase.new
  host := host

/-- An operation on the database, as one of the daemon. -/
def onDatabase {α : Type} : DatabaseM α → DeamonM Driver α :=
  zoom database fun database deamon => { deamon with database }

def onHost {ε α : Type} : HostM ε α → EStateM ε (RipDeamon Driver) α :=
  zoom host fun host deamon => { deamon with host }

def onRoutingTable {α : Type} :
    EStateM RipError (RoutingTable Driver) α → DeamonM Driver α :=
  zoom routingTable fun routingTable deamon => { deamon with routingTable }

def modifyDatabase (f : RipDatabase → RipDatabase) : DeamonM Driver Unit :=
  modify fun deamon => { deamon with database := f deamon.database }

/-- A socket operation whose error becomes an IO error of the daemon. -/
def socketIo {α : Type} (m : HostM String α) : DeamonM Driver α :=
  EStateM.adaptExcept .ioError (onHost m)

variable [RoutingTableDriver Driver]

def addRoute (route : RipDbEntry) : DeamonM Driver Unit :=
  onRoutingTable (RoutingTable.addRoute route)

def deleteRoute (route : RipDbEntry) : DeamonM Driver Unit :=
  onRoutingTable (RoutingTable.deleteRoute route)

omit [RoutingTableDriver Driver] in
/-- One interface after the other; the first that fails ends the setup. -/
def setupSockets (devs : List String) : DeamonM Driver Unit :=
  devs.forM fun dev => do
    let ripInterface ← onHost (RipIfc.create dev)
    modify fun deamon => { deamon with interfaces := deamon.interfaces ++ [ripInterface] }

/-- A network of the configuration, or one added over HTTP, becomes a local route. -/
def setupAdvertisedNetwork (network : AdvertisedNetwork) : DeamonM Driver Unit := do
  match advertisedNetworkToLocalRoute (← get).host.answers network with
  | .error e => throw e
  | .ok localRoute =>
      onDatabase
        (RipDatabase.addLocalRoute localRoute.entry localRoute.ifIndex localRoute.ifName)

/-- An infinite metric counts only if it comes from the route's next hop. -/
def handlePoisonedRouteFromResponse (routeEntry : RipEntry) : DeamonM Driver Unit := do
  match (← get).database.getRoute routeEntry with
  | some oldRoute =>
      if !routeIsFromCurrentNextHop oldRoute routeEntry then
        return ()
      deleteRoute oldRoute
      let now ← onHost instantNow
      let _ ← onDatabase (RipDatabase.moveRouteToGarbage oldRoute.ripEntry now)
  | none =>
      if (← get).database.hasGarbageRoute routeEntry then
        return ()
      return ()

/-- The old route leaves the kernel and the database before the new one enters them. -/
def replaceRouteFromResponse (oldRoute : RipDbEntry) (routeEntry : RipEntry)
    (ifIndex : UInt32) (ifName : String) : DeamonM Driver Unit := do
  deleteRoute oldRoute
  let _ ← onDatabase (RipDatabase.removeRoute oldRoute.ripEntry)
  let newRoute ← onDatabase (RipDatabase.addRemoteRoute routeEntry ifIndex ifName)
  addRoute newRoute

/-- What the next hop says is taken as it is, what another neighbour says only if it is
nearer. -/
def updateRouteFromResponse (routeEntry : RipEntry) (ifInfo : RipIfInfo) :
    DeamonM Driver Unit := do
  let ifIndex := ifInfo.ifIndex
  let ifName := ifInfo.ifName
  if routeEntry.metric ≥ ripInfinityMetric then
    handlePoisonedRouteFromResponse routeEntry
  else
    match (← get).database.getRoute routeEntry with
    | none =>
        -- case 1: no active route to this destination
        modifyDatabase (RipDatabase.removeGarbageRoute routeEntry)
        let newRoute ← onDatabase (RipDatabase.addRemoteRoute routeEntry ifIndex ifName)
        addRoute newRoute
    | some oldRoute =>
        if routeIsFromCurrentNextHop oldRoute routeEntry then
          -- case 2: update from the current next hop
          modifyDatabase (RipDatabase.refreshRouteTimeout routeEntry)
          if oldRoute.ripEntry = routeEntry ∧ oldRoute.ifIndex = ifIndex ∧
              oldRoute.ifName = ifName then
            return ()
          replaceRouteFromResponse oldRoute routeEntry ifIndex ifName
        else if oldRoute.ripEntry.metric > routeEntry.metric then
          -- case 3: better metric from another next hop
          replaceRouteFromResponse oldRoute routeEntry ifIndex ifName
        else
          -- case 4: equal or worse metric from another next hop
          return ()

/-- The body of the loop over the entries of a response. -/
def handleResponseEntry (packet : RipPacket) (entry : RipEntry) : DeamonM Driver Unit :=
  match responseEntryToRoute entry packet with
  | none => pure ()
  | some routeEntry => updateRouteFromResponse routeEntry packet.ifInfo

/-- A response of another version is an error; one from another port is ignored. -/
def handleResponsePacket (packet : RipPacket) : DeamonM Driver Unit := do
  if packet.data.header.version ≠ rip2Version then
    throw .malformedPacket
  else if packet.source.port ≠ ripUdpPort then
    return ()
  else
    packet.data.entries.forM (handleResponseEntry packet)

/-- Requests are answered, responses are learned from, anything else is an error. -/
def handlePacket (packet : RipPacket) : DeamonM Driver Unit := do
  if packet.isRequest then
    let database := (← get).database
    socketIo (ripSendResponseUnicast database packet.source packet.ifInfo)
  else if packet.isResponse then
    handleResponsePacket packet
  else
    throw .malformedPacket

omit [RoutingTableDriver Driver] in
/-- The flags are cleared only when everything could be sent. -/
def sendMulticastAdvertisement (changedOnly : Bool) : DeamonM Driver Unit := do
  let deamon ← get
  socketIo (ripSendAdvertisementMulticast deamon.database deamon.interfaces changedOnly)
  modifyDatabase RipDatabase.markAllRoutesAsUnchanged

omit [RoutingTableDriver Driver] in
/-- Asks the neighbours on every interface for their routes. -/
def sendMulticastRequest : DeamonM Driver Unit := do
  (← get).interfaces.forM fun ifc => socketIo (ripSendRequestMulticast ifc.tx)

/-- The result is the lock timer afterwards. -/
def maybeSendTriggeredUpdate (triggeredUpdateLockTimer : Timer) : DeamonM Driver Timer := do
  if triggeredUpdateLockTimer.isSome || !(← get).database.anyRouteChanged then
    return triggeredUpdateLockTimer
  let changedOnly := true
  sendMulticastAdvertisement changedOnly
  return some (← onHost createTriggeredUpdateLockDuration)

/-- The body of the loop over the timed out routes. -/
def expireRoute (route : RipDbEntry) : DeamonM Driver Unit := do
  deleteRoute route
  let now ← onHost instantNow
  let _ ← onDatabase (RipDatabase.moveRouteToGarbage route.ripEntry now)

/-- The result is the garbage collection timer afterwards. -/
def handleRouteTimeoutTick (garbageCollectionTimer : Timer) : DeamonM Driver Timer := do
  let timeoutIncrementSecs := timeoutCheckIntervalSecs (← get).host.answers
  let timeoutLimitSecs := routeTimeoutSecs (← get).host.answers
  let timedOutRoutes ← modifyGet fun deamon =>
    let collected :=
      deamon.database.collectTimedOutRoutes timeoutIncrementSecs timeoutLimitSecs
    (collected.1, { deamon with database := collected.2 })
  let shouldStartGarbageCollection :=
    !timedOutRoutes.isEmpty && garbageCollectionTimer.isNone
  timedOutRoutes.forM expireRoute
  if shouldStartGarbageCollection then
    return some (durationFromSecs (garbageCollectionIntervalSecs (← get).host.answers))
  else
    return garbageCollectionTimer

/-- The result is the garbage collection timer afterwards. -/
def handleGarbageCollectionTick (garbageCollectionTimer : Timer) : DeamonM Driver Timer := do
  let garbageLifetime :=
    durationFromSecs (garbageCollectionLifetimeSecs (← get).host.answers)
  let now ← onHost instantNow
  modifyDatabase fun database => (database.removeExpiredGarbageRoutes now garbageLifetime).2
  if (← get).database.hasGarbageRoutes then
    return some (durationFromSecs (garbageCollectionIntervalSecs (← get).host.answers))
  else
    return garbageCollectionTimer

/-- Announces all routes as unreachable and takes them out of the kernel, whatever of
this fails. -/
def handleShutdown : DeamonM Driver Unit := do
  let routesToDelete := (← get).database.getRoutesInRoutingTable
  modifyDatabase RipDatabase.poisonAllRoutes
  let changedOnly := false
  let _ ← attempt (sendMulticastAdvertisement changedOnly)
  routesToDelete.forM fun route => do
    let _ ← attempt (deleteRoute route)

/-- A network that cannot be added makes for a response, not for a failure of the daemon. -/
def handleHttpRequest (kind : HttpRequestKind) : DeamonM Driver HttpResponse := do
  match kind with
  | .getRoutes => return .routes (HttpRoute.fromDatabase (← get).database)
  | .addLocalRoute network =>
      match ← attempt (setupAdvertisedNetwork network) with
      | .ok () => return .ok
      | .error err => return .error err.toString

end RipDeamon

end RipV2.Deamon
