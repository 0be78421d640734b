import RipV2.Database
import RipV2.LocalRoutes

namespace RipV2.AdminInterface

open RipV2.Address
open RipV2.BitCounts
open RipV2.Database
open RipV2.LocalRoutes

/-- A row of the route listing, as it goes into JSON. -/
structure HttpRoute where
  destination : String
  prefixLen : UInt32
  netmask : String
  nextHop : String
  metric : UInt32
  interfaceName : String
  routeType : String
  state : String
  changed : Bool
  inKernel : Bool
  timeoutSeconds : UInt64
deriving DecidableEq, Repr

/-- The prefix length is the number of ones in the mask, wherever they are. -/
def HttpRoute.fromDbEntry (route : RipDbEntry) (state : String) : HttpRoute where
  destination := ipv4ToString route.ripEntry.ipAddress
  prefixLen := UInt32.ofNat (countOnes route.ripEntry.subnetMask.toBitVec)
  netmask := ipv4ToString route.ripEntry.subnetMask
  nextHop := ipv4ToString route.ripEntry.nextHop
  metric := route.ripEntry.metric
  interfaceName := route.ifName
  routeType := if route.isLocal then "local" else "remote"
  state := state
  changed := route.changed
  inKernel := route.inRoutingTable
  timeoutSeconds := route.timeoutCnt

/-- Lexicographic order on destination, prefix length, next hop and interface name. -/
def HttpRoute.compareKeys (a b : HttpRoute) : Ordering :=
  (compare a.destination b.destination).then <|
    (compare a.prefixLen b.prefixLen).then <|
      (compare a.nextHop b.nextHop).then (compare a.interfaceName b.interfaceName)

/-- Active and garbage routes in one list, sorted by a stable sort. -/
def HttpRoute.fromDatabase (database : RipDatabase) : List HttpRoute :=
  let routes :=
    database.okRoutes.values.map (HttpRoute.fromDbEntry · "active") ++
      database.garbageRoutes.values.map (HttpRoute.fromDbEntry · "garbage")
  routes.mergeSort fun a b => (a.compareKeys b).isLE

/-- What the HTTP interface asks of the daemon. -/
inductive HttpRequestKind where
  | getRoutes
  | addLocalRoute (network : AdvertisedNetwork)
deriving DecidableEq, Repr

inductive HttpResponse where
  | routes (routes : List HttpRoute)
  | ok
  | error (message : String)
deriving DecidableEq, Repr

end RipV2.AdminInterface
