import RipV2.Database

namespace RipV2.RoutingTables

open RipV2.BitCounts
open RipV2.Database
open RipV2.EffectLogic
open RipV2.Results

/-- The trait of a driver: each call may fail, and leaves the driver in some state. -/
class RoutingTableDriver (Driver : Type) where
  addRoute : RipDbEntry → EStateM RipError Driver Unit
  deleteRoute : RipDbEntry → EStateM RipError Driver Unit

/-- A driver none of whose calls fails. -/
structure NeverFails (Driver : Type) [RoutingTableDriver Driver] : Prop where
  addRoute : ∀ (route : RipDbEntry) (driver : Driver),
    succeeded ((RoutingTableDriver.addRoute route).run driver) = true
  deleteRoute : ∀ (route : RipDbEntry) (driver : Driver),
    succeeded ((RoutingTableDriver.deleteRoute route).run driver) = true

/-- What a driver can be asked for. -/
inductive DriverCall where
  | add (route : RipDbEntry)
  | delete (route : RipDbEntry)
deriving DecidableEq

def DriverCall.issue {Driver : Type} [RoutingTableDriver Driver] :
    DriverCall → EStateM RipError Driver Unit
  | .add route => RoutingTableDriver.addRoute route
  | .delete route => RoutingTableDriver.deleteRoute route

structure RoutingTable (Driver : Type) where
  driver : Driver

namespace RoutingTable

variable {Driver : Type} [RoutingTableDriver Driver]

def addRoute (route : RipDbEntry) : EStateM RipError (RoutingTable Driver) Unit :=
  zoom driver (fun driver _ => { driver }) (RoutingTableDriver.addRoute route)

def deleteRoute (route : RipDbEntry) : EStateM RipError (RoutingTable Driver) Unit :=
  zoom driver (fun driver _ => { driver }) (RoutingTableDriver.deleteRoute route)

end RoutingTable

/-- Who a route in the kernel is from. -/
inductive RouteProtocol where
  | rip
  | other (code : UInt8)
deriving DecidableEq, Repr

/-- What the kernel is told of a route, to add it or to delete it. -/
structure RouteMessage where
  destination : UInt32
  destinationPrefixLength : UInt8
  gateway : UInt32
  outputInterface : UInt32
  priority : UInt32
  protocol : RouteProtocol
deriving DecidableEq, Repr

def ripRoutePriorityBase : UInt32 := 20

/-- The same route has the same message when it is added and when it is deleted. -/
def buildRouteMessage (route : RipDbEntry) : RouteMessage where
  destination := route.ripEntry.ipAddress
  destinationPrefixLength := UInt8.ofNat (leadingOnes route.ripEntry.subnetMask.toBitVec)
  gateway := route.ripEntry.nextHop
  outputInterface := route.ifIndex
  priority := ripRoutePriorityBase + route.ripEntry.metric
  protocol := .rip

end RipV2.RoutingTables
