import RipV2.Address
import RipV2.HashMapModel
import RipV2.HostEnvironment

namespace RipV2.Database

open RipV2.Address
open RipV2.HashMapModel
open RipV2.HostEnvironment
open RipV2.Packets
open RipV2.Results

/-- Routes are stored by address and mask; neither is cut to the other. -/
structure RipRouteKey where
  ipAddress : UInt32
  subnetMask : UInt32
deriving DecidableEq, Repr

/-- The text of a key in the errors of the database. -/
def RipRouteKey.toString (key : RipRouteKey) : String :=
  "ip_address=" ++ ipv4ToString key.ipAddress ++
    ", subnet_mask=" ++ ipv4ToString key.subnetMask

def buildRouteKey (entry : RipEntry) : RipRouteKey where
  ipAddress := entry.ipAddress
  subnetMask := entry.subnetMask

/-- A route with what the daemon has to know about it: the interface it came in on, its
flags, its age. -/
structure RipDbEntry where
  ripEntry : RipEntry
  ifIndex : UInt32
  ifName : String
  changed : Bool
  isLocal : Bool
  inRoutingTable : Bool
  timeoutCnt : UInt64
  garbageStartedAt : Option Instant
deriving DecidableEq, Repr

/-- Active routes, routes in garbage, and whether any of either has changed since it was
announced. -/
structure RipDatabase where
  okRoutes : HashMap RipRouteKey RipDbEntry
  garbageRoutes : HashMap RipRouteKey RipDbEntry
  anyRouteChanged : Bool

/-- Database operations fail with an error of the daemon, in the state they have
reached by then. -/
abbrev DatabaseM (α : Type) := EStateM RipError RipDatabase α

namespace RipDatabase

def new : RipDatabase where
  okRoutes := .empty
  garbageRoutes := .empty
  anyRouteChanged := false

/-- A destination that is active is refused; whether it is in garbage is not looked up. -/
def addRoute (entry : RipEntry) (ifIndex : UInt32) (ifName : String)
    (changed isLocal inRoutingTable : Bool) : DatabaseM RipDbEntry := fun database =>
  let key := buildRouteKey entry
  let value : RipDbEntry :=
    { ripEntry := entry, ifIndex, ifName, changed, isLocal, inRoutingTable
      timeoutCnt := 0, garbageStartedAt := none }
  match database.okRoutes.lookup key with
  | none =>
      .ok value
        { database with
          okRoutes := database.okRoutes.insert key value
          anyRouteChanged := if value.changed then true else database.anyRouteChanged }
  | some _ =>
      .error (.invalidConfiguration
        ("route already exists in RIP database: " ++ key.toString)) database

/-- A local route counts as changed and is not for the kernel. -/
def addLocalRoute (entry : RipEntry) (ifIndex : UInt32) (ifName : String) : DatabaseM Unit := do
  let changed := true
  let isLocal := true
  let inRoutingTable := false
  let _ ← addRoute entry ifIndex ifName changed isLocal inRoutingTable

/-- A learned route counts as changed and belongs in the kernel. -/
def addRemoteRoute (entry : RipEntry) (ifIndex : UInt32) (ifName : String) :
    DatabaseM RipDbEntry :=
  let changed := true
  let isLocal := false
  let inRoutingTable := true
  addRoute entry ifIndex ifName changed isLocal inRoutingTable

def getRoute (database : RipDatabase) (entry : RipEntry) : Option RipDbEntry :=
  database.okRoutes.lookup (buildRouteKey entry)

/-- Takes the active route, or else the one in garbage. -/
def removeRoute (entry : RipEntry) : DatabaseM RipDbEntry := fun database =>
  let key := buildRouteKey entry
  match database.okRoutes.lookup key with
  | some route => .ok route { database with okRoutes := database.okRoutes.erase key }
  | none =>
      match database.garbageRoutes.lookup key with
      | some route => .ok route { database with garbageRoutes := database.garbageRoutes.erase key }
      | none =>
          .error (.invalidConfiguration
            ("route does not exist in RIP database: " ++ key.toString)) database

/-- Does nothing when the destination is not in garbage. -/
def removeGarbageRoute (entry : RipEntry) (database : RipDatabase) : RipDatabase :=
  { database with garbageRoutes := database.garbageRoutes.erase (buildRouteKey entry) }

def hasGarbageRoute (database : RipDatabase) (entry : RipEntry) : Bool :=
  (database.garbageRoutes.lookup (buildRouteKey entry)).isSome

end RipDatabase

/-- The route with its timeout counter back at zero. -/
def RipDbEntry.refreshed (route : RipDbEntry) : RipDbEntry :=
  { route with timeoutCnt := 0 }

namespace RipDatabase

def refreshRouteTimeout (entry : RipEntry) (database : RipDatabase) : RipDatabase :=
  let key := buildRouteKey entry
  match database.okRoutes.lookup key with
  | some route => { database with okRoutes := database.okRoutes.insert key route.refreshed }
  | none => database

end RipDatabase

/-- `u64::saturating_add` -/
def saturatingAdd64 (a b : UInt64) : UInt64 :=
  if a.toNat + b.toNat < 2 ^ 64 then a + b else 0xffffffffffffffff

/-- What one timeout check does to a route: local routes are not counted. -/
def RipDbEntry.countTimeout (timeoutIncrementSecs : UInt64) (route : RipDbEntry) : RipDbEntry :=
  if route.isLocal then route
  else { route with timeoutCnt := saturatingAdd64 route.timeoutCnt timeoutIncrementSecs }

/-- Local routes never time out. -/
def RipDbEntry.timedOut (timeoutLimitSecs : UInt64) (route : RipDbEntry) : Bool :=
  !route.isLocal && route.timeoutCnt ≥ timeoutLimitSecs

/-- What moving a route to garbage makes of it. -/
def RipDbEntry.toGarbage (garbageStartedAt : Instant) (route : RipDbEntry) : RipDbEntry :=
  { route with
    changed := true
    ripEntry := { route.ripEntry with metric := 16 }
    inRoutingTable := false
    garbageStartedAt := some garbageStartedAt }

/-- A route without a start time stays in garbage. -/
def RipDbEntry.expired (now : Instant) (garbageLifetime : Duration) (route : RipDbEntry) : Bool :=
  match route.garbageStartedAt with
  | none => false
  | some garbageStartedAt => now - garbageStartedAt ≥ garbageLifetime

/-- The route as it is announced when the daemon shuts down. -/
def RipDbEntry.poisoned (route : RipDbEntry) : RipDbEntry :=
  { route with ripEntry := { route.ripEntry with metric := 16 }, changed := true }

def RipDbEntry.unchanged (route : RipDbEntry) : RipDbEntry :=
  { route with changed := false }

/-- What a neighbour is told of a route. -/
def RipDbEntry.advertised (route : RipDbEntry) : RipEntry :=
  { route.ripEntry with nextHop := 0 }

namespace RipDatabase

/-- The first component lists the routes that timed out, in iteration order. -/
def collectTimedOutRoutes (timeoutIncrementSecs timeoutLimitSecs : UInt64)
    (database : RipDatabase) : List RipDbEntry × RipDatabase :=
  let okRoutes := database.okRoutes.mapValues (RipDbEntry.countTimeout timeoutIncrementSecs)
  (okRoutes.values.filter (RipDbEntry.timedOut timeoutLimitSecs), { database with okRoutes })

/-- The active route is taken out first; only then does a route that is in garbage already make it
fail. -/
def moveRouteToGarbage (entry : RipEntry) (garbageStartedAt : Instant) :
    DatabaseM RipDbEntry := fun database =>
  let key := buildRouteKey entry
  match database.okRoutes.lookup key with
  | none =>
      .error (.invalidConfiguration
        ("route does not exist in RIP database: " ++ key.toString)) database
  | some okRoute =>
      let route := okRoute.toGarbage garbageStartedAt
      let database :=
        { database with okRoutes := database.okRoutes.erase key, anyRouteChanged := true }
      -- the second check comes after the route has left `okRoutes`
      match database.garbageRoutes.lookup key with
      | none =>
          .ok route { database with garbageRoutes := database.garbageRoutes.insert key route }
      | some _ =>
          .error (.invalidConfiguration
            ("route already exists in RIP garbage database: " ++ key.toString)) database

/-- The destinations that have been in garbage for the lifetime. -/
def expiredKeys (now : Instant) (garbageLifetime : Duration) (database : RipDatabase) :
    List RipRouteKey :=
  database.garbageRoutes.entries.filterMap fun entry =>
    if entry.2.expired now garbageLifetime then some entry.1 else none

/-- Returns the routes that were removed. -/
def removeExpiredGarbageRoutes (now : Instant) (garbageLifetime : Duration)
    (database : RipDatabase) : List RipDbEntry × RipDatabase :=
  let keys := database.expiredKeys now garbageLifetime
  (keys.filterMap fun key => database.garbageRoutes.lookup key,
    { database with garbageRoutes := database.garbageRoutes.eraseAll keys })

def hasGarbageRoutes (database : RipDatabase) : Bool :=
  !database.garbageRoutes.entries.isEmpty

/-- Both maps are poisoned; an empty database does not count as changed. -/
def poisonAllRoutes (database : RipDatabase) : RipDatabase :=
  if database.okRoutes.entries.isEmpty && database.garbageRoutes.entries.isEmpty then database
  else
    { okRoutes := database.okRoutes.mapValues RipDbEntry.poisoned
      garbageRoutes := database.garbageRoutes.mapValues RipDbEntry.poisoned
      anyRouteChanged := true }

/-- Active routes first, then garbage, each in its map's iteration order. -/
def allRoutes (database : RipDatabase) : List RipDbEntry :=
  database.okRoutes.values ++ database.garbageRoutes.values

/-- The routes that the kernel is to have. -/
def getRoutesInRoutingTable (database : RipDatabase) : List RipDbEntry :=
  database.allRoutes.filter fun route => route.inRoutingTable

/-- Split horizon: what came in on an interface is not announced on it. A triggered update is cut
to what has changed. -/
def getRoutesForAdvertisement (database : RipDatabase) (targetIfIndex : UInt32)
    (changedOnly : Bool) : List RipEntry :=
  let selected := database.allRoutes.filter fun route =>
    if changedOnly && !route.changed then false
    else route.ifIndex != targetIfIndex
  selected.map RipDbEntry.advertised

/-- Nothing is looked at unless the database is flagged. -/
def markAllRoutesAsUnchanged (database : RipDatabase) : RipDatabase :=
  if !database.anyRouteChanged then database
  else
    { okRoutes := database.okRoutes.mapValues RipDbEntry.unchanged
      garbageRoutes := database.garbageRoutes.mapValues RipDbEntry.unchanged
      anyRouteChanged := false }

/-- The same routes under any iteration order of the two maps. -/
structure Reordered (database database' : RipDatabase) : Prop where
  okRoutes : database.okRoutes.Reordered database'.okRoutes
  garbageRoutes : database.garbageRoutes.Reordered database'.garbageRoutes
  anyRouteChanged : database.anyRouteChanged = database'.anyRouteChanged

theorem Reordered.refl (database : RipDatabase) : Reordered database database :=
  ⟨.refl _, .refl _, rfl⟩

theorem mem_allRoutes_iff {database : RipDatabase} {route : RipDbEntry} :
    route ∈ database.allRoutes ↔
      (∃ key, database.okRoutes.lookup key = some route) ∨
        ∃ key, database.garbageRoutes.lookup key = some route := by
  rw [allRoutes, List.mem_append, HashMap.mem_values_iff, HashMap.mem_values_iff]

theorem mem_getRoutesForAdvertisement_iff {database : RipDatabase} {targetIfIndex : UInt32}
    {changedOnly : Bool} {entry : RipEntry} :
    entry ∈ database.getRoutesForAdvertisement targetIfIndex changedOnly ↔
      ∃ route ∈ database.allRoutes, (changedOnly = true → route.changed = true) ∧
        route.ifIndex ≠ targetIfIndex ∧ route.advertised = entry := by
  simp only [getRoutesForAdvertisement, List.mem_map, List.mem_filter]
  constructor
  · rintro ⟨route, ⟨hmem, hselected⟩, rfl⟩
    refine ⟨route, hmem, ?_⟩
    split_ifs at hselected with hskip
    simp only [Bool.and_eq_true, Bool.not_eq_true', not_and, Bool.not_eq_false] at hskip
    exact ⟨hskip, by simpa using hselected, rfl⟩
  · rintro ⟨route, hmem, hchanged, hindex, rfl⟩
    refine ⟨route, ⟨hmem, ?_⟩, rfl⟩
    rw [if_neg (by simpa using hchanged)]
    simpa using hindex

end RipDatabase

end RipV2.Database
