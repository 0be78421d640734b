import Mathlib.Data.Finset.Basic
import RipV2.RoutingTables

/-!
The driver that keeps the routes in the system's kernel, and what its calls
mean against a kernel whose table may hold anything.
-/

namespace RipV2.RtNetlinkDriver

open RipV2.Database
open RipV2.EffectLogic
open RipV2.Results
open RipV2.RoutingTables

/-- An error of the netlink library: one that the kernel answered, or another. -/
inductive RtNetlinkError where
  | netlinkError (rawCode : Int) (message : String)
  | other (message : String)
deriving DecidableEq, Repr

def RtNetlinkError.toString : RtNetlinkError → String
  | .netlinkError _ message => message
  | .other message => message

def enoent : Nat := 2

def esrch : Nat := 3

def eexist : Nat := 17

/-- The kernel answers with a negated errno, so signs are dropped. -/
def isNetlinkErrno (error : RtNetlinkError) (errnoValues : List Nat) : Bool :=
  match error with
  | .netlinkError rawCode _ => errnoValues.contains rawCode.natAbs
  | .other _ => false

/-- The two requests that the driver sends: an exclusive create, and a delete. -/
class NetlinkKernel (Kernel : Type) where
  add : RouteMessage → EStateM RtNetlinkError Kernel Unit
  del : RouteMessage → EStateM RtNetlinkError Kernel Unit

/-- `handle` leads to the kernel. -/
structure RtNetlinkRoutingTableDriver (Kernel : Type) where
  handle : Kernel

variable {Kernel : Type} [NetlinkKernel Kernel]

namespace RtNetlinkRoutingTableDriver

/-- A route that exists already counts as added. -/
def addRoute (route : RipDbEntry) :
    EStateM RipError (RtNetlinkRoutingTableDriver Kernel) Unit := fun driver =>
  match (NetlinkKernel.add (buildRouteMessage route)).run driver.handle with
  | .ok () handle => .ok () { handle }
  | .error err handle =>
      if isNetlinkErrno err [eexist] then .ok () { handle }
      else .error (.ioError ("failed to add route: " ++ err.toString)) { handle }

/-- A route that is missing counts as deleted. -/
def deleteRoute (route : RipDbEntry) :
    EStateM RipError (RtNetlinkRoutingTableDriver Kernel) Unit := fun driver =>
  match (NetlinkKernel.del (buildRouteMessage route)).run driver.handle with
  | .ok () handle => .ok () { handle }
  | .error err handle =>
      if isNetlinkErrno err [enoent, esrch] then .ok () { handle }
      else .error (.ioError ("failed to delete route: " ++ err.toString)) { handle }

instance : RoutingTableDriver (RtNetlinkRoutingTableDriver Kernel) where
  addRoute := addRoute
  deleteRoute := deleteRoute

end RtNetlinkRoutingTableDriver

/-- A route of the kernel, by what requests tell routes apart. -/
structure KernelRoute where
  destination : UInt32
  destinationPrefixLength : UInt8
  priority : UInt32
  gateway : UInt32
  outputInterface : UInt32
deriving DecidableEq, Repr

def requested (message : RouteMessage) : KernelRoute where
  destination := message.destination
  destinationPrefixLength := message.destinationPrefixLength
  priority := message.priority
  gateway := message.gateway
  outputInterface := message.outputInterface

/-- The routes compete for one place in the table, whatever their gateways. -/
def SamePlace (a b : KernelRoute) : Prop :=
  a.destination = b.destination ∧ a.destinationPrefixLength = b.destinationPrefixLength ∧
    a.priority = b.priority

instance (a b : KernelRoute) : Decidable (SamePlace a b) :=
  inferInstanceAs (Decidable (_ ∧ _))

def FailsWith (errnoValues : List Nat) (request : EStateM RtNetlinkError Kernel Unit)
    (kernel : Kernel) : Prop :=
  ∃ err kernel', request.run kernel = .error err kernel' ∧ isNetlinkErrno err errnoValues = true

/-- A kernel that creates exclusively and deletes what it is asked to. -/
structure ExclusiveTable (routes : Kernel → Set KernelRoute) : Prop where
  exists_iff : ∀ message kernel, FailsWith [eexist] (NetlinkKernel.add message) kernel ↔
    ∃ route ∈ routes kernel, SamePlace route (requested message)
  absent_iff : ∀ message kernel, FailsWith [enoent, esrch] (NetlinkKernel.del message) kernel ↔
    requested message ∉ routes kernel
  added : ∀ message kernel kernel', (NetlinkKernel.add message).run kernel = .ok () kernel' →
    routes kernel' = insert (requested message) (routes kernel)
  notAdded : ∀ message kernel err kernel',
    (NetlinkKernel.add message).run kernel = .error err kernel' → routes kernel' = routes kernel
  deleted : ∀ message kernel kernel', (NetlinkKernel.del message).run kernel = .ok () kernel' →
    routes kernel' = routes kernel \ {requested message}
  notDeleted : ∀ message kernel err kernel',
    (NetlinkKernel.del message).run kernel = .error err kernel' → routes kernel' = routes kernel

/-- Calls one after the other, each on what the one before has left, whether
that failed or not. -/
def Along (p : RtNetlinkRoutingTableDriver Kernel → DriverCall → Prop) :
    List DriverCall → RtNetlinkRoutingTableDriver Kernel → Prop
  | [], _ => True
  | call :: calls, driver => p driver call ∧ Along p calls (finalState (call.issue.run driver))

/-- The kernel's table has become what a successful call stands for. -/
def KeepsWord (routes : Kernel → Set KernelRoute) (driver : RtNetlinkRoutingTableDriver Kernel)
    (call : DriverCall) : Prop :=
  succeeded (call.issue.run driver) = true →
    match call with
    | .add route => requested (buildRouteMessage route) ∈
        routes (finalState (call.issue.run driver)).handle
    | .delete route => requested (buildRouteMessage route) ∉
        routes (finalState (call.issue.run driver)).handle

/-- The route to be added is not in the table, and its place is taken by one
with another gateway or interface. -/
def PlaceTaken (routes : Kernel → Set KernelRoute) (driver : RtNetlinkRoutingTableDriver Kernel)
    (call : DriverCall) : Prop :=
  ∃ route, call = .add route ∧
    requested (buildRouteMessage route) ∉ routes driver.handle ∧
    ∃ other ∈ routes driver.handle, SamePlace other (requested (buildRouteMessage route))

section Rules

variable {routes : Kernel → Set KernelRoute} (hrules : ExclusiveTable routes)

include hrules

theorem addRoute_keepsWord_iff (driver : RtNetlinkRoutingTableDriver Kernel)
    (route : RipDbEntry) :
    KeepsWord routes driver (.add route) ↔ ¬PlaceTaken routes driver (.add route) := by
  have hexists := hrules.exists_iff (buildRouteMessage route) driver.handle
  have htaken : PlaceTaken routes driver (.add route) ↔
      requested (buildRouteMessage route) ∉ routes driver.handle ∧
        FailsWith [eexist] (NetlinkKernel.add (buildRouteMessage route)) driver.handle := by
    rw [hexists]
    constructor
    · rintro ⟨_, hcall, htaken⟩
      cases hcall
      exact htaken
    · exact fun htaken => ⟨route, rfl, htaken⟩
  rw [htaken, KeepsWord]
  simp only [DriverCall.issue, RoutingTableDriver.addRoute,
    RtNetlinkRoutingTableDriver.addRoute, EStateM.run, FailsWith]
  cases hrun : (NetlinkKernel.add (buildRouteMessage route)).run driver.handle with
  | ok a kernel =>
      have hadded := hrules.added _ _ _ hrun
      simp only [EStateM.run] at hrun
      simp [hrun, hadded]
  | error err kernel =>
      have hkept := hrules.notAdded _ _ _ _ hrun
      simp only [EStateM.run] at hrun
      simp only [hrun]
      cases herrno : isNetlinkErrno err [eexist] <;> simp [hkept, herrno]

theorem deleteRoute_keepsWord (driver : RtNetlinkRoutingTableDriver Kernel)
    (route : RipDbEntry) : KeepsWord routes driver (.delete route) := by
  have habsent := hrules.absent_iff (buildRouteMessage route) driver.handle
  rw [KeepsWord]
  simp only [DriverCall.issue, RoutingTableDriver.deleteRoute,
    RtNetlinkRoutingTableDriver.deleteRoute, EStateM.run]
  cases hrun : (NetlinkKernel.del (buildRouteMessage route)).run driver.handle with
  | ok a kernel =>
      have hdeleted := hrules.deleted _ _ _ hrun
      simp only [EStateM.run] at hrun
      simp [hrun, hdeleted]
  | error err kernel =>
      have hkept := hrules.notDeleted _ _ _ _ hrun
      simp only [FailsWith, hrun] at habsent
      simp only [EStateM.run] at hrun
      simp only [hrun]
      cases herrno : isNetlinkErrno err [enoent, esrch] with
      | false => simp
      | true =>
          intro _
          simp only [if_true, finalState_ok, hkept]
          exact habsent.mp ⟨err, kernel, rfl, herrno⟩

theorem keepsWord_iff (driver : RtNetlinkRoutingTableDriver Kernel) (call : DriverCall) :
    KeepsWord routes driver call ↔ ¬PlaceTaken routes driver call := by
  cases call with
  | add route => exact addRoute_keepsWord_iff hrules driver route
  | delete route =>
      refine iff_of_true (deleteRoute_keepsWord hrules driver route) ?_
      rintro ⟨_, hcall, -⟩
      cases hcall

/-- Whatever the kernel's table holds at first: along a sequence of calls every
success means what it says, just if no route is added whose place is taken by
one with another gateway or interface. -/
theorem calls_keepWord_iff (driver : RtNetlinkRoutingTableDriver Kernel)
    (calls : List DriverCall) :
    Along (KeepsWord routes) calls driver ↔
      Along (fun driver call => ¬PlaceTaken routes driver call) calls driver := by
  induction calls generalizing driver with
  | nil => exact Iff.rfl
  | cons call calls ih => exact and_congr (keepsWord_iff hrules driver call) (ih _)

end Rules

structure TableKernel where
  table : Finset KernelRoute

instance : NetlinkKernel TableKernel where
  add message := fun kernel =>
    if ∃ route ∈ kernel.table, SamePlace route (requested message) then
      .error (.netlinkError (-17) "Received a netlink error message File exists (os error 17)")
        kernel
    else .ok () { table := insert (requested message) kernel.table }
  del message := fun kernel =>
    if requested message ∈ kernel.table then
      .ok () { table := kernel.table.erase (requested message) }
    else
      .error (.netlinkError (-3) "Received a netlink error message No such process (os error 3)")
        kernel

def tableRoutes (kernel : TableKernel) : Set KernelRoute := ↑kernel.table

theorem tableKernel_exclusiveTable : ExclusiveTable tableRoutes where
  exists_iff message kernel := by
    simp only [FailsWith, NetlinkKernel.add, EStateM.run]
    split_ifs with h
    · exact iff_of_true ⟨_, _, rfl, rfl⟩ h
    · exact iff_of_false (by simp) h
  absent_iff message kernel := by
    simp only [FailsWith, NetlinkKernel.del, EStateM.run]
    split_ifs with h
    · exact iff_of_false (by simp) (not_not.mpr h)
    · exact iff_of_true ⟨_, _, rfl, rfl⟩ h
  added message kernel kernel' hrun := by
    simp only [NetlinkKernel.add, EStateM.run] at hrun
    split_ifs at hrun
    obtain rfl := (EStateM.Result.ok.inj hrun).2
    exact Finset.coe_insert _ _
  notAdded message kernel err kernel' hrun := by
    simp only [NetlinkKernel.add, EStateM.run] at hrun
    split_ifs at hrun
    obtain rfl := (EStateM.Result.error.inj hrun).2
    rfl
  deleted message kernel kernel' hrun := by
    simp only [NetlinkKernel.del, EStateM.run] at hrun
    split_ifs at hrun
    obtain rfl := (EStateM.Result.ok.inj hrun).2
    exact Finset.coe_erase _ _
  notDeleted message kernel err kernel' hrun := by
    simp only [NetlinkKernel.del, EStateM.run] at hrun
    split_ifs at hrun
    obtain rfl := (EStateM.Result.error.inj hrun).2
    rfl

/-- A route learned from 10.0.0.1. -/
def learned : RipDbEntry where
  ripEntry := {
    routingFamilyId := 2
    routeTag := 0
    ipAddress := 0x0a000100
    subnetMask := 0xffffff00
    nextHop := 0x0a000001
    metric := 2 }
  ifIndex := 7
  ifName := "eth-test"
  changed := true
  isLocal := false
  inRoutingTable := true
  timeoutCnt := 0
  garbageStartedAt := none

theorem emptyTable_keepsWord :
    Along (KeepsWord tableRoutes) [.add learned, .delete learned]
      { handle := { table := ∅ } } := by
  rw [calls_keepWord_iff tableKernel_exclusiveTable]
  refine ⟨?_, ?_, trivial⟩
  · rintro ⟨route, -, -, other, hother, -⟩
    simp [tableRoutes] at hother
  · rintro ⟨route, hcall, -⟩
    cases hcall

/-- An earlier run has left the route through another gateway: adding it is
reported as a success, and packets keep going there. -/
theorem otherGateway_takes_place :
    ExclusiveTable tableRoutes ∧
      ¬Along (KeepsWord tableRoutes) [.add learned]
        { handle := { table :=
          {{ requested (buildRouteMessage learned) with gateway := 0x0a000002 }} } } := by
  refine ⟨tableKernel_exclusiveTable, fun hkeeps => ?_⟩
  refine (addRoute_keepsWord_iff tableKernel_exclusiveTable _ _).mp hkeeps.1 ⟨learned, rfl, ?_, ?_⟩
  · simp only [tableRoutes, Finset.coe_singleton, Set.mem_singleton_iff]
    decide
  · exact ⟨_, Finset.mem_coe.mpr (Finset.mem_singleton_self _), by decide⟩

end RipV2.RtNetlinkDriver
