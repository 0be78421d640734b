import RipV2.PartialImages
import RipV2.ReachableRoutes

namespace RipV2.KernelRoutes

open RipV2.Address
open RipV2.Database
open RipV2.Deamon
open RipV2.Deamon.RipDeamon
open RipV2.DeamonRuns
open RipV2.DeamonSimulation
open RipV2.DestinationSlots
open RipV2.EffectLogic
open RipV2.HostEnvironment
open RipV2.LocalRoutes
open RipV2.Packets
open RipV2.PartialImages
open RipV2.ReachableRoutes
open RipV2.ResponseEntries
open RipV2.Results
open RipV2.RoutingTables
open RipV2.TransitionRuns
open RipV2.Updater

/-- A message added to the kernel, and the routes it held at that moment. -/
structure KernelAdd where
  message : RouteMessage
  routes : Finset RouteMessage

/-- The kernel's RIP routes, with the adds issued so far. -/
structure Kernel where
  routes : Finset RouteMessage
  adds : List KernelAdd

def Kernel.empty : Kernel where
  routes := ∅
  adds := []

/-- An add, put on record with the routes that the kernel had before it. -/
def Kernel.added (message : RouteMessage) (kernel : Kernel) : Kernel where
  routes := insert message kernel.routes
  adds := kernel.adds ++ [{ message, routes := kernel.routes }]

/-- A delete of a route that the kernel does not have changes nothing. -/
def Kernel.deleted (message : RouteMessage) (kernel : Kernel) : Kernel where
  routes := kernel.routes.erase message
  adds := kernel.adds

instance : RoutingTableDriver Kernel where
  addRoute route := modify (Kernel.added (buildRouteMessage route))
  deleteRoute route := modify (Kernel.deleted (buildRouteMessage route))

theorem kernel_neverFails : NeverFails Kernel :=
  ⟨fun _ _ => rfl, fun _ _ => rfl⟩

/-- The two messages are for the same address and prefix length. -/
def SameDestination (m m' : RouteMessage) : Prop :=
  m.destination = m'.destination ∧ m.destinationPrefixLength = m'.destinationPrefixLength

/-- The message of the route that a destination has in the routing table. -/
def message? (s : Slot) : Option RouteMessage :=
  s.active.bind fun route =>
    if route.inRoutingTable then some (buildRouteMessage route) else none

/-- The message of each destination that is to be in the kernel. -/
def messages (database : RipDatabase) (key : RipRouteKey) : Option RouteMessage :=
  message? (slot database key)

theorem message_eq {s : Slot} {m : RouteMessage} (h : message? s = some m) :
    ∃ route, s.active = some route ∧ route.inRoutingTable = true ∧
      buildRouteMessage route = m := by
  obtain ⟨route, hactive, hm⟩ := Option.bind_eq_some_iff.mp h
  rw [Option.ite_none_right_eq_some] at hm
  exact ⟨route, hactive, hm.1, Option.some.inj hm.2⟩

theorem key_eq_of_sameDestination {key key' : RipRouteKey} {route route' : RipDbEntry}
    (hroute : ActiveRoute key route) (hroute' : ActiveRoute key' route')
    (hsame : SameDestination (buildRouteMessage route) (buildRouteMessage route')) :
    key = key' := by
  obtain ⟨p, hp⟩ := hroute.contiguous
  obtain ⟨q, hq⟩ := hroute'.contiguous
  have hkey := hroute.keyed
  have hkey' := hroute'.keyed
  subst hkey
  subst hkey'
  obtain ⟨haddress, hlength⟩ := hsame
  have hbytes : UInt8.ofNat p = UInt8.ofNat q := by
    rw [← hp.leadingOnes_eq, ← hq.leadingOnes_eq]
    exact hlength
  have hpq : p = q := by
    have h := congrArg UInt8.toNat hbytes
    rw [UInt8.toNat_ofNat', UInt8.toNat_ofNat'] at h
    have hp32 := hp.1
    have hq32 := hq.1
    omega
  have hmask := mask_eq_of_leadingOnes_eq hp hq (by rw [hp.leadingOnes_eq, hq.leadingOnes_eq, hpq])
  simp only [buildRouteKey, RipRouteKey.mk.injEq] at hmask ⊢
  exact ⟨haddress, hmask⟩

theorem message_map {s s' : Slot} {f : RipDbEntry → RipDbEntry}
    (hf : ∀ route, SameRoute route (f route)) (h : s'.active = s.active.map f) :
    message? s' = message? s := by
  rw [message?, message?, h]
  cases hactive : s.active with
  | none => rfl
  | some route =>
      have hsame := hf route
      simp only [Option.map_some, Option.bind_some, buildRouteMessage, hsame.inRoutingTable,
        hsame.ripEntry, hsame.ifIndex]

theorem messages_learn {database : RipDatabase} (entry : RipEntry) (ifInfo : RipIfInfo) :
    messages (learn entry ifInfo database) = Function.update (messages database)
      (buildRouteKey entry) (some (buildRouteMessage (learnedRoute entry ifInfo))) := by
  funext key
  rw [messages, slot_learn, Function.update_apply]
  split_ifs <;> rfl

theorem messages_replace {database : RipDatabase} (entry : RipEntry) (ifInfo : RipIfInfo) :
    messages (replace entry ifInfo database) = Function.update (messages database)
      (buildRouteKey entry) (some (buildRouteMessage (learnedRoute entry ifInfo))) := by
  funext key
  rw [messages, slot_replace, Function.update_apply]
  split_ifs <;> rfl

theorem messages_toGarbage {database : RipDatabase} (key : RipRouteKey) (route : RipDbEntry)
    (now : Instant) :
    messages (toGarbage key route now database) =
      Function.update (messages database) key none := by
  funext key'
  rw [messages, slot_toGarbage, Function.update_apply]
  split_ifs <;> rfl

theorem messages_refreshRouteTimeout {database : RipDatabase} (entry : RipEntry) :
    messages (database.refreshRouteTimeout entry) = messages database := by
  funext key
  rw [messages, slot_refreshRouteTimeout]
  split_ifs
  · exact message_map sameRoute_refreshed rfl
  · rfl

theorem update_messages_none {database : RipDatabase} {entry : RipEntry}
    (h : database.okRoutes.lookup (buildRouteKey entry) = none) :
    Function.update (messages database) (buildRouteKey entry) none = messages database := by
  rw [Function.update_eq_self_iff, messages, slot, h]
  rfl

theorem message_of_active {database : RipDatabase} {key : RipRouteKey} {route : RipDbEntry}
    (hwell : ∀ key, WellFormed key (slot database key))
    (hactive : database.okRoutes.lookup key = some route) :
    (∀ m, messages database key = some m → m = buildRouteMessage route) ∧
      ∀ key', messages database key' = some (buildRouteMessage route) → key' = key := by
  constructor
  · intro m hm
    obtain ⟨route', hactive', -, rfl⟩ := message_eq hm
    rw [Option.some.inj (hactive.symm.trans hactive')]
  · intro key' hm
    obtain ⟨route', hactive', -, hmessage⟩ := message_eq hm
    refine key_eq_of_sameDestination ((hwell key').active route' hactive')
      ((hwell key).active route hactive) ?_
    rw [hmessage]
    exact ⟨rfl, rfl⟩

theorem learned_message_free {database : RipDatabase} {entry : RipEntry} {ifInfo : RipIfInfo}
    (hwell : ∀ key, WellFormed key (slot database key))
    (hlearned : ActiveRoute (buildRouteKey entry) (learnedRoute entry ifInfo))
    {key : RipRouteKey} {m : RouteMessage}
    (hm : Function.update (messages database) (buildRouteKey entry) none key = some m)
    (hsame : SameDestination m (buildRouteMessage (learnedRoute entry ifInfo))) :
    key = buildRouteKey entry := by
  rw [Function.update_apply] at hm
  split_ifs at hm
  obtain ⟨route, hactive, -, rfl⟩ := message_eq hm
  exact key_eq_of_sameDestination ((hwell key).active route hactive) hlearned hsame

theorem messages_reordered {database database' : RipDatabase}
    (h : database.Reordered database') : messages database' = messages database := by
  funext key
  rw [messages, messages, slot_reordered h key]

theorem refreshRouteTimeout_wellFormed {database : RipDatabase} (entry : RipEntry)
    (hwell : ∀ key, WellFormed key (slot database key)) (key : RipRouteKey) :
    WellFormed key (slot (database.refreshRouteTimeout entry) key) := by
  rw [slot_refreshRouteTimeout]
  split_ifs
  · refine ⟨fun route hroute => ?_, (hwell key).garbage⟩
    obtain ⟨old, hold, rfl⟩ := Option.map_eq_some_iff.mp hroute
    exact ((hwell key).active old hold).congr (sameRoute_refreshed old)
  · exact hwell key

/-- The events whose handlers move routes between the tables. -/
def MovesRoutes : DeamonEvent → Prop
  | .received packet => accepted packet = true
  | .routeTimeoutTick _ => True
  | _ => False

section

variable {Driver : Type}

theorem messages_timeoutCheck (deamon : RipDeamon Driver) :
    messages (timeoutCheck deamon).2 = messages deamon.database := by
  funext key
  rw [messages, timeoutCheck, slot_collectTimedOutRoutes]
  exact message_map (sameRoute_countTimeout _) rfl

theorem messages_garbageCollection (deamon : RipDeamon Driver) :
    messages (garbageCollection deamon) = messages deamon.database := by
  funext key
  rw [messages, garbageCollection, slot_removeExpiredGarbageRoutes]
  split_ifs <;> rfl

theorem messages_markAllRoutesAsUnchanged (database : RipDatabase) :
    messages database.markAllRoutesAsUnchanged = messages database := by
  funext key
  rw [messages, slot_markAllRoutesAsUnchanged]
  split_ifs
  · exact message_map sameRoute_unchanged rfl
  · rfl

theorem messages_adopt {database : RipDatabase} {localRoute : LocalRoute}
    (hfree : database.okRoutes.lookup (buildRouteKey localRoute.entry) = none) :
    messages (adopt localRoute database) = messages database := by
  funext key
  rw [messages, slot_adopt]
  split_ifs with hkey
  · rw [hkey, messages, message?, message?, slot_active, hfree]
    rfl
  · rfl

variable [RoutingTableDriver Driver]

theorem handle_addsNetwork_unrouted {event : DeamonEvent} {network : AdvertisedNetwork}
    (hadds : AddsNetwork network event) (deamon : RipDeamon Driver) :
    let deamon' := finalState (event.handle.run deamon)
    messages deamon'.database = messages deamon.database ∧
      deamon'.routingTable = deamon.routingTable := by
  intro deamon'
  rcases handle_addsNetwork_cases hadds deamon with
    ⟨hsame, -⟩ | ⟨localRoute, -, hfree, hadopted⟩
  · simp only [deamon', hsame]
    exact ⟨trivial, trivial⟩
  · simp only [deamon', hadopted]
    exact ⟨messages_adopt hfree, trivial⟩

theorem handle_unrouted {event : DeamonEvent} (hevent : ¬MovesRoutes event)
    (deamon : RipDeamon Driver) :
    let deamon' := finalState (event.handle.run deamon)
    messages deamon'.database = messages deamon.database ∧
      deamon'.routingTable = deamon.routingTable := by
  cases event with
  | addLocalRoute network => exact handle_addsNetwork_unrouted (.inl rfl) deamon
  | httpRequest kind =>
      cases kind with
      | getRoutes => exact ⟨rfl, rfl⟩
      | addLocalRoute network => exact handle_addsNetwork_unrouted (.inr rfl) deamon
  | received packet =>
      obtain ⟨htable, -, hdatabase⟩ := handlePacket_hostOnly (by simpa [MovesRoutes] using hevent)
        deamon
      exact ⟨congrArg messages hdatabase, htable⟩
  | routeTimeoutTick timer => exact absurd trivial hevent
  | garbageCollectionTick timer =>
      simp only [DeamonEvent.handle, finalState_discard, handleGarbageCollectionTick_run,
        finalState_ok]
      exact ⟨messages_garbageCollection deamon, trivial⟩
  | advertise changedOnly =>
      simp only [DeamonEvent.handle, sendMulticastAdvertisement_run]
      cases (ripSendAdvertisementMulticast deamon.database deamon.interfaces changedOnly).run
          deamon.host with
      | ok a host => exact ⟨messages_markAllRoutesAsUnchanged deamon.database, rfl⟩
      | error e host => exact ⟨rfl, rfl⟩
  | sendRequests =>
      obtain ⟨htable, -, hdatabase⟩ := sendMulticastRequest_hostOnly deamon
      exact ⟨congrArg messages hdatabase, htable⟩

theorem addRoute_cases (route : RipDbEntry) (deamon : RipDeamon Driver) :
    (∃ driver, (RoutingTableDriver.addRoute route).run deamon.routingTable.driver =
        .ok () driver ∧
      (addRoute route).run deamon = .ok () { deamon with routingTable := { driver } }) ∨
    ∃ e driver, (RoutingTableDriver.addRoute route).run deamon.routingTable.driver =
        .error e driver ∧
      (addRoute route).run deamon = .error e { deamon with routingTable := { driver } } := by
  simp only [addRoute, onRoutingTable, RoutingTable.addRoute, run_zoom]
  cases (RoutingTableDriver.addRoute route).run deamon.routingTable.driver with
  | ok a driver => exact .inl ⟨driver, rfl, rfl⟩
  | error e driver => exact .inr ⟨e, driver, rfl, rfl⟩

theorem deleteRoute_cases (route : RipDbEntry) (deamon : RipDeamon Driver) :
    (∃ driver, (RoutingTableDriver.deleteRoute route).run deamon.routingTable.driver =
        .ok () driver ∧
      (deleteRoute route).run deamon = .ok () { deamon with routingTable := { driver } }) ∨
    ∃ e driver, (RoutingTableDriver.deleteRoute route).run deamon.routingTable.driver =
        .error e driver ∧
      (deleteRoute route).run deamon = .error e { deamon with routingTable := { driver } } := by
  simp only [deleteRoute, onRoutingTable, RoutingTable.deleteRoute, run_zoom]
  cases (RoutingTableDriver.deleteRoute route).run deamon.routingTable.driver with
  | ok a driver => exact .inl ⟨driver, rfl, rfl⟩
  | error e driver => exact .inr ⟨e, driver, rfl, rfl⟩

/-- What relates the messages of a database to its driver, when each call comes
with its change of the database. The change that goes with an add is made even
where the driver refuses. -/
structure FollowsCalls (R : (RipRouteKey → Option RouteMessage) → Driver → Prop) : Prop where
  deleted : ∀ {f : RipRouteKey → Option RouteMessage} {key : RipRouteKey} {route : RipDbEntry}
    {driver driver' : Driver}, R f driver →
    (∀ m, f key = some m → m = buildRouteMessage route) →
    (∀ key', f key' = some (buildRouteMessage route) → key' = key) →
    (RoutingTableDriver.deleteRoute route).run driver = .ok () driver' →
    R (Function.update f key none) driver'
  notDeleted : ∀ {f : RipRouteKey → Option RouteMessage} {route : RipDbEntry} {e : RipError}
    {driver driver' : Driver}, R f driver →
    (RoutingTableDriver.deleteRoute route).run driver = .error e driver' → R f driver'
  added : ∀ {f : RipRouteKey → Option RouteMessage} {route : RipDbEntry} {driver : Driver},
    R f driver → f (buildRouteKey route.ripEntry) = none →
    (∀ key m, f key = some m → SameDestination m (buildRouteMessage route) →
      key = buildRouteKey route.ripEntry) →
    R (Function.update f (buildRouteKey route.ripEntry) (some (buildRouteMessage route)))
      (finalState ((RoutingTableDriver.addRoute route).run driver))

/-- The priorities of the routes with a finite metric. -/
def RipPriority (priority : UInt32) : Prop :=
  ripRoutePriorityBase < priority ∧ priority < ripRoutePriorityBase + ripInfinityMetric

omit [RoutingTableDriver Driver] in
theorem ripPriority_of_active {key : RipRouteKey} {route : RipDbEntry}
    (h : ActiveRoute key route) : RipPriority (buildRouteMessage route).priority := by
  have hmetric : 1 ≤ route.ripEntry.metric ∧ route.ripEntry.metric < 16 := by
    cases hlocal : route.isLocal with
    | true =>
        rw [(h.isLocal hlocal).1]
        decide
    | false =>
        obtain ⟨hmetric, hfinite, -⟩ := h.learned hlocal
        exact ⟨UInt32.le_trans (by decide : (1 : UInt32) ≤ 2) hmetric, hfinite⟩
  obtain ⟨hpositive, hfinite⟩ := hmetric
  rw [UInt32.le_iff_toNat_le] at hpositive
  rw [UInt32.lt_iff_toNat_lt] at hfinite
  simp only [RipPriority, buildRouteMessage, ripRoutePriorityBase, ripInfinityMetric,
    UInt32.lt_iff_toNat_lt, UInt32.toNat_add]
  constructor <;> simp at hpositive hfinite ⊢ <;> omega

/-- The same of calls for routes with a finite metric. -/
structure FollowsFinite (R : (RipRouteKey → Option RouteMessage) → Driver → Prop) : Prop where
  deleted : ∀ {f : RipRouteKey → Option RouteMessage} {key : RipRouteKey} {route : RipDbEntry}
    {driver driver' : Driver}, R f driver → RipPriority (buildRouteMessage route).priority →
    (∀ m, f key = some m → m = buildRouteMessage route) →
    (∀ key', f key' = some (buildRouteMessage route) → key' = key) →
    (RoutingTableDriver.deleteRoute route).run driver = .ok () driver' →
    R (Function.update f key none) driver'
  notDeleted : ∀ {f : RipRouteKey → Option RouteMessage} {route : RipDbEntry} {e : RipError}
    {driver driver' : Driver}, R f driver →
    (RoutingTableDriver.deleteRoute route).run driver = .error e driver' → R f driver'
  added : ∀ {f : RipRouteKey → Option RouteMessage} {route : RipDbEntry} {driver : Driver},
    R f driver → RipPriority (buildRouteMessage route).priority →
    f (buildRouteKey route.ripEntry) = none →
    (∀ key m, f key = some m → SameDestination m (buildRouteMessage route) →
      key = buildRouteKey route.ripEntry) →
    R (Function.update f (buildRouteKey route.ripEntry) (some (buildRouteMessage route)))
      (finalState ((RoutingTableDriver.addRoute route).run driver))

theorem FollowsCalls.followsFinite {R : (RipRouteKey → Option RouteMessage) → Driver → Prop}
    (hR : FollowsCalls R) : FollowsFinite R where
  deleted h _ := hR.deleted h
  notDeleted h := hR.notDeleted h
  added h _ := hR.added h

/-- The database and its driver are related, and the routes well formed. -/
structure Following (R : (RipRouteKey → Option RouteMessage) → Driver → Prop)
    (deamon : RipDeamon Driver) : Prop where
  wellFormed : ∀ key, WellFormed key (slot deamon.database key)
  related : R (messages deamon.database) deamon.routingTable.driver

section Rules

variable {R : (RipRouteKey → Option RouteMessage) → Driver → Prop}

theorem FollowsFinite.addRoute (hR : FollowsFinite R) {database : RipDatabase} {entry : RipEntry}
    {ifInfo : RipIfInfo} (hwell : ∀ key, WellFormed key (slot database key))
    (hlearned : ActiveRoute (buildRouteKey entry) (learnedRoute entry ifInfo))
    (deamon : RipDeamon Driver)
    (hmessages : messages deamon.database = Function.update (messages database)
      (buildRouteKey entry) (some (buildRouteMessage (learnedRoute entry ifInfo))))
    (h : R (Function.update (messages database) (buildRouteKey entry) none)
      deamon.routingTable.driver) :
    let deamon' := finalState ((addRoute (learnedRoute entry ifInfo)).run deamon)
    R (messages deamon'.database) deamon'.routingTable.driver := by
  intro deamon'
  have hkey : buildRouteKey (learnedRoute entry ifInfo).ripEntry = buildRouteKey entry := rfl
  have hadded := hR.added h (ripPriority_of_active hlearned) (hkey ▸ Function.update_self _ _ _)
    fun key m hm hsame => learned_message_free hwell hlearned hm hsame
  rw [hkey, Function.update_idem] at hadded
  have hdeamon' : deamon'.database = deamon.database ∧ deamon'.routingTable.driver = finalState
      ((RoutingTableDriver.addRoute (learnedRoute entry ifInfo)).run
        deamon.routingTable.driver) := by
    rcases addRoute_cases (learnedRoute entry ifInfo) deamon with
      ⟨driver, hissue, hrun⟩ | ⟨e, driver, hissue, hrun⟩ <;>
      (simp only [deamon', hrun, hissue]; exact ⟨rfl, rfl⟩)
  rw [hdeamon'.1, hdeamon'.2, hmessages]
  exact hadded

theorem FollowsFinite.swap (hR : FollowsFinite R) (deamon : RipDeamon Driver)
    {oldRoute : RipDbEntry} (route : RipDbEntry) {entry : RipEntry} {ifInfo : RipIfInfo}
    (h : Following R deamon)
    (hlearned : ActiveRoute (buildRouteKey entry) (learnedRoute entry ifInfo))
    (hactive : deamon.database.okRoutes.lookup (buildRouteKey entry) = some route)
    (hmessage : buildRouteMessage route = buildRouteMessage oldRoute) :
    let deamon' := finalState ((swap oldRoute entry ifInfo).run deamon)
    R (messages deamon'.database) deamon'.routingTable.driver := by
  intro deamon'
  obtain ⟨hown, hother⟩ := message_of_active h.wellFormed hactive
  have hpriority := ripPriority_of_active (h.wellFormed _ |>.active route hactive)
  rw [hmessage] at hown hother hpriority
  simp only [deamon', ResponseEntries.swap, EStateM.run_bind]
  rcases deleteRoute_cases oldRoute deamon with ⟨driver, hissue, hrun⟩ | ⟨e, driver, hissue, hrun⟩
  · rw [hrun]
    simp only [modifyDatabase, EStateM.run_modify]
    exact hR.addRoute h.wellFormed hlearned { deamon with
      routingTable := { driver }, database := replace entry ifInfo deamon.database }
      (messages_replace entry ifInfo) (hR.deleted h.related hpriority hown hother hissue)
  · rw [hrun]
    exact hR.notDeleted h.related hissue

theorem FollowsFinite.expireRoute (hR : FollowsFinite R) {deamon : RipDeamon Driver}
    {oldRoute : RipDbEntry} (h : Following R deamon)
    (hactive : deamon.database.okRoutes.lookup (buildRouteKey oldRoute.ripEntry) =
      some oldRoute) :
    let deamon' := finalState ((expireRoute oldRoute).run deamon)
    R (messages deamon'.database) deamon'.routingTable.driver := by
  intro deamon'
  obtain ⟨hown, hother⟩ := message_of_active h.wellFormed hactive
  have hpriority := ripPriority_of_active (h.wellFormed _ |>.active oldRoute hactive)
  simp only [deamon', RipDeamon.expireRoute, EStateM.run_bind]
  rcases deleteRoute_cases oldRoute deamon with ⟨driver, hissue, hrun⟩ | ⟨e, driver, hissue, hrun⟩
  · rw [hrun]
    simp only [onHost, onDatabase, run_zoom, run_instantNow]
    have hmove := (moveRouteToGarbage_run deamon.host.answers.instants.head hactive).1
    have hrelated := hR.deleted h.related hpriority hown hother hissue
    rw [← messages_toGarbage _ oldRoute deamon.host.answers.instants.head, ← hmove] at hrelated
    cases hmoved : (RipDatabase.moveRouteToGarbage oldRoute.ripEntry
        deamon.host.answers.instants.head).run deamon.database <;>
      (rw [hmoved] at hrelated; exact hrelated)
  · rw [hrun]
    exact hR.notDeleted h.related hissue

theorem FollowsFinite.updateRouteFromResponse (hR : FollowsFinite R) {deamon : RipDeamon Driver}
    (event : DeamonEvent) {entry : RipEntry} {ifInfo : RipIfInfo} (h : Following R deamon)
    (hentry : FromPacket event (buildRouteKey entry) entry ifInfo) :
    let deamon' := finalState ((updateRouteFromResponse entry ifInfo).run deamon)
    R (messages deamon'.database) deamon'.routingTable.driver := by
  intro deamon'
  have hkeys := keysMatch_of_wellFormed h.wellFormed
  cases hverdict : verdict (deamon.database.getRoute entry) entry ifInfo with
  | ignore =>
      simp only [deamon', updateRouteFromResponse_ignore hverdict]
      exact h.related
  | refresh oldRoute =>
      simp only [deamon', updateRouteFromResponse_refresh hverdict, finalState_ok,
        messages_refreshRouteTimeout]
      exact h.related
  | learn =>
      obtain ⟨hnone, hmetric⟩ := verdict_learn hverdict
      simp only [deamon', updateRouteFromResponse_learn hverdict]
      apply hR.addRoute h.wellFormed (learnedRoute_activeRoute hentry hmetric)
        { deamon with database := learn entry ifInfo deamon.database }
        (messages_learn entry ifInfo)
      rw [update_messages_none hnone]
      exact h.related
  | update oldRoute =>
      obtain ⟨hroute, hmetric, -⟩ := verdict_update hverdict
      simp only [deamon', updateRouteFromResponse_update hkeys hverdict]
      refine hR.swap { deamon with database := deamon.database.refreshRouteTimeout entry }
        oldRoute.refreshed ⟨refreshRouteTimeout_wellFormed entry h.wellFormed, ?_⟩
        (learnedRoute_activeRoute hentry hmetric) (lookup_refreshRouteTimeout hroute) rfl
      rw [messages_refreshRouteTimeout]
      exact h.related
  | switch oldRoute =>
      obtain ⟨hroute, hmetric, -, -⟩ := verdict_switch hverdict
      simp only [deamon', updateRouteFromResponse_switch hkeys hverdict]
      exact hR.swap deamon oldRoute h (learnedRoute_activeRoute hentry hmetric) hroute rfl
  | poison oldRoute =>
      obtain ⟨hroute, -, -⟩ := verdict_poison hverdict
      simp only [deamon', updateRouteFromResponse_poison hverdict]
      exact hR.expireRoute h (hkeys.lookup_eq hroute)

theorem FollowsFinite.handleResponseEntry (hR : FollowsFinite R) {packet : RipPacket}
    {raw : RipEntry} {deamon : RipDeamon Driver} (haccepted : accepted packet = true)
    (hraw : raw ∈ packet.data.entries) (h : Following R deamon) :
    Following R (finalState ((handleResponseEntry packet raw).run deamon)) := by
  have hsimulated := handleResponseEntry_simulated deamon.host.answers haccepted hraw
    (keysMatch_of_wellFormed h.wellFormed)
  refine ⟨simulated_wellFormed hsimulated h.wellFormed, ?_⟩
  cases hentry : responseEntryToRoute raw packet with
  | none =>
      rw [handleResponseEntry_of_none hentry]
      exact h.related
  | some entry =>
      rw [handleResponseEntry_of_some hentry]
      exact hR.updateRouteFromResponse (.received packet) h
        ⟨rfl, packet, raw, rfl, haccepted, hraw, hentry, rfl⟩

theorem FollowsFinite.handleResponseEntries (hR : FollowsFinite R) {packet : RipPacket}
    (haccepted : accepted packet = true) {entries : List RipEntry}
    (hentries : ∀ raw ∈ entries, raw ∈ packet.data.entries) {deamon : RipDeamon Driver}
    (h : Following R deamon) :
    Following R (finalState ((entries.forM (RipDeamon.handleResponseEntry packet)).run
      deamon)) := by
  apply keeps_forM _ h
  intro raw hmem deamon₁ h₁
  exact hR.handleResponseEntry haccepted (hentries raw hmem) h₁

omit [RoutingTableDriver Driver] in
theorem toGarbage_wellFormed {answers : Answers} {route : RipDbEntry} {database : RipDatabase}
    (hwell : ∀ key, WellFormed key (slot database key))
    (htimedOut : route.timedOut (routeTimeoutSecs answers) = true)
    (hactive : database.okRoutes.lookup (buildRouteKey route.ripEntry) = some route)
    (now : Instant) (key : RipRouteKey) :
    WellFormed key (slot (toGarbage (buildRouteKey route.ripEntry) route now database) key) :=
  simulated_wellFormed (toGarbage_simulated none true htimedOut hactive now) hwell key

theorem FollowsFinite.expireRoutes (hR : FollowsFinite R) (answers : Answers)
    (routes : List RipDbEntry)
    (htimedOut : ∀ route ∈ routes, route.timedOut (routeTimeoutSecs answers) = true)
    {deamon : RipDeamon Driver} (hlisted : Listed deamon.database routes)
    (h : Following R deamon) :
    let deamon' := finalState ((routes.forM RipDeamon.expireRoute).run deamon)
    R (messages deamon'.database) deamon'.routingTable.driver := by
  induction routes generalizing deamon with
  | nil => exact h.related
  | cons route routes ih =>
      have hactive := hlisted.2 route (by simp)
      have hrelated := hR.expireRoute h hactive
      simp only [List.forM_eq_forM, List.forM_cons, EStateM.run_bind]
      cases hrun : (RipDeamon.expireRoute route).run deamon with
      | error e deamon₁ =>
          rw [hrun] at hrelated
          exact hrelated
      | ok a deamon₁ =>
          rw [hrun] at hrelated
          obtain ⟨now, hdatabase, -, hlisted₁⟩ := hlisted.expired hrun
          have hwell := toGarbage_wellFormed h.wellFormed (htimedOut route (by simp)) hactive now
          rw [← hdatabase] at hwell
          exact ih (fun other hmem => htimedOut other (by simp [hmem])) hlisted₁
            ⟨hwell, hrelated⟩

theorem FollowsFinite.handle (hR : FollowsFinite R) (event : DeamonEvent)
    {deamon : RipDeamon Driver} (h : Following R deamon) :
    Following R (finalState (event.handle.run deamon)) := by
  have hkeys := keysMatch_of_wellFormed h.wellFormed
  refine ⟨simulated_wellFormed (handle_simulated event deamon hkeys) h.wellFormed, ?_⟩
  by_cases hevent : MovesRoutes event
  · cases event with
    | received packet =>
        simp only [DeamonEvent.handle]
        rw [handlePacket_run_of_accepted hevent]
        exact (hR.handleResponseEntries hevent (fun _ hraw => hraw) h).related
    | routeTimeoutTick timer =>
        have hcounted := simulated_wellFormed (timeoutCheck_simulated timer true deamon)
          h.wellFormed
        have hexpired := hR.expireRoutes deamon.host.answers (timeoutCheck deamon).1
          (fun route hmem => (List.mem_filter.mp hmem).2)
          (listed_timedOutRoutes (keysMatch_of_wellFormed hcounted) _)
          (show Following R { deamon with database := (timeoutCheck deamon).2 } from
            ⟨hcounted, messages_timeoutCheck deamon ▸ h.related⟩)
        simp only [DeamonEvent.handle, finalState_discard, handleRouteTimeoutTick_run]
        cases hrun : ((timeoutCheck deamon).1.forM RipDeamon.expireRoute).run
            { deamon with database := (timeoutCheck deamon).2 } <;>
          (rw [hrun] at hexpired; exact hexpired)
    | _ => exact absurd hevent id
  · obtain ⟨hmessages, htable⟩ := handle_unrouted hevent deamon
    rw [hmessages, htable]
    exact h.related

omit [RoutingTableDriver Driver] in
theorem Following.resumes {deamon deamon₀ : RipDeamon Driver} {answers : Answers}
    (h : Following R deamon) (hresumes : Resumes answers deamon deamon₀) :
    Following R deamon₀ := by
  obtain ⟨database, hreordered, rfl⟩ := hresumes
  constructor
  · intro key
    rw [slot_reordered hreordered key]
    exact h.wellFormed key
  · rw [messages_reordered hreordered]
    exact h.related

theorem FollowsFinite.run (hR : FollowsFinite R) {deamon deamon' : RipDeamon Driver}
    {labels : List (Answers × DeamonEvent)} (h : Following R deamon)
    (hrun : Run Attempted deamon labels deamon') : Following R deamon' := by
  induction hrun with
  | nil => exact h
  | snoc hrest hstep ih =>
      obtain ⟨res, ⟨deamon₀, hresumes, rfl⟩, rfl⟩ := hstep
      exact hR.handle _ (ih.resumes hresumes)

theorem FollowsCalls.run (hR : FollowsCalls R) {deamon deamon' : RipDeamon Driver}
    {labels : List (Answers × DeamonEvent)} (h : Following R deamon)
    (hrun : Run Attempted deamon labels deamon') : Following R deamon' :=
  hR.followsFinite.run h hrun

end Rules

end

/-- The kernel holds these messages, and every add found its destination free. -/
structure Tracks (f : RipRouteKey → Option RouteMessage) (kernel : Kernel) : Prop where
  routes : Images f kernel.routes
  adds : ∀ add ∈ kernel.adds, ∀ m ∈ add.routes, ¬SameDestination m add.message

theorem Tracks.deleted {f : RipRouteKey → Option RouteMessage} {kernel : Kernel}
    {key : RipRouteKey} {m : RouteMessage} (h : Tracks f kernel)
    (hkey : ∀ m', f key = some m' → m' = m) (hm : ∀ key', f key' = some m → key' = key) :
    Tracks (Function.update f key none) (kernel.deleted m) :=
  ⟨h.routes.erase hkey hm, h.adds⟩

theorem Tracks.added {f : RipRouteKey → Option RouteMessage} {kernel : Kernel}
    {key : RipRouteKey} {m : RouteMessage} (h : Tracks f kernel) (hkey : f key = none)
    (hfree : ∀ key' m', f key' = some m' → SameDestination m' m → key' = key) :
    Tracks (Function.update f key (some m)) (kernel.added m) := by
  refine ⟨h.routes.insert m hkey, ?_⟩
  intro add hadd m' hm' hsame
  rcases List.mem_append.mp hadd with hold | hnew
  · exact h.adds add hold m' hm' hsame
  · obtain rfl := List.mem_singleton.mp hnew
    obtain ⟨key', hkey'⟩ := (h.routes m').mp hm'
    obtain rfl := hfree key' m' hkey' hsame
    simp [hkey] at hkey'

theorem tracks_followsCalls : FollowsCalls Tracks where
  deleted h hown hother hissue := by
    obtain rfl := (EStateM.Result.ok.inj hissue).2
    exact h.deleted hown hother
  notDeleted _ hissue := absurd hissue (by simp [RoutingTableDriver.deleteRoute])
  added h hfree hother := h.added hfree hother

theorem mem_getRoutesInRoutingTable_iff {database : RipDatabase}
    (hwell : ∀ key, WellFormed key (slot database key)) {m : RouteMessage} :
    m ∈ database.getRoutesInRoutingTable.map buildRouteMessage ↔
      ∃ key, messages database key = some m := by
  simp only [RipDatabase.getRoutesInRoutingTable, List.mem_map, List.mem_filter,
    RipDatabase.mem_allRoutes_iff]
  constructor
  · rintro ⟨route, ⟨⟨key, hactive⟩ | ⟨key, hgarbage⟩, htable⟩, rfl⟩
    · refine ⟨key, ?_⟩
      rw [messages, message?, slot_active, hactive, Option.bind_some, if_pos htable]
    · rw [((hwell key).garbage route hgarbage).inRoutingTable] at htable
      exact absurd htable (by simp)
  · rintro ⟨key, hm⟩
    obtain ⟨route, hactive, htable, rfl⟩ := message_eq hm
    exact ⟨route, ⟨.inl ⟨key, hactive⟩, htable⟩, rfl⟩

/-- After every handler the kernel holds exactly the messages of the routes in
the routing table, at most one for each destination, and it never had a route
to a destination when one was added for it. -/
theorem run_kernel_agrees {deamon deamon' : RipDeamon Kernel}
    {labels : List (Answers × DeamonEvent)} (hinitial : Initial deamon)
    (hempty : deamon.routingTable.driver = .empty)
    (hrun : Run Attempted deamon labels deamon') :
    let kernel := deamon'.routingTable.driver
    kernel.routes = (deamon'.database.getRoutesInRoutingTable.map buildRouteMessage).toFinset ∧
      (∀ m ∈ kernel.routes, ∀ m' ∈ kernel.routes, SameDestination m m' → m = m') ∧
      ∀ add ∈ kernel.adds, ∀ m ∈ add.routes, ¬SameDestination m add.message := by
  intro kernel
  have hstart : Following Tracks deamon := by
    refine ⟨fun key => hinitial.1 ▸ wellFormed_new key, ?_, by simp [hempty, Kernel.empty]⟩
    intro m
    simp [hempty, Kernel.empty, hinitial.1, messages, message?]
  have hfollows := tracks_followsCalls.run hstart hrun
  refine ⟨?_, ?_, hfollows.related.adds⟩
  · ext m
    rw [List.mem_toFinset, mem_getRoutesInRoutingTable_iff hfollows.wellFormed]
    exact hfollows.related.routes m
  · intro m hm m' hm' hsame
    obtain ⟨key, hkey⟩ := (hfollows.related.routes m).mp hm
    obtain ⟨key', hkey'⟩ := (hfollows.related.routes m').mp hm'
    obtain ⟨route, hactive, -, rfl⟩ := message_eq hkey
    obtain ⟨route', hactive', -, rfl⟩ := message_eq hkey'
    obtain rfl := key_eq_of_sameDestination ((hfollows.wellFormed key).active route hactive)
      ((hfollows.wellFormed key').active route' hactive') hsame
    exact Option.some.inj (hkey.symm.trans hkey')

/-- A response to be acted on. -/
def responseFrom (source : UInt32) (ifInfo : RipIfInfo) (entries : List RipEntry) :
    RipPacket where
  data := { header := responseHeader, entries }
  ifInfo := ifInfo
  source := { ip := source, port := ripUdpPort }

/-- An entry for a destination with nothing special about it. -/
def plainEntry (key : RipRouteKey) (metric : UInt32) : RipEntry where
  routingFamilyId := afInet
  routeTag := 0
  ipAddress := key.ipAddress
  subnetMask := key.subnetMask
  nextHop := 0
  metric := metric

def steady : Answers := .steady 0 ["eth0", "eth1"]

def eth1 : RipIfInfo := { ifName := "eth1", ifIndex := 2 }

/-- 10.3.0.2 -/
def neighbour : UInt32 := 0x0a030002

/-- 10.1.0.0/16 -/
def nearNetwork : RipRouteKey := { ipAddress := 0x0a010000, subnetMask := 0xffff0000 }

/-- 10.2.0.0/16 -/
def farNetwork : RipRouteKey := { ipAddress := 0x0a020000, subnetMask := 0xffff0000 }

/-- The neighbour has the far network. -/
def announcement : Answers × DeamonEvent :=
  (steady, .received (responseFrom neighbour eth1 [plainEntry farNetwork 1]))

/-- The neighbour has it no more. -/
def withdrawal : Answers × DeamonEvent :=
  (steady, .received (responseFrom neighbour eth1 [plainEntry farNetwork 16]))

/-- One local network, and one learned from a neighbour. -/
def learningEvents : List (Answers × DeamonEvent) :=
  [(steady, .addLocalRoute { address := "10.1.0.0", prefixLen := 16, dev := "eth0" }),
    (steady, .received (responseFrom neighbour eth1 [plainEntry farNetwork 1]))]

def learningDeamon : RipDeamon Kernel :=
  RipDeamon.new .empty { answers := Answers.steady 0 [], sent := [] }

/-- A daemon with one interface and no events yet. -/
def bareDeamon : RipDeamon Kernel where
  routingTable := { driver := .empty }
  interfaces := [{ ifName := "eth1", rx := none, tx := { ifName := "eth1", ifIndex := 2 } }]
  database := RipDatabase.new
  host := { answers := Answers.steady 0 [], sent := [] }

theorem learningEvents_kernel_agrees :
    ∃ deamon', Run Step learningDeamon learningEvents deamon' ∧
      deamon'.routingTable.driver.routes =
        (deamon'.database.getRoutesInRoutingTable.map buildRouteMessage).toFinset ∧
      deamon'.database.getRoutesInRoutingTable.length = 1 := by
  have hany : (runEvents learningDeamon learningEvents).any (fun deamon =>
      deamon.database.getRoutesInRoutingTable.length == 1) = true := by decide +kernel
  obtain ⟨deamon', hrun, hlength⟩ := exists_run hany
  have hagrees := run_kernel_agrees ⟨rfl, rfl⟩ rfl (run_attempted hrun)
  exact ⟨deamon', hrun, hagrees.1, by simpa using hlength⟩

end RipV2.KernelRoutes
