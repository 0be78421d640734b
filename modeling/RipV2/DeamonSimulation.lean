import RipV2.DeamonRuns
import RipV2.ResponseEntries

namespace RipV2.DeamonSimulation

open RipV2.AdminInterface
open RipV2.Database
open RipV2.Deamon
open RipV2.Deamon.RipDeamon
open RipV2.DeamonRuns
open RipV2.DestinationSlots
open RipV2.EffectLogic
open RipV2.HashMapModel
open RipV2.HostEnvironment
open RipV2.LocalRoutes
open RipV2.Packets
open RipV2.ResponseEntries
open RipV2.Results
open RipV2.RoutingTables
open RipV2.Updater

variable {Driver : Type}

/-- Only the host may have moved. -/
structure HostOnly (deamon deamon' : RipDeamon Driver) : Prop where
  routingTable : deamon'.routingTable = deamon.routingTable
  interfaces : deamon'.interfaces = deamon.interfaces
  database : deamon'.database = deamon.database

theorem HostOnly.refl (deamon : RipDeamon Driver) : HostOnly deamon deamon :=
  ⟨rfl, rfl, rfl⟩

theorem HostOnly.trans {a b c : RipDeamon Driver} (h : HostOnly a b) (h' : HostOnly b c) :
    HostOnly a c :=
  ⟨h'.routingTable.trans h.routingTable, h'.interfaces.trans h.interfaces,
    h'.database.trans h.database⟩

theorem evolves_socketIo {α : Type} (m : HostM String α) :
    Evolves HostOnly (socketIo m : DeamonM Driver α) :=
  evolves_adaptExcept (evolves_zoom (R := fun _ _ => True) (fun _ _ _ => ⟨rfl, rfl, rfl⟩)
    fun _ => trivial)

/-- Flags are cleared only once everything has been sent. -/
theorem sendMulticastAdvertisement_run (changedOnly : Bool) (deamon : RipDeamon Driver) :
    (sendMulticastAdvertisement changedOnly).run deamon =
      match (ripSendAdvertisementMulticast deamon.database deamon.interfaces changedOnly).run
        deamon.host with
      | .ok _ host => .ok ()
          { deamon with host, database := deamon.database.markAllRoutesAsUnchanged }
      | .error e host => .error (.ioError e) { deamon with host } := by
  rw [sendMulticastAdvertisement, EStateM.run_bind, EStateM.run_get]
  simp only [EStateM.run_bind, socketIo, EStateM.run_adaptExcept, onHost, run_zoom]
  cases (ripSendAdvertisementMulticast deamon.database deamon.interfaces changedOnly).run
    deamon.host <;> simp [modifyDatabase]

theorem sendMulticastAdvertisement_ok {changedOnly : Bool} {deamon deamon' : RipDeamon Driver}
    (h : (sendMulticastAdvertisement changedOnly).run deamon = .ok () deamon') :
    ∃ host, deamon' = { deamon with host, database := deamon.database.markAllRoutesAsUnchanged } ∧
      host.sent = deamon.host.sent ++ advertisement deamon.host.answers.endian deamon.database
        deamon.interfaces changedOnly := by
  rw [sendMulticastAdvertisement_run] at h
  obtain ⟨sent, -, hsent, -, hall, -⟩ := sends_advertisement deamon.host.answers.endian
    deamon.database deamon.interfaces changedOnly deamon.host rfl
  cases hrun : (ripSendAdvertisementMulticast deamon.database deamon.interfaces
      changedOnly).run deamon.host with
  | error e host => simp [hrun] at h
  | ok a host =>
      rw [hrun] at h hsent hall
      obtain rfl := (EStateM.Result.ok.inj h).2
      exact ⟨host, rfl, by rw [← hall rfl, ← hsent, finalState_ok]⟩

theorem sendMulticastAdvertisement_reliable (changedOnly : Bool) {deamon : RipDeamon Driver}
    (h : deamon.host.answers.Reliable) :
    succeeded ((sendMulticastAdvertisement changedOnly).run deamon) = true ∧
      (finalState ((sendMulticastAdvertisement changedOnly).run deamon)).host.answers.Reliable := by
  obtain ⟨-, -, -, -, -, hreliable⟩ := sends_advertisement deamon.host.answers.endian
    deamon.database deamon.interfaces changedOnly deamon.host rfl
  obtain ⟨hsucceeds, hstays⟩ := hreliable h
  rw [sendMulticastAdvertisement_run]
  cases hrun : (ripSendAdvertisementMulticast deamon.database deamon.interfaces
      changedOnly).run deamon.host with
  | error e host =>
      rw [hrun] at hsucceeds
      exact absurd hsucceeds (by simp)
  | ok a host =>
      rw [hrun] at hstays
      exact ⟨rfl, hstays⟩

theorem sendMulticastAdvertisement_simulated (changedOnly : Bool) (deamon : RipDeamon Driver) :
    let res := (sendMulticastAdvertisement changedOnly).run deamon
    Simulated deamon.host.answers (.advertise changedOnly) deamon.database
      (finalState res).database (succeeded res) fun _ => [] := by
  intro res
  apply simulated_of_step
  intro key
  simp only [res, sendMulticastAdvertisement_run]
  cases (ripSendAdvertisementMulticast deamon.database deamon.interfaces changedOnly).run
      deamon.host with
  | error e host => exact .inl rfl
  | ok a host =>
      simp only [finalState_ok, slot_markAllRoutesAsUnchanged]
      split_ifs with hchanged
      · exact .inr ⟨.unflagged, .unflagged _, ⟨changedOnly, rfl⟩, rfl⟩
      · exact .inl rfl

theorem sendMulticastRequest_hostOnly :
    Evolves HostOnly (sendMulticastRequest : DeamonM Driver Unit) := by
  rw [sendMulticastRequest]
  have htrans : ∀ a b c : RipDeamon Driver, HostOnly a b → HostOnly b c → HostOnly a c :=
    fun _ _ _ => HostOnly.trans
  refine evolves_bind htrans (evolves_get HostOnly.refl) fun deamon => ?_
  exact evolves_forM HostOnly.refl htrans fun ifc _ => evolves_socketIo _

/-- The database after `addLocalRoute` has found the destination free. -/
def adopt (localRoute : LocalRoute) (database : RipDatabase) : RipDatabase where
  okRoutes :=
    database.okRoutes.insert (buildRouteKey localRoute.entry) (localRouteEntry localRoute)
  garbageRoutes := database.garbageRoutes
  anyRouteChanged := true

theorem slot_adopt (localRoute : LocalRoute) (database : RipDatabase) (key : RipRouteKey) :
    slot (adopt localRoute database) key =
      if key = buildRouteKey localRoute.entry then
        { slot database key with active := some (localRouteEntry localRoute) }
      else slot database key := by
  simp only [slot, adopt, HashMap.lookup_insert]
  split_ifs <;> rfl

theorem setupAdvertisedNetwork_cases (network : AdvertisedNetwork) (deamon : RipDeamon Driver) :
    ((∃ e, (setupAdvertisedNetwork network).run deamon = .error e deamon) ∧
        ∀ localRoute, advertisedNetworkToLocalRoute deamon.host.answers network = .ok localRoute →
          deamon.database.okRoutes.lookup (buildRouteKey localRoute.entry) ≠ none) ∨
      ∃ localRoute, advertisedNetworkToLocalRoute deamon.host.answers network = .ok localRoute ∧
        deamon.database.okRoutes.lookup (buildRouteKey localRoute.entry) = none ∧
        (setupAdvertisedNetwork network).run deamon =
          .ok () { deamon with database := adopt localRoute deamon.database } := by
  rw [setupAdvertisedNetwork, EStateM.run_bind, EStateM.run_get]
  cases hroute : advertisedNetworkToLocalRoute deamon.host.answers network with
  | error e => exact .inl ⟨⟨e, by simp [hroute]⟩, by simp⟩
  | ok localRoute =>
      cases hfree : deamon.database.okRoutes.lookup (buildRouteKey localRoute.entry) with
      | some old =>
          refine .inl ⟨⟨.invalidConfiguration ("route already exists in RIP database: " ++
            (buildRouteKey localRoute.entry).toString), ?_⟩, by simp [hfree]⟩
          simp [hroute, onDatabase, RipDatabase.addLocalRoute, RipDatabase.addRoute, EStateM.run,
            bind, EStateM.bind, zoom, hfree]
      | none =>
          refine .inr ⟨localRoute, rfl, hfree, ?_⟩
          simp [hroute, onDatabase, RipDatabase.addLocalRoute, RipDatabase.addRoute, EStateM.run,
            bind, EStateM.bind, zoom, hfree, adopt, localRouteEntry, pure, EStateM.pure]

theorem setupAdvertisedNetwork_garbageRoutes (network : AdvertisedNetwork)
    (deamon : RipDeamon Driver) :
    (finalState ((setupAdvertisedNetwork network).run deamon)).database.garbageRoutes =
      deamon.database.garbageRoutes := by
  rcases setupAdvertisedNetwork_cases network deamon with
    ⟨⟨e, hrun⟩, -⟩ | ⟨localRoute, -, -, hrun⟩
  · rw [hrun, finalState_error]
  · rw [hrun, finalState_ok, adopt]

theorem handle_addsNetwork_cases [RoutingTableDriver Driver] {event : DeamonEvent}
    {network : AdvertisedNetwork} (hadds : AddsNetwork network event)
    (deamon : RipDeamon Driver) :
    (finalState (event.handle.run deamon) = deamon ∧
        ∀ localRoute, advertisedNetworkToLocalRoute deamon.host.answers network = .ok localRoute →
          deamon.database.okRoutes.lookup (buildRouteKey localRoute.entry) ≠ none) ∨
      ∃ localRoute, advertisedNetworkToLocalRoute deamon.host.answers network = .ok localRoute ∧
        deamon.database.okRoutes.lookup (buildRouteKey localRoute.entry) = none ∧
        finalState (event.handle.run deamon) =
          { deamon with database := adopt localRoute deamon.database } := by
  have hfinal : finalState (event.handle.run deamon) =
      finalState ((setupAdvertisedNetwork network).run deamon) := by
    rcases hadds with rfl | rfl
    · rfl
    · simp only [DeamonEvent.handle, handleHttpRequest, EStateM.run_bind, run_attempt]
      cases (setupAdvertisedNetwork network).run deamon <;> rfl
  rw [hfinal]
  rcases setupAdvertisedNetwork_cases network deamon with
    ⟨⟨e, hrun⟩, htaken⟩ | ⟨localRoute, hroute, hfree, hrun⟩
  · exact .inl ⟨by rw [hrun, finalState_error], htaken⟩
  · exact .inr ⟨localRoute, hroute, hfree, by rw [hrun, finalState_ok]⟩

theorem setupAdvertisedNetwork_simulated {event : DeamonEvent} {network : AdvertisedNetwork}
    (hadds : AddsNetwork network event) (complete : Bool) (deamon : RipDeamon Driver) :
    let res := (setupAdvertisedNetwork network).run deamon
    Simulated deamon.host.answers event deamon.database
      (finalState res).database complete fun _ => [] := by
  intro res
  apply simulated_of_step
  intro key
  rcases setupAdvertisedNetwork_cases network deamon with
    ⟨⟨e, hrun⟩, -⟩ | ⟨localRoute, hroute, hfree, hrun⟩
  · simp only [res, hrun]
    exact .inl rfl
  · simp only [res, hrun, finalState_ok, slot_adopt]
    split_ifs with hkey
    · refine .inr ⟨.added (localRouteEntry localRoute), ?_,
        ⟨network, localRoute, hadds, hroute, rfl, hkey.symm⟩, rfl⟩
      rw [hkey, slot, hfree]
      exact .added _ _
    · exact .inl rfl

theorem handleHttpRequest_simulated (kind : HttpRequestKind) (deamon : RipDeamon Driver) :
    let res := (handleHttpRequest kind).run deamon
    Simulated deamon.host.answers (.httpRequest kind) deamon.database
      (finalState res).database (succeeded res) fun _ => [] := by
  intro res
  cases kind with
  | getRoutes => exact .refl _ _ _ _
  | addLocalRoute network =>
      have hadds : AddsNetwork network (.httpRequest (.addLocalRoute network)) := .inr rfl
      have hsetup := setupAdvertisedNetwork_simulated hadds (succeeded res) deamon
      have hres : (finalState res).database =
          (finalState ((setupAdvertisedNetwork network).run deamon)).database := by
        simp only [res, handleHttpRequest, EStateM.run_bind, run_attempt]
        cases (setupAdvertisedNetwork network).run deamon <;> rfl
      rw [hres]
      exact hsetup

variable [RoutingTableDriver Driver]

theorem routeEntries_cons (packet : RipPacket) (key : RipRouteKey) (raw : RipEntry)
    (entries : List RipEntry) :
    routeEntries packet key (raw :: entries) =
      routeEntries packet key [raw] ++ routeEntries packet key entries := by
  simp only [routeEntries, ← List.map_append, ← List.filter_append, ← List.filterMap_append,
    List.singleton_append]

theorem routeEntries_of_none {packet : RipPacket} {raw : RipEntry}
    (h : responseEntryToRoute raw packet = none) (key : RipRouteKey) :
    routeEntries packet key [raw] = [] := by
  simp [routeEntries, h]

theorem routeEntries_of_some {packet : RipPacket} {raw entry : RipEntry}
    (h : responseEntryToRoute raw packet = some entry) (key : RipRouteKey) :
    routeEntries packet key [raw] =
      if key = buildRouteKey entry then [(entry, packet.ifInfo)] else [] := by
  by_cases hkey : key = buildRouteKey entry
  · simp [routeEntries, h, hkey]
  · simp [routeEntries, h, hkey, Ne.symm hkey]

theorem handleResponseEntry_of_none {packet : RipPacket} {raw : RipEntry}
    (h : responseEntryToRoute raw packet = none) :
    (handleResponseEntry packet raw : DeamonM Driver Unit) = pure () := by
  rw [handleResponseEntry, h]

theorem handleResponseEntry_of_some {packet : RipPacket} {raw entry : RipEntry}
    (h : responseEntryToRoute raw packet = some entry) :
    (handleResponseEntry packet raw : DeamonM Driver Unit) =
      updateRouteFromResponse entry packet.ifInfo := by
  rw [handleResponseEntry, h]

theorem handleResponseEntry_simulated (answers : Answers) {packet : RipPacket} {raw : RipEntry}
    {deamon : RipDeamon Driver} (haccepted : accepted packet = true)
    (hraw : raw ∈ packet.data.entries) (hkeys : KeysMatch deamon.database) :
    let res := (handleResponseEntry packet raw).run deamon
    Simulated answers (.received packet) deamon.database (finalState res).database
      (succeeded res) fun key => routeEntries packet key [raw] := by
  intro res key
  cases hentry : responseEntryToRoute raw packet with
  | none =>
      refine ⟨[], ?_, by simp, fun _ => (routeEntries_of_none hentry key).symm⟩
      simp only [res, handleResponseEntry_of_none hentry]
      exact .nil
  | some entry =>
      simp only [res, handleResponseEntry_of_some hentry, routeEntries_of_some hentry]
      rcases updateRouteFromResponse_spec entry packet.ifInfo hkeys with
        ⟨⟨now, hslot⟩, -⟩ | ⟨hslot, hfails, -⟩
      · rw [hslot key]
        split_ifs with hkey
        · refine ⟨[.heard now entry packet.ifInfo], .single (.heard _ now entry _), ?_, ?_⟩
          · simpa using ⟨hkey.symm, packet, raw, rfl, haccepted, hraw, hentry, rfl⟩
          · exact fun _ => rfl
        · exact ⟨[], .nil, by simp, fun _ => rfl⟩
      · rw [hslot key, hfails]
        split_ifs with hkey
        · refine ⟨[.refused entry packet.ifInfo], .single (.refused _ entry _), ?_, by simp⟩
          simpa using ⟨hkey.symm, packet, raw, rfl, haccepted, hraw, hentry, rfl⟩
        · exact ⟨[], .nil, by simp, by simp⟩

theorem handleResponseEntries_simulated (answers : Answers) {packet : RipPacket}
    (haccepted : accepted packet = true) {entries : List RipEntry}
    (hentries : ∀ raw ∈ entries, raw ∈ packet.data.entries) (deamon : RipDeamon Driver)
    (hkeys : KeysMatch deamon.database) :
    let res := (entries.forM (handleResponseEntry packet)).run deamon
    Simulated answers (.received packet) deamon.database (finalState res).database
      (succeeded res) fun key => routeEntries packet key entries := by
  -- the first entry that fails ends the loop
  induction entries generalizing deamon with
  | nil => exact Simulated.refl _ _ _ _
  | cons raw entries ih =>
      have hfirst := handleResponseEntry_simulated answers haccepted (hentries raw (by simp)) hkeys
      simp only [List.forM_eq_forM, List.forM_cons, EStateM.run_bind]
      cases hrun : (handleResponseEntry packet raw).run deamon with
      | error e deamon₁ =>
          rw [hrun] at hfirst
          exact hfirst.incomplete
      | ok a deamon₁ =>
          rw [hrun] at hfirst
          have hrest := ih (fun raw' hmem => hentries raw' (by simp [hmem])) deamon₁
            (hfirst.keysMatch hkeys)
          simp only [routeEntries_cons packet _ raw entries]
          exact hfirst.trans hrest

/-- A packet that is not accepted may be answered and is otherwise without effect. -/
theorem handlePacket_hostOnly {packet : RipPacket} (h : accepted packet = false) :
    Evolves HostOnly (handlePacket packet : DeamonM Driver Unit) := by
  rw [handlePacket]
  split_ifs with hrequest hresponse
  · exact evolves_bind (R := HostOnly) (fun _ _ _ => HostOnly.trans) (evolves_get HostOnly.refl)
      fun _ => evolves_socketIo _
  · rw [handleResponsePacket]
    split_ifs with hversion hport
    · exact evolves_throw HostOnly.refl _
    · exact evolves_pure HostOnly.refl ()
    · simp only [ne_eq, not_not] at hversion hport
      simp [accepted, hresponse, hversion, hport] at h
  · exact evolves_throw HostOnly.refl _

theorem handlePacket_run_of_accepted {packet : RipPacket} (h : accepted packet = true)
    (deamon : RipDeamon Driver) : (handlePacket packet).run deamon =
      (packet.data.entries.forM (handleResponseEntry packet)).run deamon := by
  have hparts : packet.isResponse = true ∧ packet.data.header.version = rip2Version ∧
      packet.source.port = ripUdpPort := by
    simpa [accepted, and_assoc] using h
  obtain ⟨hresponse, hversion, hport⟩ := hparts
  simp [handlePacket, handleResponsePacket,
    RipPacket.isRequest_eq_false_of_isResponse hresponse, hresponse, hversion, hport]

theorem handlePacket_simulated {packet : RipPacket} {deamon : RipDeamon Driver}
    (hkeys : KeysMatch deamon.database) :
    let res := (handlePacket packet).run deamon
    Simulated deamon.host.answers (.received packet) deamon.database (finalState res).database
      (succeeded res) fun key => (DeamonEvent.received packet).heard key := by
  intro res
  cases haccepted : accepted packet with
  | true =>
      simp only [res, DeamonEvent.heard, haccepted, if_true,
        handlePacket_run_of_accepted haccepted]
      exact handleResponseEntries_simulated _ haccepted (fun _ hraw => hraw) deamon hkeys
  | false =>
      simp only [DeamonEvent.heard, haccepted]
      have hdatabase : (finalState res).database = deamon.database :=
        (handlePacket_hostOnly haccepted deamon).database
      rw [hdatabase]
      exact .refl _ _ _ _

/-- The routes of `routes` are active, each under its own key. -/
def Listed (database : RipDatabase) (routes : List RipDbEntry) : Prop :=
  (routes.map fun route => buildRouteKey route.ripEntry).Nodup ∧
    ∀ route ∈ routes, database.okRoutes.lookup (buildRouteKey route.ripEntry) = some route

theorem Listed.key_ne {database : RipDatabase} {route other : RipDbEntry}
    {routes : List RipDbEntry} (h : Listed database (route :: routes)) (hmem : other ∈ routes) :
    buildRouteKey other.ripEntry ≠ buildRouteKey route.ripEntry := by
  have hnodup := h.1
  rw [List.map_cons, List.nodup_cons] at hnodup
  exact fun heq => hnodup.1 (heq ▸ List.mem_map_of_mem hmem)

theorem Listed.tail {database : RipDatabase} {route : RipDbEntry} {routes : List RipDbEntry}
    (h : Listed database (route :: routes)) (now : Instant) :
    Listed (toGarbage (buildRouteKey route.ripEntry) route now database) routes := by
  have hnodup := h.1
  rw [List.map_cons, List.nodup_cons] at hnodup
  refine ⟨hnodup.2, fun other hmem => ?_⟩
  have hslot := slot_toGarbage route now database (buildRouteKey route.ripEntry)
    (buildRouteKey other.ripEntry)
  rw [if_neg (h.key_ne hmem)] at hslot
  exact (congrArg Slot.active hslot).trans (h.2 other (by simp [hmem]))

theorem Listed.expired {deamon deamon' : RipDeamon Driver} {route : RipDbEntry}
    {routes : List RipDbEntry} (h : Listed deamon.database (route :: routes))
    (hrun : (expireRoute route).run deamon = .ok () deamon') :
    ∃ now, deamon'.database =
        toGarbage (buildRouteKey route.ripEntry) route now deamon.database ∧
      deamon.database.garbageRoutes.lookup (buildRouteKey route.ripEntry) = none ∧
      Listed deamon'.database routes := by
  have hspec := expireRoute_spec (h.2 route (by simp))
  rw [hrun] at hspec
  rcases hspec with ⟨hfails, -, -⟩ | ⟨now, hdatabase, hfree⟩
  · exact absurd hfails (by simp)
  · rw [finalState_ok] at hdatabase
    refine ⟨now, hdatabase, by simpa using hfree.symm, ?_⟩
    rw [hdatabase]
    exact h.tail now

theorem toGarbage_simulated {answers : Answers} {route : RipDbEntry}
    {database : RipDatabase} (timer : Timer) (complete : Bool)
    (htimedOut : route.timedOut (routeTimeoutSecs answers) = true)
    (hactive : database.okRoutes.lookup (buildRouteKey route.ripEntry) = some route)
    (now : Instant) :
    Simulated answers (.routeTimeoutTick timer) database
      (toGarbage (buildRouteKey route.ripEntry) route now database) complete fun _ => [] := by
  apply simulated_of_step
  intro key
  rw [slot_toGarbage]
  split_ifs with hkey
  · refine .inr ⟨.expired (routeTimeoutSecs answers) now, ?_, ⟨⟨timer, rfl⟩, rfl⟩, rfl⟩
    rw [hkey, slot, hactive]
    exact .expired _ _ _ _ htimedOut
  · exact .inl rfl

theorem expireRoutes_simulated {answers : Answers} {routes : List RipDbEntry} (timer : Timer)
    (htimedOut : ∀ route ∈ routes, route.timedOut (routeTimeoutSecs answers) = true)
    (deamon : RipDeamon Driver) (hlisted : Listed deamon.database routes) :
    let res := (routes.forM expireRoute).run deamon
    Simulated answers (.routeTimeoutTick timer) deamon.database (finalState res).database
      (succeeded res) fun _ => [] := by
  induction routes generalizing deamon with
  | nil => exact .refl _ _ _ _
  | cons route routes ih =>
      have hactive := hlisted.2 route (by simp)
      have hmoved := fun complete => toGarbage_simulated timer complete
        (htimedOut route (by simp)) hactive
      simp only [List.forM_eq_forM, List.forM_cons, EStateM.run_bind]
      have hspec := expireRoute_spec hactive
      cases hrun : (expireRoute route).run deamon with
      | error e deamon₁ =>
          rw [hrun] at hspec
          rcases hspec with ⟨-, hdatabase, -⟩ | ⟨now, hdatabase, -⟩
          · simp only [finalState_error] at hdatabase ⊢
            rw [hdatabase]
            exact .refl _ _ _ _
          · simp only [finalState_error] at hdatabase ⊢
            rw [hdatabase]
            exact hmoved _ now
      | ok a deamon₁ =>
          obtain ⟨now, hdatabase, -, hlisted₁⟩ := hlisted.expired hrun
          have hrest := ih (fun other hmem => htimedOut other (by simp [hmem])) deamon₁ hlisted₁
          rw [hdatabase] at hrest
          exact (hmoved true now).trans hrest

theorem listed_timedOutRoutes {database : RipDatabase} (hkeys : KeysMatch database)
    (limit : UInt64) : Listed database (database.okRoutes.values.filter fun route =>
      route.timedOut limit) := by
  constructor
  · have hnodup := database.okRoutes.nodup_keys
    rw [← HashMap.values_map_eq_keys hkeys] at hnodup
    exact hnodup.sublist (List.filter_sublist.map _)
  · intro route hmem
    obtain ⟨key, hlookup⟩ := HashMap.mem_values_iff.mp (List.mem_filter.mp hmem).1
    rw [hkeys key route hlookup]
    exact hlookup

/-- The timed out routes of one check, and the database after counting. -/
def timeoutCheck (deamon : RipDeamon Driver) : List RipDbEntry × RipDatabase :=
  deamon.database.collectTimedOutRoutes (timeoutCheckIntervalSecs deamon.host.answers)
    (routeTimeoutSecs deamon.host.answers)

theorem handleRouteTimeoutTick_run (timer : Timer) (deamon : RipDeamon Driver) :
    (handleRouteTimeoutTick timer).run deamon =
      match ((timeoutCheck deamon).1.forM expireRoute).run
        { deamon with database := (timeoutCheck deamon).2 } with
      | .ok _ deamon' => .ok
          (if !(timeoutCheck deamon).1.isEmpty && timer.isNone then
            some (durationFromSecs (garbageCollectionIntervalSecs deamon'.host.answers))
          else timer) deamon'
      | .error e deamon' => .error e deamon' := by
  rw [handleRouteTimeoutTick, EStateM.run_bind, EStateM.run_get]
  change ((do
    (timeoutCheck deamon).1.forM expireRoute
    if !(timeoutCheck deamon).1.isEmpty && timer.isNone then
      return some (durationFromSecs (garbageCollectionIntervalSecs (← get).host.answers))
    else
      return timer) : DeamonM Driver Timer).run
      { deamon with database := (timeoutCheck deamon).2 } = _
  rw [EStateM.run_bind]
  cases ((timeoutCheck deamon).1.forM expireRoute).run
      { deamon with database := (timeoutCheck deamon).2 } with
  | error e deamon' => rfl
  | ok a deamon' => split_ifs <;> rfl

omit [RoutingTableDriver Driver] in
theorem timeoutCheck_simulated (timer : Timer) (complete : Bool) (deamon : RipDeamon Driver) :
    Simulated deamon.host.answers (.routeTimeoutTick timer) deamon.database
      (timeoutCheck deamon).2 complete fun _ => [] := by
  apply simulated_of_step
  intro key
  rw [timeoutCheck, slot_collectTimedOutRoutes]
  exact .inr ⟨.counted _, .counted _ _, ⟨⟨timer, rfl⟩, rfl⟩, rfl⟩

theorem handleRouteTimeoutTick_simulated (timer : Timer) {deamon : RipDeamon Driver}
    (hkeys : KeysMatch deamon.database) :
    let res := (handleRouteTimeoutTick timer).run deamon
    Simulated deamon.host.answers (.routeTimeoutTick timer) deamon.database
      (finalState res).database (succeeded res) fun _ => [] := by
  intro res
  have hcounted := timeoutCheck_simulated timer true deamon
  have hlisted : Listed (timeoutCheck deamon).2 (timeoutCheck deamon).1 :=
    listed_timedOutRoutes (hcounted.keysMatch hkeys) _
  have htimedOut : ∀ route ∈ (timeoutCheck deamon).1,
      route.timedOut (routeTimeoutSecs deamon.host.answers) = true :=
    fun route hmem => (List.mem_filter.mp hmem).2
  have hexpired := expireRoutes_simulated timer htimedOut
    { deamon with database := (timeoutCheck deamon).2 } hlisted
  simp only [res, handleRouteTimeoutTick_run]
  cases hrun : ((timeoutCheck deamon).1.forM expireRoute).run
      { deamon with database := (timeoutCheck deamon).2 } with
  | ok a deamon' =>
      rw [hrun] at hexpired
      exact hcounted.trans hexpired
  | error e deamon' =>
      rw [hrun] at hexpired
      exact hcounted.trans hexpired

/-- The database after one garbage collection. -/
def garbageCollection (deamon : RipDeamon Driver) : RipDatabase :=
  (deamon.database.removeExpiredGarbageRoutes deamon.host.answers.instants.head
    (durationFromSecs (garbageCollectionLifetimeSecs deamon.host.answers))).2

omit [RoutingTableDriver Driver] in
theorem handleGarbageCollectionTick_run (timer : Timer) (deamon : RipDeamon Driver) :
    (handleGarbageCollectionTick timer).run deamon = .ok
      (if (garbageCollection deamon).hasGarbageRoutes then
        some (durationFromSecs (garbageCollectionIntervalSecs deamon.host.answers))
      else timer)
      { deamon with
        database := garbageCollection deamon
        host := { deamon.host with answers :=
          { deamon.host.answers with instants := deamon.host.answers.instants.tail } } } := by
  rw [handleGarbageCollectionTick, EStateM.run_bind, EStateM.run_get]
  simp only [onHost, EStateM.run_bind, run_zoom, run_instantNow, modifyDatabase,
    EStateM.run_modify, EStateM.run_get]
  change (if (garbageCollection deamon).hasGarbageRoutes = true then _ else _ :
    DeamonM Driver Timer).run _ = _
  split_ifs <;> rfl

omit [RoutingTableDriver Driver] in
theorem handleGarbageCollectionTick_simulated (timer : Timer) (deamon : RipDeamon Driver) :
    let res := (handleGarbageCollectionTick timer).run deamon
    Simulated deamon.host.answers (.garbageCollectionTick timer) deamon.database
      (finalState res).database (succeeded res) fun _ => [] := by
  intro res
  simp only [res, handleGarbageCollectionTick_run, finalState_ok, garbageCollection]
  apply simulated_of_step
  intro key
  rw [slot_removeExpiredGarbageRoutes]
  split_ifs with hexpired
  · obtain ⟨route, hgarbage, hold⟩ := mem_expiredKeys_iff.mp hexpired
    refine .inr ⟨.collected deamon.host.answers.instants.head (durationFromSecs
      (garbageCollectionLifetimeSecs deamon.host.answers)), ?_, ⟨⟨timer, rfl⟩, rfl⟩, rfl⟩
    rw [slot, hgarbage]
    exact .collected _ _ _ _ hold
  · exact .inl rfl

/-- Whatever its outcome, the handler of an event respects the automaton. -/
theorem handle_simulated (event : DeamonEvent) (deamon : RipDeamon Driver)
    (hkeys : KeysMatch deamon.database) :
    let res := event.handle.run deamon
    Simulated deamon.host.answers event deamon.database (finalState res).database
      (succeeded res) fun key => event.heard key := by
  intro res
  cases event with
  | addLocalRoute network => exact setupAdvertisedNetwork_simulated (.inl rfl) _ deamon
  | httpRequest kind =>
      simp only [res, DeamonEvent.handle, finalState_discard, succeeded_discard]
      exact handleHttpRequest_simulated kind deamon
  | received packet => exact handlePacket_simulated hkeys
  | routeTimeoutTick timer =>
      simp only [res, DeamonEvent.handle, finalState_discard, succeeded_discard]
      exact handleRouteTimeoutTick_simulated timer hkeys
  | garbageCollectionTick timer =>
      simp only [res, DeamonEvent.handle, finalState_discard, succeeded_discard]
      exact handleGarbageCollectionTick_simulated timer deamon
  | advertise changedOnly => exact sendMulticastAdvertisement_simulated changedOnly deamon
  | sendRequests =>
      have hhost := sendMulticastRequest_hostOnly deamon
      rw [show (finalState res).database = deamon.database from hhost.database]
      exact .refl _ _ _ _

end RipV2.DeamonSimulation
