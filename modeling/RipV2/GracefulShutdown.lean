import RipV2.RecordedCalls
import RipV2.SentDatagrams

/-!
What the shutdown of a daemon does, whichever of its calls fail: every route in
the routing table is deleted with the metric it was added with, and nothing but
unreachable routes is announced.
-/

namespace RipV2.GracefulShutdown

open RipV2.AdvertisedBuffers
open RipV2.Database
open RipV2.Deamon
open RipV2.Deamon.RipDeamon
open RipV2.DeamonRuns
open RipV2.DestinationSlots
open RipV2.DriverFailures
open RipV2.EffectLogic
open RipV2.HashMapModel
open RipV2.HostEnvironment
open RipV2.KernelRoutes
open RipV2.Packets
open RipV2.ReachableRoutes
open RipV2.RecordedCalls
open RipV2.Results
open RipV2.RoutingTables
open RipV2.SentDatagrams
open RipV2.TransitionRuns
open RipV2.Updater

theorem allRoutes_poisonAllRoutes (database : RipDatabase) :
    database.poisonAllRoutes.allRoutes = database.allRoutes.map RipDbEntry.poisoned := by
  rw [RipDatabase.poisonAllRoutes]
  split_ifs with hempty
  · rw [Bool.and_eq_true, List.isEmpty_iff, List.isEmpty_iff] at hempty
    simp [RipDatabase.allRoutes, HashMap.values, hempty.1, hempty.2]
  · simp [RipDatabase.allRoutes, HashMap.values, HashMap.mapValues_entries, Function.comp_def]

theorem storedRoutes_poisonAllRoutes (database : RipDatabase) :
    storedRoutes database.poisonAllRoutes =
      (storedRoutes database).map RipDbEntry.poisoned := by
  rw [storedRoutes_eq, allRoutes_poisonAllRoutes, storedRoutes_eq, Multiset.map_coe]

theorem announcedEntries_poisonAllRoutes (database : RipDatabase) (targetIfIndex : UInt32) :
    announcedEntries targetIfIndex false database.poisonAllRoutes =
      ((storedRoutes database).filter fun route => route.ifIndex ≠ targetIfIndex).map
        fun route => route.poisoned.advertised := by
  rw [announcedEntries, storedRoutes_poisonAllRoutes, Multiset.filter_map, Multiset.map_map]
  congr 1
  apply Multiset.filter_congr
  intro route _
  simp [AnnouncedOn, RipDbEntry.poisoned]

theorem metric_of_announcedEntries {database : RipDatabase} {targetIfIndex : UInt32}
    {entry : RipEntry}
    (h : entry ∈ announcedEntries targetIfIndex false database.poisonAllRoutes) :
    entry.metric = 16 := by
  rw [announcedEntries_poisonAllRoutes] at h
  obtain ⟨route, -, rfl⟩ := Multiset.mem_map.mp h
  rfl

variable {Driver : Type}

/-- The daemon between poisoning its routes and announcing them. -/
def poisoned (deamon : RipDeamon Driver) : RipDeamon Driver :=
  { deamon with database := deamon.database.poisonAllRoutes }

/-- The routes to delete are looked up before they are poisoned. -/
theorem handleShutdown_run [RoutingTableDriver Driver] (deamon : RipDeamon Driver) :
    handleShutdown.run deamon =
      (deamon.database.getRoutesInRoutingTable.forM fun route => do
        let _ ← (attempt (deleteRoute route) : DeamonM Driver (Except RipError Unit))).run
        (finalState ((sendMulticastAdvertisement false).run (poisoned deamon))) := by
  rw [handleShutdown, EStateM.run_bind, EStateM.run_get, poisoned]
  simp only [EStateM.run_bind, modifyDatabase, EStateM.run_modify, run_attempt]
  cases (sendMulticastAdvertisement false).run
    { deamon with database := deamon.database.poisonAllRoutes } <;> rfl

variable [KernelDriver Driver]

theorem attempt_deleteRoute_run (route : RipDbEntry) (deamon : RipDeamon (Recorded Driver)) :
    ∃ res driver taken,
      (attempt (deleteRoute route) : DeamonM (Recorded Driver) (Except RipError Unit)).run
        deamon = .ok res { deamon with routingTable := { driver } } ∧
      driver.calls = deamon.routingTable.driver.calls ++ [(.delete route, taken)] ∧
      (taken = true →
        KernelDriver.routes driver = (kernelRoutes deamon).erase (buildRouteMessage route)) := by
  have hcalls := issue_calls (.delete route) deamon.routingTable.driver
  rw [run_attempt]
  rcases perform_cases (.delete route) deamon with
    ⟨driver, hissue, hrun⟩ | ⟨e, driver, hissue, hrun⟩
  all_goals
    change (deleteRoute route).run deamon = _ at hrun
    rw [hissue] at hcalls
    rw [hrun]
  · exact ⟨_, driver, true, rfl, hcalls, fun _ => issue_ok_routes hissue⟩
  · exact ⟨_, driver, false, rfl, hcalls, fun htaken => absurd htaken (by simp)⟩

theorem deletes_run (routes : List RipDbEntry) (deamon : RipDeamon (Recorded Driver)) :
    ∃ driver taken, taken.length = routes.length ∧
      (routes.forM fun route => do
        let _ ← (attempt (deleteRoute route) :
          DeamonM (Recorded Driver) (Except RipError Unit))).run deamon =
        .ok () { deamon with routingTable := { driver } } ∧
      driver.calls =
        deamon.routingTable.driver.calls ++ (routes.map DriverCall.delete).zip taken ∧
      ((∀ b ∈ taken, b = true) → ∀ m ∈ KernelDriver.routes driver,
        m ∈ kernelRoutes deamon ∧ m ∉ routes.map buildRouteMessage) := by
  induction routes generalizing deamon with
  | nil => exact ⟨deamon.routingTable.driver, [], rfl, rfl, by simp, fun _ m hm => ⟨hm, by simp⟩⟩
  | cons route routes ih =>
      obtain ⟨res, driver₁, b, hrun, hcalls, herased⟩ := attempt_deleteRoute_run route deamon
      obtain ⟨driver, taken, hlength, hrest, hdriver, hroutes⟩ :=
        ih { deamon with routingTable := { driver := driver₁ } }
      refine ⟨driver, b :: taken, by simp [hlength], ?_, ?_, ?_⟩
      · simp only [List.forM_eq_forM, List.forM_cons, EStateM.run_bind, hrun]
        exact hrest
      · rw [hdriver, hcalls]
        simp
      · intro htaken m hm
        obtain ⟨hmem, hother⟩ := hroutes (fun b' hb' => htaken b' (by simp [hb'])) m hm
        change m ∈ KernelDriver.routes driver₁ at hmem
        rw [herased (htaken b (by simp))] at hmem
        obtain ⟨hne, hold⟩ := Finset.mem_erase.mp hmem
        refine ⟨hold, ?_⟩
        rw [List.map_cons, List.mem_cons, not_or]
        exact ⟨hne, hother⟩

theorem getRoutesInRoutingTable_nodup {database : RipDatabase}
    (hwell : ∀ key, WellFormed key (slot database key)) :
    (database.getRoutesInRoutingTable.map fun route => buildRouteKey route.ripEntry).Nodup := by
  have hgarbage :
      database.garbageRoutes.values.filter (fun route => route.inRoutingTable) = [] := by
    rw [List.filter_eq_nil_iff]
    intro route hmem
    obtain ⟨key, hlookup⟩ := HashMap.mem_values_iff.mp hmem
    simp [((hwell key).garbage route hlookup).inRoutingTable]
  have hkeys := keysMatch_of_wellFormed hwell
  have hnodup := database.okRoutes.nodup_keys
  rw [← HashMap.values_map_eq_keys hkeys] at hnodup
  rw [RipDatabase.getRoutesInRoutingTable, RipDatabase.allRoutes, List.filter_append, hgarbage,
    List.append_nil]
  exact hnodup.sublist (List.filter_sublist.map _)

theorem message_of_inRoutingTable {database : RipDatabase}
    (hwell : ∀ key, WellFormed key (slot database key)) {route : RipDbEntry}
    (hroute : route ∈ database.getRoutesInRoutingTable) :
    messages database (buildRouteKey route.ripEntry) = some (buildRouteMessage route) := by
  obtain ⟨hmem, htable⟩ := List.mem_filter.mp hroute
  rcases RipDatabase.mem_allRoutes_iff.mp hmem with ⟨key, hactive⟩ | ⟨key, hgarbage⟩
  · rw [keysMatch_of_wellFormed hwell key route hactive, messages, message?, slot_active,
      hactive, Option.bind_some, if_pos htable]
  · rw [((hwell key).garbage route hgarbage).inRoutingTable] at htable
    exact absurd htable (by simp)

/-- A daemon on one interface, with a kernel that refuses the first delete. -/
def shutdownDeamon : RipDeamon (Recorded RefusingKernel) where
  routingTable :=
    { driver := { driver := { routes := ∅, refusals := [false, true] }, calls := [] } }
  interfaces := [{ ifName := "eth0", rx := none, tx := { ifName := "eth0", ifIndex := 1 } }]
  database := RipDatabase.new
  host := { answers := Answers.steady 0 [], sent := [] }

end RipV2.GracefulShutdown
