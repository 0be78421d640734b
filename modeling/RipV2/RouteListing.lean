import RipV2.MaskPrefixes
import RipV2.StableSorting

namespace RipV2.RouteListing

open RipV2.Address
open RipV2.AdminInterface
open RipV2.Database
open RipV2.Deamon
open RipV2.DeamonRuns
open RipV2.HashMapModel
open RipV2.HostEnvironment
open RipV2.KernelRoutes
open RipV2.MaskPrefixes
open RipV2.ReachableRoutes
open RipV2.RoutingTables
open RipV2.StableSorting
open RipV2.TransitionRuns

theorem compareKeys_eq_compareLex :
    HttpRoute.compareKeys = compareLex (compareOn HttpRoute.destination)
      (compareLex (compareOn HttpRoute.prefixLen)
        (compareLex (compareOn HttpRoute.nextHop) (compareOn HttpRoute.interfaceName))) := rfl

instance : Std.TransCmp HttpRoute.compareKeys := by
  rw [compareKeys_eq_compareLex]
  infer_instance

theorem compareKeys_trans (a b c : HttpRoute) (hab : (a.compareKeys b).isLE = true)
    (hbc : (b.compareKeys c).isLE = true) : (a.compareKeys c).isLE = true :=
  Std.TransCmp.isLE_trans hab hbc

theorem compareKeys_total (a b : HttpRoute) :
    ((a.compareKeys b).isLE || (b.compareKeys a).isLE) = true := by
  have hswap : a.compareKeys b = (b.compareKeys a).swap := Std.OrientedCmp.eq_swap
  rw [hswap]
  cases b.compareKeys a <;> rfl

theorem network_eq_of_tied {a b : HttpRoute} (hab : (a.compareKeys b).isLE = true)
    (hba : (b.compareKeys a).isLE = true) :
    a.destination = b.destination ∧ a.prefixLen = b.prefixLen := by
  have heq : a.compareKeys b = .eq := Std.OrientedCmp.isLE_antisymm hab hba
  rw [HttpRoute.compareKeys, Ordering.then_eq_eq, Ordering.then_eq_eq] at heq
  exact ⟨Std.LawfulEqCmp.eq_of_compare heq.1, Std.LawfulEqCmp.eq_of_compare heq.2.1⟩

/-- The rows of a table in the order in which it is iterated. -/
def rows (routes : HashMap RipRouteKey RipDbEntry) (state : String) : List HttpRoute :=
  routes.values.map (HttpRoute.fromDbEntry · state)

theorem fromDatabase_eq (database : RipDatabase) :
    HttpRoute.fromDatabase database =
      (rows database.okRoutes "active" ++ rows database.garbageRoutes "garbage").mergeSort
        fun a b => (a.compareKeys b).isLE := rfl

/-- Every route is stored under its own key, and its mask is contiguous. -/
def Keyed (routes : HashMap RipRouteKey RipDbEntry) : Prop :=
  ∀ key route, routes.lookup key = some route →
    buildRouteKey route.ripEntry = key ∧ ∃ p, IsMaskOfLength p route.ripEntry.subnetMask

theorem Keyed.route_eq {routes : HashMap RipRouteKey RipDbEntry} (h : Keyed routes)
    {route route' : RipDbEntry} (hmem : route ∈ routes.values) (hmem' : route' ∈ routes.values)
    {state : String}
    (hdestination : (HttpRoute.fromDbEntry route state).destination =
      (HttpRoute.fromDbEntry route' state).destination)
    (hlengths : (HttpRoute.fromDbEntry route state).prefixLen =
      (HttpRoute.fromDbEntry route' state).prefixLen) : route = route' := by
  obtain ⟨key, hroute⟩ := HashMap.mem_values_iff.mp hmem
  obtain ⟨key', hroute'⟩ := HashMap.mem_values_iff.mp hmem'
  obtain ⟨hkey, p, hp⟩ := h key route hroute
  obtain ⟨hkey', q, hq⟩ := h key' route' hroute'
  have haddress : route.ripEntry.ipAddress = route'.ripEntry.ipAddress :=
    ipv4ToString_injective hdestination
  have hmask : route.ripEntry.subnetMask = route'.ripEntry.subnetMask := by
    rw [hp.eq_iff hq, ← prefixLen_eq hp state, hlengths, prefixLen_eq hq]
  have hkeys : key = key' := by
    rw [← hkey, ← hkey', buildRouteKey, buildRouteKey, haddress, hmask]
  rw [← hkeys, hroute] at hroute'
  exact Option.some.inj hroute'

theorem Keyed.noTies_rows {routes : HashMap RipRouteKey RipDbEntry} (h : Keyed routes)
    (state : String) : NoTies (fun a b => (a.compareKeys b).isLE) (rows routes state) := by
  intro a ha b hb hab hba
  obtain ⟨route, hmem, rfl⟩ := List.mem_map.mp ha
  obtain ⟨route', hmem', rfl⟩ := List.mem_map.mp hb
  obtain ⟨hdestination, hlengths⟩ := network_eq_of_tied hab hba
  rw [h.route_eq hmem hmem' hdestination hlengths]

theorem Keyed.nodup_rows {routes : HashMap RipRouteKey RipDbEntry} (h : Keyed routes)
    (state : String) : (rows routes state).Nodup := by
  have hvalues : routes.values.Nodup := by
    have hkeys := routes.nodup_keys
    rw [← HashMap.values_map_eq_keys fun key route hroute => (h key route hroute).1] at hkeys
    exact hkeys.of_map
  refine hvalues.map_on fun route hmem route' hmem' hrow => ?_
  exact h.route_eq hmem hmem' (congrArg HttpRoute.destination hrow)
    (congrArg HttpRoute.prefixLen hrow)

theorem state_of_mem_rows {routes : HashMap RipRouteKey RipDbEntry} {state : String}
    {row : HttpRoute} (h : row ∈ rows routes state) : row.state = state := by
  obtain ⟨route, -, rfl⟩ := List.mem_map.mp h
  rfl

theorem nodup_allRows {database : RipDatabase} (hactive : Keyed database.okRoutes)
    (hgarbage : Keyed database.garbageRoutes) :
    (rows database.okRoutes "active" ++ rows database.garbageRoutes "garbage").Nodup := by
  rw [List.nodup_append]
  refine ⟨hactive.nodup_rows _, hgarbage.nodup_rows _, ?_⟩
  rintro row hok _ hrow rfl
  have hstates := (state_of_mem_rows hok).symm.trans (state_of_mem_rows hrow)
  exact absurd hstates (by decide)

variable {Driver : Type} [RoutingTableDriver Driver]

theorem keyed_of_run {deamon deamon' : RipDeamon Driver} {labels : List (Answers × DeamonEvent)}
    (hinitial : Initial deamon) (hrun : Run Attempted deamon labels deamon') :
    Keyed deamon'.database.okRoutes ∧ Keyed deamon'.database.garbageRoutes := by
  constructor
  · intro key route hroute
    have hwell := (run_wellFormed hinitial hrun key).active route hroute
    exact ⟨hwell.keyed, maskLength_of_keyed hwell.keyed hwell.contiguous⟩
  · intro key route hroute
    have hwell := (run_wellFormed hinitial hrun key).garbage route hroute
    exact ⟨hwell.keyed, maskLength_of_keyed hwell.keyed hwell.contiguous⟩

/-- Whatever the daemon has gone through, the listing has one row for each
active route and one for each garbage route, no two the same, in the order of
their keys; and it is the same however the two maps are iterated. -/
theorem run_fromDatabase {deamon deamon' : RipDeamon Driver}
    {labels : List (Answers × DeamonEvent)} (hinitial : Initial deamon)
    (hrun : Run Attempted deamon labels deamon') :
    let database := deamon'.database
    (HttpRoute.fromDatabase database).Perm
        (database.okRoutes.values.map (HttpRoute.fromDbEntry · "active") ++
          database.garbageRoutes.values.map (HttpRoute.fromDbEntry · "garbage")) ∧
      (HttpRoute.fromDatabase database).Nodup ∧
      (HttpRoute.fromDatabase database).Pairwise (fun a b => (a.compareKeys b).isLE = true) ∧
      ∀ database', database.Reordered database' →
        HttpRoute.fromDatabase database' = HttpRoute.fromDatabase database := by
  intro database
  obtain ⟨hactive, hgarbage⟩ := keyed_of_run hinitial hrun
  have hnodup := nodup_allRows hactive hgarbage
  rw [fromDatabase_eq]
  refine ⟨List.mergeSort_perm _ _, (List.mergeSort_perm _ _).nodup_iff.mpr hnodup,
    List.pairwise_mergeSort compareKeys_trans compareKeys_total _, fun database' horder => ?_⟩
  rw [fromDatabase_eq]
  exact (mergeSort_append_perm compareKeys_trans compareKeys_total (hactive.noTies_rows _)
    (hgarbage.noTies_rows _) hnodup (horder.okRoutes.perm_values.map _)
    (horder.garbageRoutes.perm_values.map _)).symm

theorem learningEvents_fromDatabase :
    ∃ deamon', Run Step learningDeamon learningEvents deamon' ∧
      deamon'.database.allRoutes.length = 2 ∧
      ∀ database', deamon'.database.Reordered database' →
        HttpRoute.fromDatabase database' = HttpRoute.fromDatabase deamon'.database := by
  have hany : (runEvents learningDeamon learningEvents).any (fun deamon =>
      deamon.database.allRoutes.length == 2) = true := by decide +kernel
  obtain ⟨deamon', hrun, hlength⟩ := exists_run hany
  exact ⟨deamon', hrun, by simpa using hlength,
    (run_fromDatabase ⟨rfl, rfl⟩ (run_attempted hrun)).2.2.2⟩

end RipV2.RouteListing
