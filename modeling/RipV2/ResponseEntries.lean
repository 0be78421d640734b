import RipV2.DestinationSlots

namespace RipV2.ResponseEntries

open RipV2.Database
open RipV2.Deamon
open RipV2.Deamon.RipDeamon
open RipV2.DestinationSlots
open RipV2.EffectLogic
open RipV2.HashMapModel
open RipV2.HostEnvironment
open RipV2.Packets
open RipV2.Results
open RipV2.RoutingTables

variable {Driver : Type}

/-- Only the routing table, the database and the clock may have moved. -/
structure Silent (deamon deamon' : RipDeamon Driver) : Prop where
  interfaces : deamon'.interfaces = deamon.interfaces
  sent : deamon'.host.sent = deamon.host.sent

theorem Silent.refl (deamon : RipDeamon Driver) : Silent deamon deamon :=
  ⟨rfl, rfl⟩

theorem Silent.trans {a b c : RipDeamon Driver} (h : Silent a b) (h' : Silent b c) :
    Silent a c :=
  ⟨h'.interfaces.trans h.interfaces, h'.sent.trans h.sent⟩

theorem evolves_now : Evolves Silent (onHost instantNow : DeamonM Driver Instant) :=
  fun _ => ⟨rfl, rfl⟩

theorem evolves_onRoutingTable (m : EStateM RipError (RoutingTable Driver) Unit) :
    Evolves (fun deamon deamon' => Silent deamon deamon' ∧
      deamon'.database = deamon.database ∧ deamon'.host = deamon.host)
      (onRoutingTable m : DeamonM Driver Unit) :=
  evolves_zoom (R := fun _ _ => True) (fun _ _ _ => ⟨⟨rfl, rfl⟩, rfl, rfl⟩) fun _ => trivial

variable [RoutingTableDriver Driver]

theorem addRoute_database (route : RipDbEntry) (deamon : RipDeamon Driver) :
    (finalState ((addRoute route).run deamon)).database = deamon.database :=
  (evolves_onRoutingTable _ deamon).2.1

theorem deleteRoute_database (route : RipDbEntry) (deamon : RipDeamon Driver) :
    (finalState ((deleteRoute route).run deamon)).database = deamon.database :=
  (evolves_onRoutingTable _ deamon).2.1

theorem addRoute_succeeds (hdriver : NeverFails Driver) (route : RipDbEntry)
    (deamon : RipDeamon Driver) : succeeded ((addRoute route).run deamon) = true := by
  have h := hdriver.addRoute route deamon.routingTable.driver
  simp only [addRoute, onRoutingTable, RoutingTable.addRoute, run_zoom]
  cases hrun : (RoutingTableDriver.addRoute route).run deamon.routingTable.driver with
  | ok a driver => rfl
  | error e driver => rw [hrun] at h; exact absurd h (by simp)

theorem deleteRoute_succeeds (hdriver : NeverFails Driver) (route : RipDbEntry)
    (deamon : RipDeamon Driver) : succeeded ((deleteRoute route).run deamon) = true := by
  have h := hdriver.deleteRoute route deamon.routingTable.driver
  simp only [deleteRoute, onRoutingTable, RoutingTable.deleteRoute, run_zoom]
  cases hrun : (RoutingTableDriver.deleteRoute route).run deamon.routingTable.driver with
  | ok a driver => rfl
  | error e driver => rw [hrun] at h; exact absurd h (by simp)

/-- Replacing a route whose database steps are known to succeed. -/
def swap (oldRoute : RipDbEntry) (entry : RipEntry) (ifInfo : RipIfInfo) :
    DeamonM Driver Unit := do
  deleteRoute oldRoute
  modifyDatabase (replace entry ifInfo)
  addRoute (learnedRoute entry ifInfo)

theorem addRemoteRoute_run {database : RipDatabase} (entry : RipEntry) (ifInfo : RipIfInfo)
    (hfree : database.okRoutes.lookup (buildRouteKey entry) = none) :
    (RipDatabase.addRemoteRoute entry ifInfo.ifIndex ifInfo.ifName).run database =
      .ok (learnedRoute entry ifInfo) { database with
        okRoutes := database.okRoutes.insert (buildRouteKey entry) (learnedRoute entry ifInfo)
        anyRouteChanged := true } := by
  simp [RipDatabase.addRemoteRoute, RipDatabase.addRoute, EStateM.run, hfree, learnedRoute]

theorem removeRoute_run {database : RipDatabase} {entry : RipEntry} {route : RipDbEntry}
    (hactive : database.okRoutes.lookup (buildRouteKey entry) = some route) :
    (RipDatabase.removeRoute entry).run database = .ok route
      { database with okRoutes := database.okRoutes.erase (buildRouteKey entry) } := by
  simp [RipDatabase.removeRoute, EStateM.run, hactive]

theorem replaceRouteFromResponse_run {deamon : RipDeamon Driver} {oldRoute route : RipDbEntry}
    {entry : RipEntry} (ifInfo : RipIfInfo)
    (hactive : deamon.database.okRoutes.lookup (buildRouteKey entry) = some route)
    (hkey : buildRouteKey oldRoute.ripEntry = buildRouteKey entry) :
    (replaceRouteFromResponse oldRoute entry ifInfo.ifIndex ifInfo.ifName).run deamon =
      (swap oldRoute entry ifInfo).run deamon := by
  rw [replaceRouteFromResponse, swap, EStateM.run_bind, EStateM.run_bind]
  cases hdelete : (deleteRoute oldRoute).run deamon with
  | error e deamon₁ => rfl
  | ok a deamon₁ =>
      have hdatabase := deleteRoute_database oldRoute deamon
      rw [hdelete, finalState_ok] at hdatabase
      rw [← hdatabase, ← hkey] at hactive
      have hfree : (deamon₁.database.okRoutes.erase (buildRouteKey oldRoute.ripEntry)).lookup
          (buildRouteKey entry) = none := by
        rw [hkey, HashMap.lookup_erase, if_pos rfl]
      simp only [onDatabase, modifyDatabase, EStateM.run_bind, EStateM.run_modify, run_zoom,
        removeRoute_run hactive]
      rw [addRemoteRoute_run entry ifInfo hfree, hkey]
      rfl

section Formulas

variable {deamon : RipDeamon Driver} {entry : RipEntry} {ifInfo : RipIfInfo}

theorem updateRouteFromResponse_ignore
    (h : verdict (deamon.database.getRoute entry) entry ifInfo = .ignore) :
    (updateRouteFromResponse entry ifInfo).run deamon = .ok () deamon := by
  rw [updateRouteFromResponse]
  cases hroute : deamon.database.getRoute entry with
  | none =>
      rw [hroute, verdict] at h
      split_ifs at h with hmetric
      rw [if_pos hmetric]
      simp [handlePoisonedRouteFromResponse, hroute]
  | some oldRoute =>
      rw [hroute, verdict] at h
      split_ifs at h with hmetric hhop hhop hsame hbetter
      · rw [if_pos hmetric]
        simp [handlePoisonedRouteFromResponse, hroute, hhop]
      · rw [if_neg hmetric]
        simp [hroute, hhop, hbetter]

theorem updateRouteFromResponse_refresh {oldRoute : RipDbEntry}
    (h : verdict (deamon.database.getRoute entry) entry ifInfo = .refresh oldRoute) :
    (updateRouteFromResponse entry ifInfo).run deamon =
      .ok () { deamon with database := deamon.database.refreshRouteTimeout entry } := by
  obtain ⟨hroute, hmetric, rfl, hsame⟩ := verdict_refresh h
  rw [updateRouteFromResponse, if_neg (UInt32.not_le.mpr hmetric)]
  simp [hroute, routeIsFromCurrentNextHop, hsame, modifyDatabase]

theorem updateRouteFromResponse_learn
    (h : verdict (deamon.database.getRoute entry) entry ifInfo = .learn) :
    (updateRouteFromResponse entry ifInfo).run deamon =
      (addRoute (learnedRoute entry ifInfo)).run
        { deamon with database := learn entry ifInfo deamon.database } := by
  obtain ⟨hroute, hmetric⟩ := verdict_learn h
  have hfree : (RipDatabase.removeGarbageRoute entry deamon.database).okRoutes.lookup
      (buildRouteKey entry) = none := hroute
  rw [updateRouteFromResponse, if_neg (UInt32.not_le.mpr hmetric), EStateM.run_bind,
    EStateM.run_get]
  simp only [hroute, modifyDatabase, onDatabase, EStateM.run_bind, EStateM.run_modify, run_zoom]
  rw [addRemoteRoute_run entry ifInfo hfree]
  rfl

theorem updateRouteFromResponse_update {oldRoute : RipDbEntry} (hkeys : KeysMatch deamon.database)
    (h : verdict (deamon.database.getRoute entry) entry ifInfo = .update oldRoute) :
    (updateRouteFromResponse entry ifInfo).run deamon =
      (swap oldRoute entry ifInfo).run
        { deamon with database := deamon.database.refreshRouteTimeout entry } := by
  obtain ⟨hroute, hmetric, hhop⟩ := verdict_update h
  have hdiffer : ¬(oldRoute.ripEntry = entry ∧ oldRoute.ifIndex = ifInfo.ifIndex ∧
      oldRoute.ifName = ifInfo.ifName) := by
    intro hsame
    rw [hroute, verdict] at h
    simp [UInt32.not_le.mpr hmetric, hhop, hsame] at h
  have hactive := lookup_refreshRouteTimeout hroute
  rw [updateRouteFromResponse, if_neg (UInt32.not_le.mpr hmetric),
    ← replaceRouteFromResponse_run ifInfo hactive (hkeys _ _ hroute)]
  simp [hroute, hhop, hdiffer, modifyDatabase]

theorem updateRouteFromResponse_switch {oldRoute : RipDbEntry} (hkeys : KeysMatch deamon.database)
    (h : verdict (deamon.database.getRoute entry) entry ifInfo = .switch oldRoute) :
    (updateRouteFromResponse entry ifInfo).run deamon =
      (swap oldRoute entry ifInfo).run deamon := by
  obtain ⟨hroute, hmetric, hbetter, hhop⟩ := verdict_switch h
  rw [updateRouteFromResponse, if_neg (UInt32.not_le.mpr hmetric),
    ← replaceRouteFromResponse_run ifInfo hroute (hkeys _ _ hroute)]
  simp [hroute, hhop, hbetter]

theorem updateRouteFromResponse_poison {oldRoute : RipDbEntry}
    (h : verdict (deamon.database.getRoute entry) entry ifInfo = .poison oldRoute) :
    (updateRouteFromResponse entry ifInfo).run deamon = (expireRoute oldRoute).run deamon := by
  obtain ⟨hroute, hmetric, hhop⟩ := verdict_poison h
  rw [updateRouteFromResponse, if_pos hmetric]
  simp [handlePoisonedRouteFromResponse, expireRoute, hroute, hhop]

end Formulas

theorem expireRoute_spec {deamon : RipDeamon Driver} {oldRoute route : RipDbEntry}
    (hactive : deamon.database.okRoutes.lookup (buildRouteKey oldRoute.ripEntry) = some route) :
    let res := (expireRoute oldRoute).run deamon
    (succeeded res = false ∧ (finalState res).database = deamon.database ∧
        ¬NeverFails Driver) ∨
      ∃ now, (finalState res).database =
          toGarbage (buildRouteKey oldRoute.ripEntry) route now deamon.database ∧
        succeeded res =
          (deamon.database.garbageRoutes.lookup (buildRouteKey oldRoute.ripEntry)).isNone := by
  intro res
  have hdatabase := deleteRoute_database oldRoute deamon
  have hsucceeds := fun hdriver => deleteRoute_succeeds hdriver oldRoute deamon
  simp only [res, expireRoute, EStateM.run_bind]
  cases hdelete : (deleteRoute oldRoute).run deamon with
  | error e deamon₁ =>
      rw [hdelete] at hdatabase hsucceeds
      exact .inl ⟨rfl, hdatabase, fun hdriver => absurd (hsucceeds hdriver) (by simp)⟩
  | ok a deamon₁ =>
      rw [hdelete, finalState_ok] at hdatabase
      refine .inr ⟨deamon₁.host.answers.instants.head, ?_⟩
      rw [← hdatabase] at hactive ⊢
      have hmove := moveRouteToGarbage_run deamon₁.host.answers.instants.head hactive
      simp only [onHost, onDatabase, run_zoom, run_instantNow]
      cases hrun : (RipDatabase.moveRouteToGarbage oldRoute.ripEntry
          deamon₁.host.answers.instants.head).run deamon₁.database <;>
        (rw [hrun] at hmove; exact hmove)

theorem swap_spec (deamon : RipDeamon Driver) (oldRoute : RipDbEntry) (entry : RipEntry)
    (ifInfo : RipIfInfo) :
    let res := (swap oldRoute entry ifInfo).run deamon
    (succeeded res = false ∧ (finalState res).database = deamon.database ∧
        ¬NeverFails Driver) ∨
      ((finalState res).database = replace entry ifInfo deamon.database ∧
        (NeverFails Driver → succeeded res = true)) := by
  intro res
  have hdatabase := deleteRoute_database oldRoute deamon
  have hsucceeds := fun hdriver => deleteRoute_succeeds hdriver oldRoute deamon
  simp only [res, swap, EStateM.run_bind]
  cases hdelete : (deleteRoute oldRoute).run deamon with
  | error e deamon₁ =>
      rw [hdelete] at hdatabase hsucceeds
      exact .inl ⟨rfl, hdatabase, fun hdriver => absurd (hsucceeds hdriver) (by simp)⟩
  | ok a deamon₁ =>
      rw [hdelete, finalState_ok] at hdatabase
      refine .inr ⟨?_, fun hdriver => addRoute_succeeds hdriver _ _⟩
      rw [← hdatabase]
      exact addRoute_database _ _

/-- The entry's destination hears it, every other destination stays as it is. -/
def Heard (entry : RipEntry) (ifInfo : RipIfInfo) (database database' : RipDatabase) : Prop :=
  ∃ now, ∀ key, slot database' key =
    if key = buildRouteKey entry then (slot database key).hear now entry ifInfo
    else slot database key

/-- A conflict ended the entry: its destination is refused, the others are as they were. -/
def Refused (entry : RipEntry) (ifInfo : RipIfInfo) (database database' : RipDatabase) : Prop :=
  ∀ key, slot database' key =
    if key = buildRouteKey entry then (slot database key).refuse entry ifInfo
    else slot database key

theorem slot_at {database database' : RipDatabase} {key : RipRouteKey} {s : RipRouteKey → Slot}
    {f : Slot → Slot}
    (hslot : ∀ key', slot database' key' = if key' = key then s key' else slot database key')
    (hs : s key = f (slot database key)) (key' : RipRouteKey) :
    slot database' key' = if key' = key then f (slot database key') else slot database key' := by
  rw [hslot key']
  split_ifs with hkey
  · rw [hkey]
    exact hs
  · rfl

theorem swap_outcome (deamon : RipDeamon Driver) (oldRoute : RipDbEntry) {entry : RipEntry}
    {ifInfo : RipIfInfo} {database : RipDatabase} {s : RipRouteKey → Slot}
    (hslot : ∀ key, slot database key =
      if key = buildRouteKey entry then s key else slot deamon.database key)
    (hhear : { s (buildRouteKey entry) with active := some (learnedRoute entry ifInfo) } =
      (slot deamon.database (buildRouteKey entry)).hear 0 entry ifInfo)
    (hrefuse : s (buildRouteKey entry) =
      (slot deamon.database (buildRouteKey entry)).refuse entry ifInfo) :
    let res := (swap oldRoute entry ifInfo).run { deamon with database }
    (Heard entry ifInfo deamon.database (finalState res).database ∧
        (NeverFails Driver → succeeded res = true)) ∨
      (Refused entry ifInfo deamon.database (finalState res).database ∧
        succeeded res = false ∧ ¬NeverFails Driver) := by
  intro res
  rcases swap_spec { deamon with database } oldRoute entry ifInfo with
    ⟨hfails, hdatabase, hdriver⟩ | ⟨hdatabase, hsucceeds⟩
  · refine .inr ⟨?_, hfails, hdriver⟩
    rw [hdatabase]
    exact slot_at hslot hrefuse
  · have hreplaced : ∀ key, slot (finalState res).database key =
        if key = buildRouteKey entry then
          { s key with active := some (learnedRoute entry ifInfo) }
        else slot deamon.database key := by
      intro key
      rw [hdatabase, slot_replace, hslot]
      split_ifs <;> rfl
    exact .inl ⟨⟨0, slot_at hreplaced hhear⟩, hsucceeds⟩

theorem updateRouteFromResponse_spec {deamon : RipDeamon Driver} (entry : RipEntry)
    (ifInfo : RipIfInfo) (hkeys : KeysMatch deamon.database) :
    let res := (updateRouteFromResponse entry ifInfo).run deamon
    let conflict := (slot deamon.database (buildRouteKey entry)).conflict entry ifInfo
    (Heard entry ifInfo deamon.database (finalState res).database ∧
        (succeeded res = true → conflict = false) ∧
        (NeverFails Driver → succeeded res = !conflict)) ∨
      (Refused entry ifInfo deamon.database (finalState res).database ∧
        succeeded res = false ∧ ¬NeverFails Driver) := by
  intro res conflict
  have hpeaceful : ∀ {v}, verdict (slot deamon.database (buildRouteKey entry)).active
      entry ifInfo = v → (∀ old, v ≠ .poison old) → conflict = false := by
    rintro _ rfl hother
    exact Slot.conflict_eq_false fun old hverdict => absurd hverdict (hother old)
  cases hverdict : verdict (slot deamon.database (buildRouteKey entry)).active entry ifInfo with
  | ignore =>
      have hconflict := hpeaceful hverdict (by simp)
      simp only [res, updateRouteFromResponse_ignore hverdict, hconflict]
      refine .inl ⟨⟨0, slot_at (fun _ => (ite_self _).symm) ?_⟩, fun _ => trivial, fun _ => rfl⟩
      simp only [finalState_ok, Slot.hear, hverdict]
  | refresh oldRoute =>
      have hconflict := hpeaceful hverdict (by simp)
      simp only [res, updateRouteFromResponse_refresh hverdict, hconflict]
      refine .inl ⟨⟨0, slot_at (slot_refreshRouteTimeout entry deamon.database) ?_⟩,
        fun _ => trivial, fun _ => rfl⟩
      rw [Slot.hear, hverdict, (verdict_refresh hverdict).1]
      rfl
  | learn =>
      have hconflict := hpeaceful hverdict (by simp)
      simp only [res, updateRouteFromResponse_learn hverdict, hconflict]
      refine .inl ⟨⟨0, ?_⟩, fun _ => trivial, fun hdriver => addRoute_succeeds hdriver _ _⟩
      rw [addRoute_database]
      refine slot_at (slot_learn entry ifInfo deamon.database) ?_
      rw [Slot.hear, hverdict]
  | update oldRoute =>
      have hconflict := hpeaceful hverdict (by simp)
      simp only [res, updateRouteFromResponse_update hkeys hverdict, hconflict]
      have hhear : (slot deamon.database (buildRouteKey entry)).hear 0 entry ifInfo =
          { slot deamon.database (buildRouteKey entry) with
            active := some (learnedRoute entry ifInfo) } := by
        rw [Slot.hear, hverdict]
      have hrefuse : (slot deamon.database (buildRouteKey entry)).refuse entry ifInfo =
          { slot deamon.database (buildRouteKey entry) with
            active := some oldRoute.refreshed } := by
        rw [Slot.refuse, hverdict]
      have hslot := slot_refreshRouteTimeout entry deamon.database
      have houtcome := swap_outcome deamon oldRoute hslot hhear.symm (by
        rw [hrefuse, (verdict_update hverdict).1]
        rfl)
      exact houtcome.imp_left fun ⟨hheard, hsucceeds⟩ => ⟨hheard, fun _ => trivial, hsucceeds⟩
  | switch oldRoute =>
      have hconflict := hpeaceful hverdict (by simp)
      simp only [res, updateRouteFromResponse_switch hkeys hverdict, hconflict]
      have houtcome := swap_outcome deamon oldRoute (fun _ => (ite_self _).symm)
        (by rw [Slot.hear, hverdict]) (by rw [Slot.refuse, hverdict])
      exact houtcome.imp_left fun ⟨hheard, hsucceeds⟩ => ⟨hheard, fun _ => trivial, hsucceeds⟩
  | poison oldRoute =>
      have hroute := (verdict_poison hverdict).1
      have hkey : buildRouteKey oldRoute.ripEntry = buildRouteKey entry := hkeys _ _ hroute
      have hconflict : conflict =
          (deamon.database.garbageRoutes.lookup (buildRouteKey entry)).isSome := by
        simp only [conflict, Slot.conflict, hverdict]
        rfl
      simp only [res, updateRouteFromResponse_poison hverdict, hconflict]
      rcases expireRoute_spec (hkeys.lookup_eq hroute) with
        ⟨hfails, hdatabase, hdriver⟩ | ⟨now, hdatabase, hsucceeds⟩
      · refine .inr ⟨?_, hfails, hdriver⟩
        rw [hdatabase]
        refine slot_at (fun _ => (ite_self _).symm) ?_
        rw [Slot.refuse, hverdict]
      · rw [hkey] at hdatabase hsucceeds
        rw [hsucceeds]
        refine .inl ⟨⟨now, ?_⟩, by simp, by simp⟩
        rw [hdatabase]
        refine slot_at (slot_toGarbage oldRoute now deamon.database (buildRouteKey entry)) ?_
        rw [Slot.hear, hverdict]

end RipV2.ResponseEntries
