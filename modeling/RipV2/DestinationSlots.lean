import RipV2.Deamon

/-!
The database seen from one destination. Every operation of the daemon acts on
each destination separately; a slot is what the two maps hold under one key.
-/

namespace RipV2.DestinationSlots

open RipV2.Database
open RipV2.Deamon
open RipV2.EffectLogic
open RipV2.HashMapModel
open RipV2.HostEnvironment
open RipV2.Packets

/-- The routes of one destination. -/
structure Slot where
  active : Option RipDbEntry
  garbage : Option RipDbEntry
deriving DecidableEq

def slot (database : RipDatabase) (key : RipRouteKey) : Slot where
  active := database.okRoutes.lookup key
  garbage := database.garbageRoutes.lookup key

@[simp] theorem slot_active (database : RipDatabase) (key : RipRouteKey) :
    (slot database key).active = database.okRoutes.lookup key := rfl

@[simp] theorem slot_garbage (database : RipDatabase) (key : RipRouteKey) :
    (slot database key).garbage = database.garbageRoutes.lookup key := rfl

@[simp] theorem slot_new (key : RipRouteKey) : slot RipDatabase.new key = ⟨none, none⟩ := rfl

theorem slot_reordered {database database' : RipDatabase}
    (h : database.Reordered database') (key : RipRouteKey) :
    slot database' key = slot database key := by
  rw [slot, slot, h.okRoutes.lookup_eq key, h.garbageRoutes.lookup_eq key]

/-- The entry that `addRemoteRoute` stores for a learned route. -/
def learnedRoute (entry : RipEntry) (ifInfo : RipIfInfo) : RipDbEntry where
  ripEntry := entry
  ifIndex := ifInfo.ifIndex
  ifName := ifInfo.ifName
  changed := true
  isLocal := false
  inRoutingTable := true
  timeoutCnt := 0
  garbageStartedAt := none

/-- What an entry of a response means for its destination, given the active
route there. -/
inductive Verdict where
  | ignore
  | refresh (oldRoute : RipDbEntry)
  | learn
  | update (oldRoute : RipDbEntry)
  | switch (oldRoute : RipDbEntry)
  | poison (oldRoute : RipDbEntry)
deriving DecidableEq

/-- What an entry comes to, as decided from the active route alone. -/
def verdict (active : Option RipDbEntry) (entry : RipEntry) (ifInfo : RipIfInfo) : Verdict :=
  match active with
  | none => if entry.metric ≥ ripInfinityMetric then .ignore else .learn
  | some oldRoute =>
      if entry.metric ≥ ripInfinityMetric then
        if routeIsFromCurrentNextHop oldRoute entry then .poison oldRoute else .ignore
      else if routeIsFromCurrentNextHop oldRoute entry then
        if oldRoute.ripEntry = entry ∧ oldRoute.ifIndex = ifInfo.ifIndex ∧
            oldRoute.ifName = ifInfo.ifName then .refresh oldRoute
        else .update oldRoute
      else if oldRoute.ripEntry.metric > entry.metric then .switch oldRoute
      else .ignore

namespace Slot

/-- The effect of an entry whose driver calls succeed. A route that moves to
garbage finds its place taken only if the destination is already there. -/
def hear (now : Instant) (entry : RipEntry) (ifInfo : RipIfInfo) (s : Slot) : Slot :=
  match verdict s.active entry ifInfo with
  | .ignore => s
  | .refresh oldRoute => { s with active := some oldRoute.refreshed }
  | .learn => { active := some (learnedRoute entry ifInfo), garbage := none }
  | .update _ => { s with active := some (learnedRoute entry ifInfo) }
  | .switch _ => { s with active := some (learnedRoute entry ifInfo) }
  | .poison oldRoute =>
      { active := none, garbage := some (s.garbage.getD (oldRoute.toGarbage now)) }

/-- The effect of an entry when the driver refuses to delete the old route. -/
def refuse (entry : RipEntry) (ifInfo : RipIfInfo) (s : Slot) : Slot :=
  match verdict s.active entry ifInfo with
  | .update oldRoute => { s with active := some oldRoute.refreshed }
  | _ => s

/-- The entry moves a route to garbage whose destination is there already. -/
def conflict (entry : RipEntry) (ifInfo : RipIfInfo) (s : Slot) : Bool :=
  match verdict s.active entry ifInfo with
  | .poison _ => s.garbage.isSome
  | _ => false

/-- What a timeout check does to a destination before it looks for routes that timed out. -/
def count (timeoutIncrementSecs : UInt64) (s : Slot) : Slot :=
  { s with active := s.active.map (RipDbEntry.countTimeout timeoutIncrementSecs) }

def unflag (s : Slot) : Slot where
  active := s.active.map RipDbEntry.unchanged
  garbage := s.garbage.map RipDbEntry.unchanged

end Slot

theorem Slot.conflict_eq_false {s : Slot} {entry : RipEntry} {ifInfo : RipIfInfo}
    (h : ∀ old, verdict s.active entry ifInfo = .poison old → s.garbage = none) :
    s.conflict entry ifInfo = false := by
  rw [Slot.conflict]
  cases hverdict : verdict s.active entry ifInfo with
  | poison old =>
      rw [h old hverdict]
      rfl
  | ignore | refresh | learn | update | switch => rfl

theorem verdict_update {active : Option RipDbEntry} {entry : RipEntry} {ifInfo : RipIfInfo}
    {oldRoute : RipDbEntry} (h : verdict active entry ifInfo = .update oldRoute) :
    active = some oldRoute ∧ entry.metric < ripInfinityMetric ∧
      routeIsFromCurrentNextHop oldRoute entry = true := by
  cases active with
  | none => rw [verdict] at h; split_ifs at h
  | some route =>
      rw [verdict] at h
      split_ifs at h with hmetric hhop hhop hsame
      obtain rfl : route = oldRoute := by simpa using h
      exact ⟨rfl, UInt32.not_le.mp hmetric, hhop⟩

theorem verdict_switch {active : Option RipDbEntry} {entry : RipEntry} {ifInfo : RipIfInfo}
    {oldRoute : RipDbEntry} (h : verdict active entry ifInfo = .switch oldRoute) :
    active = some oldRoute ∧ entry.metric < ripInfinityMetric ∧
      entry.metric < oldRoute.ripEntry.metric ∧
      routeIsFromCurrentNextHop oldRoute entry = false := by
  cases active with
  | none => rw [verdict] at h; split_ifs at h
  | some route =>
      rw [verdict] at h
      split_ifs at h with hmetric hhop hhop hsame hbetter
      obtain rfl : route = oldRoute := by simpa using h
      exact ⟨rfl, UInt32.not_le.mp hmetric, hbetter, by simpa using hhop⟩

theorem verdict_poison {active : Option RipDbEntry} {entry : RipEntry} {ifInfo : RipIfInfo}
    {oldRoute : RipDbEntry} (h : verdict active entry ifInfo = .poison oldRoute) :
    active = some oldRoute ∧ ripInfinityMetric ≤ entry.metric ∧
      routeIsFromCurrentNextHop oldRoute entry = true := by
  cases active with
  | none => rw [verdict] at h; split_ifs at h
  | some route =>
      rw [verdict] at h
      split_ifs at h with hmetric hhop
      obtain rfl : route = oldRoute := by simpa using h
      exact ⟨rfl, hmetric, hhop⟩

theorem verdict_refresh {active : Option RipDbEntry} {entry : RipEntry} {ifInfo : RipIfInfo}
    {oldRoute : RipDbEntry} (h : verdict active entry ifInfo = .refresh oldRoute) :
    active = some oldRoute ∧ entry.metric < ripInfinityMetric ∧
      oldRoute.ripEntry = entry ∧ oldRoute.ifIndex = ifInfo.ifIndex ∧
      oldRoute.ifName = ifInfo.ifName := by
  cases active with
  | none => rw [verdict] at h; split_ifs at h
  | some route =>
      rw [verdict] at h
      split_ifs at h with hmetric hhop hhop hsame
      obtain rfl : route = oldRoute := by simpa using h
      exact ⟨rfl, UInt32.not_le.mp hmetric, hsame⟩

theorem verdict_learn {active : Option RipDbEntry} {entry : RipEntry} {ifInfo : RipIfInfo}
    (h : verdict active entry ifInfo = .learn) :
    active = none ∧ entry.metric < ripInfinityMetric := by
  cases active with
  | none =>
      rw [verdict] at h
      split_ifs at h with hmetric
      exact ⟨rfl, UInt32.not_le.mp hmetric⟩
  | some route => rw [verdict] at h; split_ifs at h

theorem verdict_ignore {active : Option RipDbEntry} {entry : RipEntry} {ifInfo : RipIfInfo}
    (h : verdict active entry ifInfo = .ignore) :
    (active = none ∧ ripInfinityMetric ≤ entry.metric) ∨
      ∃ oldRoute, active = some oldRoute ∧ routeIsFromCurrentNextHop oldRoute entry = false ∧
        (entry.metric < ripInfinityMetric → oldRoute.ripEntry.metric ≤ entry.metric) := by
  cases active with
  | none =>
      rw [verdict.eq_def] at h
      dsimp only at h
      split_ifs at h with hmetric
      exact .inl ⟨rfl, hmetric⟩
  | some route =>
      rw [verdict] at h
      split_ifs at h with hmetric hhop hhop hsame hbetter
      · exact .inr ⟨route, rfl, by simpa using hhop, fun hlt => absurd hmetric (by simpa using hlt)⟩
      · exact .inr ⟨route, rfl, by simpa using hhop, fun _ => UInt32.not_lt.mp hbetter⟩

/-- Every active route is stored under the key of its own entry. -/
def KeysMatch (database : RipDatabase) : Prop :=
  ∀ key route, database.okRoutes.lookup key = some route →
    buildRouteKey route.ripEntry = key

theorem KeysMatch.lookup_eq {database : RipDatabase} (h : KeysMatch database)
    {key : RipRouteKey} {route : RipDbEntry} (hroute : database.okRoutes.lookup key = some route) :
    database.okRoutes.lookup (buildRouteKey route.ripEntry) = some route := by
  rw [h key route hroute]
  exact hroute

theorem KeysMatch.reordered {database database' : RipDatabase} (h : KeysMatch database)
    (hreordered : database.Reordered database') : KeysMatch database' := by
  intro key route hroute
  have hactive := congrArg Slot.active (slot_reordered hreordered key)
  exact h key route (hactive.symm.trans hroute)

/-- A new destination: garbage it may have had gives way. -/
def learn (entry : RipEntry) (ifInfo : RipIfInfo) (database : RipDatabase) : RipDatabase where
  okRoutes := database.okRoutes.insert (buildRouteKey entry) (learnedRoute entry ifInfo)
  garbageRoutes := database.garbageRoutes.erase (buildRouteKey entry)
  anyRouteChanged := true

/-- Another route takes the place of the active one. -/
def replace (entry : RipEntry) (ifInfo : RipIfInfo) (database : RipDatabase) : RipDatabase where
  okRoutes := (database.okRoutes.erase (buildRouteKey entry)).insert (buildRouteKey entry)
    (learnedRoute entry ifInfo)
  garbageRoutes := database.garbageRoutes
  anyRouteChanged := true

/-- A route in garbage already keeps its place, and the active one is gone. -/
def toGarbage (key : RipRouteKey) (route : RipDbEntry) (now : Instant)
    (database : RipDatabase) : RipDatabase where
  okRoutes := database.okRoutes.erase key
  garbageRoutes :=
    match database.garbageRoutes.lookup key with
    | none => database.garbageRoutes.insert key (route.toGarbage now)
    | some _ => database.garbageRoutes
  anyRouteChanged := true

theorem slot_learn (entry : RipEntry) (ifInfo : RipIfInfo) (database : RipDatabase)
    (key : RipRouteKey) :
    slot (learn entry ifInfo database) key =
      if key = buildRouteKey entry then ⟨some (learnedRoute entry ifInfo), none⟩
      else slot database key := by
  simp only [slot, learn, HashMap.lookup_insert, HashMap.lookup_erase]
  split_ifs <;> rfl

theorem slot_replace (entry : RipEntry) (ifInfo : RipIfInfo) (database : RipDatabase)
    (key : RipRouteKey) :
    slot (replace entry ifInfo database) key =
      if key = buildRouteKey entry then
        { slot database key with active := some (learnedRoute entry ifInfo) }
      else slot database key := by
  simp only [slot, replace, HashMap.lookup_insert, HashMap.lookup_erase]
  split_ifs <;> rfl

theorem slot_toGarbage (route : RipDbEntry) (now : Instant) (database : RipDatabase)
    (key key' : RipRouteKey) :
    slot (toGarbage key route now database) key' =
      if key' = key then
        ⟨none, some ((slot database key).garbage.getD (route.toGarbage now))⟩
      else slot database key' := by
  cases hgarbage : database.garbageRoutes.lookup key with
  | none =>
      simp only [slot, toGarbage, hgarbage, HashMap.lookup_insert, HashMap.lookup_erase]
      split_ifs <;> simp
  | some old =>
      simp only [slot, toGarbage, hgarbage, HashMap.lookup_erase]
      split_ifs with h
      · rw [h, hgarbage]
        rfl
      · rfl

theorem slot_refreshRouteTimeout (entry : RipEntry) (database : RipDatabase)
    (key : RipRouteKey) :
    slot (database.refreshRouteTimeout entry) key =
      if key = buildRouteKey entry then
        { slot database key with active := (slot database key).active.map RipDbEntry.refreshed }
      else slot database key := by
  simp only [slot, RipDatabase.refreshRouteTimeout]
  cases hactive : database.okRoutes.lookup (buildRouteKey entry) with
  | none =>
      split_ifs with h
      · rw [h, hactive]
        rfl
      · rfl
  | some route =>
      simp only [HashMap.lookup_insert]
      split_ifs with h
      · rw [h, hactive]
        rfl
      · rfl

theorem lookup_refreshRouteTimeout {database : RipDatabase} {entry : RipEntry}
    {route : RipDbEntry} (h : database.okRoutes.lookup (buildRouteKey entry) = some route) :
    (database.refreshRouteTimeout entry).okRoutes.lookup (buildRouteKey entry) =
      some route.refreshed := by
  have hslot := slot_refreshRouteTimeout entry database (buildRouteKey entry)
  rw [if_pos rfl] at hslot
  refine (congrArg Slot.active hslot).trans ?_
  rw [slot_active, h, Option.map_some]

theorem slot_collectTimedOutRoutes (increment limit : UInt64) (database : RipDatabase)
    (key : RipRouteKey) :
    slot (database.collectTimedOutRoutes increment limit).2 key =
      (slot database key).count increment := by
  simp [slot, RipDatabase.collectTimedOutRoutes, Slot.count]

theorem slot_markAllRoutesAsUnchanged (database : RipDatabase) (key : RipRouteKey) :
    slot database.markAllRoutesAsUnchanged key =
      if database.anyRouteChanged then (slot database key).unflag else slot database key := by
  rw [RipDatabase.markAllRoutesAsUnchanged]
  cases database.anyRouteChanged <;> simp [slot, Slot.unflag]

theorem mem_expiredKeys_iff {database : RipDatabase} {now : Instant} {lifetime : Duration}
    {key : RipRouteKey} :
    key ∈ database.expiredKeys now lifetime ↔
      ∃ route, database.garbageRoutes.lookup key = some route ∧
        route.expired now lifetime = true := by
  simp only [RipDatabase.expiredKeys, List.mem_filterMap, Option.ite_none_right_eq_some,
    Option.some.injEq]
  constructor
  · rintro ⟨⟨key', route⟩, hmem, hexpired, rfl⟩
    exact ⟨route, HashMap.mem_entries_iff.mp hmem, hexpired⟩
  · rintro ⟨route, hlookup, hexpired⟩
    exact ⟨(key, route), HashMap.mem_entries_iff.mpr hlookup, hexpired, rfl⟩

theorem slot_removeExpiredGarbageRoutes (now : Instant) (lifetime : Duration)
    (database : RipDatabase) (key : RipRouteKey) :
    slot (database.removeExpiredGarbageRoutes now lifetime).2 key =
      if key ∈ database.expiredKeys now lifetime then
        { slot database key with garbage := none }
      else slot database key := by
  simp only [slot, RipDatabase.removeExpiredGarbageRoutes, HashMap.lookup_eraseAll]
  split_ifs <;> rfl

theorem moveRouteToGarbage_run {database : RipDatabase} {entry : RipEntry}
    {route : RipDbEntry} (now : Instant)
    (hactive : database.okRoutes.lookup (buildRouteKey entry) = some route) :
    finalState ((RipDatabase.moveRouteToGarbage entry now).run database) =
        toGarbage (buildRouteKey entry) route now database ∧
      succeeded ((RipDatabase.moveRouteToGarbage entry now).run database) =
        (database.garbageRoutes.lookup (buildRouteKey entry)).isNone := by
  simp only [EStateM.run, RipDatabase.moveRouteToGarbage, hactive, toGarbage]
  cases database.garbageRoutes.lookup (buildRouteKey entry) <;> simp

end RipV2.DestinationSlots
