import RipV2.HandlerRules

namespace RipV2.ChangeFlags

open RipV2.Database
open RipV2.Deamon
open RipV2.Deamon.RipDeamon
open RipV2.DeamonRuns
open RipV2.DeamonSimulation
open RipV2.DestinationSlots
open RipV2.EffectLogic
open RipV2.HandlerRules
open RipV2.HashMapModel
open RipV2.HostEnvironment
open RipV2.Packets

/-- The two maps of the database. -/
inductive Table where
  | okRoutes
  | garbageRoutes
deriving DecidableEq, Repr

/-- A destination's route in one of the two maps. -/
def Slot.stored (s : Slot) : Table → Option RipDbEntry
  | .okRoutes => s.active
  | .garbageRoutes => s.garbage

def stored (database : RipDatabase) (table : Table) (key : RipRouteKey) : Option RipDbEntry :=
  Slot.stored (slot database key) table

theorem mem_allRoutes_iff {database : RipDatabase} {route : RipDbEntry} :
    route ∈ database.allRoutes ↔ ∃ table key, stored database table key = some route := by
  rw [RipDatabase.mem_allRoutes_iff]
  constructor
  · rintro (⟨key, hroute⟩ | ⟨key, hroute⟩)
    · exact ⟨.okRoutes, key, hroute⟩
    · exact ⟨.garbageRoutes, key, hroute⟩
  · rintro ⟨table, key, hroute⟩
    cases table with
    | okRoutes => exact .inl ⟨key, hroute⟩
    | garbageRoutes => exact .inr ⟨key, hroute⟩

/-- Every route is an old one with its flag as it was, or has its flag set. -/
structure Flagging (database database' : RipDatabase) : Prop where
  anyRouteChanged : database.anyRouteChanged = true → database'.anyRouteChanged = true
  origin : ∀ table key route, stored database' table key = some route →
    (∃ old, stored database table key = some old ∧ SameRoute old route ∧
      route.changed = old.changed) ∨
    (route.changed = true ∧ database'.anyRouteChanged = true)

theorem Flagging.refl (database : RipDatabase) : Flagging database database :=
  ⟨id, fun _ _ route hroute => .inl ⟨route, hroute, .refl route, rfl⟩⟩

theorem flagging_of_slots {database database' : RipDatabase}
    (hany : database'.anyRouteChanged = database.anyRouteChanged)
    (hslot : ∀ key, ∃ f : RipDbEntry → RipDbEntry,
      (∀ old, SameRoute old (f old) ∧ (f old).changed = old.changed) ∧
      (∀ route, (slot database' key).active = some route →
        ∃ old, (slot database key).active = some old ∧ f old = route) ∧
      ∀ route, (slot database' key).garbage = some route →
        (slot database key).garbage = some route) :
    Flagging database database' := by
  refine ⟨fun h => hany.trans h, fun table key route hroute => .inl ?_⟩
  obtain ⟨f, hf, hactive, hgarbage⟩ := hslot key
  cases table with
  | okRoutes =>
      obtain ⟨old, hold, rfl⟩ := hactive route hroute
      exact ⟨old, hold, hf old⟩
  | garbageRoutes => exact ⟨route, hgarbage route hroute, .refl route, rfl⟩

theorem flagging_of_erased {database database' : RipDatabase}
    (hany : database'.anyRouteChanged = database.anyRouteChanged)
    (hactive : ∀ key route, database'.okRoutes.lookup key = some route →
      database.okRoutes.lookup key = some route)
    (hgarbage : ∀ key route, database'.garbageRoutes.lookup key = some route →
      database.garbageRoutes.lookup key = some route) : Flagging database database' :=
  flagging_of_slots hany fun key => ⟨id, fun old => ⟨.refl old, rfl⟩,
    fun route hroute => ⟨route, hactive key route hroute, rfl⟩, hgarbage key⟩

theorem lookup_of_lookup_erase {routes : HashMap RipRouteKey RipDbEntry} {key key' : RipRouteKey}
    {route : RipDbEntry} (h : (routes.erase key).lookup key' = some route) :
    routes.lookup key' = some route := by
  rw [HashMap.lookup_erase] at h
  split_ifs at h
  exact h

theorem addRoute_flagging (entry : RipEntry) (ifIndex : UInt32) (ifName : String)
    (isLocal inRoutingTable : Bool) : Evolves Flagging
      (RipDatabase.addRoute entry ifIndex ifName true isLocal inRoutingTable) := by
  intro database
  simp only [EStateM.run, RipDatabase.addRoute]
  cases database.okRoutes.lookup (buildRouteKey entry) with
  | some route => exact .refl _
  | none =>
      refine ⟨fun _ => rfl, fun table key route hroute => ?_⟩
      cases table with
      | garbageRoutes => exact .inl ⟨route, hroute, .refl route, rfl⟩
      | okRoutes =>
          simp only [stored, Slot.stored, finalState_ok, slot_active,
            HashMap.lookup_insert] at hroute
          split_ifs at hroute
          · obtain rfl := Option.some.inj hroute
            exact .inr ⟨rfl, rfl⟩
          · exact .inl ⟨route, hroute, .refl route, rfl⟩

theorem removeRoute_flagging (entry : RipEntry) :
    Evolves Flagging (RipDatabase.removeRoute entry) := by
  intro database
  simp only [EStateM.run, RipDatabase.removeRoute]
  cases database.okRoutes.lookup (buildRouteKey entry) with
  | some route =>
      exact flagging_of_erased rfl (fun _ _ => lookup_of_lookup_erase) fun _ _ => id
  | none =>
      cases database.garbageRoutes.lookup (buildRouteKey entry) with
      | none => exact .refl _
      | some route =>
          exact flagging_of_erased rfl (fun _ _ => id) fun _ _ => lookup_of_lookup_erase

theorem moveRouteToGarbage_flagging (entry : RipEntry) (now : Instant) :
    Evolves Flagging (RipDatabase.moveRouteToGarbage entry now) := by
  intro database
  cases hactive : database.okRoutes.lookup (buildRouteKey entry) with
  | none =>
      simp only [EStateM.run, RipDatabase.moveRouteToGarbage, hactive]
      exact .refl _
  | some old =>
      rw [(moveRouteToGarbage_run now hactive).1]
      refine ⟨fun _ => rfl, fun table key route hroute => ?_⟩
      rw [stored, slot_toGarbage] at hroute
      split_ifs at hroute with hkey
      · subst hkey
        cases table with
        | okRoutes => simp [Slot.stored] at hroute
        | garbageRoutes =>
            cases hgarbage : database.garbageRoutes.lookup (buildRouteKey entry) with
            | some kept =>
                obtain rfl : kept = route := by simpa [Slot.stored, hgarbage] using hroute
                exact .inl ⟨kept, hgarbage, .refl kept, rfl⟩
            | none =>
                obtain rfl : old.toGarbage now = route := by
                  simpa [Slot.stored, hgarbage] using hroute
                exact .inr ⟨rfl, rfl⟩
      · exact .inl ⟨route, hroute, .refl route, rfl⟩

theorem refreshRouteTimeout_flagging (entry : RipEntry) (database : RipDatabase) :
    Flagging database (database.refreshRouteTimeout entry) := by
  have hany : (database.refreshRouteTimeout entry).anyRouteChanged =
      database.anyRouteChanged := by
    rw [RipDatabase.refreshRouteTimeout]
    cases database.okRoutes.lookup (buildRouteKey entry) <;> rfl
  refine flagging_of_slots hany fun key => ?_
  rw [slot_refreshRouteTimeout]
  split_ifs
  · exact ⟨RipDbEntry.refreshed, fun old => ⟨sameRoute_refreshed old, rfl⟩,
      fun route hroute => Option.map_eq_some_iff.mp hroute, fun _ => id⟩
  · exact ⟨id, fun old => ⟨.refl old, rfl⟩, fun route hroute => ⟨route, hroute, rfl⟩, fun _ => id⟩

theorem collectTimedOutRoutes_flagging (increment limit : UInt64) (database : RipDatabase) :
    Flagging database (database.collectTimedOutRoutes increment limit).2 := by
  refine flagging_of_slots rfl fun key => ?_
  rw [slot_collectTimedOutRoutes]
  refine ⟨RipDbEntry.countTimeout increment, fun old => ⟨sameRoute_countTimeout increment old, ?_⟩,
    fun route hroute => Option.map_eq_some_iff.mp hroute, fun _ => id⟩
  rw [RipDbEntry.countTimeout]
  split_ifs <;> rfl

theorem poisonAllRoutes_flagging (database : RipDatabase) :
    Flagging database database.poisonAllRoutes := by
  rw [RipDatabase.poisonAllRoutes]
  split_ifs
  · exact .refl _
  · refine ⟨fun _ => rfl, fun table key route hroute => .inr ⟨?_, rfl⟩⟩
    cases table <;>
      (simp only [stored, Slot.stored, slot_active, slot_garbage, HashMap.lookup_mapValues,
        Option.map_eq_some_iff] at hroute
       obtain ⟨old, -, rfl⟩ := hroute
       rfl)

theorem operation_flagging {database database' : RipDatabase}
    (h : Operation database database') : Flagging database database' := by
  cases h with
  | reordered horder =>
      refine flagging_of_erased horder.anyRouteChanged.symm (fun key route hroute => ?_)
        fun key route hroute => ?_
      · exact (horder.okRoutes.lookup_eq key).trans hroute
      · exact (horder.garbageRoutes.lookup_eq key).trans hroute
  | addRoute entry ifIndex ifName isLocal inRoutingTable =>
      exact addRoute_flagging entry ifIndex ifName isLocal inRoutingTable database
  | removeRoute entry => exact removeRoute_flagging entry database
  | removeGarbageRoute entry =>
      exact flagging_of_erased rfl (fun _ _ => id) fun _ _ => lookup_of_lookup_erase
  | refreshRouteTimeout entry => exact refreshRouteTimeout_flagging entry database
  | collectTimedOutRoutes increment limit =>
      exact collectTimedOutRoutes_flagging increment limit database
  | moveRouteToGarbage entry now => exact moveRouteToGarbage_flagging entry now database
  | removeExpiredGarbageRoutes now lifetime =>
      refine flagging_of_erased rfl (fun _ _ => id) fun key route hroute => ?_
      have hslot := congrArg Slot.garbage
        (slot_removeExpiredGarbageRoutes now lifetime database key)
      rw [slot_garbage, hroute] at hslot
      split_ifs at hslot
      exact hslot.symm
  | poisonAllRoutes => exact poisonAllRoutes_flagging database

theorem stored_markAllRoutesAsUnchanged (database : RipDatabase) (table : Table)
    (key : RipRouteKey) :
    stored database.markAllRoutesAsUnchanged table key =
      if database.anyRouteChanged then (stored database table key).map RipDbEntry.unchanged
      else stored database table key := by
  rw [stored, slot_markAllRoutesAsUnchanged]
  split_ifs
  · cases table <;> rfl
  · rfl

/-- Whenever a route is flagged as changed, so is the database. -/
def FlagSound (database : RipDatabase) : Prop :=
  ∀ route ∈ database.allRoutes, route.changed = true → database.anyRouteChanged = true

theorem Flagging.flagSound {database database' : RipDatabase} (h : Flagging database database')
    (hsound : FlagSound database) : FlagSound database' := by
  intro route hmem hchanged
  obtain ⟨table, key, hroute⟩ := mem_allRoutes_iff.mp hmem
  rcases h.origin table key route hroute with ⟨old, hold, -, hflag⟩ | ⟨-, hany⟩
  · exact h.anyRouteChanged (hsound old (mem_allRoutes_iff.mpr ⟨table, key, hold⟩)
      (hflag.symm.trans hchanged))
  · exact hany

theorem FlagSound.reordered {database database' : RipDatabase} (h : FlagSound database)
    (horder : database.Reordered database') : FlagSound database' :=
  (operation_flagging (.reordered horder)).flagSound h

theorem unchanged_of_markAllRoutesAsUnchanged {database : RipDatabase}
    (hsound : FlagSound database) :
    ∀ route ∈ database.markAllRoutesAsUnchanged.allRoutes, route.changed = false := by
  intro route hmem
  obtain ⟨table, key, hroute⟩ := mem_allRoutes_iff.mp hmem
  rw [stored_markAllRoutesAsUnchanged] at hroute
  split_ifs at hroute with hany
  · obtain ⟨old, -, rfl⟩ := Option.map_eq_some_iff.mp hroute
    rfl
  · cases hchanged : route.changed with
    | false => rfl
    | true =>
        have hmem' := mem_allRoutes_iff.mpr ⟨table, key, hroute⟩
        exact absurd (hsound route hmem' hchanged) hany

theorem FlagSound.markAllRoutesAsUnchanged {database : RipDatabase} (h : FlagSound database) :
    FlagSound database.markAllRoutesAsUnchanged := by
  intro route hmem hchanged
  rw [unchanged_of_markAllRoutesAsUnchanged h route hmem] at hchanged
  exact absurd hchanged (by simp)

/-- A flag that was sound before is sound after. -/
def FlagKept {Driver : Type} (deamon deamon' : RipDeamon Driver) : Prop :=
  FlagSound deamon.database → FlagSound deamon'.database

theorem flagKept {Driver : Type} :
    Kept fun deamon deamon' : RipDeamon Driver => FlagKept deamon deamon' where
  refl _ := id
  trans _ _ _ h h' := h' ∘ h
  host _ _ _ := id
  routingTable _ _ := id
  database _ _ h := (operation_flagging h).flagSound
  advertise changedOnly deamon hsound := by
    rw [sendMulticastAdvertisement_run]
    split
    · exact hsound.markAllRoutesAsUnchanged
    · exact hsound

end RipV2.ChangeFlags
