import RipV2.DisjointTables

namespace RipV2.FailedOperations

open RipV2.Database
open RipV2.Deamon
open RipV2.Deamon.RipDeamon
open RipV2.DeamonSimulation
open RipV2.DestinationSlots
open RipV2.DisjointTables
open RipV2.EffectLogic
open RipV2.HashMapModel
open RipV2.HostEnvironment
open RipV2.KernelRoutes
open RipV2.LocalRoutes
open RipV2.Packets
open RipV2.TransitionRuns

/-- A call of an operation that changes the database. -/
inductive DatabaseCall where
  | addLocalRoute (entry : RipEntry) (ifIndex : UInt32) (ifName : String)
  | addRemoteRoute (entry : RipEntry) (ifIndex : UInt32) (ifName : String)
  | removeRoute (entry : RipEntry)
  | removeGarbageRoute (entry : RipEntry)
  | refreshRouteTimeout (entry : RipEntry)
  | collectTimedOutRoutes (timeoutIncrementSecs timeoutLimitSecs : UInt64)
  | moveRouteToGarbage (entry : RipEntry) (garbageStartedAt : Instant)
  | removeExpiredGarbageRoutes (now : Instant) (garbageLifetime : Duration)
  | poisonAllRoutes
  | markAllRoutesAsUnchanged

/-- A call on the database, whose result is dropped. -/
def DatabaseCall.perform : DatabaseCall → DatabaseM Unit
  | .addLocalRoute entry ifIndex ifName => RipDatabase.addLocalRoute entry ifIndex ifName
  | .addRemoteRoute entry ifIndex ifName => do
      let _ ← RipDatabase.addRemoteRoute entry ifIndex ifName
  | .removeRoute entry => do
      let _ ← RipDatabase.removeRoute entry
  | .removeGarbageRoute entry => modify (RipDatabase.removeGarbageRoute entry)
  | .refreshRouteTimeout entry => modify (RipDatabase.refreshRouteTimeout entry)
  | .collectTimedOutRoutes increment limit =>
      modify fun database => (database.collectTimedOutRoutes increment limit).2
  | .moveRouteToGarbage entry garbageStartedAt => do
      let _ ← RipDatabase.moveRouteToGarbage entry garbageStartedAt
  | .removeExpiredGarbageRoutes now lifetime =>
      modify fun database => (database.removeExpiredGarbageRoutes now lifetime).2
  | .poisonAllRoutes => modify RipDatabase.poisonAllRoutes
  | .markAllRoutesAsUnchanged => modify RipDatabase.markAllRoutesAsUnchanged

/-- A call after which the database is used on, whether the call failed or not. -/
def CallStep (database : RipDatabase) (call : DatabaseCall) (database' : RipDatabase) : Prop :=
  ∃ database₀, database.Reordered database₀ ∧
    finalState (call.perform.run database₀) = database'

/-- If the call fails, the database is exactly as it was. -/
def FailsUnchanged (database : RipDatabase) (call : DatabaseCall) : Prop :=
  succeeded (call.perform.run database) = false →
    finalState (call.perform.run database) = database

/-- The call moves an active route to garbage where the destination is already. -/
def MovesOverGarbage (database : RipDatabase) (call : DatabaseCall) : Prop :=
  ∃ entry now, call = .moveRouteToGarbage entry now ∧
    database.okRoutes.lookup (buildRouteKey entry) ≠ none ∧
    database.garbageRoutes.lookup (buildRouteKey entry) ≠ none

theorem addRoute_unchanged {entry : RipEntry} {ifIndex : UInt32} {ifName : String}
    {changed isLocal inRoutingTable : Bool} {database : RipDatabase}
    (h : succeeded ((RipDatabase.addRoute entry ifIndex ifName changed isLocal
      inRoutingTable).run database) = false) :
    finalState ((RipDatabase.addRoute entry ifIndex ifName changed isLocal
      inRoutingTable).run database) = database := by
  simp only [EStateM.run, RipDatabase.addRoute] at h ⊢
  cases hactive : database.okRoutes.lookup (buildRouteKey entry) with
  | none => simp [hactive] at h
  | some route => rfl

theorem removeRoute_unchanged {entry : RipEntry} {database : RipDatabase}
    (h : succeeded ((RipDatabase.removeRoute entry).run database) = false) :
    finalState ((RipDatabase.removeRoute entry).run database) = database := by
  simp only [EStateM.run, RipDatabase.removeRoute] at h ⊢
  cases hactive : database.okRoutes.lookup (buildRouteKey entry) with
  | some route => simp [hactive] at h
  | none =>
      cases hgarbage : database.garbageRoutes.lookup (buildRouteKey entry) with
      | some route => simp [hactive, hgarbage] at h
      | none => rfl

/-- Moving a route checks for garbage only after the route has been taken out. -/
theorem moveRouteToGarbage_unchanged_iff (entry : RipEntry) (now : Instant)
    (database : RipDatabase) :
    (succeeded ((RipDatabase.moveRouteToGarbage entry now).run database) = false →
      finalState ((RipDatabase.moveRouteToGarbage entry now).run database) = database) ↔
    (database.okRoutes.lookup (buildRouteKey entry) = none ∨
      database.garbageRoutes.lookup (buildRouteKey entry) = none) := by
  cases hactive : database.okRoutes.lookup (buildRouteKey entry) with
  | none =>
      refine ⟨fun _ => .inl rfl, fun _ _ => ?_⟩
      simp [EStateM.run, RipDatabase.moveRouteToGarbage, hactive]
  | some route =>
      obtain ⟨hfinal, hsucceeds⟩ := moveRouteToGarbage_run now hactive
      rw [hfinal, hsucceeds]
      have hmoved : toGarbage (buildRouteKey entry) route now database ≠ database := by
        intro hsame
        have hslot := slot_toGarbage route now database (buildRouteKey entry) (buildRouteKey entry)
        rw [if_pos rfl, hsame] at hslot
        have hgone := congrArg Slot.active hslot
        rw [slot_active, hactive] at hgone
        exact absurd hgone (by simp)
      cases hgarbage : database.garbageRoutes.lookup (buildRouteKey entry) with
      | none => simp
      | some kept => simpa using hmoved

/-- The database is as it was after every failure but one: a move to garbage
whose destination is in garbage already has by then lost the active route. -/
theorem failsUnchanged_iff_call (database : RipDatabase) (call : DatabaseCall) :
    FailsUnchanged database call ↔ ¬MovesOverGarbage database call := by
  have hother : (∀ entry now, call ≠ .moveRouteToGarbage entry now) →
      ¬MovesOverGarbage database call := by
    rintro hne ⟨entry, now, hcall, -⟩
    exact hne entry now hcall
  cases call with
  | addLocalRoute entry ifIndex ifName =>
      refine iff_of_true ?_ (hother (by simp))
      simp only [FailsUnchanged, DatabaseCall.perform, RipDatabase.addLocalRoute,
        succeeded_discard, finalState_discard]
      exact addRoute_unchanged
  | addRemoteRoute entry ifIndex ifName =>
      refine iff_of_true ?_ (hother (by simp))
      simp only [FailsUnchanged, DatabaseCall.perform, RipDatabase.addRemoteRoute,
        succeeded_discard, finalState_discard]
      exact addRoute_unchanged
  | removeRoute entry =>
      refine iff_of_true ?_ (hother (by simp))
      simp only [FailsUnchanged, DatabaseCall.perform, succeeded_discard, finalState_discard]
      exact removeRoute_unchanged
  | moveRouteToGarbage entry now =>
      simp only [FailsUnchanged, DatabaseCall.perform, succeeded_discard, finalState_discard,
        moveRouteToGarbage_unchanged_iff]
      rw [← not_iff_not, not_not, not_or]
      constructor
      · rintro ⟨hactive, hgarbage⟩
        exact ⟨entry, now, rfl, hactive, hgarbage⟩
      · rintro ⟨_, _, hcall, hactive, hgarbage⟩
        cases hcall
        exact ⟨hactive, hgarbage⟩
  | _ =>
      refine iff_of_true ?_ (hother (by simp))
      intro hfails
      simp [DatabaseCall.perform] at hfails

theorem handleHttpRequest_unchanged {Driver : Type} {network : AdvertisedNetwork}
    {response : AdminInterface.HttpResponse} {deamon deamon' : RipDeamon Driver}
    (hrun : (handleHttpRequest (.addLocalRoute network)).run deamon = .ok response deamon')
    (hresponse : response ≠ .ok) : deamon' = deamon := by
  simp only [handleHttpRequest, EStateM.run_bind, run_attempt] at hrun
  rcases setupAdvertisedNetwork_cases network deamon with
    ⟨⟨e, hsetup⟩, -⟩ | ⟨localRoute, -, -, hsetup⟩
  · rw [hsetup] at hrun
    exact (EStateM.Result.ok.inj hrun).2.symm
  · rw [hsetup] at hrun
    exact absurd (EStateM.Result.ok.inj hrun).1.symm hresponse

/-- The call adds a route whose destination is in garbage. -/
def AddsRouteOverGarbage (database : RipDatabase) (call : DatabaseCall) : Prop :=
  ∃ entry ifIndex ifName,
    (call = .addLocalRoute entry ifIndex ifName ∨ call = .addRemoteRoute entry ifIndex ifName) ∧
    database.garbageRoutes.lookup (buildRouteKey entry) ≠ none

theorem routesDisjoint_of_shrunk {database database' : RipDatabase} (h : RoutesDisjoint database)
    (hactive : ∀ key, database.okRoutes.lookup key = none → database'.okRoutes.lookup key = none)
    (hgarbage : ∀ key, database.garbageRoutes.lookup key = none →
      database'.garbageRoutes.lookup key = none) : RoutesDisjoint database' :=
  fun key => (h key).imp (hactive key) (hgarbage key)

theorem lookup_erase_none {routes : HashMap RipRouteKey RipDbEntry} {key key' : RipRouteKey}
    (h : routes.lookup key' = none) : (routes.erase key).lookup key' = none := by
  rw [HashMap.lookup_erase]
  split_ifs
  · rfl
  · exact h

theorem addRoute_routesDisjoint {entry : RipEntry} {ifIndex : UInt32} {ifName : String}
    {changed isLocal inRoutingTable : Bool} {database : RipDatabase}
    (h : RoutesDisjoint database)
    (hfree : database.garbageRoutes.lookup (buildRouteKey entry) = none) :
    RoutesDisjoint (finalState ((RipDatabase.addRoute entry ifIndex ifName changed isLocal
      inRoutingTable).run database)) := by
  simp only [EStateM.run, RipDatabase.addRoute]
  cases database.okRoutes.lookup (buildRouteKey entry) with
  | some route => exact h
  | none =>
      intro key
      simp only [finalState_ok, HashMap.lookup_insert]
      split_ifs with hkey
      · exact .inr (hkey ▸ hfree)
      · exact h key

theorem removeRoute_routesDisjoint {entry : RipEntry} {database : RipDatabase}
    (h : RoutesDisjoint database) :
    RoutesDisjoint (finalState ((RipDatabase.removeRoute entry).run database)) := by
  simp only [EStateM.run, RipDatabase.removeRoute]
  cases database.okRoutes.lookup (buildRouteKey entry) with
  | some route => exact routesDisjoint_of_shrunk h (fun _ => lookup_erase_none) fun _ => id
  | none =>
      cases database.garbageRoutes.lookup (buildRouteKey entry) with
      | some route => exact routesDisjoint_of_shrunk h (fun _ => id) fun _ => lookup_erase_none
      | none => exact h

theorem moveRouteToGarbage_routesDisjoint {entry : RipEntry} {now : Instant}
    {database : RipDatabase} (h : RoutesDisjoint database) :
    RoutesDisjoint (finalState ((RipDatabase.moveRouteToGarbage entry now).run database)) := by
  cases hactive : database.okRoutes.lookup (buildRouteKey entry) with
  | none =>
      simp only [EStateM.run, RipDatabase.moveRouteToGarbage, hactive]
      exact h
  | some route =>
      rw [(moveRouteToGarbage_run now hactive).1]
      intro key
      change Slot.Disjoint (slot _ key)
      rw [slot_toGarbage]
      split_ifs
      · exact .inl rfl
      · exact h key

theorem perform_routesDisjoint {database : RipDatabase} {call : DatabaseCall}
    (h : RoutesDisjoint database) (hcall : ¬AddsRouteOverGarbage database call) :
    RoutesDisjoint (finalState (call.perform.run database)) := by
  cases call with
  | addLocalRoute entry ifIndex ifName =>
      simp only [DatabaseCall.perform, RipDatabase.addLocalRoute, finalState_discard]
      exact addRoute_routesDisjoint h
        (not_not.mp fun hgarbage => hcall ⟨entry, ifIndex, ifName, .inl rfl, hgarbage⟩)
  | addRemoteRoute entry ifIndex ifName =>
      simp only [DatabaseCall.perform, RipDatabase.addRemoteRoute, finalState_discard]
      exact addRoute_routesDisjoint h
        (not_not.mp fun hgarbage => hcall ⟨entry, ifIndex, ifName, .inr rfl, hgarbage⟩)
  | removeRoute entry =>
      simp only [DatabaseCall.perform, finalState_discard]
      exact removeRoute_routesDisjoint h
  | removeGarbageRoute entry =>
      exact routesDisjoint_of_shrunk h (fun _ => id) fun _ => lookup_erase_none
  | refreshRouteTimeout entry =>
      intro key
      change Slot.Disjoint (slot (database.refreshRouteTimeout entry) key)
      rw [slot_refreshRouteTimeout]
      split_ifs
      · exact (h key).imp (by simp [·]) id
      · exact h key
  | collectTimedOutRoutes increment limit =>
      exact routesDisjoint_of_shrunk h (fun key hnone => by simp [DatabaseCall.perform,
        RipDatabase.collectTimedOutRoutes, hnone]) fun _ => id
  | moveRouteToGarbage entry now =>
      simp only [DatabaseCall.perform, finalState_discard]
      exact moveRouteToGarbage_routesDisjoint h
  | removeExpiredGarbageRoutes now lifetime =>
      refine routesDisjoint_of_shrunk h (fun _ => id) fun key hnone => ?_
      simp [DatabaseCall.perform, RipDatabase.removeExpiredGarbageRoutes, HashMap.lookup_eraseAll,
        hnone]
  | poisonAllRoutes =>
      simp only [DatabaseCall.perform, EStateM.run_modify, finalState_ok,
        RipDatabase.poisonAllRoutes]
      split_ifs
      · exact h
      · exact routesDisjoint_of_shrunk h (fun key hnone => by simp [hnone])
          fun key hnone => by simp [hnone]
  | markAllRoutesAsUnchanged =>
      simp only [DatabaseCall.perform, EStateM.run_modify, finalState_ok,
        RipDatabase.markAllRoutesAsUnchanged]
      split_ifs
      · exact h
      · exact routesDisjoint_of_shrunk h (fun key hnone => by simp [hnone])
          fun key hnone => by simp [hnone]

/-- A call that adds no route over garbage. -/
def CleanCall (database : RipDatabase) (call : DatabaseCall) (database' : RipDatabase) : Prop :=
  CallStep database call database' ∧ ¬AddsRouteOverGarbage database call

theorem run_clean_routesDisjoint {calls : List DatabaseCall} {database : RipDatabase}
    (hrun : Run CleanCall .new calls database) : RoutesDisjoint database := by
  induction hrun with
  | nil => exact fun key => .inl rfl
  | @snoc calls database₁ database₂ call _ hstep ih =>
      obtain ⟨⟨database₀, hreordered, rfl⟩, hclean⟩ := hstep
      apply perform_routesDisjoint (ih.reordered hreordered)
      rintro ⟨entry, ifIndex, ifName, hcall, hgarbage⟩
      rw [← hreordered.garbageRoutes.lookup_eq] at hgarbage
      exact hclean ⟨entry, ifIndex, ifName, hcall, hgarbage⟩

theorem run_failsUnchanged {calls : List DatabaseCall} {database : RipDatabase}
    (hrun : Run CleanCall .new calls database) (call : DatabaseCall) :
    FailsUnchanged database call := by
  rw [failsUnchanged_iff_call]
  rintro ⟨entry, now, -, hactive, hgarbage⟩
  rcases run_clean_routesDisjoint hrun (buildRouteKey entry) with hnone | hnone
  · exact hactive hnone
  · exact hgarbage hnone

/-- Every failed call leaves the database exactly as it was, unless it moves an
active route to garbage whose destination is there already; and a refused
request for a local route leaves the whole daemon as it was. -/
theorem failed_operations {Driver : Type} (database : RipDatabase) (call : DatabaseCall)
    (deamon : RipDeamon Driver) (network : AdvertisedNetwork) :
    (FailsUnchanged database call ↔ ¬MovesOverGarbage database call) ∧
    ∀ response deamon',
      (handleHttpRequest (.addLocalRoute network)).run deamon = .ok response deamon' →
      response ≠ .ok → deamon' = deamon :=
  ⟨failsUnchanged_iff_call database call, fun _ _ hrun hresponse =>
    handleHttpRequest_unchanged hrun hresponse⟩

/-- Calls one after the other, whether they fail or not. -/
def runCalls (database : RipDatabase) (calls : List DatabaseCall) : RipDatabase :=
  calls.foldl (fun database call => finalState (call.perform.run database)) database

theorem runCalls_run (database : RipDatabase) (calls : List DatabaseCall) :
    Run CallStep database calls (runCalls database calls) := by
  induction calls generalizing database with
  | nil => exact .nil
  | cons call calls ih =>
      have hfirst : CallStep database call (finalState (call.perform.run database)) :=
        ⟨database, .refl database, rfl⟩
      exact (Run.single hfirst).append (ih _)

/-- A learned route is withdrawn, and its network then added as a local one. -/
def readdedCalls : List DatabaseCall :=
  [.addRemoteRoute (plainEntry farNetwork 2) 2 "eth1",
    .moveRouteToGarbage (plainEntry farNetwork 2) 0,
    .addLocalRoute (plainEntry farNetwork 1) 1 "eth0"]

/-- Moving that route to garbage fails, and the route is gone. -/
theorem readdedCalls_lose_route :
    ∃ database call, Run CallStep .new readdedCalls database ∧ ¬FailsUnchanged database call := by
  refine ⟨runCalls .new readdedCalls, .moveRouteToGarbage (plainEntry farNetwork 1) 5,
    runCalls_run _ _, ?_⟩
  rw [failsUnchanged_iff_call, not_not]
  exact ⟨_, _, rfl, by decide, by decide⟩

end RipV2.FailedOperations
