import RipV2.KernelRoutes

namespace RipV2.DisjointTables

open RipV2.Database
open RipV2.Deamon
open RipV2.DeamonRuns
open RipV2.DeamonSimulation
open RipV2.DestinationSlots
open RipV2.EffectLogic
open RipV2.HashMapModel
open RipV2.HostEnvironment
open RipV2.KernelRoutes
open RipV2.LocalRoutes
open RipV2.ReachableRoutes
open RipV2.RoutingTables
open RipV2.TransitionRuns

/-- No destination is both active and in garbage. -/
def RoutesDisjoint (database : RipDatabase) : Prop :=
  ∀ key, database.okRoutes.lookup key = none ∨ database.garbageRoutes.lookup key = none

/-- No advertisement names a destination twice. -/
def AdvertisesOnce (database : RipDatabase) : Prop :=
  ∀ targetIfIndex changedOnly,
    ((database.getRoutesForAdvertisement targetIfIndex changedOnly).map buildRouteKey).Nodup

variable {Driver : Type} [RoutingTableDriver Driver]

/-- The event asks for a local route whose destination is in garbage. -/
def AddsOverGarbage (deamon : RipDeamon Driver) (label : Answers × DeamonEvent) : Prop :=
  ∃ network localRoute, AddsNetwork network label.2 ∧
    advertisedNetworkToLocalRoute label.1 network = .ok localRoute ∧
    deamon.database.garbageRoutes.lookup (buildRouteKey localRoute.entry) ≠ none

def Slot.Disjoint (s : Slot) : Prop :=
  s.active = none ∨ s.garbage = none

theorem Slot.Disjoint.step {s s' : Slot} {action : SlotAction}
    (hadded : ∀ route, action ≠ .added route) (hs : Slot.Disjoint s)
    (hstep : SlotStep s action s') : Slot.Disjoint s' := by
  cases hstep with
  | heard _ now entry ifInfo =>
      rw [Slot.hear]
      cases hverdict : verdict s.active entry ifInfo with
      | ignore => exact hs
      | refresh old =>
          have hactive := (verdict_refresh hverdict).1
          exact .inr (hs.resolve_left (by simp [hactive]))
      | learn => exact .inr rfl
      | update old =>
          have hactive := (verdict_update hverdict).1
          exact .inr (hs.resolve_left (by simp [hactive]))
      | switch old =>
          have hactive := (verdict_switch hverdict).1
          exact .inr (hs.resolve_left (by simp [hactive]))
      | poison old => exact .inl rfl
  | refused _ entry ifInfo =>
      rcases hs with hactive | hgarbage
      · refine .inl ?_
        cases hrefused : (s.refuse entry ifInfo).active with
        | none => rfl
        | some route =>
            obtain ⟨old, hold, -⟩ := active_refuse hrefused
            simp [hactive] at hold
      · exact .inr (by rw [garbage_refuse, hgarbage])
  | added garbage route => exact absurd rfl (hadded route)
  | counted _ increment => exact hs.imp (by simp [Slot.count, ·]) id
  | expired => exact .inl rfl
  | collected => exact .inr rfl
  | unflagged => exact hs.imp (by simp [Slot.unflag, ·]) (by simp [Slot.unflag, ·])

theorem handle_disjoint {event : DeamonEvent} (deamon : RipDeamon Driver) {key : RipRouteKey}
    (hkeys : KeysMatch deamon.database) (hevent : ¬∃ network, AddsNetwork network event)
    (hdisjoint : Slot.Disjoint (slot deamon.database key)) :
    Slot.Disjoint (slot (finalState (event.handle.run deamon)).database key) := by
  obtain ⟨actions, hrun, hcaused, -⟩ := handle_simulated event deamon hkeys key
  refine hrun.keeps (I := Slot.Disjoint) (P := fun action => ∀ route, action ≠ .added route)
    (fun _ _ _ hadded hs hstep => hs.step hadded hstep) ?_ hdisjoint
  rintro action hmem route rfl
  obtain ⟨network, -, hnetwork, -⟩ := hcaused _ hmem
  exact hevent ⟨network, hnetwork⟩

theorem handle_routesDisjoint {event : DeamonEvent} {deamon : RipDeamon Driver}
    (hkeys : KeysMatch deamon.database) (hdisjoint : RoutesDisjoint deamon.database)
    (hadds : ¬AddsOverGarbage deamon (deamon.host.answers, event)) :
    RoutesDisjoint (finalState (event.handle.run deamon)).database := by
  intro key
  change Slot.Disjoint (slot _ key)
  by_cases hevent : ∃ network, AddsNetwork network event
  · obtain ⟨network, hnetwork⟩ := hevent
    rcases handle_addsNetwork_cases hnetwork deamon with
      ⟨hsame, -⟩ | ⟨localRoute, hroute, -, hadopted⟩
    · rw [hsame]
      exact hdisjoint key
    · rw [hadopted, slot_adopt]
      split_ifs with hkey
      · refine .inr (not_not.mp fun hgarbage => ?_)
        exact hadds ⟨network, localRoute, hnetwork, hroute, hkey ▸ hgarbage⟩
      · exact hdisjoint key
  · exact handle_disjoint deamon hkeys hevent (hdisjoint key)

omit [RoutingTableDriver Driver] in
theorem addsOverGarbage_resumes {deamon deamon₀ : RipDeamon Driver}
    {label : Answers × DeamonEvent} (hresumes : Resumes label.1 deamon deamon₀) :
    AddsOverGarbage deamon₀ (deamon₀.host.answers, label.2) ↔ AddsOverGarbage deamon label := by
  obtain ⟨database, hreordered, rfl⟩ := hresumes
  have hlookup := fun key => congrArg Slot.garbage (slot_reordered hreordered key)
  simp only [slot_garbage] at hlookup
  simp only [AddsOverGarbage, hlookup]
  rfl

theorem RoutesDisjoint.reordered {database database' : RipDatabase}
    (h : RoutesDisjoint database) (hreordered : database.Reordered database') :
    RoutesDisjoint database' := by
  intro key
  change Slot.Disjoint (slot database' key)
  rw [slot_reordered hreordered key]
  exact h key

/-- A step that adds no local route over garbage. -/
def CleanStep (deamon : RipDeamon Driver) (label : Answers × DeamonEvent)
    (deamon' : RipDeamon Driver) : Prop :=
  Attempted deamon label deamon' ∧ ¬AddsOverGarbage deamon label

theorem keys_nodup_of_disjoint {database : RipDatabase}
    (hwell : ∀ key, WellFormed key (slot database key)) (hdisjoint : RoutesDisjoint database) :
    (database.allRoutes.map fun route => buildRouteKey route.ripEntry).Nodup := by
  have hactive : database.okRoutes.values.map (fun route => buildRouteKey route.ripEntry) =
      database.okRoutes.entries.map Prod.fst :=
    HashMap.values_map_eq_keys fun key route h => ((hwell key).active route h).keyed
  have hgarbage : database.garbageRoutes.values.map (fun route => buildRouteKey route.ripEntry) =
      database.garbageRoutes.entries.map Prod.fst :=
    HashMap.values_map_eq_keys fun key route h => ((hwell key).garbage route h).keyed
  rw [RipDatabase.allRoutes, List.map_append, hactive, hgarbage, List.nodup_append]
  refine ⟨HashMap.nodup_keys _, HashMap.nodup_keys _, ?_⟩
  rintro key hok _ hgarbage rfl
  obtain ⟨⟨_, route⟩, hroute, rfl⟩ := List.mem_map.mp hok
  obtain ⟨⟨_, old⟩, hold, heq⟩ := List.mem_map.mp hgarbage
  obtain rfl := heq
  rcases hdisjoint _ with hnone | hnone
  · rw [HashMap.mem_entries_iff.mp hroute] at hnone
    exact absurd hnone (by simp)
  · rw [HashMap.mem_entries_iff.mp hold] at hnone
    exact absurd hnone (by simp)

theorem advertisesOnce_of_disjoint {database : RipDatabase}
    (hwell : ∀ key, WellFormed key (slot database key)) (hdisjoint : RoutesDisjoint database) :
    AdvertisesOnce database := by
  intro targetIfIndex changedOnly
  rw [RipDatabase.getRoutesForAdvertisement, List.map_map]
  exact (keys_nodup_of_disjoint hwell hdisjoint).sublist (List.filter_sublist.map _)

theorem attempted_routesDisjoint {deamon deamon' : RipDeamon Driver}
    {label : Answers × DeamonEvent} (hkeys : KeysMatch deamon.database)
    (hdisjoint : RoutesDisjoint deamon.database) (hstep : Attempted deamon label deamon') :
    RoutesDisjoint deamon'.database ↔ ¬AddsOverGarbage deamon label := by
  obtain ⟨res, ⟨deamon₀, hresumes, rfl⟩, rfl⟩ := hstep
  rw [← addsOverGarbage_resumes hresumes]
  obtain ⟨database, hreordered, rfl⟩ := hresumes
  have hdisjoint₀ := hdisjoint.reordered hreordered
  constructor
  · rintro hafter ⟨network, localRoute, hnetwork, hroute, hgarbage⟩
    rcases handle_addsNetwork_cases hnetwork
      { deamon with database, host := deamon.host.renew label.1 } with
      ⟨-, htaken⟩ | ⟨localRoute', hroute', -, hadopted⟩
    · rcases hdisjoint₀ (buildRouteKey localRoute.entry) with hnone | hnone
      · exact htaken localRoute hroute hnone
      · exact hgarbage hnone
    · obtain rfl : localRoute' = localRoute := Except.ok.inj (hroute'.symm.trans hroute)
      have hslot := slot_adopt localRoute' database (buildRouteKey localRoute'.entry)
      rw [if_pos rfl] at hslot
      rw [hadopted] at hafter
      rcases hafter (buildRouteKey localRoute'.entry) with hnone | hnone
      · have hactive := congrArg Slot.active hslot
        rw [slot_active, hnone] at hactive
        simp at hactive
      · exact hgarbage hnone
  · intro hadds
    exact handle_routesDisjoint (hkeys.reordered hreordered) hdisjoint₀ hadds

theorem run_clean_disjoint {deamon deamon' : RipDeamon Driver}
    {labels : List (Answers × DeamonEvent)} (hinitial : Initial deamon)
    (hrun : Run CleanStep deamon labels deamon') : RoutesDisjoint deamon'.database := by
  induction hrun with
  | nil =>
      rw [hinitial.1]
      exact fun key => .inl rfl
  | snoc hrest hstep ih =>
      have hkeys := keysMatch_of_wellFormed
        (run_wellFormed hinitial (hrest.mono fun _ _ _ _ h => h.1))
      exact (attempted_routesDisjoint hkeys ih hstep.1).mpr hstep.2

/-- Over runs without local routes added over garbage the tables stay apart and
advertisements name each destination once; the first step that does add one
ends with a destination in both tables. -/
theorem run_routesDisjoint {deamon deamon' : RipDeamon Driver}
    {labels : List (Answers × DeamonEvent)} (hinitial : Initial deamon)
    (hrun : Run CleanStep deamon labels deamon') :
    RoutesDisjoint deamon'.database ∧ AdvertisesOnce deamon'.database ∧
      ∀ label deamon'', Attempted deamon' label deamon'' →
        (RoutesDisjoint deamon''.database ↔ ¬AddsOverGarbage deamon' label) := by
  have hwell := run_wellFormed hinitial (hrun.mono fun _ _ _ _ h => h.1)
  have hdisjoint := run_clean_disjoint hinitial hrun
  refine ⟨hdisjoint, advertisesOnce_of_disjoint hwell hdisjoint, fun label deamon'' hstep => ?_⟩
  exact attempted_routesDisjoint (keysMatch_of_wellFormed hwell) hdisjoint hstep

theorem withdrawal_routesDisjoint :
    ∃ deamon', Run CleanStep learningDeamon [announcement, withdrawal] deamon' ∧
      RoutesDisjoint deamon'.database ∧
      deamon'.database.garbageRoutes.lookup farNetwork ≠ none := by
  have hany : (runEvents learningDeamon [announcement, withdrawal]).any (fun deamon =>
      (deamon.database.garbageRoutes.lookup farNetwork).isSome) = true := by decide +kernel
  obtain ⟨deamon', hrun, hgarbage⟩ := exists_run hany
  have hclean : Run CleanStep learningDeamon [announcement, withdrawal] deamon' := by
    refine hrun.mono fun label hlabel _ _ hstep => ⟨attempted_of_step hstep, ?_⟩
    rintro ⟨network, -, hadds, -⟩
    simp only [List.mem_cons, List.not_mem_nil, or_false] at hlabel
    rcases hlabel with rfl | rfl <;> simp [announcement, withdrawal, AddsNetwork] at hadds
  exact ⟨deamon', hclean, (run_routesDisjoint ⟨rfl, rfl⟩ hclean).1,
    Option.ne_none_iff_isSome.mpr hgarbage⟩

/-- An administrator then adds the network as a local one: it is active and in
garbage, and an advertisement names it with metric 1 and with metric 16. -/
theorem local_route_over_garbage :
    ∃ deamon', Run Step learningDeamon ([announcement, withdrawal] ++
        [(steady, .httpRequest (.addLocalRoute
          { address := "10.2.0.0", prefixLen := 16, dev := "eth0" }))]) deamon' ∧
      ¬RoutesDisjoint deamon'.database ∧ ¬AdvertisesOnce deamon'.database := by
  have hany : (runEvents learningDeamon ([announcement, withdrawal] ++
      [(steady, .httpRequest (.addLocalRoute
        { address := "10.2.0.0", prefixLen := 16, dev := "eth0" }))])).any (fun deamon =>
      ((deamon.database.okRoutes.lookup farNetwork).isSome &&
        (deamon.database.garbageRoutes.lookup farNetwork).isSome) &&
        !decide ((deamon.database.getRoutesForAdvertisement 3 false).map
          buildRouteKey).Nodup) = true := by decide +kernel
  obtain ⟨deamon', hrun, hend⟩ := exists_run hany
  simp only [Bool.and_eq_true, Bool.not_eq_true', decide_eq_false_iff_not] at hend
  refine ⟨deamon', hrun, fun hdisjoint => ?_, fun honce => hend.2 (honce 3 false)⟩
  rcases hdisjoint farNetwork with hnone | hnone
  · simp [hnone] at hend
  · simp [hnone] at hend

end RipV2.DisjointTables
