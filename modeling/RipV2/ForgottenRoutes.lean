import RipV2.LinkDeliveries
import RipV2.SynchronousRounds

/-!
Routes to a destination that nobody has: from well-formed tables, and with whatever is
still in flight, their metrics count up to infinity, and then they are gone.
-/

namespace RipV2.ForgottenRoutes

open Filter
open RipV2.Database
open RipV2.Deamon
open RipV2.DeamonRuns
open RipV2.DestinationSlots
open RipV2.DisjointTables
open RipV2.Executions
open RipV2.HopDistance
open RipV2.HostEnvironment
open RipV2.KernelRoutes
open RipV2.LinkDeliveries
open RipV2.Packets
open RipV2.PointToPoint
open RipV2.ProtectedLocalRoutes
open RipV2.ReachableRoutes
open RipV2.RoutingTables
open RipV2.SlotHistories
open RipV2.SynchronousRounds
open RipV2.TransitionRuns

variable {Router Driver : Type} [RoutingTableDriver Driver] {links : Links Router}
  {execution : Execution Router (@Step Driver _)} {origins : Set Router} {key : RipRouteKey}
  {increment limit : Router → UInt64}

section LowerBounds

variable (links execution origins key)

/-- At time `t` every route for the destination has a metric above the distance of its
router, as far as this is at most `level`. -/
def BoundedBelow (level t : ℕ) : Prop :=
  ∀ router route, ((slotAt execution key t router).active = some route ∨
      (slotAt execution key t router).garbage = some route) →
    ∀ e : ℕ, e ≤ level → e ≤ hops links.graph origins router → e + 1 ≤ route.ripEntry.metric.toNat

/-- At time `t` every learned route leads to a neighbour, and has a metric that is two
above its distance, as far as this is at most `level`. -/
def LedBy (level t : ℕ) : Prop :=
  ∀ router route, (slotAt execution key t router).active = some route → route.isLocal = false →
    ∃ port ∈ links.ports router, route.ripEntry.nextHop = (links.peer router port).2.address ∧
      ∀ e : ℕ, e ≤ level → e ≤ hops links.graph origins (links.peer router port).1 →
        e + 2 ≤ route.ripEntry.metric.toNat

end LowerBounds

theorem Tells.bounded {s level : ℕ} (hbounded : BoundedBelow links execution origins key level s)
    (hlevel : level ≤ 14) {router : Router} {port : Port} {entry : RipEntry} {ifIndex : UInt32}
    (htells : Tells links execution key s router port entry ifIndex) {e : ℕ} (he : e ≤ level)
    (hhops : e ≤ hops links.graph origins (links.peer router port).1) :
    e + 2 ≤ entry.metric.toNat := by
  obtain ⟨route, hstored, hmetric⟩ := htells.stored
  have hbound := hbounded _ route hstored e he hhops
  omega

theorem eventually_ledBy [Finite Router] (hfair : Fair links execution)
    (hconfigured : Configured execution increment limit)
    (hwell : ∀ router key, WellFormed key (slotAt execution key 0 router))
    (hadds : ∀ t, ¬AddsRoute key (execution.label t)) {level : ℕ} (hlevel : level ≤ 14)
    (hbounded : ∀ᶠ t in atTop, BoundedBelow links execution origins key level t) :
    ∀ᶠ t in atTop, LedBy links execution origins key level t := by
  filter_upwards [eventually_learned hfair hconfigured hwell hadds hbounded]
    with t hlearned router route hactive hremote
  obtain ⟨s, port, hs, htells⟩ := hlearned router route hactive hremote
  exact ⟨port, htells.port_mem, htells.nextHop,
    fun e he hhops => Tells.bounded hs hlevel htells he hhops⟩

theorem LedBy.bounded (hwell : ∀ router key, WellFormed key (slotAt execution key 0 router))
    (hother : ∀ t, ∀ router ∉ origins, NotLocal (slotAt execution key t router)) {level t : ℕ}
    (hlevel : level ≤ 14) (h : LedBy links execution origins key level t) :
    BoundedBelow links execution origins key (level + 1) t := by
  intro router route hstored e he hhops
  have hwell_t := slotAt_wellFormed hwell t router key
  rcases hstored with hactive | hgarbage
  · have hroute := hwell_t.active route hactive
    cases hlocal : route.isLocal with
    | true =>
        have horigin : router ∈ origins := by
          by_contra hnot
          exact absurd (hother t router hnot route hactive) (by simp [hlocal])
        rw [hops_eq_zero_iff.mpr horigin] at hhops
        obtain rfl : e = 0 := Nat.le_zero.mp (by exact_mod_cast hhops)
        rw [(hroute.isLocal hlocal).1]
        exact le_rfl
    | false =>
        obtain ⟨port, hport, -, hbound⟩ := h router route hactive hlocal
        have hlow := UInt32.le_iff_toNat_le.mp (hroute.learned hlocal).1
        change 2 ≤ route.ripEntry.metric.toNat at hlow
        cases e with
        | zero => omega
        | succ e =>
            -- the neighbour is at most one hop closer
            have hnear := hhops.trans (hops_le_add_one origins (links.adj_peer hport))
            rw [Nat.cast_add, Nat.cast_one, ENat.add_le_add_iff_right ENat.one_ne_top] at hnear
            exact hbound e (by omega) hnear
  · rw [(hwell_t.garbage route hgarbage).metric]
    change e + 1 ≤ 16
    omega

theorem bounded_zero (hwell : ∀ router key, WellFormed key (slotAt execution key 0 router))
    (t : ℕ) : BoundedBelow links execution origins key 0 t := by
  intro router route hstored e he _
  obtain rfl := Nat.le_zero.mp he
  have hwell_t := slotAt_wellFormed hwell t router key
  rcases hstored with hactive | hgarbage
  · have hroute := hwell_t.active route hactive
    cases hlocal : route.isLocal with
    | true =>
        rw [(hroute.isLocal hlocal).1]
        exact le_rfl
    | false =>
        have hlow := UInt32.le_iff_toNat_le.mp (hroute.learned hlocal).1
        change 2 ≤ route.ripEntry.metric.toNat at hlow
        omega
  · rw [(hwell_t.garbage route hgarbage).metric]
    decide

/-- Metrics rise level by level to the distances, or to infinity. -/
theorem eventually_bounded [Finite Router] (hfair : Fair links execution)
    (hconfigured : Configured execution increment limit)
    (hwell : ∀ router key, WellFormed key (slotAt execution key 0 router))
    (hadds : ∀ t, ¬AddsRoute key (execution.label t))
    (hother : ∀ t, ∀ router ∉ origins, NotLocal (slotAt execution key t router)) {level : ℕ}
    (hlevel : level ≤ 14) :
    ∀ᶠ t in atTop, BoundedBelow links execution origins key level t := by
  induction level with
  | zero => exact Eventually.of_forall fun t => bounded_zero hwell t
  | succ level ih =>
      have hled := eventually_ledBy hfair hconfigured hwell hadds (by omega) (ih (by omega))
      exact hled.mono fun t h => h.bounded hwell hother (by omega)

theorem LedBy.none_of_far (hwell : ∀ router key, WellFormed key (slotAt execution key 0 router))
    {t : ℕ} (h : LedBy links execution origins key 14 t) {router : Router}
    (hremote : NotLocal (slotAt execution key t router))
    (hfar : 15 ≤ hops links.graph origins router) :
    (slotAt execution key t router).active = none := by
  rw [Option.eq_none_iff_forall_ne_some]
  intro route hactive
  obtain ⟨port, hport, -, hbound⟩ := h router route hactive (hremote route hactive)
  have hnear := hfar.trans (hops_le_add_one origins (links.adj_peer hport))
  have hneighbour : ((14 : ℕ) : ℕ∞) ≤ hops links.graph origins (links.peer router port).1 :=
    (ENat.add_le_add_iff_right ENat.one_ne_top).mp hnear
  have hinfinite := hbound 14 le_rfl hneighbour
  have hroute := (slotAt_wellFormed hwell t router key).active route hactive
  have hlt := UInt32.lt_iff_toNat_lt.mp (hroute.learned (hremote route hactive)).2.1
  change route.ripEntry.metric.toNat < 16 at hlt
  omega

/-- Under settings that stay as they are, a destination that nobody has as a local route
any more, nor adds again, is forgotten by every router, for good. -/
theorem eventually_forgotten [Finite Router] (hfair : Fair links execution)
    (hconfigured : Configured execution increment limit)
    (hwell : ∀ router key, WellFormed key (slotAt execution key 0 router))
    (hadds : ∀ t, ¬AddsRoute key (execution.label t))
    (hgone : ∀ router, NotLocal (slotAt execution key 0 router)) :
    ∀ᶠ t in atTop, ∀ router, (execution.states t router).database.okRoutes.lookup key = none := by
  have hother : ∀ t, ∀ router ∉ (∅ : Set Router), NotLocal (slotAt execution key t router) :=
    fun t router _ => slotAt_keeps hwell hadds (fun _ _ _ hadded hstep h => h.step hadded hstep)
      (hgone router) t
  have hbounded := eventually_bounded hfair hconfigured hwell hadds hother (le_refl 14)
  filter_upwards [eventually_ledBy hfair hconfigured hwell hadds (le_refl 14) hbounded]
    with t hled router
  refine hled.none_of_far hwell (hother t router (Set.notMem_empty router)) ?_
  rw [hops_empty]
  exact le_top

theorem steady_settings :
    timeoutCheckIntervalSecs steady = 15 ∧ routeTimeoutSecs steady = 180 := ⟨rfl, rfl⟩

/-- The routers take turns in checking for timeouts. -/
def checkingPlan (t : ℕ) : Bool × Answers × DeamonEvent :=
  (t.bodd, steady, .routeTimeoutTick none)

/-- Nothing is in the way of a timeout check. -/
def Checkable (states : Bool → RipDeamon Kernel) : Prop :=
  ∀ router, (∀ key, WellFormed key (slot (states router).database key)) ∧
    RoutesDisjoint (states router).database

theorem Checkable.next {states : Bool → RipDeamon Kernel} (h : Checkable states) (t : ℕ) :
    ∃ next, Step (states (checkingPlan t).1) (checkingPlan t).2 next ∧
      Checkable (Function.update states (checkingPlan t).1 next) := by
  obtain ⟨hwell, hdisjoint⟩ := h (checkingPlan t).1
  have hkeys := keysMatch_of_wellFormed hwell
  obtain ⟨next, hstep⟩ := exists_tick kernel_neverFails hkeys hdisjoint steady none
  refine ⟨next, hstep, fun router => ?_⟩
  by_cases hrouter : router = (checkingPlan t).1
  · rw [hrouter, Function.update_self]
    refine ⟨simulated_wellFormed (outcome_simulated hstep hkeys) hwell, ?_⟩
    refine (attempted_routesDisjoint hkeys hdisjoint (attempted_of_step hstep)).mpr ?_
    rintro ⟨network, -, hadds, -⟩
    simp [AddsNetwork] at hadds
  · rw [Function.update_of_ne hrouter]
    exact h router

theorem stale_route_forgotten :
    ∃ execution : Execution Bool (@Step Kernel _),
      (∃ route, (execution.states 0 true).database.okRoutes.lookup nearNetwork = some route) ∧
      ∀ᶠ t in atTop, ∀ router,
        (execution.states t router).database.okRoutes.lookup nearNetwork = none := by
  let learned : Answers × DeamonEvent :=
    (steady, .received (responseFrom neighbour eth1 [plainEntry nearNetwork 1]))
  have hany : (runEvents bareDeamon [learned]).any (fun deamon =>
      (deamon.database.okRoutes.lookup nearNetwork).any fun route => !route.isLocal) = true := by
    decide +kernel
  obtain ⟨stale, hrun, hend⟩ := exists_run hany
  obtain ⟨route, hactive, hremote⟩ := (Option.any_eq_true _ _).mp hend
  have hclean : Run CleanStep bareDeamon [learned] stale := by
    refine hrun.mono fun label hlabel _ _ hstep => ⟨attempted_of_step hstep, ?_⟩
    rintro ⟨network, -, hadds, -⟩
    obtain rfl := List.mem_singleton.mp hlabel
    simp [AddsNetwork, learned] at hadds
  let start (router : Bool) : RipDeamon Kernel := if router then stale else bareDeamon
  have hbare : Initial bareDeamon := ⟨rfl, rfl⟩
  have hcheckable : Checkable start := by
    intro router
    cases router
    · exact ⟨run_wellFormed hbare .nil, run_clean_disjoint hbare .nil⟩
    · exact ⟨run_wellFormed hbare (run_attempted hrun), run_clean_disjoint hbare hclean⟩
  obtain ⟨execution, hstart, hplan, -⟩ := exists_execution checkingPlan (I := fun _ => Checkable)
    hcheckable fun t states h => h.next t
  have hlabel : ∀ t, execution.label t = (steady, .routeTimeoutTick none) := fun t => (hplan t).2
  have hfair : Fair crossover execution := by
    refine ⟨fun router => frequently_atTop.mpr fun a => ?_, fun s => ?_⟩
    · refine ⟨2 * a + router.toNat, by omega, ?_, ?_⟩
      · rw [(hplan _).1]
        cases router <;> simp [checkingPlan]
      · rw [hlabel]
        rfl
    · refine Eventually.of_forall fun t packet hevent => ?_
      simp [hlabel] at hevent
  have hconfigured : Configured execution (fun _ => 15) (fun _ => 180) := by
    refine ⟨fun t => ?_, fun t => ?_, fun _ => by decide⟩
    · rw [hlabel]
      exact steady_settings.1
    · rw [hlabel]
      exact steady_settings.2
  have hgone : ∀ router, NotLocal (slotAt execution nearNetwork 0 router) := by
    intro router route' hroute'
    rw [slotAt, hstart] at hroute'
    cases router
    · simp [start, bareDeamon, RipDatabase.new] at hroute'
    · obtain rfl := Option.some.inj (hactive.symm.trans hroute')
      simpa using hremote
  refine ⟨execution, ⟨route, by rw [hstart]; exact hactive⟩, ?_⟩
  refine eventually_forgotten hfair hconfigured (fun router key => ?_) (fun t => ?_) hgone
  · rw [slotAt, hstart]
    exact (hcheckable router).1 key
  · rintro ⟨network, -, hadds, -⟩
    simp [hlabel, AddsNetwork] at hadds

end RipV2.ForgottenRoutes
