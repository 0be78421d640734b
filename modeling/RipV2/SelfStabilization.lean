import RipV2.ForgottenRoutes

/-!
Routers on point-to-point links come to the shortest routes to a destination that
stays where it is, whatever other routes to it they have at first and whatever is
still in flight. Only, no router may have it both active and in garbage.
-/

namespace RipV2.SelfStabilization

open Filter
open RipV2.Chunks
open RipV2.Database
open RipV2.Deamon
open RipV2.Deamon.RipDeamon
open RipV2.DeamonRuns
open RipV2.DeamonSimulation
open RipV2.DestinationSlots
open RipV2.DisjointTables
open RipV2.Executions
open RipV2.ForgottenRoutes
open RipV2.HeardEntries
open RipV2.HeardSequences
open RipV2.HashMapModel
open RipV2.HopDistance
open RipV2.HostEnvironment
open RipV2.KernelRoutes
open RipV2.LinkDeliveries
open RipV2.Packets
open RipV2.PointToPoint
open RipV2.ProtectedLocalRoutes
open RipV2.ReachableRoutes
open RipV2.RoutingTables
open RipV2.SlotHistories
open RipV2.SynchronousRounds
open RipV2.TimeoutCounters
open RipV2.Updater

variable {Router Driver : Type} [RoutingTableDriver Driver] {links : Links Router}
  {execution : Execution Router (@Step Driver _)} {origins : Set Router} {key : RipRouteKey}
  {increment limit : Router → UInt64}

/-- For a router at distance `d + 1`: the entry comes from a neighbour, with the metric
`d + 2` if the neighbour is closer, and a higher one otherwise. -/
structure Informed (links : Links Router) (origins : Set Router) (key : RipRouteKey) (d : ℕ)
    (router : Router) (entry : RipEntry) (ifIndex : UInt32) : Prop where
  valid : isEntryValid entry = true
  keyed : buildRouteKey entry = key
  via : ∃ port ∈ links.ports router, entry.nextHop = (links.peer router port).2.address ∧
    ifIndex = port.ifIndex ∧
    (hops links.graph origins (links.peer router port).1 = d → entry.metric.toNat = d + 2) ∧
    (hops links.graph origins (links.peer router port).1 ≠ d → d + 2 < entry.metric.toNat)

variable {d : ℕ} {router : Router}

theorem Informed.le {entry : RipEntry} {ifIndex : UInt32}
    (h : Informed links origins key d router entry ifIndex) : d + 2 ≤ entry.metric.toNat := by
  obtain ⟨port, -, -, -, hcloser, hother⟩ := h.via
  by_cases hhops : hops links.graph origins (links.peer router port).1 = d
  · exact (hcloser hhops).ge
  · exact (hother hhops).le

theorem Informed.metric_of_nextHop {entry entry' : RipEntry} {ifIndex ifIndex' : UInt32}
    (h : Informed links origins key d router entry ifIndex)
    (h' : Informed links origins key d router entry' ifIndex')
    (hhop : entry.nextHop = entry'.nextHop) (hmetric : entry.metric.toNat = d + 2) :
    entry'.metric.toNat = d + 2 := by
  obtain ⟨port, hport, hnext, -, -, hother⟩ := h.via
  obtain ⟨port', hport', hnext', -, hcloser', -⟩ := h'.via
  have hsame := (links.address_inj _ _ _ (links.peer_mem router port hport) _
    (links.peer_mem router port' hport') (by rw [← hnext, ← hnext', hhop])).1
  apply hcloser'
  rw [← hsame]
  by_contra hne
  have hlt := hother hne
  omega

/-- The active route of a router at distance `d + 1`, if there is one. -/
def AllInformed (links : Links Router) (origins : Set Router) (key : RipRouteKey) (d : ℕ)
    (router : Router) (s : Slot) : Prop :=
  ∀ route, s.active = some route →
    Informed links origins key d router route.ripEntry route.ifIndex

/-- The destination has an active route with this metric. -/
def HasMetric (metric : ℕ) (s : Slot) : Prop :=
  ∃ route, s.active = some route ∧ route.ripEntry.metric.toNat = metric

theorem hear_informed (hd : d + 2 ≤ 15) {s : Slot}
    (hs : AllInformed links origins key d router s) {entry : RipEntry} {ifInfo : RipIfInfo}
    (hentry : Informed links origins key d router entry ifInfo.ifIndex) (now : Instant) :
    AllInformed links origins key d router (s.hear now entry ifInfo) ∧
      (HasMetric (d + 2) s ∨ entry.metric.toNat = d + 2 →
        HasMetric (d + 2) (s.hear now entry ifInfo)) := by
  have hle := hentry.le
  have hinfinite : ripInfinityMetric ≤ entry.metric → entry.metric.toNat ≠ d + 2 := by
    intro hge hmetric
    have hge' : 16 ≤ entry.metric.toNat := UInt32.le_iff_toNat_le.mp hge
    omega
  have hlearned : ∀ garbage, AllInformed links origins key d router
      ⟨some (learnedRoute entry ifInfo), garbage⟩ := by
    intro garbage route hroute
    obtain rfl := Option.some.inj hroute
    exact hentry
  rw [Slot.hear]
  cases hverdict : verdict s.active entry ifInfo with
  | ignore =>
      refine ⟨hs, fun hbest => ?_⟩
      rcases verdict_ignore hverdict with ⟨hnone, hge⟩ | ⟨old, hactive, -, hbetter⟩
      · rcases hbest with ⟨route, hactive, -⟩ | hmetric
        · simp [hnone] at hactive
        · exact absurd hmetric (hinfinite hge)
      · rcases hbest with hbest | hmetric
        · exact hbest
        · have hold := (hs old hactive).le
          have hfinite : entry.metric < ripInfinityMetric := by
            rw [← UInt32.not_le]
            exact fun hge => hinfinite hge hmetric
          have hlast := UInt32.le_iff_toNat_le.mp (hbetter hfinite)
          exact ⟨old, hactive, by omega⟩
  | refresh old =>
      obtain ⟨hactive, -, hsame, -⟩ := verdict_refresh hverdict
      refine ⟨?_, fun hbest => ?_⟩
      · intro route hroute
        obtain rfl := Option.some.inj hroute
        exact hs old hactive
      · refine ⟨_, rfl, ?_⟩
        rcases hbest with ⟨route, hroute, hmetric⟩ | hmetric
        · obtain rfl := Option.some.inj (hactive.symm.trans hroute)
          exact hmetric
        · rw [← hsame] at hmetric
          exact hmetric
  | learn =>
      refine ⟨hlearned _, fun hbest => ⟨_, rfl, hbest.resolve_left ?_⟩⟩
      rintro ⟨route, hactive, -⟩
      simp [(verdict_learn hverdict).1] at hactive
  | update old =>
      obtain ⟨hactive, -, hhop⟩ := verdict_update hverdict
      refine ⟨hlearned _, fun hbest => ⟨_, rfl, hbest.elim ?_ id⟩⟩
      rintro ⟨route, hroute, hmetric⟩
      obtain rfl := Option.some.inj (hactive.symm.trans hroute)
      exact (hs old hactive).metric_of_nextHop hentry (beq_iff_eq.mp hhop) hmetric
  | switch old =>
      obtain ⟨hactive, -, hbetter, -⟩ := verdict_switch hverdict
      refine ⟨hlearned _, fun hbest => ⟨_, rfl, hbest.elim ?_ id⟩⟩
      rintro ⟨route, hroute, hmetric⟩
      obtain rfl := Option.some.inj (hactive.symm.trans hroute)
      have hlt := UInt32.lt_iff_toNat_lt.mp hbetter
      omega
  | poison old =>
      obtain ⟨hactive, hge, hhop⟩ := verdict_poison hverdict
      refine ⟨fun route hroute => by simp at hroute, fun hbest => ?_⟩
      exfalso
      refine hinfinite hge (hbest.elim ?_ id)
      rintro ⟨route, hroute, hmetric⟩
      obtain rfl := Option.some.inj (hactive.symm.trans hroute)
      exact (hs old hactive).metric_of_nextHop hentry (beq_iff_eq.mp hhop) hmetric

theorem hears_informed (hd : d + 2 ≤ 15) {s t : Slot} {entries : List (RipEntry × RipIfInfo)}
    (hs : AllInformed links origins key d router s)
    (hentries : ∀ heard ∈ entries, Informed links origins key d router heard.1 heard.2.ifIndex)
    (hhears : Hears s entries t) :
    HasMetric (d + 2) s ∨ (∃ heard ∈ entries, heard.1.metric.toNat = d + 2) →
      HasMetric (d + 2) t := by
  induction hhears with
  | nil s => exact fun hbest => hbest.resolve_right (by simp)
  | @cons s t entry ifInfo entries now _ ih =>
      obtain ⟨hnext, hbest⟩ := hear_informed hd hs (hentries (entry, ifInfo) (by simp)) now
      have hrest := ih hnext fun heard hmem => hentries heard (by simp [hmem])
      rintro (hs | ⟨heard, hmem, hmetric⟩)
      · exact hrest (.inl (hbest (.inl hs)))
      · rcases List.mem_cons.mp hmem with rfl | hmem
        · exact hrest (.inl (hbest (.inr hmetric)))
        · exact hrest (.inr ⟨heard, hmem, hmetric⟩)

/-- The origins have a valid destination as a local route, on an interface that is
none of the links, and nobody else has. The tables are well formed, and none has the
destination both active and in garbage; whether their other routes are right is left open. -/
structure Recovering (links : Links Router) (origins : Set Router) (key : RipRouteKey)
    (deamons : Router → RipDeamon Driver) : Prop where
  wellFormed : ∀ router key', WellFormed key' (slot (deamons router).database key')
  disjoint : ∀ router, Slot.Disjoint (slot (deamons router).database key)
  equipped : Equipped links deamons
  origin : ∀ router ∈ origins, ∃ route,
    (deamons router).database.okRoutes.lookup key = some route ∧ route.isLocal = true ∧
    isEntryValid route.ripEntry = true ∧ ∀ port ∈ links.ports router, route.ifIndex ≠ port.ifIndex
  other : ∀ router ∉ origins, NotLocal (slot (deamons router).database key)

omit [RoutingTableDriver Driver] in
theorem Start.recovering {deamons : Router → RipDeamon Driver}
    (h : Start links origins key deamons) : Recovering links origins key deamons := by
  have hslot : ∀ router key', (slot (deamons router).database key').garbage = none ∧
      ∀ route, (slot (deamons router).database key').active = some route →
        router ∈ origins ∧ ActiveRoute key' route := by
    intro router key'
    by_cases hempty : router ∉ origins ∨ key' ≠ key
    · simp [h.empty router key' hempty]
    · simp only [not_or, not_not] at hempty
      obtain ⟨horigin, rfl⟩ := hempty
      obtain ⟨route, hslot, -, hactive, -⟩ := h.origin router horigin
      rw [hslot]
      refine ⟨rfl, fun route' hroute' => ⟨horigin, ?_⟩⟩
      obtain rfl := Option.some.inj hroute'
      exact hactive
  refine ⟨fun router key' => ⟨fun route hroute => ((hslot router key').2 route hroute).2, ?_⟩,
    fun router => .inr (hslot router key).1, h.equipped, fun router horigin => ?_,
    fun router hnot route hroute => absurd ((hslot router key).2 route hroute).1 hnot⟩
  · rintro route hroute
    cases (hslot router key').1.symm.trans hroute
  · obtain ⟨route, hslot, hlocal, -, hvalid, hindex⟩ := h.origin router horigin
    exact ⟨route, congrArg Slot.active hslot, hlocal, hvalid, hindex⟩

/-- The routers at distance `d` have a shortest route at time `t`. -/
def ShortestAt (links : Links Router) (execution : Execution Router (@Step Driver _))
    (origins : Set Router) (key : RipRouteKey) (d t : ℕ) : Prop :=
  ∀ router, hops links.graph origins router = d →
    ∃ route, (slotAt execution key t router).active = some route ∧
      Shortest links origins key router d route

section Recovery

variable (hrecovering : Recovering links origins key (execution.states 0))
  (hadds : ∀ t, ¬AddsRoute key (execution.label t))

include hrecovering hadds

theorem Recovering.notLocal (t : ℕ) :
    ∀ router ∉ origins, NotLocal (slotAt execution key t router) := fun router hnot =>
  slotAt_keeps hrecovering.wellFormed hadds (fun _ _ _ hadded hstep h => h.step hadded hstep)
    (hrecovering.other router hnot) t

theorem Recovering.disjointAt (t : ℕ) (router : Router) :
    Slot.Disjoint (slotAt execution key t router) :=
  slotAt_keeps hrecovering.wellFormed hadds (fun _ _ _ hadded hstep h => h.step hadded hstep)
    (hrecovering.disjoint router) t

omit hadds in
theorem Recovering.shortestAt_zero
    (hclaims : ∀ t, ¬ClaimsLocalRoute key (execution.label t).2) (t : ℕ) :
    ShortestAt links execution origins key 0 t := by
  intro router hrouter
  have horigin : router ∈ origins := hops_eq_zero_iff.mp (by exact_mod_cast hrouter)
  obtain ⟨route, hactive, hlocal, hvalid, hindex⟩ := hrecovering.origin router horigin
  have hholds : Holds route (slotAt execution key t router) := by
    refine execution.keeps (I := fun deamon => Holds route (slot deamon.database key))
      ⟨route, hactive, .refl route⟩ (fun t _ hacts hholds => ?_) (Nat.zero_le t)
    subst hacts
    exact attempted_holds (slotAt_wellFormed hrecovering.wellFormed t _) hlocal hholds (hclaims t)
      (attempted_of_step (execution.acts t))
  obtain ⟨route', hactive', hsame⟩ := hholds
  have hroute := (hrecovering.wellFormed router key).active route hactive
  obtain ⟨hmetric, hhop, -⟩ := hroute.isLocal hlocal
  have hshortest : Shortest links origins key router 0 route := by
    refine ⟨hroute.keyed, hvalid, ?_, .inl ⟨rfl, hhop, hindex⟩⟩
    rw [hmetric]
    rfl
  exact ⟨route', hactive', hshortest.sameRoute hsame⟩

theorem Recovering.informed (hd : d + 2 ≤ 15)
    (hrouter : hops links.graph origins router = (d + 1 : ℕ)) {s : ℕ}
    (hbounded : BoundedBelow links execution origins key 14 s)
    (hshortest : ShortestAt links execution origins key d s) {port : Port} {entry : RipEntry}
    {ifIndex : UInt32} (htells : Tells links execution key s router port entry ifIndex) :
    Informed links origins key d router entry ifIndex := by
  refine ⟨htells.valid, htells.keyed, port, htells.port_mem, htells.nextHop, htells.ifIndex_eq,
    fun hcloser => ?_, fun hne => ?_⟩
  · obtain ⟨route, hactive, hroute⟩ := hshortest _ hcloser
    obtain ⟨stored, hstored, hmetric⟩ := htells.stored
    have hgarbage := (hrecovering.disjointAt hadds s (links.peer router port).1).resolve_left
      (by simp [hactive])
    rcases hstored with hstored | hstored
    · obtain rfl := Option.some.inj (hactive.symm.trans hstored)
      have hexact := hroute.metric
      omega
    · simp [hgarbage] at hstored
  · have hnear := hops_le_add_one origins (links.adj_peer htells.port_mem)
    rw [hrouter, Nat.cast_add, Nat.cast_one, ENat.add_le_add_iff_right ENat.one_ne_top] at hnear
    have hfurther : ((d + 1 : ℕ) : ℕ∞) ≤ hops links.graph origins (links.peer router port).1 := by
      rw [Nat.cast_add, Nat.cast_one]
      exact Order.add_one_le_of_lt (lt_of_le_of_ne hnear (Ne.symm hne))
    have hbound := Tells.bounded hbounded le_rfl htells (by omega : d + 1 ≤ 14) hfurther
    omega

end Recovery

omit [RoutingTableDriver Driver] in
theorem Shortest.ifIndex_ne {port : Port} (hport : port ∈ links.ports router)
    (hrouter : hops links.graph origins router = (d + 1 : ℕ)) {route : RipDbEntry}
    (h : Shortest links origins key (links.peer router port).1 d route) :
    route.ifIndex ≠ (links.peer router port).2.ifIndex := by
  have hmem := links.peer_mem router port hport
  rcases h.via with ⟨-, -, hlocal⟩ | ⟨port', hport', hcloser, -, hindex⟩
  · exact hlocal _ hmem
  · rw [hindex]
    intro hsame
    obtain rfl := links.ifIndex_inj _ _ hport' _ hmem hsame
    rw [links.peer_peer router port hport, hrouter] at hcloser
    norm_cast at hcloser
    omega

/-- Within its timeout a router at distance `d + 1` hears from a closer neighbour. -/
theorem ShortestAt.heard (hkept : KeptAlive links execution increment limit)
    (hequipped : Equipped links (execution.states 0)) (hd : d + 2 ≤ 15) {port : Port}
    (hport : port ∈ links.ports router) (hrouter : hops links.graph origins router = (d + 1 : ℕ))
    (hcloser : hops links.graph origins (links.peer router port).1 = d) {a b : ℕ}
    (hshortest : ∀ s, a ≤ s → ShortestAt links execution origins key d s)
    (hwindow : (limit router).toNat ≤
      (increment router).toNat * occurrences (Ticks execution router) a b) :
    ∃ u, a < u ∧ u < b ∧ ¬Ticks execution router u ∧
      ∃ heard, HeardAt execution key router u heard ∧
        heard.1.nextHop = (links.peer router port).2.address ∧
        heard.1.metric.toNat = d + 2 := by
  refine hkept.heard hequipped hport (by omega : d + 1 ≤ 15) (fun s hs => ?_) hwindow
  obtain ⟨route, hactive, hroute⟩ := hshortest s hs _ hcloser
  exact ⟨route, hactive, hroute.valid, hroute.keyed, hroute.metric,
    Shortest.ifIndex_ne hport hrouter hroute⟩

/-- The best metric outlives every step: its next hop is heard before it times out. -/
theorem hasMetric_succ (hconfigured : Configured execution increment limit)
    (hkept : KeptAlive links execution increment limit)
    (hrecovering : Recovering links origins key (execution.states 0))
    (hadds : ∀ t, ¬AddsRoute key (execution.label t)) (hd : d + 2 ≤ 15)
    (hrouter : hops links.graph origins router = (d + 1 : ℕ)) {a t : ℕ}
    (hshortest : ∀ s, a ≤ s → ShortestAt links execution origins key d s)
    (hinformed : AllInformed links origins key d router (slotAt execution key t router))
    (hheard : ∀ heard, HeardAt execution key router t heard →
      Informed links origins key d router heard.1 heard.2.ifIndex)
    (hlast : ∀ route, (slotAt execution key t router).active = some route →
      ∃ h, a ≤ h ∧ HeardLast execution (increment router) key router h t route)
    (hremote : NotLocal (slotAt execution key t router))
    (hbest : HasMetric (d + 2) (slotAt execution key t router)) :
    HasMetric (d + 2) (slotAt execution key (t + 1) router) := by
  rcases slotAt_cases hconfigured hrecovering.wellFormed hadds t router with
    ⟨-, hacts, -, hhears⟩ | ⟨htick, -, hchecked⟩ | ⟨-, -, hkeeps⟩
  · exact hears_informed hd hinformed (fun heard hmem => hheard heard ⟨hacts, hmem⟩) hhears
      (.inl hbest)
  · obtain ⟨route, hactive, hmetric⟩ := hbest
    by_cases hlimit : saturatingAdd64 route.timeoutCnt (increment router) < limit router
    · obtain ⟨hcounted, -⟩ := (hchecked.route hactive).2.2 (hremote route hactive) hlimit
      exact ⟨_, hcounted, hmetric⟩
    · -- the ticks since the next hop was heard have reached the limit
      exfalso
      obtain ⟨h, hah, hlast⟩ := hlast route hactive
      have hcounted := hlast.counted
      have hle := UInt64.le_iff_toNat_le.mp (UInt64.not_lt.mp hlimit)
      rw [saturatingAdd64_toNat] at hle
      have hwindow : (limit router).toNat ≤
          (increment router).toNat * occurrences (Ticks execution router) h (t + 1) := by
        rw [occurrences_succ_of_pos hlast.before.le htick, Nat.mul_succ]
        omega
      obtain ⟨port, hport, hhop, -, -, hother⟩ := (hinformed route hactive).via
      have hcloser : hops links.graph origins (links.peer router port).1 = d := by
        by_contra hne
        have hlt := hother hne
        omega
      obtain ⟨u, hhu, hut, hnotick, heard, hheard, hfrom, -⟩ := ShortestAt.heard hkept
        hrecovering.equipped hd hport hrouter hcloser (fun s hs => hshortest s (hah.trans hs))
        hwindow
      have hne : u ≠ t := fun heq => hnotick (heq ▸ htick)
      exact hlast.silent u hhu (by omega) heard hheard (hfrom.trans hhop.symm)
  · obtain ⟨route, hactive, hmetric⟩ := hbest
    obtain ⟨route', hactive', hsame⟩ := hkeeps.exists_route hactive
    exact ⟨route', hactive', by rw [hsame.ripEntry, hmetric]⟩

theorem eventually_shortestAt_succ [Finite Router] (hfair : Fair links execution)
    (hconfigured : Configured execution increment limit)
    (hkept : KeptAlive links execution increment limit)
    (hrecovering : Recovering links origins key (execution.states 0))
    (hadds : ∀ t, ¬AddsRoute key (execution.label t)) (hd : d + 2 ≤ 15)
    (hshortest : ∀ᶠ t in atTop, ShortestAt links execution origins key d t) :
    ∀ᶠ t in atTop, ShortestAt links execution origins key (d + 1) t := by
  have hwell := hrecovering.wellFormed
  have hbounded := eventually_bounded hfair hconfigured hwell hadds
    (fun t => hrecovering.notLocal hadds t) (le_refl 14)
  obtain ⟨a, ha⟩ := eventually_atTop.mp hshortest
  refine eventually_all.mpr fun router => ?_
  by_cases hrouter : hops links.graph origins router = (d + 1 : ℕ)
  swap
  · exact Eventually.of_forall fun t h => absurd h hrouter
  have hnot : router ∉ origins := by
    intro horigin
    rw [hops_eq_zero_iff.mpr horigin] at hrouter
    norm_cast at hrouter
  have hsettled := hbounded.and hshortest
  have hguided : ∀ᶠ t in atTop,
      AllInformed links origins key d router (slotAt execution key t router) ∧
      (∀ heard, HeardAt execution key router t heard →
        Informed links origins key d router heard.1 heard.2.ifIndex) ∧
      ∀ route, (slotAt execution key t router).active = some route →
        ∃ h, a ≤ h ∧ HeardLast execution (increment router) key router h t route := by
    filter_upwards [eventually_learned hfair hconfigured hwell hadds hsettled,
      eventually_tells hfair hwell hsettled key,
      eventually_heardLast hconfigured hwell hadds (hfair.ticks router) a]
      with t hlearned htold hlast
    refine ⟨fun route hactive => ?_, fun heard hheard => ?_, fun route hactive => ?_⟩
    · obtain ⟨s, port, hs, htells⟩ := hlearned router route hactive
        (hrecovering.notLocal hadds t router hnot route hactive)
      exact hrecovering.informed hadds hd hrouter hs.1 hs.2 htells
    · obtain ⟨s, port, hs, htells⟩ := htold router heard hheard
      exact hrecovering.informed hadds hd hrouter hs.1 hs.2 htells
    · exact hlast route hactive (hrecovering.notLocal hadds t router hnot route hactive)
  obtain ⟨b, hb⟩ := eventually_atTop.mp hguided
  -- a closer neighbour is heard some time
  obtain ⟨neighbour, hadj, hcloser⟩ := exists_adj_hops hrouter
  obtain ⟨port, hport, rfl⟩ := links.exists_port hadj
  obtain ⟨c, hmany⟩ := (eventually_le_occurrences (hfair.ticks router) (max a b)
    (limit router).toNat).exists
  have hpositive := UInt64.lt_iff_toNat_lt.mp (hconfigured.positive router)
  obtain ⟨u, hbu, -, -, heard, hheard, -, hmetric⟩ := ShortestAt.heard hkept
    hrecovering.equipped hd hport hrouter hcloser
    (fun s hs => ha s ((le_max_left a b).trans hs))
    (hmany.trans (Nat.le_mul_of_pos_left _ hpositive))
  have hbest : HasMetric (d + 2) (slotAt execution key (u + 1) router) := by
    obtain ⟨hinformed, htold, -⟩ := hb u ((le_max_right a b).trans hbu.le)
    rcases slotAt_cases hconfigured hwell hadds u router with
      ⟨-, hacts, -, hhears⟩ | ⟨-, hnone, -⟩ | ⟨-, hnone, -⟩
    · exact hears_informed hd hinformed (fun heard hmem => htold heard ⟨hacts, hmem⟩) hhears
        (.inr ⟨heard, hheard.2, hmetric⟩)
    · exact absurd hheard (hnone heard)
    · exact absurd hheard (hnone heard)
  filter_upwards [eventually_ge_atTop (u + 1)] with t hut _
  have hstays : HasMetric (d + 2) (slotAt execution key t router) := by
    induction t, hut using Nat.le_induction with
    | base => exact hbest
    | succ t hut ih =>
        obtain ⟨hinformed, htold, hlast⟩ := hb t ((le_max_right a b).trans (by omega))
        exact hasMetric_succ hconfigured hkept hrecovering hadds hd hrouter ha hinformed htold
          hlast (hrecovering.notLocal hadds t router hnot) ih
  obtain ⟨route, hactive, hexact⟩ := hstays
  have hroute := (hb t ((le_max_right a b).trans (by omega))).1 route hactive
  obtain ⟨port, hport, hhop, hindex, -, hother⟩ := hroute.via
  refine ⟨route, hactive, hroute.keyed, hroute.valid, hexact, .inr ⟨port, hport, ?_, hhop, hindex⟩⟩
  by_contra hne
  have hlt := hother fun hsame => hne (by rw [hsame]; norm_cast)
  omega

/-- The network of the first router, as the second hears of it. -/
def nearOffer : RipPacket :=
  responseFrom (endOf false).address eth1 [plainEntry nearNetwork 1]

def nearLearned : RipDbEntry :=
  learnedRoute { plainEntry nearNetwork 2 with nextHop := (endOf false).address } eth1

/-- The routers advertise and check for timeouts in turn, and what the first sends
arrives at once. -/
def crossoverPlan (t : ℕ) : Bool × Answers × DeamonEvent :=
  match t % 5 with
  | 0 => (false, steady, .advertise false)
  | 1 => (true, steady, .received nearOffer)
  | 2 => (true, steady, .advertise false)
  | 3 => (false, steady, .routeTimeoutTick none)
  | _ => (true, steady, .routeTimeoutTick none)

/-- The destination has the route and has counted no more than `cnt`. -/
def Holding (base : RipDbEntry) (cnt : ℕ) (s : Slot) : Prop :=
  ∃ route, s = ⟨some route, none⟩ ∧ SameRoute base route ∧ route.timeoutCnt.toNat ≤ cnt

/-- How far the second router has counted by time `t`. -/
def countBound (t : ℕ) : ℕ := if t % 5 < 2 then 15 else 0

/-- Where the plan has left the destination at a router at time `t`. -/
def Placed (t : ℕ) (router : Bool) (s : Slot) : Prop :=
  if router then s = ⟨none, none⟩ ∨ Holding nearLearned (countBound t) s
  else Holding (localRouteEntry nearLocalRoute) 0 s

/-- The router has one interface and at most the one destination. -/
structure OnPlan (t : ℕ) (router : Bool) (deamon : RipDeamon Kernel) : Prop where
  interfaces : deamon.interfaces = bareDeamon.interfaces
  other : ∀ key, key ≠ nearNetwork → slot deamon.database key = ⟨none, none⟩
  destination : Placed t router (slot deamon.database nearNetwork)

theorem slot_eq {s : Slot} {active garbage : Option RipDbEntry} (hactive : s.active = active)
    (hgarbage : s.garbage = garbage) : s = ⟨active, garbage⟩ := by
  rw [← hactive, ← hgarbage]

theorem kept_none {s s' : Slot} (h : Kept s s') (hs : s = ⟨none, none⟩) : s' = ⟨none, none⟩ := by
  subst hs
  exact slot_eq (by simpa using h.isSome) (h.garbage rfl)

theorem kept_holding {base : RipDbEntry} {cnt : ℕ} {s s' : Slot} (h : Kept s s')
    (hs : Holding base cnt s) : Holding base cnt s' := by
  obtain ⟨route, rfl, hsame, hcnt⟩ := hs
  obtain ⟨route', hactive, -⟩ := h.exists_route rfl
  obtain ⟨old, hold, hsame', hcnt'⟩ := h.route hactive
  obtain rfl := Option.some.inj hold
  exact ⟨route', slot_eq hactive (h.garbage rfl), hsame.trans hsame', by rwa [hcnt']⟩

theorem Placed.kept {t t' : ℕ} {router : Bool} {s s' : Slot} (h : Placed t router s)
    (hbound : countBound t' = countBound t) (hkept : Kept s s') : Placed t' router s' := by
  rw [Placed] at h ⊢
  split_ifs at h ⊢
  · rw [hbound]
    exact h.imp (kept_none hkept) (kept_holding hkept)
  · exact kept_holding hkept h

theorem Placed.slot {t : ℕ} {router : Bool} {s : Slot} (h : Placed t router s) :
    s.garbage = none ∧ ∀ route, s.active = some route →
      buildRouteKey route.ripEntry = nearNetwork := by
  have hholding : ∀ {base cnt}, buildRouteKey base.ripEntry = nearNetwork → Holding base cnt s →
      s.garbage = none ∧ ∀ route, s.active = some route →
        buildRouteKey route.ripEntry = nearNetwork := by
    rintro base cnt hbase ⟨route, rfl, hsame, -⟩
    refine ⟨rfl, fun route' hroute' => ?_⟩
    obtain rfl := Option.some.inj hroute'
    rw [hsame.ripEntry, hbase]
  rw [Placed] at h
  split_ifs at h
  · rcases h with rfl | h
    · simp
    · exact hholding (by decide) h
  · exact hholding (by decide) h

theorem OnPlan.keys {t : ℕ} {router : Bool} {deamon : RipDeamon Kernel}
    (h : OnPlan t router deamon) :
    KeysMatch deamon.database ∧ RoutesDisjoint deamon.database := by
  have hslot : ∀ key, (slot deamon.database key).garbage = none ∧
      ∀ route, (slot deamon.database key).active = some route →
        buildRouteKey route.ripEntry = key := by
    intro key
    by_cases hkey : key = nearNetwork
    · rw [hkey]
      exact h.destination.slot
    · simp [h.other key hkey]
  exact ⟨fun key route hroute => (hslot key).2 route hroute, fun key => .inr (hslot key).1⟩

theorem interfaces_of_step {label : Answers × DeamonEvent} {deamon deamon' : RipDeamon Driver}
    (h : Step deamon label deamon') : deamon'.interfaces = deamon.interfaces :=
  run_interfaces (.single (attempted_of_step h))

theorem OnPlan.advertise {t : ℕ} {router : Bool} {deamon : RipDeamon Kernel}
    (h : OnPlan t router deamon) (hbound : countBound (t + 1) = countBound t) :
    ∃ next, Step deamon (steady, .advertise false) next ∧ OnPlan (t + 1) router next := by
  have hsucceeds := (@sendMulticastAdvertisement_reliable Kernel false
    { deamon with host := deamon.host.renew steady } (Answers.steady_reliable _ _)).1
  cases hrun : (sendMulticastAdvertisement false).run
      { deamon with host := deamon.host.renew steady } with
  | error e next =>
      rw [hrun] at hsucceeds
      exact absurd hsucceeds (by simp)
  | ok a next =>
      have hstep : Step deamon (steady, .advertise false) next :=
        ⟨_, ⟨deamon.database, .refl _, rfl⟩, hrun⟩
      have hkept : ∀ key, Kept (slot deamon.database key) (slot next.database key) := by
        intro key
        have hadds : ¬AddsRoute key (steady, .advertise false) := by
          rintro ⟨network, -, hadds, -⟩
          simp [AddsNetwork] at hadds
        rcases step_cases h.keys.1 hadds hstep with
          ⟨⟨packet, hevent⟩, -⟩ | ⟨htick, -⟩ | ⟨-, -, hkept⟩
        · simp at hevent
        · simp [isTimeoutTick] at htick
        · exact hkept
      exact ⟨next, hstep, (interfaces_of_step hstep).trans h.interfaces,
        fun key hkey => kept_none (hkept key) (h.other key hkey),
        h.destination.kept hbound (hkept nearNetwork)⟩

theorem OnPlan.check {t : ℕ} {router : Bool} {deamon : RipDeamon Kernel}
    (h : OnPlan t router deamon) (hrouter : router = true → t % 5 = 4) :
    ∃ next, Step deamon (steady, .routeTimeoutTick none) next ∧ OnPlan (t + 1) router next := by
  obtain ⟨next, hstep⟩ := exists_tick kernel_neverFails h.keys.1 h.keys.2 steady none
  have hchecked := step_checked h.keys.1 hstep
  have hnone : ∀ {s s' : Slot}, Checked (timeoutCheckIntervalSecs steady) (routeTimeoutSecs steady)
      s s' → s = ⟨none, none⟩ → s' = ⟨none, none⟩ := by
    rintro s s' (⟨route, hactive, -⟩ | ⟨-, rfl⟩) rfl
    · simp [Slot.count] at hactive
    · rfl
  refine ⟨next, hstep, (interfaces_of_step hstep).trans h.interfaces,
    fun key hkey => hnone (hchecked key) (h.other key hkey), ?_⟩
  have hplaced := h.destination
  have hdestination := hchecked nearNetwork
  rw [Placed] at hplaced ⊢
  split_ifs at hplaced ⊢ with htrue
  · refine hplaced.imp (hnone hdestination) ?_
    rintro ⟨route, hslot, hsame, hcnt⟩
    have hphase : countBound t = 0 ∧ countBound (t + 1) = 15 := by
      have hlast := hrouter htrue
      simp only [countBound]
      split_ifs <;> omega
    rw [hphase.1, Nat.le_zero] at hcnt
    have hactive : (slot deamon.database nearNetwork).active = some route := by rw [hslot]
    have hzero : route.timeoutCnt = 0 := UInt64.toNat_inj.mp hcnt
    have hremote : route.isLocal = false := hsame.isLocal
    obtain ⟨hcounted, hgarbage⟩ := (hdestination.route hactive).2.2 hremote (by rw [hzero]; decide)
    rw [hslot] at hgarbage
    refine ⟨_, slot_eq hcounted hgarbage, hsame.trans ⟨rfl, rfl, rfl, rfl, rfl, rfl⟩, ?_⟩
    rw [hphase.2, hzero]
    change (saturatingAdd64 0 15).toNat ≤ 15
    decide
  · obtain ⟨route, hslot, hsame, hcnt⟩ := hplaced
    have hactive : (slot deamon.database nearNetwork).active = some route := by rw [hslot]
    rw [(hdestination.route hactive).1 hsame.isLocal]
    exact ⟨route, hslot, hsame, hcnt⟩

theorem nearOffer_heard (key : RipRouteKey) : (DeamonEvent.received nearOffer).heard key =
    if key = nearNetwork then [(nearLearned.ripEntry, eth1)] else [] := by
  have haccepted : accepted nearOffer = true := by decide
  have hentry : responseEntryToRoute (plainEntry nearNetwork 1) nearOffer =
      some nearLearned.ripEntry := by decide
  rw [DeamonEvent.heard, if_pos haccepted]
  exact routeEntries_of_some hentry key

theorem OnPlan.learn {t : ℕ} {deamon : RipDeamon Kernel} (h : OnPlan t true deamon)
    (ht : t % 5 = 1) :
    ∃ next, Step deamon (steady, .received nearOffer) next ∧ OnPlan (t + 1) true next := by
  have hgarbage := h.destination.slot.1
  have hconflicts : ∀ key, conflicts ((DeamonEvent.received nearOffer).heard key)
      (slot deamon.database key) = false := by
    intro key
    rw [nearOffer_heard]
    split_ifs with hkey
    · subst hkey
      rw [conflicts, meets, Slot.conflict_eq_false fun _ _ => hgarbage]
      rfl
    · rfl
  obtain ⟨next, hstep⟩ := exists_step kernel_neverFails h.keys.1 (by decide) hconflicts steady
  have hheard := (step_received h.keys.1 hstep).1
  refine ⟨next, hstep, (interfaces_of_step hstep).trans h.interfaces, fun key hkey => ?_, .inr ?_⟩
  · have hother := hheard key
    rw [nearOffer_heard, if_neg hkey] at hother
    rw [hother.of_nil, h.other key hkey]
  · have hdestination := hheard nearNetwork
    rw [nearOffer_heard, if_pos rfl] at hdestination
    have hphase : countBound (t + 1) = 0 := by
      rw [countBound, if_neg (by omega)]
    rw [hphase]
    cases hdestination with
    | cons now hlast =>
        rw [hlast.of_nil]
        rcases h.destination with hslot | ⟨route, hslot, hsame, -⟩
        · rw [hslot]
          exact ⟨nearLearned, rfl, .refl _, by decide⟩
        · have hverdict : verdict (some route) nearLearned.ripEntry eth1 = .refresh route := by
            rw [verdict, if_neg (by decide), if_pos, if_pos]
            · exact ⟨hsame.ripEntry, hsame.ifIndex, hsame.ifName⟩
            · rw [routeIsFromCurrentNextHop, hsame.ripEntry, beq_self_eq_true]
          rw [hslot, Slot.hear, hverdict]
          exact ⟨route.refreshed, rfl, hsame.trans (sameRoute_refreshed route), le_rfl⟩

theorem OnPlan.next {t : ℕ} {deamon : RipDeamon Kernel}
    (h : OnPlan t (crossoverPlan t).1 deamon) :
    ∃ next, Step deamon (crossoverPlan t).2 next ∧ OnPlan (t + 1) (crossoverPlan t).1 next := by
  have hphase : t % 5 = 0 ∨ t % 5 = 1 ∨ t % 5 = 2 ∨ t % 5 = 3 ∨ t % 5 = 4 := by omega
  rcases hphase with ht | ht | ht | ht | ht <;> simp only [crossoverPlan, ht] at h ⊢
  · refine h.advertise ?_
    rw [countBound, countBound, if_pos (by omega), if_pos (by omega)]
  · exact h.learn ht
  · refine h.advertise ?_
    rw [countBound, countBound, if_neg (by omega), if_neg (by omega)]
  · exact h.check (by simp)
  · exact h.check fun _ => ht

theorem OnPlan.idle {t : ℕ} {router : Bool} {deamon : RipDeamon Kernel}
    (h : OnPlan t router deamon) (hrouter : router ≠ (crossoverPlan t).1) :
    OnPlan (t + 1) router deamon := by
  refine ⟨h.interfaces, h.other, ?_⟩
  have hplaced := h.destination
  rw [Placed] at hplaced ⊢
  split_ifs at hplaced ⊢ with htrue
  · refine hplaced.imp id ?_
    rintro ⟨route, hslot, hsame, hcnt⟩
    refine ⟨route, hslot, hsame, hcnt.trans ?_⟩
    have hphase : t % 5 = 0 ∨ t % 5 = 3 := by
      by_contra hnot
      have hother : t % 5 = 1 ∨ t % 5 = 2 ∨ t % 5 = 4 := by omega
      apply hrouter
      rcases hother with ht | ht | ht <;> simp only [crossoverPlan, ht, htrue]
    simp only [countBound]
    split_ifs <;> omega
  · exact hplaced

theorem OnPlan.advertised {t : ℕ} {router : Bool} {deamon : RipDeamon Kernel}
    (h : OnPlan t router deamon) {database : RipDatabase}
    (hreordered : deamon.database.Reordered database) :
    advertisement .little database deamon.interfaces false =
      if router then []
      else [RipSocket.multicast { ifName := "eth1", ifIndex := 2 }
        (buildResponseBuffer .little [plainEntry nearNetwork 1])] := by
  have hslot := slot_reordered hreordered
  have hother : ∀ key, key ≠ nearNetwork → slot database key = ⟨none, none⟩ := by
    intro key hkey
    rw [hslot key, h.other key hkey]
  have hgarbage : database.garbageRoutes.values = [] := by
    refine HashMap.values_eq_nil fun key => ?_
    change (slot database key).garbage = none
    by_cases hkey : key = nearNetwork
    · rw [hkey, hslot]
      exact h.destination.slot.1
    · rw [hother key hkey]
  have hlone : ∀ {base cnt}, Holding base cnt (slot deamon.database nearNetwork) →
      ∃ route, database.allRoutes = [route] ∧ SameRoute base route := by
    rintro base cnt ⟨route, hroute, hsame, -⟩
    have hactive : database.okRoutes.lookup nearNetwork = some route := by
      have hold := congrArg Slot.active (hslot nearNetwork)
      rwa [hroute] at hold
    refine ⟨route, ?_, hsame⟩
    rw [RipDatabase.allRoutes, hgarbage, HashMap.values_eq_singleton hactive fun key hkey =>
      congrArg Slot.active (hother key hkey)]
    rfl
  have hon : advertisement .little database deamon.interfaces false =
      ((chunks ripResponseMaxEntries (database.getRoutesForAdvertisement 2 false)).map
        (buildResponseBuffer .little)).map
          (RipSocket.multicast { ifName := "eth1", ifIndex := 2 }) := by
    rw [h.interfaces]
    exact List.append_nil _
  have hplaced := h.destination
  rw [hon, RipDatabase.getRoutesForAdvertisement]
  rw [Placed] at hplaced
  split_ifs at hplaced ⊢
  · rcases hplaced with hnone | hholding
    · have hempty : database.okRoutes.values = [] := by
        refine HashMap.values_eq_nil fun key => ?_
        change (slot database key).active = none
        by_cases hkey : key = nearNetwork
        · rw [hkey, hslot, hnone]
        · rw [hother key hkey]
      rw [RipDatabase.allRoutes, hempty, hgarbage]
      rfl
    · obtain ⟨route, hroutes, hsame⟩ := hlone hholding
      have hindex : route.ifIndex = 2 := hsame.ifIndex
      simp only [hroutes, List.filter_cons, hindex]
      rfl
  · obtain ⟨route, hroutes, hsame⟩ := hlone hplaced
    have hindex : route.ifIndex = 1 := hsame.ifIndex
    have hentry : route.advertised = plainEntry nearNetwork 1 := by
      rw [RipDbEntry.advertised, hsame.ripEntry]
      rfl
    simp only [hroutes, List.filter_cons, hindex]
    change [RipSocket.multicast _ (buildResponseBuffer .little [route.advertised])] = _
    rw [hentry]

theorem oneOrigin_onPlan (router : Bool) : OnPlan 0 router (oneOrigin router) := by
  have hslot : ∀ key, slot (oneOrigin false).database key =
      if key = nearNetwork then ⟨some (localRouteEntry nearLocalRoute), none⟩
      else ⟨none, none⟩ :=
    slot_adopt nearLocalRoute RipDatabase.new
  cases router with
  | false =>
      refine ⟨rfl, fun key hkey => by rw [hslot, if_neg hkey], ?_⟩
      exact ⟨_, (hslot nearNetwork).trans (if_pos rfl), .refl _, le_rfl⟩
  | true => exact ⟨rfl, fun key _ => rfl, .inl rfl⟩

structure FollowsPlan (execution : Execution Bool (@Step Kernel _)) : Prop where
  start : execution.states 0 = oneOrigin
  actor : ∀ t, execution.actor t = (crossoverPlan t).1
  label : ∀ t, execution.label t = (crossoverPlan t).2
  states : ∀ t router, OnPlan t router (execution.states t router)

theorem exists_followsPlan : ∃ execution, FollowsPlan execution := by
  obtain ⟨execution, hstart, hplan, hstates⟩ := exists_execution crossoverPlan
    (I := fun t states => ∀ router, OnPlan t router (states router)) oneOrigin_onPlan
    fun t states h => by
      obtain ⟨next, hstep, hnext⟩ := (h (crossoverPlan t).1).next
      refine ⟨next, hstep, fun router => ?_⟩
      by_cases hrouter : router = (crossoverPlan t).1
      · rw [hrouter, Function.update_self]
        exact hnext
      · rw [Function.update_of_ne hrouter]
        exact (h router).idle hrouter
  exact ⟨execution, hstart, fun t => (hplan t).1, fun t => (hplan t).2, hstates⟩

section FollowsPlan

variable {execution : Execution Bool (@Step Kernel _)}

theorem FollowsPlan.sentAt_eq (h : FollowsPlan execution) {s : ℕ}
    (hs : (crossoverPlan s).2 = (steady, .advertise false)) :
    sentAt execution s = if (crossoverPlan s).1 then []
      else [RipSocket.multicast { ifName := "eth1", ifIndex := 2 }
        (buildResponseBuffer .little [plainEntry nearNetwork 1])] := by
  have hevent : (execution.label s).2 = .advertise false := by rw [h.label, hs]
  obtain ⟨database, hreordered, hsent⟩ := sentAt_advertise hevent
  rw [hsent, h.label, hs, ← h.actor]
  exact (h.states s _).advertised hreordered

theorem nearOffer_delivered : delivered (endOf false) (endOf true)
    (RipSocket.multicast { ifName := "eth1", ifIndex := 2 }
      (buildResponseBuffer .little [plainEntry nearNetwork 1])) = some nearOffer :=
  delivered_response _ _ _ _ _

theorem FollowsPlan.fair (h : FollowsPlan execution) : Fair crossover execution := by
  refine ⟨fun router => frequently_atTop.mpr fun a => ?_, fun s => ?_⟩
  · refine ⟨5 * a + 3 + router.toNat, by omega, ?_⟩
    have hphase : (5 * a + 3 + router.toNat) % 5 = 3 + router.toNat := by
      cases router <;> simp only [Bool.toNat_false, Bool.toNat_true] <;> omega
    rw [Ticks, h.actor, h.label, crossoverPlan, hphase]
    cases router <;> exact ⟨rfl, rfl⟩
  · filter_upwards [eventually_ge_atTop (s + 1)] with t hst packet hevent _
    rw [h.label] at hevent
    have ht : t % 5 = 1 := by
      by_contra hne
      have hphase : t % 5 = 0 ∨ t % 5 = 2 ∨ t % 5 = 3 ∨ t % 5 = 4 := by omega
      rcases hphase with ht | ht | ht | ht <;> simp [crossoverPlan, ht] at hevent
    obtain ⟨s', rfl⟩ : ∃ s', t = s' + 1 := ⟨t - 1, by omega⟩
    have hs' : s' % 5 = 0 := by omega
    simp only [crossoverPlan, ht, DeamonEvent.received.injEq] at hevent
    have hacts : execution.actor (s' + 1) = true := by
      rw [h.actor]
      simp only [crossoverPlan, ht]
    refine ⟨s', by omega, Nat.lt_succ_self s', ?_⟩
    rw [hacts, ← hevent]
    refine ⟨endOf true, List.mem_singleton.mpr rfl, ?_, _, ?_, rfl, nearOffer_delivered⟩
    · rw [h.actor]
      simp only [crossoverPlan, hs']
      rfl
    · rw [h.sentAt_eq (by simp only [crossoverPlan, hs'])]
      simp only [crossoverPlan, hs']
      exact List.mem_singleton.mpr rfl

theorem FollowsPlan.configured (h : FollowsPlan execution) :
    Configured execution (fun _ => 15) (fun _ => 180) := by
  have hsteady : ∀ t, (execution.label t).1 = steady := by
    intro t
    rw [h.label, crossoverPlan]
    split <;> rfl
  refine ⟨fun t => ?_, fun t => ?_, fun _ => by decide⟩
  · rw [hsteady]
    exact steady_settings.1
  · rw [hsteady]
    exact steady_settings.2

theorem FollowsPlan.keptAlive (h : FollowsPlan execution) :
    KeptAlive crossover execution (fun _ => 15) (fun _ => 180) := by
  intro router port hport a b hwindow
  obtain rfl := List.mem_singleton.mp hport
  have hlong : a + 12 ≤ b := by
    have hle := occurrences_le (Ticks execution router) a b
    change 180 ≤ 15 * occurrences (Ticks execution router) a b at hwindow
    omega
  cases router with
  | false =>
      have hs : (5 * ((a + 4) / 5) + 2) % 5 = 2 := by omega
      refine ⟨5 * ((a + 4) / 5) + 2, by omega, ?_, ?_, ?_⟩
      · rw [h.actor]
        simp only [crossoverPlan, hs]
        rfl
      · rw [h.label]
        simp only [crossoverPlan, hs]
      · rintro packet ⟨-, transmission, hsent, -⟩
        rw [h.sentAt_eq (by simp only [crossoverPlan, hs])] at hsent
        simp [crossoverPlan, hs] at hsent
  | true =>
      have hs : 5 * ((a + 4) / 5) % 5 = 0 := by omega
      have hu : (5 * ((a + 4) / 5) + 1) % 5 = 1 := by omega
      refine ⟨5 * ((a + 4) / 5), by omega, ?_, ?_, ?_⟩
      · rw [h.actor]
        simp only [crossoverPlan, hs]
        rfl
      · rw [h.label]
        simp only [crossoverPlan, hs]
      · rintro packet ⟨-, transmission, hsent, -, hdelivered⟩
        rw [h.sentAt_eq (by simp only [crossoverPlan, hs])] at hsent
        simp only [crossoverPlan, hs] at hsent
        obtain rfl := List.mem_singleton.mp hsent
        obtain rfl := Option.some.inj (nearOffer_delivered.symm.trans hdelivered)
        refine ⟨5 * ((a + 4) / 5) + 1, Nat.lt_succ_self _, by omega, ?_, ?_⟩
        · rw [h.actor]
          simp only [crossoverPlan, hu]
        · rw [h.label]
          simp only [crossoverPlan, hu]

end FollowsPlan

end RipV2.SelfStabilization
