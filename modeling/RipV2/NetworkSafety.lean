import RipV2.HopDistance
import RipV2.KernelRoutes
import RipV2.SentDatagrams

/-!
Routers on links, each with its daemon. Whatever the order of their steps, and
however late or often a datagram arrives, a route's metric exceeds the distance
to some router that added its destination.
-/

namespace RipV2.NetworkSafety

open RipV2.AdvertisedBuffers
open RipV2.Database
open RipV2.Deamon
open RipV2.Deamon.RipDeamon
open RipV2.DeamonRuns
open RipV2.DeamonSimulation
open RipV2.DestinationSlots
open RipV2.EffectLogic
open RipV2.HopDistance
open RipV2.HostEnvironment
open RipV2.KernelRoutes
open RipV2.LocalRoutes
open RipV2.Packets
open RipV2.ReachableRoutes
open RipV2.RoutingTables
open RipV2.SentDatagrams
open RipV2.TransitionRuns
open RipV2.Updater

/-- Which interfaces of the routers are on which link. -/
structure Topology (Router Link : Type) where
  attached : Router → UInt32 → Link → Prop

variable {Router Link Driver : Type}

/-- Two routers are neighbours if they are on a common link. -/
def Topology.graph (topology : Topology Router Link) : SimpleGraph Router :=
  .fromRel fun a b => ∃ link i j, topology.attached a i link ∧ topology.attached b j link

/-- The daemons, and the destinations that each has ever added as local routes. -/
structure Network (Router Driver : Type) where
  deamons : Router → RipDeamon Driver
  added : Router → Set RipRouteKey

/-- The packet is in a datagram that was sent on a link of the router's interface. -/
def InFlight (topology : Topology Router Link) (network : Network Router Driver)
    (router : Router) (packet : RipPacket) : Prop :=
  ∃ sender, ∃ transmission ∈ (network.deamons sender).host.sent, ∃ link,
    topology.attached sender transmission.ifIndex link ∧
    topology.attached router packet.ifInfo.ifIndex link ∧
    RipPacketData.fromSlice transmission.payload = .ok (.ok packet.data)

/-- The destinations that become local routes when an event is handled. -/
def addedBy (event : DeamonEvent) (deamon deamon' : RipDeamon Driver) : Set RipRouteKey :=
  {key | (∃ network, AddsNetwork network event) ∧ deamon.database.okRoutes.lookup key = none ∧
    ∃ route, deamon'.database.okRoutes.lookup key = some route ∧ route.isLocal = true}

/-- Nobody has done anything yet. -/
structure InitialNetwork (network : Network Router Driver) : Prop where
  deamons : ∀ router, Initial (network.deamons router)
  added : ∀ router, network.added router = ∅

variable [RoutingTableDriver Driver]

/-- One router handles one event, with or without success. Responses are not
forged, but may be lost, late, reordered and duplicated. -/
structure NetworkStep (topology : Topology Router Link) (network : Network Router Driver)
    (label : Router × Answers × DeamonEvent) (network' : Network Router Driver) : Prop where
  received : ∀ packet, label.2.2 = .received packet → packet.isResponse = true →
    InFlight topology network label.1 packet
  attempted : Attempted (network.deamons label.1) label.2 (network'.deamons label.1)
  added : network'.added label.1 = network.added label.1 ∪
    addedBy label.2.2 (network.deamons label.1) (network'.deamons label.1)
  others : ∀ router, router ≠ label.1 → network'.deamons router = network.deamons router ∧
    network'.added router = network.added router

theorem NetworkStep.added_mono {topology : Topology Router Link}
    {network network' : Network Router Driver} {label : Router × Answers × DeamonEvent}
    (h : NetworkStep topology network label network') (router : Router) :
    network.added router ⊆ network'.added router := by
  by_cases hrouter : router = label.1
  · rw [hrouter, h.added]
    exact Set.subset_union_left
  · rw [(h.others router hrouter).2]

theorem metric_of_finite {raw entry : RipEntry} {packet : RipPacket}
    (hentry : responseEntryToRoute raw packet = some entry)
    (hmetric : entry.metric < ripInfinityMetric) :
    raw.metric < ripInfinityMetric ∧ entry.metric.toNat = raw.metric.toNat + 1 ∧
      buildRouteKey entry = buildRouteKey raw := by
  obtain ⟨-, -, hmin⟩ := responseEntryToRoute_metric hentry
  have hlt : entry.metric.toNat < 16 := UInt32.lt_iff_toNat_lt.mp hmetric
  have hnext : entry.metric.toNat = raw.metric.toNat + 1 := by omega
  refine ⟨UInt32.lt_iff_toNat_lt.mpr ?_, hnext, ?_⟩
  · change raw.metric.toNat < 16
    omega
  · rw [(responseEntryToRoute_eq hentry).2]
    rfl

/-- The active route `route` is one of the slot's, or was learned. -/
def OldOrLearned (event : DeamonEvent) (key : RipRouteKey) (s : Slot) (route : RipDbEntry) :
    Prop :=
  (∃ old, s.active = some old ∧ SameRoute old route) ∨
    ∃ entry ifInfo, FromPacket event key entry ifInfo ∧ entry.metric < ripInfinityMetric ∧
      SameRoute (learnedRoute entry ifInfo) route

theorem OldOrLearned.sameRoute {event : DeamonEvent} {key : RipRouteKey} {s : Slot}
    {old route : RipDbEntry} (h : OldOrLearned event key s old) (hsame : SameRoute old route) :
    OldOrLearned event key s route := by
  rcases h with ⟨older, holder, hold⟩ | ⟨entry, ifInfo, hentry, hmetric, hold⟩
  · exact .inl ⟨older, holder, hold.trans hsame⟩
  · exact .inr ⟨entry, ifInfo, hentry, hmetric, hold.trans hsame⟩

theorem run_oldOrLearned {answers : Answers} {event : DeamonEvent} {key : RipRouteKey}
    {s s' : Slot} {actions : List SlotAction} (hevent : ¬∃ network, AddsNetwork network event)
    (hrun : Run SlotStep s actions s')
    (hcaused : ∀ action ∈ actions, CausedBy answers event key action) :
    ∀ route, s'.active = some route → OldOrLearned event key s route := by
  refine hrun.keeps (I := fun s' => ∀ route, s'.active = some route →
    OldOrLearned event key s route) (P := CausedBy answers event key) ?_ hcaused
    fun route h => .inl ⟨route, h, .refl route⟩
  intro t action u hcause ht hstep route hroute
  rcases active_origin hstep hroute with ⟨old, hold, hsame⟩ |
    ⟨now, entry, ifInfo, rfl, rfl, hmetric⟩ | rfl
  · exact (ht old hold).sameRoute hsame
  · exact .inr ⟨entry, ifInfo, hcause, hmetric, .refl _⟩
  · obtain ⟨network, -, hadds, -⟩ := hcause
    exact absurd ⟨network, hadds⟩ hevent

/-- An active route was there, was learned, or was added. -/
theorem handle_active_origin {event : DeamonEvent} {deamon : RipDeamon Driver}
    (hkeys : KeysMatch deamon.database) {key : RipRouteKey} {route : RipDbEntry}
    (h : (finalState (event.handle.run deamon)).database.okRoutes.lookup key = some route) :
    OldOrLearned event key (slot deamon.database key) route ∨
      ((∃ network, AddsNetwork network event) ∧ deamon.database.okRoutes.lookup key = none ∧
        route.isLocal = true ∧ route.ripEntry.metric = 1) := by
  by_cases hevent : ∃ network, AddsNetwork network event
  · obtain ⟨network, hadds⟩ := hevent
    rcases handle_addsNetwork_cases hadds deamon with
      ⟨hsame, -⟩ | ⟨localRoute, hroute, hfree, hadopted⟩
    · rw [hsame] at h
      exact .inl (.inl ⟨route, h, .refl route⟩)
    · have hslot := congrArg Slot.active (slot_adopt localRoute deamon.database key)
      rw [hadopted] at h
      rw [slot_active, h] at hslot
      split_ifs at hslot with hkey
      · obtain rfl : route = localRouteEntry localRoute := Option.some.inj hslot
        subst hkey
        exact .inr ⟨⟨network, hadds⟩, hfree, rfl,
          (advertisedNetworkToLocalRoute_entry hroute).2.1⟩
      · exact .inl (.inl ⟨route, hslot.symm, .refl route⟩)
  · obtain ⟨actions, hrun, hcaused, -⟩ := handle_simulated event deamon hkeys key
    exact .inl (run_oldOrLearned hevent hrun hcaused route h)

/-- Some router that added the destination is less than `metric` links away. -/
def WithinReach (topology : Topology Router Link) (added : Router → Set RipRouteKey)
    (router : Router) (key : RipRouteKey) (metric : UInt32) : Prop :=
  ∃ origin, key ∈ added origin ∧ topology.graph.edist origin router + 1 ≤ metric.toNat

theorem WithinReach.mono {topology : Topology Router Link}
    {added added' : Router → Set RipRouteKey} {router : Router} {key : RipRouteKey}
    {metric : UInt32} (h : WithinReach topology added router key metric)
    (hadded : ∀ router, added router ⊆ added' router) :
    WithinReach topology added' router key metric := by
  obtain ⟨origin, horigin, hdistance⟩ := h
  exact ⟨origin, hadded origin horigin, hdistance⟩

/-- Routes are supported where they are active, and announced ones where they were sent. -/
structure Sound (topology : Topology Router Link) (network : Network Router Driver) : Prop where
  wellFormed : ∀ router key, WellFormed key (slot (network.deamons router).database key)
  routes : ∀ router key route,
    (network.deamons router).database.okRoutes.lookup key = some route →
    WithinReach topology network.added router key route.ripEntry.metric
  datagrams : ∀ router, ∀ transmission ∈ (network.deamons router).host.sent, ∀ data,
    RipPacketData.fromSlice transmission.payload = .ok (.ok data) → data.isResponse = true →
    ∀ entry ∈ data.entries, entry.metric < ripInfinityMetric →
      WithinReach topology network.added router (buildRouteKey entry) entry.metric

omit [RoutingTableDriver Driver] in
theorem Sound.inFlight {topology : Topology Router Link} {network : Network Router Driver}
    (hsound : Sound topology network) {router : Router} {packet : RipPacket}
    (hflight : InFlight topology network router packet) (hresponse : packet.isResponse = true)
    {raw entry : RipEntry} (hraw : raw ∈ packet.data.entries)
    (hentry : responseEntryToRoute raw packet = some entry)
    (hmetric : entry.metric < ripInfinityMetric) :
    WithinReach topology network.added router (buildRouteKey entry) entry.metric := by
  obtain ⟨sender, transmission, hsent, link, hsender, hreceiver, hdecode⟩ := hflight
  obtain ⟨hfinite, hnext, hkey⟩ := metric_of_finite hentry hmetric
  obtain ⟨origin, horigin, hdistance⟩ := hsound.datagrams sender transmission hsent packet.data
    hdecode hresponse raw hraw hfinite
  have hlink : topology.graph.Adj sender router ∨ sender = router := by
    by_cases hsame : sender = router
    · exact .inr hsame
    · exact .inl ((SimpleGraph.fromRel_adj _ _ _).mpr
        ⟨hsame, .inl ⟨link, _, _, hsender, hreceiver⟩⟩)
  refine ⟨origin, by rwa [hkey], ?_⟩
  rw [hnext, Nat.cast_add, Nat.cast_one]
  gcongr
  exact (edist_le_add_one hlink).trans hdistance

omit [RoutingTableDriver Driver] in
theorem InitialNetwork.sound {topology : Topology Router Link} {network : Network Router Driver}
    (h : InitialNetwork network) : Sound topology network := by
  constructor
  · intro router key
    rw [(h.deamons router).1]
    exact wellFormed_new key
  · intro router key route hroute
    rw [(h.deamons router).1] at hroute
    simp [RipDatabase.new] at hroute
  · intro router transmission hsent
    rw [(h.deamons router).2] at hsent
    simp at hsent

section Steps

variable {topology : Topology Router Link} {network network' : Network Router Driver}
  {label : Router × Answers × DeamonEvent}

theorem NetworkStep.routes (hstep : NetworkStep topology network label network')
    (hsound : Sound topology network) {key : RipRouteKey} {route : RipDbEntry}
    (hroute : (network'.deamons label.1).database.okRoutes.lookup key = some route) :
    WithinReach topology network'.added label.1 key route.ripEntry.metric := by
  obtain ⟨res, ⟨deamon, ⟨database, hreordered, rfl⟩, rfl⟩, hfinal⟩ := hstep.attempted
  have hslot := slot_reordered hreordered
  have hkeys := (keysMatch_of_wellFormed (hsound.wellFormed label.1)).reordered hreordered
  have hactive := hroute
  rw [← hfinal] at hactive
  rcases handle_active_origin hkeys hactive with
    (⟨old, hold, hsame⟩ | ⟨entry, ifInfo, hentry, hmetric, hsame⟩) |
    ⟨hadds, hfree, hlocal, hmetric⟩
  · rw [hslot key] at hold
    rw [hsame.ripEntry]
    exact (hsound.routes label.1 key old hold).mono hstep.added_mono
  · obtain ⟨hkey, packet, raw, hevent, haccepted, hraw, hderived, -⟩ := hentry
    have hresponse : packet.isResponse = true := by
      rw [accepted, Bool.and_eq_true, Bool.and_eq_true] at haccepted
      exact haccepted.1.1
    have hflight := hstep.received packet hevent hresponse
    rw [hsame.ripEntry, ← hkey]
    exact (hsound.inFlight hflight hresponse hraw hderived hmetric).mono hstep.added_mono
  · refine ⟨label.1, ?_, by simp [hmetric]⟩
    rw [hstep.added]
    refine .inr ⟨hadds, ?_, route, hroute, hlocal⟩
    have hbefore := congrArg Slot.active (hslot key)
    rw [slot_active, hfree] at hbefore
    exact hbefore.symm

theorem NetworkStep.datagrams (hstep : NetworkStep topology network label network')
    (hsound : Sound topology network) {transmission : Transmission}
    (hsent : transmission ∈ (network'.deamons label.1).host.sent) {data : RipPacketData}
    (hdecode : RipPacketData.fromSlice transmission.payload = .ok (.ok data))
    (hresponse : data.isResponse = true) {entry : RipEntry} (hentry : entry ∈ data.entries)
    (hmetric : entry.metric < ripInfinityMetric) :
    WithinReach topology network'.added label.1 (buildRouteKey entry) entry.metric := by
  obtain ⟨res, ⟨deamon, ⟨database, hreordered, rfl⟩, rfl⟩, hfinal⟩ := hstep.attempted
  obtain ⟨-, sent, hgrown, hpart⟩ := handle_sendsPart label.2.2
    { network.deamons label.1 with
      database, host := (network.deamons label.1).host.renew label.2.1 }
  rw [← hfinal, hgrown] at hsent
  rcases List.mem_append.mp hsent with hold | hnew
  · exact (hsound.datagrams label.1 transmission hold data hdecode hresponse entry hentry
      hmetric).mono hstep.added_mono
  · obtain ⟨route, hroute, rfl⟩ :=
      stored_of_mem_datagrams (hpart.subset hnew) hdecode hresponse hentry
    have hslot := slot_reordered hreordered
    rcases mem_storedRoutes_iff.mp hroute with ⟨key, hactive⟩ | ⟨key, hgarbage⟩
    · have hold := congrArg Slot.active (hslot key)
      rw [slot_active, hactive] at hold
      have hkeyed := ((hsound.wellFormed label.1 key).active route hold.symm).keyed
      have hsupported := hsound.routes label.1 key route hold.symm
      rw [← hkeyed] at hsupported
      exact hsupported.mono hstep.added_mono
    · have hold := congrArg Slot.garbage (hslot key)
      rw [slot_garbage, hgarbage] at hold
      have hinfinite := ((hsound.wellFormed label.1 key).garbage route hold.symm).metric
      change route.ripEntry.metric < ripInfinityMetric at hmetric
      rw [hinfinite] at hmetric
      exact absurd hmetric (by decide)

theorem NetworkStep.sound (hstep : NetworkStep topology network label network')
    (hsound : Sound topology network) : Sound topology network' := by
  constructor
  · intro router key
    by_cases hrouter : router = label.1
    · subst hrouter
      obtain ⟨res, houtcome, hfinal⟩ := hstep.attempted
      rw [← hfinal]
      exact simulated_wellFormed (outcome_simulated houtcome
        (keysMatch_of_wellFormed (hsound.wellFormed label.1))) (hsound.wellFormed label.1) key
    · rw [(hstep.others router hrouter).1]
      exact hsound.wellFormed router key
  · intro router key route hroute
    by_cases hrouter : router = label.1
    · subst hrouter
      exact hstep.routes hsound hroute
    · rw [(hstep.others router hrouter).1] at hroute
      exact (hsound.routes router key route hroute).mono hstep.added_mono
  · intro router transmission hsent data hdecode hresponse entry hentry hmetric
    by_cases hrouter : router = label.1
    · subst hrouter
      exact hstep.datagrams hsound hsent hdecode hresponse hentry hmetric
    · rw [(hstep.others router hrouter).1] at hsent
      exact (hsound.datagrams router transmission hsent data hdecode hresponse entry hentry
        hmetric).mono hstep.added_mono

end Steps

/-- In any network, after any steps: some router that has added the destination
of an active route is less than its metric away, so that no metric is below the
distance from the nearest such router plus one. -/
theorem run_supported {topology : Topology Router Link} {network network' : Network Router Driver}
    {labels : List (Router × Answers × DeamonEvent)} (hinitial : InitialNetwork network)
    (hrun : Run (NetworkStep topology) network labels network') {router : Router}
    {key : RipRouteKey} {route : RipDbEntry}
    (hroute : (network'.deamons router).database.okRoutes.lookup key = some route) :
    (∃ origin, key ∈ network'.added origin ∧
      topology.graph.edist origin router + 1 ≤ route.ripEntry.metric.toNat) ∧
    hops topology.graph {origin | key ∈ network'.added origin} router + 1 ≤
      route.ripEntry.metric.toNat := by
  have hsound : Sound topology network' := hrun.keeps (I := Sound topology) (P := fun _ => True)
    (fun _ _ _ _ hsound hstep => hstep.sound hsound) (by simp) hinitial.sound
  obtain ⟨origin, horigin, hdistance⟩ := hsound.routes router key route hroute
  refine ⟨⟨origin, horigin, hdistance⟩, ?_⟩
  calc hops topology.graph {origin | key ∈ network'.added origin} router + 1
      ≤ topology.graph.edist origin router + 1 := by
        gcongr
        exact hops_le_edist horigin
    _ ≤ route.ripEntry.metric.toNat := hdistance

theorem exists_networkStep (topology : Topology Router Link) (network : Network Router Driver)
    (router : Router) {label : Answers × DeamonEvent} {deamon' : RipDeamon Driver}
    (hstep : Attempted (network.deamons router) label deamon')
    (hreceived : ∀ packet, label.2 = .received packet → packet.isResponse = true →
      InFlight topology network router packet) :
    ∃ network', NetworkStep topology network (router, label) network' ∧
      network'.deamons router = deamon' ∧
      ∀ other, other ≠ router → network'.deamons other = network.deamons other := by
  classical
  refine ⟨{ deamons := Function.update network.deamons router deamon'
            added := Function.update network.added router (network.added router ∪
              addedBy label.2 (network.deamons router) deamon') }, ?_, ?_, ?_⟩
  · refine ⟨hreceived, ?_, ?_, fun other hother => ⟨?_, ?_⟩⟩
    · simpa using hstep
    · simp
    · exact Function.update_of_ne hother _ _
    · exact Function.update_of_ne hother _ _
  · simp
  · exact fun other hother => Function.update_of_ne hother _ _

/-- The second interfaces of both routers are on one link. -/
def oneLink : Topology Bool Unit where
  attached _ ifIndex _ := ifIndex = 2

def pair : Network Bool Kernel where
  deamons _ := bareDeamon
  added _ := ∅

def nearPacket : RipPacket := responseFrom neighbour eth1 [plainEntry nearNetwork 1]

theorem neighbour_supported :
    ∃ labels network' route, Run (NetworkStep oneLink) pair labels network' ∧
      (network'.deamons true).database.okRoutes.lookup nearNetwork = some route ∧
      route.ripEntry.metric = 2 ∧
      ∃ origin, nearNetwork ∈ network'.added origin ∧
        oneLink.graph.edist origin true + 1 ≤ route.ripEntry.metric.toNat := by
  have hany : (runEvents bareDeamon
      [(steady, .addLocalRoute { address := "10.1.0.0", prefixLen := 16, dev := "eth0" })]).any
      (fun deamon₁ => (runEvents deamon₁ [(steady, .advertise false)]).any fun deamon₂ =>
        (runEvents bareDeamon [(steady, .received nearPacket)]).any fun deamon₃ =>
          decide (deamon₂.host.sent = [RipSocket.multicast { ifName := "eth1", ifIndex := 2 }
            (buildResponseBuffer steady.endian nearPacket.data.entries)]) &&
          (deamon₃.database.okRoutes.lookup nearNetwork).any fun route =>
            route.ripEntry.metric == 2) = true := by decide +kernel
  obtain ⟨deamon₁, hadded, hnext⟩ := (Option.any_eq_true _ _).mp hany
  obtain ⟨deamon₂, hadvertised, hnext⟩ := (Option.any_eq_true _ _).mp hnext
  obtain ⟨deamon₃, hlearned, hend⟩ := (Option.any_eq_true _ _).mp hnext
  rw [Bool.and_eq_true, decide_eq_true_eq] at hend
  obtain ⟨hsent, hroute⟩ := hend
  obtain ⟨route, hroute, hmetric⟩ := (Option.any_eq_true _ _).mp hroute
  obtain ⟨network₁, hstep₁, hfirst₁, hsecond₁⟩ := exists_networkStep oneLink pair false
    (attempted_of_step (runEvents_single hadded)) (by simp)
  rw [← hfirst₁] at hadvertised
  obtain ⟨network₂, hstep₂, hfirst₂, hsecond₂⟩ := exists_networkStep oneLink network₁ false
    (attempted_of_step (runEvents_single hadvertised)) (by simp)
  have hbare : network₂.deamons true = bareDeamon :=
    (hsecond₂ true (by decide)).trans (hsecond₁ true (by decide))
  rw [← hbare] at hlearned
  have hflight : InFlight oneLink network₂ true nearPacket := by
    refine ⟨false, RipSocket.multicast { ifName := "eth1", ifIndex := 2 }
      (buildResponseBuffer steady.endian nearPacket.data.entries), ?_, (), rfl, rfl,
      fromSlice_buildResponseBuffer steady.endian nearPacket.data.entries⟩
    rw [hfirst₂, hsent]
    exact List.mem_singleton.mpr rfl
  obtain ⟨network₃, hstep₃, hfirst₃, -⟩ := exists_networkStep oneLink network₂ true
    (attempted_of_step (runEvents_single hlearned)) (by
      intro packet hevent _
      obtain rfl : nearPacket = packet := by simpa using hevent
      exact hflight)
  have hinitial : InitialNetwork pair := ⟨fun _ => ⟨rfl, rfl⟩, fun _ => rfl⟩
  have hrun := ((Run.single hstep₁).snoc hstep₂).snoc hstep₃
  rw [← hfirst₃] at hroute
  exact ⟨_, network₃, route, hrun, hroute, by simpa using hmetric,
    (run_supported hinitial hrun hroute).1⟩

end RipV2.NetworkSafety
