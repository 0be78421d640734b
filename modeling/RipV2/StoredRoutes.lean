import RipV2.AdvertisedBuffers
import RipV2.DisjointTables

namespace RipV2.StoredRoutes

open RipV2.Address
open RipV2.AdvertisedBuffers
open RipV2.ByteOrder
open RipV2.Database
open RipV2.Deamon
open RipV2.DeamonRuns
open RipV2.DestinationSlots
open RipV2.DisjointTables
open RipV2.HostEnvironment
open RipV2.KernelRoutes
open RipV2.LocalRoutes
open RipV2.Packets
open RipV2.ReachableRoutes
open RipV2.RoutingTables
open RipV2.TransitionRuns
open RipV2.Updater

variable {Driver : Type} [RoutingTableDriver Driver]

/-- An active route as the database is to hold it under `key`. -/
structure StoredActive (key : RipRouteKey) (route : RipDbEntry) : Prop where
  keyed : buildRouteKey route.ripEntry = key
  garbageStartedAt : route.garbageStartedAt = none
  isLocal : route.isLocal = true →
    route.ripEntry.nextHop = 0 ∧ route.ripEntry.metric = 1 ∧ route.inRoutingTable = false
  learned : route.isLocal = false →
    2 ≤ route.ripEntry.metric ∧ route.ripEntry.metric ≤ 15 ∧ route.inRoutingTable = true

/-- A garbage route as the database is to hold it under `key`; it goes once it
is old enough. -/
structure StoredGarbage (database : RipDatabase) (key : RipRouteKey) (route : RipDbEntry) :
    Prop where
  keyed : buildRouteKey route.ripEntry = key
  metric : route.ripEntry.metric = 16
  inRoutingTable : route.inRoutingTable = false
  removed : ∃ startedAt, route.garbageStartedAt = some startedAt ∧ ∀ now lifetime,
    lifetime ≤ now - startedAt →
      (database.removeExpiredGarbageRoutes now lifetime).2.garbageRoutes.lookup key = none

theorem le_fifteen_of_lt_infinity {metric : UInt32} (h : metric < ripInfinityMetric) :
    metric ≤ 15 := by
  rw [UInt32.lt_iff_toNat_lt] at h
  rw [UInt32.le_iff_toNat_le]
  change metric.toNat < 16 at h
  change metric.toNat ≤ 15
  omega

theorem storedActive_of_activeRoute {key : RipRouteKey} {route : RipDbEntry}
    (h : ActiveRoute key route) : StoredActive key route where
  keyed := h.keyed
  garbageStartedAt := h.garbageStartedAt
  isLocal hlocal := by
    obtain ⟨hmetric, hhop, htable⟩ := h.isLocal hlocal
    exact ⟨hhop, hmetric, htable⟩
  learned hlearned := by
    obtain ⟨hlow, hhigh, htable⟩ := h.learned hlearned
    exact ⟨hlow, le_fifteen_of_lt_infinity hhigh, htable⟩

theorem storedGarbage_of_garbageRoute {database : RipDatabase} {key : RipRouteKey}
    {route : RipDbEntry} (hgarbage : database.garbageRoutes.lookup key = some route)
    (h : GarbageRoute key route) : StoredGarbage database key route where
  keyed := h.keyed
  metric := h.metric
  inRoutingTable := h.inRoutingTable
  removed := by
    obtain ⟨startedAt, hstarted⟩ := Option.isSome_iff_exists.mp h.garbageStartedAt
    refine ⟨startedAt, hstarted, fun now lifetime hage => ?_⟩
    have hexpired : route.expired now lifetime = true := by
      rw [RipDbEntry.expired, hstarted]
      exact decide_eq_true hage
    have hslot := slot_removeExpiredGarbageRoutes now lifetime database key
    rw [if_pos (mem_expiredKeys_iff.mpr ⟨route, hgarbage, hexpired⟩)] at hslot
    exact congrArg Slot.garbage hslot

theorem priority_toNat {route : RipDbEntry} (h : route.ripEntry.metric.toNat ≤ 16) :
    (buildRouteMessage route).priority.toNat = 20 + route.ripEntry.metric.toNat := by
  rw [buildRouteMessage, UInt32.toNat_add]
  apply Nat.mod_eq_of_lt
  change 20 + route.ripEntry.metric.toNat < 2 ^ 32
  omega

theorem metric_le_of_wellFormed {key : RipRouteKey} {s : Slot} {route : RipDbEntry}
    (hwell : WellFormed key s) (hroute : s.active = some route ∨ s.garbage = some route) :
    1 ≤ route.ripEntry.metric.toNat ∧ route.ripEntry.metric.toNat ≤ 16 := by
  rcases hroute with hactive | hgarbage
  · have hstored := hwell.active route hactive
    cases hlocal : route.isLocal with
    | true =>
        rw [(hstored.isLocal hlocal).1]
        decide
    | false =>
        obtain ⟨hlow, hhigh, -⟩ := hstored.learned hlocal
        rw [UInt32.le_iff_toNat_le] at hlow
        rw [UInt32.lt_iff_toNat_lt] at hhigh
        change 2 ≤ _ at hlow
        change _ < 16 at hhigh
        omega
  · rw [(hwell.garbage route hgarbage).metric]
    decide

/-- Every stored route of a reachable daemon is as the database is to hold it,
and its kernel priority is the plain sum. -/
theorem run_storedRoutes {deamon deamon' : RipDeamon Driver}
    {labels : List (Answers × DeamonEvent)} (hinitial : Initial deamon)
    (hrun : Run Attempted deamon labels deamon') (key : RipRouteKey) (route : RipDbEntry) :
    (deamon'.database.okRoutes.lookup key = some route → StoredActive key route) ∧
      (deamon'.database.garbageRoutes.lookup key = some route →
        StoredGarbage deamon'.database key route) ∧
      (deamon'.database.okRoutes.lookup key = some route ∨
          deamon'.database.garbageRoutes.lookup key = some route →
        (buildRouteMessage route).priority.toNat = 20 + route.ripEntry.metric.toNat) := by
  have hwell := run_wellFormed hinitial hrun key
  refine ⟨fun hactive => ?_, fun hgarbage => ?_, fun hstored => ?_⟩
  · exact storedActive_of_activeRoute (hwell.active route hactive)
  · exact storedGarbage_of_garbageRoute hgarbage (hwell.garbage route hgarbage)
  · exact priority_toNat (metric_le_of_wellFormed hwell hstored).2

theorem withdrawal_storedRoutes :
    ∃ deamon' route, Run Step learningDeamon [announcement, withdrawal] deamon' ∧
      deamon'.database.garbageRoutes.lookup farNetwork = some route ∧
      StoredGarbage deamon'.database farNetwork route := by
  have hany : (runEvents learningDeamon [announcement, withdrawal]).any (fun deamon =>
      (deamon.database.garbageRoutes.lookup farNetwork).isSome) = true := by decide +kernel
  obtain ⟨deamon', hrun, hend⟩ := exists_run hany
  obtain ⟨route, hgarbage⟩ := Option.isSome_iff_exists.mp hend
  exact ⟨deamon', route, hrun, hgarbage,
    (run_storedRoutes ⟨rfl, rfl⟩ (run_attempted hrun) farNetwork route).2.1 hgarbage⟩

/-- A route that was learned passed the checks of a received entry. -/
def Screened (key : RipRouteKey) (route : RipDbEntry) : Prop :=
  route.isLocal = false →
    isUnicastAddress key.ipAddress = true ∧ isNetMaskValid key.subnetMask = true

def Slot.Screened (key : RipRouteKey) (s : Slot) : Prop :=
  ∀ route, s.active = some route ∨ s.garbage = some route → StoredRoutes.Screened key route

theorem Slot.Screened.step {key : RipRouteKey} {s s' : Slot} {action : SlotAction}
    (hcaused : Caused key action) (hs : Slot.Screened key s) (hstep : SlotStep s action s') :
    Slot.Screened key s' := by
  obtain ⟨answers, event, hcaused⟩ := hcaused
  rintro route (hroute | hroute) hlearned
  · rcases active_origin hstep hroute with ⟨old, hold, hsame⟩ | ⟨_, _, _, rfl, rfl, -⟩ | rfl
    · exact hs old (.inl hold) (hsame.isLocal.symm.trans hlearned)
    · obtain ⟨rfl, packet, raw, -, -, -, hentry, -⟩ := hcaused
      obtain ⟨hvalid, rfl⟩ := responseEntryToRoute_eq hentry
      simp only [isEntryValid, Bool.and_eq_true] at hvalid
      exact hvalid.1
    · obtain ⟨network, localRoute, -, -, rfl, -⟩ := hcaused
      exact absurd hlearned (by simp [localRouteEntry])
  · rcases garbage_origin hstep hroute with ⟨old, hold, hsame⟩ | ⟨old, now, hold, rfl⟩
    · exact hs old (.inr hold) (hsame.isLocal.symm.trans hlearned)
    · exact hs old (.inl hold) hlearned

theorem run_screened {deamon deamon' : RipDeamon Driver}
    {labels : List (Answers × DeamonEvent)} (hinitial : Initial deamon)
    (hrun : Run Attempted deamon labels deamon') (key : RipRouteKey) :
    Slot.Screened key (slot deamon'.database key) := by
  obtain ⟨-, hslots⟩ := run_simulated hrun (hinitial.1 ▸ keysMatch_new)
  obtain ⟨actions, hactions, hcaused⟩ := hslots key
  refine hactions.keeps (I := Slot.Screened key) (P := Caused key)
    (fun _ _ _ hcaused hs hstep => hs.step hcaused hstep) ?_ ?_
  · intro action hmem
    obtain ⟨label, -, hcause⟩ := hcaused action hmem
    exact ⟨label.1, label.2, hcause⟩
  · rw [hinitial.1, slot_new]
    rintro route (hroute | hroute) <;> simp at hroute

/-- The address or the netmask is one that the checks of received entries rule out. -/
def RuledOut (entry : RipEntry) : Prop :=
  isUnicastAddress entry.ipAddress = false ∨ entry.subnetMask = 0 ∨
    entry.subnetMask = 0xffffffff

theorem isEntryValid_iff {entry : RipEntry} {p : Nat} (hmask : IsMaskOfLength p entry.subnetMask)
    (hmetric : 1 ≤ entry.metric.toNat ∧ entry.metric.toNat ≤ 16) :
    isEntryValid entry = true ↔ ¬RuledOut entry := by
  rw [isEntryValid, isMetricValid_of_le hmetric, Bool.and_true, Bool.and_eq_true,
    hmask.isNetMaskValid_iff, RuledOut, not_or, not_or, Bool.not_eq_false]

theorem advertised_valid_or {key : RipRouteKey} {s : Slot} {route : RipDbEntry}
    (hwell : WellFormed key s) (hscreened : Slot.Screened key s)
    (hroute : s.active = some route ∨ s.garbage = some route) :
    isEntryValid route.advertised = true ∨
      route.isLocal = true ∧ RuledOut route.advertised := by
  have hkey : buildRouteKey route.ripEntry = key := by
    rcases hroute with hactive | hgarbage
    · exact (hwell.active route hactive).keyed
    · exact (hwell.garbage route hgarbage).keyed
  have hcontiguous : ∃ p, IsMaskOfLength p key.subnetMask := by
    rcases hroute with hactive | hgarbage
    · exact (hwell.active route hactive).contiguous
    · exact (hwell.garbage route hgarbage).contiguous
  subst hkey
  obtain ⟨p, hmask⟩ := hcontiguous
  have hvalid : isEntryValid route.advertised = true ↔ ¬RuledOut route.advertised :=
    isEntryValid_iff hmask (metric_le_of_wellFormed hwell hroute)
  rw [hvalid]
  by_cases hruled : RuledOut route.advertised
  · refine .inr ⟨Bool.eq_true_of_not_eq_false fun hlearned => ?_, hruled⟩
    obtain ⟨hunicast, hnetMask⟩ := hscreened route hroute hlearned
    have hends := hmask.isNetMaskValid_iff.mp hnetMask
    rcases hruled with hmulticast | hzero | hones
    · exact absurd (hunicast.symm.trans hmulticast) (by simp)
    · exact hends.1 hzero
    · exact hends.2 hones
  · exact .inl hruled

theorem advertisedNetwork_valid_iff {answers : Answers} {network : AdvertisedNetwork}
    {localRoute : LocalRoute}
    (h : advertisedNetworkToLocalRoute answers network = .ok localRoute) :
    isEntryValid localRoute.entry = true ↔
      isUnicastAddress localRoute.entry.ipAddress = true ∧
        network.prefixLen ≠ 0 ∧ network.prefixLen ≠ 32 := by
  obtain ⟨-, hmetric, hprefix⟩ := advertisedNetworkToLocalRoute_entry h
  have hmask := isMaskOfLength_of_prefixToMask hprefix
  have hzero : localRoute.entry.subnetMask = 0 ↔ network.prefixLen = 0 :=
    (hmask.eq_iff isMaskOfLength_zero).trans (UInt32.toNat_inj (b := 0))
  have hones : localRoute.entry.subnetMask = 0xffffffff ↔ network.prefixLen = 32 :=
    (hmask.eq_iff isMaskOfLength_allOnes).trans (UInt32.toNat_inj (b := 32))
  rw [isEntryValid_iff hmask (by rw [hmetric]; decide), RuledOut, hzero, hones, not_or, not_or,
    Bool.not_eq_false]

/-- Every entry that a reachable daemon advertises decodes to one that passes a
neighbour's checks, unless it is that of a local network whose address or
netmask these checks rule out. -/
theorem run_advertised_valid {deamon deamon' : RipDeamon Driver}
    {labels : List (Answers × DeamonEvent)} (hinitial : Initial deamon)
    (hrun : Run Attempted deamon labels deamon') (endian : Endian) (targetIfIndex : UInt32)
    (changedOnly : Bool) :
    (∀ buffer ∈ buildResponseBuffers endian deamon'.database targetIfIndex changedOnly,
      ∃ data, RipPacketData.fromSlice buffer = .ok (.ok data) ∧
        ∀ entry ∈ data.entries, isEntryValid entry = true ∨
          ∃ route ∈ storedRoutes deamon'.database, route.isLocal = true ∧
            route.advertised = entry ∧ RuledOut entry) ∧
      ∀ answers network localRoute,
        advertisedNetworkToLocalRoute answers network = .ok localRoute →
        (isEntryValid localRoute.entry = true ↔
          isUnicastAddress localRoute.entry.ipAddress = true ∧
            network.prefixLen ≠ 0 ∧ network.prefixLen ≠ 32) := by
  refine ⟨fun buffer hbuffer => ?_, fun answers network localRoute h =>
    advertisedNetwork_valid_iff h⟩
  obtain ⟨entries, hchunk, rfl⟩ := List.mem_map.mp hbuffer
  refine ⟨_, fromSlice_buildResponseBuffer endian entries, fun entry hentry => ?_⟩
  obtain ⟨route, hroute, -, -, rfl⟩ := RipDatabase.mem_getRoutesForAdvertisement_iff.mp
    (Chunks.mem_of_mem_chunk hchunk hentry)
  have hstored : route ∈ storedRoutes deamon'.database := by
    rwa [storedRoutes_eq, Multiset.mem_coe]
  obtain ⟨key, hkey⟩ : ∃ key, (slot deamon'.database key).active = some route ∨
      (slot deamon'.database key).garbage = some route := by
    rw [exists_or]
    exact RipDatabase.mem_allRoutes_iff.mp hroute
  rcases advertised_valid_or (run_wellFormed hinitial hrun key) (run_screened hinitial hrun key)
    hkey with hvalid | ⟨hlocal, hruled⟩
  · exact .inl hvalid
  · exact .inr ⟨route, hstored, hlocal, rfl, hruled⟩

theorem learningEvents_advertised_valid :
    ∃ deamon', Run Step learningDeamon learningEvents deamon' ∧
      ∀ buffer ∈ buildResponseBuffers .little deamon'.database 3 false,
        ∃ data, RipPacketData.fromSlice buffer = .ok (.ok data) ∧
          ∀ entry ∈ data.entries, isEntryValid entry = true ∨
            ∃ route ∈ storedRoutes deamon'.database, route.isLocal = true ∧
              route.advertised = entry ∧ RuledOut entry := by
  have hany : (runEvents learningDeamon learningEvents).any (fun _ => true) = true := by
    decide +kernel
  obtain ⟨deamon', hrun, -⟩ := exists_run hany
  exact ⟨deamon', hrun,
    (run_advertised_valid ⟨rfl, rfl⟩ (run_attempted hrun) .little 3 false).1⟩

/-- 10.9.9.9/32, a host route -/
def hostNetwork : AdvertisedNetwork := { address := "10.9.9.9", prefixLen := 32, dev := "eth0" }

/-- The daemon advertises a host route that its neighbours drop. -/
theorem host_route_dropped :
    ∃ deamon', Run Step learningDeamon [(steady, .addLocalRoute hostNetwork)] deamon' ∧
      ∃ buffer ∈ buildResponseBuffers .little deamon'.database 2 false,
        ∃ data, RipPacketData.fromSlice buffer = .ok (.ok data) ∧
          ∃ entry ∈ data.entries, isEntryValid entry = false := by
  have hany : (runEvents learningDeamon [(steady, .addLocalRoute hostNetwork)]).any
      (fun deamon => (deamon.database.getRoutesForAdvertisement 2 false).any
        fun entry => !isEntryValid entry) = true := by decide +kernel
  obtain ⟨deamon', hrun, hend⟩ := exists_run hany
  obtain ⟨entry, hentry, hinvalid⟩ := List.any_eq_true.mp hend
  obtain ⟨entries, hchunk, hmem⟩ := Chunks.exists_chunk_of_mem hentry
  exact ⟨deamon', hrun, _, List.mem_map_of_mem hchunk, _,
    fromSlice_buildResponseBuffer .little entries, entry, hmem, by simpa using hinvalid⟩

end RipV2.StoredRoutes
