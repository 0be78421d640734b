import RipV2.DeamonSimulation

namespace RipV2.ReachableRoutes

open RipV2.Address
open RipV2.Database
open RipV2.Deamon
open RipV2.DeamonRuns
open RipV2.DeamonSimulation
open RipV2.DestinationSlots
open RipV2.EffectLogic
open RipV2.HostEnvironment
open RipV2.LocalRoutes
open RipV2.Packets
open RipV2.Results
open RipV2.RoutingTables
open RipV2.TransitionRuns

variable {Driver : Type} [RoutingTableDriver Driver]

/-- A step whose handler may fail and leave its work half done. -/
def Attempted (deamon : RipDeamon Driver) (label : Answers × DeamonEvent)
    (deamon' : RipDeamon Driver) : Prop :=
  ∃ res, Outcome deamon label res ∧ finalState res = deamon'

theorem attempted_of_step {deamon deamon' : RipDeamon Driver} {label : Answers × DeamonEvent}
    (h : Step deamon label deamon') : Attempted deamon label deamon' :=
  ⟨_, h, rfl⟩

theorem outcome_simulated {deamon : RipDeamon Driver} {label : Answers × DeamonEvent}
    {res : EStateM.Result RipError (RipDeamon Driver) Unit} (h : Outcome deamon label res)
    (hkeys : KeysMatch deamon.database) :
    Simulated label.1 label.2 deamon.database (finalState res).database (succeeded res)
      fun key => label.2.heard key := by
  obtain ⟨deamon₀, ⟨database, hreordered, rfl⟩, rfl⟩ := h
  have hslot := slot_reordered hreordered
  intro key
  rw [← hslot key]
  exact handle_simulated label.2
    { deamon with database, host := deamon.host.renew label.1 } (hkeys.reordered hreordered) key

/-- Run the handlers one after the other on maps whose order stays as it is. -/
def runEvents (deamon : RipDeamon Driver) :
    List (Answers × DeamonEvent) → Option (RipDeamon Driver)
  | [] => some deamon
  | label :: labels =>
      match label.2.handle.run { deamon with host := deamon.host.renew label.1 } with
      | .ok _ deamon' => runEvents deamon' labels
      | .error _ _ => none

theorem runEvents_run {deamon deamon' : RipDeamon Driver} {labels : List (Answers × DeamonEvent)}
    (h : runEvents deamon labels = some deamon') : Run Step deamon labels deamon' := by
  induction labels generalizing deamon with
  | nil =>
      obtain rfl : deamon = deamon' := by simpa [runEvents] using h
      exact .nil
  | cons label labels ih =>
      rw [runEvents] at h
      cases hstep : label.2.handle.run { deamon with host := deamon.host.renew label.1 } with
      | error e deamon₁ => simp [hstep] at h
      | ok a deamon₁ =>
          rw [hstep] at h
          have hfirst : Step deamon label deamon₁ :=
            ⟨_, ⟨deamon.database, .refl _, rfl⟩, hstep⟩
          exact (Run.single hfirst).append (ih h)

theorem runEvents_single {deamon deamon' : RipDeamon Driver} {label : Answers × DeamonEvent}
    (h : runEvents deamon [label] = some deamon') : Step deamon label deamon' := by
  rw [runEvents] at h
  cases hstep : label.2.handle.run { deamon with host := deamon.host.renew label.1 } with
  | error e deamon₁ => simp [hstep] at h
  | ok a deamon₁ =>
      obtain rfl : deamon₁ = deamon' := by simpa [hstep, runEvents] using h
      exact ⟨_, ⟨deamon.database, .refl _, rfl⟩, hstep⟩

theorem exists_run {deamon : RipDeamon Driver} {labels : List (Answers × DeamonEvent)}
    {p : RipDeamon Driver → Bool} (h : (runEvents deamon labels).any p = true) :
    ∃ deamon', Run Step deamon labels deamon' ∧ p deamon' = true := by
  obtain ⟨deamon', hrun, hp⟩ := (Option.any_eq_true _ _).mp h
  exact ⟨deamon', runEvents_run hrun, hp⟩

theorem run_attempted {deamon deamon' : RipDeamon Driver} {labels : List (Answers × DeamonEvent)}
    (h : Run Step deamon labels deamon') : Run Attempted deamon labels deamon' :=
  h.mono fun _ _ _ _ => attempted_of_step

/-- Every destination goes through a run of its automaton along the daemon's run. -/
theorem run_simulated {deamon deamon' : RipDeamon Driver}
    {labels : List (Answers × DeamonEvent)} (hrun : Run Attempted deamon labels deamon')
    (hkeys : KeysMatch deamon.database) :
    KeysMatch deamon'.database ∧ ∀ key, ∃ actions,
      Run SlotStep (slot deamon.database key) actions (slot deamon'.database key) ∧
      ∀ action ∈ actions, ∃ label ∈ labels, CausedBy label.1 label.2 key action := by
  induction hrun with
  | nil => exact ⟨hkeys, fun key => ⟨[], .nil, by simp⟩⟩
  | @snoc labels deamon₁ deamon₂ label _ hstep ih =>
      obtain ⟨hkeys₁, hslots⟩ := ih
      obtain ⟨res, houtcome, rfl⟩ := hstep
      have hsimulated := outcome_simulated houtcome hkeys₁
      refine ⟨hsimulated.keysMatch hkeys₁, fun key => ?_⟩
      obtain ⟨actions, hactions, hcaused⟩ := hslots key
      obtain ⟨actions', hactions', hcaused', -⟩ := hsimulated key
      refine ⟨actions ++ actions', hactions.append hactions', fun action hmem => ?_⟩
      rcases List.mem_append.mp hmem with hmem | hmem
      · obtain ⟨label', hlabel', hcause⟩ := hcaused action hmem
        exact ⟨label', by simp [hlabel'], hcause⟩
      · exact ⟨label, by simp, hcaused' action hmem⟩

/-- What every active route for `key` looks like. -/
structure ActiveRoute (key : RipRouteKey) (route : RipDbEntry) : Prop where
  keyed : buildRouteKey route.ripEntry = key
  contiguous : ∃ p, IsMaskOfLength p key.subnetMask
  isLocal : route.isLocal = true →
    route.ripEntry.metric = 1 ∧ route.ripEntry.nextHop = 0 ∧ route.inRoutingTable = false
  learned : route.isLocal = false → 2 ≤ route.ripEntry.metric ∧
    route.ripEntry.metric < ripInfinityMetric ∧ route.inRoutingTable = true
  garbageStartedAt : route.garbageStartedAt = none

/-- What every garbage route for `key` looks like. -/
structure GarbageRoute (key : RipRouteKey) (route : RipDbEntry) : Prop where
  keyed : buildRouteKey route.ripEntry = key
  contiguous : ∃ p, IsMaskOfLength p key.subnetMask
  metric : route.ripEntry.metric = ripInfinityMetric
  inRoutingTable : route.inRoutingTable = false
  garbageStartedAt : route.garbageStartedAt.isSome = true

/-- What every route that a reachable daemon stores is like. -/
structure WellFormed (key : RipRouteKey) (s : Slot) : Prop where
  active : ∀ route, s.active = some route → ActiveRoute key route
  garbage : ∀ route, s.garbage = some route → GarbageRoute key route

theorem ActiveRoute.congr {key : RipRouteKey} {old route : RipDbEntry}
    (h : ActiveRoute key old) (hsame : SameRoute old route) : ActiveRoute key route := by
  obtain ⟨hkeyed, hcontiguous, hlocal, hlearned, hstarted⟩ := h
  refine ⟨?_, hcontiguous, ?_, ?_, ?_⟩
  · rwa [hsame.ripEntry]
  · rwa [hsame.isLocal, hsame.ripEntry, hsame.inRoutingTable]
  · rwa [hsame.isLocal, hsame.ripEntry, hsame.inRoutingTable]
  · rwa [hsame.garbageStartedAt]

theorem GarbageRoute.congr {key : RipRouteKey} {old route : RipDbEntry}
    (h : GarbageRoute key old) (hsame : SameRoute old route) : GarbageRoute key route := by
  obtain ⟨hkeyed, hcontiguous, hmetric, htable, hstarted⟩ := h
  refine ⟨?_, hcontiguous, ?_, ?_, ?_⟩
  · rwa [hsame.ripEntry]
  · rwa [hsame.ripEntry]
  · rwa [hsame.inRoutingTable]
  · rwa [hsame.garbageStartedAt]

theorem ActiveRoute.toGarbage {key : RipRouteKey} {route : RipDbEntry}
    (h : ActiveRoute key route) (now : Instant) : GarbageRoute key (route.toGarbage now) :=
  ⟨h.keyed, h.contiguous, rfl, rfl, rfl⟩

theorem responseEntryToRoute_eq {raw entry : RipEntry} {packet : RipPacket}
    (h : responseEntryToRoute raw packet = some entry) :
    isEntryValid raw = true ∧
      entry = { raw with metric := updateMetric raw.metric, nextHop := packet.source.ip } := by
  rw [responseEntryToRoute] at h
  split_ifs at h with hvalid
  exact ⟨by simpa using hvalid, by simpa using h.symm⟩

theorem updateMetric_toNat {metric : UInt32} (h : isMetricValid metric = true) :
    1 ≤ metric.toNat ∧ metric.toNat ≤ 16 ∧
      (updateMetric metric).toNat = min (metric.toNat + 1) 16 := by
  rw [isMetricValid, Bool.and_eq_true, decide_eq_true_eq, decide_eq_true_eq,
    UInt32.le_iff_toNat_le, UInt32.le_iff_toNat_le] at h
  have hlow : 1 ≤ metric.toNat := h.1
  have hhigh : metric.toNat ≤ 16 := h.2
  have hnext : (metric + 1).toNat = metric.toNat + 1 := by
    rw [UInt32.toNat_add]
    exact Nat.mod_eq_of_lt (by change metric.toNat + 1 < _; omega)
  have hadd : saturatingAdd32 metric 1 = metric + 1 := by
    rw [saturatingAdd32, if_pos]
    change metric.toNat + 1 < _
    omega
  refine ⟨hlow, hhigh, ?_⟩
  rw [updateMetric, hadd]
  change (if metric + 1 ≤ ripInfinityMetric then metric + 1 else ripInfinityMetric).toNat = _
  split_ifs with hle
  · have hle' : (metric + 1).toNat ≤ 16 := UInt32.le_iff_toNat_le.mp hle
    rw [hnext] at hle' ⊢
    omega
  · have hgt : ¬(metric + 1).toNat ≤ 16 := fun hle' => hle (UInt32.le_iff_toNat_le.mpr hle')
    rw [hnext] at hgt
    change 16 = _
    omega

theorem isMetricValid_of_le {metric : UInt32} (h : 1 ≤ metric.toNat ∧ metric.toNat ≤ 16) :
    isMetricValid metric = true := by
  rw [isMetricValid, Bool.and_eq_true, decide_eq_true_eq, decide_eq_true_eq,
    UInt32.le_iff_toNat_le, UInt32.le_iff_toNat_le]
  exact h

theorem responseEntryToRoute_metric {raw entry : RipEntry} {packet : RipPacket}
    (h : responseEntryToRoute raw packet = some entry) :
    1 ≤ raw.metric.toNat ∧ raw.metric.toNat ≤ 16 ∧
      entry.metric.toNat = min (raw.metric.toNat + 1) 16 := by
  obtain ⟨hvalid, rfl⟩ := responseEntryToRoute_eq h
  rw [isEntryValid, Bool.and_eq_true] at hvalid
  exact updateMetric_toNat hvalid.2

theorem responseEntryToRoute_valid {raw entry : RipEntry} {packet : RipPacket}
    (h : responseEntryToRoute raw packet = some entry) : isEntryValid entry = true := by
  obtain ⟨hlow, -, hmetric⟩ := responseEntryToRoute_metric h
  obtain ⟨hvalid, hentry⟩ := responseEntryToRoute_eq h
  rw [isEntryValid, Bool.and_eq_true] at hvalid ⊢
  refine ⟨?_, isMetricValid_of_le (by omega)⟩
  rw [hentry]
  exact hvalid.1

theorem learnedRoute_activeRoute {key : RipRouteKey} {event : DeamonEvent} {entry : RipEntry}
    {ifInfo : RipIfInfo} (h : FromPacket event key entry ifInfo)
    (hmetric : entry.metric < ripInfinityMetric) :
    ActiveRoute key (learnedRoute entry ifInfo) := by
  obtain ⟨hkey, packet, raw, -, -, -, hentry, -⟩ := h
  obtain ⟨hlow, -, hnext⟩ := responseEntryToRoute_metric hentry
  have hvalid := responseEntryToRoute_valid hentry
  simp only [isEntryValid, Bool.and_eq_true] at hvalid
  obtain ⟨⟨-, hmask⟩, -⟩ := hvalid
  refine ⟨hkey, ?_, by simp [learnedRoute], fun _ => ⟨?_, hmetric, rfl⟩, rfl⟩
  · rw [← hkey]
    exact exists_maskLength_of_isNetMaskValid hmask
  · rw [UInt32.le_iff_toNat_le]
    change 2 ≤ entry.metric.toNat
    omega

theorem localRouteEntry_activeRoute {answers : Answers} {network : AdvertisedNetwork}
    {localRoute : LocalRoute}
    (h : advertisedNetworkToLocalRoute answers network = .ok localRoute) :
    ActiveRoute (buildRouteKey localRoute.entry) (localRouteEntry localRoute) := by
  obtain ⟨hhop, hmetric, hmask⟩ := advertisedNetworkToLocalRoute_entry h
  refine ⟨rfl, ⟨_, isMaskOfLength_of_prefixToMask hmask⟩, fun _ => ⟨hmetric, hhop, rfl⟩, ?_, rfl⟩
  simp [localRouteEntry]

/-- What any event may cause at a destination. -/
def Caused (key : RipRouteKey) (action : SlotAction) : Prop :=
  ∃ answers event, CausedBy answers event key action

theorem WellFormed.step {key : RipRouteKey} {s s' : Slot} {action : SlotAction}
    (hcaused : Caused key action) (hs : WellFormed key s) (hstep : SlotStep s action s') :
    WellFormed key s' := by
  obtain ⟨answers, event, hcaused⟩ := hcaused
  constructor
  · intro route hroute
    rcases active_origin hstep hroute with ⟨old, hold, hsame⟩ |
      ⟨now, entry, ifInfo, rfl, rfl, hmetric⟩ | rfl
    · exact (hs.active old hold).congr hsame
    · exact learnedRoute_activeRoute hcaused hmetric
    · obtain ⟨network, localRoute, -, hroute', rfl, hkey⟩ := hcaused
      rw [← hkey]
      exact localRouteEntry_activeRoute hroute'
  · intro route hroute
    rcases garbage_origin hstep hroute with ⟨old, hold, hsame⟩ | ⟨old, now, hold, rfl⟩
    · exact (hs.garbage old hold).congr hsame
    · exact (hs.active old hold).toGarbage now

theorem keysMatch_of_wellFormed {database : RipDatabase}
    (h : ∀ key, WellFormed key (slot database key)) : KeysMatch database :=
  fun key route hroute => ((h key).active route hroute).keyed

theorem simulated_wellFormed {answers : Answers} {event : DeamonEvent}
    {database database' : RipDatabase} {complete : Bool}
    {entries : RipRouteKey → List (RipEntry × RipIfInfo)}
    (h : Simulated answers event database database' complete entries)
    (hwell : ∀ key, WellFormed key (slot database key)) (key : RipRouteKey) :
    WellFormed key (slot database' key) := by
  obtain ⟨actions, hrun, hcaused, -⟩ := h key
  exact hrun.keeps (P := Caused key) (fun _ _ _ hcaused hs hstep => hs.step hcaused hstep)
    (fun action hmem => ⟨answers, event, hcaused action hmem⟩) (hwell key)

theorem wellFormed_new (key : RipRouteKey) : WellFormed key (slot RipDatabase.new key) where
  active := by simp
  garbage := by simp

theorem keysMatch_new : KeysMatch RipDatabase.new := by
  intro key route hroute
  simp [RipDatabase.new] at hroute

/-- Every destination of a reachable daemon is well formed. -/
theorem run_wellFormed {deamon deamon' : RipDeamon Driver}
    {labels : List (Answers × DeamonEvent)} (hinitial : Initial deamon)
    (hrun : Run Attempted deamon labels deamon') (key : RipRouteKey) :
    WellFormed key (slot deamon'.database key) := by
  obtain ⟨-, hslots⟩ := run_simulated hrun (hinitial.1 ▸ keysMatch_new)
  obtain ⟨actions, hactions, hcaused⟩ := hslots key
  refine hactions.keeps (I := WellFormed key) (P := Caused key)
    (fun _ _ _ hcaused hs hstep => hs.step hcaused hstep) ?_ ?_
  · intro action hmem
    obtain ⟨label, -, hcause⟩ := hcaused action hmem
    exact ⟨label.1, label.2, hcause⟩
  · rw [hinitial.1]
    exact wellFormed_new key

end RipV2.ReachableRoutes
