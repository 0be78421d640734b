import RipV2.HeardSequences
import RipV2.RouteOwners

namespace RipV2.TimeoutCounters

open RipV2.Database
open RipV2.Deamon
open RipV2.Deamon.RipDeamon
open RipV2.DeamonRuns
open RipV2.DeamonSimulation
open RipV2.DestinationSlots
open RipV2.EffectLogic
open RipV2.HashMapModel
open RipV2.HeardEntries
open RipV2.HeardSequences
open RipV2.HostEnvironment
open RipV2.KernelRoutes
open RipV2.Packets
open RipV2.ReachableRoutes
open RipV2.RouteOwners
open RipV2.RoutingTables
open RipV2.TransitionRuns

/-- A timeout check at one destination: the route times out and finds no garbage in
its way, or it is counted. -/
def Checked (increment limit : UInt64) (s s' : Slot) : Prop :=
  (∃ route, (s.count increment).active = some route ∧ route.timedOut limit = true ∧
      s.garbage = none ∧ ∃ now, s' = ⟨none, some (route.toGarbage now)⟩) ∨
    ((∀ route, (s.count increment).active = some route → route.timedOut limit = false) ∧
      s' = s.count increment)

section

variable {Driver : Type} [RoutingTableDriver Driver]

theorem expireRoutes_slot {routes : List RipDbEntry} {deamon deamon' : RipDeamon Driver}
    (hlisted : Listed deamon.database routes)
    (h : (routes.forM expireRoute).run deamon = .ok () deamon') (key : RipRouteKey) :
    (∃ route ∈ routes, buildRouteKey route.ripEntry = key ∧
      (slot deamon.database key).garbage = none ∧
      ∃ now, slot deamon'.database key = ⟨none, some (route.toGarbage now)⟩) ∨
    ((∀ route ∈ routes, buildRouteKey route.ripEntry ≠ key) ∧
      slot deamon'.database key = slot deamon.database key) := by
  induction routes generalizing deamon with
  | nil =>
      obtain ⟨-, rfl⟩ := EStateM.Result.ok.inj h
      exact .inr ⟨by simp, rfl⟩
  | cons route routes ih =>
      rw [List.forM_eq_forM, List.forM_cons] at h
      obtain ⟨a, deamon₁, hfirst, hrest⟩ := run_bind_ok h
      obtain ⟨now, hdatabase, hfree, hlisted₁⟩ := hlisted.expired hfirst
      have hslot := slot_toGarbage route now deamon.database (buildRouteKey route.ripEntry) key
      rw [← hdatabase] at hslot
      rcases ih hlisted₁ hrest with ⟨other, hmem, hkey, hgarbage, now', hmoved⟩ | ⟨hother, hsame⟩
      · have hne : key ≠ buildRouteKey route.ripEntry := hkey ▸ hlisted.key_ne hmem
        rw [if_neg hne] at hslot
        rw [hslot] at hgarbage
        exact .inl ⟨other, by simp [hmem], hkey, hgarbage, now', hmoved⟩
      · rw [hsame, hslot]
        split_ifs with hkey
        · subst hkey
          refine .inl ⟨route, by simp, rfl, hfree, now, ?_⟩
          rw [slot_garbage, hfree, Option.getD_none]
        · exact .inr ⟨List.forall_mem_cons.mpr ⟨Ne.symm hkey, hother⟩, rfl⟩

theorem handleRouteTimeoutTick_checked (timer : Timer) {deamon deamon' : RipDeamon Driver}
    {timer' : Timer} (hkeys : KeysMatch deamon.database)
    (h : (handleRouteTimeoutTick timer).run deamon = .ok timer' deamon') (key : RipRouteKey) :
    Checked (timeoutCheckIntervalSecs deamon.host.answers) (routeTimeoutSecs deamon.host.answers)
      (slot deamon.database key) (slot deamon'.database key) := by
  have hkeys₁ : KeysMatch (timeoutCheck deamon).2 :=
    (timeoutCheck_simulated timer true deamon).keysMatch hkeys
  have hlisted : Listed (timeoutCheck deamon).2 (timeoutCheck deamon).1 :=
    listed_timedOutRoutes hkeys₁ _
  have hcounted : slot (timeoutCheck deamon).2 key = (slot deamon.database key).count
      (timeoutCheckIntervalSecs deamon.host.answers) := slot_collectTimedOutRoutes _ _ _ key
  rw [handleRouteTimeoutTick_run] at h
  cases hrun : ((timeoutCheck deamon).1.forM expireRoute).run
      { deamon with database := (timeoutCheck deamon).2 } with
  | error e deamon₁ =>
      rw [hrun] at h
      exact absurd h (by simp)
  | ok a deamon₁ =>
      rw [hrun] at h
      obtain ⟨-, rfl⟩ := EStateM.Result.ok.inj h
      rw [Checked, ← hcounted]
      rcases expireRoutes_slot hlisted hrun key with
        ⟨route, hmem, rfl, hgarbage, hmoved⟩ | ⟨hother, hsame⟩
      · rw [hcounted] at hgarbage
        exact .inl ⟨route, hlisted.2 route hmem, (List.mem_filter.mp hmem).2, hgarbage, hmoved⟩
      · refine .inr ⟨fun route hactive => ?_, hsame⟩
        rw [← Bool.not_eq_true]
        intro htimedOut
        refine hother route ?_ (hkeys₁ key route hactive)
        exact List.mem_filter.mpr ⟨HashMap.mem_values_iff.mpr ⟨key, hactive⟩, htimedOut⟩

theorem step_checked {deamon deamon' : RipDeamon Driver} {answers : Answers} {timer : Timer}
    (hkeys : KeysMatch deamon.database)
    (hstep : Step deamon (answers, .routeTimeoutTick timer) deamon') (key : RipRouteKey) :
    Checked (timeoutCheckIntervalSecs answers) (routeTimeoutSecs answers)
      (slot deamon.database key) (slot deamon'.database key) := by
  obtain ⟨deamon₀, ⟨database, hreordered, rfl⟩, hrun⟩ := hstep
  obtain ⟨timer', deamon₁, htick, hpure⟩ := run_bind_ok hrun
  obtain ⟨-, rfl⟩ := EStateM.Result.ok.inj hpure
  rw [← slot_reordered hreordered]
  exact handleRouteTimeoutTick_checked timer (hkeys.reordered hreordered) htick key

end

def isTimeoutTick : DeamonEvent → Bool
  | .routeTimeoutTick _ => true
  | _ => false

/-- The event has a valid entry for `key` from `source` that comes to a finite metric. -/
def refreshes (key : RipRouteKey) (source : UInt32) (event : DeamonEvent) : Bool :=
  (DeamonEvent.processed key source event).any fun processed =>
    updateMetric processed.2.metric < ripInfinityMetric

/-- `since` are the events after the last one in which `source` refreshes `key`. -/
def SinceRefresh (key : RipRouteKey) (source : UInt32)
    (labels since : List (Answers × DeamonEvent)) : Prop :=
  ∃ before label, labels = before ++ label :: since ∧ refreshes key source label.2 = true ∧
    ∀ later ∈ since, refreshes key source later.2 = false

def ticks (labels : List (Answers × DeamonEvent)) : Nat :=
  labels.countP fun label => isTimeoutTick label.2

/-- The active route, if learned, counts the ticks since its next hop was last heard;
if local, it counts nothing. -/
def Counted (key : RipRouteKey) (increment : UInt64) (labels : List (Answers × DeamonEvent))
    (s : Slot) : Prop :=
  ∀ route, s.active = some route →
    (route.isLocal = true → route.timeoutCnt = 0) ∧
    (route.isLocal = false → ∃ since, SinceRefresh key route.ripEntry.nextHop labels since ∧
      route.timeoutCnt.toNat = min (2 ^ 64 - 1) (increment.toNat * ticks since))

theorem saturatingAdd64_toNat (a b : UInt64) :
    (saturatingAdd64 a b).toNat = min (2 ^ 64 - 1) (a.toNat + b.toNat) := by
  rw [saturatingAdd64]
  split_ifs with hsmall
  · rw [UInt64.toNat_add, Nat.mod_eq_of_lt hsmall]
    omega
  · change 2 ^ 64 - 1 = _
    omega

theorem refreshes_iff (key : RipRouteKey) (source : UInt32) (label : Answers × DeamonEvent) :
    refreshes key source label.2 = true ↔ ∃ heard ∈ label.2.heard key,
      heard.1.nextHop = source ∧ heard.1.metric < ripInfinityMetric := by
  have hheard := heardFrom_heard label key source
  have hany : refreshes key source label.2 = (heardFrom source (label.2.heard key)).any
      fun heard => heard.1.metric < ripInfinityMetric := by
    rw [hheard, List.any_map]
    rfl
  simp only [hany, List.any_eq_true, heardFrom, List.mem_filter, beq_iff_eq, decide_eq_true_eq,
    and_assoc]

theorem SinceRefresh.snoc {key : RipRouteKey} {source : UInt32}
    {labels since : List (Answers × DeamonEvent)} {label : Answers × DeamonEvent}
    (h : SinceRefresh key source labels since) (hlabel : refreshes key source label.2 = false) :
    SinceRefresh key source (labels ++ [label]) (since ++ [label]) := by
  obtain ⟨before, last, rfl, hlast, hsince⟩ := h
  refine ⟨before, last, by simp, hlast, ?_⟩
  intro later hmem
  rcases List.mem_append.mp hmem with hmem | hmem
  · exact hsince later hmem
  · obtain rfl := List.mem_singleton.mp hmem
    exact hlabel

theorem ticks_snoc (labels : List (Answers × DeamonEvent)) (label : Answers × DeamonEvent) :
    ticks (labels ++ [label]) = ticks labels + if isTimeoutTick label.2 then 1 else 0 := by
  rw [ticks, List.countP_append, List.countP_singleton]
  rfl

theorem Counted.snoc {key : RipRouteKey} {increment : UInt64}
    {labels : List (Answers × DeamonEvent)} {label : Answers × DeamonEvent} {s : Slot}
    (h : Counted key increment labels s) (htick : isTimeoutTick label.2 = false)
    (hlabel : ∀ route, s.active = some route →
      refreshes key route.ripEntry.nextHop label.2 = false) :
    Counted key increment (labels ++ [label]) s := by
  intro route hactive
  obtain ⟨hlocal, hlearned⟩ := h route hactive
  refine ⟨hlocal, fun hremote => ?_⟩
  obtain ⟨since, hsince, hcnt⟩ := hlearned hremote
  refine ⟨since ++ [label], hsince.snoc (hlabel route hactive), ?_⟩
  rw [hcnt, ticks_snoc, htick]
  rfl

theorem Counted.hears {key : RipRouteKey} {increment : UInt64}
    {labels : List (Answers × DeamonEvent)} {label : Answers × DeamonEvent} {s t : Slot}
    (h : Counted key increment labels s) (htick : isTimeoutTick label.2 = false)
    (hhears : Hears s (label.2.heard key) t) : Counted key increment (labels ++ [label]) t := by
  obtain ⟨nextHop, hhops⟩ := nextHop_of_heard label.2 key
  rcases hears_cases hhops hhears with ⟨hignored, rfl⟩ | ⟨hvia, hfresh, hfinite⟩
  · refine h.snoc htick fun route hactive => ?_
    rw [← Bool.not_eq_true, refreshes_iff]
    rintro ⟨heard, hmem, hhop, -⟩
    have hnil := hignored.eq_nil hactive fun other hother => by
      rw [hhops other hother, ← hhops heard hmem, hhop]
    simp [hnil] at hmem
  · intro route hactive
    have hcnt := hfresh route hactive
    refine ⟨fun _ => hcnt, fun _ => ⟨[], ⟨labels, label, rfl, ?_, by simp⟩, ?_⟩⟩
    · obtain ⟨heard, hmem, hmetric⟩ := hfinite (Option.isSome_of_mem hactive)
      rw [refreshes_iff]
      exact ⟨heard, hmem, (hhops heard hmem).trans (hvia route hactive).symm, hmetric⟩
    · rw [hcnt]
      simp [ticks]

theorem Counted.counted {key : RipRouteKey} {increment : UInt64}
    {labels : List (Answers × DeamonEvent)} {label : Answers × DeamonEvent} {s : Slot}
    (h : Counted key increment labels s) (htick : isTimeoutTick label.2 = true) :
    Counted key increment (labels ++ [label]) (s.count increment) := by
  intro route hactive
  obtain ⟨old, hold, rfl⟩ := Option.map_eq_some_iff.mp hactive
  obtain ⟨hlocal, hlearned⟩ := h old hold
  rw [RipDbEntry.countTimeout]
  split_ifs with hisLocal
  · exact ⟨hlocal, fun hremote => absurd hisLocal (by simp [hremote])⟩
  · refine ⟨fun hlocal' => absurd hlocal' hisLocal, fun hremote => ?_⟩
    obtain ⟨since, hsince, hcnt⟩ := hlearned hremote
    refine ⟨since ++ [label], hsince.snoc ?_, ?_⟩
    · cases hevent : label.2 with
      | routeTimeoutTick timer => rfl
      | _ => simp [hevent, isTimeoutTick] at htick
    · rw [saturatingAdd64_toNat, hcnt, ticks_snoc, htick, if_pos rfl, Nat.mul_succ]
      omega

theorem Counted.quiet {answers : Answers} {event : DeamonEvent} {key : RipRouteKey}
    {increment : UInt64} {labels : List (Answers × DeamonEvent)} {s s' : Slot}
    {action : SlotAction} (hreceived : ∀ packet, event ≠ .received packet)
    (htick : ∀ timer, event ≠ .routeTimeoutTick timer)
    (hcaused : CausedBy answers event key action) (h : Counted key increment labels s)
    (hstep : SlotStep s action s') : Counted key increment labels s' := by
  cases hstep with
  | heard | refused =>
      obtain ⟨-, packet, -, hevent, -⟩ := hcaused
      exact absurd hevent (hreceived packet)
  | counted | expired =>
      obtain ⟨⟨timer, hevent⟩, -⟩ := hcaused
      exact absurd hevent (htick timer)
  | collected => exact h
  | added garbage route =>
      obtain ⟨network, localRoute, -, -, rfl, -⟩ := hcaused
      intro route hactive
      obtain rfl := Option.some.inj hactive
      exact ⟨fun _ => rfl, fun hremote => absurd hremote (by simp [localRouteEntry])⟩
  | unflagged =>
      intro route hactive
      obtain ⟨old, hold, rfl⟩ := Option.map_eq_some_iff.mp hactive
      exact h old hold

variable {Driver : Type} [RoutingTableDriver Driver]

theorem step_counted_of_quiet {deamon deamon' : RipDeamon Driver} {answers : Answers}
    {event : DeamonEvent} {key : RipRouteKey} {increment : UInt64}
    {labels : List (Answers × DeamonEvent)} (hkeys : KeysMatch deamon.database)
    (hreceived : ∀ packet, event ≠ .received packet)
    (htick : ∀ timer, event ≠ .routeTimeoutTick timer)
    (h : Counted key increment labels (slot deamon.database key))
    (hstep : Step deamon (answers, event) deamon') :
    Counted key increment (labels ++ [(answers, event)]) (slot deamon'.database key) := by
  obtain ⟨actions, hactions, hcaused, -⟩ := outcome_simulated hstep hkeys key
  have hsnoc : Counted key increment (labels ++ [(answers, event)]) (slot deamon.database key) := by
    apply h.snoc
    · cases event with
      | routeTimeoutTick timer => exact absurd rfl (htick timer)
      | _ => rfl
    · intro route _
      cases event with
      | received packet => exact absurd rfl (hreceived packet)
      | _ => rfl
  exact hactions.keeps (fun _ _ _ hcaused hs hstep => hs.quiet hreceived htick hcaused hstep)
    hcaused hsnoc

theorem step_counted {deamon deamon' : RipDeamon Driver} {label : Answers × DeamonEvent}
    {key : RipRouteKey} {labels : List (Answers × DeamonEvent)}
    (hkeys : KeysMatch deamon.database)
    (h : Counted key (timeoutCheckIntervalSecs label.1) labels (slot deamon.database key))
    (hstep : Step deamon label deamon') :
    Counted key (timeoutCheckIntervalSecs label.1) (labels ++ [label])
      (slot deamon'.database key) := by
  obtain ⟨answers, event⟩ := label
  cases event with
  | received packet => exact h.hears rfl ((step_received hkeys hstep).1 key)
  | routeTimeoutTick timer =>
      rcases step_checked hkeys hstep key with ⟨_, -, -, -, now, hmoved⟩ | ⟨-, hcounted⟩
      · rw [hmoved]
        intro route hactive
        simp at hactive
      · rw [hcounted]
        exact h.counted rfl
  | _ => exact step_counted_of_quiet hkeys (by simp) (by simp) h hstep

theorem run_counted {deamon deamon' : RipDeamon Driver} {labels : List (Answers × DeamonEvent)}
    {increment : UInt64} (hinitial : Initial deamon) (hrun : Run Step deamon labels deamon')
    (hincrement : ∀ label ∈ labels, timeoutCheckIntervalSecs label.1 = increment)
    (key : RipRouteKey) : Counted key increment labels (slot deamon'.database key) := by
  induction hrun with
  | nil =>
      rw [hinitial.1]
      intro route hactive
      simp at hactive
  | @snoc labels deamon₁ deamon₂ label hrest hstep ih =>
      have hkeys := keysMatch_of_wellFormed (run_wellFormed hinitial (run_attempted hrest))
      obtain rfl := hincrement label (by simp)
      exact step_counted hkeys (ih fun other hmem => hincrement other (by simp [hmem])) hstep

/-- What a timeout check does to a route that is active before it: a local route
stays as it is; a learned route moves to garbage exactly if its new count reaches
the limit, and else has this count. -/
theorem Checked.route {increment limit : UInt64} {s s' : Slot} {route : RipDbEntry}
    (h : Checked increment limit s s') (hactive : s.active = some route) :
    (route.isLocal = true → s' = s) ∧
    (route.isLocal = false → limit ≤ saturatingAdd64 route.timeoutCnt increment →
      s'.active = none ∧
        ∃ now, s'.garbage = some ((route.countTimeout increment).toGarbage now)) ∧
    (route.isLocal = false → saturatingAdd64 route.timeoutCnt increment < limit →
      s'.active = some { route with timeoutCnt := saturatingAdd64 route.timeoutCnt increment } ∧
        s'.garbage = s.garbage) := by
  have hcounted : (s.count increment).active = some (route.countTimeout increment) := by
    rw [Slot.count, hactive, Option.map_some]
  have htimedOut : (route.countTimeout increment).timedOut limit = true ↔
      route.isLocal = false ∧ limit ≤ saturatingAdd64 route.timeoutCnt increment := by
    rw [RipDbEntry.countTimeout]
    cases hlocal : route.isLocal <;> simp [RipDbEntry.timedOut, hlocal]
  rcases h with ⟨other, hother, hexpired, -, now, rfl⟩ | ⟨hkept, rfl⟩
  · obtain rfl := Option.some.inj (hcounted.symm.trans hother)
    obtain ⟨hremote, hlimit⟩ := htimedOut.mp hexpired
    refine ⟨fun hlocal => absurd hlocal (by simp [hremote]), fun _ _ => ⟨rfl, now, rfl⟩, ?_⟩
    intro _ hlt
    exact absurd hlimit (UInt64.not_le.mpr hlt)
  · have hnot := hkept _ hcounted
    rw [← Bool.not_eq_true, htimedOut] at hnot
    refine ⟨fun hlocal => ?_, fun hremote hlimit => absurd ⟨hremote, hlimit⟩ hnot, ?_⟩
    · rw [Slot.count, hactive, Option.map_some, RipDbEntry.countTimeout, if_pos hlocal, ← hactive]
    · intro hremote _
      refine ⟨?_, rfl⟩
      rw [hcounted, RipDbEntry.countTimeout, if_neg (by simp [hremote])]

theorem Checked.remaining {increment limit : UInt64} {s s' : Slot}
    (h : Checked increment limit s s') {route : RipDbEntry} (hactive : s'.active = some route)
    (hremote : route.isLocal = false) : route.timeoutCnt < limit := by
  rcases h with ⟨_, -, -, -, now, rfl⟩ | ⟨hkept, rfl⟩
  · simp at hactive
  · have hnot := hkept route hactive
    simpa [RipDbEntry.timedOut, hremote] using hnot

/-- Under fixed settings every learned route counts the ticks since its next hop was
last heard with a finite metric, and no local route counts. At the next tick exactly
the learned routes whose count reaches the limit move to garbage. -/
theorem run_timeoutCnt {deamon₀ deamon : RipDeamon Driver}
    {labels : List (Answers × DeamonEvent)} {increment limit : UInt64}
    (hinitial : Initial deamon₀) (hrun : Run Step deamon₀ labels deamon)
    (hfixed : ∀ label ∈ labels, timeoutCheckIntervalSecs label.1 = increment ∧
      routeTimeoutSecs label.1 = limit) :
    (∀ key route, deamon.database.okRoutes.lookup key = some route →
      (route.isLocal = true → route.timeoutCnt = 0) ∧
      (route.isLocal = false → ∃ since, SinceRefresh key route.ripEntry.nextHop labels since ∧
        route.timeoutCnt.toNat = min (2 ^ 64 - 1) (increment.toNat * ticks since))) ∧
    ∀ answers timer deamon', timeoutCheckIntervalSecs answers = increment →
      routeTimeoutSecs answers = limit →
      Step deamon (answers, .routeTimeoutTick timer) deamon' →
      (∀ key route, deamon.database.okRoutes.lookup key = some route →
        (route.isLocal = true → slot deamon'.database key = slot deamon.database key) ∧
        (route.isLocal = false → limit ≤ saturatingAdd64 route.timeoutCnt increment →
          deamon'.database.okRoutes.lookup key = none ∧
          ∃ now, deamon'.database.garbageRoutes.lookup key =
            some ((route.countTimeout increment).toGarbage now)) ∧
        (route.isLocal = false → saturatingAdd64 route.timeoutCnt increment < limit →
          deamon'.database.okRoutes.lookup key =
            some { route with timeoutCnt := saturatingAdd64 route.timeoutCnt increment } ∧
          deamon'.database.garbageRoutes.lookup key =
            deamon.database.garbageRoutes.lookup key)) ∧
      (∀ key, deamon.database.okRoutes.lookup key = none →
        slot deamon'.database key = slot deamon.database key) ∧
      ∀ key route, deamon'.database.okRoutes.lookup key = some route → route.isLocal = false →
        route.timeoutCnt < limit := by
  refine ⟨run_counted hinitial hrun fun label hmem => (hfixed label hmem).1, ?_⟩
  rintro answers timer deamon' rfl rfl hstep
  have hkeys := keysMatch_of_wellFormed (run_wellFormed hinitial (run_attempted hrun))
  have hchecked := step_checked hkeys hstep
  refine ⟨fun key route hactive => (hchecked key).route hactive, fun key hfree => ?_,
    fun key route hactive hremote => (hchecked key).remaining hactive hremote⟩
  have hcount : (slot deamon.database key).count (timeoutCheckIntervalSecs answers) =
      slot deamon.database key := by
    rw [Slot.count, slot_active, hfree, Option.map_none, ← hfree]
    rfl
  rcases hchecked key with ⟨route, hactive, -⟩ | ⟨-, hsame⟩
  · rw [hcount, slot_active, hfree] at hactive
    cases hactive
  · rw [hsame, hcount]

/-- A timeout check under the default settings. -/
def timeoutCheckEvent : Answers × DeamonEvent := (steady, .routeTimeoutTick none)

theorem learningEvents_timeoutCnt :
    ∃ deamon' route, Run Step learningDeamon (learningEvents ++ [timeoutCheckEvent]) deamon' ∧
      deamon'.database.okRoutes.lookup farNetwork = some route ∧ route.timeoutCnt = 15 ∧
      ∃ since, SinceRefresh farNetwork route.ripEntry.nextHop
        (learningEvents ++ [timeoutCheckEvent]) since ∧
        route.timeoutCnt.toNat = min (2 ^ 64 - 1) ((15 : UInt64).toNat * ticks since) := by
  have hany : (runEvents learningDeamon (learningEvents ++ [timeoutCheckEvent])).any (fun deamon =>
      (deamon.database.okRoutes.lookup farNetwork).any fun route =>
        !route.isLocal && route.timeoutCnt == 15) = true := by decide +kernel
  obtain ⟨deamon', hrun, hend⟩ := exists_run hany
  obtain ⟨route, hactive, hroute⟩ := (Option.any_eq_true _ _).mp hend
  simp only [Bool.and_eq_true, Bool.not_eq_true', beq_iff_eq] at hroute
  have hfixed : ∀ label ∈ learningEvents ++ [timeoutCheckEvent],
      timeoutCheckIntervalSecs label.1 = 15 ∧ routeTimeoutSecs label.1 = 180 := by
    simp [learningEvents, timeoutCheckEvent, timeoutCheckIntervalSecs, routeTimeoutSecs,
      Answers.envU64OrDefault, steady, Answers.steady, ripTimeoutCheckIntervalSecs,
      ripRouteTimeoutSecs]
  have hcounted := (run_timeoutCnt ⟨rfl, rfl⟩ hrun hfixed).1 farNetwork route hactive
  exact ⟨deamon', route, hrun, hactive, hroute.2, hcounted.2 hroute.1⟩

end RipV2.TimeoutCounters
