import RipV2.KernelRoutes

namespace RipV2.RouteOwners

open RipV2.Database
open RipV2.Deamon
open RipV2.DeamonRuns
open RipV2.DeamonSimulation
open RipV2.DestinationSlots
open RipV2.HostEnvironment
open RipV2.KernelRoutes
open RipV2.Packets
open RipV2.ReachableRoutes
open RipV2.RoutingTables
open RipV2.TransitionRuns

/-- The valid entries for `key` of one event, if it is a response from `source`. -/
def DeamonEvent.processed (key : RipRouteKey) (source : UInt32) :
    DeamonEvent → List (RipPacket × RipEntry)
  | .received packet =>
      if accepted packet && packet.source.ip == source then
        (packet.data.entries.filter fun raw => isEntryValid raw && buildRouteKey raw == key).map
          fun raw => (packet, raw)
      else []
  | _ => []

/-- The most recent valid entry for `key` that came in a response from `source`. -/
def lastProcessed (key : RipRouteKey) (source : UInt32) (labels : List (Answers × DeamonEvent)) :
    Option (RipPacket × RipEntry) :=
  (labels.flatMap fun label => DeamonEvent.processed key source label.2).getLast?

/-- The entries heard from one next hop. -/
def heardFrom (source : UInt32) (heard : List (RipEntry × RipIfInfo)) :
    List (RipEntry × RipIfInfo) :=
  heard.filter fun entry => entry.1.nextHop == source

/-- The active route is learned from the last entry heard from its next hop. -/
def Owned (heard : List (RipEntry × RipIfInfo)) (s : Slot) : Prop :=
  ∀ route, s.active = some route → route.isLocal = false →
    (heardFrom route.ripEntry.nextHop heard).getLast? =
      some (route.ripEntry, { ifName := route.ifName, ifIndex := route.ifIndex })

theorem heardFrom_append_of_eq {source : UInt32} {heard : List (RipEntry × RipIfInfo)}
    {entry : RipEntry} {ifInfo : RipIfInfo} (h : entry.nextHop = source) :
    (heardFrom source (heard ++ [(entry, ifInfo)])).getLast? = some (entry, ifInfo) := by
  simp [heardFrom, List.filter_append, h]

theorem heardFrom_append_of_ne {source : UInt32} {heard : List (RipEntry × RipIfInfo)}
    {entry : RipEntry} {ifInfo : RipIfInfo} (h : entry.nextHop ≠ source) :
    heardFrom source (heard ++ [(entry, ifInfo)]) = heardFrom source heard := by
  simp [heardFrom, List.filter_append, h]

theorem Owned.sameRoute {heard : List (RipEntry × RipIfInfo)} {s s' : Slot}
    (h : Owned heard s) (hsame : ∀ route, s'.active = some route → route.isLocal = false →
      ∃ old, s.active = some old ∧ SameRoute old route) : Owned heard s' := by
  intro route hactive hremote
  obtain ⟨old, hold, hfields⟩ := hsame route hactive hremote
  rw [hfields.ripEntry, hfields.ifIndex, hfields.ifName]
  exact h old hold (hfields.isLocal.symm.trans hremote)

theorem Owned.hear {heard : List (RipEntry × RipIfInfo)} {s : Slot} (h : Owned heard s)
    (now : Instant) (entry : RipEntry) (ifInfo : RipIfInfo) :
    Owned (heard ++ [(entry, ifInfo)]) (s.hear now entry ifInfo) := by
  intro route hactive hremote
  rw [Slot.hear] at hactive
  cases hverdict : verdict s.active entry ifInfo with
  | ignore =>
      rw [hverdict] at hactive
      have hne : entry.nextHop ≠ route.ripEntry.nextHop := by
        rcases verdict_ignore hverdict with ⟨hnone, -⟩ | ⟨old, hold, hhop, -⟩
        · simp [hnone] at hactive
        · obtain rfl : old = route := Option.some.inj (hold.symm.trans hactive)
          exact fun heq => by simp [routeIsFromCurrentNextHop, heq] at hhop
      rw [heardFrom_append_of_ne hne]
      exact h route hactive hremote
  | refresh old =>
      rw [hverdict] at hactive
      obtain rfl : old.refreshed = route := by simpa using hactive
      obtain ⟨-, -, rfl, hindex, hname⟩ := verdict_refresh hverdict
      simp only [RipDbEntry.refreshed, hindex, hname]
      exact heardFrom_append_of_eq rfl
  | learn =>
      rw [hverdict] at hactive
      obtain rfl : learnedRoute entry ifInfo = route := by simpa using hactive
      exact heardFrom_append_of_eq rfl
  | update old =>
      rw [hverdict] at hactive
      obtain rfl : learnedRoute entry ifInfo = route := by simpa using hactive
      exact heardFrom_append_of_eq rfl
  | switch old =>
      rw [hverdict] at hactive
      obtain rfl : learnedRoute entry ifInfo = route := by simpa using hactive
      exact heardFrom_append_of_eq rfl
  | poison old => rw [hverdict] at hactive; simp at hactive

theorem Owned.step {key : RipRouteKey} {heard : List (RipEntry × RipIfInfo)} {s s' : Slot}
    {action : SlotAction} (h : Owned heard s) (hcaused : Caused key action)
    (hstep : SlotStep s action s') : Owned (heard ++ action.heard?.toList) s' := by
  cases hheard : action.heard? with
  | some entry =>
      cases hstep with
      | heard _ now entry' ifInfo =>
          obtain rfl : (entry', ifInfo) = entry := by simpa [SlotAction.heard?] using hheard
          exact h.hear now entry' ifInfo
      | _ => simp [SlotAction.heard?] at hheard
  | none =>
      rw [Option.toList_none, List.append_nil]
      refine h.sameRoute fun route hactive hremote => ?_
      rcases active_origin hstep hactive with hold | ⟨_, _, _, rfl, -, -⟩ | rfl
      · exact hold
      · simp [SlotAction.heard?] at hheard
      · obtain ⟨answers, event, _, _, -, -, rfl, -⟩ := hcaused
        simp [localRouteEntry] at hremote

theorem run_owned {key : RipRouteKey} {s : Slot} {actions : List SlotAction}
    (hrun : Run SlotStep ⟨none, none⟩ actions s)
    (hcaused : ∀ action ∈ actions, Caused key action) :
    Owned (actions.filterMap SlotAction.heard?) s := by
  induction hrun with
  | nil => intro route hactive; simp at hactive
  | @snoc actions t u action _ hstep ih =>
      have hlast := (ih fun action' hmem => hcaused action' (by simp [hmem])).step
        (hcaused action (by simp)) hstep
      rw [List.filterMap_append]
      cases hheard : action.heard? <;> simpa [hheard] using hlast

variable {Driver : Type} [RoutingTableDriver Driver]

/-- Along a run without failures each destination hears the entries of the events. -/
theorem run_heard {deamon deamon' : RipDeamon Driver} {labels : List (Answers × DeamonEvent)}
    (hrun : Run Step deamon labels deamon') (hkeys : KeysMatch deamon.database) :
    KeysMatch deamon'.database ∧ ∀ key, ∃ actions,
      Run SlotStep (slot deamon.database key) actions (slot deamon'.database key) ∧
      (∀ action ∈ actions, Caused key action) ∧
      actions.filterMap SlotAction.heard? = labels.flatMap fun label => label.2.heard key := by
  induction hrun with
  | nil => exact ⟨hkeys, fun key => ⟨[], .nil, by simp, rfl⟩⟩
  | @snoc labels deamon₁ deamon₂ label _ hstep ih =>
      obtain ⟨hkeys₁, hslots⟩ := ih
      have hsimulated := outcome_simulated hstep hkeys₁
      refine ⟨hsimulated.keysMatch hkeys₁, fun key => ?_⟩
      obtain ⟨actions, hactions, hcaused, hheard⟩ := hslots key
      obtain ⟨actions', hactions', hcaused', hheard'⟩ := hsimulated key
      refine ⟨actions ++ actions', hactions.append hactions', fun action hmem => ?_, ?_⟩
      · rcases List.mem_append.mp hmem with hmem | hmem
        · exact hcaused action hmem
        · exact ⟨label.1, label.2, hcaused' action hmem⟩
      · rw [List.filterMap_append, hheard, hheard' rfl, List.flatMap_append]
        simp

/-- The route entry that a processed entry stands for. -/
def derived (processed : RipPacket × RipEntry) : RipEntry × RipIfInfo :=
  ({ processed.2 with
      metric := updateMetric processed.2.metric
      nextHop := processed.1.source.ip }, processed.1.ifInfo)

theorem routeEntries_singleton (packet : RipPacket) (key : RipRouteKey) (raw : RipEntry) :
    routeEntries packet key [raw] =
      if isEntryValid raw && buildRouteKey raw == key then [derived (packet, raw)] else [] := by
  cases hvalid : isEntryValid raw with
  | false =>
      have hnone : responseEntryToRoute raw packet = none := by
        simp [responseEntryToRoute, hvalid]
      rw [routeEntries_of_none hnone]
      rfl
  | true =>
      have hsome : responseEntryToRoute raw packet = some (derived (packet, raw)).1 := by
        simp [responseEntryToRoute, hvalid, derived]
      have hkey : buildRouteKey (derived (packet, raw)).1 = buildRouteKey raw := rfl
      rw [routeEntries_of_some hsome, hkey, Bool.true_and]
      by_cases hraw : buildRouteKey raw = key
      · rw [if_pos hraw.symm, if_pos (beq_iff_eq.mpr hraw)]
        rfl
      · rw [if_neg (Ne.symm hraw), if_neg (by simpa using hraw)]

theorem heardFrom_routeEntries (packet : RipPacket) (key : RipRouteKey) (source : UInt32)
    (entries : List RipEntry) :
    heardFrom source (routeEntries packet key entries) =
      if packet.source.ip = source then
        ((entries.filter fun raw => isEntryValid raw && buildRouteKey raw == key).map
          fun raw => (packet, raw)).map derived
      else [] := by
  induction entries with
  | nil => simp [heardFrom, routeEntries]
  | cons raw entries ih =>
      have hhop : (derived (packet, raw)).1.nextHop = packet.source.ip := rfl
      rw [routeEntries_cons, heardFrom, List.filter_append]
      change heardFrom source _ ++ heardFrom source _ = _
      rw [ih, routeEntries_singleton, List.filter_cons]
      by_cases hsource : packet.source.ip = source
      · rw [if_pos hsource, if_pos hsource]
        split_ifs <;> simp [heardFrom, hhop, hsource]
      · rw [if_neg hsource, if_neg hsource]
        split_ifs <;> simp [heardFrom, hhop, hsource]

theorem heardFrom_heard (label : Answers × DeamonEvent) (key : RipRouteKey) (source : UInt32) :
    heardFrom source (label.2.heard key) =
      (DeamonEvent.processed key source label.2).map derived := by
  cases hevent : label.2 with
  | received packet =>
      simp only [DeamonEvent.heard, DeamonEvent.processed]
      cases haccepted : accepted packet with
      | false => simp [heardFrom]
      | true =>
          simp only [if_true, heardFrom_routeEntries, Bool.true_and, beq_iff_eq]
          split_ifs <;> simp
  | _ => simp [DeamonEvent.heard, DeamonEvent.processed, heardFrom]

theorem getLast_heardFrom (labels : List (Answers × DeamonEvent)) (key : RipRouteKey)
    (source : UInt32) :
    (heardFrom source (labels.flatMap fun label => label.2.heard key)).getLast? =
      (lastProcessed key source labels).map derived := by
  have hlist : heardFrom source (labels.flatMap fun label => label.2.heard key) =
      (labels.flatMap fun label => DeamonEvent.processed key source label.2).map derived := by
    induction labels with
    | nil => rfl
    | cons label labels ih =>
        rw [List.flatMap_cons, heardFrom, List.filter_append, List.flatMap_cons, List.map_append,
          ← heardFrom_heard, ← ih]
        rfl
  rw [hlist, List.getLast?_map, lastProcessed]

theorem responseEntryToRoute_of_lastProcessed {key : RipRouteKey} {source : UInt32}
    {labels : List (Answers × DeamonEvent)} {processed : RipPacket × RipEntry}
    (h : lastProcessed key source labels = some processed) :
    responseEntryToRoute processed.2 processed.1 = some (derived processed).1 := by
  obtain ⟨label, -, hmem⟩ := List.mem_flatMap.mp (List.mem_of_getLast? h)
  cases hevent : label.2 with
  | received packet =>
      rw [hevent, DeamonEvent.processed] at hmem
      split_ifs at hmem
      · obtain ⟨raw, hraw, rfl⟩ := List.mem_map.mp hmem
        have hvalid : isEntryValid raw = true := by
          have hboth := (List.mem_filter.mp hraw).2
          rw [Bool.and_eq_true] at hboth
          exact hboth.1
        simp [responseEntryToRoute, hvalid, derived]
      · simp at hmem
  | _ => simp [hevent, DeamonEvent.processed] at hmem

theorem run_lastProcessed {deamon deamon' : RipDeamon Driver}
    {labels : List (Answers × DeamonEvent)} {key : RipRouteKey} {route : RipDbEntry}
    (hinitial : Initial deamon) (hrun : Run Step deamon labels deamon')
    (hactive : deamon'.database.okRoutes.lookup key = some route)
    (hremote : route.isLocal = false) :
    (lastProcessed key route.ripEntry.nextHop labels).map derived =
      some (route.ripEntry, { ifName := route.ifName, ifIndex := route.ifIndex }) := by
  obtain ⟨-, hslots⟩ := run_heard hrun (hinitial.1 ▸ keysMatch_new)
  obtain ⟨actions, hactions, hcaused, hheard⟩ := hslots key
  rw [hinitial.1, slot_new] at hactions
  have howned := run_owned hactions hcaused route hactive hremote
  rwa [hheard, getLast_heardFrom] at howned

/-- Every active learned route is derived from the most recent valid entry for
its destination in a response from its next hop; where that entry has come to
the infinite metric, there is no such route. -/
theorem run_route_owned {deamon deamon' : RipDeamon Driver}
    {labels : List (Answers × DeamonEvent)} (hinitial : Initial deamon)
    (hrun : Run Step deamon labels deamon') (key : RipRouteKey) :
    (∀ route, deamon'.database.okRoutes.lookup key = some route → route.isLocal = false →
      ∃ packet raw, lastProcessed key route.ripEntry.nextHop labels = some (packet, raw) ∧
        responseEntryToRoute raw packet = some route.ripEntry ∧
        route.ifIndex = packet.ifInfo.ifIndex ∧ route.ifName = packet.ifInfo.ifName) ∧
      ∀ source packet raw entry, lastProcessed key source labels = some (packet, raw) →
        responseEntryToRoute raw packet = some entry → entry.metric = ripInfinityMetric →
        ∀ route, deamon'.database.okRoutes.lookup key = some route → route.isLocal = false →
          route.ripEntry.nextHop ≠ source := by
  have hpart : ∀ route, deamon'.database.okRoutes.lookup key = some route →
      route.isLocal = false → ∃ packet raw,
        lastProcessed key route.ripEntry.nextHop labels = some (packet, raw) ∧
        responseEntryToRoute raw packet = some route.ripEntry ∧
        route.ifIndex = packet.ifInfo.ifIndex ∧ route.ifName = packet.ifInfo.ifName := by
    intro route hactive hremote
    obtain ⟨⟨packet, raw⟩, hlast, hderived⟩ :=
      Option.map_eq_some_iff.mp (run_lastProcessed hinitial hrun hactive hremote)
    have hentry := responseEntryToRoute_of_lastProcessed hlast
    rw [hderived] at hentry
    have hinfo : packet.ifInfo = { ifName := route.ifName, ifIndex := route.ifIndex } :=
      congrArg Prod.snd hderived
    exact ⟨packet, raw, hlast, hentry, by rw [hinfo], by rw [hinfo]⟩
  refine ⟨hpart, ?_⟩
  rintro source packet raw entry hlast hentry hmetric route hactive hremote rfl
  obtain ⟨packet', raw', hlast', hentry', -⟩ := hpart route hactive hremote
  obtain ⟨rfl, rfl⟩ : packet = packet' ∧ raw = raw' := by
    simpa using Option.some.inj (hlast.symm.trans hlast')
  obtain rfl : entry = route.ripEntry := Option.some.inj (hentry.symm.trans hentry')
  have hwell := run_wellFormed hinitial (run_attempted hrun) key
  have hfinite := ((hwell.active route hactive).learned hremote).2.1
  rw [hmetric] at hfinite
  exact absurd hfinite (by decide)

theorem learningEvents_route_owned :
    ∃ deamon' route packet raw, Run Step learningDeamon learningEvents deamon' ∧
      deamon'.database.okRoutes.lookup farNetwork = some route ∧
      lastProcessed farNetwork route.ripEntry.nextHop learningEvents = some (packet, raw) ∧
      responseEntryToRoute raw packet = some route.ripEntry := by
  have hany : (runEvents learningDeamon learningEvents).any (fun deamon =>
      (deamon.database.okRoutes.lookup farNetwork).any fun route => !route.isLocal) = true := by
    decide +kernel
  obtain ⟨deamon', hrun, hend⟩ := exists_run hany
  obtain ⟨route, hactive, hremote⟩ := (Option.any_eq_true _ _).mp hend
  obtain ⟨packet, raw, hlast, hentry, -⟩ :=
    (run_route_owned ⟨rfl, rfl⟩ hrun farNetwork).1 route hactive (by simpa using hremote)
  exact ⟨deamon', route, packet, raw, hrun, hactive, hlast, hentry⟩

end RipV2.RouteOwners
