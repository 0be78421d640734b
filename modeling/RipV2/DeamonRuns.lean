import RipV2.DestinationSlots
import RipV2.TransitionRuns

/-!
Runs of the daemon over any order of events, and the small automaton that each
destination goes through meanwhile. Between two events the hash maps may change
their iteration order and the operating system may change its answers.
-/

namespace RipV2.DeamonRuns

open RipV2.AdminInterface
open RipV2.Database
open RipV2.Deamon
open RipV2.Deamon.RipDeamon
open RipV2.DestinationSlots
open RipV2.HostEnvironment
open RipV2.LocalRoutes
open RipV2.Packets
open RipV2.Results
open RipV2.RoutingTables
open RipV2.TransitionRuns

/-- What a daemon handles. A timer that a handler is given and returns is part of its event. -/
inductive DeamonEvent where
  | addLocalRoute (network : AdvertisedNetwork)
  | httpRequest (kind : HttpRequestKind)
  | received (packet : RipPacket)
  | routeTimeoutTick (garbageCollectionTimer : Timer)
  | garbageCollectionTick (garbageCollectionTimer : Timer)
  | advertise (changedOnly : Bool)
  | sendRequests
deriving DecidableEq

variable {Driver : Type} [RoutingTableDriver Driver]

/-- Each event has its handler; what it returns to the loop is dropped here. -/
def DeamonEvent.handle : DeamonEvent → DeamonM Driver Unit
  | .addLocalRoute network => setupAdvertisedNetwork network
  | .httpRequest kind => do let _ ← handleHttpRequest kind
  | .received packet => handlePacket packet
  | .routeTimeoutTick timer => do let _ ← handleRouteTimeoutTick timer
  | .garbageCollectionTick timer => do let _ ← handleGarbageCollectionTick timer
  | .advertise changedOnly => sendMulticastAdvertisement changedOnly
  | .sendRequests => sendMulticastRequest

/-- The same daemon on maps iterated in some order, before new answers of the
operating system. -/
def Resumes (answers : Answers) (deamon deamon' : RipDeamon Driver) : Prop :=
  ∃ database, deamon.database.Reordered database ∧
    deamon' = { deamon with database, host := deamon.host.renew answers }

/-- The handler of an event may end in `res`. -/
def Outcome (deamon : RipDeamon Driver) (label : Answers × DeamonEvent)
    (res : EStateM.Result RipError (RipDeamon Driver) Unit) : Prop :=
  ∃ deamon₀, Resumes label.1 deamon deamon₀ ∧ label.2.handle.run deamon₀ = res

/-- An event that is handled to its end. -/
def Step (deamon : RipDeamon Driver) (label : Answers × DeamonEvent)
    (deamon' : RipDeamon Driver) : Prop :=
  Outcome deamon label (.ok () deamon')

/-- A daemon before its first event: it may have interfaces but has no routes. -/
def Initial (deamon : RipDeamon Driver) : Prop :=
  deamon.database = RipDatabase.new ∧ deamon.host.sent = []

/-- What can happen to the routes of one destination. -/
inductive SlotAction where
  | heard (now : Instant) (entry : RipEntry) (ifInfo : RipIfInfo)
  | refused (entry : RipEntry) (ifInfo : RipIfInfo)
  | added (route : RipDbEntry)
  | counted (timeoutIncrementSecs : UInt64)
  | expired (timeoutLimitSecs : UInt64) (now : Instant)
  | collected (now : Instant) (lifetime : Duration)
  | unflagged

/-- What each action makes of them. Where an action needs the destination to be free or occupied,
it says so. -/
inductive SlotStep : Slot → SlotAction → Slot → Prop
  | heard (s : Slot) (now : Instant) (entry : RipEntry) (ifInfo : RipIfInfo) :
      SlotStep s (.heard now entry ifInfo) (s.hear now entry ifInfo)
  | refused (s : Slot) (entry : RipEntry) (ifInfo : RipIfInfo) :
      SlotStep s (.refused entry ifInfo) (s.refuse entry ifInfo)
  | added (garbage : Option RipDbEntry) (route : RipDbEntry) :
      SlotStep ⟨none, garbage⟩ (.added route) ⟨some route, garbage⟩
  | counted (s : Slot) (increment : UInt64) :
      SlotStep s (.counted increment) (s.count increment)
  | expired (route : RipDbEntry) (garbage : Option RipDbEntry) (limit : UInt64) (now : Instant)
      (h : route.timedOut limit = true) :
      SlotStep ⟨some route, garbage⟩ (.expired limit now)
        ⟨none, some (garbage.getD (route.toGarbage now))⟩
  | collected (active : Option RipDbEntry) (route : RipDbEntry) (now : Instant)
      (lifetime : Duration) (h : route.expired now lifetime = true) :
      SlotStep ⟨active, some route⟩ (.collected now lifetime) ⟨active, none⟩
  | unflagged (s : Slot) : SlotStep s .unflagged s.unflag

/-- The entry of an action that hears one. -/
def SlotAction.heard? : SlotAction → Option (RipEntry × RipIfInfo)
  | .heard _ entry ifInfo => some (entry, ifInfo)
  | _ => none

/-- The entry that `addLocalRoute` stores. -/
def localRouteEntry (localRoute : LocalRoute) : RipDbEntry where
  ripEntry := localRoute.entry
  ifIndex := localRoute.ifIndex
  ifName := localRoute.ifName
  changed := true
  isLocal := true
  inRoutingTable := false
  timeoutCnt := 0
  garbageStartedAt := none

/-- A response that the daemon acts on. -/
def accepted (packet : RipPacket) : Bool :=
  packet.isResponse && packet.data.header.version == rip2Version &&
    packet.source.port == ripUdpPort

/-- The route entries of `entries` for one destination, with the interface they
came in on. -/
def routeEntries (packet : RipPacket) (key : RipRouteKey) (entries : List RipEntry) :
    List (RipEntry × RipIfInfo) :=
  ((entries.filterMap fun entry => responseEntryToRoute entry packet).filter
    fun entry => buildRouteKey entry = key).map fun entry => (entry, packet.ifInfo)

theorem mem_routeEntries_iff {packet : RipPacket} {key : RipRouteKey} {entries : List RipEntry}
    {entry : RipEntry} {ifInfo : RipIfInfo} :
    (entry, ifInfo) ∈ routeEntries packet key entries ↔
      ∃ raw ∈ entries, responseEntryToRoute raw packet = some entry ∧
        buildRouteKey entry = key ∧ packet.ifInfo = ifInfo := by
  simp only [routeEntries, List.mem_map, List.mem_filter, List.mem_filterMap, decide_eq_true_eq,
    Prod.mk.injEq]
  constructor
  · rintro ⟨_, ⟨⟨raw, hraw, hentry⟩, hkey⟩, rfl, hifInfo⟩
    exact ⟨raw, hraw, hentry, hkey, hifInfo⟩
  · rintro ⟨raw, hraw, hentry, hkey, hifInfo⟩
    exact ⟨entry, ⟨⟨raw, hraw, hentry⟩, hkey⟩, rfl, hifInfo⟩

/-- The entries for a destination in a response that is accepted. -/
def DeamonEvent.heard (key : RipRouteKey) : DeamonEvent → List (RipEntry × RipIfInfo)
  | .received packet => if accepted packet then routeEntries packet key packet.data.entries else []
  | _ => []

/-- The route entry is derived from a valid entry of an accepted packet. -/
def FromPacket (event : DeamonEvent) (key : RipRouteKey) (entry : RipEntry)
    (ifInfo : RipIfInfo) : Prop :=
  buildRouteKey entry = key ∧ ∃ packet raw, event = .received packet ∧
    accepted packet = true ∧ raw ∈ packet.data.entries ∧
    responseEntryToRoute raw packet = some entry ∧ packet.ifInfo = ifInfo

/-- The two ways to add a local network. -/
def AddsNetwork (network : AdvertisedNetwork) (event : DeamonEvent) : Prop :=
  event = .addLocalRoute network ∨ event = .httpRequest (.addLocalRoute network)

/-- What an event can make happen at a destination. -/
def CausedBy (answers : Answers) (event : DeamonEvent) (key : RipRouteKey) :
    SlotAction → Prop
  | .heard _ entry ifInfo => FromPacket event key entry ifInfo
  | .refused entry ifInfo => FromPacket event key entry ifInfo
  | .added route => ∃ network localRoute, AddsNetwork network event ∧
      advertisedNetworkToLocalRoute answers network = .ok localRoute ∧
      route = localRouteEntry localRoute ∧ buildRouteKey localRoute.entry = key
  | .counted increment =>
      (∃ timer, event = .routeTimeoutTick timer) ∧ increment = timeoutCheckIntervalSecs answers
  | .expired limit _ =>
      (∃ timer, event = .routeTimeoutTick timer) ∧ limit = routeTimeoutSecs answers
  | .collected _ lifetime => (∃ timer, event = .garbageCollectionTick timer) ∧
      lifetime = durationFromSecs (garbageCollectionLifetimeSecs answers)
  | .unflagged => ∃ changedOnly, event = .advertise changedOnly

/-- The same route, up to its `changed` flag and its timeout counter. -/
structure SameRoute (old route : RipDbEntry) : Prop where
  ripEntry : route.ripEntry = old.ripEntry
  ifIndex : route.ifIndex = old.ifIndex
  ifName : route.ifName = old.ifName
  isLocal : route.isLocal = old.isLocal
  inRoutingTable : route.inRoutingTable = old.inRoutingTable
  garbageStartedAt : route.garbageStartedAt = old.garbageStartedAt

theorem SameRoute.refl (route : RipDbEntry) : SameRoute route route :=
  ⟨rfl, rfl, rfl, rfl, rfl, rfl⟩

theorem SameRoute.trans {a b c : RipDbEntry} (h : SameRoute a b) (h' : SameRoute b c) :
    SameRoute a c :=
  ⟨h'.ripEntry.trans h.ripEntry, h'.ifIndex.trans h.ifIndex, h'.ifName.trans h.ifName,
    h'.isLocal.trans h.isLocal, h'.inRoutingTable.trans h.inRoutingTable,
    h'.garbageStartedAt.trans h.garbageStartedAt⟩

theorem sameRoute_refreshed (route : RipDbEntry) : SameRoute route route.refreshed :=
  ⟨rfl, rfl, rfl, rfl, rfl, rfl⟩

theorem sameRoute_unchanged (route : RipDbEntry) : SameRoute route route.unchanged :=
  ⟨rfl, rfl, rfl, rfl, rfl, rfl⟩

theorem sameRoute_countTimeout (increment : UInt64) (route : RipDbEntry) :
    SameRoute route (route.countTimeout increment) := by
  rw [RipDbEntry.countTimeout]
  split_ifs <;> exact ⟨rfl, rfl, rfl, rfl, rfl, rfl⟩

theorem active_hear {now : Instant} {entry : RipEntry} {ifInfo : RipIfInfo} {s : Slot}
    {route : RipDbEntry} (h : (s.hear now entry ifInfo).active = some route) :
    (∃ old, s.active = some old ∧ SameRoute old route) ∨
      (route = learnedRoute entry ifInfo ∧ entry.metric < ripInfinityMetric) := by
  rw [Slot.hear] at h
  cases hverdict : verdict s.active entry ifInfo with
  | ignore =>
      rw [hverdict] at h
      exact .inl ⟨route, h, .refl route⟩
  | refresh old =>
      rw [hverdict] at h
      obtain rfl : old.refreshed = route := by simpa using h
      exact .inl ⟨old, (verdict_refresh hverdict).1, sameRoute_refreshed old⟩
  | learn =>
      rw [hverdict] at h
      exact .inr ⟨by simpa using h.symm, (verdict_learn hverdict).2⟩
  | update old =>
      rw [hverdict] at h
      exact .inr ⟨by simpa using h.symm, (verdict_update hverdict).2.1⟩
  | switch old =>
      rw [hverdict] at h
      exact .inr ⟨by simpa using h.symm, (verdict_switch hverdict).2.1⟩
  | poison old => rw [hverdict] at h; simp at h

theorem active_refuse {entry : RipEntry} {ifInfo : RipIfInfo} {s : Slot} {route : RipDbEntry}
    (h : (s.refuse entry ifInfo).active = some route) :
    ∃ old, s.active = some old ∧ SameRoute old route := by
  rw [Slot.refuse] at h
  split at h
  · rename_i old hverdict
    obtain rfl : old.refreshed = route := by simpa using h
    exact ⟨old, (verdict_update hverdict).1, sameRoute_refreshed old⟩
  · exact ⟨route, h, .refl route⟩

theorem garbage_refuse (entry : RipEntry) (ifInfo : RipIfInfo) (s : Slot) :
    (s.refuse entry ifInfo).garbage = s.garbage := by
  rw [Slot.refuse]
  split <;> rfl

theorem active_origin {s s' : Slot} {action : SlotAction} {route : RipDbEntry}
    (hstep : SlotStep s action s') (h : s'.active = some route) :
    (∃ old, s.active = some old ∧ SameRoute old route) ∨
      (∃ now entry ifInfo, action = .heard now entry ifInfo ∧
        route = learnedRoute entry ifInfo ∧ entry.metric < ripInfinityMetric) ∨
      action = .added route := by
  cases hstep with
  | heard _ now entry ifInfo =>
      rcases active_hear h with hold | ⟨hroute, hmetric⟩
      · exact .inl hold
      · exact .inr (.inl ⟨now, entry, ifInfo, rfl, hroute, hmetric⟩)
  | refused _ entry ifInfo => exact .inl (active_refuse h)
  | added garbage newRoute =>
      obtain rfl : newRoute = route := by simpa using h
      exact .inr (.inr rfl)
  | counted _ increment =>
      obtain ⟨old, hold, rfl⟩ := Option.map_eq_some_iff.mp h
      exact .inl ⟨old, hold, sameRoute_countTimeout increment old⟩
  | expired => simp at h
  | collected active _ _ _ _ => exact .inl ⟨route, h, .refl route⟩
  | unflagged =>
      obtain ⟨old, hold, rfl⟩ := Option.map_eq_some_iff.mp h
      exact .inl ⟨old, hold, sameRoute_unchanged old⟩

theorem garbage_origin {s s' : Slot} {action : SlotAction} {route : RipDbEntry}
    (hstep : SlotStep s action s') (h : s'.garbage = some route) :
    (∃ old, s.garbage = some old ∧ SameRoute old route) ∨
      ∃ old now, s.active = some old ∧ route = old.toGarbage now := by
  cases hstep with
  | heard _ now entry ifInfo =>
      rw [Slot.hear] at h
      cases hverdict : verdict s.active entry ifInfo with
      | ignore => rw [hverdict] at h; exact .inl ⟨route, h, .refl route⟩
      | refresh old => rw [hverdict] at h; exact .inl ⟨route, h, .refl route⟩
      | learn => rw [hverdict] at h; simp at h
      | update old => rw [hverdict] at h; exact .inl ⟨route, h, .refl route⟩
      | switch old => rw [hverdict] at h; exact .inl ⟨route, h, .refl route⟩
      | poison old =>
          rw [hverdict] at h
          cases hgarbage : s.garbage with
          | none =>
              rw [hgarbage] at h
              exact .inr ⟨old, now, (verdict_poison hverdict).1, by simpa using h.symm⟩
          | some kept =>
              rw [hgarbage] at h
              obtain rfl : kept = route := by simpa using h
              exact .inl ⟨kept, rfl, .refl kept⟩
  | refused _ entry ifInfo =>
      rw [garbage_refuse] at h
      exact .inl ⟨route, h, .refl route⟩
  | added garbage newRoute => exact .inl ⟨route, h, .refl route⟩
  | counted _ increment => exact .inl ⟨route, h, .refl route⟩
  | expired old garbage limit now _ =>
      cases garbage with
      | none => exact .inr ⟨old, now, rfl, by simpa using h.symm⟩
      | some kept =>
          obtain rfl : kept = route := by simpa using h
          exact .inl ⟨kept, rfl, .refl kept⟩
  | collected => simp at h
  | unflagged =>
      obtain ⟨old, hold, rfl⟩ := Option.map_eq_some_iff.mp h
      exact .inl ⟨old, hold, sameRoute_unchanged old⟩

/-- The active route of a slot belongs to the slot's key. -/
def Slot.Keyed (key : RipRouteKey) (s : Slot) : Prop :=
  ∀ route, s.active = some route → buildRouteKey route.ripEntry = key

theorem Slot.Keyed.step {answers : Answers} {event : DeamonEvent} {key : RipRouteKey}
    {s s' : Slot} {action : SlotAction} (hcaused : CausedBy answers event key action)
    (hs : Slot.Keyed key s) (hstep : SlotStep s action s') : Slot.Keyed key s' := by
  intro route hroute
  rcases active_origin hstep hroute with ⟨old, hold, hsame⟩ |
    ⟨now, entry, ifInfo, rfl, rfl, -⟩ | rfl
  · rw [hsame.ripEntry]
    exact hs old hold
  · exact hcaused.1
  · obtain ⟨network, localRoute, -, -, rfl, hkey⟩ := hcaused
    exact hkey

/-- Every destination goes through a run of its automaton. When the handler
`succeeded`, the entries it heard are the ones listed. -/
def Simulated (answers : Answers) (event : DeamonEvent) (database database' : RipDatabase)
    (complete : Bool) (entries : RipRouteKey → List (RipEntry × RipIfInfo)) : Prop :=
  ∀ key, ∃ actions, Run SlotStep (slot database key) actions (slot database' key) ∧
    (∀ action ∈ actions, CausedBy answers event key action) ∧
    (complete = true → actions.filterMap SlotAction.heard? = entries key)

theorem Simulated.keysMatch {answers : Answers} {event : DeamonEvent}
    {database database' : RipDatabase} {complete : Bool}
    {entries : RipRouteKey → List (RipEntry × RipIfInfo)}
    (h : Simulated answers event database database' complete entries)
    (hkeys : KeysMatch database) : KeysMatch database' := by
  intro key
  obtain ⟨actions, hrun, hcaused, -⟩ := h key
  exact hrun.keeps (I := Slot.Keyed key) (fun _ _ _ hcaused hs hstep => hs.step hcaused hstep)
    hcaused (hkeys key)

theorem Simulated.refl (answers : Answers) (event : DeamonEvent) (database : RipDatabase)
    (complete : Bool) : Simulated answers event database database complete fun _ => [] :=
  fun _ => ⟨[], .nil, by simp, fun _ => rfl⟩

theorem Simulated.trans {answers : Answers} {event : DeamonEvent} {a b c : RipDatabase}
    {complete : Bool} {entries entries' : RipRouteKey → List (RipEntry × RipIfInfo)}
    (h : Simulated answers event a b true entries)
    (h' : Simulated answers event b c complete entries') :
    Simulated answers event a c complete fun key => entries key ++ entries' key := by
  intro key
  obtain ⟨actions, hrun, hcaused, hheard⟩ := h key
  obtain ⟨actions', hrun', hcaused', hheard'⟩ := h' key
  refine ⟨actions ++ actions', hrun.append hrun', ?_, fun hcomplete => ?_⟩
  · intro action hmem
    rcases List.mem_append.mp hmem with hmem | hmem
    · exact hcaused action hmem
    · exact hcaused' action hmem
  · rw [List.filterMap_append, hheard rfl, hheard' hcomplete]

theorem Simulated.incomplete {answers : Answers} {event : DeamonEvent}
    {database database' : RipDatabase} {complete : Bool}
    {entries entries' : RipRouteKey → List (RipEntry × RipIfInfo)}
    (h : Simulated answers event database database' complete entries) :
    Simulated answers event database database' false entries' := by
  intro key
  obtain ⟨actions, hrun, hcaused, -⟩ := h key
  exact ⟨actions, hrun, hcaused, by simp⟩

theorem simulated_of_step {answers : Answers} {event : DeamonEvent}
    {database database' : RipDatabase} {complete : Bool}
    (h : ∀ key, slot database' key = slot database key ∨
      ∃ action, SlotStep (slot database key) action (slot database' key) ∧
        CausedBy answers event key action ∧ action.heard? = none) :
    Simulated answers event database database' complete fun _ => [] := by
  intro key
  rcases h key with heq | ⟨action, hstep, hcaused, hheard⟩
  · rw [heq]
    exact ⟨[], .nil, by simp, fun _ => rfl⟩
  · exact ⟨[action], .single hstep, by simpa using hcaused, fun _ => by simp [hheard]⟩

end RipV2.DeamonRuns
