import Mathlib.Data.Stream.Init
import RipV2.KernelRoutes

/-!
The life of a destination's routes along runs of events that succeed: an active
route ends only in garbage, and a garbage route ends by being collected after
its lifetime or by its destination being learned again.
-/

namespace RipV2.RouteLifecycle

open RipV2.Database
open RipV2.Deamon
open RipV2.Deamon.RipDeamon
open RipV2.DeamonRuns
open RipV2.DeamonSimulation
open RipV2.DestinationSlots
open RipV2.EffectLogic
open RipV2.HashMapModel
open RipV2.HostEnvironment
open RipV2.KernelRoutes
open RipV2.LocalRoutes
open RipV2.Packets
open RipV2.ReachableRoutes
open RipV2.ResponseEntries
open RipV2.RoutingTables
open RipV2.TransitionRuns

/-- A destination, with the moment at which its garbage route moved there. -/
structure Tracked where
  slot : Slot
  movedAt : Option Instant

/-- The entry of the packet is valid and for `key`; `entry` is its route entry. -/
structure Announced (packet : RipPacket) (key : RipRouteKey) (raw entry : RipEntry) : Prop where
  valid : responseEntryToRoute raw packet = some entry
  key : buildRouteKey entry = key

/-- What one entry of an accepted response does to a destination. Each entry reads the
clock at most once. -/
inductive EntryMove (answers : Answers) (packet : RipPacket) (key : RipRouteKey) :
    Tracked → RipEntry → Tracked → Prop
  | ignored (x : Tracked) (raw : RipEntry) : EntryMove answers packet key x raw x
  | refreshed {route : RipDbEntry} {garbage : Option RipDbEntry} {movedAt : Option Instant}
      {raw entry : RipEntry} (announced : Announced packet key raw entry)
      (same : route.ripEntry = entry) :
      EntryMove answers packet key ⟨⟨some route, garbage⟩, movedAt⟩ raw
        ⟨⟨some route.refreshed, garbage⟩, movedAt⟩
  | replaced {route : RipDbEntry} {garbage : Option RipDbEntry} {movedAt : Option Instant}
      {raw entry : RipEntry} (announced : Announced packet key raw entry)
      (metric : entry.metric < ripInfinityMetric)
      (preferred : packet.source.ip = route.ripEntry.nextHop ∨
        entry.metric < route.ripEntry.metric) :
      EntryMove answers packet key ⟨⟨some route, garbage⟩, movedAt⟩ raw
        ⟨⟨some (learnedRoute entry packet.ifInfo), garbage⟩, movedAt⟩
  | withdrawn {route : RipDbEntry} {movedAt : Option Instant} {raw entry : RipEntry} (n : ℕ)
      (read : n < packet.data.entries.length) (announced : Announced packet key raw entry)
      (metric : entry.metric = ripInfinityMetric)
      (source : packet.source.ip = route.ripEntry.nextHop) :
      EntryMove answers packet key ⟨⟨some route, none⟩, movedAt⟩ raw
        ⟨⟨none, some (route.toGarbage (answers.instants n))⟩, some (answers.instants n)⟩
  | learned {garbage : Option RipDbEntry} {movedAt : Option Instant} {raw entry : RipEntry}
      (announced : Announced packet key raw entry) (metric : entry.metric < ripInfinityMetric) :
      EntryMove answers packet key ⟨⟨none, garbage⟩, movedAt⟩ raw
        ⟨⟨some (learnedRoute entry packet.ifInfo), none⟩, none⟩

/-- What one event does to a destination when so many routes are active. A timeout check
reads the clock at most once for each of them, a collection once. -/
inductive LifeMove (label : Answers × DeamonEvent) (routes : ℕ) (key : RipRouteKey) :
    Tracked → Tracked → Prop
  | idle (x : Tracked) : LifeMove label routes key x x
  | heard {x y : Tracked} {packet : RipPacket} (event : label.2 = .received packet)
      (accept : accepted packet = true)
      (entries : Run (EntryMove label.1 packet key) x packet.data.entries y) :
      LifeMove label routes key x y
  | added {garbage : Option RipDbEntry} {movedAt : Option Instant} {network : AdvertisedNetwork}
      {localRoute : LocalRoute} (event : AddsNetwork network label.2)
      (valid : advertisedNetworkToLocalRoute label.1 network = .ok localRoute)
      (same : buildRouteKey localRoute.entry = key) :
      LifeMove label routes key ⟨⟨none, garbage⟩, movedAt⟩
        ⟨⟨some (localRouteEntry localRoute), garbage⟩, movedAt⟩
  | counted (s : Slot) (movedAt : Option Instant) (timer : Timer)
      (event : label.2 = .routeTimeoutTick timer) :
      LifeMove label routes key ⟨s, movedAt⟩
        ⟨s.count (timeoutCheckIntervalSecs label.1), movedAt⟩
  | timedOut {route : RipDbEntry} {movedAt : Option Instant} (timer : Timer) (n : ℕ)
      (event : label.2 = .routeTimeoutTick timer) (read : n < routes)
      (expired : (route.countTimeout (timeoutCheckIntervalSecs label.1)).timedOut
        (routeTimeoutSecs label.1) = true) :
      LifeMove label routes key ⟨⟨some route, none⟩, movedAt⟩
        ⟨⟨none, some ((route.countTimeout (timeoutCheckIntervalSecs label.1)).toGarbage
          (label.1.instants n))⟩, some (label.1.instants n)⟩
  | collected {active : Option RipDbEntry} {route : RipDbEntry} {movedAt : Instant} (timer : Timer)
      (event : label.2 = .garbageCollectionTick timer)
      (lifetime : durationFromSecs (garbageCollectionLifetimeSecs label.1) ≤
        label.1.instants 0 - movedAt) :
      LifeMove label routes key ⟨⟨active, some route⟩, some movedAt⟩ ⟨⟨active, none⟩, none⟩
  | unflagged (s : Slot) (movedAt : Option Instant) (changedOnly : Bool)
      (event : label.2 = .advertise changedOnly) :
      LifeMove label routes key ⟨s, movedAt⟩ ⟨s.unflag, movedAt⟩

/-- The time that the garbage route carries is the moment at which it moved. -/
def StartedAt (x : Tracked) : Prop :=
  ∀ route, x.slot.garbage = some route → route.garbageStartedAt = x.movedAt

/-- The event learns a route to the destination. -/
def Learns (label : Answers × DeamonEvent) (key : RipRouteKey) : Prop :=
  ∃ packet raw entry, label.2 = .received packet ∧ accepted packet = true ∧
    raw ∈ packet.data.entries ∧ Announced packet key raw entry ∧ entry.metric < ripInfinityMetric

/-- The event collects garbage, and the lifetime is over for what moved there then. -/
def Outlived (label : Answers × DeamonEvent) (movedAt : Option Instant) : Prop :=
  ∃ timer moment, label.2 = .garbageCollectionTick timer ∧ movedAt = some moment ∧
    durationFromSecs (garbageCollectionLifetimeSecs label.1) ≤ label.1.instants 0 - moment

section Moves

variable {label : Answers × DeamonEvent} {routes : ℕ} {key : RipRouteKey} {x y : Tracked}
  {packet : RipPacket}

theorem startedAt_entry {answers : Answers} {raw : RipEntry}
    (h : EntryMove answers packet key x raw y) (hx : StartedAt x) : StartedAt y := by
  cases h with
  | ignored | refreshed | replaced => exact hx
  | withdrawn =>
      rintro route hroute
      obtain rfl := Option.some.inj hroute
      rfl
  | learned =>
      intro route hroute
      simp at hroute

theorem LifeMove.startedAt (h : LifeMove label routes key x y) (hx : StartedAt x) :
    StartedAt y := by
  cases h with
  | idle | added | counted => exact hx
  | heard event accept entries =>
      exact entries.keeps (P := fun _ => True) (fun _ _ _ _ h hmove => startedAt_entry hmove h)
        (by simp) hx
  | timedOut =>
      rintro route hroute
      obtain rfl := Option.some.inj hroute
      rfl
  | collected =>
      intro route hroute
      simp at hroute
  | unflagged s movedAt changedOnly event =>
      intro route hroute
      obtain ⟨old, hold, rfl⟩ := Option.map_eq_some_iff.mp hroute
      exact hx old hold

/-- Not active, but in garbage with an infinite metric. -/
def Buried (x : Tracked) : Prop :=
  ∃ route, x.slot.garbage = some route ∧ route.ripEntry.metric = ripInfinityMetric

theorem LifeMove.buried (h : LifeMove label routes key x y) (hx : x.slot.active ≠ none)
    (hy : y.slot.active = none) : Buried y := by
  cases h with
  | idle => exact absurd hy hx
  | heard event accept entries =>
      have hkept := entries.keeps (I := fun x => x.slot.active ≠ none ∨ Buried x)
        (P := fun _ => True) (fun x raw y _ h hmove => ?_) (by simp) (.inl hx)
      · exact hkept.resolve_left fun hactive => hactive hy
      · cases hmove with
        | ignored => exact h
        | refreshed | replaced | learned => exact .inl (by simp)
        | withdrawn => exact .inr ⟨_, rfl, rfl⟩
  | added => simp at hy
  | counted => exact absurd (Option.map_eq_none_iff.mp hy) hx
  | timedOut => exact ⟨_, rfl, rfl⟩
  | collected => exact absurd hy hx
  | unflagged => exact absurd (Option.map_eq_none_iff.mp hy) hx

theorem LifeMove.left (h : LifeMove label routes key x y) (hx : x.slot.garbage ≠ none)
    (hy : y.slot.garbage = none) : Outlived label x.movedAt ∨ Learns label key := by
  cases h with
  | idle | added | counted => exact absurd hy hx
  | @heard _ _ packet event accept entries =>
      have hkept := entries.keeps (I := fun x => x.slot.garbage ≠ none ∨ Learns label key)
        (P := (· ∈ packet.data.entries)) (fun x raw y hraw h hmove => ?_) (fun _ h => h) (.inl hx)
      · exact .inr (hkept.resolve_left fun hgarbage => hgarbage hy)
      · cases hmove with
        | ignored => exact h
        | refreshed | replaced => exact h
        | withdrawn => exact .inl (by simp)
        | learned announced metric =>
            exact .inr ⟨packet, raw, _, event, accept, hraw, announced, metric⟩
  | timedOut => simp at hx
  | collected timer event lifetime => exact .inl ⟨timer, _, event, rfl, lifetime⟩
  | unflagged => exact absurd (Option.map_eq_none_iff.mp hy) hx

theorem LifeMove.movedAt (h : LifeMove label routes key x y) (hx : x.slot.garbage ≠ none)
    (hy : y.slot.garbage ≠ none) (hlearns : ¬Learns label key) : y.movedAt = x.movedAt := by
  cases h with
  | idle | added | counted | unflagged => rfl
  | @heard _ _ packet event accept entries =>
      refine (entries.keeps (I := fun y => y.slot.garbage ≠ none ∧ y.movedAt = x.movedAt)
        (P := (· ∈ packet.data.entries)) (fun y raw z hraw h hmove => ?_) (fun _ h => h)
        ⟨hx, rfl⟩).2
      cases hmove with
      | ignored | refreshed | replaced => exact h
      | withdrawn => exact absurd rfl h.1
      | learned announced metric =>
          exact absurd ⟨packet, raw, _, event, accept, hraw, announced, metric⟩ hlearns
  | timedOut => simp at hx
  | collected => simp at hy

end Moves

theorem hear_now {s : Slot} {entry : RipEntry} {ifInfo : RipIfInfo}
    (h : ∀ old, verdict s.active entry ifInfo ≠ .poison old) (now now' : Instant) :
    s.hear now entry ifInfo = s.hear now' entry ifInfo := by
  rw [Slot.hear, Slot.hear]
  cases hverdict : verdict s.active entry ifInfo with
  | poison old => exact absurd hverdict (h old)
  | ignore | refresh | learn | update | switch => rfl

/-- An entry that is handled reads the clock only to move a route to garbage. -/
theorem hear_life {answers : Answers} {packet : RipPacket} {key : RipRouteKey} {s : Slot}
    {raw entry : RipEntry} (hannounced : Announced packet key raw entry)
    (hconflict : s.conflict entry packet.ifInfo = false) {n : ℕ}
    (hread : n < packet.data.entries.length) (movedAt : Option Instant) :
    ∃ movedAt', EntryMove answers packet key ⟨s, movedAt⟩ raw
      ⟨s.hear (answers.instants n) entry packet.ifInfo, movedAt'⟩ := by
  have hhop : ∀ old : RipDbEntry, routeIsFromCurrentNextHop old entry = true →
      packet.source.ip = old.ripEntry.nextHop := by
    intro old hhop
    rw [beq_iff_eq.mp hhop, (responseEntryToRoute_eq hannounced.valid).2]
  rw [Slot.conflict] at hconflict
  rw [Slot.hear]
  cases hverdict : verdict s.active entry packet.ifInfo with
  | ignore => exact ⟨movedAt, .ignored _ _⟩
  | refresh old =>
      obtain ⟨hactive, -, hsame, -⟩ := verdict_refresh hverdict
      obtain ⟨active, garbage⟩ := s
      obtain rfl : active = some old := hactive
      exact ⟨movedAt, .refreshed hannounced hsame⟩
  | learn =>
      obtain ⟨hactive, hmetric⟩ := verdict_learn hverdict
      obtain ⟨active, garbage⟩ := s
      obtain rfl : active = none := hactive
      exact ⟨none, .learned hannounced hmetric⟩
  | update old =>
      obtain ⟨hactive, hmetric, hfrom⟩ := verdict_update hverdict
      obtain ⟨active, garbage⟩ := s
      obtain rfl : active = some old := hactive
      exact ⟨movedAt, .replaced hannounced hmetric (.inl (hhop old hfrom))⟩
  | switch old =>
      obtain ⟨hactive, hmetric, hbetter, -⟩ := verdict_switch hverdict
      obtain ⟨active, garbage⟩ := s
      obtain rfl : active = some old := hactive
      exact ⟨movedAt, .replaced hannounced hmetric (.inr hbetter)⟩
  | poison old =>
      rw [hverdict] at hconflict
      obtain ⟨hactive, hmetric, hfrom⟩ := verdict_poison hverdict
      obtain ⟨active, garbage⟩ := s
      obtain rfl : active = some old := hactive
      obtain rfl : garbage = none := by simpa using hconflict
      obtain ⟨-, -, hnext⟩ := responseEntryToRoute_metric hannounced.valid
      refine ⟨some (answers.instants n), .withdrawn n hread hannounced ?_ (hhop old hfrom)⟩
      apply UInt32.toNat_inj.mp
      rw [UInt32.le_iff_toNat_le] at hmetric
      change 16 ≤ entry.metric.toNat at hmetric
      change entry.metric.toNat = 16
      omega

section

variable {Driver : Type} [RoutingTableDriver Driver]

/-- The clock has been read at most so many times. -/
def ReadsOf (answers : Answers) (bound : ℕ) (deamon : RipDeamon Driver) : Prop :=
  ∃ n ≤ bound, deamon.host.answers.instants = answers.instants.drop n

theorem deleteRoute_ok {route : RipDbEntry} {deamon deamon' : RipDeamon Driver}
    (h : (deleteRoute route).run deamon = .ok () deamon') :
    deamon'.database = deamon.database ∧ deamon'.host = deamon.host := by
  have hmoved := evolves_onRoutingTable (RoutingTable.deleteRoute route) deamon
  rw [show (onRoutingTable (RoutingTable.deleteRoute route)).run deamon = _ from h] at hmoved
  exact hmoved.2

theorem addRoute_ok {route : RipDbEntry} {deamon deamon' : RipDeamon Driver}
    (h : (addRoute route).run deamon = .ok () deamon') :
    deamon'.database = deamon.database ∧ deamon'.host = deamon.host := by
  have hmoved := evolves_onRoutingTable (RoutingTable.addRoute route) deamon
  rw [show (onRoutingTable (RoutingTable.addRoute route)).run deamon = _ from h] at hmoved
  exact hmoved.2

theorem expireRoute_ok {deamon deamon' : RipDeamon Driver} {oldRoute route : RipDbEntry}
    (hactive : deamon.database.okRoutes.lookup (buildRouteKey oldRoute.ripEntry) = some route)
    (h : (expireRoute oldRoute).run deamon = .ok () deamon') :
    deamon'.database = toGarbage (buildRouteKey oldRoute.ripEntry) route
        deamon.host.answers.instants.head deamon.database ∧
      deamon.database.garbageRoutes.lookup (buildRouteKey oldRoute.ripEntry) = none ∧
      deamon'.host.answers.instants = deamon.host.answers.instants.tail := by
  obtain ⟨a, deamon₁, hdelete, hrest⟩ := run_bind_ok h
  obtain ⟨hdatabase, hhost⟩ := deleteRoute_ok hdelete
  rw [← hdatabase] at hactive ⊢
  rw [← hhost]
  have hmove := moveRouteToGarbage_run deamon₁.host.answers.instants.head hactive
  simp only [onHost, onDatabase, EStateM.run_bind, run_zoom, run_instantNow] at hrest
  cases hmoved : (RipDatabase.moveRouteToGarbage oldRoute.ripEntry
      deamon₁.host.answers.instants.head).run deamon₁.database with
  | error e database => simp [hmoved] at hrest
  | ok moved database =>
      rw [hmoved] at hrest hmove
      obtain ⟨rfl, hfree⟩ := hmove
      obtain ⟨-, rfl⟩ := EStateM.Result.ok.inj hrest
      exact ⟨rfl, by simpa using hfree.symm, rfl⟩

theorem swap_ok {deamon deamon' : RipDeamon Driver} {oldRoute : RipDbEntry} {entry : RipEntry}
    {ifInfo : RipIfInfo} (h : (swap oldRoute entry ifInfo).run deamon = .ok () deamon') :
    deamon'.host = deamon.host := by
  obtain ⟨a, deamon₁, hdelete, hrest⟩ := run_bind_ok h
  obtain ⟨b, deamon₂, hreplace, hadd⟩ := run_bind_ok hrest
  obtain ⟨-, rfl⟩ := EStateM.Result.ok.inj hreplace
  exact (addRoute_ok hadd).2.trans (deleteRoute_ok hdelete).2

theorem updateRouteFromResponse_ok {deamon deamon' : RipDeamon Driver} {entry : RipEntry}
    {ifInfo : RipIfInfo} (hkeys : KeysMatch deamon.database)
    (h : (updateRouteFromResponse entry ifInfo).run deamon = .ok () deamon') :
    (slot deamon.database (buildRouteKey entry)).conflict entry ifInfo = false ∧
      (∀ key, slot deamon'.database key =
        if key = buildRouteKey entry then
          (slot deamon.database key).hear deamon.host.answers.instants.head entry ifInfo
        else slot deamon.database key) ∧
      ReadsOf deamon.host.answers 1 deamon' := by
  have hspec := updateRouteFromResponse_spec entry ifInfo hkeys
  rw [h] at hspec
  rcases hspec with ⟨⟨now, hheard⟩, hconflict, -⟩ | ⟨-, hfails, -⟩
  · refine ⟨hconflict rfl, ?_⟩
    rw [finalState_ok] at hheard
    have hsame : (∀ old, verdict (deamon.database.getRoute entry) entry ifInfo ≠ .poison old) →
        ∀ key, slot deamon'.database key = if key = buildRouteKey entry then
          (slot deamon.database key).hear deamon.host.answers.instants.head entry ifInfo
        else slot deamon.database key := by
      intro hpoison key
      rw [hheard key]
      split_ifs with hkey
      · subst hkey
        exact hear_now hpoison _ _
      · rfl
    cases hverdict : verdict (deamon.database.getRoute entry) entry ifInfo with
    | ignore =>
        rw [updateRouteFromResponse_ignore hverdict] at h
        obtain ⟨-, rfl⟩ := EStateM.Result.ok.inj h
        exact ⟨hsame (by simp [hverdict]), 0, Nat.zero_le _, rfl⟩
    | refresh old =>
        rw [updateRouteFromResponse_refresh hverdict] at h
        obtain ⟨-, rfl⟩ := EStateM.Result.ok.inj h
        exact ⟨hsame (by simp [hverdict]), 0, Nat.zero_le _, rfl⟩
    | learn =>
        rw [updateRouteFromResponse_learn hverdict] at h
        exact ⟨hsame (by simp [hverdict]), 0, Nat.zero_le _, by rw [(addRoute_ok h).2]; rfl⟩
    | update old =>
        rw [updateRouteFromResponse_update hkeys hverdict] at h
        exact ⟨hsame (by simp [hverdict]), 0, Nat.zero_le _, by rw [swap_ok h]; rfl⟩
    | switch old =>
        rw [updateRouteFromResponse_switch hkeys hverdict] at h
        exact ⟨hsame (by simp [hverdict]), 0, Nat.zero_le _, by rw [swap_ok h]; rfl⟩
    | poison old =>
        rw [updateRouteFromResponse_poison hverdict] at h
        have hroute := (verdict_poison hverdict).1
        have hkey := hkeys _ _ hroute
        obtain ⟨hdatabase, -, hinstants⟩ := expireRoute_ok (hkeys.lookup_eq hroute) h
        refine ⟨fun key => ?_, 1, Nat.le_refl _, hinstants⟩
        rw [hdatabase, hkey, slot_toGarbage]
        split_ifs with hown
        · subst hown
          simp only [Slot.hear]
          rw [show (slot deamon.database (buildRouteKey entry)).active =
            deamon.database.getRoute entry from rfl, hverdict]
        · rfl
  · exact absurd hfails (by simp)

/-- Every destination goes on with its life. -/
def Lives (label : Answers × DeamonEvent) (routes : ℕ) (database database' : RipDatabase) :
    Prop :=
  ∀ key movedAt, StartedAt ⟨slot database key, movedAt⟩ → ∃ movedAt',
    LifeMove label routes key ⟨slot database key, movedAt⟩ ⟨slot database' key, movedAt'⟩

omit [RoutingTableDriver Driver] in
theorem Lives.refl (label : Answers × DeamonEvent) (routes : ℕ) (database : RipDatabase) :
    Lives label routes database database :=
  fun _ movedAt _ => ⟨movedAt, .idle _⟩

theorem handleResponseEntry_lives {answers : Answers} {packet : RipPacket} {raw : RipEntry}
    {deamon deamon' : RipDeamon Driver} {done : ℕ} (hdone : done < packet.data.entries.length)
    (hkeys : KeysMatch deamon.database) (hreads : ReadsOf answers done deamon)
    (h : (handleResponseEntry packet raw).run deamon = .ok () deamon') :
    (∀ key movedAt, ∃ movedAt', EntryMove answers packet key ⟨slot deamon.database key, movedAt⟩
        raw ⟨slot deamon'.database key, movedAt'⟩) ∧
      ReadsOf answers (done + 1) deamon' := by
  obtain ⟨n, hn, hinstants⟩ := hreads
  cases hentry : responseEntryToRoute raw packet with
  | none =>
      rw [handleResponseEntry_of_none hentry] at h
      obtain ⟨-, rfl⟩ := EStateM.Result.ok.inj h
      exact ⟨fun key movedAt => ⟨movedAt, .ignored _ _⟩, n, by omega, hinstants⟩
  | some entry =>
      rw [handleResponseEntry_of_some hentry] at h
      obtain ⟨hconflict, hslot, m, hm, hinstants'⟩ := updateRouteFromResponse_ok hkeys h
      refine ⟨fun key movedAt => ?_, n + m, by omega, ?_⟩
      · rw [hslot key]
        split_ifs with hkey
        · subst hkey
          rw [hinstants, Stream'.head_drop]
          exact hear_life ⟨hentry, rfl⟩ hconflict (by omega) movedAt
        · exact ⟨movedAt, .ignored _ _⟩
      · rw [hinstants', hinstants, Stream'.drop_drop]

theorem handleResponseEntries_lives {answers : Answers} {packet : RipPacket}
    (haccepted : accepted packet = true) {entries : List RipEntry}
    (hentries : ∀ raw ∈ entries, raw ∈ packet.data.entries) {done : ℕ}
    (hdone : done + entries.length ≤ packet.data.entries.length)
    {deamon deamon' : RipDeamon Driver} (hkeys : KeysMatch deamon.database)
    (hreads : ReadsOf answers done deamon)
    (h : (entries.forM (handleResponseEntry packet)).run deamon = .ok () deamon')
    (key : RipRouteKey) (movedAt : Option Instant) :
    ∃ movedAt', Run (EntryMove answers packet key) ⟨slot deamon.database key, movedAt⟩ entries
      ⟨slot deamon'.database key, movedAt'⟩ := by
  -- each of the entries was handled, after at most so many readings of the clock
  induction entries generalizing deamon done movedAt with
  | nil =>
      obtain ⟨-, rfl⟩ := EStateM.Result.ok.inj h
      exact ⟨movedAt, .nil⟩
  | cons raw entries ih =>
      have hsimulated := handleResponseEntry_simulated answers haccepted
        (hentries raw (by simp)) hkeys
      rw [List.length_cons] at hdone
      rw [List.forM_eq_forM, List.forM_cons] at h
      obtain ⟨a, deamon₁, hfirst, hrest⟩ := run_bind_ok h
      rw [hfirst] at hsimulated
      obtain ⟨hmoves, hreads₁⟩ := handleResponseEntry_lives (by omega) hkeys hreads hfirst
      obtain ⟨movedAt₁, hmove⟩ := hmoves key movedAt
      obtain ⟨movedAt₂, hlater⟩ := ih (fun raw' hmem => hentries raw' (by simp [hmem]))
        (by omega) (hsimulated.keysMatch hkeys) hreads₁ hrest movedAt₁
      exact ⟨movedAt₂, (Run.single hmove).append hlater⟩

theorem expireRoutes_slot {answers : Answers} {routes : List RipDbEntry} {done : ℕ}
    {deamon deamon' : RipDeamon Driver} (hlisted : Listed deamon.database routes)
    (hreads : ReadsOf answers done deamon)
    (h : (routes.forM expireRoute).run deamon = .ok () deamon') (key : RipRouteKey) :
    slot deamon'.database key = slot deamon.database key ∨
      ∃ route ∈ routes, ∃ n < done + routes.length, slot deamon.database key = ⟨some route, none⟩ ∧
        slot deamon'.database key = ⟨none, some (route.toGarbage (answers.instants n))⟩ := by
  induction routes generalizing deamon done with
  | nil =>
      obtain ⟨-, rfl⟩ := EStateM.Result.ok.inj h
      exact .inl rfl
  | cons route routes ih =>
      have hactive := hlisted.2 route (by simp)
      rw [List.forM_eq_forM, List.forM_cons] at h
      obtain ⟨a, deamon₁, hfirst, hrest⟩ := run_bind_ok h
      obtain ⟨hdatabase, hfree, hinstants⟩ := expireRoute_ok hactive hfirst
      obtain ⟨n, hn, hdrop⟩ := hreads
      have hreads₁ : ReadsOf answers (done + 1) deamon₁ :=
        ⟨n + 1, by omega, by rw [hinstants, hdrop, Stream'.tail_drop']⟩
      have hslot : slot deamon₁.database key = if key = buildRouteKey route.ripEntry then
          ⟨none, some (route.toGarbage (answers.instants n))⟩ else slot deamon.database key := by
        rw [hdatabase, slot_toGarbage, slot_garbage, hfree, hdrop, Stream'.head_drop]
        rfl
      rw [List.length_cons]
      rcases ih (hdatabase ▸ hlisted.tail _) hreads₁ hrest with
        hsame | ⟨other, hmem, m, hm, hbefore, hafter⟩
      · rw [hsame, hslot]
        split_ifs with hkey
        · subst hkey
          refine .inr ⟨route, by simp, n, by omega, ?_, rfl⟩
          rw [slot, hactive, hfree]
        · exact .inl rfl
      · by_cases hkey : key = buildRouteKey route.ripEntry
        · rw [hbefore, if_pos hkey] at hslot
          simp at hslot
        · rw [if_neg hkey] at hslot
          exact .inr ⟨other, by simp [hmem], m, by omega, hslot ▸ hbefore, hafter⟩

theorem handleRouteTimeoutTick_lives (timer : Timer) {deamon deamon' : RipDeamon Driver}
    {timer' : Timer} (hkeys : KeysMatch deamon.database)
    (h : (handleRouteTimeoutTick timer).run deamon = .ok timer' deamon') :
    Lives (deamon.host.answers, .routeTimeoutTick timer)
      deamon.database.okRoutes.values.length deamon.database deamon'.database := by
  have hlisted : Listed (timeoutCheck deamon).2 (timeoutCheck deamon).1 :=
    listed_timedOutRoutes ((timeoutCheck_simulated timer true deamon).keysMatch hkeys) _
  have hlength : (timeoutCheck deamon).1.length ≤ deamon.database.okRoutes.values.length := by
    refine (List.length_filter_le _ _).trans (le_of_eq ?_)
    simp [HashMap.values, HashMap.mapValues_entries]
  rw [handleRouteTimeoutTick_run] at h
  cases hrun : ((timeoutCheck deamon).1.forM expireRoute).run
      { deamon with database := (timeoutCheck deamon).2 } with
  | error e deamon₁ =>
      rw [hrun] at h
      exact absurd h (by simp)
  | ok a deamon₁ =>
      rw [hrun] at h
      obtain ⟨-, rfl⟩ := EStateM.Result.ok.inj h
      intro key movedAt _
      have hcounted : slot (timeoutCheck deamon).2 key = (slot deamon.database key).count
          (timeoutCheckIntervalSecs deamon.host.answers) := by
        rw [timeoutCheck, slot_collectTimedOutRoutes]
      rcases expireRoutes_slot hlisted ⟨0, Nat.le_refl _, rfl⟩ hrun key with
        hsame | ⟨route, hmem, n, hn, hbefore, hafter⟩
      · change ∃ movedAt', LifeMove _ _ key _ ⟨slot deamon₁.database key, movedAt'⟩
        rw [hsame, hcounted]
        exact ⟨movedAt, .counted _ _ timer rfl⟩
      · change ∃ movedAt', LifeMove _ _ key _ ⟨slot deamon₁.database key, movedAt'⟩
        change slot (timeoutCheck deamon).2 key = _ at hbefore
        rw [hcounted, Slot.count] at hbefore
        obtain ⟨hactive, hgarbage⟩ := Slot.mk.inj hbefore
        obtain ⟨old, hold, rfl⟩ := Option.map_eq_some_iff.mp hactive
        have hslot : slot deamon.database key = ⟨some old, none⟩ := by
          rw [← hold, ← hgarbage]
        rw [hafter, hslot]
        exact ⟨_, .timedOut timer n rfl (by omega) (List.mem_filter.mp hmem).2⟩

omit [RoutingTableDriver Driver] in
theorem garbageCollection_lives (timer : Timer) (routes : ℕ) (deamon : RipDeamon Driver) :
    Lives (deamon.host.answers, .garbageCollectionTick timer) routes deamon.database
      (garbageCollection deamon) := by
  intro key movedAt hstarted
  rw [garbageCollection, slot_removeExpiredGarbageRoutes]
  split_ifs with hexpired
  · obtain ⟨route, hgarbage, hold⟩ := mem_expiredKeys_iff.mp hexpired
    have hmoved : route.garbageStartedAt = movedAt := hstarted route hgarbage
    rw [RipDbEntry.expired, hmoved] at hold
    cases movedAt with
    | none => simp at hold
    | some startedAt =>
        have hslot : slot deamon.database key =
            ⟨deamon.database.okRoutes.lookup key, some route⟩ := by
          rw [slot, hgarbage]
        rw [hslot]
        exact ⟨none, .collected timer rfl (of_decide_eq_true hold)⟩
  · exact ⟨movedAt, .idle _⟩

omit [RoutingTableDriver Driver] in
theorem markAllRoutesAsUnchanged_lives (answers : Answers) (changedOnly : Bool) (routes : ℕ)
    (database : RipDatabase) :
    Lives (answers, .advertise changedOnly) routes database database.markAllRoutesAsUnchanged := by
  intro key movedAt _
  rw [slot_markAllRoutesAsUnchanged]
  split_ifs
  · exact ⟨movedAt, .unflagged _ _ changedOnly rfl⟩
  · exact ⟨movedAt, .idle _⟩

theorem handle_addsNetwork_lives {event : DeamonEvent} {network : AdvertisedNetwork}
    (hadds : AddsNetwork network event) (routes : ℕ) (deamon : RipDeamon Driver) :
    Lives (deamon.host.answers, event) routes deamon.database
      (finalState (event.handle.run deamon)).database := by
  rcases handle_addsNetwork_cases hadds deamon with
    ⟨hsame, -⟩ | ⟨localRoute, hvalid, hfree, hadopted⟩
  · rw [hsame]
    exact .refl _ _ _
  · rw [hadopted]
    intro key movedAt _
    rw [slot_adopt]
    split_ifs with hkey
    · subst hkey
      rw [slot, hfree]
      exact ⟨movedAt, .added hadds hvalid rfl⟩
    · exact ⟨movedAt, .idle _⟩

theorem handle_lives {event : DeamonEvent} {deamon deamon' : RipDeamon Driver}
    (hkeys : KeysMatch deamon.database) (h : event.handle.run deamon = .ok () deamon') :
    Lives (deamon.host.answers, event) deamon.database.okRoutes.values.length deamon.database
      deamon'.database := by
  have hfinal : finalState (event.handle.run deamon) = deamon' := by rw [h, finalState_ok]
  cases event with
  | addLocalRoute network =>
      rw [← hfinal]
      exact handle_addsNetwork_lives (.inl rfl) _ deamon
  | httpRequest kind =>
      cases kind with
      | getRoutes =>
          obtain ⟨-, rfl⟩ := EStateM.Result.ok.inj h
          exact .refl _ _ _
      | addLocalRoute network =>
          rw [← hfinal]
          exact handle_addsNetwork_lives (.inr rfl) _ deamon
  | received packet =>
      cases haccepted : accepted packet with
      | true =>
          rw [DeamonEvent.handle, handlePacket_run_of_accepted haccepted] at h
          intro key movedAt _
          obtain ⟨movedAt', hentries⟩ := handleResponseEntries_lives haccepted (fun _ hraw => hraw)
            (by rw [Nat.zero_add]) hkeys ⟨0, Nat.le_refl _, rfl⟩ h key movedAt
          exact ⟨movedAt', .heard rfl haccepted hentries⟩
      | false =>
          have hdatabase := (handlePacket_hostOnly haccepted deamon).database
          change (finalState ((DeamonEvent.received packet).handle.run deamon)).database = _
            at hdatabase
          rw [← hfinal, hdatabase]
          exact .refl _ _ _
  | routeTimeoutTick timer =>
      obtain ⟨timer', deamon₁, hrun, hpure⟩ := run_bind_ok h
      obtain ⟨-, rfl⟩ := EStateM.Result.ok.inj hpure
      exact handleRouteTimeoutTick_lives timer hkeys hrun
  | garbageCollectionTick timer =>
      rw [← hfinal, DeamonEvent.handle, finalState_discard, handleGarbageCollectionTick_run,
        finalState_ok]
      exact garbageCollection_lives timer _ deamon
  | advertise changedOnly =>
      obtain ⟨host, rfl, -⟩ := sendMulticastAdvertisement_ok h
      exact markAllRoutesAsUnchanged_lives _ changedOnly _ deamon.database
  | sendRequests =>
      have hdatabase := (sendMulticastRequest_hostOnly deamon).database
      change (finalState (DeamonEvent.sendRequests.handle.run deamon)).database = _ at hdatabase
      rw [← hfinal, hdatabase]
      exact .refl _ _ _

/-- A step of the daemon, and what it does to the destination and its moment. -/
structure LifeStep (key : RipRouteKey) (x : RipDeamon Driver × Option Instant)
    (label : Answers × DeamonEvent) (y : RipDeamon Driver × Option Instant) : Prop where
  step : Step x.1 label y.1
  move : LifeMove label x.1.database.okRoutes.values.length key ⟨slot x.1.database key, x.2⟩
    ⟨slot y.1.database key, y.2⟩

theorem step_lives {deamon deamon' : RipDeamon Driver} {label : Answers × DeamonEvent}
    (hkeys : KeysMatch deamon.database) (hstep : Step deamon label deamon') :
    Lives label deamon.database.okRoutes.values.length deamon.database deamon'.database := by
  obtain ⟨deamon₀, ⟨database, hreordered, rfl⟩, hrun⟩ := hstep
  have hlives := handle_lives (hkeys.reordered hreordered) hrun
  have hlength := hreordered.okRoutes.perm_values.length_eq
  intro key movedAt hstarted
  have hslot := slot_reordered hreordered key
  rw [hlength]
  rw [← hslot] at hstarted ⊢
  exact hlives key movedAt hstarted

theorem run_tracked {deamon deamon' : RipDeamon Driver} {labels : List (Answers × DeamonEvent)}
    (hinitial : Initial deamon) (hrun : Run Step deamon labels deamon') (key : RipRouteKey) :
    ∃ movedAt, Run (LifeStep key) (deamon, none) labels (deamon', movedAt) ∧
      StartedAt ⟨slot deamon'.database key, movedAt⟩ := by
  induction hrun with
  | nil =>
      refine ⟨none, .nil, fun route hroute => ?_⟩
      rw [hinitial.1] at hroute
      simp at hroute
  | snoc hrest hstep ih =>
      obtain ⟨movedAt, hlife, hstarted⟩ := ih
      have hkeys := keysMatch_of_wellFormed (run_wellFormed hinitial (run_attempted hrest))
      obtain ⟨movedAt', hmove⟩ := step_lives hkeys hstep key movedAt hstarted
      exact ⟨movedAt', .snoc hlife ⟨hstep, hmove⟩, hmove.startedAt hstarted⟩

/-- Along every run of handled events a destination lives the life of a route, and its
garbage route carries the moment at which it moved there. So does it at the next event: an
active route does not end but in garbage with an infinite metric; garbage is not left but
after its lifetime, or because a route is learned; and otherwise it keeps its moment. -/
theorem run_lifecycle {deamon deamon' : RipDeamon Driver} {labels : List (Answers × DeamonEvent)}
    (hinitial : Initial deamon) (hrun : Run Step deamon labels deamon') (key : RipRouteKey) :
    ∃ movedAt, Run (LifeStep key) (deamon, none) labels (deamon', movedAt) ∧
      (∀ route, deamon'.database.garbageRoutes.lookup key = some route →
        route.garbageStartedAt = movedAt) ∧
      ∀ label deamon'', Step deamon' label deamon'' → ∃ movedAt',
        LifeStep key (deamon', movedAt) label (deamon'', movedAt') ∧
        (∀ route, deamon''.database.garbageRoutes.lookup key = some route →
          route.garbageStartedAt = movedAt') ∧
        (deamon'.database.okRoutes.lookup key ≠ none →
          deamon''.database.okRoutes.lookup key = none →
          ∃ route, deamon''.database.garbageRoutes.lookup key = some route ∧
            route.ripEntry.metric = ripInfinityMetric) ∧
        (deamon'.database.garbageRoutes.lookup key ≠ none →
          deamon''.database.garbageRoutes.lookup key = none →
          Outlived label movedAt ∨ Learns label key) ∧
        (deamon'.database.garbageRoutes.lookup key ≠ none →
          deamon''.database.garbageRoutes.lookup key ≠ none → ¬Learns label key →
          movedAt' = movedAt) := by
  obtain ⟨movedAt, hlife, hstarted⟩ := run_tracked hinitial hrun key
  have hkeys := keysMatch_of_wellFormed (run_wellFormed hinitial (run_attempted hrun))
  refine ⟨movedAt, hlife, hstarted, fun label deamon'' hstep => ?_⟩
  obtain ⟨movedAt', hmove⟩ := step_lives hkeys hstep key movedAt hstarted
  exact ⟨movedAt', ⟨hstep, hmove⟩, hmove.startedAt hstarted, hmove.buried, hmove.left,
    hmove.movedAt⟩

end

/-- A collection two minutes later. -/
def collection : Answers × DeamonEvent :=
  (.steady 120000000000 ["eth0", "eth1"], .garbageCollectionTick none)

theorem collection_lifecycle :
    ∃ (deamon' deamon'' : RipDeamon Kernel) (movedAt movedAt' : Option Instant),
      Run Step learningDeamon [announcement, withdrawal] deamon' ∧
      deamon'.database.garbageRoutes.lookup farNetwork ≠ none ∧
      deamon''.database.garbageRoutes.lookup farNetwork = none ∧
      LifeStep farNetwork (deamon', movedAt) collection (deamon'', movedAt') ∧
      (Outlived collection movedAt ∨ Learns collection farNetwork) := by
  have hany : (runEvents learningDeamon [announcement, withdrawal]).any (fun deamon =>
      (deamon.database.garbageRoutes.lookup farNetwork).isSome &&
        (runEvents deamon [collection]).any fun deamon' =>
          (deamon'.database.garbageRoutes.lookup farNetwork).isNone) = true := by decide +kernel
  obtain ⟨deamon', hrun, hend⟩ := exists_run hany
  rw [Bool.and_eq_true, Option.any_eq_true] at hend
  obtain ⟨hgarbage, deamon'', hevents, hcollected⟩ := hend
  have hburied := Option.isSome_iff_ne_none.mp hgarbage
  have hleft := Option.isNone_iff_eq_none.mp hcollected
  obtain ⟨movedAt, -, -, hnext⟩ := run_lifecycle ⟨rfl, rfl⟩ hrun farNetwork
  obtain ⟨movedAt', hlife, -, -, hleaves, -⟩ := hnext collection deamon'' (runEvents_single hevents)
  exact ⟨deamon', deamon'', movedAt, movedAt', hrun, hburied, hleft, hlife, hleaves hburied hleft⟩

end RipV2.RouteLifecycle
