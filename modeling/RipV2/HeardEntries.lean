import RipV2.ReachableRoutes

namespace RipV2.HeardEntries

open RipV2.Database
open RipV2.Deamon
open RipV2.Deamon.RipDeamon
open RipV2.DeamonRuns
open RipV2.DeamonSimulation
open RipV2.DestinationSlots
open RipV2.EffectLogic
open RipV2.HostEnvironment
open RipV2.Packets
open RipV2.ReachableRoutes
open RipV2.ResponseEntries
open RipV2.RoutingTables

/-- A destination hears entries, each at some time. -/
inductive Hears : Slot → List (RipEntry × RipIfInfo) → Slot → Prop
  | nil (s : Slot) : Hears s [] s
  | cons {s s' : Slot} {entry : RipEntry} {ifInfo : RipIfInfo}
      {entries : List (RipEntry × RipIfInfo)} (now : Instant)
      (h : Hears (s.hear now entry ifInfo) entries s') : Hears s ((entry, ifInfo) :: entries) s'

theorem Hears.append {s t u : Slot} {entries entries' : List (RipEntry × RipIfInfo)}
    (h : Hears s entries t) (h' : Hears t entries' u) : Hears s (entries ++ entries') u := by
  induction h with
  | nil => exact h'
  | cons now _ ih => exact .cons now (ih h')

theorem Hears.of_nil {s t : Slot} (h : Hears s [] t) : t = s := by
  cases h
  rfl

theorem Hears.split {s t : Slot} {entries entries' : List (RipEntry × RipIfInfo)}
    (h : Hears s (entries ++ entries') t) : ∃ r, Hears s entries r ∧ Hears r entries' t := by
  induction entries generalizing s with
  | nil => exact ⟨s, .nil s, h⟩
  | cons heard entries ih =>
      cases h with
      | cons now hrest =>
          obtain ⟨r, hbefore, hafter⟩ := ih hrest
          exact ⟨r, .cons now hbefore, hafter⟩

/-- When its turn comes, one of the entries finds its destination in a state that
satisfies `p`. -/
def meets (p : RipEntry → RipIfInfo → Slot → Bool) :
    List (RipEntry × RipIfInfo) → Slot → Bool
  | [], _ => false
  | (entry, ifInfo) :: entries, s =>
      p entry ifInfo s || meets p entries (s.hear 0 entry ifInfo)

/-- The same up to the time at which a route moved to garbage. -/
structure Similar (s s' : Slot) : Prop where
  active : s.active = s'.active
  garbage : s.garbage.isSome = s'.garbage.isSome

theorem Similar.refl (s : Slot) : Similar s s := ⟨rfl, rfl⟩

theorem Similar.hear {s s' : Slot} (h : Similar s s') (now now' : Instant) (entry : RipEntry)
    (ifInfo : RipIfInfo) : Similar (s.hear now entry ifInfo) (s'.hear now' entry ifInfo) := by
  obtain ⟨hactive, hgarbage⟩ := h
  rw [Slot.hear, Slot.hear, hactive]
  cases verdict s'.active entry ifInfo with
  | ignore => exact ⟨hactive, hgarbage⟩
  | refresh oldRoute => exact ⟨rfl, hgarbage⟩
  | learn => exact ⟨rfl, rfl⟩
  | update oldRoute => exact ⟨rfl, hgarbage⟩
  | switch oldRoute => exact ⟨rfl, hgarbage⟩
  | poison oldRoute => exact ⟨rfl, rfl⟩

section Meets

variable {p : RipEntry → RipIfInfo → Slot → Bool}
  (hp : ∀ entry ifInfo s s', Similar s s' → p entry ifInfo s = p entry ifInfo s')

include hp

theorem meets_similar (entries : List (RipEntry × RipIfInfo)) {s s' : Slot}
    (h : Similar s s') : meets p entries s = meets p entries s' := by
  induction entries generalizing s s' with
  | nil => rfl
  | cons heard entries ih =>
      obtain ⟨entry, ifInfo⟩ := heard
      rw [meets, meets, hp entry ifInfo s s' h, ih (h.hear 0 0 entry ifInfo)]

theorem meets_cons (s : Slot) (now : Instant) (entry : RipEntry) (ifInfo : RipIfInfo)
    (entries : List (RipEntry × RipIfInfo)) : meets p ((entry, ifInfo) :: entries) s =
      (p entry ifInfo s || meets p entries (s.hear now entry ifInfo)) := by
  rw [meets, meets_similar hp entries ((Similar.refl s).hear 0 now entry ifInfo)]

theorem meets_append {s t : Slot} {entries entries' : List (RipEntry × RipIfInfo)}
    (h : Hears s entries t) :
    meets p (entries ++ entries') s = (meets p entries s || meets p entries' t) := by
  induction h with
  | nil s => rfl
  | @cons s t entry ifInfo entries now _ ih =>
      rw [List.cons_append, meets_cons hp s now, meets_cons hp s now, ih, Bool.or_assoc]

omit hp in
theorem meets_append_left {s : Slot} {entries : List (RipEntry × RipIfInfo)}
    (entries' : List (RipEntry × RipIfInfo)) (h : meets p entries s = true) :
    meets p (entries ++ entries') s = true := by
  induction entries generalizing s with
  | nil => simp [meets] at h
  | cons heard entries ih =>
      obtain ⟨entry, ifInfo⟩ := heard
      rw [meets, Bool.or_eq_true] at h
      rw [List.cons_append, meets, Bool.or_eq_true]
      exact h.imp id ih

end Meets

theorem conflict_similar (entry : RipEntry) (ifInfo : RipIfInfo) (s s' : Slot)
    (h : Similar s s') : s.conflict entry ifInfo = s'.conflict entry ifInfo := by
  rw [Slot.conflict, Slot.conflict, h.active]
  cases verdict s'.active entry ifInfo with
  | poison oldRoute => exact h.garbage
  | ignore | refresh | learn | update | switch => rfl

/-- One of the entries moves a route to garbage whose destination is there. -/
def conflicts : List (RipEntry × RipIfInfo) → Slot → Bool :=
  meets fun entry ifInfo s => s.conflict entry ifInfo

theorem conflicts_of_kept {P : Slot → Prop} {s : Slot} {entries : List (RipEntry × RipIfInfo)}
    (h : P s) (hkept : ∀ heard ∈ entries, ∀ s, P s →
      s.conflict heard.1 heard.2 = false ∧ P (s.hear 0 heard.1 heard.2)) :
    conflicts entries s = false := by
  induction entries generalizing s with
  | nil => rfl
  | cons heard entries ih =>
      obtain ⟨hfirst, hnext⟩ := hkept heard List.mem_cons_self s h
      rw [conflicts, meets, Bool.or_eq_false_iff]
      exact ⟨hfirst, ih hnext fun heard hmem => hkept heard (List.mem_cons_of_mem _ hmem)⟩

/-- The active route, if there is one, has this next hop. -/
def Via (nextHop : UInt32) (s : Slot) : Prop :=
  ∀ route, s.active = some route → route.ripEntry.nextHop = nextHop

theorem Via.hear {s : Slot} {entry : RipEntry} (h : Via entry.nextHop s) (now : Instant)
    (ifInfo : RipIfInfo) :
    Via entry.nextHop (s.hear now entry ifInfo) ∧
      ((s.hear now entry ifInfo).active.isSome = true ↔ entry.metric < ripInfinityMetric) := by
  rw [Slot.hear]
  cases hverdict : verdict s.active entry ifInfo with
  | ignore =>
      refine ⟨h, ?_⟩
      rcases verdict_ignore hverdict with ⟨hnone, hmetric⟩ | ⟨old, hactive, hhop, -⟩
      · simpa [hnone] using hmetric
      · have hsame : routeIsFromCurrentNextHop old entry = true := beq_iff_eq.mpr (h old hactive)
        exact absurd (hsame.symm.trans hhop) (by simp)
  | refresh old =>
      obtain ⟨hactive, hmetric, -⟩ := verdict_refresh hverdict
      refine ⟨?_, by simpa using hmetric⟩
      rintro route hroute
      obtain rfl : old.refreshed = route := by simpa using hroute
      exact h old hactive
  | learn =>
      refine ⟨?_, by simpa using (verdict_learn hverdict).2⟩
      rintro route hroute
      obtain rfl : learnedRoute entry ifInfo = route := by simpa using hroute
      rfl
  | update old =>
      refine ⟨?_, by simpa using (verdict_update hverdict).2.1⟩
      rintro route hroute
      obtain rfl : learnedRoute entry ifInfo = route := by simpa using hroute
      rfl
  | switch old =>
      obtain ⟨hactive, -, -, hhop⟩ := verdict_switch hverdict
      have hsame : routeIsFromCurrentNextHop old entry = true := beq_iff_eq.mpr (h old hactive)
      exact absurd (hsame.symm.trans hhop) (by simp)
  | poison old =>
      have hmetric := UInt32.not_lt.mpr (verdict_poison hverdict).2.1
      exact ⟨fun route hroute => by simp at hroute, by simpa using hmetric⟩

/-- After entries from one neighbour the last one decides. -/
theorem Via.hears {nextHop : UInt32} {s t : Slot} {entries : List (RipEntry × RipIfInfo)}
    (h : Via nextHop s) (hentries : ∀ heard ∈ entries, heard.1.nextHop = nextHop)
    (hhears : Hears s entries t) :
    t.active.isSome = true ↔
      if entries = [] then s.active.isSome = true
      else ∃ entry ifInfo, entries.getLast? = some (entry, ifInfo) ∧
        entry.metric < ripInfinityMetric := by
  induction hhears with
  | nil s => simp
  | @cons s t entry ifInfo entries now _ ih =>
      obtain rfl : entry.nextHop = nextHop := hentries (entry, ifInfo) (by simp)
      obtain ⟨hvia, hactive⟩ := h.hear now ifInfo
      rw [ih hvia fun heard hmem => hentries heard (by simp [hmem]), hactive,
        if_neg (List.cons_ne_nil _ _)]
      cases entries with
      | nil => simp
      | cons next rest => simp [List.getLast?_cons_cons]

theorem nextHop_of_heard (event : DeamonEvent) (key : RipRouteKey) :
    ∃ nextHop, ∀ heard ∈ event.heard key, heard.1.nextHop = nextHop := by
  cases event with
  | received packet =>
      refine ⟨packet.source.ip, ?_⟩
      rintro ⟨entry, ifInfo⟩ hmem
      rw [DeamonEvent.heard] at hmem
      split_ifs at hmem
      · obtain ⟨raw, -, hentry, -⟩ := mem_routeEntries_iff.mp hmem
        rw [(responseEntryToRoute_eq hentry).2]
      · simp at hmem
  | _ => exact ⟨0, by simp [DeamonEvent.heard]⟩

variable {Driver : Type} [RoutingTableDriver Driver]

theorem handleResponseEntry_hears (packet : RipPacket) (raw : RipEntry)
    {deamon : RipDeamon Driver} (hkeys : KeysMatch deamon.database) :
    let res := (handleResponseEntry packet raw).run deamon
    (succeeded res = true → ∀ key, Hears (slot deamon.database key)
      (routeEntries packet key [raw]) (slot (finalState res).database key)) ∧
    (NeverFails Driver → (succeeded res = true ↔ ∀ key,
      conflicts (routeEntries packet key [raw]) (slot deamon.database key) = false)) := by
  intro res
  cases hentry : responseEntryToRoute raw packet with
  | none =>
      have hres : res = .ok () deamon := by
        simp only [res, handleResponseEntry_of_none hentry]
        rfl
      simp only [hres, routeEntries_of_none hentry]
      exact ⟨fun _ key => .nil _, fun _ => by simp [conflicts, meets]⟩
  | some entry =>
      have hheard := routeEntries_of_some hentry
      have hconflicts : (∀ key, conflicts (routeEntries packet key [raw])
            (slot deamon.database key) = false) ↔
          (slot deamon.database (buildRouteKey entry)).conflict entry packet.ifInfo = false := by
        constructor
        · intro hall
          have hnone := hall (buildRouteKey entry)
          rw [hheard, if_pos rfl] at hnone
          simpa [conflicts, meets] using hnone
        · intro hnone key
          rw [hheard]
          split_ifs with hkey
          · simpa [conflicts, meets, hkey] using hnone
          · rfl
      simp only [hconflicts, res, handleResponseEntry_of_some hentry]
      rcases updateRouteFromResponse_spec entry packet.ifInfo hkeys with
        ⟨⟨now, hslot⟩, -, hsucceeds⟩ | ⟨-, hfails, hdriver⟩
      · refine ⟨fun _ key => ?_, fun hdriver => by simp [hsucceeds hdriver]⟩
        rw [hslot key, hheard]
        split_ifs
        · exact .cons now (.nil _)
        · exact .nil _
      · exact ⟨fun hok => absurd (hfails.symm.trans hok) (by simp),
          fun hnever => absurd hnever hdriver⟩

theorem handleResponseEntries_hears {packet : RipPacket} (haccepted : accepted packet = true)
    {entries : List RipEntry} (hentries : ∀ raw ∈ entries, raw ∈ packet.data.entries)
    {deamon : RipDeamon Driver} (hkeys : KeysMatch deamon.database) :
    let res := (entries.forM (handleResponseEntry packet)).run deamon
    (succeeded res = true → ∀ key, Hears (slot deamon.database key)
      (routeEntries packet key entries) (slot (finalState res).database key)) ∧
    (NeverFails Driver → (succeeded res = true ↔ ∀ key,
      conflicts (routeEntries packet key entries) (slot deamon.database key) = false)) := by
  -- the first entry that fails ends the loop
  induction entries generalizing deamon with
  | nil => exact ⟨fun _ key => .nil _, fun _ => by simp [routeEntries, conflicts, meets]⟩
  | cons raw entries ih =>
      have hfirst := handleResponseEntry_hears packet raw hkeys
      have hsimulated := handleResponseEntry_simulated deamon.host.answers haccepted
        (hentries raw (by simp)) hkeys
      simp only [List.forM_eq_forM, List.forM_cons, EStateM.run_bind]
      cases hrun : (handleResponseEntry packet raw).run deamon with
      | error e deamon₁ =>
          rw [hrun] at hfirst
          refine ⟨fun hok => absurd hok (by simp), fun hdriver => ?_⟩
          have hconflict := (hfirst.2 hdriver).not.mp (by simp)
          obtain ⟨key, hkey⟩ := not_forall.mp hconflict
          refine ⟨fun hok => absurd hok (by simp), fun hnone => absurd (hnone key) ?_⟩
          rw [routeEntries_cons, conflicts, meets_append_left _ (by simpa [conflicts] using hkey)]
          simp
      | ok a deamon₁ =>
          rw [hrun] at hfirst hsimulated
          have hheard := hfirst.1 rfl
          have hrest := ih (fun raw' hmem => hentries raw' (by simp [hmem]))
            (hsimulated.keysMatch hkeys)
          refine ⟨fun hok key => ?_, fun hdriver => (hrest.2 hdriver).trans ?_⟩
          · rw [routeEntries_cons]
            exact (hheard key).append (hrest.1 hok key)
          · have hnone := (hfirst.2 hdriver).mp rfl
            refine forall_congr' fun key => ?_
            rw [routeEntries_cons, conflicts, meets_append conflict_similar (hheard key)]
            have hnoneKey := hnone key
            rw [conflicts] at hnoneKey
            rw [hnoneKey, Bool.false_or]

/-- A response that is handled to its end is heard by every destination. -/
theorem handlePacket_hears {packet : RipPacket} (haccepted : accepted packet = true)
    {deamon : RipDeamon Driver} (hkeys : KeysMatch deamon.database) :
    let res := (handlePacket packet).run deamon
    (succeeded res = true → ∀ key, Hears (slot deamon.database key)
      ((DeamonEvent.received packet).heard key) (slot (finalState res).database key)) ∧
    (NeverFails Driver → (succeeded res = true ↔ ∀ key, conflicts
      ((DeamonEvent.received packet).heard key) (slot deamon.database key) = false)) := by
  simp only [DeamonEvent.heard, haccepted, if_true, handlePacket_run_of_accepted haccepted]
  exact handleResponseEntries_hears haccepted (fun _ hraw => hraw) hkeys

theorem handlePacket_ok_hears {packet : RipPacket} {deamon deamon' : RipDeamon Driver}
    (hkeys : KeysMatch deamon.database) (h : (handlePacket packet).run deamon = .ok () deamon')
    (key : RipRouteKey) : Hears (slot deamon.database key)
      ((DeamonEvent.received packet).heard key) (slot deamon'.database key) := by
  cases haccepted : accepted packet with
  | true =>
      have hhears := (handlePacket_hears haccepted hkeys).1
      rw [h] at hhears
      exact hhears rfl key
  | false =>
      have hdatabase := (handlePacket_hostOnly haccepted deamon).database
      rw [h, finalState_ok] at hdatabase
      rw [hdatabase, DeamonEvent.heard, haccepted]
      exact .nil _

theorem expireRoutes_succeeds (hdriver : NeverFails Driver) {routes : List RipDbEntry}
    (deamon : RipDeamon Driver) (hlisted : Listed deamon.database routes) :
    succeeded ((routes.forM expireRoute).run deamon) = true ↔
      ∀ route ∈ routes,
        deamon.database.garbageRoutes.lookup (buildRouteKey route.ripEntry) = none := by
  induction routes generalizing deamon with
  | nil => simp [List.forM_eq_forM]
  | cons route routes ih =>
      simp only [List.forM_eq_forM, List.forM_cons, EStateM.run_bind]
      have hspec := expireRoute_spec (hlisted.2 route (by simp))
      cases hrun : (expireRoute route).run deamon with
      | error e deamon₁ =>
          rw [hrun] at hspec
          rcases hspec with ⟨-, -, hfails⟩ | ⟨now, -, hsucceeds⟩
          · exact absurd hdriver hfails
          · refine ⟨fun hok => absurd hok (by simp), fun hnone => ?_⟩
            rw [hnone route (by simp)] at hsucceeds
            exact absurd hsucceeds (by simp)
      | ok a deamon₁ =>
          obtain ⟨now, hdatabase, hfree, hlisted₁⟩ := hlisted.expired hrun
          refine (ih deamon₁ hlisted₁).trans ?_
          rw [List.forall_mem_cons, and_iff_right hfree]
          refine forall₂_congr fun other hmem => ?_
          have hslot := congrArg Slot.garbage (slot_toGarbage route now deamon.database
            (buildRouteKey route.ripEntry) (buildRouteKey other.ripEntry))
          rw [if_neg (hlisted.key_ne hmem), ← hdatabase] at hslot
          exact Eq.congr_left hslot

end RipV2.HeardEntries
