import RipV2.DisjointTables
import RipV2.DriverFailures
import RipV2.GarbageTimers
import RipV2.HeardSequences

namespace RipV2.DuplicateDelivery

open RipV2.Database
open RipV2.Deamon
open RipV2.DeamonRuns
open RipV2.DestinationSlots
open RipV2.DisjointTables
open RipV2.DriverFailures
open RipV2.GarbageTimers
open RipV2.HeardEntries
open RipV2.HeardSequences
open RipV2.HostEnvironment
open RipV2.KernelRoutes
open RipV2.Packets
open RipV2.ReachableRoutes
open RipV2.RoutingTables
open RipV2.TransitionRuns

/-- Only the timeout counters of the active routes may differ. -/
def SameButCount (s s' : Slot) : Prop :=
  s.active.map RipDbEntry.refreshed = s'.active.map RipDbEntry.refreshed

theorem SameButCount.alters {s s' : Slot} (h : SameButCount s s') (entry : RipEntry)
    (ifInfo : RipIfInfo) : alters entry ifInfo s = alters entry ifInfo s' := by
  have hrefreshed : ∀ s : Slot, HeardSequences.alters entry ifInfo s =
      HeardSequences.alters entry ifInfo ⟨s.active.map RipDbEntry.refreshed, none⟩ := by
    intro s
    rw [HeardSequences.alters, HeardSequences.alters]
    cases s.active with
    | none => rfl
    | some route =>
        simp only [Option.map_some, verdict]
        split_ifs <;> first | rfl | contradiction
  rw [hrefreshed s, hrefreshed s', h]

theorem hear_of_not_alters {s : Slot} {entry : RipEntry} {ifInfo : RipIfInfo}
    (h : alters entry ifInfo s = false) (now : Instant) :
    SameButCount (s.hear now entry ifInfo) s ∧
      (Fresh s → s.hear now entry ifInfo = s) := by
  rw [alters] at h
  rw [Slot.hear]
  cases hverdict : verdict s.active entry ifInfo with
  | ignore => exact ⟨rfl, fun _ => rfl⟩
  | refresh old =>
      obtain ⟨hactive, -⟩ := verdict_refresh hverdict
      obtain ⟨active, garbage⟩ := s
      obtain rfl : active = some old := hactive
      refine ⟨rfl, fun hfresh => ?_⟩
      have hcnt := hfresh old rfl
      simp only [RipDbEntry.refreshed, ← hcnt]
  | learn | update | switch | poison => simp [hverdict] at h

theorem meets_of_sameButCount {s s' : Slot} {entries : List (RipEntry × RipIfInfo)}
    (hsame : SameButCount s s') (h : meets alters entries s = false) :
    meets alters entries s' = false := by
  induction entries generalizing s s' with
  | nil => rfl
  | cons heard entries ih =>
      obtain ⟨entry, ifInfo⟩ := heard
      rw [meets, Bool.or_eq_false_iff] at h ⊢
      have hfirst := (hsame.alters entry ifInfo).symm.trans h.1
      refine ⟨hfirst, ih ?_ h.2⟩
      exact ((hear_of_not_alters h.1 0).1.trans hsame).trans (hear_of_not_alters hfirst 0).1.symm

theorem hears_of_not_alters {s t : Slot} {entries : List (RipEntry × RipIfInfo)}
    (h : meets alters entries s = false) (hhears : Hears s entries t) :
    SameButCount t s ∧ (Fresh s → t = s) := by
  induction hhears with
  | nil => exact ⟨rfl, fun _ => rfl⟩
  | @cons s t entry ifInfo entries now _ ih =>
      rw [meets_cons alters_similar s now, Bool.or_eq_false_iff] at h
      obtain ⟨hsame, hfixed⟩ := hear_of_not_alters h.1 now
      obtain ⟨hsame', hfixed'⟩ := ih h.2
      refine ⟨hsame'.trans hsame, fun hfresh => ?_⟩
      have hstays := hfixed hfresh
      rw [hstays] at hfixed'
      exact hfixed' hfresh

/-- What did not alter a destination leaves no trace the second time. -/
theorem hears_again_of_not_alters {nextHop : UInt32} {s t u : Slot}
    {entries : List (RipEntry × RipIfInfo)}
    (hentries : ∀ heard ∈ entries, heard.1.nextHop = nextHop)
    (h : meets alters entries s = false) (hfirst : Hears s entries t)
    (hsecond : Hears t entries u) : u = t := by
  rcases hears_cases hentries hfirst with ⟨hignored, rfl⟩ | ⟨-, hfresh, -⟩
  · exact hignored.hears hsecond
  · have hsame := (hears_of_not_alters h hfirst).1
    exact (hears_of_not_alters (meets_of_sameButCount hsame.symm h) hsecond).2 hfresh

/-- The active route is as it was learned. -/
def Learned (s : Slot) : Prop :=
  ∀ route, s.active = some route → route = learnedRoute route.ripEntry
    { ifName := route.ifName, ifIndex := route.ifIndex }

/-- The active route that an entry stands for, coming from the current next hop. -/
def offered (entry : RipEntry) (ifInfo : RipIfInfo) : Option RipDbEntry :=
  if entry.metric < ripInfinityMetric then some (learnedRoute entry ifInfo) else none

theorem via_of_offered {s : Slot} {entry : RipEntry} {ifInfo : RipIfInfo}
    (h : s.active = offered entry ifInfo) : Via entry.nextHop s ∧ Learned s := by
  rw [offered] at h
  split_ifs at h
  · constructor
    · intro route hactive
      obtain rfl := Option.some.inj (h.symm.trans hactive)
      rfl
    · intro route hactive
      obtain rfl := Option.some.inj (h.symm.trans hactive)
      rfl
  · constructor
    · intro route hactive
      simp [h] at hactive
    · intro route hactive
      simp [h] at hactive

theorem hear_offered {s : Slot} {entry : RipEntry} {ifInfo : RipIfInfo}
    (h : alters entry ifInfo s = true ∨ (Via entry.nextHop s ∧ Learned s)) (now : Instant) :
    (s.hear now entry ifInfo).active = offered entry ifInfo := by
  rw [alters] at h
  rw [Slot.hear, offered]
  cases hverdict : verdict s.active entry ifInfo with
  | ignore =>
      obtain ⟨hvia, -⟩ := h.resolve_left (by simp [hverdict])
      rcases verdict_ignore hverdict with ⟨hactive, hmetric⟩ | ⟨old, hactive, hhop, -⟩
      · rw [if_neg (UInt32.not_lt.mpr hmetric)]
        exact hactive
      · have hsame : routeIsFromCurrentNextHop old entry = true := beq_iff_eq.mpr (hvia old hactive)
        exact absurd (hsame.symm.trans hhop) (by simp)
  | refresh old =>
      obtain ⟨-, hlearned⟩ := h.resolve_left (by simp [hverdict])
      obtain ⟨hactive, hmetric, rfl, hindex, hname⟩ := verdict_refresh hverdict
      have hroute := hlearned old hactive
      rw [hindex, hname] at hroute
      rw [if_pos hmetric, hroute]
      rfl
  | learn => rw [if_pos (verdict_learn hverdict).2]
  | update old => rw [if_pos (verdict_update hverdict).2.1]
  | switch old => rw [if_pos (verdict_switch hverdict).2.1]
  | poison old => rw [if_neg (UInt32.not_lt.mpr (verdict_poison hverdict).2.1)]

theorem hears_offered {nextHop : UInt32} {s t : Slot} {entries : List (RipEntry × RipIfInfo)}
    {entry : RipEntry} {ifInfo : RipIfInfo}
    (hentries : ∀ heard ∈ entries, heard.1.nextHop = nextHop) (hhears : Hears s entries t)
    (h : meets alters entries s = true ∨ (Via nextHop s ∧ Learned s))
    (hlast : entries.getLast? = some (entry, ifInfo)) : t.active = offered entry ifInfo := by
  induction hhears with
  | nil => simp at hlast
  | @cons s t first firstInfo entries now hrest ih =>
      obtain rfl : first.nextHop = nextHop := hentries (first, firstInfo) (by simp)
      rw [meets_cons alters_similar s now, Bool.or_eq_true] at h
      cases entries with
      | nil =>
          obtain ⟨rfl, rfl⟩ : first = entry ∧ firstInfo = ifInfo := by simpa using hlast
          rw [hrest.of_nil]
          exact hear_offered (h.imp_left fun hmeets => hmeets.resolve_right (by simp [meets])) now
      | cons next rest =>
          apply ih (fun heard hmem => hentries heard (by simp [hmem])) _
            (by rwa [List.getLast?_cons_cons] at hlast)
          by_cases hlater : meets alters (next :: rest) (s.hear now first firstInfo) = true
          · exact .inl hlater
          · apply Or.inr
            apply via_of_offered
            exact hear_offered (h.imp_left fun hmeets => hmeets.resolve_right hlater) now

theorem conflicts_cons {s : Slot} {entry : RipEntry} {ifInfo : RipIfInfo}
    {entries : List (RipEntry × RipIfInfo)}
    (h : conflicts ((entry, ifInfo) :: entries) s = false) (now : Instant) :
    s.conflict entry ifInfo = false ∧ conflicts entries (s.hear now entry ifInfo) = false := by
  rw [conflicts, meets_cons conflict_similar s now, Bool.or_eq_false_iff] at h
  exact h

theorem hear_occupied {s : Slot} {entry : RipEntry} {ifInfo : RipIfInfo}
    (hactive : s.active.isSome = true) (hgarbage : s.garbage.isSome = true)
    (h : s.conflict entry ifInfo = false) (now : Instant) :
    (s.hear now entry ifInfo).active.isSome = true ∧
      (s.hear now entry ifInfo).garbage = s.garbage := by
  rw [Slot.conflict] at h
  rw [Slot.hear]
  cases hverdict : verdict s.active entry ifInfo with
  | ignore => exact ⟨hactive, rfl⟩
  | refresh | update | switch => exact ⟨rfl, rfl⟩
  | learn =>
      rw [(verdict_learn hverdict).1] at hactive
      simp at hactive
  | poison old =>
      rw [hverdict] at h
      exact absurd (h.symm.trans hgarbage) (by simp)

theorem hears_occupied {s t : Slot} {entries : List (RipEntry × RipIfInfo)}
    (hactive : s.active.isSome = true) (hgarbage : s.garbage.isSome = true)
    (h : conflicts entries s = false) (hhears : Hears s entries t) : t.garbage = s.garbage := by
  induction hhears with
  | nil => rfl
  | @cons s t entry ifInfo entries now _ ih =>
      obtain ⟨hfirst, hrest⟩ := conflicts_cons h now
      obtain ⟨hactive', hgarbage'⟩ := hear_occupied hactive hgarbage hfirst now
      rw [ih hactive' (hgarbage' ▸ hgarbage) hrest, hgarbage']

theorem hears_disjoint {s t : Slot} {entries : List (RipEntry × RipIfInfo)}
    (h : Slot.Disjoint s) (hhears : Hears s entries t) : Slot.Disjoint t := by
  induction hhears with
  | nil => exact h
  | @cons s t entry ifInfo entries now _ ih =>
      exact ih (h.step (by simp) (.heard s now entry ifInfo))

theorem hears_garbage_of_active {s t : Slot} {entries : List (RipEntry × RipIfInfo)}
    (hs : s.active.isSome = true) (ht : t.active.isSome = true)
    (h : conflicts entries s = false) (hhears : Hears s entries t) : t.garbage = s.garbage := by
  cases hgarbage : s.garbage with
  | none =>
      have hdisjoint := hears_disjoint (.inr hgarbage) hhears
      exact hdisjoint.resolve_left (by simpa [Option.isSome_iff_ne_none] using ht)
  | some route =>
      rw [← hgarbage]
      exact hears_occupied hs (by simp [hgarbage]) h hhears

theorem ignored_of_infinite {s : Slot} {entries : List (RipEntry × RipIfInfo)}
    (hactive : s.active = none) (h : ∀ heard ∈ entries, ripInfinityMetric ≤ heard.1.metric) :
    Ignored entries s := by
  intro heard hmem
  rw [hactive, verdict, if_pos (h heard hmem)]

theorem withdraws_similar (entry : RipEntry) (ifInfo : RipIfInfo) (s s' : Slot)
    (h : HeardEntries.Similar s s') : withdraws entry ifInfo s = withdraws entry ifInfo s' := by
  rw [withdraws, withdraws, h.active]

theorem hears_withdrawn {s t : Slot} {entries : List (RipEntry × RipIfInfo)} {route : RipDbEntry}
    (hentries : ∀ heard ∈ entries, ripInfinityMetric ≤ heard.1.metric)
    (hhears : Hears s entries t) (h : conflicts entries s = false)
    (hactive : s.active = some route) (hgone : t.active = none) :
    (∃ now, t.garbage = some (route.toGarbage now)) ∧ meets withdraws entries s = true := by
  induction hhears with
  | nil => simp [hactive] at hgone
  | @cons s t entry ifInfo entries now hlater ih =>
      obtain ⟨hmetric, hrest⟩ := List.forall_mem_cons.mp hentries
      obtain ⟨hfirst, hconflicts⟩ := conflicts_cons h now
      rw [meets_cons withdraws_similar s now]
      cases hverdict : verdict s.active entry ifInfo with
      | ignore =>
          have hsame := hear_of_ignore hverdict now
          rw [hsame] at hconflicts ih ⊢
          obtain ⟨hmoved, hwithdrawn⟩ := ih hrest hconflicts hactive hgone
          exact ⟨hmoved, by rw [hwithdrawn, Bool.or_true]⟩
      | poison old =>
          obtain rfl := Option.some.inj (hactive.symm.trans (verdict_poison hverdict).1)
          have hfree : s.garbage = none := by
            rw [Slot.conflict, hverdict] at hfirst
            simpa using hfirst
          have hhear : s.hear now entry ifInfo = ⟨none, some (route.toGarbage now)⟩ := by
            rw [Slot.hear, hverdict, hfree]
            rfl
          rw [hhear] at hlater
          rw [(ignored_of_infinite rfl hrest).hears hlater, withdraws, hverdict]
          exact ⟨⟨now, rfl⟩, rfl⟩
      | learn => exact absurd hmetric (UInt32.not_le.mpr (verdict_learn hverdict).2)
      | refresh | update | switch =>
          have hlt : entry.metric < ripInfinityMetric := by
            first
            | exact (verdict_refresh hverdict).2.1
            | exact (verdict_update hverdict).2.1
            | exact (verdict_switch hverdict).2.1
          exact absurd hmetric (UInt32.not_le.mpr hlt)

/-- A local route has the metric of a local route. -/
def LocalMetric (s : Slot) : Prop :=
  ∀ route, s.active = some route → route.isLocal = true → route.ripEntry.metric = 1

theorem hears_localMetric {s t : Slot} {entries : List (RipEntry × RipIfInfo)}
    (h : LocalMetric s) (hhears : Hears s entries t) : LocalMetric t := by
  induction hhears with
  | nil => exact h
  | @cons s t entry ifInfo entries now _ ih =>
      apply ih
      intro route hactive hlocal
      rcases active_hear hactive with ⟨old, hold, hsame⟩ | ⟨rfl, -⟩
      · rw [hsame.ripEntry]
        exact h old hold (hsame.isLocal.symm.trans hlocal)
      · simp [learnedRoute] at hlocal

/-- The route that moves to garbage is the one that the last finite entry stands for. -/
theorem hears_moved {s t : Slot} {before after : List (RipEntry × RipIfInfo)} {entry : RipEntry}
    {ifInfo : RipIfInfo} (hmetric : entry.metric < ripInfinityMetric) (hremote : entry.metric ≠ 1)
    (hafter : ∀ heard ∈ after, heard.1.nextHop = entry.nextHop ∧
      ripInfinityMetric ≤ heard.1.metric)
    (hhears : Hears s (before ++ (entry, ifInfo) :: after) t)
    (h : conflicts (before ++ (entry, ifInfo) :: after) s = false) (hlocal : LocalMetric s)
    (hgone : t.active = none) :
    (∃ now, t.garbage = some ((learnedRoute entry ifInfo).toGarbage now)) ∧
      meets withdraws (before ++ (entry, ifInfo) :: after) s = true := by
  obtain ⟨r, hbefore, hrest⟩ := hhears.split
  cases hrest with
  | cons now hlater =>
      rw [conflicts, meets_append conflict_similar hbefore, Bool.or_eq_false_iff] at h
      have hconflicts := (conflicts_cons h.2 now).2
      rw [meets_append withdraws_similar hbefore, meets_cons withdraws_similar r now]
      have hwithdrawn : ∀ {route}, (r.hear now entry ifInfo).active = some route →
          (∃ now, t.garbage = some (route.toGarbage now)) ∧
            meets withdraws after (r.hear now entry ifInfo) = true := fun hactive =>
        hears_withdrawn (fun heard hmem => (hafter heard hmem).2) hlater hconflicts hactive hgone
      cases hverdict : verdict r.active entry ifInfo with
      | ignore =>
          rw [hear_of_ignore hverdict] at hlater
          rcases verdict_ignore hverdict with ⟨-, hinfinite⟩ | ⟨old, hactive, hhop, -⟩
          · exact absurd hmetric (UInt32.not_lt.mpr hinfinite)
          · have hignored : Ignored after r := by
              intro heard hmem
              obtain ⟨hsame, hinfinite⟩ := hafter heard hmem
              have hother : routeIsFromCurrentNextHop old heard.1 = false := by
                rw [← hhop, routeIsFromCurrentNextHop, routeIsFromCurrentNextHop, hsame]
              rw [hactive, verdict, if_pos hinfinite, hother]
              rfl
            rw [hignored.hears hlater, hactive] at hgone
            cases hgone
      | refresh old =>
          obtain ⟨hactive, -, rfl, hindex, hname⟩ := verdict_refresh hverdict
          have hnot : old.isLocal = false := by
            rw [← Bool.not_eq_true]
            exact fun hold => hremote (hears_localMetric hlocal hbefore old hactive hold)
          have hroute : (r.hear now old.ripEntry ifInfo).active = some old.refreshed := by
            rw [Slot.hear, hverdict]
          obtain ⟨⟨now', hmoved⟩, hmeets⟩ := hwithdrawn hroute
          refine ⟨⟨now', hmoved.trans ?_⟩, by simp [hmeets]⟩
          simp only [RipDbEntry.toGarbage, RipDbEntry.refreshed, learnedRoute, hnot, hindex, hname]
      | poison old => exact absurd hmetric (UInt32.not_lt.mpr (verdict_poison hverdict).2.1)
      | learn | update | switch =>
          have hroute : (r.hear now entry ifInfo).active = some (learnedRoute entry ifInfo) := by
            rw [Slot.hear, hverdict]
          obtain ⟨hmoved, hmeets⟩ := hwithdrawn hroute
          exact ⟨hmoved, by simp [hmeets]⟩

theorem exists_last_finite (entries : List (RipEntry × RipIfInfo)) :
    (∀ heard ∈ entries, ripInfinityMetric ≤ heard.1.metric) ∨
      ∃ before entry ifInfo after, entries = before ++ (entry, ifInfo) :: after ∧
        entry.metric < ripInfinityMetric ∧
        ∀ heard ∈ after, ripInfinityMetric ≤ heard.1.metric := by
  induction entries with
  | nil => exact .inl (by simp)
  | cons heard entries ih =>
      obtain ⟨entry, ifInfo⟩ := heard
      rcases ih with hall | ⟨before, last, lastInfo, after, rfl, hlast, hafter⟩
      · by_cases hmetric : entry.metric < ripInfinityMetric
        · exact .inr ⟨[], entry, ifInfo, entries, rfl, hmetric, hall⟩
        · exact .inl (List.forall_mem_cons.mpr ⟨UInt32.not_lt.mp hmetric, hall⟩)
      · exact .inr ⟨(entry, ifInfo) :: before, last, lastInfo, after, rfl, hlast, hafter⟩

/-- The garbage after the second pass. Only a route that the first pass has moved
there can carry another time. -/
def SameGarbageTwice (entries : List (RipEntry × RipIfInfo)) (s t u : Slot) : Prop :=
  u.garbage = t.garbage ∨
    (meets withdraws entries s = true ∧ t.active = none ∧
      u.garbage.map untimedRoute = t.garbage.map untimedRoute)

theorem hears_twice_of_alters {nextHop : UInt32} {s t u : Slot}
    {entries : List (RipEntry × RipIfInfo)}
    (hentries : ∀ heard ∈ entries, heard.1.nextHop = nextHop ∧ heard.1.metric ≠ 1)
    (hlocal : LocalMetric s) (hfirst : Hears s entries t) (hsecond : Hears t entries u)
    (hconflicts : conflicts entries s = false) (hconflicts' : conflicts entries t = false)
    (halters : meets alters entries s = true) :
    u.active = t.active ∧ SameGarbageTwice entries s t u := by
  have hhops : ∀ heard ∈ entries, heard.1.nextHop = nextHop :=
    fun heard hmem => (hentries heard hmem).1
  obtain ⟨entry, ifInfo, hlast⟩ : ∃ entry ifInfo, entries.getLast? = some (entry, ifInfo) := by
    cases hlast : entries.getLast? with
    | none =>
        rw [List.getLast?_eq_none_iff.mp hlast] at halters
        simp [meets] at halters
    | some heard => exact ⟨heard.1, heard.2, rfl⟩
  have hhop : entry.nextHop = nextHop := hhops (entry, ifInfo) (List.mem_of_getLast? hlast)
  have ht := hears_offered hhops hfirst (.inl halters) hlast
  have hu := hears_offered hhops hsecond (.inr (hhop ▸ via_of_offered ht)) hlast
  refine ⟨hu.trans ht.symm, ?_⟩
  by_cases hmetric : entry.metric < ripInfinityMetric
  · rw [offered, if_pos hmetric] at ht hu
    exact .inl (hears_garbage_of_active (by simp [ht]) (by simp [hu]) hconflicts' hsecond)
  · rw [offered, if_neg hmetric] at ht hu
    rcases exists_last_finite entries with
      hinfinite | ⟨before, finite, finiteInfo, after, rfl, hfinite, hafter⟩
    · exact .inl (congrArg Slot.garbage ((ignored_of_infinite ht hinfinite).hears hsecond))
    · have hremote := (hentries (finite, finiteInfo) (by simp)).2
      have hlater : ∀ heard ∈ after, heard.1.nextHop = finite.nextHop ∧
          ripInfinityMetric ≤ heard.1.metric := by
        intro heard hmem
        refine ⟨?_, hafter heard hmem⟩
        rw [hhops heard (by simp [hmem]), hhops (finite, finiteInfo) (by simp)]
      obtain ⟨⟨now, hgarbage⟩, hmeets⟩ :=
        hears_moved hfinite hremote hlater hfirst hconflicts hlocal ht
      obtain ⟨⟨now', hgarbage'⟩, -⟩ := hears_moved hfinite hremote hlater hsecond hconflicts'
        (hears_localMetric hlocal hfirst) hu
      refine .inr ⟨hmeets, ht, ?_⟩
      rw [hgarbage, hgarbage']
      rfl

theorem hears_twice {nextHop : UInt32} {s t u : Slot} {entries : List (RipEntry × RipIfInfo)}
    (hentries : ∀ heard ∈ entries, heard.1.nextHop = nextHop ∧ heard.1.metric ≠ 1)
    (hlocal : LocalMetric s) (hfirst : Hears s entries t) (hsecond : Hears t entries u)
    (hconflicts : conflicts entries s = false) (hconflicts' : conflicts entries t = false) :
    u.active = t.active ∧ SameGarbageTwice entries s t u := by
  cases halters : meets alters entries s with
  | true =>
      exact hears_twice_of_alters hentries hlocal hfirst hsecond hconflicts hconflicts' halters
  | false =>
      rw [hears_again_of_not_alters (fun heard hmem => (hentries heard hmem).1) halters hfirst
        hsecond]
      exact ⟨rfl, .inl rfl⟩

theorem metric_of_heard {event : DeamonEvent} {key : RipRouteKey} {heard : RipEntry × RipIfInfo}
    (h : heard ∈ event.heard key) : heard.1.metric ≠ 1 := by
  cases event with
  | received packet =>
      rw [DeamonEvent.heard] at h
      split_ifs at h
      · obtain ⟨raw, -, hentry, -⟩ := mem_routeEntries_iff.mp h
        obtain ⟨hlow, -, hmetric⟩ := responseEntryToRoute_metric hentry
        intro hone
        rw [hone] at hmetric
        change 1 = _ at hmetric
        omega
      · simp at h
  | _ => simp [DeamonEvent.heard] at h

theorem WellFormed.localMetric {key : RipRouteKey} {s : Slot} (h : WellFormed key s) :
    LocalMetric s :=
  fun route hactive hlocal => ((h.active route hactive).isLocal hlocal).1

variable {Driver : Type} [KernelDriver Driver]

theorem kernelRoutes_eq {deamon deamon' : RipDeamon Driver} (hagrees : Agrees deamon)
    (hagrees' : Agrees deamon')
    (h : ∀ key, deamon'.database.okRoutes.lookup key = deamon.database.okRoutes.lookup key) :
    kernelRoutes deamon' = kernelRoutes deamon := by
  have hmessages : messages deamon'.database = messages deamon.database := by
    funext key
    rw [messages, messages, message?, message?, slot_active, slot_active, h key]
  ext message
  rw [hagrees' message, hagrees message, hmessages]

/-- A response that a driver without failures lets be handled twice in a row leaves
after the second time what it left after the first: the active routes with their
flags and counters, the garbage routes up to the time of those that the response
itself has moved there, the flag of the database, and the kernel's routes. -/
theorem run_twice (hdriver : NeverFails Driver) {deamon₀ deamon deamon' deamon'' : RipDeamon Driver}
    {history : List (Answers × DeamonEvent)} {answers answers' : Answers} {packet : RipPacket}
    (hinitial : Initial deamon₀) (hkernel : kernelRoutes deamon₀ = ∅)
    (hreached : Run Attempted deamon₀ history deamon)
    (hfirst : Step deamon (answers, .received packet) deamon')
    (hsecond : Step deamon' (answers', .received packet) deamon'') :
    (∀ key, deamon''.database.okRoutes.lookup key = deamon'.database.okRoutes.lookup key ∧
      SameGarbageTwice ((DeamonEvent.received packet).heard key) (slot deamon.database key)
        (slot deamon'.database key) (slot deamon''.database key)) ∧
    deamon''.database.anyRouteChanged = deamon'.database.anyRouteChanged ∧
    kernelRoutes deamon'' = kernelRoutes deamon' := by
  have hreached' := hreached.snoc (attempted_of_step hfirst)
  have hwell := run_wellFormed hinitial hreached
  have hkeys := keysMatch_of_wellFormed hwell
  have hkeys' := keysMatch_of_wellFormed (run_wellFormed hinitial hreached')
  obtain ⟨hheard, hflag⟩ := step_received hkeys hfirst
  obtain ⟨hheard', hflag'⟩ := step_received hkeys' hsecond
  have htwice : ∀ key, (slot deamon''.database key).active = (slot deamon'.database key).active ∧
      SameGarbageTwice ((DeamonEvent.received packet).heard key) (slot deamon.database key)
        (slot deamon'.database key) (slot deamon''.database key) := by
    intro key
    obtain ⟨nextHop, hhops⟩ := nextHop_of_heard (.received packet) key
    exact hears_twice (fun heard hmem => ⟨hhops heard hmem, metric_of_heard hmem⟩)
      (WellFormed.localMetric (hwell key)) (hheard key) (hheard' key)
      (step_conflicts hdriver hkeys hfirst key) (step_conflicts hdriver hkeys' hsecond key)
  refine ⟨htwice, ?_, ?_⟩
  · rw [Bool.eq_iff_iff, hflag', or_iff_left_iff_imp]
    rintro ⟨key, hmeets⟩
    by_contra hunflagged
    rw [hflag, not_or, not_exists] at hunflagged
    have hnot := (Bool.not_eq_true _).mp (hunflagged.2 key)
    have hsame := (hears_of_not_alters hnot (hheard key)).1
    rw [meets_of_sameButCount hsame.symm hnot] at hmeets
    cases hmeets
  · exact kernelRoutes_eq (run_agrees_of_neverFails hdriver hinitial hkernel hreached')
      (run_agrees_of_neverFails hdriver hinitial hkernel
        (hreached'.snoc (attempted_of_step hsecond))) fun key => (htwice key).1

/-- The far network comes and goes twice. -/
def flappingResponse : RipPacket :=
  responseFrom neighbour eth1 [plainEntry farNetwork 1, plainEntry farNetwork 16,
    plainEntry farNetwork 3, plainEntry farNetwork 16]

theorem flappingResponse_twice :
    ∃ deamon' deamon'', Step willingDeamon (steady, .received flappingResponse) deamon' ∧
      Step deamon' (.steady 60 ["eth0", "eth1"], .received flappingResponse) deamon'' ∧
      deamon''.database.garbageRoutes.lookup farNetwork ≠
        deamon'.database.garbageRoutes.lookup farNetwork ∧
      (deamon''.database.garbageRoutes.lookup farNetwork).map untimedRoute =
        (deamon'.database.garbageRoutes.lookup farNetwork).map untimedRoute ∧
      deamon''.database.anyRouteChanged = deamon'.database.anyRouteChanged ∧
      kernelRoutes deamon'' = kernelRoutes deamon' := by
  have hany : (runEvents willingDeamon [(steady, .received flappingResponse)]).any (fun deamon =>
      (runEvents deamon [(.steady 60 ["eth0", "eth1"], .received flappingResponse)]).any
        fun deamon' => deamon'.database.garbageRoutes.lookup farNetwork !=
          deamon.database.garbageRoutes.lookup farNetwork) = true := by decide +kernel
  obtain ⟨deamon', hfirst, hend⟩ := (Option.any_eq_true _ _).mp hany
  obtain ⟨deamon'', hsecond, hother⟩ := (Option.any_eq_true _ _).mp hend
  have hstep := runEvents_single hfirst
  have hstep' := runEvents_single hsecond
  obtain ⟨hslots, hflag, hroutes⟩ :=
    run_twice willingKernel_neverFails ⟨rfl, rfl⟩ rfl .nil hstep hstep'
  have hne := bne_iff_ne.mp hother
  rcases (hslots farNetwork).2 with hsame | ⟨-, -, huntimed⟩
  · exact absurd hsame hne
  · exact ⟨deamon', deamon'', hstep, hstep', hne, huntimed, hflag, hroutes⟩

end RipV2.DuplicateDelivery
