import RipV2.RouteLifecycle
import RipV2.HeardEntries

namespace RipV2.HeardSequences

open RipV2.Database
open RipV2.Deamon
open RipV2.Deamon.RipDeamon
open RipV2.DeamonRuns
open RipV2.DeamonSimulation
open RipV2.DestinationSlots
open RipV2.EffectLogic
open RipV2.HeardEntries
open RipV2.HostEnvironment
open RipV2.Packets
open RipV2.ResponseEntries
open RipV2.RouteLifecycle
open RipV2.RoutingTables

/-- None of the entries means anything to the destination. -/
def Ignored (entries : List (RipEntry × RipIfInfo)) (s : Slot) : Prop :=
  ∀ heard ∈ entries, verdict s.active heard.1 heard.2 = .ignore

/-- The active route, if there is one, has its timeout counter at zero. -/
def Fresh (s : Slot) : Prop :=
  ∀ route, s.active = some route → route.timeoutCnt = 0

theorem hear_of_ignore {s : Slot} {entry : RipEntry} {ifInfo : RipIfInfo}
    (h : verdict s.active entry ifInfo = .ignore) (now : Instant) :
    s.hear now entry ifInfo = s := by
  rw [Slot.hear, h]

theorem Ignored.hears {s t : Slot} {entries : List (RipEntry × RipIfInfo)}
    (h : Ignored entries s) (hhears : Hears s entries t) : t = s := by
  induction hhears with
  | nil => rfl
  | @cons s t entry ifInfo entries now _ ih =>
      rw [hear_of_ignore (h (entry, ifInfo) (by simp)) now] at ih
      apply ih
      intro heard hmem
      exact h heard (by simp [hmem])

theorem via_learnedRoute (entry : RipEntry) (ifInfo : RipIfInfo) (garbage : Option RipDbEntry) :
    Via entry.nextHop ⟨some (learnedRoute entry ifInfo), garbage⟩ ∧
      Fresh ⟨some (learnedRoute entry ifInfo), garbage⟩ := by
  constructor
  · intro route hroute
    obtain rfl := Option.some.inj hroute
    rfl
  · intro route hroute
    obtain rfl := Option.some.inj hroute
    rfl

theorem hear_of_not_ignore {s : Slot} {entry : RipEntry} {ifInfo : RipIfInfo}
    (h : verdict s.active entry ifInfo ≠ .ignore) (now : Instant) :
    (Via entry.nextHop (s.hear now entry ifInfo) ∧ Fresh (s.hear now entry ifInfo)) ∧
      ((s.hear now entry ifInfo).active.isSome = true → entry.metric < ripInfinityMetric) := by
  rw [Slot.hear]
  cases hverdict : verdict s.active entry ifInfo with
  | ignore => exact absurd hverdict h
  | refresh old =>
      obtain ⟨-, hmetric, rfl, -⟩ := verdict_refresh hverdict
      refine ⟨⟨?_, ?_⟩, fun _ => hmetric⟩
      · intro route hroute
        obtain rfl := Option.some.inj hroute
        rfl
      · intro route hroute
        obtain rfl := Option.some.inj hroute
        rfl
  | learn => exact ⟨via_learnedRoute _ _ _, fun _ => (verdict_learn hverdict).2⟩
  | update old => exact ⟨via_learnedRoute _ _ _, fun _ => (verdict_update hverdict).2.1⟩
  | switch old => exact ⟨via_learnedRoute _ _ _, fun _ => (verdict_switch hverdict).2.1⟩
  | poison old =>
      refine ⟨⟨?_, ?_⟩, fun hsome => absurd hsome (by simp)⟩
      · intro route hroute
        simp at hroute
      · intro route hroute
        simp at hroute

theorem hears_cases {nextHop : UInt32} {s t : Slot} {entries : List (RipEntry × RipIfInfo)}
    (hentries : ∀ heard ∈ entries, heard.1.nextHop = nextHop) (hhears : Hears s entries t) :
    (Ignored entries s ∧ t = s) ∨
      (Via nextHop t ∧ Fresh t ∧ (t.active.isSome = true →
        ∃ heard ∈ entries, heard.1.metric < ripInfinityMetric)) := by
  induction hhears with
  | nil => exact .inl ⟨by simp [Ignored], rfl⟩
  | @cons s t entry ifInfo entries now _ ih =>
      obtain rfl : entry.nextHop = nextHop := hentries (entry, ifInfo) (by simp)
      rcases ih fun heard hmem => hentries heard (by simp [hmem]) with
        ⟨hignored, rfl⟩ | ⟨hvia, hfresh, hfinite⟩
      · by_cases hverdict : verdict s.active entry ifInfo = .ignore
        · rw [hear_of_ignore hverdict] at hignored ⊢
          exact .inl ⟨List.forall_mem_cons.mpr ⟨hverdict, hignored⟩, rfl⟩
        · obtain ⟨⟨hvia, hfresh⟩, hfinite⟩ := hear_of_not_ignore hverdict now
          exact .inr ⟨hvia, hfresh, fun hsome => ⟨(entry, ifInfo), by simp, hfinite hsome⟩⟩
      · refine .inr ⟨hvia, hfresh, fun hsome => ?_⟩
        obtain ⟨heard, hmem, hmetric⟩ := hfinite hsome
        exact ⟨heard, by simp [hmem], hmetric⟩

theorem Ignored.eq_nil {s : Slot} {route : RipDbEntry} {entries : List (RipEntry × RipIfInfo)}
    (h : Ignored entries s) (hactive : s.active = some route)
    (hentries : ∀ heard ∈ entries, heard.1.nextHop = route.ripEntry.nextHop) : entries = [] := by
  refine List.eq_nil_iff_forall_not_mem.mpr fun heard hmem => ?_
  rcases verdict_ignore (h heard hmem) with ⟨hnone, -⟩ | ⟨old, hold, hhop, -⟩
  · simp [hactive] at hnone
  · obtain rfl := Option.some.inj (hactive.symm.trans hold)
    simp [routeIsFromCurrentNextHop, hentries heard hmem] at hhop

/-- A route without the time at which it went to garbage. -/
def untimedRoute (route : RipDbEntry) : RipDbEntry :=
  { route with garbageStartedAt := none }

/-- The slot without the time at which its garbage route moved there. -/
def untimed (s : Slot) : Slot :=
  { s with garbage := s.garbage.map untimedRoute }

theorem untimed_hear {s s' : Slot} (h : untimed s = untimed s') (now now' : Instant)
    (entry : RipEntry) (ifInfo : RipIfInfo) :
    untimed (s.hear now entry ifInfo) = untimed (s'.hear now' entry ifInfo) := by
  obtain ⟨hactive, hgarbage⟩ := Slot.mk.inj h
  rw [Slot.hear, Slot.hear, hactive]
  cases verdict s'.active entry ifInfo with
  | ignore => exact h
  | refresh old => simp only [untimed, hgarbage]
  | learn => rfl
  | update old => simp only [untimed, hgarbage]
  | switch old => simp only [untimed, hgarbage]
  | poison old =>
      simp only [untimed]
      cases hs : s.garbage with
      | none =>
          rw [hs, Option.map_none, eq_comm, Option.map_eq_none_iff] at hgarbage
          rw [hgarbage]
          rfl
      | some route =>
          rw [hs, Option.map_some, eq_comm, Option.map_eq_some_iff] at hgarbage
          obtain ⟨route', hs', hsame⟩ := hgarbage
          rw [hs', Option.getD_some, Option.getD_some, Option.map_some, Option.map_some, hsame]

theorem untimed_hears {s s' t t' : Slot} {entries : List (RipEntry × RipIfInfo)}
    (h : untimed s = untimed s') (hhears : Hears s entries t) (hhears' : Hears s' entries t') :
    untimed t = untimed t' := by
  induction hhears generalizing s' with
  | nil =>
      rw [hhears'.of_nil]
      exact h
  | @cons s t entry ifInfo entries now _ ih =>
      cases hhears' with
      | cons now' hrest => exact ih (untimed_hear h now now' entry ifInfo) hrest

theorem similar_of_untimed {s s' : Slot} (h : untimed s = untimed s') :
    HeardEntries.Similar s s' := by
  obtain ⟨hactive, hgarbage⟩ := Slot.mk.inj h
  refine ⟨hactive, ?_⟩
  rw [← Option.isSome_map (f := untimedRoute), hgarbage, Option.isSome_map]

/-- The entry does more than bring the timeout counter back to zero. -/
def alters (entry : RipEntry) (ifInfo : RipIfInfo) (s : Slot) : Bool :=
  match verdict s.active entry ifInfo with
  | .ignore | .refresh _ => false
  | .learn | .update _ | .switch _ | .poison _ => true

theorem alters_similar (entry : RipEntry) (ifInfo : RipIfInfo) (s s' : Slot)
    (h : HeardEntries.Similar s s') : alters entry ifInfo s = alters entry ifInfo s' := by
  rw [alters, alters, h.active]

variable {Driver : Type} [RoutingTableDriver Driver]

theorem swap_flags {deamon deamon' : RipDeamon Driver} {oldRoute : RipDbEntry} {entry : RipEntry}
    {ifInfo : RipIfInfo} (h : (swap oldRoute entry ifInfo).run deamon = .ok () deamon') :
    deamon'.database.anyRouteChanged = true := by
  have hspec := swap_spec deamon oldRoute entry ifInfo
  rw [h] at hspec
  rcases hspec with ⟨hfails, -⟩ | ⟨hdatabase, -⟩
  · exact absurd hfails (by simp)
  · rw [finalState_ok] at hdatabase
    rw [hdatabase, replace]

theorem updateRouteFromResponse_flags {deamon deamon' : RipDeamon Driver} {entry : RipEntry}
    {ifInfo : RipIfInfo} (hkeys : KeysMatch deamon.database)
    (h : (updateRouteFromResponse entry ifInfo).run deamon = .ok () deamon') :
    deamon'.database.anyRouteChanged = true ↔ deamon.database.anyRouteChanged = true ∨
      alters entry ifInfo (slot deamon.database (buildRouteKey entry)) = true := by
  rw [alters]
  change _ ↔ _ ∨ (match verdict (deamon.database.getRoute entry) entry ifInfo with
    | .ignore | .refresh _ => false
    | .learn | .update _ | .switch _ | .poison _ => true) = true
  cases hverdict : verdict (deamon.database.getRoute entry) entry ifInfo with
  | ignore =>
      rw [updateRouteFromResponse_ignore hverdict] at h
      obtain ⟨-, rfl⟩ := EStateM.Result.ok.inj h
      simp
  | refresh old =>
      rw [updateRouteFromResponse_refresh hverdict] at h
      obtain ⟨-, rfl⟩ := EStateM.Result.ok.inj h
      rw [RipDatabase.refreshRouteTimeout]
      cases deamon.database.okRoutes.lookup (buildRouteKey entry) <;> simp
  | learn =>
      rw [updateRouteFromResponse_learn hverdict] at h
      rw [(addRoute_ok h).1, learn]
      simp
  | update old =>
      rw [updateRouteFromResponse_update hkeys hverdict] at h
      exact iff_of_true (swap_flags h) (.inr rfl)
  | switch old =>
      rw [updateRouteFromResponse_switch hkeys hverdict] at h
      exact iff_of_true (swap_flags h) (.inr rfl)
  | poison old =>
      rw [updateRouteFromResponse_poison hverdict] at h
      have hactive := hkeys.lookup_eq (verdict_poison hverdict).1
      rw [(expireRoute_ok hactive h).1, toGarbage]
      simp

theorem handleResponseEntry_flags {packet : RipPacket} {raw : RipEntry}
    {deamon deamon' : RipDeamon Driver} (hkeys : KeysMatch deamon.database)
    (h : (handleResponseEntry packet raw).run deamon = .ok () deamon') :
    deamon'.database.anyRouteChanged = true ↔ deamon.database.anyRouteChanged = true ∨
      ∃ key, meets alters (routeEntries packet key [raw]) (slot deamon.database key) = true := by
  cases hentry : responseEntryToRoute raw packet with
  | none =>
      rw [handleResponseEntry_of_none hentry] at h
      obtain ⟨-, rfl⟩ := EStateM.Result.ok.inj h
      simp [routeEntries_of_none hentry, meets]
  | some entry =>
      rw [handleResponseEntry_of_some hentry] at h
      rw [updateRouteFromResponse_flags hkeys h]
      refine or_congr_right ?_
      have hown : ∀ key, meets alters (routeEntries packet key [raw])
          (slot deamon.database key) = true ↔ key = buildRouteKey entry ∧
          alters entry packet.ifInfo (slot deamon.database (buildRouteKey entry)) = true := by
        intro key
        rw [routeEntries_of_some hentry]
        split_ifs with hkey
        · subst hkey
          simp [meets]
        · simp [meets, hkey]
      simp only [hown, exists_eq_left]

theorem handleResponseEntries_flags {packet : RipPacket} (haccepted : accepted packet = true)
    {entries : List RipEntry} (hentries : ∀ raw ∈ entries, raw ∈ packet.data.entries)
    {deamon deamon' : RipDeamon Driver} (hkeys : KeysMatch deamon.database)
    (h : (entries.forM (handleResponseEntry packet)).run deamon = .ok () deamon') :
    deamon'.database.anyRouteChanged = true ↔ deamon.database.anyRouteChanged = true ∨
      ∃ key, meets alters (routeEntries packet key entries) (slot deamon.database key) = true := by
  induction entries generalizing deamon with
  | nil =>
      obtain ⟨-, rfl⟩ := EStateM.Result.ok.inj h
      simp [routeEntries, meets]
  | cons raw entries ih =>
      have hsimulated := handleResponseEntry_simulated deamon.host.answers haccepted
        (hentries raw (by simp)) hkeys
      have hheard := (handleResponseEntry_hears packet raw hkeys).1
      rw [List.forM_eq_forM, List.forM_cons] at h
      obtain ⟨a, deamon₁, hfirst, hrest⟩ := run_bind_ok h
      rw [hfirst] at hsimulated hheard
      have hkeys₁ : KeysMatch deamon₁.database := hsimulated.keysMatch hkeys
      have hmeets : ∀ key, meets alters (routeEntries packet key (raw :: entries))
          (slot deamon.database key) =
          (meets alters (routeEntries packet key [raw]) (slot deamon.database key) ||
            meets alters (routeEntries packet key entries) (slot deamon₁.database key)) := by
        intro key
        rw [routeEntries_cons]
        exact meets_append alters_similar (hheard rfl key)
      rw [ih (fun raw' hmem => hentries raw' (by simp [hmem])) hkeys₁ hrest,
        handleResponseEntry_flags hkeys hfirst, or_assoc]
      simp only [hmeets, Bool.or_eq_true, exists_or]

theorem handlePacket_flags {packet : RipPacket} (haccepted : accepted packet = true)
    {deamon deamon' : RipDeamon Driver} (hkeys : KeysMatch deamon.database)
    (h : (handlePacket packet).run deamon = .ok () deamon') :
    deamon'.database.anyRouteChanged = true ↔ deamon.database.anyRouteChanged = true ∨
      ∃ key, meets alters ((DeamonEvent.received packet).heard key)
        (slot deamon.database key) = true := by
  rw [handlePacket_run_of_accepted haccepted] at h
  simp only [DeamonEvent.heard, haccepted, if_true]
  exact handleResponseEntries_flags haccepted (fun _ hraw => hraw) hkeys h

omit [RoutingTableDriver Driver] in
theorem reordered_of_resumes {answers : Answers} {deamon deamon₀ : RipDeamon Driver}
    (h : Resumes answers deamon deamon₀) : deamon.database.Reordered deamon₀.database := by
  obtain ⟨database, hreordered, rfl⟩ := h
  exact hreordered

theorem step_received {deamon deamon' : RipDeamon Driver} {answers : Answers} {packet : RipPacket}
    (hkeys : KeysMatch deamon.database) (hstep : Step deamon (answers, .received packet) deamon') :
    (∀ key, Hears (slot deamon.database key) ((DeamonEvent.received packet).heard key)
      (slot deamon'.database key)) ∧
    (deamon'.database.anyRouteChanged = true ↔ deamon.database.anyRouteChanged = true ∨
      ∃ key, meets alters ((DeamonEvent.received packet).heard key)
        (slot deamon.database key) = true) := by
  obtain ⟨deamon₀, hresumes, hrun⟩ := hstep
  have hreordered := reordered_of_resumes hresumes
  have hkeys₀ := hkeys.reordered hreordered
  simp only [← slot_reordered hreordered, hreordered.anyRouteChanged]
  change (handlePacket packet).run deamon₀ = _ at hrun
  refine ⟨handlePacket_ok_hears hkeys₀ hrun, ?_⟩
  cases haccepted : accepted packet with
  | true => exact handlePacket_flags haccepted hkeys₀ hrun
  | false =>
      have hdatabase := (handlePacket_hostOnly haccepted deamon₀).database
      rw [hrun, finalState_ok] at hdatabase
      simp [hdatabase, DeamonEvent.heard, haccepted, meets]

theorem step_conflicts (hdriver : NeverFails Driver) {deamon deamon' : RipDeamon Driver}
    {answers : Answers} {packet : RipPacket} (hkeys : KeysMatch deamon.database)
    (hstep : Step deamon (answers, .received packet) deamon') (key : RipRouteKey) :
    conflicts ((DeamonEvent.received packet).heard key) (slot deamon.database key) = false := by
  obtain ⟨deamon₀, hresumes, hrun⟩ := hstep
  have hreordered := reordered_of_resumes hresumes
  rw [← slot_reordered hreordered]
  change (handlePacket packet).run deamon₀ = _ at hrun
  cases haccepted : accepted packet with
  | true =>
      have hheard := (handlePacket_hears haccepted (hkeys.reordered hreordered)).2
      rw [hrun] at hheard
      exact (hheard hdriver).mp rfl key
  | false =>
      rw [DeamonEvent.heard, haccepted]
      rfl

theorem exists_step (hdriver : NeverFails Driver) {deamon : RipDeamon Driver} {packet : RipPacket}
    (hkeys : KeysMatch deamon.database) (haccepted : accepted packet = true)
    (h : ∀ key, conflicts ((DeamonEvent.received packet).heard key)
      (slot deamon.database key) = false) (answers : Answers) :
    ∃ deamon', Step deamon (answers, .received packet) deamon' := by
  have hkeys₀ : KeysMatch
      { deamon with host := deamon.host.renew answers : RipDeamon Driver }.database := hkeys
  have hsucceeds := ((handlePacket_hears haccepted hkeys₀).2 hdriver).mpr h
  cases hrun : (handlePacket packet).run { deamon with host := deamon.host.renew answers } with
  | error e deamon' => simp [hrun] at hsucceeds
  | ok a deamon' => exact ⟨deamon', _, ⟨deamon.database, .refl _, rfl⟩, hrun⟩

end RipV2.HeardSequences
