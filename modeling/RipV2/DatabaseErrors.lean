import RipV2.DisjointTables
import RipV2.LoopSurvival
import RipV2.ProtectedLocalRoutes

/-!
The errors of the database operations inside the handlers of responses and of
the timeout check. Three of the four never occur. The fourth, a route on its way
to garbage whose destination is there already, takes a local route that was
added over garbage and a response from 0.0.0.0 that withdraws it.
-/

namespace RipV2.DatabaseErrors

open RipV2.Database
open RipV2.Deamon
open RipV2.Deamon.RipDeamon
open RipV2.DeamonRuns
open RipV2.DeamonSimulation
open RipV2.DestinationSlots
open RipV2.DisjointTables
open RipV2.EffectLogic
open RipV2.HeardEntries
open RipV2.HostEnvironment
open RipV2.KernelRoutes
open RipV2.LoopSurvival
open RipV2.Packets
open RipV2.ProtectedLocalRoutes
open RipV2.ReachableRoutes
open RipV2.ResponseEntries
open RipV2.Results
open RipV2.RoutingTables
open RipV2.TransitionRuns

/-- The error of a route on its way to garbage whose destination is there. -/
def InGarbage (e : RipError) : Prop :=
  ∃ key : RipRouteKey, e = .invalidConfiguration
    ("route already exists in RIP garbage database: " ++ key.toString)

/-- An active local route whose destination is in garbage. -/
def Buried (s : Slot) : Prop :=
  ∃ route, s.active = some route ∧ route.isLocal = true ∧ s.garbage ≠ none

/-- Only local routes are active over garbage. -/
def LearnedClear (s : Slot) : Prop :=
  Slot.Disjoint s ∨ Buried s

/-- A response from 0.0.0.0 names the destination of a buried route. -/
def ClaimsBuried (database : RipDatabase) (event : DeamonEvent) : Prop :=
  ∃ key, Buried (slot database key) ∧ ClaimsLocalRoute key event

/-- A response from 0.0.0.0 withdraws the destination of a buried route. -/
def WithdrawsBuried (database : RipDatabase) (event : DeamonEvent) : Prop :=
  ∃ key packet raw, Buried (slot database key) ∧ event = .received packet ∧
    accepted packet = true ∧ packet.source.ip = 0 ∧ raw ∈ packet.data.entries ∧
    isEntryValid raw = true ∧ buildRouteKey raw = key ∧
    ripInfinityMetric ≤ updateMetric raw.metric

theorem conflicts_of_disjoint {s : Slot} (hs : Slot.Disjoint s)
    (entries : List (RipEntry × RipIfInfo)) : conflicts entries s = false := by
  apply conflicts_of_kept hs
  rintro ⟨entry, ifInfo⟩ - s hs
  refine ⟨?_, hs.step (by simp) (.heard s 0 entry ifInfo)⟩
  refine Slot.conflict_eq_false fun old hverdict => ?_
  exact hs.resolve_left (by simp [(verdict_poison hverdict).1])

theorem conflicts_of_via {nextHop : UInt32} {s : Slot} (hs : Via nextHop s)
    (hactive : s.active.isSome = true) (hgarbage : s.garbage.isSome = true)
    {entries : List (RipEntry × RipIfInfo)}
    (hentries : ∀ heard ∈ entries, heard.1.nextHop = nextHop) :
    conflicts entries s = true ↔ ∃ heard ∈ entries, ripInfinityMetric ≤ heard.1.metric := by
  induction entries generalizing s with
  | nil => simp [conflicts, meets]
  | cons heard entries ih =>
      obtain ⟨entry, ifInfo⟩ := heard
      obtain rfl : entry.nextHop = nextHop := hentries (entry, ifInfo) (by simp)
      obtain ⟨route, hroute⟩ := Option.isSome_iff_exists.mp hactive
      have hhop : routeIsFromCurrentNextHop route entry = true := beq_iff_eq.mpr (hs route hroute)
      by_cases hmetric : ripInfinityMetric ≤ entry.metric
      · have hverdict : verdict s.active entry ifInfo = .poison route := by
          rw [hroute, verdict]
          rw [if_pos hmetric, if_pos hhop]
        have hconflict : s.conflict entry ifInfo = true := by
          rw [Slot.conflict, hverdict]
          exact hgarbage
        rw [conflicts, meets, hconflict]
        simp [hmetric]
      · have hkept : (s.hear 0 entry ifInfo).garbage = s.garbage ∧
            s.conflict entry ifInfo = false := by
          rw [Slot.hear, Slot.conflict, hroute, verdict, if_neg hmetric, if_pos hhop]
          split_ifs <;> exact ⟨rfl, rfl⟩
        obtain ⟨hvia, hsome⟩ := hs.hear 0 ifInfo
        have hrest := ih hvia (hsome.mpr (UInt32.not_le.mp hmetric)) (hkept.1 ▸ hgarbage)
          fun heard hmem => hentries heard (by simp [hmem])
        rw [conflicts] at hrest ⊢
        rw [meets, hkept.2, Bool.false_or, hrest]
        simp [hmetric]

theorem Buried.conflicts_iff {key : RipRouteKey} {s : Slot} (hs : Buried s)
    (hwell : WellFormed key s) {entries : List (RipEntry × RipIfInfo)}
    (hentries : ∀ heard ∈ entries, heard.1.nextHop = 0) :
    conflicts entries s = true ↔ ∃ heard ∈ entries, ripInfinityMetric ≤ heard.1.metric := by
  obtain ⟨route, hactive, hlocal, hgarbage⟩ := hs
  have hvia : Via 0 s := by
    intro route' hroute'
    obtain rfl := Option.some.inj (hactive.symm.trans hroute')
    exact ((hwell.active route hactive).isLocal hlocal).2.1
  apply conflicts_of_via hvia _ _ hentries
  · rw [hactive]
    rfl
  · exact Option.isSome_iff_ne_none.mpr hgarbage

theorem conflicts_of_local {event : DeamonEvent} {key : RipRouteKey} {s : Slot}
    (hwell : WellFormed key s) {route : RipDbEntry} (hactive : s.active = some route)
    (hlocal : route.isLocal = true) {entries : List (RipEntry × RipIfInfo)}
    (hentries : ∀ heard ∈ entries, FromPacket event key heard.1 heard.2 ∧ heard.1.nextHop ≠ 0) :
    conflicts entries s = false := by
  apply conflicts_of_kept (P := (· = s)) rfl
  rintro ⟨entry, ifInfo⟩ hmem _ rfl
  obtain ⟨hfrom, hhop⟩ := hentries (entry, ifInfo) hmem
  have hhear := hear_local hwell hactive hlocal hfrom 0
  rw [if_neg hhop] at hhear
  refine ⟨Slot.conflict_eq_false fun old hverdict => ?_, hhear⟩
  obtain ⟨hold, -, hcurrent⟩ := verdict_poison hverdict
  obtain rfl := Option.some.inj (hactive.symm.trans hold)
  have hzero := ((hwell.active route hactive).isLocal hlocal).2.1
  exact absurd ((beq_iff_eq.mp hcurrent).symm.trans hzero) hhop

theorem heard_fromPacket {packet : RipPacket} {key : RipRouteKey}
    {heard : RipEntry × RipIfInfo} (hmem : heard ∈ (DeamonEvent.received packet).heard key) :
    FromPacket (.received packet) key heard.1 heard.2 ∧ heard.1.nextHop = packet.source.ip := by
  obtain ⟨entry, ifInfo⟩ := heard
  rw [DeamonEvent.heard] at hmem
  split_ifs at hmem with haccepted
  · obtain ⟨raw, hraw, hentry, hkey, hifInfo⟩ := mem_routeEntries_iff.mp hmem
    refine ⟨⟨hkey, packet, raw, rfl, haccepted, hraw, hentry, hifInfo⟩, ?_⟩
    rw [(responseEntryToRoute_eq hentry).2]
  · simp at hmem

theorem conflicts_iff_withdrawsBuried {database : RipDatabase} {packet : RipPacket}
    (hwell : ∀ key, WellFormed key (slot database key))
    (hclear : ∀ key, LearnedClear (slot database key)) :
    (∃ key, conflicts ((DeamonEvent.received packet).heard key) (slot database key) = true) ↔
      WithdrawsBuried database (.received packet) := by
  constructor
  · rintro ⟨key, hconflicts⟩
    rcases hclear key with hdisjoint | hburied
    · rw [conflicts_of_disjoint hdisjoint] at hconflicts
      exact absurd hconflicts (by simp)
    · by_cases hsource : packet.source.ip = 0
      · rw [hburied.conflicts_iff (hwell key)
          fun heard hmem => (heard_fromPacket hmem).2.trans hsource] at hconflicts
        obtain ⟨⟨entry, ifInfo⟩, hmem, hmetric⟩ := hconflicts
        obtain ⟨hkey, packet', raw, hpacket, haccepted, hraw, hentry, -⟩ :=
          (heard_fromPacket hmem).1
        obtain rfl := DeamonEvent.received.inj hpacket
        obtain ⟨hvalid, rfl⟩ := responseEntryToRoute_eq hentry
        exact ⟨key, packet, raw, hburied, rfl, haccepted, hsource, hraw, hvalid, hkey, hmetric⟩
      · obtain ⟨route, hactive, hlocal, -⟩ := hburied
        have hentries : ∀ heard ∈ (DeamonEvent.received packet).heard key,
            FromPacket (.received packet) key heard.1 heard.2 ∧ heard.1.nextHop ≠ 0 := by
          intro heard hmem
          obtain ⟨hfrom, hhop⟩ := heard_fromPacket hmem
          exact ⟨hfrom, hhop ▸ hsource⟩
        rw [conflicts_of_local (hwell key) hactive hlocal hentries] at hconflicts
        exact absurd hconflicts (by simp)
  · rintro ⟨key, packet', raw, hburied, hpacket, haccepted, hsource, hraw, hvalid, hkey, hmetric⟩
    obtain rfl := DeamonEvent.received.inj hpacket
    refine ⟨key, ?_⟩
    rw [hburied.conflicts_iff (hwell key)
      fun heard hmem => (heard_fromPacket hmem).2.trans hsource]
    refine ⟨({ raw with metric := updateMetric raw.metric, nextHop := packet.source.ip },
      packet.ifInfo), ?_, hmetric⟩
    rw [DeamonEvent.heard, if_pos haccepted]
    refine mem_routeEntries_iff.mpr ⟨raw, hraw, ?_, hkey, rfl⟩
    rw [responseEntryToRoute, hvalid]
    rfl

theorem moveRouteToGarbage_error {database database' : RipDatabase} {entry : RipEntry}
    {now : Instant} {route : RipDbEntry} {e : RipError}
    (hactive : database.okRoutes.lookup (buildRouteKey entry) = some route)
    (hrun : (RipDatabase.moveRouteToGarbage entry now).run database = .error e database') :
    InGarbage e := by
  simp only [EStateM.run, RipDatabase.moveRouteToGarbage, hactive] at hrun
  split at hrun
  · simp at hrun
  · obtain ⟨rfl, -⟩ := EStateM.Result.error.inj hrun
    exact ⟨buildRouteKey entry, rfl⟩

variable {Driver : Type} [RoutingTableDriver Driver]

theorem expireRoute_error (hdriver : NeverFails Driver) {deamon deamon' : RipDeamon Driver}
    {route old : RipDbEntry} {e : RipError}
    (hactive : deamon.database.okRoutes.lookup (buildRouteKey route.ripEntry) = some old)
    (hrun : (expireRoute route).run deamon = .error e deamon') : InGarbage e := by
  have hdatabase := deleteRoute_database route deamon
  have hsucceeds := deleteRoute_succeeds hdriver route deamon
  simp only [expireRoute, EStateM.run_bind] at hrun
  cases hdelete : (deleteRoute route).run deamon with
  | error e' deamon₁ =>
      rw [hdelete] at hsucceeds
      exact absurd hsucceeds (by simp)
  | ok a deamon₁ =>
      rw [hdelete, finalState_ok] at hdatabase
      rw [← hdatabase] at hactive
      simp only [hdelete, onHost, onDatabase, run_zoom, run_instantNow] at hrun
      cases hmove : (RipDatabase.moveRouteToGarbage route.ripEntry
          deamon₁.host.answers.instants.head).run deamon₁.database with
      | ok moved database => simp [hmove] at hrun
      | error e' database =>
          rw [hmove] at hrun
          obtain ⟨rfl, -⟩ := EStateM.Result.error.inj hrun
          exact moveRouteToGarbage_error hactive hmove

theorem updateRouteFromResponse_error (hdriver : NeverFails Driver)
    {deamon deamon' : RipDeamon Driver} {entry : RipEntry} {ifInfo : RipIfInfo} {e : RipError}
    (hkeys : KeysMatch deamon.database)
    (hrun : (updateRouteFromResponse entry ifInfo).run deamon = .error e deamon') :
    InGarbage e := by
  have hreplaces : ∀ old (database : RipDatabase),
      succeeded ((swap old entry ifInfo).run { deamon with database }) = true := by
    intro old database
    rcases swap_spec { deamon with database } old entry ifInfo with ⟨-, -, hfails⟩ | ⟨-, hok⟩
    · exact absurd hdriver hfails
    · exact hok hdriver
  cases hverdict : verdict (deamon.database.getRoute entry) entry ifInfo with
  | ignore =>
      rw [updateRouteFromResponse_ignore hverdict] at hrun
      simp at hrun
  | refresh old =>
      rw [updateRouteFromResponse_refresh hverdict] at hrun
      simp at hrun
  | learn =>
      rw [updateRouteFromResponse_learn hverdict] at hrun
      have hok := addRoute_succeeds hdriver (learnedRoute entry ifInfo)
        { deamon with database := learn entry ifInfo deamon.database }
      rw [hrun] at hok
      exact absurd hok (by simp)
  | update old =>
      rw [updateRouteFromResponse_update hkeys hverdict] at hrun
      have hok := hreplaces old (deamon.database.refreshRouteTimeout entry)
      rw [hrun] at hok
      exact absurd hok (by simp)
  | switch old =>
      rw [updateRouteFromResponse_switch hkeys hverdict] at hrun
      have hok := hreplaces old deamon.database
      rw [hrun] at hok
      exact absurd hok (by simp)
  | poison old =>
      rw [updateRouteFromResponse_poison hverdict] at hrun
      exact expireRoute_error hdriver (hkeys.lookup_eq (verdict_poison hverdict).1) hrun

theorem handleResponseEntry_throws (hdriver : NeverFails Driver) {packet : RipPacket}
    (haccepted : accepted packet = true) {raw : RipEntry} (hraw : raw ∈ packet.data.entries) :
    Throws (fun deamon : RipDeamon Driver => KeysMatch deamon.database) InGarbage
      (handleResponseEntry packet raw) := by
  intro deamon hkeys
  have hsimulated := handleResponseEntry_simulated deamon.host.answers haccepted hraw hkeys
  cases hrun : (handleResponseEntry packet raw).run deamon with
  | ok a deamon' =>
      rw [hrun] at hsimulated
      exact hsimulated.keysMatch hkeys
  | error e deamon' =>
      rw [handleResponseEntry] at hrun
      split at hrun
      · simp at hrun
      · exact updateRouteFromResponse_error hdriver hkeys hrun

theorem expireRoutes_error (hdriver : NeverFails Driver) {routes : List RipDbEntry}
    {deamon deamon' : RipDeamon Driver} {e : RipError} (hlisted : Listed deamon.database routes)
    (hrun : (routes.forM expireRoute).run deamon = .error e deamon') : InGarbage e := by
  induction routes generalizing deamon with
  | nil => simp [List.forM_eq_forM] at hrun
  | cons route routes ih =>
      simp only [List.forM_eq_forM, List.forM_cons, EStateM.run_bind] at hrun
      cases hfirst : (expireRoute route).run deamon with
      | error e' deamon₁ =>
          rw [hfirst] at hrun
          obtain ⟨rfl, rfl⟩ := EStateM.Result.error.inj hrun
          exact expireRoute_error hdriver (hlisted.2 route (by simp)) hfirst
      | ok a deamon₁ =>
          rw [hfirst] at hrun
          obtain ⟨now, -, -, hlisted₁⟩ := hlisted.expired hfirst
          exact ih hlisted₁ hrun

/-- With a driver that never fails nothing but a destination already in garbage
makes the handlers fail. -/
theorem handle_error (hdriver : NeverFails Driver) {event : DeamonEvent}
    (hevent : MovesRoutes event) {deamon deamon' : RipDeamon Driver} {e : RipError}
    (hkeys : KeysMatch deamon.database)
    (hrun : event.handle.run deamon = .error e deamon') : InGarbage e := by
  cases event with
  | received packet =>
      change (handlePacket packet).run deamon = _ at hrun
      rw [handlePacket_run_of_accepted hevent] at hrun
      have hthrows := throws_forM
        (fun raw hraw => handleResponseEntry_throws hdriver hevent hraw) deamon hkeys
      rw [hrun] at hthrows
      exact hthrows
  | routeTimeoutTick timer =>
      simp only [DeamonEvent.handle, EStateM.run_bind, handleRouteTimeoutTick_run] at hrun
      cases hexpire : ((timeoutCheck deamon).1.forM expireRoute).run
          { deamon with database := (timeoutCheck deamon).2 } with
      | ok a deamon₁ =>
          rw [hexpire] at hrun
          exact absurd hrun (by simp)
      | error e' deamon₁ =>
          rw [hexpire] at hrun
          obtain ⟨rfl, -⟩ := EStateM.Result.error.inj hrun
          apply expireRoutes_error hdriver _ hexpire
          exact listed_timedOutRoutes ((timeoutCheck_simulated timer true deamon).keysMatch hkeys) _
  | _ => exact absurd hevent id

/-- A step at which no response claims the destination of a buried route. -/
def UnclaimedStep (deamon : RipDeamon Driver) (label : Answers × DeamonEvent)
    (deamon' : RipDeamon Driver) : Prop :=
  Attempted deamon label deamon' ∧ ¬ClaimsBuried deamon.database label.2

theorem attempted_learnedClear {deamon deamon' : RipDeamon Driver}
    {label : Answers × DeamonEvent} {key : RipRouteKey}
    (hwell : ∀ key, WellFormed key (slot deamon.database key))
    (hclear : LearnedClear (slot deamon.database key))
    (hstep : UnclaimedStep deamon label deamon') : LearnedClear (slot deamon'.database key) := by
  obtain ⟨hattempted, hclaims⟩ := hstep
  rcases hclear with hdisjoint | ⟨route, hactive, hlocal, hgarbage⟩
  · obtain ⟨res, ⟨deamon₀, ⟨database, hreordered, rfl⟩, rfl⟩, rfl⟩ := hattempted
    rw [← slot_reordered hreordered key] at hdisjoint
    by_cases hevent : ∃ network, AddsNetwork network label.2
    · obtain ⟨network, hnetwork⟩ := hevent
      rcases handle_addsNetwork_cases hnetwork
          { deamon with database, host := deamon.host.renew label.1 } with
        ⟨hsame, -⟩ | ⟨localRoute, -, -, hadopted⟩
      · rw [hsame]
        exact .inl hdisjoint
      · rw [hadopted, slot_adopt]
        split_ifs with hkey
        · by_cases hgarbage : (slot database key).garbage = none
          · exact .inl (.inr hgarbage)
          · exact .inr ⟨localRouteEntry localRoute, rfl, rfl, hgarbage⟩
        · exact .inl hdisjoint
    · have hkeys := (keysMatch_of_wellFormed hwell).reordered hreordered
      exact .inl (handle_disjoint { deamon with database, host := deamon.host.renew label.1 }
        hkeys hevent hdisjoint)
  · have hholds := attempted_holds hwell hlocal ⟨route, hactive, .refl route⟩
      (fun hclaim => hclaims ⟨key, ⟨route, hactive, hlocal, hgarbage⟩, hclaim⟩) hattempted
    obtain ⟨route', hactive', hsame⟩ := hholds
    by_cases hgarbage' : (slot deamon'.database key).garbage = none
    · exact .inl (.inr hgarbage')
    · exact .inr ⟨route', hactive', hsame.isLocal.trans hlocal, hgarbage'⟩

theorem run_learnedClear {deamon deamon' : RipDeamon Driver}
    {labels : List (Answers × DeamonEvent)} (hinitial : Initial deamon)
    (hrun : Run UnclaimedStep deamon labels deamon') (key : RipRouteKey) :
    LearnedClear (slot deamon'.database key) := by
  induction hrun with
  | nil =>
      rw [hinitial.1]
      exact .inl (.inl rfl)
  | snoc hrest hstep ih =>
      have hwell := run_wellFormed hinitial (hrest.mono fun _ _ _ _ h => h.1)
      exact attempted_learnedClear hwell ih hstep

theorem not_timesOutOverGarbage {database : RipDatabase} (answers : Answers)
    (hclear : ∀ key, LearnedClear (slot database key)) : ¬TimesOutOverGarbage answers database := by
  rintro ⟨key, route, hactive, htimedOut, hgarbage⟩
  rcases hclear key with hdisjoint | ⟨route', hactive', hlocal, -⟩
  · rcases hdisjoint with hnone | hnone
    · rw [hactive] at hnone
      simp at hnone
    · exact hgarbage hnone
  · obtain rfl := Option.some.inj (hactive.symm.trans hactive')
    simp [RipDbEntry.timedOut, RipDbEntry.countTimeout, hlocal] at htimedOut

theorem withdrawsBuried_reordered {database database' : RipDatabase} (event : DeamonEvent)
    (h : database.Reordered database') :
    WithdrawsBuried database' event ↔ WithdrawsBuried database event := by
  simp only [WithdrawsBuried, slot_reordered h]

/-- While no response from 0.0.0.0 claims a buried route, the handlers of
responses and of the timeout check succeed, up to the first response that
withdraws one; whenever they fail it is by that destination being in garbage. -/
theorem run_databaseErrors (hdriver : NeverFails Driver) {deamon deamon' : RipDeamon Driver}
    {labels : List (Answers × DeamonEvent)} (hinitial : Initial deamon)
    (hrun : Run UnclaimedStep deamon labels deamon') {label : Answers × DeamonEvent}
    {res : EStateM.Result RipError (RipDeamon Driver) Unit} (hevent : MovesRoutes label.2)
    (hres : Outcome deamon' label res) :
    (succeeded res = true ↔ ¬WithdrawsBuried deamon'.database label.2) ∧
      ∀ e deamon'', res = .error e deamon'' → InGarbage e := by
  have hwell := run_wellFormed hinitial (hrun.mono fun _ _ _ _ h => h.1)
  have hclear := run_learnedClear hinitial hrun
  obtain ⟨answers, event⟩ := label
  obtain ⟨deamon₀, ⟨database, hreordered, rfl⟩, rfl⟩ := hres
  have hslot := slot_reordered hreordered
  have hwell₀ : ∀ key, WellFormed key (slot database key) := fun key => hslot key ▸ hwell key
  have hclear₀ : ∀ key, LearnedClear (slot database key) := fun key => hslot key ▸ hclear key
  have hkeys := keysMatch_of_wellFormed hwell₀
  refine ⟨?_, fun e deamon'' hrun => handle_error hdriver hevent hkeys hrun⟩
  rw [← withdrawsBuried_reordered event hreordered]
  cases event with
  | received packet =>
      refine ((@handlePacket_hears Driver _ packet hevent _ hkeys).2 hdriver).trans ?_
      rw [← conflicts_iff_withdrawsBuried hwell₀ hclear₀, not_exists]
      simp only [Bool.not_eq_true]
  | routeTimeoutTick timer =>
      rw [DeamonEvent.handle, succeeded_discard, handleRouteTimeoutTick_succeeds_iff hdriver hkeys]
      refine iff_of_true (not_timesOutOverGarbage _ hclear₀) ?_
      rintro ⟨_, _, _, _, hevent, -⟩
      simp at hevent
  | _ => exact absurd hevent id

theorem withdrawal_unclaimed {label : Answers × DeamonEvent}
    (h : label ∈ [announcement, withdrawal]) (database : RipDatabase) :
    ¬ClaimsBuried database label.2 := by
  rintro ⟨key, -, packet, raw, hevent, -, hsource, -⟩
  simp only [List.mem_cons, List.not_mem_nil, or_false] at h
  rcases h with rfl | rfl
  · obtain rfl := DeamonEvent.received.inj hevent
    exact absurd hsource (by decide)
  · obtain rfl := DeamonEvent.received.inj hevent
    exact absurd hsource (by decide)

theorem announcement_withdraws_nothing :
    ∃ deamon' deamon'', Run UnclaimedStep learningDeamon [announcement, withdrawal] deamon' ∧
      Step deamon' announcement deamon'' ∧
      ¬WithdrawsBuried deamon'.database announcement.2 := by
  have hany : (runEvents learningDeamon [announcement, withdrawal]).any (fun deamon =>
      (runEvents deamon [announcement]).any fun _ => true) = true := by decide +kernel
  obtain ⟨deamon', hrun, hnext⟩ := exists_run hany
  obtain ⟨deamon'', hdeamon'', -⟩ := (Option.any_eq_true _ _).mp hnext
  have hunclaimed : Run UnclaimedStep learningDeamon [announcement, withdrawal] deamon' :=
    hrun.mono fun label hlabel deamon _ hstep =>
      ⟨attempted_of_step hstep, withdrawal_unclaimed hlabel deamon.database⟩
  have hstep := runEvents_single hdeamon''
  have hmoves : MovesRoutes announcement.2 := by
    change accepted _ = true
    decide
  refine ⟨deamon', deamon'', hunclaimed, hstep, ?_⟩
  exact (run_databaseErrors kernel_neverFails ⟨rfl, rfl⟩ hunclaimed hmoves hstep).1.mp rfl

/-- The withdrawn network is added as a local one, which a response from 0.0.0.0
then withdraws: its destination is in garbage already. -/
theorem withdrawal_from_zero_fails :
    ∃ deamon' deamon'', Run Step learningDeamon ([announcement, withdrawal] ++
        [(steady, .httpRequest (.addLocalRoute
          { address := "10.2.0.0", prefixLen := 16, dev := "eth0" }))]) deamon' ∧
      Outcome deamon' (steady, .received (responseFrom 0 eth1 [plainEntry farNetwork 16]))
        (.error (.invalidConfiguration ("route already exists in RIP garbage database: " ++
          farNetwork.toString)) deamon'') := by
  have hany : (runEvents learningDeamon ([announcement, withdrawal] ++
      [(steady, .httpRequest (.addLocalRoute
        { address := "10.2.0.0", prefixLen := 16, dev := "eth0" }))])).any (fun deamon =>
      error? ((handlePacket (responseFrom 0 eth1 [plainEntry farNetwork 16])).run
        { deamon with host := deamon.host.renew steady }) ==
      some (.invalidConfiguration ("route already exists in RIP garbage database: " ++
          farNetwork.toString))) = true := by decide +kernel
  obtain ⟨deamon', hrun, herror⟩ := exists_run hany
  obtain ⟨deamon'', hfails⟩ := error?_eq_some (beq_iff_eq.mp herror)
  exact ⟨deamon', deamon'', hrun, _, ⟨deamon'.database, .refl _, rfl⟩, hfails⟩

end RipV2.DatabaseErrors
