import RipV2.DisjointTables
import RipV2.Executions
import RipV2.ProtectedLocalRoutes
import RipV2.TimeoutCounters

namespace RipV2.SlotHistories

open Filter
open RipV2.Database
open RipV2.Deamon
open RipV2.Deamon.RipDeamon
open RipV2.DeamonRuns
open RipV2.DeamonSimulation
open RipV2.DestinationSlots
open RipV2.DisjointTables
open RipV2.EffectLogic
open RipV2.Executions
open RipV2.HeardEntries
open RipV2.HeardSequences
open RipV2.HostEnvironment
open RipV2.LocalRoutes
open RipV2.Packets
open RipV2.ReachableRoutes
open RipV2.RoutingTables
open RipV2.TimeoutCounters

/-- The event asks for a local route to `key`. -/
def AddsRoute (key : RipRouteKey) (label : Answers × DeamonEvent) : Prop :=
  ∃ network localRoute, AddsNetwork network label.2 ∧
    advertisedNetworkToLocalRoute label.1 network = .ok localRoute ∧
    buildRouteKey localRoute.entry = key

/-- The active route is the same up to its flag; the garbage route may be gone. -/
structure Kept (s s' : Slot) : Prop where
  active : s'.active.map RipDbEntry.unchanged = s.active.map RipDbEntry.unchanged
  garbage : s.garbage = none → s'.garbage = none

theorem Kept.refl (s : Slot) : Kept s s := ⟨rfl, id⟩

theorem Kept.route {s s' : Slot} (h : Kept s s') {route : RipDbEntry}
    (hactive : s'.active = some route) :
    ∃ old, s.active = some old ∧ SameRoute old route ∧ route.timeoutCnt = old.timeoutCnt := by
  have hmap := h.active
  rw [hactive, Option.map_some, eq_comm, Option.map_eq_some_iff] at hmap
  obtain ⟨old, hold, hsame⟩ := hmap
  obtain ⟨hentry, hindex, hname, -, hlocal, htable, hcnt, hstarted⟩ := RipDbEntry.mk.inj hsame
  exact ⟨old, hold, ⟨hentry.symm, hindex.symm, hname.symm, hlocal.symm, htable.symm,
    hstarted.symm⟩, hcnt.symm⟩

theorem Kept.isSome {s s' : Slot} (h : Kept s s') : s'.active.isSome = s.active.isSome := by
  have hmap := congrArg Option.isSome h.active
  rwa [Option.isSome_map, Option.isSome_map] at hmap

theorem Kept.exists_route {s s' : Slot} (h : Kept s s') {old : RipDbEntry}
    (hactive : s.active = some old) : ∃ route, s'.active = some route ∧ SameRoute old route := by
  have hsome := h.isSome
  rw [hactive, Option.isSome_some, Option.isSome_iff_exists] at hsome
  obtain ⟨route, hroute⟩ := hsome
  obtain ⟨old', hold', hsame, -⟩ := h.route hroute
  obtain rfl := Option.some.inj (hactive.symm.trans hold')
  exact ⟨route, hroute, hsame⟩

theorem Kept.step {answers : Answers} {event : DeamonEvent} {key : RipRouteKey}
    {s t t' : Slot} {action : SlotAction} (hreceived : ∀ packet, event ≠ .received packet)
    (htick : ∀ timer, event ≠ .routeTimeoutTick timer) (hadds : ¬AddsRoute key (answers, event))
    (hcaused : CausedBy answers event key action) (h : Kept s t) (hstep : SlotStep t action t') :
    Kept s t' := by
  cases hstep with
  | heard | refused =>
      obtain ⟨-, packet, -, hevent, -⟩ := hcaused
      exact absurd hevent (hreceived packet)
  | counted | expired =>
      obtain ⟨⟨timer, hevent⟩, -⟩ := hcaused
      exact absurd hevent (htick timer)
  | added garbage route =>
      obtain ⟨network, localRoute, hnetwork, hroute, -, hkey⟩ := hcaused
      exact absurd ⟨network, localRoute, hnetwork, hroute, hkey⟩ hadds
  | collected => exact ⟨h.active, fun _ => rfl⟩
  | unflagged =>
      refine ⟨?_, fun hnone => ?_⟩
      · rw [← h.active, Slot.unflag, Option.map_map]
        rfl
      · rw [Slot.unflag, h.garbage hnone, Option.map_none]

variable {Driver : Type} [RoutingTableDriver Driver]

theorem step_cases {deamon deamon' : RipDeamon Driver} {label : Answers × DeamonEvent}
    {key : RipRouteKey} (hkeys : KeysMatch deamon.database) (hadds : ¬AddsRoute key label)
    (hstep : Step deamon label deamon') :
    ((∃ packet, label.2 = .received packet) ∧
      Hears (slot deamon.database key) (label.2.heard key) (slot deamon'.database key)) ∨
    (isTimeoutTick label.2 = true ∧ label.2.heard key = [] ∧
      Checked (timeoutCheckIntervalSecs label.1) (routeTimeoutSecs label.1)
        (slot deamon.database key) (slot deamon'.database key)) ∨
    (isTimeoutTick label.2 = false ∧ label.2.heard key = [] ∧
      Kept (slot deamon.database key) (slot deamon'.database key)) := by
  obtain ⟨answers, event⟩ := label
  have hquiet (hreceived : ∀ packet, event ≠ .received packet)
      (htick : ∀ timer, event ≠ .routeTimeoutTick timer) :
      Kept (slot deamon.database key) (slot deamon'.database key) := by
    obtain ⟨actions, hactions, hcaused, -⟩ := outcome_simulated hstep hkeys key
    exact hactions.keeps (I := Kept (slot deamon.database key))
      (fun _ _ _ hcaused hs hstep => hs.step hreceived htick hadds hcaused hstep) hcaused (.refl _)
  cases event with
  | received packet => exact .inl ⟨⟨packet, rfl⟩, (step_received hkeys hstep).1 key⟩
  | routeTimeoutTick timer => exact .inr (.inl ⟨rfl, rfl, step_checked hkeys hstep key⟩)
  | _ => exact .inr (.inr ⟨rfl, rfl, hquiet (by simp) (by simp)⟩)

theorem exists_tick (hdriver : NeverFails Driver) {deamon : RipDeamon Driver}
    (hkeys : KeysMatch deamon.database) (hdisjoint : RoutesDisjoint deamon.database)
    (answers : Answers) (timer : Timer) :
    ∃ deamon', Step deamon (answers, .routeTimeoutTick timer) deamon' := by
  let deamon₀ : RipDeamon Driver := { deamon with host := deamon.host.renew answers }
  have hcounted := slot_collectTimedOutRoutes (timeoutCheckIntervalSecs deamon₀.host.answers)
    (routeTimeoutSecs deamon₀.host.answers) deamon.database
  have hlisted : Listed (timeoutCheck deamon₀).2 (timeoutCheck deamon₀).1 :=
    listed_timedOutRoutes ((timeoutCheck_simulated timer true deamon₀).keysMatch hkeys) _
  have hsucceeds : succeeded (((timeoutCheck deamon₀).1.forM expireRoute).run
      { deamon₀ with database := (timeoutCheck deamon₀).2 }) = true := by
    refine (expireRoutes_succeeds hdriver _ hlisted).mpr fun route hmem => ?_
    have hactive := congrArg Slot.active (hcounted (buildRouteKey route.ripEntry))
    have hgarbage := congrArg Slot.garbage (hcounted (buildRouteKey route.ripEntry))
    refine hgarbage.trans ((hdisjoint _).resolve_left fun hnone => ?_)
    rw [slot_active, Slot.count, slot_active, hnone] at hactive
    exact absurd ((hlisted.2 route hmem).symm.trans hactive) (by simp)
  cases hrun : ((timeoutCheck deamon₀).1.forM expireRoute).run
      { deamon₀ with database := (timeoutCheck deamon₀).2 } with
  | error e deamon' =>
      rw [hrun] at hsucceeds
      exact absurd hsucceeds (by simp)
  | ok a deamon' =>
      refine ⟨deamon', deamon₀, ⟨deamon.database, .refl _, rfl⟩, ?_⟩
      change ((handleRouteTimeoutTick timer >>= fun _ => pure ()).run deamon₀ : _) = _
      rw [EStateM.run_bind, handleRouteTimeoutTick_run, hrun]
      rfl

theorem hears_taken {nextHop : UInt32} {s t : Slot} {entries : List (RipEntry × RipIfInfo)}
    (hentries : ∀ heard ∈ entries, heard.1.nextHop = nextHop) (hhears : Hears s entries t) :
    (Ignored entries s ∧ t = s) ∨
      ∀ route, t.active = some route → route.timeoutCnt = 0 ∧
        ∃ heard ∈ entries, heard.1 = route.ripEntry ∧ heard.2.ifIndex = route.ifIndex := by
  induction hhears with
  | nil => exact .inl ⟨by simp [Ignored], rfl⟩
  | @cons s t entry ifInfo entries now _ ih =>
      rcases ih fun heard hmem => hentries heard (by simp [hmem]) with
        ⟨hignored, rfl⟩ | htaken
      · by_cases hverdict : verdict s.active entry ifInfo = .ignore
        · rw [hear_of_ignore hverdict] at hignored ⊢
          exact .inl ⟨List.forall_mem_cons.mpr ⟨hverdict, hignored⟩, rfl⟩
        · refine .inr fun route hroute => ?_
          refine ⟨(hear_of_not_ignore hverdict now).1.2 route hroute, (entry, ifInfo), by simp, ?_⟩
          rw [Slot.hear] at hroute
          cases hcase : verdict s.active entry ifInfo with
          | ignore => exact absurd hcase hverdict
          | refresh old =>
              obtain ⟨-, -, rfl, hindex, -⟩ := verdict_refresh hcase
              rw [hcase] at hroute
              obtain rfl : old.refreshed = route := Option.some.inj hroute
              exact ⟨rfl, hindex.symm⟩
          | learn | update | switch =>
              rw [hcase] at hroute
              obtain rfl : learnedRoute entry ifInfo = route := Option.some.inj hroute
              exact ⟨rfl, rfl⟩
          | poison old =>
              rw [hcase] at hroute
              simp at hroute
      · refine .inr fun route hroute => ?_
        obtain ⟨hcnt, heard, hmem, htaken⟩ := htaken route hroute
        exact ⟨hcnt, heard, List.mem_cons_of_mem _ hmem, htaken⟩

section Executions

variable {Router : Type} (execution : Execution Router (@Step Driver _))

/-- What the router knows about the destination at time `t`. -/
def slotAt (key : RipRouteKey) (t : ℕ) (router : Router) : Slot :=
  slot (execution.states t router).database key

/-- The router hears the entry in its step at time `t`. -/
def HeardAt (key : RipRouteKey) (router : Router) (t : ℕ) (heard : RipEntry × RipIfInfo) : Prop :=
  execution.actor t = router ∧ heard ∈ (execution.label t).2.heard key

/-- The router checks for timeouts at time `t`. -/
def Ticks (router : Router) (t : ℕ) : Prop :=
  execution.actor t = router ∧ isTimeoutTick (execution.label t).2 = true

/-- The timeout settings of the routers, which nobody changes. With an interval of zero
no counter would ever move. -/
structure Configured (increment limit : Router → UInt64) : Prop where
  increments : ∀ t, timeoutCheckIntervalSecs (execution.label t).1 = increment (execution.actor t)
  limits : ∀ t, routeTimeoutSecs (execution.label t).1 = limit (execution.actor t)
  positive : ∀ router, 0 < increment router

variable {execution}

theorem slotAt_wellFormed
    (hwell : ∀ router key, WellFormed key (slotAt execution key 0 router)) (t : ℕ)
    (router : Router) : ∀ key, WellFormed key (slotAt execution key t router) := by
  refine execution.keeps (I := fun deamon => ∀ key, WellFormed key (slot deamon.database key))
    (hwell router) (fun t _ hacts h key => ?_) (Nat.zero_le t)
  subst hacts
  exact simulated_wellFormed (outcome_simulated (execution.acts t) (keysMatch_of_wellFormed h)) h
    key

theorem slotAt_keeps (hwell : ∀ router key, WellFormed key (slotAt execution key 0 router))
    {key : RipRouteKey} (hadds : ∀ t, ¬AddsRoute key (execution.label t)) {I : Slot → Prop}
    (hkeeps : ∀ s action s', (∀ route, action ≠ .added route) → SlotStep s action s' → I s → I s')
    {router : Router} (hstart : I (slotAt execution key 0 router)) (t : ℕ) :
    I (slotAt execution key t router) := by
  refine execution.keeps (I := fun deamon => I (slot deamon.database key)) hstart
    (fun t _ hacts h => ?_) (Nat.zero_le t)
  subst hacts
  have hkeys := keysMatch_of_wellFormed (slotAt_wellFormed hwell t (execution.actor t))
  obtain ⟨actions, hactions, hcaused, -⟩ := outcome_simulated (execution.acts t) hkeys key
  refine hactions.keeps (P := fun action => ∀ route, action ≠ .added route)
    (fun _ _ _ hadded hs hstep => hkeeps _ _ _ hadded hstep hs) ?_ h
  rintro action hmem route rfl
  obtain ⟨network, localRoute, hnetwork, hroute, -, hkey⟩ := hcaused _ hmem
  exact hadds t ⟨network, localRoute, hnetwork, hroute, hkey⟩

theorem slotAt_cases {increment limit : Router → UInt64}
    (hconfigured : Configured execution increment limit)
    (hwell : ∀ router key, WellFormed key (slotAt execution key 0 router)) {key : RipRouteKey}
    (hadds : ∀ t, ¬AddsRoute key (execution.label t)) (t : ℕ) (router : Router) :
    (¬Ticks execution router t ∧ execution.actor t = router ∧
      (∃ packet, (execution.label t).2 = .received packet) ∧
      Hears (slotAt execution key t router) ((execution.label t).2.heard key)
        (slotAt execution key (t + 1) router)) ∨
    (Ticks execution router t ∧ (∀ heard, ¬HeardAt execution key router t heard) ∧
      Checked (increment router) (limit router) (slotAt execution key t router)
        (slotAt execution key (t + 1) router)) ∨
    (¬Ticks execution router t ∧ (∀ heard, ¬HeardAt execution key router t heard) ∧
      Kept (slotAt execution key t router) (slotAt execution key (t + 1) router)) := by
  by_cases hacts : execution.actor t = router
  · subst hacts
    have hkeys := keysMatch_of_wellFormed (slotAt_wellFormed hwell t (execution.actor t))
    rcases step_cases hkeys (hadds t) (execution.acts t) with
      ⟨⟨packet, hevent⟩, hhears⟩ | ⟨htick, hnone, hchecked⟩ | ⟨htick, hnone, hkept⟩
    · refine .inl ⟨?_, rfl, ⟨packet, hevent⟩, hhears⟩
      rintro ⟨-, htick⟩
      simp [hevent, isTimeoutTick] at htick
    · rw [hconfigured.increments, hconfigured.limits] at hchecked
      exact .inr (.inl ⟨⟨rfl, htick⟩, fun heard hmem => by simp [HeardAt, hnone] at hmem, hchecked⟩)
    · refine .inr (.inr ⟨fun hticks => ?_, fun heard hmem => by simp [HeardAt, hnone] at hmem,
        hkept⟩)
      exact absurd (htick.symm.trans hticks.2) (by simp)
  · refine .inr (.inr ⟨fun hticks => hacts hticks.1, fun heard hmem => hacts hmem.1, ?_⟩)
    rw [slotAt, slotAt, execution.rests t router (Ne.symm hacts)]
    exact .refl _

/-- The router heard the route at time `h`, and from its next hop nothing since; no
more than the ticks since then are counted. -/
structure HeardLast (execution : Execution Router (@Step Driver _)) (increment : UInt64)
    (key : RipRouteKey) (router : Router) (h t : ℕ) (route : RipDbEntry) : Prop where
  before : h < t
  heard : ∃ heard, HeardAt execution key router h heard ∧ heard.1 = route.ripEntry ∧
    heard.2.ifIndex = route.ifIndex
  counted : route.timeoutCnt.toNat ≤
    increment.toNat * occurrences (Ticks execution router) h t
  silent : ∀ u, h < u → u < t → ∀ heard, HeardAt execution key router u heard →
    heard.1.nextHop ≠ route.ripEntry.nextHop

/-- A learned route was heard at `a` or later, or has counted every tick since. -/
def Aged (execution : Execution Router (@Step Driver _)) (increment : UInt64)
    (key : RipRouteKey) (router : Router) (a t : ℕ) (route : RipDbEntry) : Prop :=
  occurrences (Ticks execution router) a t ≤ route.timeoutCnt.toNat ∨
    ∃ h, a ≤ h ∧ HeardLast execution increment key router h t route

theorem HeardLast.succ {increment : UInt64} {key : RipRouteKey} {router : Router} {h t : ℕ}
    {old route : RipDbEntry} (hlast : HeardLast execution increment key router h t old)
    (hsame : SameRoute old route)
    (hsilent : ∀ heard, HeardAt execution key router t heard →
      heard.1.nextHop ≠ old.ripEntry.nextHop)
    (hcounted : route.timeoutCnt.toNat ≤
      increment.toNat * occurrences (Ticks execution router) h (t + 1)) :
    HeardLast execution increment key router h (t + 1) route := by
  refine ⟨Nat.lt_succ_of_lt hlast.before, ?_, hcounted, fun u hhu hut heard hheard => ?_⟩
  · rw [hsame.ripEntry, hsame.ifIndex]
    exact hlast.heard
  · rw [hsame.ripEntry]
    rcases Nat.lt_succ_iff_lt_or_eq.mp hut with hlt | rfl
    · exact hlast.silent u hhu hlt heard hheard
    · exact hsilent heard hheard

theorem Aged.quiet {increment : UInt64} {key : RipRouteKey} {router : Router} {a t : ℕ}
    {old route : RipDbEntry} (haged : Aged execution increment key router a t old) (hat : a ≤ t)
    (htick : ¬Ticks execution router t) (hsame : SameRoute old route)
    (hcnt : route.timeoutCnt = old.timeoutCnt)
    (hsilent : ∀ heard, HeardAt execution key router t heard →
      heard.1.nextHop ≠ old.ripEntry.nextHop) :
    Aged execution increment key router a (t + 1) route := by
  rcases haged with hcounted | ⟨h, hah, hlast⟩
  · rw [Aged, occurrences_succ_of_neg hat htick, hcnt]
    exact .inl hcounted
  · refine .inr ⟨h, hah, hlast.succ hsame hsilent ?_⟩
    rw [occurrences_succ_of_neg hlast.before.le htick, hcnt]
    exact hlast.counted

theorem aged_of_le {increment limit : Router → UInt64}
    (hconfigured : Configured execution increment limit)
    (hwell : ∀ router key, WellFormed key (slotAt execution key 0 router)) {key : RipRouteKey}
    (hadds : ∀ t, ¬AddsRoute key (execution.label t)) (router : Router) {a t : ℕ} (hat : a ≤ t)
    {route : RipDbEntry} (hactive : (slotAt execution key t router).active = some route)
    (hremote : route.isLocal = false) :
    Aged execution (increment router) key router a t route := by
  -- a tick counts, and a response that is not ignored starts anew
  induction t, hat using Nat.le_induction generalizing route with
  | base => exact .inl (by simp)
  | succ t hat ih =>
      rcases slotAt_cases hconfigured hwell hadds t router with
        ⟨htick, hacts, -, hhears⟩ | ⟨htick, hnone, hchecked⟩ | ⟨htick, hnone, hkept⟩
      · obtain ⟨nextHop, hhops⟩ := nextHop_of_heard (execution.label t).2 key
        rcases hears_taken hhops hhears with ⟨hignored, hsame⟩ | htaken
        · rw [hsame] at hactive
          refine (ih hactive hremote).quiet hat htick (.refl _) rfl fun heard hheard hhop => ?_
          have hnil := hignored.eq_nil hactive fun other hother => by
            rw [hhops other hother, ← hhops heard hheard.2, hhop]
          have hmem := hheard.2
          simp [hnil] at hmem
        · obtain ⟨hcnt, heard, hmem, hentry, hindex⟩ := htaken route hactive
          refine .inr ⟨t, hat, Nat.lt_succ_self t, ⟨heard, ⟨hacts, hmem⟩, hentry, hindex⟩, ?_,
            fun u htu hut => by omega⟩
          rw [hcnt]
          exact Nat.zero_le _
      · have hremaining := hchecked.remaining hactive hremote
        rcases hchecked with ⟨_, -, -, -, now, hmoved⟩ | ⟨-, hcount⟩
        · rw [hmoved] at hactive
          simp at hactive
        rw [hcount] at hactive
        obtain ⟨old, hold, rfl⟩ := Option.map_eq_some_iff.mp hactive
        have hsame := sameRoute_countTimeout (increment router) old
        rw [hsame.isLocal] at hremote
        have hcnt : (old.countTimeout (increment router)).timeoutCnt =
            saturatingAdd64 old.timeoutCnt (increment router) := by
          rw [RipDbEntry.countTimeout, if_neg (by simp [hremote])]
        -- a count below the limit has not been cut off
        have hlt := UInt64.lt_iff_toNat_lt.mp hremaining
        have hlimit := (limit router).toNat_lt
        have hpositive := UInt64.lt_iff_toNat_lt.mp (hconfigured.positive router)
        rw [hcnt, saturatingAdd64_toNat] at hlt
        rcases ih hold hremote with hcounted | ⟨h, hah, hlast⟩
        · refine .inl ?_
          rw [occurrences_succ_of_pos hat htick, hcnt, saturatingAdd64_toNat]
          have hzero : (0 : UInt64).toNat = 0 := rfl
          omega
        · refine .inr ⟨h, hah,
            hlast.succ hsame (fun heard hheard => absurd hheard (hnone heard)) ?_⟩
          rw [occurrences_succ_of_pos hlast.before.le htick, hcnt, saturatingAdd64_toNat,
            Nat.mul_succ]
          have hcounted := hlast.counted
          omega
      · obtain ⟨old, hold, hsame, hcnt⟩ := hkept.route hactive
        exact (ih hold (hsame.isLocal.symm.trans hremote)).quiet hat htick hsame hcnt
          fun heard hheard => absurd hheard (hnone heard)

/-- A router that goes on checking for timeouts has in the end only routes that it has
heard since any given time. -/
theorem eventually_heardLast {increment limit : Router → UInt64}
    (hconfigured : Configured execution increment limit)
    (hwell : ∀ router key, WellFormed key (slotAt execution key 0 router)) {key : RipRouteKey}
    (hadds : ∀ t, ¬AddsRoute key (execution.label t)) {router : Router}
    (hticks : ∃ᶠ t in atTop, Ticks execution router t) (a : ℕ) :
    ∀ᶠ t in atTop, ∀ route, (slotAt execution key t router).active = some route →
      route.isLocal = false →
      ∃ h, a ≤ h ∧ HeardLast execution (increment router) key router h t route := by
  filter_upwards [eventually_le_occurrences hticks a UInt64.size, eventually_ge_atTop a]
    with t hmany hat route hactive hremote
  refine (aged_of_le hconfigured hwell hadds router hat hactive hremote).resolve_left ?_
  exact fun hcounted => absurd route.timeoutCnt.toNat_lt_size (by omega)

end Executions

end RipV2.SlotHistories
