import RipV2.KernelRoutes

/-!
Local routes stay as they are, unless a response from the address 0.0.0.0, which
is the next hop of local routes, names their destination.
-/

namespace RipV2.ProtectedLocalRoutes

open RipV2.Database
open RipV2.Deamon
open RipV2.DeamonRuns
open RipV2.DeamonSimulation
open RipV2.DestinationSlots
open RipV2.EffectLogic
open RipV2.HostEnvironment
open RipV2.KernelRoutes
open RipV2.Packets
open RipV2.ReachableRoutes
open RipV2.RoutingTables
open RipV2.TransitionRuns

/-- The slot still holds `route`, up to its `changed` flag and its timeout counter. -/
def Holds (route : RipDbEntry) (s : Slot) : Prop :=
  ∃ route', s.active = some route' ∧ SameRoute route route'

/-- The destination has no active route, or a learned one. -/
def NotLocal (s : Slot) : Prop :=
  ∀ route, s.active = some route → route.isLocal = false

theorem Holds.not_notLocal {route : RipDbEntry} {s : Slot} (h : Holds route s)
    (hlocal : route.isLocal = true) : ¬NotLocal s := by
  obtain ⟨route', hactive, hsame⟩ := h
  intro hnot
  have hfalse := hnot route' hactive
  rw [hsame.isLocal, hlocal] at hfalse
  exact absurd hfalse (by simp)

theorem hear_local {event : DeamonEvent} {key : RipRouteKey} {s : Slot} {route : RipDbEntry}
    {entry : RipEntry} {ifInfo : RipIfInfo} (hwell : WellFormed key s)
    (hactive : s.active = some route) (hlocal : route.isLocal = true)
    (hentry : FromPacket event key entry ifInfo) (now : Instant) :
    if entry.nextHop = 0 then NotLocal (s.hear now entry ifInfo)
    else s.hear now entry ifInfo = s := by
  obtain ⟨hmetric, hhop, -⟩ := (hwell.active route hactive).isLocal hlocal
  have hcurrent : routeIsFromCurrentNextHop route entry = decide (entry.nextHop = 0) := by
    rw [routeIsFromCurrentNextHop, hhop, Bool.eq_iff_iff, beq_iff_eq, decide_eq_true_eq]
    exact eq_comm
  have hentryMetric : 2 ≤ entry.metric.toNat := by
    obtain ⟨-, packet, raw, -, -, -, hraw, -⟩ := hentry
    obtain ⟨hlow, -, hnext⟩ := responseEntryToRoute_metric hraw
    omega
  have hworse : ¬entry.metric < route.ripEntry.metric := by
    rw [hmetric, UInt32.lt_iff_toNat_lt]
    change ¬entry.metric.toNat < 1
    omega
  split_ifs with hzero
  · have hverdict : verdict s.active entry ifInfo = .poison route ∨
        verdict s.active entry ifInfo = .update route := by
      have hdiffers : ¬(route.ripEntry = entry ∧ route.ifIndex = ifInfo.ifIndex ∧
          route.ifName = ifInfo.ifName) := by
        rintro ⟨rfl, -⟩
        rw [hmetric] at hentryMetric
        exact absurd hentryMetric (by decide)
      rw [hactive, verdict, hcurrent, if_neg hdiffers, decide_eq_true hzero]
      by_cases hinfinity : entry.metric ≥ ripInfinityMetric
      · exact .inl (by rw [if_pos hinfinity, if_pos rfl])
      · exact .inr (by rw [if_neg hinfinity, if_pos rfl])
    intro learned hlearned
    rcases hverdict with hverdict | hverdict
    · simp [Slot.hear, hverdict] at hlearned
    · obtain rfl : learnedRoute entry ifInfo = learned := by
        simpa [Slot.hear, hverdict] using hlearned
      rfl
  · have hverdict : verdict s.active entry ifInfo = .ignore := by
      rw [hactive, verdict, hcurrent, decide_eq_false hzero]
      simp [hworse]
    rw [Slot.hear, hverdict]

theorem Holds.step {answers : Answers} {event : DeamonEvent} {key : RipRouteKey} {s s' : Slot}
    {action : SlotAction} {route : RipDbEntry} (hlocal : route.isLocal = true)
    (hcaused : CausedBy answers event key action)
    (hheard : ∀ entry ifInfo, action.heard? = some (entry, ifInfo) → entry.nextHop ≠ 0)
    (hwell : WellFormed key s) (hs : Holds route s) (hstep : SlotStep s action s') :
    Holds route s' := by
  obtain ⟨route₁, hactive, hsame⟩ := hs
  have hlocal₁ : route₁.isLocal = true := hsame.isLocal.trans hlocal
  cases hstep with
  | heard _ now entry ifInfo =>
      have hhear := hear_local hwell hactive hlocal₁ hcaused now
      rw [if_neg (hheard entry ifInfo rfl)] at hhear
      rw [hhear]
      exact ⟨route₁, hactive, hsame⟩
  | refused _ entry ifInfo =>
      rw [Slot.refuse]
      split
      · rename_i old hverdict
        obtain rfl : route₁ = old :=
          Option.some.inj (hactive.symm.trans (verdict_update hverdict).1)
        exact ⟨_, rfl, hsame.trans (sameRoute_refreshed route₁)⟩
      · exact ⟨route₁, hactive, hsame⟩
  | added garbage newRoute => simp at hactive
  | counted _ increment =>
      refine ⟨route₁.countTimeout increment, ?_, hsame.trans (sameRoute_countTimeout _ _)⟩
      rw [Slot.count, hactive]
      rfl
  | expired old garbage limit now htimedOut =>
      obtain rfl : old = route₁ := by simpa using hactive
      simp [RipDbEntry.timedOut, hlocal₁] at htimedOut
  | collected => exact ⟨route₁, hactive, hsame⟩
  | unflagged =>
      refine ⟨route₁.unchanged, ?_, hsame.trans (sameRoute_unchanged _)⟩
      rw [Slot.unflag, hactive]
      rfl

theorem NotLocal.step {s s' : Slot} {action : SlotAction}
    (hadded : ∀ route, action ≠ .added route) (hs : NotLocal s)
    (hstep : SlotStep s action s') : NotLocal s' := by
  intro route hroute
  rcases active_origin hstep hroute with ⟨old, hold, hsame⟩ | ⟨_, _, _, -, rfl, -⟩ | hadds
  · rw [hsame.isLocal]
    exact hs old hold
  · rfl
  · exact absurd hadds (hadded route)

variable {Driver : Type} [RoutingTableDriver Driver]

/-- The event is a response from 0.0.0.0 with a valid entry for `key`. -/
def ClaimsLocalRoute (key : RipRouteKey) (event : DeamonEvent) : Prop :=
  ∃ packet raw, event = .received packet ∧ accepted packet = true ∧ packet.source.ip = 0 ∧
    raw ∈ packet.data.entries ∧ isEntryValid raw = true ∧ buildRouteKey raw = key

/-- A step that claims no destination of an active local route. -/
def HonestStep (deamon : RipDeamon Driver) (label : Answers × DeamonEvent)
    (deamon' : RipDeamon Driver) : Prop :=
  Attempted deamon label deamon' ∧ ∀ key route,
    deamon.database.okRoutes.lookup key = some route → route.isLocal = true →
      ¬ClaimsLocalRoute key label.2

theorem handle_holds {event : DeamonEvent} {deamon : RipDeamon Driver} {key : RipRouteKey}
    {route : RipDbEntry} (hwell : ∀ key, WellFormed key (slot deamon.database key))
    (hlocal : route.isLocal = true) (hholds : Holds route (slot deamon.database key))
    (hclaims : ¬ClaimsLocalRoute key event) :
    Holds route (slot (finalState (event.handle.run deamon)).database key) := by
  obtain ⟨actions, hrun, hcaused, -⟩ :=
    handle_simulated event _ (keysMatch_of_wellFormed hwell) key
  refine (hrun.keeps (I := fun s => WellFormed key s ∧ Holds route s)
    (P := CausedBy deamon.host.answers event key) ?_ hcaused ⟨hwell key, hholds⟩).2
  rintro s action s' hcause ⟨hs, hroute⟩ hstep
  refine ⟨hs.step ⟨_, _, hcause⟩ hstep, hroute.step hlocal hcause ?_ hs hstep⟩
  intro entry ifInfo hheard hzero
  cases action with
  | heard now entry' ifInfo' =>
      obtain ⟨rfl, rfl⟩ : entry' = entry ∧ ifInfo' = ifInfo := by
        simpa [SlotAction.heard?] using hheard
      obtain ⟨hkey, packet, raw, rfl, haccepted, hraw, hentry, -⟩ := hcause
      obtain ⟨hvalid, rfl⟩ := responseEntryToRoute_eq hentry
      exact hclaims ⟨packet, raw, rfl, haccepted, hzero, hraw, hvalid, hkey⟩
  | _ => simp [SlotAction.heard?] at hheard

theorem run_notLocal {answers : Answers} {packet : RipPacket} {key : RipRouteKey} {s s' : Slot}
    {actions : List SlotAction} {route : RipDbEntry} (hsource : packet.source.ip = 0)
    (hlocal : route.isLocal = true) (hwell : WellFormed key s) (hholds : Holds route s)
    (hrun : Run SlotStep s actions s')
    (hcaused : ∀ action ∈ actions, CausedBy answers (.received packet) key action) :
    WellFormed key s' ∧ if actions.filterMap SlotAction.heard? = [] then Holds route s'
      else NotLocal s' := by
  induction hrun with
  | nil => exact ⟨hwell, hholds⟩
  | @snoc actions t u action _ hstep ih =>
      obtain ⟨hwell', hstate⟩ := ih fun action' hmem => hcaused action' (by simp [hmem])
      have hcause := hcaused action (by simp)
      refine ⟨hwell'.step ⟨_, _, hcause⟩ hstep, ?_⟩
      simp only [List.filterMap_append, List.append_eq_nil_iff]
      have hadded : ∀ newRoute, action ≠ .added newRoute := by
        rintro newRoute rfl
        obtain ⟨network, -, hnetwork, -⟩ := hcause
        simp [AddsNetwork] at hnetwork
      split_ifs at hstate with hnone
      · cases hheard : action.heard? with
        | none =>
            rw [if_pos ⟨hnone, by simp [hheard]⟩]
            exact hstate.step hlocal hcause (by simp [hheard]) hwell' hstep
        | some heard =>
            rw [if_neg (by simp [hheard])]
            cases hstep with
            | heard _ now entry ifInfo =>
                obtain ⟨route', hactive, hsame⟩ := hstate
                have hhear := hear_local hwell' hactive (hsame.isLocal.trans hlocal) hcause now
                obtain ⟨-, packet', raw, hpacket, -, -, hentry, -⟩ := hcause
                obtain rfl := DeamonEvent.received.inj hpacket
                obtain ⟨-, rfl⟩ := responseEntryToRoute_eq hentry
                rwa [if_pos hsource] at hhear
            | _ => simp [SlotAction.heard?] at hheard
      · rw [if_neg (by simp [hnone])]
        exact hstate.step hadded hstep

theorem step_notLocal {deamon deamon' : RipDeamon Driver} {label : Answers × DeamonEvent}
    {key : RipRouteKey} {route : RipDbEntry}
    (hwell : ∀ key, WellFormed key (slot deamon.database key)) (hlocal : route.isLocal = true)
    (hholds : Holds route (slot deamon.database key)) (hclaims : ClaimsLocalRoute key label.2)
    (hstep : Step deamon label deamon') : NotLocal (slot deamon'.database key) := by
  obtain ⟨packet, raw, hevent, haccepted, hsource, hraw, hvalid, hkey⟩ := hclaims
  obtain ⟨actions, hrun, hcaused, hheard⟩ :=
    outcome_simulated hstep (keysMatch_of_wellFormed hwell) key
  rw [hevent] at hcaused hheard
  have hentries : actions.filterMap SlotAction.heard? ≠ [] := by
    have hentry : ({ raw with metric := updateMetric raw.metric, nextHop := packet.source.ip },
        packet.ifInfo) ∈ routeEntries packet key packet.data.entries :=
      mem_routeEntries_iff.mpr
        ⟨raw, hraw, by rw [responseEntryToRoute, hvalid]; rfl, hkey, rfl⟩
    rw [hheard rfl]
    simp only [DeamonEvent.heard, haccepted, if_true]
    exact List.ne_nil_of_mem hentry
  have hend := (run_notLocal hsource hlocal (hwell key) hholds hrun hcaused).2
  rwa [if_neg hentries] at hend

theorem attempted_holds {deamon deamon' : RipDeamon Driver} {label : Answers × DeamonEvent}
    {key : RipRouteKey} {route : RipDbEntry}
    (hwell : ∀ key, WellFormed key (slot deamon.database key)) (hlocal : route.isLocal = true)
    (hholds : Holds route (slot deamon.database key)) (hclaims : ¬ClaimsLocalRoute key label.2)
    (hstep : Attempted deamon label deamon') : Holds route (slot deamon'.database key) := by
  obtain ⟨res, ⟨deamon₀, ⟨database, hreordered, rfl⟩, rfl⟩, rfl⟩ := hstep
  have hslot := slot_reordered hreordered
  refine handle_holds (fun key => ?_) hlocal ?_ hclaims
  · rw [hslot key]
    exact hwell key
  · rw [hslot key]
    exact hholds

theorem run_holds {deamon₀ deamon deamon' : RipDeamon Driver}
    {labels labels' : List (Answers × DeamonEvent)} {key : RipRouteKey} {route : RipDbEntry}
    (hinitial : Initial deamon₀) (hreached : Run Attempted deamon₀ labels deamon)
    (hlocal : route.isLocal = true) (hholds : Holds route (slot deamon.database key))
    (hrun : Run HonestStep deamon labels' deamon') :
    Holds route (slot deamon'.database key) := by
  induction hrun with
  | nil => exact hholds
  | snoc hrest hstep ih =>
      have hwell := run_wellFormed hinitial
        (hreached.append (hrest.mono fun _ _ _ _ h => h.1))
      obtain ⟨route', hactive, hsame⟩ := ih
      exact attempted_holds hwell hlocal ⟨route', hactive, hsame⟩
        (hstep.2 key route' hactive (hsame.isLocal.trans hlocal)) hstep.1

/-- From any reachable state on, a local route is never removed, replaced or
altered, as long as no response from 0.0.0.0 names the destination of a local
route; the first handled response that does ends its being local. -/
theorem run_holds_localRoute {deamon₀ deamon deamon' : RipDeamon Driver}
    {labels labels' : List (Answers × DeamonEvent)} {key : RipRouteKey} {route : RipDbEntry}
    (hinitial : Initial deamon₀) (hreached : Run Attempted deamon₀ labels deamon)
    (hactive : deamon.database.okRoutes.lookup key = some route) (hlocal : route.isLocal = true)
    (hrun : Run HonestStep deamon labels' deamon') :
    Holds route (slot deamon'.database key) ∧
      ∀ label deamon'', Step deamon' label deamon'' →
        (Holds route (slot deamon''.database key) ↔ ¬ClaimsLocalRoute key label.2) := by
  have hholds := run_holds hinitial hreached hlocal ⟨route, hactive, .refl route⟩ hrun
  have hwell := run_wellFormed hinitial (hreached.append (hrun.mono fun _ _ _ _ h => h.1))
  refine ⟨hholds, fun label deamon'' hstep => ⟨fun hkept hclaims => ?_, fun hclaims => ?_⟩⟩
  · exact hkept.not_notLocal hlocal (step_notLocal hwell hlocal hholds hclaims hstep)
  · exact attempted_holds hwell hlocal hholds hclaims (attempted_of_step hstep)

def localNetworkEvent : Answers × DeamonEvent :=
  (steady, .addLocalRoute { address := "10.1.0.0", prefixLen := 16, dev := "eth0" })

/-- A neighbour offers the destination of a local route. -/
def offerEvent : Answers × DeamonEvent :=
  (steady, .received (responseFrom neighbour eth1 [plainEntry nearNetwork 1]))

theorem offerEvent_holds_localRoute :
    ∃ deamon deamon' route, Run Step learningDeamon [localNetworkEvent] deamon ∧
      Run HonestStep deamon [offerEvent] deamon' ∧
      deamon.database.okRoutes.lookup nearNetwork = some route ∧
      Holds route (slot deamon'.database nearNetwork) := by
  have hany : (runEvents learningDeamon [localNetworkEvent]).any (fun deamon =>
      (deamon.database.okRoutes.lookup nearNetwork).any (fun route => route.isLocal) &&
        (runEvents deamon [offerEvent]).any fun _ => true) = true := by decide +kernel
  obtain ⟨deamon, hreached, hend⟩ := exists_run hany
  rw [Bool.and_eq_true, Option.any_eq_true] at hend
  obtain ⟨⟨route, hactive, hlocal⟩, hoffer⟩ := hend
  obtain ⟨deamon', hrun, -⟩ := exists_run hoffer
  have hhonest : Run HonestStep deamon [offerEvent] deamon' := by
    refine hrun.mono fun label hlabel _ _ hstep => ⟨attempted_of_step hstep, ?_⟩
    rintro key _ _ _ ⟨packet, raw, hevent, -, hsource, -⟩
    obtain rfl := List.mem_singleton.mp hlabel
    obtain rfl := DeamonEvent.received.inj hevent
    exact absurd hsource (by decide)
  exact ⟨deamon, deamon', route, hreached, hhonest, hactive,
    (run_holds_localRoute ⟨rfl, rfl⟩ (run_attempted hreached) hactive hlocal hhonest).1⟩

/-- The same offer with 0.0.0.0 as its source. -/
def claimEvent : Answers × DeamonEvent :=
  (steady, .received (responseFrom 0 eth1 [plainEntry nearNetwork 1]))

/-- It takes the place of the local route, for which it claims to be the next hop. -/
theorem claimEvent_replaces_localRoute :
    ∃ deamon deamon' route, Run Step learningDeamon [localNetworkEvent] deamon ∧
      deamon.database.okRoutes.lookup nearNetwork = some route ∧ route.isLocal = true ∧
      Run Step deamon [claimEvent] deamon' ∧
      ¬Holds route (slot deamon'.database nearNetwork) := by
  have hany : (runEvents learningDeamon [localNetworkEvent]).any (fun deamon =>
      (deamon.database.okRoutes.lookup nearNetwork).any (fun route => route.isLocal) &&
        (runEvents deamon [claimEvent]).any fun deamon' =>
          (deamon'.database.okRoutes.lookup nearNetwork).any fun route => !route.isLocal) =
      true := by decide +kernel
  obtain ⟨deamon, hreached, hend⟩ := exists_run hany
  rw [Bool.and_eq_true, Option.any_eq_true] at hend
  obtain ⟨⟨route, hactive, hlocal⟩, hclaim⟩ := hend
  obtain ⟨deamon', hrun, hreplaced⟩ := exists_run hclaim
  obtain ⟨learned, hlearned, hremote⟩ := (Option.any_eq_true _ _).mp hreplaced
  refine ⟨deamon, deamon', route, hreached, hactive, hlocal, hrun, fun hholds => ?_⟩
  refine hholds.not_notLocal hlocal fun route' hroute' => ?_
  obtain rfl := Option.some.inj (hlearned.symm.trans hroute')
  simpa using hremote

end RipV2.ProtectedLocalRoutes
