import RipV2.HeardEntries
import RipV2.LoopEvaluation

namespace RipV2.GarbageTimers

open RipV2.AdminInterface
open RipV2.Database
open RipV2.Deamon
open RipV2.Deamon.RipDeamon
open RipV2.DeamonLoop
open RipV2.DeamonLoop.EventLoop
open RipV2.DeamonRuns
open RipV2.DeamonSimulation
open RipV2.DestinationSlots
open RipV2.EffectLogic
open RipV2.HashMapModel
open RipV2.HeardEntries
open RipV2.HostEnvironment
open RipV2.KernelRoutes
open RipV2.LocalRoutes
open RipV2.LoopEvaluation
open RipV2.LoopPasses
open RipV2.Packets
open RipV2.ReachableRoutes
open RipV2.RoutingTables
open RipV2.TransitionRuns

/-- The entry withdraws the active route, and the handler moves it to garbage. -/
def withdraws (entry : RipEntry) (ifInfo : RipIfInfo) (s : Slot) : Bool :=
  match verdict s.active entry ifInfo with
  | .poison _ => true
  | _ => false

/-- The entry is learned, and the handler removes the destination from garbage. -/
def learns (entry : RipEntry) (ifInfo : RipIfInfo) (s : Slot) : Bool :=
  match verdict s.active entry ifInfo with
  | .learn => true
  | _ => false

/-- One of the entries withdraws the active route, and no later one is learned. -/
def strands : List (RipEntry × RipIfInfo) → Slot → Bool
  | [], _ => false
  | (entry, ifInfo) :: entries, s =>
      withdraws entry ifInfo s && !meets learns entries (s.hear 0 entry ifInfo) ||
        strands entries (s.hear 0 entry ifInfo)

theorem learns_similar (entry : RipEntry) (ifInfo : RipIfInfo) (s s' : Slot)
    (h : Similar s s') : learns entry ifInfo s = learns entry ifInfo s' := by
  rw [learns, learns, h.active]

theorem strands_similar (entries : List (RipEntry × RipIfInfo)) {s s' : Slot}
    (h : Similar s s') : strands entries s = strands entries s' := by
  induction entries generalizing s s' with
  | nil => rfl
  | cons heard entries ih =>
      obtain ⟨entry, ifInfo⟩ := heard
      have hnext := h.hear 0 0 entry ifInfo
      rw [strands, strands, withdraws, withdraws, h.active,
        meets_similar learns_similar entries hnext, ih hnext]

theorem garbage_hear (now : Instant) (entry : RipEntry) (ifInfo : RipIfInfo) (s : Slot) :
    (s.hear now entry ifInfo).garbage.isSome =
      (withdraws entry ifInfo s || (s.garbage.isSome && !learns entry ifInfo s)) := by
  rw [Slot.hear, withdraws, learns]
  cases verdict s.active entry ifInfo <;> simp

theorem hears_garbage {s t : Slot} {entries : List (RipEntry × RipIfInfo)}
    (h : Hears s entries t) :
    t.garbage.isSome = (strands entries s || (s.garbage.isSome && !meets learns entries s)) := by
  induction h with
  | nil s => simp [strands, meets]
  | @cons s t entry ifInfo entries now _ ih =>
      have hnext := (HeardEntries.Similar.refl s).hear 0 now entry ifInfo
      rw [ih, strands, meets, garbage_hear, strands_similar entries hnext,
        meets_similar learns_similar entries hnext]
      cases withdraws entry ifInfo s <;> cases learns entry ifInfo s <;>
        cases meets learns entries (s.hear now entry ifInfo) <;> simp

theorem hasGarbageRoutes_iff {database : RipDatabase} :
    database.hasGarbageRoutes = true ↔
      ∃ key, (slot database key).garbage.isSome = true := by
  have hentries : database.hasGarbageRoutes = true ↔
      ∃ entry, entry ∈ database.garbageRoutes.entries := by
    rw [RipDatabase.hasGarbageRoutes, Bool.not_eq_true', ← Bool.not_eq_true, List.isEmpty_iff]
    exact ⟨List.exists_mem_of_ne_nil _, fun ⟨_, hmem⟩ => List.ne_nil_of_mem hmem⟩
  rw [hentries]
  constructor
  · rintro ⟨⟨key, route⟩, hmem⟩
    exact ⟨key, by rw [slot_garbage, HashMap.mem_entries_iff.mp hmem]; rfl⟩
  · rintro ⟨key, hsome⟩
    obtain ⟨route, hroute⟩ := Option.isSome_iff_exists.mp hsome
    exact ⟨(key, route), HashMap.mem_entries_iff.mpr hroute⟩

/-- The same destinations are in garbage. -/
def SameGarbage (database database' : RipDatabase) : Prop :=
  ∀ key, (slot database' key).garbage.isSome = (slot database key).garbage.isSome

theorem SameGarbage.hasGarbageRoutes {database database' : RipDatabase}
    (h : SameGarbage database database') :
    database'.hasGarbageRoutes = database.hasGarbageRoutes := by
  rw [Bool.eq_iff_iff, hasGarbageRoutes_iff, hasGarbageRoutes_iff]
  exact exists_congr fun key => by rw [h key]

theorem sameGarbage_reordered {database database' : RipDatabase}
    (h : database.Reordered database') : SameGarbage database database' :=
  fun key => by rw [slot_reordered h key]

section Advertisements

variable {Driver : Type}

theorem sendMulticastAdvertisement_sameGarbage (changedOnly : Bool) (deamon : RipDeamon Driver) :
    SameGarbage deamon.database
      (finalState ((sendMulticastAdvertisement changedOnly).run deamon)).database := by
  rw [sendMulticastAdvertisement_run]
  split
  · intro key
    rw [finalState_ok, slot_markAllRoutesAsUnchanged]
    split_ifs
    · simp [Slot.unflag]
    · rfl
  · exact fun _ => rfl

theorem setupAdvertisedNetwork_sameGarbage (network : AdvertisedNetwork)
    (deamon : RipDeamon Driver) : SameGarbage deamon.database
      (finalState ((setupAdvertisedNetwork network).run deamon)).database := by
  intro key
  rw [slot_garbage, slot_garbage, setupAdvertisedNetwork_garbageRoutes]

theorem handleHttpRequest_sameGarbage (kind : HttpRequestKind) (deamon : RipDeamon Driver) :
    SameGarbage deamon.database
      (finalState ((handleHttpRequest kind).run deamon)).database := by
  cases kind with
  | getRoutes => exact fun _ => rfl
  | addLocalRoute network =>
      have hadded := setupAdvertisedNetwork_sameGarbage network deamon
      simp only [handleHttpRequest, EStateM.run_bind, run_attempt]
      cases hrun : (setupAdvertisedNetwork network).run deamon <;>
        (rw [hrun] at hadded; exact hadded)

theorem timeoutCheck_sameGarbage (deamon : RipDeamon Driver) :
    SameGarbage deamon.database (timeoutCheck deamon).2 := by
  intro key
  rw [timeoutCheck, slot_collectTimedOutRoutes]
  rfl

end Advertisements

variable {Driver : Type} [RoutingTableDriver Driver]

/-- Whenever a route is in garbage, a collection is pending. -/
def GarbageArmed (loop : EventLoop Driver) : Prop :=
  loop.deamon.database.hasGarbageRoutes = true → loop.garbageCollectionTimer.isSome = true

/-- The event strands a route in garbage while the timer is not armed. -/
def StrandsUntimed (loop : EventLoop Driver) (event : LoopEvent) : Prop :=
  loop.garbageCollectionTimer = none ∧ ∃ packet key, event = .received (some packet) ∧
    strands ((DeamonEvent.received packet).heard key) (slot loop.deamon.database key) = true

omit [RoutingTableDriver Driver] in
theorem garbageArmed_congr (loop loop' : EventLoop Driver)
    (hsame : SameGarbage loop.deamon.database loop'.deamon.database)
    (htimer : loop'.garbageCollectionTimer = loop.garbageCollectionTimer) :
    GarbageArmed loop' ↔ GarbageArmed loop := by
  rw [GarbageArmed, GarbageArmed, hsame.hasGarbageRoutes, htimer]

omit [RoutingTableDriver Driver] in
theorem GarbageArmed.congr {loop loop' : EventLoop Driver} (h : GarbageArmed loop)
    (hsame : SameGarbage loop.deamon.database loop'.deamon.database)
    (htimer : loop'.garbageCollectionTimer = loop.garbageCollectionTimer) : GarbageArmed loop' :=
  (garbageArmed_congr loop loop' hsame htimer).mpr h

omit [RoutingTableDriver Driver] in
theorem not_strandsUntimed {loop : EventLoop Driver} {event : LoopEvent}
    (h : ∀ packet, event ≠ .received (some packet)) : ¬StrandsUntimed loop event := by
  rintro ⟨-, packet, key, hevent, -⟩
  exact h packet hevent

omit [RoutingTableDriver Driver] in
theorem GarbageArmed.ungarbaged {loop : EventLoop Driver} (h : GarbageArmed loop)
    (htimer : loop.garbageCollectionTimer = none) (key : RipRouteKey) :
    (slot loop.deamon.database key).garbage.isSome = false := by
  rw [← Bool.not_eq_true]
  intro hsome
  have harmed := h (hasGarbageRoutes_iff.mpr ⟨key, hsome⟩)
  rw [htimer] at harmed
  exact Bool.false_ne_true harmed

theorem select_received_garbageArmed {packet : RipPacket} {loop selected : EventLoop Driver}
    (hkeys : KeysMatch loop.deamon.database) (harmed : GarbageArmed loop)
    (hselect : (select (.received (some packet))).run loop = .ok .goOn selected) :
    GarbageArmed selected ↔ ¬StrandsUntimed loop (.received (some packet)) := by
  rw [select_received_run] at hselect
  cases hrun : (handlePacket packet).run loop.deamon with
  | error e deamon => simp [hrun] at hselect
  | ok a deamon =>
      rw [hrun] at hselect
      obtain rfl := (EStateM.Result.ok.inj hselect).2
      have hgarbage := fun key => hears_garbage (handlePacket_ok_hears hkeys hrun key)
      cases htimer : loop.garbageCollectionTimer with
      | some duration =>
          refine iff_of_true (fun _ => by simp) ?_
          rintro ⟨hnone, -⟩
          exact absurd (htimer.symm.trans hnone) (by simp)
      | none =>
          have hstranded : ∀ key, (slot deamon.database key).garbage.isSome =
              strands ((DeamonEvent.received packet).heard key)
                (slot loop.deamon.database key) := by
            intro key
            rw [hgarbage, harmed.ungarbaged htimer, Bool.false_and, Bool.or_false]
          constructor
          · rintro harmed' ⟨-, packet', key, hevent, hstrands⟩
            obtain rfl : packet = packet' := by simpa using hevent
            have hsome := harmed'
              (hasGarbageRoutes_iff.mpr ⟨key, (hstranded key).trans hstrands⟩)
            exact absurd hsome Bool.false_ne_true
          · intro hquiet hgarbage'
            obtain ⟨key, hkey⟩ := hasGarbageRoutes_iff.mp hgarbage'
            exact absurd ⟨htimer, packet, key, rfl, (hstranded key).symm.trans hkey⟩ hquiet

theorem select_timeoutTimer_garbageArmed {loop selected : EventLoop Driver}
    (harmed : GarbageArmed loop)
    (hselect : (select .timeoutTimer).run loop = .ok .goOn selected) : GarbageArmed selected := by
  rw [select_timeoutTimer_run, handleRouteTimeoutTick_run] at hselect
  cases htimedOut : (timeoutCheck loop.deamon).1 with
  | nil =>
      rw [htimedOut] at hselect
      obtain rfl := (EStateM.Result.ok.inj hselect).2
      exact harmed.congr (timeoutCheck_sameGarbage loop.deamon) rfl
  | cons route routes =>
      rw [htimedOut] at hselect
      generalize ((route :: routes).forM expireRoute).run
        { loop.deamon with database := (timeoutCheck loop.deamon).2 } = res at hselect
      cases res with
      | error e deamon => simp at hselect
      | ok a deamon =>
          obtain rfl := (EStateM.Result.ok.inj hselect).2
          intro _
          cases loop.garbageCollectionTimer <;> rfl

theorem select_garbageCollectionTimer_garbageArmed {loop selected : EventLoop Driver}
    (hselect : (select .garbageCollectionTimer).run loop = .ok .goOn selected) :
    GarbageArmed selected := by
  rw [select_garbageCollectionTimer_run, handleGarbageCollectionTick_run] at hselect
  obtain rfl := (EStateM.Result.ok.inj hselect).2
  intro hgarbage
  simp [show (garbageCollection loop.deamon).hasGarbageRoutes = true from hgarbage]

theorem GarbageArmed.select {event : LoopEvent} {deamonEvent : DeamonEvent}
    {loop selected : EventLoop Driver} (harmed : GarbageArmed loop)
    (hevent : event.deamonEvent loop = some deamonEvent) (htick : event ≠ .timeoutTimer)
    (hcollect : event ≠ .garbageCollectionTimer)
    (hsame : SameGarbage loop.deamon.database
      (finalState (deamonEvent.handle.run loop.deamon)).database)
    (hselect : (select event).run loop = .ok .goOn selected) : GarbageArmed selected := by
  obtain ⟨deamon, hrun, hwaited, -, htimer⟩ := select_ok loop hevent hselect
  rw [hrun, finalState_ok, ← hwaited.database] at hsame
  exact harmed.congr hsame (htimer htick hcollect)

theorem select_garbageArmed {event : LoopEvent} {loop selected : EventLoop Driver}
    (hkeys : KeysMatch loop.deamon.database) (harmed : GarbageArmed loop)
    (hselect : (select event).run loop = .ok .goOn selected) :
    GarbageArmed selected ↔ ¬StrandsUntimed loop event := by
  cases hevent : event.deamonEvent loop with
  | none =>
      obtain ⟨hdeamon, htimer, -⟩ := select_idle loop hevent hselect
      have hsame : SameGarbage loop.deamon.database selected.deamon.database := by
        rw [hdeamon]
        exact fun _ => rfl
      refine iff_of_true (harmed.congr hsame htimer) (not_strandsUntimed ?_)
      rintro packet rfl
      simp [LoopEvent.deamonEvent] at hevent
  | some deamonEvent =>
      cases event with
      | ctrlC | sigterm | triggeredUpdateLockTimer => simp [LoopEvent.deamonEvent] at hevent
      | requestWarmupTimer =>
          refine iff_of_true ?_ (not_strandsUntimed fun _ => by simp)
          have hhost := sendMulticastRequest_hostOnly loop.deamon
          refine harmed.select rfl (by simp) (by simp) (fun key => ?_) hselect
          rw [DeamonEvent.handle, hhost.database]
      | updateTimer =>
          refine iff_of_true ?_ (not_strandsUntimed fun _ => by simp)
          refine harmed.select rfl (by simp) (by simp) ?_ hselect
          exact sendMulticastAdvertisement_sameGarbage false loop.deamon
      | timeoutTimer =>
          refine iff_of_true ?_ (not_strandsUntimed fun _ => by simp)
          exact select_timeoutTimer_garbageArmed harmed hselect
      | garbageCollectionTimer =>
          refine iff_of_true ?_ (not_strandsUntimed fun _ => by simp)
          exact select_garbageCollectionTimer_garbageArmed hselect
      | received packet =>
          cases packet with
          | none => simp [LoopEvent.deamonEvent] at hevent
          | some packet => exact select_received_garbageArmed hkeys harmed hselect
      | httpRequest request =>
          cases request with
          | none => simp [LoopEvent.deamonEvent] at hevent
          | some kind =>
              refine iff_of_true ?_ (not_strandsUntimed fun _ => by simp)
              refine harmed.select rfl (by simp) (by simp) ?_ hselect
              have hsame := handleHttpRequest_sameGarbage kind loop.deamon
              rw [DeamonEvent.handle, EStateM.run_bind]
              cases hrun : (handleHttpRequest kind).run loop.deamon <;>
                (rw [hrun] at hsame; exact hsame)

omit [RoutingTableDriver Driver] in
theorem trigger_garbageArmed {loop loop' : EventLoop Driver}
    (htrigger : trigger.run loop = .ok .goOn loop') : GarbageArmed loop' ↔ GarbageArmed loop := by
  rw [trigger_run] at htrigger
  split_ifs at htrigger
  · obtain rfl := (EStateM.Result.ok.inj htrigger).2
    rfl
  · have hsame := sendMulticastAdvertisement_sameGarbage true loop.deamon
    cases hrun : (sendMulticastAdvertisement true).run loop.deamon with
    | error e deamon => simp [hrun] at htrigger
    | ok a deamon =>
        rw [hrun] at htrigger hsame
        obtain rfl := (EStateM.Result.ok.inj htrigger).2
        exact ⟨fun h => h.congr (fun key => (hsame key).symm) rfl, fun h => h.congr hsame rfl⟩

theorem loopStep_garbageArmed {loop loop' : EventLoop Driver} {label : Answers × LoopEvent}
    (hkeys : KeysMatch loop.deamon.database) (harmed : GarbageArmed loop)
    (hstep : LoopStep loop label loop') :
    GarbageArmed loop' ↔ ¬StrandsUntimed loop label.2 := by
  obtain ⟨_, selected, database, -, ⟨database₀, horder₀, rfl⟩, hselect, horder, htrigger⟩ :=
    loopStep_cases hstep
  have harmed₀ : GarbageArmed { loop with deamon :=
      { loop.deamon with database := database₀, host := loop.deamon.host.renew label.1 } } :=
    harmed.congr (sameGarbage_reordered horder₀) rfl
  have hselected := select_garbageArmed (hkeys.reordered horder₀) harmed₀ hselect
  have hreordered : GarbageArmed { selected with deamon := { selected.deamon with database } } ↔
      GarbageArmed selected := garbageArmed_congr selected _ (sameGarbage_reordered horder) rfl
  rw [trigger_garbageArmed htrigger, hreordered, hselected]
  simp only [StrandsUntimed, slot_reordered horder₀]

/-- A completed pass that strands no route in garbage untimed. -/
def TimedStep (loop : EventLoop Driver) (label : Answers × LoopEvent) (loop' : EventLoop Driver) :
    Prop :=
  LoopStep loop label loop' ∧ ¬StrandsUntimed loop label.2

theorem timed_garbageArmed {loop₀ loop : EventLoop Driver} {labels : List (Answers × LoopEvent)}
    (hinitial : LoopInitial loop₀) (hrun : Run TimedStep loop₀ labels loop) :
    GarbageArmed loop := by
  induction hrun with
  | nil =>
      intro hgarbage
      obtain ⟨key, hkey⟩ := hasGarbageRoutes_iff.mp hgarbage
      rw [slot_garbage, loopInitial_garbageRoutes hinitial] at hkey
      exact absurd hkey (by simp)
  | snoc hrest hstep ih =>
      have hwell := loop_wellFormed hinitial (hrest.mono fun _ _ _ _ h => h.1)
      exact (loopStep_garbageArmed (keysMatch_of_wellFormed hwell) ih hstep.1).mpr hstep.2

/-- Over runs that strand no route untimed the timer is armed whenever there is
garbage, and the next pass keeps it so exactly if it strands none. -/
theorem run_garbageArmed {loop₀ loop : EventLoop Driver} {labels : List (Answers × LoopEvent)}
    (hinitial : LoopInitial loop₀) (hrun : Run TimedStep loop₀ labels loop) :
    GarbageArmed loop ∧ ∀ label loop', LoopStep loop label loop' →
      (GarbageArmed loop' ↔ ¬StrandsUntimed loop label.2) := by
  have hwell := loop_wellFormed hinitial (hrun.mono fun _ _ _ _ h => h.1)
  have harmed := timed_garbageArmed hinitial hrun
  exact ⟨harmed, fun label loop' hstep =>
    loopStep_garbageArmed (keysMatch_of_wellFormed hwell) harmed hstep⟩

theorem strands_of_reachable {entries : List (RipEntry × RipIfInfo)}
    (h : ∀ heard ∈ entries, heard.1.metric < ripInfinityMetric) (s : Slot) :
    strands entries s = false := by
  induction entries generalizing s with
  | nil => rfl
  | cons heard entries ih =>
      obtain ⟨entry, ifInfo⟩ := heard
      have hmetric := h (entry, ifInfo) (by simp)
      have hkeeps : withdraws entry ifInfo s = false := by
        rw [withdraws]
        split
        · rename_i old hverdict
          exact absurd (verdict_poison hverdict).2.1 (UInt32.not_le.mpr hmetric)
        · rfl
      rw [strands, hkeeps, Bool.false_and, Bool.false_or]
      exact ih (fun heard' hmem => h heard' (by simp [hmem])) _

theorem timeout_garbageArmed :
    ∃ loop₀ loop : EventLoop Kernel, LoopInitial loop₀ ∧
      Run TimedStep loop₀ [offer farNetwork 1, (impatient, .timeoutTimer)] loop ∧
      loop.deamon.database.hasGarbageRoutes = true ∧
      loop.garbageCollectionTimer.isSome = true := by
  have hany : (startLoop Kernel.empty { answers := steady, sent := [] } twoInterfaces).any
      (fun loop => (runPasses loop [offer farNetwork 1, (impatient, .timeoutTimer)]).any
        fun loop => loop.deamon.database.hasGarbageRoutes) = true := by
    decide +kernel
  obtain ⟨loop₀, loop, hinitial, hrun, hgarbage⟩ := exists_loopRun rfl hany
  have htimed : Run TimedStep loop₀ [offer farNetwork 1, (impatient, .timeoutTimer)] loop := by
    refine hrun.mono fun label hlabel loop₁ loop₂ hstep => ⟨hstep, ?_⟩
    simp only [List.mem_cons, List.not_mem_nil, or_false] at hlabel
    rcases hlabel with rfl | rfl
    · rintro ⟨-, packet, key, hevent, hstrands⟩
      obtain rfl : responseFrom neighbour eth1 [plainEntry farNetwork 1] = packet := by
        simpa [offer] using hevent
      rw [strands_of_reachable] at hstrands
      · exact Bool.false_ne_true hstrands
      · rintro ⟨entry, ifInfo⟩ hmem
        obtain ⟨raw, hraw, hentry, -⟩ := mem_routeEntries_iff.mp hmem
        obtain rfl := List.mem_singleton.mp hraw
        obtain ⟨-, rfl⟩ := responseEntryToRoute_eq hentry
        change updateMetric 1 < ripInfinityMetric
        decide
    · exact not_strandsUntimed fun _ => by simp
  exact ⟨loop₀, loop, hinitial, htimed, hgarbage, (run_garbageArmed hinitial htimed).1 hgarbage⟩

/-- The far network is learned and withdrawn: it is in garbage and no collection
is pending. -/
theorem withdrawn_route_untimed :
    ∃ loop₀ loop : EventLoop Kernel, LoopInitial loop₀ ∧
      Run LoopStep loop₀ [offer farNetwork 1, offer farNetwork 16] loop ∧
      ¬GarbageArmed loop := by
  have hany : (startLoop Kernel.empty { answers := steady, sent := [] } twoInterfaces).any
      (fun loop => (runPasses loop [offer farNetwork 1, offer farNetwork 16]).any fun loop =>
        loop.deamon.database.hasGarbageRoutes && loop.garbageCollectionTimer.isNone) = true := by
    decide +kernel
  obtain ⟨loop₀, loop, hinitial, hrun, hend⟩ := exists_loopRun rfl hany
  rw [Bool.and_eq_true, Option.isNone_iff_eq_none] at hend
  refine ⟨loop₀, loop, hinitial, hrun, fun harmed => ?_⟩
  simpa [hend.2] using harmed hend.1

end RipV2.GarbageTimers
