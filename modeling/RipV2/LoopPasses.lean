import RipV2.DeamonLoop
import RipV2.ReachableRoutes

namespace RipV2.LoopPasses

open RipV2.AdminInterface
open RipV2.Database
open RipV2.Deamon
open RipV2.Deamon.RipDeamon
open RipV2.DeamonLoop
open RipV2.DeamonLoop.EventLoop
open RipV2.DeamonRuns
open RipV2.DeamonSimulation
open RipV2.DestinationSlots
open RipV2.EffectLogic
open RipV2.HostEnvironment
open RipV2.LocalRoutes
open RipV2.Packets
open RipV2.ReachableRoutes
open RipV2.Results
open RipV2.RoutingTables
open RipV2.TransitionRuns

variable {Driver : Type} [RoutingTableDriver Driver]

/-- The daemon may only have asked its host something. -/
structure Waited (deamon deamon' : RipDeamon Driver) : Prop extends HostOnly deamon deamon' where
  host : deamon.host.Moved deamon'.host
  sent : deamon'.host.sent = deamon.host.sent

omit [RoutingTableDriver Driver] in
theorem Waited.refl (deamon : RipDeamon Driver) : Waited deamon deamon :=
  ⟨.refl deamon, ⟨⟨[], by simp⟩, id⟩, rfl⟩

omit [RoutingTableDriver Driver] in
theorem waited_drawn (deamon : RipDeamon Driver) :
    Waited deamon { deamon with host := deamon.host.drawn } :=
  ⟨⟨rfl, rfl, rfl⟩, moved_drawn deamon.host, rfl⟩

section Arms

variable (loop : EventLoop Driver)

theorem select_requestWarmupTimer_run :
    (select .requestWarmupTimer).run loop =
      match sendMulticastRequest.run loop.deamon with
      | .ok _ deamon => .ok .goOn { loop with deamon, requestWarmupTimer := none }
      | .error e deamon => .error e { loop with deamon, requestWarmupTimer := none } := by
  simp only [select, EStateM.run_bind, EStateM.run_modify, onDeamon, run_zoom]
  cases sendMulticastRequest.run loop.deamon <;> rfl

theorem select_updateTimer_run :
    (select .updateTimer).run loop =
      match (sendMulticastAdvertisement false).run loop.deamon with
      | .ok _ deamon => .ok .goOn { loop with
          deamon := { deamon with host := deamon.host.drawn }
          updateTimer := deamon.host.drawnMillis ripUpdateMinMillis ripUpdateMaxMillis }
      | .error e deamon => .error e { loop with deamon } := by
  have hdraw := run_randomMillisInRange (ε := RipError) ripUpdateMinMillis ripUpdateMaxMillis
  simp only [select, EStateM.run_bind, onDeamon, run_zoom]
  cases (sendMulticastAdvertisement false).run loop.deamon with
  | error e deamon => rfl
  | ok a deamon =>
      simp only [onHost, createUpdateDuration, run_zoom, hdraw]
      rfl

theorem select_timeoutTimer_run :
    (select .timeoutTimer).run loop =
      match (handleRouteTimeoutTick loop.garbageCollectionTimer).run loop.deamon with
      | .ok garbageCollectionTimer deamon => .ok .goOn { loop with
          deamon, garbageCollectionTimer
          timeoutTimer := durationFromSecs (timeoutCheckIntervalSecs deamon.host.answers) }
      | .error e deamon => .error e { loop with deamon } := by
  simp only [select, EStateM.run_bind, EStateM.run_get, onDeamon, run_zoom]
  cases (handleRouteTimeoutTick loop.garbageCollectionTimer).run loop.deamon <;> rfl

theorem select_garbageCollectionTimer_run :
    (select .garbageCollectionTimer).run loop =
      match (handleGarbageCollectionTick none).run loop.deamon with
      | .ok garbageCollectionTimer deamon =>
          .ok .goOn { loop with deamon, garbageCollectionTimer }
      | .error e deamon => .error e { loop with deamon, garbageCollectionTimer := none } := by
  simp only [select, EStateM.run_bind, EStateM.run_modify, EStateM.run_get, onDeamon, run_zoom]
  cases (handleGarbageCollectionTick none).run loop.deamon <;> rfl

theorem select_received_run (packet : RipPacket) :
    (select (.received (some packet))).run loop =
      match (handlePacket packet).run loop.deamon with
      | .ok _ deamon => .ok .goOn { loop with deamon }
      | .error e deamon => .error e { loop with deamon } := by
  simp only [select, EStateM.run_bind, onDeamon, run_zoom]
  cases (handlePacket packet).run loop.deamon <;> rfl

theorem select_httpRequest_run (kind : HttpRequestKind) :
    (select (.httpRequest (some kind))).run loop =
      match (handleHttpRequest kind).run loop.deamon with
      | .ok _ deamon => .ok .goOn { loop with deamon }
      | .error e deamon => .error e { loop with deamon } := by
  simp only [select, EStateM.run_bind, onDeamon, run_zoom]
  cases (handleHttpRequest kind).run loop.deamon <;> rfl

omit [RoutingTableDriver Driver] in
theorem trigger_run :
    trigger.run loop =
      if loop.triggeredUpdateLockTimer.isSome || !loop.deamon.database.anyRouteChanged then
        .ok .goOn loop
      else
        match (sendMulticastAdvertisement true).run loop.deamon with
        | .ok _ deamon => .ok .goOn { loop with
            deamon := { deamon with host := deamon.host.drawn }
            triggeredUpdateLockTimer := some (deamon.host.drawnMillis
              ripTriggeredUpdateLockMinMillis ripTriggeredUpdateLockMaxMillis) }
        | .error e deamon => .error e { loop with deamon } := by
  have hdraw := run_randomMillisInRange (ε := RipError) ripTriggeredUpdateLockMinMillis
    ripTriggeredUpdateLockMaxMillis
  simp only [trigger, EStateM.run_bind, EStateM.run_get, onDeamon, run_zoom,
    maybeSendTriggeredUpdate]
  split_ifs with hskip
  · rfl
  · simp only [EStateM.run_bind]
    cases (sendMulticastAdvertisement true).run loop.deamon with
    | error e deamon => rfl
    | ok a deamon =>
        simp only [onHost, createTriggeredUpdateLockDuration, run_zoom, hdraw]
        rfl

theorem select_handles {event : LoopEvent} {deamonEvent : DeamonEvent}
    (h : event.deamonEvent loop = some deamonEvent) :
    match deamonEvent.handle.run loop.deamon with
    | .ok _ deamon => ∃ selected, (select event).run loop = .ok .goOn selected ∧
        Waited deamon selected.deamon ∧
        selected.triggeredUpdateLockTimer = event.lockTimer loop ∧
        (event ≠ .timeoutTimer → event ≠ .garbageCollectionTimer →
          selected.garbageCollectionTimer = loop.garbageCollectionTimer)
    | .error e deamon => ∃ failed, (select event).run loop = .error e failed ∧
        failed.deamon = deamon := by
  cases event with
  | ctrlC | sigterm | triggeredUpdateLockTimer => simp [LoopEvent.deamonEvent] at h
  | requestWarmupTimer =>
      obtain rfl : DeamonEvent.sendRequests = deamonEvent := by
        simpa [LoopEvent.deamonEvent] using h
      rw [select_requestWarmupTimer_run]
      simp only [DeamonEvent.handle]
      cases sendMulticastRequest.run loop.deamon with
      | ok a deamon => exact ⟨_, rfl, .refl _, rfl, fun _ _ => rfl⟩
      | error e deamon => exact ⟨_, rfl, rfl⟩
  | updateTimer =>
      obtain rfl : DeamonEvent.advertise false = deamonEvent := by
        simpa [LoopEvent.deamonEvent] using h
      rw [select_updateTimer_run]
      simp only [DeamonEvent.handle]
      cases (sendMulticastAdvertisement false).run loop.deamon with
      | ok a deamon =>
          exact ⟨_, rfl, waited_drawn deamon, rfl, fun _ _ => rfl⟩
      | error e deamon => exact ⟨_, rfl, rfl⟩
  | timeoutTimer =>
      obtain rfl : DeamonEvent.routeTimeoutTick loop.garbageCollectionTimer = deamonEvent := by
        simpa [LoopEvent.deamonEvent] using h
      rw [select_timeoutTimer_run]
      simp only [DeamonEvent.handle, EStateM.run_bind]
      cases (handleRouteTimeoutTick loop.garbageCollectionTimer).run loop.deamon with
      | ok a deamon => exact ⟨_, rfl, .refl _, rfl, fun htick => absurd rfl htick⟩
      | error e deamon => exact ⟨_, rfl, rfl⟩
  | garbageCollectionTimer =>
      obtain rfl : DeamonEvent.garbageCollectionTick none = deamonEvent := by
        simpa [LoopEvent.deamonEvent] using h
      rw [select_garbageCollectionTimer_run]
      simp only [DeamonEvent.handle, EStateM.run_bind]
      cases (handleGarbageCollectionTick none).run loop.deamon with
      | ok a deamon => exact ⟨_, rfl, .refl _, rfl, fun _ hcollect => absurd rfl hcollect⟩
      | error e deamon => exact ⟨_, rfl, rfl⟩
  | received packet =>
      cases packet with
      | none => simp [LoopEvent.deamonEvent] at h
      | some packet =>
          obtain rfl : DeamonEvent.received packet = deamonEvent := by
            simpa [LoopEvent.deamonEvent] using h
          rw [select_received_run]
          simp only [DeamonEvent.handle]
          cases (handlePacket packet).run loop.deamon with
          | ok a deamon => exact ⟨_, rfl, .refl _, rfl, fun _ _ => rfl⟩
          | error e deamon => exact ⟨_, rfl, rfl⟩
  | httpRequest request =>
      cases request with
      | none => simp [LoopEvent.deamonEvent] at h
      | some kind =>
          obtain rfl : DeamonEvent.httpRequest kind = deamonEvent := by
            simpa [LoopEvent.deamonEvent] using h
          rw [select_httpRequest_run]
          simp only [DeamonEvent.handle, EStateM.run_bind]
          cases (handleHttpRequest kind).run loop.deamon with
          | ok a deamon => exact ⟨_, rfl, .refl _, rfl, fun _ _ => rfl⟩
          | error e deamon => exact ⟨_, rfl, rfl⟩

theorem select_ok {event : LoopEvent} {deamonEvent : DeamonEvent} {selected : EventLoop Driver}
    (h : event.deamonEvent loop = some deamonEvent)
    (hselect : (select event).run loop = .ok .goOn selected) :
    ∃ deamon, deamonEvent.handle.run loop.deamon = .ok () deamon ∧
      Waited deamon selected.deamon ∧
      selected.triggeredUpdateLockTimer = event.lockTimer loop ∧
      (event ≠ .timeoutTimer → event ≠ .garbageCollectionTimer →
        selected.garbageCollectionTimer = loop.garbageCollectionTimer) := by
  have hhandled := select_handles loop h
  cases hrun : deamonEvent.handle.run loop.deamon with
  | error e deamon =>
      rw [hrun] at hhandled
      obtain ⟨failed, hfailed, -⟩ := hhandled
      exact absurd (hselect.symm.trans hfailed) (by simp)
  | ok a deamon =>
      rw [hrun] at hhandled
      obtain ⟨selected', hselected, hpass⟩ := hhandled
      obtain rfl := (EStateM.Result.ok.inj (hselect.symm.trans hselected)).2
      exact ⟨deamon, rfl, hpass⟩

theorem select_idle {event : LoopEvent} {selected : EventLoop Driver}
    (h : event.deamonEvent loop = none)
    (hselect : (select event).run loop = .ok .goOn selected) :
    selected.deamon = loop.deamon ∧
      selected.garbageCollectionTimer = loop.garbageCollectionTimer ∧
      selected.triggeredUpdateLockTimer = event.lockTimer loop := by
  cases event with
  | requestWarmupTimer | updateTimer | timeoutTimer | garbageCollectionTimer =>
      simp [LoopEvent.deamonEvent] at h
  | ctrlC result =>
      cases result with
      | error e =>
          change EStateM.Result.error _ _ = _ at hselect
          simp at hselect
      | ok a =>
          simp only [select, EStateM.run_bind] at hselect
          split at hselect <;> simp at hselect
  | sigterm =>
      simp only [select, EStateM.run_bind] at hselect
      split at hselect <;> simp at hselect
  | triggeredUpdateLockTimer =>
      change EStateM.Result.ok _ { loop with triggeredUpdateLockTimer := none } = _ at hselect
      obtain rfl := (EStateM.Result.ok.inj hselect).2
      exact ⟨rfl, rfl, rfl⟩
  | received packet =>
      cases packet with
      | none =>
          change EStateM.Result.error _ _ = _ at hselect
          simp at hselect
      | some packet => simp [LoopEvent.deamonEvent] at h
  | httpRequest request =>
      cases request with
      | none =>
          change EStateM.Result.ok _ { loop with httpRequestRx := false } = _ at hselect
          obtain rfl := (EStateM.Result.ok.inj hselect).2
          exact ⟨rfl, rfl, rfl⟩
      | some kind => simp [LoopEvent.deamonEvent] at h

theorem select_lockTimer {event : LoopEvent} {selected : EventLoop Driver}
    (hselect : (select event).run loop = .ok .goOn selected) :
    selected.triggeredUpdateLockTimer = event.lockTimer loop := by
  cases hevent : event.deamonEvent loop with
  | none => exact (select_idle loop hevent hselect).2.2
  | some deamonEvent =>
      obtain ⟨-, -, -, hlock, -⟩ := select_ok loop hevent hselect
      exact hlock

end Arms

section Invariants

variable {I : RipDatabase → Prop}

theorem loopStep_cases {loop loop' : EventLoop Driver} {label : Answers × LoopEvent}
    (h : LoopStep loop label loop') :
    ∃ deamon₀ selected database, loop.ready label.2 = true ∧
      Resumes label.1 loop.deamon deamon₀ ∧
      (select label.2).run { loop with deamon := deamon₀ } = .ok .goOn selected ∧
      selected.deamon.database.Reordered database ∧
      trigger.run { selected with deamon := { selected.deamon with database } } =
        .ok .goOn loop' := by
  rw [LoopStep] at h
  generalize hres : EStateM.Result.ok Control.goOn loop' = res at h
  cases h with
  | ended hready hresumes hselect hends => exact absurd hres.symm (hends loop')
  | triggered hready hresumes hselect hreordered =>
      exact ⟨_, _, _, hready, hresumes, hselect, hreordered, rfl⟩

theorem select_keeps
    (hhandle : ∀ (event : DeamonEvent) (deamon : RipDeamon Driver), I deamon.database →
      I (finalState (event.handle.run deamon)).database)
    {event : LoopEvent} {loop selected : EventLoop Driver}
    (hselect : (select event).run loop = .ok .goOn selected) (h : I loop.deamon.database) :
    I selected.deamon.database := by
  cases hevent : event.deamonEvent loop with
  | none =>
      rw [(select_idle loop hevent hselect).1]
      exact h
  | some deamonEvent =>
      obtain ⟨deamon, hrun, hwaited, -⟩ := select_ok loop hevent hselect
      have hkept := hhandle deamonEvent loop.deamon h
      rw [hrun, finalState_ok] at hkept
      rw [hwaited.database]
      exact hkept

omit [RoutingTableDriver Driver] in
theorem trigger_keeps
    (hadvertise : ∀ deamon : RipDeamon Driver, I deamon.database →
      I (finalState ((sendMulticastAdvertisement true).run deamon)).database)
    {loop loop' : EventLoop Driver} (htrigger : trigger.run loop = .ok .goOn loop')
    (h : I loop.deamon.database) : I loop'.deamon.database := by
  rw [trigger_run] at htrigger
  split_ifs at htrigger
  · obtain rfl := (EStateM.Result.ok.inj htrigger).2
    exact h
  · have hkept := hadvertise loop.deamon h
    cases hrun : (sendMulticastAdvertisement true).run loop.deamon with
    | error e deamon => simp [hrun] at htrigger
    | ok a deamon =>
        rw [hrun] at htrigger hkept
        obtain rfl := (EStateM.Result.ok.inj htrigger).2
        exact hkept

/-- What every handler keeps under any iteration order, a completed pass keeps. -/
theorem loopStep_keeps
    (hreordered : ∀ database database', RipDatabase.Reordered database database' →
      I database → I database')
    (hhandle : ∀ (event : DeamonEvent) (deamon : RipDeamon Driver), I deamon.database →
      I (finalState (event.handle.run deamon)).database)
    {loop loop' : EventLoop Driver} {label : Answers × LoopEvent}
    (hstep : LoopStep loop label loop') (h : I loop.deamon.database) :
    I loop'.deamon.database := by
  obtain ⟨deamon₀, selected, database, -, ⟨database₀, horder₀, rfl⟩, hselect, horder, htrigger⟩ :=
    loopStep_cases hstep
  have hselected := select_keeps hhandle hselect (hreordered _ _ horder₀ h)
  exact trigger_keeps (fun deamon => hhandle (.advertise true) deamon) htrigger
    (hreordered _ _ horder hselected)

end Invariants

def SameDatabase (deamon deamon' : RipDeamon Driver) : Prop :=
  deamon'.database = deamon.database

omit [RoutingTableDriver Driver] in
theorem setupSockets_database (devs : List String) :
    Evolves SameDatabase (setupSockets devs : DeamonM Driver Unit) := by
  have htrans : ∀ a b c : RipDeamon Driver, SameDatabase a b → SameDatabase b c →
      SameDatabase a c := fun _ _ _ h h' => Eq.trans h' h
  rw [setupSockets]
  refine evolves_forM (R := SameDatabase) (fun _ => rfl) htrans fun dev _ => ?_
  refine evolves_bind htrans ?_ fun ifc => evolves_modify fun _ => rfl
  exact evolves_zoom (R := fun _ _ => True)
    (fun deamon host _ => show SameDatabase deamon { deamon with host } from rfl)
    fun _ => trivial

omit [RoutingTableDriver Driver] in
theorem loopInitial_keeps {I : RipDatabase → Prop} (hnew : I RipDatabase.new)
    (hadd : ∀ (network : AdvertisedNetwork) (deamon : RipDeamon Driver), I deamon.database →
      I (finalState ((setupAdvertisedNetwork network).run deamon)).database)
    {loop : EventLoop Driver} (h : LoopInitial loop) :
    I loop.deamon.database ∧ loop.triggeredUpdateLockTimer = none ∧
      loop.garbageCollectionTimer = none := by
  obtain ⟨driver, host, ripCfg, sigterm, deamon, deamon', -, hsetup, henter⟩ := h
  have hdatabase : I deamon.database := by
    cases ripCfg with
    | error e =>
        change EStateM.Result.error _ _ = _ at hsetup
        simp at hsetup
    | ok ripCfg =>
        obtain ⟨_, deamon₁, hsockets, hnetworks⟩ := run_bind_ok hsetup
        have hsame := setupSockets_database ripCfg.ripInterfaces (RipDeamon.new driver host)
        rw [hsockets, finalState_ok, SameDatabase] at hsame
        have hstart : I deamon₁.database := by
          rw [hsame]
          exact hnew
        have hkept := keeps_forM (I := fun deamon : RipDeamon Driver => I deamon.database)
          (fun network (_ : network ∈ ripCfg.advertisedNetworks) => hadd network) hstart
        rw [hnetworks] at hkept
        exact hkept
  cases sigterm with
  | error e =>
      change EStateM.Result.error _ _ = _ at henter
      simp at henter
  | ok a =>
      change EStateM.Result.ok _ _ = _ at henter
      obtain rfl := (EStateM.Result.ok.inj henter).1
      exact ⟨hdatabase, rfl, rfl⟩

omit [RoutingTableDriver Driver] in
theorem loopInitial_garbageRoutes {loop : EventLoop Driver} (h : LoopInitial loop) :
    loop.deamon.database.garbageRoutes = .empty :=
  (loopInitial_keeps (I := fun database => database.garbageRoutes = .empty) rfl
    (fun network deamon hempty =>
      (setupAdvertisedNetwork_garbageRoutes network deamon).trans hempty) h).1

omit [RoutingTableDriver Driver] in
theorem setupAdvertisedNetwork_wellFormed (network : AdvertisedNetwork)
    (deamon : RipDeamon Driver) (hwell : ∀ key, WellFormed key (slot deamon.database key))
    (key : RipRouteKey) : WellFormed key
      (slot (finalState ((setupAdvertisedNetwork network).run deamon)).database key) :=
  simulated_wellFormed (setupAdvertisedNetwork_simulated (.inl rfl) true deamon) hwell key

theorem loop_wellFormed {loop loop' : EventLoop Driver} {labels : List (Answers × LoopEvent)}
    (hinitial : LoopInitial loop) (hrun : Run LoopStep loop labels loop') (key : RipRouteKey) :
    WellFormed key (slot loop'.deamon.database key) := by
  have hstart := (loopInitial_keeps
    (I := fun database => ∀ key, WellFormed key (slot database key)) wellFormed_new
    setupAdvertisedNetwork_wellFormed hinitial).1
  refine hrun.keeps (I := fun loop => ∀ key, WellFormed key (slot loop.deamon.database key))
    (P := fun _ => True) (fun _ _ _ _ hwell hstep => ?_) (by simp) hstart key
  refine loopStep_keeps (I := fun database => ∀ key, WellFormed key (slot database key))
    (fun _ _ horder h key => ?_) (fun event deamon h => ?_) hstep hwell
  · rw [slot_reordered horder key]
    exact h key
  · exact simulated_wellFormed (handle_simulated event deamon (keysMatch_of_wellFormed h)) h

theorem handleShutdown_succeeded (deamon : RipDeamon Driver) :
    succeeded (handleShutdown.run deamon) = true := by
  rw [handleShutdown, EStateM.run_bind, EStateM.run_get]
  simp only [EStateM.run_bind, modifyDatabase, EStateM.run_modify, run_attempt]
  cases (sendMulticastAdvertisement false).run
    { deamon with database := deamon.database.poisonAllRoutes } <;>
  · refine succeeded_forM (I := fun _ => True) (fun route _ deamon _ => ⟨?_, trivial⟩) trivial
    rw [succeeded_discard, run_attempt]
    cases (deleteRoute route).run deamon <;> rfl

theorem select_sigterm_run (loop : EventLoop Driver) :
    (select .sigterm).run loop =
      .ok .stop { loop with deamon := finalState (handleShutdown.run loop.deamon) } := by
  have hsucceeded := handleShutdown_succeeded loop.deamon
  simp only [select, EStateM.run_bind, onDeamon, run_zoom]
  cases hrun : handleShutdown.run loop.deamon with
  | ok a deamon => rfl
  | error e deamon => simp [hrun] at hsucceeded

theorem select_unhandled {event : LoopEvent} {loop : EventLoop Driver}
    (h : event.deamonEvent loop = none) :
    (select event).run loop =
        .ok .stop { loop with deamon := finalState (handleShutdown.run loop.deamon) } ∨
      (∀ loop', (select event).run loop ≠ .ok .stop loop') ∧
        (finalState ((select event).run loop)).deamon = loop.deamon := by
  cases event with
  | requestWarmupTimer | updateTimer | timeoutTimer | garbageCollectionTimer =>
      simp [LoopEvent.deamonEvent] at h
  | ctrlC result =>
      cases result with
      | error e => exact .inr ⟨fun _ => (nomatch ·), rfl⟩
      | ok a => exact .inl (select_sigterm_run loop)
  | sigterm => exact .inl (select_sigterm_run loop)
  | triggeredUpdateLockTimer => exact .inr ⟨fun _ => (nomatch ·), rfl⟩
  | received packet =>
      cases packet with
      | none => exact .inr ⟨fun _ => (nomatch ·), rfl⟩
      | some packet => simp [LoopEvent.deamonEvent] at h
  | httpRequest request =>
      cases request with
      | none => exact .inr ⟨fun _ => (nomatch ·), rfl⟩
      | some kind => simp [LoopEvent.deamonEvent] at h

section DeamonInvariants

variable {I : RipDeamon Driver → Prop}
  (hresumes : ∀ answers deamon deamon', Resumes answers deamon deamon' → I deamon → I deamon')
  (hwaited : ∀ deamon deamon', Waited deamon deamon' → I deamon → I deamon')

include hresumes hwaited

omit [RoutingTableDriver Driver] in
theorem triggered_keeps {selected : EventLoop Driver} {database : RipDatabase}
    (hadvertise : ∀ deamon, I deamon →
      I (finalState ((sendMulticastAdvertisement true).run deamon)))
    (hreordered : selected.deamon.database.Reordered database) (h : I selected.deamon) :
    I (finalState (trigger.run
      { selected with deamon := { selected.deamon with database } })).deamon := by
  have hordered := hresumes selected.deamon.host.answers _ _ ⟨database, hreordered, rfl⟩ h
  have hadvertised := hadvertise _ hordered
  rw [trigger_run]
  split_ifs
  · exact hordered
  · change I (finalState ((sendMulticastAdvertisement true).run
      { selected.deamon with database })) at hadvertised
    cases hrun : (sendMulticastAdvertisement true).run { selected.deamon with database } with
    | ok a deamon =>
        rw [hrun] at hadvertised
        exact hwaited _ _ (waited_drawn deamon) hadvertised
    | error e deamon =>
        rw [hrun] at hadvertised
        exact hadvertised

/-- What the handlers keep, whatever their outcome, a pass keeps unless it shuts the
daemon down. -/
theorem pass_keeps {loop : EventLoop Driver} {label : Answers × LoopEvent}
    {res : EStateM.Result RipError (EventLoop Driver) Control}
    (hhandle : ∀ (event : DeamonEvent) (deamon : RipDeamon Driver),
      label.2.deamonEvent loop = some event ∨ event = .advertise true → I deamon →
        I (finalState (event.handle.run deamon)))
    (hpass : Pass loop label res) (hgoes : ∀ loop', res ≠ .ok .stop loop')
    (h : I loop.deamon) : I (finalState res).deamon := by
  have hselected : ∀ deamon₀, Resumes label.1 loop.deamon deamon₀ →
      (∀ loop', (select label.2).run { loop with deamon := deamon₀ } ≠ .ok .stop loop') →
      I (finalState ((select label.2).run { loop with deamon := deamon₀ })).deamon := by
    intro deamon₀ hresumed hgoes₀
    have hstart := hresumes _ _ _ hresumed h
    have hsame : label.2.deamonEvent { loop with deamon := deamon₀ } =
        label.2.deamonEvent loop := by
      cases label.2 <;> rfl
    cases hevent : label.2.deamonEvent { loop with deamon := deamon₀ } with
    | none =>
        rcases select_unhandled hevent with hstop | ⟨-, hidle⟩
        · exact absurd hstop (hgoes₀ _)
        · rw [hidle]
          exact hstart
    | some deamonEvent =>
        have hkept := hhandle deamonEvent deamon₀ (.inl (hsame.symm.trans hevent)) hstart
        have hhandled := select_handles _ hevent
        cases hrun : deamonEvent.handle.run deamon₀ with
        | ok a deamon =>
            simp only [hrun] at hhandled hkept
            obtain ⟨selected, hselect, hselected, -⟩ := hhandled
            rw [hselect]
            exact hwaited _ _ hselected hkept
        | error e deamon =>
            simp only [hrun] at hhandled hkept
            obtain ⟨failed, hselect, hfailed⟩ := hhandled
            rw [hselect, finalState_error, hfailed]
            exact hkept
  cases hpass with
  | ended hready hresumed hselect hends =>
      rw [← hselect] at hgoes ⊢
      exact hselected _ hresumed hgoes
  | triggered hready hresumed hselect hreordered =>
      have hkept := hselected _ hresumed (by simp [hselect])
      rw [hselect, finalState_ok] at hkept
      exact triggered_keeps hresumes hwaited
        (fun deamon => hhandle (.advertise true) deamon (.inr rfl)) hreordered hkept

end DeamonInvariants

/-- The loop still listens for the same requests. -/
def SameReceiver (loop loop' : EventLoop Driver) : Prop :=
  loop'.httpRequestRx = loop.httpRequestRx

omit [RoutingTableDriver Driver] in
theorem onDeamon_sameReceiver {α : Type} (m : DeamonM Driver α) :
    Evolves SameReceiver (onDeamon m) :=
  evolves_zoom (R := fun _ _ => True)
    (fun loop deamon _ => show SameReceiver loop { loop with deamon } from rfl) fun _ => trivial

theorem select_sameReceiver {event : LoopEvent} (hevent : event ≠ .httpRequest none) :
    Evolves SameReceiver (select event : LoopM Driver Control) := by
  have htrans : ∀ a b c : EventLoop Driver, SameReceiver a b → SameReceiver b c →
      SameReceiver a c := fun _ _ _ h h' => Eq.trans h' h
  have hbind {α β : Type} {x : LoopM Driver α} {f : α → LoopM Driver β}
      (hx : Evolves SameReceiver x) (hf : ∀ a, Evolves SameReceiver (f a)) :
      Evolves SameReceiver (x >>= f) := evolves_bind htrans hx hf
  have hmodify {f : EventLoop Driver → EventLoop Driver} (hf : ∀ loop, SameReceiver loop (f loop)) :
      Evolves SameReceiver (modify f : LoopM Driver Unit) := evolves_modify hf
  have hpure (control : Control) :
      Evolves SameReceiver (pure control : LoopM Driver Control) := fun _ => rfl
  have hget : Evolves SameReceiver (get : LoopM Driver (EventLoop Driver)) := fun _ => rfl
  cases event with
  | ctrlC result =>
      cases result with
      | error e => exact fun _ => rfl
      | ok a => exact hbind (onDeamon_sameReceiver _) fun _ => hpure _
  | sigterm => exact hbind (onDeamon_sameReceiver _) fun _ => hpure _
  | requestWarmupTimer =>
      exact hbind (hmodify fun _ => rfl) fun _ => hbind (onDeamon_sameReceiver _) fun _ => hpure _
  | updateTimer =>
      exact hbind (onDeamon_sameReceiver _) fun _ => hbind (onDeamon_sameReceiver _) fun _ =>
        hbind (hmodify fun _ => rfl) fun _ => hpure _
  | triggeredUpdateLockTimer => exact hbind (hmodify fun _ => rfl) fun _ => hpure _
  | timeoutTimer =>
      exact hbind hget fun _ => hbind (onDeamon_sameReceiver _) fun _ =>
        hbind (hmodify fun _ => rfl) fun _ => hbind (hmodify fun _ => rfl) fun _ => hpure _
  | garbageCollectionTimer =>
      exact hbind (hmodify fun _ => rfl) fun _ => hbind hget fun _ =>
        hbind (onDeamon_sameReceiver _) fun _ => hbind (hmodify fun _ => rfl) fun _ => hpure _
  | received packet =>
      cases packet with
      | none => exact fun _ => rfl
      | some packet => exact hbind (onDeamon_sameReceiver _) fun _ => hpure _
  | httpRequest request =>
      cases request with
      | none => exact absurd rfl hevent
      | some kind => exact hbind (onDeamon_sameReceiver _) fun _ => hpure _

omit [RoutingTableDriver Driver] in
theorem trigger_sameReceiver (loop : EventLoop Driver) :
    SameReceiver loop (finalState (trigger.run loop)) := by
  rw [trigger_run]
  split_ifs
  · rfl
  · cases (sendMulticastAdvertisement true).run loop.deamon <;> rfl

theorem loopStep_httpRequestRx {loop loop' : EventLoop Driver} {label : Answers × LoopEvent}
    (h : LoopStep loop label loop') :
    (label.2 = .httpRequest none → loop'.httpRequestRx = false) ∧
      (label.2 ≠ .httpRequest none → loop'.httpRequestRx = loop.httpRequestRx) := by
  obtain ⟨deamon₀, selected, database, -, -, hselect, -, htrigger⟩ := loopStep_cases h
  have hlast := trigger_sameReceiver
    { selected with deamon := { selected.deamon with database } }
  rw [htrigger, finalState_ok, SameReceiver] at hlast
  refine ⟨fun hevent => ?_, fun hevent => ?_⟩
  · rw [hevent] at hselect
    change EStateM.Result.ok _ { loop with deamon := deamon₀, httpRequestRx := false } = _
      at hselect
    obtain rfl := (EStateM.Result.ok.inj hselect).2
    exact hlast
  · have hkept := select_sameReceiver hevent { loop with deamon := deamon₀ }
    rw [hselect, finalState_ok, SameReceiver] at hkept
    exact hlast.trans hkept

theorem exists_pass {loop : EventLoop Driver} {label : Answers × LoopEvent}
    (hready : loop.ready label.2 = true) : ∃ res, Pass loop label res := by
  have hresumes : Resumes label.1 loop.deamon
      { loop.deamon with host := loop.deamon.host.renew label.1 } := ⟨_, .refl _, rfl⟩
  by_cases hgoes : ∃ selected, (select label.2).run { loop with
      deamon := { loop.deamon with host := loop.deamon.host.renew label.1 } } = .ok .goOn selected
  · obtain ⟨selected, hselect⟩ := hgoes
    exact ⟨_, .triggered hready hresumes hselect (.refl _)⟩
  · exact ⟨_, .ended hready hresumes rfl fun selected hselect => hgoes ⟨selected, hselect⟩⟩

theorem pass_closed {loop : EventLoop Driver} {answers : Answers}
    {res : EStateM.Result RipError (EventLoop Driver) Control}
    (hpass : Pass loop (answers, .received none) res) :
    ∃ deamon₀, Resumes answers loop.deamon deamon₀ ∧
      res = .error (.ioError "all RIP receive tasks stopped") { loop with deamon := deamon₀ } := by
  cases hpass with
  | ended hready hresumes hselect hends => exact ⟨_, hresumes, hselect.symm⟩
  | triggered hready hresumes hselect hreordered =>
      change EStateM.Result.error _ _ = _ at hselect
      simp at hselect

theorem pass_stop {loop loop' : EventLoop Driver} {label : Answers × LoopEvent}
    (hpass : Pass loop label (.ok .stop loop')) :
    ∃ deamon₀, Resumes label.1 loop.deamon deamon₀ ∧
      loop'.deamon = finalState (handleShutdown.run deamon₀) := by
  generalize hres : EStateM.Result.ok Control.stop loop' = res at hpass
  cases hpass with
  | ended hready hresumed hselect hends =>
      rename_i deamon₀
      refine ⟨deamon₀, hresumed, ?_⟩
      cases hevent : label.2.deamonEvent { loop with deamon := deamon₀ } with
      | none =>
          rcases select_unhandled hevent with hstop | ⟨hgoes, -⟩
          · obtain rfl := (EStateM.Result.ok.inj (hres.trans (hselect.symm.trans hstop))).2
            rfl
          · exact absurd (hselect.trans hres.symm) (hgoes loop')
      | some deamonEvent =>
          have hhandled := select_handles _ hevent
          rw [hselect, ← hres] at hhandled
          split at hhandled <;> simp at hhandled
  | triggered hready hresumed hselect hreordered =>
      rw [trigger_run] at hres
      split_ifs at hres
      · simp at hres
      · split at hres <;> simp at hres

end RipV2.LoopPasses
