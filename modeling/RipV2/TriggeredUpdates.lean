import RipV2.ChangeFlags
import RipV2.LoopEvaluation

namespace RipV2.TriggeredUpdates

open RipV2.ChangeFlags
open RipV2.Database
open RipV2.Deamon
open RipV2.Deamon.RipDeamon
open RipV2.DeamonLoop
open RipV2.DeamonLoop.EventLoop
open RipV2.DeamonRuns
open RipV2.DeamonSimulation
open RipV2.EffectLogic
open RipV2.HostEnvironment
open RipV2.KernelRoutes
open RipV2.LoopEvaluation
open RipV2.LoopPasses
open RipV2.Results
open RipV2.RoutingTables
open RipV2.TransitionRuns
open RipV2.Updater

variable {Driver : Type} [RoutingTableDriver Driver]

theorem loop_flagSound {loop loop' : EventLoop Driver} {labels : List (Answers × LoopEvent)}
    (hinitial : LoopInitial loop) (hrun : Run LoopStep loop labels loop') :
    FlagSound loop'.deamon.database := by
  have hnew : FlagSound RipDatabase.new := by
    intro route hmem
    simp [RipDatabase.mem_allRoutes_iff, RipDatabase.new] at hmem
  have hstart := (loopInitial_keeps hnew
    (fun network => flagKept.quiet.setupAdvertisedNetwork network) hinitial).1
  exact flagKept.run (fun _ _ => id) hrun hstart

/-- The databases that a pass goes through, whatever the arm is and however it ends. -/
inductive Seen (loop : EventLoop Driver) : RipDatabase → Prop
  | resumed {database : RipDatabase} (horder : loop.deamon.database.Reordered database) :
      Seen loop database
  | poisoned {database : RipDatabase} (horder : loop.deamon.database.Reordered database) :
      Seen loop database.poisonAllRoutes
  | selected {label : Answers × LoopEvent} {deamon₀ : RipDeamon Driver} {database : RipDatabase}
      (hready : loop.ready label.2 = true) (hresumes : Resumes label.1 loop.deamon deamon₀)
      (horder : (finalState ((select label.2).run
        { loop with deamon := deamon₀ })).deamon.database.Reordered database) :
      Seen loop database
  | ended {label : Answers × LoopEvent}
      {res : EStateM.Result RipError (EventLoop Driver) Control} (hpass : Pass loop label res) :
      Seen loop (finalState res).deamon.database

theorem Seen.flagSound {loop : EventLoop Driver} {database : RipDatabase}
    (h : Seen loop database) (hsound : FlagSound loop.deamon.database) : FlagSound database := by
  cases h with
  | resumed horder => exact hsound.reordered horder
  | poisoned horder => exact (poisonAllRoutes_flagging _).flagSound (hsound.reordered horder)
  | @selected label _ _ hready hresumes horder =>
      obtain ⟨database₀, horder₀, rfl⟩ := hresumes
      exact FlagSound.reordered
        (flagKept.select label.2 _ (hsound.reordered horder₀)) horder
  | ended hpass => exact flagKept.pass (fun _ _ => id) hpass hsound

/-- A completed pass that ends with a triggered update. -/
inductive TriggeredUpdate (loop : EventLoop Driver) (label : Answers × LoopEvent)
    (loop' : EventLoop Driver) : Prop
  | sent {deamon₀ : RipDeamon Driver} {selected : EventLoop Driver} {database : RipDatabase}
      (hready : loop.ready label.2 = true) (hresumes : Resumes label.1 loop.deamon deamon₀)
      (hselect : (select label.2).run { loop with deamon := deamon₀ } = .ok .goOn selected)
      (hreordered : selected.deamon.database.Reordered database)
      (hunlocked : selected.triggeredUpdateLockTimer = none)
      (hchanged : database.anyRouteChanged = true)
      (htrigger : trigger.run { selected with deamon := { selected.deamon with database } } =
        .ok .goOn loop') : TriggeredUpdate loop label loop'

omit [RoutingTableDriver Driver] in
theorem trigger_locked {loop loop' : EventLoop Driver}
    (htrigger : trigger.run loop = .ok .goOn loop')
    (hlocked : loop.triggeredUpdateLockTimer.isSome = true) : loop' = loop := by
  rw [trigger_run, if_pos (by simp [hlocked])] at htrigger
  exact (EStateM.Result.ok.inj htrigger).2.symm

omit [RoutingTableDriver Driver] in
theorem trigger_sends {loop loop' : EventLoop Driver}
    (htrigger : trigger.run loop = .ok .goOn loop')
    (hunlocked : loop.triggeredUpdateLockTimer = none)
    (hchanged : loop.deamon.database.anyRouteChanged = true) :
    loop'.triggeredUpdateLockTimer.isSome = true ∧
      loop'.deamon.database = loop.deamon.database.markAllRoutesAsUnchanged ∧
      ∃ sent, loop'.deamon.host.sent = loop.deamon.host.sent ++ sent ∧
        ∀ route ∈ loop.deamon.database.allRoutes, route.changed = true →
          Announced loop.deamon.interfaces route.ifIndex route.advertised sent := by
  rw [trigger_run, if_neg (by simp [hunlocked, hchanged])] at htrigger
  cases hrun : (sendMulticastAdvertisement true).run loop.deamon with
  | error e deamon => simp [hrun] at htrigger
  | ok a deamon =>
      rw [hrun] at htrigger
      obtain rfl := (EStateM.Result.ok.inj htrigger).2
      obtain ⟨host, rfl, hsent⟩ := sendMulticastAdvertisement_ok hrun
      refine ⟨rfl, rfl, _, hsent, fun route hmem hflag => ?_⟩
      exact announced_advertisement _ _ hmem fun _ => hflag

theorem loopStep_locked {loop loop' : EventLoop Driver} {label : Answers × LoopEvent}
    (h : LoopStep loop label loop')
    (hchanged : loop'.deamon.database.anyRouteChanged = true) :
    loop'.triggeredUpdateLockTimer.isSome = true := by
  obtain ⟨deamon₀, selected, database, -, -, -, -, htrigger⟩ := loopStep_cases h
  cases hlock : selected.triggeredUpdateLockTimer with
  | some duration =>
      obtain rfl := trigger_locked htrigger (by simp [hlock])
      simp [hlock]
  | none =>
      cases hany : database.anyRouteChanged with
      | true => exact (trigger_sends htrigger hlock hany).1
      | false =>
          rw [trigger_run, if_pos (by simp [hany])] at htrigger
          obtain rfl := (EStateM.Result.ok.inj htrigger).2
          exact absurd hchanged (by simp [hany])

theorem TriggeredUpdate.locked {loop loop' : EventLoop Driver} {label : Answers × LoopEvent}
    (h : TriggeredUpdate loop label loop') : loop'.triggeredUpdateLockTimer.isSome = true := by
  cases h with
  | sent hready hresumes hselect hreordered hunlocked hchanged htrigger =>
      exact (trigger_sends htrigger hunlocked hchanged).1

omit [RoutingTableDriver Driver] in
theorem lockTimer_of_ne {event : LoopEvent} (h : event ≠ .triggeredUpdateLockTimer)
    (loop : EventLoop Driver) : event.lockTimer loop = loop.triggeredUpdateLockTimer := by
  cases event <;> first | rfl | exact absurd rfl h

theorem loopStep_keeps_lock {loop loop' : EventLoop Driver} {label : Answers × LoopEvent}
    (h : LoopStep loop label loop') (hlabel : label.2 ≠ .triggeredUpdateLockTimer)
    (hlocked : loop.triggeredUpdateLockTimer.isSome = true) :
    loop'.triggeredUpdateLockTimer.isSome = true := by
  obtain ⟨deamon₀, selected, database, -, -, hselect, -, htrigger⟩ := loopStep_cases h
  have hlock := select_lockTimer _ hselect
  rw [lockTimer_of_ne hlabel] at hlock
  obtain rfl := trigger_locked htrigger (by simp [hlock, hlocked])
  simp [hlock, hlocked]

theorem TriggeredUpdate.unlocked {loop loop' : EventLoop Driver} {label : Answers × LoopEvent}
    (h : TriggeredUpdate loop label loop') :
    label.2 = .triggeredUpdateLockTimer ∨ loop.triggeredUpdateLockTimer = none := by
  cases h with
  | sent hready hresumes hselect hreordered hunlocked hchanged htrigger =>
      by_cases hlabel : label.2 = .triggeredUpdateLockTimer
      · exact .inl hlabel
      · rw [select_lockTimer _ hselect, lockTimer_of_ne hlabel] at hunlocked
        exact .inr hunlocked

/-- The lock that a triggered update arms has expired when the next one is sent. -/
theorem lock_expires_between {loop loop₁ loop₂ loop₃ : EventLoop Driver}
    {label label' : Answers × LoopEvent} {between : List (Answers × LoopEvent)}
    (hfirst : TriggeredUpdate loop label loop₁) (hrun : Run LoopStep loop₁ between loop₂)
    (hsecond : TriggeredUpdate loop₂ label' loop₃) :
    ∃ answers, (answers, LoopEvent.triggeredUpdateLockTimer) ∈ between ++ [label'] := by
  by_contra hnone
  have hother : ∀ label'' ∈ between ++ [label'], label''.2 ≠ .triggeredUpdateLockTimer := by
    rintro ⟨answers, event⟩ hmem rfl
    exact hnone ⟨answers, hmem⟩
  have hlocked : loop₂.triggeredUpdateLockTimer.isSome = true :=
    hrun.keeps (I := fun loop => loop.triggeredUpdateLockTimer.isSome = true)
      (P := fun label => label.2 ≠ .triggeredUpdateLockTimer)
      (fun _ _ _ hlabel hlocked hstep => loopStep_keeps_lock hstep hlabel hlocked)
      (fun label'' hmem => hother label'' (by simp [hmem])) hfirst.locked
  rcases hsecond.unlocked with hlabel | hunlocked
  · exact hother label' (by simp) hlabel
  · simp [hunlocked] at hlocked

theorem mem_allRoutes_reordered {database database' : RipDatabase}
    (h : database.Reordered database') {route : RipDbEntry} :
    route ∈ database'.allRoutes ↔ route ∈ database.allRoutes := by
  simp only [RipDatabase.mem_allRoutes_iff, h.okRoutes.lookup_eq, h.garbageRoutes.lookup_eq]

theorem lock_expiry_sends {loop loop' : EventLoop Driver} {answers : Answers}
    (hsound : FlagSound loop.deamon.database)
    (h : LoopStep loop (answers, .triggeredUpdateLockTimer) loop')
    (hchanged : loop.deamon.database.anyRouteChanged = true) :
    TriggeredUpdate loop (answers, .triggeredUpdateLockTimer) loop' ∧
      ∃ sent, loop'.deamon.host.sent = loop.deamon.host.sent ++ sent ∧
        (∀ route ∈ loop.deamon.database.allRoutes, route.changed = true →
          Announced loop.deamon.interfaces route.ifIndex route.advertised sent) ∧
        ∀ route ∈ loop'.deamon.database.allRoutes, route.changed = false := by
  obtain ⟨deamon₀, selected, database, hready, hresumes, hselect, horder, htrigger⟩ :=
    loopStep_cases h
  have hlock := select_lockTimer _ hselect
  have hidle := (select_idle _ rfl hselect).1
  have hupdate := hresumes
  obtain ⟨database₀, horder₀, rfl⟩ := hresumes
  simp only at hidle
  rw [hidle] at horder
  have hany : database.anyRouteChanged = true := by
    rw [← horder.anyRouteChanged, ← horder₀.anyRouteChanged, hchanged]
  obtain ⟨-, hdatabase, sent, hsent, hannounced⟩ := trigger_sends htrigger hlock hany
  refine ⟨.sent hready hupdate hselect (hidle ▸ horder) hlock hany htrigger, sent, ?_, ?_, ?_⟩
  · rw [hsent, hidle]
    rfl
  · intro route hmem hflag
    have hmem' : route ∈ database.allRoutes :=
      (mem_allRoutes_reordered horder).mpr ((mem_allRoutes_reordered horder₀).mpr hmem)
    have htold := hannounced route hmem' hflag
    rwa [hidle] at htold
  · rw [hdatabase]
    exact unchanged_of_markAllRoutesAsUnchanged
      (FlagSound.reordered (hsound.reordered horder₀) horder)

/-- In every reachable state a changed route has the flag of the database set, so
clearing the flags skips no route. A change that is pending after a pass has the
lock armed and is told when the lock expires, which happens between any two
triggered updates. -/
theorem loop_pending_change {loop₀ loop : EventLoop Driver} {labels : List (Answers × LoopEvent)}
    (hinitial : LoopInitial loop₀) (hrun : Run LoopStep loop₀ labels loop) :
    (∀ database, Seen loop database → FlagSound database ∧
      ∀ route ∈ database.markAllRoutesAsUnchanged.allRoutes, route.changed = false) ∧
    (∀ label loop', LoopStep loop label loop' →
      loop'.deamon.database.anyRouteChanged = true →
        loop'.triggeredUpdateLockTimer.isSome = true) ∧
    (∀ answers loop', LoopStep loop (answers, .triggeredUpdateLockTimer) loop' →
      loop.deamon.database.anyRouteChanged = true →
        TriggeredUpdate loop (answers, .triggeredUpdateLockTimer) loop' ∧
        ∃ sent, loop'.deamon.host.sent = loop.deamon.host.sent ++ sent ∧
          (∀ route ∈ loop.deamon.database.allRoutes, route.changed = true →
            Announced loop.deamon.interfaces route.ifIndex route.advertised sent) ∧
          ∀ route ∈ loop'.deamon.database.allRoutes, route.changed = false) ∧
    ∀ label loop₁ between loop₂ label' loop₃, TriggeredUpdate loop label loop₁ →
      Run LoopStep loop₁ between loop₂ → TriggeredUpdate loop₂ label' loop₃ →
      ∃ answers, (answers, LoopEvent.triggeredUpdateLockTimer) ∈ between ++ [label'] := by
  have hsound := loop_flagSound hinitial hrun
  refine ⟨fun database hseen => ?_, fun _ _ hstep => loopStep_locked hstep,
    fun _ _ hstep => lock_expiry_sends hsound hstep,
    fun _ _ _ _ _ _ hfirst hbetween hsecond => lock_expires_between hfirst hbetween hsecond⟩
  have hdatabase := hseen.flagSound hsound
  exact ⟨hdatabase, unchanged_of_markAllRoutesAsUnchanged hdatabase⟩

/-- 10.4.0.0/16 -/
def otherNetwork : RipRouteKey := { ipAddress := 0x0a040000, subnetMask := 0xffff0000 }

/-- The second network is learned while the lock is armed. -/
def heldBackEvents : List (Answers × LoopEvent) :=
  [offer farNetwork 1, offer otherNetwork 1]

theorem heldBackEvents_pending_change :
    ∃ loop₀ loop loop' : EventLoop Kernel, LoopInitial loop₀ ∧
      Run LoopStep loop₀ heldBackEvents loop ∧
      LoopStep loop (steady, .triggeredUpdateLockTimer) loop' ∧
      ∃ route sent, loop.deamon.database.okRoutes.lookup otherNetwork = some route ∧
        loop'.deamon.host.sent = loop.deamon.host.sent ++ sent ∧
        Announced loop.deamon.interfaces 2 route.advertised sent := by
  have hany : (startLoop Kernel.empty { answers := steady, sent := [] } twoInterfaces).any
      (fun loop => (runPasses loop heldBackEvents).any fun loop =>
        ((loop.deamon.database.okRoutes.lookup otherNetwork).any fun route =>
          route.changed && decide (route.ifIndex = 2)) &&
        (loop.deamon.database.anyRouteChanged &&
          (runPass loop (steady, .triggeredUpdateLockTimer)).isSome)) = true := by
    decide +kernel
  obtain ⟨loop₀, loop, hinitial, hrun, hend⟩ := exists_loopRun rfl hany
  rw [Bool.and_eq_true, Bool.and_eq_true, Option.any_eq_true] at hend
  obtain ⟨⟨route, hroute, hflag⟩, hchanged, hpass⟩ := hend
  rw [Bool.and_eq_true, decide_eq_true_eq] at hflag
  obtain ⟨loop', hloop'⟩ := Option.isSome_iff_exists.mp hpass
  have hstep := runPass_loopStep hloop'
  obtain ⟨-, -, hexpiry, -⟩ := loop_pending_change hinitial hrun
  obtain ⟨-, sent, hsent, htold, -⟩ := hexpiry _ _ hstep hchanged
  refine ⟨loop₀, loop, loop', hinitial, hrun, hstep, route, sent, hroute, hsent, ?_⟩
  rw [← hflag.2]
  exact htold route (RipDatabase.mem_allRoutes_iff.mpr (.inl ⟨_, hroute⟩)) hflag.1

end RipV2.TriggeredUpdates
