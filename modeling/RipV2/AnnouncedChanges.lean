import RipV2.TriggeredUpdates

/-!
A route's flag is cleared only once the route has been told on every interface
it is to be told on. Garbage collection looks at the age of a route alone and may
drop one whose flag is still set.
-/

namespace RipV2.AnnouncedChanges

open RipV2.ByteOrder
open RipV2.ChangeFlags
open RipV2.Database
open RipV2.Deamon
open RipV2.Deamon.RipDeamon
open RipV2.DeamonLoop
open RipV2.DeamonLoop.EventLoop
open RipV2.DeamonRuns
open RipV2.DeamonSimulation
open RipV2.DestinationSlots
open RipV2.EffectLogic
open RipV2.HandlerRules
open RipV2.HostEnvironment
open RipV2.KernelRoutes
open RipV2.LoopEvaluation
open RipV2.LoopPasses
open RipV2.Packets
open RipV2.Results
open RipV2.RoutingTables
open RipV2.TransitionRuns
open RipV2.TriggeredUpdates
open RipV2.Updater

variable {Driver : Type}

theorem announced_mono {interfaces : List RipIfc} {ifIndex : UInt32} {entry : RipEntry}
    {sent sent' : List Transmission} (hsubset : sent ⊆ sent')
    (h : Announced interfaces ifIndex entry sent) : Announced interfaces ifIndex entry sent' := by
  intro ifc hifc hindex
  obtain ⟨transmission, hmem, hdata⟩ := h ifc hifc hindex
  exact ⟨transmission, hsubset hmem, hdata⟩

/-- A route whose flag is not set was there before without its flag set, or has
been told as it is now on every interface but its own. -/
def Told (interfaces : List RipIfc) (sent : List Transmission) (database database' : RipDatabase) :
    Prop :=
  ∀ table key route, stored database' table key = some route → route.changed = false →
    (∃ old, stored database table key = some old ∧ SameRoute old route ∧ old.changed = false) ∨
    Announced interfaces route.ifIndex route.advertised sent

/-- The interfaces stay, and every flag that was cleared has been told in what was sent. -/
structure Accounted (deamon deamon' : RipDeamon Driver) : Prop where
  interfaces : deamon'.interfaces = deamon.interfaces
  told : ∃ sent, deamon'.host.sent = deamon.host.sent ++ sent ∧
    Told deamon.interfaces sent deamon.database deamon'.database

theorem told_of_flagging {database database' : RipDatabase} (h : Flagging database database')
    (interfaces : List RipIfc) (sent : List Transmission) :
    Told interfaces sent database database' := by
  intro table key route hroute hclear
  rcases h.origin table key route hroute with ⟨old, hold, hsame, hflag⟩ | ⟨hflag, -⟩
  · exact .inl ⟨old, hold, hsame, hflag.symm.trans hclear⟩
  · exact absurd (hclear.symm.trans hflag) (by simp)

theorem Told.trans {interfaces : List RipIfc} {sent sent' : List Transmission}
    {a b c : RipDatabase} (h : Told interfaces sent a b) (h' : Told interfaces sent' b c) :
    Told interfaces (sent ++ sent') a c := by
  intro table key route hroute hclear
  rcases h' table key route hroute hclear with ⟨old, hold, hsame, hflag⟩ | htold
  · rcases h table key old hold hflag with ⟨older, holder, hsame', hflag'⟩ | htold
    · exact .inl ⟨older, holder, hsame'.trans hsame, hflag'⟩
    · have hentry : old.advertised = route.advertised := by
        rw [RipDbEntry.advertised, RipDbEntry.advertised, hsame.ripEntry]
      rw [← hentry, hsame.ifIndex]
      exact .inr (announced_mono (List.subset_append_left _ _) htold)
  · exact .inr (announced_mono (List.subset_append_right _ _) htold)

theorem told_markAllRoutesAsUnchanged (endian : Endian) (interfaces : List RipIfc)
    (changedOnly : Bool) (database : RipDatabase) :
    Told interfaces (advertisement endian database interfaces changedOnly) database
      database.markAllRoutesAsUnchanged := by
  intro table key route hroute hclear
  rw [stored_markAllRoutesAsUnchanged] at hroute
  split_ifs at hroute
  · obtain ⟨old, hold, rfl⟩ := Option.map_eq_some_iff.mp hroute
    cases hflag : old.changed with
    | false => exact .inl ⟨old, hold, sameRoute_unchanged old, hflag⟩
    | true =>
        have hmem := mem_allRoutes_iff.mpr ⟨table, key, hold⟩
        have htold := announced_advertisement endian interfaces hmem
          fun _ : changedOnly = true => hflag
        exact .inr htold
  · exact .inl ⟨route, hroute, .refl route, hclear⟩

theorem accounted : Kept fun deamon deamon' : RipDeamon Driver => Accounted deamon deamon' where
  refl deamon := ⟨rfl, [], by simp, told_of_flagging (.refl _) _ _⟩
  trans a b c h h' := by
    obtain ⟨hinterfaces, sent, hsent, htold⟩ := h
    obtain ⟨hinterfaces', sent', hsent', htold'⟩ := h'
    rw [hinterfaces] at htold'
    exact ⟨hinterfaces'.trans hinterfaces, sent ++ sent', by simp [hsent', hsent],
      htold.trans htold'⟩
  host deamon host hmoved := by
    obtain ⟨sent, hsent⟩ := hmoved.sent
    exact ⟨rfl, sent, hsent, told_of_flagging (.refl _) _ _⟩
  routingTable deamon _ := ⟨rfl, [], by simp, told_of_flagging (.refl _) _ _⟩
  database deamon database h := ⟨rfl, [], by simp, told_of_flagging (operation_flagging h) _ _⟩
  advertise changedOnly deamon := by
    cases hrun : (sendMulticastAdvertisement changedOnly).run deamon with
    | ok a deamon' =>
        obtain ⟨host, rfl, hsent⟩ := sendMulticastAdvertisement_ok hrun
        exact ⟨rfl, _, hsent, told_markAllRoutesAsUnchanged _ _ _ _⟩
    | error e deamon' =>
        obtain ⟨sent, -, hsent, -⟩ := sends_advertisement deamon.host.answers.endian
          deamon.database deamon.interfaces changedOnly deamon.host rfl
        rw [sendMulticastAdvertisement_run] at hrun
        split at hrun
        · simp at hrun
        · rename_i host hsend
          obtain rfl := (EStateM.Result.error.inj hrun).2
          rw [hsend] at hsent
          exact ⟨rfl, sent, hsent, told_of_flagging (.refl _) _ _⟩

theorem accounted_renew (deamon : RipDeamon Driver) (answers : Answers) :
    Accounted deamon { deamon with host := deamon.host.renew answers } :=
  ⟨rfl, [], by simp [Host.renew], told_of_flagging (.refl _) _ _⟩

theorem database_of_unsent {changedOnly : Bool} {deamon deamon' : RipDeamon Driver} {e : RipError}
    (h : (sendMulticastAdvertisement changedOnly).run deamon = .error e deamon') :
    deamon'.database = deamon.database := by
  rw [sendMulticastAdvertisement_run] at h
  split at h
  · simp at h
  · obtain rfl := (EStateM.Result.error.inj h).2
    rfl

section Dropping

variable [RoutingTableDriver Driver]

omit [RoutingTableDriver Driver] in
theorem trigger_stored {loop loop' : EventLoop Driver}
    (htrigger : trigger.run loop = .ok .goOn loop')
    {table : Table} {key : RipRouteKey} (h : stored loop'.deamon.database table key = none) :
    stored loop.deamon.database table key = none := by
  by_contra hstored
  refine trigger_keeps (I := fun database => stored database table key ≠ none)
    (fun deamon hkeeps => ?_) htrigger hstored h
  rw [sendMulticastAdvertisement_run]
  split
  · rw [finalState_ok, stored_markAllRoutesAsUnchanged]
    split_ifs
    · simpa using hkeeps
    · exact hkeeps
  · exact hkeeps

theorem dropped_expired {loop loop' : EventLoop Driver} {answers : Answers}
    (hstep : LoopStep loop (answers, .garbageCollectionTimer) loop') {table : Table}
    {key : RipRouteKey} {route : RipDbEntry}
    (hroute : stored loop.deamon.database table key = some route)
    (hdropped : stored loop'.deamon.database table key = none) :
    table = .garbageRoutes ∧ route.expired answers.instants.head
      (durationFromSecs (garbageCollectionLifetimeSecs answers)) = true := by
  obtain ⟨_, selected, database, -, ⟨database₀, horder₀, rfl⟩, hselect, horder, htrigger⟩ :=
    loopStep_cases hstep
  have hselected := trigger_stored htrigger hdropped
  rw [select_garbageCollectionTimer_run, handleGarbageCollectionTick_run] at hselect
  obtain rfl := (EStateM.Result.ok.inj hselect).2
  simp only [stored, slot_reordered horder, garbageCollection,
    slot_removeExpiredGarbageRoutes] at hselected
  rw [stored, ← slot_reordered horder₀ key] at hroute
  split_ifs at hselected with hexpired
  · obtain ⟨old, hold, hage⟩ := mem_expiredKeys_iff.mp hexpired
    cases table with
    | okRoutes => exact absurd (hroute.symm.trans hselected) (by simp)
    | garbageRoutes =>
        obtain rfl : old = route := Option.some.inj (hold.symm.trans hroute)
        exact ⟨rfl, hage⟩
  · exact absurd (hroute.symm.trans hselected) (by simp)

theorem changed_garbage_locked {loop₀ loop : EventLoop Driver}
    {labels : List (Answers × LoopEvent)} (hinitial : LoopInitial loop₀)
    (hrun : Run LoopStep loop₀ labels loop) {key : RipRouteKey} {route : RipDbEntry}
    (hroute : stored loop.deamon.database .garbageRoutes key = some route)
    (hchanged : route.changed = true) : loop.triggeredUpdateLockTimer.isSome = true := by
  have hany := loop_flagSound hinitial hrun route
    (mem_allRoutes_iff.mpr ⟨.garbageRoutes, key, hroute⟩) hchanged
  cases hrun with
  | nil =>
      change loop₀.deamon.database.garbageRoutes.lookup key = some route at hroute
      rw [loopInitial_garbageRoutes hinitial] at hroute
      exact absurd hroute (by simp)
  | snoc _ hstep => exact loopStep_locked hstep hany

/-- Over any run and however its last pass ends, and over each half of a pass, a
route whose flag is not set has kept it so or has been told since; a failure to
send clears no flag. Garbage collection drops a route for its age, and one whose
flag is still set only while the lock is armed. -/
theorem loop_changes_told {loop₀ loop : EventLoop Driver} {before : List (Answers × LoopEvent)}
    (hinitial : LoopInitial loop₀) (hrun : Run LoopStep loop₀ before loop) :
    (∀ labels loop', Run LoopStep loop labels loop' → Accounted loop.deamon loop'.deamon ∧
      ∀ label res, Pass loop' label res → Accounted loop.deamon (finalState res).deamon) ∧
    (∀ event (resumed : EventLoop Driver),
      Accounted resumed.deamon (finalState ((select event).run resumed)).deamon) ∧
    (∀ selected : EventLoop Driver,
      Accounted selected.deamon (finalState (trigger.run selected)).deamon) ∧
    (∀ changedOnly (deamon deamon' : RipDeamon Driver) e,
      (sendMulticastAdvertisement changedOnly).run deamon = .error e deamon' →
        deamon'.database = deamon.database) ∧
    ∀ answers loop' table key route, LoopStep loop (answers, .garbageCollectionTimer) loop' →
      stored loop.deamon.database table key = some route →
      stored loop'.deamon.database table key = none →
        table = .garbageRoutes ∧
        route.expired answers.instants.head
          (durationFromSecs (garbageCollectionLifetimeSecs answers)) = true ∧
        (route.changed = true → loop.triggeredUpdateLockTimer.isSome = true) := by
  refine ⟨fun labels loop' hlater =>
      ⟨accounted.run accounted_renew hlater, fun label res hpass => ?_⟩,
    fun event resumed => accounted.select event resumed,
    fun selected => accounted.trigger selected,
    fun _ _ _ _ h => database_of_unsent h, ?_⟩
  · exact accounted.trans _ _ _ (accounted.run accounted_renew hlater)
      (accounted.pass accounted_renew hpass)
  · intro answers loop' table key route hstep hroute hdropped
    obtain ⟨rfl, hexpired⟩ := dropped_expired hstep hroute hdropped
    exact ⟨rfl, hexpired, changed_garbage_locked hinitial hrun hroute⟩

end Dropping

theorem offer_changes_told :
    ∃ loop₀ loop : EventLoop Kernel, LoopInitial loop₀ ∧
      Run LoopStep loop₀ [offer farNetwork 1] loop ∧
      ∃ route sent, stored loop.deamon.database .okRoutes farNetwork = some route ∧
        loop.deamon.host.sent = loop₀.deamon.host.sent ++ sent ∧
        Announced loop₀.deamon.interfaces 2 route.advertised sent := by
  have hany : (startLoop Kernel.empty { answers := steady, sent := [] } twoInterfaces).any
      (fun loop₀ => (stored loop₀.deamon.database .okRoutes farNetwork).isNone &&
        (runPasses loop₀ [offer farNetwork 1]).any fun loop =>
          (stored loop.deamon.database .okRoutes farNetwork).any fun route =>
            !route.changed && decide (route.ifIndex = 2)) = true := by
    decide +kernel
  obtain ⟨loop₀, hstart, hnext⟩ := (Option.any_eq_true _ _).mp hany
  rw [Bool.and_eq_true, Option.isNone_iff_eq_none, Option.any_eq_true] at hnext
  obtain ⟨hnew, loop, hpasses, hend⟩ := hnext
  obtain ⟨route, hroute, hflag⟩ := (Option.any_eq_true _ _).mp hend
  rw [Bool.and_eq_true, Bool.not_eq_true', decide_eq_true_eq] at hflag
  have hinitial := startLoop_initial rfl hstart
  have hrun := runPasses_run hpasses
  obtain ⟨-, sent, hsent, htold⟩ := ((loop_changes_told hinitial .nil).1 _ loop hrun).1
  refine ⟨loop₀, loop, hinitial, hrun, route, sent, hroute, hsent, ?_⟩
  rcases htold _ _ _ hroute hflag.1 with ⟨old, hold, -⟩ | hannounced
  · exact absurd (hnew.symm.trans hold) (by simp)
  · rwa [hflag.2] at hannounced

/-- The learned route times out and is collected before the lock expires: nothing
is sent after it has moved to garbage. -/
theorem poisoned_route_dropped_untold :
    ∃ loop₀ loop₁ loop₂ loop₃ : EventLoop Kernel, LoopInitial loop₀ ∧
      Run LoopStep loop₀ [offer farNetwork 1] loop₁ ∧
      LoopStep loop₁ (impatient, .timeoutTimer) loop₂ ∧
      LoopStep loop₂ (impatient, .garbageCollectionTimer) loop₃ ∧
      ∃ route, stored loop₁.deamon.database .garbageRoutes farNetwork = none ∧
        stored loop₂.deamon.database .garbageRoutes farNetwork = some route ∧
        route.changed = true ∧
        stored loop₃.deamon.database .garbageRoutes farNetwork = none ∧
        ¬∃ sent, loop₃.deamon.host.sent = loop₁.deamon.host.sent ++ sent ∧
          Announced loop₁.deamon.interfaces route.ifIndex route.advertised sent := by
  have hany : (startLoop Kernel.empty { answers := steady, sent := [] } twoInterfaces).any
      (fun loop₀ => (runPasses loop₀ [offer farNetwork 1]).any fun loop₁ =>
        (runPass loop₁ (impatient, .timeoutTimer)).any fun loop₂ =>
        (runPass loop₂ (impatient, .garbageCollectionTimer)).any fun loop₃ =>
          (stored loop₁.deamon.database .garbageRoutes farNetwork).isNone &&
          ((stored loop₂.deamon.database .garbageRoutes farNetwork).any (fun route =>
            route.changed && loop₁.deamon.interfaces.any fun ifc =>
              decide (ifc.tx.ifIndex ≠ route.ifIndex)) &&
          ((stored loop₃.deamon.database .garbageRoutes farNetwork).isNone &&
            decide (loop₃.deamon.host.sent = loop₁.deamon.host.sent)))) = true := by
    decide +kernel
  obtain ⟨loop₀, hstart, hnext⟩ := (Option.any_eq_true _ _).mp hany
  obtain ⟨loop₁, hlearned, hnext⟩ := (Option.any_eq_true _ _).mp hnext
  obtain ⟨loop₂, htimeout, hnext⟩ := (Option.any_eq_true _ _).mp hnext
  obtain ⟨loop₃, hcollect, hend⟩ := (Option.any_eq_true _ _).mp hnext
  simp only [Bool.and_eq_true, Option.any_eq_true, Option.isNone_iff_eq_none, List.any_eq_true,
    decide_eq_true_eq] at hend
  obtain ⟨hactive, ⟨route, hroute, hchanged, ifc, hifc, hindex⟩, hdropped, hsent⟩ := hend
  refine ⟨loop₀, loop₁, loop₂, loop₃, startLoop_initial rfl hstart, runPasses_run hlearned,
    runPass_loopStep htimeout, runPass_loopStep hcollect, route, hactive, hroute, hchanged,
    hdropped, ?_⟩
  rintro ⟨sent, hsent', htold⟩
  obtain rfl : sent = [] := by simpa [hsent] using hsent'
  obtain ⟨transmission, hmem, -⟩ := htold ifc hifc hindex
  simp at hmem

end RipV2.AnnouncedChanges
