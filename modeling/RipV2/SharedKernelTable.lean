import RipV2.GracefulShutdown
import RipV2.LoopEvaluation
import RipV2.RtNetlinkDriver

/-!
The daemon on the netlink driver, in a kernel that others have routes in as well:
it takes no place and no route of theirs, and a shutdown removes its own.
-/

namespace RipV2.SharedKernelTable

open RipV2.Database
open RipV2.Deamon
open RipV2.Deamon.RipDeamon
open RipV2.DeamonLoop
open RipV2.DestinationSlots
open RipV2.EffectLogic
open RipV2.GracefulShutdown
open RipV2.HostEnvironment
open RipV2.KernelRoutes
open RipV2.LoopEvaluation
open RipV2.LoopPasses
open RipV2.ReachableRoutes
open RipV2.Results
open RipV2.RoutingTables
open RipV2.RtNetlinkDriver
open RipV2.SentDatagrams
open RipV2.TransitionRuns

variable {Kernel : Type} [NetlinkKernel Kernel] {routes : Kernel → Set KernelRoute}

/-- No route is in the way of the daemon's. -/
def Clear (table : Set KernelRoute) : Prop :=
  ∀ route ∈ table, ¬RipPriority route.priority

/-- An add is refused only because the place is taken. -/
def GrantsAdds (Kernel : Type) [NetlinkKernel Kernel] : Prop :=
  ∀ (message : RouteMessage) (kernel : Kernel),
    succeeded ((NetlinkKernel.add message).run kernel) = true ∨
      FailsWith [eexist] (NetlinkKernel.add message) kernel

/-- A delete is refused only because the route is not there. -/
def GrantsDeletes (Kernel : Type) [NetlinkKernel Kernel] : Prop :=
  ∀ (message : RouteMessage) (kernel : Kernel),
    succeeded ((NetlinkKernel.del message).run kernel) = true ∨
      FailsWith [enoent, esrch] (NetlinkKernel.del message) kernel

theorem requested_inj {route route' : RipDbEntry}
    (h : requested (buildRouteMessage route) = requested (buildRouteMessage route')) :
    buildRouteMessage route = buildRouteMessage route' := by
  simp only [requested, KernelRoute.mk.injEq] at h
  obtain ⟨hdestination, hlength, hpriority, hgateway, hinterface⟩ := h
  simp only [buildRouteMessage, RouteMessage.mk.injEq] at *
  exact ⟨hdestination, hlength, hgateway, hinterface, hpriority, trivial⟩

section Calls

variable (hrules : ExclusiveTable routes)

include hrules

theorem deleteRoute_ok {route : RipDbEntry} {driver driver' : RtNetlinkRoutingTableDriver Kernel}
    (h : (RoutingTableDriver.deleteRoute route).run driver = .ok () driver') :
    routes driver'.handle = routes driver.handle \ {requested (buildRouteMessage route)} := by
  simp only [RoutingTableDriver.deleteRoute, RtNetlinkRoutingTableDriver.deleteRoute,
    EStateM.run] at h
  cases hrun : (NetlinkKernel.del (buildRouteMessage route)).run driver.handle with
  | ok a kernel =>
      have hdeleted := hrules.deleted _ _ _ hrun
      simp only [EStateM.run] at hrun
      rw [hrun] at h
      obtain rfl := (EStateM.Result.ok.inj h).2
      exact hdeleted
  | error err kernel =>
      have hkept := hrules.notDeleted _ _ _ _ hrun
      have habsent := hrules.absent_iff (buildRouteMessage route) driver.handle
      simp only [FailsWith, hrun] at habsent
      simp only [EStateM.run] at hrun
      simp only [hrun] at h
      split_ifs at h with herrno
      obtain rfl := (EStateM.Result.ok.inj h).2
      rw [hkept, Set.sdiff_singleton_eq_self (habsent.mp ⟨err, kernel, rfl, herrno⟩)]

theorem deleteRoute_error {route : RipDbEntry} {e : RipError}
    {driver driver' : RtNetlinkRoutingTableDriver Kernel}
    (h : (RoutingTableDriver.deleteRoute route).run driver = .error e driver') :
    routes driver'.handle = routes driver.handle ∧ ¬GrantsDeletes Kernel := by
  simp only [RoutingTableDriver.deleteRoute, RtNetlinkRoutingTableDriver.deleteRoute,
    EStateM.run] at h
  cases hrun : (NetlinkKernel.del (buildRouteMessage route)).run driver.handle with
  | ok a kernel =>
      simp only [EStateM.run] at hrun
      simp [hrun] at h
  | error err kernel =>
      have hkept := hrules.notDeleted _ _ _ _ hrun
      simp only [EStateM.run] at hrun
      simp only [hrun] at h
      split_ifs at h with herrno
      obtain rfl := (EStateM.Result.error.inj h).2
      refine ⟨hkept, fun hgrants => ?_⟩
      rcases hgrants (buildRouteMessage route) driver.handle with hsucceeded | ⟨err', _, hfails, h'⟩
      · simp [EStateM.run, hrun] at hsucceeded
      · simp only [EStateM.run, hrun] at hfails
        obtain ⟨rfl, -⟩ := EStateM.Result.error.inj hfails
        exact herrno h'

theorem addRoute_free {route : RipDbEntry} {driver : RtNetlinkRoutingTableDriver Kernel}
    (hfree : ∀ other ∈ routes driver.handle,
      ¬SamePlace other (requested (buildRouteMessage route))) :
    let driver' := finalState ((RoutingTableDriver.addRoute route).run driver)
    routes driver'.handle = insert (requested (buildRouteMessage route)) (routes driver.handle) ∨
      routes driver'.handle = routes driver.handle ∧ ¬GrantsAdds Kernel := by
  intro driver'
  have hexists : ¬FailsWith [eexist] (NetlinkKernel.add (buildRouteMessage route))
      driver.handle := by
    rw [hrules.exists_iff]
    rintro ⟨other, hother, hplace⟩
    exact hfree other hother hplace
  simp only [driver', RoutingTableDriver.addRoute, RtNetlinkRoutingTableDriver.addRoute,
    EStateM.run]
  cases hrun : (NetlinkKernel.add (buildRouteMessage route)).run driver.handle with
  | ok a kernel =>
      have hadded := hrules.added _ _ _ hrun
      simp only [EStateM.run] at hrun
      simp [hrun, hadded]
  | error err kernel =>
      have hkept := hrules.notAdded _ _ _ _ hrun
      have hrefused : ¬GrantsAdds Kernel := fun hgrants =>
        (hgrants (buildRouteMessage route) driver.handle).elim (by simp [hrun]) hexists
      simp only [EStateM.run] at hrun
      simp only [hrun]
      split_ifs <;> exact .inr ⟨hkept, hrefused⟩

end Calls

/-- The kernel has all the routes of others, and of the daemon's only those with
these messages: each of them, if the kernel grants the adds. -/
structure Shares (routes : Kernel → Set KernelRoute) (foreign : Set KernelRoute)
    (f : RipRouteKey → Option RouteMessage) (driver : RtNetlinkRoutingTableDriver Kernel) :
    Prop where
  built : ∀ key m, f key = some m → ∃ route, buildRouteMessage route = m
  others : foreign ⊆ routes driver.handle
  own : ∀ route ∈ routes driver.handle,
    route ∈ foreign ∨ ∃ key m, f key = some m ∧ requested m = route
  held : GrantsAdds Kernel → ∀ key m, f key = some m → requested m ∈ routes driver.handle

section Sharing

variable {foreign : Set KernelRoute} (hrules : ExclusiveTable routes) (hclear : Clear foreign)
  {f : RipRouteKey → Option RouteMessage} {driver driver' : RtNetlinkRoutingTableDriver Kernel}
  {route : RipDbEntry}

include hrules hclear

theorem Shares.deleted {key : RipRouteKey} (h : Shares routes foreign f driver)
    (hpriority : RipPriority (buildRouteMessage route).priority)
    (hown : ∀ m, f key = some m → m = buildRouteMessage route)
    (hother : ∀ key', f key' = some (buildRouteMessage route) → key' = key)
    (hissue : (RoutingTableDriver.deleteRoute route).run driver = .ok () driver') :
    Shares routes foreign (Function.update f key none) driver' := by
  have hkey : ∀ key' m, Function.update f key none key' = some m →
      key' ≠ key ∧ f key' = some m := by
    intro key' m hm
    rw [Function.update_apply] at hm
    split_ifs at hm with hne
    exact ⟨hne, hm⟩
  have htable := deleteRoute_ok hrules hissue
  constructor
  · exact fun key' m hm => h.built key' m (hkey key' m hm).2
  · rw [htable]
    intro r hr
    refine ⟨h.others hr, ?_⟩
    rintro rfl
    exact hclear _ hr hpriority
  · rw [htable]
    rintro r ⟨hr, hne⟩
    rcases h.own r hr with hforeign | ⟨key', m, hm, rfl⟩
    · exact .inl hforeign
    · refine .inr ⟨key', m, ?_, rfl⟩
      rw [Function.update_of_ne, hm]
      rintro rfl
      exact hne (by rw [hown m hm, Set.mem_singleton_iff])
  · intro hgrants key' m hm
    obtain ⟨hne, hm⟩ := hkey key' m hm
    obtain ⟨route', rfl⟩ := h.built key' m hm
    rw [htable]
    refine ⟨h.held hgrants key' _ hm, fun hsame => hne (hother key' ?_)⟩
    rw [hm, requested_inj hsame]

theorem Shares.added (h : Shares routes foreign f driver)
    (hpriority : RipPriority (buildRouteMessage route).priority)
    (hnone : f (buildRouteKey route.ripEntry) = none)
    (hother : ∀ key m, f key = some m → SameDestination m (buildRouteMessage route) →
      key = buildRouteKey route.ripEntry) :
    Shares routes foreign
      (Function.update f (buildRouteKey route.ripEntry) (some (buildRouteMessage route)))
      (finalState ((RoutingTableDriver.addRoute route).run driver)) := by
  have hfree : ∀ other ∈ routes driver.handle,
      ¬SamePlace other (requested (buildRouteMessage route)) := by
    rintro other hmem ⟨hdestination, hlength, hsame⟩
    rcases h.own other hmem with hforeign | ⟨key, m, hm, rfl⟩
    · exact hclear other hforeign (by rw [hsame]; exact hpriority)
    · obtain rfl := hother key m hm ⟨hdestination, hlength⟩
      simp [hnone] at hm
  have hold : ∀ key m, f key = some m → Function.update f (buildRouteKey route.ripEntry)
      (some (buildRouteMessage route)) key = some m := by
    intro key m hm
    rw [Function.update_of_ne, hm]
    rintro rfl
    simp [hnone] at hm
  have hnew : ∀ key m, Function.update f (buildRouteKey route.ripEntry)
      (some (buildRouteMessage route)) key = some m →
      m = buildRouteMessage route ∨ f key = some m := by
    intro key m hm
    rw [Function.update_apply] at hm
    split_ifs at hm
    · exact .inl (Option.some.inj hm).symm
    · exact .inr hm
  have hbuilt : ∀ key m, Function.update f (buildRouteKey route.ripEntry)
      (some (buildRouteMessage route)) key = some m → ∃ route, buildRouteMessage route = m :=
    fun key m hm => (hnew key m hm).elim (fun hm => ⟨route, hm.symm⟩) (h.built key m)
  have hkept : ∀ r ∈ routes driver.handle, r ∈ foreign ∨ ∃ key m, Function.update f
      (buildRouteKey route.ripEntry) (some (buildRouteMessage route)) key = some m ∧
        requested m = r := fun r hr =>
    (h.own r hr).imp_right fun ⟨key, m, hm, hr⟩ => ⟨key, m, hold key m hm, hr⟩
  rcases addRoute_free hrules hfree with htable | ⟨htable, hrefused⟩
  · refine ⟨hbuilt, ?_, ?_, fun hgrants key m hm => ?_⟩ <;> rw [htable]
    · exact h.others.trans (Set.subset_insert _ _)
    · rintro r (rfl | hr)
      · exact .inr ⟨_, _, Function.update_self _ _ _, rfl⟩
      · exact hkept r hr
    · rcases hnew key m hm with rfl | hm
      · exact Set.mem_insert _ _
      · exact Set.mem_insert_of_mem _ (h.held hgrants key m hm)
  · refine ⟨hbuilt, ?_, ?_, fun hgrants => absurd hgrants hrefused⟩ <;> rw [htable]
    · exact h.others
    · exact hkept

theorem shares_followsFinite : FollowsFinite (Shares routes foreign) where
  deleted h hpriority hown hother hissue := h.deleted hrules hclear hpriority hown hother hissue
  notDeleted h hissue := by
    obtain ⟨hbuilt, hforeign, hown, hheld⟩ := h
    rw [← (deleteRoute_error hrules hissue).1] at hforeign hown hheld
    exact ⟨hbuilt, hforeign, hown, hheld⟩
  added h hpriority hnone hother := h.added hrules hclear hpriority hnone hother

end Sharing

/-- All routes in the kernel of the daemon's driver. -/
def kernelTable (routes : Kernel → Set KernelRoute)
    (deamon : RipDeamon (RtNetlinkRoutingTableDriver Kernel)) : Set KernelRoute :=
  routes deamon.routingTable.driver.handle

/-- What the kernel has of these routes if it has them all. -/
def requestedRoutes (dbRoutes : List RipDbEntry) : Set KernelRoute :=
  {r | ∃ route ∈ dbRoutes, requested (buildRouteMessage route) = r}

theorem requestedRoutes_cons (route : RipDbEntry) (dbRoutes : List RipDbEntry) :
    requestedRoutes (route :: dbRoutes) =
      {requested (buildRouteMessage route)} ∪ requestedRoutes dbRoutes := by
  ext r
  simp [requestedRoutes, eq_comm]

/-- Between what others have and that with all the routes in the routing table. -/
theorem following_table {foreign : Set KernelRoute}
    {deamon : RipDeamon (RtNetlinkRoutingTableDriver Kernel)}
    (h : Following (Shares routes foreign) deamon) :
    let own := requestedRoutes deamon.database.getRoutesInRoutingTable
    foreign ⊆ kernelTable routes deamon ∧ kernelTable routes deamon ⊆ foreign ∪ own ∧
      (GrantsAdds Kernel → kernelTable routes deamon = foreign ∪ own) := by
  intro own
  have hown : ∀ r,
      (∃ key m, messages deamon.database key = some m ∧ requested m = r) ↔ r ∈ own := by
    intro r
    constructor
    · rintro ⟨key, m, hm, rfl⟩
      obtain ⟨route, hroute, rfl⟩ := List.mem_map.mp
        ((mem_getRoutesInRoutingTable_iff h.wellFormed).mpr ⟨key, hm⟩)
      exact ⟨route, hroute, rfl⟩
    · rintro ⟨route, hroute, rfl⟩
      exact ⟨_, _, message_of_inRoutingTable h.wellFormed hroute, rfl⟩
  have hsubset : kernelTable routes deamon ⊆ foreign ∪ own := by
    intro r hr
    exact (h.related.own r hr).imp_right (hown r).mp
  refine ⟨h.related.others, hsubset, fun hgrants => hsubset.antisymm ?_⟩
  rintro r (hr | hr)
  · exact h.related.others hr
  · obtain ⟨key, m, hm, rfl⟩ := (hown r).mpr hr
    exact h.related.held hgrants key m hm

section Loop

variable (hrules : ExclusiveTable routes)
  {loop₀ loop : EventLoop (RtNetlinkRoutingTableDriver Kernel)}
  (hinitial : LoopInitial loop₀) (hclear : Clear (kernelTable routes loop₀.deamon))
  {labels : List (Answers × LoopEvent)} (hrun : Run LoopStep loop₀ labels loop)

include hrules hclear

theorem pass_following {label : Answers × LoopEvent}
    {res : EStateM.Result RipError (EventLoop (RtNetlinkRoutingTableDriver Kernel)) Control}
    (hpass : Pass loop label res) (hgoes : ∀ loop', res ≠ .ok .stop loop')
    (h : Following (Shares routes (kernelTable routes loop₀.deamon)) loop.deamon) :
    Following (Shares routes (kernelTable routes loop₀.deamon)) (finalState res).deamon := by
  have hR := shares_followsFinite hrules hclear
  refine pass_keeps (fun _ _ _ hresumes h => h.resumes hresumes) (fun _ _ hhost h => ?_)
    (fun event _ _ h => hR.handle event h) hpass hgoes h
  refine ⟨?_, ?_⟩
  · rw [hhost.database]
    exact h.wellFormed
  · rw [hhost.database, hhost.routingTable]
    exact h.related

include hinitial hrun

theorem loop_following :
    Following (Shares routes (kernelTable routes loop₀.deamon)) loop.deamon := by
  have hstart : Following (Shares routes (kernelTable routes loop₀.deamon)) loop₀.deamon := by
    obtain ⟨⟨hwell, hmessages⟩, -⟩ := loopInitial_keeps
      (I := fun database => (∀ key, WellFormed key (slot database key)) ∧
        messages database = fun _ => none)
      ⟨wellFormed_new, rfl⟩
      (fun network deamon h => ⟨setupAdvertisedNetwork_wellFormed network deamon h.1,
        (handle_addsNetwork_unrouted (.inl rfl) deamon).1.trans h.2⟩) hinitial
    refine ⟨hwell, ?_⟩
    rw [hmessages]
    exact ⟨by simp, subset_rfl, fun _ hr => .inl hr, by simp⟩
  exact hrun.keeps (I := fun loop => Following (Shares routes (kernelTable routes loop₀.deamon))
      loop.deamon) (P := fun _ => True)
    (fun _ _ _ _ h hstep => pass_following hrules hclear hstep (by simp) h) (by simp) hstart

/-- Whatever becomes of its calls, the daemon leaves the routes of others alone and
has no routes in the kernel but those in its routing table. It has them all there if
the kernel refuses no add for another reason than a taken place. -/
theorem pass_kernelTable {label : Answers × LoopEvent}
    {res : EStateM.Result RipError (EventLoop (RtNetlinkRoutingTableDriver Kernel)) Control}
    (hpass : Pass loop label res) (hgoes : ∀ loop', res ≠ .ok .stop loop') :
    let deamon := (finalState res).deamon
    let own := requestedRoutes deamon.database.getRoutesInRoutingTable
    kernelTable routes loop₀.deamon ⊆ kernelTable routes deamon ∧
      kernelTable routes deamon ⊆ kernelTable routes loop₀.deamon ∪ own ∧
      (GrantsAdds Kernel →
        kernelTable routes deamon = kernelTable routes loop₀.deamon ∪ own) :=
  following_table (pass_following hrules hclear hpass hgoes
    (loop_following hrules hinitial hclear hrun))

end Loop

theorem tableKernel_grantsAdds : GrantsAdds TableKernel := by
  intro message kernel
  simp only [FailsWith, NetlinkKernel.add, EStateM.run]
  split_ifs
  · exact .inr ⟨_, _, rfl, rfl⟩
  · exact .inl rfl

theorem tableKernel_grantsDeletes : GrantsDeletes TableKernel := by
  intro message kernel
  simp only [FailsWith, NetlinkKernel.del, EStateM.run]
  split_ifs
  · exact .inl rfl
  · exact .inr ⟨_, _, rfl, rfl⟩

/-- A default route, as an interface's configuration leaves it. -/
def defaultRoute : KernelRoute where
  destination := 0
  destinationPrefixLength := 0
  priority := 100
  gateway := 0x0a000001
  outputInterface := 1

def defaultRouteOnly : RtNetlinkRoutingTableDriver TableKernel where
  handle := { table := {defaultRoute} }

theorem exists_offered :
    ∃ loop₀ loop : EventLoop (RtNetlinkRoutingTableDriver TableKernel), LoopInitial loop₀ ∧
      kernelTable tableRoutes loop₀.deamon = {defaultRoute} ∧
      LoopStep loop₀ (offer farNetwork 1) loop ∧
      loop.deamon.database.getRoutesInRoutingTable.length = 1 := by
  have hany : (startLoop defaultRouteOnly { answers := steady, sent := [] } twoInterfaces).any
      (fun loop₀ => decide (loop₀.deamon.routingTable.driver.handle.table = {defaultRoute}) &&
        (runPass loop₀ (offer farNetwork 1)).any fun loop =>
          loop.deamon.database.getRoutesInRoutingTable.length == 1) = true := by
    decide +kernel
  obtain ⟨loop₀, hstart, hnext⟩ := (Option.any_eq_true _ _).mp hany
  rw [Bool.and_eq_true, decide_eq_true_eq, Option.any_eq_true] at hnext
  obtain ⟨htable, loop, hpass, hlength⟩ := hnext
  refine ⟨loop₀, loop, startLoop_initial rfl hstart, ?_, runPass_loopStep hpass, ?_⟩
  · rw [kernelTable, tableRoutes, htable, Finset.coe_singleton]
  · exact beq_iff_eq.mp hlength

theorem clear_defaultRoute : Clear {defaultRoute} := by
  rintro route rfl
  simp only [RipPriority]
  decide

theorem learned_beside_defaultRoute :
    ∃ loop₀ loop : EventLoop (RtNetlinkRoutingTableDriver TableKernel), LoopInitial loop₀ ∧
      LoopStep loop₀ (offer farNetwork 1) loop ∧
      loop.deamon.database.getRoutesInRoutingTable.length = 1 ∧
      kernelTable tableRoutes loop.deamon =
        {defaultRoute} ∪ requestedRoutes loop.deamon.database.getRoutesInRoutingTable := by
  obtain ⟨loop₀, loop, hinitial, htable, hstep, hlength⟩ := exists_offered
  have hclear : Clear (kernelTable tableRoutes loop₀.deamon) := htable ▸ clear_defaultRoute
  obtain ⟨-, -, hall⟩ := pass_kernelTable tableKernel_exclusiveTable hinitial hclear .nil hstep
    (by simp)
  refine ⟨loop₀, loop, hinitial, hstep, hlength, ?_⟩
  rw [← htable]
  exact hall tableKernel_grantsAdds

section Shutdown

variable (hrules : ExclusiveTable routes)

include hrules

theorem attempt_deleteRoute_table (route : RipDbEntry)
    (deamon : RipDeamon (RtNetlinkRoutingTableDriver Kernel)) :
    ∃ res deamon', (attempt (deleteRoute route) : DeamonM (RtNetlinkRoutingTableDriver Kernel)
        (Except RipError Unit)).run deamon = .ok res deamon' ∧
      kernelTable routes deamon \ {requested (buildRouteMessage route)} ⊆
        kernelTable routes deamon' ∧
      kernelTable routes deamon' ⊆ kernelTable routes deamon ∧
      (GrantsDeletes Kernel → kernelTable routes deamon' =
        kernelTable routes deamon \ {requested (buildRouteMessage route)}) := by
  rw [run_attempt]
  rcases deleteRoute_cases route deamon with ⟨driver, hissue, hrun⟩ | ⟨e, driver, hissue, hrun⟩
  · have htable := deleteRoute_ok hrules hissue
    rw [hrun]
    exact ⟨_, _, rfl, htable.superset, htable.subset.trans Set.sdiff_subset, fun _ => htable⟩
  · obtain ⟨htable, hrefused⟩ := deleteRoute_error hrules hissue
    rw [hrun]
    exact ⟨_, _, rfl, Set.sdiff_subset.trans htable.superset, htable.subset,
      fun hgrants => absurd hgrants hrefused⟩

theorem deletes_table (dbRoutes : List RipDbEntry)
    (deamon : RipDeamon (RtNetlinkRoutingTableDriver Kernel)) :
    let deamon' := finalState ((dbRoutes.forM fun route => do
      let _ ← (attempt (deleteRoute route) : DeamonM (RtNetlinkRoutingTableDriver Kernel)
        (Except RipError Unit))).run deamon)
    kernelTable routes deamon \ requestedRoutes dbRoutes ⊆ kernelTable routes deamon' ∧
      kernelTable routes deamon' ⊆ kernelTable routes deamon ∧
      (GrantsDeletes Kernel →
        kernelTable routes deamon' = kernelTable routes deamon \ requestedRoutes dbRoutes) := by
  induction dbRoutes generalizing deamon with
  | nil => simp [requestedRoutes]
  | cons route dbRoutes ih =>
      obtain ⟨res, deamon₁, hrun, hkept, hshrinks, hdeleted⟩ :=
        attempt_deleteRoute_table hrules route deamon
      obtain ⟨hkept', hshrinks', hdeleted'⟩ := ih deamon₁
      simp only [List.forM_eq_forM, List.forM_cons, EStateM.run_bind, hrun]
      rw [requestedRoutes_cons, ← Set.sdiff_sdiff]
      refine ⟨(Set.sdiff_subset_sdiff_left hkept).trans hkept', hshrinks'.trans hshrinks,
        fun hgrants => ?_⟩
      rw [← hdeleted hgrants]
      exact hdeleted' hgrants

/-- From whatever the loop has come to, a shutdown leaves the routes of others alone,
and leaves nothing else if the kernel refuses no delete but of a missing route. -/
theorem shutdown_kernelTable {loop₀ loop loop' : EventLoop (RtNetlinkRoutingTableDriver Kernel)}
    (hinitial : LoopInitial loop₀) (hclear : Clear (kernelTable routes loop₀.deamon))
    {labels : List (Answers × LoopEvent)} (hrun : Run LoopStep loop₀ labels loop)
    {label : Answers × LoopEvent} (hstop : Pass loop label (.ok .stop loop')) :
    kernelTable routes loop₀.deamon ⊆ kernelTable routes loop'.deamon ∧
      (GrantsDeletes Kernel →
        kernelTable routes loop'.deamon = kernelTable routes loop₀.deamon) := by
  obtain ⟨deamon, hresumes, hshutdown⟩ := pass_stop hstop
  have hfollows := (loop_following hrules hinitial hclear hrun).resumes hresumes
  obtain ⟨hothers, htable, -⟩ := following_table hfollows
  have hown : ∀ r ∈ requestedRoutes deamon.database.getRoutesInRoutingTable,
      RipPriority r.priority := by
    rintro r ⟨route, hroute, rfl⟩
    obtain ⟨route', hactive, -, hmessage⟩ :=
      message_eq (message_of_inRoutingTable hfollows.wellFormed hroute)
    have hpriority := ripPriority_of_active ((hfollows.wellFormed _).active route' hactive)
    rwa [hmessage] at hpriority
  have hsame : kernelTable routes
      (finalState ((sendMulticastAdvertisement false).run (poisoned deamon))) =
        kernelTable routes deamon := by
    rw [kernelTable, (sendMulticastAdvertisement_sent false (poisoned deamon)).1]
    rfl
  obtain ⟨hkept, -, hdeleted⟩ := deletes_table hrules deamon.database.getRoutesInRoutingTable
    (finalState ((sendMulticastAdvertisement false).run (poisoned deamon)))
  rw [← handleShutdown_run, ← hshutdown, hsame] at hkept hdeleted
  have hforeign : kernelTable routes loop₀.deamon ⊆ kernelTable routes deamon \
      requestedRoutes deamon.database.getRoutesInRoutingTable := fun r hr =>
    ⟨hothers hr, fun hmem => hclear r hr (hown r hmem)⟩
  refine ⟨hforeign.trans hkept, fun hgrants => ?_⟩
  rw [hdeleted hgrants]
  refine Set.Subset.antisymm ?_ hforeign
  rintro r ⟨hr, hnot⟩
  exact (htable hr).resolve_right hnot

end Shutdown

theorem learned_deleted_beside_defaultRoute :
    ∃ loop₀ loop loop' : EventLoop (RtNetlinkRoutingTableDriver TableKernel),
      LoopInitial loop₀ ∧ LoopStep loop₀ (offer farNetwork 1) loop ∧
      loop.deamon.database.getRoutesInRoutingTable.length = 1 ∧
      Pass loop (steady, .sigterm) (.ok .stop loop') ∧
      kernelTable tableRoutes loop'.deamon = {defaultRoute} := by
  obtain ⟨loop₀, loop, hinitial, htable, hstep, hlength⟩ := exists_offered
  have hclear : Clear (kernelTable tableRoutes loop₀.deamon) := htable ▸ clear_defaultRoute
  have hstop : Pass loop (steady, .sigterm) _ :=
    .ended rfl ⟨_, .refl _, rfl⟩ (select_sigterm_run _) (by simp)
  refine ⟨loop₀, loop, _, hinitial, hstep, hlength, hstop, ?_⟩
  rw [← htable]
  exact (shutdown_kernelTable tableKernel_exclusiveTable hinitial hclear (.single hstep)
    hstop).2 tableKernel_grantsDeletes

end RipV2.SharedKernelTable
