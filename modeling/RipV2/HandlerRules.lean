import RipV2.LoopPasses

/-!
A relation between states of the daemon that is kept by every operation on the
database, every move of the host or the routing table, and every advertisement
is kept by every handler and every arm of the loop, however they end.
-/

namespace RipV2.HandlerRules

open RipV2.AdminInterface
open RipV2.ByteOrder
open RipV2.Database
open RipV2.Deamon
open RipV2.Deamon.RipDeamon
open RipV2.DeamonLoop
open RipV2.DeamonLoop.EventLoop
open RipV2.DeamonRuns
open RipV2.DeamonSimulation
open RipV2.EffectLogic
open RipV2.HostEnvironment
open RipV2.LocalRoutes
open RipV2.LoopPasses
open RipV2.Packets
open RipV2.Results
open RipV2.RoutingTables
open RipV2.TransitionRuns
open RipV2.Updater

/-- What happens to the database, apart from clearing flags after an advertisement. -/
inductive Operation (database : RipDatabase) : RipDatabase → Prop
  | reordered {database' : RipDatabase} (horder : database.Reordered database') :
      Operation database database'
  | addRoute (entry : RipEntry) (ifIndex : UInt32) (ifName : String)
      (isLocal inRoutingTable : Bool) : Operation database (finalState
        ((RipDatabase.addRoute entry ifIndex ifName true isLocal inRoutingTable).run database))
  | removeRoute (entry : RipEntry) :
      Operation database (finalState ((RipDatabase.removeRoute entry).run database))
  | removeGarbageRoute (entry : RipEntry) :
      Operation database (database.removeGarbageRoute entry)
  | refreshRouteTimeout (entry : RipEntry) :
      Operation database (database.refreshRouteTimeout entry)
  | collectTimedOutRoutes (increment limit : UInt64) :
      Operation database (database.collectTimedOutRoutes increment limit).2
  | moveRouteToGarbage (entry : RipEntry) (now : Instant) :
      Operation database (finalState ((RipDatabase.moveRouteToGarbage entry now).run database))
  | removeExpiredGarbageRoutes (now : Instant) (lifetime : Duration) :
      Operation database (database.removeExpiredGarbageRoutes now lifetime).2
  | poisonAllRoutes : Operation database database.poisonAllRoutes

variable {Driver : Type}

/-- A relation that is kept by everything that a handler does without sending. -/
structure Quiet (R : RipDeamon Driver → RipDeamon Driver → Prop) : Prop where
  refl : ∀ deamon, R deamon deamon
  trans : ∀ a b c, R a b → R b c → R a c
  clock : Evolves R (onHost instantNow : DeamonM Driver Instant)
  routingTable : ∀ deamon routingTable, R deamon { deamon with routingTable }
  database : ∀ deamon database, Operation deamon.database database →
    R deamon { deamon with database }

namespace Quiet

variable {R : RipDeamon Driver → RipDeamon Driver → Prop} (h : Quiet R)

include h

theorem bind {α β : Type} {x : DeamonM Driver α} {f : α → DeamonM Driver β}
    (hx : Evolves R x) (hf : ∀ a, Evolves R (f a)) : Evolves R (x >>= f) :=
  evolves_bind (R := R) h.trans hx hf

theorem get : Evolves R (get : DeamonM Driver (RipDeamon Driver)) := evolves_get h.refl

theorem pure {α : Type} (a : α) : Evolves R (pure a : DeamonM Driver α) :=
  evolves_pure h.refl a

theorem throw {α : Type} (e : RipError) : Evolves R (throw e : DeamonM Driver α) :=
  evolves_throw h.refl e

theorem onDatabase {α : Type} {m : DatabaseM α}
    (hm : ∀ database, Operation database (finalState (m.run database))) :
    Evolves R (onDatabase m : DeamonM Driver α) :=
  evolves_zoom (fun deamon database => h.database deamon database) hm

theorem modifyDatabase {f : RipDatabase → RipDatabase}
    (hf : ∀ database, Operation database (f database)) :
    Evolves R (modifyDatabase f : DeamonM Driver Unit) :=
  evolves_modify fun deamon => h.database deamon _ (hf deamon.database)

theorem onRoutingTable (m : EStateM RipError (RoutingTable Driver) Unit) :
    Evolves R (onRoutingTable m : DeamonM Driver Unit) :=
  evolves_zoom (R := fun _ _ => True) (fun deamon table _ => h.routingTable deamon table)
    fun _ => trivial

theorem setupAdvertisedNetwork (network : AdvertisedNetwork) :
    Evolves R (setupAdvertisedNetwork network : DeamonM Driver Unit) := by
  rw [RipDeamon.setupAdvertisedNetwork]
  refine h.bind h.get fun deamon => ?_
  split
  · exact h.throw _
  · refine h.onDatabase fun database => ?_
    rw [RipDatabase.addLocalRoute, finalState_discard]
    exact .addRoute _ _ _ _ _

theorem handleGarbageCollectionTick (timer : Timer) :
    Evolves R (handleGarbageCollectionTick timer : DeamonM Driver Timer) := by
  rw [RipDeamon.handleGarbageCollectionTick]
  refine h.bind h.get fun deamon => h.bind h.clock fun now => ?_
  refine h.bind (h.modifyDatabase fun _ => .removeExpiredGarbageRoutes _ _) fun _ => ?_
  refine h.bind h.get fun deamon' => ?_
  split_ifs
  · exact h.bind h.get fun _ => h.pure _
  · exact h.pure _

theorem handleHttpRequest (kind : HttpRequestKind) :
    Evolves R (handleHttpRequest kind : DeamonM Driver HttpResponse) := by
  cases kind with
  | getRoutes => exact h.bind h.get fun _ => h.pure _
  | addLocalRoute network =>
      refine h.bind (evolves_attempt (h.setupAdvertisedNetwork network)) fun res => ?_
      cases res <;> exact h.pure _

variable [RoutingTableDriver Driver]

theorem expireRoute (route : RipDbEntry) :
    Evolves R (expireRoute route : DeamonM Driver Unit) := by
  rw [RipDeamon.expireRoute]
  refine h.bind (h.onRoutingTable _) fun _ => h.bind h.clock fun now => ?_
  exact h.bind (h.onDatabase fun _ => .moveRouteToGarbage _ _) fun _ => h.pure _

theorem handlePoisonedRouteFromResponse (entry : RipEntry) :
    Evolves R (handlePoisonedRouteFromResponse entry : DeamonM Driver Unit) := by
  rw [RipDeamon.handlePoisonedRouteFromResponse]
  refine h.bind h.get fun deamon => ?_
  split
  · split_ifs
    · exact h.pure _
    · exact h.expireRoute _
  · refine h.bind h.get fun deamon => ?_
    split_ifs <;> exact h.pure _

theorem replaceRouteFromResponse (oldRoute : RipDbEntry) (entry : RipEntry) (ifIndex : UInt32)
    (ifName : String) :
    Evolves R (replaceRouteFromResponse oldRoute entry ifIndex ifName : DeamonM Driver Unit) := by
  rw [RipDeamon.replaceRouteFromResponse]
  refine h.bind (h.onRoutingTable _) fun _ => ?_
  refine h.bind (h.onDatabase fun _ => .removeRoute _) fun _ => ?_
  refine h.bind (h.onDatabase fun _ => .addRoute _ _ _ _ _) fun newRoute => ?_
  exact h.onRoutingTable _

theorem updateRouteFromResponse (entry : RipEntry) (ifInfo : RipIfInfo) :
    Evolves R (updateRouteFromResponse entry ifInfo : DeamonM Driver Unit) := by
  rw [RipDeamon.updateRouteFromResponse]
  split_ifs
  · exact h.handlePoisonedRouteFromResponse entry
  · refine h.bind h.get fun deamon => ?_
    split
    · refine h.bind (h.modifyDatabase fun _ => .removeGarbageRoute _) fun _ => ?_
      refine h.bind (h.onDatabase fun _ => .addRoute _ _ _ _ _) fun newRoute => ?_
      exact h.onRoutingTable _
    · have hrefresh : Evolves R (RipDeamon.modifyDatabase
          (RipDatabase.refreshRouteTimeout entry) : DeamonM Driver Unit) :=
        h.modifyDatabase fun _ => .refreshRouteTimeout _
      split_ifs
      · exact h.bind hrefresh fun _ => h.pure _
      · exact h.bind hrefresh fun _ => h.replaceRouteFromResponse _ _ _ _
      · exact h.replaceRouteFromResponse _ _ _ _
      · exact h.pure _

theorem handleResponsePacket (packet : RipPacket) :
    Evolves R (handleResponsePacket packet : DeamonM Driver Unit) := by
  rw [RipDeamon.handleResponsePacket]
  split_ifs
  · exact h.throw _
  · exact h.pure _
  · refine evolves_forM h.refl h.trans fun raw _ => ?_
    rw [handleResponseEntry]
    split
    · exact h.pure _
    · exact h.updateRouteFromResponse _ _

theorem handleRouteTimeoutTick (timer : Timer) :
    Evolves R (handleRouteTimeoutTick timer : DeamonM Driver Timer) := by
  intro deamon
  have hcounted : R deamon { deamon with database := (timeoutCheck deamon).2 } :=
    h.database deamon _ (.collectTimedOutRoutes _ _)
  have hexpired := evolves_forM h.refl h.trans
    (fun route (_ : route ∈ (timeoutCheck deamon).1) => h.expireRoute route)
    { deamon with database := (timeoutCheck deamon).2 }
  rw [handleRouteTimeoutTick_run]
  cases hrun : ((timeoutCheck deamon).1.forM RipDeamon.expireRoute).run
    { deamon with database := (timeoutCheck deamon).2 } <;>
    (rw [hrun] at hexpired; exact h.trans _ _ _ hcounted hexpired)

end Quiet

/-- A relation between the daemon before and after that is closed under all that handlers do. -/
structure Kept (R : RipDeamon Driver → RipDeamon Driver → Prop) : Prop where
  refl : ∀ deamon, R deamon deamon
  trans : ∀ a b c, R a b → R b c → R a c
  host : ∀ deamon host, deamon.host.Moved host → R deamon { deamon with host }
  routingTable : ∀ deamon routingTable, R deamon { deamon with routingTable }
  database : ∀ deamon database, Operation deamon.database database →
    R deamon { deamon with database }
  advertise : ∀ changedOnly, Evolves R (sendMulticastAdvertisement changedOnly)

namespace Kept

variable {R : RipDeamon Driver → RipDeamon Driver → Prop} (h : Kept R)

include h

theorem quiet : Quiet R where
  refl := h.refl
  trans := h.trans
  clock deamon := h.host deamon _ (moved_instantNow (ε := RipError) deamon.host)
  routingTable := h.routingTable
  database := h.database

theorem waited {deamon deamon' : RipDeamon Driver} (hwaited : Waited deamon deamon') :
    R deamon deamon' := by
  obtain ⟨routingTable, interfaces, database, host⟩ := deamon'
  obtain ⟨⟨rfl, rfl, rfl⟩, hmoved, -⟩ := hwaited
  exact h.host deamon host hmoved

theorem sends {m : HostM String Unit} {full : Endian → List Transmission}
    (hm : ∀ endian, Sends endian (full endian) m) :
    Evolves R (socketIo m : DeamonM Driver Unit) := by
  refine evolves_adaptExcept fun deamon => ?_
  have hmoved := Sends.moved hm deamon.host
  rw [onHost, run_zoom]
  cases hrun : m.run deamon.host <;> (rw [hrun] at hmoved; exact h.host deamon _ hmoved)

theorem sendMulticastRequest : Evolves R (sendMulticastRequest : DeamonM Driver Unit) := by
  rw [RipDeamon.sendMulticastRequest]
  refine h.quiet.bind h.quiet.get fun deamon => ?_
  exact evolves_forM h.refl h.trans fun ifc _ =>
    h.sends fun endian => sends_requestMulticast endian ifc.tx

variable [RoutingTableDriver Driver]

theorem handlePacket (packet : RipPacket) :
    Evolves R (handlePacket packet : DeamonM Driver Unit) := by
  rw [RipDeamon.handlePacket]
  split_ifs
  · exact h.quiet.bind h.quiet.get fun deamon => h.sends fun endian =>
      sends_unicastResponse endian deamon.database packet.source packet.ifInfo
  · exact h.quiet.handleResponsePacket packet
  · exact h.quiet.throw _

theorem handleShutdown : Evolves R (handleShutdown : DeamonM Driver Unit) := by
  rw [RipDeamon.handleShutdown]
  refine h.quiet.bind h.quiet.get fun deamon => ?_
  refine h.quiet.bind (h.quiet.modifyDatabase fun _ => .poisonAllRoutes) fun _ => ?_
  refine h.quiet.bind (evolves_attempt (h.advertise _)) fun _ => ?_
  refine evolves_forM h.refl h.trans fun route _ => ?_
  exact h.quiet.bind (evolves_attempt (h.quiet.onRoutingTable _)) fun _ => h.quiet.pure _

theorem handle (event : DeamonEvent) : Evolves R (event.handle : DeamonM Driver Unit) := by
  cases event with
  | addLocalRoute network => exact h.quiet.setupAdvertisedNetwork network
  | httpRequest kind => exact h.quiet.bind (h.quiet.handleHttpRequest kind) fun _ => h.quiet.pure _
  | received packet => exact h.handlePacket packet
  | routeTimeoutTick timer =>
      exact h.quiet.bind (h.quiet.handleRouteTimeoutTick timer) fun _ => h.quiet.pure _
  | garbageCollectionTick timer =>
      exact h.quiet.bind (h.quiet.handleGarbageCollectionTick timer) fun _ => h.quiet.pure _
  | advertise changedOnly => exact h.advertise changedOnly
  | sendRequests => exact h.sendMulticastRequest

theorem select (event : LoopEvent) (loop : EventLoop Driver) :
    R loop.deamon (finalState ((select event).run loop)).deamon := by
  have hshutdown := h.handleShutdown loop.deamon
  have hstops : R loop.deamon (finalState ((do
      onDeamon RipDeamon.handleShutdown
      return .stop : LoopM Driver Control).run loop)).deamon := by
    simp only [EStateM.run_bind, onDeamon, run_zoom]
    cases hrun : RipDeamon.handleShutdown.run loop.deamon <;>
      (rw [hrun] at hshutdown; exact hshutdown)
  cases hevent : event.deamonEvent loop with
  | none =>
      cases event with
      | requestWarmupTimer | updateTimer | timeoutTimer | garbageCollectionTimer =>
          simp [LoopEvent.deamonEvent] at hevent
      | ctrlC result =>
          cases result with
          | error e => exact h.refl _
          | ok a => exact hstops
      | sigterm => exact hstops
      | triggeredUpdateLockTimer => exact h.refl _
      | received packet =>
          cases packet with
          | none => exact h.refl _
          | some packet => simp [LoopEvent.deamonEvent] at hevent
      | httpRequest request =>
          cases request with
          | none => exact h.refl _
          | some kind => simp [LoopEvent.deamonEvent] at hevent
  | some deamonEvent =>
      have hhandles := select_handles loop hevent
      have hkept := h.handle deamonEvent loop.deamon
      cases hrun : deamonEvent.handle.run loop.deamon with
      | ok a deamon =>
          rw [hrun] at hhandles hkept
          obtain ⟨selected, hselect, hwaited, -⟩ := hhandles
          rw [hselect]
          exact h.trans _ _ _ hkept (h.waited hwaited)
      | error e deamon =>
          rw [hrun] at hhandles hkept
          obtain ⟨failed, hselect, hdeamon⟩ := hhandles
          rw [hselect, finalState_error, hdeamon]
          exact hkept

omit [RoutingTableDriver Driver] in
theorem trigger (loop : EventLoop Driver) :
    R loop.deamon (finalState (trigger.run loop)).deamon := by
  have hadvertised := h.advertise true loop.deamon
  rw [trigger_run]
  split_ifs
  · exact h.refl _
  · cases hrun : (sendMulticastAdvertisement true).run loop.deamon with
    | error e deamon =>
        rw [hrun] at hadvertised
        exact hadvertised
    | ok a deamon =>
        rw [hrun] at hadvertised
        exact h.trans _ _ _ hadvertised (h.host deamon _ (moved_drawn deamon.host))

section Passes

variable (hrenew : ∀ deamon answers, R deamon { deamon with host := deamon.host.renew answers })

include hrenew

omit [RoutingTableDriver Driver] in
theorem resumes {answers : Answers} {deamon deamon' : RipDeamon Driver}
    (hresumes : Resumes answers deamon deamon') : R deamon deamon' := by
  obtain ⟨database, horder, rfl⟩ := hresumes
  have hreordered := h.database deamon database (.reordered horder)
  exact h.trans _ _ _ hreordered (hrenew _ answers)

theorem pass {loop : EventLoop Driver} {label : Answers × LoopEvent}
    {res : EStateM.Result RipError (EventLoop Driver) Control} (hpass : Pass loop label res) :
    R loop.deamon (finalState res).deamon := by
  cases hpass with
  | @ended deamon₀ _ hready hresumes hselect hends =>
      have hselected := h.select label.2 { loop with deamon := deamon₀ }
      rw [hselect] at hselected
      exact h.trans _ _ _ (h.resumes hrenew hresumes) hselected
  | @triggered deamon₀ selected database hready hresumes hselect horder =>
      have hselected := h.select label.2 { loop with deamon := deamon₀ }
      rw [hselect] at hselected
      have hreordered := h.database selected.deamon database (.reordered horder)
      have htriggered := h.trigger { selected with deamon := { selected.deamon with database } }
      refine h.trans _ _ _ (h.resumes hrenew hresumes) (h.trans _ _ _ hselected ?_)
      exact h.trans _ _ _ hreordered htriggered

theorem run {loop loop' : EventLoop Driver} {labels : List (Answers × LoopEvent)}
    (hrun : Run LoopStep loop labels loop') : R loop.deamon loop'.deamon := by
  induction hrun with
  | nil => exact h.refl _
  | snoc _ hstep ih => exact h.trans _ _ _ ih (h.pass hrenew hstep)

end Passes

end Kept

end RipV2.HandlerRules
